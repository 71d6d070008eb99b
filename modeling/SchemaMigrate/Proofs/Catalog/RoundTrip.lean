import SchemaMigrate.Catalog.Listing
import SchemaMigrate.Proofs.Catalog.Description
import SchemaMigrate.Proofs.Model.WellBuilt

/-!
The way from a model to a database and back. Main statement: if a database is built from a compiled model
and the catalog describes what was built, then what is read from it calls for no step and holds nothing
that the model does not know.
-/

namespace SchemaMigrate

namespace Plan

variable {target : Database}

/-- The schema that a plan builds where there is none yet. -/
def built (target : Database) : Database := Database.afterAll {} (between target {}).steps

/-- A column that is kept is not touched. -/
theorem settle_kept {live : Table} {wanted fields : List Field}
    (hkept : ∀ field ∈ wanted, decideColumn live field = .keep) : wanted.foldl (settleField live) fields = fields := by
  induction wanted with
  | nil => rfl
  | cons field wanted ih =>
      obtain ⟨hfield, hwanted⟩ := List.forall_mem_cons.1 hkept
      rw [List.foldl_cons, settleField, hfield]
      exact ih hwanted

/-- A table is built under its name and with its fields. -/
theorem mem_built (hdistinct : ∀ table ∈ target.tables.items, table.DistinctFields) {table : Table}
    (hmem : table ∈ (built target).tables.items) :
    ∃ model ∈ target.tables.items, table.name = model.name ∧ table.fields = model.fields := by
  rw [built, afterAll_between hdistinct, items_changed, items_created] at hmem
  obtain ⟨created, hcreated, rfl⟩ := List.mem_map.1 hmem
  obtain ⟨model, hmissing, rfl⟩ := List.mem_map.1 hcreated
  have hmodel := List.mem_of_mem_filter hmissing
  have hfound : target.table? (bare model).name = some model := NameMap.get?_self hmodel
  refine ⟨model, hmodel, name_advanced target (bare model), ?_⟩
  rw [advanced, hfound]
  exact settle_kept fun field hfield => decideColumn_kept rfl (hdistinct model hmodel) hfield

/-- What is built from a model calls for nothing. -/
theorem between_built (hdistinct : ∀ table ∈ target.tables.items, table.DistinctFields) :
    (between target (built target)).steps = [] ∧ (between target (built target)).extras = {} := by
  have hempty : (between target {}).extras = {} := rfl
  rw [built, afterAll_between hdistinct, ← hempty]
  exact ⟨steps_changed covers_created hdistinct, extras_changed.trans extras_created⟩

end Plan

namespace Catalog

/-- A database that is built from a model is read back as the model: where the catalog describes what the plan
for an empty database builds, introspection succeeds, and a plan for what it reads has neither steps nor
extras. -/
theorem introspect_built {target : Database} (htarget : Model.Compiled target)
    (hregistered : ∀ table ∈ target.tables.items, ∀ field ∈ table.fields, Registered field.type)
    (hsystem : ∀ table ∈ target.tables.items, table.name ∉ systemTables) {source : Source} {schema : String}
    (hdescribed : source.Describes schema (Database.afterAll {} (Plan.between target {}).steps))
    (log : List Query) :
    ∃ live, ((introspect source schema).run.run log).1 = .ok live ∧ Plan.between target live = {} := by
  have hwell : Model.WellBuilt target := htarget.invariant
    (Model.wellBuilt_of (List.forall_mem_nil _) (List.forall_mem_nil _)) fun hdb hblock => hdb.commit hblock
  have hdistinct : ∀ table ∈ target.tables.items, table.DistinctFields := fun table htable =>
    (hwell.tables table htable).fitting.fieldsDistinct
  have htypes : ∀ table ∈ (Plan.built target).tables.items, ∀ field ∈ table.fields, Registered field.type := by
    intro table hmem field hfield
    obtain ⟨model, hmodel, -, hfields⟩ := Plan.mem_built hdistinct hmem
    exact hregistered model hmodel field (hfields ▸ hfield)
  have hnames : ∀ table ∈ (Plan.built target).tables.items, table.name ∉ systemTables := by
    intro table hmem
    obtain ⟨model, hmodel, hname, -⟩ := Plan.mem_built hdistinct hmem
    exact hname ▸ hsystem model hmodel
  obtain ⟨live, hlive, halike⟩ := introspect_described hdescribed htypes hnames log
  refine ⟨live, hlive, ?_⟩
  obtain ⟨hsteps, hextras⟩ := Plan.between_built hdistinct
  have hsteps : (Plan.between target live).steps = [] := (Plan.steps_congr halike).trans hsteps
  have hextras : (Plan.between target live).extras = {} := Plan.extras_congr halike hextras
  generalize Plan.between target live = plan at hsteps hextras
  cases plan
  simp_all

section Listings

/-- A listing that does not fail answers with its rows. -/
theorem answers_listing {listing : Listing} (h : listing.failure = none) (schema table : String) :
    listing.source.Answers schema table (listing.rows schema table) := by
  have hanswer {α : Type} (query : Query) (rows : α) : listing.answer query rows = .ok rows := by
    rw [Listing.answer, h]
  exact ⟨hanswer _ _, hanswer _ _, hanswer _ _, hanswer _ _⟩

/-- A listing describes a schema if its tables are those of the schema and their rows describe them. -/
theorem describes_listing {listing : Listing} {schema : String} {db : Database} (h : listing.failure = none)
    (htables : ((listing.tables.filter (·.schema == schema)).map (·.name)).Perm (db.tables.items.map (·.name)))
    (hrows : ∀ table ∈ db.tables.items, (listing.rows schema table.name).Describes table) :
    listing.source.Describes schema db where
  tables := by
    refine ⟨_, ?_, htables⟩
    change listing.answer _ _ = _
    rw [Listing.answer, h]
  rows table hmem := ⟨_, answers_listing h schema table.name, hrows table hmem⟩

/-- Orders of clients, and of stores that the model does not hold. -/
def orderFiles : List Model.Source :=
  [{ name := "order.dmd"
     text := "model Client guid \x7b\n  text Note\n\x7d\n"
      ++ "model Order \x7b\n  model Client\n  model Store\n  decimal Total\n  index (Client) @unique\n\x7d\n" }]

/-- What the catalog answers once the orders are built. -/
def orderListing : Listing where
  tables :=
    [{ name := "Order"
       rows :=
        { columns :=
            [{ name := "OrderID", type := "integer", numericPrecision := some 32, identity := "YES" },
             { name := "ClientID", type := "integer", numericPrecision := some 32 },
             { name := "StoreID", type := "integer", numericPrecision := some 32 },
             { name := "Total", type := "numeric", numericPrecision := some 18, numericScale := some 0 }]
          primaryKey := ["OrderID"]
          foreignKeys := [{ column := "ClientID", target := "Client", targetColumn := "ClientID" }]
          indexes :=
            [{ name := "IX_Order_ClientID", columns := ["ClientID"], unique := true },
             { name := "IX_Order_ClientID_FK", columns := ["ClientID"] }] } },
     { name := "Client"
       rows :=
        { columns := [{ name := "ClientID", type := "uuid" }, { name := "Note", type := "character varying" }]
          primaryKey := ["ClientID"] } }]

/-- The declarations behind the columns. -/
def orderTypes : List ColumnType :=
  [{ name := "guid" }, { name := "text" }, { name := "int" }, { name := "decimal" }]

theorem introspect_built_orders :
    let target := (Model.compile {} orderFiles).schema
    (Model.compile {} orderFiles).error = none ∧ (Plan.between target {}).steps.length = 4
    ∧ ∃ live, ((introspect orderListing.source defaultSchema).run.run []).1 = .ok live
      ∧ Plan.between target live = {} := by
  have hcompiled : Model.Compiled (Model.compile {} orderFiles).schema := .batch .empty orderFiles
  generalize hcompilation : Model.compile {} orderFiles = compilation at hcompiled ⊢
  -- all that has to be computed is computed at once, since each computation compiles the files
  have hfacts : compilation.error = none ∧ (Plan.between compilation.schema {}).steps.length = 4
      ∧ (∀ table ∈ compilation.schema.tables.items, ∀ field ∈ table.fields, ∃ declared ∈ orderTypes,
        (modelType? declared.name).isSome = true ∧ ColumnType.ofDeclared declared = .ok field.type)
      ∧ (∀ table ∈ compilation.schema.tables.items, table.name ∉ systemTables)
      ∧ ((orderListing.tables.filter (·.schema == defaultSchema)).map (·.name)).Perm
        ((Plan.built compilation.schema).tables.items.map (·.name))
      ∧ ∀ table ∈ (Plan.built compilation.schema).tables.items,
        (orderListing.rows defaultSchema table.name).Describes table := by
    rw [← hcompilation]
    decide +kernel
  obtain ⟨hsucceeds, hsteps, hdeclared, hsystem, hnames, hrows⟩ := hfacts
  refine ⟨hsucceeds, hsteps, introspect_built hcompiled (fun table hmem field hfield => ?_) hsystem
    (describes_listing rfl hnames hrows) []⟩
  obtain ⟨declared, -, hregistered⟩ := hdeclared table hmem field hfield
  exact ⟨declared, hregistered⟩

end Listings

end Catalog

end SchemaMigrate
