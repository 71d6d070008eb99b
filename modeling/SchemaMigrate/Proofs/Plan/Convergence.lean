import Mathlib.Data.List.Basic
import SchemaMigrate.Proofs.Plan.Settled

/-!
Convergence of planning. Once the steps of a plan have been carried out on the schema they were planned
for, a second plan has no steps left and reports the same extras; and a model plans nothing against
itself.

The proof takes a plan in two stretches. The tables it creates are bare versions of the model's, so the
change steps planned for the old schema are those planned for the new one; and the change steps, carried
out, leave every table settled.
-/

namespace SchemaMigrate

/-- Every table of the model is live. -/
def Database.Covers (db target : Database) : Prop :=
  ∀ table ∈ target.tables.items, ∃ live, db.table? table.name = some live

namespace Plan

section Phases

variable (target db : Database)

/-- The steps behind the creation of tables, phase by phase. -/
def changeSteps : List Step :=
  columnSteps target db ++ foreignKeySteps target db ++ indexSteps target db

theorem steps_between :
    (between target db).steps = tableSteps target db ++ changeSteps target db := by
  simp [between, changeSteps]

/-- The column steps of one table of the model; none where the table is not live. -/
def columnStepsOf (table : Table) : List Step :=
  (db.table? table.name).elim [] fun live =>
    table.fields.filterMap fun field => (decideColumn live field).step? table.name field

theorem columnSteps_eq :
    columnSteps target db = target.tables.items.flatMap (columnStepsOf db) := by
  rw [columnSteps, sharedTables]
  induction target.tables.items with
  | nil => rfl
  | cons table tables ih =>
      rw [List.filterMap_cons, List.flatMap_cons, ← ih, columnStepsOf]
      cases db.table? table.name <;> rfl

def foreignKeyStepsOf (table : Table) : List Step :=
  table.foreignKeys.filterMap fun key =>
    (decideKey target (liveKeys db table) key).step? table.name key

def indexStepsOf (table : Table) : List Step :=
  table.indexes.filterMap fun index =>
    if (liveIndexes db table).any (sameIndex index) then none else some (.addIndex table.name index)

theorem foreignKeySteps_eq :
    foreignKeySteps target db = target.tables.items.flatMap (foreignKeyStepsOf target db) := rfl

theorem indexSteps_eq :
    indexSteps target db = target.tables.items.flatMap (indexStepsOf db) := rfl

variable {target db}

/-- The steps of one table, taken from the three phases, are its change steps. -/
theorem stepsOf_live {table live : Table} (hlive : db.table? table.name = some live) :
    columnStepsOf db table ++ foreignKeyStepsOf target db table ++ indexStepsOf db table =
      changesOf target table live := by
  rw [columnStepsOf, foreignKeyStepsOf, indexStepsOf, liveKeys, liveIndexes, hlive]
  rfl

/-- Every step of the three phases changes the table it was made for. -/
def ChangesTable (table : Table) (step : Step) : Prop :=
  step.table = table.name ∧ step.action ≠ .createTable

theorem columnStepsOf_changes (table : Table) :
    ∀ step ∈ columnStepsOf db table, ChangesTable table step := by
  intro step hmem
  unfold columnStepsOf at hmem
  cases hlive : db.table? table.name with
  | none =>
      rw [hlive] at hmem
      cases hmem
  | some live =>
      rw [hlive, Option.elim_some, List.mem_filterMap] at hmem
      obtain ⟨field, _, hstep⟩ := hmem
      cases hdecision : decideColumn live field <;> rw [hdecision] at hstep <;> cases hstep <;>
        exact ⟨rfl, nofun⟩

theorem foreignKeyStepsOf_changes (table : Table) :
    ∀ step ∈ foreignKeyStepsOf target db table, ChangesTable table step := by
  intro step hmem
  obtain ⟨key, _, hstep⟩ := List.mem_filterMap.1 hmem
  cases hdecision : decideKey target (liveKeys db table) key <;> rw [hdecision] at hstep <;>
    cases hstep
  exact ⟨rfl, nofun⟩

theorem indexStepsOf_changes (table : Table) :
    ∀ step ∈ indexStepsOf db table, ChangesTable table step := by
  intro step hmem
  obtain ⟨index, _, hstep⟩ := List.mem_filterMap.1 hmem
  split at hstep <;> cases hstep
  exact ⟨rfl, nofun⟩

theorem changeSteps_create_nothing : ∀ step ∈ changeSteps target db, step.action ≠ .createTable := by
  intro step hmem
  rw [changeSteps, columnSteps_eq, foreignKeySteps_eq, indexSteps_eq] at hmem
  simp only [List.mem_append, List.mem_flatMap] at hmem
  rcases hmem with (⟨table, _, hstep⟩ | ⟨table, _, hstep⟩) | ⟨table, _, hstep⟩
  · exact (columnStepsOf_changes table step hstep).2
  · exact (foreignKeyStepsOf_changes table step hstep).2
  · exact (indexStepsOf_changes table step hstep).2

/-- Of steps that are made table by table, those that name a table are those of its version in the
model. -/
theorem filter_flatMap_named {tables : NameMap Table} {stepsOf : Table → List Step} {name : String}
    (hchanges : ∀ table, ∀ step ∈ stepsOf table, ChangesTable table step) :
    (tables.items.flatMap stepsOf).filter (fun step => sameName step.table name) =
      (tables.get? name).elim [] stepsOf := by
  have hof : ∀ table ∈ tables.items, (stepsOf table).filter (fun step => sameName step.table name) =
      if sameName table.name name then stepsOf table else [] := by
    intro table _
    split
    · apply List.filter_eq_self.2
      intro step hstep
      rwa [(hchanges table step hstep).1]
    · apply List.filter_eq_nil_iff.2
      intro step hstep
      rwa [(hchanges table step hstep).1]
  have hfiltered : tables.items.flatMap (fun table => if sameName table.name name then stepsOf table else []) =
      (tables.items.filter fun table => sameName table.name name).flatMap stepsOf := by
    induction tables.items with
    | nil => rfl
    | cons first rest ih =>
        rw [List.flatMap_cons, ih, List.filter_cons]
        split <;> rfl
  have hnamed : (tables.items.filter fun table => sameName table.name name) = (tables.get? name).toList :=
    filter_named tables.distinct name
  rw [List.filter_flatMap, List.flatMap_congr hof, hfiltered, hnamed]
  cases tables.get? name with
  | none => rfl
  | some table => exact List.append_nil _

/-- The change steps that name a table, where every table of the model is live. -/
theorem filter_changeSteps {live : Table} (hlive : live ∈ db.tables.items) :
    (changeSteps target db).filter (fun step => sameName step.table live.name) =
      (target.table? live.name).elim [] fun table => changesOf target table live := by
  rw [changeSteps, columnSteps_eq, foreignKeySteps_eq, indexSteps_eq, List.filter_append,
    List.filter_append, filter_flatMap_named columnStepsOf_changes,
    filter_flatMap_named foreignKeyStepsOf_changes, filter_flatMap_named indexStepsOf_changes]
  cases hfound : target.tables.get? live.name with
  | none => simp [Database.table?, hfound]
  | some table =>
      have hsame := NameMap.sameName_of_get? hfound
      have htable : db.table? table.name = some live :=
        NameMap.get?_eq_some_iff.2 ⟨hlive, sameName_symm hsame⟩
      simp only [Database.table?, hfound, Option.elim_some]
      exact stepsOf_live htable

theorem tableSteps_eq_nil (hcovers : db.Covers target) : tableSteps target db = [] := by
  rw [tableSteps, List.filterMap_eq_nil_iff]
  intro table hmem
  obtain ⟨live, hlive⟩ := hcovers table hmem
  have hhas : db.hasTable table.name = true := by
    rw [Database.hasTable, NameMap.contains]
    exact Option.isSome_of_eq_some hlive
  rw [hhas]
  rfl

theorem changeSteps_eq_nil
    (hdone : ∀ table ∈ target.tables.items, ∃ live, db.table? table.name = some live ∧
      changesOf target table live = []) : changeSteps target db = [] := by
  rw [changeSteps, columnSteps_eq, foreignKeySteps_eq, indexSteps_eq]
  simp only [List.append_eq_nil_iff, List.flatMap_eq_nil_iff, and_assoc]
  have hall : ∀ table ∈ target.tables.items, columnStepsOf db table = []
      ∧ foreignKeyStepsOf target db table = [] ∧ indexStepsOf db table = [] := by
    intro table hmem
    obtain ⟨live, hlive, hnil⟩ := hdone table hmem
    rw [← stepsOf_live hlive] at hnil
    simpa only [List.append_eq_nil_iff, and_assoc] using hnil
  exact ⟨fun table hmem => (hall table hmem).1, fun table hmem => (hall table hmem).2.1,
    fun table hmem => (hall table hmem).2.2⟩

end Phases

section Reports

variable (target db : Database)

/-- What is reported of the tables that are in the model too is reported live table by live table. -/
theorem flatMap_knownTables {α : Type} (reports : Table × Table → List α) :
    (knownTables target db).flatMap reports = db.tables.items.flatMap fun live =>
      (target.table? live.name).elim [] fun table => reports (table, live) := by
  rw [knownTables]
  induction db.tables.items with
  | nil => rfl
  | cons live tables ih =>
      rw [List.filterMap_cons, List.flatMap_cons, ← ih]
      cases target.table? live.name <;> rfl

theorem extraColumns_eq :
    extraColumns target db = db.tables.items.flatMap fun live =>
      (target.table? live.name).elim [] fun table => strangeFields table live :=
  flatMap_knownTables target db _

theorem extraIndexes_eq :
    extraIndexes target db = db.tables.items.flatMap fun live =>
      (target.table? live.name).elim [] fun table => strangeIndexes table live :=
  flatMap_knownTables target db _

end Reports

section Changing

variable (target db : Database)

/-- A live table after the change steps of the plan. -/
def advanced (live : Table) : Table :=
  (target.table? live.name).elim live fun table => settled target table live

@[simp] theorem name_advanced (live : Table) : (advanced target live).name = live.name := by
  unfold advanced
  cases target.table? live.name <;> rfl

/-- The schema after its change steps. -/
def changed : Database := db.afterAll (changeSteps target db)

variable {target db}

theorem items_changed :
    (changed target db).tables.items = db.tables.items.map (advanced target) := by
  rw [changed, Database.items_afterAll_changes changeSteps_create_nothing]
  apply List.map_congr_left
  intro live hlive
  rw [filter_changeSteps hlive, advanced]
  cases target.table? live.name with
  | none => rfl
  | some table => exact after_changesOf target table live

theorem table?_changed {table live : Table} (htable : table ∈ target.tables.items)
    (hlive : db.table? table.name = some live) :
    (changed target db).table? table.name = some (settled target table live) := by
  obtain ⟨hmem, hsame⟩ := NameMap.get?_eq_some_iff.1 hlive
  have hversion : target.table? live.name = some table :=
    NameMap.get?_eq_some_iff.2 ⟨htable, sameName_symm hsame⟩
  apply NameMap.get?_eq_some_iff.2
  constructor
  · rw [items_changed]
    refine List.mem_map.2 ⟨live, hmem, ?_⟩
    rw [advanced, hversion]
    rfl
  · exact hsame

/-- The change steps leave no step to a second plan. -/
theorem steps_changed (hcovers : db.Covers target)
    (hdistinct : ∀ table ∈ target.tables.items, table.DistinctFields) :
    (between target (changed target db)).steps = [] := by
  have hcovers' : (changed target db).Covers target := by
    intro table hmem
    obtain ⟨live, hlive⟩ := hcovers table hmem
    exact ⟨_, table?_changed hmem hlive⟩
  have hdone : changeSteps target (changed target db) = [] := by
    apply changeSteps_eq_nil
    intro table hmem
    obtain ⟨live, hlive⟩ := hcovers table hmem
    exact ⟨_, table?_changed hmem hlive, changesOf_settled target table live (hdistinct table hmem)⟩
  rw [steps_between, tableSteps_eq_nil hcovers', hdone]
  rfl

/-- The change steps do not change what is reported. -/
theorem extras_changed : (between target (changed target db)).extras = (between target db).extras := by
  have htables : extraTables target (changed target db) = extraTables target db := by
    rw [extraTables, extraTables, items_changed, List.filterMap_map]
    apply List.filterMap_congr
    intro live _
    simp
  have hcolumns : extraColumns target (changed target db) = extraColumns target db := by
    rw [extraColumns_eq, extraColumns_eq, items_changed, List.flatMap_map]
    apply List.flatMap_congr
    intro live _
    rw [name_advanced, advanced]
    cases target.table? live.name with
    | none => rfl
    | some table => exact strangeFields_settled target table live
  have hindexes : extraIndexes target (changed target db) = extraIndexes target db := by
    rw [extraIndexes_eq, extraIndexes_eq, items_changed, List.flatMap_map]
    apply List.flatMap_congr
    intro live _
    rw [name_advanced, advanced]
    cases target.table? live.name with
    | none => rfl
    | some table => exact strangeIndexes_settled target table live
  simp only [between, htables, hcolumns, hindexes]

end Changing

section Creating

variable (target db : Database)

/-- A table as the plan creates it. -/
def bare (table : Table) : Table := { name := table.name, fields := table.fields }

/-- The tables of the model that are not live. -/
def missingTables : List Table :=
  target.tables.items.filter fun table => !db.hasTable table.name

/-- The schema once the missing tables are created. -/
def created : Database := db.afterAll (tableSteps target db)

theorem tableSteps_eq : tableSteps target db = (missingTables target db).map Step.createTable := by
  rw [tableSteps, missingTables]
  induction target.tables.items with
  | nil => rfl
  | cons table tables ih =>
      rw [List.filterMap_cons, List.filter_cons, ih]
      cases db.hasTable table.name <;> rfl

variable {target db}

theorem items_created :
    (created target db).tables.items = db.tables.items ++ (missingTables target db).map bare := by
  rw [created, tableSteps_eq, Database.items_afterAll_creates]
  · rw [List.map_map]
    rfl
  · intro step hmem
    obtain ⟨table, _, rfl⟩ := List.mem_map.1 hmem
    rfl
  · intro step hmem
    obtain ⟨table, hmissing, rfl⟩ := List.mem_map.1 hmem
    have hnot := (List.mem_filter.1 hmissing).2
    show db.hasTable table.name = false
    simpa using hnot
  · rw [List.map_map]
    exact target.tables.distinct.sublist (List.filter_sublist.map _)

theorem table?_created {table : Table} (htable : table ∈ target.tables.items) :
    (created target db).table? table.name = some ((db.table? table.name).getD (bare table)) := by
  apply NameMap.get?_eq_some_iff.2
  rw [items_created]
  cases hlive : db.table? table.name with
  | none =>
      refine ⟨List.mem_append_right _ (List.mem_map_of_mem ?_), sameName_refl _⟩
      rw [missingTables, List.mem_filter, Database.hasTable, NameMap.contains]
      rw [Database.table?] at hlive
      simp [htable, hlive]
  | some live =>
      obtain ⟨hmem, hsame⟩ := NameMap.get?_eq_some_iff.1 hlive
      exact ⟨List.mem_append_left _ hmem, hsame⟩

/-- A table with the fields of the model keeps every one of them. -/
theorem decideColumn_kept {table live : Table} (hfields : live.fields = table.fields)
    (hdistinct : table.DistinctFields) {field : Field} (hmem : field ∈ table.fields) :
    decideColumn live field = .keep := by
  have hfound : live.field? field.name = some field := by
    rw [Table.field?, hfields]
    exact Table.field?_self hdistinct hmem
  exact decideColumn_of_same hfound rfl

/-- A table with the fields of the model has its columns already. -/
theorem columns_kept {table live : Table} (hfields : live.fields = table.fields)
    (hdistinct : table.DistinctFields) :
    table.fields.filterMap (fun field => (decideColumn live field).step? table.name field) = [] := by
  rw [List.filterMap_eq_nil_iff]
  intro field hmem
  rw [decideColumn_kept hfields hdistinct hmem]
  rfl

/-- The change steps of the old schema are those of the new one. -/
theorem changeSteps_created
    (hdistinct : ∀ table ∈ target.tables.items, table.DistinctFields) :
    changeSteps target (created target db) = changeSteps target db := by
  have hcolumns : columnSteps target (created target db) = columnSteps target db := by
    rw [columnSteps_eq, columnSteps_eq]
    apply List.flatMap_congr
    intro table hmem
    rw [columnStepsOf, columnStepsOf, table?_created hmem]
    cases db.table? table.name with
    | none => exact columns_kept rfl (hdistinct table hmem)
    | some live => rfl
  have hkeys : foreignKeySteps target (created target db) = foreignKeySteps target db := by
    rw [foreignKeySteps_eq, foreignKeySteps_eq]
    apply List.flatMap_congr
    intro table hmem
    rw [foreignKeyStepsOf, foreignKeyStepsOf, liveKeys, liveKeys, table?_created hmem]
    cases db.table? table.name <;> rfl
  have hindexes : indexSteps target (created target db) = indexSteps target db := by
    rw [indexSteps_eq, indexSteps_eq]
    apply List.flatMap_congr
    intro table hmem
    rw [indexStepsOf, indexStepsOf, liveIndexes, liveIndexes, table?_created hmem]
    cases db.table? table.name <;> rfl
  rw [changeSteps, hcolumns, hkeys, hindexes, changeSteps]

/-- A table with the fields of the model has no others. -/
theorem strangeFields_eq_nil {table live : Table} (hfields : live.fields = table.fields) :
    strangeFields table live = [] := by
  rw [strangeFields, List.filterMap_eq_nil_iff]
  intro field hmem
  rw [hfields] at hmem
  rw [Table.hasField_of_mem hmem]
  rfl

/-- A created table adds nothing to the report. -/
theorem extras_created : (between target (created target db)).extras = (between target db).extras := by
  have hversion : ∀ table ∈ missingTables target db, target.table? (bare table).name = some table := by
    intro table hmem
    exact NameMap.get?_self (List.mem_of_mem_filter hmem)
  have htables : extraTables target (created target db) = extraTables target db := by
    rw [extraTables, extraTables, items_created, List.filterMap_append, List.append_right_eq_self,
      List.filterMap_map, List.filterMap_eq_nil_iff]
    intro table hmem
    have hhas : target.hasTable (bare table).name = true := by
      rw [Database.hasTable, NameMap.contains]
      exact Option.isSome_of_eq_some (hversion table hmem)
    rw [Function.comp_apply, hhas]
    rfl
  have hcolumns : extraColumns target (created target db) = extraColumns target db := by
    rw [extraColumns_eq, extraColumns_eq, items_created, List.flatMap_append,
      List.append_right_eq_self, List.flatMap_map, List.flatMap_eq_nil_iff]
    intro table hmem
    rw [hversion table hmem]
    exact strangeFields_eq_nil rfl
  have hindexes : extraIndexes target (created target db) = extraIndexes target db := by
    rw [extraIndexes_eq, extraIndexes_eq, items_created, List.flatMap_append,
      List.append_right_eq_self, List.flatMap_map, List.flatMap_eq_nil_iff]
    intro table hmem
    rw [hversion table hmem]
    rfl
  simp only [between, htables, hcolumns, hindexes]

end Creating

section Convergence

variable {target actual : Database}

theorem afterAll_between
    (hdistinct : ∀ table ∈ target.tables.items, table.DistinctFields) :
    actual.afterAll (between target actual).steps = changed target (created target actual) := by
  rw [steps_between, Database.afterAll_append, changed, changeSteps_created hdistinct]
  rfl

theorem covers_created : (created target actual).Covers target := by
  intro table hmem
  exact ⟨_, table?_created hmem⟩

theorem covers_self : target.Covers target := by
  intro table hmem
  exact ⟨table, NameMap.get?_self hmem⟩

/-- A table has no change steps against itself. -/
theorem changesOf_self {table : Table} (hdistinct : table.DistinctFields) :
    changesOf target table table = [] := by
  have hcolumns := columns_kept rfl hdistinct
  have hkeys : table.foreignKeys.filterMap (fun key =>
      (decideKey target table.foreignKeys key).step? table.name key) = [] := by
    rw [List.filterMap_eq_nil_iff]
    intro key hmem
    have hpresent : table.foreignKeys.any (sameForeignKey key) = true :=
      List.any_eq_true.2 ⟨key, hmem, sameForeignKey_refl key⟩
    rw [decideKey, hpresent]
    rfl
  have hindexes : table.indexes.filterMap (fun index =>
      if table.indexes.any (sameIndex index) then none
      else some (Step.addIndex table.name index)) = [] := by
    rw [List.filterMap_eq_nil_iff]
    intro index hmem
    have hpresent : table.indexes.any (sameIndex index) = true :=
      List.any_eq_true.2 ⟨index, hmem, sameIndex_refl index⟩
    rw [hpresent]
    rfl
  rw [changesOf, hcolumns, hkeys, hindexes]
  rfl

theorem strangeIndexes_self (table : Table) : strangeIndexes table table = [] := by
  rw [strangeIndexes, List.filterMap_eq_nil_iff]
  intro index hmem
  have hexpected : (expectedIndexes table).any (sameIndex index) = true :=
    List.any_eq_true.2 ⟨index, List.mem_append_left _ hmem, sameIndex_refl index⟩
  rw [hexpected]
  rfl

/-- A model has nothing that it does not know itself. -/
theorem extras_self : (between target target).extras = {} := by
  have hversion : ∀ table ∈ target.tables.items, target.table? table.name = some table := by
    intro table hmem
    exact NameMap.get?_self hmem
  have htables : extraTables target target = [] := by
    rw [extraTables, List.filterMap_eq_nil_iff]
    intro table hmem
    have hhas : target.hasTable table.name = true := NameMap.contains_of_mem hmem
    rw [hhas]
    rfl
  have hcolumns : extraColumns target target = [] := by
    rw [extraColumns_eq, List.flatMap_eq_nil_iff]
    intro table hmem
    rw [hversion table hmem]
    exact strangeFields_eq_nil rfl
  have hindexes : extraIndexes target target = [] := by
    rw [extraIndexes_eq, List.flatMap_eq_nil_iff]
    intro table hmem
    rw [hversion table hmem]
    exact strangeIndexes_self table
  simp only [between, htables, hcolumns, hindexes]

/-- Planning converges: once the steps of a plan are carried out, a second plan has no steps and the
extras of the first; and a model against itself has neither steps nor extras. -/
theorem between_converges (hdistinct : ∀ table ∈ target.tables.items, table.DistinctFields) :
    (between target (actual.afterAll (between target actual).steps)).steps = []
      ∧ (between target (actual.afterAll (between target actual).steps)).extras =
        (between target actual).extras
      ∧ between target target = {} := by
  rw [afterAll_between hdistinct]
  refine ⟨steps_changed covers_created hdistinct, extras_changed.trans extras_created, ?_⟩
  have hsteps : (between target target).steps = [] := by
    rw [steps_between, tableSteps_eq_nil covers_self, List.nil_append]
    apply changeSteps_eq_nil
    intro table hmem
    exact ⟨table, NameMap.get?_self hmem, changesOf_self (hdistinct table hmem)⟩
  have hextras : (between target target).extras = {} := extras_self
  generalize between target target = plan at hsteps hextras
  cases plan
  simp_all

/-- A shop's model: orders refer to customers, through a column that is indexed by declaration too, and
to stores that the model does not hold. -/
def shopModel : Database where
  tables :=
    { items :=
        [{ name := "Customer"
           fields :=
             [{ name := "CustomerID", type := { name := "integer" }, primaryKey := true },
              { name := "Email", type := { name := "varchar", precision := some 100 } },
              { name := "Balance", type := { name := "numeric", precision := some 10, scale := some 2 } }]
           indexes := [{ fields := ["Email"], unique := true }] },
         { name := "Order"
           fields :=
             [{ name := "OrderID", type := { name := "integer" }, primaryKey := true },
              { name := "CustomerID", type := { name := "integer" } },
              { name := "StoreID", type := { name := "integer" } }]
           foreignKeys :=
             [{ column := "CustomerID", target := "Customer", targetColumn := "CustomerID" },
              { column := "StoreID", target := "Store", targetColumn := "StoreID" }]
           indexes := [{ fields := ["CustomerID"] }] }]
      distinct := by decide }

/-- A live shop with shorter columns, a column of its own, and a table that the model does not know. -/
def shopLive : Database where
  tables :=
    { items :=
        [{ name := "customer"
           fields :=
             [{ name := "customerid", type := { name := "integer" }, primaryKey := true },
              { name := "email", type := { name := "varchar", precision := some 50 } },
              { name := "Nickname", type := { name := "varchar", precision := some 20 } }]
           indexes := [{ fields := ["Nickname"], name := some "IX_nick" }] },
         { name := "Audit" }]
      distinct := by decide }

theorem between_converges_shop :
    (∀ table ∈ shopModel.tables.items, table.DistinctFields)
      ∧ (between shopModel shopLive).steps.length = 6
      ∧ (between shopModel (shopLive.afterAll (between shopModel shopLive).steps)).steps = []
      ∧ (between shopModel (shopLive.afterAll (between shopModel shopLive).steps)).extras =
        (between shopModel shopLive).extras
      ∧ between shopModel shopModel = {} :=
  ⟨by decide, by decide +kernel, between_converges (by decide)⟩

end Convergence

end Plan

end SchemaMigrate
