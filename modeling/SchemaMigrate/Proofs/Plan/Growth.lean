import SchemaMigrate.Proofs.Model.Growth
import SchemaMigrate.Proofs.Plan.Likeness
import SchemaMigrate.Proofs.Plan.Scope

/-!
Plans between two ages of one schema. Since tables and fields only come and fields keep their types, the
plan from the old schema to the new one creates the new tables, adds to each old table the fields it has
gained, resizes nothing, and finds nothing in the old schema that the new one has not.
-/

namespace SchemaMigrate.Plan

open Model (Compiled Grown Grows GrownTable Kept Linked gained)

/-- What the plan from an old schema to a new one does about tables and columns if it only adds. -/
structure Additive (new old : Database) : Prop where
  resizes : (between new old).stepsFor .alterColumn = []
  extraTables : (between new old).extras.tables = []
  extraColumns : (between new old).extras.columns = []
  /-- Of the fields of the new version, the first ones are those of the old table and the others are added. -/
  columns : ∀ table ∈ old.tables.items, ∃ grown kept,
    new.table? table.name = some grown ∧ grown.name = table.name ∧
      grown.fields = kept ++ gained table grown ∧ List.Forall₂ Kept table.fields kept ∧
      ((between new old).stepsFor .addColumn).filter (fun step => sameName step.table table.name) =
        (gained table grown).map (Step.addColumn table.name)
  /-- No column is added to any other table. -/
  owned : ∀ step ∈ (between new old).stepsFor .addColumn, ∃ table ∈ old.tables.items, step.table = table.name
  creates : (between new old).stepsFor .createTable =
    (new.tables.items.filter fun table => !old.hasTable table.name).map Step.createTable

section Actions

variable {target actual : Database}

theorem action_tableSteps : ∀ step ∈ tableSteps target actual, step.action = .createTable := by
  intro step hmem
  obtain ⟨table, -, -, rfl⟩ := mem_tableSteps hmem
  rfl

theorem action_foreignKeySteps : ∀ step ∈ foreignKeySteps target actual, step.action = .addForeignKey := by
  intro step hmem
  obtain ⟨table, -, key, -, -, rfl⟩ := mem_foreignKeySteps hmem
  rfl

theorem action_indexSteps : ∀ step ∈ indexSteps target actual, step.action = .addIndex := by
  intro step hmem
  obtain ⟨table, -, index, rfl⟩ := mem_indexSteps hmem
  rfl

/-- Steps of one action are none of another. -/
theorem filter_action_eq_nil {steps : List Step} {action other : Action} (h : ∀ step ∈ steps, step.action = action)
    (hother : action ≠ other) : steps.filter (·.action == other) = [] := by
  rw [List.filter_eq_nil_iff]
  intro step hmem
  rw [h step hmem, beq_iff_eq]
  exact hother

theorem stepsFor_createTable : (between target actual).stepsFor .createTable = tableSteps target actual := by
  have hchanges : (changeSteps target actual).filter (·.action == .createTable) = [] := by
    rw [List.filter_eq_nil_iff]
    intro step hmem
    rw [beq_iff_eq]
    exact changeSteps_create_nothing step hmem
  rw [stepsFor, steps_between, List.filter_append, hchanges, List.append_nil, List.filter_eq_self]
  intro step hmem
  rw [action_tableSteps step hmem]
  rfl

/-- The steps that add or resize columns are those of their phase. -/
theorem stepsFor_columns {action : Action} (h : action = .addColumn ∨ action = .alterColumn) :
    (between target actual).stepsFor action = (columnSteps target actual).filter (·.action == action) := by
  simp only [stepsFor, between, List.filter_append]
  rw [filter_action_eq_nil action_tableSteps, filter_action_eq_nil action_foreignKeySteps,
    filter_action_eq_nil action_indexSteps, List.nil_append, List.append_nil, List.append_nil]
  all_goals
    rcases h with rfl | rfl
    · decide
    · decide

end Actions

section Columns

variable {new old : Database} {table grown : Table}

/-- A field that was kept stays as it is, and any other is new. -/
theorem decideColumn_grown (hgrown : GrownTable table grown) (htable : table.DistinctFields)
    (hdistinct : grown.DistinctFields) {field : Field} (hmem : field ∈ grown.fields) :
    decideColumn table field = if table.hasField field.name then .keep else .add := by
  obtain ⟨kept, hfields, hkept⟩ := hgrown.append_gained hdistinct
  rw [hfields, List.mem_append] at hmem
  rcases hmem with hmem | hmem
  · obtain ⟨before, hbefore, hfield⟩ := exists_of_forall₂ hkept hmem
    have hfound : table.field? field.name = some before := by
      rw [hfield.name]
      exact Table.field?_self htable hbefore
    rw [Table.hasField, hfound]
    exact decideColumn_of_same hfound hfield.type
  · have hmissing : table.hasField field.name = false := by simpa using (List.mem_filter.1 hmem).2
    have hfound : table.field? field.name = none := by simpa [Table.hasField] using hmissing
    rw [hmissing]
    exact decideColumn_eq_iff.2 (.add hfound)

/-- The column steps of a table are its gains, in order. -/
theorem columnStepsOf_grown (hgrown : GrownTable table grown) (hold : old.table? grown.name = some table)
    (htable : table.DistinctFields) (hdistinct : grown.DistinctFields) :
    columnStepsOf old grown = (gained table grown).map (Step.addColumn grown.name) := by
  have hfield : ∀ field ∈ grown.fields, (decideColumn table field).step? grown.name field =
      if !table.hasField field.name then some (Step.addColumn grown.name field) else none := by
    intro field hmem
    rw [decideColumn_grown hgrown htable hdistinct hmem]
    cases table.hasField field.name <;> rfl
  rw [columnStepsOf, hold, Option.elim_some, List.filterMap_congr hfield, gained]
  rw [← List.filterMap_eq_map, ← List.filterMap_eq_filter, List.filterMap_filterMap]
  refine List.filterMap_congr fun field _ => ?_
  cases hknown : table.hasField field.name <;> simp [Option.guard, hknown]

/-- What the column steps of a plan between two ages of a schema are. -/
theorem columnSteps_grown (hold : Linked old) (hnew : Linked new) (hgrows : Grows old new) :
    ∀ table ∈ old.tables.items, ∃ grown, new.table? table.name = some grown ∧ GrownTable table grown ∧
      columnStepsOf old grown = (gained table grown).map (Step.addColumn table.name) := by
  intro table hmem
  obtain ⟨grown, hfound, hgrown⟩ := hgrows table hmem
  have hback : old.table? grown.name = some table := by
    rw [hgrown.name]
    exact (Database.table?_eq_some_iff_of_mem hmem).2 rfl
  refine ⟨grown, hfound, hgrown, ?_⟩
  rw [columnStepsOf_grown hgrown hback (hold.tables table hmem).fitting.fieldsDistinct
    (hnew.tables grown (Database.mem_tables_of_table? hfound)).fitting.fieldsDistinct, hgrown.name]

/-- Every column step adds a column that some old table has gained. -/
theorem mem_columnSteps_grown (hold : Linked old) (hnew : Linked new) (hgrows : Grows old new) {step : Step}
    (hmem : step ∈ columnSteps new old) :
    ∃ table ∈ old.tables.items, ∃ field, step = .addColumn table.name field := by
  obtain ⟨grown, hgrown, table, hlive, field, hfield, hstep⟩ := mem_columnSteps hmem
  have htable := Database.mem_tables_of_table? hlive
  obtain ⟨version, hfound, hversion⟩ := hgrows table htable
  -- both are the table of the new schema that bears the old table's name
  have hnamed := sameName_iff.1 (Database.sameName_of_table? hlive)
  rw [(Database.table?_eq_some_iff_of_mem hgrown).2 hnamed, Option.some.injEq] at hfound
  subst hfound
  rw [decideColumn_grown hversion (hold.tables table htable).fitting.fieldsDistinct
    (hnew.tables grown hgrown).fitting.fieldsDistinct hfield] at hstep
  split at hstep
  · cases hstep
  · cases hstep
    exact ⟨table, htable, field, by rw [hversion.name]⟩

/-- A table of the old schema is in the new one. -/
theorem hasTable_grown (hgrows : Grows old new) {table : Table} (hmem : table ∈ old.tables.items) :
    new.hasTable table.name = true := by
  obtain ⟨grown, hfound, -⟩ := hgrows table hmem
  exact Option.isSome_of_eq_some hfound

theorem extraTables_grown (hgrows : Grows old new) : extraTables new old = [] := by
  rw [extraTables, List.filterMap_eq_nil_iff]
  intro table hmem
  rw [hasTable_grown hgrows hmem, if_pos rfl]

theorem extraColumns_grown (hgrows : Grows old new) : extraColumns new old = [] := by
  rw [extraColumns_eq, List.flatMap_eq_nil_iff]
  intro table hmem
  obtain ⟨grown, hfound, hgrown⟩ := hgrows table hmem
  obtain ⟨kept, added, hfields, hkept⟩ := hgrown.fields
  rw [hfound, Option.elim_some, strangeFields_eq_nil_iff]
  intro field hfield
  rw [Model.hasField_iff, hfields, List.map_append, Model.keys_of_kept hkept]
  exact List.mem_append_left _ (List.mem_map_of_mem hfield)

end Columns

section Growth

variable {old new : Database}

/-- A schema that has grown is planned by additions: nothing is resized, nothing is left over, each table
gets the fields it has gained, in order, and the tables that are new are created. -/
theorem between_grown (hold : Compiled old) (hgrown : Grown old new) : Additive new old := by
  have hlinked := hold.linked
  have hnew := (hgrown.compiled hold).linked
  have hgrows := hgrown.grows
  have hadds : ∀ step ∈ columnSteps new old, step.action = .addColumn := by
    intro step hmem
    obtain ⟨table, -, field, rfl⟩ := mem_columnSteps_grown hlinked hnew hgrows hmem
    rfl
  have hcolumns : (between new old).stepsFor .addColumn = columnSteps new old := by
    rw [stepsFor_columns (.inl rfl), List.filter_eq_self]
    intro step hmem
    rw [hadds step hmem]
    rfl
  constructor
  case resizes => rw [stepsFor_columns (.inr rfl), filter_action_eq_nil hadds (by decide)]
  case extraTables => exact extraTables_grown hgrows
  case extraColumns => exact extraColumns_grown hgrows
  case columns =>
    intro table hmem
    obtain ⟨grown, hfound, hversion, hsteps⟩ := columnSteps_grown hlinked hnew hgrows table hmem
    have hdistinct := (hnew.tables grown (Database.mem_tables_of_table? hfound)).fitting.fieldsDistinct
    obtain ⟨kept, hfields, hkept⟩ := hversion.append_gained hdistinct
    have hlookup : new.tables.get? table.name = some grown := hfound
    refine ⟨grown, kept, hfound, hversion.name, hfields, hkept, ?_⟩
    rw [hcolumns, columnSteps_eq, filter_flatMap_named columnStepsOf_changes, hlookup]
    exact hsteps
  case owned =>
    intro step hmem
    rw [hcolumns] at hmem
    obtain ⟨table, htable, field, rfl⟩ := mem_columnSteps_grown hlinked hnew hgrows hmem
    exact ⟨table, htable, rfl⟩
  case creates => rw [stepsFor_createTable, tableSteps_eq, missingTables]

/-- A table of clients. -/
def clientFiles : List Model.Source :=
  [{ name := "client.dmd", text := "model Client \x7b\n  string(40) Name\n\x7d\n" }]

/-- Clients gain a balance, lose the numbering of their key, and are referred to. -/
def clientOrderFiles : List Model.Source :=
  [{ name := "order.dmd"
     text := "model Order \x7b\n  model Client\n\x7d\n" ++
       "extends Client \x7b\n  decimal(10, 2) Balance\n  @NoIdentity\n\x7d\n" }]

/-- Clients gain a number before the batch fails. -/
def clientPhoneFiles : List Model.Source :=
  [{ name := "phone.dmd"
     text := "extends client \x7b\n  string(20) Phone\n\x7d\n" ++ "extends Nobody \x7b\n\x7d\n" }]

/-- The schema of the clients. -/
def clients : Database := (Model.compile {} clientFiles).schema

/-- The schema of the clients after two more batches. -/
def clientsGrown : Database := (Model.compile (Model.compile clients clientOrderFiles).schema clientPhoneFiles).schema

theorem between_grown_clients :
    Compiled clients ∧ Grown clients clientsGrown ∧
      (Model.compile (Model.compile clients clientOrderFiles).schema clientPhoneFiles).error ≠ none ∧
      Additive clientsGrown clients ∧
      (between clientsGrown clients).steps.map Step.describe =
        ["CreateTable Order (OrderID, ClientID)", "AddColumn Client (Balance)", "AddColumn Client (Phone)",
          "AddForeignKey Order (ClientID -> Client.ClientID)"] := by
  have hclients : Compiled clients := .batch .empty clientFiles
  have hgrown : Grown clients clientsGrown := .batch (.batch .same clientOrderFiles) clientPhoneFiles
  exact ⟨hclients, hgrown, by decide +kernel, between_grown hclients hgrown, by decide +kernel⟩

end Growth

end SchemaMigrate.Plan
