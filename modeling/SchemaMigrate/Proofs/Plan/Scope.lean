import SchemaMigrate.Proofs.Model.Links
import SchemaMigrate.Proofs.Plan.Convergence

/-!
The scope of a plan. Main statement: if the model is compiled, every step of a plan finds what it needs,
either in the live schema or among what the steps before it introduced, and nothing is introduced that is
there already.

The tables and columns of the model are all known once the first two phases are through. That a foreign
key then finds the column it points at is a fact about compiled models.
-/

namespace SchemaMigrate

/-- What a schema consists of, under the keys of the names. -/
inductive Thing where
  | table (name : String)
  | column (table name : String)
  | foreignKey (table column target targetColumn : String)
deriving Repr, DecidableEq

namespace Thing

def ofTable (table : String) : Thing := .table (nameKey table)

def ofColumn (table column : String) : Thing := .column (nameKey table) (nameKey column)

def ofKey (table : String) (key : ForeignKey) : Thing :=
  .foreignKey (nameKey table) (nameKey key.column) (nameKey key.target) (nameKey key.targetColumn)

/-- The key of the table that a thing belongs to. -/
def owner : Thing → String
  | .table name => name
  | .column owner _ => owner
  | .foreignKey owner _ _ _ => owner

end Thing

def Table.things (table : Table) : List Thing :=
  .ofTable table.name :: table.fields.map (fun field => .ofColumn table.name field.name)
    ++ table.foreignKeys.map (.ofKey table.name)

def Database.things (db : Database) : List Thing := db.tables.items.flatMap Table.things

/-- What a step brings into the schema. -/
def Step.introduces (step : Step) : List Thing :=
  match step.action with
  | .createTable => .ofTable step.table :: step.fields.map fun field => .ofColumn step.table field.name
  | .addColumn => step.fields.map fun field => .ofColumn step.table field.name
  | .addForeignKey => step.foreignKey.toList.map (.ofKey step.table)
  | .alterColumn | .addIndex => []

/-- A step is in order after steps that introduced some things to the live schema. -/
inductive Scoped (actual : Database) (introduced : List Thing) : Step → Prop
  | createTable (table : Table)
      (hactual : Thing.ofTable table.name ∉ actual.things) (hnew : Thing.ofTable table.name ∉ introduced) :
      Scoped actual introduced (.createTable table)
  | addColumn (table : String) (field : Field) (htable : Thing.ofTable table ∈ actual.things)
      (hactual : Thing.ofColumn table field.name ∉ actual.things)
      (hnew : Thing.ofColumn table field.name ∉ introduced) :
      Scoped actual introduced (.addColumn table field)
  | alterColumn (table : String) (field : Field) (widening : Bool) (live : Table) (old : Field)
      (htable : actual.table? table = some live) (hcolumn : live.field? field.name = some old)
      (htype : sameName field.type.name old.type.name = true) :
      Scoped actual introduced (.alterColumn table field widening)
  | addForeignKey (table : String) (key : ForeignKey)
      (htable : Thing.ofTable table ∈ actual.things ++ introduced)
      (hcolumn : Thing.ofColumn table key.column ∈ actual.things ++ introduced)
      (htarget : Thing.ofTable key.target ∈ actual.things ++ introduced)
      (htargetColumn : Thing.ofColumn key.target key.targetColumn ∈ actual.things ++ introduced) :
      Scoped actual introduced (.addForeignKey table key)
  | addIndex (table : String) (index : Index) (htable : Thing.ofTable table ∈ actual.things ++ introduced) :
      Scoped actual introduced (.addIndex table index)

attribute [local irreducible] nameKey

section Things

variable {db : Database} {table live : Table} {name column : String}

theorem ofTable_congr {left right : String} (h : sameName left right = true) :
    Thing.ofTable left = Thing.ofTable right := by
  rw [Thing.ofTable, Thing.ofTable, sameName_iff.1 h]

theorem ofColumn_congr {left right : String} (h : sameName left right = true) (column : String) :
    Thing.ofColumn left column = Thing.ofColumn right column := by
  rw [Thing.ofColumn, Thing.ofColumn, sameName_iff.1 h]

theorem owner_things : ∀ thing ∈ table.things, thing.owner = keyOf table := by
  intro thing hmem
  simp only [Table.things, List.cons_append, List.mem_cons, List.mem_append, List.mem_map] at hmem
  rcases hmem with rfl | ⟨_, -, rfl⟩ | ⟨_, -, rfl⟩
  · rfl
  · rfl
  · rfl

theorem ofTable_mem_things : Thing.ofTable table.name ∈ table.things := List.mem_cons_self

theorem ofColumn_mem_things_iff :
    Thing.ofColumn table.name column ∈ table.things ↔ table.hasField column = true := by
  rw [Table.hasField, Table.field?, findNamed?, List.find?_isSome]
  simp only [Table.things, Thing.ofTable, Thing.ofColumn, Thing.ofKey, List.cons_append, List.mem_cons,
    List.mem_append, List.mem_map, reduceCtorEq, and_false, exists_false, or_false, false_or,
    Thing.column.injEq, true_and, sameName_iff, Named.name]

/-- A thing of the schema belongs to the table that bears the name of its owner. -/
theorem mem_things_iff {thing : Thing} (hlive : db.table? name = some live) (howner : thing.owner = nameKey name) :
    thing ∈ db.things ↔ thing ∈ live.things := by
  obtain ⟨hmem, hsame⟩ := NameMap.get?_eq_some_iff.1 hlive
  rw [Database.things, List.mem_flatMap]
  constructor
  · rintro ⟨other, hother, hthing⟩
    have hkeys : keyOf other = keyOf live := by
      rw [← owner_things thing hthing, howner]
      exact (sameName_iff.1 hsame).symm
    rwa [← NameMap.eq_of_sameName hother hmem (sameName_iff.2 hkeys)]
  · intro hthing
    exact ⟨live, hmem, hthing⟩

theorem ofTable_mem_database_iff : Thing.ofTable name ∈ db.things ↔ db.hasTable name = true := by
  rw [Database.hasTable, NameMap.contains_iff, Database.things, List.mem_flatMap]
  refine exists_congr fun table => and_congr_right fun _ => ?_
  constructor
  · intro hmem
    exact sameName_iff.2 (owner_things _ hmem).symm
  · intro hsame
    rw [← ofTable_congr hsame]
    exact ofTable_mem_things

theorem ofColumn_mem_database_iff (hlive : db.table? name = some live) :
    Thing.ofColumn name column ∈ db.things ↔ live.hasField column = true := by
  rw [mem_things_iff hlive rfl, ← ofColumn_congr (Database.sameName_of_table? hlive), ofColumn_mem_things_iff]

end Things

namespace Plan

variable {target actual : Database} {step : Step}

section Steps

theorem mem_tableSteps (hmem : step ∈ tableSteps target actual) :
    ∃ table ∈ target.tables.items, actual.hasTable table.name = false ∧ step = .createTable table := by
  rw [tableSteps_eq, List.mem_map] at hmem
  obtain ⟨table, hmissing, rfl⟩ := hmem
  obtain ⟨htable, hnot⟩ := List.mem_filter.1 hmissing
  exact ⟨table, htable, by simpa using hnot, rfl⟩

/-- A field is added if there is no such column, and resized only against one of its type. -/
theorem step?_decideColumn {live : Table} {table : String} {field : Field}
    (h : (decideColumn live field).step? table field = some step) :
    (live.hasField field.name = false ∧ step = .addColumn table field)
      ∨ ∃ old widening, live.field? field.name = some old ∧ sameName field.type.name old.type.name = true
        ∧ step = .alterColumn table field widening := by
  have hdecided := decided live field
  generalize decideColumn live field = decision at h hdecided
  cases hdecided with
  | add hmissing => exact .inl ⟨by rw [Table.hasField, hmissing]; rfl, (Option.some.inj h).symm⟩
  | keep => cases h
  | widen hold hsize => exact .inr ⟨_, true, hold, sameName_of_compareSize hsize, (Option.some.inj h).symm⟩
  | narrow hold hsize => exact .inr ⟨_, false, hold, sameName_of_compareSize hsize, (Option.some.inj h).symm⟩
  | hold => cases h

theorem mem_columnSteps (hmem : step ∈ columnSteps target actual) :
    ∃ table ∈ target.tables.items, ∃ live, actual.table? table.name = some live ∧ ∃ field ∈ table.fields,
      (decideColumn live field).step? table.name field = some step := by
  rw [columnSteps_eq, List.mem_flatMap] at hmem
  obtain ⟨table, htable, hmem⟩ := hmem
  unfold columnStepsOf at hmem
  cases hlive : actual.table? table.name with
  | none =>
      rw [hlive] at hmem
      cases hmem
  | some live =>
      rw [hlive, Option.elim_some, List.mem_filterMap] at hmem
      exact ⟨table, htable, live, hlive, hmem⟩

theorem mem_foreignKeySteps (hmem : step ∈ foreignKeySteps target actual) :
    ∃ table ∈ target.tables.items, ∃ key ∈ table.foreignKeys,
      target.hasTable key.target = true ∧ step = .addForeignKey table.name key := by
  rw [foreignKeySteps_eq, List.mem_flatMap] at hmem
  obtain ⟨table, htable, hmem⟩ := hmem
  obtain ⟨key, hkey, hstep⟩ := List.mem_filterMap.1 hmem
  cases hdecision : decideKey target (liveKeys actual table) key with
  | present =>
      rw [hdecision] at hstep
      cases hstep
  | dangling =>
      rw [hdecision] at hstep
      cases hstep
  | add =>
      rw [hdecision] at hstep
      cases hstep
      exact ⟨table, htable, key, hkey, (decideKey_eq_add_iff.1 hdecision).2, rfl⟩

theorem mem_indexSteps (hmem : step ∈ indexSteps target actual) :
    ∃ table ∈ target.tables.items, ∃ index, step = .addIndex table.name index := by
  rw [indexSteps_eq, List.mem_flatMap] at hmem
  obtain ⟨table, htable, hmem⟩ := hmem
  obtain ⟨index, -, hstep⟩ := List.mem_filterMap.1 hmem
  split at hstep <;> cases hstep
  exact ⟨table, htable, index, rfl⟩

/-- The steps that a plan can have, with what led to them. -/
inductive Planned (target actual : Database) : Step → Prop
  | createTable {table : Table} (htable : table ∈ target.tables.items)
      (hmissing : actual.hasTable table.name = false) : Planned target actual (.createTable table)
  | addColumn {table live : Table} {field : Field} (htable : table ∈ target.tables.items)
      (hlive : actual.table? table.name = some live) (hfield : field ∈ table.fields)
      (hmissing : live.hasField field.name = false) : Planned target actual (.addColumn table.name field)
  | alterColumn {table live : Table} {field : Field} (widening : Bool) (htable : table ∈ target.tables.items)
      (hlive : actual.table? table.name = some live) (hfield : field ∈ table.fields)
      (hcolumn : live.hasField field.name = true) : Planned target actual (.alterColumn table.name field widening)
  | addForeignKey {table : Table} {key : ForeignKey} (htable : table ∈ target.tables.items)
      (hkey : key ∈ table.foreignKeys) : Planned target actual (.addForeignKey table.name key)
  | addIndex {table : Table} (index : Index) (htable : table ∈ target.tables.items) :
      Planned target actual (.addIndex table.name index)

theorem planned_of_mem (hmem : step ∈ (between target actual).steps) : Planned target actual step := by
  simp only [between, List.mem_append] at hmem
  rcases hmem with ((hmem | hmem) | hmem) | hmem
  · obtain ⟨table, htable, hmissing, rfl⟩ := mem_tableSteps hmem
    exact .createTable htable hmissing
  · obtain ⟨table, htable, live, hlive, field, hfield, hdecision⟩ := mem_columnSteps hmem
    rcases step?_decideColumn hdecision with ⟨hmissing, rfl⟩ | ⟨old, widening, hold, -, rfl⟩
    · exact .addColumn htable hlive hfield hmissing
    · exact .alterColumn widening htable hlive hfield (Option.isSome_of_eq_some hold)
  · obtain ⟨table, htable, key, hkey, -, rfl⟩ := mem_foreignKeySteps hmem
    exact .addForeignKey htable hkey
  · obtain ⟨table, htable, index, rfl⟩ := mem_indexSteps hmem
    exact .addIndex index htable

end Steps

section Introductions

/-- The things that are known once tables are created and columns added. -/
def known (target actual : Database) : List Thing :=
  actual.things ++ (tableSteps target actual ++ columnSteps target actual).flatMap Step.introduces

theorem mem_known {thing : Thing} (hstep : step ∈ tableSteps target actual ∨ step ∈ columnSteps target actual)
    (hthing : thing ∈ step.introduces) : thing ∈ known target actual :=
  List.mem_append_right _ (List.mem_flatMap.2 ⟨step, List.mem_append.2 hstep, hthing⟩)

theorem createTable_mem {table : Table} (htable : table ∈ target.tables.items)
    (hmissing : actual.hasTable table.name = false) : Step.createTable table ∈ tableSteps target actual := by
  rw [tableSteps_eq]
  exact List.mem_map_of_mem (List.mem_filter.2 ⟨htable, by rw [hmissing]; rfl⟩)

theorem addColumn_mem {table live : Table} {field : Field} (htable : table ∈ target.tables.items)
    (hfield : field ∈ table.fields) (hlive : actual.table? table.name = some live)
    (hmissing : live.hasField field.name = false) : Step.addColumn table.name field ∈ columnSteps target actual := by
  have hdecision : decideColumn live field = .add := by
    rw [Table.hasField, Option.isSome_eq_false_iff, Option.isNone_iff_eq_none] at hmissing
    rw [decideColumn, hmissing]
  rw [columnSteps_eq, List.mem_flatMap]
  refine ⟨table, htable, ?_⟩
  rw [columnStepsOf, hlive]
  refine List.mem_filterMap.2 ⟨field, hfield, ?_⟩
  rw [hdecision]
  rfl

/-- The tables of the model are known. -/
theorem table_known {table : Table} (htable : table ∈ target.tables.items) :
    Thing.ofTable table.name ∈ known target actual := by
  cases hlive : actual.hasTable table.name with
  | true => exact List.mem_append_left _ (ofTable_mem_database_iff.2 hlive)
  | false => exact mem_known (.inl (createTable_mem htable hlive)) List.mem_cons_self

/-- The columns of the model are known. -/
theorem column_known {table : Table} {name : String} (htable : table ∈ target.tables.items)
    (hname : nameKey name ∈ table.fields.map keyOf) : Thing.ofColumn table.name name ∈ known target actual := by
  obtain ⟨field, hfield, hkey⟩ := List.mem_map.1 hname
  have hthing : Thing.ofColumn table.name name = .ofColumn table.name field.name :=
    congrArg (Thing.column (nameKey table.name)) hkey.symm
  rw [hthing]
  cases hlive : actual.table? table.name with
  | none =>
      have hmissing := Database.hasTable_eq_false_iff.2 hlive
      exact mem_known (.inl (createTable_mem htable hmissing)) (List.mem_cons_of_mem _ (List.mem_map_of_mem hfield))
  | some live =>
      cases hcolumn : live.hasField field.name with
      | true => exact List.mem_append_left _ ((ofColumn_mem_database_iff hlive).2 hcolumn)
      | false =>
          exact mem_known (.inr (addColumn_mem htable hfield hlive hcolumn)) List.mem_cons_self

end Introductions

section Newness

/-- Things made table by table are distinct if those of each table are and belong to it. -/
theorem nodup_owned {tables : List Table} {thingsOf : Table → List Thing} (hdistinct : (tables.map keyOf).Nodup)
    (howned : ∀ table ∈ tables, ∀ thing ∈ thingsOf table, thing.owner = keyOf table)
    (hnodup : ∀ table ∈ tables, (thingsOf table).Nodup) : (tables.flatMap thingsOf).Nodup := by
  rw [List.nodup_flatMap]
  refine ⟨hnodup, (List.pairwise_map.1 hdistinct).imp_of_mem fun hleft hright hapart => ?_⟩
  intro thing hthing hother
  exact hapart ((howned _ hleft thing hthing).symm.trans (howned _ hright thing hother))

theorem nodup_columns {table : Table} (hdistinct : table.DistinctFields) :
    (table.fields.map fun field => Thing.ofColumn table.name field.name).Nodup := by
  have hcolumns : table.fields.map (fun field => Thing.ofColumn table.name field.name) =
      (table.fields.map keyOf).map (Thing.column (nameKey table.name)) := List.map_map.symm
  rw [hcolumns]
  exact List.Nodup.map (fun _ _ hsame => (Thing.column.inj hsame).2) hdistinct

theorem nodup_keys {table : Table} (hdistinct : (table.foreignKeys.map fun key => nameKey key.column).Nodup) :
    (table.foreignKeys.map (Thing.ofKey table.name)).Nodup := by
  refine List.pairwise_map.2 ((List.pairwise_map.1 hdistinct).imp fun hapart hsame => ?_)
  exact hapart (Thing.foreignKey.inj hsame).2.1

theorem introduces_columnStepsOf (table : Table) :
    ((columnStepsOf actual table).flatMap Step.introduces).Sublist
      (table.fields.map fun field => .ofColumn table.name field.name) := by
  unfold columnStepsOf
  cases actual.table? table.name with
  | none => exact List.nil_sublist _
  | some live =>
      rw [Option.elim_some]
      induction table.fields with
      | nil => exact .slnil
      | cons field fields ih =>
          rw [List.filterMap_cons, List.map_cons]
          cases decideColumn live field with
          | keep => exact ih.cons _
          | hold => exact ih.cons _
          | add => exact ih.cons_cons _
          | widen => exact ih.cons _
          | narrow => exact ih.cons _

theorem introduces_foreignKeyStepsOf (table : Table) :
    ((foreignKeyStepsOf target actual table).flatMap Step.introduces).Sublist
      (table.foreignKeys.map (.ofKey table.name)) := by
  unfold foreignKeyStepsOf
  generalize liveKeys actual table = live
  induction table.foreignKeys with
  | nil => exact .slnil
  | cons key keys ih =>
      rw [List.filterMap_cons, List.map_cons]
      cases decideKey target live key with
      | present => exact ih.cons _
      | dangling => exact ih.cons _
      | add => exact ih.cons_cons _

theorem introduces_indexSteps : (indexSteps target actual).flatMap Step.introduces = [] := by
  rw [List.flatMap_eq_nil_iff]
  intro step hmem
  obtain ⟨table, -, index, rfl⟩ := mem_indexSteps hmem
  rfl

theorem introduced_by_tableSteps {thing : Thing} (hmem : thing ∈ (tableSteps target actual).flatMap Step.introduces) :
    ∃ table : Table, actual.hasTable table.name = false
      ∧ (thing = .ofTable table.name ∨ ∃ column, thing = .ofColumn table.name column) := by
  obtain ⟨step, hstep, hthing⟩ := List.mem_flatMap.1 hmem
  obtain ⟨table, -, hmissing, rfl⟩ := mem_tableSteps hstep
  refine ⟨table, hmissing, ?_⟩
  rcases List.mem_cons.1 hthing with hthing | hthing
  · exact .inl hthing
  · obtain ⟨field, -, rfl⟩ := List.mem_map.1 hthing
    exact .inr ⟨field.name, rfl⟩

theorem introduced_by_columnSteps {thing : Thing}
    (hmem : thing ∈ (columnSteps target actual).flatMap Step.introduces) :
    ∃ table : Table, actual.hasTable table.name = true ∧ ∃ column, thing = .ofColumn table.name column := by
  obtain ⟨step, hstep, hthing⟩ := List.mem_flatMap.1 hmem
  obtain ⟨table, -, live, hlive, field, -, hdecision⟩ := mem_columnSteps hstep
  refine ⟨table, Database.hasTable_eq_isSome _ ▸ Option.isSome_of_eq_some hlive, field.name, ?_⟩
  rcases step?_decideColumn hdecision with ⟨-, rfl⟩ | ⟨_, _, -, -, rfl⟩
  · exact List.mem_singleton.1 hthing
  · cases hthing

theorem introduced_by_foreignKeySteps {thing : Thing}
    (hmem : thing ∈ (foreignKeySteps target actual).flatMap Step.introduces) :
    ∃ table key, thing = .ofKey table key := by
  obtain ⟨step, hstep, hthing⟩ := List.mem_flatMap.1 hmem
  obtain ⟨table, -, key, -, -, rfl⟩ := mem_foreignKeySteps hstep
  exact ⟨table.name, key, List.mem_singleton.1 hthing⟩

/-- The first phase introduces to tables that are missing, the second to tables that are live, and the third
neither tables nor columns. -/
theorem phases_apart :
    ((tableSteps target actual).flatMap Step.introduces).Disjoint
        ((columnSteps target actual).flatMap Step.introduces)
    ∧ ((tableSteps target actual).flatMap Step.introduces
        ++ (columnSteps target actual).flatMap Step.introduces).Disjoint
        ((foreignKeySteps target actual).flatMap Step.introduces) := by
  constructor
  · intro thing htable hcolumn
    obtain ⟨missing, hmissing, hthing⟩ := introduced_by_tableSteps htable
    obtain ⟨live, hlive, column, rfl⟩ := introduced_by_columnSteps hcolumn
    rcases hthing with hthing | ⟨_, hthing⟩
    · cases hthing
    · have hsame : nameKey live.name = nameKey missing.name := (Thing.column.inj hthing).1
      have hcongr : actual.hasTable live.name = actual.hasTable missing.name :=
        NameMap.contains_congr (sameName_iff.2 hsame)
      rw [hlive, hmissing] at hcongr
      cases hcongr
  · intro thing hthing hkey
    obtain ⟨table, key, rfl⟩ := introduced_by_foreignKeySteps hkey
    rcases List.mem_append.1 hthing with hthing | hthing
    · obtain ⟨_, -, hthing | ⟨_, hthing⟩⟩ := introduced_by_tableSteps hthing
      · cases hthing
      · cases hthing
    · obtain ⟨_, -, _, hthing⟩ := introduced_by_columnSteps hthing
      cases hthing

theorem nodup_tableSteps (hdistinct : ∀ table ∈ target.tables.items, table.DistinctFields) :
    ((tableSteps target actual).flatMap Step.introduces).Nodup := by
  rw [tableSteps_eq, List.flatMap_map]
  refine nodup_owned (target.tables.distinct.sublist (List.filter_sublist.map _)) ?_ ?_
  · intro table _ thing hthing
    rcases List.mem_cons.1 hthing with rfl | hthing
    · rfl
    · obtain ⟨field, -, rfl⟩ := List.mem_map.1 hthing
      rfl
  · intro table hmissing
    refine List.nodup_cons.2 ⟨fun hmem => ?_, nodup_columns (hdistinct table (List.mem_of_mem_filter hmissing))⟩
    obtain ⟨_, -, hsame⟩ := List.mem_map.1 hmem
    cases hsame

theorem nodup_columnSteps (hdistinct : ∀ table ∈ target.tables.items, table.DistinctFields) :
    ((columnSteps target actual).flatMap Step.introduces).Nodup := by
  rw [columnSteps_eq, List.flatMap_assoc]
  refine nodup_owned target.tables.distinct ?_ ?_
  · intro table _ thing hthing
    obtain ⟨field, -, rfl⟩ := List.mem_map.1 ((introduces_columnStepsOf table).subset hthing)
    rfl
  · intro table htable
    exact (nodup_columns (hdistinct table htable)).sublist (introduces_columnStepsOf table)

theorem nodup_foreignKeySteps
    (hdistinct : ∀ table ∈ target.tables.items, (table.foreignKeys.map fun key => nameKey key.column).Nodup) :
    ((foreignKeySteps target actual).flatMap Step.introduces).Nodup := by
  rw [foreignKeySteps_eq, List.flatMap_assoc]
  refine nodup_owned target.tables.distinct ?_ ?_
  · intro table _ thing hthing
    obtain ⟨key, -, rfl⟩ := List.mem_map.1 ((introduces_foreignKeyStepsOf table).subset hthing)
    rfl
  · intro table htable
    exact (nodup_keys (hdistinct table htable)).sublist (introduces_foreignKeyStepsOf table)

/-- Nothing is introduced twice. -/
theorem nodup_between (hdb : Model.WellBuilt target) :
    ((between target actual).steps.flatMap Step.introduces).Nodup := by
  have hdistinct : ∀ table ∈ target.tables.items, table.DistinctFields := fun table htable =>
    (hdb.tables table htable).fitting.fieldsDistinct
  have hkeys : ∀ table ∈ target.tables.items, (table.foreignKeys.map fun key => nameKey key.column).Nodup :=
    fun table htable => (hdb.tables table htable).fitting.columnsDistinct
  rw [between, List.flatMap_append, List.flatMap_append, List.flatMap_append, introduces_indexSteps,
    List.append_nil, List.nodup_append', List.nodup_append']
  exact ⟨⟨nodup_tableSteps hdistinct, nodup_columnSteps hdistinct, phases_apart.1⟩, nodup_foreignKeySteps hkeys,
    phases_apart.2⟩

end Newness

section Scope

/-- An item of two lists in a row is in the first of them, or has all of the first before it. -/
theorem split_append {α : Type} {first second before after : List α} {item : α}
    (h : first ++ second = before ++ item :: after) :
    item ∈ first ∨ ∃ rest, before = first ++ rest ∧ second = rest ++ item :: after := by
  rcases List.append_eq_append_iff.1 h with ⟨rest, hbefore, hsecond⟩ | ⟨rest, hfirst, hrest⟩
  · exact .inr ⟨rest, hbefore, hsecond⟩
  · cases rest with
    | nil => exact .inr ⟨[], by simpa using hfirst.symm, hrest.symm⟩
    | cons other rest =>
        rw [List.cons_append, List.cons.injEq] at hrest
        obtain ⟨rfl, -⟩ := hrest
        rw [hfirst]
        exact .inl (List.mem_append_right _ List.mem_cons_self)

/-- What stands before an item that is not in the first part contains the first part. -/
theorem prefix_of_not_mem {α : Type} {first second before after : List α} {item : α}
    (hsplit : first ++ second = before ++ item :: after) (hlater : item ∉ first) : first <+: before := by
  rcases split_append hsplit with hmem | ⟨rest, rfl, -⟩
  · exact absurd hmem hlater
  · exact List.prefix_append _ _

/-- A step of the last two phases has the first two before it. -/
theorem phases_before {before after : List Step} (hsplit : (between target actual).steps = before ++ step :: after)
    (hlater : step.action = .addForeignKey ∨ step.action = .addIndex) :
    tableSteps target actual ++ columnSteps target actual <+: before := by
  have hsteps : (between target actual).steps = (tableSteps target actual ++ columnSteps target actual)
      ++ (foreignKeySteps target actual ++ indexSteps target actual) := by
    simp only [between, List.append_assoc]
  refine prefix_of_not_mem (hsteps.symm.trans hsplit) fun hmem => ?_
  rcases List.mem_append.1 hmem with hmem | hmem
  · obtain ⟨table, -, -, rfl⟩ := mem_tableSteps hmem
    rcases hlater with hlater | hlater <;> cases hlater
  · obtain ⟨table, -, live, -, field, -, hdecision⟩ := mem_columnSteps hmem
    rcases step?_decideColumn hdecision with ⟨-, rfl⟩ | ⟨_, _, -, -, rfl⟩
    · rcases hlater with hlater | hlater <;> cases hlater
    · rcases hlater with hlater | hlater <;> cases hlater

/-- At a step of the last two phases all tables and columns of the model are there. -/
theorem known_subset {before after : List Step} (hsplit : (between target actual).steps = before ++ step :: after)
    (hlater : step.action = .addForeignKey ∨ step.action = .addIndex) :
    known target actual ⊆ actual.things ++ before.flatMap Step.introduces := by
  intro thing hthing
  rcases List.mem_append.1 hthing with hlive | hintroduced
  · exact List.mem_append_left _ hlive
  · obtain ⟨earlier, hearlier, hthing⟩ := List.mem_flatMap.1 hintroduced
    have hbefore := (phases_before hsplit hlater).subset hearlier
    exact List.mem_append_right _ (List.mem_flatMap.2 ⟨earlier, hbefore, hthing⟩)

/-- A plan for a compiled model is in order from the first step to the last, whatever the live schema is: every
step finds what it needs in the live schema or among what the steps before it introduced, and what it
introduces is new. -/
theorem between_scoped (htarget : Model.Compiled target) (actual : Database) :
    ((between target actual).steps.flatMap Step.introduces).Nodup
    ∧ ∀ before step after, (between target actual).steps = before ++ step :: after →
      Scoped actual (before.flatMap Step.introduces) step := by
  have hdb := htarget.linked
  have hnodup : ((between target actual).steps.flatMap Step.introduces).Nodup := nodup_between hdb.toWellBuilt
  refine ⟨hnodup, fun before step after hsplit => ?_⟩
  have hnew : ∀ thing ∈ step.introduces, thing ∉ before.flatMap Step.introduces := by
    rw [hsplit, List.flatMap_append, List.flatMap_cons, List.nodup_append'] at hnodup
    exact fun thing hthing hbefore => hnodup.2.2 hbefore (List.mem_append_left _ hthing)
  have hmem : step ∈ (between target actual).steps := by
    rw [hsplit]
    exact List.mem_append_right _ List.mem_cons_self
  simp only [between, List.mem_append] at hmem
  rcases hmem with ((hmem | hmem) | hmem) | hmem
  · obtain ⟨table, -, hmissing, rfl⟩ := mem_tableSteps hmem
    refine .createTable table (fun hlive => ?_) (hnew _ List.mem_cons_self)
    rw [ofTable_mem_database_iff, hmissing] at hlive
    cases hlive
  · obtain ⟨table, -, live, hlive, field, -, hdecision⟩ := mem_columnSteps hmem
    rcases step?_decideColumn hdecision with ⟨hmissing, rfl⟩ | ⟨old, widening, hold, htype, rfl⟩
    · have htable : actual.hasTable table.name = true :=
        Database.hasTable_eq_isSome _ ▸ Option.isSome_of_eq_some hlive
      refine .addColumn table.name field (ofTable_mem_database_iff.2 htable) (fun hcolumn => ?_)
        (hnew _ List.mem_cons_self)
      rw [ofColumn_mem_database_iff hlive, hmissing] at hcolumn
      cases hcolumn
    · exact .alterColumn table.name field widening live old hlive hold htype
  · obtain ⟨table, htable, key, hkey, htarget, rfl⟩ := mem_foreignKeySteps hmem
    have hknown := known_subset hsplit (.inl rfl)
    obtain ⟨other, hother⟩ := Option.isSome_iff_exists.1 htarget
    have hsame : sameName other.name key.target = true := Database.sameName_of_table? hother
    have hmember := Database.mem_tables_of_table? hother
    refine .addForeignKey table.name key (hknown (table_known htable))
      (hknown (column_known htable (hdb.column_mem htable hkey))) ?_ ?_
    · rw [← ofTable_congr hsame]
      exact hknown (table_known hmember)
    · rw [← ofColumn_congr hsame]
      exact hknown (column_known hmember (hdb.targetColumn_mem htable hkey hother))
  · obtain ⟨table, htable, index, rfl⟩ := mem_indexSteps hmem
    exact .addIndex table.name index (known_subset hsplit (.inr rfl) (table_known htable))

/-- Two tables that refer to each other, one of them to itself as well. -/
def staffFiles : List Model.Source :=
  [{ name := "staff.dmd"
     text := "model Person \x7b\n  model Team\n  model Person as Boss\n  index (Person)\n\x7d\n"
      ++ "model Team \x7b\n  model Person as Head\n\x7d\n" }]

/-- One of the tables without the column of its foreign key. -/
def staffLive : Database where
  tables := { items := [{ name := "TEAM", fields := [{ name := "teamid", type := { name := "integer" } }] }]
              distinct := by decide }

theorem between_scoped_staff :
    let target := (Model.compile {} staffFiles).schema
    let steps := (between target staffLive).steps
    Model.Compiled target
    ∧ steps.map (·.action) =
      [.createTable, .addColumn, .addForeignKey, .addForeignKey, .addForeignKey, .addIndex]
    ∧ (steps.flatMap Step.introduces).Nodup
    ∧ ∀ before step after, steps = before ++ step :: after →
      Scoped staffLive (before.flatMap Step.introduces) step := by
  have hcompiled : Model.Compiled (Model.compile {} staffFiles).schema := .batch .empty staffFiles
  exact ⟨hcompiled, by decide +kernel, between_scoped hcompiled staffLive⟩

end Scope

end Plan

end SchemaMigrate
