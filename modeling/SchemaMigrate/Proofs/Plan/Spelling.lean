import SchemaMigrate.Proofs.Model.Origins
import SchemaMigrate.Proofs.Plan.Scope
import SchemaMigrate.Proofs.Sql.Plain

/-!
How the statements of a plan spell the tables and columns that they refer to. Names are compared without
regard to case, but the database takes a quoted name as it is written. Main statement: a reference is spelled
like the object that it finds exactly if the live schema spells that object so or, if it is not live, the
model does where it declares it. The place of the statement in the plan does not matter.

All that a plan creates are the objects of the model that are not live. Foreign keys and indexes come when
everything is there; the other statements refer to what is live or to what their own step makes.
-/

namespace SchemaMigrate

/-- A table or a column as it is spelled, where it is made or where it is referred to. -/
inductive Object where
  | table (name : String)
  | column (table name : String)
deriving Repr, DecidableEq

namespace Object

/-- What an object is, in any spelling. -/
def thing : Object → Thing
  | .table name => .ofTable name
  | .column owner name => .ofColumn owner name

/-- The name between the quotes. -/
def spelling : Object → String
  | .table name | .column _ name => name

/-- Some object is meant by a reference. -/
def Meant (reference : Object) (objects : List Object) : Prop :=
  ∃ object ∈ objects, object.thing = reference.thing

/-- Some object is meant by a reference, and it is spelled so. -/
def Spelled (reference : Object) (objects : List Object) : Prop :=
  ∃ object ∈ objects, object.thing = reference.thing ∧ object.spelling = reference.spelling

/-- A reference is spelled like the live object that is meant or, if none is, like the created one. -/
def Exact (reference : Object) (live created : List Object) : Prop :=
  (reference.Meant live → reference.Spelled live)
    ∧ (¬ reference.Meant live → reference.Meant created → reference.Spelled created)

instance (reference : Object) (objects : List Object) : Decidable (reference.Meant objects) :=
  inferInstanceAs (Decidable (∃ object ∈ objects, object.thing = reference.thing))

instance (reference : Object) (objects : List Object) : Decidable (reference.Spelled objects) :=
  inferInstanceAs (Decidable (∃ object ∈ objects,
    object.thing = reference.thing ∧ object.spelling = reference.spelling))

instance (reference : Object) (live created : List Object) : Decidable (reference.Exact live created) :=
  inferInstanceAs (Decidable (_ ∧ _))

end Object

def Table.objects (table : Table) : List Object :=
  .table table.name :: table.fields.map fun field => .column table.name field.name

def Database.objects (db : Database) : List Object := db.tables.items.flatMap Table.objects

/-- The tables and columns that a step makes. -/
def Step.objects (step : Step) : List Object :=
  match step.action with
  | .createTable => .table step.table :: step.fields.map fun field => .column step.table field.name
  | .addColumn => step.fields.map fun field => .column step.table field.name
  | .alterColumn | .addForeignKey | .addIndex => []

namespace Sql

def Part.created? : Part → Option Object
  | .newTable name => some (.table name)
  | .newColumn owner name => some (.column owner name)
  | .plain _ | .newConstraint _ _ | .newIndex _ | .table _ | .column _ _ => none

def Part.reference? : Part → Option Object
  | .table name => some (.table name)
  | .column owner name => some (.column owner name)
  | .plain _ | .newTable _ | .newColumn _ _ | .newConstraint _ _ | .newIndex _ => none

/-- The tables and columns that a statement makes. -/
def Statement.created (statement : Statement) : List Object := statement.parts.filterMap Part.created?

/-- The tables and columns that a statement refers to. -/
def Statement.references (statement : Statement) : List Object := statement.parts.filterMap Part.reference?

end Sql

attribute [local irreducible] nameKey

namespace Object

variable {reference : Object} {live created : List Object}

/-- Of a live object only the live spelling counts. -/
theorem exact_iff_of_meant (h : reference.Meant live) : reference.Exact live created ↔ reference.Spelled live := by
  constructor
  · exact fun hexact => hexact.1 h
  · exact fun hspelled => ⟨fun _ => hspelled, fun hnot => absurd h hnot⟩

/-- Whether a reference is exact depends on the objects that are not live alone. -/
theorem exact_congr {others : List Object}
    (h : ¬ reference.Meant live → ∀ object, object.thing = reference.thing → (object ∈ created ↔ object ∈ others)) :
    reference.Exact live created ↔ reference.Exact live others := by
  refine and_congr_right fun _ => forall_congr' fun hnot => imp_congr ?_ ?_
  · constructor
    · rintro ⟨object, hmem, hthing⟩
      exact ⟨object, (h hnot object hthing).1 hmem, hthing⟩
    · rintro ⟨object, hmem, hthing⟩
      exact ⟨object, (h hnot object hthing).2 hmem, hthing⟩
  · constructor
    · rintro ⟨object, hmem, hthing, hspelling⟩
      exact ⟨object, (h hnot object hthing).1 hmem, hthing, hspelling⟩
    · rintro ⟨object, hmem, hthing, hspelling⟩
      exact ⟨object, (h hnot object hthing).2 hmem, hthing, hspelling⟩

end Object

section Objects

variable {db : Database} {table : Table} {name column : String}

theorem mem_objects_iff {object : Object} :
    object ∈ db.objects ↔ ∃ table ∈ db.tables.items, object = .table table.name
      ∨ ∃ field ∈ table.fields, object = .column table.name field.name := by
  simp only [Database.objects, Table.objects, List.mem_flatMap, List.mem_cons, List.mem_map, eq_comm]

theorem meant_table_iff : (Object.table name).Meant db.objects ↔ db.hasTable name = true := by
  rw [Database.hasTable, NameMap.contains_iff]
  constructor
  · rintro ⟨object, hmem, hthing⟩
    obtain ⟨table, htable, rfl | ⟨field, -, rfl⟩⟩ := mem_objects_iff.1 hmem
    · exact ⟨table, htable, sameName_iff.2 (Thing.table.inj hthing)⟩
    · cases hthing
  · rintro ⟨table, htable, hsame⟩
    exact ⟨.table table.name, mem_objects_iff.2 ⟨table, htable, .inl rfl⟩, ofTable_congr hsame⟩

theorem meant_column_iff : (Object.column name column).Meant db.objects ↔
    ∃ table, db.table? name = some table ∧ table.hasField column = true := by
  constructor
  · rintro ⟨object, hmem, hthing⟩
    obtain ⟨table, htable, rfl | ⟨field, hfield, rfl⟩⟩ := mem_objects_iff.1 hmem
    · cases hthing
    · obtain ⟨hname, hcolumn⟩ := Thing.column.inj hthing
      refine ⟨table, NameMap.get?_eq_some_iff.2 ⟨htable, sameName_iff.2 hname⟩, ?_⟩
      rw [Table.hasField, Table.field?, findNamed?, List.find?_isSome]
      exact ⟨field, hfield, sameName_iff.2 hcolumn⟩
  · rintro ⟨table, hfound, hcolumn⟩
    rw [Table.hasField, Table.field?, findNamed?, List.find?_isSome] at hcolumn
    obtain ⟨field, hfield, hsame⟩ := hcolumn
    refine ⟨.column table.name field.name, mem_objects_iff.2
      ⟨table, Database.mem_tables_of_table? hfound, .inr ⟨field, hfield, rfl⟩⟩, ?_⟩
    have hfield' : nameKey field.name = nameKey column := sameName_iff.1 hsame
    rw [Object.thing, Object.thing, ofColumn_congr (Database.sameName_of_table? hfound), Thing.ofColumn, Thing.ofColumn,
      hfield']

/-- A well-built schema has at most one object of a name, in whatever spelling. -/
theorem object_unique (hdb : Model.WellBuilt db) {object other : Object} (hobject : object ∈ db.objects)
    (hother : other ∈ db.objects) (hthing : object.thing = other.thing) : object = other := by
  obtain ⟨table, htable, rfl | ⟨field, hfield, rfl⟩⟩ := mem_objects_iff.1 hobject
  · obtain ⟨second, hsecond, rfl | ⟨_, -, rfl⟩⟩ := mem_objects_iff.1 hother
    · rw [NameMap.eq_of_sameName htable hsecond (sameName_iff.2 (Thing.table.inj hthing))]
    · cases hthing
  · obtain ⟨second, hsecond, rfl | ⟨column, hcolumn, rfl⟩⟩ := mem_objects_iff.1 hother
    · cases hthing
    · obtain ⟨hname, hkey⟩ := Thing.column.inj hthing
      obtain rfl := NameMap.eq_of_sameName htable hsecond (sameName_iff.2 hname)
      have hdistinct := (hdb.tables table htable).fitting.fieldsDistinct
      rw [List.inj_on_of_nodup_map hdistinct hfield hcolumn hkey]

end Objects

namespace Sql

section Reading

variable {table : String} {step : Step} {limit : Int} {own : List Statement} {statement : Statement}

theorem created_createTable (fields : List Field) (constraint : Option String) :
    (Statement.createTable table fields constraint).created =
      .table table :: fields.map fun field => .column table field.name := by
  rw [Statement.created, filterMap_createTable Part.created? fun _ => rfl]
  simp [Part.created?]

theorem references_createTable (fields : List Field) (constraint : Option String) :
    (Statement.createTable table fields constraint).references =
      constraint.toList.flatMap fun _ => (fields.filter (·.primaryKey)).map fun field => .column table field.name := by
  rw [Statement.references, filterMap_createTable Part.reference? fun _ => rfl]
  simp [Part.reference?]

theorem created_createIndex (index : NewIndex) : (Statement.createIndex index).created = [] := by
  rw [Statement.created, Statement.parts, List.filterMap_append, List.filterMap_append,
    filterMap_columnList Part.created? fun _ => rfl]
  simp [Part.created?]

/-- A column is made by the first of its statements. -/
theorem created_columnStatements (field : Field) :
    (columnStatements table field).flatMap Statement.created = [.column table field.name] := by
  unfold columnStatements
  split
  · rfl
  · cases backfill? field with
    | none => rfl
    | some value => rfl

theorem references_columnStatements {field : Field} {reference : Object} (hmem : statement ∈ columnStatements table field)
    (href : reference ∈ statement.references) : reference = .table table ∨ reference = .column table field.name := by
  have hadd (default : Option String) : (Statement.addColumn table field default).references = [.table table] := rfl
  have hdrop : (Statement.dropDefault table field.name).references = [.table table, .column table field.name] := rfl
  unfold columnStatements at hmem
  split at hmem
  · rw [List.mem_singleton] at hmem
    rw [hmem, hadd, List.mem_singleton] at href
    exact .inl href
  · cases hvalue : backfill? field with
    | none =>
        rw [hvalue, List.mem_singleton] at hmem
        rw [hmem, hadd, List.mem_singleton] at href
        exact .inl href
    | some value =>
        rw [hvalue, List.mem_cons, List.mem_singleton] at hmem
        rcases hmem with rfl | rfl
        · rw [hadd, List.mem_singleton] at href
          exact .inl href
        · rw [hdrop, List.mem_cons, List.mem_singleton] at href
          exact href

/-- What the statements of a step make. -/
theorem created_statementsOf (h : statementsOf step limit = .ok own) :
    own.flatMap Statement.created = step.objects := by
  cases written_of_statementsOf h with
  | createTable haction constraint =>
      rw [List.flatMap_singleton, created_createTable, Step.objects, haction]
  | addColumn haction =>
      rw [Step.objects, haction, List.flatMap_assoc]
      simp only [created_columnStatements, List.map_eq_flatMap]
  | alterColumn haction =>
      rw [Step.objects, haction, List.flatMap_map]
      exact List.flatMap_eq_nil_iff.2 fun _ _ => rfl
  | addForeignKey haction key constraint name =>
      rw [Step.objects, haction, List.flatMap_cons, List.flatMap_singleton, created_createIndex]
      rfl
  | addIndex haction index => rw [Step.objects, haction, List.flatMap_singleton, created_createIndex]

theorem created_statementsOfSteps {steps : List Step} {statements : List Statement}
    (h : statementsOfSteps steps limit = .ok statements) :
    statements.flatMap Statement.created = steps.flatMap Step.objects := by
  induction steps generalizing statements with
  | nil =>
      cases h
      rfl
  | cons step steps ih =>
      obtain ⟨own, hown, h⟩ := bind_eq_ok h
      obtain ⟨others, hothers, h⟩ := bind_eq_ok h
      cases h
      rw [List.flatMap_append, List.flatMap_cons, created_statementsOf hown, ih hothers]

/-- A statement of a plan is one of a step, and what the earlier steps make is made before it. -/
theorem step_of_statement {steps : List Step} {statements before after : List Statement}
    (h : statementsOfSteps steps limit = .ok statements) (hsplit : statements = before ++ statement :: after) :
    ∃ first step last own, steps = first ++ step :: last ∧ statementsOf step limit = .ok own ∧ statement ∈ own
      ∧ first.flatMap Step.objects ⊆ before.flatMap Statement.created := by
  induction steps generalizing statements before with
  | nil =>
      cases h
      exact absurd hsplit.symm (by simp)
  | cons step steps ih =>
      obtain ⟨own, hown, h⟩ := bind_eq_ok h
      obtain ⟨others, hothers, h⟩ := bind_eq_ok h
      cases h
      rcases Plan.split_append hsplit with hmem | ⟨rest, rfl, hothers'⟩
      · exact ⟨[], step, steps, own, rfl, hown, hmem, List.nil_subset _⟩
      · obtain ⟨first, later, last, its, rfl, hits, hmem, hsub⟩ := ih hothers hothers'
        refine ⟨step :: first, later, last, its, rfl, hits, hmem, ?_⟩
        rw [List.flatMap_cons, List.flatMap_append, created_statementsOf hown]
        exact List.append_subset.2 ⟨List.subset_append_left _ _,
          fun object hobject => List.mem_append_right _ (hsub hobject)⟩

end Reading

end Sql

namespace Plan

variable {target actual : Database}

section Made

/-- The tables and columns that a plan makes. -/
def made (target actual : Database) : List Object := (between target actual).steps.flatMap Step.objects

theorem mem_made {step : Step} {object : Object}
    (hstep : step ∈ tableSteps target actual ∨ step ∈ columnSteps target actual) (hobject : object ∈ step.objects) :
    object ∈ made target actual := by
  refine List.mem_flatMap.2 ⟨step, ?_, hobject⟩
  rcases hstep with hstep | hstep
  · simp [between, hstep]
  · simp [between, hstep]

/-- A plan makes what the model has and the live schema has not. -/
theorem mem_made_iff {object : Object} :
    object ∈ made target actual ↔ object ∈ target.objects ∧ ¬ object.Meant actual.objects := by
  constructor
  · intro hmem
    obtain ⟨step, hstep, hobject⟩ := List.mem_flatMap.1 hmem
    cases planned_of_mem hstep with
    | @createTable table htable hmissing =>
        rcases List.mem_cons.1 hobject with rfl | hcolumn
        · refine ⟨mem_objects_iff.2 ⟨table, htable, .inl rfl⟩, fun hmeant => ?_⟩
          have hlive : actual.hasTable table.name = true := meant_table_iff.1 hmeant
          rw [hmissing] at hlive
          cases hlive
        · obtain ⟨field, hfield, rfl⟩ := List.mem_map.1 hcolumn
          refine ⟨mem_objects_iff.2 ⟨table, htable, .inr ⟨field, hfield, rfl⟩⟩, fun hmeant => ?_⟩
          obtain ⟨live, hlive, -⟩ := meant_column_iff.1 hmeant
          change actual.table? table.name = some live at hlive
          rw [Database.hasTable_eq_false_iff.1 hmissing] at hlive
          cases hlive
    | @addColumn table live field htable hlive hfield hmissing =>
        rcases List.mem_singleton.1 hobject with rfl
        refine ⟨mem_objects_iff.2 ⟨table, htable, .inr ⟨field, hfield, rfl⟩⟩, fun hmeant => ?_⟩
        obtain ⟨other, hother, hcolumn⟩ := meant_column_iff.1 hmeant
        cases hlive.symm.trans hother
        rw [hmissing] at hcolumn
        cases hcolumn
    | alterColumn => cases hobject
    | addForeignKey => cases hobject
    | addIndex => cases hobject
  · rintro ⟨hobject, hnot⟩
    obtain ⟨table, htable, rfl | ⟨field, hfield, rfl⟩⟩ := mem_objects_iff.1 hobject
    · rw [meant_table_iff, Bool.not_eq_true] at hnot
      exact mem_made (.inl (createTable_mem htable hnot)) List.mem_cons_self
    · cases hlive : actual.table? table.name with
      | none =>
          have hmissing := Database.hasTable_eq_false_iff.2 hlive
          exact mem_made (.inl (createTable_mem htable hmissing)) (List.mem_cons_of_mem _ (List.mem_map_of_mem hfield))
      | some live =>
          have hmissing : live.hasField field.name = false := by
            rw [Bool.eq_false_iff]
            exact fun hcolumn => hnot (meant_column_iff.2 ⟨live, hlive, hcolumn⟩)
          exact mem_made (.inr (addColumn_mem htable hfield hlive hmissing)) List.mem_cons_self

end Made

section Spelling

variable {limit : Int} {own : List Sql.Statement} {statement : Sql.Statement} {step : Step} {reference : Object}

/-- Columns are added to live tables, and live columns are altered. -/
theorem live_of_column_step (hstep : step ∈ (between target actual).steps)
    (haction : step.action = .addColumn ∨ step.action = .alterColumn) :
    ∃ live, actual.table? step.table = some live
      ∧ (step.action = .alterColumn → ∀ field ∈ step.fields, live.hasField field.name = true) := by
  cases planned_of_mem hstep with
  | createTable => rcases haction with haction | haction <;> cases haction
  | addColumn _ hlive => exact ⟨_, hlive, fun halter => by cases halter⟩
  | alterColumn _ _ hlive _ hcolumn =>
      refine ⟨_, hlive, fun _ other hother => ?_⟩
      rw [List.mem_singleton.1 hother]
      exact hcolumn
  | addForeignKey => rcases haction with haction | haction <;> cases haction
  | addIndex => rcases haction with haction | haction <;> cases haction

/-- Before the foreign keys, statements refer to what is live or to what their own step makes. -/
theorem reference_cases (hstep : step ∈ (between target actual).steps) (hown : Sql.statementsOf step limit = .ok own)
    (hmem : statement ∈ own) (href : reference ∈ statement.references) :
    (step.action = .addForeignKey ∨ step.action = .addIndex)
      ∨ reference.Meant actual.objects ∨ reference ∈ step.objects := by
  have htable (haction : step.action = .addColumn ∨ step.action = .alterColumn) :
      (Object.table step.table).Meant actual.objects := by
    obtain ⟨live, hlive, -⟩ := live_of_column_step hstep haction
    rw [meant_table_iff, Database.hasTable_eq_isSome]
    exact Option.isSome_of_eq_some hlive
  cases Sql.written_of_statementsOf hown with
  | createTable haction constraint =>
      rw [List.mem_singleton.1 hmem, Sql.references_createTable, List.mem_flatMap] at href
      obtain ⟨-, -, href⟩ := href
      obtain ⟨field, hfield, rfl⟩ := List.mem_map.1 href
      refine .inr (.inr ?_)
      rw [Step.objects, haction]
      exact List.mem_cons_of_mem _ (List.mem_map_of_mem (List.mem_of_mem_filter hfield))
  | addColumn haction =>
      obtain ⟨field, hfield, hmem⟩ := List.mem_flatMap.1 hmem
      rcases Sql.references_columnStatements hmem href with rfl | rfl
      · exact .inr (.inl (htable (.inl haction)))
      · refine .inr (.inr ?_)
        rw [Step.objects, haction]
        exact List.mem_map_of_mem hfield
  | alterColumn haction =>
      obtain ⟨field, hfield, rfl⟩ := List.mem_map.1 hmem
      have hrefs : (Sql.Statement.alterType step.table field).references =
          [.table step.table, .column step.table field.name] := rfl
      rw [hrefs, List.mem_cons, List.mem_singleton] at href
      rcases href with rfl | rfl
      · exact .inr (.inl (htable (.inr haction)))
      · obtain ⟨live, hlive, hcolumns⟩ := live_of_column_step hstep (.inr haction)
        exact .inr (.inl (meant_column_iff.2 ⟨live, hlive, hcolumns haction field hfield⟩))
  | addForeignKey haction => exact .inl (.inl haction)
  | addIndex haction => exact .inl (.inr haction)

/-- At a step of the last two phases everything is made. -/
theorem made_subset {before after : List Step} (hsplit : (between target actual).steps = before ++ step :: after)
    (hlater : step.action = .addForeignKey ∨ step.action = .addIndex) :
    made target actual ⊆ before.flatMap Step.objects := by
  intro object hobject
  obtain ⟨earlier, hearlier, hobject⟩ := List.mem_flatMap.1 hobject
  refine List.mem_flatMap.2 ⟨earlier, (phases_before hsplit hlater).subset ?_, hobject⟩
  simp only [between, List.mem_append] at hearlier
  rcases hearlier with (hearlier | hearlier) | hearlier
  · exact List.mem_append.2 hearlier
  · obtain ⟨table, -, key, -, -, rfl⟩ := mem_foreignKeySteps hearlier
    cases hobject
  · obtain ⟨table, -, index, rfl⟩ := mem_indexSteps hearlier
    cases hobject

/-- Where a statement stands in the plan, a reference of it is exact if and only if it is spelled like the live
object or, if that is not live, like the declaration in the model. -/
theorem exact_iff_declared (hdb : Model.WellBuilt target) {statements before after : List Sql.Statement}
    (hstatements : Sql.statementsOfSteps (between target actual).steps limit = .ok statements)
    (hsplit : statements = before ++ statement :: after) (href : reference ∈ statement.references) :
    reference.Exact actual.objects (before.flatMap Sql.Statement.created)
      ↔ reference.Exact actual.objects target.objects := by
  have hall := Sql.created_statementsOfSteps hstatements
  obtain ⟨first, step, last, own, hsteps, hown, hmem, hfirst⟩ := Sql.step_of_statement hstatements hsplit
  have hearlier : before.flatMap Sql.Statement.created ⊆ made target actual := by
    rw [made, ← hall, hsplit, List.flatMap_append]
    exact List.subset_append_left _ _
  have hstep : step ∈ (between target actual).steps := by
    rw [hsteps]
    exact List.mem_append_right _ List.mem_cons_self
  rcases reference_cases hstep hown hmem href with hlater | hlive | hself
  · -- everything that is made is made by now
    refine Object.exact_congr fun hnot object hthing => ?_
    have hmade : object ∈ before.flatMap Sql.Statement.created ↔ object ∈ made target actual :=
      ⟨fun h => hearlier h, fun h => hfirst (made_subset hsteps hlater h)⟩
    rw [hmade, mem_made_iff]
    refine and_iff_left fun hmeant => hnot ?_
    rwa [Object.Meant, ← hthing]
  · rw [Object.exact_iff_of_meant hlive, Object.exact_iff_of_meant hlive]
  · -- the model declares the object as the step makes it, and no other of its name
    have hmade : reference ∈ made target actual := List.mem_flatMap.2 ⟨step, hstep, hself⟩
    obtain ⟨hdeclared, hnot⟩ := mem_made_iff.1 hmade
    constructor
    · exact fun _ => ⟨fun hmeant => absurd hmeant hnot, fun _ _ => ⟨reference, hdeclared, rfl, rfl⟩⟩
    · refine fun _ => ⟨fun hmeant => absurd hmeant hnot, fun _ ⟨object, hobject, hthing⟩ => ?_⟩
      obtain rfl := object_unique hdb (mem_made_iff.1 (hearlier hobject)).1 hdeclared hthing
      exact ⟨object, hobject, rfl, rfl⟩

/-- The fields of the steps have types that the model declares. -/
theorem declarable_of_step (htarget : Model.Compiled target) (hstep : step ∈ (between target actual).steps) :
    ∀ field ∈ step.fields, Model.Declarable field.type := by
  have htyped := htarget.typed.tables
  cases planned_of_mem hstep with
  | createTable htable => exact htyped _ htable
  | addColumn htable _ hfield => exact List.forall_mem_singleton.2 (htyped _ htable _ hfield)
  | alterColumn _ htable _ hfield => exact List.forall_mem_singleton.2 (htyped _ htable _ hfield)
  | addForeignKey => exact List.forall_mem_nil _
  | addIndex => exact List.forall_mem_nil _

/-- The statements of a plan for a compiled model consist of quoted names and text without quotes. Each reference
is exact where it stands if and only if it is spelled as the live schema spells the object or, if the object is not
live, as the model does. -/
theorem references_exact_iff (htarget : Model.Compiled target) (actual : Database) (limit : Int)
    {texts : List String} (hsql : Sql.ofPlan (between target actual) limit = .ok texts) :
    ∃ statements, Sql.statementsOfSteps (between target actual).steps limit = .ok statements
      ∧ texts = statements.map Sql.Statement.text
      ∧ (∀ statement ∈ statements, ∀ text, .plain text ∈ statement.parts → '"' ∉ text.toList)
      ∧ ∀ before statement after, statements = before ++ statement :: after →
        ∀ reference ∈ statement.references,
          (reference.Exact actual.objects (before.flatMap Sql.Statement.created)
            ↔ reference.Exact actual.objects target.objects) := by
  rw [Sql.ofPlan, ← Sql.text_statementsOfSteps] at hsql
  obtain ⟨statements, hstatements, rfl⟩ := map_eq_ok hsql
  refine ⟨statements, hstatements, rfl, ?_, ?_⟩
  · intro statement hmem text hplain
    have hparts := Sql.plainParts_statementsOfSteps (fun step hstep => declarable_of_step htarget hstep) hstatements
    exact Sql.quote_not_mem (hparts statement hmem text hplain)
  · intro before statement after hsplit reference href
    exact exact_iff_declared htarget.linked.toWellBuilt hstatements hsplit href

/-- A relationship and an index that spell their table and their column in lower case. -/
def crewFiles : List Model.Source :=
  [{ name := "crew.dmd"
     text := "model Team \x7b\n  string Code\n  index (code)\n\x7d\nmodel User \x7b\n  model team\n\x7d\n" }]

/-- What the crew compiles to. -/
def crewModel : Database where
  tables :=
    { items :=
        [{ name := "Team"
           fields := [{ name := "TeamID", type := { name := "integer" }, primaryKey := true, identity := true },
                      { name := "Code", type := { name := "varchar", precision := some 255 } }]
           indexes := [{ fields := ["code"] }] },
         { name := "User"
           fields := [{ name := "UserID", type := { name := "integer" }, primaryKey := true, identity := true },
                      { name := "teamID", type := { name := "integer" } }]
           foreignKeys := [{ column := "teamID", target := "team", targetColumn := "teamID"
                             relationship := .oneToOne }] }]
      distinct := by decide +kernel }

theorem compiled_crewModel : Model.Compiled crewModel := by
  have hschema : (Model.compile {} crewFiles).schema = crewModel := by decide +kernel
  rw [← hschema]
  exact .batch .empty crewFiles

/-- One of the tables, in upper case. -/
def crewLive : Database where
  tables := { items := [{ name := "USER", fields := [{ name := "USERID", type := { name := "integer" } }] }]
              distinct := by decide }

theorem references_exact_iff_crew :
    let plan := between crewModel crewLive
    ∃ texts, Model.Compiled crewModel ∧ Sql.ofPlan plan 63 = .ok texts
      ∧ ∃ statements, Sql.statementsOfSteps plan.steps 63 = .ok statements
        ∧ texts = statements.map Sql.Statement.text
        ∧ (∀ statement ∈ statements, ∀ text, .plain text ∈ statement.parts → '"' ∉ text.toList)
        ∧ ∀ before statement after, statements = before ++ statement :: after →
          ∀ reference ∈ statement.references,
            (reference.Exact crewLive.objects (before.flatMap Sql.Statement.created)
              ↔ reference.Exact crewLive.objects crewModel.objects) := by
  have hsome : (Sql.ofPlan (between crewModel crewLive) 63).isOk = true := by decide +kernel
  obtain ⟨texts, htexts⟩ : ∃ texts, Sql.ofPlan (between crewModel crewLive) 63 = .ok texts := by
    cases hplan : Sql.ofPlan (between crewModel crewLive) 63 with
    | error error =>
        rw [hplan] at hsome
        cases hsome
    | ok texts => exact ⟨texts, rfl⟩
  exact ⟨texts, compiled_crewModel, htexts, references_exact_iff compiled_crewModel crewLive 63 htexts⟩

/-- The statements that create the crew where nothing is live. -/
def crewStatements : List Sql.Statement :=
  [.createTable "Team"
     [{ name := "TeamID", type := { name := "integer" }, primaryKey := true, identity := true },
      { name := "Code", type := { name := "varchar", precision := some 255 } }] (some "PK_Team"),
   .createTable "User"
     [{ name := "UserID", type := { name := "integer" }, primaryKey := true, identity := true },
      { name := "teamID", type := { name := "integer" } }] (some "PK_User"),
   .addForeignKey "User"
     { column := "teamID", target := "team", targetColumn := "teamID", relationship := .oneToOne } "FK_User_teamID",
   .createIndex { name := "IX_User_teamID_FK", table := "User", columns := ["teamID"], supports := true },
   .createIndex { name := "IX_Team_code", table := "Team", columns := ["code"] }]

/-- The foreign key refers to a table that was created under another spelling. -/
theorem references_respelled :
    Model.Compiled crewModel ∧ Sql.ofPlan (between crewModel {}) 63 = .ok (crewStatements.map Sql.Statement.text)
      ∧ Sql.statementsOfSteps (between crewModel {}).steps 63 = .ok crewStatements
      ∧ ¬ ∀ before statement after, crewStatements = before ++ statement :: after →
        ∀ reference ∈ statement.references,
          reference.Exact ({} : Database).objects (before.flatMap Sql.Statement.created) := by
  refine ⟨compiled_crewModel, by decide +kernel, by decide +kernel, fun hexact => ?_⟩
  have hteam := hexact (crewStatements.take 2) (crewStatements[2]) (crewStatements.drop 3) rfl (.table "team") (by decide)
  revert hteam
  decide +kernel

end Spelling

end Plan

end SchemaMigrate
