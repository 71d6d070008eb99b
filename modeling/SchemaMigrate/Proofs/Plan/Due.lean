import Mathlib.Data.List.Pairwise
import SchemaMigrate.Proofs.Plan.Naming

/-!
The steps that are due. Main statement: a step is in a plan exactly if the model has what it is for and the live
schema has not. From this follows which statements the plans for a model can send at all.
-/

namespace SchemaMigrate

/-- Steps that the model calls for in a live schema, with the reason. -/
inductive Due (target live : Database) : Step → Prop
  | createTable {table : Table} (htable : table ∈ target.tables.items)
      (hmissing : live.hasTable table.name = false) : Due target live (.createTable table)
  | addColumn {table found : Table} {field : Field} (htable : table ∈ target.tables.items)
      (hfound : live.table? table.name = some found) (hfield : field ∈ table.fields)
      (hmissing : found.field? field.name = none) : Due target live (.addColumn table.name field)
  | alterColumn {table found : Table} {field : Field} (widening : Bool) (htable : table ∈ target.tables.items)
      (hfound : live.table? table.name = some found) (hfield : field ∈ table.fields)
      (hdecision : decideColumn found field = if widening then .widen else .narrow) :
      Due target live (.alterColumn table.name field widening)
  | addForeignKey {table : Table} {key : ForeignKey} (htable : table ∈ target.tables.items)
      (hkey : key ∈ table.foreignKeys) (hbound : target.hasTable key.target = true)
      (hmissing : (Plan.liveKeys live table).any (sameForeignKey key) = false) :
      Due target live (.addForeignKey table.name key)
  | addIndex {table : Table} {index : Index} (htable : table ∈ target.tables.items) (hindex : index ∈ table.indexes)
      (hmissing : (Plan.liveIndexes live table).any (sameIndex index) = false) :
      Due target live (.addIndex table.name index)

namespace Plan

section Due

variable {target live : Database} {step : Step}

theorem step?_eq_some_iff {found : Table} {table : String} {field : Field} :
    (decideColumn found field).step? table field = some step ↔
      decideColumn found field = .add ∧ step = .addColumn table field ∨
      ∃ widening, decideColumn found field = (if widening then .widen else .narrow)
        ∧ step = .alterColumn table field widening := by
  cases decideColumn found field <;> simp [ColumnDecision.step?, eq_comm]

theorem due_column_iff : step ∈ columnSteps target live ↔
    ∃ table ∈ target.tables.items, ∃ found, live.table? table.name = some found ∧ ∃ field ∈ table.fields,
      (decideColumn found field).step? table.name field = some step := by
  refine ⟨mem_columnSteps, ?_⟩
  rintro ⟨table, htable, found, hfound, field, hfield, hstep⟩
  rw [columnSteps_eq, List.mem_flatMap]
  refine ⟨table, htable, ?_⟩
  rw [columnStepsOf, hfound]
  exact List.mem_filterMap.2 ⟨field, hfield, hstep⟩

/-- A step is planned exactly if it is due. -/
theorem mem_between_iff : step ∈ (between target live).steps ↔ Due target live step := by
  simp only [between, List.mem_append]
  constructor
  · rintro (((h | h) | h) | h)
    · obtain ⟨table, htable, hmissing, rfl⟩ := mem_tableSteps h
      exact .createTable htable hmissing
    · obtain ⟨table, htable, found, hfound, field, hfield, hstep⟩ := mem_columnSteps h
      rcases step?_eq_some_iff.1 hstep with ⟨hdecision, rfl⟩ | ⟨widening, hdecision, rfl⟩
      · cases decideColumn_eq_iff.1 hdecision with
        | add hmissing => exact .addColumn htable hfound hfield hmissing
      · exact .alterColumn widening htable hfound hfield hdecision
    · obtain ⟨table, htable, h⟩ := List.mem_flatMap.1 h
      obtain ⟨key, hkey, hstep⟩ := List.mem_filterMap.1 h
      cases hdecision : decideKey target (liveKeys live table) key with
      | add =>
          rw [hdecision] at hstep
          cases hstep
          obtain ⟨hmissing, hbound⟩ := decideKey_eq_add_iff.1 hdecision
          exact .addForeignKey htable hkey hbound hmissing
      | present | dangling =>
          rw [hdecision] at hstep
          cases hstep
    · obtain ⟨table, htable, h⟩ := List.mem_flatMap.1 h
      obtain ⟨index, hindex, hstep⟩ := List.mem_filterMap.1 h
      obtain ⟨hmissing, hstep⟩ := Option.ite_none_left_eq_some.1 hstep
      cases hstep
      exact .addIndex htable hindex (Bool.eq_false_iff.2 hmissing)
  · intro h
    cases h with
    | createTable htable hmissing => exact .inl (.inl (.inl (createTable_mem htable hmissing)))
    | addColumn htable hfound hfield hmissing =>
        refine .inl (.inl (.inr (due_column_iff.2 ⟨_, htable, _, hfound, _, hfield, ?_⟩)))
        exact step?_eq_some_iff.2 (.inl ⟨decideColumn_eq_iff.2 (.add hmissing), rfl⟩)
    | alterColumn widening htable hfound hfield hdecision =>
        refine .inl (.inl (.inr (due_column_iff.2 ⟨_, htable, _, hfound, _, hfield, ?_⟩)))
        exact step?_eq_some_iff.2 (.inr ⟨widening, hdecision, rfl⟩)
    | addForeignKey htable hkey hbound hmissing =>
        refine .inl (.inr (List.mem_flatMap.2 ⟨_, htable, List.mem_filterMap.2 ⟨_, hkey, ?_⟩⟩))
        rw [decideKey_eq_add_iff.2 ⟨hmissing, hbound⟩]
        rfl
    | addIndex htable hindex hmissing =>
        refine .inr (List.mem_flatMap.2 ⟨_, htable, List.mem_filterMap.2 ⟨_, hindex, ?_⟩⟩)
        rw [hmissing]
        rfl

end Due

end Plan

section Inversion

variable {target live : Database}

theorem Due.createTable_missing {table : Table} (h : Due target live (.createTable table)) :
    live.hasTable table.name = false := by
  generalize hstep : Step.createTable table = step at h
  cases h with
  | @createTable other _ hmissing =>
      have hname : table.name = other.name := congrArg Step.table hstep
      rwa [hname]
  | addColumn | alterColumn | addForeignKey | addIndex => cases congrArg Step.action hstep

theorem Due.alterColumn_decision {table : String} {field : Field} {widening : Bool}
    (h : Due target live (.alterColumn table field widening)) {found : Table} (hfound : live.table? table = some found) :
    decideColumn found field = if widening then .widen else .narrow := by
  generalize hstep : Step.alterColumn table field widening = step at h
  cases h with
  | @alterColumn owner _ altered wide _ hthere _ hdecision =>
      obtain rfl : table = owner.name := congrArg Step.table hstep
      obtain rfl : field = altered := List.head_eq_of_cons_eq (congrArg Step.fields hstep)
      obtain rfl : widening = wide := congrArg Step.widening hstep
      cases hfound.symm.trans hthere
      exact hdecision
  | createTable | addColumn | addForeignKey | addIndex => cases congrArg Step.action hstep

theorem Due.addForeignKey_mem {table : String} {key : ForeignKey} (h : Due target live (.addForeignKey table key)) :
    ∃ referring ∈ target.tables.items, referring.name = table ∧ key ∈ referring.foreignKeys ∧
      target.hasTable key.target = true := by
  generalize hstep : Step.addForeignKey table key = step at h
  cases h with
  | @addForeignKey owner added htable hkey hbound =>
      obtain rfl : table = owner.name := congrArg Step.table hstep
      obtain rfl : key = added := Option.some.inj (congrArg Step.foreignKey hstep)
      exact ⟨owner, htable, rfl, hkey, hbound⟩
  | createTable | addColumn | alterColumn | addIndex => cases congrArg Step.action hstep

theorem Due.addIndex_missing {table : String} {index : Index} (h : Due target live (.addIndex table index))
    {found : Table} (hfound : live.table? table = some found) : found.indexes.any (sameIndex index) = false := by
  generalize hstep : Step.addIndex table index = step at h
  cases h with
  | @addIndex owner added _ _ hmissing =>
      obtain rfl : table = owner.name := congrArg Step.table hstep
      obtain rfl : index = added := Option.some.inj (congrArg Step.index hstep)
      rwa [Plan.liveIndexes, hfound] at hmissing
  | createTable | addColumn | alterColumn | addForeignKey => cases congrArg Step.action hstep

end Inversion

/-- Every step that a plan for a model can have at a table. A column is narrowed as it is widened. -/
def Database.stepsAt (target : Database) (table : Table) : List Step :=
  .createTable table :: (table.fields.map (.addColumn table.name) ++ (table.fields.map (.alterColumn table.name · true)
    ++ ((target.boundKeys table).map (.addForeignKey table.name) ++ table.indexes.map (.addIndex table.name))))

/-- Every statement that a plan for a model can send, apart from what changes rows. -/
def Database.possibleStatements (target : Database) (limit : Int) : List Sql.Statement :=
  (target.tables.items.flatMap target.stepsAt).flatMap fun step => (Sql.statementsOf step limit).toOption.getD []

section Possible

variable {target live : Database} {step : Step} {limit : Int} {own : List Sql.Statement} {statement : Sql.Statement}

theorem Due.possible (h : Due target live step) : ∃ table ∈ target.tables.items, ∃ possible ∈ target.stepsAt table,
    Sql.statementsOf possible limit = Sql.statementsOf step limit := by
  cases h with
  | createTable htable => exact ⟨_, htable, _, List.mem_cons_self, rfl⟩
  | addColumn htable _ hfield =>
      refine ⟨_, htable, _, List.mem_cons_of_mem _ ?_, rfl⟩
      exact List.mem_append_left _ (List.mem_map_of_mem hfield)
  | @alterColumn table _ field widening htable _ hfield =>
      refine ⟨_, htable, .alterColumn table.name field true, List.mem_cons_of_mem _ (List.mem_append_right _ ?_), rfl⟩
      exact List.mem_append_left _ (List.mem_map_of_mem (f := (Step.alterColumn table.name · true)) hfield)
  | addForeignKey htable hkey hbound =>
      refine ⟨_, htable, _, List.mem_cons_of_mem _ (List.mem_append_right _ (List.mem_append_right _ ?_)), rfl⟩
      exact List.mem_append_left _ (List.mem_map_of_mem (List.mem_filter.2 ⟨hkey, hbound⟩))
  | addIndex htable hindex =>
      refine ⟨_, htable, _, List.mem_cons_of_mem _ (List.mem_append_right _ (List.mem_append_right _ ?_)), rfl⟩
      exact List.mem_append_right _ (List.mem_map_of_mem hindex)

theorem Due.of_narrows (h : Due target live step) (hnarrows : step.action = .alterColumn ∧ step.widening = false) :
    ∃ table field, step = .alterColumn table field false := by
  cases h with
  | @alterColumn table _ field widening =>
      obtain rfl : widening = false := hnarrows.2
      exact ⟨table.name, field, rfl⟩
  | createTable | addColumn | addForeignKey | addIndex => cases hnarrows.1

theorem Due.statement_mem (h : Due target live step) (hown : Sql.statementsOf step limit = .ok own)
    (hmem : statement ∈ own) : statement ∈ target.possibleStatements limit := by
  obtain ⟨table, htable, possible, hpossible, hsame⟩ := @Due.possible _ _ _ limit h
  refine List.mem_flatMap.2 ⟨possible, List.mem_flatMap.2 ⟨table, htable, hpossible⟩, ?_⟩
  rw [hsame, hown]
  exact hmem

end Possible

namespace Sql

/-- A default that is dropped again might as well have been left out. -/
def condense : List Statement → List Statement
  | [.addColumn table field _, .dropDefault _ _] => [.addColumn table field none]
  | statements => statements

/-- The statements of the steps of a plan. A column is added with a default if its table may have rows that need
a value in it. -/
inductive Writes (limit : Int) : Step → List Statement → Prop
  | createTable (table : Table) (constraint : Option String) :
      Writes limit (.createTable table) [.createTable table.name table.fields constraint]
  | addColumn (table : String) (field : Field) : Writes limit (.addColumn table field) [.addColumn table field none]
  | fillColumn (table : String) (field : Field) (value : String) :
      Writes limit (.addColumn table field) [.addColumn table field (some value), .dropDefault table field.name]
  | alterColumn (table : String) (field : Field) (widening : Bool) :
      Writes limit (.alterColumn table field widening) [.alterType table field]
  | addForeignKey (table : String) (key : ForeignKey) (constraint : String) {name : String}
      (hname : foreignKeyIndexName table key.column limit = .ok name) :
      Writes limit (.addForeignKey table key)
        [.addForeignKey table key constraint, .createIndex { name, table, columns := [key.column], supports := true }]
  | addIndex (table : String) (index : Index) {name : String}
      (hname : indexName table index.fields index.alternateKey limit = .ok name) :
      Writes limit (.addIndex table index)
        [.createIndex { name, table, columns := index.fields, unique := index.unique }]

theorem Writes.length_le {limit : Int} {step : Step} {own : List Statement} (h : Writes limit step own) :
    own.length ≤ 2 := by
  cases h with
  | fillColumn | addForeignKey => exact Nat.le_refl 2
  | createTable | addColumn | alterColumn | addIndex => exact Nat.le_succ 1

/-- A step creates one index at most. -/
theorem Writes.index_unique {limit : Int} {step : Step} {own : List Statement} (h : Writes limit step own)
    {left right : NewIndex} (hleft : .createIndex left ∈ own) (hright : .createIndex right ∈ own) : left = right := by
  cases h with
  | addForeignKey | addIndex =>
      simp only [List.mem_cons, Statement.createIndex.injEq, reduceCtorEq, false_or, List.not_mem_nil, or_false]
        at hleft hright
      rw [hleft, hright]
  | createTable | addColumn | fillColumn | alterColumn => simp at hleft

/-- What a step of a plan for a model is for, by its statements. -/
inductive Serves (target : Database) (limit : Int) : Step → Statement → Prop
  | createTable {table : Table} (htable : table ∈ target.tables.items) (constraint : Option String) :
      Serves target limit (.createTable table) (.createTable table.name table.fields constraint)
  | addColumn {table : Table} {field : Field} (htable : table ∈ target.tables.items) (hfield : field ∈ table.fields)
      (default : Option String) :
      Serves target limit (.addColumn table.name field) (.addColumn table.name field default)
  | alterColumn {table : Table} {field : Field} (htable : table ∈ target.tables.items) (hfield : field ∈ table.fields)
      (widening : Bool) : Serves target limit (.alterColumn table.name field widening) (.alterType table.name field)
  | addForeignKey {table : Table} {key : ForeignKey} (htable : table ∈ target.tables.items)
      (hkey : key ∈ table.foreignKeys) (constraint : String) :
      Serves target limit (.addForeignKey table.name key) (.addForeignKey table.name key constraint)
  | support {table : Table} {key : ForeignKey} (htable : table ∈ target.tables.items)
      (hkey : key ∈ table.foreignKeys) {name : String}
      (hname : foreignKeyIndexName table.name key.column limit = .ok name) :
      Serves target limit (.addForeignKey table.name key)
        (.createIndex { name, table := table.name, columns := [key.column], supports := true })
  | addIndex {table : Table} {index : Index} (htable : table ∈ target.tables.items) (hindex : index ∈ table.indexes)
      {name : String} (hname : indexName table.name index.fields index.alternateKey limit = .ok name) :
      Serves target limit (.addIndex table.name index)
        (.createIndex { name, table := table.name, columns := index.fields, unique := index.unique })

end Sql

section Forms

open Sql

variable {target live : Database} {step : Step} {limit : Int} {own : List Statement} {statement : Statement}

theorem writes_createTable {table : Table} (hown : statementsOf (.createTable table) limit = .ok own) :
    ∃ constraint, own = [.createTable table.name table.fields constraint] := by
  obtain ⟨statement, hstatement, rfl⟩ := map_eq_ok hown
  unfold tableStatement at hstatement
  split at hstatement
  · cases hstatement
    exact ⟨none, rfl⟩
  · obtain ⟨name, -, rfl⟩ := map_eq_ok hstatement
    exact ⟨some name, rfl⟩

theorem writes_addColumn {table : String} {field : Field} (hown : statementsOf (.addColumn table field) limit = .ok own) :
    own = [.addColumn table field none] ∨
      ∃ value, own = [.addColumn table field (some value), .dropDefault table field.name] := by
  have hstatements : statementsOf (.addColumn table field) limit = .ok (columnStatements table field) :=
    congrArg Except.ok (List.flatMap_singleton ..)
  cases hstatements.symm.trans hown
  unfold columnStatements
  split
  · exact .inl rfl
  · cases backfill? field with
    | none => exact .inl rfl
    | some value => exact .inr ⟨value, rfl⟩

theorem writes_addForeignKey {table : String} {key : ForeignKey}
    (hown : statementsOf (.addForeignKey table key) limit = .ok own) :
    ∃ constraint name, foreignKeyIndexName table key.column limit = .ok name ∧
      own = [.addForeignKey table key constraint,
        .createIndex { name, table, columns := [key.column], supports := true }] := by
  obtain ⟨constraint, -, hown⟩ := bind_eq_ok hown
  obtain ⟨name, hname, hown⟩ := bind_eq_ok hown
  cases hown
  exact ⟨constraint, name, hname, rfl⟩

theorem writes_addIndex {table : String} {index : Index} (hown : statementsOf (.addIndex table index) limit = .ok own) :
    ∃ name, indexName table index.fields index.alternateKey limit = .ok name ∧
      own = [.createIndex { name, table, columns := index.fields, unique := index.unique }] := by
  obtain ⟨statement, hstatement, rfl⟩ := map_eq_ok hown
  obtain ⟨name, hname, hstatement⟩ := bind_eq_ok hstatement
  cases hstatement
  exact ⟨name, hname, rfl⟩

theorem Due.writes (h : Due target live step) (hown : statementsOf step limit = .ok own) : Writes limit step own := by
  cases h with
  | @createTable table =>
      obtain ⟨constraint, rfl⟩ := writes_createTable hown
      exact .createTable table constraint
  | @addColumn table _ field =>
      rcases writes_addColumn hown with rfl | ⟨value, rfl⟩
      · exact .addColumn table.name field
      · exact .fillColumn table.name field value
  | @alterColumn table _ field widening =>
      cases hown
      exact .alterColumn table.name field widening
  | @addForeignKey table key =>
      obtain ⟨constraint, name, hname, rfl⟩ := writes_addForeignKey hown
      exact .addForeignKey table.name key constraint hname
  | @addIndex table index =>
      obtain ⟨name, hname, rfl⟩ := writes_addIndex hown
      exact .addIndex table.name index hname

/-- A due step is for its statements, and for its first one too where that has a default. -/
theorem Due.serves (h : Due target live step) (hown : statementsOf step limit = .ok own)
    (hmem : statement ∈ condense own ∨ ∃ rest, own = statement :: rest) : Serves target limit step statement := by
  cases h with
  | @createTable table htable =>
      obtain ⟨constraint, rfl⟩ := writes_createTable hown
      obtain rfl : statement = .createTable table.name table.fields constraint := by
        simpa [condense, eq_comm] using hmem
      exact .createTable htable constraint
  | @addColumn table _ field htable _ hfield =>
      have hstatement : ∃ default, statement = .addColumn table.name field default := by
        rcases writes_addColumn hown with rfl | ⟨value, rfl⟩
        · exact ⟨none, by simpa [condense, eq_comm] using hmem⟩
        · rcases hmem with hmem | ⟨rest, hfirst⟩
          · exact ⟨none, List.mem_singleton.1 hmem⟩
          · exact ⟨some value, (List.cons.inj hfirst).1.symm⟩
      obtain ⟨default, rfl⟩ := hstatement
      exact .addColumn htable hfield default
  | @alterColumn table _ field widening htable _ hfield =>
      obtain rfl : own = [.alterType table.name field] := (Except.ok.inj hown).symm
      obtain rfl : statement = .alterType table.name field := by simpa [condense, eq_comm] using hmem
      exact .alterColumn htable hfield widening
  | @addForeignKey table key htable hkey =>
      obtain ⟨constraint, name, hname, rfl⟩ := writes_addForeignKey hown
      have hstatement : statement = .addForeignKey table.name key constraint ∨
          statement = .createIndex { name, table := table.name, columns := [key.column], supports := true } := by
        rcases hmem with hmem | ⟨rest, hfirst⟩
        · simpa [condense] using hmem
        · exact .inl (List.cons.inj hfirst).1.symm
      rcases hstatement with rfl | rfl
      · exact .addForeignKey htable hkey constraint
      · exact .support htable hkey hname
  | @addIndex table index htable hindex =>
      obtain ⟨name, hname, rfl⟩ := writes_addIndex hown
      obtain rfl : statement = .createIndex { name, table := table.name, columns := index.fields, unique := index.unique } := by
        simpa [condense, eq_comm] using hmem
      exact .addIndex htable hindex hname

/-- The first statement of a step is among those that it comes to, unless the step adds a column. -/
theorem Due.first_cases (h : Due target live step) {rest : List Statement}
    (hown : statementsOf step limit = .ok (statement :: rest)) :
    statement ∈ condense (statement :: rest) ∨ ∃ table field, step = .addColumn table field := by
  generalize hall : statement :: rest = own at hown
  cases h.writes hown with
  | fillColumn table field value => exact .inr ⟨table, field, rfl⟩
  | createTable | addColumn | alterColumn | addForeignKey | addIndex =>
      cases hall
      exact .inl List.mem_cons_self

/-- Of what a step comes to, all but the index that supports a foreign key is done with the first statement, unless
the step adds a column. -/
theorem Due.rest_cases (h : Due target live step) {first : Statement} {rest : List Statement}
    (hown : statementsOf step limit = .ok (first :: rest)) (hmem : statement ∈ condense (first :: rest)) :
    statement = first ∨ (∃ table field, step = .addColumn table field) ∨
      ∃ table key name, step = .addForeignKey table key ∧ foreignKeyIndexName table key.column limit = .ok name
        ∧ statement = .createIndex { name, table, columns := [key.column], supports := true } := by
  generalize hall : first :: rest = own at hown hmem
  cases h.writes hown with
  | fillColumn table field value => exact .inr (.inl ⟨table, field, rfl⟩)
  | createTable | addColumn | alterColumn | addIndex =>
      cases hall
      exact .inl (List.mem_singleton.1 hmem)
  | addForeignKey table key constraint hname =>
      cases hall
      rcases List.mem_cons.1 hmem with rfl | hmem
      · exact .inl rfl
      · exact .inr (.inr ⟨table, key, _, rfl, hname, List.mem_singleton.1 hmem⟩)

/-- A column that a step comes to has no default. -/
theorem Due.addColumn_bare (h : Due target live step) (hown : statementsOf step limit = .ok own) {table : String}
    {field : Field} {default : Option String} (hmem : .addColumn table field default ∈ condense own) :
    default = none := by
  cases h.writes hown with
  | addColumn | fillColumn =>
      cases List.mem_singleton.1 hmem
      rfl
  | createTable | alterColumn | addIndex => cases List.mem_singleton.1 hmem
  | addForeignKey => simp [condense] at hmem

theorem Sql.Serves.steady (h : Serves target limit step statement)
    (hstatement : ∀ table field, statement ≠ .alterType table field) : step.action ≠ .alterColumn := by
  cases h with
  | alterColumn => exact absurd rfl (hstatement _ _)
  | createTable | addColumn | addForeignKey | support | addIndex => exact nofun

theorem Sql.Serves.index_mem {index : NewIndex} (h : Serves target limit step (.createIndex index))
    (hown : statementsOf step limit = .ok own) : .createIndex index ∈ own := by
  cases h with
  | support _ _ hname =>
      obtain ⟨constraint, name, hagain, rfl⟩ := writes_addForeignKey hown
      cases hname.symm.trans hagain
      exact List.mem_cons_of_mem _ (List.mem_singleton_self _)
  | addIndex _ _ hname =>
      obtain ⟨name, hagain, rfl⟩ := writes_addIndex hown
      cases hname.symm.trans hagain
      exact List.mem_singleton_self _

end Forms

section Naming

open Sql

variable {target live : Database} {limit : Int} {steps : List Step} {statements : List Statement}

/-- The names of the indexes that a step creates. -/
def Step.indexNames (limit : Int) (step : Step) : List String :=
  (((statementsOf step limit).toOption.getD []).filterMap Statement.index?).map (·.name)

theorem Step.mem_indexNames {step : Step} {own : List Statement} (hown : statementsOf step limit = .ok own)
    {index : NewIndex} (hmem : .createIndex index ∈ own) : index.name ∈ step.indexNames limit := by
  rw [Step.indexNames, hown]
  exact List.mem_map_of_mem (List.mem_filterMap.2 ⟨_, hmem, rfl⟩)

theorem statementsOfSteps_eq (h : statementsOfSteps steps limit = .ok statements) :
    statements = steps.flatMap fun step => (statementsOf step limit).toOption.getD [] := by
  induction steps generalizing statements with
  | nil => exact (Except.ok.inj h).symm
  | cons step steps ih =>
      obtain ⟨own, hown, h⟩ := bind_eq_ok h
      obtain ⟨others, hothers, h⟩ := bind_eq_ok h
      rw [List.flatMap_cons, hown, ← ih hothers]
      exact (Except.ok.inj h).symm

/-- Steps whose indexes have different names. -/
theorem nodup_indexNames (h : statementsOfSteps steps limit = .ok statements)
    (hnames : ((statements.filterMap Statement.index?).map (·.name)).Nodup) :
    (steps.flatMap (Step.indexNames limit)).Nodup := by
  rw [statementsOfSteps_eq h, List.filterMap_flatMap, List.map_flatMap] at hnames
  exact hnames

theorem eq_of_mem_flatMap {α β : Type} {items : List α} {parts : α → List β} (h : (items.flatMap parts).Nodup)
    {left right : α} (hleft : left ∈ items) (hright : right ∈ items) {part : β} (hpart : part ∈ parts left)
    (hagain : part ∈ parts right) : left = right := by
  by_contra hapart
  have hsymm : Std.Symm (Function.onFun List.Disjoint parts) := ⟨fun _ _ hdisjoint _ hleft hright => hdisjoint hright hleft⟩
  exact (List.nodup_flatMap.1 h).2.forall hleft hright hapart hpart hagain

end Naming

end SchemaMigrate
