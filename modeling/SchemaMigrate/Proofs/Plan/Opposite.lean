import SchemaMigrate.Proofs.Plan.Growth

/-!
Extras and the plan of the opposite direction. What the model does not know of a live schema is what would
have to be created if the two changed places. Main statement: the extras are, in order, the tables and the
columns that the opposite plan creates, and the indexes that it creates on tables both sides have, unless
they go along with a foreign key of the model.

The opposite plan knows nothing of the indexes of foreign keys, so these are the one difference between the
two ways of looking for what is missing.
-/

namespace SchemaMigrate

/-- Whether an index goes along with one of some foreign keys: it is over the column alone and not unique. -/
def Index.goesAlong (keys : List ForeignKey) (index : Index) : Bool :=
  !index.unique && match index.fields with
    | [column] => hasName (keys.map (·.column)) column
    | _ => false

/-- The columns of a step as a report shows them. -/
def Step.reportedColumns (step : Step) : List ExtraColumn :=
  step.fields.map fun field => { table := step.table, column := field.name, type := field.type.name }

/-- The index of a step as a report shows it. -/
def Step.reportedIndex? (step : Step) : Option ExtraIndex :=
  step.index.map fun index =>
    { table := step.table, fields := index.fields, unique := index.unique, name := index.name }

/-- Whether a step adds an index that goes along with a foreign key of the schema's version of its table. -/
def Step.addsSupport (db : Database) (step : Step) : Bool :=
  match db.table? step.table, step.index with
  | some table, some index => index.goesAlong table.foreignKeys
  | _, _ => false

namespace Plan

-- names are compared as a whole, never folded
attribute [local irreducible] nameKey

section Indexes

/-- The index of a foreign key is told by its form. -/
theorem any_supportIndex_eq (keys : List ForeignKey) (index : Index) :
    (keys.map supportIndex).any (sameIndex index) = index.goesAlong keys := by
  rw [Bool.eq_iff_iff, any_sameIndex_iff, List.map_map, List.mem_map, Index.goesAlong, Bool.and_eq_true,
    Bool.not_eq_true']
  have hsame (key : ForeignKey) : (supportIndex key).outline = index.outline ↔
      index.unique = false ∧ ∃ column, index.fields = [column] ∧ nameKey key.column = nameKey column := by
    rw [Index.outline, Index.outline, Prod.mk.injEq, and_comm, eq_comm]
    refine and_congr_right fun _ => ?_
    rw [eq_comm, supportIndex, List.map_singleton, List.map_eq_singleton_iff]
    exact exists_congr fun column => and_congr_right fun _ => eq_comm
  simp only [Function.comp_apply, hsame]
  constructor
  · rintro ⟨key, hkey, hunique, column, hfields, hname⟩
    rw [hfields]
    exact ⟨hunique, hasName_iff.2 (List.mem_map.2 ⟨key.column, List.mem_map_of_mem hkey, hname⟩)⟩
  · rintro ⟨hunique, hcolumn⟩
    split at hcolumn
    · rename_i column hfields
      obtain ⟨name, hmem, hname⟩ := List.mem_map.1 (hasName_iff.1 hcolumn)
      obtain ⟨key, hkey, rfl⟩ := List.mem_map.1 hmem
      exact ⟨key, hkey, hunique, column, hfields, hname⟩
    · cases hcolumn

/-- A table accounts for its own indexes and for those that go along with its foreign keys. -/
theorem any_expectedIndexes (table : Table) (index : Index) :
    (expectedIndexes table).any (sameIndex index) =
      (table.indexes.any (sameIndex index) || index.goesAlong table.foreignKeys) := by
  rw [expectedIndexes, List.any_append, any_supportIndex_eq]

end Indexes

section Steps

variable {target actual : Database}

theorem action_columnSteps :
    ∀ step ∈ columnSteps target actual, step.action = .addColumn ∨ step.action = .alterColumn := by
  intro step hmem
  obtain ⟨table, -, live, -, field, -, hdecision⟩ := mem_columnSteps hmem
  rcases step?_decideColumn hdecision with ⟨-, rfl⟩ | ⟨-, widening, -, -, rfl⟩
  · exact .inl rfl
  · exact .inr rfl

/-- The steps that add indexes are those of their phase. -/
theorem stepsFor_addIndex : (between target actual).stepsFor .addIndex = indexSteps target actual := by
  have hcolumns : (columnSteps target actual).filter (·.action == .addIndex) = [] := by
    rw [List.filter_eq_nil_iff]
    intro step hmem
    rcases action_columnSteps step hmem with haction | haction
    · rw [haction]
      decide
    · rw [haction]
      decide
  have hindexes : (indexSteps target actual).filter (·.action == .addIndex) = indexSteps target actual := by
    rw [List.filter_eq_self]
    intro step hmem
    rw [action_indexSteps step hmem]
    rfl
  simp only [stepsFor, between, List.filter_append]
  rw [filter_action_eq_nil action_tableSteps (by decide), filter_action_eq_nil action_foreignKeySteps (by decide),
    hcolumns, hindexes]
  rfl

/-- The fields that the model's version of a table has not are those that would be added to it. -/
theorem strangeFields_eq (table live : Table) :
    strangeFields table live =
      ((live.fields.filterMap fun field => (decideColumn table field).step? live.name field).filter
        (·.action == .addColumn)).flatMap Step.reportedColumns := by
  rw [strangeFields]
  induction live.fields with
  | nil => rfl
  | cons field fields ih =>
      rw [List.filterMap_cons, List.filterMap_cons]
      cases hfound : table.field? field.name with
      | none =>
          have hdecision : decideColumn table field = .add := by rw [decideColumn, hfound]
          rw [Table.hasField, hfound, hdecision]
          exact congrArg (_ :: ·) ih
      | some known =>
          rw [Table.hasField, hfound]
          cases hstep : (decideColumn table field).step? live.name field with
          | none => exact ih
          | some step =>
              rcases step?_decideColumn hstep with ⟨hmissing, -⟩ | ⟨-, widening, -, -, rfl⟩
              · rw [Table.hasField, hfound] at hmissing
                cases hmissing
              · exact ih

theorem extraColumns_eq_opposite :
    extraColumns target actual = ((between actual target).stepsFor .addColumn).flatMap Step.reportedColumns := by
  rw [extraColumns_eq, stepsFor_columns (.inl rfl), columnSteps_eq, List.filter_flatMap, List.flatMap_assoc]
  refine List.flatMap_congr fun live _ => ?_
  rw [columnStepsOf]
  cases target.table? live.name with
  | none => rfl
  | some table => exact strangeFields_eq table live

theorem extraTables_eq_opposite :
    extraTables target actual = ((between actual target).stepsFor .createTable).map (·.table) := by
  rw [stepsFor_createTable, extraTables, tableSteps, List.map_filterMap]
  refine List.filterMap_congr fun live _ => ?_
  cases target.hasTable live.name with
  | true => rfl
  | false => rfl

theorem extraIndexes_eq_opposite :
    extraIndexes target actual =
      (((between actual target).stepsFor .addIndex).filter fun step =>
        target.hasTable step.table && actual.hasTable step.table && !step.addsSupport target).filterMap
          Step.reportedIndex? := by
  rw [extraIndexes_eq, stepsFor_addIndex, indexSteps_eq, List.filter_flatMap, List.filterMap_flatMap]
  refine List.flatMap_congr fun live hlive => ?_
  have hactual : actual.hasTable live.name = true := NameMap.contains_of_mem hlive
  rw [indexStepsOf, liveIndexes, List.filter_filterMap, List.filterMap_filterMap]
  cases hfound : target.table? live.name with
  | none =>
      have hunknown : target.hasTable live.name = false := Database.hasTable_eq_false_iff.2 hfound
      refine (List.filterMap_eq_nil_iff.2 fun index _ => ?_).symm
      simp [Step.addIndex, hunknown]
  | some table =>
      have hknown : target.hasTable live.name = true := Option.isSome_of_eq_some hfound
      rw [Option.elim_some, strangeIndexes]
      refine List.filterMap_congr fun index _ => ?_
      have hsupport : (Step.addIndex live.name index).addsSupport target = index.goesAlong table.foreignKeys := by
        simp only [Step.addsSupport, Step.addIndex, hfound]
      have hselected : (target.hasTable (Step.addIndex live.name index).table
          && actual.hasTable (Step.addIndex live.name index).table
          && !(Step.addIndex live.name index).addsSupport target) = !index.goesAlong table.foreignKeys := by
        rw [hsupport]
        simp [Step.addIndex, hknown, hactual]
      rw [any_expectedIndexes, Option.elim_some]
      cases table.indexes.any (sameIndex index) with
      | true => rfl
      | false =>
          rw [Bool.false_or, if_neg Bool.false_ne_true, Option.filter_some, hselected]
          cases index.goesAlong table.foreignKeys with
          | true => rfl
          | false => rfl

end Steps

/-- The extras are the plan of the opposite direction. In the order of that plan, they are the tables that it
creates, the columns that it adds, and the indexes that it adds to tables which both sides have, unless the
index is not unique and over a single column that is a foreign key column of the model's version of the table. -/
theorem extras_eq_opposite (target actual : Database) :
    let extras := (between target actual).extras
    let opposite := between actual target
    extras.tables = (opposite.stepsFor .createTable).map (·.table)
    ∧ extras.columns = (opposite.stepsFor .addColumn).flatMap Step.reportedColumns
    ∧ extras.indexes =
        ((opposite.stepsFor .addIndex).filter fun step =>
          target.hasTable step.table && actual.hasTable step.table && !step.addsSupport target).filterMap
            Step.reportedIndex? :=
  ⟨extraTables_eq_opposite, extraColumns_eq_opposite, extraIndexes_eq_opposite⟩

end Plan

end SchemaMigrate
