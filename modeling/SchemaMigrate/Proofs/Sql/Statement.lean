import Mathlib.Data.List.Basic
import SchemaMigrate.Proofs.Outcome
import SchemaMigrate.Sql.Statement

/-!
The statements of a migration as data. A statement is made of parts, of which the quoted names tell what they
stand for: something that the statement makes, or something that must be there. Main statement: the texts of
a step are those of its statements, so what is read off the parts is in the text.
-/

namespace SchemaMigrate.Sql

/-- A part of a statement: plain text, or a quoted name. The names of constraints and indexes, and those of
new tables and columns, are given by the statement; the other names are references. -/
inductive Part where
  | plain (text : String)
  | newTable (name : String)
  | newColumn (table name : String)
  | newConstraint (table name : String)
  | newIndex (name : String)
  | table (name : String)
  | column (table name : String)
deriving Repr, DecidableEq

def Part.text : Part → String
  | .plain text => text
  | .newTable name | .newColumn _ name | .newConstraint _ name | .newIndex name => quote name
  | .table name | .column _ name => quote name

/-- The text of some parts. -/
def textOf : List Part → String
  | [] => ""
  | part :: parts => part.text ++ textOf parts

/-- Stretches of parts with a separator between them. -/
def joinParts (separator : String) : List (List Part) → List Part
  | [] => []
  | [parts] => parts
  | parts :: rest => parts ++ .plain separator :: joinParts separator rest

/-- An index under the name that it gets. The one that supports a foreign key is created if the name is free. -/
structure NewIndex where
  name : String
  table : String
  columns : List String
  unique : Bool := false
  supports : Bool := false
deriving Repr, DecidableEq

/-- A statement, with the names that were generated for it. -/
inductive Statement where
  | createTable (table : String) (fields : List Field) (constraint : Option String)
  | addColumn (table : String) (field : Field) (default : Option String)
  | dropDefault (table column : String)
  | alterType (table : String) (field : Field)
  | addForeignKey (table : String) (key : ForeignKey) (constraint : String)
  | createIndex (index : NewIndex)
deriving Repr, DecidableEq

/-- What follows the name of a column where it is defined. -/
def definitionTail (field : Field) (default : Option String) : String :=
  " " ++ field.type.sql ++ columnOption field default ++ (if field.nullable then "" else " NOT NULL")

def columnList (table : String) (columns : List String) : List Part :=
  joinParts ", " (columns.map fun column => [.column table column])

/-- The line of the key constraint, if there is one. -/
def keyLine (table : String) (fields : List Field) : Option String → List (List Part)
  | none => []
  | some constraint =>
      [[.plain "  CONSTRAINT ", .newConstraint table constraint, .plain " PRIMARY KEY ("]
        ++ columnList table ((fields.filter (·.primaryKey)).map (·.name)) ++ [.plain ")"]]

def Statement.parts : Statement → List Part
  | .createTable table fields constraint =>
      [.plain "CREATE TABLE ", .newTable table, .plain " (\n"]
        ++ joinParts ",\n"
          (fields.map (fun field => [.plain "  ", .newColumn table field.name, .plain (definitionTail field none)])
            ++ keyLine table fields constraint)
        ++ [.plain "\n)"]
  | .addColumn table field default =>
      [.plain "ALTER TABLE ", .table table, .plain " ADD COLUMN ", .newColumn table field.name,
       .plain (definitionTail field default)]
  | .dropDefault table column =>
      [.plain "ALTER TABLE ", .table table, .plain " ALTER COLUMN ", .column table column, .plain " DROP DEFAULT"]
  | .alterType table field =>
      [.plain "ALTER TABLE ", .table table, .plain " ALTER COLUMN ", .column table field.name,
       .plain (" TYPE " ++ field.type.sql)]
  | .addForeignKey table key constraint =>
      [.plain "ALTER TABLE ", .table table, .plain " ADD CONSTRAINT ", .newConstraint table constraint,
       .plain " FOREIGN KEY (", .column table key.column, .plain ") REFERENCES ", .table key.target,
       .plain " (", .column key.target key.targetColumn, .plain ")"]
  | .createIndex index =>
      [.plain ("CREATE " ++ (if index.unique then "UNIQUE " else "") ++ "INDEX "
        ++ (if index.supports then "IF NOT EXISTS " else "")), .newIndex index.name, .plain " ON ",
       .table index.table, .plain " ("] ++ columnList index.table index.columns ++ [.plain ")"]

/-- A statement as it is sent. -/
def Statement.text (statement : Statement) : String := textOf statement.parts

section Steps

variable (table : String) (limit : Int)

def tableStatement (fields : List Field) : Except SqlError Statement :=
  if (fields.filter (·.primaryKey)).isEmpty then .ok (.createTable table fields none)
  else (fun name => .createTable table fields (some name)) <$> primaryKeyName table limit

def columnStatements (field : Field) : List Statement :=
  if field.nullable || field.identity then [.addColumn table field none]
  else
    match backfill? field with
    | none => [.addColumn table field none]
    | some value => [.addColumn table field (some value), .dropDefault table field.name]

def keyStatements (key : ForeignKey) : Except SqlError (List Statement) := do
  let constraint ← foreignKeyName table key.column limit
  let name ← foreignKeyIndexName table key.column limit
  .ok [.addForeignKey table key constraint, .createIndex { name, table, columns := [key.column], supports := true }]

def indexStatement (index : Index) : Except SqlError Statement := do
  let name ← indexName table index.fields index.alternateKey limit
  .ok (.createIndex { name, table, columns := index.fields, unique := index.unique })

end Steps

/-- The statements of a step as data. -/
def statementsOf (step : Step) (limit : Int) : Except SqlError (List Statement) :=
  match step.action with
  | .createTable => (fun statement => [statement]) <$> tableStatement step.table limit step.fields
  | .addColumn => .ok (step.fields.flatMap (columnStatements step.table))
  | .alterColumn => .ok (step.fields.map (.alterType step.table))
  | .addForeignKey =>
      match step.foreignKey with
      | none => .error (.noForeignKey step.table)
      | some key => keyStatements step.table limit key
  | .addIndex =>
      match step.index with
      | none => .error (.noIndex step.table)
      | some index => (fun statement => [statement]) <$> indexStatement step.table limit index

/-- The statements of steps, up to the first that cannot be written. -/
def statementsOfSteps : List Step → Int → Except SqlError (List Statement)
  | [], _ => .ok []
  | step :: steps, limit => do
      let first ← statementsOf step limit
      let others ← statementsOfSteps steps limit
      .ok (first ++ others)

section Joining

theorem textOf_append (first second : List Part) : textOf (first ++ second) = textOf first ++ textOf second := by
  induction first with
  | nil => simp [textOf]
  | cons part parts ih => rw [List.cons_append, textOf, textOf, ih, String.append_assoc]

theorem textOf_joinParts (separator : String) (stretches : List (List Part)) :
    textOf (joinParts separator stretches) = Text.joinWith separator (stretches.map textOf) := by
  induction stretches with
  | nil => rfl
  | cons parts rest ih =>
      cases rest with
      | nil => rfl
      | cons next others =>
          have hparts : joinParts separator (parts :: next :: others) =
              parts ++ .plain separator :: joinParts separator (next :: others) := rfl
          have htexts : Text.joinWith separator ((parts :: next :: others).map textOf) =
              textOf parts ++ separator ++ Text.joinWith separator ((next :: others).map textOf) := rfl
          rw [hparts, htexts, textOf_append, textOf, ih, Part.text, String.append_assoc]

theorem filterMap_part_cons {α : Type} (read : Part → Option α) (part : Part) (parts : List Part) :
    (part :: parts).filterMap read = (read part).toList ++ parts.filterMap read := by
  rw [List.filterMap_eq_flatMap_toList, List.flatMap_cons, ← List.filterMap_eq_flatMap_toList]

/-- What is read off the parts is not in the separators. -/
theorem filterMap_joinParts {α : Type} (read : Part → Option α) (hplain : ∀ text, read (.plain text) = none)
    (separator : String) (stretches : List (List Part)) :
    (joinParts separator stretches).filterMap read = stretches.flatMap (·.filterMap read) := by
  induction stretches with
  | nil => rfl
  | cons parts rest ih =>
      cases rest with
      | nil => simp [joinParts]
      | cons next others =>
          rw [joinParts, List.filterMap_append, List.filterMap_cons_none (hplain _), ih, ← List.flatMap_cons]
          simp

theorem filterMap_columnList {α : Type} (read : Part → Option α) (hplain : ∀ text, read (.plain text) = none)
    (table : String) (columns : List String) :
    (columnList table columns).filterMap read = columns.filterMap fun column => read (.column table column) := by
  rw [columnList, filterMap_joinParts read hplain, List.flatMap_map, List.filterMap_eq_flatMap_toList]
  refine List.flatMap_congr fun column _ => ?_
  rw [filterMap_part_cons, List.filterMap_nil, List.append_nil]

/-- What is read off the line of the key constraint. -/
theorem filterMap_keyLine {α : Type} (read : Part → Option α) (hplain : ∀ text, read (.plain text) = none)
    (table : String) (fields : List Field) (constraint : Option String) :
    (keyLine table fields constraint).flatMap (·.filterMap read) =
      constraint.toList.flatMap fun name => (read (.newConstraint table name)).toList
        ++ (fields.filter (·.primaryKey)).filterMap fun field => read (.column table field.name) := by
  cases constraint with
  | none => rfl
  | some name =>
      rw [keyLine, List.flatMap_singleton, List.filterMap_append, List.filterMap_append,
        filterMap_columnList read hplain, List.filterMap_map]
      simp [filterMap_part_cons, hplain]

/-- What is read off a statement that creates a table. -/
theorem filterMap_createTable {α : Type} (read : Part → Option α) (hplain : ∀ text, read (.plain text) = none)
    (table : String) (fields : List Field) (constraint : Option String) :
    (Statement.createTable table fields constraint).parts.filterMap read =
      (read (.newTable table)).toList ++ fields.filterMap (fun field => read (.newColumn table field.name))
        ++ constraint.toList.flatMap fun name => (read (.newConstraint table name)).toList
          ++ (fields.filter (·.primaryKey)).filterMap fun field => read (.column table field.name) := by
  have hfields : (fields.map fun field => [Part.plain "  ", .newColumn table field.name,
      .plain (definitionTail field none)]).flatMap (·.filterMap read) =
      fields.filterMap fun field => read (.newColumn table field.name) := by
    rw [List.flatMap_map, List.filterMap_eq_flatMap_toList]
    refine List.flatMap_congr fun field _ => ?_
    simp [filterMap_part_cons, hplain]
  rw [Statement.parts, List.filterMap_append, List.filterMap_append, filterMap_joinParts read hplain,
    List.flatMap_append, hfields, filterMap_keyLine read hplain]
  simp [filterMap_part_cons, hplain]

theorem textOf_columnList (table : String) (columns : List String) :
    textOf (columnList table columns) = Text.joinWith ", " (columns.map quote) := by
  rw [columnList, textOf_joinParts, List.map_map]
  congr 1
  refine List.map_congr_left fun column _ => ?_
  simp [textOf, Part.text]

end Joining

section Texts

variable (table : String) (limit : Int)

theorem text_alterType (field : Field) : (Statement.alterType table field).text = alterColumnType table field := by
  simp only [Statement.text, Statement.parts, textOf, Part.text, alterColumnType, String.append_assoc,
    String.append_empty]

theorem text_addColumn (field : Field) (default : Option String) :
    (Statement.addColumn table field default).text =
      "ALTER TABLE " ++ quote table ++ " ADD COLUMN " ++ columnDefinition field default := by
  simp [Statement.text, Statement.parts, textOf, Part.text, columnDefinition, definitionTail, String.append_assoc]

theorem text_dropDefault (column : String) :
    (Statement.dropDefault table column).text =
      "ALTER TABLE " ++ quote table ++ " ALTER COLUMN " ++ quote column ++ " DROP DEFAULT" := by
  simp [Statement.text, Statement.parts, textOf, Part.text, String.append_assoc]

theorem text_columnStatements (field : Field) :
    (columnStatements table field).map Statement.text = addColumn table field := by
  unfold columnStatements addColumn
  split
  · rw [List.map_singleton, text_addColumn]
  · cases backfill? field with
    | none => rw [List.map_singleton, text_addColumn]
    | some value => rw [List.map_cons, List.map_singleton, text_addColumn, text_dropDefault]

theorem text_createTable (fields : List Field) (constraint : Option String) :
    (Statement.createTable table fields constraint).text =
      "CREATE TABLE " ++ quote table ++ " (\n"
        ++ Text.joinWith ",\n"
          (fields.map (fun field => "  " ++ columnDefinition field none) ++ (keyLine table fields constraint).map textOf)
        ++ "\n)" := by
  have hcolumns : (fields.map fun field => textOf
      [.plain "  ", .newColumn table field.name, .plain (definitionTail field none)]) =
      fields.map fun field => "  " ++ columnDefinition field none := by
    refine List.map_congr_left fun field _ => ?_
    simp [textOf, Part.text, columnDefinition, definitionTail, String.append_assoc]
  rw [Statement.text, Statement.parts, textOf_append, textOf_append, textOf_joinParts, List.map_append, List.map_map]
  simp only [Function.comp_def, hcolumns]
  simp [textOf, Part.text, String.append_assoc]

theorem text_tableStatement (fields : List Field) :
    Statement.text <$> tableStatement table limit fields = createTable table fields limit := by
  unfold tableStatement createTable primaryKeyClause
  cases hkeys : fields.filter (·.primaryKey) with
  | nil =>
      rw [List.isEmpty_nil, if_pos rfl]
      change Except.ok (Statement.createTable table fields none).text = _
      rw [text_createTable]
      rfl
  | cons key keys =>
      rw [List.isEmpty_cons, if_neg (by decide)]
      cases primaryKeyName table limit with
      | error error => rfl
      | ok name =>
          change Except.ok (Statement.createTable table fields (some name)).text = _
          rw [text_createTable]
          simp only [keyLine, hkeys, List.map_singleton, textOf_append, textOf_columnList, List.map_map]
          simp [textOf, Part.text, bind, Except.bind, Function.comp_def, String.append_assoc]

theorem text_keyStatements (key : ForeignKey) :
    (·.map Statement.text) <$> keyStatements table limit key = addForeignKey table key limit := by
  unfold keyStatements addForeignKey
  cases foreignKeyName table key.column limit with
  | error error => rfl
  | ok constraint =>
      cases foreignKeyIndexName table key.column limit with
      | error error => rfl
      | ok name =>
          simp [bind, Except.bind, Functor.map, Except.map, Statement.text, Statement.parts, textOf, Part.text,
            columnList, joinParts, String.append_assoc]

theorem text_indexStatement (index : Index) :
    Statement.text <$> indexStatement table limit index = addIndex table index limit := by
  unfold indexStatement addIndex
  cases indexName table index.fields index.alternateKey limit with
  | error error => rfl
  | ok name =>
      simp [bind, Except.bind, Functor.map, Except.map, Statement.text, Statement.parts, textOf, textOf_append,
        textOf_columnList, Part.text, String.append_assoc]

/-- The texts of a step are those of its statements. -/
theorem text_statementsOf (step : Step) :
    (·.map Statement.text) <$> statementsOf step limit = ofStep step limit := by
  unfold statementsOf ofStep
  cases step.action with
  | createTable =>
      rw [← text_tableStatement]
      cases tableStatement step.table limit step.fields <;> rfl
  | addColumn =>
      change Except.ok ((step.fields.flatMap (columnStatements step.table)).map Statement.text) = _
      rw [List.map_flatMap]
      simp only [text_columnStatements]
  | alterColumn =>
      change Except.ok ((step.fields.map (Statement.alterType step.table)).map Statement.text) = _
      rw [List.map_map]
      simp only [Function.comp_def, text_alterType]
  | addForeignKey =>
      cases step.foreignKey with
      | none => rfl
      | some key => exact text_keyStatements step.table limit key
  | addIndex =>
      cases step.index with
      | none => rfl
      | some index =>
          simp only [← text_indexStatement]
          cases indexStatement step.table limit index <;> rfl

theorem text_statementsOfSteps (steps : List Step) :
    (·.map Statement.text) <$> statementsOfSteps steps limit = ofSteps steps limit := by
  induction steps with
  | nil => rfl
  | cons step steps ih =>
      rw [statementsOfSteps, ofSteps, ← text_statementsOf, ← ih]
      cases statementsOf step limit with
      | error error => rfl
      | ok own =>
          cases statementsOfSteps steps limit with
          | error error => rfl
          | ok others => simp [bind, Except.bind, Functor.map, Except.map]

end Texts

section Writing

variable {step : Step} {limit : Int} {own : List Statement}

/-- The statements that a step can have. -/
inductive Written (step : Step) : List Statement → Prop
  | createTable (haction : step.action = .createTable) (constraint : Option String) :
      Written step [.createTable step.table step.fields constraint]
  | addColumn (haction : step.action = .addColumn) :
      Written step (step.fields.flatMap (columnStatements step.table))
  | alterColumn (haction : step.action = .alterColumn) : Written step (step.fields.map (.alterType step.table))
  | addForeignKey (haction : step.action = .addForeignKey) (key : ForeignKey) (constraint name : String) :
      Written step [.addForeignKey step.table key constraint,
        .createIndex { name, table := step.table, columns := [key.column], supports := true }]
  | addIndex (haction : step.action = .addIndex) (index : NewIndex) : Written step [.createIndex index]

/-- How the statements of a step come about, by its action. -/
theorem statementsOf_cases (h : statementsOf step limit = .ok own) :
    (step.action = .createTable ∧ ∃ statement, tableStatement step.table limit step.fields = .ok statement ∧
      own = [statement]) ∨
    (step.action = .addColumn ∧ own = step.fields.flatMap (columnStatements step.table)) ∨
    (step.action = .alterColumn ∧ own = step.fields.map (.alterType step.table)) ∨
    (step.action = .addForeignKey ∧ ∃ key, step.foreignKey = some key ∧
      keyStatements step.table limit key = .ok own) ∨
    step.action = .addIndex ∧ ∃ index, step.index = some index ∧
      ∃ statement, indexStatement step.table limit index = .ok statement ∧ own = [statement] := by
  unfold statementsOf at h
  cases haction : step.action with
  | createTable =>
      rw [haction] at h
      obtain ⟨statement, hstatement, rfl⟩ := map_eq_ok h
      exact .inl ⟨rfl, statement, hstatement, rfl⟩
  | addColumn =>
      rw [haction] at h
      exact .inr (.inl ⟨rfl, ok_eq_ok_iff.1 h⟩)
  | alterColumn =>
      rw [haction] at h
      exact .inr (.inr (.inl ⟨rfl, ok_eq_ok_iff.1 h⟩))
  | addForeignKey =>
      rw [haction] at h
      cases hkey : step.foreignKey with
      | none =>
          rw [hkey] at h
          cases h
      | some key =>
          rw [hkey] at h
          exact .inr (.inr (.inr (.inl ⟨rfl, key, rfl, h⟩)))
  | addIndex =>
      rw [haction] at h
      cases hindex : step.index with
      | none =>
          rw [hindex] at h
          cases h
      | some index =>
          rw [hindex] at h
          obtain ⟨statement, hstatement, rfl⟩ := map_eq_ok h
          exact .inr (.inr (.inr (.inr ⟨rfl, index, rfl, statement, hstatement, rfl⟩)))

theorem written_of_statementsOf (h : statementsOf step limit = .ok own) : Written step own := by
  rcases statementsOf_cases h with ⟨haction, statement, hstatement, rfl⟩ | ⟨haction, rfl⟩ | ⟨haction, rfl⟩ |
    ⟨haction, key, -, hkey⟩ | ⟨haction, index, -, statement, hstatement, rfl⟩
  · unfold tableStatement at hstatement
    split at hstatement
    · cases hstatement
      exact .createTable haction none
    · obtain ⟨name, -, rfl⟩ := map_eq_ok hstatement
      exact .createTable haction (some name)
  · exact .addColumn haction
  · exact .alterColumn haction
  · obtain ⟨constraint, -, hkey⟩ := bind_eq_ok hkey
    obtain ⟨name, -, hkey⟩ := bind_eq_ok hkey
    cases hkey
    exact .addForeignKey haction key constraint name
  · obtain ⟨name, -, hstatement⟩ := bind_eq_ok hstatement
    cases hstatement
    exact .addIndex haction _

/-- A statement of some steps is one of a step. -/
theorem mem_statementsOfSteps {steps : List Step} {statements : List Statement} {statement : Statement}
    (h : statementsOfSteps steps limit = .ok statements) (hmem : statement ∈ statements) :
    ∃ step ∈ steps, ∃ own, statementsOf step limit = .ok own ∧ statement ∈ own := by
  induction steps generalizing statements with
  | nil =>
      cases h
      cases hmem
  | cons step steps ih =>
      obtain ⟨own, hown, h⟩ := bind_eq_ok h
      obtain ⟨others, hothers, h⟩ := bind_eq_ok h
      cases h
      rcases List.mem_append.1 hmem with hmem | hmem
      · exact ⟨step, List.mem_cons_self, own, hown, hmem⟩
      · obtain ⟨later, hlater, hstatement⟩ := ih hothers hmem
        exact ⟨later, List.mem_cons_of_mem _ hlater, hstatement⟩

end Writing

end SchemaMigrate.Sql
