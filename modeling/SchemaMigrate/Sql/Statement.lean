import SchemaMigrate.ColumnType.Render
import SchemaMigrate.Plan.Basic
import SchemaMigrate.Sql.Identifier

/-!
The statements that carry out the steps of a plan.
-/

namespace SchemaMigrate.Sql

/-- The value that existing rows get in a new column that takes no nulls. A column whose name ends like
an identifier gets one, other numbers zero; types without a convention have none. -/
def backfill? (field : Field) : Option String :=
  match field.family? with
  | some .integer | some .decimal | some .float =>
      some (if (nameKey "ID").toList.isSuffixOf (nameKey field.name).toList then "1" else "0")
  | some .boolean => some "false"
  | some .timestamp => some "CURRENT_TIMESTAMP"
  | some .date => some "CURRENT_DATE"
  | some .uuid => some "gen_random_uuid()"
  | some .string => some "''"
  | some .binary => some "decode('', 'hex')"
  | none => none

/-- What stands between the type of a column and its nullability. -/
def columnOption (field : Field) (default : Option String) : String :=
  if field.identity then " GENERATED BY DEFAULT AS IDENTITY"
  else match default with
    | some value => " DEFAULT " ++ value
    | none => ""

/-- A column with its type, its option and its nullability. -/
def columnDefinition (field : Field) (default : Option String) : String :=
  quote field.name ++ " " ++ field.type.sql ++ columnOption field default
    ++ (if field.nullable then "" else " NOT NULL")

/-- The constraint over the key fields, if there are any. -/
def primaryKeyClause (table : String) (fields : List Field) (limit : Int) :
    Except SqlError (List String) :=
  match fields.filter (·.primaryKey) with
  | [] => .ok []
  | keys => do
      let name ← primaryKeyName table limit
      .ok ["  CONSTRAINT " ++ quote name ++ " PRIMARY KEY ("
        ++ Text.joinWith ", " (keys.map (quote ·.name)) ++ ")"]

def createTable (table : String) (fields : List Field) (limit : Int) : Except SqlError String := do
  let clause ← primaryKeyClause table fields limit
  let columns := fields.map fun field => "  " ++ columnDefinition field none
  .ok ("CREATE TABLE " ++ quote table ++ " (\n" ++ Text.joinWith ",\n" (columns ++ clause) ++ "\n)")

/-- Adds a column. One that takes no nulls is filled through a default that is dropped afterwards. -/
def addColumn (table : String) (field : Field) : List String :=
  let alter := "ALTER TABLE " ++ quote table
  if field.nullable || field.identity then
    [alter ++ " ADD COLUMN " ++ columnDefinition field none]
  else
    match backfill? field with
    | none => [alter ++ " ADD COLUMN " ++ columnDefinition field none]
    | some value =>
        [alter ++ " ADD COLUMN " ++ columnDefinition field (some value),
         alter ++ " ALTER COLUMN " ++ quote field.name ++ " DROP DEFAULT"]

def alterColumnType (table : String) (field : Field) : String :=
  "ALTER TABLE " ++ quote table ++ " ALTER COLUMN " ++ quote field.name ++ " TYPE " ++ field.type.sql

/-- The constraint and the index that supports it. -/
def addForeignKey (table : String) (key : ForeignKey) (limit : Int) :
    Except SqlError (List String) := do
  let constraint ← foreignKeyName table key.column limit
  let support ← foreignKeyIndexName table key.column limit
  .ok
    ["ALTER TABLE " ++ quote table ++ " ADD CONSTRAINT " ++ quote constraint ++ " FOREIGN KEY ("
      ++ quote key.column ++ ") REFERENCES " ++ quote key.target ++ " (" ++ quote key.targetColumn ++ ")",
     "CREATE INDEX IF NOT EXISTS " ++ quote support ++ " ON " ++ quote table ++ " ("
      ++ quote key.column ++ ")"]

/-- Creates an index. How it is clustered has no counterpart in the database. -/
def addIndex (table : String) (index : Index) (limit : Int) : Except SqlError String := do
  let name ← indexName table index.fields index.alternateKey limit
  .ok ("CREATE " ++ (if index.unique then "UNIQUE " else "") ++ "INDEX " ++ quote name ++ " ON "
    ++ quote table ++ " (" ++ Text.joinWith ", " (index.fields.map quote) ++ ")")

/-- The statements of a step. What a narrowing does to the data is not among them. -/
def ofStep (step : Step) (limit : Int) : Except SqlError (List String) :=
  match step.action with
  | .createTable => (fun statement => [statement]) <$> createTable step.table step.fields limit
  | .addColumn => .ok (step.fields.flatMap (addColumn step.table))
  | .alterColumn => .ok (step.fields.map (alterColumnType step.table))
  | .addForeignKey =>
      match step.foreignKey with
      | none => .error (.noForeignKey step.table)
      | some key => addForeignKey step.table key limit
  | .addIndex =>
      match step.index with
      | none => .error (.noIndex step.table)
      | some index => (fun statement => [statement]) <$> addIndex step.table index limit

/-- The statements of steps, up to the first that cannot be written. -/
def ofSteps : List Step → Int → Except SqlError (List String)
  | [], _ => .ok []
  | step :: steps, limit => do
      let first ← ofStep step limit
      let others ← ofSteps steps limit
      .ok (first ++ others)

/-- The statements of a plan, for a preview. -/
def ofPlan (plan : Plan) (limit : Int) : Except SqlError (List String) := ofSteps plan.steps limit

end SchemaMigrate.Sql
