import SchemaMigrate.Catalog.Basic
import SchemaMigrate.Notice

/-!
Introspection: the schema of a live database, read table by table through the queries of the catalog.
The queries are kept in order, also when one of them fails.
-/

namespace SchemaMigrate.Catalog

/-- A query to the catalog. -/
inductive Query where
  | tables (schema : String)
  | columns (schema table : String)
  | primaryKey (schema table : String)
  | foreignKeys (schema table : String)
  | indexes (schema table : String)
deriving Repr, DecidableEq

/-- A catalog that answers each query with rows or a message. -/
structure Source where
  tables : String → Except String (List String)
  columns : String → String → Except String (List ColumnRow)
  primaryKey : String → String → Except String (List String)
  foreignKeys : String → String → Except String (List ForeignKeyRow)
  indexes : String → String → Except String (List IndexRow)

/-- Why a schema could not be read. -/
inductive IntrospectError where
  | notConnected
  | query (message : String)
  | schema (error : SchemaError)
deriving Repr, DecidableEq

def IntrospectError.message : IntrospectError → String
  | .notConnected => "Introspector not connected. Use with statement."
  | .query message => message
  | .schema error => error.message

/-- A course of reading, which keeps the queries it makes. -/
abbrev Inquiry (α : Type) := ExceptT IntrospectError (StateM (List Query)) α

/-- Makes a query. -/
def ask {α : Type} (query : Query) (answer : Except String α) : Inquiry α := do
  modify (· ++ [query])
  match answer with
  | .ok rows => pure rows
  | .error message => throw (.query message)

/-- The names of the tables of a schema, the system's own left out. -/
def tableNames (source : Source) (schema : String) : Inquiry (List String) := do
  let names ← ask (.tables schema) (source.tables schema)
  pure (names.filter fun name => !systemTables.contains name)

/-- Everything about one table. -/
def readTable (source : Source) (schema table : String) : Inquiry Table := do
  let columns ← ask (.columns schema table) (source.columns schema table)
  let primaryKey ← ask (.primaryKey schema table) (source.primaryKey schema table)
  let foreignKeys ← ask (.foreignKeys schema table) (source.foreignKeys schema table)
  let indexes ← ask (.indexes schema table) (source.indexes schema table)
  pure (TableRows.table { columns, primaryKey, foreignKeys, indexes } table)

/-- Reads tables into a schema. -/
def readTables (source : Source) (schema : String) (db : Database) : List String → Inquiry Database
  | [] => pure db
  | name :: names => do
      let table ← readTable source schema name
      match db.addTable table with
      | .error error => throw (.schema error)
      | .ok db => readTables source schema db names

/-- The whole schema. -/
def introspect (source : Source) (schema : String) : Inquiry Database := do
  let names ← tableNames source schema
  readTables source schema {} names

/-- The schema that is read unless another is named. -/
def defaultSchema : String := "public"

/-- What is said once a schema has been read. -/
def introspectNotice (schema : String) (db : Database) : Notice where
  level := .info
  speaker := .introspection
  text := s!"Introspected {db.tables.items.length} table(s) from schema '{schema}'"

end SchemaMigrate.Catalog
