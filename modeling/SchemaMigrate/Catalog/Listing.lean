import SchemaMigrate.Catalog.Introspect

/-!
A catalog given as a list of tables, which may be told to fail at a query.
-/

namespace SchemaMigrate.Catalog

/-- A table of a listing. -/
structure ListedTable where
  name : String
  schema : String := defaultSchema
  rows : TableRows := {}
deriving Repr, DecidableEq

/-- What a query is about. -/
inductive QueryKind where
  | tables
  | columns
  | primaryKey
  | foreignKeys
  | indexes
deriving Repr, DecidableEq

def Query.kind : Query → QueryKind
  | .tables _ => .tables
  | .columns _ _ => .columns
  | .primaryKey _ _ => .primaryKey
  | .foreignKeys _ _ => .foreignKeys
  | .indexes _ _ => .indexes

/-- The parameters of a query. -/
def Query.params : Query → List String
  | .tables schema => [schema]
  | .columns schema table | .primaryKey schema table | .foreignKeys schema table
  | .indexes schema table => [schema, table]

/-- Fails the queries of a kind, or only the one with these parameters. -/
structure FailureRule where
  kind : QueryKind
  params : Option (List String) := none
  message : String
deriving Repr, DecidableEq

def FailureRule.hits (rule : FailureRule) (query : Query) : Bool :=
  rule.kind == query.kind && rule.params.all (· == query.params)

structure Listing where
  tables : List ListedTable := []
  failure : Option FailureRule := none
deriving Repr, DecidableEq

namespace Listing

/-- Answers a query, unless it is to fail. -/
def answer {α : Type} (listing : Listing) (query : Query) (rows : α) : Except String α :=
  match listing.failure with
  | none => .ok rows
  | some rule => if rule.hits query then .error rule.message else .ok rows

/-- The rows of the first table of this schema and name. -/
def rows (listing : Listing) (schema table : String) : TableRows :=
  (listing.tables.find? fun listed => listed.schema == schema && listed.name == table).elim {} (·.rows)

def source (listing : Listing) : Source where
  tables schema :=
    listing.answer (.tables schema)
      ((listing.tables.filter (·.schema == schema)).map (·.name))
  columns schema table :=
    listing.answer (.columns schema table) (listing.rows schema table).columns
  primaryKey schema table :=
    listing.answer (.primaryKey schema table) (listing.rows schema table).primaryKey
  foreignKeys schema table :=
    listing.answer (.foreignKeys schema table) (listing.rows schema table).foreignKeys
  indexes schema table :=
    listing.answer (.indexes schema table) (listing.rows schema table).indexes

end Listing

end SchemaMigrate.Catalog
