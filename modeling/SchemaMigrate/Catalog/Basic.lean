import SchemaMigrate.ColumnType.Canonical
import SchemaMigrate.Schema.Basic
import SchemaMigrate.Text.Search

/-!
The catalog of a live database: the rows it answers, and the schema they describe.
-/

namespace SchemaMigrate.Catalog

/-- A row about a column. Nullability and identity are answered as `YES` or `NO`. -/
structure ColumnRow where
  name : String
  type : String
  charLength : Option Int := none
  numericPrecision : Option Int := none
  numericScale : Option Int := none
  nullable : String := "NO"
  identity : String := "NO"
  default : Option String := none
deriving Repr, DecidableEq

structure ForeignKeyRow where
  column : String
  target : String
  targetColumn : String
deriving Repr, DecidableEq

structure IndexRow where
  name : String
  columns : List String
  unique : Bool := false
  clustered : Bool := false
deriving Repr, DecidableEq

/-- What the catalog answers about one table. -/
structure TableRows where
  columns : List ColumnRow := []
  primaryKey : List String := []
  foreignKeys : List ForeignKeyRow := []
  indexes : List IndexRow := []
deriving Repr, DecidableEq

/-- Tables that belong to the system and are left out. -/
def systemTables : List String := ["schema_migrations", "pg_stat_statements", "spatial_ref_sys"]

/-- The type of a column, its length taken for its precision where it has one. -/
def ColumnRow.columnType (row : ColumnRow) : ColumnType :=
  .ofCatalog
    { name := row.type, precision := row.charLength <|> row.numericPrecision, scale := row.numericScale }

/-- A column numbers itself if it says so or takes its default from a sequence. -/
def ColumnRow.isIdentity (row : ColumnRow) : Bool :=
  row.identity == "YES" || Text.startsWith (row.default.getD "") "nextval("

def ColumnRow.field (row : ColumnRow) (primaryKey : List String) : Field where
  name := row.name
  type := row.columnType
  nullable := row.nullable == "YES"
  identity := row.isIdentity
  primaryKey := primaryKey.contains row.name

/-- Whether the last of the fields of exactly this name takes nulls. -/
def takesNulls (fields : List Field) (column : String) : Bool :=
  (fields.findRev? (·.name == column)).any (·.nullable)

/-- A foreign key takes nulls if its column does. -/
def ForeignKeyRow.foreignKey (row : ForeignKeyRow) (fields : List Field) : ForeignKey where
  column := row.column
  target := row.target
  targetColumn := row.targetColumn
  nullable := takesNulls fields row.column

/-- An index is an alternate key by its name. -/
def IndexRow.index (row : IndexRow) : Index where
  fields := row.columns
  unique := row.unique
  alternateKey := Text.startsWith row.name "AK_"
  kind := if row.clustered then .clustered else .nonclustered
  name := some row.name

/-- The table that the rows describe. -/
def TableRows.table (rows : TableRows) (name : String) : Table :=
  let fields := rows.columns.map (·.field rows.primaryKey)
  { name
    fields
    foreignKeys := rows.foreignKeys.map (·.foreignKey fields)
    indexes := rows.indexes.map IndexRow.index }

end SchemaMigrate.Catalog
