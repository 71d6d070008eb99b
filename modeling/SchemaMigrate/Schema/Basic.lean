import SchemaMigrate.ColumnType.Basic
import SchemaMigrate.NameMap

/-!
The schema of a database: tables with their fields, foreign keys and indexes, and the mixins from which
models take fields. A compiled model and a live database have the same form, so that they can be
compared directly.
-/

namespace SchemaMigrate

/-- A column. Whether it is optional is a remark of the model and does not bear on nullability. -/
structure Field where
  name : String
  type : ColumnType
  nullable : Bool := false
  optional : Bool := false
  primaryKey : Bool := false
  identity : Bool := false
  attributes : Attributes := []
deriving Repr, DecidableEq

/-- How many rows of one table may refer to one row of another. -/
inductive Relationship where
  | oneToOne
  | oneToMany
deriving Repr, DecidableEq

/-- A foreign key over one column, pointing at the key of another table. -/
structure ForeignKey where
  column : String
  target : String
  targetColumn : String
  relationship : Relationship := .oneToMany
  nullable : Bool := false
deriving Repr, DecidableEq

inductive IndexKind where
  | clustered
  | nonclustered
deriving Repr, DecidableEq

/-- An index over fields in order. Only indexes of a live database have a name of their own. -/
structure Index where
  fields : List String := []
  unique : Bool := false
  alternateKey : Bool := false
  kind : IndexKind := .nonclustered
  name : Option String := none
deriving Repr, DecidableEq

structure Table where
  name : String
  fields : List Field := []
  foreignKeys : List ForeignKey := []
  indexes : List Index := []
  mixins : List String := []
  attributes : Attributes := []
deriving Repr, DecidableEq

/-- A template of fields and foreign keys that models apply. -/
structure Mixin where
  name : String
  fields : List Field := []
  foreignKeys : List ForeignKey := []
deriving Repr, DecidableEq

instance : Named Field := ⟨Field.name⟩
instance : Named Table := ⟨Table.name⟩
instance : Named Mixin := ⟨Mixin.name⟩

structure Database where
  tables : NameMap Table := {}
  mixins : NameMap Mixin := {}
deriving DecidableEq

def Field.hasAttribute (field : Field) (name : String) : Bool := field.attributes.has name

def Field.family? (field : Field) : Option TypeFamily := typeFamily? field.type.name

def Table.field? (table : Table) (name : String) : Option Field := findNamed? table.fields name

def Table.hasField (table : Table) (name : String) : Bool := (table.field? name).isSome

/-- The first field of the key; tables of a live database may have none. -/
def Table.primaryKey? (table : Table) : Option Field := table.fields.find? (·.primaryKey)

def Table.hasAttribute (table : Table) (name : String) : Bool := table.attributes.has name

/-- The column that a token of an index stands for: the column of the last foreign key to a table of
that name, or the field so called. -/
def Table.indexColumn (table : Table) (token : String) : String :=
  table.foreignKeys.foldl
    (fun column key => if sameName key.target token then key.column else column) token

/-- Writes columns in place of the tokens of an index. -/
def Table.resolveIndex (table : Table) (index : Index) : Index :=
  { index with fields := index.fields.map table.indexColumn }

/-- Writes columns in place of tokens in every index. -/
def Table.resolveIndexes (table : Table) : Table :=
  { table with indexes := table.indexes.map table.resolveIndex }

/-- A name is taken. -/
inductive SchemaError where
  | duplicateTable (name : String)
  | duplicateMixin (name : String)
deriving Repr, DecidableEq

def SchemaError.message : SchemaError → String
  | .duplicateTable name => "Duplicate table '" ++ name ++ "'"
  | .duplicateMixin name => "Duplicate mixin '" ++ name ++ "'"

namespace Database

def table? (db : Database) (name : String) : Option Table := db.tables.get? name

def hasTable (db : Database) (name : String) : Bool := db.tables.contains name

def mixin? (db : Database) (name : String) : Option Mixin := db.mixins.get? name

def addTable (db : Database) (table : Table) : Except SchemaError Database :=
  match db.tables.add? table with
  | none => .error (.duplicateTable table.name)
  | some tables => .ok { db with tables }

def addMixin (db : Database) (mixin : Mixin) : Except SchemaError Database :=
  match db.mixins.add? mixin with
  | none => .error (.duplicateMixin mixin.name)
  | some mixins => .ok { db with mixins }

/-- Stores a table in the place of the one of its name. -/
def putTable (db : Database) (table : Table) : Database :=
  { db with tables := db.tables.put table }

def putMixin (db : Database) (mixin : Mixin) : Database :=
  { db with mixins := db.mixins.put mixin }

/-- A schema with the given mixins and tables, in order. -/
def ofLists (mixins : List Mixin) (tables : List Table) : Except SchemaError Database := do
  let db ← mixins.foldlM addMixin {}
  tables.foldlM addTable db

end Database

end SchemaMigrate
