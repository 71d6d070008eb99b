import SchemaMigrate.Schema.Basic
import SchemaMigrate.Text.Lines

/-!
The steps of a migration, in the words in which they are told.
-/

namespace SchemaMigrate

/-- The kinds of change. -/
inductive Action where
  | createTable
  | addColumn
  | alterColumn
  | addForeignKey
  | addIndex
deriving Repr, DecidableEq

/-- Every action, in the order in which they are counted. -/
def Action.all : List Action := [.createTable, .addColumn, .alterColumn, .addForeignKey, .addIndex]

def Action.label : Action → String
  | .createTable => "CreateTable"
  | .addColumn => "AddColumn"
  | .alterColumn => "AlterColumn"
  | .addForeignKey => "AddForeignKey"
  | .addIndex => "AddIndex"

/-- One change to a table. The first three actions go by the fields, the fourth by the foreign key and
the fifth by the index. A widening alteration is one that cannot lose data. -/
structure Step where
  action : Action
  table : String
  fields : List Field := []
  foreignKey : Option ForeignKey := none
  index : Option Index := none
  widening : Bool := false
deriving Repr, DecidableEq

/-- A foreign key from its column to the column it points at. -/
def ForeignKey.arrow (key : ForeignKey) : String :=
  key.column ++ " -> " ++ key.target ++ "." ++ key.targetColumn

/-- What a step is about: its foreign key, else its index, else its fields. -/
def Step.subject (step : Step) : String :=
  match step.foreignKey, step.index with
  | some key, _ => key.arrow
  | none, some index => Text.joinWith ", " index.fields
  | none, none => Text.joinWith ", " (step.fields.map (·.name))

/-- A step in one line. -/
def Step.describe (step : Step) : String :=
  step.action.label ++ " " ++ step.table ++ " (" ++ step.subject ++ ")"

/-- Creates a table without its foreign keys and indexes. -/
def Step.createTable (table : Table) : Step where
  action := .createTable
  table := table.name
  fields := table.fields

def Step.addColumn (table : String) (field : Field) : Step where
  action := .addColumn
  table
  fields := [field]

def Step.alterColumn (table : String) (field : Field) (widening : Bool) : Step where
  action := .alterColumn
  table
  fields := [field]
  widening

def Step.addForeignKey (table : String) (key : ForeignKey) : Step where
  action := .addForeignKey
  table
  foreignKey := some key

def Step.addIndex (table : String) (index : Index) : Step where
  action := .addIndex
  table
  index := some index

end SchemaMigrate
