import SchemaMigrate.Text.Lines

/-!
What a live database has and its model has not. It is reported and never removed.
-/

namespace SchemaMigrate

structure ExtraColumn where
  table : String
  column : String
  type : String := ""
deriving Repr, DecidableEq

structure ExtraIndex where
  table : String
  fields : List String := []
  unique : Bool := false
  name : Option String := none
deriving Repr, DecidableEq

structure Extras where
  tables : List String := []
  columns : List ExtraColumn := []
  indexes : List ExtraIndex := []
deriving Repr, DecidableEq

namespace Extras

def isEmpty (extras : Extras) : Bool :=
  extras.tables.isEmpty && extras.columns.isEmpty && extras.indexes.isEmpty

def count (extras : Extras) : Nat :=
  extras.tables.length + extras.columns.length + extras.indexes.length

def columnLine (column : ExtraColumn) : String :=
  column.table ++ "." ++ column.column
    ++ (if column.type.isEmpty then "" else " (" ++ column.type ++ ")")

def indexLine (index : ExtraIndex) : String :=
  index.table ++ ": " ++ (if index.unique then "unique " else "")
    ++ "(" ++ Text.joinWith ", " index.fields ++ ")"

/-- The lines of one kind of extra, under a heading that counts them. -/
def listing (kind : String) (lines : List String) : List String :=
  if lines.isEmpty then []
  else ("\n  Extra " ++ kind ++ " (" ++ toString lines.length ++ "):") :: lines.map ("    - " ++ ·)

/-- The extras as a text of several lines. -/
def report (extras : Extras) : String :=
  if extras.isEmpty then "No extra objects"
  else
    Text.joinWith "\n" <|
      "Objects in database but not in model:"
        :: listing "tables" extras.tables
        ++ listing "columns" (extras.columns.map columnLine)
        ++ listing "indexes" (extras.indexes.map indexLine)

end Extras

end SchemaMigrate
