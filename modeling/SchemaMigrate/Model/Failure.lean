import SchemaMigrate.ColumnType.Canonical
import SchemaMigrate.Text.Numeral

/-!
What can be wrong with a model text, and where it was found.
-/

namespace SchemaMigrate.Model

/-- The three kinds of block. -/
inductive BlockKind where
  | mixin
  | model
  | extension
deriving Repr, DecidableEq

/-- The word that opens a block of the kind. -/
def BlockKind.keyword : BlockKind → String
  | .mixin => "mixin"
  | .model => "model"
  | .extension => "extends"

/-- A fault in a model text. -/
inductive Fault where
  | strayText
  | missingBrace
  | unexpectedBrace
  | unterminated (kind : BlockKind)
  | malformedHeader (kind : BlockKind)
  | duplicateMixin (name : String)
  | duplicateTable (name : String)
  | unknownMixin (name : String)
  | unknownTable (name : String)
  | notInMixin
  | malformedLine
  | blankIndexField
  | unknownIndexAttribute (name : String)
  | invalidSize (params : String)
  | noMaxLength (error : NoMaxLength)
  | duplicateField (field owner : String)
deriving Repr, DecidableEq

def Fault.message : Fault → String
  | .strayText => "Unexpected text outside a block"
  | .missingBrace => "Expected '\x7b' after block header"
  | .unexpectedBrace => "Unexpected brace inside block"
  | .unterminated kind => "Unterminated " ++ kind.keyword ++ " block"
  | .malformedHeader kind => "Malformed " ++ kind.keyword ++ " header"
  | .duplicateMixin name => "Duplicate mixin '" ++ name ++ "'"
  | .duplicateTable name => "Duplicate table '" ++ name ++ "'"
  | .unknownMixin name => "Unknown mixin '" ++ name ++ "'"
  | .unknownTable name => "Cannot extend unknown table '" ++ name ++ "'"
  | .notInMixin => "Only fields and relationships are allowed in a mixin"
  | .malformedLine => "Malformed line"
  | .blankIndexField => "Index needs at least one field"
  | .unknownIndexAttribute name => "Unknown index attribute '@" ++ name ++ "'"
  | .invalidSize params => "Invalid precision '(" ++ params ++ ")'"
  | .noMaxLength error => error.message
  | .duplicateField field owner => "Duplicate field '" ++ field ++ "' on '" ++ owner ++ "'"

/-- A fault at a line of a source. -/
structure Failure where
  fault : Fault
  source : String
  lineNumber : Nat
  line : String
deriving Repr, DecidableEq

/-- The place, the fault, and the line below them. -/
def Failure.message (failure : Failure) : String :=
  failure.source ++ ":" ++ toString failure.lineNumber ++ ": " ++ failure.fault.message
    ++ "\n    " ++ failure.line

/-- Why a text does not compile. A size may also be written in digits that have no decimal value, which
is found only when its value is asked for and has no place in the text. -/
inductive CompileError where
  | located (failure : Failure)
  | numeral (error : Text.NumeralError)
deriving Repr, DecidableEq

def CompileError.message : CompileError → String
  | .located failure => failure.message
  | .numeral error => error.message

end SchemaMigrate.Model
