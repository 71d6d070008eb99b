import SchemaMigrate.Model.Block
import SchemaMigrate.Text.Classes

/-!
The abstract syntax of models, and how it is printed.

A batch is a list of sources, and a source a list of blocks. Names carry the proof that they are names,
so that every term of the syntax can be printed. A block is printed one member to a line, in any of the
layouts that its braces may have.
-/

namespace SchemaMigrate.Grammar

open Text (isWord isNameStart)

/-- Whether a text is a name. -/
def isName : List Char → Bool
  | [] => false
  | c :: rest => isNameStart c && rest.all isWord

/-- A name of a table, a column, a mixin or a type. -/
structure Identifier where
  text : String
  valid : isName text.toList = true

/-- The name of an attribute, which may start with any word character. -/
structure Mark where
  text : String
  valid : (!text.toList.isEmpty && text.toList.all isWord) = true

def Identifier.chars (name : Identifier) : List Char := name.text.toList

def Mark.chars (mark : Mark) : List Char := mark.text.toList

/-- The size of a type, as it may be declared. -/
inductive Size where
  | unsized
  | precision (digits : Nat)
  | scaled (digits places : Nat)
  | unbounded
deriving Repr, DecidableEq

/-- A type with its size. -/
structure TypeTerm where
  code : Identifier
  size : Size := .unsized

/-- A field. Its type is not one of the words that start a relationship. -/
structure FieldTerm where
  type : TypeTerm
  nullable : Bool := false
  name : Identifier
  marks : List Mark := []
  plain : type.code.text ≠ "model" ∧ type.code.text ≠ "models"

/-- A relationship, with the role of the target and whether the role is marked nullable. -/
structure RelationshipTerm where
  optional : Bool := false
  many : Bool := false
  target : Identifier
  nullable : Bool := false
  role : Option (Identifier × Bool) := none

/-- An index over one field or more. -/
structure IndexTerm where
  first : Identifier
  others : List Identifier := []
  marks : List Mark := []

inductive MemberTerm where
  | field (term : FieldTerm)
  | relationship (term : RelationshipTerm)
  | index (term : IndexTerm)
  | attribute (mark : Mark)

structure MixinTerm where
  name : Identifier
  members : List MemberTerm := []

/-- The type of a key, which is not the word that starts the mixins. -/
structure KeyTerm where
  type : TypeTerm
  plain : type.code.text ≠ "with"

structure ModelTerm where
  name : Identifier
  key : Option KeyTerm := none
  mixins : List Identifier := []
  members : List MemberTerm := []

structure ExtensionTerm where
  base : Identifier
  members : List MemberTerm := []

inductive BlockTerm where
  | mixin (term : MixinTerm)
  | model (term : ModelTerm)
  | extension (term : ExtensionTerm)

/-- Where the opening brace stands: at the end of the header, alone on the next line, or, for a block
without members, on the header line together with the closing one. -/
inductive Layout where
  | joined
  | apart
  | whole

/-- A named source with its blocks and their layouts. -/
structure SourceTerm where
  name : String
  parts : List (BlockTerm × Layout)

section Printing

/-- A mark, or nothing. -/
def flag (mark : Char) (present : Bool) : List Char := if present then [mark] else []

/-- The text between the parentheses of a size, if it has any. -/
def Size.params? : Size → Option (List Char)
  | .unsized => none
  | .precision digits => some (Nat.toDigits 10 digits)
  | .scaled digits places => some (Nat.toDigits 10 digits ++ ',' :: Nat.toDigits 10 places)
  | .unbounded => some "max".toList

def Size.chars (size : Size) : List Char :=
  match size.params? with
  | none => []
  | some params => '(' :: params ++ [')']

def TypeTerm.chars (type : TypeTerm) : List Char := type.code.chars ++ type.size.chars

/-- Attribute marks, each behind a space. -/
def marksChars (marks : List Mark) : List Char := marks.flatMap fun mark => ' ' :: '@' :: mark.chars

/-- Names with commas between them. -/
def namesChars (first : Identifier) (others : List Identifier) : List Char :=
  first.chars ++ others.flatMap fun name => ',' :: ' ' :: name.chars

def FieldTerm.chars (term : FieldTerm) : List Char :=
  term.type.chars ++ flag '?' term.nullable ++ ' ' :: term.name.chars ++ marksChars term.marks

/-- The role of a relationship. -/
def roleChars : Option (Identifier × Bool) → List Char
  | none => []
  | some (role, nullable) => ' ' :: "as".toList ++ ' ' :: role.chars ++ flag '?' nullable

/-- The word that starts a relationship. -/
def relationshipWord (many : Bool) : List Char := if many then "models".toList else "model".toList

def RelationshipTerm.chars (term : RelationshipTerm) : List Char :=
  flag '!' term.optional ++ relationshipWord term.many ++ ' ' :: term.target.chars
    ++ flag '?' term.nullable ++ roleChars term.role

def IndexTerm.chars (term : IndexTerm) : List Char :=
  "index".toList ++ ' ' :: '(' :: namesChars term.first term.others ++ ')' :: marksChars term.marks

def MemberTerm.chars : MemberTerm → List Char
  | .field term => term.chars
  | .relationship term => term.chars
  | .index term => term.chars
  | .attribute mark => '@' :: mark.chars

/-- The mixins of a model. -/
def mixinsChars : List Identifier → List Char
  | [] => []
  | first :: others => ' ' :: "with".toList ++ ' ' :: namesChars first others

/-- What stands between the word that opens a block and the brace. -/
def BlockTerm.header : BlockTerm → List Char
  | .mixin term => term.name.chars
  | .model term =>
      term.name.chars ++ term.key.elim [] (fun key => ' ' :: key.type.chars) ++ mixinsChars term.mixins
  | .extension term => term.base.chars

def BlockTerm.members : BlockTerm → List MemberTerm
  | .mixin term => term.members
  | .model term => term.members
  | .extension term => term.members

def BlockTerm.kind : BlockTerm → Model.BlockKind
  | .mixin _ => .mixin
  | .model _ => .model
  | .extension _ => .extension

/-- The line of a header up to its brace. -/
def BlockTerm.opening (block : BlockTerm) : List Char := block.kind.keyword.toList ++ ' ' :: block.header

/-- The lines behind the opening brace. Members are indented. -/
def BlockTerm.bodyLines (block : BlockTerm) : List (List Char) :=
  block.members.map (fun member => ' ' :: ' ' :: member.chars) ++ [[Model.closeBrace]]

def BlockTerm.lines (block : BlockTerm) : Layout → List (List Char)
  | .apart => block.opening :: [Model.openBrace] :: block.bodyLines
  | .joined => (block.opening ++ [' ', Model.openBrace]) :: block.bodyLines
  | .whole =>
      if block.members.isEmpty then [block.opening ++ [' ', Model.openBrace, Model.closeBrace]]
      else (block.opening ++ [' ', Model.openBrace]) :: block.bodyLines

def SourceTerm.lines (source : SourceTerm) : List (List Char) :=
  source.parts.flatMap fun part => part.1.lines part.2

/-- The text of a source, whose lines all have an end. -/
def SourceTerm.chars (source : SourceTerm) : List Char := source.lines.flatMap fun line => line ++ ['\n']

def SourceTerm.print (source : SourceTerm) : Model.Source where
  name := source.name
  text := String.ofList source.chars

end Printing

end SchemaMigrate.Grammar
