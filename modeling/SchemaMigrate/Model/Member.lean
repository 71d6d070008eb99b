import SchemaMigrate.Schema.Basic
import SchemaMigrate.Text.Classes
import SchemaMigrate.Text.Lines

/-!
The grammar of headers and of the lines inside a block.

A line of a block is an index, an attribute of the table, a relationship or a field, in that order of
preference. Names run as far as they go and blanks are skipped as far as they go, so a line is read
from left to right without going back.
-/

namespace SchemaMigrate.Model

open Text (spanWord spanName? trimLeft)

/-- Skips blanks, of which there must be one. -/
def skipBlanks? : List Char → Option (List Char)
  | [] => none
  | c :: rest => if Text.isBlank c then some (trimLeft rest) else none

/-- Skips a mark if it is there, and tells whether it was. -/
def skipMark (mark : Char) : List Char → Bool × List Char
  | [] => (false, [])
  | c :: rest => if c = mark then (true, rest) else (false, c :: rest)

/-- Reads a word that must be this one. -/
def skipWord? (word : String) (text : List Char) : Option (List Char) :=
  if (spanWord text).1 = word.toList then some (spanWord text).2 else none

/-- Splits off what stands in parentheses, up to the first closing one. -/
def spanParens? : List Char → Option (List Char × List Char)
  | [] => none
  | c :: rest =>
      if c = '(' then
        match rest.dropWhile (· ≠ ')') with
        | [] => none
        | _ :: after => some (rest.takeWhile (· ≠ ')'), after)
      else none

/-- Splits off parameters in parentheses if they are there; an opening parenthesis without a closing
one is left in place, where no reader accepts it. -/
def spanParams (text : List Char) : Option (List Char) × List Char :=
  match spanParens? text with
  | none => (none, text)
  | some (inside, after) => (some inside, after)

theorem length_trimLeft_le (text : List Char) : (trimLeft text).length ≤ text.length :=
  (List.dropWhile_suffix _).length_le

theorem length_spanWord_le (text : List Char) : (spanWord text).2.length ≤ text.length :=
  (List.dropWhile_suffix _).length_le

theorem length_spanName?_lt {text name rest : List Char} (h : spanName? text = some (name, rest)) :
    rest.length < text.length := by
  cases text with
  | nil => simp [spanName?] at h
  | cons c tail =>
      by_cases hc : Text.isNameStart c
      · simp only [spanName?, hc, if_true, Option.some.injEq, Prod.mk.injEq] at h
        obtain ⟨-, rfl⟩ := h
        have := length_spanWord_le tail
        simp only [List.length_cons]
        omega
      · simp [spanName?, hc] at h

/-- Whether the text starts with a blank. -/
def startsBlank : List Char → Bool
  | [] => false
  | c :: _ => Text.isBlank c

/-- Reads attribute marks up to the end of the line. Blanks before a mark are required if `spaced`. -/
def readMarks? (spaced : Bool) (text : List Char) : Option (List String) :=
  if text.isEmpty then some []
  else if spaced && !startsBlank text then none
  else match _ : trimLeft text with
    | [] => none
    | mark :: rest =>
        if mark = '@' then
          let word := spanWord rest
          if word.1.isEmpty then none
          else (readMarks? spaced word.2).map (String.ofList word.1 :: ·)
        else none
termination_by text.length
decreasing_by
  have hmark : trimLeft text = mark :: rest := ‹_›
  have hle := length_trimLeft_le text
  have hword := length_spanWord_le rest
  rw [hmark, List.length_cons] at hle
  omega

/-- Reads names separated by commas up to the end of the text. -/
def readNames? (text : List Char) : Option (List String) :=
  match _ : spanName? text with
  | none => none
  | some (name, rest) =>
      if rest.isEmpty then some [String.ofList name]
      else match _ : trimLeft rest with
        | [] => none
        | comma :: more =>
            if comma = ',' then (readNames? (trimLeft more)).map (String.ofList name :: ·) else none
termination_by text.length
decreasing_by
  have hname : spanName? text = some (name, rest) := ‹_›
  have hcomma : trimLeft rest = comma :: more := ‹_›
  have h1 := length_spanName?_lt hname
  have h2 := length_trimLeft_le rest
  have h3 := length_trimLeft_le more
  rw [hcomma, List.length_cons] at h2
  omega

/-- A type as it is declared: a name and the text of its parameters. -/
structure DeclaredType where
  code : String
  params : Option (List Char) := none
deriving Repr, DecidableEq

/-- The header of a model: its name, the type of its key, and the mixins it applies. -/
structure ModelHeader where
  name : String
  keyType : Option DeclaredType := none
  mixins : List String := []
deriving Repr, DecidableEq

/-- Reads the type of the key, if a name other than `with` follows. -/
def spanKeyType (text : List Char) : Option DeclaredType × List Char :=
  match (skipBlanks? text).bind spanName? with
  | none => (none, text)
  | some (word, rest) =>
      if word = "with".toList then (none, text)
      else (some { code := String.ofList word, params := (spanParams rest).1 }, (spanParams rest).2)

/-- Reads the mixins behind `with`, or nothing. -/
def readMixins? (text : List Char) : Option (List String) :=
  if text.isEmpty then some []
  else do
    let text ← skipBlanks? text
    let text ← skipWord? "with" text
    let text ← skipBlanks? text
    readNames? text

def ModelHeader.of? (text : List Char) : Option ModelHeader := do
  let (name, rest) ← spanName? text
  let (keyType, rest) := spanKeyType rest
  let mixins ← readMixins? rest
  pure { name := String.ofList name, keyType, mixins }

/-- Reads a header that is a name alone. -/
def readName? (text : List Char) : Option String := do
  let (name, rest) ← spanName? text
  if rest.isEmpty then some (String.ofList name) else none

/-- A line that declares a reference to another table. -/
structure RelationshipLine where
  optional : Bool := false
  many : Bool := false
  target : String
  nullable : Bool := false
  role : Option String := none
deriving Repr, DecidableEq

/-- A line that declares a field. -/
structure FieldLine where
  type : DeclaredType
  nullable : Bool := false
  name : String
  marks : List String := []
deriving Repr, DecidableEq

/-- What a line of a block can be. -/
inductive Member where
  | index (tokens marks : List String)
  | attribute (name : String)
  | relationship (line : RelationshipLine)
  | field (line : FieldLine)
deriving Repr, DecidableEq

/-- The tokens of a list separated by commas. -/
def tokensOf (text : List Char) : List String :=
  (Text.splitOnChar ',' text).map fun token => String.ofList (Text.trim token)

/-- Reads `index (A, B) @unique`. -/
def readIndex? (text : List Char) : Option Member := do
  let rest ← "index".toList.isPrefixOf? text
  let (inside, rest) ← spanParens? (trimLeft rest)
  let marks ← readMarks? false rest
  pure (.index (tokensOf inside) marks)

/-- Reads `@Name`. -/
def readAttribute? : List Char → Option Member
  | [] => none
  | c :: rest =>
      if c = '@' && !rest.isEmpty && rest.all Text.isWord then some (.attribute (String.ofList rest))
      else none

/-- Reads the role behind `as`, if there is one, and whether it is marked nullable. -/
def readRole? (text : List Char) : Option (Option String × Bool) :=
  if text.isEmpty then some (none, false)
  else do
    let text ← skipBlanks? text
    let text ← skipWord? "as" text
    let text ← skipBlanks? text
    let (name, rest) ← spanName? text
    let (nullable, rest) := skipMark '?' rest
    if rest.isEmpty then some (some (String.ofList name), nullable) else none

/-- Reads `!models Target? as Role?`. -/
def readRelationship? (text : List Char) : Option Member := do
  let (optional, text) := skipMark '!' text
  let (word, rest) := spanWord text
  let many ←
    if word = "model".toList then some false
    else if word = "models".toList then some true
    else none
  let text ← skipBlanks? rest
  let (target, rest) ← spanName? text
  let (nullable, rest) := skipMark '?' rest
  let (role, roleNullable) ← readRole? rest
  pure (.relationship
    { optional, many, target := String.ofList target, nullable := nullable || roleNullable, role })

/-- Reads `type(params)? Name @Mark`. -/
def readField? (text : List Char) : Option Member := do
  let (code, rest) ← spanName? text
  let (params, rest) := spanParams rest
  let (nullable, rest) := skipMark '?' rest
  let text ← skipBlanks? rest
  let (name, rest) ← spanName? text
  let marks ← readMarks? true rest
  pure (.field
    { type := { code := String.ofList code, params := params.map trimLeft }, nullable
      name := String.ofList name, marks })

/-- Reads a line of a block. -/
def Member.of? (text : List Char) : Option Member :=
  readIndex? text <|> readAttribute? text <|> readRelationship? text <|> readField? text

end SchemaMigrate.Model
