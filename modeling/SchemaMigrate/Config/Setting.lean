import SchemaMigrate.Config.Numeral
import SchemaMigrate.Number.Double

/-!
Single settings, read from the values of a document. A value of another kind is taken where it says the
same thing: an integer may be written as text, as a float or as a flag, and a flag as a word or a number.

Everything that is wrong in a table is found at once: readings are combined by `Reading.both`, and
`issues_both` says that no issue is lost.
-/

namespace SchemaMigrate.Config

open Toml

/-- What is wrong with a setting. -/
inductive Flaw where
  | missing
  | notText
  | notList
  | notInteger
  | unreadableInteger
  | integerTooLong
  | fractional
  | notFinite
  | tooSmall
  | notFlag
  | unreadableFlag
deriving Repr, DecidableEq

/-- A step on the way to a value. -/
inductive Place where
  | key (name : String)
  | item (index : Nat)
deriving Repr, DecidableEq

structure Issue where
  place : List Place
  flaw : Flaw
deriving Repr, DecidableEq

/-- What was read, or everything that is wrong with it. -/
abbrev Reading (α : Type) := Except (List Issue) α

namespace Reading

variable {α β : Type}

def issues : Reading α → List Issue
  | .ok _ => []
  | .error issues => issues

/-- Two readings as one, with the issues of both. -/
def both (first : Reading α) (second : Reading β) : Reading (α × β) :=
  match first, second with
  | .ok a, .ok b => .ok (a, b)
  | first, second => .error (first.issues ++ second.issues)

@[simp] theorem issues_both (first : Reading α) (second : Reading β) :
    (both first second).issues = first.issues ++ second.issues := by
  cases first <;> cases second <;> simp [both, issues]

/-- A reading at a place. -/
def placed (place : List Place) (reading : Except Flaw α) : Reading α :=
  reading.mapError fun flaw => [{ place, flaw }]

end Reading

def readText : Value → Except Flaw String
  | .text value => .ok value
  | _ => .error .notText

/-- The first whole number that sixty-four bits with a sign do not hold. -/
def wordBound : Int := 0x8000000000000000

/-- The whole number that a double is. It has to lie strictly between the bounds of sixty-four bits: a double
at a bound may stand for a number beyond it. -/
def wholeOf (value : Float) : Except Flaw Int :=
  let kind := doubleKind value
  match kind.truncate? with
  | none => .error .notFinite
  | some whole =>
      if !kind.isWhole then .error .fractional
      else if -wordBound < whole ∧ whole < wordBound then .ok whole
      else .error .integerTooLong

def readWhole : Value → Except Flaw Int
  | .integer value => .ok value
  | .flag value => .ok (if value then 1 else 0)
  | .float value => wholeOf value
  | .text value =>
      match readInteger value with
      | .ok value => .ok value
      | .error .malformed => .error .unreadableInteger
      | .error .tooLong => .error .integerTooLong
  | .moment _ | .array _ | .table _ => .error .notInteger

/-- Reads an integer above a bound. -/
def readWholeAbove (bound : Int) (value : Value) : Except Flaw Int := do
  let whole ← readWhole value
  if bound < whole then .ok whole else .error .tooSmall

def offWords : List String := ["0", "off", "f", "false", "n", "no"]

def onWords : List String := ["1", "on", "t", "true", "y", "yes"]

/-- The flag that a word stands for, in any case of its letters. -/
def flagOfWord (word : String) : Except Flaw Bool :=
  let word := String.ofList (word.toList.map Char.toLower)
  if offWords.contains word then .ok false
  else if onWords.contains word then .ok true
  else .error .unreadableFlag

def flagOfWhole (value : Int) : Except Flaw Bool :=
  if value = 0 then .ok false else if value = 1 then .ok true else .error .unreadableFlag

def flagOfDouble (value : Float) : Except Flaw Bool :=
  match wholeOf value with
  | .ok whole => flagOfWhole whole
  | .error _ => .error .notFlag

/-- Reads a flag. An integer of more than sixty-four bits is taken as the nearest double. -/
def readFlag : Value → Except Flaw Bool
  | .flag value => .ok value
  | .text value => flagOfWord value
  | .integer value =>
      if -wordBound ≤ value ∧ value < wordBound then flagOfWhole value
      else flagOfDouble (nearestDouble (value < 0) value.natAbs 0)
  | .float value => flagOfDouble value
  | .moment _ | .array _ | .table _ => .error .notFlag

/-- Reads the items of a list from an index on. -/
def readTextItems (list : Place) : Nat → List Value → Reading (List String)
  | _, [] => .ok []
  | index, item :: items =>
      let first := Reading.placed [list, .item index] (readText item)
      (first.both (readTextItems list (index + 1) items)).map fun (text, texts) => text :: texts

/-- Reads a list of texts. -/
def readTexts (place : Place) : Value → Reading (List String)
  | .array items => readTextItems place 0 items
  | _ => .error [{ place := [place], flaw := .notList }]

/-- Reads the value of a key, or takes the default if the key is not there. -/
def setting {α : Type} (entries : Entries) (name : String) (default : α) (read : Value → Except Flaw α) :
    Reading α :=
  match entries.get? name with
  | none => .ok default
  | some value => .placed [.key name] (read value)

/-- Reads the value of a key that has to be there. -/
def required {α : Type} (entries : Entries) (name : String) (read : Value → Except Flaw α) : Reading α :=
  .placed [.key name] ((entries.get? name).elim (.error .missing) read)

end SchemaMigrate.Config
