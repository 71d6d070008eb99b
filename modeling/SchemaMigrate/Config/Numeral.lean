import SchemaMigrate.Text.Classes
import SchemaMigrate.Toml.Scalar

/-!
Integers that are given as text. Beyond the plain numeral, white space around it, a plus sign, zeros in
front, a fraction of zeros and single underscores between the digits are allowed: `tidy?` drops them. A
numeral may have 4300 digits. Only a text that starts with a longer one is called too long; one that comes
to light by tidying is malformed.
-/

namespace SchemaMigrate.Config

/-- The most digits that a numeral may have. -/
def maxDigits : Nat := 4300

/-- White space: every blank but the control characters that separate records. -/
def isWhite (c : Char) : Bool := Text.isBlank c && !(0x1C ≤ c.toNat && c.toNat ≤ 0x1F)

def trimWhite (text : List Char) : List Char :=
  ((text.dropWhile isWhite).reverse.dropWhile isWhite).reverse

/-- The text without a plus sign, behind which there may be no minus sign. -/
def dropPlus? : List Char → Option (List Char)
  | '+' :: '-' :: _ => none
  | '+' :: rest => some rest
  | text => some text

/-- What is left of the text behind `last`, a zero or an underscore, once the zeros and underscores at its
front are dropped. At the end and before a point the last one is kept. A minus sign behind zeros counts as
the start of the numeral. -/
def afterZeros? (last : Char) : List Char → Option (List Char)
  | [] => some [last]
  | c :: rest =>
      if c = '0' || c = '_' then afterZeros? c rest
      else if c.isDigit || c = '-' then some (c :: rest)
      else if c = '.' then some (last :: c :: rest)
      else none

/-- The text without superfluous zeros in front. It has to start with a digit. -/
def dropZeros? : List Char → Option (List Char)
  | [] => none
  | c :: rest =>
      if c = '0' then afterZeros? c rest
      else if c.isDigit then some (c :: rest)
      else none

/-- The text without a fraction of zeros, of which there has to be one at least. -/
def dropFraction (text : List Char) : List Char :=
  let fraction := (text.dropWhile (· ≠ '.')).drop 1
  if !fraction.isEmpty && fraction.all (· = '0') then text.takeWhile (· ≠ '.') else text

/-- Whether two underscores follow one another. -/
def hasDoubleUnderscore : List Char → Bool
  | '_' :: '_' :: _ => true
  | _ :: rest => hasDoubleUnderscore rest
  | [] => false

/-- The text without its underscores, if each of them stands alone and inside. -/
def dropUnderscores (text : List Char) : List Char :=
  if text.head? = some '_' || text.getLast? = some '_' || hasDoubleUnderscore text then text
  else text.filter (· ≠ '_')

/-- The digits of a numeral without what is superfluous among them. -/
def tidyDigits? (text : List Char) : Option (List Char) :=
  (dropZeros? text).map fun digits => dropUnderscores (dropFraction digits)

/-- The text without all that is superfluous. A minus sign in front is kept, and the rest is tidied as if it
stood alone. -/
def tidy? (text : List Char) : Option (List Char) := do
  match ← dropPlus? (trimWhite text) with
  | '-' :: digits => (tidyDigits? digits).map ('-' :: ·)
  | digits => tidyDigits? digits

/-- Whether characters are the digits of a number without superfluous zeros. -/
def areDigits : List Char → Bool
  | [] => false
  | ['0'] => true
  | c :: rest => c ≠ '0' && (c :: rest).all Char.isDigit

/-- The number of a plain numeral without a sign. -/
def digitsValue? (digits : List Char) : Option Nat :=
  if areDigits digits && digits.length ≤ maxDigits then some (Toml.valueIn 10 digits) else none

/-- The integer of a plain numeral: digits, with or without a minus sign. -/
def plainValue? : List Char → Option Int
  | '-' :: digits => (digitsValue? digits).map fun size => -(size : Int)
  | digits => (digitsValue? digits).map fun size => (size : Int)

/-- Whether a text starts with a plain numeral of too many digits, whatever follows it. -/
def startsTooLong (text : List Char) : Bool :=
  let digits := match text with
    | '-' :: rest => rest
    | _ => text
  digits.head? ≠ some '0' && maxDigits < (digits.takeWhile Char.isDigit).length

/-- Why a text gives no integer. -/
inductive NumeralFlaw where
  | malformed
  | tooLong
deriving Repr, DecidableEq

/-- The integer that a text stands for. -/
def readInteger (text : String) : Except NumeralFlaw Int :=
  if startsTooLong text.toList then .error .tooLong
  else match (tidy? text.toList).bind plainValue? with
    | some value => .ok value
    | none => .error .malformed

end SchemaMigrate.Config
