import SchemaMigrate.Text.Classes
import SchemaMigrate.Text.Encoding

/-!
Integers in decimal notation, as they are read from text: decimal digits of any script, single
underscores between digits, a sign, and blanks around the whole. A numeral has at most `maxDigits`
digits.
-/

namespace SchemaMigrate.Text

/-- The most digits a numeral may have. -/
def maxDigits : Nat := 4300

/-- Why a text gives no integer. -/
inductive NumeralError where
  | malformed (text : String)
  | tooLong (digits : Nat)
deriving Repr, DecidableEq

/-- A malformed text is shown quoted, cut after two hundred characters. -/
def NumeralError.message : NumeralError → String
  | .malformed text =>
      "invalid literal for int() with base 10: " ++ String.ofList ((quoted text.toList).take 200)
  | .tooLong digits =>
      s!"Exceeds the limit ({maxDigits} digits) for integer string conversion: value has {digits} "
        ++ "digits; use sys.set_int_max_str_digits() to increase the limit"

/-- The ASCII character that stands for a character inside a numeral. -/
def numeralChar (c : Char) : Char :=
  if c.toNat < 127 then c
  else if isBlank c then ' '
  else (decimalValue? c).elim '?' fun value => Char.ofNat ('0'.toNat + value)

/-- The blanks allowed around a numeral, once it is written in ASCII. -/
def isNumeralBlank (c : Char) : Bool := c = ' ' || (9 ≤ c.toNat && c.toNat ≤ 13)

/-- The digits that follow a digit, with single underscores between them, and what comes after. -/
def digitsAfter? : List Char → Option (List Char × List Char)
  | '_' :: c :: rest =>
      if c.isDigit then (digitsAfter? rest).map fun (digits, after) => (c :: digits, after) else none
  | c :: rest =>
      if c.isDigit then (digitsAfter? rest).map fun (digits, after) => (c :: digits, after)
      else if c = '_' then none
      else some ([], c :: rest)
  | [] => some ([], [])

/-- The digits at the front of a text, at least one, and what comes after. -/
def leadingDigits? : List Char → Option (List Char × List Char)
  | [] => none
  | c :: rest =>
      if c.isDigit then (digitsAfter? rest).map fun (digits, after) => (c :: digits, after) else none

/-- The value of ASCII digits. -/
def digitsValue (digits : List Char) : Nat :=
  digits.foldl (fun value c => 10 * value + (c.toNat - '0'.toNat)) 0

/-- Takes off a sign, and tells whether it was a minus. -/
def splitSign : List Char → Bool × List Char
  | '-' :: rest => (true, rest)
  | '+' :: rest => (false, rest)
  | rest => (false, rest)

/-- Reads an integer. -/
def readInteger (text : String) : Except NumeralError Int :=
  let body := (text.toList.map numeralChar).dropWhile isNumeralBlank
  let (negative, unsigned) := splitSign body
  match leadingDigits? unsigned with
  | none => .error (.malformed text)
  | some (digits, after) =>
      if maxDigits < digits.length then .error (.tooLong digits.length)
      else if after.all isNumeralBlank then
        .ok (if negative then -(digitsValue digits : Int) else digitsValue digits)
      else .error (.malformed text)

end SchemaMigrate.Text
