import SchemaMigrate.Text.Classes
import SchemaMigrate.Text.Table.Printable

/-!
Texts written in fewer characters than they have: hexadecimal digits of a fixed width; percent encoding
for a part of a URL, where letters, digits and the four unreserved marks stay and every other character is
written byte by byte; and quotes for a message, single ones, or double ones where only that spares an
escape, with every character that has no printed form written by its code.
-/

namespace SchemaMigrate.Text

/-- The lowercase hexadecimal digit of a value below sixteen. -/
def hexDigit (value : Nat) : Char :=
  if value < 10 then Char.ofNat ('0'.toNat + value) else Char.ofNat ('a'.toNat + value - 10)

/-- The last `width` hexadecimal digits of a value. -/
def hexDigits : Nat → Nat → List Char
  | 0, _ => []
  | width + 1, value => hexDigits width (value / 16) ++ [hexDigit (value % 16)]

@[simp] theorem length_hexDigits (width value : Nat) : (hexDigits width value).length = width := by
  induction width generalizing value with
  | zero => rfl
  | succ width ih => simp [hexDigits, ih]

section Percent

/-- The characters that stand for themselves in every part of a URL. -/
def isUnreserved (c : Char) : Bool :=
  c.isAlphanum || c == '_' || c == '.' || c == '-' || c == '~'

/-- A byte as a percent sign and two uppercase hexadecimal digits. -/
def percentByte (byte : UInt8) : List Char :=
  '%' :: (hexDigits 2 byte.toNat).map Char.toUpper

/-- A text with all but the unreserved characters percent-encoded. -/
def percentEncode (text : String) : String :=
  String.ofList <| text.toList.flatMap fun c =>
    if isUnreserved c then [c] else (String.singleton c).toUTF8.toList.flatMap percentByte

end Percent

section Quotes

/-- Whether a character has a printed form of its own. -/
def isPrintable (c : Char) : Bool :=
  if c.toNat < 128 then 32 ≤ c.toNat && c.toNat < 127 else !inRanges unprintableRanges c.toNat

/-- A character written by its code, as short as its size allows. -/
def codeEscape (c : Char) : List Char :=
  if c.toNat ≤ 0xFF then '\\' :: 'x' :: hexDigits 2 c.toNat
  else if c.toNat ≤ 0xFFFF then '\\' :: 'u' :: hexDigits 4 c.toNat
  else '\\' :: 'U' :: hexDigits 8 c.toNat

/-- A character as it is written between the given quotes. -/
def escapeChar (mark : Char) (c : Char) : List Char :=
  if c = mark ∨ c = '\\' then ['\\', c]
  else if c = '\n' then ['\\', 'n']
  else if c = '\r' then ['\\', 'r']
  else if c = '\t' then ['\\', 't']
  else if isPrintable c then [c]
  else codeEscape c

/-- A text between quotes. -/
def quoted (text : List Char) : List Char :=
  let mark := if text.contains '\'' && !text.contains '"' then '"' else '\''
  mark :: text.flatMap (escapeChar mark) ++ [mark]

end Quotes

end SchemaMigrate.Text
