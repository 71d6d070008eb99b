import SchemaMigrate.Text.Table.Word

/-!
Classes of characters: blanks, digits and the characters of names.

Blank are the spaces of every script, the line and paragraph separators and the control characters that
separate text; the zero-width characters are not. The decimal digits of every script have a value; the
others (superscripts, circled digits) are digits to look at but take no part in decimal notation. A name
starts with an ASCII letter or an underscore and goes on with word characters: letters and numerals of
any script, and the underscore.
-/

namespace SchemaMigrate.Text

/-- Whether a code point lies in one of the closed ranges. -/
def inRanges (ranges : List (Nat × Nat)) (code : Nat) : Bool :=
  ranges.any fun (first, last) => first ≤ code && code ≤ last

theorem inRanges_eq_true_iff {ranges : List (Nat × Nat)} {code : Nat} :
    inRanges ranges code = true ↔ ∃ range ∈ ranges, range.1 ≤ code ∧ code ≤ range.2 := by
  simp [inRanges]

section Blanks

/-- The blank code points. -/
def blankRanges : List (Nat × Nat) :=
  [(0x09, 0x0D), (0x1C, 0x20), (0x85, 0x85), (0xA0, 0xA0), (0x1680, 0x1680), (0x2000, 0x200A),
   (0x2028, 0x2029), (0x202F, 0x202F), (0x205F, 0x205F), (0x3000, 0x3000)]

def isBlank (c : Char) : Bool := inRanges blankRanges c.toNat

/-- Drops the blanks at the front. -/
def trimLeft (text : List Char) : List Char := text.dropWhile isBlank

/-- Drops the blanks at the end. -/
def trimRight (text : List Char) : List Char := (text.reverse.dropWhile isBlank).reverse

/-- Drops the blanks at both ends. -/
def trim (text : List Char) : List Char := trimRight (trimLeft text)

/-- Drops the blanks at both ends of a string. -/
def trimmed (text : String) : String := String.ofList (trim text.toList)

end Blanks

section Digits

/-- The code points of the decimal zeros in Unicode 14; the digits one to nine follow each of them. -/
def decimalZeros : List Nat :=
  [0x0030, 0x0660, 0x06F0, 0x07C0, 0x0966, 0x09E6, 0x0A66, 0x0AE6, 0x0B66, 0x0BE6, 0x0C66,
   0x0CE6, 0x0D66, 0x0DE6, 0x0E50, 0x0ED0, 0x0F20, 0x1040, 0x1090, 0x17E0, 0x1810, 0x1946,
   0x19D0, 0x1A80, 0x1A90, 0x1B50, 0x1BB0, 0x1C40, 0x1C50, 0xA620, 0xA8D0, 0xA900, 0xA9D0,
   0xA9F0, 0xAA50, 0xABF0, 0xFF10, 0x104A0, 0x10D30, 0x11066, 0x110F0, 0x11136, 0x111D0,
   0x112F0, 0x11450, 0x114D0, 0x11650, 0x116C0, 0x11730, 0x118E0, 0x11950, 0x11C50, 0x11D50,
   0x11DA0, 0x16A60, 0x16AC0, 0x16B50, 0x1D7CE, 0x1D7D8, 0x1D7E2, 0x1D7EC, 0x1D7F6, 0x1E140,
   0x1E2F0, 0x1E950, 0x1FBF0]

/-- Digits that do not take part in decimal notation. -/
def plainDigitRanges : List (Nat × Nat) :=
  [(0x00B2, 0x00B3), (0x00B9, 0x00B9), (0x1369, 0x1371), (0x19DA, 0x19DA), (0x2070, 0x2070),
   (0x2074, 0x2079), (0x2080, 0x2089), (0x2460, 0x2468), (0x2474, 0x247C), (0x2488, 0x2490),
   (0x24EA, 0x24EA), (0x24F5, 0x24FD), (0x24FF, 0x24FF), (0x2776, 0x277E), (0x2780, 0x2788),
   (0x278A, 0x2792), (0x10A40, 0x10A43), (0x10E60, 0x10E68), (0x11052, 0x1105A),
   (0x1F100, 0x1F10A)]

/-- The value of a decimal digit of any script. -/
def decimalValue? (c : Char) : Option Nat :=
  if c.toNat < 128 then
    if c.isDigit then some (c.toNat - '0'.toNat) else none
  else
    (decimalZeros.find? fun start => start ≤ c.toNat && c.toNat ≤ start + 9).map (c.toNat - ·)

/-- A digit of any kind, decimal or not. -/
def isDigit (c : Char) : Bool :=
  (decimalValue? c).isSome || inRanges plainDigitRanges c.toNat

/-- Whether a text is made of digits alone and has at least one. -/
def isDigits (text : List Char) : Bool := !text.isEmpty && text.all isDigit

end Digits

section Words

/-- A letter or numeral of any script, or the underscore. -/
def isWord (c : Char) : Bool :=
  if c.toNat < 128 then c.isAlphanum || c == '_' else inRanges wordRanges c.toNat

/-- An ASCII letter or the underscore, with which every name starts. -/
def isNameStart (c : Char) : Bool := c.isAlpha || c == '_'

/-- Splits off the longest run of word characters. -/
def spanWord (text : List Char) : List Char × List Char :=
  (text.takeWhile isWord, text.dropWhile isWord)

/-- Splits off a name, as long as it goes. -/
def spanName? : List Char → Option (List Char × List Char)
  | [] => none
  | c :: rest => if isNameStart c then some (c :: (spanWord rest).1, (spanWord rest).2) else none

end Words

end SchemaMigrate.Text
