import SchemaMigrate.Number.Double
import SchemaMigrate.Text.Numeral
import SchemaMigrate.Toml.Value

/-!
Strings, numbers, dates and times of TOML. Each reader takes the characters from where the value may
start and gives back the value with the characters behind it.
-/

namespace SchemaMigrate.Toml

/-- Control characters other than the tab, which no string on one line and no comment may hold. -/
def isControl (c : Char) : Bool := (c.toNat < 32 && c ≠ '\t') || c.toNat = 127

/-- Control characters that no string over several lines may hold. -/
def isInnerControl (c : Char) : Bool := isControl c && c ≠ '\n'

def isSpace (c : Char) : Bool := c = ' ' || c = '\t'

def isSpaceOrNewline (c : Char) : Bool := isSpace c || c = '\n'

def isHexDigit (c : Char) : Bool :=
  c.isDigit || ('a' ≤ c && c ≤ 'f') || ('A' ≤ c && c ≤ 'F')

/-- The value of a digit in bases up to sixteen. -/
def digitValue (c : Char) : Nat :=
  if c.isDigit then c.toNat - '0'.toNat else c.toLower.toNat - 'a'.toNat + 10

/-- The value of digits in a base. -/
def valueIn (base : Nat) (digits : List Char) : Nat :=
  digits.foldl (fun value c => base * value + digitValue c) 0

/-- The character that a number of hexadecimal digits stands for. -/
def codeChar? (count : Nat) (text : List Char) : Option Char :=
  let digits := text.take count
  let code := valueIn 16 digits
  if digits.length = count && digits.all isHexDigit
      && (code < 0xD800 || (0xE000 ≤ code && code < 0x110000)) then
    some (Char.ofNat code)
  else none

/-- The characters that are escaped by one letter. -/
def shortEscape? : Char → Option Char
  | 'b' => some '\x08'
  | 't' => some '\t'
  | 'n' => some '\n'
  | 'f' => some '\x0c'
  | 'r' => some '\x0d'
  | '"' => some '"'
  | '\\' => some '\\'
  | _ => none

/-- Reads an escape behind its backslash. -/
def readEscape? : List Char → Option (Char × List Char)
  | [] => none
  | c :: rest =>
      if c = 'u' then (codeChar? 4 rest).map (·, rest.drop 4)
      else if c = 'U' then (codeChar? 8 rest).map (·, rest.drop 8)
      else (shortEscape? c).map (·, rest)

theorem length_readEscape?_lt {text rest : List Char} {c : Char}
    (h : readEscape? text = some (c, rest)) : rest.length < text.length := by
  cases text with
  | nil => simp [readEscape?] at h
  | cons first tail =>
      simp only [readEscape?] at h
      split at h
      · obtain ⟨_, _, h⟩ := Option.map_eq_some_iff.1 h
        simp only [Prod.mk.injEq] at h
        simp only [← h.2, List.length_drop, List.length_cons]
        omega
      · split at h
        · obtain ⟨_, _, h⟩ := Option.map_eq_some_iff.1 h
          simp only [Prod.mk.injEq] at h
          simp only [← h.2, List.length_drop, List.length_cons]
          omega
        · obtain ⟨_, _, h⟩ := Option.map_eq_some_iff.1 h
          simp only [Prod.mk.injEq] at h
          simp only [← h.2, List.length_cons]
          omega

/-- Reads a string behind its opening quote. -/
def readBasic? (text : List Char) : Option (List Char × List Char) :=
  match text with
  | [] => none
  | c :: rest =>
      if c = '"' then some ([], rest)
      else if c = '\\' then
        match _ : readEscape? rest with
        | none => none
        | some (escaped, rest) =>
            (readBasic? rest).map fun (value, after) => (escaped :: value, after)
      else if isControl c then none
      else (readBasic? rest).map fun (value, after) => (c :: value, after)
termination_by text.length
decreasing_by
  · have := length_readEscape?_lt ‹_›
    simp only [List.length_cons]
    omega
  · simp

/-- What follows a backslash at the end of a line: the text from the next character that is not blank. -/
def skipLineBreak? (text : List Char) : Option (List Char) :=
  match text.dropWhile isSpace with
  | [] => some []
  | c :: rest => if c = '\n' then some (rest.dropWhile isSpaceOrNewline) else none

theorem length_skipLineBreak?_le {text rest : List Char} (h : skipLineBreak? text = some rest) :
    rest.length ≤ text.length := by
  have hle := (List.dropWhile_suffix isSpace (l := text)).length_le
  unfold skipLineBreak? at h
  split at h
  · simp only [Option.some.injEq] at h
    simp [← h]
  · rename_i c tail htail
    split at h
    · simp only [Option.some.injEq] at h
      have := (List.dropWhile_suffix isSpaceOrNewline (l := tail)).length_le
      rw [htail, List.length_cons] at hle
      rw [← h]
      omega
    · simp at h

/-- Up to two marks that stand directly before the closing three belong to the string. -/
def extraMarks (mark : Char) : List Char → List Char × List Char
  | c :: d :: rest =>
      if c = mark then if d = mark then ([mark, mark], rest) else ([mark], d :: rest)
      else ([], c :: d :: rest)
  | [c] => if c = mark then ([mark], []) else ([], [c])
  | [] => ([], [])

/-- What follows three marks, if they are there. -/
def afterThree? (mark : Char) : List Char → Option (List Char)
  | a :: b :: c :: rest => if a = mark && b = mark && c = mark then some rest else none
  | _ => none

/-- Reads a string over several lines behind its opening quotes. -/
def readMultiline? (text : List Char) : Option (List Char × List Char) :=
  match text with
  | [] => none
  | c :: rest =>
      match afterThree? '"' (c :: rest) with
      | some after => some (extraMarks '"' after)
      | none =>
          if c = '\\' then
            if rest.head?.any isSpaceOrNewline then
              match _ : skipLineBreak? rest with
              | none => none
              | some rest => readMultiline? rest
            else
              match _ : readEscape? rest with
              | none => none
              | some (escaped, rest) =>
                  (readMultiline? rest).map fun (value, after) => (escaped :: value, after)
          else if isInnerControl c then none
          else (readMultiline? rest).map fun (value, after) => (c :: value, after)
termination_by text.length
decreasing_by
  · have := length_skipLineBreak?_le ‹_›
    simp only [List.length_cons]
    omega
  · have := length_readEscape?_lt ‹_›
    simp only [List.length_cons]
    omega
  · simp

/-- Reads a literal string behind its opening apostrophe. -/
def readLiteral? : List Char → Option (List Char × List Char)
  | [] => none
  | c :: rest =>
      if c = '\'' then some ([], rest)
      else if isControl c then none
      else (readLiteral? rest).map fun (value, after) => (c :: value, after)

/-- Reads a literal string over several lines behind its opening apostrophes. -/
def readMultilineLiteral? : List Char → Option (List Char × List Char)
  | [] => none
  | c :: rest =>
      match afterThree? '\'' (c :: rest) with
      | some after => some (extraMarks '\'' after)
      | none =>
          if isInnerControl c then none
          else (readMultilineLiteral? rest).map fun (value, after) => (c :: value, after)

/-- The text without the newline it may start with. -/
def dropNewline : List Char → List Char
  | [] => []
  | c :: rest => if c = '\n' then rest else c :: rest

/-- Reads a string of any of the four forms. -/
def readString? (text : List Char) : Option (List Char × List Char) :=
  match text with
  | [] => none
  | c :: rest =>
      if c = '"' then
        match afterThree? '"' text with
        | some body => readMultiline? (dropNewline body)
        | none => readBasic? rest
      else if c = '\'' then
        match afterThree? '\'' text with
        | some body => readMultilineLiteral? (dropNewline body)
        | none => readLiteral? rest
      else none

/-- Digits behind a digit, with single underscores between them. -/
def moreDigits (isDigit : Char → Bool) : List Char → List Char × List Char
  | c :: d :: rest =>
      if isDigit c then
        let more := moreDigits isDigit (d :: rest)
        (c :: more.1, more.2)
      else if c = '_' && isDigit d then
        let more := moreDigits isDigit rest
        (d :: more.1, more.2)
      else ([], c :: d :: rest)
  | [c] => if isDigit c then ([c], []) else ([], [c])
  | [] => ([], [])

/-- Digits, at least one, with single underscores between them. -/
def readDigits? (isDigit : Char → Bool) : List Char → Option (List Char × List Char)
  | [] => none
  | c :: rest =>
      if isDigit c then
        let more := moreDigits isDigit rest
        some (c :: more.1, more.2)
      else none

/-- The bases that a letter behind a zero announces. -/
def baseOf? : Char → Option (Nat × (Char → Bool))
  | 'x' => some (16, isHexDigit)
  | 'o' => some (8, fun c => '0' ≤ c && c ≤ '7')
  | 'b' => some (2, fun c => c = '0' || c = '1')
  | _ => none

/-- Reads an integer in another base than ten. -/
def readBased? : List Char → Option (Value × List Char)
  | '0' :: letter :: rest => do
      let (base, isDigit) ← baseOf? letter
      let (digits, rest) ← readDigits? isDigit rest
      some (.integer (valueIn base digits), rest)
  | _ => none

/-- Reads a sign, and whether it is a minus. -/
def readSign : List Char → Bool × List Char
  | [] => (false, [])
  | c :: rest => if c = '-' then (true, rest) else if c = '+' then (false, rest) else (false, c :: rest)

/-- Reads the digits before the point: a zero alone, or digits that start with no zero. -/
def readWhole? : List Char → Option (List Char × List Char)
  | [] => none
  | c :: rest => if c = '0' then some (['0'], rest) else readDigits? Char.isDigit (c :: rest)

/-- Reads a point and digits, or nothing. -/
def readFraction (text : List Char) : Option (List Char) × List Char :=
  match text with
  | '.' :: rest =>
      match readDigits? Char.isDigit rest with
      | some (digits, rest) => (some digits, rest)
      | none => (none, text)
  | _ => (none, text)

/-- Reads the exponent of a power of ten, or nothing. -/
def readExponent (text : List Char) : Option Int × List Char :=
  match text with
  | [] => (none, [])
  | c :: rest =>
      if c = 'e' || c = 'E' then
        let (negative, rest) := readSign rest
        match readDigits? Char.isDigit rest with
        | some (digits, rest) =>
            let size : Int := valueIn 10 digits
            (some (if negative then -size else size), rest)
        | none => (none, text)
      else (none, text)

/-- Reads a decimal integer or a float. -/
def readDecimal? (text : List Char) : Except ReadError (Option (Value × List Char)) :=
  let (negative, unsigned) := readSign text
  match readWhole? unsigned with
  | none => .ok none
  | some (whole, rest) =>
      let (fraction, rest) := readFraction rest
      let (exponent, rest) := readExponent rest
      match fraction, exponent with
      | none, none =>
          if Text.maxDigits < whole.length then .error (.tooLong whole.length)
          else
            let size : Int := valueIn 10 whole
            .ok (some (.integer (if negative then -size else size), rest))
      | _, _ =>
          let digits := fraction.getD []
          let power := exponent.getD 0 - digits.length
          .ok (some (.float (nearestDouble negative (valueIn 10 (whole ++ digits)) power), rest))

/-- Reads infinity or the value that is no number, with or without a sign. -/
def readSpecial? (text : List Char) : Option (Value × List Char) :=
  let (negative, rest) := readSign text
  if "inf".toList.isPrefixOf rest then
    some (.float (if negative then -(1 / 0) else 1 / 0), rest.drop 3)
  else if "nan".toList.isPrefixOf rest then some (.float (0 / 0), rest.drop 3)
  else none

/-- Reads exactly two digits whose value lies in a range. -/
def readTwo? (least greatest : Nat) : List Char → Option (Nat × List Char)
  | c :: d :: rest =>
      let value := valueIn 10 [c, d]
      if c.isDigit && d.isDigit && least ≤ value && value ≤ greatest then some (value, rest) else none
  | _ => none

/-- Passes a character that must be this one. -/
def pass? (mark : Char) : List Char → Option (List Char)
  | [] => none
  | c :: rest => if c = mark then some rest else none

/-- Passes a time: hours, minutes, seconds, and a fraction of a second if there is one. -/
def passTime? (text : List Char) : Option (List Char) := do
  let (_, text) ← readTwo? 0 23 text
  let text ← pass? ':' text
  let (_, text) ← readTwo? 0 59 text
  let text ← pass? ':' text
  let (_, text) ← readTwo? 0 59 text
  match text with
  | '.' :: rest =>
      if rest.head?.any Char.isDigit then some (rest.dropWhile Char.isDigit) else some text
  | _ => some text

/-- Passes an offset from universal time, if there is one. -/
def passOffset (text : List Char) : List Char :=
  match text with
  | [] => []
  | c :: rest =>
      if c = 'Z' || c = 'z' then rest
      else if c = '+' || c = '-' then
        let offset : Option (List Char) := do
          let (_, text) ← readTwo? 0 23 rest
          let text ← pass? ':' text
          let (_, text) ← readTwo? 0 59 text
          some text
        offset.getD text
      else text

/-- Passes the time behind a date, if there is one. -/
def passTimeOfDay (text : List Char) : List Char :=
  match text with
  | [] => []
  | c :: rest =>
      if c = 'T' || c = 't' || c = ' ' then ((passTime? rest).map passOffset).getD text else text

def isLeapYear (year : Nat) : Bool :=
  year % 4 == 0 && (year % 100 != 0 || year % 400 == 0)

def daysIn (year month : Nat) : Nat :=
  if month = 2 then if isLeapYear year then 29 else 28
  else if month = 4 ∨ month = 6 ∨ month = 9 ∨ month = 11 then 30
  else 31

/-- Passes a date that the calendar has. -/
def passDate? (text : List Char) : Option (List Char) := do
  let (century, text) ← readTwo? 0 99 text
  let (rest, text) ← readTwo? 0 99 text
  let text ← pass? '-' text
  let (month, text) ← readTwo? 1 12 text
  let text ← pass? '-' text
  let (day, text) ← readTwo? 1 31 text
  let year := 100 * century + rest
  if 1 ≤ year && day ≤ daysIn year month then some text else none

/-- What a reader passed over. -/
def passed (text rest : List Char) : String :=
  String.ofList (text.take (text.length - rest.length))

/-- Reads a date with or without a time, or a time alone. -/
def readMoment? (text : List Char) : Option (Value × List Char) :=
  let rest := ((passDate? text).map passTimeOfDay) <|> passTime? text
  rest.map fun rest => (.moment (passed text rest), rest)

end SchemaMigrate.Toml
