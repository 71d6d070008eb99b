import Mathlib.Data.Rat.Defs
import SchemaMigrate.Proofs.Text.Numerals
import SchemaMigrate.Sql.Identifier

/-!
Tokens of SQL: words, quoted names, numerals and marks, with blanks between them. Words are read without regard to
case, and in a quoted name a doubled quote stands for one.

Main statement: a text that is put together from the spellings of tokens is read as these tokens, if there is a blank
or a bracket wherever two of them could run together. A name is read back whatever it contains.
-/

namespace SchemaMigrate.Sql

/-- A token. Words are kept in small letters, and numerals with a point are told from those without. -/
inductive Token where
  | word (letters : String)
  | name (text : String)
  | whole (value : ℕ)
  | fraction (value : ℚ)
  | mark (text : String)
deriving Repr, DecidableEq

/-- A character that a word may begin with. -/
def isLetter (c : Char) : Bool := c.isAlpha || c = '_'

/-- A character that a word may go on with. -/
def isWordPart (c : Char) : Bool := isLetter c || c.isDigit

/-- A word in small letters. -/
def smallLetters (letters : List Char) : String := String.ofList (letters.map Char.toLower)

/-- The marks of one character. -/
def singleMarks : List Char := ['(', ')', ',', '*', '=', '>']

/-- What stands before the quote that ends a name, and what comes behind it. -/
def readName : List Char → Option (List Char × List Char)
  | '"' :: '"' :: rest => (readName rest).map fun (name, after) => ('"' :: name, after)
  | '"' :: rest => some ([], rest)
  | c :: rest => (readName rest).map fun (name, after) => (c :: name, after)
  | [] => none

/-- The numeral at the front of a text, and what comes behind it. -/
def readNumeral (text : List Char) : Token × List Char :=
  let whole := text.takeWhile Char.isDigit
  match text.dropWhile Char.isDigit with
  | '.' :: rest =>
      let places := rest.takeWhile Char.isDigit
      (.fraction (Text.digitsValue (whole ++ places) / 10 ^ places.length), rest.dropWhile Char.isDigit)
  | rest => (.whole (Text.digitsValue whole), rest)

/-- The token at the front of a text, or none if a blank stands there, and what comes behind it. -/
def scan : List Char → Option (Option Token × List Char)
  | [] => none
  | ' ' :: rest | '\n' :: rest => some (none, rest)
  | '"' :: rest => (readName rest).map fun (name, after) => (some (.name (String.ofList name)), after)
  | '>' :: '=' :: rest => some (some (.mark ">="), rest)
  | '<' :: '>' :: rest => some (some (.mark "<>"), rest)
  | c :: rest =>
      if c.isDigit then
        let (token, after) := readNumeral (c :: rest)
        some (some token, after)
      else if isLetter c then
        some (some (.word (smallLetters (c :: rest.takeWhile isWordPart))), rest.dropWhile isWordPart)
      else if singleMarks.contains c then some (some (.mark (String.ofList [c])), rest)
      else none

/-- The tokens of a text. -/
def tokens (text : List Char) : Option (List Token) :=
  match text with
  | [] => some []
  | c :: cs =>
      match scan (c :: cs) with
      | none => none
      | some (token, rest) =>
          if rest.length < (c :: cs).length then (tokens rest).map (token.toList ++ ·) else none
termination_by text.length
decreasing_by assumption

/-- A numeral as it is spelled. -/
structure Numeral where
  whole : List Char
  places : List Char := []
  whole_ne_nil : whole ≠ []
  isDigit_whole : ∀ c ∈ whole, c.isDigit = true
  isDigit_places : ∀ c ∈ places, c.isDigit = true

namespace Numeral

def spelling (numeral : Numeral) : List Char :=
  match numeral.places with
  | [] => numeral.whole
  | places => numeral.whole ++ '.' :: places

def token (numeral : Numeral) : Token :=
  match numeral.places with
  | [] => .whole (Text.digitsValue numeral.whole)
  | places => .fraction (Text.digitsValue (numeral.whole ++ places) / 10 ^ places.length)

end Numeral

/-- A piece of a text: a blank, or a token as it is spelled. -/
inductive Piece where
  | blank
  | word (letters : String)
  | name (text : String)
  | numeral (digits : Numeral)
  | mark (text : String)

namespace Piece

def spelling : Piece → List Char
  | .blank => [' ']
  | .word letters => letters.toList
  | .name text => (quote text).toList
  | .numeral digits => digits.spelling
  | .mark text => text.toList

def token? : Piece → Option Token
  | .blank => none
  | .word letters => some (.word (smallLetters letters.toList))
  | .name text => some (.name text)
  | .numeral digits => some digits.token
  | .mark text => some (.mark text)

/-- Whether a piece is spelled as the token that it stands for. -/
def sound : Piece → Bool
  | .blank | .name _ | .numeral _ => true
  | .word letters => !letters.toList.isEmpty && letters.toList.all isLetter
  | .mark text => text = ">=" || text = "<>" || singleMarks.any fun c => text.toList = [c]

/-- Whether a token could run on into what comes behind it. -/
def runsOn : Piece → Bool
  | .blank => false
  | .mark text => text ≠ "("
  | .word _ | .name _ | .numeral _ => true

end Piece

/-- Some pieces as they are spelled. -/
def spelled (pieces : List Piece) : List Char := pieces.flatMap Piece.spelling

/-- The characters before which a token ends. -/
def boundaries : List Char := [' ', '(', ')', ',']

/-- Whether a token ends before a text. -/
def endsBefore : List Char → Bool
  | [] => true
  | c :: _ => boundaries.contains c

/-- Whether some pieces are sound and none runs on into the next one. -/
def wellSpaced : List Piece → Bool
  | [] => true
  | piece :: pieces => piece.sound && (!piece.runsOn || endsBefore (spelled pieces)) && wellSpaced pieces

section Scanning

variable {rest : List Char}

theorem takeWhile_append_of_endsBefore {p : Char → Bool} {front : List Char} (hfront : ∀ c ∈ front, p c = true)
    (hstop : (boundaries.all fun c => !p c) = true) (h : endsBefore rest = true) :
    (front ++ rest).takeWhile p = front ∧ (front ++ rest).dropWhile p = rest := by
  rw [List.takeWhile_append_of_pos hfront, List.dropWhile_append_of_pos hfront]
  cases rest with
  | nil => simp
  | cons c rest =>
      have hc : p c = false := by simpa using List.all_eq_true.1 hstop c (List.contains_iff_mem.1 h)
      rw [List.takeWhile_cons_of_neg (by simp [hc]), List.dropWhile_cons_of_neg (by simp [hc]), List.append_nil]
      exact ⟨rfl, rfl⟩

/-- A name ends at its last quote if no other quote is behind it. -/
theorem readName_doubleQuotes (h : rest.head? ≠ some '"') (name : List Char) :
    readName (doubleQuotes name ++ '"' :: rest) = some (name, rest) := by
  induction name with
  | nil =>
      have hhead : ∀ tail, rest ≠ '"' :: tail := by
        rintro tail rfl
        exact h rfl
      rw [doubleQuotes, List.nil_append, readName]
      exact hhead
  | cons c name ih =>
      by_cases hc : c = '"'
      · subst hc
        rw [doubleQuotes, if_pos rfl, List.cons_append, List.cons_append, readName, ih]
        rfl
      · rw [doubleQuotes, if_neg hc, List.cons_append, readName, ih]
        · rfl
        · intro tail hcase
          exact absurd hcase hc
        · exact hc

theorem readNumeral_whole {whole : List Char} (hwhole : ∀ c ∈ whole, c.isDigit = true) (h : endsBefore rest = true) :
    readNumeral (whole ++ rest) = (.whole (Text.digitsValue whole), rest) := by
  obtain ⟨htake, hdrop⟩ := takeWhile_append_of_endsBefore hwhole (by decide) h
  unfold readNumeral
  rw [htake, hdrop]
  cases rest with
  | nil => rfl
  | cons c rest =>
      have hpoint : c ≠ '.' := by
        rintro rfl
        cases h
      dsimp only
      split
      · rename_i hcase
        cases hcase
        exact absurd rfl hpoint
      · rfl

theorem readNumeral_fraction {whole places : List Char} (hwhole : ∀ c ∈ whole, c.isDigit = true)
    (hplaces : ∀ c ∈ places, c.isDigit = true) (h : endsBefore rest = true) :
    readNumeral (whole ++ '.' :: (places ++ rest)) =
      (.fraction (Text.digitsValue (whole ++ places) / 10 ^ places.length), rest) := by
  obtain ⟨htake, hdrop⟩ := takeWhile_append_of_endsBefore hplaces (by decide) h
  unfold readNumeral
  rw [List.takeWhile_append_of_pos hwhole, List.dropWhile_append_of_pos hwhole,
    List.takeWhile_cons_of_neg (by decide), List.dropWhile_cons_of_neg (by decide), List.append_nil]
  simp only [htake, hdrop]

theorem isLetter_of_isDigit {c : Char} (h : c.isDigit = true) : isLetter c = false := by
  have hascii : c.toNat < 128 := Nat.lt_trans (Text.toNat_lt_of_isDigit h) (by decide)
  revert h
  exact Text.forall_ascii (P := fun c => c.isDigit = true → isLetter c = false) (by decide +kernel) hascii

/-- No letter and no digit is a blank, a quote or a bracket, or begins a mark of two characters. -/
theorem scan_cons {c : Char} (h : isWordPart c = true) :
    scan (c :: rest) =
      if c.isDigit then some (some (readNumeral (c :: rest)).1, (readNumeral (c :: rest)).2)
      else some (some (.word (smallLetters (c :: rest.takeWhile isWordPart))), rest.dropWhile isWordPart) := by
  have hne (d : Char) (hd : isWordPart d = false) : c ≠ d := by
    rintro rfl
    rw [hd] at h
    cases h
  have hletter : c.isDigit = false → isLetter c = true := by
    intro hdigit
    rwa [isWordPart, hdigit, Bool.or_false] at h
  rw [scan]
  · cases hdigit : c.isDigit with
    | true => rfl
    | false => rw [if_neg Bool.false_ne_true, if_neg Bool.false_ne_true, if_pos (hletter hdigit)]
  · exact hne ' ' (by decide)
  · exact hne '\n' (by decide)
  · exact hne '"' (by decide)
  · exact fun _ hcase => absurd hcase (hne '>' (by decide))
  · exact fun _ hcase => absurd hcase (hne '<' (by decide))

theorem scan_word {letters : String} (h : (Piece.word letters).sound = true) (hrest : endsBefore rest = true) :
    scan (letters.toList ++ rest) = some (some (.word (smallLetters letters.toList)), rest) := by
  rw [Piece.sound, Bool.and_eq_true, List.all_eq_true] at h
  obtain ⟨hne, hall⟩ := h
  cases hletters : letters.toList with
  | nil =>
      rw [hletters] at hne
      cases hne
  | cons c tail =>
      rw [hletters] at hall
      have hpart : ∀ d ∈ c :: tail, isWordPart d = true := fun d hd => by rw [isWordPart, hall d hd, Bool.true_or]
      have hdigit : c.isDigit = false := by
        cases hcase : c.isDigit with
        | false => rfl
        | true => rw [← isLetter_of_isDigit hcase, hall c List.mem_cons_self]
      obtain ⟨htake, hdrop⟩ := takeWhile_append_of_endsBefore (p := isWordPart)
        (fun d hd => hpart d (List.mem_cons_of_mem _ hd)) (by decide) hrest
      rw [List.cons_append, scan_cons (hpart c List.mem_cons_self), hdigit, if_neg Bool.false_ne_true, htake, hdrop]

theorem toList_quote_append (name : String) (rest : List Char) :
    (quote name).toList ++ rest = '"' :: (doubleQuotes name.toList ++ '"' :: rest) := by
  have hquote : (quote name).toList = '"' :: (doubleQuotes name.toList ++ ['"']) := String.toList_ofList
  rw [hquote, List.cons_append, List.append_assoc, List.singleton_append]

theorem scan_name (text : String) (hrest : endsBefore rest = true) :
    scan ((quote text).toList ++ rest) = some (some (.name text), rest) := by
  have hhead : rest.head? ≠ some '"' := by
    intro hquote
    obtain ⟨tail, rfl⟩ := List.head?_eq_some_iff.1 hquote
    cases hrest
  rw [toList_quote_append, scan, readName_doubleQuotes hhead]
  simp

theorem scan_numeral (numeral : Numeral) (hrest : endsBefore rest = true) :
    scan (numeral.spelling ++ rest) = some (some numeral.token, rest) := by
  obtain ⟨whole, places, hne, hwhole, hplaces⟩ := numeral
  obtain ⟨c, tail, rfl⟩ := List.exists_cons_of_ne_nil hne
  have hdigit : c.isDigit = true := hwhole c List.mem_cons_self
  have hpart : isWordPart c = true := by rw [isWordPart, hdigit, Bool.or_true]
  cases places with
  | nil =>
      have hread := readNumeral_whole hwhole hrest
      rw [List.cons_append] at hread
      rw [Numeral.spelling, List.cons_append, scan_cons hpart, if_pos hdigit, hread]
      rfl
  | cons digit places =>
      have hread := readNumeral_fraction hwhole hplaces hrest
      rw [List.cons_append, List.cons_append] at hread
      rw [Numeral.spelling, List.append_assoc, List.cons_append, List.cons_append, List.cons_append,
        scan_cons hpart, if_pos hdigit, hread]
      rfl

theorem sound_mark_iff {text : String} :
    (Piece.mark text).sound = true ↔ text = ">=" ∨ text = "<>" ∨ ∃ c ∈ singleMarks, text.toList = [c] := by
  simp [Piece.sound, or_assoc]

theorem scan_mark {text : String} (h : (Piece.mark text).sound = true)
    (hrest : (Piece.mark text).runsOn = true → endsBefore rest = true) :
    scan (text.toList ++ rest) = some (some (.mark text), rest) := by
  rcases sound_mark_iff.1 h with rfl | rfl | ⟨c, hc, htext⟩
  · rfl
  · rfl
  · obtain rfl : text = String.ofList [c] := by rw [← htext, String.ofList_toList]
    simp only [singleMarks, List.mem_cons, List.not_mem_nil, or_false] at hc
    rcases hc with rfl | rfl | rfl | rfl | rfl | rfl
    case inr.inr.inr.inr.inr =>
      -- an equals sign behind it would make another mark
      have hhead : ∀ tail, rest ≠ '=' :: tail := by
        rintro tail rfl
        cases hrest (by decide)
      have hread : scan ('>' :: rest) = some (some (.mark (String.ofList ['>'])), rest) := by
        rw [scan]
        · rfl
        all_goals simp [hhead]
      exact hread
    all_goals rfl

/-- A sound piece is read as its token if it does not run on. -/
theorem scan_piece {piece : Piece} (h : piece.sound = true)
    (hrest : piece.runsOn = true → endsBefore rest = true) :
    scan (piece.spelling ++ rest) = some (piece.token?, rest) := by
  cases piece with
  | blank => rfl
  | word letters => exact scan_word h (hrest rfl)
  | name text => exact scan_name text (hrest rfl)
  | numeral digits => exact scan_numeral digits (hrest rfl)
  | mark text => exact scan_mark h hrest

end Scanning

theorem spelling_ne_nil {piece : Piece} (h : piece.sound = true) : piece.spelling ≠ [] := by
  cases piece with
  | blank => simp [Piece.spelling]
  | word letters => simpa [Piece.sound, Piece.spelling] using (Bool.and_eq_true_iff.1 h).1
  | name text => simp [Piece.spelling, quote]
  | numeral digits =>
      obtain ⟨whole, places, hne, -, -⟩ := digits
      cases places <;> simp [Piece.spelling, Numeral.spelling, hne]
  | mark text =>
      rcases sound_mark_iff.1 h with rfl | rfl | ⟨c, -, htext⟩
      · decide
      · decide
      · simp [Piece.spelling, htext]

/-- A text of well-spaced pieces is read as their tokens. -/
theorem tokens_spelled {pieces : List Piece} (h : wellSpaced pieces = true) :
    tokens (spelled pieces) = some (pieces.filterMap Piece.token?) := by
  induction pieces with
  | nil => simp [spelled, tokens]
  | cons piece pieces ih =>
      rw [wellSpaced, Bool.and_eq_true, Bool.and_eq_true, Bool.or_eq_true, Bool.not_eq_true'] at h
      obtain ⟨⟨hsound, hstop⟩, hrest⟩ := h
      have hscan := scan_piece hsound fun hruns => hstop.resolve_left (by simp [hruns])
      obtain ⟨c, tail, hspelling⟩ := List.exists_cons_of_ne_nil (spelling_ne_nil hsound)
      have hcons : spelled (piece :: pieces) = c :: (tail ++ spelled pieces) := by
        rw [spelled, List.flatMap_cons, hspelling, List.cons_append]
        rfl
      rw [hspelling, List.cons_append] at hscan
      have hshorter : (spelled pieces).length < (c :: (tail ++ spelled pieces)).length := by
        rw [List.length_cons, List.length_append]
        omega
      rw [hcons, tokens, hscan]
      simp only [if_pos hshorter, ih hrest, Option.map_some]
      cases htoken : piece.token? with
      | none => rw [List.filterMap_cons_none htoken]; rfl
      | some token => rw [List.filterMap_cons_some htoken]; rfl

end SchemaMigrate.Sql
