import SchemaMigrate.Proofs.Sql.Plain
import SchemaMigrate.Proofs.Sql.Token

/-!
Lexemes of SQL: words in letters of any script, quoted names, constants and marks, with blanks between them. Unlike
the tokens of queries they are read from every text, a quotation that is never closed aside.

The reader goes through a text character by character, so what it makes of a text that is put together is told from
the parts. Main statement: where a text ends the lexeme that the one before it left open, the lexemes of both are
those of the first and then those of the second.
-/

namespace SchemaMigrate.Sql

/-- What stands between two equal marks. -/
inductive Quotation where
  | name
  | constant
deriving Repr, DecidableEq

def Quotation.mark : Quotation → Char
  | .name => '"'
  | .constant => '\''

/-- A piece of a text. Words are kept in small letters; a numeral is a word that begins with a digit. -/
inductive Lexeme where
  | word (letters : String)
  | quoted (kind : Quotation) (text : String)
  | mark (c : Char)
deriving Repr, DecidableEq

/-- Where the reader stands. What it has of a lexeme is kept backwards. In a quotation the mark may stand for itself,
if another one follows, or be the end. -/
inductive Mode where
  | between
  | word (letters : List Char)
  | inside (kind : Quotation) (letters : List Char)
  | atMark (kind : Quotation) (letters : List Char)
deriving Repr, DecidableEq

/-- A character that belongs to a word. -/
def inWord (c : Char) : Bool := isWordPart c || c = '$' || 128 ≤ c.toNat

namespace Mode

/-- What the reader has once nothing more follows. A quotation that is not closed is no lexeme. -/
def finish : Mode → List Lexeme
  | .between | .inside _ _ => []
  | .word letters => [.word (smallLetters letters.reverse)]
  | .atMark kind letters => [.quoted kind (String.ofList letters.reverse)]

/-- What a character begins where nothing is open. -/
def start (c : Char) : List Lexeme × Mode :=
  if inWord c then ([], .word [c])
  else if c = Quotation.name.mark then ([], .inside .name [])
  else if c = Quotation.constant.mark then ([], .inside .constant [])
  else if c = ' ' || c = '\n' then ([], .between)
  else ([.mark c], .between)

/-- What is open is finished, and a character begins something else. -/
def turn (mode : Mode) (c : Char) : List Lexeme × Mode := (mode.finish ++ (start c).1, (start c).2)

/-- Reads a character: the lexemes that are complete with it, and where the reader stands then. -/
def next : Mode → Char → List Lexeme × Mode
  | .between, c => start c
  | .word letters, c => if inWord c then ([], .word (c :: letters)) else turn (.word letters) c
  | .inside kind letters, c =>
      if c = kind.mark then ([], .atMark kind letters) else ([], .inside kind (c :: letters))
  | .atMark kind letters, c =>
      if c = kind.mark then ([], .inside kind (c :: letters)) else turn (.atMark kind letters) c

/-- Whether a character ends what is open. -/
def endsBefore : Mode → Char → Bool
  | .between, _ => true
  | .word _, c => !inWord c
  | .inside _ _, _ => false
  | .atMark kind _, c => c ≠ kind.mark

/-- Whether no quotation is open. -/
def isSettled : Mode → Bool
  | .inside _ _ => false
  | .between | .word _ | .atMark _ _ => true

/-- Reads a text. -/
def scan : Mode → List Char → List Lexeme × Mode
  | mode, [] => ([], mode)
  | mode, c :: rest =>
      ((mode.next c).1 ++ (scan (mode.next c).2 rest).1, (scan (mode.next c).2 rest).2)

theorem scan_append (mode : Mode) (first second : List Char) :
    mode.scan (first ++ second) =
      ((mode.scan first).1 ++ ((mode.scan first).2.scan second).1, ((mode.scan first).2.scan second).2) := by
  induction first generalizing mode with
  | nil => rfl
  | cons c first ih => rw [List.cons_append, scan, scan, ih, List.append_assoc]

/-- Where a character ends what is open, the reader goes on as at the front of a text. -/
theorem next_of_endsBefore {mode : Mode} {c : Char} (h : mode.endsBefore c = true) : mode.next c = mode.turn c := by
  cases mode with
  | between => rfl
  | word letters => exact if_neg (by simpa [endsBefore] using h)
  | inside kind letters => cases h
  | atMark kind letters => exact if_neg (by simpa [endsBefore] using h)

end Mode

/-- What a text leaves open at its end. -/
def openEnd (text : String) : Mode := (Mode.between.scan text.toList).2

/-- The lexemes of a text. -/
def lexemes (text : String) : List Lexeme := (Mode.between.scan text.toList).1 ++ (openEnd text).finish

/-- The characters before which every word and every closed quotation ends. -/
def separators : List Char := [' ', '\n', ',', '(', ')', '.']

/-- Whether a text begins with a separator, if it has characters. -/
def standsApart (text : String) : Bool := text.toList.head?.all separators.contains

section Laws

variable {first second : String}

/-- A text is read after another one as it is alone, if its first character ends what that left open. -/
theorem scan_joined {mode : Mode} {text : List Char} (hne : text ≠ [])
    (h : ∀ c ∈ text.head?, mode.endsBefore c = true) :
    mode.scan text = (mode.finish ++ (Mode.between.scan text).1, (Mode.between.scan text).2) := by
  obtain ⟨c, rest, rfl⟩ := List.exists_cons_of_ne_nil hne
  have hturn : mode.next c = mode.turn c := Mode.next_of_endsBefore (h c rfl)
  rw [Mode.scan, Mode.scan, hturn, Mode.turn, List.append_assoc]
  rfl

theorem openEnd_append (hne : second.toList ≠ [])
    (h : ∀ c ∈ second.toList.head?, (openEnd first).endsBefore c = true) :
    openEnd (first ++ second) = openEnd second := by
  have hjoined : ((openEnd first).scan second.toList).2 = openEnd second := by
    rw [scan_joined hne h]
    rfl
  rw [openEnd, String.toList_append, Mode.scan_append]
  exact hjoined

/-- The lexemes of two texts, one behind the other. -/
theorem lexemes_append (h : ∀ c ∈ second.toList.head?, (openEnd first).endsBefore c = true) :
    lexemes (first ++ second) = lexemes first ++ lexemes second := by
  by_cases hne : second.toList = []
  · have hempty : second = "" := String.toList_inj.1 hne
    rw [hempty, String.append_empty]
    exact (List.append_nil _).symm
  · have hjoined : (openEnd first).scan second.toList = _ := scan_joined hne h
    rw [lexemes, openEnd_append hne h, String.toList_append, Mode.scan_append]
    simp only [lexemes, openEnd] at hjoined ⊢
    rw [hjoined, List.append_assoc, List.append_assoc, List.append_assoc]

/-- Nothing is open at the end of the first text. -/
theorem lexemes_append_of_closed (h : openEnd first = .between) :
    lexemes (first ++ second) = lexemes first ++ lexemes second :=
  lexemes_append fun _ _ => by rw [h]; rfl

theorem openEnd_append_of_closed (h : openEnd first = .between) : openEnd (first ++ second) = openEnd second := by
  by_cases hne : second.toList = []
  · have hempty : second = "" := String.toList_inj.1 hne
    rw [hempty, String.append_empty, h]
    rfl
  · exact openEnd_append hne fun _ _ => by rw [h]; rfl

theorem endsBefore_of_separator {mode : Mode} {c : Char} (hmode : mode.isSettled = true) (hc : c ∈ separators) :
    mode.endsBefore c = true := by
  have hword : separators.all (!inWord ·) = true := by decide
  have hmark (kind : Quotation) : separators.all (· ≠ kind.mark) = true := by cases kind <;> decide
  cases mode with
  | between => rfl
  | word letters => exact List.all_eq_true.1 hword c hc
  | inside kind letters => cases hmode
  | atMark kind letters => exact List.all_eq_true.1 (hmark kind) c hc

theorem endsBefore_of_standsApart (hfirst : (openEnd first).isSettled = true) (hsecond : standsApart second = true) :
    ∀ c ∈ second.toList.head?, (openEnd first).endsBefore c = true := by
  intro c hc
  rw [standsApart, Option.mem_def.1 hc] at hsecond
  exact endsBefore_of_separator hfirst (List.contains_iff_mem.1 hsecond)

/-- The second text begins with a separator. -/
theorem lexemes_append_apart (hfirst : (openEnd first).isSettled = true) (hsecond : standsApart second = true) :
    lexemes (first ++ second) = lexemes first ++ lexemes second :=
  lexemes_append (endsBefore_of_standsApart hfirst hsecond)

theorem isSettled_append_apart (hfirst : (openEnd first).isSettled = true) (hsecond : standsApart second = true)
    (hlast : (openEnd second).isSettled = true) : (openEnd (first ++ second)).isSettled = true := by
  by_cases hne : second.toList = []
  · have hempty : second = "" := String.toList_inj.1 hne
    rwa [hempty, String.append_empty]
  · rwa [openEnd_append hne (endsBefore_of_standsApart hfirst hsecond)]

theorem standsApart_append (h : standsApart first = true) (hne : first ≠ "") :
    standsApart (first ++ second) = true := by
  unfold standsApart at h ⊢
  rw [String.toList_append]
  cases hfirst : first.toList with
  | nil => exact absurd (String.toList_inj.1 hfirst) hne
  | cons c rest =>
      rw [hfirst] at h
      exact h

end Laws

section Pieces

/-- Within a quotation a doubled mark stands for one. -/
theorem scan_doubleQuotes (letters name : List Char) :
    (Mode.inside .name letters).scan (doubleQuotes name ++ ['"']) = ([], .atMark .name (name.reverse ++ letters)) := by
  induction name generalizing letters with
  | nil => rfl
  | cons c name ih =>
      by_cases hc : c = '"'
      · subst hc
        have hread := ih ('"' :: letters)
        rw [doubleQuotes, if_pos rfl, List.cons_append, List.cons_append, List.reverse_cons, List.append_assoc]
        exact hread
      · have hinside : (Mode.inside .name letters).next c = ([], .inside .name (c :: letters)) := if_neg hc
        rw [doubleQuotes, if_neg hc, List.cons_append, Mode.scan, hinside, ih, List.reverse_cons, List.append_assoc]
        rfl

theorem scan_quote (name : String) :
    Mode.between.scan (quote name).toList = ([], .atMark .name name.toList.reverse) := by
  have hquote : (quote name).toList = '"' :: (doubleQuotes name.toList ++ ['"']) := String.toList_ofList
  have hstart : Mode.between.next '"' = ([], .inside .name []) := by decide
  rw [hquote, Mode.scan, hstart, scan_doubleQuotes]
  simp only [List.append_nil]

/-- A quoted name is one lexeme, whatever it contains. -/
@[simp] theorem lexemes_quote (name : String) : lexemes (quote name) = [.quoted .name name] := by
  rw [lexemes, openEnd, scan_quote, Mode.finish, List.reverse_reverse, String.ofList_toList]
  rfl

@[simp] theorem isSettled_quote (name : String) : (openEnd (quote name)).isSettled = true := by
  rw [openEnd, scan_quote]
  rfl

theorem lexemes_quote_append {text : String} (name : String) (h : standsApart text = true) :
    lexemes (quote name ++ text) = .quoted .name name :: lexemes text := by
  rw [lexemes_append_apart (isSettled_quote name) h, lexemes_quote]
  rfl

theorem inWord_of_isWord {c : Char} (h : Text.isWord c = true) : inWord c = true := by
  by_cases hc : c.toNat < 128
  · revert h
    exact Text.forall_ascii (P := fun c => Text.isWord c = true → inWord c = true) (by decide +kernel) hc
  · rw [inWord, Bool.or_eq_true, decide_eq_true_eq]
    exact .inr (Nat.le_of_not_lt hc)

theorem scan_inWord {letters more : List Char} (h : ∀ c ∈ more, inWord c = true) :
    (Mode.word letters).scan more = ([], .word (more.reverse ++ letters)) := by
  induction more generalizing letters with
  | nil => rfl
  | cons c more ih =>
      obtain ⟨hc, hmore⟩ := List.forall_mem_cons.1 h
      have hnext : (Mode.word letters).next c = ([], .word (c :: letters)) := if_pos hc
      rw [Mode.scan, hnext, ih hmore, List.reverse_cons, List.append_assoc]
      rfl

/-- A text of word characters is one word, if it is anything. -/
theorem lexemes_of_isWordy {text : String} (h : Model.IsWordy text) :
    (openEnd text).isSettled = true ∧ (lexemes text = [] ∨ ∃ letters, lexemes text = [.word letters]) := by
  cases htext : text.toList with
  | nil =>
      rw [lexemes, openEnd, htext]
      exact ⟨rfl, .inl rfl⟩
  | cons c rest =>
      have hword : ∀ d ∈ c :: rest, inWord d = true := fun d hd => inWord_of_isWord (h d (htext ▸ hd))
      obtain ⟨hc, hrest⟩ := List.forall_mem_cons.1 hword
      have hstart : Mode.between.next c = ([], .word [c]) := if_pos hc
      have hscan : Mode.between.scan text.toList = ([], .word (rest.reverse ++ [c])) := by
        rw [htext, Mode.scan, hstart, scan_inWord hrest]
        rfl
      rw [lexemes, openEnd, hscan]
      exact ⟨rfl, .inr ⟨_, rfl⟩⟩

end Pieces

end SchemaMigrate.Sql
