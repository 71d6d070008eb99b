import Mathlib.Data.List.Forall2
import SchemaMigrate.Model.Line
import SchemaMigrate.Proofs.Grammar.Reading

/-!
The lines of printed texts. No printed line holds a remark, a brace of its own or an end of line, so the
lines that are read are those that were printed, without their indentation.
-/

namespace SchemaMigrate.Grammar

open Model
open Text (isWord isBlank isNameStart isLineEnd trim trimLeft trimRight)

section Tidiness

/-- A character that may stand in a printed header or member. -/
def isPlain (c : Char) : Bool := isWord c || [' ', '?', '!', '@', '(', ')', ','].contains c

theorem ne_of_isPlain {c mark : Char} (hc : isPlain c = true) (hmark : isPlain mark = false) : c ≠ mark := by
  rintro rfl
  rw [hmark] at hc
  cases hc

theorem isPlain_of_isWord {c : Char} (h : isWord c = true) : isPlain c = true := by
  rw [isPlain, h, Bool.true_or]

/-- A text of plain characters that does not end with a blank. -/
structure Trails (text : List Char) : Prop where
  ends : ∀ c, text.getLast? = some c → isBlank c = false
  plain : ∀ c ∈ text, isPlain c = true

theorem trails_nil : Trails [] where
  ends _ h := by cases h
  plain _ h := by cases h

theorem Trails.append {first second : List Char} (hfirst : Trails first) (hsecond : Trails second) :
    Trails (first ++ second) where
  ends c hc := by
    rw [List.getLast?_append, Option.or_eq_some_iff] at hc
    rcases hc with hc | ⟨-, hc⟩
    · exact hsecond.ends c hc
    · exact hfirst.ends c hc
  plain c hc := by
    rcases List.mem_append.1 hc with hc | hc
    · exact hfirst.plain c hc
    · exact hsecond.plain c hc

theorem trails_singleton {c : Char} (hplain : isPlain c = true) (hblank : isBlank c = false) : Trails [c] where
  ends d hd := by
    cases hd
    exact hblank
  plain d hd := by
    rw [List.mem_singleton.1 hd]
    exact hplain

/-- Any plain character may stand in front of a text that is not empty. -/
theorem Trails.cons {c : Char} {rest : List Char} (hrest : Trails rest) (hplain : isPlain c = true)
    (hne : rest ≠ []) : Trails (c :: rest) where
  ends d hd := by
    rw [List.getLast?_cons_of_ne_nil hne] at hd
    exact hrest.ends d hd
  plain d hd := by
    rcases List.mem_cons.1 hd with rfl | hd
    · exact hplain
    · exact hrest.plain d hd

theorem trails_word {text : List Char} (h : ∀ c ∈ text, isWord c = true) : Trails text where
  ends c hc := Text.isBlank_of_isWord (h c (List.mem_of_getLast? hc))
  plain c hc := isPlain_of_isWord (h c hc)

theorem Identifier.trails (name : Identifier) : Trails name.chars := trails_word name.isWord

theorem Identifier.chars_ne_nil (name : Identifier) : name.chars ≠ [] := by
  obtain ⟨c, rest, hchars, -⟩ := name.chars_eq_cons
  rw [hchars]
  exact List.cons_ne_nil c rest

theorem Identifier.trails_space (name : Identifier) : Trails (' ' :: name.chars) :=
  name.trails.cons rfl name.chars_ne_nil

theorem trails_flag {mark : Char} (hplain : isPlain mark = true) (hblank : isBlank mark = false)
    (present : Bool) : Trails (flag mark present) := by
  cases present with
  | false => exact trails_nil
  | true => exact trails_singleton hplain hblank

theorem trails_size (size : Size) : Trails size.chars := by
  have hdigits (number : Nat) : Trails (Nat.toDigits 10 number) :=
    trails_word fun _ hc => Text.isWord_of_mem_toDigits hc
  have hparams : ∀ params, size.params? = some params → Trails params := by
    intro params h
    cases size with
    | unsized => cases h
    | precision digits =>
        cases h
        exact hdigits digits
    | scaled digits places =>
        cases h
        exact (hdigits digits).append ((hdigits places).cons rfl Nat.toDigits_ne_nil)
    | unbounded =>
        cases h
        exact trails_word (List.all_eq_true.1 rfl)
  unfold Size.chars
  cases hcase : size.params? with
  | none => exact trails_nil
  | some params =>
      have hclose : Trails [')'] := trails_singleton rfl rfl
      exact ((hparams params hcase).append hclose).cons rfl (by simp)

theorem TypeTerm.trails (type : TypeTerm) : Trails type.chars := type.code.trails.append (trails_size type.size)

theorem trails_marks (marks : List Mark) : Trails (marksChars marks) := by
  induction marks with
  | nil => exact trails_nil
  | cons mark marks ih =>
      have hmark : Trails (' ' :: '@' :: mark.chars) :=
        ((trails_word mark.isWord).cons rfl mark.chars_ne_nil).cons rfl (by simp)
      exact hmark.append ih

theorem trails_names (first : Identifier) (others : List Identifier) : Trails (namesChars first others) := by
  refine first.trails.append ?_
  induction others with
  | nil => exact trails_nil
  | cons name others ih => exact (name.trails_space.cons rfl (by simp)).append ih

theorem trails_role (role : Option (Identifier × Bool)) : Trails (roleChars role) := by
  cases role with
  | none => exact trails_nil
  | some role =>
      have has : Trails (' ' :: "as".toList) :=
        (trails_word (List.all_eq_true.1 (by decide +kernel))).cons (by decide) (by decide)
      exact (has.append role.1.trails_space).append (trails_flag rfl rfl role.2)

theorem trails_mixins (mixins : List Identifier) : Trails (mixinsChars mixins) := by
  cases mixins with
  | nil => exact trails_nil
  | cons first others =>
      have hwith : Trails (' ' :: "with".toList) :=
        (trails_word (List.all_eq_true.1 (by decide +kernel))).cons (by decide) (by decide)
      refine hwith.append ((trails_names first others).cons rfl ?_)
      exact List.append_ne_nil_of_left_ne_nil first.chars_ne_nil _

/-- A text of plain characters, at least one, with no blank at either end. -/
structure Tidy (text : List Char) : Prop extends Trails text where
  starts : ∃ c rest, text = c :: rest ∧ isBlank c = false

theorem Tidy.append {first second : List Char} (hfirst : Tidy first) (hsecond : Trails second) :
    Tidy (first ++ second) where
  toTrails := hfirst.toTrails.append hsecond
  starts := by
    obtain ⟨c, rest, rfl, hblank⟩ := hfirst.starts
    exact ⟨c, rest ++ second, rfl, hblank⟩

theorem Identifier.tidy (name : Identifier) : Tidy name.chars where
  toTrails := name.trails
  starts := by
    obtain ⟨c, rest, hchars, hstart⟩ := name.chars_eq_cons
    exact ⟨c, rest, hchars, isBlank_of_isNameStart hstart⟩

theorem Tidy.trim {text : List Char} (h : Tidy text) : trim text = text := by
  refine Text.trim_eq_self ?_ h.ends
  obtain ⟨c, rest, rfl, hblank⟩ := h.starts
  exact stops_cons.2 hblank

theorem tidy_word {text : List Char} (hne : text ≠ []) (h : ∀ c ∈ text, isWord c = true) : Tidy text where
  toTrails := trails_word h
  starts := by
    cases text with
    | nil => exact absurd rfl hne
    | cons c rest => exact ⟨c, rest, rfl, Text.isBlank_of_isWord (h c List.mem_cons_self)⟩

theorem MemberTerm.tidy (member : MemberTerm) : Tidy member.chars := by
  cases member with
  | field term =>
      have htype : Tidy term.type.chars := term.type.code.tidy.append (trails_size term.type.size)
      have hflag : Trails (flag '?' term.nullable) := trails_flag rfl rfl _
      exact ((htype.append hflag).append term.name.trails_space).append (trails_marks term.marks)
  | relationship term =>
      have hword : Tidy (flag '!' term.optional ++ relationshipWord term.many) := by
        have hmodel : ∀ many, Tidy (relationshipWord many) := fun many => by
          cases many
          · exact tidy_word (by decide) (List.all_eq_true.1 (by decide +kernel))
          · exact tidy_word (by decide) (List.all_eq_true.1 (by decide +kernel))
        cases term.optional with
        | false => exact hmodel term.many
        | true => exact ⟨(trails_flag rfl rfl true).append (hmodel _).toTrails, '!', _, rfl, by decide⟩
      have hflag : Trails (flag '?' term.nullable) := trails_flag rfl rfl _
      exact ((hword.append term.target.trails_space).append hflag).append (trails_role term.role)
  | index term =>
      have hindex : Tidy "index".toList := tidy_word (by decide) (List.all_eq_true.1 (by decide +kernel))
      have hnames := trails_names term.first term.others
      have hne : namesChars term.first term.others ≠ [] :=
        List.append_ne_nil_of_left_ne_nil term.first.chars_ne_nil _
      have hopen : Trails (' ' :: '(' :: namesChars term.first term.others) :=
        (hnames.cons rfl hne).cons rfl (by simp)
      have hclose : Trails ([')'] ++ marksChars term.marks) :=
        (trails_singleton rfl rfl).append (trails_marks term.marks)
      exact (hindex.append hopen).append hclose
  | «attribute» mark =>
      have hmark : Trails ('@' :: mark.chars) :=
        (trails_word mark.isWord).cons rfl mark.chars_ne_nil
      exact ⟨hmark, '@', mark.chars, rfl, by decide⟩

theorem BlockTerm.tidy_header (block : BlockTerm) : Tidy block.header := by
  cases block with
  | mixin term => exact term.name.tidy
  | extension term => exact term.base.tidy
  | model term =>
      have hkey : Trails (term.key.elim [] fun key => ' ' :: key.type.chars) := by
        cases term.key with
        | none => exact trails_nil
        | some key =>
            refine key.type.trails.cons rfl ?_
            exact List.append_ne_nil_of_left_ne_nil key.type.code.chars_ne_nil _
      exact (term.name.tidy.append hkey).append (trails_mixins term.mixins)

end Tidiness

section Reading

theorem splitLines_append {line rest : List Char} (hline : ∀ c ∈ line, isLineEnd c = false) :
    Text.splitLines (line ++ '\n' :: rest) = line :: Text.splitLines rest := by
  induction line with
  | nil =>
      rw [List.nil_append, Text.splitLines, if_pos (by decide)]
      intro tail h
      cases h
  | cons c line ih =>
      have hc := hline c List.mem_cons_self
      have hrest := ih fun d hd => hline d (List.mem_cons_of_mem _ hd)
      rw [List.cons_append, Text.splitLines, hc, if_neg (by decide), hrest, Text.consLine]
      intro tail h
      subst h
      cases hc

/-- Lines that all have an end are split where they end. -/
theorem splitLines_flatMap {lines : List (List Char)} (h : ∀ line ∈ lines, ∀ c ∈ line, isLineEnd c = false) :
    Text.splitLines (lines.flatMap fun line => line ++ ['\n']) = lines := by
  induction lines with
  | nil => rfl
  | cons line lines ih =>
      have hrest := ih fun other hother => h other (List.mem_cons_of_mem _ hother)
      rw [List.flatMap_cons, List.append_assoc, List.singleton_append,
        splitLines_append (h line List.mem_cons_self), hrest]

theorem stripBlocks_eq_self {text : List Char} (h : ∀ c ∈ text, c ≠ '/') : stripBlocks false text = (text, false) := by
  induction text with
  | nil => rfl
  | cons c rest ih =>
      have hrest := ih fun d hd => h d (List.mem_cons_of_mem _ hd)
      rw [stripBlocks, hrest]
      intro tail hc
      exact absurd hc (h c List.mem_cons_self)

theorem cutRemark_eq_self {text : List Char} (h : ∀ c ∈ text, c ≠ '/' ∧ c ≠ '#') : cutRemark text = text := by
  induction text with
  | nil => rfl
  | cons c rest ih =>
      have hc := h c List.mem_cons_self
      have hrest := ih fun d hd => h d (List.mem_cons_of_mem _ hd)
      rw [cutRemark, if_neg hc.2, hrest]
      intro tail hslash
      exact absurd hslash hc.1

/-- A printed line and the text that is left of it: it holds neither an end of line nor a mark that starts
a remark, and is not blank. -/
structure Printed (line text : List Char) : Prop where
  lineEnd : ∀ c ∈ line, isLineEnd c = false
  remark : ∀ c ∈ line, c ≠ '/' ∧ c ≠ '#'
  trim : trim line = text
  speaks : text ≠ []

theorem texts_linesFrom (number : Nat) {lines texts : List (List Char)} (h : List.Forall₂ Printed lines texts) :
    (linesFrom number false lines).map (·.text) = texts := by
  induction h generalizing number with
  | nil => rfl
  | cons hline _ ih =>
      have hstrip := stripBlocks_eq_self fun c hc => (hline.remark c hc).1
      have hspeaks := List.isEmpty_eq_false_iff.2 hline.speaks
      simp only [linesFrom, hstrip, cutRemark_eq_self hline.remark, hline.trim, hspeaks, Bool.false_eq_true,
        if_false]
      rw [List.map_cons, ih]

theorem lineEnd_of_printed {lines texts : List (List Char)} (h : List.Forall₂ Printed lines texts) :
    ∀ line ∈ lines, ∀ c ∈ line, isLineEnd c = false := by
  induction h with
  | nil => exact fun _ hline => by cases hline
  | cons hline _ ih => exact List.forall_mem_cons.2 ⟨hline.lineEnd, ih⟩

theorem trim_space (text : List Char) : trim (' ' :: text) = trim text := by
  have hblank : isBlank ' ' = true := rfl
  rw [trim, trimLeft, List.dropWhile_cons_of_pos hblank]
  rfl

/-- A blank behind a text is trimmed away. -/
theorem Tidy.trim_append_space {text : List Char} (h : Tidy text) : Text.trim (text ++ [' ']) = text := by
  have hblank : isBlank ' ' = true := rfl
  have hleft : trimLeft (text ++ [' ']) = text ++ [' '] := by
    obtain ⟨c, rest, rfl, hc⟩ := h.starts
    exact Text.trimLeft_eq_self (stops_cons.2 hc)
  have hright : trimRight text = text := Text.trimRight_eq_self h.ends
  rw [Text.trim, hleft, trimRight, List.reverse_append, List.reverse_singleton, List.singleton_append,
    List.dropWhile_cons_of_pos hblank]
  exact hright

/-- What is printed on lines: plain characters and braces. -/
def isPrinted (c : Char) : Bool := isPlain c || c == openBrace || c == closeBrace

theorem printed_of_isPrinted {line text : List Char} (h : ∀ c ∈ line, isPrinted c = true)
    (htrim : Text.trim line = text) (hspeaks : text ≠ []) : Printed line text where
  trim := htrim
  speaks := hspeaks
  lineEnd c hc := by
    have hends : (Text.lineEnds.all fun c => !isPrinted c) = true := by decide +kernel
    rw [Bool.eq_false_iff]
    intro hend
    have hother := List.all_eq_true.1 hends c (Text.isLineEnd_eq_true_iff.1 hend)
    rw [h c hc] at hother
    cases hother
  remark c hc := by
    constructor
    · rintro rfl
      exact absurd (h _ hc) (by decide +kernel)
    · rintro rfl
      exact absurd (h _ hc) (by decide +kernel)

theorem isPrinted_of_isPlain {c : Char} (h : isPlain c = true) : isPrinted c = true := by
  rw [isPrinted, h, Bool.true_or, Bool.true_or]

theorem isWord_keyword (kind : BlockKind) : ∀ c ∈ kind.keyword.toList, isWord c = true := by
  cases kind <;> exact List.all_eq_true.1 rfl

theorem tidy_keyword (kind : BlockKind) : Tidy kind.keyword.toList := by
  refine tidy_word ?_ (isWord_keyword kind)
  cases kind <;> decide

theorem Tidy.ne_nil {text : List Char} (h : Tidy text) : text ≠ [] := by
  obtain ⟨c, rest, rfl, -⟩ := h.starts
  exact List.cons_ne_nil c rest

/-- The line that opens a block is tidy up to its brace. -/
theorem BlockTerm.tidy_opening (block : BlockTerm) : Tidy block.opening :=
  (tidy_keyword block.kind).append (block.tidy_header.toTrails.cons rfl block.tidy_header.ne_nil)

theorem Tidy.printed {text : List Char} (h : Tidy text) : Printed text text :=
  printed_of_isPrinted (fun c hc => isPrinted_of_isPlain (h.plain c hc)) h.trim h.ne_nil

theorem Tidy.printed_indented {text : List Char} (h : Tidy text) : Printed (' ' :: ' ' :: text) text := by
  refine printed_of_isPrinted ?_ (by rw [trim_space, trim_space, h.trim]) h.ne_nil
  intro c hc
  rcases List.mem_cons.1 hc with rfl | hc
  · decide
  · rcases List.mem_cons.1 hc with rfl | hc
    · decide
    · exact isPrinted_of_isPlain (h.plain c hc)

theorem printed_brace {brace : Char} (hbrace : brace = openBrace ∨ brace = closeBrace) :
    Printed [brace] [brace] := by
  rcases hbrace with rfl | rfl
  · exact printed_of_isPrinted (List.all_eq_true.1 (by decide)) (by decide) (by decide)
  · exact printed_of_isPrinted (List.all_eq_true.1 (by decide)) (by decide) (by decide)

/-- Braces behind a header leave nothing to trim. -/
theorem Tidy.trim_append {text braces : List Char} (h : Tidy text)
    (hlast : ∃ front c, braces = front ++ [c] ∧ isBlank c = false) : Text.trim (text ++ braces) = text ++ braces := by
  obtain ⟨first, rest, rfl, hfirst⟩ := h.starts
  obtain ⟨front, last, rfl, hlast⟩ := hlast
  refine Text.trim_eq_self (stops_cons.2 hfirst) fun c hc => ?_
  rw [← List.append_assoc, List.getLast?_concat] at hc
  cases hc
  exact hlast

theorem Tidy.printed_braces {text braces : List Char} (h : Tidy text)
    (hprinted : ∀ c ∈ braces, isPrinted c = true)
    (hlast : ∃ front c, braces = front ++ [c] ∧ isBlank c = false) : Printed (text ++ braces) (text ++ braces) := by
  refine printed_of_isPrinted ?_ (h.trim_append hlast) (List.append_ne_nil_of_left_ne_nil h.ne_nil _)
  intro c hc
  rcases List.mem_append.1 hc with hc | hc
  · exact isPrinted_of_isPlain (h.plain c hc)
  · exact hprinted c hc

/-- The lines behind the opening brace, without indentation. -/
def BlockTerm.bodyTexts (block : BlockTerm) : List (List Char) :=
  block.members.map (·.chars) ++ [[closeBrace]]

/-- The lines of a block without indentation. -/
def BlockTerm.texts (block : BlockTerm) : Layout → List (List Char)
  | .apart => block.opening :: [openBrace] :: block.bodyTexts
  | .joined => (block.opening ++ [' ', openBrace]) :: block.bodyTexts
  | .whole =>
      if block.members.isEmpty then [block.opening ++ [' ', openBrace, closeBrace]]
      else (block.opening ++ [' ', openBrace]) :: block.bodyTexts

theorem BlockTerm.printed_body (block : BlockTerm) : List.Forall₂ Printed block.bodyLines block.bodyTexts := by
  unfold BlockTerm.bodyLines BlockTerm.bodyTexts
  refine List.rel_append ?_ (List.Forall₂.cons (printed_brace (.inr rfl)) List.Forall₂.nil)
  rw [List.forall₂_map_left_iff, List.forall₂_map_right_iff, List.forall₂_same]
  exact fun member _ => member.tidy.printed_indented

theorem BlockTerm.printed_lines (block : BlockTerm) (layout : Layout) :
    List.Forall₂ Printed (block.lines layout) (block.texts layout) := by
  have hjoined : Printed (block.opening ++ [' ', openBrace]) (block.opening ++ [' ', openBrace]) :=
    block.tidy_opening.printed_braces (List.all_eq_true.1 rfl) ⟨[' '], openBrace, rfl, by decide⟩
  have hwhole : Printed (block.opening ++ [' ', openBrace, closeBrace])
      (block.opening ++ [' ', openBrace, closeBrace]) :=
    block.tidy_opening.printed_braces (List.all_eq_true.1 rfl) ⟨[' ', openBrace], closeBrace, rfl, by decide⟩
  cases layout with
  | apart => exact .cons block.tidy_opening.printed (.cons (printed_brace (.inl rfl)) block.printed_body)
  | joined => exact .cons hjoined block.printed_body
  | whole =>
      by_cases hempty : block.members.isEmpty = true
      · simp only [BlockTerm.lines, BlockTerm.texts, if_pos hempty]
        exact .cons hwhole .nil
      · simp only [BlockTerm.lines, BlockTerm.texts, if_neg hempty]
        exact .cons hjoined block.printed_body

/-- The lines of a printed source, as they are read. -/
theorem SourceTerm.texts_linesOf (source : SourceTerm) :
    (linesOf source.print.text).map (·.text) = source.parts.flatMap fun part => part.1.texts part.2 := by
  have hprinted : List.Forall₂ Printed source.lines (source.parts.flatMap fun part => part.1.texts part.2) := by
    unfold SourceTerm.lines
    induction source.parts with
    | nil => exact .nil
    | cons part parts ih => exact List.rel_append (part.1.printed_lines part.2) ih
  have hlineEnd := lineEnd_of_printed hprinted
  rw [linesOf, SourceTerm.print, String.toList_ofList, SourceTerm.chars, splitLines_flatMap hlineEnd]
  exact texts_linesFrom 1 hprinted

end Reading

end SchemaMigrate.Grammar
