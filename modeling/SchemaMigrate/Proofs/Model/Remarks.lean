import SchemaMigrate.Model.Compile
import SchemaMigrate.Proofs.Text.Classes

/-!
Remarks at the end of a line. Main statement: a remark behind `//` or a hash mark changes nothing, on
whatever line outside a block remark it is put, if and only if it leaves no block remark open itself.

Block remarks are taken out of a line first, so a block mark that stands in the remark still counts, and
then it hides the lines below.
-/

namespace SchemaMigrate.Model

open Text (isLineEnd isBlank splitLines consLine trim trimLeft trimRight)

section Lines

/-- Puts more text at the end of the line with this index, before the end of line. -/
def appendToLine (extra : List Char) : Nat → List Char → List Char
  | 0, [] => extra
  | _ + 1, [] => []
  | 0, c :: rest => if isLineEnd c then extra ++ c :: rest else c :: appendToLine extra 0 rest
  | index + 1, '\r' :: '\n' :: rest => '\r' :: '\n' :: appendToLine extra index rest
  | index + 1, c :: rest => c :: appendToLine extra (if isLineEnd c then index else index + 1) rest

theorem splitLines_cons {c : Char} (hc : isLineEnd c = false) (rest : List Char) :
    splitLines (c :: rest) = consLine c (splitLines rest) := by
  rw [splitLines, hc, if_neg (by decide)]
  rintro tail rfl
  cases hc

theorem splitLines_break {c : Char} {rest : List Char} (hc : isLineEnd c = true)
    (hpair : ∀ tail, c = '\r' → rest = '\n' :: tail → False) : splitLines (c :: rest) = [] :: splitLines rest := by
  rw [splitLines, if_pos hc]
  exact hpair

/-- The first line of a text that starts with the end of a line is empty. -/
theorem splitLines_of_lineEnd {c : Char} (hc : isLineEnd c = true) (rest : List Char) :
    ∃ others, splitLines (c :: rest) = [] :: others := by
  by_cases hpair : ∃ tail, c = '\r' ∧ rest = '\n' :: tail
  · obtain ⟨tail, rfl, rfl⟩ := hpair
    exact ⟨splitLines tail, rfl⟩
  · exact ⟨splitLines rest, splitLines_break hc fun tail hreturn hfeed => hpair ⟨tail, hreturn, hfeed⟩⟩

theorem length_consLine (c : Char) (lines : List (List Char)) :
    (consLine c lines).length = max 1 lines.length := by
  cases lines with
  | nil => rfl
  | cons line lines =>
      rw [consLine, List.length_cons, List.length_cons]
      omega

theorem modify_consLine (c : Char) {lines : List (List Char)} (extra : List Char) {index : Nat}
    (h : index < lines.length) :
    (consLine c lines).modify index (· ++ extra) = consLine c (lines.modify index (· ++ extra)) := by
  cases lines with
  | nil => cases h
  | cons line lines => cases index <;> rfl

theorem splitLines_of_not_lineEnd {line : List Char} (hline : ∀ c ∈ line, isLineEnd c = false) (hne : line ≠ []) :
    splitLines line = [line] := by
  induction line with
  | nil => exact absurd rfl hne
  | cons c line ih =>
      obtain ⟨hc, hline⟩ := List.forall_mem_cons.1 hline
      rw [splitLines_cons hc]
      cases line with
      | nil => rfl
      | cons d line =>
          rw [ih hline (List.cons_ne_nil d line)]
          rfl

/-- More text in front of the first line. -/
theorem splitLines_extend {extra rest first : List Char} {others : List (List Char)}
    (hextra : ∀ c ∈ extra, isLineEnd c = false) (hrest : splitLines rest = first :: others) :
    splitLines (extra ++ rest) = (extra ++ first) :: others := by
  induction extra with
  | nil => exact hrest
  | cons c extra ih =>
      obtain ⟨hc, hextra⟩ := List.forall_mem_cons.1 hextra
      rw [List.cons_append, splitLines_cons hc, ih hextra]
      rfl

theorem splitLines_cons_length (c : Char) (rest : List Char) : 0 < (splitLines (c :: rest)).length := by
  cases hc : isLineEnd c with
  | true =>
      obtain ⟨others, hlines⟩ := splitLines_of_lineEnd hc rest
      rw [hlines]
      exact Nat.succ_pos _
  | false =>
      rw [splitLines_cons hc, length_consLine]
      omega

/-- Text that is put on a line does not make a pair of a carriage return before it. -/
theorem appendToLine_ne {extra text : List Char} (hextra : ∀ c ∈ extra, isLineEnd c = false) (index : Nat)
    (h : ∀ tail, text ≠ '\n' :: tail) (tail : List Char) : appendToLine extra index text ≠ '\n' :: tail := by
  have hstart : ∀ rest, extra ≠ '\n' :: rest := by
    rintro rest rfl
    exact absurd (hextra '\n' List.mem_cons_self) (by decide)
  fun_cases appendToLine extra index text with
  | case1 => exact hstart tail
  | case2 =>
      intro heq
      cases heq
  | case3 c rest hc =>
      cases extra with
      | nil => exact h tail
      | cons d extra =>
          intro heq
          cases heq
          exact hstart extra rfl
  | case4 c rest hc =>
      intro heq
      cases heq
      exact h rest rfl
  | case5 index rest =>
      intro heq
      cases heq
  | case6 index c rest =>
      intro heq
      cases heq
      exact h rest rfl

/-- Only the line itself changes. -/
theorem splitLines_appendToLine {index : Nat} {extra text : List Char}
    (hextra : ∀ c ∈ extra, isLineEnd c = false) (hindex : index < (splitLines text).length) :
    splitLines (appendToLine extra index text) = (splitLines text).modify index (· ++ extra) := by
  fun_induction appendToLine extra index text with
  | case1 => cases hindex
  | case2 => cases hindex
  | case3 c rest hc =>
      obtain ⟨others, hlines⟩ := splitLines_of_lineEnd hc rest
      rw [splitLines_extend hextra hlines, hlines, List.append_nil]
      rfl
  | case4 c rest hc ih =>
      have hc : isLineEnd c = false := Bool.eq_false_iff.2 hc
      cases rest with
      | nil =>
          have hline := splitLines_of_not_lineEnd (List.forall_mem_cons.2 ⟨hc, hextra⟩) (List.cons_ne_nil c extra)
          rw [appendToLine, hline, splitLines_cons hc]
          rfl
      | cons d rest =>
          have hrest := splitLines_cons_length d rest
          rw [splitLines_cons hc, splitLines_cons hc, ih hrest, modify_consLine c extra hrest]
  | case5 index rest ih =>
      rw [splitLines, splitLines, ih (Nat.lt_of_succ_lt_succ hindex)]
      rfl
  | case6 index c rest hpair ih =>
      cases hc : isLineEnd c with
      | true =>
          simp only [hc, if_true] at ih ⊢
          rw [splitLines_break hc hpair] at hindex ⊢
          rw [splitLines_break hc, ih (Nat.lt_of_succ_lt_succ hindex)]
          · rfl
          · intro tail hreturn
            exact appendToLine_ne hextra index (fun tail => hpair tail hreturn) tail
      | false =>
          simp only [hc, Bool.false_eq_true, if_false] at ih ⊢
          rw [splitLines_cons hc, length_consLine] at hindex
          have hrest : index + 1 < (splitLines rest).length := by omega
          rw [splitLines_cons hc, splitLines_cons hc, ih hrest, modify_consLine c extra hrest]

end Lines

section Stripping

/-- Whether a block remark is open after lines. -/
def openAfter (inside : Bool) (lines : List (List Char)) : Bool :=
  lines.foldl (fun inside raw => (stripBlocks inside raw).2) inside

theorem append_blank_ne {mark : Char} (hmark : mark ≠ ' ') {text rest : List Char}
    (h : ∀ tail, text ≠ mark :: tail) (tail : List Char) : text ++ ' ' :: rest ≠ mark :: tail := by
  intro heq
  cases text with
  | nil =>
      cases heq
      exact hmark rfl
  | cons c text =>
      cases heq
      exact h text rfl

/-- No mark of a block runs over a blank, so a line can be stripped up to the blank and then from there on. -/
theorem stripBlocks_append_blank (inside : Bool) (raw rest : List Char) :
    let first := stripBlocks inside raw
    let second := stripBlocks first.2 (' ' :: rest)
    stripBlocks inside (raw ++ ' ' :: rest) = (first.1 ++ second.1, second.2) := by
  fun_induction stripBlocks inside raw with
  | case1 inside => rfl
  | case2 raw ih => exact ih
  | case3 c raw hmark ih =>
      rw [List.cons_append, stripBlocks]
      · exact ih
      · intro tail hstar
        exact append_blank_ne (by decide) (fun tail => hmark tail hstar) tail
  | case4 raw ih => exact ih
  | case5 c raw hmark ih =>
      rw [List.cons_append, stripBlocks, ih]
      · rfl
      · intro tail hslash
        exact append_blank_ne (by decide) (fun tail => hmark tail hslash) tail

theorem trim_append_blank (text : List Char) : trim (text ++ [' ']) = trim text := by
  have hblank : isBlank ' ' = true := rfl
  have hright (rest : List Char) : trimRight (rest ++ [' ']) = trimRight rest := by
    rw [trimRight, List.reverse_append, List.reverse_singleton, List.singleton_append,
      List.dropWhile_cons_of_pos hblank]
    rfl
  rw [trim, trim, trimLeft, List.dropWhile_append]
  split
  · rename_i hall
    rw [trimLeft, List.isEmpty_iff.1 hall, List.dropWhile_cons_of_pos hblank]
    rfl
  · exact hright _

/-- What marks a remark that runs to the end of its line. -/
inductive RemarkMark where
  | slashes
  | hash
deriving Repr, DecidableEq

def RemarkMark.chars : RemarkMark → List Char
  | .slashes => ['/', '/']
  | .hash => ['#']

/-- A remark, set off by blanks. -/
def RemarkMark.remark (mark : RemarkMark) (comment : List Char) : List Char :=
  ' ' :: mark.chars ++ ' ' :: comment

theorem stripBlocks_remark (mark : RemarkMark) (comment : List Char) :
    stripBlocks false (mark.remark comment) =
      (mark.remark (stripBlocks false comment).1, (stripBlocks false comment).2) := by
  cases mark <;> rfl

theorem stripBlocks_append_remark (mark : RemarkMark) (comment : List Char) {inside : Bool} {raw : List Char}
    (hraw : (stripBlocks inside raw).2 = false) :
    stripBlocks inside (raw ++ mark.remark comment) =
      ((stripBlocks inside raw).1 ++ mark.remark (stripBlocks false comment).1, (stripBlocks false comment).2) := by
  have happend := stripBlocks_append_blank inside raw (mark.chars ++ ' ' :: comment)
  simp only [hraw] at happend
  have hremark := stripBlocks_remark mark comment
  rw [RemarkMark.remark, List.cons_append] at hremark ⊢
  rw [happend, hremark]

/-- Only a blank is left of a remark. -/
theorem cutRemark_append_remark (mark : RemarkMark) (comment text : List Char) :
    cutRemark (text ++ mark.remark comment) = cutRemark text
      ∨ cutRemark (text ++ mark.remark comment) = cutRemark text ++ [' '] := by
  fun_induction cutRemark text with
  | case1 => cases mark <;> exact .inr rfl
  | case2 rest => exact .inl rfl
  | case3 rest =>
      left
      rw [List.cons_append, cutRemark, if_pos rfl]
      rintro tail ⟨⟩
  | case4 c rest hmark hc ih =>
      have hnext : cutRemark (c :: rest ++ mark.remark comment) = c :: cutRemark (rest ++ mark.remark comment) := by
        rw [List.cons_append, cutRemark, if_neg hc]
        intro tail hslash
        exact append_blank_ne (by decide) (fun tail => hmark tail hslash) tail
      rw [hnext]
      exact ih.imp (congrArg (c :: ·)) (congrArg (c :: ·))

theorem trim_cutRemark (mark : RemarkMark) (comment text : List Char) :
    trim (cutRemark (text ++ mark.remark comment)) = trim (cutRemark text) := by
  rcases cutRemark_append_remark mark comment text with h | h
  · rw [h]
  · rw [h, trim_append_blank]

theorem openAfter_cons (inside : Bool) (raw : List Char) (lines : List (List Char)) :
    openAfter inside (raw :: lines) = openAfter (stripBlocks inside raw).2 lines := rfl

/-- The lines that are read do not change with a remark on one that ends outside of a block. -/
theorem linesFrom_modify (mark : RemarkMark) {comment : List Char} (hquiet : (stripBlocks false comment).2 = false)
    {lines : List (List Char)} {index : Nat} (hindex : index < lines.length) (number : Nat) (inside : Bool)
    (houtside : openAfter inside (lines.take (index + 1)) = false) :
    linesFrom number inside (lines.modify index (· ++ mark.remark comment)) = linesFrom number inside lines := by
  induction lines generalizing index number inside with
  | nil => cases hindex
  | cons raw lines ih =>
      rw [List.take_succ_cons, openAfter_cons] at houtside
      cases index with
      | zero =>
          have hraw : (stripBlocks inside raw).2 = false := houtside
          rw [List.modify_zero_cons, linesFrom, linesFrom, stripBlocks_append_remark mark comment hraw, hquiet, hraw]
          simp only [trim_cutRemark]
      | succ index =>
          rw [List.modify_succ_cons, linesFrom, linesFrom, ih (Nat.lt_of_succ_lt_succ hindex) _ _ houtside]

end Stripping

section Sources

/-- What a source says depends on its lines alone. -/
theorem blocks_congr {name first second : String} (h : linesOf first = linesOf second) :
    Source.blocks ⟨name, first⟩ = Source.blocks ⟨name, second⟩ := by
  rw [Source.blocks, Source.blocks, h]

theorem blocksOf_congr {earlier later : List Source} {first second : Source} (h : first.blocks = second.blocks) :
    blocksOf (earlier ++ first :: later) = blocksOf (earlier ++ second :: later) := by
  induction earlier with
  | nil => rw [List.nil_append, List.nil_append, blocksOf, blocksOf, h]
  | cons source earlier ih => rw [List.cons_append, List.cons_append, blocksOf, blocksOf, ih]

theorem compile_congr (db : Database) {earlier later : List Source} {name first second : String}
    (h : linesOf first = linesOf second) :
    compile db (earlier ++ ⟨name, first⟩ :: later) = compile db (earlier ++ ⟨name, second⟩ :: later) := by
  rw [compile, compile, blocksOf_congr (blocks_congr h)]

/-- The text of a source with a remark on one of its lines. -/
def withRemark (mark : RemarkMark) (comment : List Char) (index : Nat) (text : List Char) : String :=
  String.ofList (appendToLine (mark.remark comment) index text)

/-- Whether the line with this index ends outside of every block remark. -/
def EndsOutside (text : List Char) (index : Nat) : Prop :=
  index < (splitLines text).length ∧ openAfter false ((splitLines text).take (index + 1)) = false

instance (text : List Char) (index : Nat) : Decidable (EndsOutside text index) :=
  inferInstanceAs (Decidable (_ ∧ _))

/-- A text of one line, as it is computed. -/
theorem lineEnd_of_all {text : List Char} (h : text.all (!isLineEnd ·) = true) : ∀ c ∈ text, isLineEnd c = false := by
  simpa using h

theorem lineEnd_remark (mark : RemarkMark) {comment : List Char} (hcomment : ∀ c ∈ comment, isLineEnd c = false) :
    ∀ c ∈ mark.remark comment, isLineEnd c = false := by
  have hspace : isLineEnd ' ' = false := by decide
  have hchars : ∀ c ∈ mark.chars, isLineEnd c = false := lineEnd_of_all (by cases mark <;> rfl)
  intro c hc
  rw [RemarkMark.remark, List.cons_append, List.mem_cons, List.mem_append, List.mem_cons] at hc
  rcases hc with rfl | hc | rfl | hc
  · exact hspace
  · exact hchars c hc
  · exact hspace
  · exact hcomment c hc

theorem linesOf_withRemark (mark : RemarkMark) {comment : List Char}
    (hcomment : ∀ c ∈ comment, isLineEnd c = false) (hquiet : (stripBlocks false comment).2 = false)
    {text : List Char} {index : Nat} (houtside : EndsOutside text index) :
    linesOf (withRemark mark comment index text) = linesOf (String.ofList text) := by
  rw [linesOf, linesOf, withRemark, String.toList_ofList, String.toList_ofList,
    splitLines_appendToLine (lineEnd_remark mark hcomment) houtside.1]
  exact linesFrom_modify mark hquiet houtside.1 1 false houtside.2

/-- Two models, the first with room for a remark. -/
def twoModels : List Char := "model A \x7b\x7d\nmodel B \x7b\x7d".toList

/-- A remark that leaves a block open hides what comes after its line. -/
theorem linesOf_hidden {comment : List Char} (hcomment : ∀ c ∈ comment, isLineEnd c = false)
    (hopen : (stripBlocks false comment).2 = true) :
    linesOf (withRemark .slashes comment 0 twoModels) = linesOf "model A \x7b\x7d" := by
  have hlines : splitLines twoModels = ["model A \x7b\x7d".toList, "model B \x7b\x7d".toList] := by decide +kernel
  have hfirst : (stripBlocks false "model A \x7b\x7d".toList).2 = false := by decide +kernel
  have hrest : linesFrom 2 true ["model B \x7b\x7d".toList] = [] := by decide +kernel
  have hwhole : linesFrom 1 false ["model A \x7b\x7d".toList] = linesOf "model A \x7b\x7d" := by decide +kernel
  rw [linesOf, withRemark, String.toList_ofList, splitLines_appendToLine (lineEnd_remark .slashes hcomment)
    (by decide +kernel), hlines, List.modify_zero_cons, linesFrom,
    stripBlocks_append_remark .slashes comment hfirst, hopen, hrest, ← hwhole, linesFrom]
  simp only [trim_cutRemark]
  rfl

/-- A remark changes nothing, wherever it is put outside of block remarks, if and only if it does not leave a
block remark open itself. -/
theorem remark_ignored_iff {comment : List Char} (hcomment : ∀ c ∈ comment, isLineEnd c = false) :
    (∀ (mark : RemarkMark) (db : Database) (earlier later : List Source) (name : String) (text : List Char)
        (index : Nat), EndsOutside text index →
      compile db (earlier ++ ⟨name, withRemark mark comment index text⟩ :: later) =
        compile db (earlier ++ ⟨name, String.ofList text⟩ :: later))
      ↔ (stripBlocks false comment).2 = false := by
  constructor
  · intro hignored
    rw [← Bool.not_eq_true]
    intro hopen
    have hsame := hignored .slashes {} [] [] anonymous twoModels 0 (by decide +kernel)
    rw [compile_congr {} (linesOf_hidden hcomment hopen)] at hsame
    revert hsame
    decide +kernel
  · intro hquiet mark db earlier later name text index houtside
    exact compile_congr db (linesOf_withRemark mark hcomment hquiet houtside)

theorem remark_ignored_iff_hash :
    let comment := "see */".toList
    (∀ c ∈ comment, isLineEnd c = false) ∧ (stripBlocks false comment).2 = false
    ∧ compile {} [⟨"m.dmd", "model A \x7b\x7d # see */\nmodel B \x7b\x7d"⟩] =
        compile {} [⟨"m.dmd", "model A \x7b\x7d\nmodel B \x7b\x7d"⟩] := by
  have hcomment : ∀ c ∈ "see */".toList, isLineEnd c = false := lineEnd_of_all (by decide +kernel)
  have hquiet : (stripBlocks false "see */".toList).2 = false := by decide +kernel
  have hsame := (remark_ignored_iff hcomment).2 hquiet .hash {} [] [] "m.dmd" twoModels 0 (by decide +kernel)
  have htext : withRemark .hash "see */".toList 0 twoModels = "model A \x7b\x7d # see */\nmodel B \x7b\x7d" := by
    decide +kernel
  rw [htext] at hsame
  exact ⟨hcomment, hquiet, hsame⟩

/-- A table is lost behind a remark that opens a block, and no error says so. -/
theorem table_lost_in_remark :
    let comment := "see /*".toList
    let text := withRemark .slashes comment 0 twoModels
    let plain := compile {} [⟨"m.dmd", String.ofList twoModels⟩]
    let remarked := compile {} [⟨"m.dmd", text⟩]
    EndsOutside twoModels 0 ∧ (∀ c ∈ comment, isLineEnd c = false)
    ∧ text = "model A \x7b\x7d // see /*\nmodel B \x7b\x7d"
    ∧ (plain.error = none ∧ plain.schema.tables.items.map (·.name) = ["A", "B"])
    ∧ (remarked.error = none ∧ remarked.schema.tables.items.map (·.name) = ["A"]) := by
  intro comment text plain remarked
  have hcomment : ∀ c ∈ comment, isLineEnd c = false := lineEnd_of_all (by decide +kernel)
  exact ⟨by decide +kernel, hcomment, by decide +kernel⟩

end Sources

end SchemaMigrate.Model
