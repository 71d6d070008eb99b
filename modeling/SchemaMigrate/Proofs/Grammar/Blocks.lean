import SchemaMigrate.Proofs.Grammar.Lines

/-!
The blocks of printed sources are read back, each with its kind, its header and the texts of its members.
-/

namespace SchemaMigrate.Grammar

open Model
open Text (isWord trim)

/-- A block that was read from what a term prints. Where it stood does not matter. -/
structure Reads (block : Block) (term : BlockTerm) : Prop where
  kind : block.kind = term.kind
  header : block.header = term.header
  body : block.body.map (·.text) = term.members.map (·.chars)

section Headers

/-- A line that opens a block, with some braces behind the header. -/
theorem headerOf?_opening (block : BlockTerm) {braces : List Char}
    (htrim : trim (block.header ++ braces) = block.header ++ braces) :
    headerOf? (block.opening ++ braces) = some (block.kind, block.header ++ braces) := by
  have hkind : ∀ kind : BlockKind, kindOf? kind.keyword.toList = some kind := by
    intro kind
    cases kind <;> decide +kernel
  have hspan : Text.spanWord (block.kind.keyword.toList ++ ' ' :: (block.header ++ braces)) =
      (block.kind.keyword.toList, ' ' :: (block.header ++ braces)) :=
    spanWord_append_rest (isWord_keyword block.kind) (stops_cons.2 rfl)
  rw [BlockTerm.opening, List.append_assoc, List.cons_append]
  simp only [headerOf?, hspan, hkind, Option.map_some, trim_space, htrim]

theorem splitOpening_awaited {header : List Char} (h : Tidy header) : splitOpening header = (.awaited, header) := by
  have hreverse : header.reverse = [] ∨ ∃ c rest, header.reverse = c :: rest ∧ isPlain c = true := by
    cases hcase : header.reverse with
    | nil => exact .inl rfl
    | cons c rest =>
        refine .inr ⟨c, rest, rfl, h.plain c ?_⟩
        rw [← List.mem_reverse, hcase]
        exact List.mem_cons_self
  rcases hreverse with hnil | ⟨c, rest, hcons, hplain⟩
  · simp only [splitOpening, hnil]
  · have hopen : c ≠ openBrace := ne_of_isPlain hplain rfl
    have hclose : c ≠ closeBrace := ne_of_isPlain hplain rfl
    simp only [splitOpening, hcons, if_neg hopen, if_neg hclose]

theorem splitOpening_opened {header : List Char} (h : Tidy header) :
    splitOpening (header ++ [' ', openBrace]) = (.opened, header) := by
  have hreverse : (header ++ [' ', openBrace]).reverse = openBrace :: (header ++ [' ']).reverse := by simp
  simp only [splitOpening, hreverse, if_true, List.reverse_reverse, h.trim_append_space]

theorem splitOpening_whole {header : List Char} (h : Tidy header) :
    splitOpening (header ++ [' ', openBrace, closeBrace]) = (.whole, header) := by
  have hreverse : (header ++ [' ', openBrace, closeBrace]).reverse =
      closeBrace :: openBrace :: (header ++ [' ']).reverse := by simp
  have hne : closeBrace ≠ openBrace := by decide
  have hdrop : (openBrace :: (header ++ [' ']).reverse).dropWhile (fun c => decide (c = ' ')) =
      openBrace :: (header ++ [' ']).reverse := Text.dropWhile_eq_self (stops_cons.2 rfl)
  simp only [splitOpening, hreverse, if_neg hne, if_true, hdrop, List.reverse_reverse, h.trim_append_space]

end Headers

section Steps

variable {source : String} {done : List Block}

/-- A member goes into the block that is open. -/
theorem step_member {block : Block} {line : Line} (h : Tidy line.text) :
    Reading.step source { blocks := done, position := .inside block } line =
      .ok { blocks := done, position := .inside { block with body := block.body ++ [line] } } := by
  have hopen : ∀ c ∈ line.text, c ≠ openBrace := fun c hc => ne_of_isPlain (h.plain c hc) rfl
  have hclose : ∀ c ∈ line.text, c ≠ closeBrace := fun c hc => ne_of_isPlain (h.plain c hc) rfl
  have hline : line.text ≠ [closeBrace] := by
    intro hline
    rw [hline] at hclose
    exact hclose closeBrace List.mem_cons_self rfl
  have hany : (line.text.any fun c => c = openBrace || c = closeBrace) = false := by
    rw [List.any_eq_false]
    intro c hc
    simp [hopen c hc, hclose c hc]
  simp only [Reading.step, if_neg hline, hany, Bool.false_eq_true, if_false]

theorem step_close {block : Block} {line : Line} (h : line.text = [closeBrace]) :
    Reading.step source { blocks := done, position := .inside block } line = .ok { blocks := done ++ [block] } := by
  simp only [Reading.step, if_pos h]

/-- The lines behind the opening brace close the block with their members in it. -/
theorem read_body (source : String) (done : List Block) (block : Block) {members : List MemberTerm}
    {lines : List Line}
    (hlines : lines.map (·.text) = members.map (·.chars) ++ [[closeBrace]]) :
    ∃ body, body.map (·.text) = members.map (·.chars) ∧
      lines.foldlM (Reading.step source) { blocks := done, position := .inside block } =
        .ok { blocks := done ++ [{ block with body := block.body ++ body }] } := by
  induction members generalizing lines block with
  | nil =>
      obtain ⟨line, rfl⟩ : ∃ line, lines = [line] := by
        rw [← List.length_eq_one_iff, ← List.length_map (·.text), hlines]
        rfl
      have hclose : line.text = [closeBrace] := (List.cons.inj hlines).1
      refine ⟨[], rfl, ?_⟩
      rw [List.foldlM_cons, step_close hclose, List.append_nil]
      rfl
  | cons member members ih =>
      cases lines with
      | nil => cases hlines
      | cons line lines =>
          have hline : line.text = member.chars := (List.cons.inj hlines).1
          have htidy : Tidy line.text := hline ▸ member.tidy
          obtain ⟨body, hbody, hread⟩ := ih { block with body := block.body ++ [line] } (List.cons.inj hlines).2
          refine ⟨line :: body, by rw [List.map_cons, List.map_cons, hbody, hline], ?_⟩
          rw [List.foldlM_cons, step_member htidy]
          refine hread.trans ?_
          rw [List.append_assoc]
          rfl

/-- What a block's lines leave behind them when the block is open. -/
theorem read_opened (source : String) (done : List Block) (block : Block) {term : BlockTerm}
    {lines : List Line} (hkind : block.kind = term.kind)
    (hheader : block.header = term.header) (hempty : block.body = [])
    (hlines : lines.map (·.text) = term.bodyTexts) :
    ∃ read, Reads read term ∧
      lines.foldlM (Reading.step source) { blocks := done, position := .inside block } =
        .ok { blocks := done ++ [read] } := by
  obtain ⟨body, hbody, hread⟩ := read_body source done block hlines
  refine ⟨{ block with body := block.body ++ body }, ⟨hkind, hheader, ?_⟩, hread⟩
  rw [hempty, List.nil_append, hbody]

/-- The block as it stands when its header was read. -/
def BlockTerm.headed (term : BlockTerm) (source : String) (line : Line) : Block where
  kind := term.kind
  header := term.header
  source := source
  lineNumber := line.number

/-- Where a reader stands behind a header line: behind the block, inside it, or before its brace. -/
def behindHeader (done : List Block) (block : Block) : Opening → Reading
  | .whole => { blocks := done ++ [block] }
  | .opened => { blocks := done, position := .inside block }
  | .awaited => { blocks := done, position := .beforeBrace block }

theorem step_header (source : String) (done : List Block) {term : BlockTerm} {line : Line}
    {braces : List Char} {opening : Opening} (hline : line.text = term.opening ++ braces)
    (htrim : trim (term.header ++ braces) = term.header ++ braces)
    (hsplit : splitOpening (term.header ++ braces) = (opening, term.header)) :
    Reading.step source { blocks := done } line =
      .ok (behindHeader done (term.headed source line) opening) := by
  simp only [Reading.step, hline, headerOf?_opening term htrim, hsplit]
  cases opening <;> rfl

theorem step_brace {block : Block} {line : Line} (h : line.text = [openBrace]) :
    Reading.step source { blocks := done, position := .beforeBrace block } line =
      .ok { blocks := done, position := .inside block } := by
  simp only [Reading.step, if_pos h]

theorem read_joined (source : String) (done : List Block) {term : BlockTerm} {lines : List Line}
    (hlines : lines.map (·.text) = (term.opening ++ [' ', openBrace]) :: term.bodyTexts) :
    ∃ block, Reads block term ∧
      lines.foldlM (Reading.step source) { blocks := done } = .ok { blocks := done ++ [block] } := by
  cases lines with
  | nil => cases hlines
  | cons line lines =>
      have hstep := step_header source done (List.cons.inj hlines).1
        (term.tidy_header.trim_append ⟨[' '], openBrace, rfl, by decide⟩) (splitOpening_opened term.tidy_header)
      rw [List.foldlM_cons, hstep]
      exact read_opened source done _ rfl rfl rfl (List.cons.inj hlines).2

theorem read_apart (source : String) (done : List Block) {term : BlockTerm} {lines : List Line}
    (hlines : lines.map (·.text) = term.opening :: [openBrace] :: term.bodyTexts) :
    ∃ block, Reads block term ∧
      lines.foldlM (Reading.step source) { blocks := done } = .ok { blocks := done ++ [block] } := by
  obtain ⟨line, rest, rfl, hline, hrest⟩ := List.map_eq_cons_iff.1 hlines
  obtain ⟨brace, body, rfl, hbrace, hbody⟩ := List.map_eq_cons_iff.1 hrest
  have htrim : trim (term.header ++ []) = term.header ++ [] := by
    rw [List.append_nil, term.tidy_header.trim]
  have hsplit : splitOpening (term.header ++ []) = (.awaited, term.header) := by
    rw [List.append_nil, splitOpening_awaited term.tidy_header]
  have hstep := step_header source done (hline.trans (List.append_nil _).symm) htrim hsplit
  have hopen : Reading.step source (behindHeader done (term.headed source line) .awaited) brace =
      .ok { blocks := done, position := .inside (term.headed source line) } := step_brace hbrace
  obtain ⟨block, hreads, hread⟩ := read_opened source done (term.headed source line) rfl rfl rfl hbody
  refine ⟨block, hreads, ?_⟩
  rw [List.foldlM_cons, hstep]
  change (brace :: body).foldlM (Reading.step source) (behindHeader done (term.headed source line) .awaited) = _
  rw [List.foldlM_cons, hopen]
  exact hread

theorem read_whole (source : String) (done : List Block) {term : BlockTerm} {lines : List Line}
    (hempty : term.members = [])
    (hlines : lines.map (·.text) = [term.opening ++ [' ', openBrace, closeBrace]]) :
    ∃ block, Reads block term ∧
      lines.foldlM (Reading.step source) { blocks := done } = .ok { blocks := done ++ [block] } := by
  obtain ⟨line, rest, rfl, hline, hrest⟩ := List.map_eq_cons_iff.1 hlines
  obtain rfl := List.map_eq_nil_iff.1 hrest
  have hstep := step_header source done hline
    (term.tidy_header.trim_append ⟨[' ', openBrace], closeBrace, rfl, by decide⟩)
    (splitOpening_whole term.tidy_header)
  refine ⟨term.headed source line, ⟨rfl, rfl, ?_⟩, ?_⟩
  · rw [hempty]
    rfl
  · rw [List.foldlM_cons, hstep]
    rfl

/-- The lines of a printed block, whatever its layout, are read as one block. -/
theorem read_block (source : String) (done : List Block) (term : BlockTerm) (layout : Layout)
    {lines : List Line} (hlines : lines.map (·.text) = term.texts layout) :
    ∃ block, Reads block term ∧
      lines.foldlM (Reading.step source) { blocks := done } = .ok { blocks := done ++ [block] } := by
  cases layout with
  | joined => exact read_joined source done hlines
  | apart => exact read_apart source done hlines
  | whole =>
      simp only [BlockTerm.texts] at hlines
      split at hlines
      · rename_i hempty
        exact read_whole source done (List.isEmpty_iff.1 hempty) hlines
      · exact read_joined source done hlines

end Steps

section Sources

def SourceTerm.blocks (source : SourceTerm) : List BlockTerm := source.parts.map (·.1)

theorem read_parts (source : String) (done : List Block) (parts : List (BlockTerm × Layout))
    {lines : List Line} (hlines : lines.map (·.text) = parts.flatMap fun part => part.1.texts part.2) :
    ∃ blocks, List.Forall₂ Reads blocks (parts.map (·.1)) ∧
      lines.foldlM (Reading.step source) { blocks := done } = .ok { blocks := done ++ blocks } := by
  induction parts generalizing done lines with
  | nil =>
      rw [List.flatMap_nil, List.map_eq_nil_iff] at hlines
      refine ⟨[], .nil, ?_⟩
      rw [hlines, List.append_nil]
      rfl
  | cons part parts ih =>
      rw [List.flatMap_cons, List.map_eq_append_iff] at hlines
      obtain ⟨first, rest, rfl, hfirst, hrest⟩ := hlines
      obtain ⟨block, hblock, hread⟩ := read_block source done part.1 part.2 hfirst
      obtain ⟨blocks, hblocks, hreads⟩ := ih (done ++ [block]) hrest
      refine ⟨block :: blocks, .cons hblock hblocks, ?_⟩
      rw [List.foldlM_append, hread]
      refine hreads.trans ?_
      rw [List.append_assoc]
      rfl

/-- The blocks of a printed source are read back. -/
theorem blocks_print (source : SourceTerm) :
    ∃ blocks, source.print.blocks = .ok blocks ∧ List.Forall₂ Reads blocks source.blocks := by
  obtain ⟨blocks, hblocks, hread⟩ := read_parts source.name [] source.parts source.texts_linesOf
  refine ⟨blocks, ?_, hblocks⟩
  have hname : source.print.name = source.name := rfl
  rw [Source.blocks, hname, hread]
  rfl

/-- The blocks of several printed sources are read back, one source after the other. -/
theorem blocksOf_print (sources : List SourceTerm) :
    ∃ blocks, blocksOf (sources.map SourceTerm.print) = .ok blocks ∧
      List.Forall₂ Reads blocks (sources.flatMap SourceTerm.blocks) := by
  induction sources with
  | nil => exact ⟨[], rfl, .nil⟩
  | cons source sources ih =>
      obtain ⟨first, hfirst, hreads⟩ := blocks_print source
      obtain ⟨others, hothers, hrest⟩ := ih
      refine ⟨first ++ others, ?_, List.rel_append hreads hrest⟩
      rw [List.map_cons, blocksOf, hfirst, hothers]
      rfl

end Sources

end SchemaMigrate.Grammar
