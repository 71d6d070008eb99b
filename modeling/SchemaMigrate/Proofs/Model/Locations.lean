import SchemaMigrate.Proofs.Model.Batch
import SchemaMigrate.Proofs.Model.KeyTypes
import SchemaMigrate.Proofs.Model.Sizes

/-!
Where errors are found. A batch that does not compile is stopped by an error, and that error names one of
the sources and the number of one of its lines, whatever the texts are and whatever schema they are compiled
on. Only a size in digits that make no numeral is reported without a place; so exactly the batches that do
not stop at such a size keep the promise.
-/

namespace SchemaMigrate.Model

/-- A failure names a source and one of the lines of its text. -/
structure LocatedIn (source : Source) (failure : Failure) : Prop where
  named : failure.source = source.name
  numbered : ∃ line ∈ linesOf source.text, line.number = failure.lineNumber

/-- A block that is made of a source: its header and its lines are lines of the text. -/
structure MadeOf (source : Source) (block : Block) : Prop where
  named : block.source = source.name
  numbered : ∃ line ∈ linesOf source.text, line.number = block.lineNumber
  body : ∀ line ∈ block.body, line ∈ linesOf source.text

/-- A reader that has read blocks of a source and may stand in one. -/
structure ReadOf (source : Source) (reading : Reading) : Prop where
  blocks : ∀ block ∈ reading.blocks, MadeOf source block
  position : ∀ block, reading.position = .beforeBrace block ∨ reading.position = .inside block → MadeOf source block

section Lines

/-- Lines are numbered as they stand in the text. -/
theorem number_of_mem_linesFrom {number : Nat} {inside : Bool} {raw : List (List Char)} {line : Line}
    (h : line ∈ linesFrom number inside raw) : number ≤ line.number ∧ line.number < number + raw.length := by
  induction raw generalizing number inside with
  | nil => cases h
  | cons first rest ih =>
      have hrest {inside : Bool} (h : line ∈ linesFrom (number + 1) inside rest) :
          number ≤ line.number ∧ line.number < number + (first :: rest).length := by
        obtain ⟨hlow, hhigh⟩ := ih h
        rw [List.length_cons]
        omega
      rw [linesFrom] at h
      split at h
      · exact hrest h
      · rcases List.mem_cons.1 h with rfl | h
        · exact ⟨Nat.le_refl _, by simp⟩
        · exact hrest h

theorem LocatedIn.bounds {source : Source} {failure : Failure} (h : LocatedIn source failure) :
    1 ≤ failure.lineNumber ∧ failure.lineNumber ≤ (Text.splitLines source.text.toList).length := by
  obtain ⟨line, hmem, hnumber⟩ := h.numbered
  obtain ⟨hlow, hhigh⟩ := number_of_mem_linesFrom hmem
  omega

end Lines

section Blocks

variable {source : Source} {block : Block} {reading : Reading} {line : Line} {failure : Failure}

/-- A failure in a block of a source is located in the source. -/
theorem MadeOf.located (h : MadeOf source block) (hfailure : InBlock block failure) : LocatedIn source failure := by
  rcases hfailure with ⟨fault, rfl⟩ | ⟨line, hline, fault, rfl⟩
  · exact ⟨h.named, h.numbered⟩
  · exact ⟨h.named, line, h.body line hline, rfl⟩

/-- A block goes on with a line of its text. -/
theorem MadeOf.append (h : MadeOf source block) (hline : line ∈ linesOf source.text) :
    MadeOf source { block with body := block.body ++ [line] } where
  named := h.named
  numbered := h.numbered
  body := List.forall_mem_append.2 ⟨h.body, by simpa using hline⟩

theorem ReadOf.append (h : ReadOf source reading) (hblock : MadeOf source block) :
    ReadOf source { blocks := reading.blocks ++ [block] } where
  blocks := List.forall_mem_append.2 ⟨h.blocks, by simpa using hblock⟩
  position _ h := by rcases h with h | h <;> cases h

/-- A reader takes up a position at a block. -/
theorem ReadOf.stand (h : ReadOf source reading) (hblock : MadeOf source block) {position : Position}
    (hposition : position = .beforeBrace block ∨ position = .inside block) :
    ReadOf source { reading with position } where
  blocks := h.blocks
  position other hother := by
    rcases hposition with rfl | rfl <;> rcases hother with hother | hother <;> cases hother <;> exact hblock

/-- What comes of a reader: it goes on with blocks of its source, or fails at a place in it. -/
structure GoesOn {α : Type} (source : Source) (good : α → Prop) (course : Except Failure α) : Prop where
  ok : ∀ value, course = .ok value → good value
  error : ∀ failure, course = .error failure → LocatedIn source failure

theorem goesOn_ok {α : Type} {good : α → Prop} {value : α} (h : good value) : GoesOn source good (.ok value) where
  ok _ hvalue := by
    cases hvalue
    exact h
  error _ hfailure := by cases hfailure

theorem goesOn_error {α : Type} {good : α → Prop} (h : LocatedIn source failure) :
    GoesOn source good (.error failure) where
  ok _ hvalue := by cases hvalue
  error _ hfailure := by
    cases hfailure
    exact h

theorem ReadOf.step (h : ReadOf source reading) (hline : line ∈ linesOf source.text) :
    GoesOn source (ReadOf source) (Reading.step source.name reading line) := by
  unfold Reading.step
  cases hposition : reading.position with
  | outside =>
      dsimp only
      split
      · exact goesOn_error ⟨rfl, line, hline, rfl⟩
      · rename_i kind rest _
        have hblock (header : List Char) :
            MadeOf source { kind, header, source := source.name, lineNumber := line.number } :=
          ⟨rfl, ⟨line, hline, rfl⟩, List.forall_mem_nil _⟩
        split
        · exact goesOn_ok (h.append (hblock _))
        · exact goesOn_ok (h.stand (hblock _) (.inr rfl))
        · exact goesOn_ok (h.stand (hblock _) (.inl rfl))
  | beforeBrace block =>
      have hblock := h.position block (.inl hposition)
      dsimp only
      split
      · exact goesOn_ok (h.stand hblock (.inr rfl))
      · exact goesOn_error (hblock.located (.inl ⟨_, rfl⟩))
  | inside block =>
      have hblock := h.position block (.inr hposition)
      dsimp only
      split
      · exact goesOn_ok (h.append hblock)
      · split
        · exact goesOn_error ⟨hblock.named, line, hline, rfl⟩
        · exact goesOn_ok (h.stand (hblock.append hline) (.inr rfl))

theorem ReadOf.finish (h : ReadOf source reading) :
    GoesOn source (fun blocks => ∀ block ∈ blocks, MadeOf source block) reading.finish := by
  unfold Reading.finish
  cases hposition : reading.position with
  | outside => exact goesOn_ok h.blocks
  | beforeBrace block => exact goesOn_error ((h.position block (.inl hposition)).located (.inl ⟨_, rfl⟩))
  | inside block => exact goesOn_error ((h.position block (.inr hposition)).located (.inl ⟨_, rfl⟩))

/-- A source splits into blocks of its own, or fails at a place in it. -/
theorem goesOn_blocks (source : Source) :
    GoesOn source (fun blocks => ∀ block ∈ blocks, MadeOf source block) source.blocks := by
  have hlines (lines : List Line) (hlines : ∀ line ∈ lines, line ∈ linesOf source.text) (reading : Reading)
      (h : ReadOf source reading) :
      GoesOn source (ReadOf source) (lines.foldlM (Reading.step source.name) reading) := by
    induction lines generalizing reading with
    | nil => exact goesOn_ok h
    | cons line lines ih =>
        rw [List.forall_mem_cons] at hlines
        have hstep := h.step hlines.1
        rw [List.foldlM_cons]
        cases hnext : Reading.step source.name reading line with
        | error failure => exact goesOn_error (hstep.error failure hnext)
        | ok next => exact ih hlines.2 next (hstep.ok next hnext)
  have hstart : ReadOf source {} := ⟨List.forall_mem_nil _, fun _ h => by rcases h with h | h <;> cases h⟩
  have hread := hlines _ (fun _ hmem => hmem) {} hstart
  unfold Source.blocks
  cases hfold : (linesOf source.text).foldlM (Reading.step source.name) {} with
  | error failure => exact goesOn_error (hread.error failure hfold)
  | ok reading => exact (hread.ok reading hfold).finish

end Blocks

section Batches

variable {db : Database} {sources : List Source}

/-- An error is a failure at a line of one of the sources. -/
def Located (sources : List Source) (error : CompileError) : Prop :=
  ∃ failure, error = .located failure ∧ ∃ source ∈ sources, failure.source = source.name ∧
    1 ≤ failure.lineNumber ∧ failure.lineNumber ≤ (Text.splitLines source.text.toList).length ∧
    ∃ line ∈ linesOf source.text, line.number = failure.lineNumber

/-- A batch goes well up to a block that stops at a size in digits that make no numeral. -/
def BatchStopsAtSize (db : Database) (sources : List Source) : Prop :=
  ∃ blocks before block after reached, blocksOf sources = .ok blocks ∧ passes blocks = before ++ block :: after ∧
    Reaches db before reached ∧ StopsAtSize reached block

theorem located_of_mem {source : Source} {failure : Failure} (hmem : source ∈ sources)
    (h : LocatedIn source failure) : Located sources (.located failure) :=
  ⟨failure, rfl, source, hmem, h.named, h.bounds.1, h.bounds.2, h.numbered⟩

/-- Every block of a batch is made of one of its sources. -/
theorem madeOf_of_passes {blocks : List Block} (hsplit : blocksOf sources = .ok blocks) {block : Block}
    (hmem : block ∈ passes blocks) : ∃ source ∈ sources, MadeOf source block := by
  obtain ⟨source, hsource, own, hown, hblock⟩ := blockOf_of_passes hsplit hmem
  exact ⟨source, hsource, (goesOn_blocks source).ok own hown block hblock⟩

/-- A batch is compiled or refused with an error at a line of one of its sources, exactly if it does not stop
at a size in digits that make no numeral. -/
theorem compile_located_iff (db : Database) (sources : List Source) :
    (∀ error, (compile db sources).error = some error → Located sources error) ↔ ¬BatchStopsAtSize db sources := by
  cases hsplit : blocksOf sources with
  | error failure =>
      obtain ⟨before, source, after, hsources, -, hfails⟩ := blocksOf_eq_error_iff.1 hsplit
      have hmem : source ∈ sources := by
        rw [hsources]
        exact List.mem_append_right _ List.mem_cons_self
      have hlocated := located_of_mem hmem ((goesOn_blocks source).error failure hfails)
      rw [compile_of_unsplit hsplit]
      refine iff_of_true (fun error herror => Option.some.inj herror ▸ hlocated) ?_
      rintro ⟨_, _, _, _, _, hblocks, -⟩
      rw [hsplit] at hblocks
      cases hblocks
  | ok blocks =>
      rw [compile_of_blocks hsplit]
      constructor
      · rintro h ⟨others, before, block, after, reached, hothers, hpasses, hreaches, hstops⟩
        rw [hsplit] at hothers
        cases hothers
        obtain ⟨numeral, hrejected⟩ := rejected_of_stopsAtSize hstops
        obtain ⟨herror, -⟩ := compileBlocks_fails_iff.2 ⟨before, block, after, hpasses, hreaches, hrejected⟩
        obtain ⟨failure, hfailure, -⟩ := h _ herror
        cases hfailure
      · intro h error herror
        obtain ⟨before, block, after, hpasses, hreaches, hrejected⟩ := compileBlocks_fails_iff.1 ⟨herror, rfl⟩
        have hmem : block ∈ passes blocks := by
          rw [hpasses]
          exact List.mem_append_right _ List.mem_cons_self
        obtain ⟨source, hsource, hblock⟩ := madeOf_of_passes hsplit hmem
        rcases rejected_errsAt hrejected with ⟨failure, rfl, hplace⟩ | ⟨-, hstops⟩
        · exact located_of_mem hsource (hblock.located hplace)
        · exact absurd ⟨blocks, before, block, after, _, hsplit, hpasses, hreaches, hstops⟩ h

/-- A size in superscripts. -/
def superscriptFiles : List Source :=
  [{ name := "m.dmd", text := "model A \x7b\n  string(²) X\n\x7d" }]

/-- A size in superscripts is refused without a place. -/
theorem superscript_unplaced :
    ¬∀ (db : Database) (sources : List Source) (error : CompileError),
      (compile db sources).error = some error → Located sources error := by
  intro h
  have herror : (compile {} superscriptFiles).error = some (.numeral (.malformed "²")) := by decide +kernel
  obtain ⟨failure, hfailure, -⟩ := h {} superscriptFiles _ herror
  cases hfailure

end Batches

end SchemaMigrate.Model
