import SchemaMigrate.Proofs.Model.Rejections

/-!
How far a batch comes. Its sources are split into blocks before any block is compiled, and the blocks are
then compiled one after the other in three passes. Main statement: a batch fails exactly if a source does
not split, which leaves the schema as it was, or if a block is rejected, which leaves the schema that the
blocks before it lead to.
-/

namespace SchemaMigrate.Model

variable {db reached : Database} {block : Block} {blocks : List Block} {sources : List Source}

/-- Blocks compile one after the other, and lead from one schema to another. -/
def Reaches (db : Database) (blocks : List Block) (reached : Database) : Prop :=
  (compileBlocks db blocks).error = none ∧ (compileBlocks db blocks).schema = reached

section Blocks

theorem compileBlocks_cons_ok {definition : Definition} (h : compileBlock db block = .ok definition)
    (blocks : List Block) :
    (compileBlocks db (block :: blocks)).error = (compileBlocks (commit db definition) blocks).error ∧
      (compileBlocks db (block :: blocks)).schema = (compileBlocks (commit db definition) blocks).schema := by
  rw [compileBlocks, h]
  exact ⟨rfl, rfl⟩

theorem compileBlocks_cons_error {error : CompileError} (h : compileBlock db block = .error error) :
    compileBlocks db (block :: blocks) = { schema := db, error := some error } := by
  rw [compileBlocks, h]

theorem reaches_nil_iff : Reaches db [] reached ↔ reached = db := by
  simp [Reaches, compileBlocks, eq_comm]

theorem reaches_cons_iff :
    Reaches db (block :: blocks) reached ↔
      ∃ definition, compileBlock db block = .ok definition ∧ Reaches (commit db definition) blocks reached := by
  unfold Reaches
  cases hblock : compileBlock db block with
  | error error => simp [compileBlocks_cons_error hblock]
  | ok definition =>
      obtain ⟨herror, hschema⟩ := compileBlocks_cons_ok hblock blocks
      rw [herror, hschema]
      simp

theorem reaches_append_iff {first second : List Block} :
    Reaches db (first ++ second) reached ↔ ∃ middle, Reaches db first middle ∧ Reaches middle second reached := by
  induction first generalizing db with
  | nil => simp [reaches_nil_iff]
  | cons block first ih =>
      simp only [List.cons_append, reaches_cons_iff, ih]
      grind

/-- What every block keeps that compiles, blocks keep that lead from one schema to another. -/
theorem Reaches.invariant {P : Database → Prop}
    (hstep : ∀ {db : Database} {block : Block} {definition : Definition}, block ∈ blocks → P db →
      compileBlock db block = .ok definition → P (commit db definition))
    (hdb : P db) (h : Reaches db blocks reached) : P reached := by
  induction blocks generalizing db with
  | nil =>
      rw [reaches_nil_iff.1 h]
      exact hdb
  | cons block blocks ih =>
      obtain ⟨definition, hblock, hrest⟩ := reaches_cons_iff.1 h
      exact ih (fun hmem => hstep (List.mem_cons_of_mem _ hmem)) (hstep List.mem_cons_self hdb hblock) hrest

/-- Every compiled schema is the one to which some blocks lead from the empty one. -/
theorem Compiled.exists_reaches (h : Compiled db) : ∃ blocks, Reaches {} blocks db := by
  refine h.invariant (P := fun db => ∃ blocks, Reaches {} blocks db) ⟨[], reaches_nil_iff.2 rfl⟩ ?_
  rintro db block definition ⟨blocks, hblocks⟩ hblock
  have hlast : Reaches db [block] (commit db definition) :=
    reaches_cons_iff.2 ⟨definition, hblock, reaches_nil_iff.2 rfl⟩
  exact ⟨blocks ++ [block], reaches_append_iff.2 ⟨db, hblocks, hlast⟩⟩

/-- Blocks fail at the first one that is rejected. -/
theorem compileBlocks_fails_iff {error : CompileError} :
    (compileBlocks db blocks).error = some error ∧ (compileBlocks db blocks).schema = reached ↔
      ∃ before block after, blocks = before ++ block :: after ∧ Reaches db before reached ∧
        Rejected reached block error := by
  induction blocks generalizing db with
  | nil => exact iff_of_false (fun h => by cases h.1) not_exists_split_nil
  | cons block blocks ih =>
      rw [exists_split_cons_iff]
      simp only [reaches_nil_iff, reaches_cons_iff, ← compileBlock_eq_error_iff] at ih ⊢
      cases hblock : compileBlock db block with
      | error rejection =>
          rw [compileBlocks_cons_error hblock]
          constructor
          · rintro ⟨herror, rfl⟩
            cases herror
            exact .inl ⟨rfl, hblock⟩
          · rintro (⟨rfl, hrejected⟩ | ⟨_, _, _, -, ⟨_, hok, -⟩, -⟩)
            · rw [hblock] at hrejected
              cases hrejected
              exact ⟨rfl, rfl⟩
            · cases hok
      | ok definition =>
          obtain ⟨herror, hschema⟩ := compileBlocks_cons_ok hblock blocks
          rw [herror, hschema, ih]
          constructor
          · rintro ⟨before, rejected, after, hblocks, hbefore, hrejected⟩
            exact .inr ⟨before, rejected, after, hblocks, ⟨definition, rfl, hbefore⟩, hrejected⟩
          · rintro (⟨rfl, hrejected⟩ | ⟨before, rejected, after, hblocks, ⟨_, hok, hbefore⟩, hrejected⟩)
            · rw [hblock] at hrejected
              cases hrejected
            · cases hok
              exact ⟨before, rejected, after, hblocks, hbefore, hrejected⟩

end Blocks

section Sources

/-- The blocks of a batch in the order of the passes: mixins, models, extensions. -/
theorem passes_eq (blocks : List Block) :
    passes blocks =
      blocks.filter (·.kind == .mixin) ++ blocks.filter (·.kind == .model) ++ blocks.filter (·.kind == .extension) := by
  simp [passes]

theorem kind_of_mem_filter {kind : BlockKind} (h : block ∈ blocks.filter (·.kind == kind)) : block.kind = kind := by
  simpa using (List.mem_filter.1 h).2

/-- The passes lead to a schema by way of the ones that the mixins and then the models lead to. -/
theorem reaches_passes_iff :
    Reaches db (passes blocks) reached ↔
      ∃ mixed modeled, Reaches db (blocks.filter (·.kind == .mixin)) mixed ∧
        Reaches mixed (blocks.filter (·.kind == .model)) modeled ∧
        Reaches modeled (blocks.filter (·.kind == .extension)) reached := by
  rw [passes_eq, List.append_assoc]
  simp only [reaches_append_iff]
  constructor
  · rintro ⟨mixed, hmixed, modeled, hmodeled, hextended⟩
    exact ⟨mixed, modeled, hmixed, hmodeled, hextended⟩
  · rintro ⟨mixed, modeled, hmixed, hmodeled, hextended⟩
    exact ⟨mixed, hmixed, modeled, hmodeled, hextended⟩

theorem blocksOf_eq_ok_iff :
    blocksOf sources = .ok blocks ↔
      ∃ parts, List.Forall₂ (fun source part => source.blocks = .ok part) sources parts ∧ blocks = parts.flatten := by
  induction sources generalizing blocks with
  | nil =>
      rw [blocksOf, ok_eq_ok_iff]
      simp
  | cons source sources ih =>
      simp only [blocksOf, bind_eq_ok_iff, ih, List.forall₂_cons_left_iff]
      constructor
      · rintro ⟨first, hfirst, _, ⟨parts, hparts, rfl⟩, hblocks⟩
        exact ⟨first :: parts, ⟨first, parts, hfirst, hparts, rfl⟩, ok_eq_ok_iff.1 hblocks⟩
      · rintro ⟨_, ⟨first, parts, hfirst, hparts, rfl⟩, hblocks⟩
        exact ⟨first, hfirst, _, ⟨parts, hparts, rfl⟩, ok_eq_ok_iff.2 hblocks⟩

theorem blocksOf_eq_error_iff {failure : Failure} :
    blocksOf sources = .error failure ↔
      ∃ before source after, sources = before ++ source :: after ∧
        (∀ earlier ∈ before, ∃ blocks, earlier.blocks = .ok blocks) ∧ source.blocks = .error failure := by
  induction sources with
  | nil => exact iff_of_false (fun h => by cases h) not_exists_split_nil
  | cons first sources ih =>
      rw [blocksOf, bind_eq_error_iff, exists_split_cons_iff]
      simp only [bind_eq_error_iff, ih, List.forall_mem_cons]
      refine or_congr ⟨fun h => ⟨List.forall_mem_nil _, h⟩, And.right⟩ ⟨?_, ?_⟩
      · rintro ⟨part, hpart, ⟨before, source, after, hsources, hbefore, hfails⟩ | ⟨_, -, h⟩⟩
        · exact ⟨before, source, after, hsources, ⟨⟨part, hpart⟩, hbefore⟩, hfails⟩
        · cases h
      · rintro ⟨before, source, after, hsources, ⟨⟨part, hpart⟩, hbefore⟩, hfails⟩
        exact ⟨part, hpart, .inl ⟨before, source, after, hsources, hbefore, hfails⟩⟩

theorem compile_of_unsplit {failure : Failure} (h : blocksOf sources = .error failure) :
    compile db sources = { schema := db, error := some (.located failure) } := by
  rw [compile, h]

theorem compile_of_blocks (h : blocksOf sources = .ok blocks) :
    compile db sources = compileBlocks db (passes blocks) := by
  rw [compile, h]

/-- A batch succeeds if its sources split and their blocks compile in the order of the passes. -/
theorem compile_succeeds_iff :
    (compile db sources).error = none ∧ (compile db sources).schema = reached ↔
      ∃ blocks, blocksOf sources = .ok blocks ∧ Reaches db (passes blocks) reached := by
  cases hsplit : blocksOf sources with
  | error failure => simp [compile_of_unsplit hsplit]
  | ok blocks => simp [compile_of_blocks hsplit, Reaches]

/-- A batch fails in one of two ways. A source does not split into blocks; then the schema is as it was. Or
all sources split and a block is rejected, taken in the order of the passes; then the schema is the one to
which the blocks before it lead, all of which compile. What the rejected block had taken of its own lines
and mixins by then is no part of it. -/
theorem compile_fails_iff (db : Database) (sources : List Source) (error : CompileError) (reached : Database) :
    (compile db sources).error = some error ∧ (compile db sources).schema = reached ↔
      (∃ before source after failure, sources = before ++ source :: after ∧
        (∀ earlier ∈ before, ∃ blocks, earlier.blocks = .ok blocks) ∧ source.blocks = .error failure ∧
        error = .located failure ∧ reached = db) ∨
      ∃ parts before block after, List.Forall₂ (fun source part => source.blocks = .ok part) sources parts ∧
        parts.flatten.filter (·.kind == .mixin) ++ parts.flatten.filter (·.kind == .model) ++
          parts.flatten.filter (·.kind == .extension) = before ++ block :: after ∧
        Reaches db before reached ∧ Rejected reached block error := by
  cases hsplit : blocksOf sources with
  | error failure =>
      rw [compile_of_unsplit hsplit]
      obtain ⟨before, source, after, hsources, hbefore, hfails⟩ := blocksOf_eq_error_iff.1 hsplit
      constructor
      · rintro ⟨herror, rfl⟩
        cases herror
        exact .inl ⟨before, source, after, failure, hsources, hbefore, hfails, rfl, rfl⟩
      · rintro (⟨before, source, after, other, hsources, hbefore, hfails, rfl, rfl⟩ | ⟨parts, _, _, _, hparts, -⟩)
        · have hother := blocksOf_eq_error_iff.2 ⟨before, source, after, hsources, hbefore, hfails⟩
          rw [hsplit] at hother
          cases hother
          exact ⟨rfl, rfl⟩
        · rw [blocksOf_eq_ok_iff.2 ⟨parts, hparts, rfl⟩] at hsplit
          cases hsplit
  | ok blocks =>
      rw [compile_of_blocks hsplit, compileBlocks_fails_iff]
      obtain ⟨parts, hparts, rfl⟩ := blocksOf_eq_ok_iff.1 hsplit
      constructor
      · rintro ⟨before, block, after, hblocks, hbefore, hrejected⟩
        rw [passes_eq] at hblocks
        exact .inr ⟨parts, before, block, after, hparts, hblocks, hbefore, hrejected⟩
      · rintro (⟨before, source, after, failure, hsources, hbefore, hfails, -⟩ |
          ⟨others, before, block, after, hothers, hblocks, hbefore, hrejected⟩)
        · rw [blocksOf_eq_error_iff.2 ⟨before, source, after, hsources, hbefore, hfails⟩] at hsplit
          cases hsplit
        · rw [blocksOf_eq_ok_iff.2 ⟨others, hothers, rfl⟩] at hsplit
          rw [← Except.ok.inj hsplit, passes_eq]
          exact ⟨before, block, after, hblocks, hbefore, hrejected⟩

/-- An extension that is rejected at its second line leaves the table without the first. -/
example :
    let source : Source :=
      { name := "order.dmd"
        text := "model Order \x7b\n  string Number\n\x7d\n" ++
          "extends Order \x7b\n  int Rank\n  int Number\n\x7d\n" }
    (compile {} [source]).error.isSome = true ∧
      ((compile {} [source]).schema.tables.items.map fun table => table.fields.map (·.name)) =
        [["OrderID", "Number"]] := by
  decide +kernel

end Sources

end SchemaMigrate.Model
