import SchemaMigrate.Proofs.Model.Batch

/-!
The sources that a schema was compiled from, batch by batch, with those of the batches that failed. Main
statement: such a schema is what some of the blocks of the sources lead to from the empty one. So what is
known of all blocks of the sources, and of every block that compiles, is known of the schema.
-/

namespace SchemaMigrate.Model

/-- The schemas that batches lead to from the empty one, with all the sources in the batches. -/
inductive CompiledFrom : List Source → Database → Prop
  | empty : CompiledFrom [] {}
  | batch {sources : List Source} {db : Database} (h : CompiledFrom sources db) (more : List Source) :
      CompiledFrom (sources ++ more) (compile db more).schema

/-- A block of one of the sources. -/
def BlockOf (sources : List Source) (block : Block) : Prop :=
  ∃ source ∈ sources, ∃ blocks, source.blocks = .ok blocks ∧ block ∈ blocks

variable {sources more : List Source} {db : Database} {block : Block} {blocks : List Block}

theorem CompiledFrom.compiled (h : CompiledFrom sources db) : Compiled db := by
  induction h with
  | empty => exact .empty
  | batch _ more ih => exact .batch ih more

theorem BlockOf.mono (h : BlockOf sources block) (hsub : sources ⊆ more) : BlockOf more block := by
  obtain ⟨source, hsource, hblock⟩ := h
  exact ⟨source, hsub hsource, hblock⟩

/-- The passes of a batch are over blocks of its sources. -/
theorem blockOf_of_passes (hsplit : blocksOf sources = .ok blocks) (h : block ∈ passes blocks) :
    BlockOf sources block := by
  obtain ⟨kind, -, hkind⟩ := List.mem_flatMap.1 h
  obtain ⟨parts, hparts, rfl⟩ := blocksOf_eq_ok_iff.1 hsplit
  obtain ⟨own, hown, hblock⟩ := List.mem_flatten.1 (List.mem_of_mem_filter hkind)
  obtain ⟨source, hmem, hsource⟩ := exists_of_forall₂ hparts hown
  exact ⟨source, hmem, own, hsource, hblock⟩

/-- Blocks in a row come as far as some of them lead. -/
theorem exists_reaches_prefix (db : Database) (blocks : List Block) :
    ∃ before, before <+: blocks ∧ Reaches db before (compileBlocks db blocks).schema := by
  induction blocks generalizing db with
  | nil => exact ⟨[], List.prefix_rfl, reaches_nil_iff.2 rfl⟩
  | cons block blocks ih =>
      cases hblock : compileBlock db block with
      | error error =>
          rw [compileBlocks_cons_error hblock]
          exact ⟨[], List.nil_prefix, reaches_nil_iff.2 rfl⟩
      | ok definition =>
          rw [(compileBlocks_cons_ok hblock blocks).2]
          obtain ⟨before, hbefore, hreaches⟩ := ih (commit db definition)
          exact ⟨block :: before, List.cons_prefix_cons.2 ⟨rfl, hbefore⟩,
            reaches_cons_iff.2 ⟨definition, hblock, hreaches⟩⟩

/-- What is compiled from some sources is what some of their blocks lead to. -/
theorem CompiledFrom.exists_reaches (h : CompiledFrom sources db) :
    ∃ blocks, Reaches {} blocks db ∧ ∀ block ∈ blocks, BlockOf sources block := by
  induction h with
  | empty => exact ⟨[], reaches_nil_iff.2 rfl, List.forall_mem_nil _⟩
  | @batch sources db _ more ih =>
      obtain ⟨blocks, hreaches, hblocks⟩ := ih
      have hkept : ∀ block ∈ blocks, BlockOf (sources ++ more) block := fun block hmem =>
        (hblocks block hmem).mono (List.subset_append_left _ _)
      cases hsplit : blocksOf more with
      | error failure =>
          rw [compile_of_unsplit hsplit]
          exact ⟨blocks, hreaches, hkept⟩
      | ok added =>
          rw [compile_of_blocks hsplit]
          obtain ⟨before, hbefore, hadded⟩ := exists_reaches_prefix db (passes added)
          refine ⟨blocks ++ before, reaches_append_iff.2 ⟨db, hreaches, hadded⟩, ?_⟩
          refine List.forall_mem_append.2 ⟨hkept, fun block hmem => ?_⟩
          exact (blockOf_of_passes hsplit (hbefore.subset hmem)).mono (List.subset_append_right _ _)

/-- What every block of the sources keeps that compiles holds of the schema if it holds of the empty one. -/
theorem CompiledFrom.invariant {P : Database → Prop} (hempty : P {})
    (hstep : ∀ {db : Database} {block : Block} {definition : Definition}, BlockOf sources block → P db →
      compileBlock db block = .ok definition → P (commit db definition))
    (h : CompiledFrom sources db) : P db := by
  obtain ⟨blocks, hreaches, hblocks⟩ := h.exists_reaches
  exact hreaches.invariant (fun hmem => hstep (hblocks _ hmem)) hempty

end SchemaMigrate.Model
