import SchemaMigrate.Proofs.Model.Batch

/-!
Batches after one another. A block of a later pass can be compiled after one of an earlier pass that followed
it, with the same result, so blocks that compile in any order compile in the order of the passes as well.
Main statement: two batches that succeed one after the other succeed as one, and give the same schema.
-/

namespace SchemaMigrate.Model

/-- The pass in which the blocks of a kind are compiled. -/
def BlockKind.pass : BlockKind → Nat
  | .mixin => 0
  | .model => 1
  | .extension => 2

variable {db reached : Database} {first second : Block} {definition other : Definition}

section Swapping

/-- Two definitions, of which the second does not need the first, are entered in either order. -/
structure Swaps (db : Database) (first second : Block) (definition other : Definition) : Prop where
  second : compileBlock db second = .ok other
  first : compileBlock (commit db other) first = .ok definition
  entered : commit (commit db definition) other = commit (commit db other) definition

/-- A mixin is not concerned by what is done to tables, nor is an extension by a mixin. -/
theorem swaps_extension_mixin (hfirst : first.kind = .extension) (hsecond : second.kind = .mixin)
    (h : compileBlock db first = .ok definition) (hother : compileBlock (commit db definition) second = .ok other) :
    Swaps db first second definition other := by
  obtain ⟨table, htable, rfl⟩ := (compileBlock_extension_iff hfirst).1 h
  obtain ⟨mixin, hmixin, rfl⟩ := (compileBlock_mixin_iff hsecond).1 hother
  have hsame : compileMixin (db.putTable table) second = compileMixin db second := compileMixin_congr fun _ => rfl
  have hbase : compileExtension (db.putMixin mixin) first = compileExtension db first :=
    compileExtension_congr fun _ => rfl
  exact {
    second := (compileBlock_mixin_iff hsecond).2 ⟨mixin, hsame.symm.trans hmixin, rfl⟩
    first := (compileBlock_extension_iff hfirst).2 ⟨table, hbase.trans htable, rfl⟩
    entered := rfl }

/-- A model finds its mixins also among more of them. -/
theorem swaps_model_mixin (hfirst : first.kind = .model) (hsecond : second.kind = .mixin)
    (h : compileBlock db first = .ok definition) (hother : compileBlock (commit db definition) second = .ok other) :
    Swaps db first second definition other := by
  obtain ⟨table, htable, rfl⟩ := (compileBlock_model_iff hfirst).1 h
  obtain ⟨mixin, hmixin, rfl⟩ := (compileBlock_mixin_iff hsecond).1 hother
  have hsame : compileMixin (db.putTable table) second = compileMixin db second := compileMixin_congr fun _ => rfl
  have hmixin : compileMixin db second = .ok mixin := hsame.symm.trans hmixin
  have hfound : ∀ name known, db.mixin? name = some known → (db.putMixin mixin).mixin? name = some known :=
    fun _ _ => Database.mixin?_putMixin_new (mixin?_of_compileMixin hmixin)
  have hfree : db.hasTable table.name = false := hasTable_of_compileModel htable
  exact {
    second := (compileBlock_mixin_iff hsecond).2 ⟨mixin, hmixin, rfl⟩
    first := (compileBlock_model_iff hfirst).2 ⟨table, compileModel_mono htable hfound hfree, rfl⟩
    entered := rfl }

/-- A model has a new name, and so is not the base of an extension that was compiled before it. -/
theorem swaps_extension_model (hfirst : first.kind = .extension) (hsecond : second.kind = .model)
    (h : compileBlock db first = .ok definition) (hother : compileBlock (commit db definition) second = .ok other) :
    Swaps db first second definition other := by
  obtain ⟨extended, hextended, rfl⟩ := (compileBlock_extension_iff hfirst).1 h
  obtain ⟨table, htable, rfl⟩ := (compileBlock_model_iff hsecond).1 hother
  have hknown : db.hasTable extended.name = true := hasTable_of_compileExtension hextended
  obtain ⟨hapart, hfree⟩ := Database.hasTable_putTable_eq_false_iff.1 (hasTable_of_compileModel htable)
  have hbefore : compileModel db second = .ok table := compileModel_mono htable (fun _ _ hfound => hfound) hfree
  have hback : compileExtension (db.putTable table) first = .ok extended :=
    compileExtension_mono hextended fun _ _ _ hbase => Database.table?_putTable_new hfree hbase
  have hcomm : (db.tables.put extended).put table = (db.tables.put table).put extended :=
    NameMap.put_comm hknown hapart
  exact {
    second := (compileBlock_model_iff hsecond).2 ⟨table, hbefore, rfl⟩
    first := (compileBlock_extension_iff hfirst).2 ⟨extended, hback, rfl⟩
    entered := congrArg (fun tables => { db with tables }) hcomm }

/-- A block of a later pass goes past one of an earlier pass. -/
theorem swaps_of_pass (hpass : second.kind.pass < first.kind.pass)
    (h : compileBlock db first = .ok definition) (hother : compileBlock (commit db definition) second = .ok other) :
    Swaps db first second definition other := by
  cases hfirst : first.kind with
  | mixin => simp [hfirst, BlockKind.pass] at hpass
  | model =>
      cases hsecond : second.kind with
      | mixin => exact swaps_model_mixin hfirst hsecond h hother
      | model => simp [hfirst, hsecond] at hpass
      | extension => simp [hfirst, hsecond, BlockKind.pass] at hpass
  | extension =>
      cases hsecond : second.kind with
      | mixin => exact swaps_extension_mixin hfirst hsecond h hother
      | model => exact swaps_extension_model hfirst hsecond h hother
      | extension => simp [hfirst, hsecond] at hpass

end Swapping

section Passes

variable {blocks : List Block}

theorem reaches_swap (hpass : second.kind.pass < first.kind.pass)
    (h : Reaches db (first :: second :: blocks) reached) : Reaches db (second :: first :: blocks) reached := by
  obtain ⟨definition, hdefinition, h⟩ := reaches_cons_iff.1 h
  obtain ⟨other, hother, h⟩ := reaches_cons_iff.1 h
  have hswaps := swaps_of_pass hpass hdefinition hother
  rw [hswaps.entered] at h
  exact reaches_cons_iff.2 ⟨other, hswaps.second, reaches_cons_iff.2 ⟨definition, hswaps.first, h⟩⟩

/-- A block goes past all blocks of earlier passes. -/
theorem reaches_move {front back : List Block} (hpass : ∀ block ∈ front, block.kind.pass < first.kind.pass)
    (h : Reaches db (first :: (front ++ back)) reached) : Reaches db (front ++ first :: back) reached := by
  induction front generalizing db with
  | nil => exact h
  | cons block front ih =>
      obtain ⟨hblock, hfront⟩ := List.forall_mem_cons.1 hpass
      obtain ⟨definition, hdefinition, hrest⟩ := reaches_cons_iff.1 (reaches_swap hblock h)
      exact reaches_cons_iff.2 ⟨definition, hdefinition, ih hfront hrest⟩

/-- Blocks that compile in the order in which they stand compile in the order of the passes. -/
theorem reaches_passes (h : Reaches db blocks reached) : Reaches db (passes blocks) reached := by
  induction blocks generalizing db with
  | nil => exact h
  | cons block blocks ih =>
      obtain ⟨definition, hdefinition, hrest⟩ := reaches_cons_iff.1 h
      have hfront : Reaches db (block :: passes blocks) reached :=
        reaches_cons_iff.2 ⟨definition, hdefinition, ih hrest⟩
      -- the block stands in front of its pass once it has gone past the passes before that one
      rw [passes_eq] at hfront ⊢
      cases hkind : block.kind with
      | mixin => simpa [hkind] using hfront
      | model =>
          have hearlier : ∀ earlier ∈ blocks.filter (·.kind == .mixin), earlier.kind.pass < block.kind.pass := by
            intro earlier hmem
            simp [hkind, kind_of_mem_filter hmem, BlockKind.pass]
          rw [List.append_assoc] at hfront
          simpa [hkind] using reaches_move hearlier hfront
      | extension =>
          have hearlier : ∀ earlier ∈ blocks.filter (·.kind == .mixin) ++ blocks.filter (·.kind == .model),
              earlier.kind.pass < block.kind.pass := by
            intro earlier hmem
            rcases List.mem_append.1 hmem with hmem | hmem
            · simp [hkind, kind_of_mem_filter hmem, BlockKind.pass]
            · simp [hkind, kind_of_mem_filter hmem, BlockKind.pass]
          simpa [hkind] using reaches_move hearlier hfront

theorem filter_passes (blocks : List Block) (kind : BlockKind) :
    (passes blocks).filter (·.kind == kind) = blocks.filter (·.kind == kind) := by
  have hother {other : BlockKind} (h : other ≠ kind) :
      (blocks.filter (·.kind == other)).filter (·.kind == kind) = [] := by
    simp only [List.filter_filter, List.filter_eq_nil_iff, Bool.and_eq_true, beq_iff_eq]
    rintro block - ⟨hkind, hother⟩
    exact h (hother.symm.trans hkind)
  have hself : (blocks.filter (·.kind == kind)).filter (·.kind == kind) = blocks.filter (·.kind == kind) := by
    simp [List.filter_filter]
  rw [passes_eq, List.filter_append, List.filter_append]
  cases kind with
  | mixin => rw [hself, hother (by decide), hother (by decide), List.append_nil, List.append_nil]
  | model => rw [hself, hother (by decide), hother (by decide), List.append_nil, List.nil_append]
  | extension => rw [hself, hother (by decide), hother (by decide), List.nil_append, List.nil_append]

/-- The passes of two batches in a row, put in the order of the passes, are those of one batch. -/
theorem passes_append_passes (first second : List Block) :
    passes (passes first ++ passes second) = passes (first ++ second) := by
  simp only [passes_eq (passes first ++ passes second), passes_eq (first ++ second), List.filter_append, filter_passes]

end Passes

section Batches

theorem blocksOf_append_eq_ok {first second : List Source} {blocks others : List Block}
    (h : blocksOf first = .ok blocks) (hothers : blocksOf second = .ok others) :
    blocksOf (first ++ second) = .ok (blocks ++ others) := by
  obtain ⟨parts, hparts, rfl⟩ := blocksOf_eq_ok_iff.1 h
  obtain ⟨otherParts, hotherParts, rfl⟩ := blocksOf_eq_ok_iff.1 hothers
  exact blocksOf_eq_ok_iff.2 ⟨parts ++ otherParts, List.rel_append hparts hotherParts, List.flatten_append.symm⟩

/-- Two batches that succeed one after the other succeed as one batch, which gives the same schema, with its
tables and mixins in the same order. -/
theorem compile_append {first second : List Source} (hfirst : (compile db first).error = none)
    (hsecond : (compile (compile db first).schema second).error = none) :
    (compile db (first ++ second)).error = none ∧
      (compile db (first ++ second)).schema = (compile (compile db first).schema second).schema := by
  obtain ⟨blocks, hblocks, hreached⟩ := compile_succeeds_iff.1 ⟨hfirst, rfl⟩
  obtain ⟨others, hothers, hresult⟩ := compile_succeeds_iff.1 ⟨hsecond, rfl⟩
  have hrow := reaches_passes (reaches_append_iff.2 ⟨_, hreached, hresult⟩)
  rw [passes_append_passes] at hrow
  exact compile_succeeds_iff.2 ⟨blocks ++ others, blocksOf_append_eq_ok hblocks hothers, hrow⟩

/-- A table and its extension. -/
def orderFiles : List Source :=
  [{ name := "order.dmd"
     text := "model Order \x7b\n  string(40) Number\n\x7d\n" ++ "extends order \x7b\n  int? Rank\n\x7d\n" }]

/-- A mixin, a table that applies it, and one more extension. -/
def lineFiles : List Source :=
  [{ name := "audited.dmdx", text := "mixin Audited \x7b\n  datetime ChangedOn\n\x7d\n" },
   { name := "line.dmd"
     text := "model Line with Audited \x7b\n  models Order\n\x7d\n" ++
       "extends ORDER \x7b\n  index (Number) @unique\n\x7d\n" }]

theorem compile_append_shop :
    (compile {} orderFiles).error = none ∧ (compile (compile {} orderFiles).schema lineFiles).error = none ∧
      (compile {} (orderFiles ++ lineFiles)).error = none ∧
      (compile {} (orderFiles ++ lineFiles)).schema = (compile (compile {} orderFiles).schema lineFiles).schema := by
  have hfirst : (compile {} orderFiles).error = none := by decide +kernel
  have hsecond : (compile (compile {} orderFiles).schema lineFiles).error = none := by decide +kernel
  exact ⟨hfirst, hsecond, compile_append hfirst hsecond⟩

end Batches

end SchemaMigrate.Model
