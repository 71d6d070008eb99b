import SchemaMigrate.Proofs.Grammar.Definitions

/-!
A printed batch compiles exactly if it is well formed and its numbers can be read, and then to its direct
expansion. The three passes are folds over the blocks of one kind, each with what it keeps of the schema.
-/

namespace SchemaMigrate.Grammar

open Model

attribute [local irreducible] nameKey

section Passes

/-- A block compiled into the schema. -/
def compileStep (db : Database) (block : Block) : Except CompileError Database :=
  commit db <$> compileBlock db block

/-- The outcome of a compilation is that of the fold of its steps. -/
theorem foldlM_compileStep (db : Database) (blocks : List Block) :
    blocks.foldlM compileStep db =
      match (compileBlocks db blocks).error with
      | none => .ok (compileBlocks db blocks).schema
      | some error => .error error := by
  induction blocks generalizing db with
  | nil => rfl
  | cons block blocks ih =>
      rw [List.foldlM_cons, compileStep, compileBlocks]
      cases hblock : compileBlock db block with
      | error error => rfl
      | ok definition => exact ih (commit db definition)

/-- The blocks of a kind are those that were read from terms of the kind. -/
theorem forall₂_pass {τ : Type} {kind : BlockKind} {wrap : τ → BlockTerm} {pick : BlockTerm → Option τ}
    (hpick : ∀ term, term.kind = kind ∧ (∃ part, pick term = some part ∧ term = wrap part)
      ∨ term.kind ≠ kind ∧ pick term = none)
    {blocks : List Block} {terms : List BlockTerm} (h : List.Forall₂ Reads blocks terms) :
    List.Forall₂ (fun block part => Reads block (wrap part)) (blocks.filter (·.kind == kind))
      (terms.filterMap pick) := by
  induction h with
  | nil => exact .nil
  | cons hread _ ih =>
      rename_i block term blocks terms _
      rcases hpick term with ⟨hkind, part, hpart, rfl⟩ | ⟨hkind, hpart⟩
      · rw [List.filter_cons_of_pos (by simp [hread.kind, hkind]), List.filterMap_cons, hpart]
        exact .cons hread ih
      · rw [List.filter_cons_of_neg (by simp [hread.kind, hkind]), List.filterMap_cons, hpart]
        exact ih

theorem forall₂_mixins {blocks : List Block} {terms : List BlockTerm} (h : List.Forall₂ Reads blocks terms) :
    List.Forall₂ (fun block term => Reads block (.mixin term)) (blocks.filter (·.kind == .mixin))
      (mixinTerms terms) := by
  refine forall₂_pass (fun term => ?_) h
  cases term with
  | mixin term => exact .inl ⟨rfl, term, rfl, rfl⟩
  | model term => exact .inr ⟨fun h => (by cases h), rfl⟩
  | extension term => exact .inr ⟨fun h => (by cases h), rfl⟩

theorem forall₂_models {blocks : List Block} {terms : List BlockTerm} (h : List.Forall₂ Reads blocks terms) :
    List.Forall₂ (fun block term => Reads block (.model term)) (blocks.filter (·.kind == .model))
      (modelTerms terms) := by
  refine forall₂_pass (fun term => ?_) h
  cases term with
  | mixin term => exact .inr ⟨fun h => (by cases h), rfl⟩
  | model term => exact .inl ⟨rfl, term, rfl, rfl⟩
  | extension term => exact .inr ⟨fun h => (by cases h), rfl⟩

theorem forall₂_extensions {blocks : List Block} {terms : List BlockTerm}
    (h : List.Forall₂ Reads blocks terms) :
    List.Forall₂ (fun block term => Reads block (.extension term)) (blocks.filter (·.kind == .extension))
      (extensionTerms terms) := by
  refine forall₂_pass (fun term => ?_) h
  cases term with
  | mixin term => exact .inr ⟨fun h => (by cases h), rfl⟩
  | model term => exact .inr ⟨fun h => (by cases h), rfl⟩
  | extension term => exact .inl ⟨rfl, term, rfl, rfl⟩

/-- Names are distinct, and in each thing the fields are. -/
structure Separate {α : Type} [Named α] (fields : α → List Field) (items : List α) : Prop where
  names : (items.map keyOf).Nodup
  fields : ∀ item ∈ items, Distinct (fields item)

theorem separate_concat {α : Type} [Named α] {fields : α → List Field} {items : List α} {item : α} :
    Separate fields (items ++ [item]) ↔
      Separate fields items ∧ keyOf item ∉ items.map keyOf ∧ Distinct (fields item) := by
  have hnodup : ((items ++ [item]).map keyOf).Nodup ↔
      keyOf item ∉ items.map keyOf ∧ (items.map keyOf).Nodup := by
    rw [List.map_append, List.map_singleton, List.nodup_append_comm, List.singleton_append, List.nodup_cons]
  constructor
  · intro h
    have hnames := hnodup.1 h.names
    exact ⟨⟨hnames.2, fun other hother => h.fields other (List.mem_append_left _ hother)⟩, hnames.1,
      h.fields item (List.mem_append_right _ List.mem_cons_self)⟩
  · rintro ⟨hitems, hkey, hfields⟩
    refine ⟨hnodup.2 ⟨hkey, hitems.names⟩, fun other hother => ?_⟩
    rcases List.mem_append.1 hother with hother | hother
    · exact hitems.fields other hother
    · rw [List.mem_singleton.1 hother]
      exact hfields

/-- A schema with these mixins and tables. -/
structure Holds (mixins : List Mixin) (tables : List Table) (db : Database) : Prop where
  mixins : db.mixins.items = mixins
  tables : db.tables.items = tables

/-- The first pass enters the mixins. -/
theorem yields_mixinPass {blocks : List Block} {terms : List MixinTerm}
    (h : List.Forall₂ (fun block term => Reads block (.mixin term)) blocks terms) :
    Yields (blocks.foldlM compileStep {})
      ((∀ term ∈ terms, ∀ member ∈ term.members, member.Compiles ∧ member.field?.isSome)
        ∧ Separate Mixin.fields (terms.map (·.mixin)))
      (Holds (terms.map (·.mixin)) []) := by
  have hfold := foldl_concat (fun term : MixinTerm => term.mixin) [] terms
  rw [List.nil_append] at hfold
  rw [← hfold]
  refine Yields.foldlM (fun mixins (term : MixinTerm) => mixins ++ [term.mixin]) (fun mixins => Holds mixins [])
    (fun term => ∀ member ∈ term.members, member.Compiles ∧ member.field?.isSome) (Separate Mixin.fields)
    ?_ ?_ h ⟨List.nodup_nil, fun _ h => by cases h⟩ ⟨rfl, rfl⟩
  · intro mixins db block term hreads hkeeps hholds
    have hblock : compileBlock db block = .mixin <$> compileMixin db block := by
      rw [compileBlock, hreads.kind]
      rfl
    have hmixin := yields_compileMixin db hreads
    rw [hholds.mixins] at hmixin
    rw [compileStep, hblock]
    refine ((hmixin.map (S := fun definition => definition = .mixin term.mixin ∧
      keyOf term.mixin ∉ mixins.map keyOf) ?_).map ?_).congr ?_
    · rintro _ hcondition rfl
      exact ⟨rfl, hcondition.1⟩
    · rintro _ - ⟨rfl, hnew⟩
      refine ⟨?_, hholds.tables⟩
      rw [← hholds.mixins] at hnew ⊢
      exact NameMap.items_put_new (NameMap.contains_eq_false_iff.2 hnew)
    · rw [separate_concat, and_iff_right hkeeps]
      exact and_left_comm
  · intro mixins term hnext
    exact (separate_concat.1 hnext).1

/-- The condition of a model, the mixins of the schema being known. -/
structure ModelTerm.Compiles (mixins : List Mixin) (term : ModelTerm) : Prop where
  applied : ∀ name ∈ term.mixins, nameKey name.text ∈ mixins.map keyOf
  key : term.keyType.Compiles
  members : ∀ member ∈ term.members, member.Compiles

/-- The second pass enters the tables of the models. -/
theorem yields_modelPass {mixins : List Mixin} {db : Database} (hdb : Holds mixins [] db)
    {blocks : List Block} {terms : List ModelTerm}
    (h : List.Forall₂ (fun block term => Reads block (.model term)) blocks terms) :
    Yields (blocks.foldlM compileStep db)
      ((∀ term ∈ terms, term.Compiles mixins) ∧ Separate Table.fields (terms.map (·.table mixins)))
      (Holds mixins (terms.map (·.table mixins))) := by
  have hfold := foldl_concat (fun term : ModelTerm => term.table mixins) [] terms
  rw [List.nil_append] at hfold
  rw [← hfold]
  refine Yields.foldlM (fun tables (term : ModelTerm) => tables ++ [term.table mixins]) (Holds mixins)
    (ModelTerm.Compiles mixins) (Separate Table.fields) ?_ ?_ h ⟨List.nodup_nil, fun _ h => by cases h⟩ hdb
  · intro tables db block term hreads hkeeps hholds
    have hblock : compileBlock db block = .table <$> compileModel db block := by
      rw [compileBlock, hreads.kind]
      rfl
    have hmodel := yields_compileModel db hreads
    rw [hholds.mixins, hholds.tables] at hmodel
    rw [compileStep, hblock]
    refine ((hmodel.map (S := fun definition => definition = .table (term.table mixins) ∧
      keyOf (term.table mixins) ∉ tables.map keyOf) ?_).map ?_).congr ?_
    · rintro _ hcondition rfl
      exact ⟨rfl, hcondition.1⟩
    · rintro _ - ⟨rfl, hnew⟩
      refine ⟨hholds.mixins, ?_⟩
      rw [← hholds.tables] at hnew ⊢
      exact NameMap.items_put_new (NameMap.contains_eq_false_iff.2 hnew)
    · rw [separate_concat, and_iff_right hkeeps]
      constructor
      · rintro ⟨hnew, happlied, hkey, hmembers, hfields⟩
        exact ⟨⟨happlied, hkey, hmembers⟩, hnew, hfields⟩
      · rintro ⟨hterm, hnew, hfields⟩
        exact ⟨hnew, hterm.applied, hterm.key, hterm.members, hfields⟩
  · intro tables term hnext
    exact (separate_concat.1 hnext).1

theorem keys_extend (tables : List Table) (term : ExtensionTerm) :
    (term.extend tables).map keyOf = tables.map keyOf := by
  rw [ExtensionTerm.extend, List.map_map]
  refine List.map_congr_left fun table _ => ?_
  dsimp only [Function.comp]
  split <;> rfl

/-- An extension takes no field away. -/
theorem distinct_of_extend {tables : List Table} {term : ExtensionTerm}
    (h : ∀ table ∈ term.extend tables, Distinct table.fields) : ∀ table ∈ tables, Distinct table.fields := by
  intro table hmem
  have hextended := h _ (List.mem_map_of_mem hmem)
  split at hextended
  · exact ((distinct_settled _).1 hextended).of_append
  · exact hextended

/-- The extended base takes the place of the base. -/
theorem items_putTable_extended {db : Database} {term : ExtensionTerm} {base : Table}
    (hbase : db.table? term.base.text = some base) :
    (db.putTable (settled (withMembers base term.members))).tables.items = term.extend db.tables.items :=
  NameMap.items_put_change (fun table => settled (withMembers table term.members)) hbase rfl

/-- After an extension all fields are distinct if those of the extended table are. -/
theorem distinct_extend_iff {db : Database} {term : ExtensionTerm} {base : Table}
    (hbase : db.table? term.base.text = some base)
    (hdistinct : ∀ table ∈ db.tables.items, Distinct table.fields) :
    Distinct (withMembers base term.members).fields ↔
      ∀ table ∈ term.extend db.tables.items, Distinct table.fields := by
  have hmem := NameMap.mem_of_get? hbase
  have hsame : sameName base.name term.base.text = true := NameMap.sameName_of_get? hbase
  constructor
  · intro hextended table htable
    obtain ⟨old, hold, rfl⟩ := List.mem_map.1 htable
    split
    · rename_i hnamed
      have hold : old = base := NameMap.eq_of_sameName hold hmem (sameName_trans hnamed (sameName_symm hsame))
      rw [hold, distinct_settled]
      exact hextended
    · exact hdistinct old hold
  · intro hall
    have hextended := hall _ (List.mem_map_of_mem hmem)
    rw [if_pos hsame, distinct_settled] at hextended
    exact hextended

/-- The condition of an extension, the names of the tables being known. -/
structure ExtensionTerm.Compiles (keys : List String) (term : ExtensionTerm) : Prop where
  base : nameKey term.base.text ∈ keys
  members : ∀ member ∈ term.members, member.Compiles

/-- An extension puts the extended table in the place of its base. -/
theorem yields_extensionStep {db : Database} {block : Block} {term : ExtensionTerm}
    (hreads : Reads block (.extension term)) (hdistinct : ∀ table ∈ db.tables.items, Distinct table.fields) :
    Yields (compileStep db block)
      (term.Compiles (db.tables.items.map keyOf) ∧ ∀ table ∈ term.extend db.tables.items, Distinct table.fields)
      (Holds db.mixins.items (term.extend db.tables.items)) := by
  have hblock : compileBlock db block = .extended <$> compileExtension db block := by
    rw [compileBlock, hreads.kind]
    rfl
  rw [compileStep, hblock]
  cases hbase : db.table? term.base.text with
  | none =>
      obtain ⟨error, herror⟩ := compileExtension_unknown hreads hbase
      rw [herror]
      refine Yields.error fun hcondition => ?_
      obtain ⟨table, hmem, htable⟩ := List.mem_map.1 hcondition.1.base
      have hother := NameMap.get?_eq_none_iff.1 hbase table hmem
      rw [sameName_iff.2 htable] at hother
      cases hother
  | some base =>
      have hmem := NameMap.mem_of_get? hbase
      have hkey : nameKey term.base.text ∈ db.tables.items.map keyOf :=
        List.mem_map.2 ⟨base, hmem, sameName_iff.1 (NameMap.sameName_of_get? hbase)⟩
      have hextension := yields_compileExtension db hreads hbase (hdistinct base hmem)
      refine ((hextension.map (S := fun definition =>
        definition = .extended (settled (withMembers base term.members))) ?_).map ?_).congr ?_
      · rintro _ - rfl
        rfl
      · rintro _ - rfl
        exact ⟨rfl, items_putTable_extended hbase⟩
      · rw [distinct_extend_iff hbase hdistinct]
        exact and_congr_left' ⟨fun hmembers => ⟨hkey, hmembers⟩, fun hterm => hterm.members⟩

/-- The third pass puts the extended tables in the places of their bases. -/
theorem yields_extensionPass {mixins : List Mixin} {tables : List Table} {db : Database}
    (hdb : Holds mixins tables db) (htables : Separate Table.fields tables)
    {blocks : List Block} {terms : List ExtensionTerm}
    (h : List.Forall₂ (fun block term => Reads block (.extension term)) blocks terms) :
    Yields (blocks.foldlM compileStep db)
      ((∀ term ∈ terms, term.Compiles (tables.map keyOf)) ∧
        (terms.foldl ExtensionTerm.extend tables).map keyOf = tables.map keyOf ∧
        ∀ table ∈ terms.foldl ExtensionTerm.extend tables, Distinct table.fields)
      (Holds mixins (terms.foldl ExtensionTerm.extend tables)) := by
  refine Yields.foldlM ExtensionTerm.extend (Holds mixins) (ExtensionTerm.Compiles (tables.map keyOf))
    (fun extended => extended.map keyOf = tables.map keyOf ∧ ∀ table ∈ extended, Distinct table.fields)
    ?_ ?_ h ⟨rfl, htables.fields⟩ hdb
  · rintro extended db block term hreads ⟨hkeys, hdistinct⟩ ⟨rfl, rfl⟩
    rw [keys_extend, and_iff_right hkeys, ← hkeys]
    exact yields_extensionStep hreads hdistinct
  · intro extended term hnext
    rw [keys_extend] at hnext
    exact ⟨hnext.1, distinct_of_extend hnext.2⟩

end Passes

section Batches

variable {blocks : List BlockTerm}

theorem mem_mixinTerms {term : MixinTerm} : term ∈ mixinTerms blocks ↔ .mixin term ∈ blocks := by
  rw [mixinTerms, List.mem_filterMap]
  constructor
  · rintro ⟨block, hmem, hpick⟩
    cases block <;> cases hpick
    exact hmem
  · exact fun hmem => ⟨_, hmem, rfl⟩

theorem mem_modelTerms {term : ModelTerm} : term ∈ modelTerms blocks ↔ .model term ∈ blocks := by
  rw [modelTerms, List.mem_filterMap]
  constructor
  · rintro ⟨block, hmem, hpick⟩
    cases block <;> cases hpick
    exact hmem
  · exact fun hmem => ⟨_, hmem, rfl⟩

theorem mem_extensionTerms {term : ExtensionTerm} : term ∈ extensionTerms blocks ↔ .extension term ∈ blocks := by
  rw [extensionTerms, List.mem_filterMap]
  constructor
  · rintro ⟨block, hmem, hpick⟩
    cases block <;> cases hpick
    exact hmem
  · exact fun hmem => ⟨_, hmem, rfl⟩

/-- What holds of every block holds of the blocks of each kind. -/
theorem forall_blocks_iff {P : BlockTerm → Prop} :
    (∀ block ∈ blocks, P block) ↔ (∀ term ∈ mixinTerms blocks, P (.mixin term)) ∧
      (∀ term ∈ modelTerms blocks, P (.model term)) ∧
      ∀ term ∈ extensionTerms blocks, P (.extension term) := by
  constructor
  · intro h
    exact ⟨fun term hterm => h _ (mem_mixinTerms.1 hterm), fun term hterm => h _ (mem_modelTerms.1 hterm),
      fun term hterm => h _ (mem_extensionTerms.1 hterm)⟩
  · rintro ⟨hmixins, hmodels, hextensions⟩ block hblock
    cases block with
    | mixin term => exact hmixins term (mem_mixinTerms.2 hblock)
    | model term => exact hmodels term (mem_modelTerms.2 hblock)
    | extension term => exact hextensions term (mem_extensionTerms.2 hblock)

/-- The types of the key and of the members of a block are accepted, and so are its other members. -/
def BlockTerm.Compiles (block : BlockTerm) : Prop :=
  (∀ member ∈ block.members, member.Accepted) ∧
    ∀ type ∈ block.types, ∀ number ∈ type.size.numbers, ReadableNumber number

theorem compiles_of_members {block : BlockTerm} (htypes : block.types = block.members.flatMap (·.types)) :
    block.Compiles ↔ ∀ member ∈ block.members, member.Compiles := by
  simp only [BlockTerm.Compiles, MemberTerm.Compiles, htypes, List.mem_flatMap]
  grind

theorem compiles_model (term : ModelTerm) :
    (BlockTerm.model term).Compiles ∧ term.keyType.Accepted ↔
      term.keyType.Compiles ∧ ∀ member ∈ term.members, member.Compiles := by
  simp only [BlockTerm.Compiles, MemberTerm.Compiles, TypeTerm.Compiles, BlockTerm.types, BlockTerm.members,
    List.mem_append, List.mem_singleton, List.mem_flatMap]
  grind

theorem forall_compiles_iff :
    (∀ block ∈ blocks, block.Compiles) ↔ (∀ block ∈ blocks, ∀ member ∈ block.members, member.Accepted) ∧
      ∀ number ∈ declaredNumbers blocks, ReadableNumber number := by
  simp only [BlockTerm.Compiles, declaredNumbers, List.mem_flatMap]
  grind

theorem keys_foldl_extend (tables : List Table) (terms : List ExtensionTerm) :
    (terms.foldl ExtensionTerm.extend tables).map keyOf = tables.map keyOf := by
  induction terms generalizing tables with
  | nil => rfl
  | cons term terms ih => rw [List.foldl_cons, ih, keys_extend]

theorem distinct_of_foldl_extend {tables : List Table} {terms : List ExtensionTerm}
    (h : ∀ table ∈ terms.foldl ExtensionTerm.extend tables, Distinct table.fields) :
    ∀ table ∈ tables, Distinct table.fields := by
  induction terms generalizing tables with
  | nil => exact h
  | cons term terms ih => exact distinct_of_extend (ih h)

/-- The conditions of the three passes on a batch. -/
structure PassesThrough (blocks : List BlockTerm) : Prop where
  mixins : (∀ term ∈ mixinTerms blocks, ∀ member ∈ term.members, member.Compiles ∧ member.field?.isSome) ∧
    Separate Mixin.fields (mixinsOf blocks)
  models : (∀ term ∈ modelTerms blocks, term.Compiles (mixinsOf blocks)) ∧
    Separate Table.fields ((modelTerms blocks).map (·.table (mixinsOf blocks)))
  extensions : (∀ term ∈ extensionTerms blocks,
      term.Compiles (((modelTerms blocks).map (·.table (mixinsOf blocks))).map keyOf)) ∧
    (tablesOf blocks).map keyOf = ((modelTerms blocks).map (·.table (mixinsOf blocks))).map keyOf ∧
    ∀ table ∈ tablesOf blocks, Distinct table.fields

theorem keys_mixinsOf (blocks : List BlockTerm) :
    (mixinsOf blocks).map keyOf = (mixinTerms blocks).map fun term => nameKey term.name.text := List.map_map

theorem keys_tables (blocks : List BlockTerm) :
    ((modelTerms blocks).map (·.table (mixinsOf blocks))).map keyOf =
      (modelTerms blocks).map fun term => nameKey term.name.text := List.map_map

/-- A batch passes through exactly if it is well formed and all its numbers can be read. -/
theorem passesThrough_iff :
    PassesThrough blocks ↔
      WellFormed blocks ∧ ∀ number ∈ declaredNumbers blocks, ReadableNumber number := by
  constructor
  · rintro ⟨⟨hmixins, hmixinNames⟩, ⟨hmodels, htableNames⟩, hextensions, -, hfields⟩
    have hcompiles : ∀ block ∈ blocks, block.Compiles := forall_blocks_iff.2
      ⟨fun term hterm => (compiles_of_members rfl).2 fun member hmember => (hmixins term hterm member hmember).1,
        fun term hterm => ((compiles_model term).2 ⟨(hmodels term hterm).key, (hmodels term hterm).members⟩).1,
        fun term hterm => (compiles_of_members rfl).2 (hextensions term hterm).members⟩
    obtain ⟨hmembers, hnumbers⟩ := forall_compiles_iff.1 hcompiles
    refine ⟨?_, hnumbers⟩
    exact {
      mixinNames := keys_mixinsOf blocks ▸ hmixinNames.names
      tableNames := keys_tables blocks ▸ htableNames.names
      applied := fun term hterm => keys_mixinsOf blocks ▸ (hmodels term hterm).applied
      bases := fun term hterm => keys_tables blocks ▸ (hextensions term hterm).base
      mixinFields := hmixinNames.fields
      tableFields := hfields
      keyTypes := fun term hterm => (hmodels term hterm).key.1
      members := hmembers
      mixinMembers := fun term hterm member hmember => (hmixins term hterm member hmember).2 }
  · rintro ⟨hformed, hnumbers⟩
    obtain ⟨hmixins, hmodels, hextensions⟩ :=
      forall_blocks_iff.1 (forall_compiles_iff.2 ⟨hformed.members, hnumbers⟩)
    have hmodel : ∀ term ∈ modelTerms blocks, term.keyType.Compiles ∧ ∀ member ∈ term.members, member.Compiles :=
      fun term hterm => (compiles_model term).1 ⟨hmodels term hterm, hformed.keyTypes term hterm⟩
    refine ⟨⟨fun term hterm member hmember => ⟨?_, hformed.mixinMembers term hterm member hmember⟩, ?_⟩,
      ⟨fun term hterm => ⟨?_, (hmodel term hterm).1, (hmodel term hterm).2⟩, ?_⟩,
      fun term hterm => ⟨?_, (compiles_of_members rfl).1 (hextensions term hterm)⟩, keys_foldl_extend _ _,
      hformed.tableFields⟩
    · exact (compiles_of_members rfl).1 (hmixins term hterm) member hmember
    · exact ⟨keys_mixinsOf blocks ▸ hformed.mixinNames, hformed.mixinFields⟩
    · exact keys_mixinsOf blocks ▸ hformed.applied term hterm
    · exact ⟨keys_tables blocks ▸ hformed.tableNames, distinct_of_foldl_extend hformed.tableFields⟩
    · exact keys_tables blocks ▸ hformed.bases term hterm

/-- The three passes over the blocks of a batch. -/
theorem yields_passes {read : List Block} (h : List.Forall₂ Reads read blocks) :
    Yields ((passes read).foldlM compileStep {}) (PassesThrough blocks)
      (Holds (mixinsOf blocks) (tablesOf blocks)) := by
  have hpasses : passes read = read.filter (·.kind == .mixin) ++
      (read.filter (·.kind == .model) ++ read.filter (·.kind == .extension)) := by
    simp [passes]
  simp only [hpasses, List.foldlM_append]
  refine ((yields_mixinPass (forall₂_mixins h)).bind fun _ _ hmixins =>
    (yields_modelPass hmixins (forall₂_models h)).bind fun _ hmodels htables =>
      yields_extensionPass htables hmodels.2 (forall₂_extensions h)).congr ?_
  constructor
  · rintro ⟨hmixins, hmodels, hextensions⟩
    exact ⟨hmixins, hmodels, hextensions⟩
  · rintro ⟨hmixins, hmodels, hextensions⟩
    exact ⟨hmixins, hmodels, hextensions⟩

/-- A printed batch compiles exactly if it passes through, and then to its expansion. -/
theorem compile_of_print (sources : List SourceTerm) :
    ((compile {} (sources.map SourceTerm.print)).error = none ↔
        PassesThrough (sources.flatMap SourceTerm.blocks)) ∧
      ((compile {} (sources.map SourceTerm.print)).error = none →
        Holds (mixinsOf (sources.flatMap SourceTerm.blocks)) (tablesOf (sources.flatMap SourceTerm.blocks))
          (compile {} (sources.map SourceTerm.print)).schema) := by
  obtain ⟨read, hread, hreads⟩ := blocksOf_print sources
  have hyields := yields_passes hreads
  have hcompile : compile {} (sources.map SourceTerm.print) = compileBlocks {} (passes read) := by
    rw [compile, hread]
  rw [foldlM_compileStep] at hyields
  rw [hcompile]
  cases herror : (compileBlocks {} (passes read)).error with
  | none =>
      rw [herror] at hyields
      exact ⟨iff_of_true rfl (hyields.needs _ rfl), fun _ => hyields.result _ rfl⟩
  | some error =>
      rw [herror] at hyields
      refine ⟨iff_of_false (by simp) fun hpasses => ?_, fun h => by cases h⟩
      obtain ⟨db, hdb⟩ := hyields.succeeds hpasses
      cases hdb

/-- Printing and compiling. A batch of models, printed into sources in any way and compiled anew, is
accepted exactly if it is well formed and none of its numbers has more digits than a numeral may have. Then the schema
is the direct expansion of the batch. -/
theorem compile_print (sources : List SourceTerm) :
    ((compile {} (sources.map SourceTerm.print)).error = none ↔
        WellFormed (sources.flatMap SourceTerm.blocks) ∧
          ∀ number ∈ declaredNumbers (sources.flatMap SourceTerm.blocks), number < 10 ^ Text.maxDigits) ∧
      ((compile {} (sources.map SourceTerm.print)).error = none →
        (compile {} (sources.map SourceTerm.print)).schema.mixins.items =
            mixinsOf (sources.flatMap SourceTerm.blocks) ∧
          (compile {} (sources.map SourceTerm.print)).schema.tables.items =
            tablesOf (sources.flatMap SourceTerm.blocks)) := by
  obtain ⟨hiff, hschema⟩ := compile_of_print sources
  exact ⟨hiff.trans passesThrough_iff, fun h => ⟨(hschema h).mixins, (hschema h).tables⟩⟩

/-- A shop: its orders are audited, their lines belong to them, and a third source extends the orders. -/
def shop : List SourceTerm :=
  let name (text : String) (valid : isName text.toList = true) : Identifier := { text, valid }
  let mark (text : String) (valid : (!text.toList.isEmpty && text.toList.all Text.isWord) = true) : Mark :=
    { text, valid }
  let order := name "Order" (by decide +kernel)
  let audited := name "Audited" (by decide +kernel)
  let number := name "Number" (by decide +kernel)
  [{ name := "order.dmd"
     parts := [(.model {
       name := order
       key := some { type := { code := name "long" (by decide +kernel) }, plain := by decide }
       mixins := [audited, audited]
       members := [
         .field {
           type := { code := name "string" (by decide +kernel), size := .precision 40 }
           name := number
           plain := by decide }] }, .joined)] },
   { name := "audit.dmdx"
     parts := [(.mixin {
       name := audited
       members := [.field {
         type := { code := name "datetime" (by decide +kernel) }
         nullable := true
         name := name "ChangedOn" (by decide +kernel)
         plain := by decide }] }, .apart)] },
   { name := "line.dmd"
     parts := [
       (.extension {
         base := order
         members := [
           .index { first := number, marks := [mark "unique" (by decide +kernel)] },
           .attribute (mark "NoIdentity" (by decide +kernel))] }, .joined),
       (.model {
         name := name "OrderLine" (by decide +kernel)
         members := [.relationship { many := true, target := order }] }, .joined)] }]

theorem compile_print_shop :
    WellFormed (shop.flatMap SourceTerm.blocks) ∧
      (∀ number ∈ declaredNumbers (shop.flatMap SourceTerm.blocks), number < 10 ^ Text.maxDigits) ∧
      (compile {} (shop.map SourceTerm.print)).error = none := by
  have hformed : WellFormed (shop.flatMap SourceTerm.blocks) := by decide +kernel
  have hnumbers : ∀ number ∈ declaredNumbers (shop.flatMap SourceTerm.blocks), number < 10 ^ Text.maxDigits := by
    decide +kernel
  exact ⟨hformed, hnumbers, (compile_print shop).1.2 ⟨hformed, hnumbers⟩⟩

/-- A batch whose one size has a digit too many. The type takes no size, so nothing comes of the number. -/
def wide : SourceTerm where
  name := "wide.dmd"
  parts := [(.model {
    name := { text := "Wide", valid := by decide +kernel }
    members := [.field {
      type := { code := { text := "int", valid := by decide +kernel }, size := .precision (10 ^ Text.maxDigits) }
      name := { text := "Size", valid := by decide +kernel }
      plain := by decide }] }, .joined)]

/-- Being well formed is not enough: a number with too many digits is refused. -/
theorem wide_refused : WellFormed wide.blocks ∧ (compile {} [wide.print]).error ≠ none := by
  refine ⟨by decide +kernel, fun hcompiled => ?_⟩
  have hpasses := (compile_of_print [wide]).1.1 hcompiled
  have hmem : 10 ^ Text.maxDigits ∈ declaredNumbers ([wide].flatMap SourceTerm.blocks) := List.mem_cons_self
  exact Nat.lt_irrefl _ ((passesThrough_iff.1 hpasses).2 _ hmem)

end Batches

end SchemaMigrate.Grammar
