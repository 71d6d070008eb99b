import SchemaMigrate.Proofs.Model.Blocks

/-!
Where a block fails. It is rejected for its header, for a name that is taken or unknown, at a line, or when a
mixin is applied. Whatever lines or mixins were taken before that, there is no definition to enter.
-/

namespace SchemaMigrate.Model

variable {db : Database} {block : Block} {error : CompileError}

inductive MixinRejected (db : Database) (block : Block) : CompileError → Prop
  | header (h : readName? block.header = none) :
      MixinRejected db block (.located (block.failure (.malformedHeader .mixin)))
  | taken {name : String} (hname : readName? block.header = some name) (h : (db.mixin? name).isSome = true) :
      MixinRejected db block (.located (block.failure (.duplicateMixin name)))
  | line {name : String} {error : CompileError} (hname : readName? block.header = some name)
      (hfree : db.mixin? name = none) (h : RefusedAt (addToMixin block) { name } block.body error) :
      MixinRejected db block error

inductive ModelRejected (db : Database) (block : Block) : CompileError → Prop
  | header (h : ModelHeader.of? block.header = none) :
      ModelRejected db block (.located (block.failure (.malformedHeader .model)))
  | taken {header : ModelHeader} (hheader : ModelHeader.of? block.header = some header)
      (h : db.hasTable header.name = true) :
      ModelRejected db block (.located (block.failure (.duplicateTable header.name)))
  | unknownMixin {header : ModelHeader} {before after : List String} {name : String}
      (hheader : ModelHeader.of? block.header = some header) (hfree : db.hasTable header.name = false)
      (hnames : header.mixins = before ++ name :: after)
      (hknown : ∀ earlier ∈ before, (db.mixin? earlier).isSome = true) (h : db.mixin? name = none) :
      ModelRejected db block (.located (block.failure (.unknownMixin name)))
  | key {header : ModelHeader} {error : CompileError} (hheader : ModelHeader.of? block.header = some header)
      (hfree : db.hasTable header.name = false) (hknown : ∀ name ∈ header.mixins, (db.mixin? name).isSome = true)
      (h : header.keyField block.failure = .error error) : ModelRejected db block error
  | line {header : ModelHeader} {key : Field} {error : CompileError}
      (hheader : ModelHeader.of? block.header = some header) (hfree : db.hasTable header.name = false)
      (hknown : ∀ name ∈ header.mixins, (db.mixin? name).isSome = true)
      (hkey : header.keyField block.failure = .ok key)
      (h : RefusedAt (addToTable block) (header.start key) block.body error) : ModelRejected db block error
  | application {header : ModelHeader} {mixins : List Mixin} {key : Field} {own : Table} {error : CompileError}
      (hheader : ModelHeader.of? block.header = some header) (hfree : db.hasTable header.name = false)
      (hmixins : List.Forall₂ (fun name mixin => db.mixin? name = some mixin) header.mixins mixins)
      (hkey : header.keyField block.failure = .ok key)
      (hown : block.body.foldlM (addToTable block) (header.start key) = .ok own)
      (h : RefusedAt (applyMixin block) own mixins error) : ModelRejected db block error

inductive ExtensionRejected (db : Database) (block : Block) : CompileError → Prop
  | header (h : readName? block.header = none) :
      ExtensionRejected db block (.located (block.failure (.malformedHeader .extension)))
  | unknownBase {name : String} (hname : readName? block.header = some name) (h : db.table? name = none) :
      ExtensionRejected db block (.located (block.failure (.unknownTable name)))
  | line {name : String} {base : Table} {error : CompileError} (hname : readName? block.header = some name)
      (hbase : db.table? name = some base) (h : RefusedAt (addToTable block) base block.body error) :
      ExtensionRejected db block error

/-- A block is rejected with an error, the schema being as it stands. -/
def Rejected (db : Database) (block : Block) (error : CompileError) : Prop :=
  match block.kind with
  | .mixin => MixinRejected db block error
  | .model => ModelRejected db block error
  | .extension => ExtensionRejected db block error

theorem compileMixin_eq_error_iff : compileMixin db block = .error error ↔ MixinRejected db block error := by
  unfold compileMixin
  constructor
  · intro h
    split at h
    · rename_i name hname
      split at h
      · rename_i htaken
        cases h
        exact .taken hname htaken
      · rename_i hfree
        exact .line hname (by simpa using hfree) (foldlM_eq_error_iff.1 h)
    · rename_i hnone
      cases h
      exact .header (Option.eq_none_iff_forall_ne_some.2 hnone)
  · intro h
    cases h with
    | header h =>
        rw [h]
        rfl
    | taken hname h => simp [hname, h, failed]
    | line hname hfree h => simpa [hname, hfree] using foldlM_eq_error_iff.2 h

/-- The first name that no mixin bears is the one that is told. -/
theorem findMixins_eq_error_iff {names : List String} :
    findMixins db block names = .error error ↔
      ∃ before name after, names = before ++ name :: after ∧
        (∀ earlier ∈ before, (db.mixin? earlier).isSome = true) ∧ db.mixin? name = none ∧
        error = .located (block.failure (.unknownMixin name)) := by
  induction names with
  | nil => exact iff_of_false (fun h => by cases h) not_exists_split_nil
  | cons first names ih =>
      rw [findMixins, exists_split_cons_iff]
      cases hfirst : db.mixin? first with
      | none =>
          constructor
          · intro h
            cases h
            exact .inl ⟨List.forall_mem_nil _, rfl, rfl⟩
          · rintro (⟨-, -, rfl⟩ | ⟨_, _, _, -, hknown, -⟩)
            · rfl
            · have hknown := hknown first List.mem_cons_self
              rw [hfirst] at hknown
              cases hknown
      | some mixin =>
          dsimp only
          rw [bind_eq_error_iff, ih]
          simp only [List.forall_mem_cons, hfirst]
          constructor
          · rintro (⟨before, name, after, hnames, hknown, hnone, herror⟩ | ⟨_, -, h⟩)
            · exact .inr ⟨before, name, after, hnames, ⟨rfl, hknown⟩, hnone, herror⟩
            · cases h
          · rintro (⟨-, hnone, -⟩ | ⟨before, name, after, hnames, ⟨-, hknown⟩, hnone, herror⟩)
            · cases hnone
            · exact .inl ⟨before, name, after, hnames, hknown, hnone, herror⟩

theorem findMixins_eq_ok_of_known {names : List String} (h : ∀ name ∈ names, (db.mixin? name).isSome = true) :
    ∃ mixins, findMixins db block names = .ok mixins := by
  cases hfind : findMixins db block names with
  | ok mixins => exact ⟨mixins, rfl⟩
  | error error =>
      obtain ⟨before, name, after, rfl, -, hnone, -⟩ := findMixins_eq_error_iff.1 hfind
      have := h name (List.mem_append_right _ List.mem_cons_self)
      rw [hnone] at this
      cases this

theorem known_of_findMixins {names : List String} {mixins : List Mixin}
    (h : findMixins db block names = .ok mixins) : ∀ name ∈ names, (db.mixin? name).isSome = true := by
  have hfound := findMixins_eq_ok_iff.1 h
  clear h
  induction hfound with
  | nil => exact fun _ hmem => (by cases hmem)
  | cons hfirst _ ih => exact List.forall_mem_cons.2 ⟨Option.isSome_of_eq_some hfirst, ih⟩

theorem compileModel_eq_error_iff : compileModel db block = .error error ↔ ModelRejected db block error := by
  unfold compileModel
  constructor
  · intro h
    split at h
    · rename_i header hheader
      split at h
      · rename_i htaken
        cases h
        exact .taken hheader htaken
      · rename_i hfree
        have hfree : db.hasTable header.name = false := by simpa using hfree
        rcases bind_eq_error_iff.1 h with h | ⟨mixins, hmixins, h⟩
        · obtain ⟨before, name, after, hnames, hknown, hnone, rfl⟩ := findMixins_eq_error_iff.1 h
          exact .unknownMixin hheader hfree hnames hknown hnone
        have hknown := known_of_findMixins hmixins
        rcases bind_eq_error_iff.1 h with h | ⟨key, hkey, h⟩
        · exact .key hheader hfree hknown h
        rcases bind_eq_error_iff.1 h with h | ⟨own, hown, h⟩
        · exact .line hheader hfree hknown hkey (foldlM_eq_error_iff.1 h)
        rcases bind_eq_error_iff.1 h with h | ⟨whole, -, h⟩
        · exact .application hheader hfree (findMixins_eq_ok_iff.1 hmixins) hkey hown (foldlM_eq_error_iff.1 h)
        · cases h
    · rename_i hnone
      cases h
      exact .header (Option.eq_none_iff_forall_ne_some.2 hnone)
  · intro h
    cases h with
    | header h =>
        rw [h]
        rfl
    | taken hheader h => simp [hheader, h, failed]
    | unknownMixin hheader hfree hnames hknown h =>
        simp only [hheader, hfree]
        exact bind_eq_error_iff.2 (.inl (findMixins_eq_error_iff.2 ⟨_, _, _, hnames, hknown, h, rfl⟩))
    | key hheader hfree hknown h =>
        obtain ⟨mixins, hmixins⟩ := findMixins_eq_ok_of_known hknown
        simp only [hheader, hfree]
        exact bind_eq_error_iff.2 (.inr ⟨mixins, hmixins, bind_eq_error_iff.2 (.inl h)⟩)
    | line hheader hfree hknown hkey h =>
        obtain ⟨mixins, hmixins⟩ := findMixins_eq_ok_of_known hknown
        simp only [hheader, hfree]
        exact bind_eq_error_iff.2 (.inr ⟨mixins, hmixins, bind_eq_error_iff.2 (.inr ⟨_, hkey,
          bind_eq_error_iff.2 (.inl (foldlM_eq_error_iff.2 h))⟩)⟩)
    | application hheader hfree hmixins hkey hown h =>
        simp only [hheader, hfree]
        exact bind_eq_error_iff.2 (.inr ⟨_, findMixins_eq_ok_iff.2 hmixins, bind_eq_error_iff.2 (.inr ⟨_, hkey,
          bind_eq_error_iff.2 (.inr ⟨_, hown, bind_eq_error_iff.2 (.inl (foldlM_eq_error_iff.2 h))⟩)⟩)⟩)

theorem compileExtension_eq_error_iff :
    compileExtension db block = .error error ↔ ExtensionRejected db block error := by
  unfold compileExtension
  constructor
  · intro h
    split at h
    · rename_i name hname
      split at h
      · rename_i base hbase
        rcases bind_eq_error_iff.1 h with h | ⟨_, -, h⟩
        · exact .line hname hbase (foldlM_eq_error_iff.1 h)
        · cases h
      · rename_i hnone
        cases h
        exact .unknownBase hname (Option.eq_none_iff_forall_ne_some.2 hnone)
    · rename_i hnone
      cases h
      exact .header (Option.eq_none_iff_forall_ne_some.2 hnone)
  · intro h
    cases h with
    | header h =>
        rw [h]
        rfl
    | unknownBase hname h => simp [hname, h, failed]
    | line hname hbase h =>
        simp only [hname, hbase]
        exact bind_eq_error_iff.2 (.inl (foldlM_eq_error_iff.2 h))

/-- A block fails exactly if it is rejected. -/
theorem compileBlock_eq_error_iff : compileBlock db block = .error error ↔ Rejected db block error := by
  unfold compileBlock Rejected
  cases block.kind with
  | mixin => exact map_eq_error_iff.trans compileMixin_eq_error_iff
  | model => exact map_eq_error_iff.trans compileModel_eq_error_iff
  | extension => exact map_eq_error_iff.trans compileExtension_eq_error_iff

end SchemaMigrate.Model
