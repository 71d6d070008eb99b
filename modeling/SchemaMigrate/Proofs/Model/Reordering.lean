import Mathlib.Data.List.Perm.Basic
import SchemaMigrate.Proofs.Model.Batch

/-!
Batches in another order. Blocks of one pass that compile in one order compile in every order, and lead to
schemas in which the same names are found. Mixins and models lead to the same ones; of extensions, those of
one table add their fields in the order in which they come. Main statement: whether a batch succeeds does not
depend on the order of its sources, nor does what is found afterwards, as long as the extensions of each
table come in the same order.
-/

namespace SchemaMigrate.Model

/-- Schemas with the same mixins, and with tables of the same names that are related. -/
structure Matches (same : Table → Table → Prop) (db other : Database) : Prop where
  mixins (name : String) : db.mixin? name = other.mixin? name
  known (name : String) : db.hasTable name = other.hasTable name
  tables {name : String} {table : Table} (h : db.table? name = some table) :
    ∃ counterpart, other.table? name = some counterpart ∧ same table counterpart

/-- Tables whose fields have the same names, in any order. -/
def SameKeys (table other : Table) : Prop := (table.fields.map keyOf).Perm (other.fields.map keyOf)

/-- A relation between tables that take the same extensions and stay related. -/
structure Extensible (same : Table → Table → Prop) : Prop where
  refl (table : Table) : same table table
  trans {table middle other : Table} (h : same table middle) (hother : same middle other) : same table other
  fresh {table other : Table} {added : List Field} (h : same table other) (hadded : Fresh table.fields added) :
    Fresh other.fields added
  extended {table other : Table} (h : same table other) (added : Additions) :
    same (extended table added) (extended other added)

variable {same : Table → Table → Prop} {db other reached : Database} {block first second : Block}
  {blocks others : List Block}

section Related

theorem extensible_eq : Extensible Eq where
  refl _ := rfl
  trans h hother := h.trans hother
  fresh h hadded := h ▸ hadded
  extended h _ := h ▸ rfl

theorem keys_extended (table : Table) (added : Additions) :
    (extended table added).fields.map keyOf = table.fields.map keyOf ++ added.fields.map keyOf := by
  rw [extended, keys_finishTable, withAdditions, List.map_append]

theorem extensible_sameKeys : Extensible SameKeys where
  refl _ := .refl _
  trans h hother := h.trans hother
  fresh h hadded := hadded.of_perm h
  extended {table other} h added := by
    rw [SameKeys, keys_extended, keys_extended]
    exact h.append_right _

theorem Matches.refl (hsame : Extensible same) (db : Database) : Matches same db db where
  mixins _ := rfl
  known _ := rfl
  tables {_ table} h := ⟨table, h, hsame.refl table⟩

theorem Matches.trans (hsame : Extensible same) {middle : Database} (h : Matches same db middle)
    (hother : Matches same middle other) : Matches same db other where
  mixins name := (h.mixins name).trans (hother.mixins name)
  known name := (h.known name).trans (hother.known name)
  tables htable := by
    obtain ⟨next, hnext, hrelated⟩ := h.tables htable
    obtain ⟨last, hlast, hfurther⟩ := hother.tables hnext
    exact ⟨last, hlast, hsame.trans hrelated hfurther⟩

/-- Schemas in which the same is found match up to every such relation. -/
theorem Matches.of_eq (hsame : Extensible same) (hmixins : ∀ name, db.mixin? name = other.mixin? name)
    (htables : ∀ name, db.table? name = other.table? name) : Matches same db other where
  mixins := hmixins
  known name := by rw [Database.hasTable_eq_isSome, htables, Database.hasTable_eq_isSome]
  tables {_ table} h := ⟨table, (htables _).symm.trans h, hsame.refl table⟩

/-- In schemas that match up to equality the same tables are found. -/
theorem Matches.table? (h : Matches Eq db other) (name : String) : db.table? name = other.table? name := by
  cases hfound : db.table? name with
  | none =>
      rw [← Database.hasTable_eq_false_iff, h.known, Database.hasTable_eq_false_iff] at hfound
      exact hfound.symm
  | some table =>
      obtain ⟨counterpart, hcounterpart, rfl⟩ := h.tables hfound
      exact hcounterpart.symm

end Related

section Steps

theorem Matches.putMixin (h : Matches same db other) (mixin : Mixin) :
    Matches same (db.putMixin mixin) (other.putMixin mixin) where
  mixins name := by rw [Database.mixin?_putMixin, Database.mixin?_putMixin, h.mixins]
  known := h.known
  tables := h.tables

theorem Matches.putTable (h : Matches same db other) {table counterpart : Table}
    (hname : sameName table.name counterpart.name = true) (hsame : same table counterpart) :
    Matches same (db.putTable table) (other.putTable counterpart) where
  mixins := h.mixins
  known name := by
    rw [Database.hasTable_putTable, Database.hasTable_putTable, sameName_congr_left hname, h.known]
  tables {name found} hfound := by
    rw [Database.table?_putTable, sameName_congr_left hname] at hfound
    rw [Database.table?_putTable]
    split at hfound
    · rename_i hnamed
      cases hfound
      exact ⟨counterpart, if_pos hnamed, hsame⟩
    · rename_i hnamed
      rw [if_neg hnamed]
      exact h.tables hfound

/-- A block compiles against both of two matching schemas, and they match again when it is entered. -/
theorem Matches.commit (hsame : Extensible same) (h : Matches same db other) {definition : Definition}
    (hblock : compileBlock db block = .ok definition) :
    ∃ counterpart, compileBlock other block = .ok counterpart ∧
      Matches same (commit db definition) (commit other counterpart) := by
  cases hkind : block.kind with
  | mixin =>
      obtain ⟨mixin, hmixin, rfl⟩ := (compileBlock_mixin_iff hkind).1 hblock
      rw [compileMixin_congr h.mixins] at hmixin
      exact ⟨_, (compileBlock_mixin_iff hkind).2 ⟨mixin, hmixin, rfl⟩, h.putMixin mixin⟩
  | model =>
      obtain ⟨table, htable, rfl⟩ := (compileBlock_model_iff hkind).1 hblock
      rw [compileModel_congr h.mixins h.known] at htable
      exact ⟨_, (compileBlock_model_iff hkind).2 ⟨table, htable, rfl⟩,
        h.putTable (sameName_refl _) (hsame.refl table)⟩
  | extension =>
      obtain ⟨table, htable, rfl⟩ := (compileBlock_extension_iff hkind).1 hblock
      obtain ⟨name, base, added, hname, hbase, hadded, hfresh, rfl⟩ := compileExtension_eq_ok_iff.1 htable
      obtain ⟨counterpart, hcounterpart, hrelated⟩ := h.tables hbase
      have hextension := compileExtension_eq_ok_iff.2
        ⟨name, counterpart, added, hname, hcounterpart, hadded, hsame.fresh hrelated hfresh, rfl⟩
      have hnames : sameName base.name counterpart.name = true :=
        sameName_trans (Database.sameName_of_table? hbase) (sameName_symm (Database.sameName_of_table? hcounterpart))
      exact ⟨_, (compileBlock_extension_iff hkind).2 ⟨_, hextension, rfl⟩,
        h.putTable hnames (hsame.extended hrelated added)⟩

theorem reaches_congr (hsame : Extensible same) (h : Matches same db other) (hreached : Reaches db blocks reached) :
    ∃ result, Reaches other blocks result ∧ Matches same reached result := by
  induction blocks generalizing db other with
  | nil =>
      rw [reaches_nil_iff] at hreached
      exact ⟨other, reaches_nil_iff.2 rfl, hreached ▸ h⟩
  | cons block blocks ih =>
      obtain ⟨definition, hdefinition, hrest⟩ := reaches_cons_iff.1 hreached
      obtain ⟨counterpart, hcounterpart, hnext⟩ := h.commit hsame hdefinition
      obtain ⟨result, hresult, hmatches⟩ := ih hnext hrest
      exact ⟨result, reaches_cons_iff.2 ⟨counterpart, hcounterpart, hresult⟩, hmatches⟩

end Steps

section Swapping

/-- Two blocks in a row compile in the other order as well, and lead to a matching schema. -/
def Exchanges (same : Table → Table → Prop) (first second : Block) : Prop :=
  ∀ db reached, Reaches db [first, second] reached →
    ∃ result, Reaches db [second, first] result ∧ Matches same reached result

theorem reaches_pair_iff :
    Reaches db [first, second] reached ↔
      ∃ definition next, compileBlock db first = .ok definition ∧
        compileBlock (commit db definition) second = .ok next ∧ reached = commit (commit db definition) next := by
  simp only [reaches_cons_iff, reaches_nil_iff, exists_and_left]

/-- Of two mixins neither needs the other. -/
theorem exchanges_mixins (hfirst : first.kind = .mixin) (hsecond : second.kind = .mixin) :
    Exchanges Eq first second := by
  intro db reached h
  obtain ⟨_, _, hblock, hother, rfl⟩ := reaches_pair_iff.1 h
  obtain ⟨mixin, hmixin, rfl⟩ := (compileBlock_mixin_iff hfirst).1 hblock
  obtain ⟨next, hnext, rfl⟩ := (compileBlock_mixin_iff hsecond).1 hother
  obtain ⟨hapart, hfree⟩ := Database.mixin?_putMixin_eq_none_iff.1 (mixin?_of_compileMixin hnext)
  have hback : (db.putMixin next).mixin? mixin.name = none := by
    refine Database.mixin?_putMixin_eq_none_iff.2 ⟨?_, mixin?_of_compileMixin hmixin⟩
    rw [sameName_comm]
    exact hapart
  have hblock := (compileBlock_mixin_iff hsecond).2 ⟨next, compileMixin_mono hnext hfree, rfl⟩
  have hother := (compileBlock_mixin_iff hfirst).2 ⟨mixin, compileMixin_mono hmixin hback, rfl⟩
  refine ⟨_, reaches_pair_iff.2 ⟨_, _, hblock, hother, rfl⟩, ?_⟩
  refine Matches.of_eq extensible_eq (Database.mixin?_putMixin_putMixin hapart) fun name => ?_
  simp only [Database.table?_putMixin, commit]

/-- Tables of different names are entered in either order. -/
theorem matches_putTable_putTable (hsame : Extensible same) {table next : Table}
    (hapart : sameName table.name next.name = false) :
    Matches same ((db.putTable table).putTable next) ((db.putTable next).putTable table) := by
  refine Matches.of_eq hsame (fun name => ?_) (Database.table?_putTable_putTable hapart)
  simp only [Database.mixin?_putTable]

/-- Of two models neither needs the other. -/
theorem exchanges_models (hfirst : first.kind = .model) (hsecond : second.kind = .model) :
    Exchanges Eq first second := by
  intro db reached h
  obtain ⟨_, _, hblock, hother, rfl⟩ := reaches_pair_iff.1 h
  obtain ⟨table, htable, rfl⟩ := (compileBlock_model_iff hfirst).1 hblock
  obtain ⟨next, hnext, rfl⟩ := (compileBlock_model_iff hsecond).1 hother
  obtain ⟨hapart, hfree⟩ := Database.hasTable_putTable_eq_false_iff.1 (hasTable_of_compileModel hnext)
  have hback : (db.putTable next).hasTable table.name = false := by
    refine Database.hasTable_putTable_eq_false_iff.2 ⟨?_, hasTable_of_compileModel htable⟩
    rw [sameName_comm]
    exact hapart
  exact ⟨_, reaches_pair_iff.2 ⟨.table next, .table table,
    (compileBlock_model_iff hsecond).2 ⟨next, compileModel_mono hnext (fun _ _ h => h) hfree, rfl⟩,
    (compileBlock_model_iff hfirst).2 ⟨table, compileModel_mono htable (fun _ _ h => h) hback, rfl⟩, rfl⟩,
    matches_putTable_putTable extensible_eq hapart⟩

/-- What a table hides is of no account. -/
theorem matches_overwritten (hsame : Extensible same) {table next : Table}
    (hname : sameName table.name next.name = true) :
    Matches same ((db.putTable table).putTable next) (db.putTable next) :=
  Matches.of_eq hsame (fun _ => rfl) (Database.table?_putTable_same hname)

theorem overwritten_matches (hsame : Extensible same) {table next : Table}
    (hname : sameName table.name next.name = true) :
    Matches same (db.putTable next) ((db.putTable table).putTable next) :=
  Matches.of_eq hsame (fun _ => rfl) fun name => (Database.table?_putTable_same hname name).symm

/-- Two extensions of one table can be made in either order. -/
theorem extended_swap {base : Table} {added next : Additions} (h : Fresh base.fields added.fields)
    (hnext : Fresh (extended base added).fields next.fields) :
    Fresh base.fields next.fields ∧ Fresh (extended base next).fields added.fields ∧
      SameKeys (extended (extended base added) next) (extended (extended base next) added) := by
  have hkeys (added : Additions) :
      ((extended base added).fields.map keyOf).Perm ((base.fields ++ added.fields).map keyOf) := by
    rw [keys_extended, List.map_append]
  obtain ⟨hfirst, hsecond⟩ := fresh_append_iff.1 (fresh_append_iff.2 ⟨h, hnext.of_perm (hkeys added)⟩).swap
  refine ⟨hfirst, hsecond.of_perm (hkeys next).symm, ?_⟩
  rw [SameKeys, keys_extended, keys_extended, keys_extended, keys_extended, List.append_assoc, List.append_assoc]
  exact List.perm_append_comm.append_left _

/-- Extensions of different tables do not see each other. -/
theorem exchange_extensions_apart (hfirst : first.kind = .extension) (hsecond : second.kind = .extension)
    {table next : Table} (htable : compileExtension db first = .ok table)
    (hnext : compileExtension (db.putTable table) second = .ok next)
    (hapart : sameName table.name next.name = false) :
    ∃ result, Reaches db [second, first] result ∧ Matches SameKeys ((db.putTable table).putTable next) result := by
  have hbefore : compileExtension db second = .ok next := by
    refine compileExtension_mono hnext fun name base hname hbase => ?_
    rwa [Database.table?_putTable_apart (by rw [← sameName_congr_right hname, hapart])] at hbase
  have hback : compileExtension (db.putTable next) first = .ok table := by
    refine compileExtension_mono htable fun name base hname hbase => ?_
    rwa [Database.table?_putTable_apart (by rw [← sameName_congr_right hname, sameName_comm, hapart])]
  have hblock := (compileBlock_extension_iff hsecond).2 ⟨next, hbefore, rfl⟩
  have hother := (compileBlock_extension_iff hfirst).2 ⟨table, hback, rfl⟩
  exact ⟨_, reaches_pair_iff.2 ⟨_, _, hblock, hother, rfl⟩, matches_putTable_putTable extensible_sameKeys hapart⟩

/-- Extensions of one table add fields that do not get in the way of each other. -/
theorem exchange_extensions_same (hfirst : first.kind = .extension) (hsecond : second.kind = .extension)
    {table next : Table} (htable : compileExtension db first = .ok table)
    (hnext : compileExtension (db.putTable table) second = .ok next)
    (hsame : sameName table.name next.name = true) :
    ∃ result, Reaches db [second, first] result ∧ Matches SameKeys ((db.putTable table).putTable next) result := by
  obtain ⟨name, base, added, hname, hbase, hadded, hfresh, rfl⟩ := compileExtension_eq_ok_iff.1 htable
  obtain ⟨other, taken, more, hother, htaken, hmore, hmoreFresh, rfl⟩ := compileExtension_eq_ok_iff.1 hnext
  have hnamed : sameName base.name name = true := Database.sameName_of_table? hbase
  have hbaseOther : sameName base.name other = true := by
    have htakenNamed := Database.sameName_of_table? htaken
    exact sameName_trans hsame htakenNamed
  -- the second extension finds what the first one made
  rw [Database.table?_putTable, name_extended, if_pos hbaseOther] at htaken
  cases htaken
  obtain ⟨hmoreFirst, haddedSecond, hkeys⟩ := extended_swap hfresh hmoreFresh
  have hfound : db.table? other = some base := by
    rw [← Database.table?_congr hbaseOther, Database.table?_congr hnamed, hbase]
  have hfoundExtended : (db.putTable (extended base more)).table? name = some (extended base more) := by
    rw [Database.table?_putTable, name_extended, if_pos hnamed]
  have hbefore := compileExtension_eq_ok_iff.2 ⟨other, base, more, hother, hfound, hmore, hmoreFirst, rfl⟩
  have hback := compileExtension_eq_ok_iff.2 ⟨name, _, added, hname, hfoundExtended, hadded, haddedSecond, rfl⟩
  have hblock := (compileBlock_extension_iff hsecond).2 ⟨_, hbefore, rfl⟩
  have hlast := (compileBlock_extension_iff hfirst).2 ⟨_, hback, rfl⟩
  refine ⟨_, reaches_pair_iff.2 ⟨_, _, hblock, hlast, rfl⟩, ?_⟩
  -- each of the two last tables hides the one that was stored before it
  have hstored : Matches SameKeys (db.putTable (extended (extended base added) more))
      (db.putTable (extended (extended base more) added)) :=
    (Matches.refl extensible_sameKeys db).putTable (sameName_refl _) hkeys
  exact (matches_overwritten extensible_sameKeys hsame).trans extensible_sameKeys
    (hstored.trans extensible_sameKeys (overwritten_matches extensible_sameKeys (sameName_refl _)))

theorem exchanges_extensions (hfirst : first.kind = .extension) (hsecond : second.kind = .extension) :
    Exchanges SameKeys first second := by
  intro db reached h
  obtain ⟨_, _, hblock, hother, rfl⟩ := reaches_pair_iff.1 h
  obtain ⟨table, htable, rfl⟩ := (compileBlock_extension_iff hfirst).1 hblock
  obtain ⟨next, hnext, rfl⟩ := (compileBlock_extension_iff hsecond).1 hother
  cases hsame : sameName table.name next.name with
  | false => exact exchange_extensions_apart hfirst hsecond htable hnext hsame
  | true => exact exchange_extensions_same hfirst hsecond htable hnext hsame

end Swapping

section Passes

/-- Blocks of which any two can change places compile in every order. -/
theorem reaches_perm (hsame : Extensible same) (hperm : blocks.Perm others)
    (hexchanges : ∀ first ∈ blocks, ∀ second ∈ blocks, Exchanges same first second) (h : Matches same db other)
    (hreached : Reaches db blocks reached) : ∃ result, Reaches other others result ∧ Matches same reached result := by
  -- the two runs start apart, since a swap makes them differ and the rest goes on from there
  induction hperm generalizing db other reached with
  | nil => exact reaches_congr hsame h hreached
  | cons block _ ih =>
      obtain ⟨definition, hdefinition, hrest⟩ := reaches_cons_iff.1 hreached
      obtain ⟨counterpart, hcounterpart, hnext⟩ := h.commit hsame hdefinition
      have hexchanges := fun first hfirst second hsecond =>
        hexchanges first (List.mem_cons_of_mem _ hfirst) second (List.mem_cons_of_mem _ hsecond)
      obtain ⟨result, hresult, hmatches⟩ := ih hexchanges hnext hrest
      exact ⟨result, reaches_cons_iff.2 ⟨counterpart, hcounterpart, hresult⟩, hmatches⟩
  | swap first second rest =>
      have hreached : Reaches db ([second, first] ++ rest) reached := hreached
      obtain ⟨middle, hpair, hrest⟩ := reaches_append_iff.1 hreached
      obtain ⟨swapped, hswapped, hmiddle⟩ := hexchanges second (by simp) first (by simp) db middle hpair
      obtain ⟨counterpart, hcounterpart, hnext⟩ := reaches_congr hsame h hswapped
      obtain ⟨result, hresult, hmatches⟩ := reaches_congr hsame (hmiddle.trans hsame hnext) hrest
      have hrow : Reaches other ([first, second] ++ rest) result :=
        reaches_append_iff.2 ⟨counterpart, hcounterpart, hresult⟩
      exact ⟨result, hrow, hmatches⟩
  | trans hfirst _ ih ihSecond =>
      obtain ⟨middle, hmiddle, hnear⟩ := ih hexchanges (Matches.refl hsame db) hreached
      have hexchanges := fun first hmem second hother =>
        hexchanges first (hfirst.mem_iff.2 hmem) second (hfirst.mem_iff.2 hother)
      obtain ⟨result, hresult, hfar⟩ := ihSecond hexchanges h hmiddle
      exact ⟨result, hresult, hnear.trans hsame hfar⟩

/-- Whether the header of an extension names this table. -/
def Block.extendsTable (block : Block) (name : String) : Bool := (readName? block.header).any (sameName · name)

/-- A table with what a block adds, if the lines of the block are in order. -/
def extend (table : Table) (block : Block) : Table :=
  match additionsOf? block.body with
  | none => table
  | some added => extended table added

/-- What becomes of a table depends on its own extensions alone. -/
theorem table?_of_extensions (hkind : ∀ block ∈ blocks, block.kind = .extension) (h : Reaches db blocks reached)
    (name : String) :
    reached.table? name =
      (db.table? name).map fun table => (blocks.filter (·.extendsTable name)).foldl extend table := by
  induction blocks generalizing db with
  | nil =>
      rw [reaches_nil_iff] at h
      simp [h]
  | cons block blocks ih =>
      obtain ⟨hblock, hothers⟩ := List.forall_mem_cons.1 hkind
      obtain ⟨_, hdefinition, hrest⟩ := reaches_cons_iff.1 h
      obtain ⟨table, htable, rfl⟩ := (compileBlock_extension_iff hblock).1 hdefinition
      obtain ⟨own, base, added, hown, hbase, hadded, -, rfl⟩ := compileExtension_eq_ok_iff.1 htable
      have hnamed : sameName base.name own = true := Database.sameName_of_table? hbase
      have hextends : block.extendsTable name = sameName base.name name := by
        rw [Block.extendsTable, hown, sameName_congr_left hnamed]
        rfl
      rw [ih hothers hrest, commit, Database.table?_putTable, name_extended]
      cases hsame : sameName base.name name with
      | false => rw [if_neg (by decide), List.filter_cons_of_neg (by rw [hextends, hsame]; decide)]
      | true =>
          have hfound : db.table? name = some base := by
            rw [← Database.table?_congr hsame, Database.table?_congr hnamed, hbase]
          rw [if_pos rfl, List.filter_cons_of_pos (by rw [hextends, hsame]), hfound, Option.map_some,
            Option.map_some, List.foldl_cons, extend, hadded]

/-- Blocks that compile in the passes do so from every order in which they may stand. If the extensions of
each table stay in their order, the same is found afterwards. -/
theorem reaches_passes_perm (hperm : blocks.Perm others) (h : Reaches db (passes blocks) reached) :
    ∃ result, Reaches db (passes others) result ∧
      ((∀ name, (blocks.filter (·.kind == .extension)).filter (·.extendsTable name) =
        (others.filter (·.kind == .extension)).filter (·.extendsTable name)) → Matches Eq reached result) := by
  obtain ⟨mixed, modeled, hmixed, hmodeled, hextended⟩ := reaches_passes_iff.1 h
  obtain ⟨mixed', hmixed', hmixins⟩ := reaches_perm extensible_eq (hperm.filter _)
    (fun _ hfirst _ hsecond => exchanges_mixins (kind_of_mem_filter hfirst) (kind_of_mem_filter hsecond))
    (Matches.refl extensible_eq db) hmixed
  obtain ⟨modeled', hmodeled', hmodels⟩ := reaches_perm extensible_eq (hperm.filter _)
    (fun _ hfirst _ hsecond => exchanges_models (kind_of_mem_filter hfirst) (kind_of_mem_filter hsecond))
    hmixins hmodeled
  obtain ⟨result, hresult, hextensions⟩ := reaches_perm extensible_sameKeys (hperm.filter _)
    (fun _ hfirst _ hsecond => exchanges_extensions (kind_of_mem_filter hfirst) (kind_of_mem_filter hsecond))
    (Matches.of_eq extensible_sameKeys hmodels.mixins hmodels.table?) hextended
  refine ⟨result, reaches_passes_iff.2 ⟨mixed', modeled', hmixed', hmodeled', hresult⟩, fun horder => ?_⟩
  refine Matches.of_eq extensible_eq hextensions.mixins fun name => ?_
  rw [table?_of_extensions (fun _ => kind_of_mem_filter) hextended,
    table?_of_extensions (fun _ => kind_of_mem_filter) hresult, horder, hmodels.table?]

end Passes

section Sources

/-- The extensions that a batch brings, in their order. -/
def extensionsOf (sources : List Source) : List Block :=
  match blocksOf sources with
  | .error _ => []
  | .ok blocks => blocks.filter (·.kind == .extension)

theorem extensionsOf_eq {sources : List Source} (h : blocksOf sources = .ok blocks) :
    extensionsOf sources = blocks.filter (·.kind == .extension) := by
  rw [extensionsOf, h]

/-- Each table is extended by the same blocks in the same order. -/
def SameExtensions (sources others : List Source) : Prop :=
  ∀ name, (extensionsOf sources).filter (·.extendsTable name) = (extensionsOf others).filter (·.extendsTable name)

variable {sources reordered : List Source}

theorem blocksOf_perm (hperm : sources.Perm reordered) (h : blocksOf sources = .ok blocks) :
    ∃ rest, blocksOf reordered = .ok rest ∧ blocks.Perm rest := by
  obtain ⟨parts, hparts, rfl⟩ := blocksOf_eq_ok_iff.1 h
  obtain ⟨reorderedParts, hreorderedParts, hpartsPerm⟩ := List.perm_comp_forall₂ hperm.symm hparts
  exact ⟨_, blocksOf_eq_ok_iff.2 ⟨reorderedParts, hreorderedParts, rfl⟩, hpartsPerm.symm.flatten⟩

/-- A batch that succeeds does so with its sources in any other order. -/
theorem compile_perm_succeeds (hperm : sources.Perm reordered) (h : (compile db sources).error = none) :
    (compile db reordered).error = none ∧
      (SameExtensions sources reordered →
        Matches Eq (compile db sources).schema (compile db reordered).schema) := by
  obtain ⟨blocks, hblocks, hreached⟩ := compile_succeeds_iff.1 ⟨h, rfl⟩
  obtain ⟨rest, hrest, hblocksPerm⟩ := blocksOf_perm hperm hblocks
  obtain ⟨result, hresult, hmatches⟩ := reaches_passes_perm hblocksPerm hreached
  obtain ⟨hsucceeds, rfl⟩ := compile_succeeds_iff.2 ⟨rest, hrest, hresult⟩
  refine ⟨hsucceeds, fun horder => hmatches fun name => ?_⟩
  rw [← extensionsOf_eq hblocks, ← extensionsOf_eq hrest, horder]

/-- Whether a batch succeeds does not depend on the order of its sources. Nor do the tables and mixins that
are found afterwards, as long as the extensions of each table come in the same order. -/
theorem compile_perm (db : Database) (hperm : sources.Perm reordered) :
    ((compile db sources).error = none ↔ (compile db reordered).error = none) ∧
      ((compile db sources).error = none → SameExtensions sources reordered →
        (∀ name, (compile db sources).schema.table? name = (compile db reordered).schema.table? name) ∧
          ∀ name, (compile db sources).schema.mixin? name = (compile db reordered).schema.mixin? name) := by
  refine ⟨⟨fun h => (compile_perm_succeeds hperm h).1, fun h => (compile_perm_succeeds hperm.symm h).1⟩, ?_⟩
  intro h horder
  have hmatches := (compile_perm_succeeds hperm h).2 horder
  exact ⟨hmatches.table?, hmatches.mixins⟩

/-- Two extensions, their table and the mixin of the table. -/
def rankFiles : List Source :=
  [{ name := "rank.dmd"
     text := "extends order \x7b\n  int? Rank\n\x7d\n" ++ "extends ORDER \x7b\n  index (Rank)\n\x7d\n" },
   { name := "order.dmd", text := "model Order with Audited \x7b\n  string(40) Number\n\x7d\n" },
   { name := "audited.dmdx", text := "mixin Audited \x7b\n  datetime ChangedOn\n\x7d\n" }]

theorem compile_perm_rank :
    (compile {} rankFiles).error = none ∧ (compile {} rankFiles.reverse).error = none ∧
      ∀ name, (compile {} rankFiles).schema.table? name = (compile {} rankFiles.reverse).schema.table? name := by
  have hextensions : extensionsOf rankFiles = extensionsOf rankFiles.reverse := by decide +kernel
  have hsame : SameExtensions rankFiles rankFiles.reverse := fun name => by rw [hextensions]
  have hperm := compile_perm {} (List.reverse_perm rankFiles).symm
  have hsucceeds : (compile {} rankFiles).error = none := by decide +kernel
  exact ⟨hsucceeds, hperm.1.1 hsucceeds, (hperm.2 hsucceeds hsame).1⟩

end Sources

end SchemaMigrate.Model
