import SchemaMigrate.Proofs.Model.Links

/-!
Growth of a compiled schema. Whatever is compiled on top of a schema, every table of it stays under its
name, starts with the fields it had, and has gained those behind them. The one thing that a field can lose
is the identity of a key: its name and its type stay.

The step of the induction is a block that compiles, so a batch that fails halfway is covered as well.
-/

namespace SchemaMigrate.Model

/-- The schemas that further batches lead to from an old one, whether they succeeded or failed. -/
inductive Grown (old : Database) : Database → Prop
  | same : Grown old old
  | batch {new : Database} (h : Grown old new) (sources : List Source) : Grown old (compile new sources).schema

/-- A field as a later schema has it: as it was, or a key that has given up its identity. -/
inductive Kept (old : Field) : Field → Prop
  | same : Kept old old
  | unnumbered (hkey : old.primaryKey = true) : Kept old { old with identity := false }

/-- The fields of a later version of a table that the table has not. -/
def gained (table grown : Table) : List Field := grown.fields.filter fun field => !table.hasField field.name

/-- A table and a later version of it. -/
structure GrownTable (table grown : Table) : Prop where
  name : grown.name = table.name
  fields : ∃ kept added, grown.fields = kept ++ added ∧ List.Forall₂ Kept table.fields kept

/-- Every table of the old schema is in the new one, in a later version. -/
def Grows (old new : Database) : Prop :=
  ∀ table ∈ old.tables.items, ∃ grown, new.table? table.name = some grown ∧ GrownTable table grown

section Fields

variable {old now later : Field} {table grown last : Table}

theorem Kept.name (h : Kept old now) : now.name = old.name := by cases h <;> rfl

theorem Kept.type (h : Kept old now) : now.type = old.type := by cases h <;> rfl

theorem Kept.primaryKey (h : Kept old now) : now.primaryKey = old.primaryKey := by cases h <;> rfl

theorem Kept.trans (h : Kept old now) (hlater : Kept now later) : Kept old later := by
  cases h with
  | same => exact hlater
  | unnumbered hkey =>
      cases hlater with
      | same => exact .unnumbered hkey
      | unnumbered => exact .unnumbered hkey

/-- To finish a table is to keep its fields. -/
theorem kept_settle (table : Table) (field : Field) : Kept field (settle table field) := by
  unfold settle
  cases hrefused : field.primaryKey && table.hasAttribute noIdentity with
  | false =>
      rw [Bool.not_false, Bool.and_true]
      exact .same
  | true =>
      rw [Bool.not_true, Bool.and_false]
      exact .unnumbered (Bool.and_eq_true_iff.1 hrefused).1

theorem forall₂_kept_refl (fields : List Field) : List.Forall₂ Kept fields fields :=
  List.forall₂_same.2 fun _ _ => .same

theorem forall₂_kept_trans {first second third : List Field} (h : List.Forall₂ Kept first second)
    (hthird : List.Forall₂ Kept second third) : List.Forall₂ Kept first third := by
  induction h generalizing third with
  | nil => exact hthird
  | cons hfield _ ih =>
      obtain ⟨field, rest, hlater, hrest, rfl⟩ := List.forall₂_cons_left_iff.1 hthird
      exact .cons (hfield.trans hlater) (ih hrest)

theorem keys_of_kept {fields kept : List Field} (h : List.Forall₂ Kept fields kept) :
    kept.map keyOf = fields.map keyOf := by
  induction h with
  | nil => rfl
  | cons hfield _ ih =>
      have hkey := congrArg nameKey hfield.name
      rw [List.map_cons, List.map_cons, ih]
      exact congrArg (· :: _) hkey

theorem GrownTable.refl (table : Table) : GrownTable table table where
  name := rfl
  fields := ⟨table.fields, [], (List.append_nil _).symm, forall₂_kept_refl _⟩

theorem GrownTable.trans (h : GrownTable table grown) (hlast : GrownTable grown last) :
    GrownTable table last where
  name := hlast.name.trans h.name
  fields := by
    obtain ⟨kept, added, hfields, hkept⟩ := h.fields
    obtain ⟨all, more, hlastFields, hall⟩ := hlast.fields
    -- what the last version keeps of the middle one is what both keep, and then what the middle one gained
    rw [hfields] at hall
    have hboth := List.forall₂_take kept.length hall
    rw [List.take_left] at hboth
    refine ⟨all.take kept.length, all.drop kept.length ++ more, ?_, forall₂_kept_trans hkept hboth⟩
    rw [← List.append_assoc, List.take_append_drop, hlastFields]

end Fields

section Blocks

variable {old db new : Database} {block : Block} {table grown : Table}

/-- A table with more fields behind its own. -/
theorem grownTable_append (hname : grown.name = table.name) {added : List Field}
    (hfields : grown.fields = table.fields ++ added) : GrownTable table grown where
  name := hname
  fields := ⟨table.fields, added, hfields, forall₂_kept_refl _⟩

theorem grownTable_finish (table : Table) : GrownTable table (finishTable table) where
  name := rfl
  fields := by
    refine ⟨table.fields.map (settle table), [], ?_, ?_⟩
    · rw [fields_finishTable, List.append_nil]
    · rw [List.forall₂_map_right_iff]
      exact List.forall₂_same.2 fun field _ => kept_settle table field

/-- What an extension leaves of its base. -/
theorem grownTable_extended (base : Table) (added : Additions) : GrownTable base (extended base added) := by
  have hadded : GrownTable base (withAdditions base added) := grownTable_append rfl rfl
  exact hadded.trans (grownTable_finish _)

theorem grows_refl (db : Database) : Grows db db := by
  intro table hmem
  exact ⟨table, (Database.table?_eq_some_iff_of_mem hmem).2 rfl, .refl table⟩

/-- A block that compiles takes no table away and no field out of one. -/
theorem Grows.commit (hgrows : Grows old db) {definition : Definition}
    (h : compileBlock db block = .ok definition) : Grows old (commit db definition) := by
  intro table hmem
  obtain ⟨grown, hfound, hgrown⟩ := hgrows table hmem
  cases hkind : block.kind with
  | mixin =>
      obtain ⟨mixin, -, rfl⟩ := (compileBlock_mixin_iff hkind).1 h
      exact ⟨grown, hfound, hgrown⟩
  | model =>
      obtain ⟨added, hadded, rfl⟩ := (compileBlock_model_iff hkind).1 h
      exact ⟨grown, Database.table?_putTable_new (hasTable_of_compileModel hadded) hfound, hgrown⟩
  | extension =>
      obtain ⟨result, hresult, rfl⟩ := (compileBlock_extension_iff hkind).1 h
      obtain ⟨name, base, added, -, hbase, -, -, rfl⟩ := compileExtension_eq_ok_iff.1 hresult
      have hput := Database.table?_putTable db (extended base added) table.name
      cases hsame : sameName base.name table.name with
      | false =>
          rw [name_extended, hsame, if_neg (by decide), hfound] at hput
          exact ⟨grown, hput, hgrown⟩
      | true =>
          -- the base is the table itself as it stands, since both bear its name
          have hknown : db.table? table.name = some base :=
            (Database.table?_eq_some_iff_of_mem (Database.mem_tables_of_table? hbase)).2
              (sameName_iff.1 hsame).symm
          rw [hfound, Option.some.injEq] at hknown
          rw [name_extended, hsame, if_pos rfl] at hput
          exact ⟨_, hput, hgrown.trans (hknown ▸ grownTable_extended base added)⟩

theorem Grown.grows (h : Grown old new) : Grows old new := by
  induction h with
  | same => exact grows_refl old
  | batch _ sources ih =>
      unfold compile
      split
      · exact ih
      · exact compileBlocks_invariant (fun hgrows hblock => hgrows.commit hblock) ih _

/-- What grows out of a compiled schema is compiled. -/
theorem Grown.compiled (h : Grown old new) (hold : Compiled old) : Compiled new := by
  induction h with
  | same => exact hold
  | batch _ sources ih => exact .batch ih sources

end Blocks

section Gains

variable {table grown : Table}

/-- A table has a field of a name if it is the key of one of its names. -/
theorem hasField_iff {name : String} : table.hasField name = true ↔ nameKey name ∈ table.fields.map keyOf := by
  rw [Table.hasField, Table.field?, findNamed?, List.find?_isSome, List.mem_map]
  exact exists_congr fun field => and_congr_right fun _ => sameName_iff

/-- The fields of a later version are the old ones and behind them those that were gained. -/
theorem GrownTable.append_gained (h : GrownTable table grown) (hdistinct : (grown.fields.map keyOf).Nodup) :
    ∃ kept, grown.fields = kept ++ gained table grown ∧ List.Forall₂ Kept table.fields kept := by
  obtain ⟨kept, added, hfields, hkept⟩ := h.fields
  rw [hfields, List.map_append, List.nodup_append', keys_of_kept hkept] at hdistinct
  have hknown : ∀ field ∈ kept, table.hasField field.name = true := by
    intro field hmem
    rw [hasField_iff, ← keys_of_kept hkept]
    exact List.mem_map_of_mem hmem
  have hnew : ∀ field ∈ added, table.hasField field.name = false := by
    intro field hmem
    rw [Bool.eq_false_iff, ne_eq, hasField_iff]
    exact fun hold => hdistinct.2.2 hold (List.mem_map_of_mem hmem)
  have hgained : gained table grown = added := by
    rw [gained, hfields, List.filter_append, List.filter_eq_nil_iff.2, List.nil_append, List.filter_eq_self.2]
    · simpa using hnew
    · simpa using hknown
  exact ⟨kept, hgained.symm ▸ hfields, hkept⟩

end Gains

end SchemaMigrate.Model
