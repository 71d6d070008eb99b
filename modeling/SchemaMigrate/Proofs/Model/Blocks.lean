import SchemaMigrate.Proofs.Model.Additions

/-!
What a block needs of the schema and what it defines. A mixin needs its name, a model its name and its
mixins, an extension its base; nothing else of the schema is looked at.
-/

namespace SchemaMigrate.Model

variable {db : Database} {block : Block}

section Finishing

variable (table : Table)

/-- A field of a table that is finished. A key gives up its identity if the table asks for that. -/
def settle (field : Field) : Field :=
  { field with identity := field.identity && !(field.primaryKey && table.hasAttribute noIdentity) }

theorem fields_finishTable : (finishTable table).fields = table.fields.map (settle table) := by
  have hfield (field : Field) : settle table field =
      if table.hasAttribute noIdentity then if field.primaryKey then { field with identity := false } else field
      else field := by
    obtain ⟨name, type, nullable, optional, primaryKey, identity, attributes⟩ := field
    cases hrefused : table.hasAttribute noIdentity with
    | false => simp [settle, hrefused]
    | true => cases primaryKey <;> simp [settle, hrefused]
  simp only [finishTable, Table.resolveIndexes, funext hfield]
  cases table.hasAttribute noIdentity with
  | false => simp
  | true => simp

/-- To finish a table is to change no name. -/
theorem keys_finishTable : (finishTable table).fields.map keyOf = table.fields.map keyOf := by
  rw [fields_finishTable, List.map_map]
  rfl

end Finishing

section Mixins

/-- A mixin is defined if its name is free and its body adds fields and foreign keys only. -/
theorem compileMixin_eq_ok_iff {mixin : Mixin} :
    compileMixin db block = .ok mixin ↔
      ∃ name added, readName? block.header = some name ∧ db.mixin? name = none ∧
        additionsOf? block.body = some added ∧ (added.indexes = [] ∧ added.attributes = []) ∧
        Fresh [] added.fields ∧ mixin = mixinAdditions { name } added := by
  unfold compileMixin
  cases readName? block.header with
  | none => exact ⟨fun h => (by cases h), fun ⟨_, _, h, _⟩ => (by cases h)⟩
  | some name =>
      cases hknown : db.mixin? name with
      | some other => simp [failed, hknown]
      | none => simp [hknown, mixinLines_eq_ok_iff]

end Mixins

section Models

/-- The table that a model starts with, which has its key alone. -/
def ModelHeader.start (header : ModelHeader) (key : Field) : Table :=
  { name := header.name, fields := [key] }

/-- A table with what a mixin brings behind its own. -/
def mixinApplied (table : Table) (mixin : Mixin) : Table :=
  { table with
    fields := table.fields ++ mixin.fields
    foreignKeys := table.foreignKeys ++ mixin.foreignKeys
    mixins := table.mixins ++ [mixin.name] }

/-- A table and what it becomes as it takes mixins of the schema, each of which is new to it. -/
inductive Mixed (db : Database) (start : Table) : Table → Prop
  | bare : Mixed db start start
  | take {draft : Table} {mixin : Mixin} (h : Mixed db start draft) (hmem : mixin ∈ db.mixins.items)
      (hnew : hasName draft.mixins mixin.name = false) (hfresh : Fresh draft.fields mixin.fields) :
      Mixed db start (mixinApplied draft mixin)

theorem findMixins_eq_ok_iff {names : List String} {mixins : List Mixin} :
    findMixins db block names = .ok mixins ↔
      List.Forall₂ (fun name mixin => db.mixin? name = some mixin) names mixins := by
  induction names generalizing mixins with
  | nil =>
      rw [findMixins, ok_eq_ok_iff, List.forall₂_nil_left_iff]
  | cons name names ih =>
      rw [findMixins, List.forall₂_cons_left_iff]
      cases hfound : db.mixin? name with
      | none => simp [failed]
      | some first =>
          simp only [bind_eq_ok_iff, ok_eq_ok_iff, ih, Option.some.injEq, exists_eq_left', exists_and_left]

/-- A mixin is applied once, and then its fields must be new. -/
theorem applyMixin_eq_ok_iff {table result : Table} {mixin : Mixin} :
    applyMixin block table mixin = .ok result ↔
      hasName table.mixins mixin.name = true ∧ result = table ∨
        hasName table.mixins mixin.name = false ∧ Fresh table.fields mixin.fields ∧
          result = mixinApplied table mixin := by
  unfold applyMixin
  cases hknown : hasName table.mixins mixin.name with
  | true =>
      rw [if_pos rfl, ok_eq_ok_iff]
      simp
  | false =>
      rw [if_neg (by decide)]
      simp only [bind_eq_ok_iff, appendFields_eq_ok_iff, ok_eq_ok_iff]
      simp [mixinApplied]

theorem mixed_of_applyMixins {start whole : Table} {mixins : List Mixin}
    (hmixins : ∀ mixin ∈ mixins, mixin ∈ db.mixins.items)
    (h : mixins.foldlM (applyMixin block) start = .ok whole) : Mixed db start whole := by
  refine foldlM_invariant (Mixed db start) (fun draft mixin next hmem hdraft hstep => ?_) .bare h
  rcases applyMixin_eq_ok_iff.1 hstep with ⟨-, rfl⟩ | ⟨hnew, hfresh, rfl⟩
  · exact hdraft
  · exact .take hdraft (hmixins mixin hmem) hnew hfresh

/-- A model is defined if its name is free, its mixins are known, its key has a type, and the fields of its
body and of its mixins are new one after the other. -/
theorem compileModel_eq_ok_iff {table : Table} :
    compileModel db block = .ok table ↔
      ∃ header mixins key added whole, ModelHeader.of? block.header = some header ∧
        db.hasTable header.name = false ∧
        List.Forall₂ (fun name mixin => db.mixin? name = some mixin) header.mixins mixins ∧
        header.keyField block.failure = .ok key ∧ additionsOf? block.body = some added ∧
        Fresh [key] added.fields ∧
        mixins.foldlM (applyMixin block) (withAdditions (header.start key) added) = .ok whole ∧
        table = finishTable whole := by
  unfold compileModel
  cases hheader : ModelHeader.of? block.header with
  | none => exact ⟨fun h => (by cases h), fun ⟨_, _, _, _, _, h, _⟩ => (by cases h)⟩
  | some header =>
      cases hknown : db.hasTable header.name with
      | true => simp [failed, hknown]
      | false =>
          dsimp only
          rw [hknown, if_neg (by decide)]
          constructor
          · intro h
            obtain ⟨mixins, hmixins, h⟩ := bind_eq_ok h
            obtain ⟨key, hkey, h⟩ := bind_eq_ok h
            obtain ⟨own, hown, hrest⟩ := bind_eq_ok h
            obtain ⟨whole, hwhole, htable⟩ := bind_eq_ok hrest
            obtain ⟨added, hadded, hfresh, rfl⟩ := tableLines_eq_ok_iff.1 hown
            exact ⟨header, mixins, key, added, whole, rfl, hknown, findMixins_eq_ok_iff.1 hmixins, hkey, hadded,
              hfresh, hwhole, ok_eq_ok_iff.1 htable⟩
          · rintro ⟨_, mixins, key, added, whole, hsame, -, hmixins, hkey, hadded, hfresh, hwhole, htable⟩
            cases hsame
            exact bind_eq_ok_iff.2 ⟨mixins, findMixins_eq_ok_iff.2 hmixins, bind_eq_ok_iff.2 ⟨key, hkey,
              bind_eq_ok_iff.2 ⟨_, tableLines_eq_ok_iff.2 ⟨added, hadded, hfresh, rfl⟩,
                bind_eq_ok_iff.2 ⟨whole, hwhole, ok_eq_ok_iff.2 htable⟩⟩⟩⟩

/-- The table of a model starts with its key and its lines, takes mixins, and is finished then. -/
theorem mixed_of_compileModel {table : Table} (h : compileModel db block = .ok table) :
    ∃ header key added whole, ModelHeader.of? block.header = some header ∧
      header.keyField block.failure = .ok key ∧ additionsOf? block.body = some added ∧ Fresh [key] added.fields ∧
      Mixed db (withAdditions (header.start key) added) whole ∧ table = finishTable whole := by
  obtain ⟨header, mixins, key, added, whole, hheader, -, hfound, hkey, hadded, hfresh, hwhole, htable⟩ :=
    compileModel_eq_ok_iff.1 h
  have hmixins : ∀ mixin ∈ mixins, mixin ∈ db.mixins.items := by
    intro mixin hmem
    obtain ⟨name, -, hname⟩ := exists_of_forall₂ hfound hmem
    exact Database.mem_mixins_of_mixin? hname
  exact ⟨header, key, added, whole, hheader, hkey, hadded, hfresh, mixed_of_applyMixins hmixins hwhole, htable⟩

end Models

section Extensions

/-- A base with the additions of an extension. -/
def extended (base : Table) (added : Additions) : Table := finishTable (withAdditions base added)

@[simp] theorem name_extended (base : Table) (added : Additions) : (extended base added).name = base.name := rfl

/-- An extension is defined if its base is known and the fields of its body are new there. -/
theorem compileExtension_eq_ok_iff {table : Table} :
    compileExtension db block = .ok table ↔
      ∃ name base added, readName? block.header = some name ∧ db.table? name = some base ∧
        additionsOf? block.body = some added ∧ Fresh base.fields added.fields ∧
        table = extended base added := by
  unfold compileExtension
  cases readName? block.header with
  | none => exact ⟨fun h => (by cases h), fun ⟨_, _, _, h, _⟩ => (by cases h)⟩
  | some name =>
      cases hbase : db.table? name with
      | none => simp [failed, hbase]
      | some base =>
          dsimp only
          rw [hbase]
          constructor
          · intro h
            obtain ⟨whole, hwhole, h⟩ := bind_eq_ok h
            obtain ⟨added, hadded, hfresh, rfl⟩ := tableLines_eq_ok_iff.1 hwhole
            exact ⟨name, base, added, rfl, hbase, hadded, hfresh, ok_eq_ok_iff.1 h⟩
          · rintro ⟨_, other, added, hsame, hother, hadded, hfresh, htable⟩
            cases hsame
            rw [hbase] at hother
            cases hother
            exact bind_eq_ok_iff.2 ⟨withAdditions base added,
              tableLines_eq_ok_iff.2 ⟨added, hadded, hfresh, rfl⟩, ok_eq_ok_iff.2 htable⟩

end Extensions

section Names

variable {table : Table} {mixin : Mixin}

/-- A mixin has a name that was free. -/
theorem mixin?_of_compileMixin (h : compileMixin db block = .ok mixin) : db.mixin? mixin.name = none := by
  obtain ⟨name, added, -, hfree, -, -, -, rfl⟩ := compileMixin_eq_ok_iff.1 h
  exact hfree

theorem Mixed.name {start whole : Table} (h : Mixed db start whole) : whole.name = start.name := by
  induction h with
  | bare => rfl
  | take _ _ _ _ ih => exact ih

/-- The table of a model has the name in its header. -/
theorem name_of_compileModel {header : ModelHeader} (hheader : ModelHeader.of? block.header = some header)
    (h : compileModel db block = .ok table) : table.name = header.name := by
  obtain ⟨other, key, added, whole, hother, -, -, -, hmixed, rfl⟩ := mixed_of_compileModel h
  rw [hheader] at hother
  cases hother
  exact hmixed.name

/-- A model has a name that was free. -/
theorem hasTable_of_compileModel (h : compileModel db block = .ok table) : db.hasTable table.name = false := by
  obtain ⟨header, mixins, key, added, whole, hheader, hfree, -⟩ := compileModel_eq_ok_iff.1 h
  rw [name_of_compileModel hheader h]
  exact hfree

/-- An extension has the name of its base. -/
theorem hasTable_of_compileExtension (h : compileExtension db block = .ok table) :
    db.hasTable table.name = true := by
  obtain ⟨name, base, added, -, hbase, -, -, rfl⟩ := compileExtension_eq_ok_iff.1 h
  have hknown : db.hasTable base.name = true := Database.hasTable_of_table? hbase
  exact hknown

end Names

section Looking

variable {other : Database}

/-- A mixin looks at the mixins alone. -/
theorem compileMixin_congr (h : ∀ name, db.mixin? name = other.mixin? name) :
    compileMixin db block = compileMixin other block := by
  unfold compileMixin
  simp only [h]

theorem findMixins_congr (h : ∀ name, db.mixin? name = other.mixin? name) (names : List String) :
    findMixins db block names = findMixins other block names := by
  induction names with
  | nil => rfl
  | cons name names ih => rw [findMixins, findMixins, h, ih]

/-- A model looks at the mixins and at which names of tables are taken. -/
theorem compileModel_congr (hmixins : ∀ name, db.mixin? name = other.mixin? name)
    (htables : ∀ name, db.hasTable name = other.hasTable name) :
    compileModel db block = compileModel other block := by
  unfold compileModel
  simp only [htables, findMixins_congr hmixins]

/-- A mixin is the same wherever its name is free. -/
theorem compileMixin_mono {mixin : Mixin} (h : compileMixin db block = .ok mixin)
    (hfree : other.mixin? mixin.name = none) : compileMixin other block = .ok mixin := by
  obtain ⟨name, added, hname, -, hadded, hplain, hfresh, rfl⟩ := compileMixin_eq_ok_iff.1 h
  have hfree : other.mixin? name = none := hfree
  exact compileMixin_eq_ok_iff.2 ⟨name, added, hname, hfree, hadded, hplain, hfresh, rfl⟩

/-- A model is the same wherever its name is free and its mixins are found. -/
theorem compileModel_mono {table : Table} (h : compileModel db block = .ok table)
    (hmixins : ∀ name mixin, db.mixin? name = some mixin → other.mixin? name = some mixin)
    (hfree : other.hasTable table.name = false) : compileModel other block = .ok table := by
  obtain ⟨header, mixins, key, added, whole, hheader, -, hfound, hrest⟩ := compileModel_eq_ok_iff.1 h
  rw [name_of_compileModel hheader h] at hfree
  exact compileModel_eq_ok_iff.2 ⟨header, mixins, key, added, whole, hheader, hfree, hfound.imp hmixins, hrest⟩

/-- An extension looks at the tables alone. -/
theorem compileExtension_congr (h : ∀ name, db.table? name = other.table? name) :
    compileExtension db block = compileExtension other block := by
  unfold compileExtension
  simp only [h]

/-- An extension is the same wherever its base is found. -/
theorem compileExtension_mono {table : Table} (h : compileExtension db block = .ok table)
    (htables : ∀ name base, sameName table.name name = true → db.table? name = some base →
      other.table? name = some base) : compileExtension other block = .ok table := by
  obtain ⟨name, base, added, hname, hbase, hadded, hfresh, rfl⟩ := compileExtension_eq_ok_iff.1 h
  have hnamed : sameName base.name name = true := Database.sameName_of_table? hbase
  have hfound : other.table? name = some base := htables name base hnamed hbase
  exact compileExtension_eq_ok_iff.2 ⟨name, base, added, hname, hfound, hadded, hfresh, rfl⟩

end Looking

section Kinds

variable {definition : Definition}

theorem compileBlock_mixin_iff (hkind : block.kind = .mixin) :
    compileBlock db block = .ok definition ↔
      ∃ mixin, compileMixin db block = .ok mixin ∧ .mixin mixin = definition := by
  rw [compileBlock, hkind]
  exact map_eq_ok_iff

theorem compileBlock_model_iff (hkind : block.kind = .model) :
    compileBlock db block = .ok definition ↔
      ∃ table, compileModel db block = .ok table ∧ .table table = definition := by
  rw [compileBlock, hkind]
  exact map_eq_ok_iff

theorem compileBlock_extension_iff (hkind : block.kind = .extension) :
    compileBlock db block = .ok definition ↔
      ∃ table, compileExtension db block = .ok table ∧ .extended table = definition := by
  rw [compileBlock, hkind]
  exact map_eq_ok_iff

/-- What holds of the tables of a schema, and of every table that a block compiles to, holds of the tables with that
of the block. -/
theorem forall_tables_commit {P : Table → Prop} (hdb : ∀ table ∈ db.tables.items, P table)
    (hmodel : ∀ table, block.kind = .model → compileModel db block = .ok table → P table)
    (hextension : ∀ table, compileExtension db block = .ok table → P table)
    (h : compileBlock db block = .ok definition) : ∀ table ∈ (commit db definition).tables.items, P table := by
  have hput {table : Table} (htable : P table) : ∀ other ∈ (db.putTable table).tables.items, P other := by
    intro other hmem
    rcases Database.mem_tables_putTable_iff.1 hmem with rfl | ⟨hmem, -⟩
    · exact htable
    · exact hdb other hmem
  cases hkind : block.kind with
  | mixin =>
      obtain ⟨mixin, -, rfl⟩ := (compileBlock_mixin_iff hkind).1 h
      exact hdb
  | model =>
      obtain ⟨table, htable, rfl⟩ := (compileBlock_model_iff hkind).1 h
      exact hput (hmodel table hkind htable)
  | extension =>
      obtain ⟨table, htable, rfl⟩ := (compileBlock_extension_iff hkind).1 h
      exact hput (hextension table htable)

/-- What holds of the mixins of a schema, and of every mixin that a block compiles to, holds of the mixins with that
of the block. -/
theorem forall_mixins_commit {P : Mixin → Prop} (hdb : ∀ mixin ∈ db.mixins.items, P mixin)
    (hmixin : ∀ mixin, compileMixin db block = .ok mixin → P mixin)
    (h : compileBlock db block = .ok definition) : ∀ mixin ∈ (commit db definition).mixins.items, P mixin := by
  cases hkind : block.kind with
  | mixin =>
      obtain ⟨mixin, hcompiled, rfl⟩ := (compileBlock_mixin_iff hkind).1 h
      intro other hmem
      rcases Database.mem_mixins_putMixin_iff.1 hmem with rfl | ⟨hmem, -⟩
      · exact hmixin other hcompiled
      · exact hdb other hmem
  | model =>
      obtain ⟨table, -, rfl⟩ := (compileBlock_model_iff hkind).1 h
      exact hdb
  | extension =>
      obtain ⟨table, -, rfl⟩ := (compileBlock_extension_iff hkind).1 h
      exact hdb

end Kinds

end SchemaMigrate.Model
