import SchemaMigrate.Proofs.Model.Blocks

/-!
What holds of every compiled schema. Its tables start with their key, all names of fields differ, foreign
keys and indexes are over columns, and a table has all that its mixins have. Main statement: every schema
that is compiled batch by batch is so built, even if some of the batches failed.
-/

namespace SchemaMigrate.Model

section Form

/-- A foreign key stands on a field of the same owner, which was made for it. -/
def StandsOn (foreignKey : ForeignKey) (fields : List Field) : Prop :=
  ∃ field ∈ fields, field.name = foreignKey.column ∧ field.type = { name := "integer" } ∧
    field.nullable = foreignKey.nullable

/-- The fields and foreign keys of a table or a mixin fit together. -/
structure Fitting (fields : List Field) (foreignKeys : List ForeignKey) : Prop where
  fieldsDistinct : (fields.map fun field => nameKey field.name).Nodup
  columns : ∀ foreignKey ∈ foreignKeys, StandsOn foreignKey fields
  columnsDistinct : (foreignKeys.map fun foreignKey => nameKey foreignKey.column).Nodup
  columnsNamed : ∀ foreignKey ∈ foreignKeys, Text.trimmed foreignKey.column ≠ ""

/-- Neither a key nor numbered. -/
def Plain (fields : List Field) : Prop := ∀ field ∈ fields, field.primaryKey = false ∧ field.identity = false

/-- The fields of a table are its key, which bears the name of the table, and some plain fields. -/
structure HeadedBy (table : Table) (key : Field) (others : List Field) : Prop where
  fields : table.fields = key :: others
  primaryKey : key.primaryKey = true
  name : key.name = table.name ++ "ID"
  nullable : key.nullable = false
  others : Plain others

/-- An index over some columns that have names. An alternate key is unique. -/
structure Usable (index : Index) : Prop where
  fields : index.fields ≠ []
  named : ∀ column ∈ index.fields, Text.trimmed column ≠ ""
  unique : index.alternateKey = true → index.unique = true

/-- A table holds all that a registered mixin brings. -/
def Holds (db : Database) (table : Table) (name : String) : Prop :=
  ∃ mixin, db.mixin? name = some mixin ∧ mixin.fields ⊆ table.fields ∧ mixin.foreignKeys ⊆ table.foreignKeys

/-- A table as it is at any time of its compilation. -/
structure Drafted (db : Database) (table : Table) : Prop where
  fitting : Fitting table.fields table.foreignKeys
  key : ∃ key others, HeadedBy table key others
  mixinsDistinct : (table.mixins.map nameKey).Nodup
  mixins : ∀ name ∈ table.mixins, Holds db table name
  indexes : ∀ index ∈ table.indexes, Usable index

/-- A table that is finished: its key numbers itself if it is an integer and the table does not refuse. -/
structure WellBuiltTable (db : Database) (table : Table) : Prop extends Drafted db table where
  identity : ∀ field ∈ table.fields, field.primaryKey = true →
    (field.identity = true ↔ field.family? = some .integer ∧ table.hasAttribute noIdentity = false)

structure WellBuiltMixin (mixin : Mixin) : Prop where
  fitting : Fitting mixin.fields mixin.foreignKeys
  plain : Plain mixin.fields

/-- A schema whose tables and mixins are well built, and are found under their own names alone. -/
structure WellBuilt (db : Database) : Prop where
  tables : ∀ table ∈ db.tables.items, WellBuiltTable db table
  mixins : ∀ mixin ∈ db.mixins.items, WellBuiltMixin mixin
  tablesFound : ∀ table ∈ db.tables.items, ∀ name,
    db.table? name = some table ↔ nameKey name = nameKey table.name
  mixinsFound : ∀ mixin ∈ db.mixins.items, ∀ name,
    db.mixin? name = some mixin ↔ nameKey name = nameKey mixin.name

end Form

section Fields

variable {fields added : List Field} {foreignKeys more : List ForeignKey} {foreignKey : ForeignKey}

theorem StandsOn.mono (h : StandsOn foreignKey fields) (hsub : fields ⊆ added) : StandsOn foreignKey added := by
  obtain ⟨field, hmem, hfield⟩ := h
  exact ⟨field, hsub hmem, hfield⟩

/-- The column of a foreign key is among the names of the fields. -/
theorem StandsOn.key_mem (h : StandsOn foreignKey fields) : nameKey foreignKey.column ∈ fields.map keyOf := by
  obtain ⟨field, hmem, hname, -⟩ := h
  exact List.mem_map.2 ⟨field, hmem, congrArg nameKey hname⟩

theorem Plain.append (h : Plain fields) (hadded : Plain added) : Plain (fields ++ added) :=
  List.forall_mem_append.2 ⟨h, hadded⟩

theorem fitting_nil : Fitting [] [] where
  fieldsDistinct := List.nodup_nil
  columns _ hmem := by cases hmem
  columnsDistinct := List.nodup_nil
  columnsNamed _ hmem := by cases hmem

theorem fitting_field (field : Field) : Fitting [field] [] where
  fieldsDistinct := List.nodup_singleton _
  columns _ hmem := by cases hmem
  columnsDistinct := List.nodup_nil
  columnsNamed _ hmem := by cases hmem

/-- Fields of new names are added with their foreign keys. -/
theorem Fitting.append (h : Fitting fields foreignKeys) (hadded : Fitting added more)
    (hapart : (fields.map keyOf).Disjoint (added.map keyOf)) : Fitting (fields ++ added) (foreignKeys ++ more) where
  fieldsDistinct := by
    rw [List.map_append, List.nodup_append']
    exact ⟨h.fieldsDistinct, hadded.fieldsDistinct, hapart⟩
  columns foreignKey hmem := by
    rcases List.mem_append.1 hmem with hmem | hmem
    · exact (h.columns foreignKey hmem).mono (List.subset_append_left _ _)
    · exact (hadded.columns foreignKey hmem).mono (List.subset_append_right _ _)
  columnsDistinct := by
    rw [List.map_append, List.nodup_append']
    -- a column of either side is the name of a field of that side, and the names of the sides differ
    refine ⟨h.columnsDistinct, hadded.columnsDistinct, fun key hkey hother => ?_⟩
    obtain ⟨foreignKey, hmem, rfl⟩ := List.mem_map.1 hkey
    obtain ⟨other, hotherMem, hsame⟩ := List.mem_map.1 hother
    have hcolumn := (hadded.columns other hotherMem).key_mem
    rw [hsame] at hcolumn
    exact hapart (h.columns foreignKey hmem).key_mem hcolumn
  columnsNamed foreignKey hmem := by
    rcases List.mem_append.1 hmem with hmem | hmem
    · exact h.columnsNamed foreignKey hmem
    · exact hadded.columnsNamed foreignKey hmem

end Fields

section Lines

variable {line : Line} {lines : List Line} {added : Additions}

theorem fitting_relationship (relationship : RelationshipLine) :
    Fitting [relationship.field] [relationship.foreignKey] where
  fieldsDistinct := List.nodup_singleton _
  columns foreignKey hmem := by
    rw [List.mem_singleton] at hmem
    exact hmem ▸ ⟨relationship.field, List.mem_singleton_self _, rfl, rfl, rfl⟩
  columnsDistinct := List.nodup_singleton _
  columnsNamed foreignKey hmem := by
    rw [List.mem_singleton] at hmem
    rw [hmem]
    refine Text.trimmed_ne_empty (c := 'D') ?_ (by decide)
    simp [RelationshipLine.foreignKey, RelationshipLine.column]

theorem fitting_of_line (h : line.additions? = some added) : Fitting added.fields added.foreignKeys := by
  cases adds_of_additions? h with
  | index => exact fitting_nil
  | flag => exact fitting_nil
  | relationship => exact fitting_relationship _
  | field => exact fitting_field _

theorem plain_fieldLine {fieldLine : FieldLine} {place : Fault → Failure} {field : Field}
    (h : fieldLine.field place = .ok field) : field.primaryKey = false ∧ field.identity = false := by
  obtain ⟨type, -, hfield⟩ := bind_eq_ok h
  cases hfield
  exact ⟨rfl, rfl⟩

theorem plain_of_line (h : line.additions? = some added) : Plain added.fields := by
  cases adds_of_additions? h with
  | index => exact List.forall_mem_nil _
  | flag => exact List.forall_mem_nil _
  | relationship => exact List.forall_mem_singleton.2 ⟨rfl, rfl⟩
  | field _ hfield => exact List.forall_mem_singleton.2 (plain_fieldLine hfield)

theorem tokensOf_ne_nil (text : List Char) : tokensOf text ≠ [] := by
  simp only [tokensOf, ne_eq, List.map_eq_nil_iff]
  exact Text.splitOnChar_ne_nil ',' text

theorem trimmed_token {text : List Char} {token : String} (hmem : token ∈ tokensOf text)
    (h : token.isEmpty = false) : Text.trimmed token ≠ "" := by
  obtain ⟨part, -, rfl⟩ := List.mem_map.1 hmem
  have hpart : Text.trim part ≠ [] := by
    intro hnil
    rw [hnil] at h
    cases h
  obtain ⟨c, hc, hblank⟩ := Text.exists_not_blank_of_trim hpart
  exact Text.trimmed_ne_empty (by rwa [String.toList_ofList]) hblank

theorem usable_indexOf {text : List Char} {marks : List String} {index : Index}
    (h : indexOf (tokensOf text) marks = .ok index) : Usable index := by
  unfold indexOf at h
  split at h
  · cases h
  · rename_i htokens
    dsimp only at h
    split at h
    · cases h
    · cases h
      refine ⟨tokensOf_ne_nil text, fun token hmem => trimmed_token hmem ?_, fun halternate => ?_⟩
      · simp only [Bool.not_eq_true, List.any_eq_false] at htokens
        simpa using htokens token hmem
      · simp only [Bool.or_eq_true] at halternate ⊢
        exact .inr halternate

theorem usable_of_line (h : line.additions? = some added) : ∀ index ∈ added.indexes, Usable index := by
  cases adds_of_additions? h with
  | index hmember hindex =>
      obtain ⟨inside, rfl⟩ := tokensOf_of_member hmember
      exact List.forall_mem_singleton.2 (usable_indexOf hindex)
  | flag => exact List.forall_mem_nil _
  | relationship => exact List.forall_mem_nil _
  | field => exact List.forall_mem_nil _

end Lines

section Bodies

variable {lines : List Line} {added : Additions}

/-- What the lines of a body add, with nothing said of the names. -/
structure Orderly (added : Additions) : Prop where
  fitting : (added.fields.map keyOf).Nodup → Fitting added.fields added.foreignKeys
  plain : Plain added.fields
  indexes : ∀ index ∈ added.indexes, Usable index

theorem Orderly.append {first second : Additions} (h : Orderly first) (hsecond : Orderly second) :
    Orderly (first.append second) where
  fitting hdistinct := by
    rw [Additions.append, List.map_append, List.nodup_append'] at hdistinct
    exact (h.fitting hdistinct.1).append (hsecond.fitting hdistinct.2.1) hdistinct.2.2
  plain := h.plain.append hsecond.plain
  indexes index hmem := by
    rcases List.mem_append.1 hmem with hmem | hmem
    · exact h.indexes index hmem
    · exact hsecond.indexes index hmem

theorem orderly_of_lines (h : additionsOf? lines = some added) : Orderly added := by
  refine additionsOf?_invariant ⟨fun _ => fitting_nil, List.forall_mem_nil _, List.forall_mem_nil _⟩ Orderly.append ?_ h
  intro line _ own hown
  exact ⟨fun _ => fitting_of_line hown, plain_of_line hown, usable_of_line hown⟩

end Bodies

section Attributes

/-- A flag that is set stays set when others are. -/
theorem has_set {attributes : Attributes} {name : String} (h : attributes.has name = true) (other : String) :
    (attributes.set other true).has name = true := by
  obtain ⟨flag, hmem, hflag⟩ := List.any_eq_true.1 h
  unfold Attributes.set
  split
  · refine List.any_eq_true.2 ⟨_, List.mem_map_of_mem hmem, ?_⟩
    split
    · rename_i hother
      rw [← beq_iff_eq.1 hother, Bool.and_true]
      exact (Bool.and_eq_true _ _ ▸ hflag).1
    · exact hflag
  · exact List.any_eq_true.2 ⟨flag, List.mem_append_left _ hmem, hflag⟩

/-- What a table asks for it asks for with more lines as well. -/
theorem hasAttribute_withAdditions {table : Table} {name : String} (h : table.hasAttribute name = true)
    (added : Additions) : (withAdditions table added).hasAttribute name = true :=
  List.foldlRecOn (motive := fun flags => Attributes.has flags name = true) added.attributes _ h
    fun _ hflags other _ => has_set hflags other

/-- The key of a table numbers itself if it is an integer, unless the table refuses that. -/
def MayNumber (table : Table) : Prop :=
  ∀ field ∈ table.fields, field.primaryKey = true → table.hasAttribute noIdentity = false →
    (field.identity = true ↔ field.family? = some .integer)

variable {table : Table} {added : Additions}

theorem MayNumber.withAdditions (h : MayNumber table) (hadded : Plain added.fields) :
    MayNumber (withAdditions table added) := by
  intro field hmem hkey hattribute
  rcases List.mem_append.1 hmem with hmem | hmem
  · refine h field hmem hkey ?_
    rw [Bool.eq_false_iff]
    intro hasked
    rw [hasAttribute_withAdditions hasked] at hattribute
    cases hattribute
  · rw [(hadded field hmem).1] at hkey
    cases hkey

theorem MayNumber.mixinApplied {mixin : Mixin} (h : MayNumber table) (hmixin : Plain mixin.fields) :
    MayNumber (mixinApplied table mixin) := by
  intro field hmem hkey hattribute
  rcases List.mem_append.1 hmem with hmem | hmem
  · exact h field hmem hkey hattribute
  · rw [(hmixin field hmem).1] at hkey
    cases hkey

theorem identity_finishTable (h : MayNumber table) :
    ∀ field ∈ (finishTable table).fields, field.primaryKey = true →
      (field.identity = true ↔
        field.family? = some .integer ∧ (finishTable table).hasAttribute noIdentity = false) := by
  intro field hmem hkey
  rw [fields_finishTable] at hmem
  obtain ⟨old, hold, rfl⟩ := List.mem_map.1 hmem
  have hnumbers := h old hold hkey
  change (old.identity && !(old.primaryKey && table.hasAttribute noIdentity)) = true ↔
    old.family? = some .integer ∧ table.hasAttribute noIdentity = false
  have hprimary : old.primaryKey = true := hkey
  rw [hprimary, Bool.true_and]
  cases hrefused : table.hasAttribute noIdentity with
  | true => simp
  | false => simpa using hnumbers hrefused

end Attributes

section Drafts

variable {db other : Database} {table result : Table} {mixin : Mixin} {added : Additions}

theorem HeadedBy.append {key : Field} {others fields : List Field} (h : HeadedBy table key others)
    (hname : result.name = table.name) (hfields : result.fields = table.fields ++ fields) (hplain : Plain fields) :
    HeadedBy result key (others ++ fields) where
  fields := by rw [hfields, h.fields, List.cons_append]
  primaryKey := h.primaryKey
  name := by rw [h.name, hname]
  nullable := h.nullable
  others := h.others.append hplain

theorem Holds.mono {name : String} (h : Holds db table name)
    (hmixins : ∀ name mixin, db.mixin? name = some mixin → other.mixin? name = some mixin)
    (hfields : table.fields ⊆ result.fields) (hforeignKeys : table.foreignKeys ⊆ result.foreignKeys) :
    Holds other result name := by
  obtain ⟨mixin, hfound, hmixinFields, hmixinKeys⟩ := h
  exact ⟨mixin, hmixins name mixin hfound, List.Subset.trans hmixinFields hfields,
    List.Subset.trans hmixinKeys hforeignKeys⟩

theorem Drafted.withAdditions (h : Drafted db table) (hadded : Orderly added)
    (hfresh : Fresh table.fields added.fields) : Drafted db (withAdditions table added) where
  fitting := h.fitting.append (hadded.fitting hfresh.distinct) hfresh.apart
  key := by
    obtain ⟨key, others, hkey⟩ := h.key
    exact ⟨key, others ++ added.fields, hkey.append rfl rfl hadded.plain⟩
  mixinsDistinct := h.mixinsDistinct
  mixins name hmem := (h.mixins name hmem).mono (fun _ _ hfound => hfound) (List.subset_append_left _ _)
    (List.subset_append_left _ _)
  indexes index hmem := by
    rcases List.mem_append.1 hmem with hmem | hmem
    · exact h.indexes index hmem
    · exact hadded.indexes index hmem

theorem Drafted.mixinApplied (h : Drafted db table) (hmixin : WellBuiltMixin mixin)
    (hfound : db.mixin? mixin.name = some mixin) (hnew : hasName table.mixins mixin.name = false)
    (hfresh : Fresh table.fields mixin.fields) : Drafted db (mixinApplied table mixin) where
  fitting := h.fitting.append hmixin.fitting hfresh.apart
  key := by
    obtain ⟨key, others, hkey⟩ := h.key
    exact ⟨key, others ++ mixin.fields, hkey.append rfl rfl hmixin.plain⟩
  mixinsDistinct := by
    rw [Model.mixinApplied, List.map_append, List.map_singleton, List.nodup_append']
    refine ⟨h.mixinsDistinct, List.nodup_singleton _, ?_⟩
    rw [Bool.eq_false_iff, ne_eq, hasName_iff] at hnew
    exact List.disjoint_singleton.2 hnew
  mixins := by
    intro name hmem
    rcases List.mem_append.1 hmem with hmem | hmem
    · exact (h.mixins name hmem).mono (fun _ _ hfound => hfound) (List.subset_append_left _ _)
        (List.subset_append_left _ _)
    · rw [List.mem_singleton] at hmem
      exact ⟨mixin, hmem ▸ hfound, List.subset_append_right _ _, List.subset_append_right _ _⟩
  indexes := h.indexes

/-- The column of an index is its token, unless that names the target of a foreign key; then it is the column of
such a key. -/
theorem indexColumn_cases (table : Table) (token : String) :
    table.indexColumn token = token ∧ (∀ foreignKey ∈ table.foreignKeys, sameName foreignKey.target token = false) ∨
      ∃ foreignKey ∈ table.foreignKeys, sameName foreignKey.target token = true ∧
        table.indexColumn token = foreignKey.column := by
  have hfold : ∀ (keys : List ForeignKey) (start : String),
      let column := keys.foldl (fun column key => if sameName key.target token then key.column else column) start
      column = start ∧ (∀ key ∈ keys, sameName key.target token = false) ∨
        ∃ key ∈ keys, sameName key.target token = true ∧ column = key.column := by
    intro keys
    induction keys with
    | nil => exact fun _ => .inl ⟨rfl, List.forall_mem_nil _⟩
    | cons first keys ih =>
        intro start
        rw [List.foldl_cons]
        rcases ih (if sameName first.target token then first.column else start) with
          ⟨hcolumn, hothers⟩ | ⟨key, hmem, hnamed, hcolumn⟩
        · rw [hcolumn]
          cases hfirst : sameName first.target token with
          | true => exact .inr ⟨first, List.mem_cons_self, hfirst, rfl⟩
          | false => exact .inl ⟨rfl, List.forall_mem_cons.2 ⟨hfirst, hothers⟩⟩
        · exact .inr ⟨key, List.mem_cons_of_mem _ hmem, hnamed, hcolumn⟩
  exact hfold table.foreignKeys token

theorem Usable.resolveIndex {index : Index} (h : Usable index) (hfitting : Fitting table.fields table.foreignKeys) :
    Usable (table.resolveIndex index) where
  fields := by
    rw [Table.resolveIndex, ne_eq, List.map_eq_nil_iff]
    exact h.fields
  named column hmem := by
    obtain ⟨token, htoken, rfl⟩ := List.mem_map.1 hmem
    rcases indexColumn_cases table token with ⟨hcolumn, -⟩ | ⟨foreignKey, hforeignKey, -, hcolumn⟩
    · rw [hcolumn]
      exact h.named token htoken
    · rw [hcolumn]
      exact hfitting.columnsNamed foreignKey hforeignKey
  unique := h.unique

theorem settle_plain {field : Field} (h : field.primaryKey = false ∧ field.identity = false) :
    settle table field = field := by
  obtain ⟨name, type, nullable, optional, primaryKey, identity, attributes⟩ := field
  obtain ⟨rfl, rfl⟩ := h
  rfl

theorem Fitting.settle {fields : List Field} {foreignKeys : List ForeignKey} (h : Fitting fields foreignKeys) :
    Fitting (fields.map (settle table)) foreignKeys where
  fieldsDistinct := by
    rw [List.map_map]
    exact h.fieldsDistinct
  columns foreignKey hmem := by
    obtain ⟨field, hfield, hname, htype, hnullable⟩ := h.columns foreignKey hmem
    exact ⟨_, List.mem_map_of_mem hfield, hname, htype, hnullable⟩
  columnsDistinct := h.columnsDistinct
  columnsNamed := h.columnsNamed

theorem HeadedBy.finishTable {key : Field} {others : List Field} (h : HeadedBy table key others) :
    HeadedBy (finishTable table) (settle table key) others where
  fields := by
    have hothers : others.map (settle table) = others := by
      refine (List.map_congr_left fun field hmem => ?_).trans (List.map_id others)
      exact settle_plain (h.others field hmem)
    rw [fields_finishTable, h.fields, List.map_cons, hothers]
  primaryKey := h.primaryKey
  name := h.name
  nullable := h.nullable
  others := h.others

theorem Drafted.finishTable (h : Drafted db table)
    (hplain : ∀ name mixin, db.mixin? name = some mixin → Plain mixin.fields) : Drafted db (finishTable table) where
  fitting := by
    rw [fields_finishTable]
    exact h.fitting.settle
  key := by
    obtain ⟨key, others, hkey⟩ := h.key
    exact ⟨_, _, hkey.finishTable⟩
  mixinsDistinct := h.mixinsDistinct
  mixins name hmem := by
    -- the fields of a mixin are plain, so that they are the same in the finished table
    obtain ⟨mixin, hfound, hfields, hforeignKeys⟩ := h.mixins name hmem
    refine ⟨mixin, hfound, fun field hfield => ?_, hforeignKeys⟩
    rw [fields_finishTable, ← settle_plain (hplain name mixin hfound field hfield)]
    exact List.mem_map_of_mem (hfields hfield)
  indexes index hmem := by
    obtain ⟨old, hold, rfl⟩ := List.mem_map.1 hmem
    have hfitting : Fitting (Model.finishTable table).fields table.foreignKeys := by
      rw [fields_finishTable]
      exact h.fitting.settle
    exact (h.indexes old hold).resolveIndex hfitting

theorem Drafted.wellBuilt (h : Drafted db table) (hnumbers : MayNumber table)
    (hplain : ∀ name mixin, db.mixin? name = some mixin → Plain mixin.fields) :
    WellBuiltTable db (Model.finishTable table) where
  toDrafted := h.finishTable hplain
  identity := identity_finishTable hnumbers

theorem WellBuiltTable.mayNumber (h : WellBuiltTable db table) : MayNumber table := by
  intro field hmem hkey hattribute
  rw [h.identity field hmem hkey, hattribute]
  simp

/-- A table stays well built when mixins are added. -/
theorem WellBuiltTable.mono (h : WellBuiltTable db table)
    (hmixins : ∀ name mixin, db.mixin? name = some mixin → other.mixin? name = some mixin) :
    WellBuiltTable other table where
  fitting := h.fitting
  key := h.key
  mixinsDistinct := h.mixinsDistinct
  mixins name hmem := (h.mixins name hmem).mono hmixins (List.Subset.refl _) (List.Subset.refl _)
  indexes := h.indexes
  identity := h.identity

end Drafts

section Blocks

variable {db : Database} {block : Block} {table : Table} {mixin : Mixin}

theorem wellBuilt_compileMixin (h : compileMixin db block = .ok mixin) : WellBuiltMixin mixin := by
  obtain ⟨name, added, -, -, hadded, -, hfresh, rfl⟩ := compileMixin_eq_ok_iff.1 h
  have horderly := orderly_of_lines hadded
  exact ⟨horderly.fitting hfresh.distinct, horderly.plain⟩

theorem WellBuilt.plain (hdb : WellBuilt db) (name : String) (mixin : Mixin) (h : db.mixin? name = some mixin) :
    Plain mixin.fields :=
  (hdb.mixins mixin (Database.mem_mixins_of_mixin? h)).plain

/-- A model starts with its key alone. -/
theorem drafted_start (db : Database) {header : ModelHeader} {place : Fault → Failure} {key : Field}
    (h : header.keyField place = .ok key) : Drafted db (header.start key) ∧ MayNumber (header.start key) := by
  obtain ⟨type, -, hkey⟩ := bind_eq_ok h
  cases hkey
  constructor
  · exact {
      fitting := fitting_field _
      key := ⟨_, [], ⟨rfl, rfl, rfl, rfl, List.forall_mem_nil _⟩⟩
      mixinsDistinct := List.nodup_nil
      mixins := List.forall_mem_nil _
      indexes := List.forall_mem_nil _ }
  · intro field hmem _ _
    rw [ModelHeader.start, List.mem_singleton] at hmem
    rw [hmem]
    exact beq_iff_eq

theorem wellBuilt_compileModel (hdb : WellBuilt db) (h : compileModel db block = .ok table) :
    WellBuiltTable db table := by
  obtain ⟨header, key, added, whole, -, hkey, hadded, hfresh, hmixed, rfl⟩ := mixed_of_compileModel h
  clear h
  have horderly := orderly_of_lines hadded
  obtain ⟨hdrafted, hnumbers⟩ := drafted_start db hkey
  -- the mixins are applied to a draft, and only the finished table has to agree with its attributes
  have hdraft : Drafted db whole ∧ MayNumber whole := by
    induction hmixed with
    | bare => exact ⟨hdrafted.withAdditions horderly hfresh, hnumbers.withAdditions horderly.plain⟩
    | @take draft mixin _ hmem hnew hmixinFresh ih =>
        have hmixin := hdb.mixins mixin hmem
        have hfound : db.mixin? mixin.name = some mixin := (hdb.mixinsFound mixin hmem _).2 rfl
        exact ⟨ih.1.mixinApplied hmixin hfound hnew hmixinFresh, ih.2.mixinApplied hmixin.plain⟩
  exact hdraft.1.wellBuilt hdraft.2 hdb.plain

theorem wellBuilt_compileExtension (hdb : WellBuilt db) (h : compileExtension db block = .ok table) :
    WellBuiltTable db table := by
  obtain ⟨name, base, added, -, hbase, hadded, hfresh, rfl⟩ := compileExtension_eq_ok_iff.1 h
  have horderly := orderly_of_lines hadded
  have hwell := hdb.tables base (Database.mem_tables_of_table? hbase)
  exact (hwell.toDrafted.withAdditions horderly hfresh).wellBuilt
    (hwell.mayNumber.withAdditions horderly.plain) hdb.plain

/-- What is well built on its own makes a schema in which each thing is found under its own name alone. -/
theorem wellBuilt_of (htables : ∀ table ∈ db.tables.items, WellBuiltTable db table)
    (hmixins : ∀ mixin ∈ db.mixins.items, WellBuiltMixin mixin) : WellBuilt db where
  tables := htables
  mixins := hmixins
  tablesFound _ hmem _ := Database.table?_eq_some_iff_of_mem hmem
  mixinsFound _ hmem _ := Database.mixin?_eq_some_iff_of_mem hmem

theorem WellBuilt.putTable (hdb : WellBuilt db) (h : WellBuiltTable db table) : WellBuilt (db.putTable table) := by
  refine wellBuilt_of (fun other hmem => ?_) hdb.mixins
  rcases Database.mem_tables_putTable_iff.1 hmem with rfl | ⟨hmem, -⟩
  · exact h.mono fun _ _ hfound => hfound
  · exact (hdb.tables other hmem).mono fun _ _ hfound => hfound

theorem WellBuilt.commit (hdb : WellBuilt db) {definition : Definition}
    (h : compileBlock db block = .ok definition) : WellBuilt (commit db definition) := by
  cases hkind : block.kind with
  | mixin =>
      obtain ⟨mixin, hmixin, rfl⟩ := (compileBlock_mixin_iff hkind).1 h
      have hnew := mixin?_of_compileMixin hmixin
      refine wellBuilt_of (fun table hmem => ?_) fun other hmem => ?_
      · exact (hdb.tables table hmem).mono fun _ _ hfound => Database.mixin?_putMixin_new hnew hfound
      · rcases Database.mem_mixins_putMixin_iff.1 hmem with rfl | ⟨hmem, -⟩
        · exact wellBuilt_compileMixin hmixin
        · exact hdb.mixins other hmem
  | model =>
      obtain ⟨table, htable, rfl⟩ := (compileBlock_model_iff hkind).1 h
      exact hdb.putTable (wellBuilt_compileModel hdb htable)
  | extension =>
      obtain ⟨table, htable, rfl⟩ := (compileBlock_extension_iff hkind).1 h
      exact hdb.putTable (wellBuilt_compileExtension hdb htable)

/-- Every schema that batches lead to from the empty one is well built, whether they succeeded or failed. -/
theorem wellBuilt_of_compiled (h : Compiled db) : WellBuilt db :=
  h.invariant (wellBuilt_of (List.forall_mem_nil _) (List.forall_mem_nil _)) fun hdb hblock => hdb.commit hblock

/-- A table with a mixin, a foreign key and an index over its target. -/
def shopFiles : List Source :=
  [{ name := "audited.dmdx", text := "mixin Audited \x7b\n  datetime ChangedOn\n\x7d\n" },
   { name := "order.dmd"
     text := "model Order with Audited \x7b\n  model Client\n  index (Client, ChangedOn) @ak\n\x7d\n" }]

/-- The key gives up its identity before the batch fails. -/
def brokenFiles : List Source :=
  [{ name := "keys.dmd", text := "extends Order \x7b\n  @NoIdentity\n\x7d\n" ++ "extends Item \x7b\n\x7d\n" }]

theorem wellBuilt_shop :
    (compile {} shopFiles).error = none ∧ (compile (compile {} shopFiles).schema brokenFiles).error ≠ none ∧
      WellBuilt (compile (compile {} shopFiles).schema brokenFiles).schema := by
  refine ⟨by decide +kernel, by decide +kernel, ?_⟩
  exact wellBuilt_of_compiled (.batch (.batch .empty shopFiles) brokenFiles)

end Blocks

end SchemaMigrate.Model
