import SchemaMigrate.Proofs.ColumnType.Writing
import SchemaMigrate.Proofs.Model.Growth
import SchemaMigrate.Proofs.Model.Sources
import SchemaMigrate.Proofs.Plan.Widening

/-!
The types of generated keys. Every table of a compiled schema has the key that the header of its model
gives it, whatever else the table was given in its body, by mixins or by extensions. Which headers give an
integer key can be read off their key type.
-/

namespace SchemaMigrate.Model

/-- One of the sources has a block for the model of this header. -/
def Declares (sources : List Source) (header : ModelHeader) : Prop :=
  ∃ source ∈ sources, ∃ blocks, source.blocks = .ok blocks ∧
    ∃ block ∈ blocks, block.kind = .model ∧ ModelHeader.of? block.header = some header

/-- A table starts with a key of the type that a header asks for. -/
structure KeyedBy (header : ModelHeader) (table : Table) (key : Field) : Prop where
  name : table.name = header.name
  fields : ∃ others, table.fields = key :: others
  primaryKey : key.primaryKey = true
  keyName : key.name = header.name ++ "ID"
  type : ∃ place, (header.keyType.getD { code := "int" }).columnType place = .ok key.type

/-- Every table has the key of a header in the sources. -/
def Headed (sources : List Source) (db : Database) : Prop :=
  ∀ table ∈ db.tables.items, ∃ header key, Declares sources header ∧ KeyedBy header table key

section Sources

variable {sources : List Source} {db : Database} {header : ModelHeader} {table : Table} {key : Field}

theorem BlockOf.declares {block : Block} (h : BlockOf sources block) (hkind : block.kind = .model)
    (hheader : ModelHeader.of? block.header = some header) : Declares sources header := by
  obtain ⟨source, hsource, blocks, hblocks, hmem⟩ := h
  exact ⟨source, hsource, blocks, hblocks, block, hmem, hkind, hheader⟩

/-- A later version of a table has the key of the same header. -/
theorem KeyedBy.grown (h : KeyedBy header table key) {grown : Table} (hgrown : GrownTable table grown) :
    ∃ now, KeyedBy header grown now := by
  obtain ⟨others, hothers⟩ := h.fields
  obtain ⟨kept, added, hfields, hkept⟩ := hgrown.fields
  rw [hothers] at hkept
  obtain ⟨now, rest, hnow, -, rfl⟩ := List.forall₂_cons_left_iff.1 hkept
  refine ⟨now, hgrown.name.trans h.name, ⟨rest ++ added, hfields⟩, ?_, ?_, ?_⟩
  · rw [hnow.primaryKey, h.primaryKey]
  · rw [hnow.name, h.keyName]
  · rw [hnow.type]
    exact h.type

theorem keyedBy_start {place : Fault → Failure} (h : header.keyField place = .ok key) :
    KeyedBy header (header.start key) key := by
  obtain ⟨type, htype, hfield⟩ := bind_eq_ok h
  cases hfield
  exact ⟨rfl, ⟨[], rfl⟩, rfl, rfl, ⟨place, htype⟩⟩

/-- A model has the key of its header. -/
theorem keyedBy_compileModel {block : Block} (h : compileModel db block = .ok table) :
    ∃ header key, ModelHeader.of? block.header = some header ∧ KeyedBy header table key := by
  obtain ⟨header, key, added, whole, hheader, hkey, -, -, hmixed, rfl⟩ := mixed_of_compileModel h
  clear h
  have hdraft : GrownTable (header.start key) whole := by
    induction hmixed with
    | bare => exact grownTable_append rfl rfl
    | take _ _ _ _ ih => exact ih.trans (grownTable_append rfl rfl)
  obtain ⟨now, hnow⟩ := (keyedBy_start hkey).grown (hdraft.trans (grownTable_finish whole))
  exact ⟨header, now, hheader, hnow⟩

/-- A block that compiles leaves every table with the key of its header. -/
theorem Headed.commit {block : Block} {definition : Definition} (hblock : BlockOf sources block)
    (hdb : Headed sources db) (h : compileBlock db block = .ok definition) : Headed sources (commit db definition) := by
  refine forall_tables_commit hdb (fun table hkind htable => ?_) (fun table htable => ?_) h
  · obtain ⟨header, key, hheader, hkey⟩ := keyedBy_compileModel htable
    exact ⟨header, key, hblock.declares hkind hheader, hkey⟩
  · obtain ⟨name, base, added, -, hbase, -, -, rfl⟩ := compileExtension_eq_ok_iff.1 htable
    obtain ⟨header, key, hheader, hkey⟩ := hdb base (Database.mem_tables_of_table? hbase)
    obtain ⟨now, hnow⟩ := hkey.grown (grownTable_extended base added)
    exact ⟨header, now, hheader, hnow⟩

theorem CompiledFrom.headed (h : CompiledFrom sources db) : Headed sources db :=
  h.invariant (List.forall_mem_nil _) Headed.commit

end Sources

section Types

/-- A key type that is stored as a plain integer: none at all, the code of integers with any size, or the name
of the storage type itself, which is no code and stays as it is. -/
inductive IntegerKey : Option DeclaredType → Prop
  | unsaid : IntegerKey none
  | code {type : DeclaredType} (h : nameKey type.code = "int") : IntegerKey (some type)
  | stored : IntegerKey (some { code := "integer" })

/-- A key type that the database reads as an integer, in one of the spellings that it knows. -/
def ReadAsInteger (keyType : Option DeclaredType) : Prop :=
  ∀ type, keyType = some type → nameKey type.code ∈ ["integer", "int", "int4"]

variable {type : DeclaredType} {keyType : Option DeclaredType} {stored declared : ColumnType}
  {place : Fault → Failure}

/-- A size that is given has a precision. -/
theorem params_of_size {scale : Option Int} (h : type.size = .ok (none, scale)) : type.params = none := by
  unfold DeclaredType.size at h
  split at h
  · assumption
  · unfold sizeOf at h
    split at h
    · split at h
      · cases h
      · split at h
        · obtain ⟨precision, -, hsize⟩ := bind_eq_ok h
          cases hsize
        · cases h
    · split at h
      · obtain ⟨precision, -, hrest⟩ := bind_eq_ok h
        obtain ⟨scale, -, hsize⟩ := bind_eq_ok hrest
        cases hsize
      · cases h
    · cases h

/-- A type is stored under its own code if that is not known, and else under the storage type of the code. -/
theorem ofDeclared_cases (h : ColumnType.ofDeclared declared = .ok stored) :
    stored = declared ∨ ∃ known ∈ modelTypes, known.code = nameKey declared.name ∧ stored.name = known.storage := by
  unfold ColumnType.ofDeclared at h
  split at h
  · cases h
    exact .inl rfl
  · rename_i known hknown
    have hcode : known.code = nameKey declared.name := by simpa using List.find?_some hknown
    exact .inr ⟨known, List.mem_of_find?_eq_some hknown, hcode, name_of_store h⟩

theorem ofDeclared_integer_iff :
    ColumnType.ofDeclared declared = .ok { name := "integer" } ↔
      nameKey declared.name = "int" ∨ declared = { name := "integer" } := by
  have hcodes : ∀ known ∈ modelTypes, known.storage = "integer" → known.code = "int" := by decide
  constructor
  · intro h
    rcases ofDeclared_cases h with hsame | ⟨known, hmem, hcode, hstorage⟩
    · exact .inr hsame.symm
    · exact .inl (hcode.symm.trans (hcodes known hmem hstorage.symm))
  · rintro (hcode | rfl)
    · rw [ColumnType.ofDeclared, modelType?, hcode]
      rfl
    · decide +kernel

theorem nameKey_int : nameKey "int" = "int" := by decide +kernel

/-- The type of a key is the integer type exactly if the header asks for it. -/
theorem integerKey_iff (h : (keyType.getD { code := "int" }).columnType place = .ok stored) :
    stored = { name := "integer" } ↔ IntegerKey keyType := by
  obtain ⟨precision, scale, hsize, hstored⟩ := columnType_eq_ok_iff.1 h
  cases keyType with
  | none =>
      have hint : ColumnType.ofDeclared { name := "int", precision, scale } = .ok { name := "integer" } :=
        ofDeclared_integer_iff.2 (.inl nameKey_int)
      exact iff_of_true (Except.ok.inj (hstored.symm.trans hint)) .unsaid
  | some type =>
      constructor
      · rintro rfl
        rcases ofDeclared_integer_iff.1 hstored with hcode | hbare
        · exact .code hcode
        · obtain ⟨code, params⟩ := type
          cases hbare
          cases params_of_size hsize
          exact .stored
      · intro hkey
        have hint : ColumnType.ofDeclared { name := type.code, precision, scale } = .ok { name := "integer" } := by
          cases hkey with
          | code hcode => exact ofDeclared_integer_iff.2 (.inl hcode)
          | stored =>
              cases hsize
              exact ofDeclared_integer_iff.2 (.inr rfl)
        exact Except.ok.inj (hstored.symm.trans hint)

/-- A type is written as an integer if it is a spelling of the integer type. -/
theorem sql_integer_iff : stored.sql = "integer" ↔ (storageType? stored.name).map (·.code) = some "integer" := by
  have hplain : ∀ storage ∈ storageTypes, storage.code = "integer" → storage.policy = .none := by decide
  have hconverts : ∀ storage ∈ storageTypes, storage.code = "integer" → storage.convertsTo = none := by decide
  have htargets : (storageTypes.all fun storage => storage.convertsTo.all fun target =>
      (storageType? target.name).any (·.code != "integer")) = true := by decide +kernel
  cases hstorage : storageType? stored.name with
  | none =>
      have hresolved := resolved_of_unknown hstorage
      refine iff_of_false (fun hsql => ?_) (by simp)
      have hunknown : storageType? stored.resolved.name = none := by rw [hresolved, hstorage]
      rw [sql_of_unknown hunknown, hresolved] at hsql
      rw [sizedName_integer hsql] at hstorage
      revert hstorage
      decide +kernel
  | some storage =>
      obtain ⟨hmem, -⟩ := storageType?_eq_some hstorage
      rw [Option.map_some, Option.some.injEq]
      cases htarget : storage.convertsTo with
      | none =>
          have hresolved : stored.resolved = stored := by rw [resolved_of_storage hstorage, htarget, Option.getD_none]
          have hbase : storageType? stored.resolved.name = some storage := by rw [hresolved, hstorage]
          obtain ⟨precision, scale, hsql⟩ := sql_of_storage hbase
          rw [hsql]
          refine ⟨sizedName_integer, fun hcode => ?_⟩
          rw [hplain storage hmem hcode, hcode, sizedName.eq_def, if_pos rfl]
      | some target =>
          have hresolved : stored.resolved = target := by rw [resolved_of_storage hstorage, htarget, Option.getD_some]
          have hknown := List.all_eq_true.1 htargets storage hmem
          rw [htarget, Option.all_some, Option.any_eq_true] at hknown
          obtain ⟨other, hother, hcode⟩ := hknown
          rw [bne_iff_ne] at hcode
          have hbase : storageType? stored.resolved.name = some other := by rw [hresolved, hother]
          obtain ⟨precision, scale, hsql⟩ := sql_of_storage hbase
          rw [hsql]
          refine iff_of_false (fun h => hcode (sizedName_integer h)) fun h => ?_
          rw [hconverts storage hmem h] at htarget
          cases htarget

theorem integerStorage_iff {name : String} (hname : Text.trimmed name = name) :
    (storageType? name).map (·.code) = some "integer" ↔ nameKey name ∈ ["integer", "int", "int4"] := by
  have hspellings : ∀ type ∈ storageTypes, type.code = "integer" → type.spellings = ["integer", "int", "int4"] := by
    decide
  constructor
  · intro h
    obtain ⟨type, htype, hcode⟩ := Option.map_eq_some_iff.1 h
    obtain ⟨hmem, hspelling⟩ := storageType?_eq_some htype
    rwa [hname, hspellings type hmem hcode] at hspelling
  · intro h
    rw [storageType?, hname]
    simp only [List.mem_cons, List.not_mem_nil, or_false] at h
    rcases h with h | h | h <;> rw [h] <;> rfl

/-- A key is created as an integer exactly if its type is read as one. -/
theorem readAsInteger_iff (hdeclared : Declarable stored)
    (h : (keyType.getD { code := "int" }).columnType place = .ok stored) :
    stored.sql = "integer" ↔ ReadAsInteger keyType := by
  have hcodes : ∀ known ∈ modelTypes,
      (storageType? known.storage).map (·.code) = some "integer" ↔ known.code ∈ ["integer", "int", "int4"] := by
    decide +kernel
  obtain ⟨precision, scale, -, hstored⟩ := columnType_eq_ok_iff.1 h
  have hcode : stored.sql = "integer" ↔
      nameKey (keyType.getD { code := "int" }).code ∈ ["integer", "int", "int4"] := by
    rw [sql_integer_iff]
    rcases ofDeclared_cases hstored with rfl | ⟨known, hmem, hcode, hstorage⟩
    · exact integerStorage_iff (trimmed_of_declarable hdeclared)
    · rw [hstorage, hcodes known hmem, hcode]
  rw [hcode]
  cases keyType with
  | none => exact iff_of_true (by decide +kernel) fun _ hnone => by cases hnone
  | some type => simp [ReadAsInteger]

end Types

end SchemaMigrate.Model
