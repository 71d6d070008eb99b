import SchemaMigrate.ColumnType.Render
import SchemaMigrate.Proofs.Catalog.Canonical
import SchemaMigrate.Proofs.Grammar.Types
import SchemaMigrate.Proofs.Model.Sizes

/-!
Stored types as they are declared. A type that a line declares can be written as a declaration again: the size
that is stored is one that the grammar has, and the code under which a storage type is declared takes that
size. Main statement: what is written is read as a field again and stored as the same type.
-/

namespace SchemaMigrate.Grammar

open Catalog Model
open Text (isDigits isWord maxDigits)

/-- A text is read as this type at the start of the line of any field. -/
def DeclaredAs (text : String) (type : DeclaredType) : Prop :=
  ∀ (nullable : Bool) (name : Identifier) (marks : List Mark),
    Member.of? (text.toList ++ flag '?' nullable ++ ' ' :: name.chars ++ marksChars marks) =
      some (.field { type, nullable, name := name.text, marks := marks.map (·.text) })

/-- A number that can be written and read again. -/
def Printable (value : Int) : Prop := ∃ number : Nat, value = number ∧ ReadableNumber number

/-- A type whose size can be written. Only a bounded precision has a scale. -/
structure Writable (type : ColumnType) : Prop where
  precision : ∀ value, type.precision = some value → value = maxLength ∨ Printable value
  scale : ∀ value, type.scale = some value → Printable value
  bounded : type.scale.isSome = true → type.precision.isSome = true ∧ type.isMax = false

/-- A size that a storage type of this policy is written with; types that are not known take any. -/
def Size.Fits (size : Size) : Option SizePolicy → Prop
  | none => True
  | some .none => size = .unsized
  | some .precision => size.scale? = none
  | some .precisionAndScale => True

attribute [local irreducible] nameKey

section Names

theorem isName_of_spanName? {text name rest : List Char} (h : Text.spanName? text = some (name, rest)) :
    isName name = true := by
  cases text with
  | nil => cases h
  | cons c tail =>
      rw [Text.spanName?] at h
      split at h
      · rename_i hstart
        cases h
        have hall : (Text.spanWord tail).1.all isWord = true :=
          List.all_eq_true.2 fun d hd => List.mem_takeWhile_imp hd
        rw [isName, hstart, hall]
        rfl
      · cases h

/-- The code of the type of a field is a name. -/
theorem isName_of_readField? {text : List Char} {line : FieldLine} (h : readField? text = some (.field line)) :
    isName line.type.code.toList = true := by
  simp only [readField?, bind, Option.bind_eq_some_iff] at h
  obtain ⟨code, hcode, after, -, name, -, marks, -, hmember⟩ := h
  cases hmember
  rw [String.toList_ofList]
  exact isName_of_spanName? hcode

end Names

section Sizes

variable {digits params : List Char} {value : Int} {type stored : ColumnType} {precision scale : Option Int}

theorem printable_natCast {number : Nat} (h : ReadableNumber number) : Printable number := ⟨number, rfl, h⟩

theorem Printable.ne_maxLength (h : Printable value) : value ≠ maxLength := by
  obtain ⟨number, rfl, -⟩ := h
  simp [maxLength]

theorem printable_of_readSize (hdigits : isDigits digits = true) (h : readSize digits = .ok value) :
    Printable value := by
  rcases readSize_cases hdigits with ⟨-, hnumeral⟩ | ⟨⟨error, herror⟩, -⟩
  · obtain ⟨number, hnumber, hread⟩ := Text.readInteger_of_isNumeral hdigits hnumeral
    rw [readSize, hread] at h
    cases h
    exact printable_natCast hnumber
  · rw [herror] at h
    cases h

theorem writable_of_unsized {name : String} : Writable { name } := ⟨by simp, by simp, by simp⟩

theorem writable_of_unbounded {name : String} : Writable { name, precision := some maxLength } :=
  ⟨by simp, by simp, by simp⟩

/-- A size that is read can be written. -/
theorem writable_of_sizeOf {name : String} (h : Model.sizeOf params = .ok (precision, scale)) :
    Writable { name, precision, scale } := by
  unfold Model.sizeOf at h
  split at h
  · split at h
    · cases h
      exact writable_of_unbounded
    · split at h
      · rename_i hdigits
        obtain ⟨digits, hread, hsize⟩ := bind_eq_ok h
        cases hsize
        have hprintable := printable_of_readSize hdigits hread
        exact ⟨by simp [hprintable], by simp, by simp⟩
      · cases h
  · split at h
    · rename_i hdigits
      rw [Bool.and_eq_true] at hdigits
      obtain ⟨digits, hreadDigits, hrest⟩ := bind_eq_ok h
      obtain ⟨places, hreadPlaces, hsize⟩ := bind_eq_ok hrest
      cases hsize
      have hprecision := printable_of_readSize hdigits.1 hreadDigits
      have hscale := printable_of_readSize hdigits.2 hreadPlaces
      exact ⟨by simp [hprecision], by simp [hscale], by simp [ColumnType.isMax, hprecision.ne_maxLength]⟩
    · cases h
  · cases h

theorem writable_of_size {type : DeclaredType} (h : type.size = .ok (precision, scale)) :
    Writable { name := type.code, precision, scale } := by
  unfold DeclaredType.size at h
  split at h
  · cases h
    exact writable_of_unsized
  · exact writable_of_sizeOf h

/-- A size that can be written is one that the grammar has. -/
theorem Writable.exists_size (h : Writable type) :
    ∃ size : Size, type.precision = size.precision? ∧ type.scale = size.scale? ∧
      ∀ number ∈ size.numbers, ReadableNumber number := by
  obtain ⟨name, precision, scale⟩ := type
  cases precision with
  | none =>
      cases scale with
      | none => exact ⟨.unsized, rfl, rfl, by simp [Size.numbers]⟩
      | some places => exact absurd (h.bounded rfl).1 (by simp)
  | some digits =>
      rcases h.precision digits rfl with rfl | ⟨number, rfl, hnumber⟩
      · cases scale with
        | none => exact ⟨.unbounded, rfl, rfl, by simp [Size.numbers]⟩
        | some places => exact absurd (h.bounded rfl).2 (by simp [ColumnType.isMax])
      · cases scale with
        | none => exact ⟨.precision number, rfl, rfl, by simpa [Size.numbers] using hnumber⟩
        | some places =>
            obtain ⟨other, rfl, hother⟩ := h.scale places rfl
            exact ⟨.scaled number other, rfl, rfl, by simpa [Size.numbers] using ⟨hnumber, hother⟩⟩

/-- The default sizes of the codes are short numbers, if they are bounded. -/
theorem defaults_short : ∀ known ∈ modelTypes,
    (∀ value ∈ known.defaultPrecision, value = maxLength ∨ 0 ≤ value ∧ value.toNat < 10 ^ 3)
      ∧ ∀ value ∈ known.defaultScale, 0 ≤ value ∧ value.toNat < 10 ^ 3 := by
  decide +kernel

theorem printable_of_default (h : 0 ≤ value ∧ value.toNat < 10 ^ 3) : Printable value := by
  have hpow : 10 ^ 3 ≤ 10 ^ maxDigits := Nat.pow_le_pow_right (by decide) (by decide)
  exact ⟨value.toNat, (Int.toNat_of_nonneg h.1).symm, h.2.trans_le hpow⟩

/-- What is stored for a declaration can be written if the declaration can. -/
theorem Writable.store {declared : ColumnType} (h : Writable declared) {known : ModelType}
    (hknown : known ∈ modelTypes) (hstore : known.store declared = .ok type) : Writable type := by
  obtain ⟨hprecision, hscale⟩ := defaults_short known hknown
  refine ⟨?_, ?_, bounded_of_store hknown hstore⟩
  · intro value hvalue
    rcases store_eq_ok hstore with rfl | ⟨-, rfl⟩ | ⟨-, -, rfl⟩ | ⟨-, -, rfl⟩
    · exact (hprecision value hvalue).imp_right printable_of_default
    · cases hvalue
    · exact .inl (Option.some.inj hvalue).symm
    · simp only [Option.orElse_eq_orElse, Option.orElse_eq_or, Option.or_eq_some_iff] at hvalue
      rcases hvalue with hvalue | ⟨-, hvalue⟩
      · exact h.precision value hvalue
      · exact (hprecision value hvalue).imp_right printable_of_default
  · intro value hvalue
    rcases store_eq_ok hstore with rfl | ⟨-, rfl⟩ | ⟨-, -, rfl⟩ | ⟨-, -, rfl⟩
    · exact printable_of_default (hscale value hvalue)
    · cases hvalue
    · cases hvalue
    · simp only [Option.orElse_eq_orElse, Option.orElse_eq_or] at hvalue
      split at hvalue
      · cases hvalue
      · rcases Option.or_eq_some_iff.1 hvalue with hvalue | ⟨-, hvalue⟩
        · exact h.scale value hvalue
        · exact printable_of_default (hscale value hvalue)

theorem Writable.ofDeclared {declared : ColumnType} (h : Writable declared)
    (hstored : ColumnType.ofDeclared declared = .ok type) : Writable type := by
  rcases ofDeclared_name hstored with ⟨-, rfl⟩ | ⟨known, hknown, hstore, -⟩
  · exact h
  · exact h.store hknown hstore

end Sizes

section Writing

variable {size : Size} {policy : Option SizePolicy} {type stored : ColumnType} {storage : StorageType}

/-- A size that fits is written behind the name as the grammar has it. -/
theorem toList_sizedName (base : String) (hfits : size.Fits policy) :
    (sizedName base policy size.precision? size.scale? "(max)").toList = base.toList ++ size.chars := by
  have hnumber (number : Nat) : (number : Int) ≠ maxLength := by simp [maxLength]
  have hdigits (number : Nat) : (number : Int).repr.toList = Nat.toDigits 10 number := String.toList_ofList
  cases size with
  | unsized =>
      simp only [sizedName, Size.precision?, ite_self]
      simp [Size.chars, Size.params?]
  | unbounded =>
      have hpolicy : policy ≠ some .none := by
        rintro rfl
        cases hfits
      simp [sizedName, Size.precision?, Size.chars, Size.params?, hpolicy]
  | precision digits =>
      have hpolicy : policy ≠ some .none := by
        rintro rfl
        cases hfits
      simp [sizedName, Size.precision?, Size.scale?, Size.chars, Size.params?, hpolicy, hnumber, hdigits]
  | scaled digits places =>
      have hpolicy : policy ≠ some .none := by
        rintro rfl
        cases hfits
      have hscaled : policy ≠ some .precision := by
        rintro rfl
        cases hfits
      simp [sizedName, Size.precision?, Size.scale?, Size.chars, Size.params?, hpolicy, hscaled, hnumber, hdigits]

/-- A type that is not known is written with its own name. -/
theorem toList_declaration_of_unknown (hunknown : storageType? type.name = none)
    (hprecision : type.precision = size.precision?) (hscale : type.scale = size.scale?) :
    type.declaration.toList = type.name.toList ++ size.chars := by
  have hresolved := resolved_of_unknown hunknown
  unfold ColumnType.declaration ColumnType.write
  simp only [hresolved, hunknown, hprecision, hscale]
  exact toList_sizedName type.name trivial

/-- A type of some storage with its size is written with the code that declares the storage. -/
theorem toList_declaration_of_sized (hstorage : storage ∈ storageTypes) (hconverts : storage.convertsTo = none)
    (hsized : Sized storage type) (hprecision : type.precision = size.precision?) (hscale : type.scale = size.scale?) :
    type.declaration.toList = storage.modelCode.toList ++ size.chars := by
  have hfound : storageType? type.name = some storage := hsized.name ▸ storageType?_code storage hstorage
  have hresolved : type.resolved = type := by rw [resolved_of_storage hfound, hconverts, Option.getD_none]
  have hfits : size.Fits (some storage.policy) := by
    have hsome := hsized.precision
    have hplaces := hsized.scale
    rw [hprecision] at hsome
    rw [hscale] at hplaces
    cases hpolicy : storage.policy with
    | none =>
        rw [hpolicy] at hsome
        cases size <;> simp_all [Size.Fits, Size.precision?]
    | precision => simpa [Size.Fits, hpolicy] using hplaces
    | precisionAndScale => trivial
  have hfilled : (if storage.policy = .none then type.precision else type.precision <|> storage.defaultPrecision) =
      size.precision? := by
    split
    · exact hprecision
    · obtain ⟨value, hvalue⟩ := Option.isSome_iff_exists.1 (hsized.precision.2 ‹_›)
      rw [← hprecision, hvalue]
      rfl
  have hfilledScale : (if storage.policy = .precisionAndScale then type.scale <|> storage.defaultScale
      else type.scale) = size.scale? := by
    split
    · obtain ⟨value, hvalue⟩ := Option.isSome_iff_exists.1 (hsized.scale.2 ‹_›)
      rw [← hscale, hvalue]
      rfl
    · exact hscale
  unfold ColumnType.declaration ColumnType.write
  simp only [hresolved, hfound, hfilled, hfilledScale]
  exact toList_sizedName storage.modelCode hfits

end Writing

section Rereading

/-- The code that declares a storage type is a name that starts no relationship. -/
theorem isName_modelCode : ∀ storage ∈ storageTypes,
    isName storage.modelCode.toList = true ∧ storage.modelCode ≠ "model" ∧ storage.modelCode ≠ "models" := by
  decide +kernel

/-- A text that is the code and the size of a type declares this type. -/
theorem declaredAs_chars {text : String} {type : TypeTerm} (htext : text.toList = type.chars)
    (hplain : type.code.text ≠ "model" ∧ type.code.text ≠ "models") : DeclaredAs text type.declared := by
  intro nullable name marks
  rw [htext]
  exact Member.of?_field { type, nullable, name, marks, plain := hplain }

/-- A printed type is stored as what its code makes of its size. -/
theorem columnType_declared {type : TypeTerm} {stored : ColumnType}
    (hreadable : ∀ number ∈ type.size.numbers, ReadableNumber number)
    (hstored : ColumnType.ofDeclared type.asked = .ok stored) (place : Fault → Failure) :
    type.declared.columnType place = .ok stored := by
  obtain ⟨size, hsize⟩ := (yields_size type).succeeds hreadable
  have hresult : size = (type.size.precision?, type.size.scale?) := (yields_size type).result size hsize
  rw [hresult] at hsize
  exact columnType_eq_ok_iff.2 ⟨_, _, hsize, hstored⟩

end Rereading

/-- A code that is known, or one that is no type of the database either and starts no relationship. -/
def SafeCode (code : String) : Prop :=
  (modelType? code).isSome = true ∨ storageType? code = none ∧ code ≠ "model" ∧ code ≠ "models"

variable {text : List Char} {line : FieldLine} {stored : ColumnType} {place : Fault → Failure}

/-- What a declared type is written as has a code that is not deprecated, and is stored as the type itself. -/
theorem exists_declaration (hname : isName line.type.code.toList = true) (hcode : SafeCode line.type.code)
    (hstored : line.type.columnType place = .ok stored) :
    ∃ type : TypeTerm, stored.declaration.toList = type.chars
      ∧ (type.code.text ≠ "model" ∧ type.code.text ≠ "models")
      ∧ (∀ number ∈ type.size.numbers, ReadableNumber number)
      ∧ ColumnType.ofDeclared type.asked = .ok stored
      ∧ ∀ known, modelType? type.code.text = some known → known.deprecated = false := by
  obtain ⟨precision, scale, hsize, hdeclared⟩ := columnType_eq_ok_iff.1 hstored
  have hwritable := (writable_of_size hsize).ofDeclared hdeclared
  obtain ⟨size, hprecision, hscale, hreadable⟩ := hwritable.exists_size
  cases hknown : modelType? line.type.code with
  | some known =>
      have hregistered : Registered stored := ⟨_, by rw [hknown]; rfl, hdeclared⟩
      obtain ⟨storage, hstorage, hconverts, hsized⟩ := sized_of_registered hregistered
      obtain ⟨hvalid, hmodel, hmodels⟩ := isName_modelCode storage hstorage
      obtain ⟨modern, -, hmodern, hstorageCode, hpolicy, hfixed, hdeprecated⟩ :=
        modelType?_modelCode storage hstorage hconverts
      let code : Identifier := { text := storage.modelCode, valid := hvalid }
      refine ⟨{ code, size }, toList_declaration_of_sized hstorage hconverts hsized hprecision hscale,
        ⟨hmodel, hmodels⟩, hreadable, ?_, ?_⟩
      · have hbounded := bounded_of_registered hregistered
        have hstore := store_of_sized hstorage hsized hbounded hstorageCode hpolicy hfixed storage.modelCode
        rw [hprecision, hscale] at hstore
        rw [ColumnType.ofDeclared, TypeTerm.asked, hmodern]
        exact hstore
      · intro known hfound
        rw [hmodern] at hfound
        cases hfound
        exact hdeprecated
  | none =>
      rw [SafeCode, hknown] at hcode
      obtain ⟨hunknown, hmodel, hmodels⟩ := hcode.resolve_left (by decide)
      -- a code that is not known is stored as it is
      have hsame : stored = { name := line.type.code, precision, scale } := by
        rw [ColumnType.ofDeclared, hknown] at hdeclared
        exact (Except.ok.inj hdeclared).symm
      subst hsame
      let code : Identifier := { text := line.type.code, valid := hname }
      refine ⟨{ code, size }, toList_declaration_of_unknown hunknown hprecision hscale, ⟨hmodel, hmodels⟩,
        hreadable, ?_, fun known hfound => ?_⟩
      · rw [ColumnType.ofDeclared, TypeTerm.asked, hknown, ← hprecision, ← hscale]
      · rw [hknown] at hfound
        cases hfound

/-- Whatever a field is declared as, what its stored type is written as is the type of a field again, which is
stored as the same type, written the same way, and has no deprecated code. -/
theorem declaration_stable (hread : readField? text = some (.field line)) (hcode : SafeCode line.type.code)
    (hstored : line.type.columnType place = .ok stored) :
    ∃ again : DeclaredType, DeclaredAs stored.declaration again
      ∧ (∀ place, again.columnType place = .ok stored)
      ∧ (∀ place, (·.declaration) <$> again.columnType place = .ok stored.declaration)
      ∧ ∀ known, modelType? again.code = some known → known.deprecated = false := by
  obtain ⟨type, htext, hplain, hreadable, hdeclared, hmodern⟩ :=
    exists_declaration (isName_of_readField? hread) hcode hstored
  have hagain (place : Fault → Failure) : type.declared.columnType place = .ok stored :=
    columnType_declared hreadable hdeclared place
  refine ⟨type.declared, declaredAs_chars htext hplain, hagain, fun place => ?_, hmodern⟩
  rw [hagain place]
  rfl

/-- A line with an old code in large letters and blanks about the size. -/
def noteText : List Char := "String( MAX )? Note @ReduceSize".toList

def noteLine : FieldLine where
  type := { code := "String", params := some "MAX ".toList }
  nullable := true
  name := "Note"
  marks := ["ReduceSize"]

theorem declaration_stable_note :
    readField? noteText = some (.field noteLine)
      ∧ (⟨"varchar", some maxLength, none⟩ : ColumnType).declaration = "ustring(max)"
      ∧ ∃ again : DeclaredType, DeclaredAs (⟨"varchar", some maxLength, none⟩ : ColumnType).declaration again
        ∧ (∀ place, again.columnType place = .ok ⟨"varchar", some maxLength, none⟩)
        ∧ ∀ known, modelType? again.code = some known → known.deprecated = false := by
  have hread : readField? noteText = some (.field noteLine) := by decide +kernel
  have hstored : noteLine.type.columnType (fun fault => { fault, source := "notes", lineNumber := 2, line := "" }) =
      .ok ⟨"varchar", some maxLength, none⟩ := by decide +kernel
  obtain ⟨again, hdeclared, hagain, -, hmodern⟩ := declaration_stable hread (.inl (by decide +kernel)) hstored
  exact ⟨hread, by decide +kernel, again, hdeclared, hagain, hmodern⟩

end SchemaMigrate.Grammar
