import SchemaMigrate.Plan.Size
import SchemaMigrate.Proofs.Catalog.Description
import SchemaMigrate.Proofs.Model.Declarations
import SchemaMigrate.Proofs.Plan.Containment

/-!
Canonical types: those that the catalog reports as themselves. They are the types that can be declared through the
codes of the model language, and two sizes of one such type are never taken for the same.

Main statement: in a compiled schema a field of a known type was declared through a code of the model language, and
then its type is canonical, or its type was written in the model by another name, and is as it was written.
-/

namespace SchemaMigrate

/-- A type as a column of it is reported: an unbounded length is a missing one. -/
def ColumnType.reported (type : ColumnType) : ColumnType :=
  { type with precision := if type.isMax then none else type.precision }

/-- A type that is read as itself from what the catalog reports of it. -/
def Canonical (type : ColumnType) : Prop := type.reported.ofCatalog = type

instance (type : ColumnType) : Decidable (Canonical type) := inferInstanceAs (Decidable (_ = _))

namespace Catalog

open Model (CompiledFrom DeclaredIn HasType columnType_eq_ok_iff)

attribute [local irreducible] nameKey

section Codes

variable {storage : StorageType} {type declared : ColumnType} {known : ModelType}

/-- The code of a storage type finds it. -/
theorem storageType?_code : ∀ storage ∈ storageTypes, storageType? storage.code = some storage := by
  decide +kernel

theorem supportsMax_code (hstorage : storage ∈ storageTypes) : supportsMax storage.code = storage.supportsMax := by
  rw [supportsMax, storageType?_code storage hstorage]
  rfl

/-- A storage type is declared by a code that is not deprecated, whose size is its own. -/
theorem modelType?_modelCode : ∀ storage ∈ storageTypes, storage.convertsTo = none →
    ∃ known ∈ modelTypes, modelType? storage.modelCode = some known ∧ known.storage = storage.code ∧
      known.policy = storage.policy ∧ known.fixed = false ∧ known.deprecated = false := by
  decide +kernel

/-- A default scale has a default precision, which is bounded. -/
theorem defaults_bounded : ∀ known ∈ modelTypes, known.defaultScale.isSome = true →
    known.defaultPrecision.isSome = true ∧ known.defaultPrecision ≠ some maxLength := by
  decide +kernel

/-- What is stored with a scale has a bounded precision. -/
theorem bounded_of_store (hknown : known ∈ modelTypes) (h : known.store declared = .ok type)
    (hscale : type.scale.isSome = true) : type.precision.isSome = true ∧ type.isMax = false := by
  have hdefaults := defaults_bounded known hknown
  obtain ⟨-, -, -, -, -, -, -, -, hsome, -⟩ := storage_of_modelType known hknown
  rcases store_eq_ok h with rfl | ⟨-, rfl⟩ | ⟨-, -, rfl⟩ | ⟨hsized, hbounded, rfl⟩
  · obtain ⟨hprecision, hmax⟩ := hdefaults hscale
    exact ⟨hprecision, by simpa [ColumnType.isMax] using hmax⟩
  · cases hscale
  · cases hscale
  · have hpolicy : known.policy = .precisionAndScale := by
      cases hcase : known.policy with
      | none => exact absurd hcase hsized
      | precision => simp [hcase] at hscale
      | precisionAndScale => rfl
    obtain ⟨hprecision, hmax⟩ := hdefaults (hsome.2 hpolicy)
    refine ⟨by simp [hprecision], ?_⟩
    cases hdeclared : declared.precision with
    | none => simpa [ColumnType.isMax, hdeclared] using hmax
    | some value => simpa [ColumnType.isMax, hdeclared] using hbounded

theorem bounded_of_registered (h : Registered type) (hscale : type.scale.isSome = true) : type.isMax = false := by
  obtain ⟨declared, hsome, hstored⟩ := h
  obtain ⟨known, hknown⟩ := Option.isSome_iff_exists.1 hsome
  rw [ColumnType.ofDeclared, hknown] at hstored
  exact (bounded_of_store (List.mem_of_find?_eq_some hknown) hstored hscale).2

/-- A type of some storage with its size is what a code of that storage stores for the size. -/
theorem store_of_sized (hstorage : storage ∈ storageTypes) (hsized : Sized storage type)
    (hbounded : type.scale.isSome = true → type.isMax = false) (hcode : known.storage = storage.code)
    (hpolicy : known.policy = storage.policy) (hfixed : known.fixed = false) (code : String) :
    known.store { name := code, precision := type.precision, scale := type.scale } = .ok type := by
  have hunbounded := hsized.unbounded
  obtain ⟨name, precision, scale⟩ := type
  have hname : name = storage.code := hsized.name
  have hsome : precision.isSome = true ↔ storage.policy ≠ .none := hsized.precision
  have hplaces : scale.isSome = true ↔ storage.policy = .precisionAndScale := hsized.scale
  unfold ModelType.store
  rw [hfixed, if_neg (by decide), hpolicy, hcode, ← hname]
  cases hcase : storage.policy with
  | none =>
      have hprecision : precision = none := by simpa [hcase] using hsome
      have hscale : scale = none := by simpa [hcase] using hplaces
      rw [hprecision, hscale]
      rfl
  | precision =>
      have hscale : scale = none := by simpa [hcase] using hplaces
      obtain ⟨length, rfl⟩ := Option.isSome_iff_exists.1 (hsome.2 (by simp [hcase]))
      subst hscale
      rw [if_neg (by decide)]
      cases hmax : ColumnType.isMax { name := code, precision := some length } with
      | true =>
          have hlength : length = maxLength := by simpa [ColumnType.isMax] using hmax
          have hlong : storage.supportsMax = true := hunbounded hcase (by simpa [ColumnType.isMax] using hlength)
          rw [if_pos rfl, hname, supportsMax_code hstorage, if_pos hlong, hlength]
      | false => rfl
  | precisionAndScale =>
      obtain ⟨digits, rfl⟩ := Option.isSome_iff_exists.1 (hsome.2 (by simp [hcase]))
      obtain ⟨places, rfl⟩ := Option.isSome_iff_exists.1 (hplaces.2 hcase)
      have hmax : ColumnType.isMax { name := code, precision := some digits, scale := some places } = false :=
        hbounded rfl
      rw [if_neg (by decide), hmax]
      rfl

/-- A type of some storage with its size can be declared. -/
theorem registered_of_sized (hstorage : storage ∈ storageTypes) (hconverts : storage.convertsTo = none)
    (hsized : Sized storage type) (hbounded : type.scale.isSome = true → type.isMax = false) : Registered type := by
  obtain ⟨known, -, hknown, hcode, hpolicy, hfixed, -⟩ := modelType?_modelCode storage hstorage hconverts
  refine ⟨{ name := storage.modelCode, precision := type.precision, scale := type.scale }, by rw [hknown]; rfl, ?_⟩
  rw [ColumnType.ofDeclared, hknown]
  exact store_of_sized hstorage hsized hbounded hcode hpolicy hfixed _

end Codes

section Types

variable {storage : StorageType} {type live : ColumnType}

/-- A type of some storage with its size is read as itself. -/
theorem canonical_of_sized (hstorage : storage ∈ storageTypes) (hconverts : storage.convertsTo = none)
    (hsized : Sized storage type) (hbounded : type.scale.isSome = true → type.isMax = false) : Canonical type := by
  have hfound : storageType? type.reported.name = some storage := hsized.name ▸ storageType?_code storage hstorage
  unfold Canonical ColumnType.ofCatalog
  simp only [hfound, hconverts]
  have hunbounded := hsized.unbounded
  obtain ⟨name, precision, scale⟩ := type
  have hname : name = storage.code := hsized.name
  have hsome : precision.isSome = true ↔ storage.policy ≠ .none := hsized.precision
  have hplaces : scale.isSome = true ↔ storage.policy = .precisionAndScale := hsized.scale
  cases hpolicy : storage.policy with
  | none =>
      have hprecision : precision = none := by simpa [hpolicy] using hsome
      have hscale : scale = none := by simpa [hpolicy] using hplaces
      rw [hprecision, hscale, ← hname]
  | precision =>
      have hscale : scale = none := by simpa [hpolicy] using hplaces
      obtain ⟨length, rfl⟩ := Option.isSome_iff_exists.1 (hsome.2 (by simp [hpolicy]))
      subst hscale
      cases hmax : ColumnType.isMax { name, precision := some length } with
      | true =>
          obtain rfl : length = maxLength := by simpa [ColumnType.isMax] using hmax
          simp [ColumnType.reported, hmax, hunbounded hpolicy hmax, hname.symm]
      | false => simp [ColumnType.reported, hmax, hname.symm]
  | precisionAndScale =>
      obtain ⟨digits, rfl⟩ := Option.isSome_iff_exists.1 (hsome.2 (by simp [hpolicy]))
      obtain ⟨places, rfl⟩ := Option.isSome_iff_exists.1 (hplaces.2 hpolicy)
      have hmax : ColumnType.isMax { name, precision := some digits, scale := some places } = false := hbounded rfl
      simp [ColumnType.reported, hmax, hname.symm]

theorem canonical_of_registered (h : Registered type) : Canonical type := by
  obtain ⟨storage, hstorage, hconverts, hsized⟩ := sized_of_registered h
  exact canonical_of_sized hstorage hconverts hsized (bounded_of_registered h)

/-- A type that names some storage and has the parts of a size that this storage has. -/
structure Shaped (storage : StorageType) (type : ColumnType) : Prop where
  name : type.name = storage.code
  precision : type.precision.isSome = true ↔ storage.policy ≠ .none
  scale : type.scale.isSome = true ↔ storage.policy = .precisionAndScale

/-- What a storage type converts to is another one with its size. -/
theorem shaped_of_converted : ∀ storage ∈ storageTypes, ∀ target ∈ storage.convertsTo,
    ∃ other ∈ storageTypes, other.convertsTo = none ∧ target.name = other.code
      ∧ (target.precision.isSome = true ↔ other.policy ≠ .none)
      ∧ (target.scale.isSome = true ↔ other.policy = .precisionAndScale)
      ∧ (target.isMax = true → other.supportsMax = true ∧ target.scale = none) := by
  decide +kernel

/-- The default sizes of a storage type are those that its policy asks for, and they are bounded. -/
theorem defaults_of_storage : ∀ storage ∈ storageTypes,
    (storage.policy ≠ .none → storage.defaultPrecision.isSome = true) ∧ storage.defaultPrecision ≠ some maxLength
      ∧ (storage.policy = .precisionAndScale → storage.defaultScale.isSome = true) := by
  decide +kernel

/-- What is read from the catalog under a known name is a storage type with its size. -/
theorem shaped_ofCatalog {reported : ColumnType} (h : (storageType? reported.name).isSome = true) :
    ∃ storage ∈ storageTypes, storage.convertsTo = none ∧ Shaped storage reported.ofCatalog := by
  obtain ⟨storage, hfound⟩ := Option.isSome_iff_exists.1 h
  have hstorage : storage ∈ storageTypes := List.mem_of_find?_eq_some hfound
  unfold ColumnType.ofCatalog
  simp only [hfound]
  cases hconverts : storage.convertsTo with
  | some target =>
      obtain ⟨other, hother, hplain, hname, hprecision, hscale, -⟩ :=
        shaped_of_converted storage hstorage target hconverts
      exact ⟨other, hother, hplain, hname, hprecision, hscale⟩
  | none =>
      obtain ⟨hprecision, -, hscale⟩ := defaults_of_storage storage hstorage
      refine ⟨storage, hstorage, hconverts, ?_⟩
      cases hpolicy : storage.policy with
      | none => exact ⟨rfl, by simp [hpolicy], by simp [hpolicy]⟩
      | precision =>
          have hunbounded : (if storage.supportsMax = true then some maxLength else storage.defaultPrecision).isSome =
              true := by
            split
            · rfl
            · exact hprecision (by simp [hpolicy])
          exact ⟨rfl, by simp [hpolicy, hunbounded], by simp [hpolicy]⟩
      | precisionAndScale =>
          exact ⟨rfl, by simp [hpolicy, hprecision], by simp [hpolicy, hscale]⟩

/-- A canonical type is unbounded only where there is an unbounded variant, and then it has no scale. -/
theorem max_of_canonical (hknown : (storageType? type.name).isSome = true) (h : Canonical type)
    (hmax : type.isMax = true) : supportsMax type.name = true ∧ type.scale = none := by
  obtain ⟨storage, hfound⟩ := Option.isSome_iff_exists.1 hknown
  have hstorage : storage ∈ storageTypes := List.mem_of_find?_eq_some hfound
  have hlongest : type.precision = some maxLength := by simpa [ColumnType.isMax] using hmax
  have hnone : type.reported.precision = none := by rw [ColumnType.reported, hmax, if_pos rfl]
  have hname : storageType? type.reported.name = some storage := hfound
  obtain ⟨-, hdefault, -⟩ := defaults_of_storage storage hstorage
  unfold Canonical ColumnType.ofCatalog at h
  simp only [hname] at h
  cases hconverts : storage.convertsTo with
  | some target =>
      rw [hconverts] at h
      obtain ⟨other, hother, -, hcode, -, -, hlong⟩ := shaped_of_converted storage hstorage target hconverts
      rw [show target = type from h] at hcode hlong
      obtain ⟨hsupports, hscale⟩ := hlong hmax
      rw [hcode, supportsMax_code hother]
      exact ⟨hsupports, hscale⟩
  | none =>
      rw [hconverts] at h
      cases hpolicy : storage.policy with
      | none =>
          simp only [hpolicy] at h
          rw [← h] at hlongest
          cases hlongest
      | precision =>
          simp only [hpolicy, hnone] at h
          have hsupports : storage.supportsMax = true := by
            cases hcase : storage.supportsMax with
            | true => rfl
            | false =>
                rw [← h, hcase] at hlongest
                exact absurd hlongest hdefault
          rw [← h, supportsMax_code hstorage]
          exact ⟨hsupports, rfl⟩
      | precisionAndScale =>
          simp only [hpolicy, hnone] at h
          rw [← h] at hlongest
          exact absurd hlongest hdefault

/-- A known type is canonical exactly if some code of the model language declares it. -/
theorem canonical_iff_registered (hknown : (storageType? type.name).isSome = true) :
    Canonical type ↔ Registered type := by
  refine ⟨fun h => ?_, canonical_of_registered⟩
  have hreported : type.reported.ofCatalog = type := h
  have hname : (storageType? type.reported.name).isSome = true := hknown
  have hmax := max_of_canonical hknown h
  obtain ⟨storage, hstorage, hconverts, hshape⟩ := shaped_ofCatalog hname
  rw [hreported] at hshape
  refine registered_of_sized hstorage hconverts ⟨hshape.name, hshape.precision, hshape.scale, fun _ hlongest => ?_⟩
    fun hscale => ?_
  · rw [← supportsMax_code hstorage, ← hshape.name]
    exact (hmax hlongest).1
  · cases hlongest : type.isMax with
    | false => rfl
    | true =>
        rw [(hmax hlongest).2] at hscale
        cases hscale

end Types

section Sizes

variable {field live : Field}

theorem compareLength_eq_none_iff {length other : Int} :
    compareLength (some length) (some other) = none ↔ other = length := by
  unfold compareLength
  dsimp only
  split
  · rename_i hsame
    exact iff_of_true rfl hsame.symm
  · rename_i hother
    refine iff_of_false (fun h => ?_) fun hsame => hother hsame.symm
    split at h
    · cases h
    · split at h
      · cases h
      · split at h <;> cases h

theorem compareDecimal_eq_none_iff {target actual : ColumnType} {precision other : Int}
    (htarget : target.precision = some precision) (hactual : actual.precision = some other) :
    compareDecimal target actual = none ↔ other = precision ∧ actual.scale.getD 0 = target.scale.getD 0 := by
  unfold compareDecimal
  rw [htarget, hactual]
  dsimp only
  split
  · rename_i hsame
    exact iff_of_true rfl ⟨hsame.1.symm, hsame.2.symm⟩
  · rename_i hother
    refine iff_of_false (fun h => ?_) fun hsame => hother ⟨hsame.1.symm, hsame.2.symm⟩
    split at h <;> cases h

theorem type_eq_iff {left right : ColumnType} (hname : left.name = right.name) :
    left = right ↔ left.precision = right.precision ∧ left.scale = right.scale := by
  obtain ⟨name, precision, scale⟩ := left
  cases right
  cases hname
  simp

/-- Texts have a length and decimals have digits; no other type has a size. -/
theorem family_of_policy : ∀ storage ∈ storageTypes, storage.convertsTo = none →
    (storage.policy = .precision → storage.family = .string)
      ∧ (storage.policy = .precisionAndScale → storage.family = .decimal) := by
  decide +kernel

/-- Two types of one storage with their sizes are told apart by their sizes. -/
theorem compareSize_eq_none_iff {storage : StorageType} (hstorage : storage ∈ storageTypes)
    (hconverts : storage.convertsTo = none) (hfield : Shaped storage field.type) (hlive : Shaped storage live.type) :
    compareSize field live = none ↔ live.type = field.type := by
  have hsame : sameName field.type.name live.type.name = true := by rw [hfield.name, hlive.name, sameName_refl]
  have hfamily : field.family? = some storage.family := by
    rw [Field.family?, typeFamily?, hfield.name, storageType?_code storage hstorage, Option.map_some]
  obtain ⟨hstring, hdecimal⟩ := family_of_policy storage hstorage hconverts
  have hfieldSize := hfield.precision
  have hliveSize := hlive.precision
  have hfieldScale := hfield.scale
  have hliveScale := hlive.scale
  rw [type_eq_iff (hlive.name.trans hfield.name.symm)]
  cases hpolicy : storage.policy with
  | none =>
      have hprecision : field.type.precision = none := by simpa [hpolicy] using hfieldSize
      have hlivePrecision : live.type.precision = none := by simpa [hpolicy] using hliveSize
      have hscale : field.type.scale = none := by simpa [hpolicy] using hfieldScale
      have hnoScale : live.type.scale = none := by simpa [hpolicy] using hliveScale
      refine iff_of_true ?_ ⟨hlivePrecision.trans hprecision.symm, hnoScale.trans hscale.symm⟩
      rw [compareSize, if_pos hsame, compareDecimal, hprecision, hlivePrecision]
      split <;> rfl
  | precision =>
      obtain ⟨length, hlength⟩ := Option.isSome_iff_exists.1 (hfieldSize.2 (by simp [hpolicy]))
      obtain ⟨other, hother⟩ := Option.isSome_iff_exists.1 (hliveSize.2 (by simp [hpolicy]))
      have hscale : field.type.scale = none := by simpa [hpolicy] using hfieldScale
      have hnoScale : live.type.scale = none := by simpa [hpolicy] using hliveScale
      rw [hstring hpolicy] at hfamily
      rw [compareSize_of_length hsame (.inl hfamily), hlength, hother, compareLength_eq_none_iff, hscale, hnoScale]
      simp
  | precisionAndScale =>
      obtain ⟨digits, hdigits⟩ := Option.isSome_iff_exists.1 (hfieldSize.2 (by simp [hpolicy]))
      obtain ⟨others, hothers⟩ := Option.isSome_iff_exists.1 (hliveSize.2 (by simp [hpolicy]))
      obtain ⟨places, hplaces⟩ := Option.isSome_iff_exists.1 (hfieldScale.2 hpolicy)
      obtain ⟨livePlaces, hlivePlaces⟩ := Option.isSome_iff_exists.1 (hliveScale.2 hpolicy)
      rw [hdecimal hpolicy] at hfamily
      rw [compareSize_of_digits hsame hfamily, compareDecimal_eq_none_iff hdigits hothers, hdigits, hothers, hplaces,
        hlivePlaces]
      simp

/-- A canonical type is compared with what the catalog reports as the same type by its size. -/
theorem compareSize_of_canonical (hknown : (storageType? field.type.name).isSome = true)
    (h : Canonical field.type) {reported : ColumnType} (hlive : live.type = reported.ofCatalog)
    (hname : live.type.name = field.type.name) : compareSize field live = none ↔ live.type = field.type := by
  have hself : (storageType? field.type.reported.name).isSome = true := hknown
  obtain ⟨storage, hstorage, hconverts, hshape⟩ := shaped_ofCatalog hself
  rw [show field.type.reported.ofCatalog = field.type from h] at hshape
  have hreported : (storageType? reported.name).isSome = true := by
    cases hcase : storageType? reported.name with
    | some other => rfl
    | none =>
        -- the live type would be in small letters and as little known as it is reported
        have hlower : live.type.name = Text.lowercase reported.name := by
          rw [hlive, ColumnType.ofCatalog, hcase]
        have hplain : ∀ storage ∈ storageTypes, Text.trimmed storage.code = storage.code := by decide +kernel
        have hunknown := storageType?_lowercase hcase (hplain storage hstorage)
          (sameName_iff.2 (by rw [← hlower, hname, hshape.name]))
        rw [storageType?_code storage hstorage] at hunknown
        cases hunknown
  obtain ⟨other, hother, -, hshape'⟩ := shaped_ofCatalog hreported
  rw [← hlive] at hshape'
  have hfound := storageType?_code other hother
  rw [← hshape'.name, hname, hshape.name, storageType?_code storage hstorage, Option.some.injEq] at hfound
  subst hfound
  exact compareSize_eq_none_iff hstorage hconverts hshape hshape'

end Sizes

section Compiled

variable {sources : List Model.Source} {db : Database} {table : Table} {field : Field}

/-- Where the type of a field comes from if the catalog knows it. What is declared through a code of the model
language is canonical. Any other name is kept with the size that is written behind it, which is canonical exactly if a
code declares the same type. Of canonical types every difference in size is seen, and only those with an unbounded
variant are unbounded. -/
theorem compiled_types_canonical (h : CompiledFrom sources db) (htable : table ∈ db.tables.items)
    (hfield : field ∈ table.fields) (hknown : (storageType? field.type.name).isSome = true) :
    ∃ declared, DeclaredIn sources declared
      ∧ (∀ place, declared.columnType place = .ok field.type)
      ∧ ((modelType? declared.code).isSome = true → Canonical field.type)
      ∧ (modelType? declared.code = none → field.type.name = declared.code
        ∧ declared.size = .ok (field.type.precision, field.type.scale))
      ∧ (Canonical field.type ↔ Registered field.type)
      ∧ (Canonical field.type →
        (∀ (live : Field) (reported : ColumnType), live.type = reported.ofCatalog → live.type.name = field.type.name →
          (compareSize field live = none ↔ live.type = field.type))
        ∧ (field.type.isMax = true → supportsMax field.type.name = true)) := by
  have htype : HasType db field.type := .inl ⟨table, htable, List.mem_map_of_mem hfield⟩
  obtain ⟨declared, hdeclared, hstored⟩ := h.exists_declared htype
  obtain ⟨precision, scale, hsize, hasked⟩ :=
    columnType_eq_ok_iff.1 (hstored fun fault => { fault, source := "", lineNumber := 0, line := "" })
  refine ⟨declared, hdeclared, hstored, fun hcode => canonical_of_registered ⟨_, hcode, hasked⟩, fun hcode => ?_,
    canonical_iff_registered hknown, fun hcanonical => ⟨fun live reported hlive hname => ?_, fun hmax => ?_⟩⟩
  · rw [ColumnType.ofDeclared, hcode] at hasked
    rw [← Except.ok.inj hasked]
    exact ⟨rfl, hsize⟩
  · exact compareSize_of_canonical hknown hcanonical hlive hname
  · exact (max_of_canonical hknown hcanonical hmax).1

/-- Prices, of which one is declared by the name that the database has for its type. -/
def priceFiles : List Model.Source :=
  [{ name := "price.dmd"
     text := "model Price \x7b\n  Decimal(9) Amount\n  numeric Listed\n  bytea(max) Scan\n\x7d\n" }]

theorem compiled_types_canonical_amount :
    (Model.compile {} priceFiles).error = none
      ∧ ∃ table ∈ (Model.compile {} priceFiles).schema.tables.items, ∃ field ∈ table.fields,
        field.name = "Amount" ∧ (storageType? field.type.name).isSome = true
        ∧ ∃ declared, DeclaredIn priceFiles declared
          ∧ (∀ place, declared.columnType place = .ok ⟨"numeric", some 9, some 0⟩)
          ∧ ((modelType? declared.code).isSome = true → Canonical ⟨"numeric", some 9, some 0⟩) := by
  have hcompiled : CompiledFrom priceFiles (Model.compile {} priceFiles).schema := .batch .empty priceFiles
  have hfacts : (Model.compile {} priceFiles).error = none
      ∧ ∃ table ∈ (Model.compile {} priceFiles).schema.tables.items, ∃ field ∈ table.fields,
        field.name = "Amount" ∧ field.type = ⟨"numeric", some 9, some 0⟩ := by decide +kernel
  obtain ⟨hsucceeds, table, htable, field, hfield, hname, htype⟩ := hfacts
  have hknown : (storageType? field.type.name).isSome = true := by
    rw [htype]
    decide +kernel
  obtain ⟨declared, hdeclared, hstored, hcanonical, -⟩ := compiled_types_canonical hcompiled htable hfield hknown
  rw [htype] at hstored hcanonical
  exact ⟨hsucceeds, table, htable, field, hfield, hname, hknown, declared, hdeclared, hstored, hcanonical⟩

/-- A column declared as `numeric` has no size in the schema, unlike every such column in the catalog, and it is not
compared with one of another size. A column declared as unbounded `bytea` is unbounded, though there are no bounds. -/
theorem listed_not_canonical :
    ∃ table ∈ (Model.compile {} priceFiles).schema.tables.items, ∃ listed ∈ table.fields, ∃ scan ∈ table.fields,
      (storageType? listed.type.name).isSome = true ∧ ¬Canonical listed.type
        ∧ compareSize listed { name := "Listed", type := ⟨"numeric", some 10, some 0⟩ } = none
        ∧ (storageType? scan.type.name).isSome = true ∧ scan.type.isMax = true
        ∧ supportsMax scan.type.name = false := by
  have hfacts : ∃ table ∈ (Model.compile {} priceFiles).schema.tables.items, ∃ listed ∈ table.fields,
      ∃ scan ∈ table.fields, listed.type = ⟨"numeric", none, none⟩ ∧ scan.type = ⟨"bytea", some maxLength, none⟩ := by
    decide +kernel
  obtain ⟨table, htable, listed, hlisted, scan, hscan, htype, hscanType⟩ := hfacts
  have hcompare : compareSize listed { name := "Listed", type := ⟨"numeric", some 10, some 0⟩ } =
      compareSize { name := "Listed", type := ⟨"numeric", none, none⟩ }
        { name := "Listed", type := ⟨"numeric", some 10, some 0⟩ } := by
    unfold compareSize Field.family?
    rw [htype]
  refine ⟨table, htable, listed, hlisted, scan, hscan, ?_⟩
  rw [hcompare, htype, hscanType]
  decide +kernel

end Compiled

end Catalog

end SchemaMigrate
