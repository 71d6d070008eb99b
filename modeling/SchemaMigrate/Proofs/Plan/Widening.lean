import SchemaMigrate.Proofs.Catalog.Reading
import SchemaMigrate.Proofs.Catalog.Values
import SchemaMigrate.Proofs.Model.Origins
import SchemaMigrate.Proofs.Plan.Due

/-!
Widening and live data, from the catalog to the plan. A column that the plan makes wider keeps every value
it can hold if the catalog reports how long its texts or how precise its numbers are. Where the catalog
reports no bound for `char` or `numeric`, one is made up, and the wider column may be too narrow.
-/

namespace SchemaMigrate

open Model (Declarable ofDeclared_name)

section Declared

theorem trimmed_of_declarable {type : ColumnType} (h : Declarable type) :
    Text.trimmed type.name = type.name := by
  have hstorage : ∀ known ∈ modelTypes, Text.trimmed known.storage = known.storage := by decide +kernel
  obtain ⟨declared, hname, hstored⟩ := h
  rcases ofDeclared_name hstored with ⟨-, rfl⟩ | ⟨known, hmem, -, hknown⟩
  · rw [Text.trimmed, Text.trim_of_isWord hname, String.ofList_toList]
  · rw [hknown]
    exact hstorage known hmem

/-- No declaration asks for `char` without a bound. -/
theorem char_bounded {type : ColumnType} (h : Declarable type) (hname : sameName type.name "char" = true) :
    type.precision ≠ some maxLength := by
  have hknown : ∀ known ∈ modelTypes, sameName known.storage "char" = true →
      known.fixed = false ∧ known.policy = .precision ∧ supportsMax known.storage = false
        ∧ known.defaultPrecision = some 1 := by decide +kernel
  obtain ⟨declared, -, hstored⟩ := h
  rcases ofDeclared_name hstored with ⟨hunknown, rfl⟩ | ⟨known, hmem, hstore, hstorage⟩
  · rw [modelType?, sameName_iff.1 hname] at hunknown
    exact absurd hunknown (by decide +kernel)
  · rw [hstorage] at hname
    obtain ⟨hfixed, hpolicy, hmax, hdefault⟩ := hknown known hmem hname
    simp only [ModelType.store, hfixed, hpolicy, hmax, hdefault, Bool.false_eq_true, if_false,
      reduceCtorEq] at hstore
    split at hstore
    · cases hstore
    · rename_i hbounded
      cases hstore
      intro hprecision
      cases hdeclared : declared.precision with
      | none =>
          rw [hdeclared] at hprecision
          cases hprecision
      | some precision =>
          rw [hdeclared] at hprecision
          exact hbounded (by rw [ColumnType.isMax, hdeclared]; simpa using hprecision)

end Declared

section Sizes

theorem compareLength_widen {target actual : Option Int}
    (h : compareLength target actual = some .widen) :
    ∃ wide narrow, target = some wide ∧ actual = some narrow ∧ narrow ≠ maxLength
      ∧ (wide = maxLength ∨ narrow < wide) := by
  unfold compareLength at h
  split at h
  · rename_i wide narrow
    refine ⟨wide, narrow, rfl, rfl, ?_⟩
    by_cases heq : wide = narrow
    · simp [heq] at h
    · by_cases hwide : wide = maxLength
      · exact ⟨fun hnarrow => heq (hwide.trans hnarrow.symm), .inl hwide⟩
      · by_cases hnarrow : narrow = maxLength
        · simp [hwide, hnarrow] at h
        · by_cases hlt : narrow < wide
          · exact ⟨hnarrow, .inr hlt⟩
          · simp [heq, hwide, hnarrow, hlt] at h
  · cases h

theorem compareDecimal_widen {target actual : ColumnType}
    (h : compareDecimal target actual = some .widen) :
    ∃ wide narrow, target.precision = some wide ∧ actual.precision = some narrow
      ∧ actual.scale.getD 0 ≤ target.scale.getD 0
      ∧ narrow - actual.scale.getD 0 ≤ wide - target.scale.getD 0 := by
  unfold compareDecimal at h
  split at h
  · rename_i wide narrow hwide hnarrow
    refine ⟨wide, narrow, hwide, hnarrow, ?_⟩
    simp only at h
    split at h
    · cases h
    · split at h
      · assumption
      · cases h
  · cases h

/-- Only columns of one type that has a size become wider. -/
theorem compareSize_widen {target actual : Field} (h : compareSize target actual = some .widen) :
    sameName target.type.name actual.type.name = true
      ∧ ((target.family? = some .string ∨ target.family? = some .binary)
          ∧ compareLength target.type.precision actual.type.precision = some .widen
        ∨ target.family? = some .decimal ∧ compareDecimal target.type actual.type = some .widen) := by
  unfold compareSize at h
  split at h
  · rename_i hsame
    refine ⟨hsame, ?_⟩
    split at h
    · rename_i hfamily
      exact .inl ⟨.inl hfamily, h⟩
    · rename_i hfamily
      exact .inl ⟨.inr hfamily, h⟩
    · rename_i hfamily
      exact .inr ⟨hfamily, h⟩
    · cases h
  · cases h

end Sizes

namespace Catalog

-- keys are compared as a whole from here on, never computed
attribute [local irreducible] nameKey

section Live

variable {row : ColumnRow}

/-- The kind of a type, and how it is spelled. -/
theorem kindOf_cases (type : String) :
    (kindOf type = .characters ∧ nameKey (Text.trimmed type) ∈ characterTypes)
      ∨ (kindOf type = .digits ∧ nameKey (Text.trimmed type) ∈ digitTypes)
      ∨ (kindOf type = .money ∧ nameKey (Text.trimmed type) = "money")
      ∨ (kindOf type = .other ∧ nameKey (Text.trimmed type) ∉ "money" :: digitTypes ++ characterTypes) := by
  simp only [kindOf, List.contains_iff_mem]
  by_cases hcharacters : nameKey (Text.trimmed type) ∈ characterTypes
  · rw [if_pos hcharacters]
    exact .inl ⟨rfl, hcharacters⟩
  · by_cases hdigits : nameKey (Text.trimmed type) ∈ digitTypes
    · rw [if_neg hcharacters, if_pos hdigits]
      exact .inr (.inl ⟨rfl, hdigits⟩)
    · by_cases hmoney : nameKey (Text.trimmed type) = "money"
      · rw [if_neg hcharacters, if_neg hdigits, if_pos hmoney]
        exact .inr (.inr (.inl ⟨rfl, hmoney⟩))
      · rw [if_neg hcharacters, if_neg hdigits, if_neg hmoney]
        refine .inr (.inr (.inr ⟨rfl, ?_⟩))
        simp [hcharacters, hdigits, hmoney]

attribute [local irreducible] kindOf

/-- A live column of texts has the length that is reported. Without one `varchar` is unbounded, but `char`
is taken to be of length one. -/
theorem columnType_characters (h : nameKey (Text.trimmed row.type) ∈ characterTypes)
    (hreported : row.numericPrecision = none) :
    row.columnType = { name := "char", precision := row.charLength <|> some 1 }
      ∨ row.columnType = { name := "varchar", precision := row.charLength <|> some maxLength }
      ∨ row.columnType = { name := "varchar", precision := some maxLength } := by
  have hlength : (row.charLength <|> row.numericPrecision) = row.charLength := by
    rw [hreported]
    cases row.charLength <;> rfl
  simp only [characterTypes, List.mem_cons, List.not_mem_nil, or_false] at h
  unfold ColumnRow.columnType ColumnType.ofCatalog storageType?
  rw [hlength]
  rcases h with hkey | hkey | hkey | hkey | hkey | hkey
  · rw [hkey]
    exact .inr (.inl rfl)
  · rw [hkey]
    exact .inr (.inl rfl)
  · rw [hkey]
    exact .inr (.inr rfl)
  · rw [hkey]
    exact .inl rfl
  · rw [hkey]
    exact .inl rfl
  · rw [hkey]
    exact .inl rfl

/-- A live column of numbers without a precision is taken to have eighteen digits. -/
theorem columnType_digits (h : nameKey (Text.trimmed row.type) ∈ digitTypes)
    (hreported : row.charLength = none) :
    row.columnType = { name := "numeric", precision := row.numericPrecision <|> some 18
                       scale := row.numericScale <|> some 0 } := by
  have hprecision : (row.charLength <|> row.numericPrecision) = row.numericPrecision := by
    rw [hreported]
    rfl
  simp only [digitTypes, List.mem_cons, List.not_mem_nil, or_false] at h
  unfold ColumnRow.columnType ColumnType.ofCatalog storageType?
  rw [hprecision]
  rcases h with hkey | hkey
  · rw [hkey]
    rfl
  · rw [hkey]
    rfl

theorem columnType_money (h : nameKey (Text.trimmed row.type) = "money") :
    row.columnType = { name := "numeric", precision := some 19, scale := some 4 } := by
  unfold ColumnRow.columnType ColumnType.ofCatalog storageType?
  rw [h]
  rfl

/-- A live column of another kind is not known or has no size. -/
theorem columnType_other
    (h : nameKey (Text.trimmed row.type) ∉ "money" :: digitTypes ++ characterTypes) :
    storageType? row.type = none ∧ row.columnType.name = Text.lowercase row.type
      ∨ row.columnType.precision = none := by
  have hother : ∀ type ∈ storageTypes, ∀ spelling ∈ type.spellings,
      spelling ∉ "money" :: digitTypes ++ characterTypes →
        type.convertsTo = none ∧ type.policy = .none := by decide +kernel
  unfold ColumnRow.columnType ColumnType.ofCatalog
  cases hknown : storageType? row.type with
  | none => exact .inl ⟨rfl, rfl⟩
  | some type =>
      obtain ⟨hmem, hspelling⟩ := storageType?_eq_some hknown
      obtain ⟨hconverts, hpolicy⟩ := hother type hmem _ hspelling h
      right
      simp only [hconverts, hpolicy]
end Live

section Values

variable {row : ColumnRow} {type : ColumnType} {places : ℕ} {wide : Int}

/-- Texts of a reported length fit into a greater one. -/
theorem text_kept (hkind : kindOf row.type = .characters) (hfamily : typeFamily? type.name = some .string)
    {narrow : Int} (hlength : row.charLength = some narrow) (hprecision : type.precision = some wide)
    (hwide : wide = maxLength ∨ narrow < wide) (value : Datum) (h : row.Holds places value) :
    type.Holds value := by
  obtain ⟨characters, rfl, hlimited⟩ := (ColumnRow.holds_characters_iff hkind).1 h
  have hfits := hlimited narrow hlength
  refine ⟨by simp [hfamily], fun _ limit hlimit hbounded => ?_⟩
  rw [hprecision, Option.some.injEq] at hlimit
  subst hlimit
  rcases hwide with hmax | hlt
  · exact absurd hmax hbounded
  · omega

/-- Texts without a reported length need not fit into any. -/
theorem text_lost (hkind : kindOf row.type = .characters) (hfamily : typeFamily? type.name = some .string)
    (hlength : row.charLength = none) (hprecision : type.precision = some wide)
    (hbounded : wide ≠ maxLength) :
    ¬ ∀ value, row.Holds places value → type.Holds value := by
  intro h
  have hheld : row.Holds places (.text (List.replicate (wide.toNat + 1) 'x')) := by
    refine (ColumnRow.holds_characters_iff hkind).2 ⟨_, rfl, ?_⟩
    intro limit hlimit
    rw [hlength] at hlimit
    cases hlimit
  have hfits := (h _ hheld).2 hfamily wide hprecision hbounded
  rw [List.length_replicate] at hfits
  omega

/-- Numbers of a reported precision fit into one with as many digits on either side of the point. -/
theorem number_kept (hkind : kindOf row.type = .digits) (hfamily : typeFamily? type.name = some .decimal)
    {narrow : Int} (hreported : row.numericPrecision = some narrow) (hprecision : type.precision = some wide)
    (hscale : row.numericScale.getD 0 ≤ type.scale.getD 0)
    (hwhole : narrow - row.numericScale.getD 0 ≤ wide - type.scale.getD 0)
    (value : Datum) (h : row.Holds places value) : type.Holds value := by
  obtain ⟨number, rfl, hdigits⟩ := (ColumnRow.holds_digits_iff hkind).1 h
  refine ⟨by simp [hfamily], fun _ precision hsome _ => ?_⟩
  rw [hprecision, Option.some.injEq] at hsome
  subst hsome
  exact (hdigits narrow hreported).widen hscale hwhole

/-- Numbers without a reported precision need not fit into any. -/
theorem number_lost (hkind : kindOf row.type = .digits) (hfamily : typeFamily? type.name = some .decimal)
    (hreported : row.numericPrecision = none) (hprecision : type.precision = some wide)
    (hbounded : wide ≠ maxLength) :
    ¬ ∀ value, row.Holds places value → type.Holds value := by
  intro h
  obtain ⟨value, hvalue⟩ := exists_not_fitsDigits wide (type.scale.getD 0)
  have hheld : row.Holds places (.number value) := by
    refine (ColumnRow.holds_digits_iff hkind).2 ⟨_, rfl, ?_⟩
    intro precision hsome
    rw [hreported] at hsome
    cases hsome
  exact hvalue ((h _ hheld).2 hfamily wide hprecision hbounded)

/-- Money fits if its places and its whole range do. -/
theorem money_kept_iff (hkind : kindOf row.type = .money) (hfamily : typeFamily? type.name = some .decimal)
    (hprecision : type.precision = some wide) (hbounded : wide ≠ maxLength) :
    (∀ value, row.Holds places value → type.Holds value) ↔ row.Tells places type := by
  have htells : row.Tells places type ↔ (places : Int) ≤ type.scale.getD 0
      ∧ (2 ^ 63 : ℚ) < (10 : ℚ) ^ (wide - type.scale.getD 0 + places) := by
    unfold ColumnRow.Tells
    rw [hkind]
    simp [hprecision]
  rw [htells, ← fitsDigits_money_iff]
  constructor
  · intro h units hlow hhigh
    have hheld : row.Holds places (.number (units / (10 : ℚ) ^ places)) :=
      (ColumnRow.holds_money_iff hkind).2 ⟨units, hlow, hhigh, rfl⟩
    exact (h _ hheld).2 hfamily wide hprecision hbounded
  · intro h value hheld
    obtain ⟨units, hlow, hhigh, rfl⟩ := (ColumnRow.holds_money_iff hkind).1 hheld
    refine ⟨by simp [hfamily], fun _ precision hsome _ => ?_⟩
    rw [hprecision, Option.some.injEq] at hsome
    subst hsome
    exact h units hlow hhigh

end Values

section Columns

variable {row : ColumnRow} {field : Field} {places : ℕ} {primaryKey : List String}

/-- The storage types of live columns that have a size, with their families. -/
def sizedTypes : List (String × TypeFamily) := [("char", .string), ("varchar", .string), ("numeric", .decimal)]

/-- A field of the name of a storage type is of its family. -/
theorem family_of_sameName {live : ColumnType} {family : TypeFamily} (hlive : (live.name, family) ∈ sizedTypes)
    (hsame : sameName field.type.name live.name = true) :
    field.family? = some family := by
  have hsized : ∀ sized ∈ sizedTypes, typeFamily? sized.1 = some sized.2 := by decide +kernel
  have hfamily := hsized _ hlive
  exact (typeFamily?_congr hsame).trans hfamily

theorem characters_kept_iff (hkind : kindOf row.type = .characters)
    (hspelling : nameKey (Text.trimmed row.type) ∈ characterTypes) (hreported : row.Reported)
    (htype : Declarable field.type) (h : compareSize field (row.field primaryKey) = some .widen) :
    (∀ value, row.Holds places value → field.type.Holds value) ↔ row.Tells places field.type := by
  unfold ColumnRow.Reported at hreported
  unfold ColumnRow.Tells
  rw [hkind] at hreported ⊢
  obtain ⟨hsame, hsizes⟩ := compareSize_widen h
  change sameName field.type.name row.columnType.name = true at hsame
  have hlive := columnType_characters hspelling hreported
  have hfamily : field.family? = some .string := by
    refine family_of_sameName ?_ hsame
    rcases hlive with hlive | hlive | hlive <;> simp [hlive, sizedTypes]
  have hlength : compareLength field.type.precision row.columnType.precision = some .widen := by
    rcases hsizes with ⟨-, hlength⟩ | ⟨hdecimal, -⟩
    · exact hlength
    · rw [hfamily] at hdecimal
      cases hdecimal
  obtain ⟨wide, narrow, hwide, hnarrow, hbounded, hlt⟩ := compareLength_widen hlength
  cases hreach : row.charLength with
  | some limit =>
      have hlimit : limit = narrow := by
        rw [hreach] at hlive
        rcases hlive with hlive | hlive | hlive
        · rw [hlive] at hnarrow
          exact Option.some.inj hnarrow
        · rw [hlive] at hnarrow
          exact Option.some.inj hnarrow
        · rw [hlive] at hnarrow
          exact absurd (Option.some.inj hnarrow).symm hbounded
      exact iff_of_true (text_kept hkind hfamily hreach hwide (hlimit ▸ hlt)) rfl
  | none =>
      refine iff_of_false (text_lost hkind hfamily hreach hwide ?_) (by simp)
      rw [hreach] at hlive
      rcases hlive with hlive | hlive | hlive
      · rw [hlive] at hsame
        intro hmax
        exact char_bounded htype hsame (hmax ▸ hwide)
      · rw [hlive] at hnarrow
        exact absurd (Option.some.inj hnarrow).symm hbounded
      · rw [hlive] at hnarrow
        exact absurd (Option.some.inj hnarrow).symm hbounded

/-- A widening of a decimal column compares the digits on either side of the point. -/
theorem decimal_widen {live : ColumnType} (hlive : row.columnType = live)
    (hnumeric : live.name = "numeric")
    (h : compareSize field (row.field primaryKey) = some .widen) :
    field.family? = some .decimal ∧ ∃ wide narrow, field.type.precision = some wide
      ∧ live.precision = some narrow ∧ live.scale.getD 0 ≤ field.type.scale.getD 0
      ∧ narrow - live.scale.getD 0 ≤ wide - field.type.scale.getD 0 := by
  obtain ⟨hsame, hsizes⟩ := compareSize_widen h
  change sameName field.type.name row.columnType.name = true at hsame
  rw [hlive] at hsame
  have hfamily : field.family? = some .decimal :=
    family_of_sameName (by simp [hnumeric, sizedTypes]) hsame
  refine ⟨hfamily, ?_⟩
  rcases hsizes with ⟨hstring | hbinary, -⟩ | ⟨-, hdecimal⟩
  · rw [hfamily] at hstring
    cases hstring
  · rw [hfamily] at hbinary
    cases hbinary
  · rw [← hlive]
    exact compareDecimal_widen hdecimal

theorem digits_kept_iff (hkind : kindOf row.type = .digits)
    (hspelling : nameKey (Text.trimmed row.type) ∈ digitTypes) (hreported : row.Reported)
    (h : compareSize field (row.field primaryKey) = some .widen) :
    (∀ value, row.Holds places value → field.type.Holds value) ↔ row.Tells places field.type := by
  unfold ColumnRow.Reported at hreported
  unfold ColumnRow.Tells
  rw [hkind] at hreported ⊢
  obtain ⟨hfamily, wide, narrow, hwide, hnarrow, hscale, hwhole⟩ :=
    decimal_widen (columnType_digits hspelling hreported) rfl h
  have hlive : (row.numericScale <|> some 0).getD 0 = row.numericScale.getD 0 := by
    cases row.numericScale <;> rfl
  simp only [hlive] at hscale hwhole
  cases hreach : row.numericPrecision with
  | some precision =>
      rw [hreach] at hnarrow
      obtain rfl : precision = narrow := Option.some.inj hnarrow
      exact iff_of_true (number_kept hkind hfamily hreach hwide hscale hwhole) rfl
  | none =>
      rw [hreach] at hnarrow
      obtain rfl : 18 = narrow := Option.some.inj hnarrow
      refine iff_of_false (number_lost hkind hfamily hreach hwide ?_) (by simp)
      intro hmax
      rw [maxLength] at hmax
      omega

theorem money_column_kept_iff (hkind : kindOf row.type = .money)
    (hspelling : nameKey (Text.trimmed row.type) = "money")
    (h : compareSize field (row.field primaryKey) = some .widen) :
    (∀ value, row.Holds places value → field.type.Holds value) ↔ row.Tells places field.type := by
  obtain ⟨hfamily, wide, narrow, hwide, hnarrow, hscale, hwhole⟩ :=
    decimal_widen (columnType_money hspelling) rfl h
  obtain rfl : 19 = narrow := Option.some.inj hnarrow
  refine money_kept_iff hkind hfamily hwide ?_
  intro hmax
  simp only [Option.getD_some] at hscale hwhole
  rw [maxLength] at hmax
  omega

/-- Columns of other kinds are never made wider. -/
theorem other_not_widened
    (hspelling : nameKey (Text.trimmed row.type) ∉ "money" :: digitTypes ++ characterTypes)
    (htype : Declarable field.type) : compareSize field (row.field primaryKey) ≠ some .widen := by
  intro h
  obtain ⟨hsame, hsizes⟩ := compareSize_widen h
  change sameName field.type.name row.columnType.name = true at hsame
  rcases columnType_other hspelling with ⟨hunknown, hname⟩ | hnone
  · rw [hname] at hsame
    have hfamily : field.family? = none := by
      rw [Field.family?, typeFamily?,
        storageType?_lowercase hunknown (trimmed_of_declarable htype) hsame, Option.map_none]
    rw [hfamily] at hsizes
    rcases hsizes with ⟨hstring | hbinary, -⟩ | ⟨hdecimal, -⟩
    · cases hstring
    · cases hbinary
    · cases hdecimal
  · rcases hsizes with ⟨-, hlength⟩ | ⟨-, hdecimal⟩
    · obtain ⟨-, narrow, -, hnarrow, -⟩ := compareLength_widen hlength
      rw [ColumnRow.field, hnone] at hnarrow
      cases hnarrow
    · obtain ⟨-, narrow, -, hnarrow, -⟩ := compareDecimal_widen hdecimal
      rw [ColumnRow.field, hnone] at hnarrow
      cases hnarrow

variable (places) in
/-- A column that becomes wider keeps all it can hold exactly if its row tells enough. -/
theorem widened_kept_iff (hreported : row.Reported) (htype : Declarable field.type)
    (h : compareSize field (row.field primaryKey) = some .widen) :
    kindOf row.type ≠ .other
      ∧ ((∀ value, row.Holds places value → field.type.Holds value) ↔ row.Tells places field.type) := by
  rcases kindOf_cases row.type with
    ⟨hkind, hspelling⟩ | ⟨hkind, hspelling⟩ | ⟨hkind, hspelling⟩ | ⟨hkind, hspelling⟩
  · exact ⟨by simp [hkind], characters_kept_iff hkind hspelling hreported htype h⟩
  · exact ⟨by simp [hkind], digits_kept_iff hkind hspelling hreported h⟩
  · exact ⟨by simp [hkind], money_column_kept_iff hkind hspelling h⟩
  · exact absurd h (other_not_widened hspelling htype)

end Columns

end Catalog

section Plans

open Catalog (ColumnRow Source introspect kindOf)

attribute [local irreducible] nameKey kindOf

/-- A widening in a plan makes a live column of the field's name wider. -/
theorem widening_of_plan {target actual : Database} {step : Step}
    (hstep : step ∈ (Plan.between target actual).steps) (haction : step.action = .alterColumn)
    (hwidening : step.widening = true) :
    ∃ table ∈ target.tables.items, ∃ field ∈ table.fields, step = .alterColumn table.name field true
      ∧ ∃ live liveField, actual.table? table.name = some live
          ∧ live.field? field.name = some liveField ∧ compareSize field liveField = some .widen := by
  cases Plan.mem_between_iff.1 hstep with
  | alterColumn widening htable hlive hfield hdecision =>
      obtain rfl : widening = true := hwidening
      cases decideColumn_eq_iff.1 hdecision with
      | widen hliveField hsize => exact ⟨_, htable, _, hfield, rfl, _, _, hlive, hliveField, hsize⟩
  | createTable | addColumn | addForeignKey | addIndex => cases haction

/-- The live field of a name belongs to the first row of the name. -/
theorem row_of_field {columns : List ColumnRow} {primaryKey : List String} {name : String} {field : Field}
    (h : findNamed? (columns.map (·.field primaryKey)) name = some field) :
    ∃ row, columns.find? (fun row => sameName row.name name) = some row
      ∧ field = row.field primaryKey := by
  rw [findNamed?, List.find?_map] at h
  obtain ⟨row, hrow, hfield⟩ := Option.map_eq_some_iff.1 h
  exact ⟨row, hrow, hfield.symm⟩

/-- Widening from the catalog to the plan. For every widening of a compiled model against a live database
there is the row of the live column, and the column keeps every value that it can hold exactly if the row
tells enough: the length of texts, the precision of numbers, and of money that the new type takes the
whole range of it. -/
theorem widening_keeps_iff (places : ℕ) {source : Source} {schema : String} {target actual : Database}
    (htarget : Model.Compiled target)
    (hactual : ((introspect source schema).run.run []).1 = .ok actual)
    (hreported : ∀ table columns, source.columns schema table = .ok columns →
      ∀ row ∈ columns, row.Reported)
    {step : Step} (hstep : step ∈ (Plan.between target actual).steps)
    (haction : step.action = .alterColumn) (hwidening : step.widening = true) :
    ∃ table ∈ target.tables.items, ∃ field ∈ table.fields, step = .alterColumn table.name field true
      ∧ ∃ live ∈ actual.tables.items, sameName live.name table.name = true
        ∧ ∃ columns row, source.columns schema live.name = .ok columns
          ∧ columns.find? (fun row => sameName row.name field.name) = some row
          ∧ kindOf row.type ≠ .other
          ∧ ((∀ value, row.Holds places value → field.type.Holds value) ↔ row.Tells places field.type) := by
  obtain ⟨table, htable, field, hfield, heq, live, liveField, hlive, hliveField, hwiden⟩ :=
    widening_of_plan hstep haction hwidening
  have hmem := NameMap.mem_of_get? hlive
  obtain ⟨columns, primaryKey, hcolumns, hfields⟩ := Catalog.introspect_answer hactual hmem
  rw [Table.field?, hfields] at hliveField
  obtain ⟨row, hrow, hrowField⟩ := row_of_field hliveField
  rw [hrowField] at hwiden
  have hiff := Catalog.widened_kept_iff places (hreported live.name columns hcolumns row
    (List.mem_of_find?_eq_some hrow)) (htarget.typed.tables table htable field hfield) hwiden
  have hname : sameName live.name table.name = true := NameMap.sameName_of_get? hlive
  refine ⟨table, htable, field, hfield, heq, live, hmem, hname, columns, row, hcolumns, hrow, ?_⟩
  exact hiff

/-- A model with amounts of money in cents. -/
def centsModel : Model.Source := { name := "cents", text := "model T \x7b\n  decimal(20,2) X\n\x7d" }

/-- A column of numbers of any size. -/
def bareNumeric : ColumnRow := { name := "X", type := "numeric" }

/-- A catalog with one table that has such a column. -/
def bareSource : Source where
  tables _ := .ok ["T"]
  columns _ _ := .ok [bareNumeric]
  primaryKey _ _ := .ok []
  foreignKeys _ _ := .ok []
  indexes _ _ := .ok []

/-- What introspection makes of it. -/
def bareLive : Database where
  tables :=
    { items :=
        [{ name := "T"
           fields := [{ name := "X", type := { name := "numeric", precision := some 18, scale := some 0 } }] }]
      distinct := by decide +kernel }

theorem introspect_bareSource : ((introspect bareSource "public").run.run []).1 = .ok bareLive := by
  decide +kernel

theorem kindOf_bareNumeric : kindOf bareNumeric.type = .digits := by
  decide +kernel

theorem bareSource_reported (table : String) (columns : List ColumnRow)
    (h : bareSource.columns "public" table = .ok columns) : ∀ row ∈ columns, row.Reported := by
  cases h
  intro row hmem
  rw [List.mem_singleton] at hmem
  unfold ColumnRow.Reported
  rw [hmem, kindOf_bareNumeric]
  rfl

/-- The field as the model wants it. -/
def centsField : Field := { name := "X", type := { name := "numeric", precision := some 20, scale := some 2 } }

theorem centsField_widened :
    .alterColumn "T" centsField true ∈
      (Plan.between (Model.compile {} [centsModel]).schema bareLive).steps := by
  decide +kernel

/-- The column of any numbers is to become wider. -/
theorem widening_keeps_iff_cents :
    ∃ table ∈ (Model.compile {} [centsModel]).schema.tables.items, ∃ field ∈ table.fields,
      Step.alterColumn "T" centsField true = .alterColumn table.name field true
        ∧ ∃ live ∈ bareLive.tables.items, sameName live.name table.name = true
          ∧ ∃ columns row, bareSource.columns "public" live.name = .ok columns
            ∧ columns.find? (fun row => sameName row.name field.name) = some row
            ∧ kindOf row.type ≠ .other
            ∧ ((∀ value, row.Holds 2 value → field.type.Holds value) ↔ row.Tells 2 field.type) :=
  widening_keeps_iff 2 (.batch .empty [centsModel]) introspect_bareSource bareSource_reported
    centsField_widened rfl rfl

/-- A widening may lose data: a column of any numbers is made one of twenty digits without a check, and the
number `10 ^ 18` does not fit. -/
theorem bare_numeric_lost :
    ∃ actual, ((introspect bareSource "public").run.run []).1 = .ok actual
      ∧ .alterColumn "T" centsField true ∈
          (Plan.between (Model.compile {} [centsModel]).schema actual).steps
      ∧ bareNumeric.Holds 2 (.number (10 ^ 18)) ∧ ¬ centsField.type.Holds (.number (10 ^ 18)) := by
  refine ⟨bareLive, introspect_bareSource, centsField_widened, ?_, fun h => ?_⟩
  · refine (ColumnRow.holds_digits_iff kindOf_bareNumeric).2 ⟨_, rfl, ?_⟩
    intro precision hsome
    cases hsome
  · have hfits := (h.2 (by decide +kernel) 20 rfl (by decide)).2
    norm_num [centsField] at hfits

end Plans

end SchemaMigrate
