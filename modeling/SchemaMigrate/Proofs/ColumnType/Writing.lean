import SchemaMigrate.ColumnType.Render

/-!
How types are written. A type is written under a name, which stands alone or before a size of one number or
two. The name is the code of the storage type that the type resolves to, if that is known to the database.
-/

namespace SchemaMigrate

variable {type : ColumnType} {storage : StorageType}

/-- A negative number is written like a natural one, with a sign before it. -/
theorem toString_int_cases (number : Int) :
    ∃ digits : Nat, toString number = toString digits ∨ toString number = "-" ++ toString digits := by
  cases number with
  | ofNat digits => exact ⟨digits, .inl rfl⟩
  | negSucc digits => exact ⟨digits + 1, .inr rfl⟩

section Names

theorem resolved_of_unknown (h : storageType? type.name = none) : type.resolved = type := by
  rw [ColumnType.resolved, h, Option.bind_none, Option.getD_none]

theorem resolved_of_storage (h : storageType? type.name = some storage) :
    type.resolved = storage.convertsTo.getD type := by
  rw [ColumnType.resolved, h, Option.bind_some]

/-- What a type of the database converts to is a type of the database. -/
theorem isSome_resolved (h : (storageType? type.name).isSome = true) :
    (storageType? type.resolved.name).isSome = true := by
  have htargets : ∀ storage ∈ storageTypes, ∀ target ∈ storage.convertsTo,
      (storageType? target.name).isSome = true := by
    decide +kernel
  obtain ⟨storage, hstorage⟩ := Option.isSome_iff_exists.1 h
  rw [resolved_of_storage hstorage]
  cases htarget : storage.convertsTo with
  | none => exact h
  | some target => exact htargets storage (List.mem_of_find?_eq_some hstorage) target htarget

end Names

section Sizes

variable (base : String) (policy : Option SizePolicy) (precision scale : Option Int)

/-- A name is written as it is, or with a precision, or with a precision and a scale. -/
theorem sizedName_cases :
    sizedName base policy precision scale "" = base ∨
      (∃ size : Int, sizedName base policy precision scale "" = base ++ "(" ++ toString size ++ ")") ∨
      ∃ size digits : Int,
        sizedName base policy precision scale "" = base ++ "(" ++ toString size ++ "," ++ toString digits ++ ")" := by
  unfold sizedName
  split
  · exact .inl rfl
  · cases precision with
    | none => exact .inl rfl
    | some size =>
        dsimp only
        split
        · exact .inl String.append_empty
        · cases scale with
          | none => exact .inr (.inl ⟨size, rfl⟩)
          | some digits =>
              dsimp only
              split
              · exact .inr (.inl ⟨size, rfl⟩)
              · exact .inr (.inr ⟨size, digits, rfl⟩)

variable {base policy precision scale}

/-- Only an integer without a size is written as an integer. -/
theorem sizedName_integer (h : sizedName base policy precision scale "" = "integer") : base = "integer" := by
  have hsized (size : String) : base ++ ("(" ++ size) ≠ "integer" := by
    intro hsize
    have hmem : '(' ∈ (base ++ ("(" ++ size)).toList := by simp
    rw [hsize] at hmem
    revert hmem
    decide
  rcases sizedName_cases base policy precision scale with hbare | ⟨size, hwritten⟩ | ⟨size, digits, hwritten⟩
  · exact hbare.symm.trans h
  · rw [hwritten] at h
    simp only [String.append_assoc] at h
    exact absurd h (hsized _)
  · rw [hwritten] at h
    simp only [String.append_assoc] at h
    exact absurd h (hsized _)

end Sizes

section Types

/-- A type that is not known is written under its own name. -/
theorem sql_of_unknown (h : storageType? type.resolved.name = none) :
    type.sql = sizedName type.resolved.name none type.resolved.precision type.resolved.scale "" := by
  unfold ColumnType.sql ColumnType.write
  dsimp only
  rw [h]

/-- A type is written under the code of the storage type that it resolves to. -/
theorem sql_of_storage (h : storageType? type.resolved.name = some storage) :
    ∃ precision scale, type.sql = sizedName storage.code (some storage.policy) precision scale "" := by
  unfold ColumnType.sql ColumnType.write
  dsimp only
  rw [h]
  exact ⟨_, _, rfl⟩

end Types

end SchemaMigrate
