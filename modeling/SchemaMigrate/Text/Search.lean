/-!
Texts inside texts.
-/

namespace SchemaMigrate.Text

/-- Whether a text occurs in another; the empty text occurs in every one. -/
def occursIn (part : List Char) : List Char → Bool
  | [] => part.isEmpty
  | c :: rest => part.isPrefixOf (c :: rest) || occursIn part rest

/-- Whether a string holds another. -/
def holds (text part : String) : Bool := occursIn part.toList text.toList

/-- Whether a string starts with another. -/
def startsWith (text part : String) : Bool := part.toList.isPrefixOf text.toList

/-- What follows a string at the front of another. -/
def after? (text part : String) : Option String :=
  (part.toList.isPrefixOf? text.toList).map String.ofList

/-- Writes `value` for every occurrence of a text, read from the left; `skip` characters of an occurrence
are still to be passed over. -/
def replaceFrom (part value : List Char) (skip : Nat) : List Char → List Char
  | [] => []
  | c :: rest =>
      match skip with
      | skip + 1 => replaceFrom part value skip rest
      | 0 =>
          if part.isPrefixOf (c :: rest) then value ++ replaceFrom part value (part.length - 1) rest
          else c :: replaceFrom part value 0 rest

/-- Writes `value` for every occurrence of a text that is not empty. -/
def replaceAll (text part value : String) : String :=
  String.ofList (replaceFrom part.toList value.toList 0 text.toList)

theorem occursIn_iff {part text : List Char} :
    occursIn part text = true ↔ ∃ before after, text = before ++ part ++ after := by
  induction text with
  | nil =>
      simp only [occursIn, List.isEmpty_iff]
      constructor
      · rintro rfl
        exact ⟨[], [], rfl⟩
      · rintro ⟨before, after, h⟩
        have := congrArg List.length h
        simp only [List.length_nil, List.length_append] at this
        exact List.eq_nil_of_length_eq_zero (by omega)
  | cons c rest ih =>
      simp only [occursIn, Bool.or_eq_true, List.isPrefixOf_iff_prefix, ih]
      constructor
      · rintro (⟨after, h⟩ | ⟨before, after, rfl⟩)
        · exact ⟨[], after, by simp [h]⟩
        · exact ⟨c :: before, after, by simp⟩
      · rintro ⟨before, after, h⟩
        cases before with
        | nil => exact .inl ⟨after, by simpa using h.symm⟩
        | cons d before =>
            simp only [List.cons_append, List.cons.injEq] at h
            exact .inr ⟨before, after, by simpa using h.2⟩

end SchemaMigrate.Text
