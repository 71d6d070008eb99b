import Mathlib.Data.List.Nodup
import SchemaMigrate.NameMap

/-!
Lookup in keyed collections. Keys are distinct, so a lookup finds exactly the member that bears the name,
and a member that is put back under its own name takes its old place.
-/

namespace SchemaMigrate

section Names

variable {left middle right : String}

theorem sameName_symm (h : sameName left right = true) : sameName right left = true := by
  rw [sameName_comm]
  exact h

theorem sameName_trans (h₁ : sameName left middle = true) (h₂ : sameName middle right = true) :
    sameName left right = true :=
  sameName_iff.2 ((sameName_iff.1 h₁).trans (sameName_iff.1 h₂))

/-- Names that are the same compare alike with any third name. -/
theorem sameName_congr_left (h : sameName left right = true) (name : String) :
    sameName left name = sameName right name := by
  simp only [sameName, sameName_iff.1 h]

theorem sameName_congr_right (h : sameName left right = true) (name : String) :
    sameName name left = sameName name right := by
  simp only [sameName, sameName_iff.1 h]

end Names

section Finding

variable {α : Type} [Named α]

/-- A search goes by the key of the name alone. -/
theorem findNamed?_congr {left right : String} (h : sameName left right = true) (items : List α) :
    findNamed? items left = findNamed? items right := by
  simp only [findNamed?, sameName_congr_right h]

theorem findNamed?_append (first second : List α) (name : String) :
    findNamed? (first ++ second) name = (findNamed? first name).or (findNamed? second name) :=
  List.find?_append

/-- Where names are distinct, a member is found under its own name. -/
theorem findNamed?_self {items : List α} (hdistinct : (items.map keyOf).Nodup) {item : α}
    (hmem : item ∈ items) : findNamed? items (Named.name item) = some item := by
  induction items with
  | nil => cases hmem
  | cons first rest ih =>
      rw [List.map_cons, List.nodup_cons] at hdistinct
      rcases List.mem_cons.1 hmem with rfl | hrest
      · simp [findNamed?]
      · have hother : sameName (Named.name first) (Named.name item) = false := by
          rw [Bool.eq_false_iff]
          intro hsame
          apply hdistinct.1
          exact List.mem_map.2 ⟨item, hrest, (sameName_iff.1 hsame).symm⟩
        rw [findNamed?, List.find?_cons_of_neg (by simp [hother])]
        exact ih hdistinct.2 hrest

/-- Where names are distinct, no member bears a name but the one that is found. -/
theorem filter_named {items : List α} (hdistinct : (items.map keyOf).Nodup) (name : String) :
    items.filter (fun item => sameName (Named.name item) name) = (findNamed? items name).toList := by
  induction items with
  | nil => rfl
  | cons first rest ih =>
      rw [List.map_cons, List.nodup_cons] at hdistinct
      cases hfirst : sameName (Named.name first) name with
      | true =>
          have hothers : rest.filter (fun item => sameName (Named.name item) name) = [] := by
            rw [List.filter_eq_nil_iff]
            intro other hmem hother
            apply hdistinct.1
            exact List.mem_map.2 ⟨other, hmem, sameName_iff.1 (sameName_trans hother (sameName_symm hfirst))⟩
          simp [findNamed?, hfirst, hothers]
      | false => simpa [findNamed?, hfirst] using ih hdistinct.2

end Finding

namespace NameMap

variable {α : Type} [Named α] {map : NameMap α} {name : String} {item : α}

theorem eq_of_sameName {other : α} (hitem : item ∈ map.items) (hother : other ∈ map.items)
    (hsame : sameName (Named.name item) (Named.name other) = true) : item = other :=
  List.inj_on_of_nodup_map map.distinct hitem hother (sameName_iff.1 hsame)

theorem get?_self (h : item ∈ map.items) : map.get? (Named.name item) = some item :=
  findNamed?_self map.distinct h

/-- A lookup finds the one member of the name. -/
theorem get?_eq_some_iff :
    map.get? name = some item ↔ item ∈ map.items ∧ sameName (Named.name item) name = true := by
  constructor
  · intro h
    exact ⟨mem_of_get? h, sameName_of_get? h⟩
  · rintro ⟨hmem, hsame⟩
    rw [get?, ← findNamed?_congr hsame]
    exact get?_self hmem

/-- A member is found under its own name alone. -/
theorem get?_eq_some_iff_of_mem (h : item ∈ map.items) :
    map.get? name = some item ↔ nameKey name = nameKey (Named.name item) := by
  rw [get?_eq_some_iff, and_iff_right h, sameName_iff, eq_comm]

theorem get?_eq_none_iff :
    map.get? name = none ↔ ∀ item ∈ map.items, sameName (Named.name item) name = false := by
  simp [get?, findNamed?]

theorem get?_congr {left right : String} (h : sameName left right = true) :
    map.get? left = map.get? right :=
  findNamed?_congr h map.items

theorem contains_iff :
    map.contains name = true ↔ ∃ item ∈ map.items, sameName (Named.name item) name = true := by
  simp [contains, get?, findNamed?]

theorem contains_eq_false_iff : map.contains name = false ↔ nameKey name ∉ map.items.map keyOf := by
  rw [Bool.eq_false_iff, ne_eq, contains_iff, not_iff_not]
  simp [keyOf, sameName_iff]

theorem contains_congr {left right : String} (h : sameName left right = true) :
    map.contains left = map.contains right := by
  rw [contains, contains, get?_congr h]

theorem contains_of_mem (h : item ∈ map.items) : map.contains (Named.name item) = true :=
  contains_iff.2 ⟨item, h, sameName_refl _⟩

/-- A thing of a new name goes to the end. -/
theorem items_put_new (h : map.contains (Named.name item) = false) :
    (map.put item).items = map.items ++ [item] := by
  simp [put, h]

/-- A thing of a known name takes the place of the one that bore it. -/
theorem items_put_known (h : map.contains (Named.name item) = true) :
    (map.put item).items = replaced map.items item := by
  simp [put, h]

/-- A thing that is found, changed and stored under its old name changes at its place, and nothing else does. -/
theorem items_put_change (change : α → α) (hfound : map.get? name = some item)
    (hname : Named.name (change item) = Named.name item) :
    (map.put (change item)).items =
      map.items.map fun old => if sameName (Named.name old) name = true then change old else old := by
  obtain ⟨hmem, hsame⟩ := get?_eq_some_iff.1 hfound
  rw [items_put_known (by rw [hname]; exact contains_of_mem hmem), replaced]
  refine List.map_congr_left fun old hold => ?_
  rw [hname, sameName_congr_right hsame]
  by_cases hnamed : sameName (Named.name old) name = true
  · rw [if_pos hnamed, if_pos hnamed, eq_of_sameName hold hmem (sameName_trans hnamed (sameName_symm hsame))]
  · rw [if_neg hnamed, if_neg hnamed]

/-- After a thing was stored, there is it and what bore another name. -/
theorem mem_put_iff {other : α} :
    other ∈ (map.put item).items ↔
      other = item ∨ other ∈ map.items ∧ sameName (Named.name other) (Named.name item) = false := by
  cases hknown : map.contains (Named.name item) with
  | false =>
      rw [items_put_new hknown, List.mem_append, List.mem_singleton, or_comm]
      refine or_congr_right (iff_self_and.2 fun hmem => ?_)
      rw [Bool.eq_false_iff]
      intro hsame
      rw [← contains_congr hsame, contains_of_mem hmem] at hknown
      cases hknown
  | true =>
      rw [items_put_known hknown, replaced, List.mem_map]
      constructor
      · rintro ⟨old, hold, rfl⟩
        split
        · exact .inl rfl
        · rename_i hother
          exact .inr ⟨hold, by simpa using hother⟩
      · rintro (rfl | ⟨hmem, hother⟩)
        · obtain ⟨old, hold, hsame⟩ := contains_iff.1 hknown
          exact ⟨old, hold, if_pos hsame⟩
        · refine ⟨other, hmem, if_neg ?_⟩
          rw [hother]
          decide

/-- What was stored is found under its name, and all else as before. -/
theorem get?_put : (map.put item).get? name = if sameName (Named.name item) name then some item else map.get? name := by
  ext other
  cases hsame : sameName (Named.name item) name with
  | true =>
      rw [get?_eq_some_iff, mem_put_iff, if_pos rfl, Option.some.injEq]
      constructor
      · rintro ⟨rfl | ⟨-, hother⟩, hnamed⟩
        · rfl
        · rw [sameName_trans hnamed (sameName_symm hsame)] at hother
          cases hother
      · rintro rfl
        exact ⟨.inl rfl, hsame⟩
  | false =>
      rw [get?_eq_some_iff, mem_put_iff, if_neg (by decide), get?_eq_some_iff]
      refine and_congr_left fun hnamed => ?_
      constructor
      · rintro (rfl | ⟨hmem, -⟩)
        · rw [hnamed] at hsame
          cases hsame
        · exact hmem
      · intro hmem
        refine .inr ⟨hmem, ?_⟩
        rw [sameName_congr_left hnamed, sameName_comm]
        exact hsame

/-- A thing of a new name does not hide another. -/
theorem get?_put_new {old : α} (hnew : map.get? (Named.name item) = none) (h : map.get? name = some old) :
    (map.put item).get? name = some old := by
  rw [get?_put, if_neg]
  · exact h
  · intro hsame
    rw [← get?_congr hsame, hnew] at h
    cases h

/-- Things of different names are found alike in whichever order they were stored. -/
theorem get?_put_put {other : α} (h : sameName (Named.name item) (Named.name other) = false) :
    ((map.put item).put other).get? name = ((map.put other).put item).get? name := by
  rw [get?_put, get?_put, get?_put, get?_put]
  cases hitem : sameName (Named.name item) name with
  | false => rfl
  | true =>
      have hother : sameName (Named.name other) name = false := by
        rw [← sameName_congr_right hitem, sameName_comm]
        exact h
      rw [hother]
      rfl

/-- Storing a thing of a known name makes no name known or unknown. -/
theorem contains_put_known (h : map.contains (Named.name item) = true) :
    (map.put item).contains name = map.contains name := by
  rw [contains, get?_put]
  split
  · rename_i hsame
    rw [← contains_congr hsame, h]
    rfl
  · rfl

/-- A thing of a known name and one of another name can be stored in either order. -/
theorem put_comm {other : α} (hknown : map.contains (Named.name item) = true)
    (hother : sameName (Named.name item) (Named.name other) = false) :
    (map.put item).put other = (map.put other).put item := by
  have hback : sameName (Named.name other) (Named.name item) = false := by
    rw [sameName_comm]
    exact hother
  apply NameMap.ext
  cases hnew : map.contains (Named.name other) with
  | false =>
      have hput : (map.put other).contains (Named.name item) = true := by
        rw [contains, get?_put, if_neg (by rw [hback]; decide)]
        exact hknown
      rw [items_put_new (by rw [contains_put_known hknown, hnew]), items_put_known hknown, items_put_known hput,
        items_put_new hnew, replaced, replaced, List.map_append, List.map_singleton,
        if_neg (by rw [hback]; decide)]
  | true =>
      rw [items_put_known (by rw [contains_put_known hknown, hnew]), items_put_known hknown,
        items_put_known (by rw [contains_put_known hnew, hknown]), items_put_known hnew]
      simp only [replaced, List.map_map]
      refine List.map_congr_left fun old _ => ?_
      dsimp only [Function.comp]
      by_cases hitem : sameName (Named.name old) (Named.name item) = true
      · have hapart : sameName (Named.name old) (Named.name other) = false := by
          rw [sameName_congr_left hitem, hother]
        simp [hapart, hitem, hother]
      · by_cases hold : sameName (Named.name old) (Named.name other) = true
        · simp [hitem, hold, hback]
        · simp [hitem, hold]

end NameMap

end SchemaMigrate
