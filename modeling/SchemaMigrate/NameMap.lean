import SchemaMigrate.Name

/-!
An ordered collection of named things, at most one of each name. A thing that takes the place of another
of its name stands where that one stood; a new one goes to the end.
-/

namespace SchemaMigrate

/-- The key under which a named thing is stored. -/
def keyOf {α : Type} [Named α] (item : α) : String := nameKey (Named.name item)

structure NameMap (α : Type) [Named α] where
  items : List α := []
  distinct : (items.map keyOf).Nodup := by exact List.nodup_nil

namespace NameMap

variable {α : Type} [Named α]

def empty : NameMap α := {}

/-- The thing of this name, in any spelling of it. -/
def get? (map : NameMap α) (name : String) : Option α := findNamed? map.items name

def contains (map : NameMap α) (name : String) : Bool := (map.get? name).isSome

/-- Puts `item` where the thing of its name stands. -/
def replaced (items : List α) (item : α) : List α :=
  items.map fun old => if sameName (Named.name old) (Named.name item) then item else old

@[ext] theorem ext {left right : NameMap α} (h : left.items = right.items) : left = right := by
  cases left; cases right; simp_all

theorem keyOf_replaced (items : List α) (item : α) :
    (replaced items item).map keyOf = items.map keyOf := by
  induction items with
  | nil => rfl
  | cons old rest ih =>
      simp only [replaced, List.map_cons, List.cons.injEq]
      refine ⟨?_, ih⟩
      by_cases h : sameName (Named.name old) (Named.name item)
      · simp [h, keyOf, sameName_iff.1 h]
      · simp [h]

theorem not_mem_keys_of_contains_eq_false {map : NameMap α} {name : String}
    (h : map.contains name = false) : nameKey name ∉ map.items.map keyOf := by
  intro hmem
  obtain ⟨item, hitem, hkey⟩ := List.mem_map.1 hmem
  have hnone : findNamed? map.items name = none := by
    simpa [contains, get?] using h
  have := List.find?_eq_none.1 hnone item hitem
  exact this (sameName_iff.2 hkey)

/-- Adds a thing whose name is new. -/
def add (map : NameMap α) (item : α) (h : map.contains (Named.name item) = false) : NameMap α where
  items := map.items ++ [item]
  distinct := by
    have hkey := not_mem_keys_of_contains_eq_false h
    rw [List.map_append, List.nodup_append]
    refine ⟨map.distinct, by simp, ?_⟩
    intro key hold other hnew
    rw [List.map_singleton, List.mem_singleton] at hnew
    rintro rfl
    rw [hnew] at hold
    exact hkey hold

/-- Adds a thing, unless there is one of its name. -/
def add? (map : NameMap α) (item : α) : Option (NameMap α) :=
  if h : map.contains (Named.name item) = false then some (map.add item h) else none

/-- Stores a thing in the place of the one of its name, or at the end. -/
def put (map : NameMap α) (item : α) : NameMap α :=
  if h : map.contains (Named.name item) = false then map.add item h
  else { items := replaced map.items item
         distinct := by rw [keyOf_replaced]; exact map.distinct }

instance [DecidableEq α] : DecidableEq (NameMap α) := fun left right =>
  decidable_of_iff (left.items = right.items) ⟨ext, fun h => h ▸ rfl⟩

instance : Inhabited (NameMap α) := ⟨empty⟩

@[simp] theorem items_add (map : NameMap α) (item : α)
    (h : map.contains (Named.name item) = false) : (map.add item h).items = map.items ++ [item] := rfl

/-- What `get?` finds bears the name that was asked for. -/
theorem sameName_of_get? {map : NameMap α} {name : String} {item : α}
    (h : map.get? name = some item) : sameName (Named.name item) name = true := by
  simpa using List.find?_some h

theorem mem_of_get? {map : NameMap α} {name : String} {item : α}
    (h : map.get? name = some item) : item ∈ map.items := List.mem_of_find?_eq_some h

end NameMap

end SchemaMigrate
