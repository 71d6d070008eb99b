import SchemaMigrate.Text.Case

/-!
Names of tables, columns, mixins, indexes and attributes. Two names are the same if they fold to the
same key; everything keeps the spelling it was given.
-/

namespace SchemaMigrate

/-- The key under which a name is looked up. -/
def nameKey (name : String) : String := Text.foldCase name

/-- Whether two names differ in the case of their letters at most. -/
def sameName (left right : String) : Bool := nameKey left == nameKey right

/-- Whether two lists name the same things in the same order. -/
def sameNames : List String → List String → Bool
  | [], [] => true
  | left :: lefts, right :: rights => sameName left right && sameNames lefts rights
  | _, _ => false

/-- Whether one of the names is this name. -/
def hasName (names : List String) (name : String) : Bool := names.any (sameName · name)

/-- The place of the first of the names that is this name. -/
def namePosition? (names : List String) (name : String) : Option Nat :=
  names.findIdx? (sameName · name)

/-- Things that carry a name. -/
class Named (α : Type) where
  name : α → String

/-- The first thing of this name. -/
def findNamed? {α : Type} [Named α] (items : List α) (name : String) : Option α :=
  items.find? fun item => sameName (Named.name item) name

/-- Flags in the order in which they were first given; the name of a flag is taken as it is spelled. -/
abbrev Attributes := List (String × Bool)

/-- Gives a flag a value, in its old place if it has one. -/
def Attributes.set (attributes : Attributes) (name : String) (value : Bool) : Attributes :=
  if attributes.any (·.1 == name) then
    attributes.map fun flag => if flag.1 == name then (name, value) else flag
  else attributes ++ [(name, value)]

/-- The flags of a list of settings, of which later ones win. -/
def Attributes.ofList (settings : List (String × Bool)) : Attributes :=
  settings.foldl (fun flags flag => Attributes.set flags flag.1 flag.2) []

/-- Whether a flag of this name is set, in any spelling of it. -/
def Attributes.has (attributes : Attributes) (name : String) : Bool :=
  attributes.any fun flag => sameName flag.1 name && flag.2

theorem sameName_iff {left right : String} :
    sameName left right = true ↔ nameKey left = nameKey right := by
  simp [sameName]

@[simp] theorem sameName_refl (name : String) : sameName name name = true := by
  simp [sameName]

theorem sameName_comm (left right : String) : sameName left right = sameName right left := by
  simp only [sameName, Bool.beq_comm]

theorem nameKey_append (first second : String) :
    nameKey (first ++ second) = nameKey first ++ nameKey second :=
  Text.foldCase_append first second

theorem sameNames_iff {lefts rights : List String} :
    sameNames lefts rights = true ↔ lefts.map nameKey = rights.map nameKey := by
  induction lefts generalizing rights with
  | nil => cases rights <;> simp [sameNames]
  | cons left lefts ih => cases rights <;> simp [sameNames, sameName_iff, ih]

theorem hasName_iff {names : List String} {name : String} :
    hasName names name = true ↔ nameKey name ∈ names.map nameKey := by
  simp only [hasName, List.any_eq_true, sameName_iff, List.mem_map]

end SchemaMigrate
