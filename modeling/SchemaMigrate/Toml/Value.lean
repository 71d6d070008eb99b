/-!
Values of TOML documents, and the keys of tables in the order in which they were written.
-/

namespace SchemaMigrate.Toml

/-- A value. Dates and times are kept as they are written. -/
inductive Value where
  | text (value : String)
  | integer (value : Int)
  | float (value : Float)
  | flag (value : Bool)
  | moment (text : String)
  | array (items : List Value)
  | table (entries : List (String × Value))

/-- The entries of a table. -/
abbrev Entries := List (String × Value)

/-- The keys from the outermost table to an entry. -/
abbrev Key := List String

/-- The value of a key. -/
def Entries.get? : Entries → String → Option Value
  | [], _ => none
  | (key, value) :: rest, name => if key = name then some value else Entries.get? rest name

/-- Gives a key a value, in its old place if it has one. -/
def Entries.set : Entries → String → Value → Entries
  | [], name, value => [(name, value)]
  | (key, old) :: rest, name, value =>
      if key = name then (name, value) :: rest else (key, old) :: Entries.set rest name value

/-- A key has the value that it was given last, and no other key changes. -/
theorem Entries.get?_set (entries : Entries) (name other : String) (value : Value) :
    (entries.set name value).get? other = if name = other then some value else entries.get? other := by
  induction entries with
  | nil => rfl
  | cons entry rest ih =>
      obtain ⟨key, old⟩ := entry
      by_cases hname : key = name
      · subst hname
        by_cases hother : key = other <;> simp [Entries.set, Entries.get?, hother]
      · by_cases hother : key = other
        · subst hother
          simp [Entries.set, Entries.get?, hname, Ne.symm hname]
        · simp [Entries.set, Entries.get?, hname, hother, ih]

/-- Why a text is no document. An integer may be too long to be read. -/
inductive ReadError where
  | malformed
  | tooLong (digits : Nat)
deriving Repr, DecidableEq

/-- Changes the table that a key leads to, and makes the tables on the way that are missing. The last
item of an array stands for it if `throughArrays`. There is no such table behind another value. -/
def Entries.modify (throughArrays : Bool) (change : Entries → Option Entries) :
    Key → Entries → Option Entries
  | [], entries => change entries
  | name :: key, entries => do
      let value ←
        match entries.get? name with
        | none => .table <$> Entries.modify throughArrays change key []
        | some (.table inner) => .table <$> Entries.modify throughArrays change key inner
        | some (.array items) =>
            match throughArrays, items.getLast? with
            | true, some (.table inner) => do
                let inner ← Entries.modify throughArrays change key inner
                some (.array (items.dropLast ++ [.table inner]))
            | _, _ => none
        | some _ => none
      some (entries.set name value)

/-- Adds an entry that must be new. -/
def Entries.insertNew (name : String) (value : Value) (entries : Entries) : Option Entries :=
  if (entries.get? name).isSome then none else some (entries ++ [(name, value)])

/-- Adds an empty table to an array of tables, which is made if it is missing. -/
def Entries.appendTable (name : String) (entries : Entries) : Option Entries :=
  match entries.get? name with
  | none => some (entries ++ [(name, .array [.table []])])
  | some (.array items) => some (entries.set name (.array (items ++ [.table []])))
  | some _ => none

end SchemaMigrate.Toml
