import Mathlib.Data.List.DropRight
import SchemaMigrate.Proofs.Outcome
import SchemaMigrate.Proofs.Sql.Rounding
import SchemaMigrate.Proofs.Sql.Value
import SchemaMigrate.Sql.Identifier

/-!
What a live column stores of a value that is assigned to it. A column of declared size rounds a number to its places
and refuses one with too many digits before the point; a text that is too long is refused unless only blanks stand
behind the limit. What a column holds already is stored as it is.

A declared number of places is not negative, and values are not converted to another kind.
-/

namespace SchemaMigrate.Sql

/-- Why the database refuses a statement. -/
inductive Refusal where
  | unreadable
  | noTable (table : String)
  | noColumn (column : String)
  | mismatch
  | tooLong (limit : ℕ)
  | tooWide (width : ℕ)
  | overflow
deriving Repr, DecidableEq

def Refusal.message : Refusal → String
  | .unreadable => "syntax error"
  | .noTable table => "relation " ++ quote table ++ " does not exist"
  | .noColumn column => "column " ++ quote column ++ " does not exist"
  | .mismatch => "no function or operator matches the argument types"
  | .tooLong limit => "value too long for type character varying(" ++ toString limit ++ ")"
  | .tooWide width => "value too long for type character(" ++ toString width ++ ")"
  | .overflow => "numeric field overflow"

/-- The type of a live column, as far as it decides what is stored. -/
inductive LiveType where
  | text
  | varying (limit : ℕ)
  | padded (width : ℕ)
  | bytes
  | numeric
  | sized (digits places : ℕ)
deriving Repr, DecidableEq

namespace LiveType

/-- The kind of the values in a column. -/
def family : LiveType → TypeFamily
  | .text | .varying _ | .padded _ => .string
  | .bytes => .binary
  | .numeric | .sized _ _ => .decimal

/-- A value without the blanks at its end, where a column is padded with them. -/
def unpad : LiveType → Value → Value
  | .padded _, .text characters => .text (characters.rdropWhile (· == ' '))
  | _, value => value

/-- What is stored of a value. -/
def assign : LiveType → Value → Except Refusal Value
  | _, .null => .ok .null
  | .text, .text characters => .ok (.text characters)
  | .varying limit, .text characters =>
      if (characters.drop limit).all (· == ' ') then .ok (.text (characters.take limit)) else .error (.tooLong limit)
  | .padded width, .text characters =>
      if (characters.drop width).all (· == ' ') then .ok (unpad (.padded width) (.text (characters.take width)))
      else .error (.tooWide width)
  | .bytes, .bytes octets => .ok (.bytes octets)
  | .numeric, .number value => .ok (.number value)
  | .sized digits places, .number value =>
      if |roundAway places value| < 10 ^ ((digits : ℤ) - places) then .ok (.number (roundAway places value))
      else .error .overflow
  | _, _ => .error .mismatch

/-- Whether a value is stored as it is. -/
def Keeps (live : LiveType) (value : Value) : Prop := live.assign value = .ok value

variable {live : LiveType} {value stored : Value} {characters : List Char} {limit digits places : ℕ} {number : ℚ}

theorem keeps_null (live : LiveType) : live.Keeps .null := by cases live <;> rfl

/-- A column holds values of its kind. -/
theorem Keeps.family (h : live.Keeps value) : value = .null ∨ value.family? = some live.family := by
  cases value with
  | null => exact .inl rfl
  | text characters => cases live <;> first | exact .inr rfl | cases h
  | bytes octets => cases live <;> first | exact .inr rfl | cases h
  | number value => cases live <;> first | exact .inr rfl | cases h

section Texts

theorem assign_varying_of_le (h : characters.length ≤ limit) :
    (varying limit).assign (.text characters) = .ok (.text characters) := by
  rw [assign, List.drop_of_length_le h, List.take_of_length_le h]
  rfl

theorem assign_padded_of_le (h : characters.length ≤ limit) :
    (padded limit).assign (.text characters) = .ok (unpad (padded limit) (.text characters)) := by
  rw [assign, List.drop_of_length_le h, List.take_of_length_le h]
  rfl

theorem assign_varying_eq_ok_iff :
    (varying limit).assign (.text characters) = .ok stored ↔
      (characters.drop limit).all (· == ' ') = true ∧ stored = .text (characters.take limit) :=
  ite_eq_ok_iff

theorem assign_padded_eq_ok_iff :
    (padded limit).assign (.text characters) = .ok stored ↔
      (characters.drop limit).all (· == ' ') = true ∧ stored = unpad (padded limit) (.text (characters.take limit)) :=
  ite_eq_ok_iff

theorem keeps_varying_iff : (varying limit).Keeps (.text characters) ↔ characters.length ≤ limit := by
  refine ⟨fun h => ?_, assign_varying_of_le⟩
  obtain ⟨-, heq⟩ := assign_varying_eq_ok_iff.1 h
  rw [Value.text.inj heq]
  exact List.length_take_le ..

/-- A text in a padded column is no longer than the column and does not end in blanks. -/
theorem keeps_padded_iff :
    (padded limit).Keeps (.text characters) ↔
      characters.length ≤ limit ∧ characters.rdropWhile (· == ' ') = characters := by
  constructor
  · intro h
    obtain ⟨-, heq⟩ := assign_padded_eq_ok_iff.1 h
    rw [Value.text.inj heq]
    constructor
    · apply (List.rdropWhile_prefix ..).length_le.trans
      exact List.length_take_le ..
    · exact List.rdropWhile_idempotent ..
  · rintro ⟨hle, hunpadded⟩
    rw [Keeps, assign_padded_of_le hle, unpad, hunpadded]

theorem unpad_bytes (live : LiveType) (octets : List UInt8) : live.unpad (.bytes octets) = .bytes octets := by
  cases live <;> rfl

theorem unpad_number (live : LiveType) (number : ℚ) : live.unpad (.number number) = .number number := by
  cases live <;> rfl

/-- What is there already has no padding to lose. -/
theorem Keeps.unpad (h : live.Keeps value) : live.unpad value = value := by
  cases live with
  | padded width =>
      cases value with
      | text characters => exact congrArg Value.text (keeps_padded_iff.1 h).2
      | null | bytes _ | number _ => rfl
  | text | varying _ | bytes | numeric | sized _ _ => rfl

/-- The front of a text that is there already can be stored. -/
theorem Keeps.assign_take (h : live.Keeps (.text characters)) (count : ℕ) :
    live.assign (.text (characters.take count)) = .ok (live.unpad (.text (characters.take count))) := by
  have hle := List.length_take_le' count characters
  cases live with
  | text => rfl
  | varying limit => exact assign_varying_of_le (hle.trans (keeps_varying_iff.1 h))
  | padded width => exact assign_padded_of_le (hle.trans (keeps_padded_iff.1 h).1)
  | bytes | numeric | sized _ _ => cases h

end Texts

section Numbers

theorem assign_sized_eq_ok_iff :
    (sized digits places).assign (.number number) = .ok stored ↔
      |roundAway places number| < 10 ^ ((digits : ℤ) - places) ∧ stored = .number (roundAway places number) :=
  ite_eq_ok_iff

/-- A column of declared size keeps the numbers of that size. -/
theorem keeps_sized_iff : (sized digits places).Keeps (.number number) ↔ FitsDigits digits places number := by
  rw [Keeps, assign_sized_eq_ok_iff, Value.number.injEq, eq_comm (a := number), roundAway_eq_self_iff]
  constructor
  · rintro ⟨hfits, hplaces⟩
    rw [roundAway_eq_self_iff.2 hplaces] at hfits
    exact ⟨hplaces, hfits⟩
  · rintro ⟨hplaces, hfits⟩
    refine ⟨?_, hplaces⟩
    rw [roundAway_eq_self_iff.2 hplaces]
    exact hfits

end Numbers

/-- What is stored of a value is kept. -/
theorem keeps_of_assign (h : live.assign value = .ok stored) : live.Keeps stored := by
  cases value with
  | null =>
      obtain rfl := ok_eq_ok_iff.1 (live.keeps_null.symm.trans h)
      exact live.keeps_null
  | text characters =>
      cases live with
      | text =>
          cases h
          rfl
      | varying limit =>
          obtain ⟨-, rfl⟩ := assign_varying_eq_ok_iff.1 h
          exact keeps_varying_iff.2 (List.length_take_le ..)
      | padded width =>
          obtain ⟨-, rfl⟩ := assign_padded_eq_ok_iff.1 h
          apply keeps_padded_iff.2
          constructor
          · apply (List.rdropWhile_prefix ..).length_le.trans
            exact List.length_take_le ..
          · exact List.rdropWhile_idempotent ..
      | bytes | numeric | sized _ _ => cases h
  | bytes octets =>
      cases live with
      | bytes =>
          cases h
          rfl
      | text | varying _ | padded _ | numeric | sized _ _ => cases h
  | number number =>
      cases live with
      | numeric =>
          cases h
          rfl
      | sized digits places =>
          obtain ⟨hfits, rfl⟩ := assign_sized_eq_ok_iff.1 h
          exact keeps_sized_iff.2 ⟨hasPlaces_roundAway places number, hfits⟩
      | text | varying _ | padded _ | bytes => cases h

end LiveType

end SchemaMigrate.Sql
