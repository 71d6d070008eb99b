import Mathlib.Data.Set.Basic
import SchemaMigrate.Proofs.Catalog.Values

/-!
Values of columns as the database computes with them: texts, byte strings, exact decimals, and null. What a field
admits is read off the family and the size of its type; null is a matter of its own and in no type.
-/

namespace SchemaMigrate

namespace Sql

/-- A value. The padding of a text in a column of fixed width does not belong to it. -/
inductive Value where
  | null
  | text (characters : List Char)
  | bytes (octets : List UInt8)
  | number (value : ℚ)
deriving Repr, DecidableEq

/-- The kind of a value, for kinds whose size is bounded. -/
def Value.family? : Value → Option TypeFamily
  | .null => none
  | .text _ => some .string
  | .bytes _ => some .binary
  | .number _ => some .decimal

end Sql

/-- Whether a length keeps to a limit. -/
def WithinLimit (limit : Option Int) (length : Nat) : Prop :=
  ∀ bound, limit = some bound → bound ≠ maxLength → (length : Int) ≤ bound

/-- Whether a value can be stored in a field as it is. -/
def Field.Admits (field : Field) : Sql.Value → Prop
  | .null => False
  | .text characters => field.family? = some .string ∧ WithinLimit field.type.precision characters.length
  | .bytes octets => field.family? = some .binary ∧ WithinLimit field.type.precision octets.length
  | .number value =>
      field.family? = some .decimal ∧ ∀ precision, field.type.precision = some precision →
        FitsDigits precision (field.type.scale.getD 0) value

/-- The values that a field admits. -/
def Field.values (field : Field) : Set Sql.Value := {value | field.Admits value}

/-- A field whose type has a size that is known: a length or the mark of the unbounded variant, or digits with at
least one before or behind the point. -/
def Field.Sized (field : Field) : Prop :=
  match field.family? with
  | some .string | some .binary =>
      ∃ length, field.type.precision = some length ∧ (length = maxLength ∨ 0 ≤ length)
  | some .decimal => (∃ precision, field.type.precision = some precision ∧ 1 ≤ precision) ∧ 0 ≤ field.type.scale.getD 0
  | _ => False

end SchemaMigrate
