import SchemaMigrate.Schema.Basic

/-!
Size differences between two versions of a column. Only types of one name are compared, and only those
that have a size: strings and binaries by length, decimals by their digits on either side of the point.
-/

namespace SchemaMigrate

inductive SizeChange where
  | widen
  | narrow
deriving Repr, DecidableEq

/-- Compares lengths, of which one may be unbounded. -/
def compareLength (target actual : Option Int) : Option SizeChange :=
  match target, actual with
  | some target, some actual =>
      if target = actual then none
      else if target = maxLength then some .widen
      else if actual = maxLength then some .narrow
      else if actual < target then some .widen
      else some .narrow
  | _, _ => none

/-- Compares decimals. A missing scale is zero. -/
def compareDecimal (target actual : ColumnType) : Option SizeChange :=
  match target.precision, actual.precision with
  | some targetPrecision, some actualPrecision =>
      let targetScale := target.scale.getD 0
      let actualScale := actual.scale.getD 0
      if targetPrecision = actualPrecision ∧ targetScale = actualScale then none
      else if actualScale ≤ targetScale
          ∧ actualPrecision - actualScale ≤ targetPrecision - targetScale then some .widen
      else some .narrow
  | _, _ => none

/-- The size difference from the actual column to the target. -/
def compareSize (target actual : Field) : Option SizeChange :=
  if sameName target.type.name actual.type.name then
    match target.family? with
    | some .string | some .binary => compareLength target.type.precision actual.type.precision
    | some .decimal => compareDecimal target.type actual.type
    | _ => none
  else none

end SchemaMigrate
