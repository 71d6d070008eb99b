/-!
Exact integers out of double-precision numbers. A finite double is a whole significand times a power of
two, so its integer part is computed without rounding.
-/

namespace SchemaMigrate

/-- What a double stands for. -/
inductive DoubleKind where
  | nan
  | infinite
  | finite (negative : Bool) (significand : Nat) (exponent : Int)
deriving Repr, DecidableEq

/-- Reads sign, significand and binary exponent off the bits of a double. -/
def DoubleKind.ofBits (bits : UInt64) : DoubleKind :=
  let negative := bits.toNat / Nat.pow 2 63 == 1
  let exponent : Nat := bits.toNat / Nat.pow 2 52 % Nat.pow 2 11
  let fraction : Nat := bits.toNat % Nat.pow 2 52
  if exponent = 2047 then if fraction = 0 then .infinite else .nan
  else if exponent = 0 then .finite negative fraction (-1074)
  else .finite negative (Nat.pow 2 52 + fraction) ((exponent : Int) - 1075)

/-- The integer part of significand times power of two, toward zero. -/
def DoubleKind.truncate? : DoubleKind → Option Int
  | .nan | .infinite => none
  | .finite negative significand exponent =>
      let magnitude : Nat :=
        if 0 ≤ exponent then significand * Nat.pow 2 exponent.toNat
        else significand / Nat.pow 2 (-exponent).toNat
      some (if negative then -(magnitude : Int) else magnitude)

/-- Whether the value is a whole number. -/
def DoubleKind.isWhole : DoubleKind → Bool
  | .nan | .infinite => false
  | .finite _ significand exponent =>
      0 ≤ exponent || significand % Nat.pow 2 (-exponent).toNat == 0

def doubleKind (value : Float) : DoubleKind := DoubleKind.ofBits value.toBits

/-- The double nearest to decimal digits times a power of ten. Beyond four hundred decimal places on
either side every number is infinite or zero, so that the power is not worked out there. -/
def nearestDouble (negative : Bool) (digits : Nat) (exponent : Int) : Float :=
  let size : Int := (Nat.toDigits 10 digits).length + exponent
  let magnitude : Float :=
    if digits = 0 ∨ size < -400 then 0
    else if 400 < size then 1 / 0
    else Float.ofScientific digits (exponent < 0) exponent.natAbs
  if negative then -magnitude else magnitude

end SchemaMigrate
