/-! # Floating-point numbers as exact values

The bits of a double, taken apart: a sign, and a size that is a natural number times a power of
two. All further arithmetic is exact.
-/

namespace Extraction.Decimal

/-- The number `mantissa · 2 ^ exponent`. -/
structure Binary where
  mantissa : Nat
  exponent : Int
  /-- The gap to the double below is half the gap to the one above. -/
  narrowBelow : Bool
deriving DecidableEq, Repr

/-- What the bits of a double stand for. -/
inductive Double where
  | nan
  | infinite (negative : Bool)
  | finite (negative : Bool) (size : Binary)
deriving DecidableEq, Repr

/-- The size that belongs to an exponent field and a fraction field. -/
def Binary.ofFields (exponent fraction : Nat) : Binary :=
  if exponent = 0 then ⟨fraction, -1074, false⟩
  else ⟨Nat.pow 2 52 + fraction, exponent - 1075, fraction = 0 ∧ 1 < exponent⟩

def Double.ofBits (bits : UInt64) : Double :=
  let negative : Bool := Nat.pow 2 63 ≤ bits.toNat
  let exponent := bits.toNat / Nat.pow 2 52 % Nat.pow 2 11
  let fraction := bits.toNat % Nat.pow 2 52
  if exponent = 2047 then
    if fraction = 0 then .infinite negative else .nan
  else .finite negative (.ofFields exponent fraction)

def Double.ofFloat (x : Float) : Double := .ofBits x.toBits

namespace Binary

/-- Whether `x` is at least `n · 2 ^ e`. -/
def atLeast (x : Binary) (n : Nat) (e : Int) : Bool :=
  n * Nat.pow 2 (e - x.exponent).toNat ≤ x.mantissa * Nat.pow 2 (x.exponent - e).toNat

end Binary

end Extraction.Decimal
