import Extraction.Decimal.Read
import Extraction.Json

/-! # Numbers in JSON texts

Whole numbers are read exactly. Other numbers are read the fast way: digits are collected as long
as they fit into 64 bits, and one multiplication or division by a power of ten gives the result,
which may be off in its last bit.
-/

namespace Extraction.Numeral

open Extraction.Decimal Extraction.Text

/-- The value of a whole number that is not negative and has no sign, point or exponent. -/
def nat? (n : Numeral) : Option Nat :=
  if n.negative || !n.fraction.isEmpty || n.exponent.isSome then none
  else some (ofDigits 10 n.whole)

/-- The largest significand. -/
def maxSignificand : Nat := UInt64.size - 1

/-- Appends digits as long as the result fits; gives those that are left. -/
def collectDigits (n : Nat) : List Char → Nat × List Char
  | [] => (n, [])
  | d :: ds =>
    let m := 10 * n + digitValue d
    if m ≤ maxSignificand then collectDigits m ds else (n, d :: ds)

/-- Collects digits that lower the exponent. -/
def collectFraction (n : Nat) (ds : List Char) : Nat × Int :=
  let (n, rest) := collectDigits n ds
  (n, -(ds.length - rest.length : Nat))

/-- The significand of a number, and the exponent that its digits give it. -/
def significand (n : Numeral) : Nat × Int :=
  let (s, rest) := collectDigits 0 n.whole
  let (s, e) := collectFraction s n.fraction
  (s, e + rest.length)

/-- The largest power of ten that is a double. -/
def maxPower : Nat := 308

def powerOfTen (n : Nat) : Float := Float.ofScientific 1 false n

/-- Scales a double by a power of ten. Fails where the result is too large. -/
def scale? (x : Float) (e : Int) : Option Float :=
  if 0 ≤ e then
    if e ≤ maxPower then
      let y := x * powerOfTen e.toNat
      if y.isInf then none else some y
    else if x == 0 then some x
    else none
  else if -e ≤ maxPower then some (x / powerOfTen (-e).toNat)
  else if x == 0 then some x
  else scale? (x / powerOfTen maxPower) (e + maxPower)
termination_by e.natAbs
decreasing_by simp only [maxPower] at *; omega

/-- The largest exponent that is computed with. -/
def maxExponent : Nat := 0x7FFFFFFF

/-- The size of a number. -/
def size? (n : Numeral) : Option Float :=
  let (s, e) := n.significand
  let x := Float.ofNat s
  match n.exponent with
  | none => scale? x e
  | some (negative, ds) =>
    let exponent := ofDigits 10 ds
    if exponent ≤ maxExponent then scale? x (if negative then e - exponent else e + exponent)
    else if s ≠ 0 ∧ !negative then none
    else some 0

/-- The double that a number stands for. -/
def float? (n : Numeral) : Option Float :=
  n.size?.map fun x => if n.negative then -x else x

/-- The digits of a decimal between `10⁻⁵` and `10¹⁶`, with a point in any case. -/
def positionalNumeral (negative : Bool) (ds : List Char) (point : Int) : Numeral :=
  let n := point.toNat
  { negative
    whole := if point ≤ 0 then ['0'] else ds.take n ++ zeros (n - ds.length)
    fraction :=
      if point ≤ 0 then zeros (-point).toNat ++ ds
      else if ds.length ≤ n then ['0']
      else ds.drop n
    exponent := none }

/-- The digits of any other decimal, with an exponent. -/
def scientificNumeral (negative : Bool) (ds : List Char) (point : Int) : Numeral :=
  { negative
    whole := ds.take 1
    fraction := ds.drop 1
    exponent := some (decide (point ≤ 0), digits 10 (point - 1).natAbs) }

/-- The shortest number that reads back as a double, if it is finite. -/
def ofDouble? : Double → Option Numeral
  | .finite negative x =>
    if x.mantissa = 0 then some ⟨negative, ['0'], ['0'], none⟩
    else
      let d := shortest .even x
      some (if -5 < d.point ∧ d.point ≤ 16 then positionalNumeral negative d.digits d.point
        else scientificNumeral negative d.digits d.point)
  | _ => none

end Extraction.Numeral
