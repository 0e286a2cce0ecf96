import Extraction.Decimal.Binary
import Extraction.Text.Digits

/-! # The shortest decimal that reads back

Among the decimals that are rounded to a given double, those with the fewest digits, and of
these the one closest to it. The search tries one digit, two digits and so on: the decimals of a
given number of digits lie on a grid, and only the two neighbours of the double on it can be
the closest.
-/

namespace Extraction.Decimal

/-- The number `coefficient · 10 ^ exponent`. -/
structure Scientific where
  coefficient : Nat
  exponent : Int
deriving DecidableEq, Repr

/-- Which of two decimals that are equally close is taken. -/
inductive Tie where
  | up
  | even
deriving DecidableEq, Repr

/-- The positive rationals `lower / unit`, `value / unit` and `upper / unit`, of which the outer
two bound the numbers that are rounded to the inner one. -/
structure Interval where
  lower : Nat
  value : Nat
  upper : Nat
  unit : Nat
  /-- Whether the bounds are rounded to the value, too. -/
  closed : Bool
deriving DecidableEq, Repr

namespace Interval

/-- The bounds lie halfway to the neighbours, and a half is rounded to the even mantissa. -/
def ofBinary (x : Binary) : Interval :=
  let scale := Nat.pow 2 (x.exponent - 2).toNat
  { lower := (4 * x.mantissa - if x.narrowBelow then 1 else 2) * scale
    value := 4 * x.mantissa * scale
    upper := (4 * x.mantissa + 2) * scale
    unit := Nat.pow 2 (2 - x.exponent).toNat
    closed := x.mantissa % 2 = 0 }

/-- The interval measured in steps of `10 ^ e`. -/
def onGrid (i : Interval) (e : Int) : Interval :=
  let scale := Nat.pow 10 (-e).toNat
  { lower := i.lower * scale
    value := i.value * scale
    upper := i.upper * scale
    unit := i.unit * Nat.pow 10 e.toNat
    closed := i.closed }

def contains (i : Interval) (n : Nat) : Bool :=
  if i.closed then i.lower ≤ n * i.unit && n * i.unit ≤ i.upper
  else i.lower < n * i.unit && n * i.unit < i.upper

/-- Of the whole numbers `n` and `n + 1` around the value, the closer one. -/
def closer (tie : Tie) (i : Interval) (n : Nat) : Nat :=
  let twice := 2 * i.value
  let middle := (2 * n + 1) * i.unit
  if twice < middle then n
  else if middle < twice then n + 1
  else match tie with
    | .up => n + 1
    | .even => if n % 2 = 0 then n else n + 1

/-- The whole number closest to the value, of those inside the interval. -/
def nearest? (tie : Tie) (i : Interval) : Option Nat :=
  let n := i.value / i.unit
  match i.contains n, i.contains (n + 1) with
  | true, true => some (i.closer tie n)
  | true, false => some n
  | false, true => some (n + 1)
  | false, false => none

end Interval

/-- The number of decimal digits of a natural number, none for zero. -/
def digitCount (n : Nat) : Nat := if n = 0 then 0 else (Text.digits 10 n).length

/-- The number of zeros between the point and the first digit of `value / unit`, which is less
than one. -/
def leadingZeros (value unit : Nat) : Nat :=
  if 0 < value ∧ 10 * value < unit then leadingZeros (10 * value) unit + 1 else 0
termination_by unit - value

/-- The least `n` with `value / unit < 10 ^ n`. -/
def scaleOf (value unit : Nat) : Int :=
  if unit ≤ value then digitCount (value / unit) else -leadingZeros value unit

/-- Moves zeros at the end of the coefficient into the exponent. -/
def Scientific.strip (d : Scientific) : Scientific :=
  if d.coefficient ≠ 0 ∧ d.coefficient % 10 = 0 then
    strip ⟨d.coefficient / 10, d.exponent + 1⟩
  else d
termination_by d.coefficient
decreasing_by omega

/-- The decimal with at most `count` digits that is closest to the value, if one reads back. -/
def withDigits? (tie : Tie) (i : Interval) (scale : Int) (count : Nat) : Option Scientific :=
  let e := scale - count
  ((i.onGrid e).nearest? tie).map fun n => (Scientific.mk n e).strip

/-- The value of a double, cut to seventeen digits. -/
def truncated (i : Interval) (scale : Int) : Scientific :=
  let e := scale - 17
  let j := i.onGrid e
  (Scientific.mk (j.value / j.unit) e).strip

/-- The shortest decimal that reads back as `x`. Seventeen digits are enough for every double. -/
def shortest (tie : Tie) (x : Binary) : Scientific :=
  let i := Interval.ofBinary x
  let scale := scaleOf i.value i.unit
  ((List.range 17).findSome? fun k => withDigits? tie i scale (k + 1)).getD (truncated i scale)

end Extraction.Decimal
