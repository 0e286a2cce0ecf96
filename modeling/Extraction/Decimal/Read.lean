import Extraction.Decimal.Notation

/-! # Reading decimals

A decimal is a sign, digits with at most one point, and an exponent; all but the digits may be
missing. Infinity and NaN are spelled out, in any case.
-/

namespace Extraction.Decimal

open Extraction.Text

/-- The double closest to `coefficient · 10 ^ exponent`. -/
def toFloat (coefficient : Nat) (exponent : Int) : Float :=
  let magnitude := digitCount coefficient + exponent
  -- far outside the range of doubles, no power of ten has to be computed
  if coefficient = 0 ∨ magnitude < -400 then 0
  else if 400 < magnitude then 1 / 0
  else Float.ofScientific coefficient (exponent < 0) exponent.natAbs

/-- Splits off a sign; true is negative. -/
def splitSign : List Char → Bool × List Char
  | '-' :: cs => (true, cs)
  | '+' :: cs => (false, cs)
  | cs => (false, cs)

def readExponent? : List Char → Option Int
  | [] => some 0
  | c :: cs =>
    if c = 'e' ∨ c = 'E' then
      let (negative, ds) := splitSign cs
      if ds.isEmpty || !ds.all Char.isDigit then none
      else
        let n : Int := ofDigits 10 ds
        some (if negative then -n else n)
    else none

/-- Reads digits with a point and an exponent. -/
def readUnsigned? (cs : List Char) : Option Float :=
  let whole := cs.takeWhile Char.isDigit
  let rest := cs.dropWhile Char.isDigit
  let (fraction, rest) :=
    match rest with
    | '.' :: rest => (rest.takeWhile Char.isDigit, rest.dropWhile Char.isDigit)
    | rest => ([], rest)
  if whole.isEmpty && fraction.isEmpty then none
  else (readExponent? rest).map fun e =>
    toFloat (appendDigits 10 (ofDigits 10 whole) fraction) (e - fraction.length)

def readChars? (cs : List Char) : Option Float :=
  let (negative, cs) := splitSign cs
  let size? :=
    match String.ofList (cs.map Char.toLower) with
    | "inf" => some (1 / 0)
    | "infinity" => some (1 / 0)
    | "nan" => some (0 / 0)
    | _ => readUnsigned? cs
  size?.map fun x => if negative then -x else x

/-- The double closest to the decimal that a text holds. -/
def read? (s : String) : Option Float := readChars? s.toList

end Extraction.Decimal
