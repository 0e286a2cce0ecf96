import Extraction.Decimal.Shortest
import Extraction.Text.Digits

/-! # Decimals as text

A decimal other than zero is written by its digits and the place of its point: `0.d₁d₂…dₖ · 10ⁿ`.
-/

namespace Extraction.Decimal

open Extraction.Text

namespace Scientific

def digits (d : Scientific) : List Char := Text.digits 10 d.coefficient

/-- The number of digits in front of the point; negative if zeros follow the point. -/
def point (d : Scientific) : Int := d.digits.length + d.exponent

end Scientific

def zeros (n : Nat) : List Char := List.replicate n '0'

/-- Digits with a point behind the `n`-th, and with zeros up to it where digits are missing. -/
def positional (ds : List Char) (n : Int) : List Char :=
  if n ≤ 0 then "0.".toList ++ zeros (-n).toNat ++ ds
  else if ds.length ≤ n.toNat then ds ++ zeros (n.toNat - ds.length)
  else ds.take n.toNat ++ '.' :: ds.drop n.toNat

/-- Digits with a point behind the first one, if there are more. -/
def mantissa : List Char → List Char
  | [] => []
  | [d] => [d]
  | d :: ds => d :: '.' :: ds

/-- Digits and a power of ten; `plus` is the sign of exponents that are not negative. -/
def scientific (plus : List Char) (ds : List Char) (n : Int) : List Char :=
  mantissa ds ++ 'e' :: (if n ≤ 0 then '-' :: digits 10 (1 - n).toNat
    else plus ++ digits 10 (n - 1).toNat)

def signed (negative : Bool) (cs : List Char) : List Char :=
  if negative then '-' :: cs else cs

/-- The shortest text that reads back, without an exponent: `1`, `0.5`, `-0`. -/
def plainChars : Double → List Char
  | .nan => "NaN".toList
  | .infinite negative => signed negative "inf".toList
  | .finite negative x =>
    signed negative <|
      if x.mantissa = 0 then ['0']
      else
        let d := shortest .up x
        positional d.digits d.point

/-- A number without an exponent: `1`, `0.5`, `-0`. -/
def plain (x : Float) : String := String.ofList (plainChars (.ofFloat x))

end Extraction.Decimal
