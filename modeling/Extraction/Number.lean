import Extraction.Decimal.Notation

/-! # Numbers in documents

The text of a number is the one that a browser shows: positional for sizes from `10⁻⁶` to below
`10²¹`, and with an exponent elsewhere.
-/

namespace Extraction.Number

open Extraction.Decimal

/-- Whether a size is `10²¹` or more. -/
def isLarge (x : Binary) : Bool := x.atLeast (Nat.pow 10 21) 0

/-- Whether a size is below the double closest to `10⁻⁶`. -/
def isSmall (x : Binary) : Bool := !x.atLeast 4722366482869645 (-72)

def sizeChars (x : Binary) : List Char :=
  if x.mantissa = 0 then ['0']
  else
    let d := shortest .up x
    if isLarge x || isSmall x then scientific ['+'] d.digits d.point
    else positional d.digits d.point

/-- Zero has no sign. -/
def chars : Double → List Char
  | .nan => "NaN".toList
  | .infinite negative => signed negative "Infinity".toList
  | .finite negative x => signed (negative && x.mantissa ≠ 0) (sizeChars x)

def format (x : Float) : String := String.ofList (chars (.ofFloat x))

end Extraction.Number
