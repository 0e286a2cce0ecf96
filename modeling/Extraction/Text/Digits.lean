/-! # Digits

Natural numbers by their digits, in bases up to sixteen.
-/

namespace Extraction.Text

def isHexDigit (c : Char) : Bool :=
  c.isDigit || ('a' ≤ c && c ≤ 'f') || ('A' ≤ c && c ≤ 'F')

/-- The value of a digit, of either case. -/
def digitValue (c : Char) : Nat :=
  if c.isDigit then c.toNat - '0'.toNat
  else if 'a' ≤ c then c.toNat - 'a'.toNat + 10
  else c.toNat - 'A'.toNat + 10

/-- The value of digits behind those of `n`. -/
def appendDigits (base n : Nat) (ds : List Char) : Nat :=
  ds.foldl (fun n c => base * n + digitValue c) n

def ofDigits (base : Nat) (ds : List Char) : Nat := appendDigits base 0 ds

/-- The digits of a number, most significant first, in lower case. -/
def digits (base n : Nat) : List Char := Nat.toDigits base n

@[simp] theorem appendDigits_nil (base n : Nat) : appendDigits base n [] = n := rfl

@[simp] theorem appendDigits_cons (base n : Nat) (d : Char) (ds : List Char) :
    appendDigits base n (d :: ds) = appendDigits base (base * n + digitValue d) ds := rfl

end Extraction.Text
