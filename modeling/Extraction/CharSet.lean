import Extraction.Text.Digits

/-! # Sets of characters

A set of characters, held as inclusive ranges of code points in ascending order. A range starts
and ends in characters. Surrogates are code points, but no characters: a range may run over all of
them, and what a set says about them does not matter.
-/

namespace Extraction

open Extraction.Text

structure CharSet where
  ranges : List (Nat × Nat)
deriving DecidableEq, Repr

namespace CharSet

/-- The largest code point. -/
def maxCode : Nat := 0x10FFFF

/-- Looks no further than the first range that starts behind the code point. -/
def inRanges : List (Nat × Nat) → Nat → Bool
  | [], _ => false
  | (lo, hi) :: rest, n => !(n < lo) && (n ≤ hi || inRanges rest n)

def containsCode (s : CharSet) (n : Nat) : Bool := inRanges s.ranges n

def contains (s : CharSet) (c : Char) : Bool := s.containsCode c.toNat

def empty : CharSet := ⟨[]⟩

def full : CharSet := ⟨[(0, maxCode)]⟩

def range (lo hi : Nat) : CharSet := if lo ≤ hi then ⟨[(lo, hi)]⟩ else empty

def singleton (c : Char) : CharSet := ⟨[(c.toNat, c.toNat)]⟩

def isEmpty (s : CharSet) : Bool := s.ranges.isEmpty

/-- Whether a set is one code point. -/
def isSingleton (s : CharSet) : Bool :=
  match s.ranges with
  | [(lo, hi)] => lo = hi
  | _ => false

/-- The code point of the character after one. -/
def next (n : Nat) : Nat := if n = 0xD7FF then 0xE000 else n + 1

/-- The code point of the character before one. -/
def previous (n : Nat) : Nat := if n = 0xE000 then 0xD7FF else n - 1

/-- Puts a range in front of ranges that start no earlier, joining those that it meets. Ranges on
both sides of the surrogates do not meet. -/
def consRange : Nat × Nat → List (Nat × Nat) → List (Nat × Nat)
  | r, [] => [r]
  | (lo, hi), (lo', hi') :: rest =>
    if hi + 1 < lo' then (lo, hi) :: (lo', hi') :: rest
    else consRange (lo, max hi hi') rest

/-- Ranges in any order, overlapping or not; those that run backwards hold nothing. -/
def ofRanges (rs : List (Nat × Nat)) : CharSet :=
  ⟨((rs.filter fun r => r.1 ≤ r.2).mergeSort fun a b => a.1 ≤ b.1).foldr consRange []⟩

def union (s t : CharSet) : CharSet := ofRanges (s.ranges ++ t.ranges)

def unions (ss : List CharSet) : CharSet := ofRanges (ss.flatMap ranges)

/-- The range between two code points, whichever is less. -/
def between (m n : Nat) : Nat × Nat := if m ≤ n then (m, n) else (n, m)

/-- What lies behind the code point `last`, from the character after it on, but for some ranges. Of
two ranges with nothing but surrogates between them, the two ends count as what lies between. -/
def gaps (last : Nat) : List (Nat × Nat) → List (Nat × Nat)
  | [] => if last < maxCode then [(next last, maxCode)] else []
  | (lo, hi) :: rest => between (next last) (previous lo) :: gaps hi rest

/-- The complement of a set. -/
def compl (s : CharSet) : CharSet :=
  match s.ranges with
  | [] => full
  | (lo, hi) :: rest => ⟨(if 0 < lo then [(0, previous lo)] else []) ++ gaps hi rest⟩

/-- What two ranges share. -/
def meet (r r' : Nat × Nat) : Option (Nat × Nat) :=
  let lo := max r.1 r'.1
  let hi := min r.2 r'.2
  if lo ≤ hi then some (lo, hi) else none

def inter (s t : CharSet) : CharSet := ⟨s.ranges.flatMap fun r => t.ranges.filterMap (meet r)⟩

/-- What ascending ranges leave of the range from `lo` to `hi`. -/
def cut (lo hi : Nat) : List (Nat × Nat) → List (Nat × Nat)
  | [] => [(lo, hi)]
  | (lo', hi') :: rest =>
    if hi' < lo then cut lo hi rest
    else if hi < lo' then [(lo, hi)]
    else
      (if lo < lo' then [(lo, previous lo')] else []) ++
        (if hi' < hi then cut (next hi') hi rest else [])

def diff (s t : CharSet) : CharSet := ⟨s.ranges.flatMap fun r => cut r.1 r.2 t.ranges⟩

def symmDiff (s t : CharSet) : CharSet := (s.union t).diff (s.inter t)

/-- Reads one range, such as `41-5A` or `AA`. -/
def readRange (cs : List Char) : Nat × Nat :=
  match cs.span (· ≠ '-') with
  | (lo, []) => (ofDigits 16 lo, ofDigits 16 lo)
  | (lo, _ :: hi) => (ofDigits 16 lo, ofDigits 16 hi)

/-- The words of a text, given the characters of the current one in reverse. -/
def words (acc : List Char) : List Char → List (List Char)
  | [] => if acc.isEmpty then [] else [acc.reverse]
  | c :: cs =>
    if c = ' ' ∨ c = '\n' then (if acc.isEmpty then words [] cs else acc.reverse :: words [] cs)
    else words (c :: acc) cs

/-- Reads a table of ascending ranges in upper case hexadecimal, such as `30-39 5F`. -/
def ofText (text : String) : CharSet := ⟨(words [] text.toList).map readRange⟩

end CharSet

end Extraction
