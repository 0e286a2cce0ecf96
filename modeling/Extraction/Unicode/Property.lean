import Extraction.CharSet

/-! # Properties of characters

A property is kept as the text of its table and read when it is asked for. Names are compared
loosely, as the standard recommends. The tables are those of version 16.0 of the character
database.
-/

namespace Extraction.Unicode

structure Property where
  /-- The short name, the long name and any other. -/
  names : List String
  ranges : String
deriving Repr

def Property.set (p : Property) : CharSet := .ofText p.ranges

/-- What is compared of a name: its letters and digits in lower case. -/
def looseChars (cs : List Char) : List Char :=
  (cs.filter fun c => c.val < 0x80 && c ≠ ' ' && c ≠ '_' && c ≠ '-').map Char.toLower

/-- A name without its case, its separators and a leading "is". -/
def looseName (name : String) : String :=
  match name.toList with
  | a :: b :: rest =>
    if (a = 'i' ∨ a = 'I') ∧ (b = 's' ∨ b = 'S') then
      -- "isc" is a name of its own, not "c" with a prefix
      if looseChars rest = ['c'] then "isc" else String.ofList (looseChars rest)
    else String.ofList (looseChars (a :: b :: rest))
  | cs => String.ofList (looseChars cs)

def Property.isNamed (p : Property) (loose : String) : Bool :=
  p.names.any fun n => looseName n = loose

/-- Finds a property by the loose form of any of its names. -/
def find? (ps : List Property) (loose : String) : Option Property :=
  ps.find? fun p => p.isNamed loose

end Extraction.Unicode
