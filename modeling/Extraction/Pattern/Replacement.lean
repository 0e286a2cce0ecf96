import Extraction.Pattern.Parser

/-! # Replacement texts

A replacement refers to groups by number or by name: `$1`, `$name`, or with braces. Two dollar
signs stand for one, and one that starts no reference stands for itself.
-/

namespace Extraction.Pattern

open Extraction.Text

inductive Piece where
  | char (c : Char)
  | group (index : Nat)
  | named (name : String)
deriving DecidableEq, Repr

def isReferenceChar (c : Char) : Bool := c.isAlphanum || c = '_'

/-- The largest index that is read as a number. -/
def maxIndex : Nat := UInt64.size - 1

/-- A reference is a number if it can be one. -/
def Piece.ofReference (cs : List Char) : Piece :=
  let ds := match cs with | '+' :: ds => ds | ds => ds
  let n := ofDigits 10 ds
  if !ds.isEmpty && ds.all Char.isDigit && n ≤ maxIndex then .group n
  else .named (String.ofList cs)

/-- Reads a reference behind a dollar sign, and gives how many characters it has. -/
def reference? (cs : List Char) : Option (Piece × Nat) :=
  match cs with
  | '\x7b' :: cs =>
    let name := cs.takeWhile (· ≠ '\x7d')
    if name.length < cs.length then some (.ofReference name, name.length + 2) else none
  | cs =>
    let name := cs.takeWhile isReferenceChar
    if name.isEmpty then none else some (.ofReference name, name.length)

/-- The pieces of a replacement text. -/
def pieces : List Char → List Piece
  | [] => []
  | '$' :: '$' :: cs => .char '$' :: pieces cs
  | '$' :: cs =>
    match reference? cs with
    | some (piece, length) => piece :: pieces (cs.drop length)
    | none => .char '$' :: pieces cs
  | c :: cs => .char c :: pieces cs
termination_by cs => cs.length
decreasing_by all_goals simp only [List.length_cons, List.length_drop]; omega

end Extraction.Pattern
