import Extraction.Pattern.Replacement
import Extraction.Pattern.Resolve
import Extraction.Pattern.Search
import Extraction.Pattern.Size

/-! # Patterns

Regular expressions over characters. Matching, extracting and replacing all rest on one search,
`find?`.
-/

namespace Extraction

structure Pattern where
  automaton : Pattern.Automaton
  /-- The names of groups with their indices. -/
  names : List (String × Nat)

namespace Pattern

/-- Reads a pattern and builds its automaton. -/
def ofString (text : String) : Except Error Pattern := do
  let parsed ← parse text
  let node ← parsed.expr.resolve
  if node.fits then
    return { automaton := node.automaton parsed.groups, names := parsed.names }
  else throw .tooLarge

/-- A match: the text searched, and the places of its groups in it. -/
structure Match where
  text : List Char
  slots : Slots

/-- Where the whole match starts and ends. -/
def Match.start (m : Match) : Nat := (m.slots.getD 0 none).getD 0

def Match.stop (m : Match) : Nat := (m.slots.getD 1 none).getD 0

/-- The text of a group that took part in the match. -/
def Match.group? (m : Match) (index : Nat) : Option (List Char) :=
  match m.slots.getD (2 * index) none, m.slots.getD (2 * index + 1) none with
  | some i, some j => some ((m.text.take j).drop i)
  | _, _ => none

/-- The first match in a text with `before` in front of it. -/
def find? (p : Pattern) (before : Option Char) (text : List Char) : Option Match :=
  (p.automaton.find? before text).map fun slots => ⟨text, slots⟩

def isMatch (p : Pattern) (s : String) : Bool := (p.find? none s.toList).isSome

/-- The text of the first group in the first match. -/
def extract? (p : Pattern) (s : String) : Option String :=
  ((p.find? none s.toList).bind fun m => m.group? 1).map String.ofList

/-- What a piece of a replacement stands for. -/
def expandPiece (p : Pattern) (m : Match) : Piece → List Char
  | .char c => [c]
  | .group index => (m.group? index).getD []
  | .named name => ((p.names.lookup name).bind m.group?).getD []

def expand (p : Pattern) (m : Match) (replacement : List Piece) : List Char :=
  replacement.flatMap (p.expandPiece m)

/-- Replaces all matches in a text with `before` in front of it. Directly behind a match, where
`behind` is set, an empty match does not count. -/
def replaceFrom (p : Pattern) (replacement : List Piece) (behind : Bool) (before : Option Char)
    (text : List Char) : List Char :=
  match p.find? before text with
  | none => text
  | some m =>
    match text with
    | [] => if behind then [] else p.expand m replacement
    | c :: cs =>
      if 0 < m.stop then
        (c :: cs).take m.start ++ p.expand m replacement ++
          replaceFrom p replacement true ((c :: cs).take m.stop).getLast? (cs.drop (m.stop - 1))
      else if behind then c :: replaceFrom p replacement false (some c) cs
      else p.expand m replacement ++ replaceFrom p replacement true before (c :: cs)
termination_by (text.length, if behind then 0 else 1)
decreasing_by
  · simp_wf; left; omega
  · simp_wf; left; omega
  · simp_wf; right; simp_all

/-- Replaces all matches. -/
def replaceAll (p : Pattern) (s replacement : String) : String :=
  String.ofList (p.replaceFrom (pieces replacement.toList) false none s.toList)

end Pattern

end Extraction
