import Extraction.Pattern.Class

/-! # The meaning of patterns

A pattern with its flags resolved: what is left are sets of characters, conditions on a place in
the text, and the ways to combine them. Among the ways to read a text the order matters, so a node
also says which one is preferred.
-/

namespace Extraction.Pattern

inductive Boundary where
  | either
  | neither
  | start
  | finish
  | startHalf
  | finishHalf
deriving DecidableEq, Repr

/-- A condition on the characters around a place. -/
inductive Look where
  | textStart
  | textEnd
  | lineStart (crlf : Bool)
  | lineEnd (crlf : Bool)
  /-- Where words, of ASCII letters alone or of any, start or end. -/
  | word (kind : Boundary) (unicode : Bool)
deriving DecidableEq, Repr

def isWordChar (unicode : Bool) : Option Char → Bool
  | none => false
  | some c => (letterClass unicode .word).contains c

/-- Whether a condition holds between two characters; at the ends of the text one is missing. -/
def Look.holds (before after : Option Char) : Look → Bool
  | .textStart => before.isNone
  | .textEnd => after.isNone
  | .lineStart crlf =>
    before.isNone || before = some '\n' || (crlf && before = some '\r' && after ≠ some '\n')
  | .lineEnd crlf =>
    after.isNone || (after = some '\n' && !(crlf && before = some '\r')) ||
      (crlf && after = some '\r')
  | .word kind unicode =>
    let before := isWordChar unicode before
    let after := isWordChar unicode after
    match kind with
    | .either => before != after
    | .neither => before == after
    | .start => !before && after
    | .finish => before && !after
    | .startHalf => !before
    | .finishHalf => !after

inductive Node where
  | empty
  /-- Without `unicode` the set is one of bytes, which differs from the same set of characters. -/
  | chars (set : CharSet) (unicode : Bool)
  | look (l : Look)
  | capture (index : Nat) (body : Node)
  /-- A greedy repetition prefers more copies. -/
  | repetition (body : Node) (min : Nat) (max : Option Nat) (greedy : Bool)
  | seq (first rest : Node)
  /-- The first branch is preferred. -/
  | alt (first rest : Node)
deriving DecidableEq, Repr

/-- The node of a set. By byte and by character, the empty set is the same, and so is one that
holds a single character. -/
def Node.ofSet (set : CharSet) (unicode : Bool) : Node :=
  .chars set (unicode || set.isEmpty || set.isSingleton)

/-- Whether a node has no part that reads a character. -/
def Node.readsNothing : Node → Bool
  | .empty | .look _ => true
  | .chars _ _ => false
  | .capture _ body => body.readsNothing
  | .repetition body _ _ _ => body.readsNothing
  | .seq first rest => first.readsNothing && rest.readsNothing
  | .alt first rest => first.readsNothing && rest.readsNothing

/-- The least number of characters that a node reads. None if a part of it can read no character
at all. -/
def Node.minLength? : Node → Option Nat
  | .empty | .look _ => some 0
  | .chars set _ => if set.isEmpty then none else some 1
  | .capture _ body => body.minLength?
  | .repetition body min _ _ => body.minLength?.map (min * ·)
  | .seq first rest => do return (← first.minLength?) + (← rest.minLength?)
  | .alt first rest => do return Nat.min (← first.minLength?) (← rest.minLength?)

/-- Whether a node is known to read a character. -/
def Node.alwaysReads (n : Node) : Bool := n.minLength?.any (0 < ·)

/-- A repetition in its simplest form: what reads nothing is repeated at most once. -/
def Node.repeated (body : Node) (min : Nat) (max : Option Nat) (greedy : Bool) : Node :=
  let (min, max) :=
    if body.readsNothing then (Nat.min min 1, some (Nat.min (max.getD 1) 1)) else (min, max)
  if max = some 0 then .empty
  else if min = 1 ∧ max = some 1 then body
  else .repetition body min max greedy

/-! ## Sequences and choices -/

/-- One node after another. Sequences lean to the right and have no empty parts. -/
def Node.append : Node → Node → Node
  | .empty, m => m
  | n, .empty => n
  | .seq first rest, m => .seq first (rest.append m)
  | n, m => .seq n m

/-- The parts of a sequence. -/
def Node.parts : Node → List Node
  | .empty => []
  | .seq first rest => first.parts ++ rest.parts
  | n => [n]

def Node.ofParts : List Node → Node
  | [] => .empty
  | [n] => n
  | n :: ns => .seq n (ofParts ns)

/-- The branches of a choice, those of choices among them included. -/
def Node.branches : Node → List Node
  | .alt first rest => first.branches ++ rest.branches
  | n => [n]

def Node.ofBranches : List Node → Node
  | [] => .chars .empty true
  | [n] => n
  | n :: ns => .alt n (ofBranches ns)

def Node.set? : Node → Option CharSet
  | .chars set _ => some set
  | _ => none

/-- Whether a node reads a certain character. -/
def Node.isChar (n : Node) : Bool := n.set?.any CharSet.isSingleton

/-- Whether a node reads one of several characters. -/
def Node.isClass (n : Node) : Bool := n.set?.any fun s => !s.isSingleton

/-- A choice between branches. Where each of them is a certain character, or each is one of
several, it is a set. Branches of both kinds remain a choice. -/
def Node.choice (branches : List Node) : Node :=
  if branches.all isChar || branches.all isClass then
    .ofSet (.unions (branches.filterMap set?)) true
  else .ofBranches branches

/-- Puts a part in front of runs. Certain characters in a row are one run, any other part is one
by itself. -/
def addPart (n : Node) : List (List Node) → List (List Node)
  | (m :: ms) :: rest =>
    if n.isChar && m.isChar then (n :: m :: ms) :: rest else [n] :: (m :: ms) :: rest
  | rest => [n] :: rest

/-- The parts of a sequence, in runs. -/
def Node.runs (n : Node) : List (List Node) := n.parts.foldr addPart []

section Start

variable {α : Type} [DecidableEq α]

/-- What two lists both start with. -/
def sharedStart : List α → List α → List α
  | a :: as, b :: bs => if a = b then a :: sharedStart as bs else []
  | _, _ => []

/-- What all of some lists start with. -/
def commonStart : List (List α) → List α
  | [] => []
  | [as] => as
  | as :: rest => sharedStart as (commonStart rest)

end Start

/-- A choice whose branches are all known. If they are sequences that start alike, then what they
share is read in front of the choice. How to read that is thus decided before the branch is. -/
def Node.factored (n : Node) : Node :=
  let branches := n.branches
  let sequences := branches.map runs
  let start := if sequences.all fun ls => 2 ≤ ls.length then commonStart sequences else []
  match branches, start with
  | [_], _ => n
  | _, [] => .choice branches
  | _, start =>
    let rests := sequences.map fun ls => ofParts (ls.drop start.length).flatten
    .ofParts (start.flatten ++ [.choice (rests.flatMap Node.branches)])

end Extraction.Pattern
