import Extraction.Pattern.Node

/-! # Automata

A pattern as numbered states. A state reads a character, asks something of the place, notes the
place, or goes on to two others of which the first is preferred.
-/

namespace Extraction.Pattern

inductive State where
  | chars (set : CharSet) (next : Nat)
  | look (l : Look) (next : Nat)
  /-- Notes the place in a slot. -/
  | save (slot next : Nat)
  | split (first second : Nat)
  | accept
  | fail
deriving Repr

/-- Goes on inside a repetition or leaves it. -/
def State.branch (greedy : Bool) (inside outside : Nat) : State :=
  if greedy then .split inside outside else .split outside inside

/-- Applies a function a number of times. -/
def iterate {α : Type} (f : α → α) : Nat → α → α
  | 0, a => a
  | n + 1, a => iterate f n (f a)

/-- Adds the states of a node that goes on to the state `next`; gives where to enter it. -/
def Node.addTo : Node → Nat × Array State → Nat × Array State
  | .empty, s => s
  | .chars set _, (next, states) => (states.size, states.push (.chars set next))
  | .look l, (next, states) => (states.size, states.push (.look l next))
  | .capture index body, (next, states) =>
    let (entry, states) := body.addTo (states.size, states.push (.save (2 * index + 1) next))
    (states.size, states.push (.save (2 * index) entry))
  | .seq first rest, s => first.addTo (rest.addTo s)
  | .alt first rest, (next, states) =>
    let (second, states) := rest.addTo (next, states)
    let (first, states) := first.addTo (next, states)
    (states.size, states.push (.split first second))
  | .repetition body min (some max) greedy, (next, states) =>
    -- optional copies all leave to `next`, so that one that is left out ends the repetition
    let optional := fun s =>
      let (entry, states) := body.addTo s
      (states.size, states.push (.branch greedy entry next))
    iterate body.addTo min (iterate optional (max - min) (next, states))
  | .repetition body min none greedy, (next, states) =>
    let loop := states.size
    let (entry, states) := body.addTo (loop, states.push .fail)
    let states := states.setIfInBounds loop (.branch greedy entry next)
    if min = 0 then
      if body.alwaysReads then (loop, states)
      -- a body that may read nothing is entered once before the loop offers the way out again
      else (states.size, states.push (.branch greedy entry next))
    else iterate body.addTo (min - 1) (entry, states)

structure Automaton where
  states : Array State
  start : Nat
  /-- Two for each group, the whole match included. -/
  slots : Nat

/-- The automaton of a pattern with a number of capturing groups. -/
def Node.automaton (n : Node) (groups : Nat) : Automaton :=
  let (start, states) := (Node.capture 0 n).addTo (0, #[.accept])
  { states, start, slots := 2 * (groups + 1) }

end Extraction.Pattern
