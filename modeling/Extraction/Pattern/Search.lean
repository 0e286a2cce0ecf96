import Extraction.Pattern.Automaton

/-! # Searching

All ways through an automaton are followed at once, in the order in which they are preferred. Two
ways in the same state at the same place have the same future, so only the preferred one is kept.
The match found is the leftmost one, and of those that start there the preferred one.
-/

namespace Extraction.Pattern

/-- Places noted on the way, counted from where the search starts. -/
abbrev Slots := Array (Option Nat)

/-- A way through an automaton, up to a state. -/
structure Thread where
  state : Nat
  slots : Slots

/-- The threads at one place, the preferred one last, with the states that were visited. -/
structure Frontier where
  visited : Array Bool
  threads : List Thread

def Frontier.empty (a : Automaton) : Frontier :=
  { visited := Array.replicate a.states.size false, threads := [] }

/-- Follows threads as far as no character is read. Every state is visited once and adds at most
two threads, which bounds the fuel. -/
def Automaton.follow (a : Automaton) (place : Nat) (before after : Option Char) :
    Nat → List Thread → Frontier → Frontier
  | 0, _, f => f
  | _ + 1, [], f => f
  | fuel + 1, t :: ts, f =>
    if f.visited.getD t.state true then a.follow place before after fuel ts f
    else
      let f := { f with visited := f.visited.setIfInBounds t.state true }
      match a.states.getD t.state .fail with
      | .chars _ _ | .accept =>
        a.follow place before after fuel ts { f with threads := t :: f.threads }
      | .fail => a.follow place before after fuel ts f
      | .look l next =>
        if l.holds before after then
          a.follow place before after fuel (⟨next, t.slots⟩ :: ts) f
        else a.follow place before after fuel ts f
      | .save slot next =>
        a.follow place before after fuel
          (⟨next, t.slots.setIfInBounds slot (some place)⟩ :: ts) f
      | .split first second =>
        a.follow place before after fuel (⟨first, t.slots⟩ :: ⟨second, t.slots⟩ :: ts) f

/-- Adds a thread behind all others. -/
def Automaton.add (a : Automaton) (place : Nat) (before after : Option Char) (f : Frontier)
    (t : Thread) : Frontier :=
  a.follow place before after (2 * a.states.size + 2) [t] f

/-- Splits threads, the preferred one first, at one that accepts. -/
def Automaton.cut (a : Automaton) : List Thread → List Thread × Option Slots
  | [] => ([], none)
  | t :: ts =>
    match a.states.getD t.state .fail with
    | .accept => ([], some t.slots)
    | _ =>
      let (live, found) := a.cut ts
      (t :: live, found)

/-- Where threads are after a character. -/
def Automaton.step (a : Automaton) (place : Nat) (c : Char) (after : Option Char)
    (threads : List Thread) : Frontier :=
  threads.foldl (fun f t =>
    match a.states.getD t.state .fail with
    | .chars set next =>
      if set.contains c then a.add (place + 1) (some c) after f ⟨next, t.slots⟩ else f
    | _ => f) (.empty a)

/-- Goes on with a search at a place, given the best match so far. -/
def Automaton.run (a : Automaton) (place : Nat) (before : Option Char) (f : Frontier)
    (best : Option Slots) : List Char → Option Slots
  | [] =>
    let f := if best.isNone then
      a.add place before none f ⟨a.start, Array.replicate a.slots none⟩ else f
    (a.cut f.threads.reverse).2.or best
  | c :: cs =>
    let f := if best.isNone then
      a.add place before (some c) f ⟨a.start, Array.replicate a.slots none⟩ else f
    let (live, found) := a.cut f.threads.reverse
    let best := found.or best
    if live.isEmpty && best.isSome then best
    else a.run (place + 1) (some c) (a.step place c cs.head? live) best cs

/-- Searches a text that has `before` in front of it. -/
def Automaton.find? (a : Automaton) (before : Option Char) (text : List Char) : Option Slots :=
  a.run 0 before (.empty a) none text

end Extraction.Pattern
