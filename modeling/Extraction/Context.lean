import Extraction.Text.Quoted

/-! # What outlives a run

The repository that `label` writes to, and the commands that `prompt` can call.
-/

namespace Extraction

open Extraction.Text

/-- The strings that one instruction gives. -/
abbrev Frame := List String

/-- Labels with the values that were given to them, in the order of the labels. -/
structure Repository where
  entries : List (String × List String) := []
  sorted : entries.Pairwise (fun a b => a.1 < b.1) := by simp
deriving DecidableEq, Repr

namespace Repository

def empty : Repository := {}

/-- Changes the values of a label, which is created if it is new. -/
def alterEntry (label : String) (f : List String → List String) :
    List (String × List String) → List (String × List String)
  | [] => [(label, f [])]
  | (l, vs) :: rest =>
    if label = l then (l, f vs) :: rest
    else if label < l then (label, f []) :: (l, vs) :: rest
    else (l, vs) :: alterEntry label f rest

theorem mem_alterEntry {label : String} {f : List String → List String}
    {es : List (String × List String)} {e : String × List String}
    (h : e ∈ alterEntry label f es) : e.1 = label ∨ ∃ e' ∈ es, e'.1 = e.1 := by
  induction es with
  | nil => simp_all [alterEntry]
  | cons hd tl ih =>
    obtain ⟨l, vs⟩ := hd
    simp only [alterEntry] at h
    split at h <;> try split at h
    all_goals grind

theorem sorted_alterEntry (label : String) (f : List String → List String)
    {es : List (String × List String)} (h : es.Pairwise fun a b => a.1 < b.1) :
    (alterEntry label f es).Pairwise fun a b => a.1 < b.1 := by
  induction es with
  | nil => simp [alterEntry]
  | cons hd tl ih =>
    obtain ⟨l, vs⟩ := hd
    obtain ⟨hl, ht⟩ := List.pairwise_cons.1 h
    simp only [alterEntry]
    split
    · exact List.pairwise_cons.2 ⟨hl, ht⟩
    · rename_i ne
      split
      · rename_i lt
        refine List.pairwise_cons.2 ⟨fun e he => ?_, h⟩
        rcases List.mem_cons.1 he with rfl | he
        · exact lt
        · exact String.lt_trans lt (hl e he)
      · rename_i nlt
        refine List.pairwise_cons.2 ⟨fun e he => ?_, ih ht⟩
        rcases mem_alterEntry he with he | ⟨e', he', h'⟩
        · have : l ≤ label := String.not_lt.1 nlt
          rw [he]
          exact String.not_le.1 fun h => ne (String.le_antisymm h this)
        · exact h' ▸ hl e' he'

/-- In front of all labels there is none. -/
theorem lookup_eq_none_of_lt {label : String} {es : List (String × List String)}
    (h : ∀ e ∈ es, label < e.1) : es.lookup label = none := by
  rw [List.lookup_eq_none_iff]
  intro e he
  simpa using fun heq : label = e.1 => String.lt_irrefl e.1 (heq ▸ h e he)

theorem lookup_alterEntry (label : String) (f : List String → List String)
    {es : List (String × List String)} (h : es.Pairwise fun a b => a.1 < b.1) (l : String) :
    (alterEntry label f es).lookup l =
      if l = label then some (f ((es.lookup label).getD [])) else es.lookup l := by
  induction es with
  | nil => simp only [alterEntry, List.lookup_cons, List.lookup_nil]; grind
  | cons hd tl ih =>
    obtain ⟨k, vs⟩ := hd
    obtain ⟨hk, ht⟩ := List.pairwise_cons.1 h
    simp only [alterEntry]
    split
    · grind
    · split
      · rename_i lt
        have hnone : ((k, vs) :: tl).lookup label = none := lookup_eq_none_of_lt fun e he => by
          rcases List.mem_cons.1 he with rfl | he
          · exact lt
          · exact String.lt_trans lt (hk e he)
        rw [hnone, List.lookup_cons]
        grind
      · grind

def alter (r : Repository) (label : String) (f : List String → List String) : Repository :=
  ⟨alterEntry label f r.entries, sorted_alterEntry label f r.sorted⟩

/-- Appends to the values of a label. -/
def append (r : Repository) (label : String) (values : List String) : Repository :=
  r.alter label (· ++ values)

/-- The repository of entries in any order; of two with the same label the later one counts. -/
def ofList (entries : List (String × List String)) : Repository :=
  entries.foldl (fun r e => r.alter e.1 fun _ => e.2) empty

def clear (_ : Repository) : Repository := empty

def get? (r : Repository) (label : String) : Option (List String) := r.entries.lookup label

/-- Only the values of the label change. -/
theorem get?_append (r : Repository) (label : String) (values : List String) (l : String) :
    (r.append label values).get? l =
      if l = label then some ((r.get? label).getD [] ++ values) else r.get? l :=
  lookup_alterEntry label (· ++ values) r.sorted l

def labels (r : Repository) : List String := r.entries.map Prod.fst

def size (r : Repository) : Nat := r.entries.length

def isEmpty (r : Repository) : Bool := r.entries.isEmpty

end Repository

/-- One call of a command: which registration it reached, and what it was given. -/
structure Call where
  tag : String
  frame : Frame
  args : List String
deriving DecidableEq, Repr

structure Context where
  repository : Repository := .empty
  /-- Names of commands with the tag of their registration, each name once. -/
  commands : List (String × String) := []
  /-- All calls so far, oldest first. -/
  calls : List Call := []
deriving DecidableEq, Repr

namespace Context

def empty : Context := {}

def dropCommand (name : String) (commands : List (String × String)) : List (String × String) :=
  commands.filter fun c => c.1 ≠ name

/-- Replaces a command of the same name. -/
def register (c : Context) (name tag : String) : Context :=
  { c with commands := (name, tag) :: dropCommand name c.commands }

def hasCommand (c : Context) (name : String) : Bool := (c.commands.lookup name).isSome

/-- Also tells whether there was such a command. -/
def remove (c : Context) (name : String) : Context × Bool :=
  ({ c with commands := dropCommand name c.commands }, c.hasCommand name)

/-- Calls a command and tells whether there is one of that name. -/
def call (c : Context) (name : String) (frame : Frame) (args : List String) : Context × Bool :=
  match c.commands.lookup name with
  | some tag => ({ c with calls := c.calls ++ [⟨tag, frame, args⟩] }, true)
  | none => (c, false)

/-- At most one call is new, and nothing else. -/
theorem call_eq (c : Context) (name : String) (frame : Frame) (args : List String) :
    (c.call name frame args).1 =
      { c with calls := c.calls ++
          ((c.commands.lookup name).map fun tag => Call.mk tag frame args).toList } := by
  rw [call]
  cases c.commands.lookup name with
  | none => simp
  | some tag => rfl

def append (c : Context) (label : String) (values : List String) : Context :=
  { c with repository := c.repository.append label values }

/-- Clears the repository and keeps the commands. -/
def reset (c : Context) : Context := { c with repository := c.repository.clear }

def describeEntry (e : String × List String) : String := quoted e.1 ++ ": " ++ quotedList e.2

/-- The labels with their values, and the names of the commands in order. -/
def describe (c : Context) : String :=
  "Context \x7b repository: Repository(\x7b" ++
    String.intercalate ", " (c.repository.entries.map describeEntry) ++ "\x7d), commands: " ++
    quotedList ((c.commands.map Prod.fst).mergeSort fun a b => a ≤ b) ++ " \x7d"

end Context

end Extraction
