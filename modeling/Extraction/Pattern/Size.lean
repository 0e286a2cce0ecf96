import Extraction.Pattern.Node
import Extraction.Text.Utf8

/-! # The size of patterns

A pattern is also an automaton over the bytes of a text, which reads them forward or backward. Its
size is the memory that its states take. States are counted in the order in which they are built,
and patterns that need too much memory are refused.
-/

namespace Extraction.Pattern

open Extraction.Text

inductive Direction where
  | forward
  | backward
deriving DecidableEq, Repr

/-- The first and the last of some bytes. -/
abbrev ByteRange := Nat × Nat

/-! ## Characters as bytes -/

/-- The last code point of a part of a range that is to be taken by itself, because the bytes of
the whole range are not just one range of bytes behind the other. -/
def splitPoint? (lo hi : Nat) : Option Nat :=
  match [0x7F, 0x7FF, 0xFFFF].find? fun last => lo ≤ last && last < hi with
  | some last => some last
  | none =>
    if hi < 0x80 then none
    else [64, 64 * 64, 64 * 64 * 64].findSome? fun block =>
      if lo / block = hi / block then none
      else if lo % block ≠ 0 then some (lo / block * block + block - 1)
      else if hi % block ≠ block - 1 then some (hi / block * block - 1)
      else none

def bytesOf (code : Nat) : List Nat :=
  (Utf8.encodeChars [Char.ofNat code]).map UInt8.toNat

/-- The bytes of the characters in a range, as sequences of ranges. -/
def byteRanges (lo hi : Nat) : List (List ByteRange) :=
  match splitPoint? lo hi with
  | some last =>
    if _h : lo ≤ last ∧ last < hi then byteRanges lo last ++ byteRanges (last + 1) hi
    else [(bytesOf lo).zip (bytesOf hi)]
  | none => [(bytesOf lo).zip (bytesOf hi)]
termination_by hi - lo

/-- A range without the surrogates in it, which have no bytes. -/
def withoutSurrogates (r : Nat × Nat) : List (Nat × Nat) :=
  if r.1 < 0xE000 ∧ 0xD7FF < r.2 then [(r.1, 0xD7FF), (0xE000, r.2)] else [r]

/-- The bytes of the characters in a set. -/
def byteSequences (s : CharSet) : List (List ByteRange) :=
  (s.ranges.flatMap withoutSurrogates).flatMap fun r => byteRanges r.1 r.2

def isAscii (s : CharSet) : Bool := s.ranges.all fun r => r.2 < 0x80

/-! ## States and their memory -/

structure Size where
  states : Nat := 0
  /-- In bytes. -/
  memory : Nat := 0
deriving DecidableEq, Repr

/-- Adds a state, with the memory for what is not the same in all states. -/
def Size.add (s : Size) (extra : Nat) : Size := ⟨s.states + 1, s.memory + 32 + extra⟩

/-- Patterns that need more memory are refused. -/
def maxMemory : Nat := 10 * 1024 * 1024

def Size.check (s : Size) : Option Size := if s.memory ≤ maxMemory then some s else none

/-- A table of the states for characters, by what they read and where they go on to. It has a
number of places, and each of them keeps the latest state only. -/
abbrev Memo := Array (Option (List Nat × Nat))

def Memo.empty (places : Nat) : Memo := Array.replicate places none

/-- The place of a key is a hash of it, into which its numbers are mixed one after another. -/
def Memo.place (m : Memo) (key : List Nat) : Nat :=
  (key.foldl (fun (h : UInt64) n => (h ^^^ n.toUInt64) * 1099511628211)
    14695981039346656037).toNat % m.size

def Memo.find? (m : Memo) (key : List Nat) : Option Nat :=
  match m.getD (m.place key) none with
  | some (key', state) => if key' = key then some state else none
  | none => none

/-- Adds a state unless the table has one that does the same. -/
def share (key : List Nat) (extra : Nat) (s : Size × Memo) : Nat × Size × Memo :=
  let (size, memo) := s
  match memo.find? key with
  | some state => (state, size, memo)
  | none =>
    (size.states, size.add extra,
      memo.setIfInBounds (memo.place key) (some (key, size.states)))

/-- Groups sequences that are next to each other and start alike, without what they start with. -/
def groupByFirst : List (List ByteRange) → List (ByteRange × List (List ByteRange))
  | [] => []
  | [] :: rest => groupByFirst rest
  | (r :: rs) :: rest =>
    match groupByFirst rest with
    | (r', rests) :: groups =>
      if r = r' then (r, rs :: rests) :: groups else (r, [rs]) :: (r', rests) :: groups
    | [] => [(r, [rs])]

/-- Adds the states for sequences of up to `depth` bytes that go on to the state `next`. Sequences
that start alike part as late as they can, and ends that are the same are shared. -/
def addForward (next : Nat) : Nat → List (List ByteRange) → Size × Memo → Nat × Size × Memo
  | 0, _, s => (next, s)
  | depth + 1, sequences, s =>
    if sequences = [[]] then (next, s)
    else
      let groups := groupByFirst sequences
      let (key, s) := groups.foldl (fun (key, s) (r, rests) =>
        let (state, s) := addForward next depth rests s
        (key ++ [r.1, r.2, state], s)) ([], s)
      share key (8 * groups.length) s

/-- Adds the states for a sequence that is read from its last byte on and goes on to the state
`next`: one for each byte. Beginnings that are the same are shared. -/
def addBackward (next : Nat) (sequence : List ByteRange) (s : Size × Memo) : Size × Memo :=
  (sequence.foldl (fun (state, s) r => share [state, r.1, r.2] 0 s) (next, s)).2

/-- Adds the states for one character of a set. -/
def Size.addChars (s : Size) (d : Direction) (set : CharSet) : Size :=
  match set.ranges with
  | [(lo, hi)] =>
    if lo = hi then (bytesOf lo).foldl (fun s _ => s.add 0) s else several
  | _ => several
where
  several :=
    let sequences := byteSequences set
    if isAscii set then (s.add 0).add (8 * set.ranges.length)
    else match d with
      | .forward => (addForward s.states 4 sequences (s.add 0, .empty 10000)).2.1
      | .backward =>
        let start := s.add (4 * sequences.length)
        (sequences.foldl (fun s sequence => addBackward start.states sequence s)
          (start.add 0, .empty 1000)).1

/-! ## Choices between texts -/

/-- The character that a node reads if there is only one. -/
def Node.char? : Node → Option Char
  | .chars ⟨[(lo, hi)]⟩ _ => if lo = hi then some (Char.ofNat lo) else none
  | _ => none

/-- The text that a node reads if there is only one. -/
def Node.text? (n : Node) : Option (List Char) :=
  match n.parts with
  | [] => none
  | parts => parts.mapM char?

/-- How texts go on: which first bytes there are, each with the rests of the texts behind it.
Where a text ends, what comes later starts anew. The latest part is the first. -/
abbrev Fork := List (List (UInt8 × List (List UInt8)))

def insertRest (b : UInt8) (rest : List UInt8) :
    List (UInt8 × List (List UInt8)) → List (UInt8 × List (List UInt8))
  | [] => [(b, [rest])]
  | (b', rests) :: more =>
    if b = b' then (b', rests ++ [rest]) :: more else (b', rests) :: insertRest b rest more

def Fork.insert (f : Fork) : List UInt8 → Fork
  | [] => if f.all List.isEmpty && 1 < f.length then f else [] :: f
  | b :: rest =>
    match f with
    | [] => [[(b, [rest])]]
    | latest :: older => insertRest b rest latest :: older

/-- Adds the states for a choice between texts of up to `depth` bytes as a tree. -/
def Size.addTree (s : Size) : Nat → List (List UInt8) → Size
  | 0, _ => s
  | depth + 1, texts =>
    let fork := texts.foldl Fork.insert ([[]] : Fork)
    let parts := fork.filter fun part => !part.isEmpty
    let s := parts.foldl (fun s part =>
      s.add (if part.length = 1 then 0 else 8 * part.length)) s
    let s := s.add (4 * (parts.length + (fork.length - 1)))
    (parts.flatten.filter fun (_, rests) => rests.any fun rest => !rest.isEmpty).foldl
      (fun s (_, rests) => addTree s depth rests) s

/-- Adds the states for a choice between texts. -/
def Size.addTexts (s : Size) (d : Direction) (texts : List (List Char)) : Size :=
  let texts := texts.map fun cs =>
    match d with
    | .forward => Utf8.encodeChars cs
    | .backward => (Utf8.encodeChars cs).reverse
  (s.add 0).addTree ((texts.map List.length).foldl max 0) texts

/-! ## Patterns -/

/-- Applies a function a number of times, as long as it gives a size. -/
def repeatedly (f : Size → Option Size) : Nat → Size → Option Size
  | 0, s => some s
  | n + 1, s =>
    match f s with
    | some s => repeatedly f n s
    | none => none

def Node.isChoice : Node → Bool
  | .alt _ _ => true
  | _ => false

/-- Adds the states of a node. None if they take too much memory. Of a choice, `behind` is the
number of branches that were added before this one. -/
def Node.addSize (d : Direction) : (behind : Nat) → Node → Size → Option Size
  | _, .empty, s | _, .look _, s => (s.add 0).check
  | _, .chars set _, s => (s.addChars d set).check
  | _, .capture _ body, s =>
    match d with
    | .forward => (body.addSize d 0 (s.add 0)).map fun s => s.add 0
    | .backward => body.addSize d 0 s
  | _, .seq first rest, s =>
    match d with
    | .forward => (first.addSize d 0 s).bind (rest.addSize d 0)
    | .backward => (rest.addSize d 0 s).bind (first.addSize d 0)
  | _, .repetition body 0 (some 1) _, s =>
    (body.addSize d 0 (s.add 8)).map fun s => s.add 0
  | _, .repetition body 0 none _, s =>
    if body.alwaysReads then body.addSize d 0 (s.add 8)
    else (body.addSize d 0 s).map fun s => ((s.add 8).add 8).add 0
  | _, .repetition body min none _, s =>
    (repeatedly (body.addSize d 0) min s).map fun s => s.add 8
  | _, .repetition body min (some max) _, s =>
    if min = 0 then repeatedly (fun s => body.addSize d 0 (s.add 8)) max ((s.add 0).add 0)
    else if min = max then repeatedly (body.addSize d 0) min s
    else
      (repeatedly (body.addSize d 0) min s).bind fun s =>
        repeatedly (fun s => body.addSize d 0 (s.add 8)) (max - min) (s.add 0)
  | behind, .alt first rest, s =>
    match behind, (Node.alt first rest).branches.mapM text? with
    | 0, some texts => (s.addTexts d texts).check
    | _, _ => do
      -- the states in front of a choice and behind it follow its second branch
      let frame := fun (s : Size) => (s.add 0).add 0
      let s ← first.addSize d 0 s
      let s := if behind = 1 then frame s else s
      let s ← rest.addSize d (behind + 1) s
      let s := if behind = 0 && !rest.isChoice then frame s else s
      ({ s with memory := s.memory + if rest.isChoice then 4 else 8 } : Size).check

/-- Whether all matches of a node start with a condition that only the start of the text meets, or
backward, end with one that only its end meets. -/
def Node.anchored (d : Direction) : Node → Bool
  | .look .textStart => d = .forward
  | .look .textEnd => d = .backward
  | .capture _ body => body.anchored d
  | .repetition body min _ _ => 0 < min && body.anchored d
  | .seq first rest =>
    match d with
    | .forward => first.anchored d || (first.readsNothing && rest.anchored d)
    | .backward => rest.anchored d || (rest.readsNothing && first.anchored d)
  | .alt first rest => first.anchored d && rest.anchored d
  | _ => false

/-- The size of the automaton of a whole pattern, which skips what is in front of a match. -/
def Node.size? (n : Node) (d : Direction) : Option Size := do
  let start : Size := {}
  let start := if n.anchored d then start.add 0 else ((start.add 8).add 0).add 8
  let s ← (Node.capture 0 n).addSize d 0 start
  (s.add 0).check

/-- Whether a pattern is accepted. -/
def Node.fits (n : Node) : Bool := (n.size? .forward).isSome && (n.size? .backward).isSome

end Extraction.Pattern
