import Extraction.Proofs.Seam

/-!
# Line numbers in texts put together

Texts that are joined by a line break have the lines of both exactly if that break is not one with
the end of the first or with the start of the second.  The records of the second text are then found
as many lines further down as the first has lines, and are the same otherwise.
-/

namespace Extraction.Layout

variable {a s b joined : String}

/-! ## Entries -/

/-- What reading gives for a line. -/
def lineEntry (lineNr : Nat) (raw : String) : Option LineRecord :=
  if isStatement raw then some (lineRecord lineNr raw) else none

/-- What reading gives for lines, the first of which has the number `lineNr`. -/
def entriesFrom (lineNr : Nat) (raws : List String) : List (Option LineRecord) :=
  (raws.zipIdx lineNr).map fun l => lineEntry l.2 l.1

theorem parse_eq (source : String) : parse source = .ok (entriesFrom 1 (lines source)) :=
  parseLines_eq 1 (lines source)

theorem length_entriesFrom (lineNr : Nat) (raws : List String) :
    (entriesFrom lineNr raws).length = raws.length := by
  rw [entriesFrom, List.length_map, List.length_zipIdx]

theorem entriesFrom_append (lineNr : Nat) (raws raws' : List String) :
    entriesFrom lineNr (raws ++ raws') =
      entriesFrom lineNr raws ++ entriesFrom (lineNr + raws.length) raws' := by
  rw [entriesFrom, List.zipIdx_append, List.map_append, entriesFrom, entriesFrom]

/-- The record of the same line, `n` lines further down. -/
def LineRecord.moveDown (n : Nat) (r : LineRecord) : LineRecord := { r with lineNr := r.lineNr + n }

theorem lineEntry_add (lineNr n : Nat) (raw : String) :
    lineEntry (lineNr + n) raw = (lineEntry lineNr raw).map (LineRecord.moveDown n) := by
  rw [lineEntry, lineEntry]
  split
  · rfl
  · rfl

/-- The number of a line does not bear on the rest of what is known of it. -/
theorem entriesFrom_add (lineNr n : Nat) (raws : List String) :
    entriesFrom (lineNr + n) raws =
      (entriesFrom lineNr raws).map (Option.map (LineRecord.moveDown n)) := by
  rw [entriesFrom, entriesFrom, List.map_map]
  induction raws generalizing lineNr with
  | nil => rfl
  | cons raw raws ih =>
      rw [List.zipIdx_cons, List.zipIdx_cons, List.map_cons, List.map_cons, Nat.add_right_comm, ih,
        lineEntry_add]
      rfl

/-! ## Joined texts -/

/-- A text with the lines of two others is read as both, one below the other. -/
theorem parse_of_lines_append (h : lines joined = lines a ++ lines b) :
    ∃ front behind, parse a = .ok front ∧ parse b = .ok behind ∧
      parse joined =
        .ok (front ++ behind.map (Option.map (LineRecord.moveDown (lines a).length))) := by
  refine ⟨_, _, parse_eq a, parse_eq b, ?_⟩
  rw [parse_eq, h, entriesFrom_append, entriesFrom_add]

/-- A line is lost exactly if the break between two texts is one with a break in them. -/
theorem lines_append_iff (hs : s ∈ lineBreaks) :
    lines (a ++ s ++ b) = lines a ++ lines b ↔ ¬ Fuses a s b := by
  constructor
  · intro h hf
    obtain ⟨front, behind, hboth, hjoined⟩ := lines_append_of_fuses hf
    rw [hboth, hjoined] at h
    have hlength := congrArg List.length h
    simp at hlength
  · exact lines_append_of_not_fuses hs

/-- Texts joined by a carriage return and a line feed have the lines of both.  Joined by one of
these alone, they do so exactly if the other half of a break does not stand next to it.  The text
is then read as both, with the lines of the second counted on from those of the first. -/
theorem lines_append_break_iff (a b : String) :
    lines (a ++ "\r\n" ++ b) = lines a ++ lines b ∧
      (lines (a ++ "\n" ++ b) = lines a ++ lines b ↔ a.toList.getLast? ≠ some '\r') ∧
      (lines (a ++ "\r" ++ b) = lines a ++ lines b ↔ b.toList.head? ≠ some '\n') ∧
      ∀ s, lines (a ++ s ++ b) = lines a ++ lines b →
        ∃ front behind, parse a = .ok front ∧ parse b = .ok behind ∧
          parse (a ++ s ++ b) =
            .ok (front ++ behind.map (Option.map (LineRecord.moveDown (lines a).length))) := by
  refine ⟨?_, ?_, ?_, fun s h => parse_of_lines_append h⟩
  · rw [lines_append_iff (by decide)]
    simp [Fuses]
  · rw [lines_append_iff (by decide)]
    simp [Fuses]
  · rw [lines_append_iff (by decide)]
    simp [Fuses]

/-- With one half of a break on either side, only a whole break can be put between two texts. -/
theorem lines_append_break_iff_between_halves :
    let a := "glue\ta\r"
    let b := "\n# b\rkeep\tb"
    lines (a ++ "\n" ++ b) ≠ lines a ++ lines b ∧ lines (a ++ "\r" ++ b) ≠ lines a ++ lines b ∧
      lines (a ++ "\r\n" ++ b) = lines a ++ lines b ∧
        parse (a ++ "\r\n" ++ b) = .ok [some ⟨1, "glue\ta", "glue", ["a"], []⟩, none, none, none,
          some ⟨5, "keep\tb", "keep", ["b"], []⟩] := by
  intro a b
  have ha : parse a = .ok [some ⟨1, "glue\ta", "glue", ["a"], []⟩, none] := by decide +kernel
  have hb : parse b = .ok [none, none, some ⟨3, "keep\tb", "keep", ["b"], []⟩] := by decide +kernel
  have hlength : (lines a).length = 2 := by decide +kernel
  obtain ⟨hlines, hfeed, hreturn, hparse⟩ := lines_append_break_iff a b
  have hlast : a.toList.getLast? = some '\r' := by decide +kernel
  have hhead : b.toList.head? = some '\n' := by decide +kernel
  refine ⟨fun h => hfeed.1 h hlast, fun h => hreturn.1 h hhead, hlines, ?_⟩
  obtain ⟨front, behind, hfront, hbehind, hjoined⟩ := hparse "\r\n" hlines
  obtain rfl := Except.ok.inj (ha.symm.trans hfront)
  obtain rfl := Except.ok.inj (hb.symm.trans hbehind)
  rw [hjoined, hlength]
  rfl

end Extraction.Layout
