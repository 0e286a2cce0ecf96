import Extraction.Proofs.Entries

/-!
# Canonical lines

A record can be written as a line again, with single tabs between its fields.  Reading that line
gives the same call, and the same arguments but for empty ones, as a field that is empty leaves
nothing between the tabs around it.
-/

namespace Extraction

namespace Text

theorem head?_trimChars {cs : List Char} (h : ∀ c ∈ cs.head?, isBlank c = false) :
    (trimChars cs).head? = cs.head? := by
  cases cs with
  | nil => rfl
  | cons c cs =>
      have hc : isBlank c = false := h c rfl
      have hdrop : (c :: cs).dropWhile isBlank = c :: cs :=
        List.dropWhile_cons_of_neg (by simp [hc])
      have hne : trimChars (c :: cs) ≠ [] := by
        intro hnil
        rw [trimChars_eq_nil_iff.1 hnil c List.mem_cons_self] at hc
        cases hc
      obtain ⟨behind, hb⟩ := List.rdropWhile_prefix isBlank (c :: cs)
      rw [trimChars, hdrop, dropRight_eq] at hne ⊢
      rw [← hb, List.head?_append_of_ne_nil _ hne, hb]

end Text

namespace Layout

open Extraction.Text

variable {sp : Spelling} {raw : String} {lineNr : Nat} {r : LineRecord}

/-! ## Statements -/

theorem Spelling.Proper.isStatement_text (h : sp.Proper) :
    isStatement sp.text = sp.call.toList.head?.any fun c => c ≠ '#' := by
  rw [isStatement, h.trimChars_text, toList_core,
    List.head?_append_of_ne_nil _ (h.fields _ List.mem_cons_self).toList_ne_nil]

theorem exists_spelling (h : isStatement raw) : ∃ sp : Spelling, sp.Proper ∧ sp.text = raw := by
  have hblank : ¬ AllBlank raw := by
    intro hblank
    rw [isStatement, trimChars_eq_nil_iff.2 hblank] at h
    cases h
  obtain ⟨sp, hsp, ht, -⟩ := Spelling.exists_proper hblank
  exact ⟨sp, hsp, ht⟩

theorem readable_lineFields (h : isStatement raw) : Readable (lineFields raw) := by
  obtain ⟨sp, hsp, rfl⟩ := exists_spelling h
  have hfields := hsp.lineFields_text
  refine ⟨?_, fun f hf => (of_mem_lineFields hf).1, fun f hf => (of_mem_lineFields hf).2.1, ?_, ?_⟩
  · rw [hfields]
    exact List.cons_ne_nil _ _
  · intro hh
    rw [hfields, List.head?_map] at hh
    exact hsp.not_allBlank_call (trim_eq_empty_iff.1 (Option.some.inj hh))
  · intro hh
    rw [hfields, List.getLast?_map] at hh
    obtain ⟨f, hf, hempty⟩ := Option.map_eq_some_iff.1 hh
    exact hsp.not_allBlank_last f hf (trim_eq_empty_iff.1 hempty)

theorem lineFields_eq_cons (h : isStatement raw) :
    lineFields raw = lineCall raw :: lineArgs raw := by
  obtain ⟨f, fs, hf⟩ := List.exists_cons_of_ne_nil (readable_lineFields h).ne_nil
  rw [lineCall, lineArgs, hf]
  rfl

theorem parseLine_eq_some_iff :
    parseLine lineNr raw = .ok (some r) ↔ isStatement raw ∧ r = lineRecord lineNr raw := by
  rw [parseLine_eq, Except.ok.injEq, Option.ite_none_right_eq_some, Option.some.injEq,
    eq_comm (a := r)]

/-! ## Writing records -/

/-- The call and the arguments with single tabs between them. -/
def LineRecord.line (r : LineRecord) : String := String.intercalate "\t" (r.call :: r.args)

theorem line_lineRecord (h : isStatement raw) (lineNr : Nat) :
    (lineRecord lineNr raw).line = String.intercalate "\t" (lineFields raw) := by
  rw [LineRecord.line, call_lineRecord, args_lineRecord, lineFields_eq_cons h]
  rfl

/-- The instruction of a record is written as its line. -/
theorem render_of_instruction? {i : Instruction} (h : r.instruction? = some i) :
    i.render = r.line := by
  obtain ⟨d, hd, rfl⟩ := Option.map_eq_some_iff.1 h
  rw [Instruction.render, LineRecord.line, Directive.token_of_ofToken? hd]

theorem isStatement_line (h : isStatement raw) (lineNr : Nat) :
    isStatement (lineRecord lineNr raw).line := by
  have hread := readable_lineFields h
  have hline := line_lineRecord h lineNr
  obtain ⟨sp, hsp, rfl⟩ := exists_spelling h
  have hne : trimChars sp.call.toList ≠ [] := mt trimChars_eq_nil_iff.1 hsp.not_allBlank_call
  have htab : "\t".toList = ['\t'] := rfl
  have hfields : lineFields sp.text = trim sp.call :: sp.args.map fun p => trim p.2 := by
    rw [hsp.lineFields_text, Spelling.fields, List.map_cons, List.map_map]
    rfl
  rw [hsp.isStatement_text] at h
  rw [isStatement, hline, String.toList_intercalate, htab,
    trimChars_eq_self_iff.2 hread.trimmed_intercalate, hfields, List.map_cons, toList_trim,
    head?_intercalate hne, head?_trimChars hsp.head]
  exact h

/-- What a record's line is read as. -/
theorem parseLine_line (h : isStatement raw) (lineNr m : Nat) :
    parseLine m (lineRecord lineNr raw).line =
      .ok (some (lineRecord m (lineRecord lineNr raw).line)) :=
  parseLine_eq_some_iff.2 ⟨isStatement_line h lineNr, rfl⟩

theorem lineFields_line (h : isStatement raw) (lineNr : Nat) :
    lineFields (lineRecord lineNr raw).line =
      lineCall raw :: (lineArgs raw).filter fun a => !a.isEmpty := by
  have hread := readable_lineFields h
  have hcall : lineCall raw ≠ "" := by
    intro hempty
    rw [lineFields_eq_cons h, hempty] at hread
    exact hread.head rfl
  rw [line_lineRecord h, hread.lineFields_intercalate, lineFields_eq_cons h,
    List.filter_cons_of_pos (by simpa using hcall)]

theorem call_lineRecord_line (h : isStatement raw) (lineNr m : Nat) :
    (lineRecord m (lineRecord lineNr raw).line).call = (lineRecord lineNr raw).call := by
  rw [call_lineRecord, lineFields_line h, call_lineRecord]
  rfl

/-- A record's line holds those of its arguments that are not empty. -/
theorem args_lineRecord_line (h : isStatement raw) (lineNr m : Nat) :
    (lineRecord m (lineRecord lineNr raw).line).args =
      (lineRecord lineNr raw).args.filter fun a => !a.isEmpty := by
  rw [args_lineRecord, lineArgs, lineFields_line h, args_lineRecord]
  rfl

theorem problems_lineRecord_eq (lineNr : Nat) (raw : String) :
    (lineRecord lineNr raw).problems =
      problemsOf (lineRecord lineNr raw).call (lineRecord lineNr raw).args := by
  rw [problems_lineRecord, call_lineRecord, args_lineRecord]

/-- The line of a record is read as a record with the same call and arguments exactly if no
argument is empty.  Its problems are the same then, and it has the same line, which is read as this
record again.  If a record asks for an instruction, its line is how the instruction is written. -/
theorem parseLine_line_iff (h : parseLine lineNr raw = .ok (some r)) (m : Nat) :
    ((∃ r', parseLine m r.line = .ok (some r') ∧ r'.call = r.call ∧ r'.args = r.args) ↔
        ∀ a ∈ r.args, a ≠ "") ∧
      ((∀ a ∈ r.args, a ≠ "") → ∃ r', parseLine m r.line = .ok (some r') ∧
        r'.problems = r.problems ∧ r'.line = r.line ∧ parseLine m r'.line = .ok (some r')) ∧
      ∀ i, r.instruction? = some i → i.render = r.line := by
  obtain ⟨hs, rfl⟩ := parseLine_eq_some_iff.1 h
  have hread := parseLine_line hs lineNr m
  have hcall := call_lineRecord_line hs lineNr m
  have hargs := args_lineRecord_line hs lineNr m
  have hproblems := problems_lineRecord_eq m (lineRecord lineNr raw).line
  have hproblems' := problems_lineRecord_eq lineNr raw
  generalize lineRecord lineNr raw = r at *
  generalize lineRecord m r.line = r' at *
  have hself : r'.args = r.args ↔ ∀ a ∈ r.args, a ≠ "" := by
    rw [hargs, List.filter_eq_self]
    simp
  refine ⟨?_, ?_, fun i => render_of_instruction?⟩
  · rw [← hself]
    constructor
    · rintro ⟨r'', hr'', -, hargs''⟩
      obtain rfl : r' = r'' := Option.some.inj (Except.ok.inj (hread.symm.trans hr''))
      exact hargs''
    · intro hsame
      exact ⟨r', hread, hcall, hsame⟩
  · intro hne
    have hsame := hself.2 hne
    have hline : r'.line = r.line := by rw [LineRecord.line, hcall, hsame, LineRecord.line]
    refine ⟨r', hread, ?_, hline, hline ▸ hread⟩
    rw [hproblems, hcall, hsame, hproblems']

/-- A line with wide white space and a line feed in an argument, and one with a blank field. -/
theorem parseLine_line_iff_blank_field :
    let raw := "\u2003insert\t\t a\nb\u00a0\t\t{}\t"
    let r : LineRecord := ⟨7, raw, "insert", ["a\nb", "{}"], []⟩
    let blank : LineRecord := ⟨8, "keep\t \tb", "keep", ["", "b"], [.emptyArgument]⟩
    parseLine 7 raw = .ok (some r) ∧ r.line = "insert\ta\nb\t{}" ∧
      (∃ r', parseLine 1 r.line = .ok (some r') ∧ r'.call = r.call ∧ r'.args = r.args) ∧
      parseLine 8 blank.raw = .ok (some blank) ∧ blank.line = "keep\t\tb" ∧
      ¬ ∃ r', parseLine 1 blank.line = .ok (some r') ∧ r'.call = blank.call ∧
        r'.args = blank.args := by
  intro raw r blank
  have hr : parseLine 7 raw = .ok (some r) := by decide +kernel
  have hblank : parseLine 8 blank.raw = .ok (some blank) := by decide +kernel
  have hempty : ¬ ∀ a ∈ blank.args, a ≠ "" := by decide
  refine ⟨hr, by decide +kernel, ?_, hblank, by decide +kernel, ?_⟩
  · exact (parseLine_line_iff hr 1).1.2 (by decide)
  · exact mt (parseLine_line_iff hblank 1).1.1 hempty

end Layout

end Extraction
