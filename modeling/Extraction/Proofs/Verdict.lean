import Extraction.Proofs.Source

/-!
# The verdict on a source text

Every text can be read, so that compiling it has three answers.  The first line that is defective
is reported with its number, its text and all of its defects, before anything is said of a missing
header; a text without defects needs a header in front; and then its bytes are those of its
statements.  `Verdict` says this of the lines of a text, without reading or compiling them.  Every
text has a verdict, and compiling answers with it.
-/

namespace Extraction.Layout

/-! ## Defects of a line -/

/-- All problems, in the order in which they are looked for. -/
def Problem.all : List Problem := [.unsupportedDirective, .noArguments, .emptyArgument]

theorem Problem.mem_all (p : Problem) : p ∈ all := by cases p <;> decide

/-- What a line calls. -/
def lineCall (raw : String) : String := (lineFields raw).headD ""

/-- What is wrong with a line. -/
def HasProblem (raw : String) : Problem → Prop
  | .unsupportedDirective => lineCall raw ∉ Directive.all.map Directive.token
  | .noArguments => lineArgs raw = []
  | .emptyArgument => "" ∈ lineArgs raw

instance (raw : String) : DecidablePred (HasProblem raw)
  | .unsupportedDirective => inferInstanceAs (Decidable (_ ∉ _))
  | .noArguments => inferInstanceAs (Decidable (_ = _))
  | .emptyArgument => inferInstanceAs (Decidable (_ ∈ _))

/-- Everything that is wrong with a line. -/
def defects (raw : String) : List Problem := Problem.all.filter fun p => HasProblem raw p

theorem mem_defects {raw : String} {p : Problem} : p ∈ defects raw ↔ HasProblem raw p := by
  simp [defects, Problem.mem_all]

theorem nodup_defects (raw : String) : (defects raw).Nodup :=
  List.filter_sublist.nodup (by decide)

/-- A statement with which something is wrong. -/
def Defective (raw : String) : Prop := isStatement raw ∧ ∃ p, HasProblem raw p

theorem ofToken?_isNone_iff {t : String} :
    (Directive.ofToken? t).isNone ↔ t ∉ Directive.all.map Directive.token := by
  simp [Directive.ofToken?]

/-- Where there are no arguments, none of them is empty. -/
theorem filter_argumentProblems (raw : String) :
    [Problem.noArguments, .emptyArgument].filter (fun p => HasProblem raw p) =
      if (lineArgs raw).isEmpty then [.noArguments]
      else if (lineArgs raw).any String.isEmpty then [.emptyArgument]
      else [] := by
  cases h : lineArgs raw with
  | nil => simp [HasProblem, h]
  | cons a args =>
      have hany : (a :: args).any String.isEmpty ↔ HasProblem raw .emptyArgument := by
        simp [HasProblem, h]
      have hnone : ¬ HasProblem raw .noArguments := by simp [HasProblem, h]
      simp only [hany, List.isEmpty_cons]
      rw [List.filter_cons_of_neg (by simpa using hnone), List.filter_singleton]
      simp

/-- The checks of a line find all that is wrong with it. -/
theorem problemsOf_eq_defects (raw : String) :
    problemsOf (lineCall raw) (lineArgs raw) = defects raw := by
  have hcall : (Directive.ofToken? (lineCall raw)).isNone ↔
      HasProblem raw .unsupportedDirective := ofToken?_isNone_iff
  have hall : Problem.all = [.unsupportedDirective] ++ [.noArguments, .emptyArgument] := rfl
  rw [defects, hall, List.filter_append, filter_argumentProblems, problemsOf,
    List.filter_singleton]
  simp only [hcall, Bool.cond_decide]

theorem lineRecord_eq (lineNr : Nat) (raw : String) :
    lineRecord lineNr raw = ⟨lineNr, raw, lineCall raw, lineArgs raw, defects raw⟩ := by
  rw [← problemsOf_eq_defects]
  rfl

theorem problems_lineRecord_eq_defects (lineNr : Nat) (raw : String) :
    (lineRecord lineNr raw).problems = defects raw := by
  rw [lineRecord_eq]

/-- A line with which nothing is wrong asks for an instruction that passes all checks. -/
theorem exists_checked {raw : String} (h : ∀ p, ¬ HasProblem raw p) :
    ∃ i, lineInstruction? raw = some i ∧ Checked i := by
  have hnil : problemsOf (lineCall raw) (lineArgs raw) = [] := by
    rw [problemsOf_eq_defects, defects, List.filter_eq_nil_iff]
    simpa using fun p _ => h p
  obtain ⟨⟨d, hd⟩, hargs, hempty⟩ := problemsOf_eq_nil_iff.1 hnil
  refine ⟨⟨d, lineArgs raw⟩, ?_, checked_iff.2 ⟨hargs, hempty⟩⟩
  rw [lineCall] at hd
  rw [lineInstruction?, hd, Option.map_some]

theorem exists_instructions {raws : List String} (h : ∀ raw ∈ raws, ∀ p, ¬ HasProblem raw p) :
    ∃ is : List Instruction,
      raws.map lineInstruction? = is.map some ∧ ∀ i ∈ is, Checked i := by
  induction raws with
  | nil => exact ⟨[], rfl, nofun⟩
  | cons raw raws ih =>
      rw [List.forall_mem_cons] at h
      obtain ⟨i, hi, hc⟩ := exists_checked h.1
      obtain ⟨is, his, hck⟩ := ih h.2
      refine ⟨i :: is, ?_, List.forall_mem_cons.2 ⟨hc, hck⟩⟩
      rw [List.map_cons, List.map_cons, hi, his]

theorem compile_lineRecord_of_hasProblem (lineNr : Nat) {raw : String} {p : Problem}
    (h : HasProblem raw p) :
    (lineRecord lineNr raw).compile = .error (.invalidLine (lineRecord lineNr raw)) := by
  have hok : (lineRecord lineNr raw).isOk = false := by
    rw [LineRecord.isOk, problems_lineRecord_eq_defects, List.isEmpty_eq_false_iff]
    exact List.ne_nil_of_mem (mem_defects.2 h)
  rw [LineRecord.compile, hok]
  cases (lineRecord lineNr raw).instruction? <;> rfl

/-! ## The first defective line -/

/-- Records are compiled in order, up to the first that cannot be. -/
theorem compileRecords_append (rs rs' : List LineRecord) :
    compileRecords (rs ++ rs') =
      match compileRecords rs with
      | .error e => .error e
      | .ok bytes => (compileRecords rs').map (bytes ++ ·) := by
  induction rs with
  | nil =>
      rw [List.nil_append, compileRecords]
      cases compileRecords rs' <;> rfl
  | cons r rs ih =>
      rw [List.cons_append, compileRecords, compileRecords, ih]
      cases r.compile with
      | error e => rfl
      | ok i =>
          cases compileRecords rs with
          | error e => rfl
          | ok bytes =>
              cases compileRecords rs' with
              | error e => rfl
              | ok bytes' => exact congrArg Except.ok (List.append_assoc _ _ _).symm

/-- Lines without defects compile to the bytes of the instructions that they ask for. -/
theorem exists_compileRecords (lineNr : Nat) {raws : List String}
    (h : ∀ raw ∈ raws, ¬ Defective raw) : ∃ is : List Instruction,
      (raws.filter isStatement).map lineInstruction? = is.map some ∧
        compileRecords (recordsFrom lineNr raws) = .ok (is.flatMap Instruction.encode) := by
  have hsound : ∀ raw ∈ raws.filter isStatement, ∀ p, ¬ HasProblem raw p := by
    intro raw hraw p hp
    obtain ⟨hmem, hs⟩ := List.mem_filter.1 hraw
    exact h raw hmem ⟨hs, p, hp⟩
  obtain ⟨is, his, hck⟩ := exists_instructions hsound
  refine ⟨is, his, (compileRecords_eq_ok_iff fun r => eq_of_mem_recordsFrom).2 ⟨is, ?_, hck, rfl⟩⟩
  rwa [map_raw_recordsFrom]

theorem recordsFrom_cons {raw : String} (h : isStatement raw) (lineNr : Nat)
    (raws : List String) :
    recordsFrom lineNr (raw :: raws) = lineRecord lineNr raw :: recordsFrom (lineNr + 1) raws :=
  List.filterMap_cons_some (if_pos h)

theorem compileRecords_of_defective (lineNr : Nat) {front : List String} {raw : String}
    (hfront : ∀ l ∈ front, ¬ Defective l) (hraw : Defective raw) (behind : List String) :
    compileRecords (recordsFrom lineNr (front ++ raw :: behind)) =
      .error (.invalidLine (lineRecord (lineNr + front.length) raw)) := by
  obtain ⟨is, -, hok⟩ := exists_compileRecords lineNr hfront
  obtain ⟨hs, p, hp⟩ := hraw
  rw [recordsFrom_append, compileRecords_append, hok, recordsFrom_cons hs, compileRecords,
    compile_lineRecord_of_hasProblem _ hp]
  rfl

/-! ## Verdicts -/

/-- What has to be said of a text. -/
inductive Verdict (source : String) : Except CompileError (List UInt8) → Prop
  /-- The first defective line, whether there is a header or not. -/
  | invalidLine {front behind : List String} {raw : String} :
      lines source = front ++ raw :: behind → (∀ l ∈ front, ¬ Defective l) → Defective raw →
        Verdict source (.error (.invalidLine
          ⟨front.length + 1, raw, lineCall raw, lineArgs raw, defects raw⟩))
  /-- There is no statement, or the first one is not a header. -/
  | missingLayout :
      (∀ l ∈ lines source, ¬ Defective l) →
        (statements source).head?.map lineCall ≠ some "layout" →
          Verdict source (.error .missingLayout)
  /-- The bytes of all statements. -/
  | ok {is : List Instruction} :
      (∀ l ∈ lines source, ¬ Defective l) →
        (statements source).head?.map lineCall = some "layout" →
          (statements source).map lineInstruction? = is.map some →
            Verdict source (.ok (is.flatMap Instruction.encode))

theorem exists_verdict (source : String) : ∃ answer, Verdict source answer := by
  classical
  cases hfind : (lines source).find? fun l => Defective l with
  | some raw =>
      obtain ⟨hraw, front, behind, hlines, hfront⟩ := List.find?_eq_some_iff_append.1 hfind
      exact ⟨_, .invalidLine hlines (by simpa using hfront) (by simpa using hraw)⟩
  | none =>
      have hsound : ∀ l ∈ lines source, ¬ Defective l := by simpa using hfind
      obtain ⟨is, his, -⟩ := exists_compileRecords 1 hsound
      by_cases hcall : (statements source).head?.map lineCall = some "layout"
      · exact ⟨_, .ok hsound hcall his⟩
      · exact ⟨_, .missingLayout hsound hcall⟩

theorem compileSource_eq (source : String) :
    compileSource source =
      match compileRecords (recordsFrom 1 (lines source)) with
      | .error e => .error e
      | .ok bytes =>
        if bytes.head? = some Directive.layout.opcode then .ok bytes
        else .error .missingLayout := by
  obtain ⟨records, hp, hr⟩ := exists_parse_eq source
  rw [compileSource, hp, ← hr]
  rfl

/-- The first statement is a header exactly if the first instruction is. -/
theorem head?_map_lineCall_iff {raws : List String} {is : List Instruction}
    (h : raws.map lineInstruction? = is.map some) :
    raws.head?.map lineCall = some "layout" ↔ ∃ i ∈ is.head?, i.directive = .layout := by
  cases raws with
  | nil =>
      rw [List.map_eq_nil_iff.1 h.symm]
      simp
  | cons raw raws =>
      obtain ⟨i, is, rfl, hi, -⟩ := List.map_eq_cons_iff.1 h.symm
      obtain ⟨d, hd, rfl⟩ := Option.map_eq_some_iff.1 hi.symm
      have hcall : d.token = lineCall raw := Directive.token_of_ofToken? hd
      have htoken : d.token = "layout" ↔ d = .layout := by cases d <;> decide
      simp [← hcall, htoken]

theorem compileSource_of_verdict {source : String} {answer : Except CompileError (List UInt8)}
    (h : Verdict source answer) : compileSource source = answer := by
  rw [compileSource_eq]
  cases h with
  | invalidLine hlines hfront hraw =>
      rw [hlines, compileRecords_of_defective 1 hfront hraw, lineRecord_eq, Nat.add_comm]
  | missingLayout hsound hcall =>
      obtain ⟨is, his, hok⟩ := exists_compileRecords 1 hsound
      rw [hok]
      exact if_neg fun hh => hcall ((head?_map_lineCall_iff his).2 (head?_flatMap_encode_iff.1 hh))
  | @ok is hsound hcall his =>
      obtain ⟨is', his', hok⟩ := exists_compileRecords 1 hsound
      obtain rfl : is' = is :=
        (List.map_inj_right fun _ _ => Option.some.inj).1 (his'.symm.trans his)
      rw [hok]
      exact if_pos (head?_flatMap_encode_iff.2 ((head?_map_lineCall_iff his).1 hcall))

/-- The first defective line is reported with its number, its text and all of its defects. -/
theorem Verdict.split {source : String} {answer : Except CompileError (List UInt8)}
    (h : Verdict source answer) {r : LineRecord} (hr : answer = .error (.invalidLine r)) :
    Defective r.raw ∧ r.problems = defects r.raw ∧
      ∃ front behind, lines source = front ++ r.raw :: behind ∧ r.lineNr = front.length + 1 := by
  cases h with
  | invalidLine hlines hfront hdef =>
      obtain rfl := CompileError.invalidLine.inj (Except.error.inj hr)
      dsimp only
      exact ⟨hdef, rfl, _, _, hlines, rfl⟩
  | missingLayout | ok => cases hr

/-- Compiling a text answers what has to be said of it.  It never fails to read the text.  If a
line is defective, the first of them is reported, with its number, its text and exactly what is
wrong with it. -/
theorem compileSource_verdict (source : String) :
    (∀ answer, compileSource source = answer ↔ Verdict source answer) ∧
      (∀ e, compileSource source ≠ .error (.malformed e)) ∧
      ((∃ raw ∈ lines source, Defective raw) ↔
        ∃ r, compileSource source = .error (.invalidLine r)) ∧
      ∀ r, compileSource source = .error (.invalidLine r) →
        (∃ n, r.lineNr = n + 1 ∧ (lines source)[n]? = some r.raw) ∧
          r.problems ≠ [] ∧ r.problems.Nodup ∧ ∀ p, p ∈ r.problems ↔ HasProblem r.raw p := by
  obtain ⟨answer, h⟩ := exists_verdict source
  have hc : compileSource source = answer := compileSource_of_verdict h
  rw [hc]
  refine ⟨?_, ?_, ?_, ?_⟩
  · intro answer'
    constructor
    · rintro rfl
      exact h
    · intro h'
      rw [← hc, compileSource_of_verdict h']
  · rintro e rfl
    cases h
  · constructor
    · rintro ⟨raw, hraw, hdef⟩
      cases h with
      | invalidLine => exact ⟨_, rfl⟩
      | missingLayout hsound => exact absurd hdef (hsound raw hraw)
      | ok hsound => exact absurd hdef (hsound raw hraw)
    · rintro ⟨r, hr⟩
      obtain ⟨hdef, -, front, behind, hlines, -⟩ := h.split hr
      exact ⟨r.raw, by simp [hlines], hdef⟩
  · intro r hr
    obtain ⟨⟨-, p, hp⟩, hproblems, front, behind, hlines, hnr⟩ := h.split hr
    rw [hproblems]
    refine ⟨⟨front.length, hnr, by simp [hlines]⟩, ?_, nodup_defects r.raw, fun p => mem_defects⟩
    exact List.ne_nil_of_mem (mem_defects.2 hp)

/-- A line with two defects behind one that is sound, but no header. -/
theorem compileSource_verdict_third_line :
    let source := "glue\ta\r\n# b\rfetch\tx\t \ty\nkeep"
    let r : LineRecord := ⟨3, "fetch\tx\t \ty", "fetch", ["x", "", "y"],
      [.unsupportedDirective, .emptyArgument]⟩
    compileSource source = .error (.invalidLine r) ∧
      (∃ n, r.lineNr = n + 1 ∧ (lines source)[n]? = some r.raw) ∧
        r.problems ≠ [] ∧ r.problems.Nodup ∧ ∀ p, p ∈ r.problems ↔ HasProblem r.raw p := by
  intro source r
  have hc : compileSource source = .error (.invalidLine r) := by decide +kernel
  obtain ⟨-, -, -, hline⟩ := compileSource_verdict source
  exact ⟨hc, hline r hc⟩

end Extraction.Layout
