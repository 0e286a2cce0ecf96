import Extraction.Proofs.Files
import Extraction.Proofs.Verdict

/-!
# Checking a layout and compiling it

`check` counts problems by itself, line by line, and asks the compiler only whether the header is
missing.  It agrees with `compile` all the same: a record is refused by the compiler only if it
carries a problem, so that each of the three verdicts on a text is one outcome of either command.
-/

namespace Extraction

open Extraction.Layout Extraction.Text

namespace Layout

/-- The problems of all records, one after the other. -/
def allProblems (records : List (Option LineRecord)) : List Problem :=
  (records.filterMap id).flatMap LineRecord.problems

/-- The problems of a text are the defects of its statements. -/
theorem allProblems_of_parse {source : String} {records : List (Option LineRecord)}
    (h : parse source = .ok records) :
    allProblems records = (statements source).flatMap defects := by
  obtain ⟨hraw, hrec⟩ := records_of_parse h
  rw [← hraw, List.flatMap_map, allProblems]
  refine List.flatMap_congr fun r hr => ?_
  rw [hrec r hr, problems_lineRecord_eq_defects, raw_lineRecord]

theorem allProblems_eq_nil_iff {source : String} {records : List (Option LineRecord)}
    (h : parse source = .ok records) :
    allProblems records = [] ↔ ∀ raw ∈ lines source, ¬ Defective raw := by
  have hraw (raw : String) : defects raw = [] ↔ ¬ ∃ p, HasProblem raw p := by
    simp only [List.eq_nil_iff_forall_not_mem, mem_defects, not_exists]
  rw [allProblems_of_parse h, List.flatMap_eq_nil_iff, statements]
  simp only [List.mem_filter, hraw, Defective, not_and, and_imp]

end Layout

namespace Cli

/-! ## What `check` counts -/

theorem problemCount_cons (r : Option LineRecord) (records : List (Option LineRecord)) :
    problemCount (r :: records) = (r.elim [] LineRecord.problems).length + problemCount records :=
  rfl

theorem problemCount_eq (records : List (Option LineRecord)) :
    problemCount records = (allProblems records).length := by
  induction records with
  | nil => rfl
  | cons r records ih =>
      rw [problemCount_cons, ih]
      cases r with
      | none => simp [allProblems]
      | some r => simp [allProblems]

/-- The compiler is asked only about the header, and only if no line has a problem. -/
theorem layoutProblem?_eq (records : List (Option LineRecord)) :
    layoutProblem? records =
      if allProblems records = [] ∧ compile records = .error .missingLayout then
        some .missingLayout
      else none := by
  rw [layoutProblem?, problemCount_eq, ite_and]
  simp only [List.length_eq_zero_iff]
  congr 1
  split
  case h_1 hc => rw [if_pos hc]
  case h_2 hc => rw [if_neg hc]

/-- What is reported of a layout with so many problems. -/
structure Reports (path : String) (count : Nat) (r : Report) : Prop where
  code_eq : r.code = if count = 0 then 0 else 1
  err_eq : count ≠ 0 → r.err = s!"{count} problem(s) in {path}\n"

/-- The number of problems of a text: those of its records, or that its header is missing. -/
def problemTotal (source : String) (records : List (Option LineRecord)) : Nat :=
  if allProblems records = [] ∧ compileSource source = .error .missingLayout then 1
  else (allProblems records).length

theorem reports_check (path : String) {source : String} {records : List (Option LineRecord)}
    (h : parse source = .ok records) :
    Reports path (problemTotal source records) (check path source) := by
  have hcompile : compileSource source = compile records := by rw [compileSource, h]
  rw [problemTotal, hcompile]
  simp only [check, h, layoutProblem?_eq, problemCount_eq]
  split
  case isTrue => exact ⟨rfl, fun _ => rfl⟩
  case isFalse =>
    by_cases hzero : (allProblems records).length = 0
    · simp only [hzero]
      exact ⟨rfl, fun h => absurd rfl h⟩
    · simp only [if_neg hzero]
      exact ⟨(if_neg hzero).symm, fun _ => rfl⟩

/-- There is no problem exactly if the text compiles. -/
theorem problemTotal_eq_zero_iff {source : String} {records : List (Option LineRecord)}
    (h : parse source = .ok records) :
    problemTotal source records = 0 ↔ ∃ code, compileSource source = .ok code := by
  obtain ⟨answer, hverdict⟩ := exists_verdict source
  have hc : compileSource source = answer := compileSource_of_verdict hverdict
  rw [problemTotal, hc]
  cases hverdict with
  | invalidLine hlines _ hdef =>
      have hsome : allProblems records ≠ [] := by
        rw [ne_eq, allProblems_eq_nil_iff h, hlines]
        exact fun h => h _ (List.mem_append_right _ List.mem_cons_self) hdef
      simp [hsome]
  | missingLayout hsound => simp [(allProblems_eq_nil_iff h).2 hsound]
  | ok hsound => simp [(allProblems_eq_nil_iff h).2 hsound]

/-! ## Commands on the same layout -/

/-- A file can be written at a path, whatever is to be its contents. -/
def System.CanWrite (s : System) (d : Directory) (path : String) : Prop :=
  ∀ bytes, (s.write d path bytes).1 = none

section Commands

variable {args : List String} {path source : String} {output : Option String} {verbose : Bool}
variable {s : System} {d : Directory} {bytes : List UInt8}

/-- What a command line does to a layout that can be read. -/
theorem run_check (hargs : read args = .ok ⟨.check path, verbose⟩)
    (hread : s.read d path = .ok bytes) (htext : Utf8.decode? bytes = .ok source) :
    run args d s = (check path source, d) := by
  have htext' : layoutText (s.read d path) = .ok source := by rw [hread, layoutText, htext]; rfl
  rw [run_eq hargs]
  simp only [Command.act, Command.input, htext']

theorem code_run_compile_eq_zero_iff (hargs : read args = .ok ⟨.compile path output, verbose⟩)
    (hread : s.read d path = .ok bytes) (htext : Utf8.decode? bytes = .ok source)
    (hwrite : s.CanWrite d (output.getD (withExtension path))) :
    (run args d s).1.code = 0 ↔ ∃ code, compileSource source = .ok code := by
  have htext' : layoutText (s.read d path) = .ok source := by rw [hread, layoutText, htext]; rfl
  rw [run_eq hargs]
  simp only [Command.act, Command.input, htext']
  cases compileSource source with
  | error e => simp [failure]
  | ok code => simp [hwrite code, writeReport]

end Commands

/-- On a layout that can be read, with an output that can be written, checking and compiling
succeed together, and exactly if the text compiles.  Where checking fails, it reports the number of
problems of all records, or one if there are none and the header is missing. -/
theorem check_compile_agree {args args' : List String} {path source : String}
    {output : Option String} {verbose verbose' : Bool} {s : System} {d : Directory}
    {bytes : List UInt8}
    (hcheck : read args = .ok ⟨.check path, verbose⟩)
    (hcompile : read args' = .ok ⟨.compile path output, verbose'⟩)
    (hread : s.read d path = .ok bytes) (htext : Utf8.decode? bytes = .ok source)
    (hwrite : s.CanWrite d (output.getD (withExtension path))) :
    let checked := (run args d s).1
    let compiled := (run args' d s).1
    (checked.code = 0 ↔ compiled.code = 0) ∧
      (compiled.code = 0 ↔ ∃ code, compileSource source = .ok code) ∧
      (checked.code = 0 ∨ checked.code = 1) ∧
      (checked.code = 1 → ∃ records n, parse source = .ok records ∧
        checked.err = s!"{n} problem(s) in {path}\n" ∧
        (allProblems records ≠ [] ∧ n = (allProblems records).length ∨
          allProblems records = [] ∧ compileSource source = .error .missingLayout ∧ n = 1)) := by
  intro checked compiled
  obtain ⟨records, hp, -⟩ := exists_parse source
  have hreports : Reports path (problemTotal source records) checked := by
    rw [show checked = check path source from congrArg Prod.fst (run_check hcheck hread htext)]
    exact reports_check path hp
  have hchecked : checked.code = 0 ↔ ∃ code, compileSource source = .ok code := by
    rw [← problemTotal_eq_zero_iff hp, hreports.code_eq]
    simp
  have hcompiled := code_run_compile_eq_zero_iff hcompile hread htext hwrite
  refine ⟨hchecked.trans hcompiled.symm, hcompiled, ?_, ?_⟩
  · rw [hreports.code_eq]
    split
    · exact .inl rfl
    · exact .inr rfl
  · intro hone
    have hcount : problemTotal source records ≠ 0 := by
      intro hzero
      rw [hreports.code_eq, if_pos hzero] at hone
      cases hone
    refine ⟨records, _, hp, hreports.err_eq hcount, ?_⟩
    rw [problemTotal] at hcount ⊢
    split
    case isTrue h => exact .inr ⟨h.1, h.2, rfl⟩
    case isFalse h =>
      rw [if_neg h] at hcount
      exact .inl ⟨mt List.length_eq_zero_iff.2 hcount, rfl⟩

/-- A layout with three problems on two of its lines, in a directory of its own, which is itself
write-protected. -/
theorem check_compile_agree_three_problems :
    let source := "layout\tvivid\t1.0\nkeep\nfetch\tx\t \ty"
    let d : Directory := ⟨[("l/a.txt", Utf8.encode source)]⟩
    let s : System :=
      { unwritable := fun p => if p = "l/a.txt" then some .permissionDenied else none }
    let checked := (run ["check", "l/a.txt"] d s).1
    let compiled := (run ["-v", "compile", "l/a.txt", "-o", "l/b"] d s).1
    read ["check", "l/a.txt"] = .ok ⟨.check "l/a.txt", false⟩ ∧
      read ["-v", "compile", "l/a.txt", "-o", "l/b"] =
        .ok ⟨.compile "l/a.txt" (some "l/b"), true⟩ ∧
      s.read d "l/a.txt" = .ok (Utf8.encode source) ∧
      Utf8.decode? (Utf8.encode source) = .ok source ∧ s.CanWrite d "l/b" ∧
      checked.code = 1 ∧ compiled.code ≠ 0 ∧ checked.err = "3 problem(s) in l/a.txt\n" := by
  intro source d s checked compiled
  have hcheck : read ["check", "l/a.txt"] = .ok ⟨.check "l/a.txt", false⟩ := by decide +kernel
  have hcompile : read ["-v", "compile", "l/a.txt", "-o", "l/b"] =
      .ok ⟨.compile "l/a.txt" (some "l/b"), true⟩ := by decide +kernel
  have hread : s.read d "l/a.txt" = .ok (Utf8.encode source) := by decide +kernel
  have htext : Utf8.decode? (Utf8.encode source) = .ok source := Utf8.decode?_encode source
  have hopens : s.Opens d "l/b" "l/b" := ⟨.inr (by decide +kernel), by decide⟩
  have hwrite : s.CanWrite d "l/b" := fun bytes =>
    congrArg Prod.fst (System.write_of_completed hopens rfl)
  have hbad : compileSource source =
      .error (.invalidLine ⟨2, "keep", "keep", [], [.noArguments]⟩) := by decide +kernel
  have hall : (parse source).map allProblems =
      .ok [.noArguments, .unsupportedDirective, .emptyArgument] := by decide +kernel
  obtain ⟨hagree, hcompiles, hcodes, hcount⟩ :=
    check_compile_agree hcheck hcompile hread htext hwrite
  have hfails : compiled.code ≠ 0 := by
    intro hzero
    obtain ⟨code, hcode⟩ := hcompiles.1 hzero
    rw [hbad] at hcode
    cases hcode
  have hone : checked.code = 1 := hcodes.resolve_left (mt hagree.1 hfails)
  obtain ⟨records, n, hp, herr, hn⟩ := hcount hone
  rw [hp] at hall
  have hrecords : allProblems records = [.noArguments, .unsupportedDirective, .emptyArgument] :=
    Except.ok.inj hall
  rw [hrecords] at hn
  obtain ⟨-, rfl⟩ | ⟨hnil, -⟩ := hn
  · exact ⟨hcheck, hcompile, hread, htext, hwrite, hone, hfails, herr⟩
  · cases hnil

end Cli

end Extraction
