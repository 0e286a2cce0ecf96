import Extraction.Proofs.Failure
import Extraction.Proofs.Nulls

/-!
# Headers that are executed

The header of a program is consumed by loading, and `layout` is the one directive that cannot be
executed.  The compiler looks for it in front only.  So a program comes upon a header in some run
exactly if it has one behind the first instruction and everything before that can succeed.  A
source in which no second line asks for a header is safe, as long as the nulls in its arguments
stand apart.
-/

namespace Extraction

variable {ν : Type}

/-! ## Instructions that can succeed -/

/-- No header, and given what its directive needs. -/
def Instruction.Passable (i : Instruction) : Prop :=
  i.directive ≠ .layout ∧ i.directive.Accepts i.args

/-- An instruction is passable exactly if it succeeds on some document. -/
theorem Instruction.passable_iff {i : Instruction} (env : Env ν) (stack : Stack) :
    i.Passable ↔
      ∃ doc env' stack', i.directive.execute doc env stack i.args = (env', .ok stack') := by
  constructor
  · rintro ⟨hd, ha⟩
    exact ⟨.blank, Directive.exists_execute_blank hd ha env stack⟩
  · rintro ⟨doc, env', stack', h⟩
    obtain ⟨hd, ha, -⟩ := Directive.execute_eq_ok h
    exact ⟨hd, ha⟩

/-! ## Runs up to a header -/

namespace Machine

variable {doc : Document ν} {m : Machine ν} {f : Fault}

/-- All that was executed so far is passable. -/
def Passed (m : Machine ν) : Prop := ∀ i ∈ m.executed, i.Passable

theorem Passed.step (h : m.Passed) : (m.step doc).1.Passed := by
  obtain ⟨he, -⟩ | ⟨i, env, hx, he⟩ := executed_step doc m
  · rwa [Passed, he]
  · rw [Passed, he, List.forall_mem_append, List.forall_mem_singleton]
    exact ⟨h, (Instruction.passable_iff _ _).2 ⟨doc, env, _, hx⟩⟩

theorem Passed.after (h : m.Passed) (n : Nat) : (m.after doc n).Passed :=
  after_induction (fun _ => Passed.step) h n

/-- A run that complains about a header has come to one, past nothing but passable instructions. -/
theorem exists_header_of_faults (hp : m.Passed) (h : m.Faults doc f)
    (hf : f.source = .layoutAtRuntime) :
    ∃ front i rest, m.instructions = front ++ i :: rest ∧ i.directive = .layout ∧
      ∀ j ∈ front, j.Passable := by
  obtain ⟨n, hn⟩ := h
  obtain ⟨i, env, hi, hx, -⟩ := step_eq_fault_iff.1 hn
  rw [hf] at hx
  have hd := Directive.execute_eq_layoutAtRuntime_iff.1 (congrArg Prod.snd hx)
  obtain ⟨-, hpc⟩ := current?_eq_some_iff.1 hi
  rw [instructions_after] at hpc
  obtain ⟨hlt, hget⟩ := List.getElem?_eq_some_iff.1 hpc
  have hpassed : (m.after doc n).Passed := hp.after n
  rw [Passed, executed, instructions_after] at hpassed
  refine ⟨_, i, m.instructions.drop ((m.after doc n).pc + 1), ?_, hd, hpassed⟩
  rw [← hget, ← List.drop_eq_getElem_cons hlt, List.take_append_drop]

/-- On a document without nodes, a machine gets past all that is passable. -/
theorem after_blank {front rest : List Instruction} (hm : m.instructions = front ++ rest)
    (hpc : m.pc = 0) (hrun : m.halted = false) (hp : ∀ i ∈ front, i.Passable) {n : Nat}
    (hn : n ≤ front.length) : (m.after .blank n).pc = n ∧ (m.after .blank n).halted = false := by
  induction n with
  | zero => exact ⟨hpc, hrun⟩
  | succ n ih =>
      obtain ⟨ihpc, ihrun⟩ := ih (Nat.le_of_succ_le hn)
      -- the instruction in front of the machine is the next one of `front`
      have hi : (m.after .blank n).current? = some front[n] := by
        rw [current?_eq_some_iff, instructions_after, hm, ihpc, List.getElem?_append_left hn]
        exact ⟨ihrun, List.getElem?_eq_getElem hn⟩
      obtain ⟨hd, ha⟩ := hp front[n] (List.getElem_mem hn)
      obtain ⟨env, stack, hx⟩ :=
        Directive.exists_execute_blank hd ha (m.after .blank n).env (m.after .blank n).stack
      rw [after_succ, step_of_execute_ok hi hx]
      exact ⟨congrArg Nat.succ ihpc, ihrun⟩

end Machine

/-- A program comes upon a header in some run exactly if there is one that it can get to. -/
theorem Program.exists_layoutAtRuntime_iff {p : Program} :
    (∃ (doc : Document ν) (c : Context) (f : Fault),
        ((Machine.ofProgram p c).run doc).2 = .error f ∧ f.source = .layoutAtRuntime) ↔
      ∃ front i rest, p.instructions = front ++ i :: rest ∧ i.directive = .layout ∧
        ∀ j ∈ front, j.Passable := by
  constructor
  · rintro ⟨doc, c, f, h, hf⟩
    have hpassed : (Machine.ofProgram p c : Machine ν).Passed := nofun
    exact Machine.exists_header_of_faults hpassed (Machine.run_eq_error_iff.1 h) hf
  · rintro ⟨front, i, rest, hp, hd, hfront⟩
    let m : Machine ν := .ofProgram p .empty
    let last := m.after .blank front.length
    have hm : m.instructions = front ++ i :: rest := hp
    obtain ⟨hpc, hrun⟩ := Machine.after_blank hm rfl rfl hfront le_rfl
    have hi : last.current? = some i := by
      rw [Machine.current?_eq_some_iff, Machine.instructions_after, hpc, hm,
        List.getElem?_append_right le_rfl, Nat.sub_self]
      exact ⟨hrun, rfl⟩
    have hx : i.directive.execute .blank last.env last.stack i.args =
        (last.env, .error .layoutAtRuntime) := by
      rw [hd]
      rfl
    have hfault : m.Faults .blank ⟨last.pc, i.directive, .layoutAtRuntime⟩ :=
      ⟨front.length, congrArg Prod.snd (Machine.step_of_execute_error hi hx)⟩
    exact ⟨.blank, .empty, _, Machine.run_eq_error_iff.2 hfault, rfl⟩

/-! ## Compiled sources -/

namespace Layout

/-- What a compiled source was loaded to comes upon a header in some run exactly if there is one
behind the first instruction that can be got to.  Where nulls stand apart, there is none unless a
second line asks for it. -/
theorem load_compileSource_layoutAtRuntime {source : String} {bytes : List UInt8} {p : Program}
    (h : compileSource source = .ok bytes) (hp : Program.load bytes = .ok p) :
    ((∃ (doc : Document ν) (c : Context) (f : Fault),
        ((Machine.ofProgram p c).run doc).2 = .error f ∧ f.source = .layoutAtRuntime) ↔
      ∃ front i rest, p.instructions = front ++ i :: rest ∧ i.directive = .layout ∧
        ∀ j ∈ front, j.Passable) ∧
    ((∀ l ∈ statements source, NullsApart (lineArgs l)) →
      (∀ l ∈ (statements source).tail, ∀ i ∈ lineInstruction? l, i.directive ≠ .layout) →
        ∀ (doc : Document ν) (c : Context) (f : Fault),
          (Machine.ofProgram p c).Faults doc f → f.source ≠ .layoutAtRuntime) := by
  refine ⟨Program.exists_layoutAtRuntime_iff, fun hn hl doc c f hf hsource => ?_⟩
  obtain ⟨front, i, rest, hi, hd, -⟩ :=
    Program.exists_layoutAtRuntime_iff.1 ⟨doc, c, f, Machine.run_eq_error_iff.2 hf, hsource⟩
  have hmem : i ∈ p.instructions := hi ▸ List.mem_append_right _ List.mem_cons_self
  obtain ⟨l, hline, j, hj, rfl⟩ := exists_line_of_mem_instructions h hp hn hmem
  exact hl l hline j hj hd

/-- One line behind the header. -/
theorem load_compileSource_one_header :
    let source := "layout\tvivid\t1.0\nglue\ta"
    let bytes := [8, 118, 105, 118, 105, 100, 0, 49, 46, 48, 0, 0, 4, 97, 0, 0]
    let p : Program := ⟨1.0, ["vivid", "1.0"], [⟨.glue, ["a"]⟩]⟩
    compileSource source = .ok bytes ∧ Program.load bytes = .ok p ∧
      ∀ (doc : Document Unit) (c : Context) (f : Fault),
        (Machine.ofProgram p c).Faults doc f → f.source ≠ .layoutAtRuntime := by
  intro source bytes p
  have h : compileSource source = .ok bytes := by decide +kernel
  have hp : Program.load bytes = .ok p :=
    Program.load_eq_ok_iff_decodeAll.2 ⟨by decide, by decide +kernel, by decide +kernel⟩
  have hn : ∀ l ∈ statements source, NullsApart (lineArgs l) := by decide +kernel
  have hl : ∀ l ∈ (statements source).tail, ∀ i ∈ lineInstruction? l, i.directive ≠ .layout := by
    decide +kernel
  exact ⟨h, hp, (load_compileSource_layoutAtRuntime h hp).2 hn hl⟩

/-- A second header line, and a header behind two nulls. -/
theorem load_compileSource_stray_header :
    (∃ bytes p, compileSource "layout\tvivid\t1.0\nlayout\tvivid\t1.0" = .ok bytes ∧
        Program.load bytes = .ok p ∧
          ((Machine.ofProgram p .empty).run (.blank : Document Unit)).2 =
            .error ⟨0, .layout, .layoutAtRuntime⟩) ∧
      ∃ bytes p, compileSource "layout\tvivid\t1.0\nglue\ta\x00\x00\x08b" = .ok bytes ∧
        Program.load bytes = .ok p ∧
          ((Machine.ofProgram p .empty).run (.blank : Document Unit)).2 =
            .error ⟨1, .layout, .layoutAtRuntime⟩ := by
  constructor
  · refine ⟨[8, 118, 105, 118, 105, 100, 0, 49, 46, 48, 0, 0,
        8, 118, 105, 118, 105, 100, 0, 49, 46, 48, 0, 0],
      ⟨1.0, ["vivid", "1.0"], [⟨.layout, ["vivid", "1.0"]⟩]⟩, by decide +kernel, ?_, by rfl⟩
    exact Program.load_eq_ok_iff_decodeAll.2 ⟨by decide, by decide +kernel, by decide +kernel⟩
  · refine ⟨[8, 118, 105, 118, 105, 100, 0, 49, 46, 48, 0, 0, 4, 97, 0, 0, 8, 98, 0, 0],
      ⟨1.0, ["vivid", "1.0"], [⟨.glue, ["a"]⟩, ⟨.layout, ["b"]⟩]⟩, by decide +kernel, ?_, by rfl⟩
    exact Program.load_eq_ok_iff_decodeAll.2 ⟨by decide, by decide +kernel, by decide +kernel⟩

end Layout

end Extraction
