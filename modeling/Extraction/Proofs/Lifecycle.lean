import Extraction.Proofs.Execution
import Extraction.Proofs.Run

/-!
# The life of a machine

A machine is asked for its next step in two ways, by `step` and by `next`, and they can be mixed.
`Reached` is a machine together with all answers that it gave so far.  What a machine knows of
itself is what the answers say: its position counts the steps that succeeded, and it is halted once
an answer was not a success.  That is the invariant `Consistent`, and with it the end of a run is
final, whichever way it came about.  `exists_end` and `run_ofProgram` are what that says of a whole
run: its final position is the number of instructions that it executed.
-/

namespace Extraction.Machine

variable {ν : Type} {doc : Document ν} {p : Program} {c : Context} {m : Machine ν}

/-- What a machine was asked for, and gave. -/
inductive Answer where
  | step (result : StepResult)
  | next (item? : Option (Except Fault Stack))

/-- An instruction was executed. -/
def Answer.isOk : Answer → Bool
  | .step (.ok _) | .next (some (.ok _)) => true
  | .step _ | .next _ => false

/-- The machines that can be reached from the start of a program, with the answers on the way. -/
inductive Reached (doc : Document ν) (p : Program) (c : Context) :
    Machine ν → List Answer → Prop
  | start : Reached doc p c (.ofProgram p c) []
  | step {m : Machine ν} {answers : List Answer} : Reached doc p c m answers →
      Reached doc p c (m.step doc).1 (answers ++ [.step (m.step doc).2])
  | next {m : Machine ν} {answers : List Answer} : Reached doc p c m answers →
      Reached doc p c (m.next doc).1 (answers ++ [.next (m.next doc).2])

/-- A machine agrees with the answers that it gave. -/
structure Consistent (p : Program) (m : Machine ν) (answers : List Answer) : Prop where
  instructions_eq : m.instructions = p.instructions
  pc_le : m.pc ≤ p.size
  pc_eq : m.pc = answers.countP Answer.isOk
  halted_iff : m.halted = true ↔ ∃ a ∈ answers, a.isOk = false

theorem Consistent.start : Consistent p (.ofProgram p c : Machine ν) [] where
  instructions_eq := rfl
  pc_le := Nat.zero_le _
  pc_eq := rfl
  halted_iff := by simp [ofProgram]

section Step

variable {answers : List Answer} {a : Answer}

/-- What ends a run halts the machine and does not move it. -/
theorem Consistent.ended (h : Consistent p m answers) (ha : a.isOk = false) (env : Env ν) :
    Consistent p { m with env, halted := true } (answers ++ [a]) where
  instructions_eq := h.instructions_eq
  pc_le := h.pc_le
  pc_eq := by simp [h.pc_eq, ha]
  halted_iff := iff_of_true rfl ⟨a, List.mem_append_right _ List.mem_cons_self, ha⟩

/-- Either way of asking keeps a machine consistent. -/
theorem Consistent.step (h : Consistent p m answers)
    (ha : a.isOk = true ↔ ∃ stack, (m.step doc).2 = .ok stack) :
    Consistent p (m.step doc).1 (answers ++ [a]) := by
  obtain ⟨-, hs⟩ | ⟨i, hi, ⟨env, stack, -, hs⟩ | ⟨env, e, -, hs⟩⟩ := step_cases doc m
  · rw [hs] at ha ⊢
    exact h.ended (by simpa using ha) m.env
  · rw [hs] at ha ⊢
    obtain ⟨hrun, hpc⟩ := current?_eq_some_iff.1 hi
    obtain ⟨hlt, -⟩ := List.getElem?_eq_some_iff.1 hpc
    have hok : a.isOk = true := ha.2 ⟨stack, rfl⟩
    constructor
    · exact h.instructions_eq
    · rwa [h.instructions_eq] at hlt
    · simp [h.pc_eq, hok]
    · show m.halted = true ↔ _
      rw [h.halted_iff]
      simp [hok]
  · rw [hs] at ha ⊢
    exact h.ended (by simpa using ha) env

end Step

/-! ## Answers -/

theorem isOk_step {r : StepResult} : (Answer.step r).isOk = true ↔ ∃ stack, r = .ok stack := by
  cases r <;> simp [Answer.isOk]

theorem isOk_next {r : StepResult} :
    (Answer.next (StepResult.item? r)).isOk = true ↔ ∃ stack, r = .ok stack := by
  cases r <;> simp [Answer.isOk, StepResult.item?]

theorem item?_eq_none_iff {r : StepResult} : StepResult.item? r = none ↔ r = .done := by
  cases r <;> simp [StepResult.item?]

theorem item?_eq_error_iff {r : StepResult} {f : Fault} :
    StepResult.item? r = some (.error f) ↔ r = .fault f := by
  cases r <;> simp [StepResult.item?]

/-! ## All machines that can be reached -/

theorem Reached.consistent {answers : List Answer} (h : Reached doc p c m answers) :
    Consistent p m answers := by
  induction h with
  | start => exact .start
  | step _ ih => exact ih.step isOk_step
  | next _ ih => exact ih.step isOk_next

/-- The machines of a run are among those that can be reached. -/
theorem exists_reached_after (doc : Document ν) (p : Program) (c : Context) (n : Nat) :
    ∃ answers, Reached doc p c ((ofProgram p c).after doc n) answers := by
  induction n with
  | zero => exact ⟨[], .start⟩
  | succ n ih =>
      obtain ⟨answers, h⟩ := ih
      rw [after_succ]
      exact ⟨_, h.step⟩

/-- The end of a run of a program: behind its last instruction, or in front of one that fails. -/
theorem exists_end (doc : Document ν) (p : Program) (c : Context) :
    let m : Machine ν := .ofProgram p c
    ∃ k, (∀ n, (∃ stack, m.resultAt doc n = .ok stack) ↔ n < k) ∧
      (m.run doc).1 = m.after doc (k + 1) ∧
      (m.resultAt doc k = .done ∧ k = p.size ∧
          (m.run doc).2 = .ok (m.after doc (k + 1)).stack ∨
        ∃ f, m.resultAt doc k = .fault f ∧ k < p.size ∧ f.index = k ∧
          (m.run doc).2 = .error f) := by
  intro m
  obtain ⟨k, hk, hfinal, hend⟩ := run_cases doc m
  have hok : ∀ n < k, ∃ stack, m.resultAt doc n = .ok stack := fun n => (hk n).2
  have hcurrent : (m.after doc k).current? = p.instructions[k]? := current?_after rfl rfl hok
  have hpc : (m.after doc k).pc = k := (pc_after hok).trans (Nat.zero_add k)
  refine ⟨k, hk, hfinal, ?_⟩
  obtain ⟨hdone, hrun⟩ | ⟨f, hfault, hrun⟩ := hend
  · have hle : p.size ≤ k := by
      rw [resultAt, step_eq_done_iff, isDone, Option.isNone_iff_eq_none, hcurrent] at hdone
      exact List.getElem?_eq_none_iff.1 hdone
    obtain ⟨answers, hreached⟩ := exists_reached_after doc p c k
    have hge : (m.after doc k).pc ≤ p.size := hreached.consistent.pc_le
    rw [hpc] at hge
    exact .inl ⟨hdone, Nat.le_antisymm hge hle, hrun⟩
  · obtain ⟨i, env, hi, -, hf⟩ := step_eq_fault_iff.1 hfault
    rw [hcurrent] at hi
    obtain ⟨hlt, -⟩ := List.getElem?_eq_some_iff.1 hi
    exact .inr ⟨f, hfault, hlt, by rw [hf, hpc], hrun⟩

/-- A run of a program executes so many instructions, and then has none left or fails at the next
one.  Steps beyond the end change nothing. -/
theorem run_ofProgram (doc : Document ν) (p : Program) (c : Context) :
    let m : Machine ν := .ofProgram p c
    let final := (m.run doc).1
    (∀ n, (∃ stack, m.resultAt doc n = .ok stack) ↔ n < final.pc) ∧
      (∀ n, final.pc < n → m.after doc n = final) ∧
      ((∃ stack, (m.run doc).2 = .ok stack) ∧ final.pc = p.size ∨
        ∃ f, (m.run doc).2 = .error f ∧ f.index = final.pc) := by
  intro m final
  obtain ⟨k, hk, hfinal, hend⟩ := exists_end doc p c
  have hnot : ∀ stack, m.resultAt doc k ≠ .ok stack := resultAt_ne_ok hk
  -- the step that ends the run moves nothing
  have hpc : final.pc = k := by
    rw [show final = m.after doc (k + 1) from hfinal, after_succ, (step_ended hnot).2.1,
      pc_after fun n => (hk n).2]
    exact Nat.zero_add k
  rw [hpc]
  refine ⟨hk, fun n hn => (after_of_ended hnot hn).trans hfinal.symm, ?_⟩
  obtain ⟨-, hsize, hrun⟩ | ⟨f, -, -, hf, hrun⟩ := hend
  · exact .inl ⟨⟨_, hrun⟩, hsize⟩
  · exact .inr ⟨f, hrun, hf⟩

/-- What is known of a machine however it was asked.  Its position counts the steps that succeeded.
It says that it is done exactly if the next step has nothing to do.  A fault tells where it
happened, and leaves position and stack.  Once something was not a success, nothing changes any
more. -/
theorem reached_invariant {answers : List Answer} (h : Reached doc p c m answers) :
    m.pc ≤ p.size ∧ m.pc = answers.countP Answer.isOk ∧
      (m.isDone = true ↔ (m.step doc).2 = .done) ∧ (m.isDone = true ↔ (m.next doc).2 = none) ∧
      (∀ f, (m.step doc).2 = .fault f ∨ (m.next doc).2 = some (.error f) →
        f.index = m.pc ∧ (∃ i, p.instructions[m.pc]? = some i ∧ f.directive = i.directive) ∧
          (m.step doc).1.pc = m.pc ∧ (m.step doc).1.stack = m.stack ∧
            (m.next doc).1 = (m.step doc).1) ∧
      ((∃ a ∈ answers, a.isOk = false) → m.step doc = (m, .done) ∧ m.next doc = (m, none)) := by
  have hm : Consistent p m answers := h.consistent
  refine ⟨hm.pc_le, hm.pc_eq, step_eq_done_iff.symm, ?_, ?_, ?_⟩
  · exact (item?_eq_none_iff.trans step_eq_done_iff).symm
  · intro f hf
    rw [show (m.next doc).2 = StepResult.item? (m.step doc).2 from rfl, item?_eq_error_iff,
      or_self] at hf
    obtain ⟨i, env, hi, hx, hf⟩ := step_eq_fault_iff.1 hf
    obtain ⟨-, hpc⟩ := current?_eq_some_iff.1 hi
    rw [hm.instructions_eq] at hpc
    rw [hf, step_of_execute_error hi hx]
    exact ⟨rfl, ⟨i, hpc, rfl⟩, rfl, rfl, congrArg Prod.fst (step_of_execute_error hi hx)⟩
  · intro ha
    have hs : m.step doc = (m, .done) := step_of_halted (hm.halted_iff.2 ha)
    exact ⟨hs, by rw [next, hs]; rfl⟩

/-- A fault between two instructions, met by `next` behind a `step`. -/
theorem reached_invariant_fault_between :
    let doc : Document Unit := .blank
    let p : Program :=
      ⟨1.0, ["vivid", "1.0"], [⟨.glue, ["a"]⟩, ⟨.layout, ["vivid"]⟩, ⟨.glue, ["b"]⟩]⟩
    let f : Fault := ⟨1, .layout, .layoutAtRuntime⟩
    let first := ((ofProgram p .empty : Machine Unit).step doc).1
    let second := (first.next doc).1
    Reached doc p .empty first [.step (.ok ⟨[[]]⟩)] ∧ (first.next doc).2 = some (.error f) ∧
      f.index = first.pc ∧
      Reached doc p .empty second [.step (.ok ⟨[[]]⟩), .next (some (.error f))] ∧
        second.pc = 1 ∧ second.step doc = (second, .done) ∧ second.next doc = (second, none) := by
  intro doc p f first second
  have hfirst : Reached doc p .empty first [.step (.ok ⟨[[]]⟩)] := Reached.start.step
  have hsecond : Reached doc p .empty second [.step (.ok ⟨[[]]⟩), .next (some (.error f))] :=
    hfirst.next
  have hfault : (first.next doc).2 = some (.error f) := rfl
  obtain ⟨-, -, -, -, hfaults, -⟩ := reached_invariant hfirst
  obtain ⟨-, hpc, -, -, -, hended⟩ := reached_invariant hsecond
  obtain ⟨hstep, hnext⟩ := hended ⟨.next (some (.error f)), by simp, rfl⟩
  exact ⟨hfirst, hfault, (hfaults f (.inr hfault)).1, hsecond, hpc, hstep, hnext⟩

end Extraction.Machine
