import Extraction.Machine
import Mathlib.Logic.Function.Iterate

/-!
# Steps and runs

A step finds nothing to do, executes an instruction, or fails; `step_cases` says in full what it
leaves behind in each of these cases, and everything about runs is derived from it.  A run is taken
as the machines behind 0, 1, 2, … steps, whoever asks for them; running to the end gives a fault
exactly if some step does.
-/

namespace Extraction.Machine

variable {ν : Type} {doc : Document ν} {m : Machine ν} {f : Fault}

/-! ## Steps -/

theorem current?_eq_some_iff {i : Instruction} :
    m.current? = some i ↔ m.halted = false ∧ m.instructions[m.pc]? = some i := by
  rw [current?]
  cases m.halted <;> simp

section Execute

variable {i : Instruction} {env : Env ν}

theorem step_of_execute_ok {stack : Stack} (hi : m.current? = some i)
    (hx : i.directive.execute doc m.env m.stack i.args = (env, .ok stack)) :
    m.step doc = ({ m with env, stack, pc := m.pc + 1 }, .ok stack) := by
  rw [step, hi]
  simp only [execute, hx]

theorem step_of_execute_error {e : RuntimeError} (hi : m.current? = some i)
    (hx : i.directive.execute doc m.env m.stack i.args = (env, .error e)) :
    m.step doc = ({ m with env, halted := true }, .fault ⟨m.pc, i.directive, e⟩) := by
  rw [step, hi]
  simp only [execute, hx]

end Execute

/-- What a step can do. -/
theorem step_cases (doc : Document ν) (m : Machine ν) :
    (m.current? = none ∧ m.step doc = ({ m with halted := true }, .done)) ∨
      ∃ i, m.current? = some i ∧
        ((∃ env stack, i.directive.execute doc m.env m.stack i.args = (env, .ok stack) ∧
            m.step doc = ({ m with env, stack, pc := m.pc + 1 }, .ok stack)) ∨
          ∃ env e, i.directive.execute doc m.env m.stack i.args = (env, .error e) ∧
            m.step doc = ({ m with env, halted := true }, .fault ⟨m.pc, i.directive, e⟩)) := by
  cases hc : m.current? with
  | none =>
      rw [step, hc]
      exact .inl ⟨rfl, rfl⟩
  | some i =>
      refine .inr ⟨i, rfl, ?_⟩
      cases hx : i.directive.execute doc m.env m.stack i.args with
      | mk env result =>
          cases result with
          | ok stack => exact .inl ⟨env, stack, rfl, step_of_execute_ok hc hx⟩
          | error e => exact .inr ⟨env, e, rfl, step_of_execute_error hc hx⟩

/-- What a step leaves of the environment is what its instruction makes of it, failing or not. -/
theorem env_step (doc : Document ν) (m : Machine ν) :
    (m.step doc).1.env =
      m.current?.elim m.env fun i => (i.directive.execute doc m.env m.stack i.args).1 := by
  obtain ⟨hi, hs⟩ | ⟨i, hi, ⟨env, stack, hx, hs⟩ | ⟨env, e, hx, hs⟩⟩ := step_cases doc m
  · rw [hs, hi]
    rfl
  · rw [hs, hi, Option.elim_some, hx]
  · rw [hs, hi, Option.elim_some, hx]

/-- A step succeeds exactly if its instruction does. -/
theorem step_eq_ok_iff {stack : Stack} : (m.step doc).2 = .ok stack ↔
    ∃ i env, m.current? = some i ∧
      i.directive.execute doc m.env m.stack i.args = (env, .ok stack) := by
  constructor
  · intro h
    obtain ⟨-, hs⟩ | ⟨i, hi, ⟨env, stack', hx, hs⟩ | ⟨env, e, -, hs⟩⟩ := step_cases doc m <;>
      rw [hs] at h <;> cases h
    exact ⟨i, env, hi, hx⟩
  · rintro ⟨i, env, hi, hx⟩
    rw [step_of_execute_ok hi hx]

/-- A step fails exactly if its instruction does, and the fault says where. -/
theorem step_eq_fault_iff : (m.step doc).2 = .fault f ↔
    ∃ i env, m.current? = some i ∧
      i.directive.execute doc m.env m.stack i.args = (env, .error f.source) ∧
        f = ⟨m.pc, i.directive, f.source⟩ := by
  constructor
  · intro h
    obtain ⟨-, hs⟩ | ⟨i, hi, ⟨env, stack, -, hs⟩ | ⟨env, e, hx, hs⟩⟩ := step_cases doc m <;>
      rw [hs] at h <;> cases h
    exact ⟨i, env, hi, hx, rfl⟩
  · rintro ⟨i, env, hi, hx, hf⟩
    rw [step_of_execute_error hi hx, ← hf]

/-- A step has nothing to do exactly if the machine says that it is done. -/
theorem step_eq_done_iff : (m.step doc).2 = .done ↔ m.isDone = true := by
  rw [isDone, Option.isNone_iff_eq_none]
  obtain ⟨hi, hs⟩ | ⟨i, hi, ⟨env, stack, -, hs⟩ | ⟨env, e, -, hs⟩⟩ := step_cases doc m <;>
    rw [hs, hi] <;> simp

/-- What a step gives is what it leaves behind. -/
theorem step_eq_ok {stack : Stack} (h : (m.step doc).2 = .ok stack) :
    (m.step doc).1.stack = stack ∧ (m.step doc).1.pc = m.pc + 1 := by
  obtain ⟨i, env, hi, hx⟩ := step_eq_ok_iff.1 h
  rw [step_of_execute_ok hi hx]
  exact ⟨rfl, rfl⟩

/-- What is no success ends the run, and moves neither position nor stack. -/
theorem step_ended (h : ∀ stack, (m.step doc).2 ≠ .ok stack) :
    (m.step doc).1.halted = true ∧ (m.step doc).1.pc = m.pc ∧
      (m.step doc).1.stack = m.stack := by
  obtain ⟨-, hs⟩ | ⟨i, -, ⟨env, stack, -, hs⟩ | ⟨env, e, -, hs⟩⟩ := step_cases doc m
  · rw [hs]
    exact ⟨rfl, rfl, rfl⟩
  · exact absurd (congrArg Prod.snd hs) (h stack)
  · rw [hs]
    exact ⟨rfl, rfl, rfl⟩

theorem instructions_step : (m.step doc).1.instructions = m.instructions := by
  obtain ⟨-, h⟩ | ⟨i, -, ⟨env, stack, -, h⟩ | ⟨env, e, -, h⟩⟩ := step_cases doc m <;> rw [h]

/-- The instructions executed so far. -/
def executed (m : Machine ν) : List Instruction := m.instructions.take m.pc

/-- Behind the next instruction, that one is executed as well. -/
theorem take_succ_pc {i : Instruction} (hi : m.current? = some i) :
    m.instructions.take (m.pc + 1) = m.executed ++ [i] := by
  obtain ⟨-, hpc⟩ := current?_eq_some_iff.1 hi
  rw [executed, List.take_add_one, hpc]
  rfl

/-- A step executes one instruction more, or leaves the stack as it is. -/
theorem executed_step (doc : Document ν) (m : Machine ν) :
    (m.step doc).1.executed = m.executed ∧ (m.step doc).1.stack = m.stack ∨
      ∃ i env,
        i.directive.execute doc m.env m.stack i.args = (env, .ok (m.step doc).1.stack) ∧
          (m.step doc).1.executed = m.executed ++ [i] := by
  obtain ⟨-, h⟩ | ⟨i, hi, ⟨env, stack, hx, h⟩ | ⟨env, e, -, h⟩⟩ := step_cases doc m
  · rw [h]
    exact .inl ⟨rfl, rfl⟩
  · rw [h]
    exact .inr ⟨i, env, hx, take_succ_pc hi⟩
  · rw [h]
    exact .inl ⟨rfl, rfl⟩

theorem step_of_halted (h : m.halted = true) : m.step doc = (m, .done) := by
  obtain ⟨instructions, pc, stack, env, halted⟩ := m
  cases h
  rfl

/-! ## Runs -/

/-- The machine behind so many steps. -/
def after (doc : Document ν) (n : Nat) (m : Machine ν) : Machine ν :=
  (fun m => (m.step doc).1)^[n] m

/-- What the step behind so many others gives. -/
def resultAt (doc : Document ν) (n : Nat) (m : Machine ν) : StepResult :=
  ((m.after doc n).step doc).2

/-- Some step of a run fails in this way. -/
def Faults (doc : Document ν) (m : Machine ν) (f : Fault) : Prop := ∃ n, m.resultAt doc n = .fault f

/-- One step more at the end. -/
theorem after_succ (n : Nat) : m.after doc (n + 1) = ((m.after doc n).step doc).1 :=
  Function.iterate_succ_apply' _ _ _

/-- One step more at the start. -/
theorem after_step (n : Nat) : (m.step doc).1.after doc n = m.after doc (n + 1) :=
  (Function.iterate_succ_apply _ _ _).symm

theorem resultAt_step (n : Nat) : (m.step doc).1.resultAt doc n = m.resultAt doc (n + 1) := by
  rw [resultAt, resultAt, after_step]

/-- What every step preserves holds throughout a run. -/
theorem after_induction {P : Machine ν → Prop} (hstep : ∀ m, P m → P (m.step doc).1) (h : P m)
    (n : Nat) : P (m.after doc n) :=
  Function.Iterate.rec P h hstep n

@[simp] theorem instructions_after (n : Nat) : (m.after doc n).instructions = m.instructions :=
  after_induction (P := fun m' => m'.instructions = m.instructions)
    (fun _ h => instructions_step.trans h) rfl n

/-- A halted machine changes no more. -/
theorem after_of_halted (h : m.halted = true) (n : Nat) : m.after doc n = m :=
  Function.iterate_fixed (congrArg Prod.fst (step_of_halted h)) n

/-- As long as no step fails, each executes one instruction. -/
theorem pc_after {n : Nat} (h : ∀ k < n, ∃ stack, m.resultAt doc k = .ok stack) :
    (m.after doc n).pc = m.pc + n := by
  induction n with
  | zero => rfl
  | succ n ih =>
      obtain ⟨stack, hs⟩ := h n (Nat.lt_succ_self n)
      rw [after_succ, (step_eq_ok hs).2, ih fun k hk => h k (Nat.lt_succ_of_lt hk), Nat.add_assoc]

/-- What every step that succeeds preserves holds as long as all of them do. -/
theorem after_induction_of_ok {P : Machine ν → Prop}
    (hstep : ∀ m stack, (m.step doc).2 = .ok stack → P m → P (m.step doc).1) (h : P m) {n : Nat}
    (hok : ∀ k < n, ∃ stack, m.resultAt doc k = .ok stack) : P (m.after doc n) := by
  induction n with
  | zero => exact h
  | succ n ih =>
      obtain ⟨stack, hs⟩ := hok n (Nat.lt_succ_self n)
      rw [after_succ]
      exact hstep _ stack hs (ih fun k hk => hok k (Nat.lt_succ_of_lt hk))

theorem executed_after (hpc : m.pc = 0) {n : Nat}
    (h : ∀ k < n, ∃ stack, m.resultAt doc k = .ok stack) :
    (m.after doc n).executed = m.instructions.take n := by
  rw [executed, instructions_after, pc_after h, hpc, Nat.zero_add]

theorem halted_after (hrun : m.halted = false) {n : Nat}
    (h : ∀ k < n, ∃ stack, m.resultAt doc k = .ok stack) : (m.after doc n).halted = false := by
  refine after_induction_of_ok (P := fun m => m.halted = false) ?_ hrun h
  intro m stack hs hm
  obtain ⟨i, env, hi, hx⟩ := step_eq_ok_iff.1 hs
  rw [step_of_execute_ok hi hx]
  exact hm

/-- The instruction that a run has come to, as long as no step fails. -/
theorem current?_after (hpc : m.pc = 0) (hrun : m.halted = false) {n : Nat}
    (h : ∀ k < n, ∃ stack, m.resultAt doc k = .ok stack) :
    (m.after doc n).current? = m.instructions[n]? := by
  rw [current?, halted_after hrun h, pc_after h, hpc, Nat.zero_add, instructions_after]
  rfl

/-- What a run leaves of the environment is what its instructions make of it, one by one. -/
theorem env_after_succ (hpc : m.pc = 0) {n : Nat}
    (h : ∀ k < n + 1, ∃ stack, m.resultAt doc k = .ok stack) :
    ∃ i, m.instructions[n]? = some i ∧ (m.after doc (n + 1)).env =
      (i.directive.execute doc (m.after doc n).env (m.after doc n).stack i.args).1 := by
  obtain ⟨stack, hs⟩ := h n (Nat.lt_succ_self n)
  obtain ⟨i, env, hi, -⟩ := step_eq_ok_iff.1 hs
  obtain ⟨-, hget⟩ := current?_eq_some_iff.1 hi
  rw [instructions_after, pc_after fun k hk => h k (Nat.lt_succ_of_lt hk), hpc, Nat.zero_add]
    at hget
  exact ⟨i, hget, by rw [after_succ, env_step, hi, Option.elim_some]⟩

/-! ## The end of a run -/

section Ended

variable {k n : Nat} (h : ∀ stack, m.resultAt doc k ≠ .ok stack)

include h

/-- The end of a run is final. -/
theorem after_of_ended (hn : k < n) : m.after doc n = m.after doc (k + 1) := by
  have hhalted : (m.after doc (k + 1)).halted = true := by
    rw [after_succ]
    exact (step_ended h).1
  obtain ⟨j, rfl⟩ := Nat.exists_eq_add_of_le' hn
  calc m.after doc (j + (k + 1))
    _ = (m.after doc (k + 1)).after doc j := Function.iterate_add_apply _ _ _ _
    _ = m.after doc (k + 1) := after_of_halted hhalted j

theorem halted_of_ended (hn : k < n) : (m.after doc n).halted = true := by
  rw [after_of_ended h hn, after_succ]
  exact (step_ended h).1

theorem resultAt_of_ended (hn : k < n) : m.resultAt doc n = .done :=
  congrArg Prod.snd (step_of_halted (halted_of_ended h hn))

end Ended

/-- Behind a step that ends the run, nothing changes. -/
theorem after_succ_of_ended (h : ∀ stack, (m.step doc).2 ≠ .ok stack) (n : Nat) :
    m.after doc (n + 1) = (m.step doc).1 :=
  after_of_ended (k := 0) h n.succ_pos

/-- Running is taking steps: those behind the end change nothing. -/
theorem runFor_fst (doc : Document ν) (m : Machine ν) (n : Nat) :
    (m.runFor doc n).1 = m.after doc n := by
  induction n generalizing m with
  | zero => rfl
  | succ n ih =>
      rw [runFor]
      split
      case h_1 m' stack hs => rw [ih, ← after_step, hs]
      case h_2 m' hs => rw [after_succ_of_ended (by simp [hs]), hs]
      case h_3 m' f hs => rw [after_succ_of_ended (by simp [hs]), hs]

/-- With steps enough, a run executes instructions until one fails or none is left. -/
theorem runFor_cases (doc : Document ν) (m : Machine ν) {n : Nat}
    (h : m.instructions.length - m.pc < n) :
    ∃ k, (∀ i < k, ∃ stack, m.resultAt doc i = .ok stack) ∧
      (m.resultAt doc k = .done ∧
          m.runFor doc n = (m.after doc (k + 1), .ok (m.after doc (k + 1)).stack) ∨
        ∃ f, m.resultAt doc k = .fault f ∧ m.runFor doc n = (m.after doc (k + 1), .error f)) := by
  induction n generalizing m with
  | zero => exact absurd h (Nat.not_lt_zero _)
  | succ n ih =>
      rw [runFor]
      obtain ⟨-, hs⟩ | ⟨i, hi, ⟨env, stack, -, hs⟩ | ⟨env, e, -, hs⟩⟩ := step_cases doc m
      · refine ⟨0, nofun, .inl ⟨congrArg Prod.snd hs, ?_⟩⟩
        rw [Nat.zero_add, show m.after doc 1 = _ from congrArg Prod.fst hs, hs]
      · obtain ⟨-, hpc⟩ := current?_eq_some_iff.1 hi
        obtain ⟨hlt, -⟩ := List.getElem?_eq_some_iff.1 hpc
        -- one instruction fewer is left, so the steps that remain are still enough
        have hn : (m.step doc).1.instructions.length - (m.step doc).1.pc < n := by
          rw [hs]
          simp only
          omega
        obtain ⟨k, hk, hend⟩ := ih _ hn
        simp only [resultAt_step, after_step] at hk hend
        refine ⟨k + 1, ?_, ?_⟩
        · intro j hj
          cases j with
          | zero => exact ⟨stack, congrArg Prod.snd hs⟩
          | succ j => exact hk j (Nat.lt_of_succ_lt_succ hj)
        · simpa only [hs] using hend
      · refine ⟨0, nofun, .inr ⟨_, congrArg Prod.snd hs, ?_⟩⟩
        rw [Nat.zero_add, show m.after doc 1 = _ from congrArg Prod.fst hs, hs]

/-- A run succeeds for a number of steps.  Then it has nothing left to do, and gives the stack, or
it fails. -/
theorem run_cases (doc : Document ν) (m : Machine ν) :
    ∃ k, (∀ i, (∃ stack, m.resultAt doc i = .ok stack) ↔ i < k) ∧
      (m.run doc).1 = m.after doc (k + 1) ∧
      (m.resultAt doc k = .done ∧ (m.run doc).2 = .ok (m.after doc (k + 1)).stack ∨
        ∃ f, m.resultAt doc k = .fault f ∧ (m.run doc).2 = .error f) := by
  obtain ⟨k, hk, hend⟩ := m.runFor_cases doc (Nat.lt_succ_self _)
  have hnot : ∀ stack, m.resultAt doc k ≠ .ok stack := by
    intro stack hok
    obtain ⟨hdone, -⟩ | ⟨f, hfault, -⟩ := hend
    · rw [hdone] at hok
      cases hok
    · rw [hfault] at hok
      cases hok
  have hiff (i : Nat) : (∃ stack, m.resultAt doc i = .ok stack) ↔ i < k := by
    refine ⟨?_, hk i⟩
    rintro ⟨stack, hok⟩
    by_contra hi
    rcases Nat.eq_or_lt_of_not_lt hi with rfl | hi
    · exact hnot stack hok
    · rw [resultAt_of_ended hnot hi] at hok
      cases hok
  obtain ⟨hdone, hrun⟩ | ⟨f, hfault, hrun⟩ := hend
  · exact ⟨k, hiff, congrArg Prod.fst hrun, .inl ⟨hdone, congrArg Prod.snd hrun⟩⟩
  · exact ⟨k, hiff, congrArg Prod.fst hrun, .inr ⟨f, hfault, congrArg Prod.snd hrun⟩⟩

/-- The step behind those that succeed does not. -/
theorem resultAt_ne_ok {k : Nat} (h : ∀ i, (∃ stack, m.resultAt doc i = .ok stack) ↔ i < k)
    (stack : Stack) : m.resultAt doc k ≠ .ok stack :=
  fun hok => Nat.lt_irrefl k ((h k).1 ⟨stack, hok⟩)

/-- A run has one end: the step that does not succeed and finds the machine not halted. -/
theorem eq_of_ended {k n : Nat} (hk : ∀ i, (∃ stack, m.resultAt doc i = .ok stack) ↔ i < k)
    (hrun : (m.after doc n).halted = false) (hend : ∀ stack, m.resultAt doc n ≠ .ok stack) :
    n = k := by
  rcases Nat.lt_trichotomy n k with hlt | rfl | hgt
  · obtain ⟨stack, hs⟩ := (hk n).2 hlt
    exact absurd hs (hend stack)
  · rfl
  · rw [halted_of_ended (resultAt_ne_ok hk) hgt] at hrun
    cases hrun

/-- Running to the end gives a fault exactly if some step does. -/
theorem run_eq_error_iff : (m.run doc).2 = .error f ↔ m.Faults doc f := by
  obtain ⟨k, hk, -, hend⟩ := run_cases doc m
  constructor
  · intro h
    obtain ⟨-, hrun⟩ | ⟨f', hfault, hrun⟩ := hend
    · rw [hrun] at h
      cases h
    · rw [hrun] at h
      cases h
      exact ⟨k, hfault⟩
  · rintro ⟨n, hn⟩
    -- the step that fails is the one that ends the run
    rcases Nat.lt_trichotomy n k with hlt | rfl | hgt
    · obtain ⟨stack, hok⟩ := (hk n).2 hlt
      rw [hok] at hn
      cases hn
    · obtain ⟨hdone, -⟩ | ⟨f', hfault, hrun⟩ := hend
      · rw [hdone] at hn
        cases hn
      · rw [hfault] at hn
        cases hn
        exact hrun
    · rw [resultAt_of_ended (resultAt_ne_ok hk) hgt] at hn
      cases hn

end Extraction.Machine
