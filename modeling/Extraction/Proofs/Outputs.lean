import Extraction.Proofs.Isolation
import Extraction.Proofs.Lifecycle

/-!
# Programs without their outputs

`label` and `prompt` hand the top frame on to the context, and that is all they do.  A program from
which they are left out runs as before: the instructions that remain give the same stacks, and a
fault comes from the same instruction, only at an earlier position.

A machine is followed by the one without outputs, `Machine.silent`, up to the context.  A step that
executes an output leaves the second machine where it is, and every other step moves both.
-/

namespace Extraction

variable {ν : Type} {doc : Document ν}

/-! ## Instructions -/

/-- Whether an instruction only hands the top frame on to the context. -/
def Instruction.isOutput (i : Instruction) : Bool :=
  match i.directive with
  | .label | .prompt => true
  | _ => false

/-- The instructions that remain when outputs are left out. -/
def Instruction.isSilent (i : Instruction) : Bool := !i.isOutput

theorem Instruction.isOutput_of_not_isSilent {i : Instruction} (h : ¬ i.isSilent) : i.isOutput := by
  simpa [isSilent] using h

/-- An output that has its argument succeeds, and changes nothing but the context. -/
theorem Instruction.execute_of_isOutput {i : Instruction} (hi : i.isOutput) (ha : i.args ≠ [])
    (doc : Document ν) (env : Env ν) (stack : Stack) :
    ∃ c, i.directive.execute doc env stack i.args = (env.withContext c, .ok stack) := by
  obtain ⟨d, args⟩ := i
  cases args with
  | nil => exact absurd rfl ha
  | cons name args =>
      cases d with
      | label | prompt => exact ⟨_, rfl⟩
      | bundle | drop | extract | follow | glue | insert | keep | layout | remove | replace
      | select | style => cases hi

/-- The position of an item among those that satisfy a predicate is the number of them before. -/
theorem getElem?_filter_countP {α : Type} (q : α → Bool) {as : List α} {n : Nat} {a : α}
    (h : as[n]? = some a) (ha : q a = true) :
    (as.filter q)[(as.take n).countP q]? = some a := by
  obtain ⟨hn, hget⟩ := List.getElem?_eq_some_iff.1 h
  have hsplit : as.take n ++ a :: as.drop (n + 1) = as := by
    rw [← hget, ← List.drop_eq_getElem_cons hn, List.take_append_drop]
  have hfilter : as.filter q = (as.take n).filter q ++ a :: (as.drop (n + 1)).filter q := by
    rw [← List.filter_cons_of_pos ha, ← List.filter_append, hsplit]
  rw [hfilter, List.countP_eq_length_filter, List.getElem?_append_right (Nat.le_refl _),
    Nat.sub_self, List.getElem?_cons_zero]

namespace Machine

variable {m : Machine ν} {i : Instruction}

/-! ## Steps -/

/-- The machine without outputs. -/
def silent (m : Machine ν) : Machine ν :=
  { m with
    instructions := m.instructions.filter Instruction.isSilent
    pc := m.executed.countP Instruction.isSilent }

theorem current?_silent (hi : m.current? = some i) (hs : i.isSilent) :
    m.silent.current? = some i := by
  obtain ⟨hrun, hpc⟩ := current?_eq_some_iff.1 hi
  exact current?_eq_some_iff.2 ⟨hrun, getElem?_filter_countP _ hpc hs⟩

theorem current?_silent_of_none (hi : m.current? = none) : m.silent.current? = none := by
  rw [current?] at hi ⊢
  cases hrun : m.halted with
  | true => simp [silent, hrun]
  | false =>
      rw [hrun] at hi
      have hle : m.instructions.length ≤ m.pc := List.getElem?_eq_none_iff.1 hi
      simp [silent, executed, List.take_of_length_le hle, List.countP_eq_length_filter]

/-- An instruction that succeeds moves the machine without outputs only if it remains. -/
theorem silent_of_current? (hi : m.current? = some i) (env : Env ν) (stack : Stack) :
    silent { m with env, stack, pc := m.pc + 1 } =
      { m.silent with env, stack, pc := m.silent.pc + if i.isSilent then 1 else 0 } := by
  simp only [silent, executed, take_succ_pc hi, List.countP_append, List.countP_singleton]

end Machine

/-- The result of a step, with another position in a fault. -/
def StepResult.moveTo (index : Nat) : StepResult → StepResult
  | .fault f => .fault { f with index }
  | .ok stack => .ok stack
  | .done => .done

theorem StepResult.moveTo_eq_ok_iff {r : StepResult} {index : Nat} {stack : Stack} :
    r.moveTo index = .ok stack ↔ r = .ok stack := by
  cases r <;> simp [moveTo]

namespace Machine

variable {m q : Machine ν} {i : Instruction}

/-- A machine is another one without outputs, up to the context. -/
def Follows (q m : Machine ν) : Prop := ∃ c, q = m.silent.withContext c

theorem Follows.same (h : q.Follows m) :
    q.stack = m.stack ∧ q.env.scope = m.env.scope ∧ q.env.visited = m.env.visited := by
  obtain ⟨c, rfl⟩ := h
  exact ⟨rfl, rfl, rfl⟩

/-- A step that executes an output succeeds, and is followed by doing nothing. -/
theorem Follows.output (h : q.Follows m) (doc : Document ν) (hi : m.current? = some i)
    (ho : i.isOutput) (ha : i.args ≠ []) :
    (m.step doc).2 = .ok m.stack ∧ q.Follows (m.step doc).1 := by
  obtain ⟨c, rfl⟩ := h
  obtain ⟨c', hx⟩ := i.execute_of_isOutput ho ha doc m.env m.stack
  have hs : i.isSilent = false := by simp [Instruction.isSilent, ho]
  rw [step_of_execute_ok hi hx]
  refine ⟨rfl, c, ?_⟩
  rw [silent_of_current? hi, hs]
  rfl

/-- Every other step is followed by one with the same result. -/
theorem Follows.step (h : q.Follows m) (doc : Document ν)
    (hs : ∀ i, m.current? = some i → i.isSilent) :
    (q.step doc).1.Follows (m.step doc).1 ∧ (q.step doc).2 = (m.step doc).2.moveTo q.pc := by
  obtain ⟨c, rfl⟩ := h
  have hstep :
      m.silent.step doc = ((m.step doc).1.silent, (m.step doc).2.moveTo m.silent.pc) := by
    obtain ⟨hi, h⟩ | ⟨i, hi, ⟨env, stack, hx, h⟩ | ⟨env, e, hx, h⟩⟩ := step_cases doc m
    · rw [h, Machine.step, current?_silent_of_none hi]
      rfl
    · rw [h, step_of_execute_ok (current?_silent hi (hs i hi)) hx, silent_of_current? hi, hs i hi]
      rfl
    · rw [h, step_of_execute_error (current?_silent hi (hs i hi)) hx]
      rfl
  rw [step_withContext, hstep]
  exact ⟨⟨_, rfl⟩, rfl⟩

end Machine

/-! ## Programs -/

namespace Program

/-- The program without its outputs. -/
def silent (p : Program) : Program :=
  { p with instructions := p.instructions.filter Instruction.isSilent }

/-- The number of outputs in front of a position. -/
def outputsBefore (p : Program) (n : Nat) : Nat :=
  (p.instructions.take n).countP Instruction.isOutput

/-- The position that an instruction has when outputs are left out. -/
def silentIndex (p : Program) (n : Nat) : Nat :=
  (p.instructions.take n).countP Instruction.isSilent

variable {p : Program} {n : Nat}

theorem silentIndex_eq (hn : n ≤ p.size) : p.silentIndex n = n - p.outputsBefore n := by
  have hlength : (p.instructions.take n).length = n := List.length_take_of_le hn
  have hsum : (p.instructions.take n).length = p.outputsBefore n + p.silentIndex n := by
    rw [List.length_eq_countP_add_countP Instruction.isOutput, outputsBefore, silentIndex]
    congr 2
    funext i
    simp [Instruction.isSilent]
  omega

theorem silentIndex_succ {i : Instruction} (hi : p.instructions[n]? = some i) :
    p.silentIndex (n + 1) = p.silentIndex n + if i.isSilent then 1 else 0 := by
  rw [silentIndex, List.take_add_one, hi, List.countP_append, Option.toList_some,
    List.countP_singleton]
  rfl

theorem silentIndex_le {k : Nat} (h : k ≤ n) : p.silentIndex k ≤ p.silentIndex n :=
  (List.take_sublist_take_left h).countP_le

end Program

/-! ## Runs -/

namespace Machine

section Runs

variable {p : Program} {c : Context} {n : Nat}

theorem follows_start : (ofProgram p.silent c : Machine ν).Follows (ofProgram p c) := by
  refine ⟨c, ?_⟩
  simp [ofProgram, Program.silent, silent, executed, withContext, Env.withContext, Env.ofContext]

/-- As long as no step fails, the machine without outputs keeps up. -/
theorem follows_after (ha : ∀ i ∈ p.instructions, i.isOutput → i.args ≠ [])
    (h : ∀ k < n, ∃ stack, (ofProgram p c : Machine ν).resultAt doc k = .ok stack) :
    ((ofProgram p.silent c).after doc (p.silentIndex n)).Follows ((ofProgram p c).after doc n) := by
  induction n with
  | zero => exact follows_start
  | succ n ih =>
      have hn : ∀ k < n, ∃ stack, (ofProgram p c : Machine ν).resultAt doc k = .ok stack :=
        fun k hk => h k (Nat.lt_succ_of_lt hk)
      obtain ⟨stack, hs⟩ := h n (Nat.lt_succ_self n)
      obtain ⟨i, env, hi, -⟩ := step_eq_ok_iff.1 hs
      have hget : p.instructions[n]? = some i := (current?_after rfl rfl hn).symm.trans hi
      rw [Program.silentIndex_succ hget, after_succ]
      by_cases hsilent : i.isSilent
      · rw [if_pos hsilent, after_succ]
        refine ((ih hn).step doc fun j hj => ?_).1
        rw [hi] at hj
        exact Option.some.inj hj ▸ hsilent
      · rw [if_neg hsilent, Nat.add_zero]
        have ho : i.isOutput := i.isOutput_of_not_isSilent hsilent
        exact ((ih hn).output doc hi ho (ha i (List.mem_of_getElem? hget) ho)).2

/-- An instruction that remains has the same result, and so has the end of the program. -/
theorem resultAt_silent (ha : ∀ i ∈ p.instructions, i.isOutput → i.args ≠ [])
    (h : ∀ k < n, ∃ stack, (ofProgram p c : Machine ν).resultAt doc k = .ok stack)
    (hs : ∀ i, p.instructions[n]? = some i → i.isSilent) :
    (ofProgram p.silent c : Machine ν).resultAt doc (p.silentIndex n) =
        ((ofProgram p c : Machine ν).resultAt doc n).moveTo (p.silentIndex n) ∧
      ((ofProgram p.silent c).after doc (p.silentIndex n + 1)).Follows
        ((ofProgram p c).after doc (n + 1)) := by
  have hfollows := follows_after (c := c) ha h
  have hpc : ((ofProgram p.silent c : Machine ν).after doc (p.silentIndex n)).pc =
      p.silentIndex n := by
    obtain ⟨c', hc'⟩ := hfollows
    have hexecuted : ((ofProgram p c : Machine ν).after doc n).executed = p.instructions.take n :=
      executed_after rfl h
    rw [hc', Program.silentIndex, ← hexecuted]
    rfl
  obtain ⟨hstep, hresult⟩ := hfollows.step doc (by rwa [current?_after rfl rfl h])
  rw [after_succ, after_succ]
  rw [hpc] at hresult
  exact ⟨hresult, hstep⟩

/-- Both runs come to their ends at corresponding positions. -/
theorem exists_end_silent (doc : Document ν) (c : Context)
    (ha : ∀ i ∈ p.instructions, i.isOutput → i.args ≠ []) :
    let m : Machine ν := .ofProgram p c
    let q : Machine ν := .ofProgram p.silent c
    ∃ k, (∀ n, (∃ stack, m.resultAt doc n = .ok stack) ↔ n < k) ∧
      (∀ n, (∃ stack, q.resultAt doc n = .ok stack) ↔ n < p.silentIndex k) ∧
      (q.run doc).1.Follows (m.run doc).1 ∧
      (m.resultAt doc k = .done ∧ (m.run doc).2 = .ok (m.run doc).1.stack ∧
          (q.run doc).2 = .ok (q.run doc).1.stack ∨
        ∃ f, m.resultAt doc k = .fault f ∧ k < p.size ∧ f.index = k ∧
          (m.run doc).2 = .error f ∧
          (q.run doc).2 = .error { f with index := p.silentIndex k }) := by
  intro m q
  obtain ⟨k, hk, hfinal, hend⟩ := exists_end doc p c
  have hok : ∀ n < k, ∃ stack, m.resultAt doc n = .ok stack := fun n => (hk n).2
  -- an output does not fail, so the run ends at an instruction that remains
  have hlast : ∀ i, p.instructions[k]? = some i → i.isSilent := by
    intro i hi
    by_contra hs
    have ho : i.isOutput := i.isOutput_of_not_isSilent hs
    have hcurrent : (m.after doc k).current? = some i := (current?_after rfl rfl hok).trans hi
    obtain ⟨hout, -⟩ :=
      (follows_after ha hok).output doc hcurrent ho (ha i (List.mem_of_getElem? hi) ho)
    exact resultAt_ne_ok hk _ hout
  obtain ⟨hresult, hfollows⟩ := resultAt_silent ha hok hlast
  obtain ⟨k', hk', hfinal', hend'⟩ := exists_end doc p.silent c
  have hrun : (q.after doc (p.silentIndex k)).halted = false := by
    obtain ⟨c', hc'⟩ := follows_after ha hok
    rw [hc']
    exact halted_after (m := m) rfl hok
  have hnot : ∀ stack, q.resultAt doc (p.silentIndex k) ≠ .ok stack := by
    intro stack hs
    rw [hresult, StepResult.moveTo_eq_ok_iff] at hs
    exact resultAt_ne_ok hk stack hs
  obtain rfl : p.silentIndex k = k' := eq_of_ended hk' hrun hnot
  refine ⟨k, hk, hk', by rwa [hfinal, hfinal'], ?_⟩
  obtain ⟨hdone, -, hrunm⟩ | ⟨f, hfault, hlt, hf, hrunm⟩ := hend
  · rw [hdone] at hresult
    obtain ⟨-, -, hrunq⟩ | ⟨f, hfault, -⟩ := hend'
    · exact .inl ⟨hdone, by rw [hrunm, hfinal], by rw [hrunq, hfinal']⟩
    · rw [hresult] at hfault
      cases hfault
  · rw [hfault] at hresult
    obtain ⟨hdone, -⟩ | ⟨f', hfault', -, -, hrunq⟩ := hend'
    · rw [hresult] at hdone
      cases hdone
    · rw [hresult] at hfault'
      cases hfault'
      exact .inr ⟨f, hfault, hlt, hf, hrunm, hrunq⟩

end Runs

/-- Leaving out the outputs of a program, each of which has its argument, changes nothing but the
context and the positions.  It completes as it did, with the same stack, scope and visited nodes;
each instruction that remains leaves the stack that it left; and a fault is the same, at a position
less by the number of outputs before it. -/
theorem run_silent (doc : Document ν) (p : Program) (c : Context)
    (ha : ∀ i ∈ p.instructions, i.isOutput → i.args ≠ []) :
    let m : Machine ν := .ofProgram p c
    let q : Machine ν := .ofProgram p.silent c
    (∀ stack, (q.run doc).2 = .ok stack ↔ (m.run doc).2 = .ok stack) ∧
      (q.run doc).1.env.scope = (m.run doc).1.env.scope ∧
      (q.run doc).1.env.visited = (m.run doc).1.env.visited ∧
      (∀ n i stack, p.instructions[n]? = some i → i.isSilent →
        (q.resultAt doc (n - p.outputsBefore n) = .ok stack ↔ m.resultAt doc n = .ok stack)) ∧
      ∀ f, (m.run doc).2 = .error f →
        (q.run doc).2 = .error { f with index := f.index - p.outputsBefore f.index } := by
  intro m q
  obtain ⟨k, hk, hk', hfollows, hend⟩ := exists_end_silent doc c ha
  obtain ⟨hstack, hscope, hvisited⟩ := hfollows.same
  refine ⟨?_, hscope, hvisited, ?_, ?_⟩
  · intro stack
    obtain ⟨-, hrunm, hrunq⟩ | ⟨f, -, -, -, hrunm, hrunq⟩ := hend
    · rw [hrunm, hrunq, hstack]
    · rw [hrunm, hrunq]
      exact iff_of_false nofun nofun
  · intro n i stack hi hs
    obtain ⟨hn, -⟩ := List.getElem?_eq_some_iff.1 hi
    rw [← Program.silentIndex_eq (Nat.le_of_lt hn)]
    rcases Nat.lt_or_ge k n with hlt | hle
    · -- neither run gets that far
      refine iff_of_false (fun h => ?_) (fun h => ?_)
      · exact Nat.not_lt_of_le (Program.silentIndex_le (Nat.le_of_lt hlt)) ((hk' _).1 ⟨stack, h⟩)
      · exact Nat.lt_asymm hlt ((hk n).1 ⟨stack, h⟩)
    · have hok : ∀ j < n, ∃ stack, m.resultAt doc j = .ok stack :=
        fun j hj => (hk j).2 (Nat.lt_of_lt_of_le hj hle)
      have hlast : ∀ j, p.instructions[n]? = some j → j.isSilent := by
        intro j hj
        rw [hi] at hj
        exact Option.some.inj hj ▸ hs
      rw [(resultAt_silent ha hok hlast).1, StepResult.moveTo_eq_ok_iff]
  · intro f hrun
    obtain ⟨-, hrunm, -⟩ | ⟨f', -, hlt, hf, hrunm, hrunq⟩ := hend
    · rw [hrun] at hrunm
      cases hrunm
    · rw [hrun] at hrunm
      cases hrunm
      rw [hrunq, hf, Program.silentIndex_eq (Nat.le_of_lt hlt)]

/-- Two outputs in front of a fault. -/
theorem run_silent_two_outputs :
    let doc : Document Unit := { Document.blank with evaluate := fun _ _ => .ok (.string "b") }
    let p : Program :=
      ⟨1.0, ["vivid", "1.0"], [⟨.follow, ["//b"]⟩, ⟨.label, ["l"]⟩, ⟨.glue, ["a"]⟩,
        ⟨.prompt, ["print", "x"]⟩, ⟨.layout, ["l"]⟩]⟩
    let m : Machine Unit := .ofProgram p .empty
    let q : Machine Unit := .ofProgram p.silent .empty
    (∀ i ∈ p.instructions, i.isOutput → i.args ≠ []) ∧
      (m.run doc).2 = .error ⟨4, .layout, .layoutAtRuntime⟩ ∧
      (q.run doc).2 = .error ⟨2, .layout, .layoutAtRuntime⟩ ∧
      m.resultAt doc 2 = .ok ⟨[["b"], ["ab"]]⟩ ∧ q.resultAt doc 1 = .ok ⟨[["b"], ["ab"]]⟩ := by
  intro doc p m q
  have ha : ∀ i ∈ p.instructions, i.isOutput → i.args ≠ [] := by decide
  obtain ⟨-, -, -, hsnapshot, hfault⟩ := run_silent doc p .empty ha
  have hm : (m.run doc).2 = .error ⟨4, .layout, .layoutAtRuntime⟩ := rfl
  have hs : m.resultAt doc 2 = .ok ⟨[["b"], ["ab"]]⟩ := rfl
  exact ⟨ha, hm, hfault _ hm, hs, (hsnapshot 2 _ _ rfl rfl).2 hs⟩

end Machine

end Extraction
