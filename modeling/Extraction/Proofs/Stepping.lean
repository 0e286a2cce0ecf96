import Extraction.Proofs.Lifecycle
import Mathlib.Data.List.Basic

/-!
# Three ways to the end of a run

A machine can be stepped by hand until it says that it is done or has failed, its items can be
collected, and it can be run as a whole.  `StepsUntil` is the first of these, as a relation; the
other two give what it says, once they are allowed one step more than there are stacks on the way.
Collecting asks once more behind a fault than running does, which is harmless as the machine is
halted by then.  `Watched` is what the items and the outcome of a run have to do with each other.
-/

namespace Extraction.Machine

variable {ν : Type} {doc : Document ν} {m m' final final' : Machine ν} {p : Program} {c : Context}
variable {seen seen' : List Stack} {r r' : StepResult} {n k : Nat}

/-- Stepping until a step does not succeed: the stacks on the way, what that step gives, and the
machine that it leaves. -/
inductive StepsUntil (doc : Document ν) : Machine ν → List Stack → StepResult → Machine ν → Prop
  | ended {m final : Machine ν} {r : StepResult} :
      m.step doc = (final, r) → (∀ stack, r ≠ .ok stack) → StepsUntil doc m [] r final
  | ok {m m' final : Machine ν} {stack : Stack} {seen : List Stack} {r : StepResult} :
      m.step doc = (m', .ok stack) → StepsUntil doc m' seen r final →
        StepsUntil doc m (stack :: seen) r final

theorem StepsUntil.unique (h : m.StepsUntil doc seen r final)
    (h' : m.StepsUntil doc seen' r' final') : seen' = seen ∧ r' = r ∧ final' = final := by
  induction h generalizing seen' with
  | ended hs hr =>
      cases h' with
      | ended hs' =>
          obtain ⟨rfl, rfl⟩ := Prod.mk.inj (hs.symm.trans hs')
          exact ⟨rfl, rfl, rfl⟩
      | ok hs' => exact absurd (congrArg Prod.snd (hs.symm.trans hs')) (hr _)
  | ok hs _ ih =>
      cases h' with
      | ended hs' hr' => exact absurd (congrArg Prod.snd (hs'.symm.trans hs)) (hr' _)
      | ok hs' h' =>
          cases hs.symm.trans hs'
          obtain ⟨rfl, rfl, rfl⟩ := ih h'
          exact ⟨rfl, rfl, rfl⟩

/-- Stepping comes to an end with the first step that does not succeed. -/
theorem exists_stepsUntil_of_ok (hok : ∀ i < k, ∃ stack, m.resultAt doc i = .ok stack)
    (hend : ∀ stack, m.resultAt doc k ≠ .ok stack) :
    ∃ seen, seen.length = k ∧
      m.StepsUntil doc seen (m.resultAt doc k) (m.after doc (k + 1)) := by
  induction k generalizing m with
  | zero => exact ⟨[], rfl, .ended rfl hend⟩
  | succ k ih =>
      obtain ⟨stack, hs⟩ := hok 0 k.succ_pos
      rw [← resultAt_step] at hend
      obtain ⟨seen, rfl, h⟩ := ih (m := (m.step doc).1)
        (fun i hi => resultAt_step i ▸ hok (i + 1) (Nat.succ_lt_succ hi)) hend
      rw [resultAt_step, after_step] at h
      exact ⟨stack :: seen, rfl, .ok (Prod.ext rfl hs) h⟩

theorem ended_of_step (hs : m.step doc = (final, r)) (hr : ∀ stack, r ≠ .ok stack) :
    final.halted = true ∧ final.stack = m.stack := by
  have hended : ∀ stack, (m.step doc).2 ≠ .ok stack := by rwa [hs]
  obtain ⟨hhalted, -, hstack⟩ := step_ended hended
  rw [hs] at hhalted hstack
  exact ⟨hhalted, hstack⟩

/-- The final stack is the last one on the way. -/
theorem StepsUntil.stack_final (h : m.StepsUntil doc seen r final) :
    final.stack = seen.getLastD m.stack := by
  induction h with
  | ended hs hr => exact (ended_of_step hs hr).2
  | ok hs _ ih =>
      obtain ⟨hstack, -⟩ := step_eq_ok (congrArg Prod.snd hs)
      rw [ih, List.getLastD_cons, ← hstack, hs]

/-! ## Running and collecting -/

theorem collectFor_of_halted (h : m.halted = true) (n : Nat) : m.collectFor doc n = (m, []) := by
  cases n with
  | zero => rfl
  | succ n => simp [collectFor, next, step_of_halted h, StepResult.item?]

/-- With steps enough, running gives the last stack or the fault. -/
theorem StepsUntil.runFor (h : m.StepsUntil doc seen r final) (hn : seen.length < n) :
    m.runFor doc n = (final, (StepResult.item? r).getD (.ok final.stack)) := by
  induction h generalizing n with
  | @ended m final r hs hr =>
      obtain ⟨n, rfl⟩ := Nat.exists_eq_succ_of_ne_zero (Nat.ne_of_gt hn)
      cases r with
      | ok stack => exact absurd rfl (hr stack)
      | done | fault => simp [Machine.runFor, hs, StepResult.item?]
  | ok hs _ ih =>
      obtain ⟨n, rfl⟩ := Nat.exists_eq_succ_of_ne_zero (Nat.ne_of_gt (Nat.zero_lt_of_lt hn))
      simpa only [Machine.runFor, hs] using ih (Nat.lt_of_succ_lt_succ hn)

/-- With steps enough, collecting gives all stacks, and the fault if there is one. -/
theorem StepsUntil.collectFor (h : m.StepsUntil doc seen r final) (hn : seen.length < n) :
    m.collectFor doc n = (final, seen.map .ok ++ (StepResult.item? r).toList) := by
  induction h generalizing n with
  | @ended m final r hs hr =>
      obtain ⟨n, rfl⟩ := Nat.exists_eq_succ_of_ne_zero (Nat.ne_of_gt hn)
      -- behind a fault, collecting goes on, but gets nothing from a halted machine
      cases r with
      | ok stack => exact absurd rfl (hr stack)
      | done => simp [Machine.collectFor, next, hs, StepResult.item?]
      | fault f =>
          obtain ⟨hhalted, -⟩ := ended_of_step hs hr
          simp [Machine.collectFor, next, hs, StepResult.item?, collectFor_of_halted hhalted]
  | ok hs _ ih =>
      obtain ⟨n, rfl⟩ := Nat.exists_eq_succ_of_ne_zero (Nat.ne_of_gt (Nat.zero_lt_of_lt hn))
      simp [Machine.collectFor, next, hs, StepResult.item?, ih (Nat.lt_of_succ_lt_succ hn)]

/-! ## Items -/

/-- Of a program of so many instructions, the items and the outcome of a run: a stack for each
instruction, or a fault behind fewer of them. -/
inductive Watched (size : Nat) : List (Except Fault Stack) → Except Fault Stack → Prop
  | completed {seen : List Stack} :
      seen.length = size → Watched size (seen.map .ok) (.ok (seen.getLastD .empty))
  | failed {seen : List Stack} {f : Fault} :
      seen.length < size → f.index = seen.length →
        Watched size (seen.map .ok ++ [.error f]) (.error f)

namespace Watched

variable {items : List (Except Fault Stack)} {outcome : Except Fault Stack} {stack : Stack}
variable {f : Fault} {size : Nat}

theorem exists_of_mem_map_ok {item : Except Fault Stack} (h : item ∈ seen.map .ok) :
    ∃ stack, item = .ok stack := by
  obtain ⟨stack, -, rfl⟩ := List.mem_map.1 h
  exact ⟨stack, rfl⟩

/-- Among stacks there is no fault. -/
theorem getLast?_map_ok : (seen.map .ok).getLast? ≠ some (Except.error f) := by
  intro h
  obtain ⟨stack, hstack⟩ := exists_of_mem_map_ok (List.mem_of_getLast? h)
  cases hstack

theorem length_le (h : Watched size items outcome) : items.length ≤ size := by
  cases h with
  | completed hsize => exact Nat.le_of_eq ((List.length_map _).trans hsize)
  | failed hlt => rwa [List.length_append, List.length_map, List.length_singleton]

theorem exists_of_mem_dropLast (h : Watched size items outcome) :
    ∀ item ∈ items.dropLast, ∃ stack, item = .ok stack := by
  intro item hitem
  cases h with
  | completed => exact exists_of_mem_map_ok (List.dropLast_subset _ hitem)
  | failed =>
      rw [List.dropLast_concat] at hitem
      exact exists_of_mem_map_ok hitem

theorem eq_ok_iff (h : Watched size items outcome) : outcome = .ok stack ↔
    ∃ seen : List Stack,
      items = seen.map .ok ∧ seen.length = size ∧ stack = seen.getLastD .empty := by
  cases h with
  | completed hsize =>
      constructor
      · rintro ⟨⟩
        exact ⟨_, rfl, hsize, rfl⟩
      · rintro ⟨seen, hseen, -, rfl⟩
        rw [(List.map_inj_right fun _ _ => Except.ok.inj).1 hseen]
  | @failed seen f =>
      refine iff_of_false (by rintro ⟨⟩) ?_
      rintro ⟨seen', hseen, -⟩
      have hlast : (seen'.map .ok).getLast? = some (Except.error f) := by
        rw [← hseen, List.getLast?_concat]
      exact getLast?_map_ok hlast

theorem eq_error_iff (h : Watched size items outcome) :
    outcome = .error f ↔ items.getLast? = some (.error f) := by
  cases h with
  | completed => exact iff_of_false (by rintro ⟨⟩) getLast?_map_ok
  | failed => rw [List.getLast?_concat, Option.some.injEq]

theorem index_eq (h : Watched size items outcome) (hf : items.getLast? = some (.error f)) :
    f.index = items.dropLast.length := by
  rw [← h.eq_error_iff] at hf
  cases h with
  | completed => cases hf
  | failed _ hindex =>
      cases hf
      rw [List.dropLast_concat, List.length_map, hindex]

end Watched

/-! ## Programs -/

/-- Stepping through a program ends behind its last instruction or at one that fails.  Collecting
and running give what is met on the way, and leave the same machine. -/
theorem exists_stepsUntil (doc : Document ν) (p : Program) (c : Context) :
    let m : Machine ν := .ofProgram p c
    ∃ seen r final, m.StepsUntil doc seen r final ∧
      (∀ n, p.size < n →
        m.collectFor doc n = (final, seen.map .ok ++ (StepResult.item? r).toList) ∧
        m.runFor doc n = (final, (StepResult.item? r).getD (.ok (seen.getLastD .empty)))) ∧
      Watched p.size (seen.map .ok ++ (StepResult.item? r).toList)
        ((StepResult.item? r).getD (.ok (seen.getLastD .empty))) := by
  intro m
  obtain ⟨k, hk, -, hend⟩ := exists_end doc p c
  obtain ⟨seen, rfl, h⟩ := exists_stepsUntil_of_ok (fun i => (hk i).2) (resultAt_ne_ok hk)
  refine ⟨seen, _, _, h, ?_, ?_⟩
  · intro n hn
    have hfuel : seen.length < n := by
      obtain ⟨-, hsize, -⟩ | ⟨f, -, hlt, -⟩ := hend <;> omega
    refine ⟨h.collectFor hfuel, ?_⟩
    rw [h.runFor hfuel, h.stack_final]
    rfl
  · obtain ⟨hdone, hsize, -⟩ | ⟨f, hfault, hlt, hf, -⟩ := hend
    · rw [hdone]
      show Watched p.size (seen.map .ok ++ []) _
      rw [List.append_nil]
      exact .completed hsize
    · rw [hfault]
      exact .failed hlt hf

/-- Stepping, collecting and running agree, and leave the same machine, with its repository and the
calls of commands.  There are at most as many items as instructions, and all but the last are
stacks.  A run that succeeds gives the last of as many stacks as there are instructions; one that
fails gives the fault at the end of the items, and its index is the number of stacks before.  More
steps than there are instructions change nothing. -/
theorem run_collect_stepsUntil (doc : Document ν) (p : Program) (c : Context) :
    let m : Machine ν := .ofProgram p c
    let items := (m.collect doc).2
    (∃ seen r final,
        (∀ seen' r' final', m.StepsUntil doc seen' r' final' ↔
          seen' = seen ∧ r' = r ∧ final' = final) ∧
        m.collect doc = (final, seen.map .ok ++ (StepResult.item? r).toList) ∧
        m.run doc = (final, (StepResult.item? r).getD (.ok (seen.getLastD .empty)))) ∧
      items.length ≤ p.size ∧ (∀ item ∈ items.dropLast, ∃ stack, item = .ok stack) ∧
      (∀ stack, (m.run doc).2 = .ok stack ↔ ∃ seen : List Stack,
        items = seen.map .ok ∧ seen.length = p.size ∧ stack = seen.getLastD .empty) ∧
      (∀ f, ((m.run doc).2 = .error f ↔ items.getLast? = some (.error f)) ∧
        (items.getLast? = some (.error f) → f.index = items.dropLast.length)) ∧
      ∀ n, p.size < n → m.collectFor doc n = m.collect doc ∧ m.runFor doc n = m.run doc := by
  intro m items
  obtain ⟨seen, r, final, h, hall, hwatched⟩ := exists_stepsUntil doc p c
  -- both are allowed one step more than there are instructions
  have hcollect : m.collect doc = (final, _) := (hall _ (Nat.lt_succ_self _)).1
  have hrun : m.run doc = (final, _) := (hall _ (Nat.lt_succ_self _)).2
  have hitems : items = seen.map .ok ++ (StepResult.item? r).toList := congrArg Prod.snd hcollect
  refine ⟨⟨seen, r, final, ?_, hcollect, hrun⟩, ?_⟩
  · intro seen' r' final'
    constructor
    · exact h.unique
    · rintro ⟨rfl, rfl, rfl⟩
      exact h
  · rw [hitems, hcollect, hrun]
    exact ⟨hwatched.length_le, hwatched.exists_of_mem_dropLast, fun _ => hwatched.eq_ok_iff,
      fun _ => ⟨hwatched.eq_error_iff, hwatched.index_eq⟩, hall⟩

/-- A fault between two instructions, behind one stack. -/
theorem run_collect_stepsUntil_one_stack :
    let doc : Document Unit := .blank
    let p : Program :=
      ⟨1.0, ["vivid", "1.0"], [⟨.glue, ["a"]⟩, ⟨.layout, ["l"]⟩, ⟨.glue, ["b"]⟩]⟩
    let f : Fault := ⟨1, .layout, .layoutAtRuntime⟩
    let m : Machine Unit := .ofProgram p .empty
    let items := (m.collect doc).2
    items = [.ok ⟨[[]]⟩, .error f] ∧ (m.run doc).2 = .error f ∧ f.index = items.dropLast.length ∧
      (∃ stack, items.head? = some (.ok stack)) ∧
      p.size < 9 ∧ m.collectFor doc 9 = m.collect doc ∧ m.runFor doc 9 = m.run doc := by
  intro doc p f m items
  have hitems : items = [.ok ⟨[[]]⟩, .error f] := rfl
  have hlast : items.getLast? = some (.error f) := rfl
  have hhead : .ok ⟨[[]]⟩ ∈ items.dropLast := by
    rw [hitems]
    exact List.mem_cons_self
  have hsize : p.size < 9 := by decide
  obtain ⟨-, -, hdrop, -, hfault, hmore⟩ := run_collect_stepsUntil doc p .empty
  obtain ⟨hrun, hindex⟩ := hfault f
  obtain ⟨stack, hstack⟩ := hdrop _ hhead
  exact ⟨hitems, hrun.2 hlast, hindex hlast, ⟨stack, congrArg some hstack⟩, hsize, hmore 9 hsize⟩

end Extraction.Machine
