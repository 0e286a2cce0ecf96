import Extraction.Proofs.Stepping

/-!
# Programs one after the other

A program that is continued runs as it did: no step looks at an instruction that it has not come
to.  A machine is put into a longer program by `Machine.within`, which adds instructions in front
of its own and behind them, and a step does the same there, but for the position in a fault.  So a
run that fails does so in the longer program as well, and one that completes hands its stack and its
environment on to the instructions behind.
-/

namespace Extraction

/-- The fault of an instruction that stands so much further on. -/
def Fault.moveBy (n : Nat) (f : Fault) : Fault := { f with index := f.index + n }

namespace StepResult

/-- The result of a step that is taken so much further on. -/
def moveBy (n : Nat) : StepResult → StepResult
  | .ok stack => .ok stack
  | .done => .done
  | .fault f => .fault (f.moveBy n)

variable {r : StepResult} {n : Nat}

@[simp] theorem moveBy_zero (r : StepResult) : r.moveBy 0 = r := by cases r <;> rfl

theorem moveBy_ne_ok (h : ∀ stack, r ≠ .ok stack) (stack : Stack) : r.moveBy n ≠ .ok stack := by
  cases r with
  | ok stack' => exact absurd rfl (h stack')
  | done | fault => exact nofun

end StepResult

namespace Machine

variable {ν : Type} {doc : Document ν}
variable {m final final' : Machine ν} {r r' : StepResult} {seen seen' : List Stack}
variable {front back is js : List Instruction} {i : Instruction} {stack : Stack} {env : Env ν}

theorem item?_moveBy (n : Nat) (r : StepResult) :
    StepResult.item? (r.moveBy n) =
      (StepResult.item? r).map (Except.mapError (Fault.moveBy n)) := by
  cases r <;> rfl

/-! ## Machines in longer programs -/

/-- The machine in a program with more instructions, in front of its own and behind them. -/
def within (front back : List Instruction) (m : Machine ν) : Machine ν :=
  { m with instructions := front ++ m.instructions ++ back, pc := front.length + m.pc }

theorem current?_within (hi : m.current? = some i) :
    (m.within front back).current? = some i := by
  obtain ⟨hrun, hpc⟩ := current?_eq_some_iff.1 hi
  obtain ⟨hlt, -⟩ := List.getElem?_eq_some_iff.1 hpc
  refine current?_eq_some_iff.2 ⟨hrun, ?_⟩
  show (front ++ m.instructions ++ back)[front.length + m.pc]? = some i
  rw [List.append_assoc, List.getElem?_append_right (Nat.le_add_right _ _), Nat.add_sub_cancel_left,
    List.getElem?_append_left hlt, hpc]

theorem current?_within_of_none (hi : m.current? = none) :
    (m.within front []).current? = none := by
  rw [current?] at hi ⊢
  cases hrun : m.halted with
  | true => simp [within, hrun]
  | false =>
      rw [hrun] at hi
      have hle : m.instructions.length ≤ m.pc := List.getElem?_eq_none_iff.1 hi
      simpa [within, hrun] using hle

/-- In a longer program a step does the same, unless it finds an instruction where there was
none. -/
theorem step_within (front : List Instruction) (hend : m.current? = none → back = []) :
    (m.within front back).step doc =
      ((m.step doc).1.within front back, (m.step doc).2.moveBy front.length) := by
  obtain ⟨hi, hs⟩ | ⟨i, hi, ⟨env, stack, hx, hs⟩ | ⟨env, e, hx, hs⟩⟩ := step_cases doc m
  · obtain rfl := hend hi
    rw [hs, step, current?_within_of_none hi]
    rfl
  · rw [hs, step_of_execute_ok (current?_within hi) hx]
    rfl
  · rw [hs, step_of_execute_error (current?_within hi) hx, StepResult.moveBy, Fault.moveBy]
    simp only [within, Nat.add_comm]

theorem step_within_of_ok {m' : Machine ν} (front back : List Instruction)
    (hs : m.step doc = (m', .ok stack)) :
    (m.within front back).step doc = (m'.within front back, .ok stack) := by
  rw [step_within, hs]
  · rfl
  · intro hi
    rw [step, hi] at hs
    cases hs

/-- So does a run, unless it found no instruction left. -/
theorem StepsUntil.within (h : m.StepsUntil doc seen r final) (front back : List Instruction)
    (hend : r = .done → back = []) :
    (m.within front back).StepsUntil doc seen (r.moveBy front.length)
      (final.within front back) := by
  induction h with
  | @ended m final r hs hr =>
      refine .ended ?_ (StepResult.moveBy_ne_ok hr)
      rw [step_within, hs]
      intro hi
      rw [step, hi] at hs
      exact hend (Prod.mk.inj hs).2.symm
  | ok hs _ ih => exact .ok (step_within_of_ok front back hs) (ih hend)

/-! ## Whole runs -/

/-- A machine in front of the first of these instructions, as another program left it. -/
def start (is : List Instruction) (stack : Stack) (env : Env ν) : Machine ν :=
  { instructions := is, stack, env }

theorem step_eq_mk_ok {m' : Machine ν} (hs : m.step doc = (m', .ok stack)) :
    m.halted = false ∧ m.pc < m.instructions.length ∧
      m' = { m with stack := m'.stack, env := m'.env, pc := m.pc + 1 } := by
  obtain ⟨-, h⟩ | ⟨i, hi, ⟨env, stack', -, h⟩ | ⟨env, e, -, h⟩⟩ := step_cases doc m <;>
    rw [h] at hs <;> cases hs
  obtain ⟨hrun, hpc⟩ := current?_eq_some_iff.1 hi
  obtain ⟨hlt, -⟩ := List.getElem?_eq_some_iff.1 hpc
  exact ⟨hrun, hlt, rfl⟩

theorem step_eq_mk_done {m' : Machine ν} (hs : m.step doc = (m', .done)) :
    m.current? = none ∧ m' = { m with halted := true } := by
  obtain ⟨hi, h⟩ | ⟨i, -, ⟨env, stack, -, h⟩ | ⟨env, e, -, h⟩⟩ := step_cases doc m <;>
    rw [h] at hs <;> cases hs
  exact ⟨hi, rfl⟩

theorem exists_stepsUntil_of_machine (doc : Document ν) (m : Machine ν) :
    ∃ seen r final, m.StepsUntil doc seen r final := by
  obtain ⟨k, hk, -⟩ := run_cases doc m
  obtain ⟨seen, -, h⟩ := exists_stepsUntil_of_ok (fun i => (hk i).2) (resultAt_ne_ok hk)
  exact ⟨seen, _, _, h⟩

/-- A run gives no more stacks than there are instructions ahead of it. -/
theorem StepsUntil.length_lt (h : m.StepsUntil doc seen r final) : seen.length < m.stepsLeft := by
  induction h with
  | ended => exact Nat.succ_pos _
  | ok hs _ ih =>
      obtain ⟨-, hlt, hm'⟩ := step_eq_mk_ok hs
      rw [hm'] at ih
      simp only [stepsLeft, List.length_cons] at ih ⊢
      omega

theorem StepsUntil.collect (h : m.StepsUntil doc seen r final) :
    m.collect doc = (final, seen.map .ok ++ (StepResult.item? r).toList) :=
  h.collectFor h.length_lt

theorem StepsUntil.run (h : m.StepsUntil doc seen r final) :
    m.run doc = (final, (StepResult.item? r).getD (.ok final.stack)) :=
  h.runFor h.length_lt

theorem StepsUntil.ne_ok (h : m.StepsUntil doc seen r final) : ∀ stack, r ≠ .ok stack := by
  induction h with
  | ended _ hr => exact hr
  | ok _ _ ih => exact ih

/-- How the outcome of a run tells its last step. -/
theorem StepsUntil.of_run (h : m.StepsUntil doc seen r final) :
    (∀ stack, (m.run doc).2 = .ok stack → r = .done ∧ final.stack = stack) ∧
      ∀ f, (m.run doc).2 = .error f → r = .fault f := by
  rw [h.run]
  cases r with
  | ok stack => exact absurd rfl (h.ne_ok stack)
  | done => exact ⟨fun _ hs => ⟨rfl, Except.ok.inj hs⟩, nofun⟩
  | fault => exact ⟨nofun, fun _ hf => congrArg StepResult.fault (Except.error.inj hf)⟩

/-- A run that found no instruction left stands behind the last one. -/
theorem StepsUntil.final_eq (h : m.StepsUntil doc seen .done final) (hrun : m.halted = false)
    (hpc : m.pc ≤ m.instructions.length) :
    final = { m with
      stack := final.stack, env := final.env, pc := m.instructions.length, halted := true } := by
  generalize hr : StepResult.done = r at h
  induction h with
  | @ended m final r hs _ =>
      subst hr
      obtain ⟨hi, hfinal⟩ := step_eq_mk_done hs
      rw [current?, hrun] at hi
      rw [← Nat.le_antisymm hpc (List.getElem?_eq_none_iff.1 hi), hfinal]
  | ok hs _ ih =>
      obtain ⟨-, hlt, hm'⟩ := step_eq_mk_ok hs
      rw [hm'] at ih
      exact ih hrun hlt hr

/-- Such a run goes on with the instructions that are added behind. -/
theorem StepsUntil.followedBy (h : m.StepsUntil doc seen .done final)
    (front : List Instruction) (hrun : m.halted = false)
    (hrest : ({ final with halted := false }.within front back).StepsUntil doc seen' r' final') :
    (m.within front back).StepsUntil doc (seen ++ seen') r' final' := by
  generalize hr : StepResult.done = r at h
  induction h with
  | @ended m final r hs _ =>
      subst hr
      -- but for being halted, the machine at the end is the one that found nothing
      obtain ⟨-, hfinal⟩ := step_eq_mk_done hs
      rw [hfinal] at hrest
      rwa [← hrun] at hrest
  | ok hs _ ih =>
      obtain ⟨-, -, hm'⟩ := step_eq_mk_ok hs
      rw [hm'] at ih
      rw [hm'] at hs
      exact .ok (step_within_of_ok front back hs) (ih hrun hrest hr)

/-! ## Two programs -/

section Append

variable (h : (start is stack env : Machine ν).StepsUntil doc seen r final)

include h

/-- A run that fails, fails in front of everything that follows. -/
theorem StepsUntil.append_of_ne_done (js : List Instruction) (hr : r ≠ .done) :
    (start (is ++ js) stack env : Machine ν).StepsUntil doc seen r (final.within [] js) := by
  have hlong := h.within [] js fun hdone => absurd hdone hr
  rwa [List.length_nil, StepResult.moveBy_zero] at hlong

/-- A run that completes is followed by that of the next instructions, which takes over what it
leaves. -/
theorem StepsUntil.append_of_done (hr : r = .done)
    (hrest : (start js final.stack final.env : Machine ν).StepsUntil doc seen' r' final') :
    (start (is ++ js) stack env : Machine ν).StepsUntil doc (seen ++ seen')
      (r'.moveBy is.length) (final'.within is []) := by
  subst hr
  have hfinal := h.final_eq rfl (Nat.zero_le _)
  refine h.followedBy [] rfl ?_
  have hlong := hrest.within is [] fun _ => rfl
  rw [hfinal]
  simpa only [Machine.within, start, List.append_nil, List.nil_append, List.length_nil,
    Nat.add_zero, Nat.zero_add] using hlong

end Append

/-- What follows a failure is not executed. -/
theorem collect_run_start_of_error {f : Fault} (js : List Instruction)
    (hf : ((start is stack env : Machine ν).run doc).2 = .error f) :
    let m : Machine ν := start is stack env
    let long : Machine ν := start (is ++ js) stack env
    (long.collect doc).2 = (m.collect doc).2 ∧ (long.run doc).2 = .error f ∧
      (long.run doc).1.env = (m.run doc).1.env := by
  intro m long
  obtain ⟨seen, r, final, h⟩ := exists_stepsUntil_of_machine doc m
  obtain rfl := h.of_run.2 f hf
  have hlong := h.append_of_ne_done js nofun
  rw [hlong.collect, hlong.run, h.collect, h.run]
  exact ⟨rfl, rfl, rfl⟩

/-- What follows a run that completes goes on from there. -/
theorem collect_run_start_of_ok {stack' : Stack} (js : List Instruction)
    (hok : ((start is stack env : Machine ν).run doc).2 = .ok stack') :
    let m : Machine ν := start is stack env
    let long : Machine ν := start (is ++ js) stack env
    let rest : Machine ν := start js stack' (m.run doc).1.env
    (long.collect doc).2 = (m.collect doc).2 ++
          (rest.collect doc).2.map (Except.mapError (Fault.moveBy is.length)) ∧
      (long.run doc).2 = (rest.run doc).2.mapError (Fault.moveBy is.length) ∧
        (long.run doc).1.env = (rest.run doc).1.env := by
  intro m long rest
  obtain ⟨seen, r, final, h⟩ := exists_stepsUntil_of_machine doc m
  obtain ⟨rfl, rfl⟩ := h.of_run.1 stack' hok
  have hrest' : rest = start js final.stack final.env := by
    rw [show rest = start js final.stack (m.run doc).1.env from rfl, h.run]
  obtain ⟨seen', r', final', hrest⟩ := exists_stepsUntil_of_machine doc rest
  have hlong := h.append_of_done rfl (hrest' ▸ hrest)
  rw [hlong.collect, hlong.run, hrest.collect, hrest.run, h.collect, item?_moveBy]
  refine ⟨?_, ?_, rfl⟩
  · cases r' <;> simp [StepResult.item?, Except.mapError]
  · cases r' <;> rfl

theorem watched_ofProgram (doc : Document ν) (p : Program) (c : Context) :
    let m : Machine ν := .ofProgram p c
    Watched p.size (m.collect doc).2 (m.run doc).2 := by
  intro m
  obtain ⟨seen, r, final, -, hall, hwatched⟩ := exists_stepsUntil doc p c
  have hcollect : m.collect doc = (final, _) := (hall _ (Nat.lt_succ_self _)).1
  have hrun : m.run doc = (final, _) := (hall _ (Nat.lt_succ_self _)).2
  rwa [hcollect, hrun]

/-- The first items come from the first instructions. -/
theorem take_collect_ofProgram (doc : Document ν) (is : List Instruction) (c : Context) (k : Nat) :
    ((ofProgram (.ofInstructions is) c).collect doc).2.take k =
      ((ofProgram (.ofInstructions (is.take k)) c).collect doc).2 := by
  let m : Machine ν := start (is.take k) .empty (.ofContext c)
  show ((start is .empty (.ofContext c)).collect doc).2.take k = (m.collect doc).2
  have hwatched : Watched (is.take k).length (m.collect doc).2 (m.run doc).2 :=
    watched_ofProgram doc (.ofInstructions (is.take k)) c
  have hlen : (m.collect doc).2.length ≤ k :=
    Nat.le_trans hwatched.length_le (List.length_take_le k is)
  rw [← congrArg (start · Stack.empty (Env.ofContext c)) (List.take_append_drop k is)]
  cases hrun : (m.run doc).2 with
  | error f =>
      rw [(collect_run_start_of_error (is.drop k) hrun).1]
      exact List.take_of_length_le hlen
  | ok stack =>
      rw [(collect_run_start_of_ok (is.drop k) hrun).1]
      rcases Nat.le_total k is.length with hk | hk
      · -- all of the first instructions give a stack
        obtain ⟨seen, hitems, hseen, -⟩ := hwatched.eq_ok_iff.1 hrun
        have hall : (m.collect doc).2.length = k := by
          rw [hitems, List.length_map, hseen, List.length_take_of_le hk]
        exact List.take_left' hall
      · -- nothing is left behind them
        rw [List.drop_of_length_le hk]
        show ((m.collect doc).2 ++ []).take k = _
        rw [List.append_nil, List.take_of_length_le hlen]

/-- Programs can be put one after the other.  If the first one fails, it gives the same items, fault
and environment as on its own.  If it completes, its items are followed by those of the second one
when that starts from the stack and the environment that the first one leaves, with its faults
moved behind the first one; and so are outcome and environment.  The first items of a run depend on
as many first instructions only. -/
theorem run_collect_append (doc : Document ν) (is js : List Instruction) (c : Context) :
    let m : Machine ν := .ofProgram (.ofInstructions is) c
    let both : Machine ν := .ofProgram (.ofInstructions (is ++ js)) c
    (∀ f, (m.run doc).2 = .error f →
        (both.collect doc).2 = (m.collect doc).2 ∧ (both.run doc).2 = .error f ∧
          (both.run doc).1.env = (m.run doc).1.env) ∧
      (∀ stack, (m.run doc).2 = .ok stack →
        let rest : Machine ν := start js stack (m.run doc).1.env
        (both.collect doc).2 = (m.collect doc).2 ++
              (rest.collect doc).2.map (Except.mapError (Fault.moveBy is.length)) ∧
          (both.run doc).2 = (rest.run doc).2.mapError (Fault.moveBy is.length) ∧
            (both.run doc).1.env = (rest.run doc).1.env) ∧
      ∀ k, (m.collect doc).2.take k =
        ((ofProgram (.ofInstructions (is.take k)) c).collect doc).2 := by
  intro m both
  refine ⟨?_, ?_, take_collect_ofProgram doc is c⟩
  · intro f hf
    exact collect_run_start_of_error js hf
  · intro stack hok
    exact collect_run_start_of_ok js hok

/-- The second program reads the nodes that the first one leaves, and fails in front of a third. -/
theorem run_collect_append_style :
    let doc : Document Nat :=
      { Document.blank with
        evaluate := fun _ _ => .ok (.nodeSet [1, 2])
        style := fun _ property => property }
    let is : List Instruction := [⟨.bundle, ["//a"]⟩]
    let js : List Instruction := [⟨.style, ["color"]⟩, ⟨.layout, ["l"]⟩]
    let f : Fault := ⟨2, .layout, .layoutAtRuntime⟩
    let m : Machine Nat := .ofProgram (.ofInstructions is) .empty
    let both : Machine Nat := .ofProgram (.ofInstructions (is ++ js)) .empty
    let more : Machine Nat := .ofProgram (.ofInstructions (is ++ js ++ is)) .empty
    (m.run doc).2 = .ok .empty ∧
      (both.collect doc).2 = [.ok .empty, .ok ⟨[["color", "color"]]⟩, .error f] ∧
      (both.run doc).2 = .error f ∧ (both.run doc).1.env.visited = [1, 2] ∧
      (more.collect doc).2 = (both.collect doc).2 ∧ (more.run doc).2 = .error f ∧
      (more.run doc).1.env = (both.run doc).1.env ∧
      (more.collect doc).2.take 1 = (m.collect doc).2 := by
  intro doc is js f m both more
  have hm : (m.run doc).2 = .ok .empty := rfl
  obtain ⟨-, hok, -⟩ := run_collect_append doc is js .empty
  obtain ⟨hitems, hrun, henv⟩ := hok .empty hm
  have hboth : (both.run doc).2 = .error f := hrun
  obtain ⟨herror, -, -⟩ := run_collect_append doc (is ++ js) is .empty
  obtain ⟨hmore, hmorerun, hmoreenv⟩ := herror f hboth
  obtain ⟨-, -, htake⟩ := run_collect_append doc (is ++ js ++ is) [] .empty
  exact ⟨hm, hitems, hboth, congrArg Env.visited henv, hmore, hmorerun, hmoreenv, htake 1⟩

end Machine

end Extraction
