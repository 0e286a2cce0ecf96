import Extraction.Proofs.Record
import Extraction.Proofs.Run
import Mathlib.Data.List.Basic

/-!
# Runs do not see the context

With another context, an instruction does the same to all but the context.  So a run with another
context takes the same steps, and appends the same entries to the repository, whatever is in it and
whichever commands there are.

A context can therefore be handed from run to run.  Each of them appends to the repository what it
would leave in a fresh one.
-/

namespace Extraction

variable {ν : Type} {doc : Document ν}

/-- Under which label an instruction appends to the repository, and what. -/
def Instruction.appended? (i : Instruction) (stack : Stack) : Option (String × Frame) :=
  i.label?.map fun l => (l, stack.top)

/-! ## Repositories -/

namespace Repository

/-- Appends the values of one entry after the other. -/
def appendAll (r : Repository) (entries : List (String × Frame)) : Repository :=
  entries.foldl (fun r e => r.append e.1 e.2) r

theorem appendAll_append (r : Repository) (es es' : List (String × Frame)) :
    r.appendAll (es ++ es') = (r.appendAll es).appendAll es' :=
  List.foldl_append

/-- The values of a label are those that it had, and those appended under it. -/
theorem getD_get?_appendAll (r : Repository) (es : List (String × Frame)) (l : String) :
    ((r.appendAll es).get? l).getD [] =
      (r.get? l).getD [] ++ (es.filter fun e => e.1 = l).flatMap Prod.snd := by
  induction es generalizing r with
  | nil => simp [appendAll]
  | cons e es ih =>
      rw [show r.appendAll (e :: es) = (r.append e.1 e.2).appendAll es from rfl, ih, get?_append]
      by_cases hl : l = e.1
      · simp [hl]
      · simp [hl, Ne.symm hl]

/-- A label is there if it was, or if something was appended under it. -/
theorem isSome_get?_appendAll (r : Repository) (es : List (String × Frame)) (l : String) :
    ((r.appendAll es).get? l).isSome = true ↔ (r.get? l).isSome = true ∨ ∃ e ∈ es, e.1 = l := by
  induction es generalizing r with
  | nil => simp [appendAll]
  | cons e es ih =>
      rw [show r.appendAll (e :: es) = (r.append e.1 e.2).appendAll es from rfl, ih, get?_append]
      by_cases hl : l = e.1
      · simp [hl]
      · simp [hl, Ne.symm hl]

end Repository

/-- The entry of an instruction is all that it makes of a repository. -/
theorem Instruction.appendAll_appended? (i : Instruction) (stack : Stack) (c : Context) :
    (i.record stack c).repository = c.repository.appendAll (i.appended? stack).toList := by
  rw [repository_record, appended?]
  cases i.label? <;> rfl

namespace Machine

variable {m : Machine ν}

/-! ## Steps -/

/-- The machine with another context. -/
def withContext (m : Machine ν) (c : Context) : Machine ν := { m with env := m.env.withContext c }

/-- What the next step makes of a context. -/
def record (m : Machine ν) (c : Context) : Context :=
  m.current?.elim c fun i => i.record m.stack c

/-- With another context, a step does the same to all but the context. -/
theorem step_withContext (m : Machine ν) (c : Context) :
    (m.withContext c).step doc = ((m.step doc).1.withContext (m.record c), (m.step doc).2) := by
  obtain ⟨hi, hs⟩ | ⟨i, hi, hx⟩ := step_cases doc m
  · rw [hs, record, hi, step, show (m.withContext c).current? = none from hi]
    rfl
  · have hexecute := i.execute_withContext doc m.env m.stack c
    have hi' : (m.withContext c).current? = some i := hi
    rw [record, hi]
    obtain ⟨env, stack, hx, hs⟩ | ⟨env, e, hx, hs⟩ := hx
    · rw [hx] at hexecute
      rw [hs, step_of_execute_ok hi' hexecute]
      rfl
    · rw [hx] at hexecute
      rw [hs, step_of_execute_error hi' hexecute]
      rfl

/-! ## Runs -/

/-- What the first steps of a run make of a context. -/
def recordFor (doc : Document ν) (m : Machine ν) (c : Context) : Nat → Context
  | 0 => c
  | n + 1 => (m.after doc n).record (m.recordFor doc c n)

/-- With another context, a run does the same to all but the context. -/
theorem after_withContext (m : Machine ν) (c : Context) (n : Nat) :
    (m.withContext c).after doc n = (m.after doc n).withContext (m.recordFor doc c n) := by
  induction n with
  | zero => rfl
  | succ n ih =>
      rw [after_succ, after_succ, ih, step_withContext]
      rfl

theorem resultAt_withContext (m : Machine ν) (c : Context) (n : Nat) :
    (m.withContext c).resultAt doc n = m.resultAt doc n := by
  rw [resultAt, resultAt, after_withContext, step_withContext]

/-- With another context, a run comes to the same end. -/
theorem runFor_withContext (m : Machine ν) (c : Context) (n : Nat) :
    ((m.withContext c).runFor doc n).2 = (m.runFor doc n).2 := by
  induction n generalizing m c with
  | zero => rfl
  | succ n ih =>
      rw [runFor, runFor, step_withContext]
      cases m.step doc with
      | mk m' r =>
          cases r with
          | ok stack => exact ih m' _
          | done | fault => rfl

/-- The entry that the next step appends to the repository. -/
def appended? (m : Machine ν) : Option (String × Frame) :=
  m.current?.bind fun i => i.appended? m.stack

/-- The entries that the first steps of a run append to the repository. -/
def entries (doc : Document ν) (n : Nat) (m : Machine ν) : List (String × Frame) :=
  (List.range n).filterMap fun k => (m.after doc k).appended?

theorem repository_recordFor (m : Machine ν) (c : Context) (n : Nat) :
    (m.recordFor doc c n).repository = c.repository.appendAll (m.entries doc n) := by
  induction n with
  | zero => rfl
  | succ n ih =>
      have hrecord (c : Context) : ((m.after doc n).record c).repository =
          c.repository.appendAll (m.after doc n).appended?.toList := by
        rw [record, appended?]
        cases (m.after doc n).current? with
        | none => rfl
        | some i => exact i.appendAll_appended? _ _
      rw [recordFor, hrecord, ih, ← Repository.appendAll_append, entries, entries,
        List.range_succ, List.filterMap_append]
      congr 2

/-- Whatever the context, a run appends the same entries to the repository. -/
theorem repository_after_withContext (m : Machine ν) (c : Context) (n : Nat) :
    ((m.withContext c).after doc n).env.context.repository =
      c.repository.appendAll (m.entries doc n) := by
  rw [after_withContext, ← repository_recordFor]
  rfl

end Machine

/-! ## Runs on one context -/

/-- A program, and the document to run it on. -/
structure Job where
  Node : Type
  doc : Document Node
  program : Program

namespace Job

/-- The context that a run leaves. -/
def run (j : Job) (c : Context) : Context :=
  ((Machine.ofProgram j.program c).run j.doc).1.env.context

/-- What a run leaves in the repository of a fresh context. -/
def contribution (j : Job) : Repository := (j.run .empty).repository

/-- A run appends the same entries to any repository. -/
theorem exists_entries (j : Job) :
    ∃ es, ∀ c, (j.run c).repository = c.repository.appendAll es := by
  let m : Machine j.Node := .ofProgram j.program .empty
  refine ⟨m.entries j.doc (j.program.size + 1), fun c => ?_⟩
  rw [← Machine.repository_after_withContext]
  exact congrArg (fun m => m.env.context.repository) (Machine.runFor_fst j.doc (m.withContext c) _)

/-- A run appends its contribution to the values of each label. -/
theorem get?_run (j : Job) (c : Context) (l : String) :
    (((j.run c).repository.get? l).getD [] =
        (c.repository.get? l).getD [] ++ (j.contribution.get? l).getD []) ∧
      (((j.run c).repository.get? l).isSome = true ↔
        (c.repository.get? l).isSome = true ∨ (j.contribution.get? l).isSome = true) := by
  obtain ⟨es, hes⟩ := j.exists_entries
  have hempty : (Context.empty.repository.get? l) = none := rfl
  rw [contribution, hes, hes]
  constructor
  · rw [Repository.getD_get?_appendAll, Repository.getD_get?_appendAll, hempty]
    rfl
  · rw [Repository.isSome_get?_appendAll, Repository.isSome_get?_appendAll, hempty]
    simp

/-- Runs on one context append their contributions in the order in which they are made. -/
theorem get?_runs (jobs : List Job) (c : Context) (l : String) :
    let final := (jobs.foldl (fun c j => j.run c) c).repository
    ((final.get? l).getD [] =
        (c.repository.get? l).getD [] ++ jobs.flatMap fun j => (j.contribution.get? l).getD []) ∧
      ((final.get? l).isSome = true ↔
        (c.repository.get? l).isSome = true ∨
          ∃ j ∈ jobs, (j.contribution.get? l).isSome = true) := by
  induction jobs generalizing c with
  | nil => simp
  | cons j jobs ih =>
      obtain ⟨hvalues, hthere⟩ := ih (j.run c)
      obtain ⟨hvalues', hthere'⟩ := j.get?_run c l
      constructor
      · rw [List.foldl_cons, hvalues, hvalues', List.append_assoc, List.flatMap_cons]
      · rw [List.foldl_cons, hthere, hthere', List.exists_mem_cons_iff, or_assoc]

end Job

/-- Two runs of a program that differ in nothing but the context at the start take the same steps,
with the same results and in the same scopes, and append the same entries to the repository.  So
runs on one context leave in its repository what was there, and behind that, in the order of the
runs, what each of them would leave in a fresh one. -/
theorem run_ignores_context :
    (∀ {ν : Type} (doc : Document ν) (p : Program) (c c' : Context),
      let m : Machine ν := .ofProgram p c
      let m' : Machine ν := .ofProgram p c'
      (∀ n, m'.resultAt doc n = m.resultAt doc n ∧
        (m'.after doc n).env.scope = (m.after doc n).env.scope ∧
        (m.after doc n).env.context.repository = c.repository.appendAll (m.entries doc n) ∧
        (m'.after doc n).env.context.repository = c'.repository.appendAll (m.entries doc n)) ∧
      (m'.run doc).2 = (m.run doc).2) ∧
    ∀ (jobs : List Job) (c : Context) (l : String),
      let final := (jobs.foldl (fun c j => j.run c) c).repository
      ((final.get? l).getD [] =
          (c.repository.get? l).getD [] ++ jobs.flatMap fun j => (j.contribution.get? l).getD []) ∧
        ((final.get? l).isSome = true ↔
          (c.repository.get? l).isSome = true ∨
            ∃ j ∈ jobs, (j.contribution.get? l).isSome = true) := by
  constructor
  · intro ν doc p c c' m m'
    constructor
    · intro n
      refine ⟨m.resultAt_withContext c' n, ?_, m.repository_after_withContext c n,
        m.repository_after_withContext c' n⟩
      exact congrArg (fun m => m.env.scope) (m.after_withContext c' n)
    · exact m.runFor_withContext c' _
  · intro jobs c l
    exact Job.get?_runs jobs c l

end Extraction
