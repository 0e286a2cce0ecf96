import Extraction.Proofs.Failure
import Extraction.Proofs.Lifecycle
import Extraction.Proofs.Record

/-!
# What a run leaves in the repository

Only `label` writes to the repository: it appends the top frame, as it is in front of it, to the
values of its name.  So the values of a label at the end of a run are those at the start, followed
by the frames that the executed instructions stored under it, in the order of the program.  An
instruction that fails stores nothing, and none behind it is executed.
-/

namespace Extraction

variable {ν : Type} {doc : Document ν}

/-! ## One instruction -/

/-- What an instruction leaves in the repository. -/
theorem Instruction.repository_execute (doc : Document ν) (i : Instruction) (env : Env ν)
    (stack : Stack) :
    (i.directive.execute doc env stack i.args).1.context.repository =
      i.label?.elim env.context.repository
        fun l => env.context.repository.append l stack.top := by
  rw [context_execute, repository_record]

/-- What an instruction makes of the values of a label. -/
theorem Instruction.get?_execute (doc : Document ν) (i : Instruction) (env : Env ν)
    (stack : Stack) (l : String) :
    (i.directive.execute doc env stack i.args).1.context.repository.get? l =
      if i.label? = some l then some ((env.context.repository.get? l).getD [] ++ stack.top)
        else env.context.repository.get? l := by
  rw [repository_execute]
  cases i.label? with
  | none => rfl
  | some name =>
      rw [Option.elim_some, Repository.get?_append]
      by_cases hl : l = name
      · subst hl
        rw [if_pos rfl, if_pos rfl]
      · rw [if_neg hl, if_neg fun h => hl (Option.some.inj h).symm]

/-! ## Runs -/

namespace Machine

variable {m : Machine ν}

/-- The frames that the first instructions store under a label. -/
def stored (doc : Document ν) (m : Machine ν) (l : String) (k : Nat) : List Frame :=
  ((List.range k).filter fun n => m.instructions[n]?.bind Instruction.label? = some l).map
    fun n => (m.after doc n).stack.top

theorem stored_succ (l : String) (k : Nat) :
    m.stored doc l (k + 1) = m.stored doc l k ++
      if m.instructions[k]?.bind Instruction.label? = some l then [(m.after doc k).stack.top]
      else [] := by
  rw [stored, List.range_succ, List.filter_append, List.map_append, List.filter_singleton]
  congr 1
  split <;> simp_all

theorem stored_ne_nil_iff {l : String} {k : Nat} :
    m.stored doc l k ≠ [] ↔
      ∃ n < k, ∃ i, m.instructions[n]? = some i ∧ i.directive = .label ∧ i.args.head? = some l := by
  simp [stored, List.filter_eq_nil_iff, Option.bind_eq_some_iff, Instruction.label?_eq_some_iff]

/-- The values of a label, as long as no instruction fails. -/
theorem get?_after (hpc : m.pc = 0) {k : Nat}
    (h : ∀ n < k, ∃ stack, m.resultAt doc n = .ok stack) (l : String) :
    (m.after doc k).env.context.repository.get? l =
      if m.stored doc l k = [] then m.env.context.repository.get? l
      else some ((m.env.context.repository.get? l).getD [] ++ (m.stored doc l k).flatten) := by
  induction k with
  | zero => rfl
  | succ k ih =>
      obtain ⟨i, hget, henv⟩ := env_after_succ hpc h
      rw [henv, i.get?_execute, ih fun n hn => h n (Nat.lt_succ_of_lt hn), stored_succ, hget,
        Option.bind_some]
      by_cases hil : i.label? = some l
      · by_cases hst : m.stored doc l k = [] <;> simp [hil, hst]
      · simp [hil]

/-- The step that ends a run leaves the context alone. -/
theorem context_run (doc : Document ν) (p : Program) (c : Context) :
    let m : Machine ν := .ofProgram p c
    let final := (m.run doc).1
    final.env.context = (m.after doc final.pc).env.context := by
  intro m final
  obtain ⟨hexecuted, hbeyond, -⟩ := run_ofProgram doc p c
  have hended : ∀ stack, m.resultAt doc final.pc ≠ .ok stack := resultAt_ne_ok hexecuted
  rw [← context_of_ended hended, ← after_succ, hbeyond _ (Nat.lt_succ_self _)]

/-- The values of a label at the end of a run. -/
theorem get?_run (doc : Document ν) (p : Program) (c : Context) (l : String) :
    let m : Machine ν := .ofProgram p c
    let final := (m.run doc).1
    final.env.context.repository.get? l =
      if m.stored doc l final.pc = [] then c.repository.get? l
      else some ((c.repository.get? l).getD [] ++ (m.stored doc l final.pc).flatten) := by
  intro m final
  have hlast : final.env.context = (m.after doc final.pc).env.context := context_run doc p c
  rw [hlast]
  exact get?_after rfl (fun n => ((run_ofProgram doc p c).1 n).2) l

/-- A run executes so many instructions, and then has none left or fails at the next one.  The
values of a label are then those at the start, and the frames that the executed instructions stored
under it; it is there if it was there at the start or one of them names it.  Steps beyond the end
change nothing. -/
theorem repository_run (doc : Document ν) (p : Program) (c : Context) :
    let m : Machine ν := .ofProgram p c
    let final := (m.run doc).1
    (∀ n, (∃ stack, m.resultAt doc n = .ok stack) ↔ n < final.pc) ∧
      (∀ n, final.pc < n → m.after doc n = final) ∧
      ((∃ stack, (m.run doc).2 = .ok stack) ∧ final.pc = p.size ∨
        ∃ f, (m.run doc).2 = .error f ∧ f.index = final.pc) ∧
      ∀ l,
        (final.env.context.repository.get? l).getD [] =
          (c.repository.get? l).getD [] ++ (m.stored doc l final.pc).flatten ∧
        ((final.env.context.repository.get? l).isSome = true ↔
          (c.repository.get? l).isSome = true ∨
            ∃ n < final.pc, ∃ i, p.instructions[n]? = some i ∧ i.directive = .label ∧
              i.args.head? = some l) := by
  intro m final
  obtain ⟨hexecuted, hbeyond, hend⟩ := run_ofProgram doc p c
  refine ⟨hexecuted, hbeyond, hend, fun l => ?_⟩
  have hget : final.env.context.repository.get? l =
      if m.stored doc l final.pc = [] then c.repository.get? l
      else some ((c.repository.get? l).getD [] ++ (m.stored doc l final.pc).flatten) :=
    get?_run doc p c l
  have hstored : m.stored doc l final.pc ≠ [] ↔
      ∃ n < final.pc, ∃ i, p.instructions[n]? = some i ∧ i.directive = .label ∧
        i.args.head? = some l := stored_ne_nil_iff
  rw [hget, ← hstored]
  by_cases hs : m.stored doc l final.pc = [] <;> simp [hs]

/-- Two frames are stored under a label with a value, and the last instruction is not reached. -/
theorem repository_run_two_frames :
    let doc : Document Unit := { Document.blank with evaluate := fun _ _ => .ok (.string "b") }
    let p : Program :=
      ⟨1.0, ["vivid", "1.0"], [⟨.follow, ["//b"]⟩, ⟨.label, ["l"]⟩, ⟨.glue, ["a"]⟩,
        ⟨.label, ["l"]⟩, ⟨.layout, ["l"]⟩, ⟨.label, ["m"]⟩]⟩
    let c : Context := Context.empty.append "l" ["x"]
    let m : Machine Unit := .ofProgram p c
    let final := (m.run doc).1
    final.pc = 4 ∧ m.after doc 9 = final ∧
      (final.env.context.repository.get? "l").getD [] = ["x", "b", "ab"] ∧
        (final.env.context.repository.get? "m").isSome = false := by
  intro doc p c m final
  obtain ⟨-, hbeyond, -, hvalues⟩ := repository_run doc p c
  have hpc : final.pc = 4 := rfl
  have hl : (c.repository.get? "l").getD [] ++ (m.stored doc "l" 4).flatten = ["x", "b", "ab"] := by
    decide +kernel
  exact ⟨hpc, hbeyond 9 (by decide), (hvalues "l").1.trans hl, by decide +kernel⟩

end Machine

end Extraction
