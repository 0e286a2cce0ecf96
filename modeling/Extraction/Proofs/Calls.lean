import Extraction.Proofs.Labels
import Extraction.Proofs.Operations

/-!
# What a run calls

Commands are called by `prompt` alone, with the top frame in front of it and the arguments behind
the name.  No instruction changes which commands there are, so that the calls of a run are those of
its executed instructions with the commands of the start, one after the other.  A name without a
command is no failure: a `prompt` fails only if it has no name at all.
-/

namespace Extraction

variable {ν : Type} {doc : Document ν}

/-! ## One instruction -/

/-- What an instruction leaves of commands and calls. -/
theorem Instruction.calls_execute (doc : Document ν) (i : Instruction) (env : Env ν)
    (stack : Stack) :
    let c := (i.directive.execute doc env stack i.args).1.context
    c.commands = env.context.commands ∧
      c.calls = env.context.calls ++ (i.call? stack env.context).toList := by
  intro c
  rw [show c = i.record stack env.context from i.context_execute env stack, i.record_eq]
  exact ⟨rfl, rfl⟩

/-- Which call an instruction makes depends on nothing but the commands. -/
theorem Instruction.call?_congr {c c' : Context} (h : c.commands = c'.commands) (i : Instruction)
    (stack : Stack) : i.call? stack c = i.call? stack c' := by
  rw [call?, call?, h]

/-! ## Runs -/

namespace Machine

variable {m : Machine ν}

theorem commands_step : (m.step doc).1.env.context.commands = m.env.context.commands := by
  rw [env_step]
  cases m.current? with
  | none => rfl
  | some i => exact (i.calls_execute doc m.env m.stack).1

@[simp] theorem commands_after (n : Nat) :
    (m.after doc n).env.context.commands = m.env.context.commands :=
  after_induction (P := fun m' => m'.env.context.commands = m.env.context.commands)
    (fun _ h => commands_step.trans h) rfl n

/-- The calls that the first instructions make. -/
def called (doc : Document ν) (m : Machine ν) (k : Nat) : List Call :=
  (List.range k).filterMap fun n =>
    m.instructions[n]?.bind fun i => i.call? (m.after doc n).stack m.env.context

theorem called_succ (k : Nat) :
    m.called doc (k + 1) = m.called doc k ++
      (m.instructions[k]?.bind fun i => i.call? (m.after doc k).stack m.env.context).toList := by
  rw [called, List.range_succ, List.filterMap_append, List.filterMap_cons, List.filterMap_nil]
  cases m.instructions[k]?.bind fun i => i.call? (m.after doc k).stack m.env.context <;> rfl

/-- The calls, as long as no instruction fails. -/
theorem calls_after (hpc : m.pc = 0) {k : Nat}
    (h : ∀ n < k, ∃ stack, m.resultAt doc n = .ok stack) :
    (m.after doc k).env.context.calls = m.env.context.calls ++ m.called doc k := by
  induction k with
  | zero => exact (List.append_nil _).symm
  | succ k ih =>
      obtain ⟨i, hget, henv⟩ := env_after_succ hpc h
      rw [henv, (i.calls_execute doc _ _).2, ih fun n hn => h n (Nat.lt_succ_of_lt hn),
        i.call?_congr (commands_after k), called_succ, hget, Option.bind_some, List.append_assoc]

/-- A run does not fail at a `prompt` that has a name, whether there is a command or not. -/
theorem not_prompt_of_run_eq_error {f : Fault} (h : (m.run doc).2 = .error f) (name : String)
    (args : List String) : m.instructions[f.index]? ≠ some ⟨.prompt, name :: args⟩ := by
  intro hi
  obtain ⟨i, hget, env, env', hfails⟩ := exists_fails_index_of_faults (run_eq_error_iff.1 h)
  obtain rfl : ⟨.prompt, name :: args⟩ = i := Option.some.inj (hi.symm.trans hget)
  generalize f.source = e at hfails
  cases hfails with
  | pattern ht => cases ht

/-- The calls of a run are those that its executed instructions make, in their order.  An
instruction makes one if it is a `prompt` and there is a command of its name: that which was
registered last and was not removed since, behind whatever was done to the context before the run.
It is given the top frame in front of the instruction, and the arguments behind the name. -/
theorem calls_run (doc : Document ν) (p : Program) (c₀ : Context)
    (ops : List Context.Operation) :
    let c := c₀.performAll ops
    let m : Machine ν := .ofProgram p c
    let final := (m.run doc).1
    (∀ n, (∃ stack, m.resultAt doc n = .ok stack) ↔ n < final.pc) ∧
      final.env.context.commands = c.commands ∧
      final.env.context.calls = c.calls ++ m.called doc final.pc ∧
      (∀ k ≤ final.pc, (m.after doc k).pc = k ∧
        (m.after doc k).env.context.calls = c.calls ++ m.called doc k) ∧
      (∀ (i : Instruction) (stack : Stack) (call : Call), i.call? stack c = some call ↔
        i.directive = .prompt ∧ call.frame = stack.top ∧
          ∃ name, i.args = name :: call.args ∧
            Context.Registered c₀ name ops (some call.tag)) ∧
      ∀ f, (m.run doc).2 = .error f →
        ∀ name args, p.instructions[f.index]? ≠ some ⟨.prompt, name :: args⟩ := by
  intro c m final
  obtain ⟨hexecuted, -, -⟩ := run_ofProgram doc p c
  have hlast : final.env.context = (m.after doc final.pc).env.context := context_run doc p c
  have hok {k : Nat} (hk : k ≤ final.pc) : ∀ n < k, ∃ stack, m.resultAt doc n = .ok stack :=
    fun n hn => (hexecuted n).2 (Nat.lt_of_lt_of_le hn hk)
  refine ⟨hexecuted, ?_, ?_, ?_, ?_, fun f => not_prompt_of_run_eq_error⟩
  · rw [hlast, commands_after]
    rfl
  · rw [hlast, calls_after rfl (hok (Nat.le_refl _))]
    rfl
  · exact fun k hk => ⟨(pc_after (hok hk)).trans (Nat.zero_add k), calls_after rfl (hok hk)⟩
  · intro i stack call
    simp only [Instruction.call?_eq_some_iff, Context.registered_iff]
    rfl

/-- Two calls of a command that was registered twice, and none of one that was removed; the last
instruction is not reached. -/
theorem calls_run_registered_twice :
    let doc : Document Unit := { Document.blank with evaluate := fun _ _ => .ok (.string "b") }
    let p : Program :=
      ⟨1.0, ["vivid", "1.0"], [⟨.follow, ["//b"]⟩, ⟨.prompt, ["print", "-v"]⟩, ⟨.prompt, ["gone"]⟩,
        ⟨.glue, ["a"]⟩, ⟨.prompt, ["print"]⟩, ⟨.layout, ["l"]⟩, ⟨.prompt, ["print"]⟩]⟩
    let ops : List Context.Operation :=
      [.register "print" "1", .register "gone" "2", .remove "gone", .register "print" "3", .reset]
    let c := Context.empty.performAll ops
    let m : Machine Unit := .ofProgram p c
    let final := (m.run doc).1
    Context.Registered .empty "print" ops (some "3") ∧ final.pc = 5 ∧
      final.env.context.calls = [⟨"3", ["b"], ["-v"]⟩, ⟨"3", ["ab"], []⟩] := by
  intro doc p ops c m final
  obtain ⟨-, -, hcalls, -, hcall, -⟩ := calls_run doc p .empty ops
  have hpc : final.pc = 5 := rfl
  have hprint : (⟨.prompt, ["print"]⟩ : Instruction).call? .empty c = some ⟨"3", [], []⟩ := by
    decide +kernel
  obtain ⟨-, -, name, hname, hregistered⟩ := (hcall _ _ _).1 hprint
  cases hname
  exact ⟨hregistered, hpc, hcalls.trans (by decide +kernel)⟩

end Machine

end Extraction
