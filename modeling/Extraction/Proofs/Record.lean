import Extraction.Instruction
import Extraction.Machine.Handler

/-!
# What instructions make of the context

Instructions write to the context, but none reads from it: neither what the repository holds nor
which commands there are.  What an instruction makes of a context is `Instruction.record`, which
depends on the stack in front of it alone; `Instruction.execute_withContext` says that nothing else
depends on the context.  `Instruction.record_eq` takes what is made of it apart: one label at most
gets values, and one call at most is new.
-/

namespace Extraction

variable {ν : Type} {doc : Document ν}

/-- The environment with another context. -/
def Env.withContext (env : Env ν) (c : Context) : Env ν := { env with context := c }

/-- What an instruction makes of a context, with the stack in front of it. -/
def Instruction.record (i : Instruction) (stack : Stack) (c : Context) : Context :=
  match i.directive, i.args with
  | .label, name :: _ => c.append name stack.top
  | .prompt, name :: args => (c.call name stack.top args).1
  | _, _ => c

/-- With another context, an instruction does the same to all but the context. -/
theorem Instruction.execute_withContext (doc : Document ν) (i : Instruction) (env : Env ν)
    (stack : Stack) (c : Context) :
    i.directive.execute doc (env.withContext c) stack i.args =
      ((i.directive.execute doc env stack i.args).1.withContext (i.record stack c),
        (i.directive.execute doc env stack i.args).2) := by
  obtain ⟨d, args⟩ := i
  cases d with
  | drop | extract | glue | insert | keep | layout | remove | replace => rfl
  | follow | label | prompt | select | style => cases args <;> rfl
  | bundle =>
      cases args with
      | nil => rfl
      | cons xpath args =>
          simp only [Directive.execute, Env.bundle, arg, List.getElem?_cons_zero]
          split
          · rfl
          · cases doc.evaluate xpath none with
            | error cause => rfl
            | ok r => cases hr : r.nodes? <;> simp only [hr] <;> rfl

/-- What becomes of the context that there is. -/
theorem Instruction.context_execute (i : Instruction) (env : Env ν) (stack : Stack) :
    (i.directive.execute doc env stack i.args).1.context = i.record stack env.context :=
  congrArg (fun o => o.1.context) (i.execute_withContext doc env stack env.context)

/-! ## What is written -/

/-- The label under which an instruction stores the top frame. -/
def Instruction.label? (i : Instruction) : Option String :=
  if i.directive = .label then i.args.head? else none

theorem Instruction.label?_eq_some_iff {i : Instruction} {l : String} :
    i.label? = some l ↔ i.directive = .label ∧ i.args.head? = some l := by
  rw [label?]
  split
  case isTrue h => exact (and_iff_right h).symm
  case isFalse h => exact iff_of_false nofun fun hl => h hl.1

/-- The call that an instruction makes, if there is a command of that name. -/
def Instruction.call? (i : Instruction) (stack : Stack) (c : Context) : Option Call :=
  match i.directive, i.args with
  | .prompt, name :: args => (c.commands.lookup name).map fun tag => ⟨tag, stack.top, args⟩
  | _, _ => none

theorem Instruction.call?_eq_some_iff {i : Instruction} {stack : Stack} {c : Context}
    {call : Call} :
    i.call? stack c = some call ↔ i.directive = .prompt ∧ call.frame = stack.top ∧
      ∃ name, i.args = name :: call.args ∧ c.commands.lookup name = some call.tag := by
  obtain ⟨d, args⟩ := i
  obtain ⟨tag, frame, rest⟩ := call
  cases d with
  | prompt =>
      cases args with
      | nil => simp [call?]
      | cons name args =>
          simp only [call?, Option.map_eq_some_iff, Call.mk.injEq, List.cons.injEq]
          grind
  | bundle | drop | extract | follow | glue | insert | keep | label | layout | remove | replace
  | select | style => exact iff_of_false nofun nofun

/-- Only `label` writes to the repository, only `prompt` makes a call, and no instruction changes
which commands there are. -/
theorem Instruction.record_eq (i : Instruction) (stack : Stack) (c : Context) :
    i.record stack c =
      { repository := i.label?.elim c.repository fun l => c.repository.append l stack.top
        commands := c.commands
        calls := c.calls ++ (i.call? stack c).toList } := by
  have hsame : c = { c with calls := c.calls ++ [] } := by rw [List.append_nil]
  obtain ⟨d, args⟩ := i
  cases d with
  | label =>
      cases args with
      | nil => exact hsame
      | cons name args => exact congrArg (Context.append · name stack.top) hsame
  | prompt =>
      cases args with
      | nil => exact hsame
      | cons name args => exact c.call_eq name stack.top args
  | bundle | drop | extract | follow | glue | insert | keep | layout | remove | replace | select
  | style => exact hsame

theorem Instruction.repository_record (i : Instruction) (stack : Stack) (c : Context) :
    (i.record stack c).repository =
      i.label?.elim c.repository fun l => c.repository.append l stack.top := by
  rw [record_eq]

end Extraction
