import Extraction.Context
import Extraction.Proofs.Basic

/-!
# Operations on a context

What a host does to a context between runs, in any order.  Commands are changed one name at a time:
a name has the command that was registered last under it, unless that was removed since.
-/

namespace Extraction.Context

inductive Operation where
  | append (label : String) (values : List String)
  | clear
  | reset
  | register (name tag : String)
  | remove (name : String)
  | call (name : String) (frame : Frame) (args : List String)
deriving DecidableEq, Repr

def perform (c : Context) : Operation → Context
  | .append label values => c.append label values
  | .clear => { c with repository := c.repository.clear }
  | .reset => c.reset
  | .register name tag => c.register name tag
  | .remove name => (c.remove name).1
  | .call name frame args => (c.call name frame args).1

/-- Performs operations, the first one first. -/
def performAll (c : Context) (ops : List Operation) : Context := ops.foldl perform c

variable {c : Context} {name tag : String} {ops front behind : List Operation} {o : Operation}
variable {tag? : Option String}

theorem performAll_append : c.performAll (front ++ behind) = (c.performAll front).performAll behind :=
  List.foldl_append

theorem performAll_cons : c.performAll (o :: ops) = (c.perform o).performAll ops := rfl

/-! ## Commands -/

/-- The name whose command an operation changes. -/
def Operation.command? : Operation → Option String
  | .register name _ | .remove name => some name
  | .append .. | .clear | .reset | .call .. => none

/-- None of the operations changes the command of a name. -/
def Leaves (name : String) (ops : List Operation) : Prop := ∀ o ∈ ops, o.command? ≠ some name

/-- The command of a name behind operations: the one registered last, none if it was removed since,
and what there was at the start if the operations leave it. -/
inductive Registered (c : Context) (name : String) : List Operation → Option String → Prop
  | start {ops : List Operation} : Leaves name ops →
      Registered c name ops (c.commands.lookup name)
  | registered {front behind : List Operation} {tag : String} : Leaves name behind →
      Registered c name (front ++ .register name tag :: behind) (some tag)
  | removed {front behind : List Operation} : Leaves name behind →
      Registered c name (front ++ .remove name :: behind) none

theorem lookup_register (c : Context) (name tag other : String) :
    (c.register name tag).commands.lookup other =
      if other = name then some tag else c.commands.lookup other :=
  lookup_cons_filter_ne name tag c.commands other

theorem lookup_remove (c : Context) (name other : String) :
    (c.remove name).1.commands.lookup other =
      if other = name then none else c.commands.lookup other :=
  lookup_filter_ne name c.commands other

theorem lookup_perform (h : o.command? ≠ some name) :
    (c.perform o).commands.lookup name = c.commands.lookup name := by
  cases o with
  | append | clear | reset => rfl
  | call => rw [perform, call_eq]
  | register other tag =>
      rw [perform, lookup_register, if_neg fun hn => h (congrArg some hn.symm)]
  | remove other => rw [perform, lookup_remove, if_neg fun hn => h (congrArg some hn.symm)]

theorem lookup_performAll (h : Leaves name ops) :
    (c.performAll ops).commands.lookup name = c.commands.lookup name := by
  induction ops generalizing c with
  | nil => rfl
  | cons o ops ih =>
      obtain ⟨ho, hops⟩ := List.forall_mem_cons.1 h
      rw [performAll_cons, ih hops, lookup_perform ho]

theorem Registered.lookup_eq (h : Registered c name ops tag?) :
    (c.performAll ops).commands.lookup name = tag? := by
  cases h with
  | start h => exact lookup_performAll h
  | registered h =>
      rw [performAll_append, performAll_cons, lookup_performAll h, perform, lookup_register,
        if_pos rfl]
  | removed h =>
      rw [performAll_append, performAll_cons, lookup_performAll h, perform, lookup_remove,
        if_pos rfl]

/-- An operation in front of others is not the last one about a name if one of them is. -/
theorem Registered.cons (h : Registered c name ops tag?) (hops : ¬ Leaves name ops) :
    Registered c name (o :: ops) tag? := by
  cases h with
  | start h => exact absurd h hops
  | registered h =>
      rw [← List.cons_append]
      exact .registered h
  | removed h =>
      rw [← List.cons_append]
      exact .removed h

theorem exists_registered (c : Context) (name : String) (ops : List Operation) :
    ∃ tag?, Registered c name ops tag? := by
  induction ops with
  | nil => exact ⟨_, .start nofun⟩
  | cons o ops ih =>
      by_cases hops : Leaves name ops
      case neg =>
        obtain ⟨tag?, h⟩ := ih
        exact ⟨tag?, h.cons hops⟩
      by_cases ho : o.command? = some name
      case neg => exact ⟨_, .start (List.forall_mem_cons.2 ⟨ho, hops⟩)⟩
      cases o with
      | append | clear | reset | call => cases ho
      | register other tag =>
          cases ho
          rw [← List.nil_append (_ :: ops)]
          exact ⟨some tag, .registered hops⟩
      | remove other =>
          cases ho
          rw [← List.nil_append (_ :: ops)]
          exact ⟨none, .removed hops⟩

/-- What is registered under a name in the end is told by the last operation about it. -/
theorem registered_iff :
    Registered c name ops tag? ↔ (c.performAll ops).commands.lookup name = tag? := by
  refine ⟨Registered.lookup_eq, ?_⟩
  rintro rfl
  obtain ⟨tag?, h⟩ := exists_registered c name ops
  rwa [h.lookup_eq]

end Extraction.Context
