import Extraction.Machine.Handler
import Extraction.Proofs.Basic

/-!
# What executing a directive comes to

The directives fall into families: those that change the strings of the top frame, those that push
what a query gives, and those that only have side effects.  For each family, one lemma says what is
there where it succeeds.  That what succeeds was given enough arguments, and that the stack grows
as the table of directives has it, is then read off directive by directive.
-/

namespace Extraction

variable {ν : Type} {doc : Document ν} {env env' : Env ν} {stack stack' : Stack}
variable {args : List String} {e : RuntimeError}

/-! ## Arguments -/

theorem arg_zero_eq_ok_iff {a : String} : arg args 0 = .ok a ↔ args.head? = some a := by
  cases args with
  | nil => exact iff_of_false nofun nofun
  | cons b args => simp [arg]

theorem arg_zero_eq_error_iff : arg args 0 = .error e ↔ args = [] ∧ e = .missingArgument 0 := by
  cases args with
  | nil => simp [arg, eq_comm]
  | cons b args => exact iff_of_false nofun nofun

theorem exists_arg_zero_iff : (∃ a, arg args 0 = .ok a) ↔ args ≠ [] := by
  simp only [arg_zero_eq_ok_iff]
  rw [← Option.isSome_iff_exists, List.isSome_head?]

theorem patternArg_eq_error_iff : patternArg args = .error e ↔
    args = [] ∧ e = .missingArgument 0 ∨
      ∃ text cause, args.head? = some text ∧ Pattern.ofString text = .error cause ∧
        e = .invalidPattern text cause := by
  cases args with
  | nil => simp [patternArg, arg, eq_comm]
  | cons text args =>
      cases hp : Pattern.ofString text with
      | ok p => simp [patternArg, arg, hp]
      | error cause => simp [patternArg, arg, hp, eq_comm]

/-! ## Changes of the top frame -/

/-- What a change makes of a frame. -/
def FrameChange.apply : FrameChange → Frame → Frame
  | .map f, frame => frame.map f
  | .filter p, frame => frame.filter p

theorem FrameChange.push_eq (c : FrameChange) (stack : Stack) :
    c.push stack = stack.push (c.apply stack.top) := by
  cases c <;> rfl

/-- A change that can be made goes on top of the stack, and touches nothing else. -/
theorem changeTop_eq_ok_iff {change : Except RuntimeError FrameChange} :
    changeTop change env stack = (env', .ok stack') ↔
      env' = env ∧ ∃ c, change = .ok c ∧ stack' = stack.push (c.apply stack.top) := by
  rw [changeTop, Prod.mk.injEq, map_eq_ok_iff, eq_comm]
  simp only [FrameChange.push_eq, eq_comm]

namespace Directive

/-- The directives whose first argument is a pattern. -/
def takesPattern : Directive → Bool
  | .drop | .extract | .keep | .replace => true
  | _ => false

/-- The arguments are enough for a directive, and the first is a pattern where one is needed. -/
def Accepts (args : List String) (d : Directive) : Prop :=
  if d.takesPattern then ∃ p, patternArg args = .ok p else args ≠ []

/-- The change that a directive makes to the top frame, if that is all it does. -/
def frameChange? (args : List String) : Directive → Option (Except RuntimeError FrameChange)
  | .drop => some (FrameChange.drop args)
  | .extract => some (FrameChange.extract args)
  | .glue => some (FrameChange.glue args)
  | .insert => some (FrameChange.insert args)
  | .keep => some (FrameChange.keep args)
  | .remove => some (FrameChange.remove args)
  | .replace => some (FrameChange.replace args)
  | _ => none

variable {d : Directive} {change : Except RuntimeError FrameChange}

theorem execute_of_frameChange? (h : d.frameChange? args = some change) :
    d.execute doc env stack args = changeTop change env stack := by
  cases d <;> cases h <;> rfl

/-- A change fails as its first argument does. -/
theorem frameChange?_eq_error_iff (h : d.frameChange? args = some change) :
    change = .error e ↔ if d.takesPattern then patternArg args = .error e
      else arg args 0 = .error e := by
  cases d <;> cases h <;> exact map_eq_error_iff

/-- A change can be made exactly if the arguments are accepted. -/
theorem exists_frameChange?_eq_ok_iff (h : d.frameChange? args = some change) :
    (∃ c, change = .ok c) ↔ d.Accepts args := by
  have hpat {f : Pattern → FrameChange} :
      (∃ c, (patternArg args).map f = .ok c) ↔ ∃ p, patternArg args = .ok p := exists_map_eq_ok_iff
  have htext {f : String → FrameChange} :
      (∃ c, (arg args 0).map f = .ok c) ↔ args ≠ [] := by
    rw [exists_map_eq_ok_iff, exists_arg_zero_iff]
  cases d with
  | drop | extract | keep | replace =>
      cases h
      exact hpat
  | glue | insert | remove =>
      cases h
      exact htext
  | bundle | follow | label | layout | prompt | select | style => cases h

end Directive

/-! ## Queries -/

namespace Env

variable {query : String → Visit ν}

theorem pushVisit_eq_ok_iff :
    pushVisit query env stack args = (env', .ok stack') ↔
      ∃ text frame, args.head? = some text ∧ (query text).2 = .ok frame ∧
        env' = { env with visited := (query text).1 } ∧ stack' = stack.push frame := by
  cases args with
  | nil => exact iff_of_false nofun (by rintro ⟨_, _, h, -⟩; cases h)
  | cons text args =>
      simp only [pushVisit, arg, List.getElem?_cons_zero, List.head?_cons, Option.some.injEq,
        Prod.mk.injEq, map_eq_ok_iff]
      constructor
      · rintro ⟨rfl, frame, hf, rfl⟩
        exact ⟨text, frame, rfl, hf, rfl, rfl⟩
      · rintro ⟨_, frame, rfl, hf, rfl, rfl⟩
        exact ⟨rfl, frame, hf, rfl⟩

/-! ## Scope, style and side effects -/

/-- The argument lifts the scope, or is an xpath with nodes for it. -/
theorem bundle_eq_ok_iff : bundle doc env stack args = (env', .ok stack') ↔
    stack' = stack ∧ ∃ xpath, args.head? = some xpath ∧
      (xpath = clearScope ∧ env' = { env with scope := none } ∨
        xpath ≠ clearScope ∧ ∃ r ns, doc.evaluate xpath none = .ok r ∧ r.nodes? = some ns ∧
          env' = { env with scope := some ns, visited := ns }) := by
  cases args with
  | nil => exact iff_of_false nofun (by rintro ⟨-, _, h, -⟩; cases h)
  | cons xpath args =>
      simp only [bundle, arg, List.getElem?_cons_zero, List.head?_cons, Option.some.injEq,
        exists_eq_left']
      by_cases hx : xpath = clearScope
      · simp [hx, eq_comm, and_comm]
      · rw [if_neg hx]
        cases hr : doc.evaluate xpath none with
        | error cause => simp [hx]
        | ok r => cases hn : r.nodes? <;> simp [hx, hn, eq_comm, and_comm]

/-- The scope changes, the stack does not. -/
theorem bundle_eq_ok (h : bundle doc env stack args = (env', .ok stack')) :
    args ≠ [] ∧ stack' = stack := by
  obtain ⟨hs, xpath, hx, -⟩ := bundle_eq_ok_iff.1 h
  exact ⟨List.ne_nil_of_mem (List.mem_of_mem_head? hx), hs⟩

theorem style_eq_ok (h : style doc env stack args = (env', .ok stack')) :
    args ≠ [] ∧ ∃ frame, stack' = stack.push frame := by
  cases args with
  | nil => cases h
  | cons property args =>
      cases h
      exact ⟨List.cons_ne_nil _ _, _, rfl⟩

theorem label_eq_ok (h : label env stack args = (env', .ok stack')) :
    args ≠ [] ∧ stack' = stack := by
  cases args with
  | nil => cases h
  | cons name args =>
      cases h
      exact ⟨List.cons_ne_nil _ _, rfl⟩

theorem prompt_eq_ok (h : prompt env stack args = (env', .ok stack')) :
    args ≠ [] ∧ stack' = stack := by
  cases args with
  | nil => cases h
  | cons name args =>
      cases h
      exact ⟨List.cons_ne_nil _ _, rfl⟩

end Env

/-! ## All directives -/

namespace Directive

variable {d : Directive}

/-- What a directive leaves of the stack: one frame more, or all as it was. -/
def Extends (d : Directive) (stack stack' : Stack) : Prop :=
  if d.producesFrame then ∃ frame, stack' = stack.push frame else stack' = stack

/-- What succeeds was given enough arguments, and leaves what the table of directives says. -/
theorem execute_eq_ok (h : d.execute doc env stack args = (env', .ok stack')) :
    d ≠ .layout ∧ d.Accepts args ∧ d.Extends stack stack' := by
  have hchange {change : Except RuntimeError FrameChange} (hd : d.frameChange? args = some change) :
      d.Accepts args ∧ ∃ frame, stack' = stack.push frame := by
    rw [execute_of_frameChange? hd, changeTop_eq_ok_iff] at h
    obtain ⟨-, c, hc, hs⟩ := h
    exact ⟨(exists_frameChange?_eq_ok_iff hd).1 ⟨c, hc⟩, _, hs⟩
  have hvisit {query : String → Visit ν}
      (h : Env.pushVisit query env stack args = (env', .ok stack')) :
      args ≠ [] ∧ ∃ frame, stack' = stack.push frame := by
    obtain ⟨text, frame, ht, -, -, hs⟩ := Env.pushVisit_eq_ok_iff.1 h
    exact ⟨List.ne_nil_of_mem (List.mem_of_mem_head? ht), frame, hs⟩
  cases d with
  | drop | extract | glue | insert | keep | remove | replace => exact ⟨nofun, hchange rfl⟩
  | follow | select => exact ⟨nofun, hvisit h⟩
  | bundle => exact ⟨nofun, Env.bundle_eq_ok h⟩
  | label => exact ⟨nofun, Env.label_eq_ok h⟩
  | prompt => exact ⟨nofun, Env.prompt_eq_ok h⟩
  | style => exact ⟨nofun, Env.style_eq_ok h⟩
  | layout => cases h

end Directive

/-! ## A document that answers every query -/

/-- A document without nodes. -/
def Document.blank : Document ν where
  evaluate _ _ := .ok (.nodeSet [])
  selectAll _ _ := .ok []
  text? _ := none
  style _ _ := ""

end Extraction
