import Extraction.Proofs.Execution
import Extraction.Proofs.Run

/-!
# The memory of a run

The stack is append-only.  An instruction leaves the stack as it is or puts one frame on top of it,
and the table of directives tells which; so the stacks of a run are prefixes of each other, and
their sizes count the instructions that produce a frame.
-/

namespace Extraction

variable {ν : Type}

theorem Directive.Extends.prefix_frames {d : Directive} {stack stack' : Stack}
    (h : d.Extends stack stack') : stack.frames <+: stack'.frames := by
  unfold Extends at h
  split at h
  · obtain ⟨frame, rfl⟩ := h
    exact List.prefix_append _ _
  · exact h ▸ List.prefix_rfl

/-- The table of directives counts the frames. -/
theorem Directive.Extends.size_eq {d : Directive} {stack stack' : Stack}
    (h : d.Extends stack stack') :
    stack'.size = stack.size + if d.producesFrame then 1 else 0 := by
  unfold Extends at h
  split at h
  case isTrue hd =>
    obtain ⟨frame, rfl⟩ := h
    rw [if_pos hd, Stack.size_push]
  case isFalse hd => rw [if_neg hd, h, Nat.add_zero]

namespace Machine

variable {doc : Document ν} {m : Machine ν}

/-! ## One step -/

/-- A step leaves the frames that are there alone. -/
theorem prefix_step : m.stack.frames <+: (m.step doc).1.stack.frames := by
  obtain ⟨-, hs⟩ | ⟨i, env, hx, -⟩ := executed_step doc m
  · exact hs ▸ List.prefix_rfl
  · exact (Directive.execute_eq_ok hx).2.2.prefix_frames

/-- The frames of the stack are those of the instructions executed so far. -/
def Counted (m : Machine ν) : Prop :=
  m.stack.size = m.executed.countP fun i => i.directive.producesFrame

theorem Counted.step (h : m.Counted) : (m.step doc).1.Counted := by
  obtain ⟨he, hs⟩ | ⟨i, env, hx, he⟩ := executed_step doc m
  · rwa [Counted, he, hs]
  · rw [Counted, (Directive.execute_eq_ok hx).2.2.size_eq, h, he, List.countP_append,
      List.countP_singleton]

/-! ## A whole run -/

theorem prefix_after {i j : Nat} (h : i ≤ j) :
    (m.after doc i).stack.frames <+: (m.after doc j).stack.frames := by
  induction h with
  | refl => exact List.prefix_rfl
  | step _ ih =>
      rw [after_succ]
      exact ih.trans prefix_step

theorem Counted.after (h : m.Counted) (n : Nat) : (m.after doc n).Counted :=
  after_induction (fun _ => Counted.step) h n

/-- The stack is append-only.  What a directive does to it is what the table of directives says, a
stack of a run starts with the stacks before it, and it has a frame for each instruction executed
so far that produces one. -/
theorem stack_grows (doc : Document ν) :
    (∀ (d : Directive) (env env' : Env ν) (stack stack' : Stack) (args : List String),
      d.execute doc env stack args = (env', .ok stack') →
        d ≠ .layout ∧ if d.producesFrame then ∃ frame, stack' = stack.push frame
          else stack' = stack) ∧
    ∀ (p : Program) (c : Context),
      let m : Machine ν := .ofProgram p c
      (∀ i j s t, i ≤ j → m.resultAt doc i = .ok s → m.resultAt doc j = .ok t →
        s.frames <+: t.frames) ∧
      ∀ k, (∀ i < k, ∃ s, m.resultAt doc i = .ok s) →
        (m.after doc k).stack.size =
          (p.instructions.take k).countP fun i => i.directive.producesFrame := by
  constructor
  · intro d env env' stack stack' args h
    obtain ⟨hd, -, hs⟩ := Directive.execute_eq_ok h
    exact ⟨hd, hs⟩
  · intro p c m
    constructor
    · intro i j s t hij hi hj
      rw [← (step_eq_ok hi).1, ← (step_eq_ok hj).1, ← after_succ, ← after_succ]
      exact prefix_after (Nat.succ_le_succ hij)
    · intro k hk
      have hm : m.Counted := rfl
      have hpc : m.pc = 0 := rfl
      rw [hm.after k, executed, instructions_after, pc_after hk, hpc, Nat.zero_add]
      rfl

/-- Of three instructions, the second has only a side effect. -/
theorem stack_grows_follow_label_glue :
    let doc : Document Unit := { Document.blank with evaluate := fun _ _ => .ok (.string "b") }
    let p : Program :=
      ⟨1.0, ["vivid", "1.0"], [⟨.follow, ["//b"]⟩, ⟨.label, ["l"]⟩, ⟨.glue, ["a"]⟩]⟩
    let m : Machine Unit := .ofProgram p .empty
    (∃ env stack, Directive.label.execute doc m.env ⟨[["b"]]⟩ ["l"] = (env, .ok stack) ∧
      stack = ⟨[["b"]]⟩) ∧
    m.resultAt doc 1 = .ok ⟨[["b"]]⟩ ∧ m.resultAt doc 2 = .ok ⟨[["b"], ["ab"]]⟩ ∧
      [["b"]] <+: [["b"], ["ab"]] ∧ (m.after doc 3).stack.size = 2 := by
  intro doc p m
  obtain ⟨hexecute, hrun⟩ := stack_grows doc
  obtain ⟨hstart, hsize⟩ := hrun p .empty
  have h0 : m.resultAt doc 0 = .ok ⟨[["b"]]⟩ := by rfl
  have h1 : m.resultAt doc 1 = .ok ⟨[["b"]]⟩ := by rfl
  have h2 : m.resultAt doc 2 = .ok ⟨[["b"], ["ab"]]⟩ := by rfl
  have hok : ∀ i < 3, ∃ s, m.resultAt doc i = .ok s
    | 0, _ => ⟨_, h0⟩
    | 1, _ => ⟨_, h1⟩
    | 2, _ => ⟨_, h2⟩
  have hlabel : Directive.label.execute doc m.env ⟨[["b"]]⟩ ["l"] =
      ({ m.env with context := m.env.context.append "l" ["b"] }, .ok ⟨[["b"]]⟩) := rfl
  exact ⟨⟨_, _, hlabel, (hexecute _ _ _ _ _ _ hlabel).2⟩, h1, h2,
    hstart 1 2 _ _ (by decide) h1 h2, hsize 3 hok⟩

end Machine

end Extraction
