import Extraction.Proofs.Execution

/-!
# Directives that make a new frame of the top one

Seven directives read nothing but their arguments and the top frame.  The arguments alone decide
whether such a directive fails (`Directive.FailsAlways`) or what it pushes (`Directive.Pushes`), and
what it pushes is made of the strings one by one: a frame that is put together gives the frames of
its parts, put together (`Directive.fails_or_pushes`).
-/

namespace Extraction

/-- A change is made of the strings of a frame one by one. -/
theorem FrameChange.apply_append (c : FrameChange) (f g : Frame) :
    c.apply (f ++ g) = c.apply f ++ c.apply g := by
  cases c with
  | map h => exact List.map_append
  | filter p => exact List.filter_append f g

namespace Directive

/-- With these arguments a directive fails with this error in every state, and leaves all as it
was. -/
def FailsAlways (d : Directive) (args : List String) (e : RuntimeError) : Prop :=
  ∀ (ν : Type) (doc : Document ν) (env : Env ν) (stack : Stack),
    d.execute doc env stack args = (env, .error e)

/-- With these arguments a directive pushes, in every state, what a function makes of the top frame,
and leaves all else as it was. -/
def Pushes (d : Directive) (args : List String) (change : Frame → Frame) : Prop :=
  ∀ (ν : Type) (doc : Document ν) (env : Env ν) (stack : Stack),
    d.execute doc env stack args = (env, .ok (stack.push (change stack.top)))

/-- The directives that change the strings of the top frame. -/
def changesTop : Directive → Bool
  | .drop | .extract | .glue | .insert | .keep | .remove | .replace => true
  | .bundle | .follow | .label | .layout | .prompt | .select | .style => false

variable {d : Directive} {args : List String} {e : RuntimeError} {c : FrameChange}

theorem exists_frameChange?_eq (hd : d.changesTop) (args : List String) :
    ∃ change, d.frameChange? args = some change := by
  cases d with
  | drop | extract | glue | insert | keep | remove | replace => exact ⟨_, rfl⟩
  | bundle | follow | label | layout | prompt | select | style => cases hd

theorem failsAlways_of_frameChange? (h : d.frameChange? args = some (.error e)) :
    d.FailsAlways args e := by
  intro ν doc env stack
  rw [execute_of_frameChange? h]
  rfl

theorem pushes_of_frameChange? (h : d.frameChange? args = some (.ok c)) :
    d.Pushes args c.apply := by
  intro ν doc env stack
  rw [execute_of_frameChange? h, ← FrameChange.push_eq]
  rfl

theorem Pushes.top_eq {ν : Type} {doc : Document ν} {env : Env ν} {stack stack' : Stack}
    {change : Frame → Frame} (h : d.Pushes args change)
    (hx : (d.execute doc env stack args).2 = .ok stack') : stack'.top = change stack.top := by
  rw [h] at hx
  cases hx
  exact Stack.top_push _ _

/-- All of these directives but `keep` and `drop` change every string, and leave none out. -/
theorem exists_eq_map_of_frameChange? (h : d.frameChange? args = some (.ok c)) (hk : d ≠ .keep)
    (hd : d ≠ .drop) : ∃ f : String → String, c = .map f := by
  cases d with
  | extract | glue | insert | remove | replace =>
      obtain ⟨_, -, rfl⟩ := map_eq_ok_iff.1 (Option.some.inj h)
      exact ⟨_, rfl⟩
  | keep => exact absurd rfl hk
  | drop => exact absurd rfl hd
  | bundle | follow | label | layout | prompt | select | style => cases h

/-- Whether one of these directives fails, and with which error, its arguments tell.  If they are
accepted, it leaves scope, visited nodes and context alone, and pushes what its arguments make of
the top frame, string by string: a frame that is put together gives the frames of its parts.  All
but `keep` and `drop` give one string for each, made of that string alone. -/
theorem fails_or_pushes (hd : d.changesTop) (args : List String) :
    (¬ d.Accepts args → ∃ e, d.FailsAlways args e) ∧
      (d.Accepts args → ∃ change : Frame → Frame, d.Pushes args change ∧
        (∀ f g, change (f ++ g) = change f ++ change g) ∧
        (d ≠ .keep → d ≠ .drop → ∃ onString : String → String, ∀ f,
          (change f).length = f.length ∧ ∀ k : Nat, (change f)[k]? = f[k]?.map onString)) := by
  obtain ⟨change, hchange⟩ := exists_frameChange?_eq hd args
  rw [← exists_frameChange?_eq_ok_iff hchange]
  constructor
  · intro hnone
    cases change with
    | error e => exact ⟨e, failsAlways_of_frameChange? hchange⟩
    | ok c => exact absurd ⟨c, rfl⟩ hnone
  · rintro ⟨c, rfl⟩
    refine ⟨c.apply, pushes_of_frameChange? hchange, c.apply_append, ?_⟩
    intro hk hd
    obtain ⟨onString, rfl⟩ := exists_eq_map_of_frameChange? hchange hk hd
    exact ⟨onString, fun f => ⟨List.length_map onString, fun k => List.getElem?_map⟩⟩

/-- A pattern with a group, on a string without a match, too; and what is not a pattern. -/
theorem fails_or_pushes_extract :
    (∃ change : Frame → Frame, extract.Pushes ["b(c*)"] change ∧
      change ["abcc", "x"] = ["cc", ""] ∧ (change ["abcc", "x"]).length = 2 ∧
      change (["abcc", "x"] ++ ["b"]) = ["cc", ""] ++ change ["b"]) ∧
    ∃ e, extract.FailsAlways ["b("] e := by
  have hd : extract.changesTop := rfl
  have haccepts : extract.Accepts ["b(c*)"] := ⟨_, rfl⟩
  have hrejects : ¬ extract.Accepts ["b("] := by
    rintro ⟨p, hp⟩
    cases hp
  have hextract : (extract.execute (.blank : Document Unit) {} ⟨[["abcc", "x"]]⟩ ["b(c*)"]).2 =
      .ok ⟨[["abcc", "x"], ["cc", ""]]⟩ := by rfl
  obtain ⟨change, hpushes, happend, hmap⟩ := (fails_or_pushes hd ["b(c*)"]).2 haccepts
  have hchange : change ["abcc", "x"] = ["cc", ""] := (hpushes.top_eq hextract).symm
  obtain ⟨onString, hstring⟩ := hmap nofun nofun
  refine ⟨⟨change, hpushes, hchange, (hstring _).1, ?_⟩, (fails_or_pushes hd ["b("]).1 hrejects⟩
  rw [happend, hchange]

end Directive

end Extraction
