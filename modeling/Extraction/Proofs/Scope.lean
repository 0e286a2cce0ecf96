import Extraction.Proofs.Execution
import Extraction.Proofs.Run
import Extraction.Proofs.Search
import Mathlib.Data.List.Basic
import Mathlib.Data.List.ReduceOption

/-!
# Scope and visited nodes along a run

Two lists of nodes are kept from instruction to instruction.  The scope is set by `bundle`, and is
read by the searches; the visited nodes are set by the searches and by `bundle`, and are read by
`style`.  Both are overwritten as a whole, so they are what the last instruction that sets them
gave.  `LastGives` says this of any such value, `ScopeBehind` and `VisitedBehind` of these two, and
a run keeps both.
-/

namespace Extraction

variable {ν : Type} {doc : Document ν}

/-! ## What the last instruction of a kind gives -/

section LastGives

variable {α : Type} {kind : Instruction → Prop} {gives : List Instruction → Instruction → α → Prop}
variable {start a b : α} {is : List Instruction} {i : Instruction}

/-- A value behind a list of instructions: what the last of a kind gives, behind those in front of
it, or what there was at the start if none is of that kind. -/
inductive LastGives (kind : Instruction → Prop) (gives : List Instruction → Instruction → α → Prop)
    (start : α) : List Instruction → α → Prop
  | start {is : List Instruction} : (∀ i ∈ is, ¬ kind i) → LastGives kind gives start is start
  | last {front rest : List Instruction} {i : Instruction} {a : α} :
      kind i → gives front i a → (∀ j ∈ rest, ¬ kind j) →
        LastGives kind gives start (front ++ i :: rest) a

theorem LastGives.keep (h : LastGives kind gives start is a) (hi : ¬ kind i) :
    LastGives kind gives start (is ++ [i]) a := by
  cases h with
  | start h =>
      refine .start ?_
      rw [List.forall_mem_append, List.forall_mem_singleton]
      exact ⟨h, hi⟩
  | last hk hg h =>
      rw [List.append_assoc, List.cons_append]
      refine .last hk hg ?_
      rw [List.forall_mem_append, List.forall_mem_singleton]
      exact ⟨h, hi⟩

theorem LastGives.next (hk : kind i) (hg : gives is i a) :
    LastGives kind gives start (is ++ [i]) a :=
  .last hk hg nofun

/-- The last instruction of a kind is determined, and what comes in front of it. -/
theorem eq_of_append_cons {front front' rest rest' : List Instruction} {i i' : Instruction}
    (h : front ++ i :: rest = front' ++ i' :: rest') (hi : kind i) (hi' : kind i')
    (hr : ∀ j ∈ rest, ¬ kind j) (hr' : ∀ j ∈ rest', ¬ kind j) : front = front' ∧ i = i' := by
  -- if one of them came behind the other, it would be among the rest of that
  rcases List.append_eq_append_iff.1 h with ⟨l, rfl, hl⟩ | ⟨l, rfl, hl⟩
  · cases l with
    | nil => exact ⟨(List.append_nil _).symm, (List.cons.inj hl).1⟩
    | cons j l =>
        obtain ⟨-, rfl⟩ := List.cons.inj hl
        exact absurd hi' (hr i' (List.mem_append_right _ List.mem_cons_self))
  · cases l with
    | nil => exact ⟨List.append_nil _, (List.cons.inj hl).1.symm⟩
    | cons j l =>
        obtain ⟨-, rfl⟩ := List.cons.inj hl
        exact absurd hi (hr' i (List.mem_append_right _ List.mem_cons_self))

theorem LastGives.unique (hgives : ∀ front i a b, gives front i a → gives front i b → a = b)
    (ha : LastGives kind gives start is a) (hb : LastGives kind gives start is b) : a = b := by
  generalize his : is = is' at hb
  cases ha with
  | start h =>
      cases hb with
      | start => rfl
      | last hk => exact absurd hk (h _ (his ▸ List.mem_append_right _ List.mem_cons_self))
  | last hk hg hr =>
      cases hb with
      | start h => exact absurd hk (h _ (his ▸ List.mem_append_right _ List.mem_cons_self))
      | last hk' hg' hr' =>
          obtain ⟨rfl, rfl⟩ := eq_of_append_cons his hk hk' hr hr'
          exact hgives _ _ _ _ hg hg'

end LastGives

/-! ## Instructions that set the scope -/

namespace Instruction

/-- The scope that `bundle` leaves: none, or the nodes of an xpath on the whole document. -/
inductive SetsScope (doc : Document ν) : Instruction → Option (List ν) → Prop
  | lift {args : List String} : SetsScope doc ⟨.bundle, Env.clearScope :: args⟩ none
  | set {xpath : String} {args : List String} {r : XPathResult ν} {ns : List ν} :
      xpath ≠ Env.clearScope → doc.evaluate xpath none = .ok r → r.nodes? = some ns →
        SetsScope doc ⟨.bundle, xpath :: args⟩ (some ns)

theorem SetsScope.unique {i : Instruction} {s t : Option (List ν)} (hs : i.SetsScope doc s)
    (ht : i.SetsScope doc t) : s = t := by
  cases hs with
  | lift =>
      cases ht with
      | lift => rfl
      | set hx => exact absurd rfl hx
  | set hx hr hn =>
      cases ht with
      | lift => exact absurd rfl hx
      | set _ hr' hn' =>
          rw [hr] at hr'
          cases hr'
          rw [← hn, hn']

variable {i : Instruction} {env env' : Env ν} {stack stack' : Stack}

theorem setsScope_of_execute (hi : i.directive = .bundle)
    (h : i.directive.execute doc env stack i.args = (env', .ok stack')) :
    i.SetsScope doc env'.scope := by
  obtain ⟨d, args⟩ := i
  subst hi
  obtain ⟨-, xpath, ha, hx⟩ := Env.bundle_eq_ok_iff.1 h
  obtain ⟨args, rfl⟩ := List.head?_eq_some_iff.1 ha
  obtain ⟨rfl, rfl⟩ | ⟨hx, r, ns, hr, hn, rfl⟩ := hx
  · exact .lift
  · exact .set hx hr hn

/-- No other instruction changes the scope, not even where it fails. -/
theorem scope_execute (hi : i.directive ≠ .bundle) :
    (i.directive.execute doc env stack i.args).1.scope = env.scope := by
  obtain ⟨d, args⟩ := i
  cases d with
  | bundle => exact absurd rfl hi
  | drop | extract | glue | insert | keep | layout | remove | replace => rfl
  | follow | label | prompt | select | style => cases args <;> rfl

/-! ## Instructions that visit nodes -/

/-- Whether an instruction sets the visited nodes. -/
def visits (i : Instruction) : Bool :=
  match i.directive with
  | .follow | .select => true
  | .bundle => i.args.head? ≠ some Env.clearScope
  | _ => false

/-- The nodes that an instruction visits in a scope: those of the result, or the first for each node
of the scope that has one. -/
inductive Visits (doc : Document ν) : Option (List ν) → Instruction → List ν → Prop
  | bundle {scope : Option (List ν)} {xpath : String} {args : List String} {r : XPathResult ν}
      {ns : List ν} :
      xpath ≠ Env.clearScope → doc.evaluate xpath none = .ok r → r.nodes? = some ns →
        Visits doc scope ⟨.bundle, xpath :: args⟩ ns
  | follow {xpath : String} {args : List String} {r : XPathResult ν} :
      doc.evaluate xpath none = .ok r →
        Visits doc none ⟨.follow, xpath :: args⟩ (r.nodes?.getD [])
  | followScope {scope : List ν} {xpath : String} {args : List String}
      {found : List (XPathResult ν)} :
      scope.map (fun n => doc.evaluate xpath (some n)) = found.map .ok →
        Visits doc (some scope) ⟨.follow, xpath :: args⟩ (found.filterMap XPathResult.firstNode?)
  | select {selector : String} {args : List String} {ns : List ν} :
      doc.selectAll selector none = .ok ns → Visits doc none ⟨.select, selector :: args⟩ ns
  | selectScope {scope : List ν} {selector : String} {args : List String}
      {found : List (Option ν)} :
      scope.map (fun n => doc.selectFirst selector (some n)) = found.map .ok →
        Visits doc (some scope) ⟨.select, selector :: args⟩ found.reduceOption

theorem Visits.unique {scope : Option (List ν)} {ns ns' : List ν} (h : i.Visits doc scope ns)
    (h' : i.Visits doc scope ns') : ns = ns' := by
  have hfound {β : Type} {found found' : List β}
      (h : found.map Except.ok = found'.map (Except.ok : β → Except QueryError β)) :
      found = found' := (List.map_inj_right fun _ _ => Except.ok.inj).1 h
  cases h with
  | bundle _ hr hn =>
      cases h' with
      | bundle _ hr' hn' =>
          rw [hr] at hr'
          cases hr'
          exact Option.some.inj (hn.symm.trans hn')
  | follow hr =>
      cases h' with
      | follow hr' =>
          rw [hr] at hr'
          cases hr'
          rfl
  | followScope hf =>
      cases h' with
      | followScope hf' => rw [hfound (hf.symm.trans hf')]
  | select hr =>
      cases h' with
      | select hr' => exact Except.ok.inj (hr.symm.trans hr')
  | selectScope hf =>
      cases h' with
      | selectScope hf' => rw [hfound (hf.symm.trans hf')]

end Instruction

theorem XPathResult.fst_frame (doc : Document ν) (r : XPathResult ν) :
    (r.frame doc).1 = r.nodes?.getD [] := by
  cases r with
  | node n => exact nodes_readNode n
  | nodeSet | number | string | boolean => rfl

namespace Instruction

variable {i : Instruction} {env env' : Env ν} {stack stack' : Stack}

section Queries

variable {scope : Option (List ν)} {args : List String} {visited : List ν} {frame : Frame}

theorem visits_followVisit {xpath : String}
    (h : followVisit doc scope xpath = (visited, .ok frame)) :
    Visits doc scope ⟨.follow, xpath :: args⟩ visited := by
  obtain ⟨rfl, r, hr, hframe⟩ | ⟨ns, found, rfl, hfound, rfl, -⟩ :=
    (visit_eq_ok_iff XPathResult.nodes_reading).1 h
  · obtain rfl : r.nodes?.getD [] = visited := by rw [← r.fst_frame doc, hframe]
    exact .follow hr
  · exact .followScope hfound

theorem visits_selectVisit {selector : String}
    (h : selectVisit doc scope selector = (visited, .ok frame)) :
    Visits doc scope ⟨.select, selector :: args⟩ visited := by
  obtain ⟨rfl, ns, hns, hframe⟩ | ⟨ns, found, rfl, hfound, rfl, -⟩ :=
    (visit_eq_ok_iff nodes_readNode).1 h
  · cases hframe
    exact .select hns
  · exact .selectScope hfound

end Queries

theorem visits_of_execute (hi : i.visits)
    (h : i.directive.execute doc env stack i.args = (env', .ok stack')) :
    i.Visits doc env.scope env'.visited := by
  obtain ⟨d, args⟩ := i
  cases d with
  | follow =>
      obtain ⟨xpath, frame, ha, hf, henv, -⟩ := Env.pushVisit_eq_ok_iff.1 h
      obtain ⟨args, rfl⟩ := List.head?_eq_some_iff.1 ha
      rw [henv]
      exact visits_followVisit (Prod.ext rfl hf)
  | select =>
      obtain ⟨selector, frame, ha, hf, henv, -⟩ := Env.pushVisit_eq_ok_iff.1 h
      obtain ⟨args, rfl⟩ := List.head?_eq_some_iff.1 ha
      rw [henv]
      exact visits_selectVisit (Prod.ext rfl hf)
  | bundle =>
      obtain ⟨-, xpath, ha, hx⟩ := Env.bundle_eq_ok_iff.1 h
      obtain ⟨args, rfl⟩ := List.head?_eq_some_iff.1 ha
      obtain ⟨rfl, -⟩ | ⟨hx, r, ns, hr, hn, rfl⟩ := hx
      · simp [visits] at hi
      · exact .bundle hx hr hn
  | drop | extract | glue | insert | keep | label | layout | prompt | remove | replace | style =>
      cases hi

/-- No other instruction changes the visited nodes, not even where it fails. -/
theorem visited_execute (hi : i.visits = false) :
    (i.directive.execute doc env stack i.args).1.visited = env.visited := by
  obtain ⟨d, args⟩ := i
  cases d with
  | follow | select => cases hi
  | bundle =>
      have hx : args.head? = some Env.clearScope := by simpa [visits] using hi
      obtain ⟨args, rfl⟩ := List.head?_eq_some_iff.1 hx
      rfl
  | drop | extract | glue | insert | keep | layout | remove | replace => rfl
  | label | prompt | style => cases args <;> rfl

end Instruction

/-! ## Along a run -/

/-- The scope behind a list of instructions: what the last `bundle` leaves, and none if there is no
`bundle`. -/
def ScopeBehind (doc : Document ν) : List Instruction → Option (List ν) → Prop :=
  LastGives (fun i => i.directive = .bundle) (fun _ => Instruction.SetsScope doc) none

/-- The visited nodes behind a list of instructions: those of the last one that visits nodes, in the
scope behind the ones in front of it. -/
def VisitedBehind (doc : Document ν) : List Instruction → List ν → Prop :=
  LastGives (fun i => i.visits)
    (fun front i ns => ∃ scope, ScopeBehind doc front scope ∧ i.Visits doc scope ns) []

section Behind

variable {is : List Instruction}

theorem ScopeBehind.unique {s t : Option (List ν)} (hs : ScopeBehind doc is s)
    (ht : ScopeBehind doc is t) : s = t := by
  refine LastGives.unique ?_ hs ht
  exact fun _ _ _ _ => Instruction.SetsScope.unique

theorem VisitedBehind.unique {ns ns' : List ν} (h : VisitedBehind doc is ns)
    (h' : VisitedBehind doc is ns') : ns = ns' := by
  refine LastGives.unique ?_ h h'
  rintro front i a b ⟨s, hs, ha⟩ ⟨t, ht, hb⟩
  obtain rfl := hs.unique ht
  exact ha.unique hb

end Behind

namespace Machine

variable {m : Machine ν} {p : Program} {c : Context} {k : Nat}

/-- Scope and visited nodes of a machine are what the instructions executed so far give. -/
structure Tracks (doc : Document ν) (m : Machine ν) : Prop where
  scope : ScopeBehind doc m.executed m.env.scope
  visited : VisitedBehind doc m.executed m.env.visited

theorem Tracks.start : (ofProgram p c : Machine ν).Tracks doc := ⟨.start nofun, .start nofun⟩

/-- An instruction that sets one of the two gives it anew, every other keeps it. -/
theorem Tracks.step (h : m.Tracks doc) {stack : Stack} (hs : (m.step doc).2 = .ok stack) :
    (m.step doc).1.Tracks doc := by
  obtain ⟨i, env, hi, hx⟩ := step_eq_ok_iff.1 hs
  -- what keeps a list does so whatever comes of it, so the environment is read off the execution
  have henv : env = (i.directive.execute doc m.env m.stack i.args).1 := (congrArg Prod.fst hx).symm
  rw [step_of_execute_ok hi hx]
  constructor
  · show ScopeBehind doc (m.instructions.take (m.pc + 1)) env.scope
    rw [take_succ_pc hi]
    by_cases hd : i.directive = .bundle
    · exact .next hd (Instruction.setsScope_of_execute hd hx)
    · rw [henv, Instruction.scope_execute hd]
      exact .keep h.scope hd
  · show VisitedBehind doc (m.instructions.take (m.pc + 1)) env.visited
    rw [take_succ_pc hi]
    cases hv : i.visits with
    | true => exact .next hv ⟨_, h.scope, Instruction.visits_of_execute hv hx⟩
    | false =>
        rw [henv, Instruction.visited_execute hv]
        exact .keep h.visited (by simp [hv])

/-- As long as no step fails, the scope is what the last `bundle` leaves, and the visited nodes are
those of the last instruction that visits any.  They are what `style` reads; and what is neither
`bundle` nor a search changes none of them. -/
theorem scope_visited_after (h : ∀ n < k, ∃ stack,
    (ofProgram p c : Machine ν).resultAt doc n = .ok stack) :
    let m : Machine ν := .ofProgram p c
    let env := (m.after doc k).env
    let front := p.instructions.take k
    (∀ scope, ScopeBehind doc front scope ↔ scope = env.scope) ∧
      (∀ ns, VisitedBehind doc front ns ↔ ns = env.visited) ∧
      (∀ property args, p.instructions[k]? = some ⟨.style, property :: args⟩ →
        m.resultAt doc k =
          .ok ((m.after doc k).stack.push (env.visited.map fun n => doc.style n property))) ∧
      ∀ (i : Instruction) (env : Env ν) (stack : Stack),
        let env' := (i.directive.execute doc env stack i.args).1
        (i.directive ≠ .bundle → env'.scope = env.scope) ∧
          (i.visits = false → env'.visited = env.visited) := by
  intro m env front
  have htracks : (m.after doc k).Tracks doc :=
    after_induction_of_ok (fun _ _ hs hm => Tracks.step hm hs) .start h
  have hfront : (m.after doc k).executed = front := executed_after rfl h
  have hscope : ScopeBehind doc front env.scope := hfront ▸ htracks.scope
  have hvisited : VisitedBehind doc front env.visited := hfront ▸ htracks.visited
  refine ⟨?_, ?_, ?_, ?_⟩
  · exact fun scope => ⟨fun hs => hs.unique hscope, fun hs => hs ▸ hscope⟩
  · exact fun ns => ⟨fun hn => hn.unique hvisited, fun hn => hn ▸ hvisited⟩
  · intro property args hi
    have hcurrent : (m.after doc k).current? = p.instructions[k]? := current?_after rfl rfl h
    rw [hi] at hcurrent
    exact step_eq_ok_iff.2 ⟨_, _, hcurrent, rfl⟩
  · exact fun i env stack => ⟨Instruction.scope_execute, Instruction.visited_execute⟩

/-- A search in a scope that is lifted before `style`. -/
theorem scope_visited_after_lifted :
    let doc : Document Nat :=
      { Document.blank with
        evaluate := fun _ root => .ok (.nodeSet (if root = some 1 then [3, 4] else [1, 2]))
        style := fun _ property => property }
    let front : List Instruction :=
      [⟨.bundle, ["//a"]⟩, ⟨.follow, ["b"]⟩, ⟨.glue, ["x"]⟩, ⟨.bundle, ["*"]⟩]
    let p : Program := ⟨1.0, ["vivid", "1.0"], front ++ [⟨.style, ["color"]⟩]⟩
    let m : Machine Nat := .ofProgram p .empty
    (∀ n < 4, ∃ stack, m.resultAt doc n = .ok stack) ∧
      (m.after doc 4).env.scope = none ∧ (m.after doc 4).env.visited = [3, 1] ∧
      m.resultAt doc 4 = .ok ⟨[["", ""], ["x", "x"], ["color", "color"]]⟩ := by
  intro doc front p m
  have hok : ∀ n < 4, ∃ stack, m.resultAt doc n = .ok stack := by
    intro n hn
    match n, hn with
    | 0, _ | 1, _ | 2, _ | 3, _ => exact ⟨_, rfl⟩
  obtain ⟨hscope, hvisited, hstyle, -⟩ := scope_visited_after hok
  have hlift : ScopeBehind doc (front.take 3 ++ [⟨.bundle, ["*"]⟩]) none := .next rfl .lift
  have hset : ScopeBehind doc ([] ++ [⟨.bundle, ["//a"]⟩]) (some [1, 2]) :=
    .next rfl (.set (by decide) rfl rfl)
  have hfound : [1, 2].map (fun n => doc.evaluate "b" (some n)) =
      [.nodeSet [3, 4], .nodeSet [1, 2]].map .ok := rfl
  have hfollow : VisitedBehind doc (front.take 1 ++ [⟨.follow, ["b"]⟩]) [3, 1] :=
    .next rfl ⟨_, hset, .followScope hfound⟩
  have hkept : VisitedBehind doc
      (front.take 1 ++ [⟨.follow, ["b"]⟩] ++ [⟨.glue, ["x"]⟩] ++ [⟨.bundle, ["*"]⟩]) [3, 1] :=
    .keep (.keep hfollow nofun) nofun
  have hs : none = (m.after doc 4).env.scope := (hscope none).1 hlift
  have hv : [3, 1] = (m.after doc 4).env.visited := (hvisited [3, 1]).1 hkept
  refine ⟨hok, hs.symm, hv.symm, ?_⟩
  rw [hstyle "color" [] rfl, ← hv]
  rfl

end Machine

end Extraction
