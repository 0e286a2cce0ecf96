import Extraction.Machine.Handler

/-!
# An xpath and a selector for the same nodes

`follow` and `select` differ in how they ask, and in how they come to the first match.  Where an
xpath and a selector stand for the same nodes, or are both rejected, the two directives cannot be
told apart but by the messages of rejections: `follow_select_agree`.  For this the visits have to be
alike node by node (`visitScope_alike`), since a rejection may come in the middle of a scope and
leaves what was visited before.
-/

namespace Extraction

variable {ν : Type} {doc : Document ν}

/-! ## Visits that are alike -/

/-- Two answers to a query are alike: the same value, or both a rejection. -/
inductive AnswersAlike {α : Type} (x y : Except QueryError α) : Prop
  | answered {a : α} : x = .ok a → y = .ok a → AnswersAlike x y
  | rejected {cause cause' : QueryError} : x = .error cause → y = .error cause' → AnswersAlike x y

/-- Two visits are alike: of the same nodes, and with the same strings or both broken off. -/
inductive VisitsAlike (v w : Visit ν) : Prop
  | complete {visited : List ν} {frame : Frame} :
      v = (visited, .ok frame) → w = (visited, .ok frame) → VisitsAlike v w
  | rejected {visited : List ν} {cause cause' : QueryError} :
      v = (visited, .error (.query cause)) → w = (visited, .error (.query cause')) →
        VisitsAlike v w

section Alike

variable {query query' : ν → Except QueryError (Reading ν)}
variable {whole whole' : Except QueryError (List ν × Frame)}

/-- Queries that are alike on each node of a scope visit it alike, also where one of its nodes
rejects them. -/
theorem visitScope_alike {ns : List ν} (h : ∀ n ∈ ns, AnswersAlike (query n) (query' n)) :
    VisitsAlike (visitScope query ns) (visitScope query' ns) := by
  induction ns with
  | nil => exact .complete rfl rfl
  | cons n ns ih =>
      obtain ⟨hn, hns⟩ := List.forall_mem_cons.1 h
      rw [visitScope, visitScope]
      cases hn with
      | rejected hq hq' =>
          -- neither goes on to the rest of the scope
          rw [hq, hq']
          exact .rejected rfl rfl
      | answered hq hq' =>
          rw [hq, hq']
          cases ih hns with
          | complete hv hv' =>
              rw [hv, hv']
              exact .complete rfl rfl
          | rejected hv hv' =>
              rw [hv, hv']
              exact .rejected rfl rfl

/-- Without a scope, only the whole document is asked. -/
theorem visit_alike {scope : Option (List ν)} (hwhole : scope = none → AnswersAlike whole whole')
    (hscope : ∀ ns, scope = some ns → ∀ n ∈ ns, AnswersAlike (query n) (query' n)) :
    VisitsAlike (visit scope whole query) (visit scope whole' query') := by
  cases scope with
  | some ns => exact visitScope_alike (hscope ns rfl)
  | none =>
      cases hwhole rfl with
      | answered hw hw' =>
          rw [hw, hw']
          exact .complete rfl rfl
      | rejected hw hw' =>
          rw [hw, hw']
          exact .rejected rfl rfl

end Alike

/-! ## Follow and select -/

/-- On the whole document or below a node, an xpath and a selector stand for the same nodes, or
both are rejected. -/
inductive Document.SameNodes (doc : Document ν) (xpath selector : String) (root : Option ν) : Prop
  | nodes {ns : List ν} : doc.evaluate xpath root = .ok (.nodeSet ns) →
      doc.selectAll selector root = .ok ns → SameNodes doc xpath selector root
  | rejected {cause cause' : QueryError} : doc.evaluate xpath root = .error cause →
      doc.selectAll selector root = .error cause' → SameNodes doc xpath selector root

variable {xpath selector : String} {root : Option ν}

/-- Whatever is read from the same nodes is the same. -/
theorem Document.SameNodes.answersAlike {α : Type} (h : doc.SameNodes xpath selector root)
    {f : XPathResult ν → α} {g : List ν → α} (hfg : ∀ ns, f (.nodeSet ns) = g ns) :
    AnswersAlike ((doc.evaluate xpath root).map f) ((doc.selectAll selector root).map g) := by
  cases h with
  | nodes hx hs =>
      rw [hx, hs]
      exact .answered (congrArg Except.ok (hfg _)) rfl
  | rejected hx hs =>
      rw [hx, hs]
      exact .rejected rfl rfl

theorem visits_alike {scope : Option (List ν)}
    (hfirst : ∀ root, doc.selectFirst selector root = (doc.selectAll selector root).map List.head?)
    (hwhole : scope = none → doc.SameNodes xpath selector none)
    (hscope : ∀ ns, scope = some ns → ∀ n ∈ ns, doc.SameNodes xpath selector (some n)) :
    VisitsAlike (followVisit doc scope xpath) (selectVisit doc scope selector) := by
  refine visit_alike ?_ ?_
  · intro hs
    exact (hwhole hs).answersAlike fun ns => rfl
  · intro ns hs n hn
    -- one takes the first node of what was read, the other reads the first node
    have hread : (doc.selectFirst selector (some n)).map (readNode doc) =
        (doc.selectAll selector (some n)).map fun ns => readNode doc ns.head? := by
      rw [hfirst]
      cases doc.selectAll selector (some n) <;> rfl
    rw [hread]
    exact (hscope ns hs n hn).answersAlike fun ns => rfl

/-- Where an xpath and a selector stand for the same nodes, `follow` and `select` push the same
frame, or both fail since the query is rejected; in either case they leave the same environment, so
the same visited nodes.  Only what is asked has to agree: the whole document if there is no scope,
and else the nodes of the scope. -/
theorem follow_select_agree {env : Env ν}
    (hfirst : ∀ root, doc.selectFirst selector root = (doc.selectAll selector root).map List.head?)
    (hwhole : env.scope = none → doc.SameNodes xpath selector none)
    (hscope : ∀ ns, env.scope = some ns → ∀ n ∈ ns, doc.SameNodes xpath selector (some n))
    (stack : Stack) (args args' : List String) :
    let follow := Directive.follow.execute doc env stack (xpath :: args)
    let select := Directive.select.execute doc env stack (selector :: args')
    follow.1 = select.1 ∧
      ((∃ frame, follow.2 = .ok (stack.push frame) ∧ select.2 = .ok (stack.push frame)) ∨
        ∃ cause cause', follow.2 = .error (.query cause) ∧ select.2 = .error (.query cause')) := by
  intro follow select
  have hfollow : follow =
      let visit := followVisit doc env.scope xpath
      ({ env with visited := visit.1 }, visit.2.map stack.push) := rfl
  have hselect : select =
      let visit := selectVisit doc env.scope selector
      ({ env with visited := visit.1 }, visit.2.map stack.push) := rfl
  rw [hfollow, hselect]
  cases visits_alike hfirst hwhole hscope with
  | complete hv hv' =>
      rw [hv, hv']
      exact ⟨rfl, .inl ⟨_, rfl, rfl⟩⟩
  | rejected hv hv' =>
      rw [hv, hv']
      exact ⟨rfl, .inr ⟨_, _, rfl, rfl⟩⟩

/-- A scope of which the last node has no match, and one with a node that rejects both queries. -/
theorem follow_select_agree_third_rejects :
    let matched : Option Nat → List Nat := fun root => if root = some 1 then [5, 6] else []
    let doc : Document Nat :=
      { evaluate := fun xpath root =>
          if root = some 3 then .error ⟨xpath, "no axis"⟩ else .ok (.nodeSet (matched root))
        selectAll := fun selector root =>
          if root = some 3 then .error ⟨selector, "no element"⟩ else .ok (matched root)
        text? := fun _ => some "a"
        style := fun _ _ => "" }
    let env (scope : List Nat) : Env Nat := { scope := some scope, visited := [9] }
    let follow (scope : List Nat) := Directive.follow.execute doc (env scope) .empty [".//li"]
    let select (scope : List Nat) := Directive.select.execute doc (env scope) .empty ["li"]
    (follow [1, 2]).1.visited = [5] ∧ (select [1, 2]).1 = (follow [1, 2]).1 ∧
      (select [1, 2]).2 = .ok ⟨[["a", ""]]⟩ ∧ (follow [1, 2]).2 = .ok ⟨[["a", ""]]⟩ ∧
      (follow [1, 3, 1]).1.visited = [5] ∧ (select [1, 3, 1]).1 = (follow [1, 3, 1]).1 ∧
      (∃ cause, (select [1, 3, 1]).2 = .error (.query cause)) ∧
      (follow [1, 3, 1]).2 = .error (.query ⟨".//li", "no axis"⟩) := by
  intro matched doc env follow select
  have hsame (root : Option Nat) : doc.SameNodes ".//li" "li" root := by
    by_cases hr : root = some 3
    · exact .rejected (if_pos hr) (if_pos hr)
    · exact .nodes (if_neg hr) (if_neg hr)
  have hagree (scope : List Nat) :=
    follow_select_agree (fun _ => rfl) (fun (_ : (env scope).scope = none) => hsame none)
      (fun _ _ n _ => hsame (some n)) .empty [] []
  obtain ⟨hleft, ⟨_, ⟨⟩, hselect⟩ | ⟨_, _, ⟨⟩, _⟩⟩ := hagree [1, 2]
  obtain ⟨hleft', ⟨_, ⟨⟩, _⟩ | ⟨_, cause, _, hselect'⟩⟩ := hagree [1, 3, 1]
  exact ⟨rfl, hleft.symm, hselect, rfl, rfl, hleft'.symm, ⟨cause, hselect'⟩, rfl⟩

end Extraction
