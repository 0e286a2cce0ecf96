import Extraction.Proofs.Failure

/-!
# Searches in a scope, node by node

In a scope, a search is put to one node after the other.  The frame that it pushes has one string
for each node, which the result on that node shows (`XPathResult.Shows`); the visited nodes can be
fewer, as a node on which nothing is found adds none.  `NodeByNode` says this of an outcome, and
also which error there is instead where a node rejects the search.  `search_nodeByNode` says that
every search in a scope is of this form, whatever was visited before, and `execute_in_scope` that
`follow` and `select` are.
-/

namespace Extraction

variable {ν : Type} {doc : Document ν}

/-! ## What a result shows -/

/-- The string that a node shows, if there is one: its text, and nothing where it has none. -/
inductive ShowsNode (doc : Document ν) : Option ν → String → Prop
  | missing : ShowsNode doc none ""
  | blank {n : ν} : doc.text? n = none → ShowsNode doc (some n) ""
  | text {n : ν} {t : String} : doc.text? n = some t → ShowsNode doc (some n) t

/-- The string that a result on a node of the scope shows.  Of a node-set, the first node counts. -/
inductive XPathResult.Shows (doc : Document ν) : XPathResult ν → String → Prop
  | number {x : Float} : Shows doc (.number x) (Number.format x)
  | string {s : String} : Shows doc (.string s) s
  | yes : Shows doc (.boolean true) "true"
  | no : Shows doc (.boolean false) "false"
  | node {n : Option ν} {t : String} : ShowsNode doc n t → Shows doc (.node n) t
  | empty : Shows doc (.nodeSet []) ""
  | first {n : ν} {ns : List ν} {t : String} :
      ShowsNode doc (some n) t → Shows doc (.nodeSet (n :: ns)) t

theorem showsNode_iff {n : Option ν} {t : String} :
    ShowsNode doc n t ↔ t = (readNode doc n).text := by
  constructor
  · intro h
    cases h with
    | missing => rfl
    | blank h => simp [readNode, Document.textOf, h]
    | text h => simp [readNode, Document.textOf, h]
  · rintro rfl
    cases n with
    | none => exact .missing
    | some n =>
        cases h : doc.text? n with
        | none => simpa [readNode, Document.textOf, h] using ShowsNode.blank h
        | some t => simpa [readNode, Document.textOf, h] using ShowsNode.text h

/-- Every result shows exactly one string, the one that is read from it. -/
theorem XPathResult.shows_iff {r : XPathResult ν} {t : String} :
    r.Shows doc t ↔ t = (r.reading doc).text := by
  constructor
  · intro h
    cases h with
    | number | string | yes | no | empty => rfl
    | node h => exact showsNode_iff.1 h
    | first h => exact showsNode_iff.1 h
  · rintro rfl
    cases r with
    | number => exact .number
    | string => exact .string
    | boolean b =>
        cases b with
        | true => exact .yes
        | false => exact .no
    | node n => exact .node (showsNode_iff.2 rfl)
    | nodeSet ns =>
        cases ns with
        | nil => exact .empty
        | cons n ns => exact .first (showsNode_iff.2 rfl)

/-! ## Node by node -/

section NodeByNode

variable {α β : Type} {whole : Except QueryError α} {onNode : ν → Except QueryError β}
variable {f : α → List ν × Frame} {read : β → Reading ν} {first : β → Option ν}
variable {shows : β → String → Prop} {env : Env ν} {stack : Stack} {scope : List ν}
variable {query : String → Visit ν} {text : String} {args : List String}

/-- An outcome is, node by node, what a search finds in a scope. -/
structure NodeByNode (onNode : ν → Except QueryError β) (shows : β → String → Prop)
    (first : β → Option ν) (env : Env ν) (stack : Stack) (scope : List ν) (outcome : Outcome ν) :
    Prop where
  /-- The search fails exactly if a node of the scope rejects it. -/
  fails_iff : (∃ e, outcome.2 = .error e) ↔ ∃ n ∈ scope, ∃ cause, onNode n = .error cause
  /-- The first node that rejects the search gives the error. -/
  error_eq : ∀ (front : List ν) (n : ν) (rest : List ν) (cause : QueryError),
    scope = front ++ n :: rest → (∀ m ∈ front, ∃ b, onNode m = .ok b) →
      onNode n = .error cause → outcome.2 = .error (.query cause)
  /-- A search that no node rejects gives one string for each node of the scope, and has visited
  the first node of each that has one, and no other. -/
  found : (∀ n ∈ scope, ∃ b, onNode n = .ok b) → ∃ frame : Frame,
    outcome = ({ env with visited := scope.filterMap fun n => (onNode n).toOption.bind first },
      .ok (stack.push frame)) ∧
    frame.length = scope.length ∧
    ∀ (k : Nat) (n : ν), scope[k]? = some n →
      ∃ b t, onNode n = .ok b ∧ frame[k]? = some t ∧ shows b t

/-- What is answered on every node has a list of answers. -/
theorem exists_map_eq_map_ok (h : ∀ n ∈ scope, ∃ b, onNode n = .ok b) :
    ∃ found : List β, scope.map onNode = found.map .ok := by
  rcases forall_ok_or_exists_first_error onNode scope with
    ⟨found, hf⟩ | ⟨front, n, rest, found, cause, rfl, -, hn⟩
  · exact ⟨found, hf⟩
  · obtain ⟨b, hb⟩ := h n (List.mem_append_right _ List.mem_cons_self)
    rw [hn] at hb
    cases hb

section Found

variable {found : List β}

theorem filterMap_of_map_ok (h : scope.map onNode = found.map .ok) :
    scope.filterMap (fun n => (onNode n).toOption.bind first) = found.filterMap first := by
  calc
    _ = (scope.map onNode).filterMap (fun r => r.toOption.bind first) := List.filterMap_map.symm
    _ = (found.map .ok).filterMap (fun r : Except QueryError β => r.toOption.bind first) := by
        rw [h]
    _ = _ := List.filterMap_map

theorem getElem?_of_map_ok (h : scope.map onNode = found.map .ok) {k : Nat} {n : ν}
    (hn : scope[k]? = some n) : ∃ b, found[k]? = some b ∧ onNode n = .ok b := by
  have hk : (found.map (Except.ok : β → Except QueryError β))[k]? = some (onNode n) := by
    rw [← h, List.getElem?_map, hn, Option.map_some]
  obtain ⟨b, hb, hok⟩ := Option.map_eq_some_iff.1 (List.getElem?_map.symm.trans hk)
  exact ⟨b, hb, hok.symm⟩

end Found

/-- A search in a scope is what it finds node by node, whatever was visited before. -/
theorem search_nodeByNode (hs : env.scope = some scope)
    (hread : ∀ b, (read b).nodes = (first b).toList) (hshows : ∀ b, shows b (read b).text)
    (hquery : query text = visit env.scope (whole.map f) fun n => (onNode n).map read) :
    NodeByNode onNode shows first env stack scope
      (Env.pushVisit query env stack (text :: args)) := by
  -- a search has no other way to fail than to be rejected
  have herror {found : List β} {cause : QueryError}
      (hr : Rejected whole onNode (some scope) found cause) :
      (Env.pushVisit query env stack (text :: args)).2 = .error (.query cause) :=
    congrArg Prod.snd
      ((Env.search_cons_eq_error_iff hread hquery).2 ⟨found, cause, hs ▸ hr, rfl, rfl⟩)
  constructor
  case fails_iff =>
    rw [← exists_rejected_iff whole]
    constructor
    · rintro ⟨e, he⟩
      obtain ⟨found, cause, hr, -, -⟩ :=
        (Env.search_cons_eq_error_iff hread hquery).1 (Prod.ext rfl he)
      exact ⟨found, cause, hs ▸ hr⟩
    · rintro ⟨found, cause, hr⟩
      exact ⟨_, herror hr⟩
  case error_eq =>
    rintro front n rest cause rfl hfront hn
    obtain ⟨found, hf⟩ := exists_map_eq_map_ok hfront
    exact herror (.node hf hn)
  case found =>
    intro h
    obtain ⟨found, hf⟩ := exists_map_eq_map_ok h
    have hvisit : query text = (found.filterMap first, .ok (found.map fun b => (read b).text)) :=
      hquery.trans ((visit_eq_ok_iff hread).2 (.inr ⟨scope, found, hs, hf, rfl, rfl⟩))
    refine ⟨found.map fun b => (read b).text, Env.pushVisit_eq_ok_iff.2 ?_, ?_, ?_⟩
    · refine ⟨text, _, rfl, congrArg Prod.snd hvisit, ?_, rfl⟩
      rw [hvisit, filterMap_of_map_ok hf]
    · simpa using (congrArg List.length hf).symm
    · intro k n hn
      obtain ⟨b, hb, hok⟩ := getElem?_of_map_ok hf hn
      refine ⟨b, (read b).text, hok, ?_, hshows b⟩
      rw [List.getElem?_map, hb, Option.map_some]

end NodeByNode

/-- In a scope, `follow` and `select` are what the query finds node by node.  They fail exactly if
it is rejected by a node of the scope, and then with the error of the first such node.  Otherwise
there is one string for each node, which the result on that node shows, and the visited nodes are
the first ones of those results that have any. -/
theorem execute_in_scope (doc : Document ν) {env : Env ν} {scope : List ν}
    (hs : env.scope = some scope) (stack : Stack) (text : String) (args : List String) :
    NodeByNode (fun n => doc.evaluate text (some n)) (XPathResult.Shows doc)
        XPathResult.firstNode? env stack scope
        (Directive.follow.execute doc env stack (text :: args)) ∧
      NodeByNode (fun n => doc.selectFirst text (some n)) (ShowsNode doc) id env stack scope
        (Directive.select.execute doc env stack (text :: args)) := by
  constructor
  · show NodeByNode _ _ _ _ _ _ (Env.follow doc env stack (text :: args))
    exact search_nodeByNode hs XPathResult.nodes_reading (fun r => XPathResult.shows_iff.2 rfl) rfl
  · show NodeByNode _ _ _ _ _ _ (Env.select doc env stack (text :: args))
    exact search_nodeByNode hs nodes_readNode (fun n => showsNode_iff.2 rfl) rfl

/-- A scope with a node twice, results of several types, and a last node without a text.  The
selector is rejected by the second node. -/
theorem execute_in_scope_node_twice :
    let doc : Document Nat :=
      { Document.blank with
        evaluate := fun _ root =>
          match root with
          | some 1 => .ok (.boolean true)
          | some 2 => .ok (.nodeSet [5, 6])
          | _ => .ok (.node (some 7))
        selectFirst := fun selector root =>
          if root = some 2 then .ok none else .error ⟨selector, "unexpected token"⟩
        text? := fun n => if n = 5 then some "e" else none }
    let env : Env Nat := { scope := some [2, 1, 2, 3], visited := [9, 9] }
    (∃ frame : Frame,
      Directive.follow.execute doc env .empty ["b"] =
        ({ env with visited := [5, 5, 7] }, .ok ⟨[frame]⟩) ∧
      frame.length = 4 ∧ frame[2]? = some "e" ∧ frame[3]? = some "") ∧
    (Directive.select.execute doc env .empty ["b"]).2 =
      .error (.query ⟨"b", "unexpected token"⟩) := by
  intro doc env
  have hs : env.scope = some [2, 1, 2, 3] := rfl
  obtain ⟨hfollow, hselect⟩ := execute_in_scope doc hs .empty "b" []
  have hfound : ∀ n ∈ [2, 1, 2, 3], ∃ r, doc.evaluate "b" (some n) = .ok r
    | 1, _ | 2, _ => ⟨_, rfl⟩
    | 0, _ | n + 3, _ => ⟨_, rfl⟩
  obtain ⟨frame, hframe, hlength, hshown⟩ := hfollow.found hfound
  refine ⟨⟨frame, hframe, hlength, ?_, ?_⟩, ?_⟩
  · obtain ⟨_, _, ⟨⟩, ht, hshows⟩ := hshown 2 2 rfl
    rw [ht, XPathResult.shows_iff.1 hshows]
    rfl
  · obtain ⟨_, _, ⟨⟩, ht, hshows⟩ := hshown 3 3 rfl
    rw [ht, XPathResult.shows_iff.1 hshows]
    rfl
  · exact hselect.error_eq [2] 1 [2, 3] _ rfl (List.forall_mem_singleton.2 ⟨none, rfl⟩) rfl

end Extraction
