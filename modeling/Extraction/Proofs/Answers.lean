import Extraction.Document.Static
import Mathlib.Data.List.Basic

/-!
# Documents with canned answers and their history

A document with canned answers is made by updates, and answers by them: of two that are about the
same the later one counts (`view_updateAll`).  There are four kinds of updates, each on a store of
its own, so that queries of one kind, queries of the other, rejections and nodes do not touch each
other (`updateAll_eq`).
-/

namespace Extraction.StaticDocument

inductive Update where
  | addNode (text : Option String)
  | setStyle (node : NodeId) (property value : String)
  | onXPath (xpath : String) (root : Option NodeId) (result : XPathResult NodeId)
  | onSelector (selector : String) (root : Option NodeId) (nodes : List NodeId)
  | reject (query message : String)

def update (d : StaticDocument) : Update → StaticDocument
  | .addNode text => (d.addNode text).1
  | .setStyle node property value => d.setStyle node property value
  | .onXPath xpath root result => d.onXPath xpath root result
  | .onSelector selector root nodes => d.onSelector selector root nodes
  | .reject query message => d.reject query message

/-- Performs updates, the first one first. -/
def updateAll (d : StaticDocument) (us : List Update) : StaticDocument := us.foldl update d

/-! ## What an update is about -/

namespace Update

/-- The stores of a document. -/
inductive Kind where
  | node
  | xpath
  | selector
  | rejection
deriving DecidableEq, Repr

def kind : Update → Kind
  | .addNode .. | .setStyle .. => .node
  | .onXPath .. => .xpath
  | .onSelector .. => .selector
  | .reject .. => .rejection

def addsNode : Update → Bool
  | .addNode _ => true
  | .setStyle .. | .onXPath .. | .onSelector .. | .reject .. => false

/-- The value that an update gives to a property of a node. -/
def style? (node : NodeId) (property : String) : Update → Option String
  | .setStyle n p value => if (n, p) = (node, property) then some value else none
  | .addNode .. | .onXPath .. | .onSelector .. | .reject .. => none

/-- The result that an update gives to an xpath, below a node or on the whole document. -/
def result? (xpath : String) (root : Option NodeId) : Update → Option (XPathResult NodeId)
  | .onXPath q r result => if (q, r) = (xpath, root) then some result else none
  | .addNode .. | .setStyle .. | .onSelector .. | .reject .. => none

/-- The elements that an update gives to a selector, below a node or on the whole document. -/
def elements? (selector : String) (root : Option NodeId) : Update → Option (List NodeId)
  | .onSelector q r nodes => if (q, r) = (selector, root) then some nodes else none
  | .addNode .. | .setStyle .. | .onXPath .. | .reject .. => none

/-- The message with which an update rejects a query. -/
def message? (query : String) : Update → Option String
  | .reject q message => if q = query then some message else none
  | .addNode .. | .setStyle .. | .onXPath .. | .onSelector .. => none

theorem message?_eq_some_iff {query message : String} {u : Update} :
    u.message? query = some message ↔ u = .reject query message := by
  cases u with
  | reject q m => simp [message?]
  | addNode | setStyle | onXPath | onSelector => exact iff_of_false nofun nofun

end Update

/-- What the last of those updates gives that give a value. -/
def latest {α : Type} (f : Update → Option α) (us : List Update) : Option α :=
  (us.filterMap f).getLast?

variable {α : Type} {d d' : StaticDocument} {u : Update} {us front behind : List Update}
variable (view : StaticDocument → Option α) {f : Update → Option α}

theorem updateAll_cons : d.updateAll (u :: us) = (d.update u).updateAll us := rfl

theorem updateAll_append : d.updateAll (front ++ behind) = (d.updateAll front).updateAll behind :=
  List.foldl_append

theorem latest_cons (f : Update → Option α) (u : Update) (us : List Update) :
    latest f (u :: us) = (latest f us).or (f u) := by
  rw [latest, latest, List.filterMap_cons]
  cases f u with
  | none => exact Option.or_none.symm
  | some a =>
      simp only [List.getLast?_cons]
      cases (us.filterMap f).getLast? <;> rfl

theorem latest_eq_none_iff : latest f us = none ↔ ∀ u ∈ us, f u = none := by
  rw [latest, List.getLast?_eq_none_iff, List.filterMap_eq_nil_iff]

/-- What every update overrides or leaves alone is what the last of them makes of it. -/
theorem view_updateAll (hview : ∀ d u, view (d.update u) = (f u).or (view d)) (d : StaticDocument)
    (us : List Update) : view (d.updateAll us) = (latest f us).or (view d) := by
  induction us generalizing d with
  | nil => rfl
  | cons u us ih => rw [updateAll_cons, ih, hview, latest_cons, Option.or_assoc]

/-! ## Queries -/

/-- An entry counts in front of all others of its key. -/
theorem lookup_cons_eq_or {κ : Type} [BEq κ] [LawfulBEq κ] [DecidableEq κ] (k key : κ) (a : α)
    (es : List (κ × α)) :
    ((k, a) :: es).lookup key = (if k = key then some a else none).or (es.lookup key) := by
  rw [List.lookup_cons]
  by_cases h : k = key
  · simp [h]
  · rw [beq_false_of_ne (Ne.symm h), if_neg h]
    rfl

theorem lookup_rejected (us : List Update) (query : String) :
    (empty.updateAll us).rejected.lookup query = latest (Update.message? query) us := by
  refine (view_updateAll (fun d => d.rejected.lookup query) (fun d u => ?_) empty us).trans
    Option.or_none
  cases u with
  | reject q message => exact lookup_cons_eq_or q query message d.rejected
  | addNode | setStyle | onXPath | onSelector => rfl

theorem lookup_xpaths (us : List Update) (xpath : String) (root : Option NodeId) :
    (empty.updateAll us).xpaths.lookup (xpath, root) = latest (Update.result? xpath root) us := by
  refine (view_updateAll (fun d => d.xpaths.lookup (xpath, root)) (fun d u => ?_)
    empty us).trans Option.or_none
  cases u with
  | onXPath q r result => exact lookup_cons_eq_or (q, r) (xpath, root) result d.xpaths
  | addNode | setStyle | onSelector | reject => rfl

theorem lookup_selectors (us : List Update) (selector : String) (root : Option NodeId) :
    (empty.updateAll us).selectors.lookup (selector, root) =
      latest (Update.elements? selector root) us := by
  refine (view_updateAll (fun d => d.selectors.lookup (selector, root)) (fun d u => ?_)
    empty us).trans Option.or_none
  cases u with
  | onSelector q r nodes => exact lookup_cons_eq_or (q, r) (selector, root) nodes d.selectors
  | addNode | setStyle | onXPath | reject => rfl

/-- The answer to a query: the message of its last rejection if it was ever rejected, and otherwise
what is registered for it. -/
def answered (us : List Update) (query : String) (result : α) : Except QueryError α :=
  match latest (Update.message? query) us with
  | some message => .error ⟨query, message⟩
  | none => .ok result

theorem answer_updateAll (us : List Update) (query : String) (result : α) :
    (empty.updateAll us).answer query result = answered us query result := by
  rw [answer, lookup_rejected]
  rfl

theorem exists_answered_eq_error_iff {query : String} {result : α} :
    (∃ e, answered us query result = .error e) ↔ ∃ message, .reject query message ∈ us := by
  cases hlatest : latest (Update.message? query) us with
  | none =>
      refine iff_of_false ?_ ?_
      · rw [answered, hlatest]
        exact nofun
      · rintro ⟨message, hmem⟩
        have hnone := latest_eq_none_iff.1 hlatest _ hmem
        rw [Update.message?_eq_some_iff.2 rfl] at hnone
        cases hnone
  | some message =>
      refine iff_of_true ⟨_, by rw [answered, hlatest]⟩ ?_
      obtain ⟨u, hu, hmessage⟩ := List.mem_filterMap.1 (List.mem_of_getLast? hlatest)
      exact ⟨message, Update.message?_eq_some_iff.1 hmessage ▸ hu⟩

/-! ## Nodes -/

variable {n : NodeId} {node : StaticNode}

theorem length_nodes_update (d : StaticDocument) (u : Update) :
    (d.update u).nodes.length = d.nodes.length + if u.addsNode then 1 else 0 := by
  cases u with
  | addNode text => exact List.length_append
  | setStyle n p value => exact List.length_modify ..
  | onXPath | onSelector | reject => rfl

/-- The id of the next node is the number of nodes that were added. -/
theorem length_nodes_updateAll (d : StaticDocument) (us : List Update) :
    (d.updateAll us).nodes.length = d.nodes.length + us.countP Update.addsNode := by
  induction us generalizing d with
  | nil => rfl
  | cons u us ih => rw [updateAll_cons, ih, length_nodes_update, List.countP_cons]; omega

/-- A node that is there keeps its text, and gets a style only if it is given to this node. -/
theorem exists_getElem?_update (hn : d.nodes[n]? = some node) (u : Update) :
    ∃ node', (d.update u).nodes[n]? = some node' ∧ node'.text = node.text ∧
      ∀ p, node'.styles.lookup p = (u.style? n p).or (node.styles.lookup p) := by
  cases u with
  | addNode text =>
      refine ⟨node, ?_, rfl, fun _ => rfl⟩
      exact (List.getElem?_append_left (List.getElem?_eq_some_iff.1 hn).1).trans hn
  | setStyle m p value =>
      by_cases hm : m = n
      · refine ⟨{ node with styles := (p, value) :: node.styles }, ?_, rfl, fun q => ?_⟩
        · simp [update, setStyle, hn, hm]
        · simpa [Update.style?, hm] using lookup_cons_eq_or p q value node.styles
      · refine ⟨node, ?_, rfl, fun q => ?_⟩
        · simp [update, setStyle, hn, hm]
        · simp [Update.style?, hm]
  | onXPath | onSelector | reject => exact ⟨node, hn, rfl, fun _ => rfl⟩

theorem exists_getElem?_updateAll (hn : d.nodes[n]? = some node) (us : List Update) :
    ∃ node', (d.updateAll us).nodes[n]? = some node' ∧ node'.text = node.text ∧
      ∀ p, node'.styles.lookup p = (latest (Update.style? n p) us).or (node.styles.lookup p) := by
  induction us generalizing d node with
  | nil => exact ⟨node, hn, rfl, fun _ => rfl⟩
  | cons u us ih =>
      obtain ⟨node₁, hn₁, htext₁, hstyle₁⟩ := exists_getElem?_update hn u
      obtain ⟨node', hn', htext, hstyle⟩ := ih hn₁
      refine ⟨node', hn', htext.trans htext₁, fun p => ?_⟩
      rw [hstyle, hstyle₁, latest_cons, Option.or_assoc]

/-- A node has the text that it was added with, and the styles that it was given since. -/
theorem node_updateAll (front : List Update) (text : Option String) (behind : List Update) :
    let d := empty.updateAll (front ++ .addNode text :: behind)
    let n := front.countP Update.addsNode
    d.text? n = text ∧ ∀ p, d.style n p = (latest (Update.style? n p) behind).getD "" := by
  intro d n
  have hlength : (empty.updateAll front).nodes.length = n :=
    (length_nodes_updateAll empty front).trans (Nat.zero_add n)
  have hadded : ((empty.updateAll front).update (.addNode text)).nodes[n]? = some ⟨text, []⟩ := by
    rw [← hlength]
    exact List.getElem?_concat_length
  obtain ⟨node, hn, htext, hstyle⟩ := exists_getElem?_updateAll hadded behind
  have hd : d.nodes[n]? = some node := by rwa [← updateAll_cons, ← updateAll_append] at hn
  refine ⟨?_, fun p => ?_⟩
  · rw [text?, hd]
    exact htext
  · rw [style, hd, Option.bind_some, hstyle]
    exact congrArg (Option.getD · "") Option.or_none

/-- As many nodes as there are in the end were added one after the other. -/
theorem exists_addNode_of_lt (h : n < us.countP Update.addsNode) :
    ∃ front text behind, us = front ++ .addNode text :: behind ∧
      front.countP Update.addsNode = n := by
  induction us generalizing n with
  | nil => cases h
  | cons u us ih =>
      cases u with
      | addNode text =>
          cases n with
          | zero => exact ⟨[], text, us, rfl, rfl⟩
          | succ n =>
              rw [List.countP_cons_of_pos rfl] at h
              obtain ⟨front, text', behind, rfl, hn⟩ := ih (Nat.lt_of_succ_lt_succ h)
              exact ⟨.addNode text :: front, text', behind, rfl,
                by rw [List.countP_cons_of_pos rfl, hn]⟩
      | setStyle | onXPath | onSelector | reject =>
          obtain ⟨front, text, behind, rfl, hn⟩ := ih h
          exact ⟨_ :: front, text, behind, rfl, hn⟩

/-! ## Four stores -/

/-- What the updates of one kind alone make of a store is what all updates make of it. -/
theorem store_updateAll {β : Type} (store : StaticDocument → β) {k : Update.Kind}
    (hstore : ∀ d d' u, store d = store d' →
      store (d.update u) = store (if u.kind = k then d'.update u else d'))
    (hd : store d = store d') (us : List Update) :
    store (d.updateAll us) = store (d'.updateAll (us.filter fun u => u.kind = k)) := by
  induction us generalizing d d' with
  | nil => exact hd
  | cons u us ih =>
      have hu := hstore d d' u hd
      by_cases hk : u.kind = k
      · rw [List.filter_cons_of_pos (by simpa using hk)]
        exact ih (by rwa [if_pos hk] at hu)
      · rw [List.filter_cons_of_neg (by simpa using hk)]
        exact ih (by rwa [if_neg hk] at hu)

/-- Nodes, xpaths, selectors and rejections do not touch each other. -/
theorem updateAll_eq (us : List Update) :
    let only (k : Update.Kind) := empty.updateAll (us.filter fun u => u.kind = k)
    empty.updateAll us =
      { nodes := (only .node).nodes, xpaths := (only .xpath).xpaths,
        selectors := (only .selector).selectors, rejected := (only .rejection).rejected } := by
  intro only
  have hnodes : (empty.updateAll us).nodes = (only .node).nodes := by
    refine store_updateAll nodes (fun d d' u hd => ?_) rfl us
    cases u with
    | addNode | setStyle => simp [update, addNode, setStyle, Update.kind, hd]
    | onXPath | onSelector | reject => exact hd
  have hxpaths : (empty.updateAll us).xpaths = (only .xpath).xpaths := by
    refine store_updateAll xpaths (fun d d' u hd => ?_) rfl us
    cases u with
    | onXPath => exact congrArg (List.cons _) hd
    | addNode | setStyle | onSelector | reject => exact hd
  have hselectors : (empty.updateAll us).selectors = (only .selector).selectors := by
    refine store_updateAll selectors (fun d d' u hd => ?_) rfl us
    cases u with
    | onSelector => exact congrArg (List.cons _) hd
    | addNode | setStyle | onXPath | reject => exact hd
  have hrejected : (empty.updateAll us).rejected = (only .rejection).rejected := by
    refine store_updateAll rejected (fun d d' u hd => ?_) rfl us
    cases u with
    | reject => exact congrArg (List.cons _) hd
    | addNode | setStyle | onXPath | onSelector => exact hd
  rw [← hnodes, ← hxpaths, ← hselectors, ← hrejected]

/-! ## The history -/

/-- Behind any updates of an empty document: the next node has the number of nodes so far as its id.
A query is answered with the message of its last rejection if it was ever rejected, and otherwise
with the last result that was registered for it and the same root; without one, it has no nodes.
The first element is the first of all.  A node has the text that it was added with, and of each
property the last value that it was given since; a value given before has no effect.  What is not
there has neither.  Nodes, xpaths, selectors and rejections are what the updates about them make of
them. -/
theorem answers_by_history (us : List Update) :
    let d := empty.updateAll us
    let doc := d.toDocument
    (∀ text, (d.addNode text).2 = us.countP Update.addsNode) ∧
      ((∀ query root, doc.evaluate query root =
          answered us query ((latest (Update.result? query root) us).getD (.nodeSet []))) ∧
        (∀ query root, doc.selectAll query root =
          answered us query ((latest (Update.elements? query root) us).getD [])) ∧
        (∀ query root, (∃ e, doc.evaluate query root = .error e) ↔
          ∃ message, .reject query message ∈ us) ∧
        (∀ query root, (∃ e, doc.selectAll query root = .error e) ↔
          ∃ message, .reject query message ∈ us) ∧
        ∀ query root, doc.selectFirst query root = (doc.selectAll query root).map List.head?) ∧
      (∀ n, (∃ front text behind, us = front ++ .addNode text :: behind ∧
          front.countP Update.addsNode = n ∧ doc.text? n = text ∧
          ∀ p, doc.style n p = (latest (Update.style? n p) behind).getD "") ∨
        us.countP Update.addsNode ≤ n ∧ doc.text? n = none ∧ ∀ p, doc.style n p = "") ∧
      (∀ n p value, us.countP Update.addsNode ≤ n → d.setStyle n p value = d) ∧
      let only (k : Update.Kind) := empty.updateAll (us.filter fun u => u.kind = k)
      d = { nodes := (only .node).nodes, xpaths := (only .xpath).xpaths,
            selectors := (only .selector).selectors, rejected := (only .rejection).rejected } := by
  intro d doc
  have hlength : d.nodes.length = us.countP Update.addsNode :=
    (length_nodes_updateAll empty us).trans (Nat.zero_add _)
  have hevaluate (query : String) (root : Option NodeId) : doc.evaluate query root =
      answered us query ((latest (Update.result? query root) us).getD (.nodeSet [])) := by
    rw [← lookup_xpaths]
    exact answer_updateAll us query _
  have hselect (query : String) (root : Option NodeId) : doc.selectAll query root =
      answered us query ((latest (Update.elements? query root) us).getD []) := by
    rw [← lookup_selectors]
    exact answer_updateAll us query _
  refine ⟨fun _ => hlength, ⟨hevaluate, hselect, fun query root => ?_, fun query root => ?_,
    fun _ _ => rfl⟩, fun n => ?_, fun n p value hn => ?_, updateAll_eq us⟩
  · rw [hevaluate, exists_answered_eq_error_iff]
  · rw [hselect, exists_answered_eq_error_iff]
  · obtain hn | hn := Nat.lt_or_ge n (us.countP Update.addsNode)
    · obtain ⟨front, text, behind, rfl, rfl⟩ := exists_addNode_of_lt hn
      obtain ⟨htext, hstyle⟩ := node_updateAll front text behind
      exact .inl ⟨front, text, behind, rfl, rfl, htext, hstyle⟩
    · have hnone : d.nodes[n]? = none := List.getElem?_eq_none (hlength ▸ hn)
      refine .inr ⟨hn, ?_, fun p => ?_⟩
      · exact congrArg (Option.bind · StaticNode.text) hnone
      · exact congrArg (fun node : Option StaticNode =>
          (node.bind fun n => n.styles.lookup p).getD "") hnone
  · rw [setStyle, List.modify_eq_self (hlength ▸ hn)]

/-- A style that is given before its node is there, a query that is rejected before it is
registered, and answers given twice. -/
theorem answers_by_history_early_style :
    let us : List Update :=
      [.setStyle 1 "color" "red", .addNode none, .addNode (some "b"), .reject "//a" "no axis",
        .onXPath "//a" none (.node (some 0)), .onSelector "li" (some 0) [0],
        .setStyle 1 "width" "1px", .onSelector "li" (some 0) [1, 0], .reject "//a" "no step",
        .setStyle 1 "width" "2px"]
    let d := empty.updateAll us
    let doc := d.toDocument
    us.countP Update.addsNode = 2 ∧ (d.addNode none).2 = 2 ∧ d.setStyle 2 "color" "red" = d ∧
      doc.evaluate "//a" none = .error ⟨"//a", "no step"⟩ ∧
      doc.evaluate "//b" none = .ok (.nodeSet []) ∧
      doc.selectAll "li" (some 0) = .ok [1, 0] ∧ doc.selectFirst "li" (some 0) = .ok (some 1) ∧
      doc.selectAll "li" none = .ok [] ∧ doc.text? 1 = some "b" ∧ doc.style 1 "width" = "2px" ∧
      doc.style 1 "color" = "" := by
  intro us d doc
  obtain ⟨hid, ⟨hevaluate, hselect, -, -, hfirst⟩, -, hstyle, -⟩ := answers_by_history us
  have hcount : us.countP Update.addsNode = 2 := rfl
  refine ⟨hcount, hid none, hstyle 2 "color" "red" (Nat.le_of_eq hcount), hevaluate "//a" none,
    hevaluate "//b" none, hselect "li" (some 0), hfirst "li" (some 0), hselect "li" none, ?_, ?_,
    ?_⟩ <;> rfl

end Extraction.StaticDocument
