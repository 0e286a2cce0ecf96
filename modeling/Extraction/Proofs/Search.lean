import Extraction.Machine.QueryDirectives
import Extraction.Proofs.Basic
import Mathlib.Data.List.Basic

/-!
# Searches

A search is put to the whole document or to the nodes of a scope, one after the other.  `Rejected`
says where it can break off, and what was found until then; `visit_eq_error_iff` says that this is
how visiting fails, and that what was found is what was visited.  `visit_eq_ok_iff` says the same of
a search that succeeds.
-/

namespace Extraction

variable {ν : Type}

/-! ## Rejection -/

/-- Of a list of attempts, all succeed or there is a first one that fails. -/
theorem forall_ok_or_exists_first_error {ε α β : Type} (f : α → Except ε β) (as : List α) :
    (∃ bs : List β, as.map f = bs.map .ok) ∨
      ∃ (front : List α) (a : α) (rest : List α) (bs : List β) (e : ε),
        as = front ++ a :: rest ∧ front.map f = bs.map .ok ∧ f a = .error e := by
  induction as with
  | nil => exact .inl ⟨[], rfl⟩
  | cons a as ih =>
      cases hf : f a with
      | error e => exact .inr ⟨[], a, as, [], e, rfl, rfl, hf⟩
      | ok b =>
          rcases ih with ⟨bs, hbs⟩ | ⟨front, a', rest, bs, e, rfl, hbs, he⟩
          · exact .inl ⟨b :: bs, by rw [List.map_cons, hf, hbs, List.map_cons]⟩
          · refine .inr ⟨a :: front, a', rest, b :: bs, e, rfl, ?_, he⟩
            rw [List.map_cons, hf, hbs, List.map_cons]

section Rejected

variable {α β : Type}

/-- A search is rejected for the whole document, or by a node of the scope when it was answered on
all nodes before. -/
inductive Rejected (whole : Except QueryError α) (onNode : ν → Except QueryError β) :
    Option (List ν) → List β → QueryError → Prop
  | whole {cause : QueryError} : whole = .error cause → Rejected whole onNode none [] cause
  | node {front rest : List ν} {n : ν} {found : List β} {cause : QueryError} :
      front.map onNode = found.map .ok → onNode n = .error cause →
        Rejected whole onNode (some (front ++ n :: rest)) found cause

variable {whole : Except QueryError α} {onNode : ν → Except QueryError β}
variable {scope : Option (List ν)} {cause : QueryError} {found : List β}

/-- Rejection does not depend on what is made of the answers. -/
theorem Rejected.map {γ : Type} (h : Rejected whole onNode scope found cause) (f : β → γ) :
    Rejected whole (fun n => (onNode n).map f) scope (found.map f) cause := by
  cases h with
  | whole h => exact .whole h
  | node hf hn =>
      refine .node ?_ (map_eq_error_iff.2 hn)
      calc
        _ = (List.map onNode _).map (Except.map f) := List.map_map.symm
        _ = _ := by rw [hf, List.map_map, List.map_map]; rfl

/-- Where a search was rejected, and what was found until then. -/
theorem Rejected.split (h : Rejected whole onNode scope found cause) :
    (scope = none → found = []) ∧
      ∀ ns, scope = some ns → ∃ front n rest, ns = front ++ n :: rest ∧
        front.map onNode = found.map .ok ∧ onNode n = .error cause := by
  cases h with
  | whole => exact ⟨fun _ => rfl, nofun⟩
  | node hf hn =>
      refine ⟨nofun, ?_⟩
      rintro ns hns
      cases hns
      exact ⟨_, _, _, rfl, hf, hn⟩

/-- What is answered everywhere is not rejected. -/
theorem not_rejected_of_forall_ok (hw : ∃ a, whole = .ok a) (hn : ∀ n, ∃ b, onNode n = .ok b) :
    ¬ Rejected whole onNode scope found cause := by
  intro hr
  cases hr with
  | whole h =>
      obtain ⟨a, rfl⟩ := hw
      cases h
  | @node _ _ n _ _ _ h =>
      obtain ⟨b, hb⟩ := hn n
      rw [hb] at h
      cases h

/-- In a scope, it is enough that one node rejects the search. -/
theorem exists_rejected_iff (whole : Except QueryError α) {ns : List ν} :
    (∃ found cause, Rejected whole onNode (some ns) found cause) ↔
      ∃ n ∈ ns, ∃ cause, onNode n = .error cause := by
  constructor
  · rintro ⟨found, cause, hr⟩
    cases hr with
    | node _ hn => exact ⟨_, List.mem_append_right _ List.mem_cons_self, cause, hn⟩
  · rintro ⟨n, hn, cause, hcause⟩
    rcases forall_ok_or_exists_first_error onNode ns with
      ⟨found, hf⟩ | ⟨front, k, rest, found, e, rfl, hf, hk⟩
    · obtain ⟨b, -, hb⟩ := List.mem_map.1 (hf ▸ List.mem_map_of_mem hn)
      rw [hcause] at hb
      cases hb
    · exact ⟨found, e, .node hf hk⟩

end Rejected

/-! ## Visits -/

/-- The node of a result that counts in a scope. -/
def XPathResult.firstNode? : XPathResult ν → Option ν
  | .node n => n
  | .nodeSet ns => ns.head?
  | .number _ | .string _ | .boolean _ => none

theorem nodes_readNode {doc : Document ν} (n : Option ν) : (readNode doc n).nodes = n.toList := by
  cases n <;> rfl

theorem XPathResult.nodes_reading {doc : Document ν} (r : XPathResult ν) :
    (r.reading doc).nodes = r.firstNode?.toList := by
  cases r with
  | node n => exact nodes_readNode n
  | nodeSet ns => exact nodes_readNode ns.head?
  | number | string | boolean => rfl

section Visit

variable {α β : Type} {whole : Except QueryError α} {onNode : ν → Except QueryError β}
variable {scope : Option (List ν)} {cause : QueryError} {found : List β} {read : β → Reading ν}

/-- The nodes at the front of a scope, as far as they answer. -/
theorem visitScope_append {front : List ν} (h : front.map onNode = found.map .ok) (ns : List ν) :
    let query n := (onNode n).map read
    visitScope query (front ++ ns) =
      (found.flatMap (fun b => (read b).nodes) ++ (visitScope query ns).1,
        (visitScope query ns).2.map (found.map (fun b => (read b).text) ++ ·)) := by
  intro query
  induction front generalizing found with
  | nil =>
      obtain rfl : found = [] := List.map_eq_nil_iff.1 h.symm
      cases h : visitScope query ns with
      | mk visited frame => cases frame <;> simp [h, Except.map]
  | cons n front ih =>
      cases found with
      | nil => cases h
      | cons b found =>
          obtain ⟨hn, hfront⟩ := List.cons.inj h
          have hq : query n = .ok (read b) := congrArg (Except.map read) hn
          rw [List.cons_append, visitScope, hq]
          simp only [ih hfront, List.flatMap_cons, List.map_cons, List.append_assoc]
          cases (visitScope query ns).2 <;> rfl

/-- Where no node rejects the search, all that was found is visited. -/
theorem visitScope_of_ok {ns : List ν} (h : ns.map onNode = found.map .ok) :
    visitScope (fun n => (onNode n).map read) ns =
      (found.flatMap (fun b => (read b).nodes), .ok (found.map fun b => (read b).text)) := by
  rw [← List.append_nil ns, visitScope_append h]
  simp [visitScope, Except.map]

/-- Behind a node that rejects the search, nothing is visited. -/
theorem visitScope_of_error {front rest : List ν} {n : ν}
    (h : front.map onNode = found.map .ok) (hn : onNode n = .error cause) :
    visitScope (fun n => (onNode n).map read) (front ++ n :: rest) =
      (found.flatMap fun b => (read b).nodes, .error (.query cause)) := by
  have hq : (onNode n).map read = .error cause := map_eq_error_iff.2 hn
  rw [visitScope_append h, visitScope, hq]
  exact congrArg (·, _) (List.append_nil _)

theorem flatMap_nodes {first : β → Option ν} (hread : ∀ b, (read b).nodes = (first b).toList)
    (found : List β) : found.flatMap (fun b => (read b).nodes) = found.filterMap first := by
  simp only [hread, List.filterMap_eq_flatMap_toList]

/-- What a search that succeeds has visited, and what it gives: the answer for the whole document,
or one string for each node of the scope. -/
theorem visit_eq_ok_iff {f : α → List ν × Frame} {first : β → Option ν} {visited : List ν}
    {frame : Frame} (hread : ∀ b, (read b).nodes = (first b).toList) :
    visit scope (whole.map f) (fun n => (onNode n).map read) = (visited, .ok frame) ↔
      (scope = none ∧ ∃ a, whole = .ok a ∧ f a = (visited, frame)) ∨
        ∃ (ns : List ν) (found : List β), scope = some ns ∧ ns.map onNode = found.map .ok ∧
          visited = found.filterMap first ∧ frame = found.map fun b => (read b).text := by
  constructor
  · intro h
    cases scope with
    | none =>
        cases whole with
        | error cause => cases h
        | ok a =>
            obtain ⟨hv, hf⟩ := Prod.mk.inj h
            exact .inl ⟨rfl, a, rfl, Prod.ext hv (Except.ok.inj hf)⟩
    | some ns =>
        rcases forall_ok_or_exists_first_error onNode ns with
          ⟨found, hf⟩ | ⟨front, n, rest, found, cause, rfl, hf, hn⟩
        · rw [visit, visitScope_of_ok hf, flatMap_nodes hread] at h
          cases h
          exact .inr ⟨ns, found, rfl, hf, rfl, rfl⟩
        · rw [visit, visitScope_of_error hf hn] at h
          cases h
  · rintro (⟨rfl, a, rfl, ha⟩ | ⟨ns, found, rfl, hf, rfl, rfl⟩)
    · simp [visit, Except.map, ha]
    · rw [visit, visitScope_of_ok hf, flatMap_nodes hread]

/-- A search fails exactly if it is rejected, and has visited what it found before. -/
theorem visit_eq_error_iff {f : α → List ν × Frame} {first : β → Option ν} {visited : List ν}
    {e : RuntimeError} (hread : ∀ b, (read b).nodes = (first b).toList) :
    visit scope (whole.map f) (fun n => (onNode n).map read) = (visited, .error e) ↔
      ∃ found cause, Rejected whole onNode scope found cause ∧ visited = found.filterMap first ∧
        e = .query cause := by
  constructor
  · intro h
    cases scope with
    | none =>
        cases whole with
        | error cause =>
            cases h
            exact ⟨[], cause, .whole rfl, rfl, rfl⟩
        | ok a => cases h
    | some ns =>
        rcases forall_ok_or_exists_first_error onNode ns with
          ⟨found, hf⟩ | ⟨front, n, rest, found, cause, rfl, hf, hn⟩
        · rw [visit, visitScope_of_ok hf] at h
          cases h
        · rw [visit, visitScope_of_error hf hn, flatMap_nodes hread] at h
          cases h
          exact ⟨found, cause, .node hf hn, rfl, rfl⟩
  · rintro ⟨found, cause, hr, rfl, rfl⟩
    cases hr with
    | whole h =>
        subst h
        rfl
    | node hf hn => rw [visit, visitScope_of_error hf hn, flatMap_nodes hread]

end Visit

end Extraction
