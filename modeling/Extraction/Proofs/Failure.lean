import Extraction.Proofs.Bytecode
import Extraction.Proofs.Execution
import Extraction.Proofs.Run
import Extraction.Proofs.Search
import Mathlib.Data.List.ReduceOption

/-!
# Instructions that fail

`Directive.Fails` lists the ways in which an instruction can fail, with the error and the
environment that each of them leaves; `Directive.execute_eq_error_iff` says that there are no
others.  The stack takes part in none of them, and nothing but the visited nodes is ever left
changed: a search that a node of the scope rejects has visited what it found on the nodes before.

A loaded program gives every instruction an argument, so none of its runs misses one.
-/

namespace Extraction

variable {ν : Type} {doc : Document ν} {env env' : Env ν} {stack : Stack}
variable {text : String} {args : List String} {e : RuntimeError}

/-! ## The ways to fail -/

/-- A result that is not made of nodes. -/
def XPathResult.IsScalar : XPathResult ν → Prop
  | .number _ | .string _ | .boolean _ => True
  | .node _ | .nodeSet _ => False

theorem XPathResult.nodes?_eq_none_iff {r : XPathResult ν} : r.nodes? = none ↔ r.IsScalar := by
  cases r <;> simp [nodes?, IsScalar]

namespace Directive

/-- How a directive can fail on its arguments in an environment: the environment it leaves, and the
error. -/
inductive Fails (doc : Document ν) (env : Env ν) :
    Directive → List String → Env ν → RuntimeError → Prop
  | layout {args : List String} : Fails doc env .layout args env .layoutAtRuntime
  | missing {d : Directive} : d ≠ .layout → Fails doc env d [] env (.missingArgument 0)
  | pattern {d : Directive} {text : String} {args : List String} {cause : Pattern.Error} :
      d.takesPattern → Pattern.ofString text = .error cause →
        Fails doc env d (text :: args) env (.invalidPattern text cause)
  | follow {xpath : String} {args : List String} {found : List (XPathResult ν)}
      {cause : QueryError} :
      Rejected (doc.evaluate xpath none) (fun n => doc.evaluate xpath (some n)) env.scope found
          cause →
        Fails doc env .follow (xpath :: args)
          { env with visited := found.filterMap XPathResult.firstNode? } (.query cause)
  | select {selector : String} {args : List String} {found : List (Option ν)}
      {cause : QueryError} :
      Rejected (doc.selectAll selector none) (fun n => doc.selectFirst selector (some n)) env.scope
          found cause →
        Fails doc env .select (selector :: args) { env with visited := found.reduceOption }
          (.query cause)
  | bundle {xpath : String} {args : List String} {cause : QueryError} :
      xpath ≠ Env.clearScope → doc.evaluate xpath none = .error cause →
        Fails doc env .bundle (xpath :: args) env (.query cause)
  | scalar {xpath : String} {args : List String} {r : XPathResult ν} :
      xpath ≠ Env.clearScope → doc.evaluate xpath none = .ok r → r.IsScalar →
        Fails doc env .bundle (xpath :: args) env (.notANodeSet xpath)

variable {d : Directive}

/-- Without arguments, all directives but `layout` fail alike. -/
theorem execute_nil (hd : d ≠ .layout) :
    d.execute doc env stack [] = (env, .error (.missingArgument 0)) := by
  cases d <;> first | exact absurd rfl hd | rfl

end Directive

/-- Given an argument, a change of the top frame fails exactly if a pattern is needed and the
argument is none. -/
theorem Directive.execute_eq_error_iff_of_frameChange? {d : Directive}
    {change : Except RuntimeError FrameChange} (h : d.frameChange? (text :: args) = some change) :
    d.execute doc env stack (text :: args) = (env', .error e) ↔
      d.takesPattern ∧ env' = env ∧
        ∃ cause, Pattern.ofString text = .error cause ∧ e = .invalidPattern text cause := by
  rw [execute_of_frameChange? h, changeTop, Prod.mk.injEq, map_eq_error_iff,
    frameChange?_eq_error_iff h]
  split
  case isTrue ht =>
    rw [patternArg_eq_error_iff]
    simp [ht, eq_comm]
  case isFalse ht =>
    rw [arg_zero_eq_error_iff]
    simp [ht]

namespace Env

theorem pushVisit_cons_eq_error_iff {query : String → Visit ν} :
    pushVisit query env stack (text :: args) = (env', .error e) ↔
      ∃ visited, query text = (visited, .error e) ∧ env' = { env with visited } := by
  simp only [pushVisit, arg, List.getElem?_cons_zero, Prod.mk.injEq, map_eq_error_iff]
  constructor
  · rintro ⟨rfl, h⟩
    exact ⟨_, Prod.ext rfl h, rfl⟩
  · rintro ⟨visited, h, rfl⟩
    rw [h]
    exact ⟨rfl, rfl⟩

/-- A directive that searches fails as its search is rejected. -/
theorem search_cons_eq_error_iff {α β : Type} {whole : Except QueryError α}
    {onNode : ν → Except QueryError β} {f : α → List ν × Frame} {read : β → Reading ν}
    {first : β → Option ν} {query : String → Visit ν}
    (hread : ∀ b, (read b).nodes = (first b).toList)
    (hquery : query text = visit env.scope (whole.map f) fun n => (onNode n).map read) :
    pushVisit query env stack (text :: args) = (env', .error e) ↔
      ∃ found cause, Rejected whole onNode env.scope found cause ∧
        env' = { env with visited := found.filterMap first } ∧ e = .query cause := by
  rw [pushVisit_cons_eq_error_iff, hquery]
  constructor
  · rintro ⟨visited, hv, rfl⟩
    obtain ⟨found, cause, hr, rfl, rfl⟩ := (visit_eq_error_iff hread).1 hv
    exact ⟨found, cause, hr, rfl, rfl⟩
  · rintro ⟨found, cause, hr, rfl, rfl⟩
    exact ⟨_, (visit_eq_error_iff hread).2 ⟨found, cause, hr, rfl, rfl⟩, rfl⟩

theorem follow_cons_eq_error_iff {xpath : String} :
    follow doc env stack (xpath :: args) = (env', .error e) ↔
      ∃ found cause,
        Rejected (doc.evaluate xpath none) (fun n => doc.evaluate xpath (some n)) env.scope found
          cause ∧
        env' = { env with visited := found.filterMap XPathResult.firstNode? } ∧
          e = .query cause :=
  search_cons_eq_error_iff XPathResult.nodes_reading rfl

theorem select_cons_eq_error_iff {selector : String} :
    select doc env stack (selector :: args) = (env', .error e) ↔
      ∃ found cause,
        Rejected (doc.selectAll selector none) (fun n => doc.selectFirst selector (some n))
          env.scope found cause ∧
        env' = { env with visited := found.reduceOption } ∧ e = .query cause :=
  search_cons_eq_error_iff nodes_readNode rfl

theorem bundle_cons_eq_error_iff {xpath : String} :
    bundle doc env stack (xpath :: args) = (env', .error e) ↔
      xpath ≠ clearScope ∧ env' = env ∧
        ((∃ cause, doc.evaluate xpath none = .error cause ∧ e = .query cause) ∨
          ∃ r, doc.evaluate xpath none = .ok r ∧ r.IsScalar ∧ e = .notANodeSet xpath) := by
  simp only [bundle, arg, List.getElem?_cons_zero]
  by_cases hx : xpath = clearScope
  · simp [hx]
  · rw [if_neg hx]
    cases hr : doc.evaluate xpath none with
    | error cause => simp [hx, eq_comm]
    | ok r =>
        simp only [← XPathResult.nodes?_eq_none_iff]
        cases hn : r.nodes? with
        | none => simp [hx, hn, eq_comm]
        | some ns => simp [hn]

end Env

namespace Directive

variable {d : Directive}

/-- A directive fails in one of the listed ways, and in no other. -/
theorem execute_eq_error_iff :
    d.execute doc env stack args = (env', .error e) ↔ d.Fails doc env args env' e := by
  constructor
  · intro h
    cases args with
    | nil =>
        by_cases hd : d = .layout
        · subst hd
          cases h
          exact .layout
        · rw [execute_nil hd] at h
          cases h
          exact .missing hd
    | cons text args =>
        cases d with
        | drop | extract | glue | insert | keep | remove | replace =>
            obtain ⟨ht, rfl, cause, hp, rfl⟩ := (execute_eq_error_iff_of_frameChange? rfl).1 h
            exact .pattern ht hp
        | follow =>
            obtain ⟨found, cause, hr, rfl, rfl⟩ := Env.follow_cons_eq_error_iff.1 h
            exact .follow hr
        | select =>
            obtain ⟨found, cause, hr, rfl, rfl⟩ := Env.select_cons_eq_error_iff.1 h
            exact .select hr
        | bundle =>
            rw [execute, Env.bundle_cons_eq_error_iff] at h
            obtain ⟨hx, rfl, ⟨cause, hc, rfl⟩ | ⟨r, hr, hs, rfl⟩⟩ := h
            · exact .bundle hx hc
            · exact .scalar hx hr hs
        | label | prompt | style => cases h
        | layout =>
            cases h
            exact .layout
  · intro h
    cases h with
    | layout => rfl
    | missing hd => exact execute_nil hd
    | pattern ht hp =>
        cases d with
        | drop | extract | keep | replace =>
            exact (execute_eq_error_iff_of_frameChange? rfl).2 ⟨ht, rfl, _, hp, rfl⟩
        | bundle | follow | glue | insert | label | layout | prompt | remove | select | style =>
            cases ht
    | follow hr => exact Env.follow_cons_eq_error_iff.2 ⟨_, _, hr, rfl, rfl⟩
    | select hr => exact Env.select_cons_eq_error_iff.2 ⟨_, _, hr, rfl, rfl⟩
    | bundle hx hc =>
        rw [execute, Env.bundle_cons_eq_error_iff]
        exact ⟨hx, rfl, .inl ⟨_, hc, rfl⟩⟩
    | scalar hx hr hs =>
        rw [execute, Env.bundle_cons_eq_error_iff]
        exact ⟨hx, rfl, .inr ⟨_, hr, hs, rfl⟩⟩

/-- No directive but `layout` complains about being executed. -/
theorem execute_eq_layoutAtRuntime_iff :
    (d.execute doc env stack args).2 = .error .layoutAtRuntime ↔ d = .layout := by
  constructor
  · intro h
    obtain ⟨env', hx⟩ : ∃ env', d.execute doc env stack args = (env', .error .layoutAtRuntime) :=
      ⟨_, Prod.ext rfl h⟩
    cases execute_eq_error_iff.1 hx with
    | layout => rfl
  · rintro rfl
    rfl

/-- What has the arguments that it needs succeeds on a document that rejects nothing. -/
theorem exists_execute_blank (hd : d ≠ .layout) (ha : d.Accepts args) (env : Env ν)
    (stack : Stack) : ∃ env' stack', d.execute .blank env stack args = (env', .ok stack') := by
  cases hx : d.execute .blank env stack args with
  | mk env' result =>
      cases result with
      | ok stack' => exact ⟨env', stack', rfl⟩
      | error e =>
          cases execute_eq_error_iff.1 hx with
          | layout => exact absurd rfl hd
          | missing =>
              rw [Accepts] at ha
              split at ha
              · obtain ⟨p, hp⟩ := ha
                cases hp
              · exact absurd rfl ha
          | @pattern _ text _ _ ht hp =>
              rw [Accepts, if_pos ht] at ha
              obtain ⟨p, hp'⟩ := ha
              simp [patternArg, arg, hp] at hp'
          | follow hr | select hr =>
              exact absurd hr (not_rejected_of_forall_ok ⟨_, rfl⟩ fun n => ⟨_, rfl⟩)
          | bundle _ h => cases h
          | scalar _ h hs =>
              cases h
              cases hs

end Directive

/-! ## What a failing instruction leaves -/

namespace Directive

variable {d : Directive}

/-- What fails leaves repository, commands and calls as they were, and the scope. -/
theorem Fails.unchanged (h : d.Fails doc env args env' e) :
    env'.context = env.context ∧ env'.scope = env.scope := by
  cases h <;> exact ⟨rfl, rfl⟩

/-- The directives that search the scope. -/
def searches : Directive → Bool
  | .follow | .select => true
  | _ => false

/-- What a search finds on a node of the scope. -/
def firstMatch (doc : Document ν) (text : String) :
    Directive → ν → Except QueryError (Option ν)
  | .follow, n => (doc.evaluate text (some n)).map XPathResult.firstNode?
  | .select, n => doc.selectFirst text (some n)
  | _, _ => .ok none

/-- A search that fails has visited what it found before. -/
theorem Fails.split {cause : QueryError} (h : d.Fails doc env args env' (.query cause))
    (hd : d.searches) :
    ∃ text found, args.head? = some text ∧ env'.visited = found.reduceOption ∧
      (env.scope = none → found = []) ∧
      ∀ ns, env.scope = some ns → ∃ front n rest, ns = front ++ n :: rest ∧
        front.map (d.firstMatch doc text) = found.map .ok ∧
          d.firstMatch doc text n = .error cause := by
  cases h with
  | @follow xpath _ found _ hr =>
      refine ⟨xpath, found.map XPathResult.firstNode?, rfl, ?_, (hr.map _).split⟩
      rw [List.reduceOption, List.filterMap_map]
      rfl
  | select hr => exact ⟨_, _, rfl, rfl, hr.split⟩
  | bundle => cases hd

/-- A failing instruction leaves repository, commands, calls and scope as they were.  The visited
nodes are left as well, except by a search that was rejected: it has visited nothing if there is no
scope, and otherwise what it found on the nodes before the first that rejects it. -/
theorem execute_error_leaves (h : d.execute doc env stack args = (env', .error e)) :
    env'.context = env.context ∧ env'.scope = env.scope ∧
      (¬ (d.searches ∧ ∃ cause, e = .query cause) → env'.visited = env.visited) ∧
      ∀ cause, d.searches → e = .query cause →
        (env.scope = none → env'.visited = []) ∧
        ∀ ns, env.scope = some ns → ∃ (text : String) (front : List ν) (n : ν) (rest : List ν)
            (found : List (Option ν)), args.head? = some text ∧ ns = front ++ n :: rest ∧
          front.map (d.firstMatch doc text) = found.map .ok ∧
            d.firstMatch doc text n = .error cause ∧ env'.visited = found.reduceOption := by
  have hf : d.Fails doc env args env' e := execute_eq_error_iff.1 h
  obtain ⟨hcontext, hscope⟩ := hf.unchanged
  refine ⟨hcontext, hscope, ?_, ?_⟩
  · intro hn
    cases hf with
    | layout | missing | pattern | bundle | scalar => rfl
    | follow | select => exact absurd ⟨rfl, _, rfl⟩ hn
  · rintro cause hd rfl
    obtain ⟨text, found, htext, hvisited, hnone, hsome⟩ := hf.split hd
    constructor
    · intro hs
      rw [hvisited, hnone hs]
      rfl
    · intro ns hs
      obtain ⟨front, n, rest, hns, hfound, hn⟩ := hsome ns hs
      exact ⟨text, front, n, rest, found, htext, hns, hfound, hn, hvisited⟩

/-- The second node of the scope has no match, and the third rejects the search. -/
theorem execute_error_leaves_third_rejects :
    let doc : Document Nat :=
      { Document.blank with
        selectFirst := fun selector root =>
          match root with
          | some 3 => .error ⟨selector, "unexpected token"⟩
          | some 1 => .ok (some 11)
          | _ => .ok none }
    let env : Env Nat := { scope := some [1, 2, 3, 4], visited := [1, 2, 3, 4] }
    let outcome := Directive.select.execute doc env .empty ["a"]
    outcome.2 = .error (.query ⟨"a", "unexpected token"⟩) ∧
      outcome.1.context = env.context ∧ outcome.1.scope = env.scope ∧
      ∃ (text : String) (front : List Nat) (n : Nat) (rest : List Nat) (found : List (Option Nat)),
        ["a"].head? = some text ∧ [1, 2, 3, 4] = front ++ n :: rest ∧
          front.map (Directive.select.firstMatch doc text) = found.map .ok ∧
          Directive.select.firstMatch doc text n = .error ⟨"a", "unexpected token"⟩ ∧
          outcome.1.visited = found.reduceOption ∧ outcome.1.visited = [11] := by
  intro doc env outcome
  have h : Directive.select.execute doc env .empty ["a"] =
      (outcome.1, .error (.query ⟨"a", "unexpected token"⟩)) := rfl
  obtain ⟨hcontext, hscope, -, hrejected⟩ := execute_error_leaves h
  obtain ⟨text, front, n, rest, found, htext, hns, hfound, hn, hvisited⟩ :=
    (hrejected _ rfl rfl).2 _ rfl
  exact ⟨rfl, hcontext, hscope, text, front, n, rest, found, htext, hns, hfound, hn, hvisited, rfl⟩

end Directive

/-! ## Runs that fail -/

/-- What a run fails with is a way to fail of the instruction that it names. -/
theorem Machine.exists_fails_index_of_faults {m : Machine ν} {f : Fault} (h : m.Faults doc f) :
    ∃ i, m.instructions[f.index]? = some i ∧
      ∃ env env', i.directive.Fails doc env i.args env' f.source := by
  obtain ⟨n, hn⟩ := h
  obtain ⟨i, env', hi, hx, hf⟩ := step_eq_fault_iff.1 hn
  obtain ⟨-, hpc⟩ := current?_eq_some_iff.1 hi
  rw [instructions_after] at hpc
  rw [hf]
  exact ⟨i, hpc, _, env', Directive.execute_eq_error_iff.1 hx⟩

theorem Machine.exists_fails_of_faults {m : Machine ν} {f : Fault} (h : m.Faults doc f) :
    ∃ i ∈ m.instructions, ∃ env env', i.directive.Fails doc env i.args env' f.source := by
  obtain ⟨i, hi, hfails⟩ := exists_fails_index_of_faults h
  exact ⟨i, List.mem_of_getElem? hi, hfails⟩

/-- The step that ends a run leaves repository, commands and calls as they were. -/
theorem Machine.context_of_ended {m : Machine ν} (h : ∀ stack, (m.step doc).2 ≠ .ok stack) :
    (m.step doc).1.env.context = m.env.context := by
  obtain ⟨-, hs⟩ | ⟨i, -, ⟨env, stack, -, hs⟩ | ⟨env, e, hx, hs⟩⟩ := step_cases doc m
  · rw [hs]
  · exact absurd (congrArg Prod.snd hs) (h stack)
  · rw [hs]
    exact (Directive.execute_eq_error_iff.1 hx).unchanged.1

/-- Only what has no arguments misses one. -/
theorem Directive.Fails.eq_nil {d : Directive} {index : Nat}
    (h : d.Fails doc env args env' (.missingArgument index)) : args = [] := by
  cases h
  rfl

/-- What fails as a search does fails in a scope as soon as one node rejects it. -/
theorem exists_query_error_iff {α β : Type} {whole : Except QueryError α}
    {onNode : ν → Except QueryError β} {ns : List ν} {outcome : Outcome ν} {left : List β → Env ν}
    (h : ∀ env' e, outcome = (env', .error e) ↔ ∃ found cause,
      Rejected whole onNode env.scope found cause ∧ env' = left found ∧ e = .query cause)
    (hs : env.scope = some ns) :
    (∃ cause, outcome.2 = .error (.query cause)) ↔ ∃ n ∈ ns, ∃ cause, onNode n = .error cause := by
  rw [← exists_rejected_iff whole, ← hs]
  constructor
  · rintro ⟨cause, hcause⟩
    obtain ⟨found, cause', hr, -, -⟩ := (h outcome.1 _).1 (Prod.ext rfl hcause)
    exact ⟨found, cause', hr⟩
  · rintro ⟨found, cause, hr⟩
    exact ⟨cause, congrArg Prod.snd ((h _ _).2 ⟨found, cause, hr, rfl, rfl⟩)⟩

/-- Which instructions fail, and with which error, whatever the stack.  In a scope, a search fails
as soon as one node rejects it.  A run of a loaded program never misses an argument. -/
theorem failure_causes (doc : Document ν) :
    (∀ (d : Directive) (env env' : Env ν) (stack : Stack) (args : List String)
        (e : RuntimeError),
      d.execute doc env stack args = (env', .error e) ↔ d.Fails doc env args env' e) ∧
    (∀ (env : Env ν) (ns : List ν), env.scope = some ns →
      ∀ (stack : Stack) (text : String) (args : List String),
        ((∃ cause, (Directive.follow.execute doc env stack (text :: args)).2 =
            .error (.query cause)) ↔ ∃ n ∈ ns, ∃ cause, doc.evaluate text (some n) = .error cause) ∧
        ((∃ cause, (Directive.select.execute doc env stack (text :: args)).2 =
            .error (.query cause)) ↔
          ∃ n ∈ ns, ∃ cause, doc.selectFirst text (some n) = .error cause)) ∧
    ∀ (bytes : List UInt8) (p : Program), Program.load bytes = .ok p →
      ∀ (c : Context) (f : Fault), (Machine.ofProgram p c).Faults doc f →
        ∀ index, f.source ≠ .missingArgument index := by
  refine ⟨fun _ _ _ _ _ _ => Directive.execute_eq_error_iff, ?_, ?_⟩
  · intro env ns hs stack text args
    exact ⟨exists_query_error_iff (fun _ _ => Env.follow_cons_eq_error_iff) hs,
      exists_query_error_iff (fun _ _ => Env.select_cons_eq_error_iff) hs⟩
  · intro bytes p hp c f hf index hmissing
    obtain ⟨i, hi, env, env', hfails⟩ := Machine.exists_fails_of_faults hf
    rw [hmissing] at hfails
    obtain ⟨hloadable, -⟩ := Program.load_eq_ok_iff.1 hp
    exact (hloadable.instructions i hi).ne_nil hfails.eq_nil

/-- A program of one search, on a document that rejects it, and the same search in a scope. -/
theorem failure_causes_rejected_search :
    let doc : Document Unit :=
      { Document.blank with evaluate := fun xpath _ => .error ⟨xpath, "unexpected token"⟩ }
    let env : Env Unit := { scope := some [(), ()] }
    let bytes := [8, 118, 105, 118, 105, 100, 0, 49, 46, 48, 0, 0, 3, 91, 0, 0]
    let p : Program := ⟨1.0, ["vivid", "1.0"], [⟨.follow, ["["]⟩]⟩
    let f : Fault := ⟨0, .follow, .query ⟨"[", "unexpected token"⟩⟩
    (∃ cause, (Directive.follow.execute doc env .empty ["["]).2 = .error (.query cause)) ∧
      Program.load bytes = .ok p ∧ (Machine.ofProgram p .empty).Faults doc f ∧
        ∀ index, f.source ≠ .missingArgument index := by
  intro doc env bytes p f
  obtain ⟨-, hscope, hrun⟩ := failure_causes doc
  have hp : Program.load bytes = .ok p :=
    Program.load_eq_ok_iff_decodeAll.2 ⟨by decide, by decide +kernel, by decide +kernel⟩
  have hf : (Machine.ofProgram p .empty).Faults doc f := ⟨0, rfl⟩
  have hquery := (hscope env [(), ()] rfl .empty "[" []).1.2
    ⟨(), List.mem_cons_self, ⟨"[", "unexpected token"⟩, rfl⟩
  exact ⟨hquery, hp, hf, hrun bytes p hp .empty f hf⟩

end Extraction
