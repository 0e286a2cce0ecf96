import Extraction.Proofs.ByteOrder
import Extraction.Proofs.Operations
import Mathlib.Data.List.DropRight

/-!
# A context as a store

What a context holds is told by the operations that made it.  A label has the values that were
appended to it since the repository was cleared last (`get?_performAll_empty`), and the repository
is a table of these, in the order of the bytes of the labels.  Repository and commands are two
stores side by side: each is what the operations on it make of it, whatever is done to the other
(`repository_performAll`, `commands_performAll`).
-/

namespace Extraction

open Extraction.Text

/-! ## Repositories as tables -/

namespace Repository

variable {r r' : Repository} {label : String} {values : List String}

theorem mem_entries_iff : (label, values) ∈ r.entries ↔ r.get? label = some values := by
  obtain ⟨es, hs⟩ := r
  rw [get?]
  induction es with
  | nil => exact iff_of_false nofun nofun
  | cons e es ih =>
      obtain ⟨l, vs⟩ := e
      obtain ⟨hl, hes⟩ := List.pairwise_cons.1 hs
      rw [List.mem_cons, List.lookup_cons, Prod.mk.injEq]
      by_cases h : label = l
      · have hnot : (label, values) ∉ es := fun hmem =>
          String.lt_irrefl label (h ▸ hl _ hmem)
        simp [h, h ▸ hnot, eq_comm]
      · rw [beq_false_of_ne h]
        simpa [h] using ih hes

theorem mem_labels_iff : label ∈ r.labels ↔ ∃ values, r.get? label = some values := by
  simp only [labels, List.mem_map, Prod.exists, exists_and_right, exists_eq_right, mem_entries_iff]

/-- A repository is told by what it has under each label. -/
theorem eq_of_get? (h : ∀ l, r.get? l = r'.get? l) : r = r' := by
  have hnodup (r : Repository) : r.entries.Nodup := by
    refine r.sorted.imp fun hlt => ?_
    rintro rfl
    exact String.lt_irrefl _ hlt
  have hperm : r.entries.Perm r'.entries := by
    rw [List.perm_ext_iff_of_nodup (hnodup r) (hnodup r')]
    rintro ⟨l, vs⟩
    rw [mem_entries_iff, mem_entries_iff, h]
  have hentries : r.entries = r'.entries :=
    hperm.eq_of_pairwise (fun a b _ _ hab hba =>
      absurd (String.lt_trans hab hba) (String.lt_irrefl _)) r.sorted r'.sorted
  obtain ⟨es, hs⟩ := r
  cases hentries
  rfl

theorem append_comm {l l' : String} (h : l ≠ l') (values values' : List String) :
    (r.append l values).append l' values' = (r.append l' values').append l values := by
  refine eq_of_get? fun k => ?_
  simp only [get?_append]
  grind

theorem isEmpty_iff : r.isEmpty = true ↔ ∀ l, r.get? l = none := by
  rw [isEmpty, List.isEmpty_iff, List.eq_nil_iff_forall_not_mem, Prod.forall]
  simp only [mem_entries_iff, Option.eq_none_iff_forall_ne_some, ne_eq]

/-- The labels are in the order of their bytes, so that none is there twice. -/
theorem pairwise_labels (r : Repository) : (r.labels.map Utf8.encode).Pairwise (· < ·) := by
  rw [labels, List.pairwise_map, List.pairwise_map]
  exact r.sorted.imp Utf8.encode_lt_encode_iff.2

end Repository

namespace Context

variable {c c' : Context} {ops : List Operation} {o : Operation} {label : String}

/-! ## What is appended -/

/-- The operation clears the repository. -/
def Operation.clears : Operation → Bool
  | .clear | .reset => true
  | .append .. | .register .. | .remove .. | .call .. => false

/-- What an operation appends to the values of a label. -/
def Operation.appended? (label : String) : Operation → Option (List String)
  | .append l values => if l = label then some values else none
  | .clear | .reset | .register .. | .remove .. | .call .. => none

/-- What operations append to the values of a label, from the last on that clears the repository. -/
def appended (ops : List Operation) (label : String) : List (List String) :=
  (ops.rtakeWhile fun o => !o.clears).filterMap (Operation.appended? label)

theorem performAll_concat : c.performAll (ops ++ [o]) = (c.performAll ops).perform o :=
  List.foldl_concat _ _ _ _

theorem appended_concat (ops : List Operation) (o : Operation) (label : String) :
    appended (ops ++ [o]) label =
      if o.clears then [] else appended ops label ++ (o.appended? label).toList := by
  rw [appended, List.rtakeWhile_concat]
  cases o.clears with
  | true => rfl
  | false =>
      simp only [Bool.not_false, if_true, List.filterMap_append, List.filterMap_cons,
        List.filterMap_nil]
      cases o.appended? label <;> rfl

/-- What one operation makes of the values of a label. -/
theorem get?_perform (c : Context) (o : Operation) (label : String) :
    (c.perform o).repository.get? label =
      if o.clears then none
      else (o.appended? label).elim (c.repository.get? label) fun values =>
        some ((c.repository.get? label).getD [] ++ values) := by
  cases o with
  | append l values =>
      rw [perform, Context.append, Repository.get?_append]
      simp only [Operation.clears, Operation.appended?]
      grind
  | clear | reset | register | remove => rfl
  | call => rw [perform, call_eq]; rfl

/-- A label has what was appended to it since the repository was cleared last. -/
theorem get?_performAll_empty (ops : List Operation) (label : String) :
    (empty.performAll ops).repository.get? label =
      if appended ops label = [] then none else some (appended ops label).flatten := by
  induction ops using List.reverseRecOn with
  | nil => rfl
  | append_singleton ops o ih =>
      rw [performAll_concat, get?_perform, ih, appended_concat]
      cases o.clears with
      | true => rfl
      | false =>
          cases o.appended? label with
          | none => simp
          | some values => by_cases h : appended ops label = [] <;> simp [h]

/-! ## Two stores -/

/-- The operations on the repository. All others are on commands. -/
def Operation.onRepository : Operation → Bool
  | .append .. | .clear | .reset => true
  | .register .. | .remove .. | .call .. => false

/-- The repository is what the operations on it make of it. -/
theorem repository_performAll (h : c.repository = c'.repository) :
    (c.performAll ops).repository =
      (c'.performAll (ops.filter Operation.onRepository)).repository := by
  induction ops generalizing c c' with
  | nil => exact h
  | cons o ops ih =>
      cases o with
      | append l values => exact ih (congrArg (Repository.append · l values) h)
      | clear | reset => exact ih rfl
      | register | remove => exact ih h
      | call name frame args => exact ih (by rw [perform, call_eq, h])

/-- Commands and calls are what the operations on them make of them. -/
theorem commands_performAll (hcommands : c.commands = c'.commands) (hcalls : c.calls = c'.calls) :
    let behind := c'.performAll (ops.filter fun o => !o.onRepository)
    (c.performAll ops).commands = behind.commands ∧ (c.performAll ops).calls = behind.calls := by
  induction ops generalizing c c' with
  | nil => exact ⟨hcommands, hcalls⟩
  | cons o ops ih =>
      cases o with
      | append | clear | reset => exact ih hcommands hcalls
      | register name tag =>
          exact ih (congrArg (fun cs => (name, tag) :: dropCommand name cs) hcommands) hcalls
      | remove name => exact ih (congrArg (dropCommand name) hcommands) hcalls
      | call name frame args =>
          refine ih ?_ ?_
          · rw [perform, perform, call_eq, call_eq, hcommands]
          · rw [perform, perform, call_eq, call_eq, hcommands, hcalls]

/-! ## The store -/

theorem hasCommand_iff_registered {name : String} :
    (c.performAll ops).hasCommand name = true ↔ ∃ tag, Registered c name ops (some tag) := by
  simp only [registered_iff, hasCommand, Option.isSome_iff_exists]

/-- A call reaches the command registered last, or none. -/
theorem Registered.call_eq {name : String} {tag? : Option String}
    (h : Registered c name ops tag?) (frame : Frame) (args : List String) :
    let c' := c.performAll ops
    c'.call name frame args =
      ({ c' with calls := c'.calls ++ (tag?.map fun tag => Call.mk tag frame args).toList },
        tag?.isSome) := by
  intro c'
  rw [call, h.lookup_eq]
  cases tag? with
  | none => simp
  | some tag => rfl

/-- Behind any operations on a new context, a label has the values that were appended to it since
the repository was cleared last, one behind the other, and is not there if nothing was.  The labels
are listed once each, in the order of their bytes, with their values and their number.  Appending to
two labels comes to the same in either order.  There is a command of a name if it was registered and
not removed since, and a call reaches the last registration alone.  What is done to the commands
makes no difference to the repository, and what is done to the repository, clearing it included,
makes none to commands and calls. -/
theorem store_of_operations (ops : List Operation) :
    let c := empty.performAll ops
    (∀ l, c.repository.get? l =
        if appended ops l = [] then none else some (appended ops l).flatten) ∧
      ((∀ l, l ∈ c.repository.labels ↔ appended ops l ≠ []) ∧
        (c.repository.labels.map Utf8.encode).Pairwise (· < ·) ∧
        c.repository.entries.map Prod.fst = c.repository.labels ∧
        (∀ l values, (l, values) ∈ c.repository.entries ↔ c.repository.get? l = some values) ∧
        c.repository.size = c.repository.labels.length ∧
        (c.repository.isEmpty = true ↔ ∀ l, appended ops l = [])) ∧
      (∀ (l l' : String) (values values' : List String), l ≠ l' →
        (c.append l values).append l' values' = (c.append l' values').append l values) ∧
      ((∀ name, c.hasCommand name = true ↔ ∃ tag, Registered empty name ops (some tag)) ∧
        ∀ name frame args, ∃ tag?, Registered empty name ops tag? ∧
          c.call name frame args =
            ({ c with calls := c.calls ++ (tag?.map fun tag => Call.mk tag frame args).toList },
              tag?.isSome)) ∧
      c.repository = (empty.performAll (ops.filter Operation.onRepository)).repository ∧
      c.commands = (empty.performAll (ops.filter fun o => !o.onRepository)).commands ∧
      c.calls = (empty.performAll (ops.filter fun o => !o.onRepository)).calls ∧
      c.reset = { c with repository := .empty } := by
  intro c
  have hget (l : String) : c.repository.get? l =
      if appended ops l = [] then none else some (appended ops l).flatten :=
    get?_performAll_empty ops l
  have hnone (l : String) : c.repository.get? l = none ↔ appended ops l = [] := by
    rw [hget]
    split <;> simp [*]
  have hcommands : c.commands = _ ∧ c.calls = _ := commands_performAll rfl rfl
  refine ⟨hget, ⟨fun l => ?_, c.repository.pairwise_labels, rfl, fun l values =>
    Repository.mem_entries_iff, (List.length_map _).symm, ?_⟩, ?_, ⟨fun name =>
    hasCommand_iff_registered, fun name frame args => ?_⟩, repository_performAll rfl,
    hcommands.1, hcommands.2, rfl⟩
  · rw [Repository.mem_labels_iff, ← Option.ne_none_iff_exists', ne_eq, hnone]
  · simp only [Repository.isEmpty_iff, hnone]
  · intro l l' values values' h
    exact congrArg (fun r => { c with repository := r }) (Repository.append_comm h values values')
  · obtain ⟨tag?, h⟩ := exists_registered empty name ops
    exact ⟨tag?, h, h.call_eq frame args⟩

/-- A label without values, one that is appended to on both sides of a reset, and a command that was
removed and registered again. -/
theorem store_of_operations_two_labels :
    let ops : List Operation :=
      [.append "z" ["0"], .register "print" "1", .reset, .append "é" [], .append "z" ["1", "2"],
        .remove "print", .register "print" "2", .append "z" ["3"], .call "print" ["3"] []]
    let c := empty.performAll ops
    "é" ≠ "z" ∧ c.repository.labels = ["z", "é"] ∧
      (["z", "é"].map Utf8.encode).Pairwise (· < ·) ∧ c.repository.get? "é" = some [] ∧
      c.repository.get? "z" = some ["1", "2", "3"] ∧
      (c.append "é" ["4"]).append "z" ["5"] = (c.append "z" ["5"]).append "é" ["4"] ∧
      Registered empty "print" ops (some "2") ∧ c.calls = [⟨"2", ["3"], []⟩] := by
  intro ops c
  obtain ⟨hget, ⟨-, hsorted, -⟩, hcomm, -, -, -, hcalls, -⟩ := store_of_operations ops
  have hne : "é" ≠ "z" := by decide
  have hlabels : c.repository.labels = ["z", "é"] := by decide +kernel
  have hlookup : c.commands.lookup "print" = some "2" := by decide +kernel
  refine ⟨hne, hlabels, hlabels ▸ hsorted, (hget "é").trans (by decide +kernel),
    (hget "z").trans (by decide +kernel), hcomm "é" "z" ["4"] ["5"] hne,
    registered_iff.2 hlookup, hcalls.trans (by decide +kernel)⟩

end Context

end Extraction
