import Extraction.Proofs.Line

/-!
# How a line is spelled

A line that is not blank is a call and its arguments, each argument behind a run of tabs, with white
space around all of them.  There is one way to take a line apart like this, and it gives the fields
that are read, whatever white space they hold themselves.
-/

namespace Extraction

namespace Text

/-! ## White space around a text -/

variable {cs front behind : List Char}

/-- Nothing but white space. -/
def AllBlank (s : String) : Prop := ∀ c ∈ s.toList, isBlank c

instance : DecidablePred AllBlank := fun s =>
  inferInstanceAs (Decidable (∀ c ∈ s.toList, isBlank c))

theorem exists_trimChars (cs : List Char) : ∃ front behind : List Char,
    cs = front ++ trimChars cs ++ behind ∧
      (∀ c ∈ front, isBlank c) ∧ ∀ c ∈ behind, isBlank c := by
  refine ⟨cs.takeWhile isBlank, (cs.dropWhile isBlank).rtakeWhile isBlank, ?_,
    fun c => List.mem_takeWhile_imp, fun c => List.mem_rtakeWhile_imp⟩
  rw [trimChars, dropRight_eq, List.append_assoc, List.rdropWhile_append_rtakeWhile,
    List.takeWhile_append_dropWhile]

theorem trimChars_append (hfront : ∀ c ∈ front, isBlank c) (hcs : Trimmed cs) (hne : cs ≠ [])
    (hbehind : ∀ c ∈ behind, isBlank c) : trimChars (front ++ cs ++ behind) = cs := by
  have hhead : ∀ c ∈ (cs ++ behind).head?, isBlank c = false := by
    rw [List.head?_append_of_ne_nil _ hne]
    exact hcs.head
  have hlast : ∀ c ∈ cs.reverse.head?, isBlank c = false := by
    rw [List.head?_reverse]
    exact hcs.last
  rw [trimChars, List.append_assoc, dropWhile_append_of_head hfront hhead, dropRight,
    List.reverse_append, dropWhile_append_of_head (by simpa using hbehind) hlast,
    List.reverse_reverse]

theorem trimChars_eq_nil_iff : trimChars cs = [] ↔ ∀ c ∈ cs, isBlank c := by
  obtain ⟨front, behind, hcs, hfront, hbehind⟩ := exists_trimChars cs
  constructor
  · intro h
    rw [h, List.append_nil] at hcs
    rw [hcs]
    exact List.forall_mem_append.2 ⟨hfront, hbehind⟩
  · intro h
    rw [trimChars, dropRight_eq, List.rdropWhile_eq_nil_iff]
    exact fun c hc => h c ((List.dropWhile_suffix _).subset hc)

theorem trim_eq_empty_iff {s : String} : trim s = "" ↔ AllBlank s := by
  rw [← String.toList_eq_nil_iff, toList_trim, trimChars_eq_nil_iff, AllBlank]

/-! ## Parts between separators -/

theorem append_flatMap_of_splitOn {α : Type} [DecidableEq α] {sep : α} {as part : List α}
    {parts : List (List α)} (h : splitOn sep as = part :: parts) :
    part ++ parts.flatMap (sep :: ·) = as := by
  induction as generalizing part parts with
  | nil =>
      obtain ⟨rfl, rfl⟩ := List.cons.inj h
      rfl
  | cons a as ih =>
      obtain ⟨first, rest, hs⟩ := List.exists_cons_of_ne_nil (splitOn_ne_nil sep as)
      by_cases ha : a = sep
      · rw [ha, splitOn_cons_self, hs] at h
        obtain ⟨rfl, rfl⟩ := List.cons.inj h
        rw [List.nil_append, List.flatMap_cons, List.cons_append, ih hs, ha]
      · rw [splitOn, if_neg ha, hs] at h
        obtain ⟨rfl, rfl⟩ := List.cons.inj h
        rw [List.cons_append, ih hs]

end Text

namespace Layout

open Extraction.Text

/-! ## Spellings -/

/-- A run of tabs. -/
def IsTabs (s : String) : Prop := s ≠ "" ∧ ∀ c ∈ s.toList, c = '\t'

/-- What can stand between runs of tabs. -/
def IsField (s : String) : Prop := s ≠ "" ∧ '\t' ∉ s.toList

/-- The parts of a line: white space, the call, each argument with the tabs in front of it, and
white space. -/
structure Spelling where
  front : String
  call : String
  args : List (String × String)
  behind : String

namespace Spelling

def fields (sp : Spelling) : List String := sp.call :: sp.args.map Prod.snd

/-- The call and the arguments, with the tabs between them. -/
def core (sp : Spelling) : String := String.join (sp.call :: sp.args.map fun p => p.1 ++ p.2)

def text (sp : Spelling) : String := sp.front ++ sp.core ++ sp.behind

/-- Fields stand between runs of tabs, and no white space around them belongs to one. -/
structure Proper (sp : Spelling) : Prop where
  front : AllBlank sp.front
  behind : AllBlank sp.behind
  tabs : ∀ p ∈ sp.args, IsTabs p.1
  fields : ∀ f ∈ sp.fields, IsField f
  head : ∀ c ∈ sp.call.toList.head?, isBlank c = false
  last : ∀ f ∈ sp.fields.getLast?, ∀ c ∈ f.toList.getLast?, isBlank c = false

end Spelling

/-! ## Runs of tabs -/

/-- Arguments with the tabs in front of them. -/
def joinTabs (args : List (String × String)) : List Char :=
  args.flatMap fun p => p.1.toList ++ p.2.toList

variable {args args' : List (String × String)} {call call' : String} {parts : List (List Char)}

theorem joinTabs_cons (p : String × String) (args : List (String × String)) :
    joinTabs (p :: args) = p.1.toList ++ (p.2.toList ++ joinTabs args) := by
  rw [joinTabs, List.flatMap_cons, List.append_assoc, joinTabs]

theorem IsTabs.toList_ne_nil {s : String} (h : IsTabs s) : s.toList ≠ [] :=
  mt String.toList_eq_nil_iff.1 h.1

theorem IsField.toList_ne_nil {s : String} (h : IsField s) : s.toList ≠ [] :=
  mt String.toList_eq_nil_iff.1 h.1

theorem IsField.ne_tab {s : String} (h : IsField s) {c : Char} (hc : c ∈ s.toList) : c ≠ '\t' :=
  ne_of_mem_of_not_mem hc h.2

theorem head?_joinTabs (h : ∀ p ∈ args, IsTabs p.1) : ∀ c ∈ (joinTabs args).head?, c = '\t' := by
  cases args with
  | nil => nofun
  | cons p args =>
      have hp := h p List.mem_cons_self
      rw [joinTabs_cons, List.head?_append_of_ne_nil _ hp.toList_ne_nil]
      exact fun c hc => hp.2 c (List.mem_of_mem_head? hc)

theorem joinTabs_eq_nil_iff (h : ∀ p ∈ args, IsTabs p.1) : joinTabs args = [] ↔ args = [] := by
  cases args with
  | nil => exact iff_of_true rfl rfl
  | cons p args =>
      refine iff_of_false (fun hnil => ?_) (List.cons_ne_nil _ _)
      rw [joinTabs_cons, List.append_eq_nil_iff] at hnil
      exact (h p List.mem_cons_self).toList_ne_nil hnil.1

/-- A field ends where the next tab is. -/
theorem field_append_joinTabs_inj (hcall : IsField call) (hcall' : IsField call')
    (ht : ∀ p ∈ args, IsTabs p.1) (ht' : ∀ p ∈ args', IsTabs p.1)
    (h : call.toList ++ joinTabs args = call'.toList ++ joinTabs args') :
    call = call' ∧ joinTabs args = joinTabs args' := by
  rw [← String.toList_inj]
  refine append_inj_of_head (p := fun c => c ≠ '\t') ?_ ?_ ?_ ?_ h
  · exact fun c hc => decide_eq_true (hcall.ne_tab hc)
  · exact fun c hc => by simp [head?_joinTabs ht c hc]
  · exact fun c hc => decide_eq_true (hcall'.ne_tab hc)
  · exact fun c hc => by simp [head?_joinTabs ht' c hc]

/-- A run of tabs ends where the next field is. -/
theorem tabs_append_inj {s s' : String} {cs cs' : List Char} (hs : IsTabs s) (hs' : IsTabs s')
    (hcall : IsField call) (hcall' : IsField call')
    (h : s.toList ++ (call.toList ++ cs) = s'.toList ++ (call'.toList ++ cs')) :
    s = s' ∧ call.toList ++ cs = call'.toList ++ cs' := by
  have hhead {f : String} (hf : IsField f) (cs : List Char) :
      ∀ c ∈ (f.toList ++ cs).head?, decide (c = '\t') = false := by
    rw [List.head?_append_of_ne_nil _ hf.toList_ne_nil]
    exact fun c hc => decide_eq_false (hf.ne_tab (List.mem_of_mem_head? hc))
  rw [← String.toList_inj]
  refine append_inj_of_head (p := fun c => c = '\t') ?_ (hhead hcall cs) ?_ (hhead hcall' cs') h
  · exact fun c hc => decide_eq_true (hs.2 c hc)
  · exact fun c hc => decide_eq_true (hs'.2 c hc)

/-- Fields and the tabs between them are known from both together. -/
theorem joinTabs_inj (ht : ∀ p ∈ args, IsTabs p.1) (ht' : ∀ p ∈ args', IsTabs p.1)
    (hf : ∀ f ∈ call :: args.map Prod.snd, IsField f)
    (hf' : ∀ f ∈ call' :: args'.map Prod.snd, IsField f)
    (h : call.toList ++ joinTabs args = call'.toList ++ joinTabs args') :
    call = call' ∧ args = args' := by
  induction args generalizing call call' args' with
  | nil =>
      obtain ⟨rfl, hargs⟩ := field_append_joinTabs_inj (hf call List.mem_cons_self)
        (hf' call' List.mem_cons_self) ht ht' h
      exact ⟨rfl, ((joinTabs_eq_nil_iff ht').1 hargs.symm).symm⟩
  | cons p args ih =>
      obtain ⟨rfl, hargs⟩ := field_append_joinTabs_inj (hf call List.mem_cons_self)
        (hf' call' List.mem_cons_self) ht ht' h
      cases args' with
      | nil => exact absurd ((joinTabs_eq_nil_iff ht).1 hargs) (List.cons_ne_nil _ _)
      | cons p' args' =>
          obtain ⟨hp, ht⟩ := List.forall_mem_cons.1 ht
          obtain ⟨hp', ht'⟩ := List.forall_mem_cons.1 ht'
          obtain ⟨-, hf⟩ := List.forall_mem_cons.1 hf
          obtain ⟨-, hf'⟩ := List.forall_mem_cons.1 hf'
          rw [joinTabs_cons, joinTabs_cons] at hargs
          obtain ⟨htabs, hrest⟩ := tabs_append_inj hp hp' (hf p.2 List.mem_cons_self)
            (hf' p'.2 List.mem_cons_self) hargs
          obtain ⟨hfield, rfl⟩ := ih ht ht' hf hf' hrest
          exact ⟨rfl, congrArg (· :: args) (Prod.ext htabs hfield)⟩

/-- Between single tabs there are the fields, and nothing where tabs follow each other. -/
theorem exists_joinTabs (h : parts.getLast? ≠ some []) :
    ∃ args, joinTabs args = parts.flatMap ('\t' :: ·) ∧ (∀ p ∈ args, IsTabs p.1) ∧
      args.map Prod.snd = (parts.filter fun f => !f.isEmpty).map String.ofList := by
  induction parts with
  | nil => exact ⟨[], rfl, nofun, rfl⟩
  | cons part parts ih =>
      have hlast : parts.getLast? ≠ some [] := by
        intro hp
        rw [List.getLast?_cons, hp] at h
        exact h rfl
      obtain ⟨args, hjoin, ht, hargs⟩ := ih hlast
      cases part with
      | cons c cs =>
          refine ⟨("\t", String.ofList (c :: cs)) :: args, ?_, ?_, ?_⟩
          · simp [joinTabs_cons, hjoin]
          · exact List.forall_mem_cons.2 ⟨⟨by simp, by simp⟩, ht⟩
          · simp [hargs]
      | nil =>
          cases args with
          | nil =>
              -- A tab without a field behind it would be at the end.
              cases parts with
              | nil => exact absurd rfl h
              | cons part parts => cases hjoin
          | cons p args =>
              refine ⟨("\t" ++ p.1, p.2) :: args, ?_, ?_, ?_⟩
              · simp [joinTabs_cons, ← hjoin]
              · refine List.forall_mem_cons.2 ⟨⟨by simp, ?_⟩, (List.forall_mem_cons.1 ht).2⟩
                simpa using (List.forall_mem_cons.1 ht).1.2
              · simpa using hargs

/-! ## The spelling of a line -/

namespace Spelling

variable {sp sp' : Spelling} {raw : String}

theorem toList_core (sp : Spelling) : sp.core.toList = sp.call.toList ++ joinTabs sp.args := by
  simp [core, joinTabs, String.toList_join, List.flatMap_map]

theorem toList_text (sp : Spelling) :
    sp.text.toList = sp.front.toList ++ sp.core.toList ++ sp.behind.toList := by
  rw [text, String.toList_append, String.toList_append]

theorem getLast?_core (h : ∀ f ∈ sp.fields, IsField f) :
    sp.core.toList.getLast? = sp.fields.getLast?.bind fun f => f.toList.getLast? := by
  obtain hargs | ⟨args, p, hargs⟩ := List.eq_nil_or_concat' sp.args
  · rw [toList_core, fields, hargs]
    simp [joinTabs]
  · have hp : IsField p.2 := h p.2 (by simp [fields, hargs])
    have hjoin : sp.core.toList = sp.call.toList ++ joinTabs args ++ p.1.toList ++ p.2.toList := by
      rw [toList_core, hargs]
      simp [joinTabs]
    have hlast : sp.fields.getLast? = some p.2 := by
      rw [fields, hargs, List.map_append, ← List.cons_append, List.map_singleton,
        List.getLast?_concat]
    rw [hjoin, hlast, List.getLast?_append_of_ne_nil _ hp.toList_ne_nil, Option.bind_some]

theorem Proper.core_ne_nil (h : sp.Proper) : sp.core.toList ≠ [] := by
  rw [toList_core]
  exact List.append_ne_nil_of_left_ne_nil (h.fields _ List.mem_cons_self).toList_ne_nil _

theorem Proper.trimmed_core (h : sp.Proper) : Trimmed sp.core.toList := by
  constructor
  · rw [toList_core, List.head?_append_of_ne_nil _ (h.fields _ List.mem_cons_self).toList_ne_nil]
    exact h.head
  · rw [getLast?_core h.fields]
    intro c hc
    obtain ⟨f, hf, hc⟩ := Option.mem_bind_iff.1 hc
    exact h.last f hf c hc

theorem Proper.trimChars_text (h : sp.Proper) : trimChars sp.text.toList = sp.core.toList := by
  rw [toList_text]
  exact trimChars_append h.front h.trimmed_core h.core_ne_nil h.behind

/-- A line has one spelling at most. -/
theorem Proper.unique (h : sp.Proper) (h' : sp'.Proper) (ht : sp.text = sp'.text) : sp = sp' := by
  have hcore : sp.core.toList = sp'.core.toList := by
    rw [← h.trimChars_text, ht, h'.trimChars_text]
  have hhead {sp : Spelling} (h : sp.Proper) :
      ∀ c ∈ (sp.core.toList ++ sp.behind.toList).head?, isBlank c = false := by
    rw [List.head?_append_of_ne_nil _ h.core_ne_nil]
    exact h.trimmed_core.head
  have htext := String.toList_inj.2 ht
  rw [toList_text, toList_text, List.append_assoc, List.append_assoc] at htext
  obtain ⟨hfront, hrest⟩ := append_inj_of_head h.front (hhead h) h'.front (hhead h') htext
  rw [hcore] at hrest
  rw [toList_core, toList_core] at hcore
  obtain ⟨hcall, hargs⟩ := joinTabs_inj h.tabs h'.tabs h.fields h'.fields hcore
  obtain ⟨front, call, args, behind⟩ := sp
  obtain ⟨front', call', args', behind'⟩ := sp'
  rw [Spelling.mk.injEq]
  exact ⟨String.toList_inj.1 hfront, hcall, hargs,
    String.toList_inj.1 (List.append_cancel_left hrest)⟩

/-- What is known of a spelling that has the fields and the core of a line. -/
theorem proper_of_core (hfront : AllBlank sp.front) (hbehind : AllBlank sp.behind)
    (htabs : ∀ p ∈ sp.args, IsTabs p.1) (hfields : ∀ f ∈ sp.fields, IsField f)
    (hcore : Trimmed sp.core.toList) : sp.Proper where
  front := hfront
  behind := hbehind
  tabs := htabs
  fields := hfields
  head := by
    have hcall := (hfields _ List.mem_cons_self).toList_ne_nil
    have hhead := hcore.head
    rwa [toList_core, List.head?_append_of_ne_nil _ hcall] at hhead
  last := by
    intro f hf c hc
    refine hcore.last c ?_
    rw [getLast?_core hfields]
    exact Option.mem_bind_iff.2 ⟨f, hf, hc⟩

theorem isField_of_mem_tabFields {f : String} (h : f ∈ tabFields raw) : IsField f := by
  obtain ⟨part, hpart, rfl⟩ := List.mem_map.1 h
  obtain ⟨hmem, hne⟩ := List.mem_filter.1 hpart
  constructor
  · simpa using hne
  · rw [String.toList_ofList]
    exact (of_mem_splitOn hmem).1

/-- A line that is not blank has a spelling, with the fields that are read. -/
theorem exists_proper (h : ¬ AllBlank raw) :
    ∃ sp : Spelling, sp.Proper ∧ sp.text = raw ∧ sp.fields = tabFields raw := by
  obtain ⟨front, behind, hraw, hfront, hbehind⟩ := exists_trimChars raw.toList
  have htrim := trimmed_trimChars raw.toList
  have hne : trimChars raw.toList ≠ [] := mt trimChars_eq_nil_iff.1 h
  obtain ⟨c, cs, hc⟩ := List.exists_cons_of_ne_nil hne
  rw [hc] at htrim hraw
  obtain ⟨part, parts, -, hsplit⟩ := splitOn_cons_of_ne (ne_tab_of_not_blank (htrim.head c rfl)) cs
  have hlast : parts.getLast? ≠ some [] := by
    have hlast := List.getLast?_eq_some_getLast (List.cons_ne_nil c cs)
    have hparts := getLastD_splitOn_ne_nil hlast (ne_tab_of_not_blank (htrim.last _ hlast))
    rw [hsplit] at hparts
    intro hnil
    rw [List.getLastD_eq_getLast?, List.getLast?_cons, hnil] at hparts
    exact hparts rfl
  obtain ⟨args, hjoin, htabs, hargs⟩ := exists_joinTabs hlast
  have hfields : (String.ofList (c :: part)) :: args.map Prod.snd = tabFields raw := by
    rw [tabFields, hc, hsplit, hargs]
    rfl
  have hcore : (core ⟨String.ofList front, String.ofList (c :: part), args,
      String.ofList behind⟩).toList = c :: cs := by
    rw [toList_core, hjoin, String.toList_ofList]
    exact append_flatMap_of_splitOn hsplit
  refine ⟨⟨String.ofList front, String.ofList (c :: part), args, String.ofList behind⟩,
    proper_of_core ?_ ?_ htabs ?_ ?_, ?_, hfields⟩
  · simpa [AllBlank] using hfront
  · simpa [AllBlank] using hbehind
  · rw [fields, hfields]
    exact fun f => isField_of_mem_tabFields
  · rwa [hcore]
  · rw [← String.toList_inj, toList_text, hcore, hraw]
    simp

end Spelling

end Layout

end Extraction
