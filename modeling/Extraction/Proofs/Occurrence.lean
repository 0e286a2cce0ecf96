import Extraction.Proofs.Frames

/-!
# The first occurrence of a part

`remove` and `insert` put a text in place of the first occurrence of another one: `remove` in each
string of the top frame, `insert` in its template, so that the strings that it puts there are not
searched.  `FirstSplit` says what the first occurrence is, without saying how it is found, and
`Directive.replaces_first` what the two directives make of it.
-/

namespace Extraction

/-! ## Lists -/

namespace Text

variable {α : Type} [DecidableEq α] {part text front behind : List α}

theorem eq_append_of_splitFirst? (h : splitFirst? part text = some (front, behind)) :
    text = front ++ part ++ behind := by
  induction text generalizing front with
  | nil =>
      rw [splitFirst?, Option.ite_none_right_eq_some, List.isEmpty_iff] at h
      obtain ⟨rfl, h⟩ := h
      cases h
      rfl
  | cons a text ih =>
      rw [splitFirst?] at h
      split at h
      case isTrue hp =>
        cases h
        exact (List.prefix_iff_eq_append.1 (List.isPrefixOf_iff_prefix.1 hp)).symm
      case isFalse =>
        obtain ⟨⟨front', behind'⟩, hs, heq⟩ := Option.map_eq_some_iff.1 h
        cases heq
        rw [ih hs]
        rfl

/-- Whatever is in front of an occurrence, the search finds one with no more in front of it. -/
theorem exists_splitFirst? (h : text = front ++ part ++ behind) :
    ∃ front' behind', splitFirst? part text = some (front', behind') ∧
      front'.length ≤ front.length := by
  induction text generalizing front with
  | nil =>
      have hpart : part = [] := (List.append_eq_nil_iff.1 (List.append_eq_nil_iff.1 h.symm).1).2
      exact ⟨[], [], by rw [hpart]; rfl, Nat.zero_le _⟩
  | cons a text ih =>
      by_cases hp : part.isPrefixOf (a :: text)
      · exact ⟨[], _, by rw [splitFirst?, if_pos hp], Nat.zero_le _⟩
      · cases front with
        | nil => exact absurd (List.isPrefixOf_iff_prefix.2 ⟨behind, h.symm⟩) hp
        | cons b front =>
            obtain ⟨front', behind', hs, hle⟩ := ih (List.cons.inj h).2
            exact ⟨a :: front', behind', by rw [splitFirst?, if_neg hp, hs]; rfl,
              Nat.succ_le_succ hle⟩

end Text

/-! ## Texts -/

open Text

/-- A text taken apart at the first occurrence of a part, which is the one with the least text in
front of it. -/
structure FirstSplit (part text front behind : String) : Prop where
  text_eq : text = front ++ part ++ behind
  shortest : ∀ front' behind' : String, text = front' ++ part ++ behind' →
    front.length ≤ front'.length

/-- A part occurs somewhere in a text. -/
def Occurs (part text : String) : Prop := ∃ front behind : String, text = front ++ part ++ behind

variable {part text front behind : String}

theorem eq_append_iff : text = front ++ part ++ behind ↔
    text.toList = front.toList ++ part.toList ++ behind.toList := by
  rw [← String.toList_inj, String.toList_append, String.toList_append]

theorem FirstSplit.unique {front' behind' : String} (h : FirstSplit part text front behind)
    (h' : FirstSplit part text front' behind') : front = front' ∧ behind = behind' := by
  have hlength : front.toList.length = front'.toList.length := by
    rw [String.length_toList, String.length_toList]
    exact Nat.le_antisymm (h.shortest _ _ h'.text_eq) (h'.shortest _ _ h.text_eq)
  have heq := eq_append_iff.1 (h.text_eq.symm.trans h'.text_eq)
  simp only [String.toList_append, List.append_assoc] at heq
  obtain ⟨hfront, hrest⟩ := List.append_inj heq hlength
  exact ⟨String.toList_inj.1 hfront, String.toList_inj.1 (List.append_cancel_left hrest)⟩

theorem firstSplit_of_splitFirst? {front behind : List Char}
    (h : splitFirst? part.toList text.toList = some (front, behind)) :
    FirstSplit part text (String.ofList front) (String.ofList behind) := by
  constructor
  · rw [eq_append_iff, String.toList_ofList, String.toList_ofList]
    exact eq_append_of_splitFirst? h
  · intro front' behind' heq
    obtain ⟨first, rest, hs, hle⟩ := exists_splitFirst? (eq_append_iff.1 heq)
    obtain ⟨rfl, rfl⟩ := Prod.mk.inj (Option.some.inj (h.symm.trans hs))
    rwa [String.length_ofList, ← String.length_toList]

theorem not_occurs_of_splitFirst? (h : splitFirst? part.toList text.toList = none) :
    ¬ Occurs part text := by
  rintro ⟨front, behind, heq⟩
  obtain ⟨_, _, hs, -⟩ := exists_splitFirst? (eq_append_iff.1 heq)
  exact Option.some_ne_none _ (hs.symm.trans h)

/-- The replacement takes the place of the first occurrence, and of nothing else. -/
theorem replaceFirst_eq_iff {replacement result : String} :
    replaceFirst text part replacement = result ↔
      (∃ front behind, FirstSplit part text front behind ∧
        result = front ++ replacement ++ behind) ∨ ¬ Occurs part text ∧ result = text := by
  cases hs : splitFirst? part.toList text.toList with
  | none =>
      have hnot := not_occurs_of_splitFirst? hs
      have hreplace : replaceFirst text part replacement = text := by rw [replaceFirst, hs]
      rw [hreplace, eq_comm]
      refine ⟨fun h => .inr ⟨hnot, h⟩, ?_⟩
      rintro (⟨front, behind, hsplit, -⟩ | ⟨-, h⟩)
      · exact absurd ⟨front, behind, hsplit.text_eq⟩ hnot
      · exact h
  | some split =>
      obtain ⟨front, behind⟩ := split
      have hsplit := firstSplit_of_splitFirst? hs
      have hreplace : replaceFirst text part replacement =
          String.ofList front ++ replacement ++ String.ofList behind := by
        simp only [replaceFirst, hs, String.ofList_append, String.ofList_toList]
      rw [hreplace, eq_comm]
      refine ⟨fun h => .inl ⟨_, _, hsplit, h⟩, ?_⟩
      rintro (⟨front', behind', hsplit', h⟩ | ⟨hnot, -⟩)
      · obtain ⟨rfl, rfl⟩ := hsplit.unique hsplit'
        exact h
      · exact absurd ⟨_, _, hsplit.text_eq⟩ hnot

/-- Overlapping occurrences, and a literal that is longer than the text. -/
example : replaceFirst "xaaab" "aa" "-" = "x-ab" ∧ replaceFirst "aa" "aaa" "-" = "aa" := by decide

/-- The empty part occurs first of all. -/
theorem firstSplit_empty (text : String) : FirstSplit "" text "" text :=
  ⟨by simp, fun _ _ _ => Nat.zero_le _⟩

theorem replaceFirst_empty (text replacement : String) :
    replaceFirst text "" replacement = replacement ++ text :=
  replaceFirst_eq_iff.2 (.inl ⟨"", text, firstSplit_empty text, by simp⟩)

/-! ## The directives -/

namespace Directive

theorem pushes_remove (part : String) (args : List String) :
    remove.Pushes (part :: args) (List.map fun s => replaceFirst s part "") :=
  pushes_of_frameChange? (c := .map fun s => replaceFirst s part "") rfl

theorem pushes_insert (placeholder : String) (args : List String) :
    insert.Pushes (placeholder :: args)
      (List.map fun s => replaceFirst (args.headD "") placeholder s) := by
  have hargs : (placeholder :: args).getD 1 "" = args.headD "" := by cases args <;> rfl
  rw [← hargs]
  exact pushes_of_frameChange?
    (c := .map fun s => replaceFirst ((placeholder :: args).getD 1 "") placeholder s) rfl

/-- `remove` takes the first occurrence of its literal out of each string, and leaves alone the
strings without one.  `insert` puts each string in place of the first placeholder of its template,
which is empty if it is missing; without a placeholder the template replaces each string.  What is
put there is not searched: the ends of the result are those of the template, whatever the string.
Of the empty literal there is nothing to remove, and it stands in front of every template. -/
theorem replaces_first :
    (∀ (part : String) (args : List String), ∃ onString : String → String,
      remove.Pushes (part :: args) (List.map onString) ∧
        ∀ s result, onString s = result ↔
          (∃ front behind, FirstSplit part s front behind ∧ result = front ++ behind) ∨
            ¬ Occurs part s ∧ result = s) ∧
      (∀ (placeholder : String) (args : List String), ∃ onString : String → String,
        insert.Pushes (placeholder :: args) (List.map onString) ∧
          let template := args.headD ""
          ∀ s result, onString s = result ↔
            (∃ front behind, FirstSplit placeholder template front behind ∧
              result = front ++ s ++ behind) ∨ ¬ Occurs placeholder template ∧ result = template) ∧
      (∀ args, remove.Pushes ("" :: args) id) ∧
      ∀ args, insert.Pushes ("" :: args) (List.map fun s => s ++ args.headD "") := by
  refine ⟨fun part args => ⟨_, pushes_remove part args, fun s result => ?_⟩,
    fun placeholder args => ⟨_, pushes_insert placeholder args, fun s result =>
      replaceFirst_eq_iff⟩, fun args => ?_, fun args => ?_⟩
  · simpa using @replaceFirst_eq_iff part s "" result
  · have h := pushes_remove "" args
    simpa [replaceFirst_empty] using h
  · have h := pushes_insert "" args
    simpa only [replaceFirst_empty] using h

end Directive

end Extraction
