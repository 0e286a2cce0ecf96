/-! # Splitting lists

The parts of a list between the occurrences of a separator, and its split at the first occurrence
of another list.
-/

namespace Extraction.Text

variable {α : Type} [DecidableEq α]

/-- The parts between separators, empty ones included: one more than there are separators. -/
def splitOn (sep : α) : List α → List (List α)
  | [] => [[]]
  | a :: as =>
    if a = sep then [] :: splitOn sep as
    else match splitOn sep as with
      | [] => [[a]]
      | part :: parts => (a :: part) :: parts

/-- What is in front of the first occurrence of a part, which may be empty, and behind it. -/
def splitFirst? (part : List α) : List α → Option (List α × List α)
  | [] => if part.isEmpty then some ([], []) else none
  | a :: as =>
    if part.isPrefixOf (a :: as) then some ([], (a :: as).drop part.length)
    else (splitFirst? part as).map fun (front, behind) => (a :: front, behind)

@[simp] theorem splitOn_nil (sep : α) : splitOn sep [] = [[]] := rfl

theorem splitOn_cons_self (sep : α) (as : List α) :
    splitOn sep (sep :: as) = [] :: splitOn sep as := by
  simp [splitOn]

theorem splitOn_ne_nil (sep : α) (as : List α) : splitOn sep as ≠ [] := by
  cases as with
  | nil => simp [splitOn]
  | cons a as =>
    simp only [splitOn]
    split
    · simp
    · split <;> simp

theorem splitOn_cons_of_ne {sep a : α} (h : a ≠ sep) (as : List α) :
    ∃ part parts, splitOn sep as = part :: parts ∧ splitOn sep (a :: as) = (a :: part) :: parts := by
  rw [splitOn, if_neg h]
  cases hs : splitOn sep as with
  | nil => exact absurd hs (splitOn_ne_nil sep as)
  | cons part parts => exact ⟨part, parts, rfl, rfl⟩

theorem splitOn_eq (sep : α) (as : List α) : splitOn sep as = as.splitOn sep := by
  induction as with
  | nil => rfl
  | cons a as ih =>
      rw [List.splitOn_cons_eq_if_modifyHead, ← ih]
      by_cases ha : a = sep
      · simp [ha, splitOn_cons_self]
      · obtain ⟨part, parts, hs, hc⟩ := splitOn_cons_of_ne ha as
        rw [hc, hs, if_neg (by simpa using ha), List.modifyHead_cons]

/-- A part holds no separator, and nothing that is not in the list. -/
theorem of_mem_splitOn {sep : α} {as part : List α} (h : part ∈ splitOn sep as) :
    sep ∉ part ∧ part ⊆ as := by
  induction as generalizing part with
  | nil =>
      rw [splitOn_nil, List.mem_singleton] at h
      rw [h]
      exact ⟨List.not_mem_nil, List.Subset.refl _⟩
  | cons a as ih =>
      by_cases ha : a = sep
      · rw [ha, splitOn_cons_self, List.mem_cons] at h
        rcases h with rfl | h
        · exact ⟨List.not_mem_nil, List.nil_subset _⟩
        · exact ⟨(ih h).1, List.subset_cons_of_subset _ (ih h).2⟩
      · obtain ⟨first, parts, hs, hc⟩ := splitOn_cons_of_ne ha as
        rw [hc, List.mem_cons] at h
        rw [hs] at ih
        rcases h with rfl | h
        · have hf := ih List.mem_cons_self
          refine ⟨?_, List.cons_subset_cons _ hf.2⟩
          rw [List.mem_cons, not_or]
          exact ⟨Ne.symm ha, hf.1⟩
        · have hp := ih (List.mem_cons_of_mem _ h)
          exact ⟨hp.1, List.subset_cons_of_subset _ hp.2⟩

/-- The last part is empty only behind a separator. -/
theorem getLastD_splitOn_ne_nil {sep a : α} {as : List α}
    (h : as.getLast? = some a) (ha : a ≠ sep) : (splitOn sep as).getLastD [] ≠ [] := by
  induction as with
  | nil => cases h
  | cons b as ih =>
      by_cases has : as = []
      · rw [has, List.getLast?_singleton, Option.some.injEq] at h
        simp [has, h, splitOn, ha]
      · rw [List.getLast?_cons_of_ne_nil has] at h
        obtain ⟨part, parts, hs⟩ := List.exists_cons_of_ne_nil (splitOn_ne_nil sep as)
        have hlast := ih h
        rw [hs] at hlast
        rw [splitOn, hs]
        split
        case isTrue => exact hlast
        case isFalse =>
          cases parts with
          | nil => exact List.cons_ne_nil _ _
          | cons part' parts => exact hlast

end Extraction.Text
