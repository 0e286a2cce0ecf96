/-!
# Results and entries

Reading functions go on behind what they read with `Except.map`.  Files and commands are entries
under names, of which some are dropped before others are put in their place.
-/

namespace Extraction

variable {ε ε' α β : Type}

theorem map_eq_ok_iff {f : α → β} {x : Except ε α} {b : β} :
    x.map f = .ok b ↔ ∃ a, x = .ok a ∧ f a = b := by
  cases x with
  | error e => exact iff_of_false nofun (by rintro ⟨a, h, -⟩; cases h)
  | ok a =>
      constructor
      · intro h
        exact ⟨a, rfl, Except.ok.inj h⟩
      · rintro ⟨a', h, rfl⟩
        cases h
        rfl

theorem map_eq_error_iff {f : α → β} {x : Except ε α} {e : ε} :
    x.map f = .error e ↔ x = .error e := by
  cases x with
  | error e' => exact ⟨fun h => congrArg Except.error (Except.error.inj h),
      fun h => congrArg Except.error (Except.error.inj h)⟩
  | ok a => exact iff_of_false nofun nofun

theorem exists_map_eq_ok_iff {f : α → β} {x : Except ε α} :
    (∃ b, x.map f = .ok b) ↔ ∃ a, x = .ok a := by
  simp only [map_eq_ok_iff]
  exact ⟨fun ⟨_, a, h, _⟩ => ⟨a, h⟩, fun ⟨a, h⟩ => ⟨f a, a, h, rfl⟩⟩

/-- Without the entries of a name, the others are found as before. -/
theorem lookup_filter_ne (name : String) (es : List (String × β)) (other : String) :
    (es.filter fun e => e.1 ≠ name).lookup other =
      if other = name then none else es.lookup other := by
  induction es with
  | nil => simp
  | cons e es ih =>
      obtain ⟨k, v⟩ := e
      by_cases hk : k = name
      · rw [List.filter_cons_of_neg (by simpa using hk), ih, List.lookup_cons]
        grind
      · rw [List.filter_cons_of_pos (by simpa using hk), List.lookup_cons, List.lookup_cons, ih]
        grind

/-- An entry in place of those of its name. -/
theorem lookup_cons_filter_ne (name : String) (b : β) (es : List (String × β)) (other : String) :
    ((name, b) :: es.filter fun e => e.1 ≠ name).lookup other =
      if other = name then some b else es.lookup other := by
  rw [List.lookup_cons, lookup_filter_ne]
  by_cases h : other = name
  · simp [h]
  · rw [if_neg h, if_neg h, beq_false_of_ne h]

end Extraction
