import Extraction.Proofs.JsonReading

/-!
# Writing JSON texts

What is written for a value denotes it (`Written`), if that holds of its parts: of any text, any
whole number, any list and any record.  So it is read back, as is all that denotes a value.
-/

namespace Extraction

open Extraction.Text

namespace Json

/-! ## Escapes -/

theorem hexDigitChar_spec (n : Nat) :
    isHexDigit (hexDigitChar n) = true ∧ digitValue (hexDigitChar n) = n % 16 := by
  have hall : ∀ k < 16, isHexDigit (Nat.digitChar k) = true ∧ digitValue (Nat.digitChar k) = k := by
    decide
  exact hall (n % 16) (Nat.mod_lt n (by decide))

theorem hexCode?_escapeCode {n : Nat} (h : n < 0x10000) :
    hexCode? [hexDigitChar (n / 4096), hexDigitChar (n / 256), hexDigitChar (n / 16),
      hexDigitChar n] = some n := by
  have hvalue : ofDigits 16 [hexDigitChar (n / 4096), hexDigitChar (n / 256),
      hexDigitChar (n / 16), hexDigitChar n] = n := by
    simp only [ofDigits, appendDigits_cons, appendDigits_nil, (hexDigitChar_spec _).2]
    omega
  rw [hexCode?, hvalue, if_pos]
  simp [(hexDigitChar_spec _).1]

theorem denotesChars_escapeChar (c : Char) {t cs : List Char} (h : DenotesChars t cs) :
    DenotesChars (escapeChar c ++ t) (c :: cs) := by
  unfold escapeChar
  split
  case h_8 =>
    split
    case isTrue hcode =>
      exact .code (hexCode?_escapeCode (by omega)) h
    case isFalse hplain =>
      exact .plain (not_lt.1 hplain) (by assumption) (by assumption) h
  all_goals exact .letter rfl h

theorem denotesChars_flatMap_escapeChar (cs : List Char) :
    DenotesChars (cs.flatMap escapeChar) cs := by
  induction cs with
  | nil => exact .nil
  | cons c cs ih => exact denotesChars_escapeChar c ih

/-! ## Values -/

/-- What is written denotes the value. -/
def Written (j : Json) : Prop := Denotes j.render j

theorem written_text (s : String) : Written (.text s) :=
  .string (denotesChars_flatMap_escapeChar s.toList)

theorem head?_digits_ne {n : Nat} (h : 0 < n) : (digits 10 n).head? ≠ some '0' := by
  induction n using Nat.strong_induction_on with
  | _ n ih =>
      rw [digits]
      obtain hlt | hle := Nat.lt_or_ge n 10
      · rw [Nat.toDigits_of_lt_base hlt, List.head?_cons, ne_eq, Option.some.injEq,
          Nat.digitChar_eq_zero]
        exact Nat.ne_of_gt h
      · have hdiv := ih (n / 10) (Nat.div_lt_self h (by decide)) (Nat.div_pos hle (by decide))
        rw [Nat.toDigits_of_base_le (by decide) hle,
          List.head?_append_of_ne_nil _ Nat.toDigits_ne_nil]
        exact hdiv

theorem grammatical_digits (n : Nat) : Numeral.Grammatical ⟨false, digits 10 n, [], none⟩ where
  whole := by
    obtain rfl | hpos := Nat.eq_zero_or_pos n
    · exact .inl rfl
    · exact .inr ⟨Nat.toDigits_ne_nil, head?_digits_ne hpos⟩
  whole_digits := fun c => Nat.isDigit_of_mem_toDigits (by decide) (by decide)
  fraction_digits := nofun
  exponent := nofun

theorem written_nat (n : Nat) : Written (.nat n) := .number (grammatical_digits n)

theorem render_append_renderItems (j : Json) (js : List Json) :
    render j ++ renderItems js = joined ((j :: js).map render) ++ [']'] := by
  induction js generalizing j with
  | nil => rw [renderItems, List.map_singleton, joined_singleton]
  | cons j' js ih =>
      rw [renderItems, List.cons_append, ih j']
      simp only [List.map_cons, joined_cons_cons, List.append_assoc, List.cons_append]

theorem written_array {js : List Json} (h : ∀ j ∈ js, Written j) : Written (.array js) := by
  cases js with
  | nil => exact .emptyArray (List.forall_mem_nil _)
  | cons j js =>
      have hitems : ∀ p ∈ (j :: js).map fun j => (render j, j), Denotes p.1 p.2 :=
        List.forall_mem_map.2 h
      have htexts : ((j :: js).map fun j => (render j, j)).map Prod.fst = (j :: js).map render :=
        List.map_map
      have hvalues : ((j :: js).map fun j => (render j, j)).map Prod.snd = j :: js :=
        List.map_map.trans (List.map_id _)
      have harray := Denotes.array (List.map_eq_nil_iff.not.2 (List.cons_ne_nil j js)) hitems
      rw [htexts, hvalues, ← render_append_renderItems] at harray
      rw [Written, render]
      exact harray

theorem written_list {α : Type} {f : α → Json} {as : List α} (h : ∀ a ∈ as, Written (f a)) :
    Written (.list f as) := written_array (List.forall_mem_map.2 h)

theorem written_texts (ss : List String) : Written (.texts ss) :=
  written_list fun s _ => written_text s

/-- A member as it is written. -/
def memberText (m : String × Json) : MemberText :=
  ⟨renderString (some m.1), m.1, m.2.render, m.2⟩

theorem denotesName_memberText (m : String × Json) :
    DenotesName (memberText m).nameText (memberText m).name :=
  .mk (List.forall_mem_nil _) (List.forall_mem_nil _)
    (denotesChars_flatMap_escapeChar m.1.toList)

theorem render_append_renderMembers (m : String × Json) (ms : List (String × Json)) :
    (memberText m).text ++ renderMembers (ms.map fun m => (some m.1, m.2)) =
      joined (((m :: ms).map memberText).map MemberText.text) ++ ['\x7d'] := by
  induction ms generalizing m with
  | nil => rw [List.map_nil, renderMembers, List.map_singleton, List.map_singleton,
      joined_singleton]
  | cons m' ms ih =>
      have htext : renderString (some m'.1) ++ ':' :: render m'.2 ++
          renderMembers (ms.map fun m => (some m.1, m.2)) =
            joined (((m' :: ms).map memberText).map MemberText.text) ++ ['\x7d'] := ih m'
      rw [List.map_cons, renderMembers, List.cons_append, List.cons_append, htext]
      simp only [List.map_cons, joined_cons_cons, List.append_assoc, List.cons_append]

theorem written_record {ms : List (String × Json)} (h : ∀ m ∈ ms, Written m.2) :
    Written (.record ms) := by
  cases ms with
  | nil => exact .emptyObject (List.forall_mem_nil _)
  | cons m ms =>
      have hnames : ∀ t ∈ (m :: ms).map memberText, DenotesName t.nameText t.name :=
        List.forall_mem_map.2 fun m _ => denotesName_memberText m
      have hvalues : ∀ t ∈ (m :: ms).map memberText, Denotes t.valueText t.value :=
        List.forall_mem_map.2 h
      have hmembers : ((m :: ms).map memberText).map MemberText.member =
          (m :: ms).map fun m => (some m.1, m.2) := List.map_map
      have hobject := Denotes.object (List.map_eq_nil_iff.not.2 (List.cons_ne_nil m ms))
        hnames hvalues
      rw [hmembers, ← render_append_renderMembers] at hobject
      rw [Written, record, List.map_cons, render]
      simpa [memberText, MemberText.text] using hobject

end Json

end Extraction
