import Extraction.Proofs.Utf8

/-!
# The order of texts and the order of their bytes

UTF-8 keeps the order: texts are ordered by their characters as their bytes are ordered as numbers
(`encode_lt_encode_iff`).  For this the bytes of a character are taken as numbers (`HasForm`), which
decide at the first byte if there are more of them on one side, and as digits do if there are as
many on both.
-/

namespace Extraction.Text.Utf8

variable {c d : Char} {bs bs' : List UInt8}

/-- The bytes of a character as numbers, by how many there are. -/
inductive HasForm (c : Char) : List UInt8 → Prop
  | one {b : UInt8} : c.toNat < 0x80 → b.toNat = c.toNat → HasForm c [b]
  | two {b b₂ : UInt8} : 0x80 ≤ c.toNat → c.toNat < 0x800 → b.toNat = 0xC0 + c.toNat / 64 →
      b₂.toNat = 0x80 + c.toNat % 64 → HasForm c [b, b₂]
  | three {b b₂ b₃ : UInt8} : 0x800 ≤ c.toNat → c.toNat < 0x10000 →
      b.toNat = 0xE0 + c.toNat / 4096 → b₂.toNat = 0x80 + c.toNat / 64 % 64 →
      b₃.toNat = 0x80 + c.toNat % 64 → HasForm c [b, b₂, b₃]
  | four {b b₂ b₃ b₄ : UInt8} : 0x10000 ≤ c.toNat → b.toNat = 0xF0 + c.toNat / 262144 →
      b₂.toNat = 0x80 + c.toNat / 4096 % 64 → b₃.toNat = 0x80 + c.toNat / 64 % 64 →
      b₄.toNat = 0x80 + c.toNat % 64 → HasForm c [b, b₂, b₃, b₄]

theorem hasForm_encodeChar (c : Char) : HasForm c (String.utf8EncodeChar c) := by
  have hc : c.toNat < 0xD800 ∨ 0xDFFF < c.toNat ∧ c.toNat < 0x110000 := c.valid
  obtain h₁ | h₁ := Nat.lt_or_ge c.toNat 0x80
  · obtain ⟨b, hb⟩ := exists_byte (n := c.toNat) (by omega)
    rw [encodeChar_one b h₁ hb]
    exact .one h₁ hb
  obtain ⟨last, hlast⟩ := exists_byte (n := 0x80 + c.toNat % 64) (by omega)
  obtain h₂ | h₂ := Nat.lt_or_ge c.toNat 0x800
  · obtain ⟨b, hb⟩ := exists_byte (n := 0xC0 + c.toNat / 64) (by omega)
    rw [encodeChar_two b last h₁ h₂ hb hlast]
    exact .two h₁ h₂ hb hlast
  obtain ⟨b₃, hb₃⟩ := exists_byte (n := 0x80 + c.toNat / 64 % 64) (by omega)
  obtain h₃ | h₃ := Nat.lt_or_ge c.toNat 0x10000
  · obtain ⟨b, hb⟩ := exists_byte (n := 0xE0 + c.toNat / 4096) (by omega)
    rw [encodeChar_three b b₃ last h₂ h₃ hb hb₃ hlast]
    exact .three h₂ h₃ hb hb₃ hlast
  · obtain ⟨b, hb⟩ := exists_byte (n := 0xF0 + c.toNat / 262144) (by omega)
    obtain ⟨b₂, hb₂⟩ := exists_byte (n := 0x80 + c.toNat / 4096 % 64) (by omega)
    rw [encodeChar_four b b₂ b₃ last h₃ (by omega) hb₂ hb₃ hlast]
    exact .four h₃ hb hb₂ hb₃ hlast

/-- The bytes of a smaller character are smaller, whatever follows. -/
theorem HasForm.append_lt (hc : HasForm c bs) (hd : HasForm d bs') (h : c.toNat < d.toNat)
    (rest rest' : List UInt8) : bs ++ rest < bs' ++ rest' := by
  have hvalid : d.toNat < 0xD800 ∨ 0xDFFF < d.toNat ∧ d.toNat < 0x110000 := d.valid
  cases hc <;> cases hd <;>
    simp only [List.cons_append, List.nil_append, List.cons_lt_cons_iff, UInt8.lt_iff_toNat_lt,
      ← UInt8.toNat_inj] <;>
    omega

theorem encodeChars_lt {cs ds : List Char} (h : cs < ds) : encodeChars cs < encodeChars ds := by
  induction h with
  | @nil d ds =>
      obtain ⟨b, bs, hb⟩ := exists_bytes d
      rw [encodeChars_cons, hb.encodeChar_eq]
      exact .nil
  | cons _ ih =>
      rw [encodeChars_cons, encodeChars_cons]
      exact List.append_left_lt ih
  | rel h =>
      rw [encodeChars_cons, encodeChars_cons]
      exact (hasForm_encodeChar _).append_lt (hasForm_encodeChar _) h _ _

/-- Texts are in the order of their bytes. -/
theorem encode_lt_encode_iff {s t : String} : encode s < encode t ↔ s < t := by
  refine ⟨fun h => Decidable.byContradiction fun hst => ?_, fun h => encodeChars_lt h⟩
  by_cases hts : t < s
  · exact List.lt_irrefl _ (List.lt_trans h (encodeChars_lt hts))
  · cases String.le_antisymm (String.not_lt.1 hts) (String.not_lt.1 hst)
    exact List.lt_irrefl _ h

end Extraction.Text.Utf8
