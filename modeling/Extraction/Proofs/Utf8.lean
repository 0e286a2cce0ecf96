import Extraction.Proofs.Basic
import Extraction.Text.Utf8

/-!
# Writing and reading UTF-8

`encode` and `decode?` are inverse to each other: every text is read back from its bytes, and
bytes that are read as a text are the bytes of that text.  Both halves are settled for a single
character first.  Its bytes are written with remainders and read with a table of first bytes, so
the two are compared as numbers, by the number of bytes.

The null byte belongs to the null character alone, which is what lets it separate texts.
-/

namespace Extraction.Text.Utf8

/-! ## The bytes of a character -/

theorem toNat_ofNat {n : Nat} (h : n.isValidChar) : (Char.ofNat n).toNat = n := by
  rw [Char.ofNat, dif_pos h]
  exact UInt32.toNat_ofNatLT

theorem ofNat_eq {n : Nat} (b : UInt8) (h : b.toNat = n) : UInt8.ofNat n = b := by
  rw [← h, UInt8.ofNat_toNat]

theorem exists_byte {n : Nat} (h : n < 256) : ∃ b : UInt8, b.toNat = n :=
  ⟨UInt8.ofNat n, UInt8.toNat_ofNat_of_lt' h⟩

variable {c : Char} (b b₂ b₃ b₄ : UInt8)

theorem encodeChar_one (h : c.toNat < 0x80) (hb : b.toNat = c.toNat) :
    String.utf8EncodeChar c = [b] := by
  rw [← ofNat_eq b hb]
  exact if_pos (Nat.le_of_lt_succ h)

theorem encodeChar_two (h₁ : 0x80 ≤ c.toNat) (h₂ : c.toNat < 0x800)
    (hb : b.toNat = 0xC0 + c.toNat / 64) (hb₂ : b₂.toNat = 0x80 + c.toNat % 64) :
    String.utf8EncodeChar c = [b, b₂] := by
  unfold String.utf8EncodeChar
  simp only [Char.toNat_val]
  rw [if_neg (by omega), if_pos (by omega), ofNat_eq b (by omega),
    ofNat_eq b₂ (by omega)]

theorem encodeChar_three (h₁ : 0x800 ≤ c.toNat) (h₂ : c.toNat < 0x10000)
    (hb : b.toNat = 0xE0 + c.toNat / 4096) (hb₂ : b₂.toNat = 0x80 + c.toNat / 64 % 64)
    (hb₃ : b₃.toNat = 0x80 + c.toNat % 64) :
    String.utf8EncodeChar c = [b, b₂, b₃] := by
  unfold String.utf8EncodeChar
  simp only [Char.toNat_val]
  rw [if_neg (by omega), if_neg (by omega), if_pos (by omega), ofNat_eq b (by omega),
    ofNat_eq b₂ (by omega), ofNat_eq b₃ (by omega)]

theorem encodeChar_four (h : 0x10000 ≤ c.toNat) (hb : b.toNat = 0xF0 + c.toNat / 262144 % 8)
    (hb₂ : b₂.toNat = 0x80 + c.toNat / 4096 % 64) (hb₃ : b₃.toNat = 0x80 + c.toNat / 64 % 64)
    (hb₄ : b₄.toNat = 0x80 + c.toNat % 64) :
    String.utf8EncodeChar c = [b, b₂, b₃, b₄] := by
  unfold String.utf8EncodeChar
  simp only [Char.toNat_val]
  rw [if_neg (by omega), if_neg (by omega), if_neg (by omega), ofNat_eq b (by omega),
    ofNat_eq b₂ (by omega), ofNat_eq b₃ (by omega), ofNat_eq b₄ (by omega)]

/-! ## The head of the bytes -/

variable {b b₂ b₃ b₄ : UInt8}

/-! The ranges of the second byte keep out long forms, surrogates and what lies beyond the last
character. -/

theorem shape_two (h₁ : 0xC2 ≤ b.toNat) (h₂ : b.toNat < 0xE0) :
    shape b = some (1, 0x80, 0xBF) := by
  simp only [shape, UInt8.lt_iff_toNat_lt, UInt8.reduceToNat]
  rw [if_neg (by omega), if_pos h₂]

theorem shape_three (h₁ : 0xE0 ≤ b.toNat) (h₂ : b.toNat < 0xF0) :
    shape b = some (2, if b.toNat = 0xE0 then 0xA0 else 0x80,
      if b.toNat = 0xED then 0x9F else 0xBF) := by
  simp only [shape, UInt8.lt_iff_toNat_lt, ← UInt8.toNat_inj, UInt8.reduceToNat]
  grind

theorem shape_four (h₁ : 0xF0 ≤ b.toNat) (h₂ : b.toNat < 0xF5) :
    shape b = some (3, if b.toNat = 0xF0 then 0x90 else 0x80,
      if b.toNat = 0xF4 then 0x8F else 0xBF) := by
  simp only [shape, UInt8.lt_iff_toNat_lt, ← UInt8.toNat_inj, UInt8.reduceToNat]
  grind

theorem shape_none (h : b.toNat < 0xC2 ∨ 0xF5 ≤ b.toNat) : shape b = none := by
  simp only [shape, UInt8.lt_iff_toNat_lt, ← UInt8.toNat_inj, UInt8.reduceToNat]
  grind

theorem isContinuation_iff (b : UInt8) :
    isContinuation b ↔ 0x80 ≤ b.toNat ∧ b.toNat ≤ 0xBF := by
  simp only [isContinuation, UInt8.le_iff_toNat_le, Bool.and_eq_true, decide_eq_true_eq,
    UInt8.reduceToNat]

theorem tail_cons (seen n count : Nat) (b : UInt8) (bs : List UInt8) :
    tail seen n (count + 1) (b :: bs) =
      if 0x80 ≤ b.toNat ∧ b.toNat ≤ 0xBF then tail (seen + 1) (push n b) count bs
      else .invalid seen := by
  rw [tail]
  simp only [isContinuation_iff]

theorem head_one (h : b.toNat < 0x80) (bs : List UInt8) :
    head b bs = .char (Char.ofNat b.toNat) 0 :=
  if_pos (UInt8.lt_iff_toNat_lt.2 h)

theorem exists_of_tail {seen n count more : Nat} {bs : List UInt8}
    (h : tail seen n (count + 1) bs = .char c more) :
    ∃ b rest, bs = b :: rest ∧ (0x80 ≤ b.toNat ∧ b.toNat ≤ 0xBF) ∧
      tail (seen + 1) (push n b) count rest = .char c more := by
  cases bs with
  | nil => cases h
  | cons b rest =>
      rw [tail_cons] at h
      split at h
      case isTrue hb => exact ⟨b, rest, rfl, hb, h⟩
      case isFalse => cases h

theorem not_lt_0x80 (h : 0x80 ≤ b.toNat) : ¬ b < 0x80 := by
  rw [UInt8.lt_iff_toNat_lt]
  exact Nat.not_lt.2 h

theorem head_more {count : Nat} {lo hi : UInt8} (h : 0x80 ≤ b.toNat)
    (hs : shape b = some (count, lo, hi)) (bs : List UInt8) :
    head b (b₂ :: bs) =
      if lo.toNat ≤ b₂.toNat ∧ b₂.toNat ≤ hi.toNat then
        tail 1 (push (b.toNat % Nat.pow 2 (6 - count)) b₂) (count - 1) bs
      else .invalid 0 := by
  unfold head
  simp only [if_neg (not_lt_0x80 h), hs, UInt8.le_iff_toNat_le, Bool.and_eq_true, decide_eq_true_eq]

theorem head_two (h : 0xC2 ≤ b.toNat ∧ b.toNat < 0xE0) (bs : List UInt8) :
    head b (b₂ :: bs) =
      if 0x80 ≤ b₂.toNat ∧ b₂.toNat ≤ 0xBF then tail 1 (push (b.toNat % 32) b₂) 0 bs
      else .invalid 0 := by
  rw [head_more (by omega) (shape_two h.1 h.2)]
  rfl

theorem head_three (h : 0xE0 ≤ b.toNat ∧ b.toNat < 0xF0) (bs : List UInt8) :
    head b (b₂ :: bs) =
      if (0x80 ≤ b₂.toNat ∧ b₂.toNat ≤ 0xBF) ∧ (b.toNat = 0xE0 → 0xA0 ≤ b₂.toNat) ∧
          (b.toNat = 0xED → b₂.toNat ≤ 0x9F) then
        tail 1 (push (b.toNat % 16) b₂) 1 bs
      else .invalid 0 := by
  rw [head_more (by omega) (shape_three h.1 h.2)]
  refine ite_congr (propext ?_) (fun _ => rfl) (fun _ => rfl)
  split <;> split <;> simp only [UInt8.reduceToNat] <;> omega

theorem head_four (h : 0xF0 ≤ b.toNat ∧ b.toNat < 0xF5) (bs : List UInt8) :
    head b (b₂ :: bs) =
      if (0x80 ≤ b₂.toNat ∧ b₂.toNat ≤ 0xBF) ∧ (b.toNat = 0xF0 → 0x90 ≤ b₂.toNat) ∧
          (b.toNat = 0xF4 → b₂.toNat ≤ 0x8F) then
        tail 1 (push (b.toNat % 8) b₂) 2 bs
      else .invalid 0 := by
  rw [head_more (by omega) (shape_four h.1 h.2)]
  refine ite_congr (propext ?_) (fun _ => rfl) (fun _ => rfl)
  split <;> split <;> simp only [UInt8.reduceToNat] <;> omega

/-! ## One character -/

/-- The bytes of a character are read as that character, whatever follows. -/
structure HasBytes (c : Char) (b : UInt8) (bs : List UInt8) : Prop where
  encodeChar_eq : String.utf8EncodeChar c = b :: bs
  head_eq : ∀ rest, head b (bs ++ rest) = .char c bs.length

theorem ofNat_of_eq {n : Nat} (h : n = c.toNat) : Char.ofNat n = c := by
  rw [h, Char.ofNat_toNat]

theorem exists_bytes_one (h : c.toNat < 0x80) : ∃ b bs, HasBytes c b bs := by
  obtain ⟨b, hb⟩ := exists_byte (n := c.toNat) (by omega)
  refine ⟨b, [], encodeChar_one b h hb, fun rest => ?_⟩
  rw [head_one (by omega), ofNat_of_eq hb, List.length_nil]

theorem exists_bytes_two (h₁ : 0x80 ≤ c.toNat) (h₂ : c.toNat < 0x800) :
    ∃ b bs, HasBytes c b bs := by
  obtain ⟨b, hb⟩ := exists_byte (n := 0xC0 + c.toNat / 64) (by omega)
  obtain ⟨b₂, hb₂⟩ := exists_byte (n := 0x80 + c.toNat % 64) (by omega)
  have hn : push (b.toNat % 32) b₂ = c.toNat := by
    unfold push
    omega
  refine ⟨b, [b₂], encodeChar_two b b₂ h₁ h₂ hb hb₂, fun rest => ?_⟩
  rw [List.cons_append, head_two (by omega), if_pos (by omega), tail, ofNat_of_eq hn]
  rfl

/-- Surrogates are no characters, so that the second byte passes its narrower check. -/
theorem exists_bytes_three (h₁ : 0x800 ≤ c.toNat) (h₂ : c.toNat < 0x10000) :
    ∃ b bs, HasBytes c b bs := by
  have hc : c.toNat < 0xD800 ∨ 0xDFFF < c.toNat ∧ c.toNat < 0x110000 := c.valid
  obtain ⟨b, hb⟩ := exists_byte (n := 0xE0 + c.toNat / 4096) (by omega)
  obtain ⟨b₂, hb₂⟩ := exists_byte (n := 0x80 + c.toNat / 64 % 64) (by omega)
  obtain ⟨b₃, hb₃⟩ := exists_byte (n := 0x80 + c.toNat % 64) (by omega)
  have hn : push (push (b.toNat % 16) b₂) b₃ = c.toNat := by
    unfold push
    omega
  refine ⟨b, [b₂, b₃], encodeChar_three b b₂ b₃ h₁ h₂ hb hb₂ hb₃, fun rest => ?_⟩
  rw [List.cons_append, List.cons_append, head_three (by omega), if_pos (by omega), tail_cons,
    if_pos (by omega), tail, ofNat_of_eq hn]
  rfl

theorem exists_bytes_four (h : 0x10000 ≤ c.toNat) : ∃ b bs, HasBytes c b bs := by
  have hc : c.toNat < 0xD800 ∨ 0xDFFF < c.toNat ∧ c.toNat < 0x110000 := c.valid
  obtain ⟨b, hb⟩ := exists_byte (n := 0xF0 + c.toNat / 262144 % 8) (by omega)
  obtain ⟨b₂, hb₂⟩ := exists_byte (n := 0x80 + c.toNat / 4096 % 64) (by omega)
  obtain ⟨b₃, hb₃⟩ := exists_byte (n := 0x80 + c.toNat / 64 % 64) (by omega)
  obtain ⟨b₄, hb₄⟩ := exists_byte (n := 0x80 + c.toNat % 64) (by omega)
  have hn : push (push (push (b.toNat % 8) b₂) b₃) b₄ = c.toNat := by
    unfold push
    omega
  refine ⟨b, [b₂, b₃, b₄], encodeChar_four b b₂ b₃ b₄ h hb hb₂ hb₃ hb₄, fun rest => ?_⟩
  rw [List.cons_append, List.cons_append, List.cons_append, head_four (by omega),
    if_pos (by omega), tail_cons, if_pos (by omega), tail_cons, if_pos (by omega), tail,
    ofNat_of_eq hn]
  rfl

theorem exists_bytes (c : Char) : ∃ b bs, HasBytes c b bs := by
  obtain h₁ | h₁ := Nat.lt_or_ge c.toNat 0x80
  · exact exists_bytes_one h₁
  obtain h₂ | h₂ := Nat.lt_or_ge c.toNat 0x800
  · exact exists_bytes_two h₁ h₂
  obtain h₃ | h₃ := Nat.lt_or_ge c.toNat 0x10000
  · exact exists_bytes_three h₂ h₃
  · exact exists_bytes_four h₃

theorem exists_of_head {bs : List UInt8} {more : Nat} (hb : 0x80 ≤ b.toNat)
    (h : head b bs = .char c more) : shape b ≠ none ∧ ∃ b₂ bs', bs = b₂ :: bs' := by
  unfold head at h
  rw [if_neg (not_lt_0x80 hb)] at h
  cases hs : shape b with
  | none =>
      rw [hs] at h
      cases h
  | some =>
      rw [hs] at h
      cases bs with
      | nil => cases h
      | cons b₂ bs => exact ⟨Option.some_ne_none _, b₂, bs, rfl⟩

theorem encodeChar_of_head_one {bs : List UInt8} {more : Nat} (hb : b.toNat < 0x80)
    (h : head b bs = .char c more) : String.utf8EncodeChar c ++ bs.drop more = b :: bs := by
  rw [head_one hb] at h
  obtain ⟨rfl, rfl⟩ := Head.char.inj h
  have hc := toNat_ofNat (n := b.toNat) (.inl (by omega))
  rw [encodeChar_one b (by omega) hc.symm]
  rfl

theorem encodeChar_of_head_two {bs : List UInt8} {more : Nat}
    (hb : 0xC2 ≤ b.toNat ∧ b.toNat < 0xE0) (h : head b (b₂ :: bs) = .char c more) :
    String.utf8EncodeChar c ++ (b₂ :: bs).drop more = b :: b₂ :: bs := by
  rw [head_two hb] at h
  split at h
  case isTrue hb₂ =>
    rw [tail] at h
    obtain ⟨rfl, rfl⟩ := Head.char.inj h
    have hc : (Char.ofNat (push (b.toNat % 32) b₂)).toNat = push (b.toNat % 32) b₂ :=
      toNat_ofNat (.inl (by unfold push; omega))
    unfold push at hc ⊢
    rw [encodeChar_two b b₂ (by omega) (by omega) (by omega) (by omega)]
    rfl
  case isFalse => cases h

theorem encodeChar_of_head_three {bs : List UInt8} {more : Nat}
    (hb : 0xE0 ≤ b.toNat ∧ b.toNat < 0xF0) (h : head b (b₂ :: bs) = .char c more) :
    String.utf8EncodeChar c ++ (b₂ :: bs).drop more = b :: b₂ :: bs := by
  rw [head_three hb] at h
  split at h
  case isTrue hb₂ =>
    obtain ⟨b₃, bs, rfl, hb₃, h⟩ := exists_of_tail h
    rw [tail] at h
    obtain ⟨rfl, rfl⟩ := Head.char.inj h
    have hc : (Char.ofNat (push (push (b.toNat % 16) b₂) b₃)).toNat =
        push (push (b.toNat % 16) b₂) b₃ :=
      toNat_ofNat (by unfold push; unfold Nat.isValidChar; omega)
    unfold push at hc ⊢
    rw [encodeChar_three b b₂ b₃ (by omega) (by omega) (by omega) (by omega) (by omega)]
    rfl
  case isFalse => cases h

theorem encodeChar_of_head_four {bs : List UInt8} {more : Nat}
    (hb : 0xF0 ≤ b.toNat ∧ b.toNat < 0xF5) (h : head b (b₂ :: bs) = .char c more) :
    String.utf8EncodeChar c ++ (b₂ :: bs).drop more = b :: b₂ :: bs := by
  rw [head_four hb] at h
  split at h
  case isTrue hb₂ =>
    obtain ⟨b₃, bs, rfl, hb₃, h⟩ := exists_of_tail h
    obtain ⟨b₄, bs, rfl, hb₄, h⟩ := exists_of_tail h
    rw [tail] at h
    obtain ⟨rfl, rfl⟩ := Head.char.inj h
    have hc : (Char.ofNat (push (push (push (b.toNat % 8) b₂) b₃) b₄)).toNat =
        push (push (push (b.toNat % 8) b₂) b₃) b₄ :=
      toNat_ofNat (by unfold push; unfold Nat.isValidChar; omega)
    unfold push at hc ⊢
    rw [encodeChar_four b b₂ b₃ b₄ (by omega) (by omega) (by omega) (by omega) (by omega)]
    rfl
  case isFalse => cases h

/-- A character that is read was written as the bytes it was read from. -/
theorem encodeChar_of_head {bs : List UInt8} {more : Nat} (h : head b bs = .char c more) :
    String.utf8EncodeChar c ++ bs.drop more = b :: bs := by
  obtain h₁ | h₁ := Nat.lt_or_ge b.toNat 0x80
  · exact encodeChar_of_head_one h₁ h
  obtain ⟨hs, b₂, bs, rfl⟩ := exists_of_head h₁ h
  have hb : ¬ (b.toNat < 0xC2 ∨ 0xF5 ≤ b.toNat) := mt shape_none hs
  obtain h₂ | h₂ := Nat.lt_or_ge b.toNat 0xE0
  · exact encodeChar_of_head_two (by omega) h
  obtain h₃ | h₃ := Nat.lt_or_ge b.toNat 0xF0
  · exact encodeChar_of_head_three ⟨h₂, h₃⟩ h
  · exact encodeChar_of_head_four (by omega) h

/-! ## Texts -/

theorem decodeFrom_encodeChars (index : Nat) (cs : List Char) :
    decodeFrom index (encodeChars cs) = .ok cs := by
  induction cs generalizing index with
  | nil => rw [encodeChars, List.flatMap_nil, decodeFrom]
  | cons c cs ih =>
      obtain ⟨b, bs, hc⟩ := exists_bytes c
      have he : encodeChars (c :: cs) = b :: (bs ++ encodeChars cs) := by
        rw [encodeChars, List.flatMap_cons, hc.encodeChar_eq]
        rfl
      rw [he, decodeFrom, hc.head_eq]
      simp only [List.drop_left, ih]
      rfl

theorem encodeChars_of_decodeFrom {index : Nat} {bytes : List UInt8} {cs : List Char}
    (h : decodeFrom index bytes = .ok cs) : encodeChars cs = bytes := by
  fun_induction decodeFrom index bytes generalizing cs with
  | case1 =>
      cases h
      rfl
  | case2 index b bs c more hb ih =>
      obtain ⟨rest, hr, rfl⟩ := map_eq_ok_iff.1 h
      rw [encodeChars, List.flatMap_cons, ← encodeChars, ih hr]
      exact encodeChar_of_head hb
  | case3 => cases h
  | case4 => cases h

@[simp] theorem decode?_encode (s : String) : decode? (encode s) = .ok s := by
  rw [decode?, encode, decodeFrom_encodeChars]
  exact congrArg Except.ok String.ofList_toList

theorem decode?_eq_ok_iff {bytes : List UInt8} {s : String} :
    decode? bytes = .ok s ↔ encode s = bytes := by
  constructor
  · intro h
    obtain ⟨cs, hr, rfl⟩ := map_eq_ok_iff.1 h
    rw [encode, String.toList_ofList, encodeChars_of_decodeFrom hr]
  · rintro rfl
    exact decode?_encode s

theorem encode_injective {s t : String} (h : encode s = encode t) : s = t := by
  have hs := decode?_encode s
  rw [h, decode?_encode] at hs
  exact (Except.ok.inj hs).symm

@[simp] theorem encode_empty : encode "" = [] := rfl

theorem encode_eq_nil_iff {s : String} : encode s = [] ↔ s = "" :=
  ⟨fun h => encode_injective (t := "") h, fun h => h ▸ encode_empty⟩

theorem ofNat_ne_zero {n : Nat} (h₁ : 0 < n) (h₂ : n < 256) : UInt8.ofNat n ≠ 0 := by
  intro h
  have hn := congrArg UInt8.toNat h
  rw [UInt8.toNat_ofNat_of_lt' h₂] at hn
  exact absurd hn (Nat.ne_of_gt h₁)

theorem ne_zero_of_mem_encodeChar (hc : 0 < c.toNat) : ∀ b ∈ String.utf8EncodeChar c, b ≠ 0 := by
  unfold String.utf8EncodeChar
  simp only [Char.toNat_val]
  split
  · exact List.forall_mem_singleton.2 (ofNat_ne_zero hc (by omega))
  split
  · simp only [List.forall_mem_cons]
    refine ⟨ofNat_ne_zero ?_ ?_, ofNat_ne_zero ?_ ?_, fun _ => nofun⟩ <;> omega
  split
  · simp only [List.forall_mem_cons]
    refine ⟨ofNat_ne_zero ?_ ?_, ofNat_ne_zero ?_ ?_, ofNat_ne_zero ?_ ?_, fun _ => nofun⟩ <;> omega
  · simp only [List.forall_mem_cons]
    refine ⟨ofNat_ne_zero ?_ ?_, ofNat_ne_zero ?_ ?_, ofNat_ne_zero ?_ ?_, ofNat_ne_zero ?_ ?_,
      fun _ => nofun⟩ <;> omega

/-- Only the null character has a null byte. -/
theorem zero_mem_encodeChar : 0 ∈ String.utf8EncodeChar c ↔ c = '\x00' := by
  constructor
  · intro h
    obtain hc | hc := Nat.eq_zero_or_pos c.toNat
    · exact Char.toNat_inj.1 hc
    · exact absurd rfl (ne_zero_of_mem_encodeChar hc 0 h)
  · rintro rfl
    decide

theorem zero_mem_encode {s : String} : 0 ∈ encode s ↔ '\x00' ∈ s.toList := by
  simp [encode, encodeChars, List.mem_flatMap, zero_mem_encodeChar]

theorem encodeChar_null : String.utf8EncodeChar '\x00' = [0] := by decide

theorem encodeChars_cons (c : Char) (cs : List Char) :
    encodeChars (c :: cs) = String.utf8EncodeChar c ++ encodeChars cs := List.flatMap_cons

theorem head?_encodeChars (cs : List Char) :
    (encodeChars cs).head? = some 0 ↔ cs.head? = some '\x00' := by
  cases cs with
  | nil => exact iff_of_false nofun nofun
  | cons c cs =>
      obtain ⟨b, bs, hc⟩ := exists_bytes c
      rw [encodeChars_cons, hc.encodeChar_eq, List.cons_append, List.head?_cons, List.head?_cons,
        Option.some.injEq, Option.some.injEq]
      constructor
      · rintro rfl
        exact zero_mem_encodeChar.1 (hc.encodeChar_eq ▸ List.mem_cons_self)
      · rintro rfl
        exact (List.cons.inj (hc.encodeChar_eq.symm.trans encodeChar_null)).1

/-! ## Lossy reading -/

theorem decodeLossyChars_encodeChars (cs : List Char) : decodeLossyChars (encodeChars cs) = cs := by
  induction cs with
  | nil => rw [encodeChars, List.flatMap_nil, decodeLossyChars]
  | cons c cs ih =>
      obtain ⟨b, bs, hc⟩ := exists_bytes c
      rw [encodeChars_cons, hc.encodeChar_eq, List.cons_append, decodeLossyChars, hc.head_eq]
      simp only [List.drop_left, ih]

/-- Nothing is lost of bytes that are text. -/
@[simp] theorem decodeLossy_encode (s : String) : decodeLossy (encode s) = s := by
  rw [decodeLossy, encode, decodeLossyChars_encodeChars, String.ofList_toList]

end Extraction.Text.Utf8
