import Extraction.Proofs.Rounding
import Mathlib

/-!
# Floats as signs and sizes

Floats are compared by the language in a form of its own, into which it takes their bits apart.  It
is the one of `Double.ofFloat` (`unpack_toModel`), so a float other than zero has a sign and one of
the sizes (`exists_ofFloat_eq`), and its absolute value is compared by the place of the size
(`compare_abs`).
-/

namespace Extraction.Decimal

open Float.Model
open Float.Model.UnpackedFloat

/-- The sign that a sign bit stands for. -/
def signOf (negative : Bool) : Sign := if negative then .negative else .positive

/-- A double in the form in which floats are compared.  Zero is told apart in it. -/
def Double.unpacked : Double → UnpackedFloat
  | .nan => .notANumber
  | .infinite negative => .infinity (signOf negative)
  | .finite negative size =>
    if h : size.mantissa = 0 then .zero (signOf negative)
    else .finite (signOf negative) size.mantissa size.exponent (Nat.pos_of_ne_zero h)

theorem Double.unpacked_finite (negative : Bool) {size : Binary} (h : 0 < size.mantissa) :
    (Double.finite negative size).unpacked =
      .finite (signOf negative) size.mantissa size.exponent h :=
  dif_neg h.ne'

/-! ## Taking bits apart -/

section Fields

variable {b : BitVec Format.binary64.numBits} {negative : Bool} {e f : ℕ}

/-- The language takes the three fields of a float for what they are taken for here. -/
theorem unpack_of_fields (hs : Sign.ofBitVec (unpackSign b) = signOf negative)
    (he : (unpackExponent b).toNat = e) (hf : (unpackMantissa b).toNat = f) :
    UnpackedFloat.unpack .binary64 b = Double.unpacked
      (if e = 2047 then if f = 0 then .infinite negative else .nan
        else .finite negative (.ofFields e f)) := by
  have hspecial : unpackExponent b = -1#_ ↔ e = 2047 := by
    rw [← BitVec.toNat_inj, he]
    rfl
  have hsubnormal : unpackExponent b = 0#_ ↔ e = 0 := by
    rw [← BitVec.toNat_inj, he]
    rfl
  have hfraction : unpackMantissa b = 0#_ ↔ f = 0 := by
    rw [← BitVec.toNat_inj, hf]
    rfl
  have hnormal : (1#1 ++ unpackMantissa b).toNat = 2 ^ 52 + f := by
    rw [BitVec.toNat_append, ← Nat.shiftLeft_add_eq_or_of_lt (unpackMantissa b).isLt, hf]
    rfl
  have hbias : Format.binary64.exponentBias = 1023 := rfl
  simp only [UnpackedFloat.unpack, hs, he, hf, hspecial, hsubnormal, hfraction, hnormal]
  by_cases hinfinite : e = 2047
  · rw [if_pos hinfinite, if_pos hinfinite]
    split <;> rfl
  · rw [if_neg hinfinite, if_neg hinfinite]
    cases e with
    | zero =>
        rw [if_pos rfl, ofFields_zero]
        split
        case isTrue hf =>
          rw [hf]
          rfl
        case isFalse hf =>
          rw [Double.unpacked_finite _ (Nat.pos_of_ne_zero hf), UnpackedFloat.finite.injEq, hbias]
          exact ⟨rfl, rfl, rfl⟩
    | succ e =>
        have hpos : 0 < 2 ^ 52 + f := by omega
        rw [if_neg (Nat.succ_ne_zero e), ofFields_succ, Double.unpacked_finite _ hpos,
          UnpackedFloat.finite.injEq, hbias]
        refine ⟨rfl, rfl, ?_⟩
        simp only
        omega

theorem toNat_unpackExponent (b : BitVec Format.binary64.numBits) :
    (unpackExponent b).toNat = b.toNat / 2 ^ 52 % 2 ^ 11 := by
  simp [unpackExponent, BitVec.extractLsb, Nat.shiftRight_eq_div_pow]

theorem toNat_unpackMantissa (b : BitVec Format.binary64.numBits) :
    (unpackMantissa b).toNat = b.toNat % 2 ^ 52 := by
  simp [unpackMantissa, BitVec.extractLsb]

theorem ofBitVec_unpackSign (b : BitVec Format.binary64.numBits) :
    Sign.ofBitVec (unpackSign b) = signOf (2 ^ 63 ≤ b.toNat) := by
  have hsign : unpackSign b = 0#1 ↔ ¬ 2 ^ 63 ≤ b.toNat := by
    have hlt : b.toNat < 2 ^ 64 := b.isLt
    rw [← BitVec.toNat_inj]
    simp only [unpackSign, BitVec.extractLsb, BitVec.toNat_cast, BitVec.extractLsb'_toNat,
      Nat.shiftRight_eq_div_pow, BitVec.toNat_ofNat]
    omega
  rw [Sign.ofBitVec, signOf]
  split <;> simp_all

end Fields

theorem unpack_toModel (x : Float) : x.toModel.unpack = (Double.ofFloat x).unpacked :=
  unpack_of_fields (ofBitVec_unpackSign x.toBits.toBitVec) (toNat_unpackExponent _)
    (toNat_unpackMantissa _)

/-! ## Signs -/

theorem exists_eq_of_isFinite {x : Float} (h : x.isFinite = true) :
    ∃ negative size, Double.ofFloat x = .finite negative size := by
  have hunpacked : (Double.ofFloat x).unpacked.isFinite = true := unpack_toModel x ▸ h
  cases hx : Double.ofFloat x with
  | nan =>
      rw [hx] at hunpacked
      cases hunpacked
  | infinite negative =>
      rw [hx] at hunpacked
      cases hunpacked
  | finite negative size => exact ⟨negative, size, rfl⟩

/-- Compared with zero a float shows its sign. -/
theorem compare_zero {x : Float} {negative : Bool} {size : Binary}
    (h : Double.ofFloat x = .finite negative size) :
    x.toModel.compare (0 : Float).toModel =
      some (if size.mantissa = 0 then .eq else if negative then .lt else .gt) := by
  have hzero : Double.ofFloat 0 = .finite false ⟨0, -1074, false⟩ := rfl
  rw [Float.Model.compare, unpack_toModel, unpack_toModel, h, hzero, Double.unpacked]
  split
  · rfl
  · cases negative <;> rfl

theorem beq_zero_iff {x : Float} {negative : Bool} {size : Binary}
    (h : Double.ofFloat x = .finite negative size) : (x == 0) = true ↔ size.mantissa = 0 := by
  change (x.toModel.compare (0 : Float).toModel == some .eq) = true ↔ _
  rw [compare_zero h]
  split
  · simp [*]
  · cases negative <;> simp [*]

theorem lt_zero_iff {x : Float} {negative : Bool} {size : Binary}
    (h : Double.ofFloat x = .finite negative size) (hpos : 0 < size.mantissa) :
    x < 0 ↔ negative = true := by
  change decide ((x.toModel.compare (0 : Float).toModel == some .lt) = true) = true ↔ _
  rw [compare_zero h, if_neg hpos.ne']
  cases negative <;> simp

theorem exists_eq_sizeAt {bits : UInt64} {negative : Bool} {size : Binary}
    (h : Double.ofBits bits = .finite negative size) : ∃ n < 2 ^ 52 * 2047, size = sizeAt n := by
  have hf : bits.toNat % 2 ^ 52 < 2 ^ 52 := Nat.mod_lt _ (by norm_num)
  have he : bits.toNat / 2 ^ 52 % 2 ^ 11 < 2 ^ 11 := Nat.mod_lt _ (by norm_num)
  simp only [Double.ofBits, Nat.pow_eq] at h
  split at h
  case isTrue hspecial => split at h <;> cases h
  case isFalse hspecial =>
    obtain ⟨-, rfl⟩ := Double.finite.inj h
    exact ⟨2 ^ 52 * (bits.toNat / 2 ^ 52 % 2 ^ 11) + bits.toNat % 2 ^ 52, by omega,
      (sizeAt_add _ hf).symm⟩

/-- A float other than zero has a sign and a size. -/
theorem exists_ofFloat_eq {x : Float} (hfinite : x.isFinite = true) (hzero : (x == 0) = false) :
    ∃ n, n + 1 < 2 ^ 52 * 2047 ∧ Double.ofFloat x = .finite (x < 0) (sizeAt (n + 1)) := by
  obtain ⟨negative, size, hx⟩ := exists_eq_of_isFinite hfinite
  have hpos : 0 < size.mantissa := Nat.pos_of_ne_zero (mt (beq_zero_iff hx).2 (by simp [hzero]))
  have hnegative : negative = decide (x < 0) := by
    rw [Bool.eq_iff_iff, decide_eq_true_iff, lt_zero_iff hx hpos]
  obtain ⟨n, hn, rfl⟩ := exists_eq_sizeAt hx
  cases n with
  | zero => exact (hpos.ne' rfl).elim
  | succ n => exact ⟨n, hn, hnegative ▸ hx⟩

/-! ## The order -/

/-- Sizes are in lexicographic order. -/
theorem exponent_lt_or_mantissa_lt {m n : ℕ} (h : m < n) :
    (sizeAt m).exponent < (sizeAt n).exponent ∨
      (sizeAt m).exponent = (sizeAt n).exponent ∧ (sizeAt m).mantissa < (sizeAt n).mantissa := by
  obtain ⟨e, f, hf, rfl⟩ := exists_fields m
  obtain ⟨e', f', hf', rfl⟩ := exists_fields n
  rw [sizeAt_add e hf, sizeAt_add e' hf']
  cases e with
  | zero =>
      cases e' with
      | zero => simp only [ofFields_zero, lt_irrefl, true_and, false_or]; omega
      | succ e' => simp only [ofFields_zero, ofFields_succ]; omega
  | succ e =>
      cases e' with
      | zero => omega
      | succ e' => simp only [ofFields_succ]; omega

theorem compare_unpacked (m n : ℕ) :
    (Double.finite false (sizeAt (m + 1))).unpacked.compare
      (Double.finite false (sizeAt (n + 1))).unpacked = some (compare m n) := by
  rw [Double.unpacked_finite _ (mantissa_sizeAt_succ_pos m),
    Double.unpacked_finite _ (mantissa_sizeAt_succ_pos n)]
  refine congrArg some ?_
  obtain hlt | rfl | hgt := Nat.lt_trichotomy m n
  · rw [Nat.compare_eq_lt.2 hlt]
    obtain he | ⟨he, hm⟩ := exponent_lt_or_mantissa_lt (Nat.succ_lt_succ hlt)
    · rw [compare_lt_iff_lt.2 he]
      rfl
    · rw [compare_eq_iff_eq.2 he, compare_lt_iff_lt.2 hm]
      rfl
  · rw [compare_eq_iff_eq.2 rfl, compare_eq_iff_eq.2 rfl, compare_eq_iff_eq.2 rfl]
    rfl
  · rw [Nat.compare_eq_gt.2 hgt]
    obtain he | ⟨he, hm⟩ := exponent_lt_or_mantissa_lt (Nat.succ_lt_succ hgt)
    · rw [compare_gt_iff_gt.2 he]
      rfl
    · rw [compare_eq_iff_eq.2 he.symm, compare_gt_iff_gt.2 hm]
      rfl

/-! ## The absolute value -/

theorem unpackSign_packComponents {spec : Format} {s : Sign} {e : BitVec spec.exponentBits}
    {f : BitVec spec.mantissaBitsWithoutImplicit} :
    unpackSign (packComponents spec s e f) = s.toBitVec := by
  ext i hi
  obtain rfl : i = 0 := by omega
  simp [unpackSign, packComponents, BitVec.getLsbD_append, BitVec.getElem_append]

theorem pack_unpacked {e f : ℕ} (he : e < 2047) (hf : f < 2 ^ 52)
    (hpos : 0 < (Binary.ofFields e f).mantissa) :
    UnpackedFloat.pack .binary64 (Double.finite false (.ofFields e f)).unpacked =
      packComponents .binary64 .positive (.ofNat _ e) (.ofNat _ f) := by
  have hbias : Format.binary64.exponentBias = 1023 := rfl
  have hwidth : Format.binary64.mantissaBits = 53 := rfl
  rw [Double.unpacked_finite _ hpos]
  cases e with
  | zero =>
      simp only [ofFields_zero] at hpos ⊢
      have hlog : f.log2 + 1 ≠ 53 := by
        have := (Nat.log2_lt hpos.ne').2 hf
        omega
      simp only [UnpackedFloat.pack, hbias, hwidth]
      rw [if_neg (by decide), if_neg hlog]
      rfl
  | succ e =>
      simp only [ofFields_succ] at hpos ⊢
      have hlog : (2 ^ 52 + f).log2 + 1 = 53 := by
        have h₁ := (Nat.le_log2 hpos.ne').2 (Nat.le_add_right (2 ^ 52) f)
        have h₂ := (Nat.log2_lt hpos.ne').2 (show 2 ^ 52 + f < 2 ^ 53 by omega)
        omega
      have hbiased : ((e : ℤ) - 1074 + (1023 : ℕ) + (52 : ℕ)).toNat = e + 1 := by omega
      simp only [UnpackedFloat.pack, hbias, hwidth, hbiased]
      rw [if_neg (by omega), if_pos hlog]
      congr 1
      rw [← BitVec.toNat_inj, BitVec.toNat_ofNat, BitVec.toNat_ofNat]
      omega

/-- A size that fits is packed and unpacked without loss. -/
theorem unpack_pack {n : ℕ} (h : n + 1 < 2 ^ 52 * 2047) :
    (Float.Model.pack (Double.finite false (sizeAt (n + 1))).unpacked).unpack =
      (Double.finite false (sizeAt (n + 1))).unpacked := by
  have hpos := mantissa_sizeAt_succ_pos n
  obtain ⟨e, f, hf, hn⟩ := exists_fields (n + 1)
  rw [hn] at h hpos ⊢
  rw [sizeAt_add e hf] at hpos ⊢
  have he : e < 2047 := by omega
  change UnpackedFloat.unpack .binary64 (UnpackedFloat.pack .binary64 _) = _
  rw [pack_unpacked he hf hpos, @unpack_of_fields _ false e f, if_neg he.ne]
  · rw [unpackSign_packComponents]
    rfl
  · rw [unpackExponent_packComponents, BitVec.toNat_ofNat]
    exact Nat.mod_eq_of_lt (he.trans (by norm_num))
  · rw [unpackMantissa_packComponents, BitVec.toNat_ofNat]
    exact Nat.mod_eq_of_lt hf

section Size

variable {x y : Float} {negative : Bool} {m n : ℕ}

/-- The absolute value has the size without the sign. -/
theorem unpack_abs (hn : n + 1 < 2 ^ 52 * 2047)
    (hx : Double.ofFloat x = .finite negative (sizeAt (n + 1))) :
    x.abs.toModel.unpack = (Double.finite false (sizeAt (n + 1))).unpacked := by
  have habs : x.toModel.unpack.abs = (Double.finite false (sizeAt (n + 1))).unpacked := by
    rw [unpack_toModel, hx, Double.unpacked_finite _ (mantissa_sizeAt_succ_pos n),
      Double.unpacked_finite _ (mantissa_sizeAt_succ_pos n)]
    rfl
  change (Float.Model.pack x.toModel.unpack.abs).unpack = _
  rw [habs, unpack_pack hn]

/-- Absolute values are compared by the places of their sizes. -/
theorem compare_abs (hm : Double.ofFloat y = .finite false (sizeAt (m + 1)))
    (hn : n + 1 < 2 ^ 52 * 2047) (hx : Double.ofFloat x = .finite negative (sizeAt (n + 1))) :
    (y ≤ x.abs ↔ m ≤ n) ∧ (x.abs < y ↔ n < m) := by
  have hle : y ≤ x.abs ↔ (y.toModel.unpack.compare x.abs.toModel.unpack).any (·.isLE) = true :=
    decide_eq_true_iff
  have hlt : x.abs < y ↔ (x.abs.toModel.unpack.compare y.toModel.unpack == some .lt) = true :=
    decide_eq_true_iff
  rw [hle, hlt, unpack_abs hn hx, unpack_toModel, hm, compare_unpacked, compare_unpacked]
  simp only [Option.any_some, Option.some_beq_some, beq_iff_eq]
  exact ⟨Nat.isLE_compare, Nat.compare_eq_lt⟩

end Size

end Extraction.Decimal
