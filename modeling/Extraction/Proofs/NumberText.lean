import Extraction.Number
import Extraction.Proofs.Doubles
import Extraction.Proofs.ShortestDecimal

/-!
# Numbers as a browser shows them

ECMAScript chooses the notation of a number by its shortest decimal: by where the point lies among
the digits.  The program chooses it before there are digits, by comparing the double with `10²¹` and
`10⁻⁶`.  These powers of ten are the shortest decimals of the doubles closest to them, and rounding
keeps the order, so the two choices are the same (`bound_le_iff`).
-/

namespace Extraction.Number

open Decimal

/-! ## The prescribed text -/

/-- The text that ECMAScript prescribes for a number `± 0.d₁d₂…dₖ · 10ⁿ` with the `k` digits of
`s`. -/
def browserText (negative : Bool) (s k : ℕ) (n : ℤ) : List Char :=
  let ds := Text.digits 10 s
  let exponent := (if n - 1 < 0 then '-' else '+') :: Text.digits 10 (n - 1).natAbs
  signed negative <|
    if k ≤ n ∧ n ≤ 21 then ds ++ zeros (n - k).toNat
    else if 0 < n ∧ n ≤ 21 then ds.take n.toNat ++ '.' :: ds.drop n.toNat
    else if -6 < n ∧ n ≤ 0 then "0.".toList ++ zeros (-n).toNat ++ ds
    else if k = 1 then ds ++ 'e' :: exponent
    else ds.take 1 ++ '.' :: ds.drop 1 ++ 'e' :: exponent

section Notation

variable {ds : List Char} {k : ℕ} {n : ℤ}

theorem positional_eq (h : ds.length = k) (hk : 0 < k) : positional ds n =
    if k ≤ n then ds ++ zeros (n - k).toNat
    else if 0 < n then ds.take n.toNat ++ '.' :: ds.drop n.toNat
    else "0.".toList ++ zeros (-n).toNat ++ ds := by
  rw [positional, h]
  by_cases hn : n ≤ 0
  · rw [if_pos hn, if_neg (by omega), if_neg (by omega)]
  · rw [if_neg hn]
    by_cases hkn : (k : ℤ) ≤ n
    · rw [if_pos (by omega), if_pos hkn, show n.toNat - k = (n - k).toNat by omega]
    · rw [if_neg (by omega), if_neg hkn, if_pos (by omega)]

theorem mantissa_eq (h : ds.length = k) (hk : 0 < k) :
    mantissa ds = if k = 1 then ds else ds.take 1 ++ '.' :: ds.drop 1 := by
  subst h
  match ds with
  | [d] => rfl
  | d :: e :: ds => rfl

theorem scientific_eq (ds : List Char) (n : ℤ) : scientific ['+'] ds n =
    mantissa ds ++ 'e' :: (if n - 1 < 0 then '-' else '+') :: Text.digits 10 (n - 1).natAbs := by
  rw [scientific]
  by_cases hneg : n ≤ 0
  · rw [if_pos hneg, if_pos (by omega), show (1 - n).toNat = (n - 1).natAbs by omega]
  · rw [if_neg hneg, if_neg (by omega), show (n - 1).toNat = (n - 1).natAbs by omega]
    rfl

end Notation

/-- Between the bounds for its point a number is written without an exponent. -/
theorem browserText_eq {s k : ℕ} {n : ℤ} (negative : Bool) (h : (Text.digits 10 s).length = k)
    (hk : 0 < k) : browserText negative s k n = signed negative
      (if 21 < n ∨ n ≤ -6 then scientific ['+'] (Text.digits 10 s) n
        else positional (Text.digits 10 s) n) := by
  rw [browserText]
  refine congrArg (signed negative) ?_
  by_cases hn : 21 < n ∨ n ≤ -6
  · rw [if_pos hn, if_neg (by omega), if_neg (by omega), if_neg (by omega), scientific_eq,
      mantissa_eq h hk]
    by_cases hone : k = 1
    · rw [if_pos hone, if_pos hone]
    · rw [if_neg hone, if_neg hone]
  · rw [if_neg hn, positional_eq h hk]
    by_cases hkn : (k : ℤ) ≤ n
    · rw [if_pos (by omega), if_pos hkn]
    · rw [if_neg (by omega), if_neg hkn]
      by_cases hpos : 0 < n
      · rw [if_pos (by omega), if_pos hpos]
      · rw [if_neg (by omega), if_pos (by omega), if_neg hpos]

/-! ## The two bounds -/

section Bounds

variable {n s k : ℕ} {p : ℤ}

theorem atLeast_iff (x : Binary) (m : ℕ) (e : ℤ) :
    x.atLeast m e = true ↔ (m * 2 ^ e : ℚ) ≤ x.value := by
  have hunit : (2 : ℚ) ^ (e - x.exponent).toNat =
      2 ^ (e - x.exponent) * 2 ^ (x.exponent - e).toNat := by
    rw [pow_toNat two_ne_zero, neg_sub]
  have hscale : (0 : ℚ) < 2 ^ (x.exponent - e).toNat := pow_pos two_pos _
  have hexponent : (0 : ℚ) < 2 ^ x.exponent := zpow_pos two_pos _
  rw [Binary.atLeast, decide_eq_true_iff, ← Nat.cast_le (α := ℚ), Nat.pow_eq, Nat.pow_eq]
  push_cast
  rw [hunit, ← mul_assoc, mul_le_mul_iff_left₀ hscale, zpow_sub₀ two_ne_zero, ← mul_div_assoc,
    div_le_iff₀ hexponent, Binary.value]

/-- If the shortest decimal of a bound is a power of ten, the point in the shortest decimal of a
size tells on which side of the bound it is. -/
theorem bound_le_iff {t : ℕ} {q : ℤ} (ht : IsShortest (sizeAt (t + 1)) 1 1 (q + 1))
    (h : IsShortest (sizeAt (n + 1)) s k p) : t ≤ n ↔ q < p := by
  have hround := ht.rounds
  rw [Nat.cast_one, Nat.cast_one, one_mul, add_sub_cancel_right] at hround
  obtain ⟨hle, hlt⟩ := h.pow_le_and_lt_pow
  constructor
  · intro htn
    by_contra hpq
    have hq : (10 : ℚ) ^ p ≤ 10 ^ q := zpow_le_zpow_right₀ (by norm_num) (not_lt.1 hpq)
    obtain rfl : t = n := Nat.le_antisymm htn (h.rounds.le hround (hlt.le.trans hq))
    obtain ⟨-, -, rfl⟩ := ht.unique h
    omega
  · intro hqp
    have hq : (10 : ℚ) ^ q ≤ 10 ^ (p - 1) := zpow_le_zpow_right₀ (by norm_num) (by omega)
    exact hround.le h.rounds (hq.trans hle)

/-- The places of `10²¹` and of the double closest to `10⁻⁶`. -/
def largePlace : ℕ := 4921056587992461135

def smallPlace : ℕ := 4517329193108106636

theorem sizeAt_largePlace : sizeAt (largePlace + 1) = ⟨7629394531250000, 17, false⟩ := rfl

theorem sizeAt_smallPlace : sizeAt (smallPlace + 1) = ⟨4722366482869645, -72, false⟩ := rfl

theorem ofFloat_large : Double.ofFloat 1e21 = .finite false (sizeAt (largePlace + 1)) := rfl

theorem ofFloat_small : Double.ofFloat 1e-6 = .finite false (sizeAt (smallPlace + 1)) := rfl

theorem isShortest_largePlace : IsShortest (sizeAt (largePlace + 1)) 1 1 22 := by
  have h := isShortest_shortest largePlace
  rwa [show shortest .up (sizeAt (largePlace + 1)) = ⟨1, 21⟩ by decide +kernel] at h

theorem isShortest_smallPlace : IsShortest (sizeAt (smallPlace + 1)) 1 1 (-5) := by
  have h := isShortest_shortest smallPlace
  rwa [show shortest .up (sizeAt (smallPlace + 1)) = ⟨1, -6⟩ by decide +kernel] at h

theorem isLarge_iff_le : isLarge (sizeAt (n + 1)) = true ↔ largePlace ≤ n := by
  have hbound : ((Nat.pow 10 21 : ℕ) * 2 ^ (0 : ℤ) : ℚ) = (sizeAt (largePlace + 1)).value := by
    rw [sizeAt_largePlace, Binary.value]
    norm_num
  rw [isLarge, atLeast_iff, hbound, value_sizeAt_le_iff, Nat.add_le_add_iff_right]

theorem isSmall_iff_lt : isSmall (sizeAt (n + 1)) = true ↔ n < smallPlace := by
  have hbound : ((4722366482869645 : ℕ) * 2 ^ (-72 : ℤ) : ℚ) = (sizeAt (smallPlace + 1)).value := by
    rw [sizeAt_smallPlace, Binary.value]
  rw [isSmall, Bool.not_eq_true', ← Bool.not_eq_true, atLeast_iff, hbound, value_sizeAt_le_iff,
    Nat.add_le_add_iff_right, Nat.not_le]

theorem largePlace_le_iff (h : IsShortest (sizeAt (n + 1)) s k p) : largePlace ≤ n ↔ 21 < p :=
  bound_le_iff isShortest_largePlace h

theorem lt_smallPlace_iff (h : IsShortest (sizeAt (n + 1)) s k p) : n < smallPlace ↔ p ≤ -6 := by
  rw [← Nat.not_le, ← Int.not_lt]
  exact not_congr (bound_le_iff isShortest_smallPlace h)

end Bounds

/-! ## The text of a number -/

theorem chars_eq_browserText (negative : Bool) (n : ℕ) :
    let d := shortest .up (sizeAt (n + 1))
    chars (.finite negative (sizeAt (n + 1))) =
      browserText negative d.coefficient d.digits.length d.point := by
  intro d
  have hshortest : IsShortest _ d.coefficient d.digits.length d.point := isShortest_shortest n
  have hnonzero := (mantissa_sizeAt_succ_pos n).ne'
  have hcases : (isLarge (sizeAt (n + 1)) || isSmall (sizeAt (n + 1))) = true ↔
      21 < d.point ∨ d.point ≤ -6 := by
    rw [Bool.or_eq_true, isLarge_iff_le, isSmall_iff_lt, largePlace_le_iff hshortest,
      lt_smallPlace_iff hshortest]
  have hlength : (Text.digits 10 d.coefficient).length = d.digits.length := rfl
  rw [browserText_eq negative hlength hshortest.length_pos, chars, sizeChars, if_neg hnonzero,
    decide_eq_true hnonzero, Bool.and_true]
  refine congrArg (signed negative) ?_
  simp only [hcases]
  rfl

/-- Numbers look as in a browser: the text of a float other than zero is the one that is prescribed
for its shortest decimal, of which there is only one, and comparing the float with the bounds is
looking where the point is. -/
theorem format_eq_browserText (x : Float) (hfinite : x.isFinite = true) (hzero : (x == 0) = false) :
    ∃ (size : Binary) (s k : ℕ) (n : ℤ), Double.ofFloat x = .finite (x < 0) size ∧
      IsShortest size s k n ∧
      (∀ s' k' n', IsShortest size s' k' n' → s' = s ∧ k' = k ∧ n' = n) ∧
      format x = String.ofList (browserText (x < 0) s k n) ∧
      ((isLarge size = true ↔ 21 < n) ∧ (1e21 ≤ x.abs ↔ 21 < n)) ∧
      ((isSmall size = true ↔ n ≤ -6) ∧ (x.abs < 1e-6 ↔ n ≤ -6)) := by
  obtain ⟨m, hm, hx⟩ := exists_ofFloat_eq hfinite hzero
  have hshortest := isShortest_shortest m
  have hlarge := largePlace_le_iff hshortest
  have hsmall := lt_smallPlace_iff hshortest
  refine ⟨sizeAt (m + 1), _, _, _, hx, hshortest, fun _ _ _ h => h.unique hshortest, ?_,
    ⟨isLarge_iff_le.trans hlarge, (compare_abs ofFloat_large hm hx).1.trans hlarge⟩,
    ⟨isSmall_iff_lt.trans hsmall, (compare_abs ofFloat_small hm hx).2.trans hsmall⟩⟩
  rw [format, hx, chars_eq_browserText]

theorem format_eq_browserText_with_exponent : (-2.5e22 : Float).isFinite = true ∧
    ((-2.5e22 : Float) == 0) = false ∧
      ∃ s k n, format (-2.5e22) = String.ofList (browserText true s k n) ∧ 21 < n := by
  have hfinite : (-2.5e22 : Float).isFinite = true := by decide
  have hzero : ((-2.5e22 : Float) == 0) = false := by decide
  have hnegative : decide ((-2.5e22 : Float) < 0) = true := by decide
  have hlarge : (1e21 : Float) ≤ (-2.5e22 : Float).abs := by decide
  obtain ⟨-, s, k, n, -, -, -, htext, ⟨-, hbound⟩, -⟩ :=
    format_eq_browserText (-2.5e22) hfinite hzero
  exact ⟨hfinite, hzero, s, k, n, hnegative ▸ htext, hbound.1 hlarge⟩

example : browserText true 25 2 23 = "-2.5e+22".toList := by decide

end Extraction.Number
