import Extraction.Decimal.Notation
import Extraction.Proofs.Rounding

/-!
# The shortest decimal of a double

The search for the shortest decimal goes from grid to grid, and on each of them looks at the two
neighbours of the double.  `IsShortest` says what is to be found without saying how: a decimal that
is rounded to the double, with the fewest digits, and of these the closest.  There is exactly one,
and the search finds it (`isShortest_shortest`).
-/

namespace Extraction.Decimal

/-! ## Intervals -/

theorem pow_toNat {b : ℚ} (hb : b ≠ 0) (e : ℤ) : b ^ e.toNat = b ^ e * b ^ (-e).toNat := by
  rw [← zpow_natCast, ← zpow_natCast b (-e).toNat, ← zpow_add₀ hb]
  congr 1
  omega

namespace Interval

variable {i : Interval} {lo v hi : ℚ}

/-- The rational numbers that the fields of an interval stand for. -/
structure Spans (i : Interval) (lo v hi : ℚ) : Prop where
  unit_pos : 0 < i.unit
  lower_eq : (i.lower : ℚ) = lo * i.unit
  value_eq : (i.value : ℚ) = v * i.unit
  upper_eq : (i.upper : ℚ) = hi * i.unit

/-- The interval of a size lies between the midpoints to its neighbours. -/
theorem spans_ofBinary (n : ℕ) : (ofBinary (sizeAt (n + 1))).Spans (midpoint n)
    (sizeAt (n + 1)).value (midpoint (n + 1)) := by
  have hpos := mantissa_sizeAt_succ_pos n
  rw [midpoint, midpoint, value_sizeAt_succ (n + 1), eq_sub_of_add_eq (value_sizeAt_succ n).symm,
    ulp_eq n, ulp, Binary.value]
  generalize sizeAt (n + 1) = x at hpos
  obtain ⟨m, e, narrow⟩ := x
  have hscale : (2 : ℚ) ^ (e - 2).toNat = 2 ^ e / 4 * 2 ^ (2 - e).toNat := by
    rw [pow_toNat two_ne_zero, neg_sub, zpow_sub₀ two_ne_zero]
    norm_num
  refine ⟨Nat.pow_pos two_pos, ?_, ?_, ?_⟩
  · have hle : (if narrow then 1 else 2) ≤ 4 * m := by
      simp only at hpos
      split <;> omega
    simp only [ofBinary, Nat.pow_eq]
    push_cast [Nat.cast_sub hle]
    rw [hscale]
    cases narrow
    · simp only [Bool.false_eq_true, if_false]
      ring
    · simp only [if_true]
      ring
  · simp only [ofBinary, Nat.pow_eq]
    push_cast
    rw [hscale]
    ring
  · simp only [ofBinary, Nat.pow_eq]
    push_cast
    rw [hscale]
    ring

theorem closed_ofBinary (n : ℕ) : (ofBinary (sizeAt n)).closed = decide (n % 2 = 0) := by
  rw [← mantissa_sizeAt_mod_two]
  rfl

/-- A coarser or finer grid: all is measured in its steps. -/
theorem Spans.onGrid (h : i.Spans lo v hi) (e : ℤ) :
    (i.onGrid e).Spans (lo / 10 ^ e) (v / 10 ^ e) (hi / 10 ^ e) := by
  have hscale : (10 : ℚ) ^ (-e).toNat = 10 ^ e.toNat / 10 ^ e := by
    rw [pow_toNat (by norm_num) e]
    field_simp
  have hcast (a : ℕ) (q : ℚ) (ha : (a : ℚ) = q * i.unit) :
      ((a * Nat.pow 10 (-e).toNat : ℕ) : ℚ) = q / 10 ^ e * ((i.onGrid e).unit : ℕ) := by
    simp only [Interval.onGrid, Nat.pow_eq]
    push_cast
    rw [ha, hscale]
    ring
  exact ⟨Nat.mul_pos h.unit_pos (Nat.pow_pos (by norm_num)), hcast _ _ h.lower_eq,
    hcast _ _ h.value_eq, hcast _ _ h.upper_eq⟩

section Steps

variable {a n unit : ℕ} {q : ℚ}

/-- Steps are counted by comparing what they come to. -/
theorem steps_le_iff (hunit : 0 < unit) (ha : (a : ℚ) = q * unit) : n * unit ≤ a ↔ n ≤ q := by
  have hunit : (0 : ℚ) < unit := by exact_mod_cast hunit
  rw [← mul_le_mul_iff_left₀ hunit, ← ha]
  exact_mod_cast Iff.rfl

theorem le_steps_iff (hunit : 0 < unit) (ha : (a : ℚ) = q * unit) : a ≤ n * unit ↔ q ≤ n := by
  have hunit : (0 : ℚ) < unit := by exact_mod_cast hunit
  rw [← mul_le_mul_iff_left₀ hunit, ← ha]
  exact_mod_cast Iff.rfl

theorem steps_lt_iff (hunit : 0 < unit) (ha : (a : ℚ) = q * unit) : n * unit < a ↔ n < q := by
  rw [← not_le, le_steps_iff hunit ha, not_le]

theorem lt_steps_iff (hunit : 0 < unit) (ha : (a : ℚ) = q * unit) : a < n * unit ↔ q < n := by
  rw [← not_le, steps_le_iff hunit ha, not_le]

end Steps

theorem Spans.contains_iff (h : i.Spans lo v hi) (n : ℕ) :
    i.contains n = true ↔ Within i.closed lo hi n := by
  rw [contains, Within]
  cases i.closed with
  | true => simp [le_steps_iff h.unit_pos h.lower_eq, steps_le_iff h.unit_pos h.upper_eq]
  | false => simp [lt_steps_iff h.unit_pos h.lower_eq, steps_lt_iff h.unit_pos h.upper_eq]

/-- The value lies between two whole numbers, and is compared with their middle. -/
theorem Spans.neighbours (h : i.Spans lo v hi) :
    ((i.value / i.unit : ℕ) : ℚ) ≤ v ∧ v < (i.value / i.unit + 1 : ℕ) ∧
      (2 * i.value < (2 * (i.value / i.unit) + 1) * i.unit ↔
        2 * v < 2 * (i.value / i.unit : ℕ) + 1) := by
  refine ⟨(steps_le_iff h.unit_pos h.value_eq).1 (Nat.div_mul_le_self _ _),
    (lt_steps_iff h.unit_pos h.value_eq).1
      (Nat.lt_mul_of_div_lt (Nat.lt_succ_self _) h.unit_pos), ?_⟩
  have htwice : ((2 * i.value : ℕ) : ℚ) = 2 * v * i.unit := by
    push_cast
    rw [h.value_eq, mul_assoc]
  rw [lt_steps_iff h.unit_pos htwice]
  push_cast
  rfl

/-- Of the whole numbers in an interval, the closest to its value, and the upper one of two. -/
def Closest (closed : Bool) (lo v hi : ℚ) (n : ℕ) : Prop :=
  Within closed lo hi n ∧ ∀ m : ℕ, Within closed lo hi m →
    (n < m → 2 * v < n + m) ∧ (m < n → (m + n : ℚ) ≤ 2 * v)

section Neighbours

variable {closed : Bool} {N : ℕ}

/-- The lower neighbour is the closest if it is in the interval, and the upper one is not or is
farther away. -/
theorem closest_lower (hlo : lo < v) (hhi : v < hi) (hN : (N : ℚ) ≤ v) (hN' : v < (N + 1 : ℕ))
    (hin : Within closed lo hi N)
    (hupper : 2 * v < 2 * N + 1 ∨ ¬ Within closed lo hi (N + 1 : ℕ)) :
    Closest closed lo v hi N := by
  refine ⟨hin, fun m hm => ⟨fun hlt => ?_, fun hlt => ?_⟩⟩
  · have hle : ((N + 1 : ℕ) : ℚ) ≤ m := by exact_mod_cast hlt
    obtain hcloser | hout := hupper
    · push_cast at hle
      linarith
    · exact absurd ((within_of_lt hlo hhi).convex hm hN'.le hle) hout
  · have hle : (m : ℚ) ≤ N := by exact_mod_cast hlt.le
    linarith

theorem closest_upper (hlo : lo < v) (hhi : v < hi) (hN : (N : ℚ) ≤ v) (hN' : v < (N + 1 : ℕ))
    (hin : Within closed lo hi (N + 1 : ℕ))
    (hlower : 2 * N + 1 ≤ 2 * v ∨ ¬ Within closed lo hi N) :
    Closest closed lo v hi (N + 1) := by
  refine ⟨hin, fun m hm => ⟨fun hlt => ?_, fun hlt => ?_⟩⟩
  · have hle : ((N + 1 : ℕ) : ℚ) ≤ m := by exact_mod_cast hlt.le
    have hlt' : ((N + 1 : ℕ) : ℚ) < m := by exact_mod_cast hlt
    linarith
  · have hle : (m : ℚ) ≤ N := by exact_mod_cast Nat.le_of_lt_succ hlt
    obtain hcloser | hout := hlower
    · push_cast
      linarith
    · exact absurd (hm.convex (within_of_lt hlo hhi) hle hN) hout

/-- No whole number is in the interval if neither of the neighbours is. -/
theorem not_within_of_neighbours (hlo : lo < v) (hhi : v < hi) (hN : (N : ℚ) ≤ v)
    (hN' : v < (N + 1 : ℕ)) (hlower : ¬ Within closed lo hi N)
    (hupper : ¬ Within closed lo hi (N + 1 : ℕ)) (m : ℕ) : ¬ Within closed lo hi m := by
  intro hm
  obtain hle | hle := Nat.lt_or_ge N m
  · exact hupper ((within_of_lt hlo hhi).convex hm hN'.le (by exact_mod_cast hle))
  · exact hlower (hm.convex (within_of_lt hlo hhi) (by exact_mod_cast hle) hN)

end Neighbours

/-- Of the two neighbours of the value, the closest one in the interval is taken. -/
theorem Spans.nearest? (h : i.Spans lo v hi) (hlo : lo < v) (hhi : v < hi) :
    (∀ n, i.nearest? .up = some n → Closest i.closed lo v hi n) ∧
      (i.nearest? .up = none → ∀ m : ℕ, ¬ Within i.closed lo hi m) := by
  have hlower := h.contains_iff (i.value / i.unit)
  have hupper := h.contains_iff (i.value / i.unit + 1)
  obtain ⟨hN, hN', htwice⟩ := h.neighbours
  rw [Interval.nearest?, closer]
  generalize i.value / i.unit = N at *
  have hlower' (hl : i.contains N = false) : ¬ Within i.closed lo hi N :=
    fun hw => Bool.false_ne_true (hl.symm.trans (hlower.2 hw))
  have hupper' (hu : i.contains (N + 1) = false) : ¬ Within i.closed lo hi (N + 1 : ℕ) :=
    fun hw => Bool.false_ne_true (hu.symm.trans (hupper.2 hw))
  cases hl : i.contains N with
  | false =>
      cases hu : i.contains (N + 1) with
      | false =>
          exact ⟨nofun, fun _ =>
            not_within_of_neighbours hlo hhi hN hN' (hlower' hl) (hupper' hu)⟩
      | true =>
          refine ⟨?_, nofun⟩
          rintro _ ⟨⟩
          exact closest_upper hlo hhi hN hN' (hupper.1 hu) (.inr (hlower' hl))
  | true =>
      cases hu : i.contains (N + 1) with
      | false =>
          refine ⟨?_, nofun⟩
          rintro _ ⟨⟩
          exact closest_lower hlo hhi hN hN' (hlower.1 hl) (.inr (hupper' hu))
      | true =>
          refine ⟨?_, nofun⟩
          rintro _ ⟨⟩
          by_cases hc : 2 * i.value < (2 * N + 1) * i.unit
          · rw [if_pos hc]
            exact closest_lower hlo hhi hN hN' (hlower.1 hl) (.inl (htwice.1 hc))
          · rw [if_neg hc, ite_self]
            exact closest_upper hlo hhi hN hN' (hupper.1 hu) (.inl (not_lt.1 (mt htwice.2 hc)))

end Interval

/-! ## Digits -/

/-- The number that a decimal stands for. -/
def Scientific.value (d : Scientific) : ℚ := d.coefficient * 10 ^ d.exponent

/-- The number of digits of a number places it between powers of ten. -/
theorem pow_le_and_lt_pow {s : ℕ} (hs : 0 < s) :
    10 ^ ((Text.digits 10 s).length - 1) ≤ s ∧ s < 10 ^ (Text.digits 10 s).length := by
  have hpos : 0 < (Text.digits 10 s).length := Nat.length_toDigits_pos
  refine ⟨?_, (Nat.length_toDigits_le_iff (by norm_num) hpos).1 (Nat.le_refl _)⟩
  by_contra hlt
  obtain hone | hmore := Nat.eq_or_lt_of_le (Nat.succ_le_of_lt hpos)
  · rw [← hone] at hlt
    exact hlt hs
  · have hle := (Nat.length_toDigits_le_iff (b := 10) (by norm_num) (Nat.sub_pos_of_lt hmore)).2
      (Nat.lt_of_not_le hlt)
    exact absurd hle (Nat.not_le_of_lt (Nat.sub_lt hpos Nat.one_pos))

theorem leadingZeros_spec {value unit : ℕ} (hv : 0 < value) (hu : value < unit) :
    10 ^ leadingZeros value unit * value < unit ∧
      unit ≤ 10 ^ (leadingZeros value unit + 1) * value := by
  fun_induction leadingZeros value unit with
  | case1 value h ih =>
      obtain ⟨h₁, h₂⟩ := ih (Nat.mul_pos (by norm_num) hv) h.2
      rw [← Nat.mul_assoc, ← Nat.pow_succ] at h₁ h₂
      exact ⟨h₁, h₂⟩
  | case2 value h =>
      rw [Nat.pow_zero, Nat.one_mul, Nat.zero_add, Nat.pow_one]
      exact ⟨hu, Nat.le_of_not_lt fun hlt => h ⟨hv, hlt⟩⟩

/-- The scale places the value between powers of ten. -/
theorem scaleOf_spec {value unit : ℕ} (hv : 0 < value) (hu : 0 < unit) :
    (10 : ℚ) ^ (scaleOf value unit - 1) ≤ value / unit ∧
      (value / unit : ℚ) < 10 ^ scaleOf value unit := by
  have hunit : (0 : ℚ) < unit := by exact_mod_cast hu
  rw [le_div_iff₀ hunit, div_lt_iff₀ hunit, scaleOf]
  split
  case isTrue hle =>
    have hq : 0 < value / unit := Nat.div_pos hle hu
    obtain ⟨h₁, h₂⟩ := pow_le_and_lt_pow hq
    have hpos : 0 < (Text.digits 10 (value / unit)).length := Nat.length_toDigits_pos
    rw [digitCount, if_neg hq.ne']
    generalize (Text.digits 10 (value / unit)).length = k at *
    rw [show ((k : ℤ) - 1) = ((k - 1 : ℕ) : ℤ) by omega, zpow_natCast, zpow_natCast]
    constructor
    · exact_mod_cast (Nat.le_div_iff_mul_le hu).1 h₁
    · exact_mod_cast (Nat.div_lt_iff_lt_mul hu).1 h₂
  case isFalse hlt =>
    obtain ⟨h₁, h₂⟩ := leadingZeros_spec hv (Nat.lt_of_not_le hlt)
    generalize leadingZeros value unit = z at *
    rw [show -(z : ℤ) - 1 = -((z + 1 : ℕ) : ℤ) by push_cast; ring, zpow_neg, zpow_neg, zpow_natCast,
      zpow_natCast, inv_mul_le_iff₀ (by positivity), lt_inv_mul_iff₀ (by positivity)]
    exact ⟨by exact_mod_cast h₂, by exact_mod_cast h₁⟩

/-- Zeros at the end do not count, and then there are none. -/
theorem strip_spec (d : Scientific) : d.strip.value = d.value ∧
    d.strip.coefficient ≤ d.coefficient ∧
      (d.coefficient ≠ 0 → d.strip.coefficient % 10 ≠ 0) := by
  fun_induction Scientific.strip d with
  | case1 d h ih =>
      obtain ⟨hvalue, hle, hlast⟩ := ih
      have hten : (d.coefficient : ℚ) = (d.coefficient / 10 : ℕ) * 10 := by
        exact_mod_cast (Nat.div_mul_cancel (Nat.dvd_of_mod_eq_zero h.2)).symm
      refine ⟨hvalue.trans ?_, hle.trans (Nat.div_le_self _ _), fun _ => hlast ?_⟩
      · rw [Scientific.value, Scientific.value, hten, zpow_add_one₀ (by norm_num)]
        ring
      · simp only
        omega
  | case2 d h => exact ⟨rfl, Nat.le_refl _, fun h₀ h₁ => h ⟨h₀, h₁⟩⟩

/-! ## The shortest decimal -/

/-- The decimal `0.d₁d₂…dₖ · 10ⁿ`, with the `k` digits of `s`, is rounded to a size, no decimal with
fewer digits is, and of those with as many digits none is closer to it, nor as close and larger. -/
structure IsShortest (x : Binary) (s k : ℕ) (n : ℤ) : Prop where
  pow_le : 10 ^ (k - 1) ≤ s
  lt_pow : s < 10 ^ k
  rounds : RoundsTo (s * 10 ^ (n - k)) x
  fewest : ∀ (s' k' : ℕ) (e : ℤ), s' < 10 ^ k' → RoundsTo (s' * 10 ^ e) x → k ≤ k'
  closest : ∀ (s' : ℕ) (e : ℤ), s' < 10 ^ k → RoundsTo (s' * 10 ^ e) x →
    |x.value - s * 10 ^ (n - k)| < |x.value - s' * 10 ^ e| ∨
      |x.value - s * 10 ^ (n - k)| = |x.value - s' * 10 ^ e| ∧
        (s' * 10 ^ e : ℚ) ≤ s * 10 ^ (n - k)

/-! ## Grids -/

/-- A value inside its interval, between the powers of ten that its scale names. -/
structure Placed (lo v hi : ℚ) (scale : ℤ) : Prop where
  lo_pos : 0 < lo
  lo_lt : lo < v
  lt_hi : v < hi
  pow_le : 10 ^ (scale - 1) ≤ v
  lt_pow : v < 10 ^ scale

section Grids

variable {closed : Bool} {lo v hi : ℚ} {D : ℤ} {s c N : ℕ} {e : ℤ}

theorem ten_zpow_pos (e : ℤ) : (0 : ℚ) < 10 ^ e := zpow_pos (by norm_num) e

theorem Placed.within (h : Placed lo v hi D) : Within closed lo hi v := within_of_lt h.lo_lt h.lt_hi

theorem Placed.pos (h : Placed lo v hi D) {q : ℚ} (hq : Within closed lo hi q) : 0 < q :=
  h.lo_pos.trans_le hq.le.1

/-- A power of ten on the grid for so many digits. -/
theorem pow_mul_zpow (D : ℤ) (a c : ℕ) : ((10 ^ a : ℕ) : ℚ) * 10 ^ (D - c) = 10 ^ (D + a - c) := by
  push_cast
  rw [← zpow_natCast, ← zpow_add₀ (by norm_num)]
  congr 1
  ring

/-- A decimal with few digits in an interval lies on the grid for so many digits, unless a power of
ten, which is on every grid, comes between it and the value. -/
theorem Placed.exists_on_grid (h : Placed lo v hi D) (hs : s < 10 ^ c)
    (hq : Within closed lo hi (s * 10 ^ e)) :
    0 < c ∧ ∃ m : ℕ, Within closed lo hi (m * 10 ^ (D - c)) ∧
      ((s * 10 ^ e : ℚ) = m * 10 ^ (D - c) ∨
        (s * 10 ^ e : ℚ) < m * 10 ^ (D - c) ∧ (m * 10 ^ (D - c) : ℚ) ≤ v) := by
  have hs₀ : 0 < s := by
    have hq₀ := pos_of_mul_pos_left (h.pos hq) (ten_zpow_pos e).le
    exact_mod_cast hq₀
  have hc : 0 < c := by
    by_contra hc
    rw [Nat.eq_zero_of_not_pos hc] at hs
    omega
  refine ⟨hc, ?_⟩
  obtain hlt | hge := lt_or_ge (s * 10 ^ e : ℚ) (10 ^ (D - 1))
  · have hten : ((10 ^ (c - 1) : ℕ) : ℚ) * 10 ^ (D - c) = 10 ^ (D - 1) := by
      rw [pow_mul_zpow]
      congr 1
      omega
    refine ⟨10 ^ (c - 1), ?_, .inr ⟨by rwa [hten], by rw [hten]; exact h.pow_le⟩⟩
    rw [hten]
    exact hq.convex h.within hlt.le h.pow_le
  · have hlt : (10 : ℚ) ^ (D - 1) < 10 ^ (c + e) := by
      refine hge.trans_lt ?_
      rw [zpow_add₀ (by norm_num), zpow_natCast]
      exact mul_lt_mul_of_pos_right (by exact_mod_cast hs) (ten_zpow_pos e)
    have he : D - 1 < c + e := (zpow_lt_zpow_iff_right₀ (by norm_num)).1 hlt
    have heq : ((s * 10 ^ (e - (D - c)).toNat : ℕ) : ℚ) * 10 ^ (D - c) = s * 10 ^ e := by
      push_cast
      rw [← zpow_natCast, mul_assoc, ← zpow_add₀ (by norm_num)]
      congr 2
      omega
    exact ⟨s * 10 ^ (e - (D - c)).toNat, by rwa [heq], .inl heq.symm⟩

/-- The closest number of steps, told without scaling. -/
theorem closest_div_iff {g : ℚ} (hg : 0 < g) : Interval.Closest closed (lo / g) (v / g) (hi / g) N ↔
    Within closed lo hi (N * g) ∧ ∀ m : ℕ, Within closed lo hi (m * g) →
      ((N * g : ℚ) < m * g → 2 * v < N * g + m * g) ∧
        ((m * g : ℚ) < N * g → (m * g + N * g : ℚ) ≤ 2 * v) := by
  simp only [Interval.Closest, within_div_iff hg, mul_lt_mul_iff_left₀ hg, Nat.cast_lt, ← add_mul,
    ← mul_div_assoc, div_lt_iff₀ hg, le_div_iff₀ hg]

/-- On the grid for so many digits there is the closest of all decimals with so many digits. -/
theorem Placed.closest (h : Placed lo v hi D)
    (hN : Interval.Closest closed (lo / 10 ^ (D - c)) (v / 10 ^ (D - c)) (hi / 10 ^ (D - c)) N)
    (hs : s < 10 ^ c) (hq : Within closed lo hi (s * 10 ^ e)) :
    |v - N * 10 ^ (D - c)| < |v - s * 10 ^ e| ∨
      |v - N * 10 ^ (D - c)| = |v - s * 10 ^ e| ∧ (s * 10 ^ e : ℚ) ≤ N * 10 ^ (D - c) := by
  obtain ⟨-, m, hm, hside⟩ := h.exists_on_grid hs hq
  obtain ⟨habove, hbelow⟩ := ((closest_div_iff (ten_zpow_pos _)).1 hN).2 m hm
  generalize (s * 10 ^ e : ℚ) = q at *
  generalize (N * 10 ^ (D - c) : ℚ) = d at *
  generalize (m * 10 ^ (D - c) : ℚ) = p at *
  obtain hlt | rfl | hgt := lt_trichotomy d q
  · refine .inl ((abs_sub_lt_abs_sub_iff hlt).2 ?_)
    obtain rfl | ⟨hqp, hpv⟩ := hside
    · linarith [habove hlt]
    · linarith [habove (hlt.trans hqp)]
  · exact .inr ⟨rfl, le_refl _⟩
  · have hle : q + d ≤ 2 * v := by
      obtain rfl | ⟨hqp, hpv⟩ := hside
      · exact hbelow hgt
      · obtain hpd | hpd := lt_or_ge p d
        · linarith [hbelow hpd]
        · linarith
    obtain hlt | heq := hle.lt_or_eq
    · exact .inl ((abs_sub_lt_abs_sub_iff' hgt).2 (by linarith))
    · exact .inr ⟨((abs_sub_eq_abs_sub_iff hgt).2 (by linarith)).symm, hgt.le⟩

/-- The closest number of steps has at most so many digits, or is the power of ten behind them. -/
theorem Placed.closest_le (h : Placed lo v hi D)
    (hN : Interval.Closest closed (lo / 10 ^ (D - c)) (v / 10 ^ (D - c)) (hi / 10 ^ (D - c)) N) :
    N ≤ 10 ^ c := by
  rw [closest_div_iff (ten_zpow_pos _)] at hN
  have hten : ((10 ^ c : ℕ) : ℚ) * 10 ^ (D - c) = 10 ^ D := by
    rw [pow_mul_zpow, add_sub_cancel_right]
  by_contra hlt
  have hlt' : ((10 ^ c : ℕ) : ℚ) * 10 ^ (D - c) < N * 10 ^ (D - c) :=
    mul_lt_mul_of_pos_right (by exact_mod_cast Nat.lt_of_not_le hlt) (ten_zpow_pos _)
  have hin : Within closed lo hi ((10 ^ c : ℕ) * 10 ^ (D - c)) :=
    h.within.convex hN.1 (by rw [hten]; exact h.lt_pow.le) hlt'.le
  have hle := (hN.2 _ hin).2 hlt'
  rw [hten] at hlt' hle
  linarith [h.lt_pow]

end Grids

/-! ## The search -/

variable {n : ℕ}

/-- A size inside its interval. -/
theorem placed_sizeAt (n : ℕ) :
    Placed (midpoint n) (sizeAt (n + 1)).value (midpoint (n + 1))
      (scaleOf (Interval.ofBinary (sizeAt (n + 1))).value
        (Interval.ofBinary (sizeAt (n + 1))).unit) := by
  generalize hi : Interval.ofBinary (sizeAt (n + 1)) = i
  have hspans := hi ▸ Interval.spans_ofBinary n
  have hunit : (0 : ℚ) < i.unit := by exact_mod_cast hspans.unit_pos
  have hpos : 0 < (sizeAt (n + 1)).value := by
    have hzero : (sizeAt 0).value = 0 := by simp [sizeAt, ofFields_zero, Binary.value]
    exact hzero ▸ value_sizeAt_lt_iff.2 n.succ_pos
  have hnonneg : 0 ≤ (sizeAt n).value :=
    mul_nonneg (Nat.cast_nonneg _) (zpow_pos two_pos _).le
  have hvalue : 0 < i.value := by
    have hq : (0 : ℚ) < i.value := hspans.value_eq ▸ mul_pos hpos hunit
    exact_mod_cast hq
  obtain ⟨hle, hlt⟩ := scaleOf_spec hvalue hspans.unit_pos
  rw [hspans.value_eq, mul_div_cancel_right₀ _ hunit.ne'] at hle hlt
  refine ⟨?_, midpoint_lt n, lt_midpoint (n + 1), hle, hlt⟩
  rw [midpoint]
  linarith

/-- The interval of a size is wider than a step of the grid for seventeen digits. -/
theorem exists_seventeen_digits (n : ℕ) {closed : Bool} {D : ℤ}
    (h : Placed (midpoint n) (sizeAt (n + 1)).value (midpoint (n + 1)) D) :
    ∃ m : ℕ, Within closed (midpoint n) (midpoint (n + 1)) (m * 10 ^ (D - 17)) := by
  have hg := ten_zpow_pos (D - 17)
  have hgrid : 10 ^ (D - 17) * 10 ^ 16 ≤ (sizeAt (n + 1)).value := by
    have hten : (10 : ℚ) ^ (D - 17) * 10 ^ 16 = 10 ^ (D - 1) := by
      rw [← zpow_natCast, ← zpow_add₀ (by norm_num)]
      congr 1
      ring
    exact hten.trans_le h.pow_le
  have hwidth : midpoint n + 10 ^ (D - 17) < midpoint (n + 1) := by
    rw [midpoint, midpoint, value_sizeAt_succ (n + 1), eq_sub_of_add_eq (value_sizeAt_succ n).symm,
      ulp_eq n]
    have hu := ulp_pos (n + 1)
    have hvalue : (sizeAt (n + 1)).value = (sizeAt (n + 1)).mantissa * ulp (n + 1) := rfl
    cases hnarrow : (sizeAt (n + 1)).narrowBelow with
    | true =>
        rw [mantissa_of_narrowBelow hnarrow] at hvalue
        push_cast at hvalue
        rw [if_pos rfl]
        linarith
    | false =>
        have hm : ((sizeAt (n + 1)).mantissa : ℚ) < 2 ^ 53 := by
          exact_mod_cast mantissa_sizeAt_lt (n + 1)
        have hlt := mul_lt_mul_of_pos_right hm hu
        rw [if_neg (by simp)]
        linarith
  generalize (10 : ℚ) ^ (D - 17) = g at *
  have hv : 0 ≤ (sizeAt (n + 1)).value / g := div_nonneg (h.lo_pos.trans h.lo_lt).le hg.le
  have hbelow := (le_div_iff₀ hg).1 (Nat.floor_le hv)
  have habove := (div_lt_iff₀ hg).1 (Nat.lt_floor_add_one ((sizeAt (n + 1)).value / g))
  generalize ⌊(sizeAt (n + 1)).value / g⌋₊ = N at *
  obtain hlt | hle := lt_or_ge (midpoint n) (N * g)
  · exact ⟨N, within_of_lt hlt (hbelow.trans_lt h.lt_hi)⟩
  · refine ⟨N + 1, within_of_lt ?_ ?_⟩
    · push_cast
      exact h.lo_lt.trans habove
    · push_cast
      linarith

/-- On each grid the search takes the closest decimal in the interval, if there is any. -/
theorem withDigits?_spec (n : ℕ) (D : ℤ) (c : ℕ) :
    let found := withDigits? .up (.ofBinary (sizeAt (n + 1))) D c
    (∀ d, found = some d → ∃ N, d = Scientific.strip ⟨N, D - c⟩ ∧
        Interval.Closest ((n + 1) % 2 = 0) (midpoint n / 10 ^ (D - c))
          ((sizeAt (n + 1)).value / 10 ^ (D - c)) (midpoint (n + 1) / 10 ^ (D - c)) N) ∧
      (found = none → ∀ m : ℕ,
        ¬ Within ((n + 1) % 2 = 0) (midpoint n) (midpoint (n + 1)) (m * 10 ^ (D - c))) := by
  intro found
  have hg := ten_zpow_pos (D - c)
  obtain ⟨hsome, hnone⟩ := ((Interval.spans_ofBinary n).onGrid (D - c)).nearest?
    (div_lt_div_of_pos_right (midpoint_lt n) hg) (div_lt_div_of_pos_right (lt_midpoint _) hg)
  have hclosed : ((Interval.ofBinary (sizeAt (n + 1))).onGrid (D - c)).closed = _ :=
    Interval.closed_ofBinary (n + 1)
  rw [hclosed] at hsome hnone
  simp only [within_div_iff hg] at hnone
  constructor
  · intro d hd
    obtain ⟨N, hN, rfl⟩ := Option.map_eq_some_iff.1 hd
    exact ⟨N, rfl, hsome N hN⟩
  · exact fun h => hnone (Option.map_eq_none_iff.1 h)

theorem findSome?_range_eq_some {α : Type} {f : ℕ → Option α} {a : α} {m : ℕ}
    (h : (List.range m).findSome? f = some a) : ∃ k, f k = some a ∧ ∀ j < k, f j = none := by
  induction m with
  | zero => cases h
  | succ m ih =>
      rw [List.range_succ, List.findSome?_append, Option.or_eq_some_iff] at h
      obtain h | ⟨hnone, h⟩ := h
      · exact ih h
      · rw [List.findSome?_singleton] at h
        exact ⟨m, h, fun j hj => List.findSome?_eq_none_iff.1 hnone j (List.mem_range.2 hj)⟩

/-- The search ends on the first grid that has a decimal in the interval. -/
theorem exists_shortest_eq (n : ℕ) : ∃ (D : ℤ) (c N : ℕ), 0 < c ∧
    Placed (midpoint n) (sizeAt (n + 1)).value (midpoint (n + 1)) D ∧
      shortest .up (sizeAt (n + 1)) = Scientific.strip ⟨N, D - c⟩ ∧
      Interval.Closest ((n + 1) % 2 = 0) (midpoint n / 10 ^ (D - c))
        ((sizeAt (n + 1)).value / 10 ^ (D - c)) (midpoint (n + 1) / 10 ^ (D - c)) N ∧
      ∀ c', 0 < c' → c' < c → ∀ m : ℕ,
        ¬ Within ((n + 1) % 2 = 0) (midpoint n) (midpoint (n + 1)) (m * 10 ^ (D - c')) := by
  have hplaced := placed_sizeAt n
  rw [shortest]
  generalize scaleOf _ _ = D at *
  refine ⟨D, ?_⟩
  cases hfound : (List.range 17).findSome? fun k =>
      withDigits? .up (.ofBinary (sizeAt (n + 1))) D (k + 1) with
  | none =>
      have hnone := List.findSome?_eq_none_iff.1 hfound 16 (List.mem_range.2 (by norm_num))
      obtain ⟨m, hm⟩ := exists_seventeen_digits n hplaced
      exact ((withDigits?_spec n D 17).2 hnone m hm).elim
  | some d =>
      obtain ⟨k, hk, hbefore⟩ := findSome?_range_eq_some hfound
      obtain ⟨N, rfl, hN⟩ := (withDigits?_spec n D (k + 1)).1 d hk
      refine ⟨k + 1, N, k.succ_pos, hplaced, rfl, hN, fun c' hpos hlt => ?_⟩
      have hnone := hbefore (c' - 1) (by omega)
      rw [Nat.sub_add_cancel hpos] at hnone
      exact (withDigits?_spec n D c').2 hnone

/-- What the search finds is the shortest decimal. -/
theorem isShortest_shortest (n : ℕ) :
    let d := shortest .up (sizeAt (n + 1))
    IsShortest (sizeAt (n + 1)) d.coefficient d.digits.length d.point := by
  intro d
  obtain ⟨D, c, N, hc, h, hfound, hN, hfewer⟩ := exists_shortest_eq n
  obtain ⟨hvalue, hle, hlast⟩ := strip_spec ⟨N, D - c⟩
  rw [← hfound] at hvalue hle hlast
  have hin := ((closest_div_iff (ten_zpow_pos _)).1 hN).1
  have hN₀ : 0 < N := by
    have hq := pos_of_mul_pos_left (h.pos hin) (ten_zpow_pos _).le
    exact_mod_cast hq
  have hlast : d.coefficient % 10 ≠ 0 := hlast hN₀.ne'
  obtain ⟨hpow_le, hlt_pow⟩ := pow_le_and_lt_pow (s := d.coefficient) (by omega)
  have hpoint : (d.coefficient * 10 ^ (d.point - d.digits.length) : ℚ) = N * 10 ^ (D - c) := by
    rw [Scientific.point, add_sub_cancel_left]
    exact hvalue
  have hfewest (s k : ℕ) (e : ℤ) (hs : s < 10 ^ k)
      (hq : RoundsTo (s * 10 ^ e) (sizeAt (n + 1))) : c ≤ k := by
    obtain ⟨hk, m, hm, -⟩ := h.exists_on_grid hs (roundsTo_sizeAt_succ_iff.1 hq)
    exact Nat.le_of_not_lt fun hlt => hfewer k hk hlt m hm
  have hrounds : RoundsTo (d.coefficient * 10 ^ (d.point - d.digits.length)) (sizeAt (n + 1)) := by
    rw [roundsTo_sizeAt_succ_iff, hpoint]
    exact hin
  have hlength : d.digits.length = c := by
    refine Nat.le_antisymm ?_ (hfewest _ _ _ hlt_pow hrounds)
    have hlt : d.coefficient < 10 ^ c := by
      refine Nat.lt_of_le_of_ne (hle.trans (h.closest_le hN)) fun heq => hlast ?_
      rw [heq]
      exact Nat.mod_eq_zero_of_dvd (dvd_pow_self 10 hc.ne')
    exact (Nat.length_toDigits_le_iff (by norm_num) hc).2 hlt
  refine ⟨hpow_le, hlt_pow, hrounds, ?_, ?_⟩
  · rw [hlength]
    exact hfewest
  · intro s e hs hq
    rw [hpoint]
    exact h.closest hN (hlength ▸ hs) (roundsTo_sizeAt_succ_iff.1 hq)

section IsShortest

variable {x : Binary} {s k s' k' : ℕ} {p p' : ℤ}

theorem IsShortest.length_pos (h : IsShortest x s k p) : 0 < k := by
  by_contra hk
  obtain rfl := Nat.eq_zero_of_not_pos hk
  exact Nat.not_lt_of_le h.pow_le h.lt_pow

/-- The place of the point tells the powers of ten around. -/
theorem IsShortest.pow_le_and_lt_pow (h : IsShortest x s k p) :
    (10 : ℚ) ^ (p - 1) ≤ s * 10 ^ (p - k) ∧ (s * 10 ^ (p - k) : ℚ) < 10 ^ p := by
  have hpow (a : ℕ) : (10 : ℚ) ^ (p + a - k) = (10 ^ a : ℕ) * 10 ^ (p - k) :=
    (pow_mul_zpow p a k).symm
  constructor
  · have hle := hpow (k - 1)
    rw [show p + (k - 1 : ℕ) - k = p - 1 by have := h.length_pos; omega] at hle
    rw [hle]
    exact mul_le_mul_of_nonneg_right (by exact_mod_cast h.pow_le) (ten_zpow_pos _).le
  · have hlt := hpow k
    rw [add_sub_cancel_right] at hlt
    rw [hlt]
    exact mul_lt_mul_of_pos_right (by exact_mod_cast h.lt_pow) (ten_zpow_pos _)

/-- There is only one shortest decimal. -/
theorem IsShortest.unique (h : IsShortest x s k p) (h' : IsShortest x s' k' p') :
    s = s' ∧ k = k' ∧ p = p' := by
  obtain rfl : k = k' := Nat.le_antisymm (h.fewest s' k' _ h'.lt_pow h'.rounds)
    (h'.fewest s k _ h.lt_pow h.rounds)
  have heq : (s * 10 ^ (p - k) : ℚ) = s' * 10 ^ (p' - k) := by
    obtain hlt | ⟨hd, hle⟩ := h.closest s' _ h'.lt_pow h'.rounds
    · obtain hlt' | ⟨hd', -⟩ := h'.closest s _ h.lt_pow h.rounds
      · exact (lt_asymm hlt hlt').elim
      · exact (hlt.ne' hd').elim
    · obtain hlt' | ⟨-, hle'⟩ := h'.closest s _ h.lt_pow h.rounds
      · exact (hlt'.ne' hd).elim
      · exact le_antisymm hle' hle
  obtain ⟨hle, hlt⟩ := h.pow_le_and_lt_pow
  obtain ⟨hle', hlt'⟩ := h'.pow_le_and_lt_pow
  have hp : p - 1 < p' := (zpow_lt_zpow_iff_right₀ (by norm_num)).1 (hle.trans_lt (heq ▸ hlt'))
  have hp' : p' - 1 < p := (zpow_lt_zpow_iff_right₀ (by norm_num)).1 (hle'.trans_lt (heq ▸ hlt))
  obtain rfl : p = p' := by omega
  have hs := mul_right_cancel₀ (ten_zpow_pos _).ne' heq
  exact ⟨by exact_mod_cast hs, rfl, rfl⟩

end IsShortest

end Extraction.Decimal
