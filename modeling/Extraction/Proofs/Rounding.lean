import Extraction.Decimal.Shortest
import Mathlib.Algebra.Order.Field.Power
import Mathlib.Algebra.Order.Floor.Semiring
import Mathlib.Data.Rat.Floor
import Mathlib.Tactic.FieldSimp
import Mathlib.Tactic.LinearCombination
import Mathlib.Tactic.Linarith
import Mathlib.Tactic.Positivity

/-!
# What is rounded to a double

The sizes of doubles in their order, as rational numbers, and rounding to the nearest of them with
ties to the even one, as `RoundsTo` says it without an algorithm.  What is rounded to a size lies
between the midpoints to its neighbours (`roundsTo_sizeAt_succ_iff`), and rounding keeps the order
(`RoundsTo.le`).
-/

namespace Extraction.Decimal

/-! ## Sizes in their order -/

/-- The number that a size stands for. -/
def Binary.value (x : Binary) : ℚ := x.mantissa * 2 ^ x.exponent

/-- The sizes of doubles in their order, from zero.  Beyond the largest double they go on as if
there were larger exponents. -/
def sizeAt (n : ℕ) : Binary := .ofFields (n / 2 ^ 52) (n % 2 ^ 52)

/-- The unit in the last place of a size. -/
def ulp (n : ℕ) : ℚ := 2 ^ (sizeAt n).exponent

theorem ofFields_zero (fraction : ℕ) : Binary.ofFields 0 fraction = ⟨fraction, -1074, false⟩ := rfl

theorem ofFields_succ (exponent fraction : ℕ) : Binary.ofFields (exponent + 1) fraction =
    ⟨2 ^ 52 + fraction, exponent - 1074, fraction = 0 ∧ 1 < exponent + 1⟩ := by
  rw [Binary.ofFields, if_neg (Nat.succ_ne_zero exponent)]
  simp only [Nat.pow_eq, Binary.mk.injEq, and_true, true_and]
  omega

theorem sizeAt_add {fraction : ℕ} (exponent : ℕ) (h : fraction < 2 ^ 52) :
    sizeAt (2 ^ 52 * exponent + fraction) = .ofFields exponent fraction := by
  rw [sizeAt, Nat.mul_add_div (by norm_num), Nat.mul_add_mod, Nat.div_eq_of_lt h,
    Nat.mod_eq_of_lt h, Nat.add_zero]

theorem exists_fields (n : ℕ) :
    ∃ exponent fraction, fraction < 2 ^ 52 ∧ n = 2 ^ 52 * exponent + fraction :=
  ⟨n / 2 ^ 52, n % 2 ^ 52, Nat.mod_lt _ (by norm_num), (Nat.div_add_mod ..).symm⟩

theorem mantissa_sizeAt_lt (n : ℕ) : (sizeAt n).mantissa < 2 ^ 53 := by
  obtain ⟨e, f, hf, rfl⟩ := exists_fields n
  rw [sizeAt_add e hf]
  cases e with
  | zero => simp only [ofFields_zero]; omega
  | succ e => simp only [ofFields_succ]; omega

theorem mantissa_sizeAt_mod_two (n : ℕ) : (sizeAt n).mantissa % 2 = n % 2 := by
  obtain ⟨e, f, hf, rfl⟩ := exists_fields n
  rw [sizeAt_add e hf]
  cases e with
  | zero => simp only [ofFields_zero]; omega
  | succ e => simp only [ofFields_succ]; omega

theorem mantissa_sizeAt_succ_pos (n : ℕ) : 0 < (sizeAt (n + 1)).mantissa := by
  obtain ⟨e, f, hf, hn⟩ := exists_fields (n + 1)
  rw [hn, sizeAt_add e hf]
  cases e with
  | zero => simp only [ofFields_zero]; omega
  | succ e => simp only [ofFields_succ]; omega

/-- Only below a power of two the gap is narrower. -/
theorem mantissa_of_narrowBelow {n : ℕ} (h : (sizeAt n).narrowBelow) :
    (sizeAt n).mantissa = 2 ^ 52 := by
  obtain ⟨e, f, hf, rfl⟩ := exists_fields n
  rw [sizeAt_add e hf] at h ⊢
  cases e with
  | zero => cases h
  | succ e =>
      rw [ofFields_succ] at h ⊢
      exact congrArg (2 ^ 52 + ·) (of_decide_eq_true h).1

theorem ulp_pos (n : ℕ) : 0 < ulp n := zpow_pos two_pos _

/-- The next size has the same exponent, or a mantissa that starts anew. -/
theorem sizeAt_succ_cases (n : ℕ) :
    (sizeAt (n + 1)).exponent = (sizeAt n).exponent ∧
        (sizeAt (n + 1)).mantissa = (sizeAt n).mantissa + 1 ∧ (sizeAt (n + 1)).narrowBelow = false ∨
      (sizeAt (n + 1)).exponent = (sizeAt n).exponent + 1 ∧
        2 * (sizeAt (n + 1)).mantissa = (sizeAt n).mantissa + 1 ∧
        (sizeAt (n + 1)).narrowBelow = true := by
  obtain ⟨e, f, hf, rfl⟩ := exists_fields n
  obtain hlt | heq := Nat.lt_or_eq_of_le (Nat.succ_le_of_lt hf)
  · rw [Nat.add_assoc, sizeAt_add e hf, sizeAt_add e hlt]
    cases e with
    | zero => exact .inl ⟨rfl, rfl, rfl⟩
    | succ e =>
        rw [ofFields_succ, ofFields_succ]
        exact .inl ⟨rfl, rfl, by simp⟩
  · have hnext : 2 ^ 52 * e + f + 1 = 2 ^ 52 * (e + 1) + 0 := by omega
    rw [hnext, sizeAt_add e hf, sizeAt_add (e + 1) (by norm_num)]
    cases e with
    | zero => exact .inl ⟨rfl, heq.symm, rfl⟩
    | succ e =>
        rw [ofFields_succ, ofFields_succ]
        refine .inr ⟨?_, ?_, by simp⟩
        · simp only
          omega
        · simp only
          omega

/-- The gap above a size is its unit in the last place. -/
theorem value_sizeAt_succ (n : ℕ) : (sizeAt (n + 1)).value = (sizeAt n).value + ulp n := by
  rw [Binary.value, Binary.value, ulp]
  obtain ⟨he, hm, -⟩ | ⟨he, hm, -⟩ := sizeAt_succ_cases n
  · rw [he, hm]
    push_cast
    ring
  · have hmq : 2 * ((sizeAt (n + 1)).mantissa : ℚ) = (sizeAt n).mantissa + 1 := by exact_mod_cast hm
    rw [he, zpow_add_one₀ two_ne_zero]
    linear_combination (2 : ℚ) ^ (sizeAt n).exponent * hmq

/-- The gap below a size, in its own unit. -/
theorem ulp_eq (n : ℕ) :
    ulp n = if (sizeAt (n + 1)).narrowBelow then ulp (n + 1) / 2 else ulp (n + 1) := by
  rw [ulp, ulp]
  obtain ⟨he, -, hn⟩ | ⟨he, -, hn⟩ := sizeAt_succ_cases n
  · rw [hn, he]
    rfl
  · rw [hn, he, zpow_add_one₀ two_ne_zero, if_pos rfl]
    ring

theorem strictMono_value : StrictMono fun n => (sizeAt n).value :=
  strictMono_nat_of_lt_succ fun n => by
    rw [value_sizeAt_succ]
    exact lt_add_of_pos_right _ (ulp_pos n)

theorem value_sizeAt_lt_iff {m n : ℕ} : (sizeAt m).value < (sizeAt n).value ↔ m < n :=
  strictMono_value.lt_iff_lt

theorem value_sizeAt_le_iff {m n : ℕ} : (sizeAt m).value ≤ (sizeAt n).value ↔ m ≤ n :=
  strictMono_value.le_iff_le

/-! ## Rounding -/

/-- A number is rounded to a size: no other size is closer to it, and of two that are as close, it
is the one with an even mantissa. -/
def RoundsTo (q : ℚ) (x : Binary) : Prop :=
  ∀ n, (sizeAt n).value ≠ x.value → |q - x.value| < |q - (sizeAt n).value| ∨
    |q - x.value| = |q - (sizeAt n).value| ∧ x.mantissa % 2 = 0

/-- Between two bounds, or equal to one of them if they belong to the interval. -/
def Within (closed : Bool) (lo hi q : ℚ) : Prop :=
  if closed then lo ≤ q ∧ q ≤ hi else lo < q ∧ q < hi

section Within

variable {closed : Bool} {lo hi p q r : ℚ}

theorem Within.le (h : Within closed lo hi q) : lo ≤ q ∧ q ≤ hi := by
  cases closed with
  | true => exact h
  | false => exact ⟨h.1.le, h.2.le⟩

/-- Only what is closed has its bounds. -/
theorem Within.eq_true (h : Within closed lo hi q) (hq : q ≤ lo ∨ hi ≤ q) : closed = true := by
  cases closed with
  | true => rfl
  | false => exact (hq.elim h.1.not_ge h.2.not_ge).elim

theorem within_of_lt (h₁ : lo < q) (h₂ : q < hi) : Within closed lo hi q := by
  cases closed with
  | true => exact ⟨h₁.le, h₂.le⟩
  | false => exact ⟨h₁, h₂⟩

theorem Within.convex (hp : Within closed lo hi p) (hr : Within closed lo hi r) (h₁ : p ≤ q)
    (h₂ : q ≤ r) : Within closed lo hi q := by
  cases closed with
  | true => exact ⟨hp.1.trans h₁, h₂.trans hr.2⟩
  | false => exact ⟨hp.1.trans_le h₁, h₂.trans_lt hr.2⟩

theorem within_div_iff {t : ℚ} (ht : 0 < t) :
    Within closed (lo / t) (hi / t) q ↔ Within closed lo hi (q * t) := by
  cases closed with
  | true => exact and_congr (div_le_iff₀ ht) (le_div_iff₀ ht)
  | false => exact and_congr (div_lt_iff₀ ht) (lt_div_iff₀ ht)

end Within

/-- Halfway between a size and the next one. -/
def midpoint (n : ℕ) : ℚ := ((sizeAt n).value + (sizeAt (n + 1)).value) / 2

theorem midpoint_lt (n : ℕ) : midpoint n < (sizeAt (n + 1)).value := by
  have h := value_sizeAt_lt_iff.2 (Nat.lt_succ_self n)
  rw [midpoint]
  linarith

theorem lt_midpoint (n : ℕ) : (sizeAt n).value < midpoint n := by
  have h := value_sizeAt_lt_iff.2 (Nat.lt_succ_self n)
  rw [midpoint]
  linarith

section Distance

variable {p q r : ℚ}

/-- The midpoint divides what is closer to one of two numbers from what is closer to the other. -/
theorem abs_sub_lt_abs_sub_iff (h : p < r) : |q - p| < |q - r| ↔ q < (p + r) / 2 := by
  rw [← sq_lt_sq]
  constructor <;> intro hq <;> nlinarith

theorem abs_sub_lt_abs_sub_iff' (h : p < r) : |q - r| < |q - p| ↔ (p + r) / 2 < q := by
  rw [← sq_lt_sq]
  constructor <;> intro hq <;> nlinarith

theorem abs_sub_eq_abs_sub_iff (h : p < r) : |q - p| = |q - r| ↔ q = (p + r) / 2 := by
  rw [← sq_eq_sq_iff_abs_eq_abs]
  constructor
  · intro hq
    have hprod : (r - p) * (2 * q - (p + r)) = 0 := by linear_combination hq
    have hzero := (mul_eq_zero.1 hprod).resolve_left (sub_pos.2 h).ne'
    linarith
  · rintro rfl
    ring

end Distance

/-- What is rounded to a size lies between the midpoints to its neighbours, or is one of them if its
mantissa is even. -/
theorem roundsTo_sizeAt_succ_iff {q : ℚ} {n : ℕ} : RoundsTo q (sizeAt (n + 1)) ↔
    Within ((n + 1) % 2 = 0) (midpoint n) (midpoint (n + 1)) q := by
  have hbelow := value_sizeAt_lt_iff.2 (Nat.lt_succ_self n)
  have habove := value_sizeAt_lt_iff.2 (Nat.lt_succ_self (n + 1))
  constructor
  · intro h
    have h₁ := h n hbelow.ne
    have h₂ := h (n + 2) habove.ne'
    rw [abs_sub_lt_abs_sub_iff' hbelow, eq_comm, abs_sub_eq_abs_sub_iff hbelow,
      mantissa_sizeAt_mod_two] at h₁
    rw [abs_sub_lt_abs_sub_iff habove, abs_sub_eq_abs_sub_iff habove,
      mantissa_sizeAt_mod_two] at h₂
    by_cases heven : (n + 1) % 2 = 0
    · rw [Within, if_pos (decide_eq_true heven)]
      refine ⟨h₁.elim le_of_lt fun h => h.1.ge, h₂.elim le_of_lt fun h => h.1.le⟩
    · rw [Within, if_neg (by simpa using heven)]
      exact ⟨h₁.resolve_right fun h => heven h.2, h₂.resolve_right fun h => heven h.2⟩
  · intro h m hm
    rw [mantissa_sizeAt_mod_two]
    have heven (hq : q ≤ midpoint n ∨ midpoint (n + 1) ≤ q) : (n + 1) % 2 = 0 :=
      of_decide_eq_true (h.eq_true hq)
    obtain ⟨h₁, h₂⟩ := h.le
    rw [midpoint] at h₁ h₂ heven
    rw [midpoint] at heven
    obtain hlt | hgt := hm.lt_or_gt
    · have hle := value_sizeAt_le_iff.2 (Nat.le_of_lt_succ (value_sizeAt_lt_iff.1 hlt))
      rw [abs_sub_lt_abs_sub_iff' hlt, eq_comm, abs_sub_eq_abs_sub_iff hlt]
      obtain hq | hq := lt_or_ge (((sizeAt m).value + (sizeAt (n + 1)).value) / 2) q
      · exact .inl hq
      · exact .inr ⟨by linarith, heven (.inl (by linarith))⟩
    · have hle := value_sizeAt_le_iff.2 (Nat.succ_le_of_lt (value_sizeAt_lt_iff.1 hgt))
      rw [abs_sub_lt_abs_sub_iff hgt, abs_sub_eq_abs_sub_iff hgt]
      obtain hq | hq := lt_or_ge q (((sizeAt (n + 1)).value + (sizeAt m).value) / 2)
      · exact .inl hq
      · exact .inr ⟨by linarith, heven (.inr (by linarith))⟩

theorem midpoint_lt_midpoint {m n : ℕ} (h : m < n) : midpoint m < midpoint n := by
  have h₁ := value_sizeAt_lt_iff.2 h
  have h₂ := value_sizeAt_lt_iff.2 (Nat.succ_lt_succ h)
  rw [midpoint, midpoint]
  linarith

/-- Rounding keeps the order. -/
theorem RoundsTo.le {q q' : ℚ} {m n : ℕ} (h : RoundsTo q (sizeAt (m + 1)))
    (h' : RoundsTo q' (sizeAt (n + 1))) (hq : q ≤ q') : m ≤ n := by
  rw [roundsTo_sizeAt_succ_iff] at h h'
  by_contra hnm
  obtain rfl | hlt := Nat.eq_or_lt_of_le (Nat.lt_of_not_le hnm)
  · -- both are the midpoint of neighbours, which belongs to one of them only
    have hm := of_decide_eq_true (h.eq_true (.inl (hq.trans h'.le.2)))
    have hn := of_decide_eq_true (h'.eq_true (.inr (h.le.1.trans hq)))
    omega
  · have hmid := midpoint_lt_midpoint hlt
    linarith [h.le.1, h'.le.2]

end Extraction.Decimal
