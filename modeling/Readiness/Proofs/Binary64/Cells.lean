import Mathlib.Algebra.Order.Field.Power
import Mathlib.Algebra.Order.Ring.Rat
import Mathlib.Data.Rat.Cast.Order
import Mathlib.Tactic.Linarith
import Mathlib.Tactic.NormNum
import Mathlib.Tactic.Positivity
import Mathlib.Tactic.Ring
import Readiness.Binary64

/-!
# Cells — the magnitude nearest to a size

* `Binary64.units`: a magnitude as a multiple of the smallest double, which is two to the power of
  -1074. Between two powers of two, in a cell, the doubles are the multiples of one step;
* `Binary64.isRound_scaled`: the quotient at an exponent is rounded to the nearest natural number, and
  `Binary64.cell_of_exponentOf`: at its own exponent it has the 53 bits of a cell;
* `InCell.nearest_units` is the rounding within such a cell, and `InCell.passes_iff` how far it gets;
* `Binary64.IsNearest`: the magnitude that a size is rounded to, with the sizes beyond the doubles and
  those below the smallest one.

Powers with large exponents stay what they are: they are named before arithmetic is left to a tactic,
which would evaluate them.
-/

namespace Readiness.Binary64

variable {q : ℚ} {m k s num den : ℕ}

/-! ## Magnitudes in units of the smallest double -/

/-- The size of a finite double. -/
def size (x : Binary64) : ℚ := x.ratio.1 / x.ratio.2

/-- The size of a magnitude as a multiple of the smallest double. -/
def units (m : ℕ) : ℕ :=
  (if m / fractionCount = 0 then m % fractionCount else m % fractionCount + fractionCount) *
    2 ^ (m / fractionCount - 1)

theorem mul_two_pow_div (n a b : ℕ) : ((n * 2 ^ (a + b) : ℕ) : ℚ) / 2 ^ b = (n * 2 ^ a : ℕ) := by
  push_cast
  rw [pow_add, ← mul_assoc, mul_div_cancel_right₀ _ (pow_ne_zero b two_ne_zero)]

theorem size_eq_units (x : Binary64) : x.size = units x.magnitude / 2 ^ 1074 := by
  generalize digits : (if x.magnitude / fractionCount = 0 then x.magnitude % fractionCount
    else x.magnitude % fractionCount + fractionCount) = n
  generalize place : x.magnitude / fractionCount = field at digits
  simp only [size, ratio, units, place, digits, twoTo, Nat.pow_eq]
  split
  · next above =>
      have split : field - 1 = ((max field 1 : ℕ) - 1075 : ℤ).toNat + 1074 := by omega
      rw [split, mul_two_pow_div, Nat.cast_one, div_one]
  · next below =>
      have split : (field - 1) + (-((max field 1 : ℕ) - 1075 : ℤ)).toNat = 1074 := by omega
      rw [← split, pow_add, ← div_div]
      push_cast
      rw [mul_div_cancel_right₀ _ (pow_ne_zero _ two_ne_zero)]

/-- A magnitude in a cell, also one at its upper end. -/
theorem units_of_cell (inside : s ≤ 2 * fractionCount) (normal : k = 0 ∨ fractionCount ≤ s) :
    units (k * fractionCount + s) = s * 2 ^ k := by
  have positive : 0 < fractionCount := by decide
  have place (f r : ℕ) (small : r < fractionCount) :
      (f * fractionCount + r) / fractionCount = f ∧ (f * fractionCount + r) % fractionCount = r := by
    rw [Nat.add_comm, Nat.add_mul_div_right _ _ positive, Nat.add_mul_mod_self_right]
    exact ⟨by rw [Nat.div_eq_of_lt small, Nat.zero_add], Nat.mod_eq_of_lt small⟩
  rcases Nat.lt_or_ge s fractionCount with small | large
  · have zero : k = 0 := normal.resolve_right (Nat.not_le.2 small)
    simp [units, zero, Nat.div_eq_of_lt small, Nat.mod_eq_of_lt small]
  · rcases Nat.lt_or_eq_of_le inside with below | top
    · obtain ⟨r, rfl⟩ := Nat.exists_eq_add_of_le large
      have small : r < fractionCount := by omega
      have split : k * fractionCount + (fractionCount + r) = (k + 1) * fractionCount + r := by ring
      rw [units, split, (place _ _ small).1, (place _ _ small).2]
      simp [Nat.add_comm r]
    · have split : k * fractionCount + s = (k + 2) * fractionCount + 0 := by
        rw [top]
        ring
      rw [units, split, (place _ _ positive).1, (place _ _ positive).2, top]
      simp [pow_succ]
      ring

theorem exists_cell (m : ℕ) : ∃ k s, m = k * fractionCount + s ∧ s < 2 * fractionCount ∧
    (k = 0 ∨ fractionCount ≤ s) := by
  have positive : 0 < fractionCount := by decide
  have fraction : m % fractionCount < fractionCount := Nat.mod_lt m positive
  have parts : m = m / fractionCount * fractionCount + m % fractionCount :=
    (Nat.div_add_mod' m _).symm
  cases field : m / fractionCount with
  | zero => exact ⟨0, m % fractionCount, field ▸ parts, by omega, .inl rfl⟩
  | succ k =>
      have split : (k + 1) * fractionCount + m % fractionCount =
          k * fractionCount + (m % fractionCount + fractionCount) := by ring
      exact ⟨k, m % fractionCount + fractionCount, parts.trans (field ▸ split), by omega,
        .inr (Nat.le_add_left _ _)⟩

theorem strictMono_units : StrictMono units := by
  apply strictMono_nat_of_lt_succ
  intro m
  rcases exists_cell m with ⟨k, s, rfl, inside, normal⟩
  have next : units (k * fractionCount + s + 1) = (s + 1) * 2 ^ k := by
    rw [Nat.add_assoc]
    exact units_of_cell inside (normal.imp_right Nat.le_succ_of_le)
  rw [units_of_cell inside.le normal, next]
  exact Nat.mul_lt_mul_of_pos_right (Nat.lt_succ_self s) (Nat.two_pow_pos k)

/-- Below a cell the doubles may be denser than in it, but within it and above they are not. -/
theorem dvd_units_or_lt (k m : ℕ) : 2 ^ k ∣ units m ∨ units m < fractionCount * 2 ^ k := by
  rcases exists_cell m with ⟨k', s, rfl, inside, normal⟩
  rw [units_of_cell inside.le normal]
  rcases Nat.lt_or_ge k' k with below | above
  · right
    calc s * 2 ^ k' < 2 * fractionCount * 2 ^ k' :=
          Nat.mul_lt_mul_of_pos_right inside (Nat.two_pow_pos k')
      _ = fractionCount * 2 ^ (k' + 1) := by ring
      _ ≤ fractionCount * 2 ^ k :=
          Nat.mul_le_mul_left _ (Nat.pow_le_pow_right Nat.two_pos below)
  · left
    exact Dvd.dvd.mul_left (Nat.pow_dvd_pow 2 above) s

/-! ## Rounded quotients -/

/-- A natural number next to a number, of two equally near ones the even one. -/
structure IsRound (s : ℕ) (q : ℚ) : Prop where
  near : |q - s| ≤ 1 / 2
  even : |q - s| = 1 / 2 → s % 2 = 0

theorem isRound_of_le_half {n : ℕ} {r : ℚ} (nonneg : 0 ≤ r) (below : r ≤ 1 / 2)
    (tie : r = 1 / 2 → n % 2 = 0) : IsRound n (n + r) := by
  have distance : |(n : ℚ) + r - n| = r := by
    rw [add_sub_cancel_left, abs_of_nonneg nonneg]
  exact ⟨distance.trans_le below, fun half => tie (distance.symm.trans half)⟩

theorem isRound_of_half_le {n : ℕ} {r : ℚ} (above : 1 / 2 ≤ r) (below : r ≤ 1)
    (tie : r = 1 / 2 → n % 2 = 1) : IsRound (n + 1) (n + r) := by
  have distance : |(n : ℚ) + r - (n + 1 : ℕ)| = 1 - r := by
    push_cast
    rw [add_sub_add_left_eq_sub, abs_of_nonpos (by linarith), neg_sub]
  refine ⟨by rw [distance]; linarith, fun half => ?_⟩
  have odd := tie (by rw [distance] at half; linarith)
  omega

theorem isRound_roundDiv (num : ℕ) (pos : 0 < den) : IsRound (roundDiv num den) (num / den) := by
  have hden : (0 : ℚ) < den := Nat.cast_pos.2 pos
  -- The number is its whole part and a rest, and the choice is between the two ends of the rest.
  generalize rest : ((num % den : ℕ) : ℚ) / den = r
  have parts : (num : ℚ) / den = (num / den : ℕ) + r := by
    rw [← rest, div_eq_iff hden.ne', add_mul, div_mul_cancel₀ _ hden.ne']
    exact_mod_cast (Nat.div_add_mod' num den).symm
  have nonneg : 0 ≤ r := rest ▸ div_nonneg (Nat.cast_nonneg _) hden.le
  have below : r < 1 := by
    rw [← rest, div_lt_one hden]
    exact_mod_cast Nat.mod_lt num pos
  have half : 2 * (num % den) > den ↔ 1 / 2 < r := by
    rw [← rest, div_lt_div_iff₀ two_pos hden, gt_iff_lt, ← Nat.cast_lt (α := ℚ)]
    push_cast
    rw [one_mul, mul_comm]
  have tie : 2 * (num % den) = den ↔ r = 1 / 2 := by
    rw [← rest, div_eq_div_iff hden.ne' two_ne_zero, ← Nat.cast_inj (R := ℚ)]
    push_cast
    rw [mul_comm, one_mul]
  rw [parts]
  simp only [roundDiv, Bool.or_eq_true, Bool.and_eq_true, decide_eq_true_eq, half, tie]
  split
  · next up =>
      refine isRound_of_half_le ?_ below.le fun same => ?_
      · exact up.elim le_of_lt fun exact => exact.1.ge
      · exact (up.resolve_left (by simp [same])).2
  · next down =>
      rw [not_or, not_lt, not_and, Nat.mod_two_not_eq_one] at down
      exact isRound_of_le_half nonneg down.1 down.2

namespace IsRound

theorem far {t : ℕ} (h : IsRound s q) (different : t ≠ s) : 1 / 2 ≤ |q - t| := by
  have apart : (1 : ℚ) ≤ |(t : ℚ) - s| := by
    have : (1 : ℤ) ≤ |(t : ℤ) - s| := Int.one_le_abs (by omega)
    exact_mod_cast this
  have near := h.near
  have := abs_sub_le (t : ℚ) q s
  rw [abs_sub_comm (t : ℚ) q] at this
  linarith

theorem nearest (h : IsRound s q) (t : ℕ) : |q - s| ≤ |q - t| := by
  by_cases same : t = s
  · rw [same]
  · exact h.near.trans (h.far same)

theorem even_of_tie {t : ℕ} (h : IsRound s q) (tie : |q - s| = |q - t|) (different : t ≠ s) :
    s % 2 = 0 :=
  h.even (le_antisymm h.near (tie ▸ h.far different))

theorem le_of_lt {n : ℕ} (h : IsRound s q) (below : q < n) : s ≤ n := by
  have near := abs_le.1 h.near
  have : (s : ℚ) < n + 1 := by linarith
  exact Nat.lt_succ_iff.1 (by exact_mod_cast this)

theorem le_iff_of_even {n : ℕ} (h : IsRound s q) (even : n % 2 = 0) :
    n ≤ s ↔ (n : ℚ) - 1 / 2 ≤ q := by
  have near := abs_le.1 h.near
  constructor
  · intro le
    have : (n : ℚ) ≤ s := by exact_mod_cast le
    linarith
  · intro le
    by_contra less
    have below : (s : ℚ) + 1 ≤ n := by exact_mod_cast Nat.lt_of_not_le less
    have tie : q - s = 1 / 2 := by linarith
    have odd : (s : ℚ) + 1 = n := by linarith
    have : s + 1 = n := by exact_mod_cast odd
    have := h.even (by rw [tie]; norm_num)
    omega

end IsRound

theorem isRound_scaled (num : ℕ) (pos : 0 < den) (e : ℤ) :
    IsRound (scaled num den e) (num / den / 2 ^ e) := by
  unfold scaled
  split
  · next nonneg =>
      lift e to ℕ using nonneg
      have quotient : (num / den / 2 ^ (e : ℤ) : ℚ) = num / (den * twoTo e : ℕ) := by
        rw [div_div, zpow_natCast, twoTo, Nat.pow_eq]
        push_cast
        rfl
      rw [quotient, Int.toNat_natCast]
      exact isRound_roundDiv num (Nat.mul_pos pos (Nat.two_pow_pos e))
  · next negative =>
      obtain ⟨n, rfl⟩ : ∃ n : ℕ, e = -n := ⟨(-e).toNat, by omega⟩
      have quotient : (num / den / 2 ^ (-(n : ℤ)) : ℚ) = (num * twoTo n : ℕ) / den := by
        rw [zpow_neg, zpow_natCast, div_inv_eq_mul, twoTo, Nat.pow_eq]
        push_cast
        rw [div_mul_eq_mul_div]
      rw [quotient, neg_neg, Int.toNat_natCast]
      exact isRound_roundDiv _ pos

/-! ## Exponents -/

theorem le_div_of_log2 (hnum : num ≠ 0) (hden : den ≠ 0) :
    (2 : ℚ) ^ ((num.log2 : ℤ) - den.log2 - 1) ≤ num / den ∧
      (num / den : ℚ) < 2 ^ ((num.log2 : ℤ) - den.log2 + 1) := by
  have low : (2 : ℚ) ^ (num.log2 : ℤ) ≤ num := by
    exact_mod_cast Nat.log2_self_le hnum
  have high : (num : ℚ) < 2 ^ ((num.log2 : ℤ) + 1) := by
    exact_mod_cast Nat.lt_log2_self (n := num)
  have low' : (2 : ℚ) ^ (den.log2 : ℤ) ≤ den := by
    exact_mod_cast Nat.log2_self_le hden
  have high' : (den : ℚ) < 2 ^ ((den.log2 : ℤ) + 1) := by
    exact_mod_cast Nat.lt_log2_self (n := den)
  have positive : (0 : ℚ) < den := by
    exact_mod_cast Nat.pos_of_ne_zero hden
  have two : (2 : ℚ) ≠ 0 := two_ne_zero
  constructor
  · rw [le_div_iff₀ positive]
    calc (2 : ℚ) ^ ((num.log2 : ℤ) - den.log2 - 1) * den
        ≤ 2 ^ ((num.log2 : ℤ) - den.log2 - 1) * 2 ^ ((den.log2 : ℤ) + 1) := by gcongr
      _ = 2 ^ (num.log2 : ℤ) := by
          rw [← zpow_add₀ two]
          congr 1
          ring
      _ ≤ num := low
  · rw [div_lt_iff₀ positive]
    calc (num : ℚ) < 2 ^ ((num.log2 : ℤ) + 1) := high
      _ = 2 ^ ((num.log2 : ℤ) - den.log2 + 1) * 2 ^ (den.log2 : ℤ) := by
          rw [← zpow_add₀ two]
          congr 1
          ring
      _ ≤ 2 ^ ((num.log2 : ℤ) - den.log2 + 1) * den := by gcongr

theorem isShort_iff (pos : 0 < den) (e : ℤ) :
    (if 0 ≤ e then decide (num < den * twoTo (52 + e.toNat))
      else decide (num * twoTo (-e).toNat < den * fractionCount)) = true ↔
      (num / den : ℚ) < fractionCount * 2 ^ e := by
  have hden : (0 : ℚ) < den := Nat.cast_pos.2 pos
  have count : fractionCount = 2 ^ 52 := by decide
  rw [div_lt_iff₀ hden]
  split
  · next nonneg =>
      lift e to ℕ using nonneg
      rw [decide_eq_true_iff, ← Nat.cast_lt (α := ℚ), count, twoTo, Nat.pow_eq, pow_add, mul_comm den]
      push_cast
      rfl
  · next negative =>
      obtain ⟨n, rfl⟩ : ∃ n : ℕ, e = -n := ⟨(-e).toNat, by omega⟩
      have positive : (0 : ℚ) < 2 ^ n := by positivity
      rw [decide_eq_true_iff, ← Nat.cast_lt (α := ℚ), twoTo, Nat.pow_eq, neg_neg, Int.toNat_natCast,
        zpow_neg, zpow_natCast, ← div_eq_mul_inv, div_mul_eq_mul_div, lt_div_iff₀ positive]
      push_cast
      rw [mul_comm (den : ℚ)]

/-- A quotient lies in the cell at its exponent. -/
theorem cell_of_exponentOf (hnum : num ≠ 0) (hden : den ≠ 0) :
    -1074 ≤ exponentOf num den ∧
      (num / den : ℚ) < 2 * fractionCount * 2 ^ exponentOf num den ∧
      (exponentOf num den = -1074 ∨ (fractionCount : ℚ) * 2 ^ exponentOf num den ≤ num / den) := by
  have count : (fractionCount : ℚ) = 2 ^ (52 : ℤ) := by
    norm_num [fractionCount]
  have two : (2 : ℚ) ≠ 0 := two_ne_zero
  have ⟨low, high⟩ := le_div_of_log2 hnum hden
  -- The guess or the exponent below it is that of the quotient, when it is not cut at the smallest.
  have inside : ∃ e : ℤ, exponentOf num den = max e (-1074) ∧
      (num / den : ℚ) < 2 * fractionCount * 2 ^ e ∧ (fractionCount : ℚ) * 2 ^ e ≤ num / den := by
    refine ⟨_, rfl, ?_⟩
    simp only [isShort_iff (Nat.pos_of_ne_zero hden), count, ← zpow_add₀ two,
      ← zpow_one_add₀ two]
    split
    · next less => refine ⟨less.trans_eq ?_, le_trans (le_of_eq ?_) low⟩ <;> congr 1 <;> ring
    · next more =>
        refine ⟨high.trans_eq ?_, not_lt.1 more⟩
        congr 1
        ring
  rcases inside with ⟨e, same, below, above⟩
  rw [same]
  refine ⟨le_max_right _ _, ?_, ?_⟩
  · refine below.trans_le ?_
    gcongr
    · norm_num
    · exact le_max_left _ _
  · rcases le_total (-1074) e with large | small
    · right
      rwa [max_eq_left large]
    · left
      exact max_eq_right small

/-! ## The nearest magnitude -/

/-- A number lies in the `k`th cell: its quotient by the step of the cell has at most 53 bits, and in
all but the first cell no less. -/
structure InCell (k : ℕ) (q : ℚ) : Prop where
  below : q < 2 * fractionCount * 2 ^ k
  above : k = 0 ∨ (fractionCount : ℚ) * 2 ^ k ≤ q

namespace InCell

theorem le_of_isRound (h : InCell k q) (round : IsRound s (q / 2 ^ k)) :
    s ≤ 2 * fractionCount := by
  have positive : (0 : ℚ) < 2 ^ k := by positivity
  apply round.le_of_lt
  push_cast
  exact (div_lt_iff₀ positive).2 h.below

theorem normal_of_isRound (h : InCell k q) (round : IsRound s (q / 2 ^ k)) :
    k = 0 ∨ fractionCount ≤ s := by
  have positive : (0 : ℚ) < 2 ^ k := by positivity
  refine h.above.imp_right fun above => (round.le_iff_of_even (by decide)).2 ?_
  have : (fractionCount : ℚ) ≤ q / 2 ^ k := (le_div_iff₀ positive).2 above
  linarith

theorem units_of_isRound (h : InCell k q) (round : IsRound s (q / 2 ^ k)) :
    units (k * fractionCount + s) = s * 2 ^ k :=
  units_of_cell (h.le_of_isRound round) (h.normal_of_isRound round)

/-- No magnitude is nearer than the rounded quotient, and an equally near one only when that is
even. -/
theorem nearest_units (h : InCell k q) (round : IsRound s (q / 2 ^ k)) (m : ℕ) :
    |q - units (k * fractionCount + s)| ≤ |q - units m| ∧
      (|q - units (k * fractionCount + s)| = |q - units m| →
        units (k * fractionCount + s) ≠ units m → s % 2 = 0) := by
  have positive : (0 : ℚ) < 2 ^ k := by positivity
  have distance (t : ℕ) : |q - (t * 2 ^ k : ℕ)| = |q / 2 ^ k - t| * 2 ^ k := by
    rw [← abs_of_pos positive, ← abs_mul, abs_of_pos positive, sub_mul,
      div_mul_cancel₀ _ positive.ne']
    push_cast
    rfl
  rw [h.units_of_isRound round]
  have place : 2 ^ k ∣ units m ∨ units m < fractionCount * 2 ^ k ∧ fractionCount * 2 ^ k ≤ q := by
    rcases h.above with rfl | above
    · exact .inl (one_dvd _)
    · exact (dvd_units_or_lt k m).imp_right fun denser => ⟨denser, above⟩
  rcases place with ⟨t, multiple⟩ | ⟨denser, above⟩
  · rw [multiple, Nat.mul_comm (2 ^ k), distance, distance]
    refine ⟨mul_le_mul_of_nonneg_right (round.nearest t) positive.le, fun tie different => ?_⟩
    exact round.even_of_tie (mul_right_cancel₀ positive.ne' tie) fun same => different (by rw [same])
  · -- The lower end of the cell is nearer than everything below it.
    have closer : |q - (s * 2 ^ k : ℕ)| < |q - units m| := by
      have less : (units m : ℚ) < (fractionCount * 2 ^ k : ℕ) := by exact_mod_cast denser
      calc |q - (s * 2 ^ k : ℕ)| ≤ |q - (fractionCount * 2 ^ k : ℕ)| := by
            rw [distance, distance]
            exact mul_le_mul_of_nonneg_right (round.nearest _) positive.le
        _ = q - (fractionCount * 2 ^ k : ℕ) := abs_of_nonneg (by push_cast; linarith)
        _ < q - units m := by linarith
        _ ≤ |q - units m| := le_abs_self _
    exact ⟨closer.le, fun tie => absurd tie closer.ne⟩

/-- The rounded quotient passes a cell exactly when it is at most half a step below its end. -/
theorem passes_iff (h : InCell k q) (round : IsRound s (q / 2 ^ k)) (top : ℕ) :
    (top + 2) * fractionCount ≤ k * fractionCount + s ↔
      (2 * fractionCount - 1 / 2 : ℚ) * 2 ^ top ≤ q := by
  have inside := h.le_of_isRound round
  have large : (1 : ℚ) ≤ fractionCount := by norm_num [fractionCount]
  rcases Nat.lt_trichotomy k top with lower | same | higher
  · have passes : ¬ (top + 2) * fractionCount ≤ k * fractionCount + s := by
      have := Nat.mul_le_mul_right fractionCount (Nat.succ_le_of_lt lower)
      have : 0 < fractionCount := by decide
      linarith
    have under : q < (2 * fractionCount - 1 / 2 : ℚ) * 2 ^ top := by
      calc q < 2 * fractionCount * 2 ^ k := h.below
        _ = fractionCount * 2 ^ (k + 1) := by ring
        _ ≤ fractionCount * 2 ^ top := by
            gcongr
            exact lower
        _ ≤ (2 * fractionCount - 1 / 2 : ℚ) * 2 ^ top := by
            gcongr
            linarith
    exact iff_of_false passes under.not_ge
  · subst same
    have positive : (0 : ℚ) < 2 ^ k := by positivity
    have rounded := round.le_iff_of_even (n := 2 * fractionCount) (by decide)
    push_cast at rounded
    rw [← le_div_iff₀ positive, ← rounded, Nat.add_mul, Nat.add_le_add_iff_left]
  · have normal : fractionCount ≤ s := (h.normal_of_isRound round).resolve_left (by omega)
    have above : (fractionCount : ℚ) * 2 ^ k ≤ q := h.above.resolve_left (by omega)
    refine iff_of_true ?_ ?_
    · have := Nat.mul_le_mul_right fractionCount (Nat.succ_le_of_lt higher)
      linarith
    · have positive : (0 : ℚ) < 2 ^ top := by positivity
      calc (2 * fractionCount - 1 / 2 : ℚ) * 2 ^ top ≤ fractionCount * 2 ^ (top + 1) := by
            rw [pow_succ]
            linarith
        _ ≤ fractionCount * 2 ^ k := by
            gcongr
            exact higher
        _ ≤ q := above

end InCell

/-- The least size that is beyond the doubles: halfway between the greatest one and the power of two
above it. -/
def limit : ℚ := 2 ^ 1024 - 2 ^ 970

/-- A magnitude is the one that a size is rounded to. -/
structure IsNearest (q : ℚ) (m : ℕ) : Prop where
  le : m ≤ infinityBits
  finite_iff : m < infinityBits ↔ q < limit
  nearest : m < infinityBits → ∀ m', |q * 2 ^ 1074 - units m| ≤ |q * 2 ^ 1074 - units m'|
  even : m < infinityBits → ∀ m', |q * 2 ^ 1074 - units m| = |q * 2 ^ 1074 - units m'| →
    units m ≠ units m' → m % 2 = 0

theorem limit_in_units : limit * 2 ^ 1074 = (2 * fractionCount - 1 / 2 : ℚ) * 2 ^ 2045 := by
  have count : (fractionCount : ℚ) = 2 ^ 52 := by norm_num [fractionCount]
  have upper : (2 : ℚ) ^ 1024 = 2 ^ 54 * 2 ^ 970 := (pow_add 2 54 970)
  have units : (2 : ℚ) ^ 2045 = 2 * (2 ^ 970 * 2 ^ 1074) := by
    rw [← pow_add, ← pow_succ']
  rw [limit, upper, units, count]
  generalize (2 : ℚ) ^ 970 = a
  generalize (2 : ℚ) ^ 1074 = b
  ring

theorem half_lt_limit : 1 / 2 < limit * 2 ^ 1074 := by
  have large : (1 : ℚ) ≤ fractionCount := by norm_num [fractionCount]
  have power : (1 : ℚ) ≤ 2 ^ 2045 := one_le_pow₀ one_le_two
  rw [limit_in_units]
  generalize (2 : ℚ) ^ 2045 = a at power
  calc (1 / 2 : ℚ) < (2 * fractionCount - 1 / 2) * 1 := by linarith
    _ ≤ (2 * fractionCount - 1 / 2) * a := by
        gcongr
        linarith

theorem units_zero : units 0 = 0 := by decide

theorem isNearest_infinity (beyond : limit ≤ q) : IsNearest q infinityBits where
  le := le_rfl
  finite_iff := iff_of_false (lt_irrefl _) beyond.not_gt
  nearest := fun finite => absurd finite (lt_irrefl _)
  even := fun finite => absurd finite (lt_irrefl _)

/-- What is less than half of the smallest double is rounded to zero. -/
theorem isNearest_zero (nonneg : 0 ≤ q) (small : q * 2 ^ 1074 < 1 / 2) : IsNearest q 0 where
  le := Nat.zero_le _
  finite_iff := by
    have positive : (0 : ℚ) < 2 ^ 1074 := by positivity
    exact iff_of_true (by decide) (lt_of_mul_lt_mul_right (small.trans half_lt_limit) positive.le)
  nearest := by
    intro _ m
    have nonneg : 0 ≤ q * 2 ^ 1074 := mul_nonneg nonneg (by positivity)
    generalize q * 2 ^ 1074 = a at nonneg small
    rw [units_zero, Nat.cast_zero, sub_zero, abs_of_nonneg nonneg]
    rcases Nat.eq_zero_or_pos (units m) with same | more
    · rw [same, Nat.cast_zero, sub_zero]
      exact le_abs_self a
    · have : (1 : ℚ) ≤ units m := by exact_mod_cast more
      calc a ≤ units m - a := by linarith
        _ ≤ |units m - a| := le_abs_self _
        _ = |a - units m| := abs_sub_comm _ _
  even := fun _ _ _ _ => rfl

theorem isNearest_of_eq_zero (zero : q = 0) : IsNearest q 0 := by
  subst zero
  exact isNearest_zero le_rfl (by norm_num)

section Steps

variable {k n : ℕ}

theorem two_zpow_sub (k n : ℕ) : (2 : ℚ) ^ ((k : ℤ) - n) = 2 ^ k / 2 ^ n := by
  rw [zpow_sub₀ two_ne_zero, zpow_natCast, zpow_natCast]

theorem inCell_of_zpow (below : q < 2 * fractionCount * 2 ^ ((k : ℤ) - n))
    (above : k = 0 ∨ (fractionCount : ℚ) * 2 ^ ((k : ℤ) - n) ≤ q) : InCell k (q * 2 ^ n) := by
  have positive : (0 : ℚ) < 2 ^ n := by positivity
  rw [two_zpow_sub, mul_div_assoc', lt_div_iff₀ positive] at below
  rw [two_zpow_sub, mul_div_assoc', div_le_iff₀ positive] at above
  exact ⟨below, above⟩

theorem isRound_of_zpow (h : IsRound s (q / 2 ^ ((k : ℤ) - n))) : IsRound s (q * 2 ^ n / 2 ^ k) := by
  rwa [two_zpow_sub, div_div_eq_mul_div] at h

end Steps

theorem isNearest_of_cell {e : ℤ} (e_ge : -1074 ≤ e) (below : q < 2 * fractionCount * 2 ^ e)
    (above : e = -1074 ∨ (fractionCount : ℚ) * 2 ^ e ≤ q) (round : IsRound s (q / 2 ^ e)) :
    IsNearest q (min ((e + 1074).toNat * fractionCount + s) infinityBits) := by
  obtain ⟨k, rfl⟩ : ∃ k : ℕ, e = k - (1074 : ℕ) := ⟨(e + 1074).toNat, by omega⟩
  have cell : InCell k (q * 2 ^ 1074) := inCell_of_zpow below (above.imp_left (by omega))
  have round : IsRound s (q * 2 ^ 1074 / 2 ^ k) := isRound_of_zpow round
  have index : ((k : ℤ) - (1074 : ℕ) + 1074).toNat = k := by omega
  have passes : infinityBits ≤ k * fractionCount + s ↔ limit ≤ q := by
    have positive : (0 : ℚ) < 2 ^ 1074 := by positivity
    rw [← mul_le_mul_iff_left₀ positive, limit_in_units, ← cell.passes_iff round 2045]
    rfl
  rw [index]
  rcases Nat.lt_or_ge (k * fractionCount + s) infinityBits with finite | infinite
  · rw [min_eq_left finite.le]
    have parity : (k * fractionCount + s) % 2 = s % 2 := by
      have even : fractionCount % 2 = 0 := by decide
      rw [Nat.add_mod, Nat.mul_mod, even, Nat.mul_zero, Nat.zero_mod, Nat.zero_add, Nat.mod_mod]
    refine ⟨finite.le, ?_, fun _ m => (cell.nearest_units round m).1, fun _ m tie different => ?_⟩
    · rw [← not_le, ← not_le, passes]
    · rw [parity]
      exact (cell.nearest_units round m).2 tie different
  · rw [min_eq_right infinite]
    exact isNearest_infinity (passes.1 infinite)

end Readiness.Binary64
