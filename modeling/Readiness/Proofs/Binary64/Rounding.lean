import Readiness.Proofs.Binary64.Cells

/-!
# Rounding — decimals become the nearest doubles

* `Binary64.value`: the number that a finite double stands for;
* `Binary64.Rounds`: a double is the rounding of a number to the nearest one, a tie to the even one,
  and infinite from `Binary64.limit` on. `Rounds.unique`: with a sign there is only one;
* `Binary64.rounds_ofRatio` and `Binary64.rounds_ofDecimal`: quotients and decimals are rounded so.
-/

namespace Readiness.Binary64

variable {x : Binary64} {a q : ℚ} {m den : ℕ}

/-! ## Values -/

/-- A size with a sign. -/
def signed (negative : Bool) (q : ℚ) : ℚ := if negative then -q else q

/-- The number that a finite double stands for. -/
def value (x : Binary64) : ℚ := signed x.isNegative x.size

/-- A double is the rounding of a number: the nearest one, of two equally near ones the even one, and
infinite from the limit on. -/
structure Rounds (q : ℚ) (x : Binary64) : Prop where
  finite_iff : x.isFinite = true ↔ |q| < limit
  infinite : x.isFinite = false → x.magnitude = infinityBits
  nearest : x.isFinite = true → ∀ y : Binary64, y.isFinite = true → |q - x.value| ≤ |q - y.value|
  even : x.isFinite = true → ∀ y : Binary64, y.isFinite = true → |q - x.value| = |q - y.value| →
    x.value ≠ y.value → x.magnitude % 2 = 0

/-! ## Signs -/

theorem isFinite_iff : x.isFinite = true ↔ x.magnitude < infinityBits := decide_eq_true_iff

theorem toNat_withSign (negative : Bool) (below : m < magnitudeCount) :
    (withSign negative m).bits.toNat = (if negative then magnitudeCount else 0) + m := by
  have double : 2 * magnitudeCount = 2 ^ 64 := by decide
  cases negative
  · simp only [withSign, UInt64.toNat_ofNat', Bool.false_eq_true, if_false]
    rw [Nat.mod_eq_of_lt (by omega), Nat.zero_add]
  · simp only [withSign, UInt64.toNat_ofNat', if_true]
    rw [Nat.mod_eq_of_lt (by omega)]

theorem magnitude_withSign (negative : Bool) (below : m < magnitudeCount) :
    (withSign negative m).magnitude = m := by
  rw [magnitude, toNat_withSign negative below]
  cases negative
  · simpa using Nat.mod_eq_of_lt below
  · simpa using Nat.mod_eq_of_lt below

theorem isNegative_withSign (negative : Bool) (below : m < magnitudeCount) :
    (withSign negative m).isNegative = negative := by
  rw [isNegative, toNat_withSign negative below]
  cases negative
  · simpa using below
  · simp

theorem size_nonneg (x : Binary64) : 0 ≤ x.size := by
  rw [size_eq_units]
  positivity

theorem abs_sub_div (pos : 0 < a) (b q : ℚ) : |q - b / a| = |q * a - b| / a := by
  rw [sub_div' pos.ne', abs_div, abs_of_pos pos]

theorem abs_sub_size (q : ℚ) (x : Binary64) :
    |q - x.size| = |q * 2 ^ 1074 - units x.magnitude| / 2 ^ 1074 := by
  rw [size_eq_units]
  exact abs_sub_div (by positivity) _ q

/-- Numbers of one sign are as far apart as their sizes, and others by the sum of these. -/
theorem abs_sub_value (nonneg : 0 ≤ q) (negative : Bool) (x : Binary64) :
    |signed negative q - x.value| =
      if x.isNegative = negative then |q - x.size| else q + x.size := by
  have sum : 0 ≤ q + x.size := add_nonneg nonneg x.size_nonneg
  unfold value signed
  cases negative <;> cases x.isNegative
  · simp
  · simpa using sum
  · simp only [if_true, Bool.false_eq_true, if_false]
    rw [← neg_add', abs_neg, abs_of_nonneg sum]
  · simp only [if_true]
    rw [neg_sub_neg, abs_sub_comm]

theorem size_withSign_zero (negative : Bool) : (withSign negative 0).size = 0 := by
  rw [size_eq_units, magnitude_withSign negative (by decide), units_zero, Nat.cast_zero, zero_div]

namespace IsNearest

theorem abs_sub_size_le (h : IsNearest q x.magnitude) (finite : x.isFinite = true)
    (y : Binary64) : |q - x.size| ≤ |q - y.size| := by
  rw [abs_sub_size, abs_sub_size]
  exact div_le_div_of_nonneg_right (h.nearest (isFinite_iff.1 finite) y.magnitude) (by positivity)

theorem even_of_size (h : IsNearest q x.magnitude) (finite : x.isFinite = true) {y : Binary64}
    (tie : |q - x.size| = |q - y.size|) (different : x.size ≠ y.size) : x.magnitude % 2 = 0 := by
  have positive : (0 : ℚ) < 2 ^ 1074 := by positivity
  rw [abs_sub_size, abs_sub_size] at tie
  rw [size_eq_units, size_eq_units] at different
  refine h.even (isFinite_iff.1 finite) y.magnitude ?_ fun same => different (by rw [same])
  exact (div_left_inj' positive.ne').1 tie

/-- A nearest magnitude with a sign is the rounding of the size with that sign. -/
theorem rounds (h : IsNearest q m) (nonneg : 0 ≤ q) (negative : Bool) :
    Rounds (signed negative q) (withSign negative m) := by
  have below : m < magnitudeCount := h.le.trans_lt (by decide)
  have sign_eq := isNegative_withSign negative below
  have magnitude_eq := magnitude_withSign negative below
  generalize withSign negative m = x at *
  subst magnitude_eq
  have distance (y : Binary64) := abs_sub_value nonneg negative y
  have distance_self : |signed negative q - x.value| = |q - x.size| := by
    rw [distance, if_pos sign_eq]
  constructor
  · have size_eq : |signed negative q| = q := by
      cases negative <;> simp [signed, abs_of_nonneg nonneg]
    rw [isFinite_iff, h.finite_iff, size_eq]
  · intro infinite
    have := mt isFinite_iff.2 (Bool.not_eq_true _ ▸ infinite)
    exact le_antisymm h.le (not_lt.1 this)
  · intro finite y _
    have near := h.abs_sub_size_le finite y
    rw [distance_self, distance]
    split
    · exact near
    · have := abs_sub_le q 0 y.size
      rw [sub_zero, zero_sub, abs_neg, abs_of_nonneg nonneg, abs_of_nonneg y.size_nonneg] at this
      exact near.trans this
  · intro finite y _ tie different
    rw [distance_self, distance] at tie
    split at tie
    · next same =>
        refine h.even_of_size finite tie fun size_eq => different ?_
        simp only [value, sign_eq, same, size_eq]
    · -- With the other sign only a zero can be as near, and its sign does not count.
      have near := h.abs_sub_size_le finite (withSign false 0)
      rw [size_withSign_zero, sub_zero, abs_of_nonneg nonneg, tie] at near
      have zero : y.size = 0 := le_antisymm (by linarith) y.size_nonneg
      refine h.even_of_size finite (y := y) ?_ fun size_eq => different ?_
      · rw [tie, zero, add_zero, sub_zero, abs_of_nonneg nonneg]
      · simp [value, signed, size_eq, zero]

end IsNearest

/-! ## Uniqueness -/

theorem eq_withSign (x : Binary64) : x = withSign x.isNegative x.magnitude := by
  have double : 2 * magnitudeCount = 2 ^ 64 := by decide
  have bound : x.bits.toNat < 2 ^ 64 := x.bits.toNat_lt
  have below : x.magnitude < magnitudeCount := Nat.mod_lt _ (by decide)
  have bits : x.bits.toNat = (withSign x.isNegative x.magnitude).bits.toNat := by
    rw [toNat_withSign _ below, isNegative, magnitude]
    rcases Nat.lt_or_ge x.bits.toNat magnitudeCount with small | large
    · rw [Nat.mod_eq_of_lt small]
      simp [small.not_ge]
    · rw [Nat.mod_eq_sub_mod large, Nat.mod_eq_of_lt (by omega)]
      simp [large]
  exact congrArg Binary64.mk (UInt64.toNat_inj.1 bits)

theorem size_lt_iff {y : Binary64} : x.size < y.size ↔ x.magnitude < y.magnitude := by
  have positive : (0 : ℚ) < 2 ^ 1074 := by positivity
  rw [size_eq_units, size_eq_units, div_lt_div_iff_of_pos_right positive, Nat.cast_lt,
    strictMono_units.lt_iff_lt]

theorem signed_injective (negative : Bool) : Function.Injective (signed negative) := by
  cases negative
  · exact Function.injective_id
  · exact neg_injective

theorem abs_sub_signed (negative : Bool) (q a : ℚ) :
    |q - signed negative a| = |signed negative q - a| := by
  cases negative
  · rfl
  · simp only [signed, if_true]
    rw [← abs_neg]
    ring_nf

/-- What lies between two equally near numbers is nearer. -/
theorem abs_sub_lt_of_between {b c : ℚ} (tie : |q - a| = |q - c|) (hab : a < b) (hbc : b < c) :
    |q - b| < |q - a| := by
  have middle : q - a = -(q - c) := by
    refine (abs_eq_abs.1 tie).resolve_left fun same => ?_
    linarith
  rw [abs_of_pos (by linarith : 0 < q - a), abs_lt]
  constructor <;> linarith

/-- Of two finite doubles of one sign only one is a rounding: between them stands a nearer one, unless
they are neighbours, of which one is odd. -/
theorem not_rounds_of_lt {y : Binary64} (hx : Rounds q x) (hy : Rounds q y)
    (sign : x.isNegative = y.isNegative) (finite : y.isFinite = true) :
    ¬ x.magnitude < y.magnitude := by
  intro less
  have bound : y.magnitude < infinityBits := isFinite_iff.1 finite
  have finite' : x.isFinite = true := isFinite_iff.2 (less.trans bound)
  have larger : x.size < y.size := size_lt_iff.2 less
  have distance (z : Binary64) (same : z.isNegative = y.isNegative) :
      |q - z.value| = |signed y.isNegative q - z.size| := by
    rw [value, same, abs_sub_signed]
  have tie : |q - x.value| = |q - y.value| :=
    le_antisymm (hx.nearest finite' y finite) (hy.nearest finite x finite')
  have tie' : |signed y.isNegative q - x.size| = |signed y.isNegative q - y.size| := by
    rw [← distance x sign, ← distance y rfl, tie]
  have different : x.value ≠ y.value := by
    rw [value, value, sign]
    exact fun same => larger.ne (signed_injective _ same)
  rcases Nat.lt_or_eq_of_le (Nat.succ_le_of_lt less) with apart | neighbours
  · have below : x.magnitude + 1 < magnitudeCount := (apart.trans bound).trans (by decide)
    have next := magnitude_withSign y.isNegative below
    have sign' := isNegative_withSign y.isNegative below
    generalize withSign y.isNegative (x.magnitude + 1) = z at next sign'
    have near := hx.nearest finite' z (isFinite_iff.2 (next ▸ apart.trans bound))
    rw [distance x sign, distance z sign'] at near
    have above : x.size < z.size := size_lt_iff.2 (next ▸ Nat.lt_succ_self _)
    have under : z.size < y.size := size_lt_iff.2 (next ▸ apart)
    exact near.not_gt (abs_sub_lt_of_between tie' above under)
  · have even := hx.even finite' y finite tie different
    have even' := hy.even finite x finite' tie.symm different.symm
    omega

/-- A number with a sign is rounded to one double only. -/
theorem Rounds.unique {y : Binary64} (hx : Rounds q x) (hy : Rounds q y)
    (sign : x.isNegative = y.isNegative) : x = y := by
  suffices magnitude : x.magnitude = y.magnitude by
    rw [eq_withSign x, eq_withSign y, sign, magnitude]
  cases finite : x.isFinite with
  | true =>
      have finite' : y.isFinite = true := hy.finite_iff.2 (hx.finite_iff.1 finite)
      exact le_antisymm (not_lt.1 (not_rounds_of_lt hy hx sign.symm finite))
        (not_lt.1 (not_rounds_of_lt hx hy sign finite'))
  | false =>
      have infinite : y.isFinite = false := by
        rw [← Bool.not_eq_true, hy.finite_iff, ← hx.finite_iff, finite]
        exact Bool.false_ne_true
      rw [hx.infinite finite, hy.infinite infinite]

/-! ## Quotients and decimals -/

/-- A quotient is rounded to the nearest double. -/
theorem rounds_ofRatio (hden : den ≠ 0) (negative : Bool) (num : ℕ) :
    Rounds (signed negative (num / den)) (ofRatio negative num den) := by
  unfold ofRatio
  split
  · next zero =>
      have nothing : (num / den : ℚ) = 0 := by simp [zero]
      exact (isNearest_of_eq_zero nothing).rounds nothing.ge negative
  · next hnum =>
      have ⟨least, below, above⟩ := cell_of_exponentOf hnum hden
      have round := isRound_scaled num (Nat.pos_of_ne_zero hden) (exponentOf num den)
      exact (isNearest_of_cell least below above round).rounds (by positivity) negative

theorem isNegative_ofRatio (negative : Bool) (num den : ℕ) :
    (ofRatio negative num den).isNegative = negative := by
  have bound : infinityBits < magnitudeCount := by decide
  unfold ofRatio
  split
  · exact isNegative_withSign negative (by decide)
  · exact isNegative_withSign negative ((min_le_right _ _).trans_lt bound)

/-- A number lies between the powers of ten with the number of its digits. -/
theorem bounds_of_toDigits {digits : ℕ} (positive : digits ≠ 0) :
    (10 : ℚ) ^ (((Nat.toDigits 10 digits).length : ℤ) - 1) ≤ digits ∧
      (digits : ℚ) < 10 ^ ((Nat.toDigits 10 digits).length : ℤ) := by
  have length_pos : 0 < (Nat.toDigits 10 digits).length := Nat.length_toDigits_pos
  have length_le (n : ℕ) (pos : 0 < n) : (Nat.toDigits 10 digits).length ≤ n ↔ digits < 10 ^ n :=
    Nat.length_toDigits_le_iff (by decide) pos
  generalize (Nat.toDigits 10 digits).length = length at *
  obtain ⟨n, rfl⟩ : ∃ n, length = n + 1 := ⟨length - 1, by omega⟩
  constructor
  · have above : 10 ^ n ≤ digits := by
      cases n with
      | zero => exact Nat.pos_of_ne_zero positive
      | succ n => exact not_lt.1 (mt (length_le (n + 1) n.succ_pos).2 (by omega))
    push_cast
    rw [add_sub_cancel_right, zpow_natCast]
    exact_mod_cast above
  · exact_mod_cast (length_le (n + 1) n.succ_pos).1 le_rfl

theorem limit_le : limit ≤ 10 ^ 400 := by
  have small : (2 : ℚ) ^ 64 ≤ 10 ^ 25 := by norm_num
  calc limit ≤ 2 ^ 1024 := sub_le_self _ (by positivity)
    _ = (2 ^ 64) ^ 16 := pow_mul 2 64 16
    _ ≤ (10 ^ 25) ^ 16 := pow_le_pow_left₀ (by positivity) small 16
    _ = 10 ^ 400 := (pow_mul 10 25 16).symm

theorem two_pow_lt_ten_pow : (2 : ℚ) ^ 1075 < 10 ^ 401 := by
  have small : (2 : ℚ) ^ 43 < 10 ^ 16 := by norm_num
  calc (2 : ℚ) ^ 1075 = (2 ^ 43) ^ 25 := pow_mul 2 43 25
    _ < (10 ^ 16) ^ 25 := pow_lt_pow_left₀ small (by positivity) (by norm_num)
    _ = 10 ^ 400 := (pow_mul 10 16 25).symm
    _ ≤ 10 ^ 401 := pow_le_pow_right₀ (by norm_num) (by norm_num)

section Decimals

variable {digits : ℕ} {exponent : ℤ}

theorem limit_le_decimal (positive : digits ≠ 0)
    (great : ((Nat.toDigits 10 digits).length : ℤ) + exponent > 400) :
    limit ≤ digits * 10 ^ exponent := by
  have low := (bounds_of_toDigits positive).1
  generalize ((Nat.toDigits 10 digits).length : ℤ) = length at *
  calc limit ≤ 10 ^ 400 := limit_le
    _ = 10 ^ (400 : ℤ) := (zpow_natCast 10 400).symm
    _ ≤ 10 ^ (length - 1 + exponent) := zpow_le_zpow_right₀ (by norm_num) (by omega)
    _ = 10 ^ (length - 1) * 10 ^ exponent := zpow_add₀ (by norm_num) _ _
    _ ≤ digits * 10 ^ exponent := by gcongr

theorem decimal_lt_half (positive : digits ≠ 0)
    (small : ((Nat.toDigits 10 digits).length : ℤ) + exponent < -400) :
    (digits : ℚ) * 10 ^ exponent * 2 ^ 1074 < 1 / 2 := by
  have high := (bounds_of_toDigits positive).2
  generalize ((Nat.toDigits 10 digits).length : ℤ) = length at *
  have below : (digits : ℚ) * 10 ^ exponent ≤ (10 ^ 401)⁻¹ := by
    calc (digits : ℚ) * 10 ^ exponent ≤ 10 ^ length * 10 ^ exponent := by gcongr
      _ = 10 ^ (length + exponent) := (zpow_add₀ (by norm_num) _ _).symm
      _ ≤ 10 ^ (-401 : ℤ) := zpow_le_zpow_right₀ (by norm_num) (by omega)
      _ = (10 ^ 401)⁻¹ := by
          rw [zpow_neg]
          exact congrArg _ (zpow_natCast 10 401)
  have double : (2 : ℚ) ^ 1075 = 2 * 2 ^ 1074 := pow_succ' 2 1074
  have power := two_pow_lt_ten_pow
  rw [double] at power
  have positive : (0 : ℚ) < 2 ^ 1074 := by positivity
  have positive' : (0 : ℚ) < 10 ^ 401 := by positivity
  generalize (2 : ℚ) ^ 1074 = b at *
  generalize (10 : ℚ) ^ 401 = c at *
  calc (digits : ℚ) * 10 ^ exponent * b ≤ c⁻¹ * b := by gcongr
    _ = b / c := by rw [mul_comm, div_eq_mul_inv]
    _ < 1 / 2 := by
        rw [div_lt_div_iff₀ positive' two_pos]
        linarith

end Decimals

/-- A decimal is rounded to the nearest double. -/
theorem rounds_ofDecimal (negative : Bool) (digits : ℕ) (exponent : ℤ) :
    Rounds (signed negative (digits * 10 ^ exponent)) (ofDecimal negative digits exponent) := by
  have nonneg : (0 : ℚ) ≤ digits * 10 ^ exponent := by positivity
  unfold ofDecimal
  dsimp only
  split_ifs with zero great small whole
  · have nothing : (digits * 10 ^ exponent : ℚ) = 0 := by simp [zero]
    exact (isNearest_of_eq_zero nothing).rounds nonneg negative
  · exact (isNearest_infinity (limit_le_decimal zero great)).rounds nonneg negative
  · exact (isNearest_zero nonneg (decimal_lt_half zero small)).rounds nonneg negative
  · lift exponent to ℕ using whole
    have quotient := rounds_ofRatio one_ne_zero negative (digits * tenTo exponent)
    simpa [tenTo] using quotient
  · obtain ⟨n, rfl⟩ : ∃ n : ℕ, exponent = -n := ⟨(-exponent).toNat, by omega⟩
    have positive : tenTo n ≠ 0 := pow_ne_zero n (by decide)
    have quotient := rounds_ofRatio positive negative digits
    simpa [tenTo, div_eq_mul_inv] using quotient

theorem isNegative_ofDecimal (negative : Bool) (digits : ℕ) (exponent : ℤ) :
    (ofDecimal negative digits exponent).isNegative = negative := by
  unfold ofDecimal
  dsimp only
  split_ifs
  · exact isNegative_withSign negative (by decide)
  · exact isNegative_withSign negative (by decide)
  · exact isNegative_withSign negative (by decide)
  · exact isNegative_ofRatio _ _ _
  · exact isNegative_ofRatio _ _ _

end Readiness.Binary64
