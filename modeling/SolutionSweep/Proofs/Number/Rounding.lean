import SolutionSweep.Number.Double
import Mathlib.Algebra.Order.Field.Power
import Mathlib.Data.Rat.Cast.Order
import Mathlib.Tactic.Linarith
import Mathlib.Tactic.Positivity
import Mathlib.Tactic.FieldSimp
import Mathlib.Tactic.Ring

/-!
# Numerals are read as the nearest double

The arithmetic of doubles works on quotients of natural numbers; here they are compared as rational
numbers. A number that is nearest to a double lies within half of its last bit, so that the exponent
and the mantissa that are found for it are those of the double, or, just below a power of two, the
mantissa is rounded up to it.

* `Double.Fits`: the positive finite doubles, `Double.Denotes`: the numbers that are nearest to one;
* `Double.exponentFor_spec`, `Double.roundQuotient_eq_of_near`: the exponent and the mantissa;
* `Double.ofQuotient_eq`, `Double.nearest_eq`: quotients and decimal numerals are read as the double
  that they are nearest to.
-/

namespace SolutionSweep.Double

theorem scaled_den_pos {base : Nat} (positive : 0 < base) (num : Nat) (e : Int) :
    0 < (scaled base num e).2 := by
  unfold scaled
  split
  · exact Nat.one_pos
  · exact Nat.pow_pos positive

theorem scaled_num_pos {base num : Nat} (positive : 0 < base) (hnum : 0 < num) (e : Int) :
    0 < (scaled base num e).1 := by
  unfold scaled
  split
  · exact Nat.mul_pos hnum (Nat.pow_pos positive)
  · exact hnum

/-- A scaled number is a quotient. -/
theorem scaled_eq {base : Nat} (positive : 0 < base) (num : Nat) (e : Int) :
    ((scaled base num e).1 : ℚ) / (scaled base num e).2 = num * (base : ℚ) ^ e := by
  have nonzero : (base : ℚ) ≠ 0 := Nat.cast_ne_zero.2 (by omega)
  unfold scaled
  split
  case isTrue up =>
    obtain ⟨n, rfl⟩ := Int.eq_ofNat_of_zero_le up
    simp
  case isFalse down =>
    obtain ⟨n, rfl⟩ : ∃ n : Nat, e = -n := ⟨(-e).toNat, by omega⟩
    simp [zpow_neg, div_eq_mul_inv]

/-- The nearest integer, a tie going to the even one. -/
theorem roundQuotient_eq {num den m : Nat} (positive : 0 < den)
    (low : 2 * m * den ≤ 2 * num + den) (high : 2 * num ≤ 2 * m * den + den)
    (tie : 2 * m * den = 2 * num + den ∨ 2 * num = 2 * m * den + den → m % 2 = 0) :
    roundQuotient num den = m := by
  have split : den * (num / den) + num % den = num := Nat.div_add_mod num den
  have small : num % den < den := Nat.mod_lt num positive
  unfold roundQuotient
  simp only
  generalize num / den = q at split ⊢
  generalize num % den = r at split small ⊢
  subst split
  have above : q ≤ m := by
    by_contra less
    have : den * (m + 1) ≤ den * q := Nat.mul_le_mul_left den (by omega)
    rw [Nat.mul_add] at this
    nlinarith
  have below : m ≤ q + 1 := by
    by_contra more
    have : den * (q + 2) ≤ den * m := Nat.mul_le_mul_left den (by omega)
    rw [Nat.mul_add] at this
    nlinarith
  obtain rfl | rfl : m = q ∨ m = q + 1 := by omega
  · have whole : 2 * m * den = 2 * (den * m) := by ring
    rw [whole] at low high tie
    rw [if_pos (by omega)]
  · have whole : 2 * (q + 1) * den = 2 * (den * q) + 2 * den := by ring
    rw [whole] at low high tie
    rw [if_neg (by omega)]

/-- The nearest integer is at most half away. -/
theorem roundQuotient_near (num : Nat) {den : Nat} (positive : 0 < den) :
    2 * num ≤ 2 * (roundQuotient num den * den) + den ∧
      2 * (roundQuotient num den * den) ≤ 2 * num + den := by
  have split : den * (num / den) + num % den = num := Nat.div_add_mod num den
  have small : num % den < den := Nat.mod_lt num positive
  unfold roundQuotient
  simp only
  generalize num / den = q at split ⊢
  generalize num % den = r at split small ⊢
  subst split
  have whole : q * den = den * q := Nat.mul_comm q den
  split
  · omega
  · have step : (q + 1) * den = den * q + den := by rw [Nat.succ_mul, whole]
    omega

/-- The nearest integer to a rational number, a tie going to the even one. -/
theorem roundQuotient_eq_of_near {num den m : Nat} (positive : 0 < den)
    (low : (m : ℚ) - 1 / 2 ≤ num / den) (high : (num / den : ℚ) ≤ m + 1 / 2)
    (tie : (num / den : ℚ) = m - 1 / 2 ∨ (num / den : ℚ) = m + 1 / 2 → m % 2 = 0) :
    roundQuotient num den = m := by
  have hden : (0 : ℚ) < den := Nat.cast_pos.2 positive
  rw [le_div_iff₀ hden] at low
  rw [div_le_iff₀ hden] at high
  rw [div_eq_iff hden.ne', div_eq_iff hden.ne'] at tie
  refine roundQuotient_eq positive ?_ ?_ fun even => tie ?_
  · have : (2 * m * den : ℚ) ≤ 2 * num + den := by linarith
    exact_mod_cast this
  · have : (2 * num : ℚ) ≤ 2 * m * den + den := by linarith
    exact_mod_cast this
  · refine even.imp (fun h => ?_) fun h => ?_
    · have : (2 * m * den : ℚ) = 2 * num + den := by exact_mod_cast h
      linarith
    · have : (2 * num : ℚ) = 2 * m * den + den := by exact_mod_cast h
      linarith

/-! ### The exponent -/

theorem leastMantissa_eq : (leastMantissa : ℚ) = 2 ^ (52 : ℤ) := by norm_num [leastMantissa]

/-- The powers of two around a quotient, as the bits of its parts tell them. -/
theorem bits_bounds {num den : Nat} (hnum : 0 < num) (hden : 0 < den) :
    (2 : ℚ) ^ ((num.log2 : ℤ) - den.log2 - 1) < num / den ∧
      (num / den : ℚ) < 2 ^ ((num.log2 : ℤ) - den.log2 + 1) := by
  have two : (2 : ℚ) ≠ 0 := two_ne_zero
  have bounds {n : Nat} (pos : 0 < n) :
      (2 : ℚ) ^ (n.log2 : ℤ) ≤ n ∧ (n : ℚ) < 2 ^ ((n.log2 : ℤ) + 1) := by
    constructor
    · exact_mod_cast Nat.log2_self_le (by omega)
    · exact_mod_cast Nat.lt_log2_self
  obtain ⟨lown, highn⟩ := bounds hnum
  obtain ⟨lowd, highd⟩ := bounds hden
  have positive : (0 : ℚ) < den := Nat.cast_pos.2 hden
  constructor
  · rw [lt_div_iff₀ positive]
    calc (2 : ℚ) ^ ((num.log2 : ℤ) - den.log2 - 1) * den
        < 2 ^ ((num.log2 : ℤ) - den.log2 - 1) * 2 ^ ((den.log2 : ℤ) + 1) :=
          mul_lt_mul_of_pos_left highd (by positivity)
      _ = 2 ^ (num.log2 : ℤ) := by rw [← zpow_add₀ two]; congr 1; omega
      _ ≤ num := lown
  · rw [div_lt_iff₀ positive]
    calc (num : ℚ) < 2 ^ ((num.log2 : ℤ) + 1) := highn
      _ = 2 ^ ((num.log2 : ℤ) - den.log2 + 1) * 2 ^ (den.log2 : ℤ) := by
          rw [← zpow_add₀ two]; congr 1; omega
      _ ≤ 2 ^ ((num.log2 : ℤ) - den.log2 + 1) * den :=
          mul_le_mul_of_nonneg_left lowd (by positivity)

/-- Comparing products of naturals is comparing a quotient with a multiple of a power. -/
theorem mul_scaled_lt_iff {base num den bound : Nat} (hbase : 0 < base) (hden : 0 < den) (e : Int) :
    num * (scaled base 1 (-e)).1 < bound * (den * (scaled base 1 (-e)).2) ↔
      (num / den : ℚ) < bound * (base : ℚ) ^ e := by
  have hd := scaled_den_pos hbase 1 (-e)
  have power := scaled_eq hbase 1 (-e)
  generalize (scaled base 1 (-e)).1 = n at power ⊢
  generalize (scaled base 1 (-e)).2 = d at hd power ⊢
  have hd' : (0 : ℚ) < d := Nat.cast_pos.2 hd
  have hden' : (0 : ℚ) < den := Nat.cast_pos.2 hden
  have hbase' : (0 : ℚ) < (base : ℚ) ^ e := zpow_pos (Nat.cast_pos.2 hbase) e
  rw [Nat.cast_one, one_mul, zpow_neg, div_eq_iff hd'.ne'] at power
  rw [← Nat.cast_lt (α := ℚ), div_lt_iff₀ hden']
  push_cast
  rw [power, ← mul_assoc, ← mul_assoc, mul_lt_mul_iff_left₀ hd', ← div_eq_mul_inv,
    div_lt_iff₀ hbase', mul_right_comm]

/-- The exponent is the least one at which the mantissa has at most 53 bits, or the least one that
there is. -/
theorem exponentFor_spec {num den : Nat} (hnum : 0 < num) (hden : 0 < den) :
    leastExponent ≤ exponentFor num den ∧
      (num / den : ℚ) < 2 ^ (exponentFor num den + 53) ∧
      (leastExponent < exponentFor num den →
        (2 : ℚ) ^ (exponentFor num den + 52) ≤ num / den) := by
  obtain ⟨low, high⟩ := bits_bounds hnum hden
  unfold exponentFor
  simp only
  generalize guessed : (num.log2 : ℤ) - den.log2 - 53 = guess
  have top : ((2 * leastMantissa : Nat) : ℚ) * ((2 : Nat) : ℚ) ^ guess = 2 ^ (guess + 53) := by
    rw [zpow_add₀ two_ne_zero, mul_comm]
    norm_num [leastMantissa]
  rw [show (num.log2 : ℤ) - den.log2 - 1 = guess + 52 by omega] at low
  rw [show (num.log2 : ℤ) - den.log2 + 1 = guess + 1 + 53 by omega] at high
  have widen {a b : Int} (le : a ≤ b) (lt : (num / den : ℚ) < 2 ^ (a + 53)) :
      (num / den : ℚ) < 2 ^ (b + 53) :=
    lt_of_lt_of_le lt (zpow_le_zpow_right₀ one_le_two (by omega))
  split
  case isTrue fits =>
    rw [mul_scaled_lt_iff two_pos hden, top] at fits
    refine ⟨le_max_right _ _, widen (le_max_left _ _) fits, fun above => ?_⟩
    rw [max_eq_left (by omega)]
    exact low.le
  case isFalse full =>
    rw [mul_scaled_lt_iff two_pos hden, top] at full
    refine ⟨le_max_right _ _, widen (le_max_left _ _) high, fun above => ?_⟩
    rw [max_eq_left (by omega), show guess + 1 + 52 = guess + 53 by omega]
    exact not_lt.1 full

/-! ### The nearest double -/

/-- The positive finite doubles: the mantissa has 53 bits, or fewer at the least exponent. -/
structure Fits (mantissa : Nat) (exponent : Int) : Prop where
  positive : 0 < mantissa
  small : mantissa < 2 * leastMantissa
  low : leastExponent ≤ exponent
  high : exponent ≤ 971
  normal : leastMantissa ≤ mantissa ∨ exponent = leastExponent

/-- The doubles: zeros, finite doubles of both signs, and what is no finite number. -/
def Valid : Double → Prop
  | .finite _ mantissa exponent => mantissa = 0 ∧ exponent = 0 ∨ Fits mantissa exponent
  | .infinite _ => True
  | .undefined => True

/-- A number that is nearest to a double, told in quarters of its last bit. -/
def Denotes (mantissa : Nat) (exponent : Int) (x : ℚ) : Prop :=
  let (low, high, closed) := interval mantissa exponent
  (low : ℚ) ≤ 4 * (x / 2 ^ exponent) ∧ 4 * (x / 2 ^ exponent) ≤ high ∧
    (closed = false → (low : ℚ) ≠ 4 * (x / 2 ^ exponent) ∧ 4 * (x / 2 ^ exponent) ≠ high)

variable {m : Nat} {e : Int} {x : ℚ}

theorem Fits.one_le (fits : Fits m e) : (1 : ℚ) ≤ m := by exact_mod_cast fits.positive

theorem Fits.add_one_le (fits : Fits m e) : (m : ℚ) + 1 ≤ 2 ^ (53 : ℤ) := by
  have small := fits.small
  rw [leastMantissa] at small
  norm_num
  exact_mod_cast small

/-- The range of the positive finite doubles. -/
theorem Fits.bounds (fits : Fits m e) :
    (2 : ℚ) ^ (-1074 : ℤ) ≤ m * 2 ^ e ∧ (m * 2 ^ e : ℚ) < 2 ^ (1024 : ℤ) := by
  have unit : (0 : ℚ) < 2 ^ e := zpow_pos two_pos e
  have most := fits.add_one_le
  constructor
  · calc (2 : ℚ) ^ (-1074 : ℤ) ≤ 2 ^ e := zpow_le_zpow_right₀ one_le_two fits.low
      _ ≤ m * 2 ^ e := le_mul_of_one_le_left unit.le fits.one_le
  · calc (m * 2 ^ e : ℚ) < 2 ^ (53 : ℤ) * 2 ^ e := mul_lt_mul_of_pos_right (by linarith) unit
      _ ≤ 2 ^ (53 : ℤ) * 2 ^ (971 : ℤ) :=
          mul_le_mul_of_nonneg_left (zpow_le_zpow_right₀ one_le_two fits.high) (by positivity)
      _ = 2 ^ (1024 : ℤ) := (zpow_add₀ two_ne_zero 53 971).symm

/-- A number that is nearest to a double lies at most half of the last bit from it, and exactly so
far only if the mantissa is even. At the least mantissa above the least exponent it lies at most a
quarter below. -/
theorem Denotes.spec (h : Denotes m e x) (positive : 0 < m) :
    (m : ℚ) - 1 / 2 ≤ x / 2 ^ e ∧ x / 2 ^ e ≤ m + 1 / 2 ∧
      (x / 2 ^ e = m - 1 / 2 ∨ x / 2 ^ e = m + 1 / 2 → m % 2 = 0) ∧
      (m = leastMantissa → leastExponent < e → (m : ℚ) - 1 / 4 ≤ x / 2 ^ e) := by
  unfold Denotes interval at h
  simp only at h
  obtain ⟨low, high, closed⟩ := h
  generalize x / 2 ^ e = u at low high closed ⊢
  push_cast at high closed
  have even (tie : u = m - 1 / 2 ∨ u = m + 1 / 2)
      (ends : (4 * m - 2 : ℚ) = 4 * u ∨ 4 * u = 4 * m + 2 → ¬ (m % 2 == 0) = false) :
      m % 2 = 0 := by
    have := ends (tie.imp (fun h => by rw [h]; ring) fun h => by rw [h]; ring)
    simpa using this
  by_cases special : m = leastMantissa ∧ leastExponent < e
  · rw [if_pos special, Nat.cast_sub (by omega)] at low closed
    push_cast at low closed
    refine ⟨by linarith, by linarith, fun tie => even tie ?_, fun _ _ => by linarith⟩
    rintro (h | h) odd
    · linarith
    · exact (closed odd).2 h
  · rw [if_neg special, Nat.cast_sub (by omega)] at low closed
    push_cast at low closed
    refine ⟨by linarith, by linarith, fun tie => even tie ?_, fun same above => ?_⟩
    · rintro (h | h) odd
      · exact (closed odd).1 h
      · exact (closed odd).2 h
    · exact absurd ⟨same, above⟩ special

/-- Zero is not nearest to a positive double. -/
theorem Denotes.pos {digits : Nat} (h : Denotes m e (digits * x)) (positive : 0 < m) :
    0 < digits := by
  obtain ⟨low, -⟩ := h.spec positive
  have one : (1 : ℚ) ≤ m := by exact_mod_cast positive
  rw [Nat.pos_iff_ne_zero]
  rintro rfl
  rw [Nat.cast_zero, zero_mul, zero_div] at low
  linarith

/-- A quotient that is scaled by a power. -/
theorem mul_scaled_div {base num den : Nat} (hbase : 0 < base) (e : Int) :
    ((num * (scaled base 1 e).1 : Nat) : ℚ) / (den * (scaled base 1 e).2 : Nat) =
      num / den * (base : ℚ) ^ e := by
  have power := scaled_eq hbase 1 e
  rw [Nat.cast_one, one_mul] at power
  rw [← power]
  push_cast
  rw [div_mul_div_comm]

/-- The exponent that is found for a number is that of the double, or, just below a power of two,
the one before it. -/
theorem exponentFor_of_near (fits : Fits m e) {num den : Nat} (hnum : 0 < num) (hden : 0 < den)
    (near : Denotes m e (num / den)) : exponentFor num den = e ∨
      exponentFor num den = e - 1 ∧ m = leastMantissa ∧ leastExponent < e ∧
        (num / den : ℚ) / 2 ^ e < leastMantissa := by
  obtain ⟨least, upper, lower⟩ := exponentFor_spec hnum hden
  obtain ⟨low, high, -, quarter⟩ := near.spec fits.positive
  generalize exponentFor num den = found at least upper lower ⊢
  have unit : (0 : ℚ) < 2 ^ e := zpow_pos two_pos e
  have below {k : ℤ} (le : found + 53 ≤ e + k) : (num / den : ℚ) / 2 ^ e < 2 ^ k := by
    rw [div_lt_iff₀ unit, mul_comm, ← zpow_add₀ two_ne_zero]
    exact lt_of_lt_of_le upper (zpow_le_zpow_right₀ one_le_two le)
  have most := fits.add_one_le
  rcases lt_trichotomy found e with lt | eq | gt
  · right
    have above : leastExponent < e := lt_of_le_of_lt least lt
    have full : leastMantissa ≤ m := fits.normal.resolve_right above.ne'
    have smaller := below (show found + 53 ≤ e + 52 by omega)
    have power : m = leastMantissa := by
      have : (m : ℚ) < 2 ^ (52 : ℤ) + 1 := by linarith
      rw [leastMantissa] at full ⊢
      norm_num at this
      have : m < 4503599627370496 + 1 := by exact_mod_cast this
      omega
    have near := quarter power above
    refine ⟨?_, power, above, by rwa [leastMantissa_eq]⟩
    by_contra other
    have smaller := below (show found + 53 ≤ e + 51 by omega)
    rw [power, leastMantissa] at near
    norm_num at near smaller
    linarith
  · exact .inl eq
  · exfalso
    have larger : (2 : ℚ) ^ (53 : ℤ) ≤ num / den / 2 ^ e := by
      rw [le_div_iff₀ unit, mul_comm, ← zpow_add₀ two_ne_zero]
      exact le_trans (zpow_le_zpow_right₀ one_le_two (by omega))
        (lower (lt_of_le_of_lt fits.low gt))
    linarith

/-- **A number is read as the double that it is nearest to.** -/
theorem ofQuotient_eq (fits : Fits m e) (negative : Bool) {num den : Nat} (hnum : 0 < num)
    (hden : 0 < den) (near : Denotes m e (num / den)) :
    ofQuotient negative num den = .finite negative m e := by
  obtain ⟨low, high, tie, quarter⟩ := near.spec fits.positive
  have unit : (0 : ℚ) < 2 ^ e := zpow_pos two_pos e
  have scaled_den (k : Int) : 0 < den * (scaled 2 1 k).2 :=
    Nat.mul_pos hden (scaled_den_pos two_pos 1 k)
  have small := fits.small
  have finite := fits.high
  unfold ofQuotient
  simp only
  rcases exponentFor_of_near fits hnum hden near with same | ⟨before, power, above, less⟩
  · have ratio : ((num * (scaled 2 1 (-e)).1 : Nat) : ℚ) / (den * (scaled 2 1 (-e)).2 : Nat) =
        num / den / 2 ^ e := by
      rw [mul_scaled_div two_pos, zpow_neg, div_eq_mul_inv _ ((2 : ℚ) ^ e)]
      norm_num
    have rounded : roundQuotient (num * (scaled 2 1 (-e)).1) (den * (scaled 2 1 (-e)).2) = m :=
      roundQuotient_eq_of_near (scaled_den _) (by rwa [ratio]) (by rwa [ratio]) (by rwa [ratio])
    rw [same, rounded, if_neg (show ¬ m = 2 * leastMantissa by omega), if_neg (by omega)]
  · have ratio : ((num * (scaled 2 1 (-(e - 1))).1 : Nat) : ℚ) /
        (den * (scaled 2 1 (-(e - 1))).2 : Nat) = 2 * (num / den / 2 ^ e) := by
      rw [mul_scaled_div two_pos, neg_sub, sub_eq_add_neg, Nat.cast_ofNat,
        zpow_add₀ two_ne_zero, zpow_neg]
      field_simp
    have near := quarter power above
    have rounded : roundQuotient (num * (scaled 2 1 (-(e - 1))).1)
        (den * (scaled 2 1 (-(e - 1))).2) = 2 * leastMantissa := by
      rw [power] at near
      refine roundQuotient_eq_of_near (scaled_den _) ?_ ?_ fun _ => rfl
      · rw [ratio]
        push_cast
        linarith
      · rw [ratio]
        push_cast
        linarith
    rw [before, rounded, if_pos rfl]
    simp only
    rw [if_neg (by omega), power, sub_add_cancel]

/-! ### Decimal numerals -/

/-- The powers of ten around a number, as the length of its numeral tells them. -/
theorem length_ofNat_bounds {n : Nat} (positive : 0 < n) :
    (10 : ℚ) ^ ((Text.ofNat n).length - 1 : ℤ) ≤ n ∧
      (n : ℚ) < 10 ^ ((Text.ofNat n).length : ℤ) := by
  have filled : 0 < (Text.ofNat n).length := List.length_pos_of_ne_nil Nat.toDigits_ne_nil
  have fits {k : Nat} (hk : 0 < k) : (Text.ofNat n).length ≤ k ↔ n < 10 ^ k :=
    Nat.length_toDigits_le_iff (by decide) hk
  obtain ⟨k, length⟩ : ∃ k, (Text.ofNat n).length = k + 1 :=
    ⟨(Text.ofNat n).length - 1, by omega⟩
  rw [length] at fits ⊢
  constructor
  · have low : 10 ^ k ≤ n := by
      cases k with
      | zero => exact positive
      | succ k => exact not_lt.1 ((fits k.succ_pos).not.1 (by omega))
    push_cast
    rw [add_sub_cancel_right, zpow_natCast]
    exact_mod_cast low
  · have high := (fits k.succ_pos).1 (Nat.le_refl _)
    exact_mod_cast high

/-- Powers of ten and of two, by fractions near to the logarithm of two. -/
theorem ten_pow_le_two_pow {a b : Nat} (h : 103 * b ≤ 31 * a) : 10 ^ b ≤ 2 ^ a := by
  rw [← Nat.pow_le_pow_iff_left (show 31 ≠ 0 by decide)]
  calc (10 ^ b) ^ 31 = (10 ^ 31) ^ b := Nat.pow_right_comm 10 b 31
    _ ≤ (2 ^ 103) ^ b := Nat.pow_le_pow_left (by decide) b
    _ = 2 ^ (103 * b) := (Nat.pow_mul 2 103 b).symm
    _ ≤ 2 ^ (a * 31) := Nat.pow_le_pow_right (by decide) (by omega)
    _ = (2 ^ a) ^ 31 := Nat.pow_mul 2 a 31

theorem two_pow_le_ten_pow {a b : Nat} (h : 28 * a ≤ 93 * b) : 2 ^ a ≤ 10 ^ b := by
  rw [← Nat.pow_le_pow_iff_left (show 28 ≠ 0 by decide)]
  calc (2 ^ a) ^ 28 = 2 ^ (a * 28) := (Nat.pow_mul 2 a 28).symm
    _ ≤ 2 ^ (93 * b) := Nat.pow_le_pow_right (by decide) (by omega)
    _ = (2 ^ 93) ^ b := Nat.pow_mul 2 93 b
    _ ≤ (10 ^ 28) ^ b := Nat.pow_le_pow_left (by decide) b
    _ = (10 ^ b) ^ 28 := Nat.pow_right_comm 10 28 b

theorem ten_zpow_le_two_zpow {a b : Int} (h : 103 * b ≤ 31 * a) (h' : 93 * b ≤ 28 * a) :
    (10 : ℚ) ^ b ≤ 2 ^ a := by
  rcases le_or_gt 0 a with up | down
  · rcases le_or_gt b 0 with below | above
    · exact (zpow_le_one_of_nonpos₀ (by norm_num) below).trans (one_le_zpow₀ one_le_two up)
    · obtain ⟨a, rfl⟩ := Int.eq_ofNat_of_zero_le up
      obtain ⟨b, rfl⟩ := Int.eq_ofNat_of_zero_le above.le
      exact_mod_cast ten_pow_le_two_pow (a := a) (b := b) (by omega)
  · obtain ⟨a, rfl⟩ : ∃ n : Nat, a = -n := ⟨(-a).toNat, by omega⟩
    obtain ⟨b, rfl⟩ : ∃ n : Nat, b = -n := ⟨(-b).toNat, by omega⟩
    rw [zpow_neg, zpow_neg, zpow_natCast, zpow_natCast]
    refine inv_anti₀ (by positivity) ?_
    exact_mod_cast two_pow_le_ten_pow (a := a) (b := b) (by omega)

/-- **A decimal numeral is read as the double that it is nearest to.** -/
theorem nearest_eq (fits : Fits m e) (negative : Bool) {digits : Nat} {exponent : Int}
    (near : Denotes m e (digits * (10 : ℚ) ^ exponent)) :
    nearest negative digits exponent = .finite negative m e := by
  obtain ⟨low, high, -⟩ := near.spec fits.positive
  obtain ⟨least, most⟩ := fits.bounds
  have one := fits.one_le
  have positive := near.pos fits.positive
  obtain ⟨longer, shorter⟩ := length_ofNat_bounds positive
  have ten : (10 : ℚ) ≠ 0 := by norm_num
  have power : (0 : ℚ) < 10 ^ exponent := zpow_pos (by norm_num) _
  have unit : (0 : ℚ) < 2 ^ e := zpow_pos two_pos e
  have not_large : ¬ 400 < ((Text.ofNat digits).length : ℤ) + exponent := by
    intro large
    have below : (digits : ℚ) * 10 ^ exponent ≤ 2 ^ (1025 : ℤ) := by
      rw [div_le_iff₀ unit] at high
      calc (digits : ℚ) * 10 ^ exponent ≤ (m + 1 / 2) * 2 ^ e := high
        _ ≤ 2 * m * 2 ^ e := mul_le_mul_of_nonneg_right (by linarith) unit.le
        _ ≤ 2 ^ (1 : ℤ) * 2 ^ (1024 : ℤ) := by
            rw [mul_assoc, zpow_one]
            exact mul_le_mul_of_nonneg_left most.le two_pos.le
        _ = 2 ^ (1025 : ℤ) := (zpow_add₀ two_ne_zero 1 1024).symm
    have above : (10 : ℚ) ^ (400 : ℤ) ≤ digits * 10 ^ exponent := by
      calc (10 : ℚ) ^ (400 : ℤ) ≤ 10 ^ ((Text.ofNat digits).length - 1 + exponent : ℤ) :=
            zpow_le_zpow_right₀ (by norm_num) (by omega)
        _ = 10 ^ ((Text.ofNat digits).length - 1 : ℤ) * 10 ^ exponent := zpow_add₀ ten _ _
        _ ≤ digits * 10 ^ exponent := mul_le_mul_of_nonneg_right longer power.le
    have apart : (2 : ℚ) ^ (1025 : ℤ) < 10 ^ (400 : ℤ) := by
      calc (2 : ℚ) ^ (1025 : ℤ) ≤ 10 ^ (342 : ℤ) := by
            exact_mod_cast two_pow_le_ten_pow (show 28 * 1025 ≤ 93 * 342 by decide)
        _ < 10 ^ (400 : ℤ) := zpow_lt_zpow_right₀ (by norm_num) (by decide)
    exact absurd (above.trans below) (not_le.2 apart)
  have not_small : ¬ ((Text.ofNat digits).length : ℤ) + exponent < -400 := by
    intro small
    have above : (2 : ℚ) ^ (-1075 : ℤ) ≤ digits * 10 ^ exponent := by
      rw [le_div_iff₀ unit] at low
      calc (2 : ℚ) ^ (-1075 : ℤ) = 2 ^ (-1 : ℤ) * 2 ^ (-1074 : ℤ) :=
            zpow_add₀ two_ne_zero (-1) (-1074)
        _ ≤ 2 ^ (-1 : ℤ) * (m * 2 ^ e) := mul_le_mul_of_nonneg_left least (by positivity)
        _ = m / 2 * 2 ^ e := by rw [zpow_neg_one]; ring
        _ ≤ (m - 1 / 2) * 2 ^ e := mul_le_mul_of_nonneg_right (by linarith) unit.le
        _ ≤ digits * 10 ^ exponent := low
    have below : (digits : ℚ) * 10 ^ exponent < 10 ^ (-400 : ℤ) := by
      calc (digits : ℚ) * 10 ^ exponent
          < 10 ^ ((Text.ofNat digits).length : ℤ) * 10 ^ exponent :=
            mul_lt_mul_of_pos_right shorter power
        _ = 10 ^ ((Text.ofNat digits).length + exponent : ℤ) := (zpow_add₀ ten _ _).symm
        _ ≤ 10 ^ (-400 : ℤ) := zpow_le_zpow_right₀ (by norm_num) (by omega)
    have apart : (10 : ℚ) ^ (-400 : ℤ) ≤ 2 ^ (-1075 : ℤ) := by
      rw [zpow_neg, zpow_neg]
      refine inv_anti₀ (by positivity) ?_
      exact_mod_cast two_pow_le_ten_pow (show 28 * 1075 ≤ 93 * 400 by decide)
    exact absurd (apart.trans above) (not_le.2 below)
  unfold nearest
  rw [if_neg (by omega)]
  simp only
  rw [if_neg not_large, if_neg not_small]
  have quotient := scaled_eq (show 0 < 10 by decide) digits exponent
  have hden := scaled_den_pos (show 0 < 10 by decide) digits exponent
  have hnum := scaled_num_pos (show 0 < 10 by decide) positive exponent
  refine ofQuotient_eq fits negative hnum hden ?_
  rw [quotient]
  exact_mod_cast near

end SolutionSweep.Double
