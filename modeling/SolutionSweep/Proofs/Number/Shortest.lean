import SolutionSweep.Proofs.Number.Rounding
import SolutionSweep.Proofs.Text.Basic
import SolutionSweep.Proofs.Text.Padded

/-!
# The shortest numeral of a double

The numerals with more and more digits are tried until one is nearest to the double. With seventeen
digits there always is one, since their last digit counts less than the last bit.

* `Double.withDigits?_cases`: what is found with some number of digits;
* `Double.withDigits?_seventeen`: seventeen digits are enough;
* `Double.pointPlace_le`: the place of the decimal point;
* `Double.shortest_spec`: the shortest numeral denotes the double.
-/

namespace SolutionSweep.Double

variable {m : Nat} {e : Int}

/-! ### The numeral with a given number of digits -/

/-- A multiple of a power of ten, in quarters of the last bit of a double. -/
theorem quarters_eq (unit e : Int) :
    (((scaled 10 1 unit).1 * (scaled 2 4 (-e)).1 : Nat) : ℚ) /
      ((scaled 10 1 unit).2 * (scaled 2 4 (-e)).2 : Nat) = 4 * (10 ^ unit / 2 ^ e) := by
  have ten := scaled_eq (show 0 < 10 by decide) 1 unit
  have two := scaled_eq (show 0 < 2 by decide) 4 (-e)
  push_cast at ten two ⊢
  rw [← div_mul_div_comm, ten, two, zpow_neg]
  field_simp

/-- The bounds that a numeral is held against are those of the double. -/
theorem denotes_iff {n d : Nat} {unit : Int} (positive : 0 < d)
    (ratio : (n : ℚ) / d = 4 * (10 ^ unit / 2 ^ e)) (k : Nat) :
    (if (interval m e).2.2 then (interval m e).1 * d ≤ k * n && k * n ≤ (interval m e).2.1 * d
      else (interval m e).1 * d < k * n && k * n < (interval m e).2.1 * d) = true ↔
      Denotes m e (k * (10 : ℚ) ^ unit) := by
  rw [Denotes]
  obtain ⟨low, high, closed⟩ := interval m e
  have hd : (0 : ℚ) < d := Nat.cast_pos.2 positive
  have value : 4 * (k * (10 : ℚ) ^ unit / 2 ^ e) = (k * n : Nat) / d := by
    push_cast
    rw [mul_div_assoc (k : ℚ) n d, ratio]
    ring
  have le_low : (low : ℚ) ≤ (k * n : Nat) / d ↔ low * d ≤ k * n := by
    rw [le_div_iff₀ hd]
    exact_mod_cast Iff.rfl
  have high_le : ((k * n : Nat) : ℚ) / d ≤ high ↔ k * n ≤ high * d := by
    rw [div_le_iff₀ hd]
    exact_mod_cast Iff.rfl
  have low_eq : (low : ℚ) = (k * n : Nat) / d ↔ low * d = k * n := by
    rw [eq_div_iff hd.ne']
    exact_mod_cast Iff.rfl
  have eq_high : ((k * n : Nat) : ℚ) / d = high ↔ k * n = high * d := by
    rw [div_eq_iff hd.ne']
    exact_mod_cast Iff.rfl
  simp only [value]
  rw [le_low, high_le, ne_eq, ne_eq, low_eq, eq_high]
  cases closed
  · simp
    omega
  · simp

/-- The nearer numeral is tried before the one on the other side. -/
theorem withDigits?_cases (m : Nat) (e place : Int) (count : Nat) :
    ∃ n d other : Nat, 0 < n ∧ 0 < d ∧ (n : ℚ) / d = 4 * (10 ^ (place - count) / 2 ^ e) ∧
      ((Denotes m e (roundQuotient (4 * m * d) n * (10 : ℚ) ^ (place - count)) ∧
          withDigits? m e place count = some (roundQuotient (4 * m * d) n, place - count)) ∨
        (¬ Denotes m e (roundQuotient (4 * m * d) n * (10 : ℚ) ^ (place - count)) ∧
          ((Denotes m e (other * (10 : ℚ) ^ (place - count)) ∧
              withDigits? m e place count = some (other, place - count)) ∨
            withDigits? m e place count = none))) := by
  have ratio := quarters_eq (place - count) e
  have positive := Nat.mul_pos (scaled_den_pos (show 0 < 10 by decide) 1 (place - count))
    (scaled_den_pos (show 0 < 2 by decide) 4 (-e))
  have eq : withDigits? m e place count =
      let n := (scaled 10 1 (place - count)).1 * (scaled 2 4 (-e)).1
      let d := (scaled 10 1 (place - count)).2 * (scaled 2 4 (-e)).2
      let denotes (k : Nat) : Bool :=
        if (interval m e).2.2 then (interval m e).1 * d ≤ k * n && k * n ≤ (interval m e).2.1 * d
        else (interval m e).1 * d < k * n && k * n < (interval m e).2.1 * d
      let nearer := roundQuotient (4 * m * d) n
      let other := if nearer = 4 * m * d / n then 4 * m * d / n + 1 else 4 * m * d / n
      if denotes nearer then some (nearer, place - count)
      else if denotes other then some (other, place - count) else none := rfl
  generalize (scaled 10 1 (place - count)).1 * (scaled 2 4 (-e)).1 = n at ratio eq
  generalize (scaled 10 1 (place - count)).2 * (scaled 2 4 (-e)).2 = d at ratio positive eq
  have filled : 0 < n := by
    have : (0 : ℚ) < n / d := by rw [ratio]; positivity
    by_contra zero
    obtain rfl : n = 0 := by omega
    simp at this
  have denotes := denotes_iff (m := m) positive ratio
  simp only at eq
  rw [eq]
  generalize (if roundQuotient (4 * m * d) n = 4 * m * d / n then 4 * m * d / n + 1
    else 4 * m * d / n) = other
  refine ⟨n, d, other, filled, positive, ratio, ?_⟩
  by_cases near : Denotes m e (roundQuotient (4 * m * d) n * (10 : ℚ) ^ (place - count))
  · exact .inl ⟨near, if_pos ((denotes _).2 near)⟩
  · rw [if_neg (mt (denotes _).1 near)]
    by_cases far : Denotes m e (other * (10 : ℚ) ^ (place - count))
    · exact .inr ⟨near, .inl ⟨far, if_pos ((denotes _).2 far)⟩⟩
    · exact .inr ⟨near, .inr (if_neg (mt (denotes _).1 far))⟩

/-- What is found denotes the double. -/
theorem withDigits?_spec {place unit : Int} {count k : Nat}
    (found : withDigits? m e place count = some (k, unit)) :
    Denotes m e (k * (10 : ℚ) ^ unit) := by
  obtain ⟨n, d, other, -, -, -, ⟨near, eq⟩ | ⟨-, ⟨near, eq⟩ | eq⟩⟩ :=
    withDigits?_cases m e place count
  · rw [eq] at found
    obtain ⟨rfl, rfl⟩ := Prod.mk.inj (Option.some.inj found)
    exact near
  · rw [eq] at found
    obtain ⟨rfl, rfl⟩ := Prod.mk.inj (Option.some.inj found)
    exact near
  · rw [eq] at found
    cases found

/-- A number that is less than half of the last bit from a double denotes it; below the least
mantissa it has to be less than a quarter. -/
theorem denotes_of_close {x : ℚ} (positive : 0 < m) (low : (m : ℚ) - 1 / 2 < x / 2 ^ e)
    (high : x / 2 ^ e < m + 1 / 2) (quarter : m = leastMantissa → (m : ℚ) - 1 / 4 < x / 2 ^ e) :
    Denotes m e x := by
  unfold Denotes interval
  simp only
  by_cases special : m = leastMantissa ∧ leastExponent < e
  · have := quarter special.1
    rw [if_pos special, Nat.cast_sub (by omega)]
    push_cast
    exact ⟨by linarith, by linarith, fun _ => ⟨by linarith, by linarith⟩⟩
  · rw [if_neg special, Nat.cast_sub (by omega)]
    push_cast
    exact ⟨by linarith, by linarith, fun _ => ⟨by linarith, by linarith⟩⟩

/-- Seventeen digits are enough. -/
theorem withDigits?_seventeen (fits : Fits m e) {place : Int}
    (low : (10 : ℚ) ^ (place - 1) ≤ m * 2 ^ e) : withDigits? m e place 17 ≠ none := by
  obtain ⟨n, d, other, hn, hd, ratio, ⟨-, eq⟩ | ⟨far, -⟩⟩ := withDigits?_cases m e place 17
  · rw [eq]
    exact Option.some_ne_none _
  refine absurd ?_ far
  obtain ⟨below, above⟩ := roundQuotient_near (4 * m * d) hn
  generalize roundQuotient (4 * m * d) n = k at below above ⊢
  have unit : (0 : ℚ) < 2 ^ e := zpow_pos two_pos e
  have hd : (0 : ℚ) < d := Nat.cast_pos.2 hd
  -- a step of the last digit, in units of the last bit
  have step : (10 : ℚ) ^ (place - (17 : Nat)) / 2 ^ e ≤ m / 10 ^ 16 := by
    have parts : (10 : ℚ) ^ (place - (17 : Nat)) = 10 ^ (place - 1) / 10 ^ 16 := by
      rw [show place - (17 : Nat) = place - 1 - (16 : Nat) by push_cast; ring,
        zpow_sub₀ (by norm_num), zpow_natCast]
    rw [parts, div_le_iff₀ unit, div_mul_eq_mul_div, div_le_div_iff_of_pos_right (by positivity)]
    exact low
  rw [div_eq_iff hd.ne'] at ratio
  generalize parts : (10 : ℚ) ^ (place - (17 : Nat)) / 2 ^ e = s at ratio step
  have lower : (m : ℚ) - s / 2 ≤ k * s := by
    have : (2 * (4 * m * d) : ℚ) ≤ 2 * (k * n) + n := by exact_mod_cast below
    rw [ratio] at this
    refine le_of_mul_le_mul_right ?_ hd
    linarith
  have upper : k * s ≤ m + s / 2 := by
    have : (2 * (k * n) : ℚ) ≤ 2 * (4 * m * d) + n := by exact_mod_cast above
    rw [ratio] at this
    refine le_of_mul_le_mul_right ?_ hd
    linarith
  have bit : s < 1 := by
    have most := fits.add_one_le
    norm_num at most
    linarith
  refine denotes_of_close fits.positive ?_ ?_ fun least => ?_
  · rw [mul_div_assoc, parts]
    linarith
  · rw [mul_div_assoc, parts]
    linarith
  · rw [mul_div_assoc, parts]
    rw [least, leastMantissa] at step lower ⊢
    push_cast at step lower ⊢
    linarith

/-! ### The place of the decimal point -/

/-- A quotient with bounded bits is not below a tenth of the power of ten that its place is for. -/
theorem pointPlace_le {num den : Nat} (hnum : 0 < num) (hden : 0 < den)
    (low : -1100 ≤ (num.log2 : ℤ) - den.log2) (high : (num.log2 : ℤ) - den.log2 ≤ 1100) :
    (10 : ℚ) ^ (pointPlace num den - 1) ≤ num / den := by
  have reaches (p : Int) : (scaled 10 1 p).1 * den ≤ num * (scaled 10 1 p).2 ↔
      (10 : ℚ) ^ p ≤ num / den := by
    have power := scaled_eq (show 0 < 10 by decide) 1 p
    have hd : (0 : ℚ) < (scaled 10 1 p).2 := Nat.cast_pos.2 (scaled_den_pos (by decide) 1 p)
    rw [Nat.cast_one, one_mul, Nat.cast_ofNat] at power
    rw [← power, div_le_div_iff₀ hd (Nat.cast_pos.2 hden)]
    exact_mod_cast Iff.rfl
  obtain ⟨above, -⟩ := bits_bounds hnum hden
  unfold pointPlace
  simp only [decide_eq_true_eq, reaches]
  generalize guessed : (((num.log2 : ℤ) - den.log2) * 30103).fdiv 100000 = guess
  split
  case isTrue le =>
    rwa [show guess + 2 - 1 = guess + 1 by omega]
  split
  case isTrue le =>
    rwa [show guess + 1 - 1 = guess by omega]
  case isFalse =>
    rw [Int.fdiv_eq_ediv_of_nonneg _ (by decide)] at guessed
    exact (ten_zpow_le_two_zpow (by omega) (by omega)).trans above.le

/-- The double is not below a tenth of the power of ten that its place is for. -/
theorem Fits.pointPlace_le (fits : Fits m e) :
    (10 : ℚ) ^ (pointPlace (scaled 2 m e).1 (scaled 2 m e).2 - 1) ≤ m * 2 ^ e := by
  have value := scaled_eq two_pos m e
  have hden := scaled_den_pos two_pos m e
  have hnum := scaled_num_pos two_pos fits.positive e
  obtain ⟨above, below⟩ := bits_bounds hnum hden
  obtain ⟨least, most⟩ := fits.bounds
  rw [Nat.cast_ofNat] at value
  rw [value] at above below
  rw [← value]
  have low := (zpow_lt_zpow_iff_right₀ one_lt_two).1 (least.trans_lt below)
  have high := (zpow_lt_zpow_iff_right₀ one_lt_two).1 (above.trans most)
  exact Double.pointPlace_le hnum hden (by omega) (by omega)

/-! ### The shortest numeral -/

/-- Without its last zeros, a numeral counts a greater power of ten. -/
theorem exists_trimEnd_zeros {digits : Text} (significant : IsSignificant digits) :
    ∃ k, IsSignificant (Text.trimEnd (· == '0') digits) ∧
      digits = Text.trimEnd (· == '0') digits ++ List.replicate k '0' := by
  obtain ⟨back, parts, zeros⟩ := Text.exists_trimEnd_append (· == '0') digits
  have back_eq : back = List.replicate back.length '0' :=
    List.eq_replicate_iff.2 ⟨rfl, fun c mem => by simpa using zeros c mem⟩
  rw [back_eq] at parts
  refine ⟨back.length, ?_, parts⟩
  generalize Text.trimEnd (· == '0') digits = left at parts ⊢
  subst parts
  refine significant.of_append ?_
  rintro rfl
  have first := significant.first
  have some_digit := significant.filled
  cases length : back.length with
  | zero => simp [length] at some_digit
  | succ n => simp [length, List.replicate_succ] at first

/-- **The shortest numeral denotes the double.** -/
theorem shortest_spec (fits : Fits m e) : IsSignificant (shortest m e).1 ∧
    Denotes m e (digitsValue (shortest m e).1 *
      (10 : ℚ) ^ ((shortest m e).2 - (shortest m e).1.length)) := by
  have enough := withDigits?_seventeen fits fits.pointPlace_le
  unfold shortest
  simp only
  generalize pointPlace (scaled 2 m e).1 (scaled 2 m e).2 = place at enough ⊢
  cases found : (List.range' 1 17).findSome? (withDigits? m e place) with
  | none =>
    exact absurd (List.findSome?_eq_none_iff.1 found 17 (by decide)) enough
  | some r =>
    obtain ⟨k, unit⟩ := r
    obtain ⟨count, -, tried⟩ := List.exists_of_findSome?_eq_some found
    have near := withDigits?_spec tried
    have positive : 0 < k := near.pos fits.positive
    obtain ⟨j, significant, parts⟩ := exists_trimEnd_zeros (isSignificant_ofNat positive)
    simp only
    have value := digitsValue_ofNat k
    generalize Text.trimEnd (· == '0') (Text.ofNat k) = digits at significant parts ⊢
    rw [parts] at value ⊢
    rw [digitsValue_append_zeros] at value
    replace value : digitsValue digits * 10 ^ j = k := value
    refine ⟨significant, ?_⟩
    have power : unit + ((digits ++ List.replicate j '0').length : Int) - digits.length =
        unit + j := by
      rw [List.length_append, List.length_replicate]
      omega
    have same : (digitsValue digits : ℚ) * 10 ^ (unit + j : Int) = k * 10 ^ unit := by
      rw [← value, zpow_add₀ (by norm_num), zpow_natCast]
      push_cast
      ring
    rwa [power, same]

example : shortest 7205759403792794 (-56) = (['1'], 0) := by decide

end SolutionSweep.Double
