import SolutionSweep.Text.Numeral
import Mathlib.Data.List.Basic

/-!
# Laws of numerals

Writing a number and reading it again gives the number back, and a smaller number than the one that
some digits denote is not written with more digits.

* `isWhite_eq_false_of_isDigit`, `isAsciiLetter_eq_false_of_isDigit`: digits are neither white
  space nor letters;
* `digitsValue_ofNat`: a written number denotes itself;
* `length_ofNat_le`: how long a written number is;
* `readNumeral_eq_ok_iff`: which digits are read, and as what.
-/

namespace SolutionSweep

/-- The value of a digit has one digit. -/
theorem digitValue?_le {c : Char} {n : Nat} (h : digitValue? c = some n) : n ≤ 9 := by
  unfold digitValue? at h
  split at h
  · split at h
    · cases h
      omega
    · cases h
  · obtain ⟨z, found, rfl⟩ := Option.map_eq_some_iff.1 h
    have := List.find?_some found
    simp only [Bool.and_eq_true, decide_eq_true_eq] at this
    omega

theorem digitValue?_of_isDigit {c : Char} (h : c.isDigit = true) :
    digitValue? c = some (c.toNat - '0'.toNat) := by
  simp only [Char.isDigit, Bool.and_eq_true, decide_eq_true_eq, ge_iff_le, UInt32.le_iff_toNat_le]
    at h
  have low : 0x30 ≤ c.toNat := h.1
  have high : c.toNat ≤ 0x39 := h.2
  unfold digitValue?
  rw [if_pos (by omega), if_pos ⟨low, high⟩]
  rfl

/-- No digit is white space. -/
theorem isWhite_eq_false_of_isDigit {c : Char} (h : isDigit c = true) : isWhite c = false := by
  by_contra white
  have white : isWhite c = true := by simpa using white
  have value : digitValue? c = none := by
    unfold isWhite at white
    unfold digitValue?
    simp only [Bool.or_eq_true, Bool.and_eq_true, decide_eq_true_eq, beq_iff_eq] at white
    generalize c.toNat = n at white
    split
    · exact if_neg (by omega)
    · rw [Option.map_eq_none_iff, List.find?_eq_none]
      have : n = 0x85 ∨ n = 0xa0 ∨ n = 0x1680 ∨ (0x2000 ≤ n ∧ n ≤ 0x200a) ∨ n = 0x2028 ∨
        n = 0x2029 ∨ n = 0x202f ∨ n = 0x205f ∨ n = 0x3000 := by omega
      -- No run of ten digits meets the code point of a white character.
      have far : ∀ z ∈ digitZeros, z + 9 < 0x85 ∨ (0xa0 < z ∧ z + 9 < 0x1680) ∨
        (0x1680 < z ∧ z + 9 < 0x2000) ∨ 0x3000 < z := by decide
      intro z hz
      have := far z hz
      simp only [Bool.and_eq_true, decide_eq_true_eq]
      omega
  rw [isDigit, value] at h
  cases h

/-- The code points of the letters of the Latin alphabet. -/
theorem range_of_isAsciiLetter {c : Char} (h : isAsciiLetter c = true) :
    (0x41 ≤ c.toNat ∧ c.toNat ≤ 0x5a) ∨ (0x61 ≤ c.toNat ∧ c.toNat ≤ 0x7a) := by
  have h : (decide (0x41 ≤ c.val ∧ c.val ≤ 0x5a) ||
      decide (0x61 ≤ c.val) && decide (c.val ≤ 0x7a)) = true := h
  simp only [Bool.or_eq_true, Bool.and_eq_true, decide_eq_true_eq, UInt32.le_iff_toNat_le] at h
  exact h

/-- No letter of the Latin alphabet is white space. -/
theorem isWhite_eq_false_of_isAsciiLetter {c : Char} (h : isAsciiLetter c = true) :
    isWhite c = false := by
  have range := range_of_isAsciiLetter h
  by_contra white
  have white : isWhite c = true := by simpa using white
  unfold isWhite at white
  simp only [Bool.or_eq_true, Bool.and_eq_true, decide_eq_true_eq, beq_iff_eq] at white
  omega

/-- No digit is a letter of the Latin alphabet. -/
theorem isAsciiLetter_eq_false_of_isDigit {c : Char} (h : isDigit c = true) :
    isAsciiLetter c = false := by
  by_contra letter
  have range := range_of_isAsciiLetter (by simpa using letter)
  have value : digitValue? c = none := by
    unfold digitValue?
    rw [if_pos (by omega), if_neg (by omega)]
  rw [isDigit, value] at h
  cases h

/-! ### Written numbers -/

theorem isDigit_of_mem_ofNat {n : Nat} {c : Char} (h : c ∈ Text.ofNat n) : c.isDigit = true :=
  Nat.isDigit_of_mem_toDigits (by decide) (by decide) h

theorem isDigit_of_mem_ofNat' {n : Nat} {c : Char} (h : c ∈ Text.ofNat n) : isDigit c = true := by
  rw [isDigit, digitValue?_of_isDigit (isDigit_of_mem_ofNat h)]
  rfl

theorem ofNat_ne_nil (n : Nat) : Text.ofNat n ≠ [] := Nat.toDigits_ne_nil

/-- A written number denotes itself. -/
@[simp] theorem digitsValue_ofNat (n : Nat) : digitsValue (Text.ofNat n) = n := by
  have same : ∀ (t : Text) (init : Nat), (∀ c ∈ t, c.isDigit = true) →
      t.foldl (fun n c => 10 * n + (digitValue? c).getD 0) init = Nat.ofDigitChars 10 t init := by
    intro t
    induction t with
    | nil => intro init _; rfl
    | cons c rest ih =>
      intro init digits
      rw [List.foldl_cons, Nat.ofDigitChars_cons,
        digitValue?_of_isDigit (digits c List.mem_cons_self)]
      exact ih _ fun d hd => digits d (List.mem_cons_of_mem c hd)
  rw [digitsValue, same _ _ fun c => isDigit_of_mem_ofNat]
  exact Nat.ofDigitChars_ten_toDigits

/-- A numeral has no leading zero. -/
theorem head?_ofNat_ne {n : Nat} (pos : 0 < n) : (Text.ofNat n).head? ≠ some '0' := by
  induction n using Nat.strongRecOn with
  | ind n ih =>
    rw [Text.ofNat, Nat.toDigits_eq_if (by decide)]
    split
    case isTrue small =>
      have digits : ∀ d < 10, 0 < d → [Nat.digitChar d].head? ≠ some '0' := by decide
      exact digits n small pos
    case isFalse large =>
      obtain ⟨c, cs, parts⟩ := List.exists_cons_of_ne_nil (ofNat_ne_nil (n / 10))
      have front := ih (n / 10) (by omega) (by omega)
      rw [parts] at front
      rw [show Nat.toDigits 10 (n / 10) = c :: cs from parts]
      exact front

/-- Digits without a zero in front. -/
structure IsSignificant (digits : Text) : Prop where
  filled : digits ≠ []
  all : ∀ c ∈ digits, c.isDigit = true
  first : digits.head? ≠ some '0'

/-- The first digits of some without a zero in front. -/
theorem IsSignificant.of_append {x y : Text} (h : IsSignificant (x ++ y)) (filled : x ≠ []) :
    IsSignificant x := by
  obtain ⟨c, rest, rfl⟩ := List.exists_cons_of_ne_nil filled
  exact ⟨filled, fun d mem => h.all d (List.mem_append_left _ mem), h.first⟩

/-- Digits without a zero in front, and zeros behind them. -/
theorem IsSignificant.append_zeros {x : Text} (h : IsSignificant x) (k : Nat) :
    IsSignificant (x ++ List.replicate k '0') := by
  obtain ⟨c, rest, rfl⟩ := List.exists_cons_of_ne_nil h.filled
  refine ⟨List.cons_ne_nil _ _, fun d mem => ?_, h.first⟩
  rcases List.mem_append.1 mem with mem | mem
  · exact h.all d mem
  · rw [List.eq_of_mem_replicate mem]
    rfl

theorem isSignificant_ofNat {n : Nat} (pos : 0 < n) : IsSignificant (Text.ofNat n) :=
  ⟨ofNat_ne_nil n, fun _ => isDigit_of_mem_ofNat, head?_ofNat_ne pos⟩

theorem digitsValue_lt (digits : Text) : digitsValue digits < Nat.pow 10 digits.length := by
  have bound : ∀ (t : Text) (init : Nat),
      t.foldl (fun n c => 10 * n + (digitValue? c).getD 0) init <
        Nat.pow 10 t.length * (init + 1) := by
    intro t
    induction t with
    | nil => intro init; simp
    | cons c rest ih =>
      intro init
      have digit : (digitValue? c).getD 0 ≤ 9 := by
        cases h : digitValue? c with
        | none => simp
        | some n => simpa using digitValue?_le h
      rw [List.foldl_cons]
      refine Nat.lt_of_lt_of_le (ih _) ?_
      have : Nat.pow 10 (c :: rest).length = Nat.pow 10 rest.length * 10 := rfl
      rw [this, Nat.mul_assoc]
      exact Nat.mul_le_mul_left _ (by omega)
  simpa [digitsValue] using bound digits 0

/-- A smaller number than the one that some digits denote is not written with more digits. -/
theorem length_ofNat_le {digits : Text} {n : Nat} (some_digit : digits ≠ [])
    (le : n ≤ digitsValue digits) : (Text.ofNat n).length ≤ digits.length := by
  have pos : 0 < digits.length := List.length_pos_iff.2 some_digit
  rw [Text.ofNat, Nat.length_toDigits_le_iff (by decide) pos]
  exact Nat.lt_of_le_of_lt le (digitsValue_lt digits)

/-- Reading succeeds on numerals that are not too long. -/
theorem readNumeral_eq_ok_iff {digits : Text} {n : Nat} :
    readNumeral digits = .ok n ↔ digits.length ≤ maxDigits ∧ n = digitsValue digits := by
  unfold readNumeral
  split
  · simp; omega
  · simp [eq_comm]; omega

end SolutionSweep
