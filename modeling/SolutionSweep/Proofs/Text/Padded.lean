import SolutionSweep.Proofs.Text.CodePoint
import SolutionSweep.Proofs.Text.Numeral

/-!
# Numerals of a fixed width

A number that is padded with zeros to a fixed width is ordered among texts as it is among numbers.

* `Precedes`: one step of a lexicographic comparison, `precedes_start`: how sums are compared;
* `digitsValue_append`: what the digits of a numeral count;
* `le_append_iff_of_digits`: equally many digits are ordered as the numbers that they denote;
* `le_ofNatPadded_append_iff`: so are padded numerals, and what follows decides if they are equal.
-/

namespace SolutionSweep

open CodePoints (ofText le)

/-! ### Lexicographic comparison -/

/-- One step of a lexicographic comparison: the first numbers decide, or else what comes next. -/
def Precedes (a b : Nat) (next : Prop) : Prop := a < b ∨ a = b ∧ next

theorem precedes_congr {a b : Nat} {p q : Prop} (same : a = b → (p ↔ q)) :
    Precedes a b p ↔ Precedes a b q :=
  or_congr_right (and_congr_right same)

theorem precedes_true {a b : Nat} : Precedes a b True ↔ a ≤ b := by
  rw [Precedes, and_true, Nat.le_iff_lt_or_eq]

theorem precedes_false {a b : Nat} : Precedes a b False ↔ a < b := by
  rw [Precedes, and_false, or_false]

/-- Numbers that are counted from the starts of periods are compared period by period. -/
theorem precedes_start (start length : Nat → Nat) {a b r q : Nat} {next : Prop}
    (later : a < b → start a + length a ≤ start b) (sooner : b < a → start b + length b ≤ start a)
    (hr : r < length a) (hq : q < length b) :
    Precedes (start a + r) (start b + q) next ↔ Precedes a b (Precedes r q next) := by
  rcases Nat.lt_trichotomy a b with lt | rfl | gt
  · have := later lt
    exact iff_of_true (.inl (by omega)) (.inl lt)
  · simp [Precedes]
  · have := sooner gt
    refine iff_of_false ?_ ?_
    · rintro (h | ⟨h, -⟩) <;> omega
    · rintro (h | ⟨h, -⟩) <;> omega

/-- Periods of one length, such as the numbers with the same digit in front. -/
theorem precedes_radix {radix a b r q : Nat} {next : Prop} (hr : r < radix) (hq : q < radix) :
    Precedes (radix * a + r) (radix * b + q) next ↔ Precedes a b (Precedes r q next) := by
  have step {a b : Nat} (lt : a < b) : radix * a + radix ≤ radix * b := by
    rw [← Nat.mul_succ]
    exact Nat.mul_le_mul_left radix lt
  exact precedes_start (radix * ·) (fun _ => radix) step step hr hq

/-! ### Digits -/

/-- The first digit counts as often as there are numerals with the digits behind it. -/
theorem digitsValue_cons (c : Char) (digits : Text) :
    digitsValue (c :: digits) =
      Nat.pow 10 digits.length * (digitValue? c).getD 0 + digitsValue digits := by
  have shift : ∀ (t : Text) (init : Nat), t.foldl (fun n c => 10 * n + (digitValue? c).getD 0) init =
      Nat.pow 10 t.length * init + t.foldl (fun n c => 10 * n + (digitValue? c).getD 0) 0 := by
    intro t
    induction t with
    | nil => intro init; simp
    | cons c rest ih =>
      intro init
      have width : Nat.pow 10 (c :: rest).length = Nat.pow 10 rest.length * 10 := rfl
      rw [List.foldl_cons, List.foldl_cons, ih, ih (10 * 0 + _), width]
      simp only [Nat.mul_add, Nat.mul_assoc, Nat.add_assoc, Nat.mul_zero, Nat.zero_add]
  rw [digitsValue, List.foldl_cons, shift, Nat.mul_zero, Nat.zero_add, digitsValue]

/-- Digits in front count as often as there are numerals with the digits behind them. -/
theorem digitsValue_append (x y : Text) :
    digitsValue (x ++ y) = Nat.pow 10 y.length * digitsValue x + digitsValue y := by
  induction x with
  | nil => simp [digitsValue]
  | cons c x ih =>
    have width : Nat.pow 10 (x ++ y).length = Nat.pow 10 y.length * Nat.pow 10 x.length := by
      rw [List.length_append, Nat.mul_comm]
      exact Nat.pow_add 10 x.length y.length
    rw [List.cons_append, digitsValue_cons, ih, digitsValue_cons, width, Nat.mul_add, Nat.mul_assoc,
      Nat.add_assoc]

/-- Zeros in front count nothing. -/
theorem digitsValue_zeros_append (k : Nat) (t : Text) :
    digitsValue (List.replicate k '0' ++ t) = digitsValue t := by
  induction k with
  | zero => rfl
  | succ k ih => rw [List.replicate_succ, List.cons_append, digitsValue_cons, ih]; simp [digitValue?]

/-- Zeros behind count ten times as much each. -/
theorem digitsValue_append_zeros (t : Text) (k : Nat) :
    digitsValue (t ++ List.replicate k '0') = digitsValue t * Nat.pow 10 k := by
  have zeros := digitsValue_zeros_append k []
  rw [List.append_nil] at zeros
  rw [digitsValue_append, zeros, List.length_replicate, Nat.mul_comm]
  rfl

/-- The values of digits are ordered as their code points are. -/
theorem precedes_digits {c d : Char} (hc : c.isDigit = true) (hd : d.isDigit = true)
    (next : Prop) : Precedes ((digitValue? c).getD 0) ((digitValue? d).getD 0) next ↔
      Precedes c.toNat d.toNat next := by
  have low {c : Char} (h : c.isDigit = true) : '0'.toNat ≤ c.toNat := by
    simp only [Char.isDigit, Bool.and_eq_true, decide_eq_true_eq, ge_iff_le,
      UInt32.le_iff_toNat_le] at h
    exact h.1
  have hc' := low hc
  have hd' := low hd
  rw [digitValue?_of_isDigit hc, digitValue?_of_isDigit hd]
  simp only [Option.getD_some, Precedes]
  generalize c.toNat = m at hc' ⊢
  generalize d.toNat = n at hd' ⊢
  generalize '0'.toNat = z at hc' hd' ⊢
  rw [show m - z < n - z ↔ m < n by omega, show m - z = n - z ↔ m = n by omega]

/-- **Equally many digits are ordered as the numbers that they denote.** -/
theorem le_append_iff_of_digits {x y : Text} (same : x.length = y.length)
    (hx : ∀ c ∈ x, c.isDigit = true) (hy : ∀ c ∈ y, c.isDigit = true) (s t : CodePoints) :
    le (ofText x ++ s) (ofText y ++ t) = true ↔
      Precedes (digitsValue x) (digitsValue y) (le s t = true) := by
  induction x generalizing y with
  | nil =>
    obtain rfl := List.length_eq_zero_iff.1 same.symm
    simp [Precedes, ofText]
  | cons c x ih =>
    cases y with
    | nil => cases same
    | cons d y =>
      have same : x.length = y.length := Nat.succ.inj same
      obtain ⟨hc, hx⟩ := List.forall_mem_cons.1 hx
      obtain ⟨hd, hy⟩ := List.forall_mem_cons.1 hy
      have bound := digitsValue_lt y
      rw [← same] at bound
      rw [digitsValue_cons, digitsValue_cons, ← same, precedes_radix (digitsValue_lt x) bound,
        precedes_digits hc hd, ← ih same hx hy]
      simp [ofText, le, Precedes]

/-! ### Padding -/

theorem isDigit_of_mem_ofNatPadded {width n : Nat} {c : Char}
    (mem : c ∈ Text.ofNatPadded width n) : c.isDigit = true := by
  rcases List.mem_append.1 mem with mem | mem
  · rw [List.eq_of_mem_replicate mem]
    rfl
  · exact isDigit_of_mem_ofNat mem

theorem digitsValue_ofNatPadded (width n : Nat) : digitsValue (Text.ofNatPadded width n) = n := by
  rw [Text.ofNatPadded, digitsValue_zeros_append, digitsValue_ofNat]

theorem length_ofNatPadded {width n : Nat} (positive : 0 < width) (small : n < Nat.pow 10 width) :
    (Text.ofNatPadded width n).length = width := by
  have fits : (Text.ofNat n).length ≤ width :=
    (Nat.length_toDigits_le_iff (by decide) positive).2 small
  rw [Text.ofNatPadded, List.length_append, List.length_replicate]
  omega

/-- **Padded numerals are ordered as their numbers.** If they are equal, what follows decides. -/
theorem le_ofNatPadded_append_iff {width m n : Nat} (positive : 0 < width)
    (hm : m < Nat.pow 10 width) (hn : n < Nat.pow 10 width) (s t : CodePoints) :
    le (ofText (Text.ofNatPadded width m) ++ s) (ofText (Text.ofNatPadded width n) ++ t) = true ↔
      Precedes m n (le s t = true) := by
  have same := (length_ofNatPadded positive hm).trans (length_ofNatPadded positive hn).symm
  rw [le_append_iff_of_digits same (fun _ => isDigit_of_mem_ofNatPadded)
    (fun _ => isDigit_of_mem_ofNatPadded), digitsValue_ofNatPadded, digitsValue_ofNatPadded]

end SolutionSweep
