import SolutionSweep.Json.Parser
import SolutionSweep.Json.Printer
import SolutionSweep.Proofs.Number.Shortest

/-!
# Numbers are read back

What is written for a number is read up to what does not go on with it.

* `Json.wholePart?_append`, `Json.fractionPart_append`, `Json.exponentPart_append`: the parts;
* `Json.scalar_ofInt`: an integer is read back, if it is not too long;
* `Json.readsNearest_layout`: a numeral with a decimal point in place denotes what its digits do;
* `Json.scalar_render`: a double is read back.
-/

namespace SolutionSweep.Json

/-! ### The parts of a number -/

/-- What follows a value inside another one, or nothing: nothing that goes on with a number. -/
def IsDelimited (rest : Text) : Prop := ∀ c, rest.head? = some c → c = ',' ∨ c = ']' ∨ c = '}'

theorem IsDelimited.nil : IsDelimited [] := nofun

theorem IsDelimited.cons {c : Char} (h : c = ',' ∨ c = ']' ∨ c = '}') (rest : Text) :
    IsDelimited (c :: rest) := by
  rintro d head
  cases head
  exact h

theorem IsDelimited.stop {rest : Text} (h : IsDelimited rest) {c : Char}
    (head : rest.head? = some c) : Char.isDigit c = false ∧ c ≠ '.' ∧ c ≠ 'e' ∧ c ≠ 'E' := by
  rcases h c head with rfl | rfl | rfl <;> decide

theorem wholePart?_append {whole rest : Text} (significant : IsSignificant whole)
    (stop : ∀ c, rest.head? = some c → Char.isDigit c = false) :
    wholePart? (whole ++ rest) = some (whole, rest) := by
  have digits := significant.all
  have first := significant.first
  obtain ⟨c, cs, rfl⟩ := List.exists_cons_of_ne_nil significant.filled
  obtain ⟨taken, left⟩ := Text.takeWhile_append_of_head digits stop
  rw [List.cons_append] at taken left ⊢
  rw [List.dropWhile_cons_of_pos (digits c List.mem_cons_self)] at left
  rw [wholePart?, if_pos (digits c List.mem_cons_self), taken, left]
  exact fun eq => first (by rw [eq]; rfl)

theorem wholePart?_ofNat (n : Nat) {rest : Text}
    (stop : ∀ c, rest.head? = some c → Char.isDigit c = false) :
    wholePart? (Text.ofNat n ++ rest) = some (Text.ofNat n, rest) := by
  rcases Nat.eq_zero_or_pos n with rfl | pos
  · rfl
  · exact wholePart?_append (isSignificant_ofNat pos) stop

theorem fractionPart_append {fraction rest : Text} (filled : fraction ≠ [])
    (digits : ∀ c ∈ fraction, c.isDigit = true)
    (stop : ∀ c, rest.head? = some c → Char.isDigit c = false) :
    fractionPart ('.' :: (fraction ++ rest)) = (fraction, rest) := by
  obtain ⟨taken, left⟩ := Text.takeWhile_append_of_head digits stop
  rw [fractionPart, taken, left, if_neg (by simpa using filled)]

theorem fractionPart_eq_nil {rest : Text} (stop : rest.head? ≠ some '.') :
    fractionPart rest = ([], rest) := by
  cases rest with
  | nil => rfl
  | cons c rest =>
    rw [fractionPart]
    exact fun _ eq => stop (by rw [eq]; rfl)

theorem exponentPart_append (e : Int) {rest : Text}
    (stop : ∀ c, rest.head? = some c → Char.isDigit c = false) :
    exponentPart (Double.exponentText e ++ rest) = (some e, rest) := by
  have digits : ∀ c ∈ Text.ofNatPadded 2 e.natAbs, c.isDigit = true :=
    fun _ => isDigit_of_mem_ofNatPadded
  have filled : Text.ofNatPadded 2 e.natAbs ≠ [] :=
    List.append_ne_nil_of_right_ne_nil _ (ofNat_ne_nil _)
  have value := digitsValue_ofNatPadded 2 e.natAbs
  unfold Double.exponentText
  generalize Text.ofNatPadded 2 e.natAbs = exponent at digits filled value ⊢
  obtain ⟨taken, left⟩ := Text.takeWhile_append_of_head digits stop
  have read : (exponent.isEmpty = true) = False := by simpa using filled
  split
  case isTrue negative =>
    have parts : ['e', '-'] ++ exponent ++ rest = 'e' :: '-' :: (exponent ++ rest) := rfl
    rw [parts, exponentPart, if_pos (.inl rfl)]
    simp only [exponentSign, taken, left, value, read, if_false, if_true]
    rw [Int.ofNat_natAbs_of_nonpos negative.le, neg_neg]
  case isFalse positive =>
    have parts : ['e', '+'] ++ exponent ++ rest = 'e' :: '+' :: (exponent ++ rest) := rfl
    rw [parts, exponentPart, if_pos (.inl rfl)]
    simp only [exponentSign, taken, left, value, read, if_false, Bool.false_eq_true]
    rw [Int.natAbs_of_nonneg (not_lt.1 positive)]

theorem exponentPart_eq_none {rest : Text}
    (stop : ∀ c, rest.head? = some c → c ≠ 'e' ∧ c ≠ 'E') :
    exponentPart rest = (none, rest) := by
  cases rest with
  | nil => rfl
  | cons c rest => rw [exponentPart, if_neg (not_or.2 (stop c rfl))]

/-! ### Integers -/

/-- A numeral is read up to what does not go on with it. -/
theorem unsigned_ofNat (negative : Bool) {n : Nat} (short : (Text.ofNat n).length ≤ maxDigits)
    {rest : Text} (delimited : IsDelimited rest) :
    unsigned negative (Text.ofNat n ++ rest) =
      .ok (.integer (if negative then -(n : Int) else n), rest) := by
  have read : readNumeral (Text.ofNat n) = .ok n := by
    rw [readNumeral_eq_ok_iff, digitsValue_ofNat]
    exact ⟨short, rfl⟩
  rw [unsigned, wholePart?_ofNat n fun c head => (delimited.stop head).1]
  simp only [fractionPart_eq_nil fun head => (delimited.stop head).2.1 rfl,
    exponentPart_eq_none fun c head => (delimited.stop head).2.2, read]
  rfl

/-- What begins with a digit is no word. -/
theorem scalar_of_isDigit {c : Char} (digit : c.isDigit = true) (t : Text) :
    scalar (c :: t) = unsigned false (c :: t) ∧ scalar ('-' :: c :: t) = unsigned true (c :: t) := by
  have other (d : Char) (letter : d.isDigit = false) : d ≠ c := by
    rintro rfl
    rw [letter] at digit
    cases digit
  constructor
  · simp [scalar, words, Text.after?, other 'n' rfl, other 't' rfl, other 'f' rfl, other 'N' rfl,
      other 'I' rfl, other '-' rfl, (other '-' rfl).symm]
  · simp [scalar, words, Text.after?, other 'I' rfl]

/-- An integer begins with a digit or a minus sign and a digit. -/
theorem exists_ofInt_eq (n : Int) : ∃ c t, c.isDigit = true ∧
    (n = n.natAbs ∧ Text.ofInt n = c :: t ∧ Text.ofNat n.natAbs = c :: t ∨
      n = -n.natAbs ∧ Text.ofInt n = '-' :: c :: t ∧ Text.ofNat n.natAbs = c :: t) := by
  obtain ⟨c, t, parts⟩ := List.exists_cons_of_ne_nil (ofNat_ne_nil n.natAbs)
  refine ⟨c, t, isDigit_of_mem_ofNat (n := n.natAbs) (by simp [parts]), ?_⟩
  cases n with
  | ofNat n => exact .inl ⟨rfl, parts, parts⟩
  | negSucc n => exact .inr ⟨rfl, congrArg ('-' :: ·) parts, parts⟩

/-- **An integer is read back**, if it is not too long and nothing goes on with it. -/
theorem scalar_ofInt {n : Int} (short : (Text.ofNat n.natAbs).length ≤ maxDigits) {rest : Text}
    (delimited : IsDelimited rest) : scalar (Text.ofInt n ++ rest) = .ok (.integer n, rest) := by
  obtain ⟨c, t, digit, ⟨value, text, parts⟩ | ⟨value, text, parts⟩⟩ := exists_ofInt_eq n
  · have read := unsigned_ofNat false short delimited
    rw [parts, List.cons_append] at read
    rw [text, List.cons_append, (scalar_of_isDigit digit _).1, read, if_neg Bool.false_ne_true,
      ← value]
  · have read := unsigned_ofNat true short delimited
    rw [parts, List.cons_append] at read
    rw [text, List.cons_append, List.cons_append, (scalar_of_isDigit digit _).2, read, if_pos rfl,
      ← value]

/-! ### Doubles -/

/-- A number with a fraction or an exponent is a double. -/
theorem unsigned_real (negative : Bool) {s t u whole fraction rest : Text} {exponent : Option Int}
    (front : wholePart? s = some (whole, t)) (middle : fractionPart t = (fraction, u))
    (back : exponentPart u = (exponent, rest)) (real : fraction ≠ [] ∨ exponent ≠ none) :
    unsigned negative s = .ok (.real (.nearest negative (digitsValue (whole ++ fraction))
      (exponent.getD 0 - fraction.length)), rest) := by
  rw [unsigned, front]
  simp only [middle, back]
  rw [if_neg]
  cases exponent <;> simp_all

theorem head?_exponentText (e : Int) (rest : Text) :
    (Double.exponentText e ++ rest).head? = some 'e' := by
  unfold Double.exponentText
  split <;> rfl

/-- A text is read as the double nearest to a number, whatever its sign and if nothing goes on with
it. -/
def ReadsNearest (t : Text) (x : ℚ) : Prop :=
  ∀ negative rest, IsDelimited rest → ∃ k unit,
    unsigned negative (t ++ rest) = .ok (.real (.nearest negative k unit), rest) ∧
      (k * 10 ^ unit : ℚ) = x

/-- One digit before the decimal point, and an exponent. -/
theorem readsNearest_exponent {d : Char} {ds : Text} (significant : IsSignificant (d :: ds))
    (e : Int) :
    ReadsNearest (match ds with
      | [] => d :: Double.exponentText e
      | _ => d :: '.' :: ds ++ Double.exponentText e)
      (digitsValue (d :: ds) * 10 ^ (e - ds.length)) := by
  intro negative rest delimited
  have front : IsSignificant [d] := significant.of_append (y := ds) (List.cons_ne_nil d [])
  have back := exponentPart_append e fun c head => (delimited.stop head).1
  have head := head?_exponentText e rest
  cases ds with
  | nil =>
    have whole : wholePart? ([d] ++ (Double.exponentText e ++ rest)) = some ([d], _) :=
      wholePart?_append front (by rw [head]; rintro c ⟨⟩; rfl)
    have fraction : fractionPart (Double.exponentText e ++ rest) = ([], _) :=
      fractionPart_eq_nil (by rw [head]; decide)
    exact ⟨_, _, unsigned_real negative whole fraction back (.inr (Option.some_ne_none e)), rfl⟩
  | cons c ds =>
    have digits : ∀ b ∈ c :: ds, b.isDigit = true :=
      fun b mem => significant.all b (List.mem_cons_of_mem d mem)
    have whole : wholePart? ([d] ++ '.' :: ((c :: ds) ++ (Double.exponentText e ++ rest))) =
      some ([d], _) := wholePart?_append front (by rintro c ⟨⟩; rfl)
    have fraction : fractionPart ('.' :: ((c :: ds) ++ (Double.exponentText e ++ rest))) =
      (c :: ds, _) := fractionPart_append (List.cons_ne_nil c ds) digits
        (by rw [head]; rintro c ⟨⟩; rfl)
    have read := unsigned_real negative whole fraction back (.inr (Option.some_ne_none e))
    refine ⟨_, _, ?_, rfl⟩
    simpa using read

/-- Digits on both sides of the decimal point. -/
theorem readsNearest_point (whole : Text) {fraction : Text} (filled : fraction ≠ [])
    (front : ∀ t, wholePart? (whole ++ '.' :: t) = some (whole, '.' :: t))
    (digits : ∀ c ∈ fraction, c.isDigit = true) :
    ReadsNearest (whole ++ '.' :: fraction)
      (digitsValue (whole ++ fraction) * 10 ^ (-fraction.length : Int)) := by
  intro negative rest delimited
  have middle := fractionPart_append filled digits fun c head => (delimited.stop head).1
  have back := exponentPart_eq_none fun c head => (delimited.stop head).2.2
  have read := unsigned_real negative (front (fraction ++ rest)) middle back (.inl filled)
  rw [Option.getD_none, zero_sub] at read
  refine ⟨_, _, ?_, rfl⟩
  rw [List.append_assoc, List.cons_append]
  exact read

section Point

variable {digits : Text} (significant : IsSignificant digits)

include significant

/-- Zeros between the decimal point and the first digit. -/
theorem readsNearest_small (zeros : Nat) :
    ReadsNearest (['0', '.'] ++ List.replicate zeros '0' ++ digits)
      (digitsValue digits * 10 ^ (-zeros - digits.length : Int)) := by
  have filled : List.replicate zeros '0' ++ digits ≠ [] :=
    List.append_ne_nil_of_right_ne_nil _ significant.filled
  have read := readsNearest_point ['0'] filled (fun _ => rfl) fun c mem => by
    rcases List.mem_append.1 mem with mem | mem
    · rw [List.eq_of_mem_replicate mem]
      rfl
    · exact significant.all c mem
  have value : digitsValue (['0'] ++ (List.replicate zeros '0' ++ digits)) = digitsValue digits :=
    digitsValue_zeros_append (zeros + 1) digits
  rw [value, List.length_append, List.length_replicate,
    show (-((zeros + digits.length : Nat) : Int)) = -zeros - digits.length by omega] at read
  exact read

/-- A decimal point between two of the digits. -/
theorem readsNearest_between {n : Nat} (positive : 0 < n) (inside : n < digits.length) :
    ReadsNearest (digits.take n ++ '.' :: digits.drop n)
      (digitsValue digits * 10 ^ ((n : Int) - digits.length)) := by
  have parts := List.take_append_drop n digits
  have front : IsSignificant (digits.take n) := by
    rw [← parts] at significant
    refine significant.of_append (List.ne_nil_of_length_pos ?_)
    rw [List.length_take]
    omega
  have behind : digits.drop n ≠ [] := List.ne_nil_of_length_pos (by rw [List.length_drop]; omega)
  have read := readsNearest_point (digits.take n) behind
    (fun t => wholePart?_append front (by rintro c ⟨⟩; rfl))
    fun c mem => significant.all c (List.mem_of_mem_drop mem)
  rwa [parts, List.length_drop,
    show (-((digits.length - n : Nat) : Int)) = n - digits.length by omega] at read

/-- Zeros between the digits and the decimal point. -/
theorem readsNearest_large (zeros : Nat) :
    ReadsNearest (digits ++ List.replicate zeros '0' ++ ['.', '0'])
      (digitsValue digits * 10 ^ (zeros : Int)) := by
  have front := significant.append_zeros zeros
  have read := readsNearest_point _ (List.cons_ne_nil '0' [])
    (fun t => wholePart?_append front (by rintro c ⟨⟩; rfl)) (List.forall_mem_singleton.2 rfl)
  have value : digitsValue (digits ++ List.replicate zeros '0' ++ ['0']) =
      digitsValue digits * 10 ^ (zeros + 1) := by
    rw [List.append_assoc, ← List.replicate_succ']
    exact digitsValue_append_zeros digits (zeros + 1)
  have power : (10 : ℚ) ^ (zeros + 1) * 10 ^ (-(1 : Nat) : Int) = 10 ^ (zeros : Int) := by
    rw [← zpow_natCast, ← zpow_add₀ (by norm_num)]
    congr 1
    omega
  rw [value, Nat.cast_mul, Nat.cast_pow, Nat.cast_ofNat, mul_assoc] at read
  rw [← power]
  exact read

/-- **A numeral with a decimal point in place is read as the double that is nearest to what its
digits denote.** -/
theorem readsNearest_layout (place : Int) :
    ReadsNearest (Double.layout digits place)
      (digitsValue digits * 10 ^ (place - digits.length)) := by
  unfold Double.layout
  split
  case isTrue far =>
    obtain ⟨d, ds, rfl⟩ := List.exists_cons_of_ne_nil significant.filled
    have read := readsNearest_exponent significant (place - 1)
    rw [show place - 1 - (ds.length : Int) = place - ((d :: ds).length : Nat) by
      rw [List.length_cons]; omega] at read
    cases ds <;> exact read
  split
  case isTrue small =>
    have read := readsNearest_small significant (-place).toNat
    rwa [show -(((-place).toNat : Nat) : Int) = place by omega] at read
  case isFalse large =>
    obtain ⟨n, rfl⟩ := Int.eq_ofNat_of_zero_le (show 0 ≤ place by omega)
    simp only [Int.toNat_natCast]
    rcases Nat.lt_or_ge n digits.length with inside | short
    · have behind : digits.drop n ≠ [] :=
        List.ne_nil_of_length_pos (by rw [List.length_drop]; omega)
      rw [List.length_take, Nat.min_eq_left inside.le, Nat.sub_self, List.replicate_zero,
        List.append_nil, if_neg (by simpa using behind)]
      exact readsNearest_between significant (by omega) inside
    · have read := readsNearest_large significant (n - digits.length)
      rw [Nat.cast_sub short] at read
      rw [List.take_of_length_le short, List.drop_eq_nil_of_le short]
      exact read

end Point

/-- What is read as a number begins with a digit. -/
theorem ReadsNearest.exists_head {t : Text} {x : ℚ} (h : ReadsNearest t x) :
    ∃ c u, t = c :: u ∧ c.isDigit = true := by
  obtain ⟨k, unit, read, -⟩ := h false [] .nil
  rw [List.append_nil] at read
  cases t with
  | nil => cases read
  | cons c u =>
    refine ⟨c, u, rfl, ?_⟩
    by_contra other
    have none : wholePart? (c :: u) = none := by
      rw [wholePart?, if_neg other]
      rintro rfl
      exact other rfl
    rw [unsigned, none] at read
    cases read

/-- What is written for a finite double without its sign. -/
def magnitudeText (m : Nat) (e : Int) : Text :=
  if m = 0 then "0.0".toList else Double.layout (Double.shortest m e).1 (Double.shortest m e).2

/-- It is read as a number that the double is nearest to. -/
theorem readsNearest_magnitude {m : Nat} {e : Int} (valid : m = 0 ∧ e = 0 ∨ Double.Fits m e) :
    ∃ x, ReadsNearest (magnitudeText m e) x ∧ ∀ negative (k : Nat) (unit : Int),
      (k * 10 ^ unit : ℚ) = x → Double.nearest negative k unit = .finite negative m e := by
  unfold magnitudeText
  rcases valid with ⟨rfl, rfl⟩ | fits
  · have read := readsNearest_point ['0'] (List.cons_ne_nil '0' []) (fun _ => rfl)
      (List.forall_mem_singleton.2 rfl)
    refine ⟨_, read, fun negative k unit value => ?_⟩
    have zero : k = 0 := by
      have power : (10 : ℚ) ^ unit ≠ 0 := zpow_ne_zero unit (by norm_num)
      have digits : digitsValue (['0'] ++ ['0']) = 0 := rfl
      rw [digits, Nat.cast_zero, zero_mul] at value
      exact_mod_cast (mul_eq_zero.1 value).resolve_right power
    rw [zero]
    rfl
  · obtain ⟨significant, near⟩ := Double.shortest_spec fits
    rw [if_neg fits.positive.ne']
    refine ⟨_, readsNearest_layout significant _, fun negative k unit value => ?_⟩
    rw [← value] at near
    exact Double.nearest_eq fits negative near

/-- **A double is read back**, if nothing goes on with it. -/
theorem scalar_render {x : Double} (valid : x.Valid) {rest : Text} (delimited : IsDelimited rest) :
    scalar (x.render doubleWords ++ rest) = .ok (.real x, rest) := by
  cases x with
  | undefined => rfl
  | infinite negative => cases negative <;> rfl
  | finite negative m e =>
    obtain ⟨y, reads, nearest⟩ := readsNearest_magnitude valid
    obtain ⟨c, u, parts, digit⟩ := reads.exists_head
    obtain ⟨k, unit, read, value⟩ := reads negative rest delimited
    have written : (Double.finite negative m e).render doubleWords =
        (if negative then ['-'] else []) ++ magnitudeText m e := rfl
    rw [nearest negative k unit value, parts, List.cons_append] at read
    rw [written, parts]
    cases negative with
    | false => exact (scalar_of_isDigit digit _).1.trans read
    | true => exact (scalar_of_isDigit digit _).2.trans read

end SolutionSweep.Json
