import SolutionSweep.Audit.Instant
import SolutionSweep.Proofs.Text.Padded
import Mathlib.Algebra.BigOperators.Intervals
import Mathlib.Algebra.Order.BigOperators.Group.Finset

/-!
# Instants in the order of time

A reading of the clock stands for an instant, counted in seconds and milliseconds from the first day
of year one in the Gregorian calendar. Its text has a fixed width, from the year down to the fraction
of the second, so that texts are ordered as the instants are.

* `Instant.Valid`: the readings that a clock shows;
* `Instant.seconds`, `Instant.milliseconds`: the instants that they stand for;
* `Instant.precedes_seconds`: instants are compared from the year down to the second;
* `Instant.front`, `Instant.secondText`: the text without the fraction of the second;
* `Instant.le_text_iff`, `Instant.le_secondText_iff`: how texts of instants are ordered.
-/

namespace SolutionSweep.Instant

open CodePoints (ofText le)

/-! ### The calendar -/

/-- Whether a year has a leap day. -/
def isLeap (year : Nat) : Bool := year % 4 == 0 && (year % 100 != 0 || year % 400 == 0)

/-- The number of days in a month. -/
def daysIn (year month : Nat) : Nat :=
  if month = 2 then if isLeap year then 29 else 28
  else if month ∈ [4, 6, 9, 11] then 30
  else 31

/-- The number of days in a year. -/
def daysOf (year : Nat) : Nat := ∑ month ∈ Finset.Ico 1 13, daysIn year month

/-- The readings that a clock shows in the years that are written with four digits. -/
structure Valid (i : Instant) : Prop where
  year : 1 ≤ i.year ∧ i.year ≤ 9999
  month : 1 ≤ i.month ∧ i.month ≤ 12
  day : 1 ≤ i.day ∧ i.day ≤ daysIn i.year i.month
  hour : i.hour < 24
  minute : i.minute < 60
  second : i.second < 60
  microsecond : i.microsecond < 1000000

/-- The number of days of a year before a month. -/
def daysBeforeMonth (year month : Nat) : Nat := ∑ k ∈ Finset.Ico 1 month, daysIn year k

/-- The number of days before a year, from year one. -/
def daysBeforeYear (year : Nat) : Nat := ∑ k ∈ Finset.Ico 1 year, daysOf k

/-- The day of the year, counted from zero. -/
def dayOfYear (i : Instant) : Nat := daysBeforeMonth i.year i.month + (i.day - 1)

/-- The day, counted from the first day of year one. -/
def days (i : Instant) : Nat := daysBeforeYear i.year + i.dayOfYear

/-- The instant in seconds, what is below them cut off. -/
def seconds (i : Instant) : Nat := 60 * (60 * (24 * i.days + i.hour) + i.minute) + i.second

/-- The instant in milliseconds, what is below them cut off. -/
def milliseconds (i : Instant) : Nat := 1000 * i.seconds + i.microsecond / 1000

/-! ### The order of instants -/

/-- Periods that follow each other, the first of which has the number one. -/
theorem sum_Ico_add_le (length : Nat → Nat) {a b : Nat} (first : 1 ≤ a) (lt : a < b) :
    ∑ k ∈ Finset.Ico 1 a, length k + length a ≤ ∑ k ∈ Finset.Ico 1 b, length k := by
  rw [← Finset.sum_Ico_succ_top first]
  exact Finset.sum_le_sum_of_subset (Finset.Ico_subset_Ico_right lt)

variable {i j : Instant}

theorem Valid.dayOfYear_lt (h : i.Valid) : i.dayOfYear < daysOf i.year := by
  have inside : i.day - 1 < daysIn i.year i.month := by have := h.day; omega
  have upto := sum_Ico_add_le (daysIn i.year) h.month.1
    (show i.month < 13 from Nat.lt_succ_of_le h.month.2)
  rw [dayOfYear, daysBeforeMonth, daysOf]
  omega

/-- Days of one year are compared by month and day. -/
theorem precedes_dayOfYear (hi : i.Valid) (hj : j.Valid) (same : i.year = j.year) {next : Prop} :
    Precedes i.dayOfYear j.dayOfYear next ↔
      Precedes i.month j.month (Precedes i.day j.day next) := by
  have firsti := hi.day
  have firstj := hj.day
  rw [← same] at firstj
  rw [dayOfYear, dayOfYear, ← same, precedes_start (daysBeforeMonth i.year) (daysIn i.year)
    (sum_Ico_add_le _ hi.month.1) (sum_Ico_add_le _ hj.month.1) (by omega) (by omega)]
  refine precedes_congr fun _ => ?_
  rw [Precedes, Precedes, show i.day - 1 < j.day - 1 ↔ i.day < j.day by omega,
    show i.day - 1 = j.day - 1 ↔ i.day = j.day by omega]

/-- Days are compared by year, month and day. -/
theorem precedes_days (hi : i.Valid) (hj : j.Valid) {next : Prop} :
    Precedes i.days j.days next ↔
      Precedes i.year j.year (Precedes i.month j.month (Precedes i.day j.day next)) := by
  rw [days, days, precedes_start daysBeforeYear daysOf (sum_Ico_add_le _ hi.year.1)
    (sum_Ico_add_le _ hj.year.1) hi.dayOfYear_lt hj.dayOfYear_lt]
  exact precedes_congr fun same => precedes_dayOfYear hi hj same

/-- **Instants are compared from the year down to the second.** -/
theorem precedes_seconds (hi : i.Valid) (hj : j.Valid) {next : Prop} :
    Precedes i.seconds j.seconds next ↔
      Precedes i.year j.year (Precedes i.month j.month (Precedes i.day j.day
        (Precedes i.hour j.hour (Precedes i.minute j.minute (Precedes i.second j.second next))))) := by
  rw [seconds, seconds, precedes_radix hi.second hj.second, precedes_radix hi.minute hj.minute,
    precedes_radix hi.hour hj.hour, precedes_days hi hj]

theorem precedes_milliseconds (hi : i.Valid) (hj : j.Valid) {next : Prop} :
    Precedes i.milliseconds j.milliseconds next ↔ Precedes i.seconds j.seconds
      (Precedes (i.microsecond / 1000) (j.microsecond / 1000) next) := by
  have boundi := hi.microsecond
  have boundj := hj.microsecond
  rw [milliseconds, milliseconds, precedes_radix (by omega) (by omega)]

/-! ### Texts -/

/-- The date and the time of day to the second. -/
def front (i : Instant) : Text :=
  Text.ofNatPadded 4 i.year ++ '-' :: Text.ofNatPadded 2 i.month ++ '-' ::
    Text.ofNatPadded 2 i.day ++ 'T' :: Text.ofNatPadded 2 i.hour ++ ':' ::
    Text.ofNatPadded 2 i.minute ++ ':' :: Text.ofNatPadded 2 i.second

/-- The date and the time of day to the second, in universal time. -/
def secondText (i : Instant) : Text := i.front ++ ['Z']

theorem text_eq (i : Instant) :
    i.text = i.front ++ '.' :: (Text.ofNatPadded 3 (i.microsecond / 1000) ++ ['Z']) := by
  simp only [text, front, List.append_assoc, List.cons_append]

theorem ofText_append (s t : Text) : ofText (s ++ t) = ofText s ++ ofText t := List.map_append

theorem ofText_cons (c : Char) (t : Text) : ofText (c :: t) = c.toNat :: ofText t := List.map_cons

theorem le_cons_cons (a : Nat) (s t : CodePoints) : le (a :: s) (a :: t) = le s t := by
  simp [le]

/-- **Texts are ordered as the instants are to the second.** For one second, what follows decides. -/
theorem le_front_append_iff (hi : i.Valid) (hj : j.Valid) (s t : Text) :
    le (ofText (i.front ++ s)) (ofText (j.front ++ t)) = true ↔
      Precedes i.seconds j.seconds (le (ofText s) (ofText t) = true) := by
  have two {m n : Nat} (hm : m < 100) (hn : n < 100) (s t : CodePoints) :=
    le_ofNatPadded_append_iff (show 0 < 2 by decide) hm hn s t
  have days {i : Instant} (h : i.Valid) : i.day < 100 := by
    have day := h.day
    have most : daysIn i.year i.month ≤ 31 := by
      unfold daysIn
      repeat' split
      all_goals decide
    omega
  have months {i : Instant} (h : i.Valid) : i.month < 100 := by have := h.month; omega
  have years {i : Instant} (h : i.Valid) : i.year < Nat.pow 10 4 := Nat.lt_succ_of_le h.year.2
  have hours := And.intro hi.hour hj.hour
  have minutes := And.intro hi.minute hj.minute
  have whole := And.intro hi.second hj.second
  simp only [front, List.append_assoc, List.cons_append, ofText_append, ofText_cons]
  rw [le_ofNatPadded_append_iff (by decide) (years hi) (years hj), le_cons_cons,
    two (months hi) (months hj), le_cons_cons, two (days hi) (days hj), le_cons_cons,
    two (by omega) (by omega), le_cons_cons, two (by omega) (by omega), le_cons_cons,
    two (by omega) (by omega), precedes_seconds hi hj]

/-- **A text with milliseconds** is not above another one if its instant is not later. -/
theorem le_text_iff (hi : i.Valid) (hj : j.Valid) :
    le (ofText i.text) (ofText j.text) = true ↔ i.milliseconds ≤ j.milliseconds := by
  have boundi := hi.microsecond
  have boundj := hj.microsecond
  have last : le (ofText ['Z']) (ofText ['Z']) = true ↔ True := iff_of_true (by decide) trivial
  rw [text_eq, text_eq, le_front_append_iff hi hj, ofText_cons, ofText_cons, le_cons_cons,
    ofText_append, ofText_append, le_ofNatPadded_append_iff (by decide)
      (show i.microsecond / 1000 < Nat.pow 10 3 from by simp; omega)
      (show j.microsecond / 1000 < Nat.pow 10 3 from by simp; omega),
    ← precedes_milliseconds hi hj, last, precedes_true]

/-- **A text without milliseconds** is above all texts of its second: the letter at its end comes
after the point. -/
theorem le_secondText_iff (hi : i.Valid) (hj : j.Valid) :
    le (ofText i.secondText) (ofText j.text) = true ↔ i.seconds < j.seconds := by
  have above (t : Text) : le (ofText ['Z']) (ofText ('.' :: t)) = true ↔ False :=
    iff_of_false (by simp [ofText, le]) id
  rw [secondText, text_eq, le_front_append_iff hi hj, above, precedes_false]

end SolutionSweep.Instant
