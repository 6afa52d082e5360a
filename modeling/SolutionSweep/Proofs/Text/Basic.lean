import SolutionSweep.Text.Basic
import Mathlib.Data.List.TakeWhile

/-!
# Laws of text

* `after?_eq_some_iff`: what follows a beginning is what is left of the text without it;
* `skipWhite_append`, `skipWhite_eq_strip_append`: white space in front of and behind a text;
* `trim_eq_self_iff`, `strip_eq_self_iff`: which text has nothing to trim or to strip;
* `exists_trim`, `trim_append`: what is left of a text, and what has been trimmed off;
* `takeWhile_append_of_head`: where a run of characters of a class ends.
-/

namespace SolutionSweep.Text

/-- Reading a beginning splits the text. -/
theorem after?_eq_some_iff {mark t rest : Text} : after? mark t = some rest ↔ t = mark ++ rest := by
  induction mark generalizing t with
  | nil => simp [after?]
  | cons m ms ih =>
    cases t with
    | nil => simp [after?]
    | cons c cs =>
      by_cases eq : m = c
      · subst eq
        simp [after?, ih]
      · simp [after?, eq, Ne.symm eq]

@[simp] theorem after?_append (mark rest : Text) : after? mark (mark ++ rest) = some rest :=
  after?_eq_some_iff.2 rfl

theorem takeWhile_append_skipWhite (t : Text) : t.takeWhile isWhite ++ skipWhite t = t :=
  List.takeWhile_append_dropWhile

/-- White space in front of a text is skipped. -/
theorem skipWhite_append {blanks : Text} (white : ∀ c ∈ blanks, isWhite c = true) (t : Text) :
    skipWhite (blanks ++ t) = skipWhite t :=
  List.dropWhile_append_of_pos white

theorem skipWhite_cons {c : Char} (h : isWhite c = false) (t : Text) :
    skipWhite (c :: t) = c :: t := by
  simp [skipWhite, h]

theorem isWhite_of_mem_takeWhile {t : Text} {c : Char} (h : c ∈ t.takeWhile isWhite) :
    isWhite c = true :=
  List.mem_takeWhile_imp h

theorem isBlank_iff_skipWhite_eq_nil {t : Text} : isBlank t = true ↔ skipWhite t = [] := by
  simp [isBlank, skipWhite, List.dropWhile_eq_nil_iff]

/-- A text without the white space in front of it is its bare text and white space behind. -/
theorem skipWhite_eq_strip_append (t : Text) : ∃ blanks, skipWhite t = strip t ++ blanks := by
  refine ⟨((skipWhite t).reverse.takeWhile isWhite).reverse, ?_⟩
  unfold strip trim skipWhite
  rw [← List.reverse_append, List.takeWhile_append_dropWhile, List.reverse_reverse]

/-- Nothing is trimmed off a text without the characters that are trimmed. -/
theorem trim_eq_self {p : Char → Bool} {t : Text} (h : ∀ c ∈ t, p c = false) : trim p t = t := by
  have drop {t : Text} (h : ∀ c ∈ t, p c = false) : t.dropWhile p = t := by
    cases t with
    | nil => rfl
    | cons c rest => exact List.dropWhile_cons_of_neg (by simp [h c List.mem_cons_self])
  rw [trim, drop h, drop fun c mem => h c (List.mem_reverse.1 mem), List.reverse_reverse]

/-- A text has nothing to trim if it neither begins nor ends with a character that is trimmed. -/
theorem trim_eq_self_iff {p : Char → Bool} {t : Text} : trim p t = t ↔
    (∀ c, t.head? = some c → p c = false) ∧ ∀ c, t.getLast? = some c → p c = false := by
  have drop {t : Text} : t.dropWhile p = t ↔ ∀ c, t.head? = some c → p c = false := by
    cases t with
    | nil => simp
    | cons c rest => simp [List.dropWhile_eq_self_iff]
  constructor
  · intro bare
    -- Neither of the two cuts takes anything, since the length is the same after both.
    have outer := List.dropWhile_sublist (p := p) (l := t)
    have inner := (List.dropWhile_sublist (p := p) (l := (t.dropWhile p).reverse)).length_le
    have length := congrArg List.length bare
    simp only [trim, List.length_reverse] at length inner
    have front : t.dropWhile p = t := outer.eq_of_length_le (by omega)
    have back : t.reverse.dropWhile p = t.reverse := by
      rw [trim, front] at bare
      rw [← List.reverse_reverse (t.reverse.dropWhile p), bare]
    refine ⟨drop.1 front, fun c last => drop.1 back c ?_⟩
    rw [List.head?_reverse, last]
  · rintro ⟨front, back⟩
    rw [trim, drop.2 front, drop.2, List.reverse_reverse]
    intro c head
    rw [List.head?_reverse] at head
    exact back c head

/-- A text has nothing to strip if it neither begins nor ends with white space. -/
theorem strip_eq_self_iff {t : Text} : strip t = t ↔
    (∀ c, t.head? = some c → isWhite c = false) ∧
      ∀ c, t.getLast? = some c → isWhite c = false :=
  trim_eq_self_iff

/-- What is left of a text has nothing to trim. -/
theorem trim_trim (p : Char → Bool) (t : Text) : trim p (trim p t) = trim p t := by
  have stops {t : Text} {c : Char} (head : (t.dropWhile p).head? = some c) : p c = false := by
    have first := List.head?_dropWhile_not p t
    rwa [head] at first
  refine trim_eq_self_iff.2 ⟨fun c head => ?_, fun c last => ?_⟩
  · -- The first character is the one that is left after the first cut.
    obtain ⟨rest, eq⟩ := List.head?_eq_some_iff.1 head
    obtain ⟨cut, parts⟩ := List.dropWhile_suffix (l := (t.dropWhile p).reverse) p
    refine stops (t := t) ?_
    rw [← List.reverse_reverse (t.dropWhile p), ← parts, List.reverse_append,
      show ((t.dropWhile p).reverse.dropWhile p).reverse = trim p t from rfl, eq]
    rfl
  · refine stops (t := (t.dropWhile p).reverse) ?_
    rw [← List.getLast?_reverse]
    exact last

/-- What is trimmed off a text stands in front of what is left and behind it. -/
theorem exists_trim (p : Char → Bool) (t : Text) : ∃ front back, t = front ++ (trim p t ++ back) ∧
    (∀ c ∈ front, p c = true) ∧ ∀ c ∈ back, p c = true := by
  refine ⟨t.takeWhile p, ((t.dropWhile p).reverse.takeWhile p).reverse, ?_, ?_, ?_⟩
  · rw [trim, ← List.reverse_append, List.takeWhile_append_dropWhile, List.reverse_reverse,
      List.takeWhile_append_dropWhile]
  · exact fun c mem => List.mem_takeWhile_imp mem
  · exact fun c mem => List.mem_takeWhile_imp (List.mem_reverse.1 mem)

theorem trim_sublist (p : Char → Bool) (t : Text) : (trim p t).Sublist t := by
  obtain ⟨front, back, parts, -⟩ := exists_trim p t
  have sub : (trim p t).Sublist (front ++ (trim p t ++ back)) :=
    (List.sublist_append_left _ back).trans (List.sublist_append_right front _)
  rwa [← parts] at sub

/-- A text without anything to trim is what is left of it among characters that are trimmed. -/
theorem trim_append {p : Char → Bool} {front middle back : Text}
    (trimmed : ∀ c ∈ front, p c = true) (trimmed' : ∀ c ∈ back, p c = true)
    (bare : trim p middle = middle) : trim p (front ++ (middle ++ back)) = middle := by
  obtain ⟨head, last⟩ := trim_eq_self_iff.1 bare
  rw [trim, List.dropWhile_append_of_pos trimmed]
  cases middle with
  | nil => simp [List.dropWhile_eq_nil_iff.2 trimmed']
  | cons c rest =>
    have stays : (c :: rest ++ back).dropWhile p = c :: rest ++ back :=
      List.dropWhile_cons_of_neg (by simp [head c rfl])
    rw [stays, List.reverse_append,
      List.dropWhile_append_of_pos fun d mem => trimmed' d (List.mem_reverse.1 mem)]
    have ends : (c :: rest).reverse.dropWhile p = (c :: rest).reverse := by
      obtain ⟨d, ds, eq⟩ := List.exists_cons_of_ne_nil
        (List.reverse_ne_nil_iff.2 (List.cons_ne_nil c rest))
      have stops : p d = false := last d (by rw [← List.head?_reverse, eq, List.head?_cons])
      rw [eq]
      exact List.dropWhile_cons_of_neg (by simp [stops])
    rw [ends, List.reverse_reverse]

/-- What is trimmed off the end of a text. -/
theorem exists_trimEnd_append (p : Char → Bool) (t : Text) :
    ∃ back, t = trimEnd p t ++ back ∧ ∀ c ∈ back, p c = true := by
  refine ⟨(t.reverse.takeWhile p).reverse, ?_, fun c mem => ?_⟩
  · rw [trimEnd, ← List.reverse_append, List.takeWhile_append_dropWhile, List.reverse_reverse]
  · exact List.mem_takeWhile_imp (List.mem_reverse.1 mem)

/-- A run of characters of a class ends where the next character is not of the class. -/
theorem takeWhile_append_of_head {p : Char → Bool} {s t : Text} (all : ∀ c ∈ s, p c = true)
    (stop : ∀ c, t.head? = some c → p c = false) :
    (s ++ t).takeWhile p = s ∧ (s ++ t).dropWhile p = t := by
  rw [List.takeWhile_append_of_pos all, List.dropWhile_append_of_pos all]
  cases t with
  | nil => simp
  | cons c rest => simp [stop c rfl]

end SolutionSweep.Text
