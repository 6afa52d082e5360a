import SolutionSweep.Proofs.Manifest.LineKinds
import SolutionSweep.Proofs.Text.Numeral

/-!
# Lines that carry a number

The lines of version control are read by taking them apart: an indexed line into indent, key, digits
and rest, a counting line into what stands before, the digits and what stands after. Reading and
putting together are inverse, so a line keeps everything but its number when the digits are
replaced.

* `indexed?_eq_some_iff`, `count?_eq_some_iff`: a line is read as exactly the parts it is made of;
* `indexed?_withIndex`, `count?_recount`: reading a line under another number;
* `count?_eq_none_of_indexed?`: no line is of both kinds.
-/

namespace SolutionSweep.Line

/-! ### Indexed lines -/

/-- The line that the parts make up. -/
def IndexedLine.text (x : IndexedLine) : Text := x.indent ++ (x.key ++ (x.digits ++ x.rest))

/-- What the parts of an indexed line look like. -/
structure IndexedLine.WellFormed (x : IndexedLine) : Prop where
  indent : ∀ c ∈ x.indent, isWhite c = true
  key : ∃ letters, x.key = sccWord ++ letters ∧ letters ≠ [] ∧ ∀ c ∈ letters, isAsciiLetter c = true
  digits_ne_nil : x.digits ≠ []
  digits : ∀ c ∈ x.digits, isDigit c = true
  rest : ∃ written, Text.skipWhite x.rest = '=' :: written ∧ x.value = Text.strip written
  value : '\n' ∉ x.value

/-- What follows the digits goes on with an equality sign after white space. -/
theorem isDigit_head?_eq_false {rest written : Text} (h : Text.skipWhite rest = '=' :: written)
    {c : Char} (head : rest.head? = some c) : isDigit c = false := by
  cases rest with
  | nil => cases head
  | cons d ds =>
    obtain rfl : d = c := Option.some.inj head
    by_contra digit
    have digit : isDigit d = true := by simpa using digit
    rw [Text.skipWhite_cons (isWhite_eq_false_of_isDigit digit)] at h
    obtain ⟨rfl, -⟩ := List.cons.inj h
    revert digit
    decide

theorem indexed?_text {x : IndexedLine} (h : x.WellFormed) : indexed? x.text = some x := by
  obtain ⟨letters, key, letters_ne_nil, letter⟩ := h.key
  obtain ⟨written, equals, value⟩ := h.rest
  have scc : sccWord = 'S' :: "cc".toList := rfl
  have skipped : Text.skipWhite x.text = sccWord ++ (letters ++ (x.digits ++ x.rest)) := by
    unfold IndexedLine.text
    rw [Text.skipWhite_append h.indent, key, scc, List.append_assoc, List.cons_append,
      Text.skipWhite_cons (by decide)]
  have indent : x.text.takeWhile isWhite = x.indent := by
    refine (Text.takeWhile_append_of_head h.indent fun c head => ?_).1
    rw [key, scc] at head
    obtain rfl : 'S' = c := by simpa using head
    decide
  -- The letters end at the first digit, and the digits at what the equality sign follows.
  obtain ⟨letters_eq, afterKey⟩ := Text.takeWhile_append_of_head (t := x.digits ++ x.rest)
    letter fun c head => by
      obtain ⟨d, ds, eq⟩ := List.exists_cons_of_ne_nil h.digits_ne_nil
      rw [eq] at head
      obtain rfl : d = c := by simpa using head
      exact isAsciiLetter_eq_false_of_isDigit (h.digits d (by simp [eq]))
  obtain ⟨digits_eq, rest⟩ := Text.takeWhile_append_of_head (t := x.rest) h.digits
    fun c head => isDigit_head?_eq_false equals head
  have after : Text.after? ['='] (Text.skipWhite x.rest) = some written :=
    Text.after?_eq_some_iff.2 equals
  unfold indexed?
  simp only [skipped, Text.after?_append, Option.bind_eq_bind, Option.bind_some, letters_eq,
    afterKey, digits_eq, rest, after, indent, ← key, ← value]
  rw [if_neg]
  simp [letters_ne_nil, h.digits_ne_nil, h.value]

/-- A line is read as the parts that it is made of. -/
theorem indexed?_eq_some_iff {l : Text} {x : IndexedLine} :
    indexed? l = some x ↔ x.WellFormed ∧ l = x.text := by
  constructor
  · intro h
    obtain ⟨afterScc, beginning, h⟩ := Option.bind_eq_some_iff.1 h
    obtain ⟨written, equals, h⟩ := Option.bind_eq_some_iff.1 h
    dsimp only at h
    split at h
    · cases h
    · rename_i some_parts
      simp only [Bool.or_eq_true, List.isEmpty_iff, not_or] at some_parts
      obtain ⟨⟨letters_ne_nil, digits_ne_nil⟩, oneLine⟩ := some_parts
      obtain rfl := Option.some.inj h
      refine ⟨⟨fun c => Text.isWhite_of_mem_takeWhile, ⟨_, rfl, letters_ne_nil,
        fun c hc => List.mem_takeWhile_imp hc⟩, digits_ne_nil,
        fun c hc => List.mem_takeWhile_imp hc,
        ⟨written, Text.after?_eq_some_iff.1 equals, rfl⟩, by simpa using oneLine⟩, ?_⟩
      unfold IndexedLine.text
      simp only [List.append_assoc, List.takeWhile_append_dropWhile]
      rw [← Text.after?_eq_some_iff.1 beginning]
      exact (Text.takeWhile_append_skipWhite l).symm
  · rintro ⟨wellFormed, rfl⟩
    exact indexed?_text wellFormed

/-- Another number in place of the one that an indexed line carries. -/
def IndexedLine.renumbered (x : IndexedLine) (n : Nat) : IndexedLine :=
  { x with digits := Text.ofNat n }

theorem IndexedLine.text_renumbered (x : IndexedLine) (n : Nat) :
    (x.renumbered n).text = x.withIndex n := by
  simp [IndexedLine.renumbered, IndexedLine.text, IndexedLine.withIndex]

theorem IndexedLine.WellFormed.renumbered {x : IndexedLine} (h : x.WellFormed) (n : Nat) :
    (x.renumbered n).WellFormed where
  indent := h.indent
  key := h.key
  digits_ne_nil := ofNat_ne_nil n
  digits _ := isDigit_of_mem_ofNat'
  rest := h.rest
  value := h.value

theorem indexed?_text_renumbered {l : Text} {x : IndexedLine} (h : indexed? l = some x) (n : Nat) :
    indexed? (x.renumbered n).text = some (x.renumbered n) :=
  indexed?_text ((indexed?_eq_some_iff.1 h).1.renumbered n)

/-- **A line that is written under another index is read with that index and is otherwise the
same.** -/
theorem indexed?_withIndex {l : Text} {x : IndexedLine} (h : indexed? l = some x) (n : Nat) :
    indexed? (x.withIndex n) = some (x.renumbered n) := by
  rw [← x.text_renumbered]
  exact indexed?_text_renumbered h n

/-! ### Counting lines -/

/-- The line that the parts make up. -/
def CountLine.text (x : CountLine) : Text := x.before ++ (x.digits ++ x.after)

/-- What the parts of a counting line look like. -/
structure CountLine.WellFormed (x : CountLine) : Prop where
  before : ∃ indent blanks blanks' : Text,
    x.before = indent ++ (countKey ++ (blanks ++ '=' :: blanks')) ∧
      (∀ c ∈ indent, isWhite c = true) ∧ (∀ c ∈ blanks, isWhite c = true) ∧
      ∀ c ∈ blanks', isWhite c = true
  digits_ne_nil : x.digits ≠ []
  digits : ∀ c ∈ x.digits, isDigit c = true
  after : Text.isBlank x.after = true

theorem count?_text {x : CountLine} (h : x.WellFormed) : count? x.text = some x := by
  obtain ⟨indent, blanks, blanks', before, white, white', white''⟩ := h.before
  have afterKey : Text.after? countKey (Text.skipWhite x.text) =
      some (blanks ++ '=' :: (blanks' ++ (x.digits ++ x.after))) := by
    unfold CountLine.text
    have key : countKey = 'S' :: "ccNumberOfProjects".toList := rfl
    rw [before, List.append_assoc, Text.skipWhite_append white, List.append_assoc, key,
      List.cons_append, Text.skipWhite_cons (by decide), Text.after?_eq_some_iff]
    simp
  have digits : Text.skipWhite (blanks' ++ (x.digits ++ x.after)) = x.digits ++ x.after := by
    rw [Text.skipWhite_append white'']
    obtain ⟨d, ds, eq⟩ := List.exists_cons_of_ne_nil h.digits_ne_nil
    have digit : isDigit d = true := h.digits d (by simp [eq])
    rw [eq, List.cons_append, Text.skipWhite_cons (isWhite_eq_false_of_isDigit digit)]
  have spaced : takeSpaced? ['='] (blanks ++ '=' :: (blanks' ++ (x.digits ++ x.after))) =
      some (x.digits ++ x.after) := by
    unfold takeSpaced?
    rw [Text.skipWhite_append white', Text.skipWhite_cons (by decide),
      show '=' :: (blanks' ++ (x.digits ++ x.after)) =
        ['='] ++ (blanks' ++ (x.digits ++ x.after)) from rfl, Text.after?_append, Option.map_some,
      digits]
  obtain ⟨digits_eq, after⟩ := Text.takeWhile_append_of_head (t := x.after) h.digits
    fun c head => by
      by_contra digit
      have blank := List.all_eq_true.1 h.after c (List.mem_of_mem_head? head)
      rw [isWhite_eq_false_of_isDigit (by simpa using digit)] at blank
      cases blank
  have taken : x.text.take (x.text.length - (x.digits ++ x.after).length) = x.before := by
    simp [CountLine.text]
  unfold count?
  simp only [afterKey, Option.bind_eq_bind, Option.bind_some, spaced, digits_eq, after, taken]
  simp [h.digits_ne_nil, h.after]

/-- A line is read as the parts that it is made of. -/
theorem count?_eq_some_iff {l : Text} {x : CountLine} :
    count? l = some x ↔ x.WellFormed ∧ l = x.text := by
  constructor
  · intro h
    obtain ⟨afterKey, beginning, h⟩ := Option.bind_eq_some_iff.1 h
    obtain ⟨rest, spaced, h⟩ := Option.bind_eq_some_iff.1 h
    obtain ⟨assigned, equals, rfl⟩ := Option.map_eq_some_iff.1 spaced
    dsimp only at h
    split at h
    · cases h
    · rename_i parts
      simp only [Bool.or_eq_true, List.isEmpty_iff, Bool.not_eq_true', not_or,
        Bool.not_eq_false] at parts
      obtain rfl := Option.some.inj h
      have line : l = l.takeWhile isWhite ++ (countKey ++ (afterKey.takeWhile isWhite ++
          '=' :: (assigned.takeWhile isWhite ++ Text.skipWhite assigned))) := by
        rw [Text.takeWhile_append_skipWhite, ← List.singleton_append,
          ← Text.after?_eq_some_iff.1 equals, Text.takeWhile_append_skipWhite,
          ← Text.after?_eq_some_iff.1 beginning, Text.takeWhile_append_skipWhite]
      have before : l.take (l.length - (Text.skipWhite assigned).length) =
          l.takeWhile isWhite ++ (countKey ++ (afterKey.takeWhile isWhite ++
            '=' :: assigned.takeWhile isWhite)) := by
        have split : l = (l.takeWhile isWhite ++ (countKey ++ (afterKey.takeWhile isWhite ++
            '=' :: assigned.takeWhile isWhite))) ++ Text.skipWhite assigned := by
          conv_lhs => rw [line]
          simp
        generalize l.takeWhile isWhite ++ (countKey ++ (afterKey.takeWhile isWhite ++
          '=' :: assigned.takeWhile isWhite)) = front at split ⊢
        rw [split]
        simp
      refine ⟨⟨⟨_, _, _, before, fun c => Text.isWhite_of_mem_takeWhile,
        fun c => Text.isWhite_of_mem_takeWhile, fun c => Text.isWhite_of_mem_takeWhile⟩,
        parts.1, fun c hc => List.mem_takeWhile_imp hc, parts.2⟩, ?_⟩
      unfold CountLine.text
      simp only [List.takeWhile_append_dropWhile]
      rw [before]
      conv_lhs => rw [line]
      simp
  · rintro ⟨wellFormed, rfl⟩
    exact count?_text wellFormed

/-- Another number in place of the one that a counting line carries. -/
def CountLine.renumbered (x : CountLine) (n : Nat) : CountLine :=
  { x with digits := Text.ofNat n }

theorem CountLine.WellFormed.renumbered {x : CountLine} (h : x.WellFormed) (n : Nat) :
    (x.renumbered n).WellFormed where
  before := h.before
  digits_ne_nil := ofNat_ne_nil n
  digits _ := isDigit_of_mem_ofNat'
  after := h.after

theorem recount_eq {l : Text} {x : CountLine} (h : count? l = some x) (n : Nat) :
    recount l n = (x.renumbered n).text := by
  unfold recount
  rw [h]
  simp [CountLine.renumbered, CountLine.text, Text.ofInt]

theorem count?_text_renumbered {l : Text} {x : CountLine} (h : count? l = some x) (n : Nat) :
    count? (x.renumbered n).text = some (x.renumbered n) :=
  count?_text ((count?_eq_some_iff.1 h).1.renumbered n)

/-- **A counting line that is written with another number is read with that number and is otherwise
the same.** -/
theorem count?_recount {l : Text} {x : CountLine} (h : count? l = some x) (n : Nat) :
    count? (recount l n) = some (x.renumbered n) := by
  rw [recount_eq h]
  exact count?_text_renumbered h n

/-! ### The two kinds told apart -/

/-- The key of a counting line is not followed by an index. -/
theorem count?_eq_none_of_indexed? {l : Text} {x : IndexedLine} (h : indexed? l = some x) :
    count? l = none := by
  by_contra other
  obtain ⟨y, found⟩ := Option.ne_none_iff_exists'.1 other
  obtain ⟨afterScc, beginning, h⟩ := Option.bind_eq_some_iff.1 h
  obtain ⟨afterKey, beginning', found⟩ := Option.bind_eq_some_iff.1 found
  obtain ⟨rest, spaced, -⟩ := Option.bind_eq_some_iff.1 found
  obtain ⟨assigned, equals, -⟩ := Option.map_eq_some_iff.1 spaced
  have equals := Text.after?_eq_some_iff.1 equals
  obtain ⟨written, -, h⟩ := Option.bind_eq_some_iff.1 h
  have same : afterScc = "NumberOfProjects".toList ++ afterKey := by
    have key : countKey = sccWord ++ "NumberOfProjects".toList := rfl
    rw [Text.after?_eq_some_iff] at beginning beginning'
    rw [beginning, key, List.append_assoc] at beginning'
    exact List.append_cancel_left beginning'
  -- After the key comes an equality sign, so the run of letters ends there and no digit follows.
  have noLetter : ∀ c, afterKey.head? = some c → isAsciiLetter c = false := by
    intro c head
    cases afterKey with
    | nil => cases head
    | cons d ds =>
      obtain rfl : d = c := Option.some.inj head
      by_contra letter
      have white : isWhite d = false := isWhite_eq_false_of_isAsciiLetter (by simpa using letter)
      rw [Text.skipWhite_cons white] at equals
      obtain ⟨rfl, -⟩ := List.cons.inj equals
      revert letter
      decide
  have noDigit : ∀ c, afterKey.head? = some c → isDigit c = false :=
    fun c => isDigit_head?_eq_false equals
  have letters : ∀ c ∈ "NumberOfProjects".toList, isAsciiLetter c = true :=
    List.all_eq_true.1 (by decide)
  obtain ⟨-, dropped⟩ := Text.takeWhile_append_of_head letters noLetter
  obtain ⟨none, -⟩ := Text.takeWhile_append_of_head (p := isDigit) (s := []) (by simp) noDigit
  rw [same, dropped] at h
  simp only [List.nil_append] at none
  simp [none] at h

end SolutionSweep.Line
