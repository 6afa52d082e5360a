import SolutionSweep.Text.Case
import SolutionSweep.Text.Word
import SolutionSweep.Proofs.Text.Basic
import Mathlib.Data.List.Infix
import Mathlib.Data.List.Forall2

/-!
# Searching text for marks

A search tries a recogniser at one character after another. It passes by a text in which the
recogniser has nothing to begin with, if nothing begins there and reaches into what follows either.

* `Spells`, `Mentions`, `MentionsWord`: words in any letter case;
* `PassedBy`: a text that a search passes by;
* `passedBy_of_head`, `passedBy_of_getLast`: how marks are kept from reaching into what follows;
* `cut?_append`: a search for a literal mark.
-/

namespace SolutionSweep

/-! ### Kinds of characters -/

/-- The code points of white space. -/
def whitePoints : List Nat :=
  [0x9, 0xa, 0xb, 0xc, 0xd, 0x1c, 0x1d, 0x1e, 0x1f, 0x20, 0x85, 0xa0, 0x1680, 0x2000, 0x2001,
    0x2002, 0x2003, 0x2004, 0x2005, 0x2006, 0x2007, 0x2008, 0x2009, 0x200a, 0x2028, 0x2029, 0x202f,
    0x205f, 0x3000]

theorem mem_whitePoints {c : Char} (h : isWhite c = true) : c.toNat ∈ whitePoints := by
  simp only [isWhite, Bool.or_eq_true, Bool.and_eq_true, decide_eq_true_eq, beq_iff_eq] at h
  simp only [whitePoints, List.mem_cons, List.not_mem_nil, or_false]
  omega

/-- White space is no part of a word. -/
theorem isWord_eq_false_of_isWhite {c : Char} (h : isWhite c = true) : isWord c = false := by
  have table : ∀ n ∈ whitePoints, isWord (Char.ofNat n) = false := by decide +kernel
  have entry := table c.toNat (mem_whitePoints h)
  rwa [Char.ofNat_toNat] at entry

theorem ne_of_isWhite {c d : Char} (white : isWhite c = true) (other : isWhite d = false) :
    c ≠ d := by
  rintro rfl
  rw [white] at other
  cases other

/-- Only ASCII has characters whose ASCII lower case is another one. -/
theorem toLower_eq_self {c : Char} (large : ¬ c.toNat < 128) : c.toLower = c := by
  unfold Char.toLower
  rw [dif_neg]
  rintro ⟨-, le⟩
  exact large (Nat.lt_of_le_of_lt (UInt32.le_iff_toNat_le.1 le) (by decide))

/-- The letters in any case are parts of words. -/
theorem isWord_of_isLetterIgnoringCase {letter c : Char} (lower : letter.isLower = true)
    (h : isLetterIgnoringCase letter c = true) : isWord c = true := by
  have table : ∀ n < 128, (Char.ofNat n).toLower.isLower = true →
      isWord (Char.ofNat n) = true := by decide +kernel
  unfold isLetterIgnoringCase at h
  simp only [Bool.or_eq_true, Bool.and_eq_true, beq_iff_eq] at h
  rcases h with ((rfl | ⟨-, rfl⟩) | ⟨-, rfl⟩) | ⟨-, rfl | rfl⟩
  · have small : c.toNat < 128 := by
      by_contra large
      rw [toLower_eq_self large] at lower
      have le : c.val ≤ 'z'.val := of_decide_eq_true (Bool.and_eq_true_iff.1 lower).2
      exact large (Nat.lt_of_le_of_lt (UInt32.le_iff_toNat_le.1 le) (by decide))
    have entry := table c.toNat small
    rw [Char.ofNat_toNat] at entry
    exact entry lower
  all_goals decide +kernel

/-- Only letters have more than one case. -/
theorem eq_of_isLetterIgnoringCase {letter c : Char} (other : letter.isLower = false)
    (h : isLetterIgnoringCase letter c = true) : c = letter := by
  have table : ∀ n < 128, (Char.ofNat n).toLower.isLower = false →
      (Char.ofNat n).toLower = Char.ofNat n := by decide +kernel
  unfold isLetterIgnoringCase at h
  simp only [Bool.or_eq_true, Bool.and_eq_true, beq_iff_eq] at h
  rcases h with ((rfl | ⟨rfl, -⟩) | ⟨rfl, -⟩) | ⟨rfl, -⟩
  · by_cases small : c.toNat < 128
    · have entry := table c.toNat small
      rw [Char.ofNat_toNat] at entry
      exact (entry other).symm
    · exact (toLower_eq_self small).symm
  all_goals exact absurd other (by decide)

namespace Text

/-! ### Blanks and optional characters -/

theorem not_mem_of_isBlank {t : Text} {c : Char} (blank : isBlank t = true)
    (other : isWhite c = false) : c ∉ t := by
  intro mem
  rw [List.all_eq_true.1 blank c mem] at other
  cases other

theorem skipWhite_of_head {t : Text} (stop : ∀ c, t.head? = some c → isWhite c = false) :
    skipWhite t = t := by
  cases t with
  | nil => rfl
  | cons c t => exact skipWhite_cons (stop c rfl) t

/-- White space in front of anything else is skipped. -/
theorem skipWhite_append_of_isBlank {blanks t : Text} (blank : isBlank blanks = true)
    (stop : ∀ c, t.head? = some c → isWhite c = false) : skipWhite (blanks ++ t) = t := by
  rw [skipWhite_append (List.all_eq_true.1 blank), skipWhite_of_head stop]

theorem skipWhite_append_cons {blanks : Text} (blank : isBlank blanks = true) {c : Char}
    (other : isWhite c = false) (t : Text) : skipWhite (blanks ++ c :: t) = c :: t := by
  rw [skipWhite_append (List.all_eq_true.1 blank), skipWhite_cons other]

theorem isBlank_takeWhile (t : Text) : isBlank (t.takeWhile isWhite) = true :=
  List.all_eq_true.2 fun _ => isWhite_of_mem_takeWhile

/-- Only blank text has nothing between the white space at its ends. -/
theorem strip_eq_nil_iff {t : Text} : strip t = [] ↔ isBlank t = true := by
  rw [isBlank_iff_skipWhite_eq_nil, strip, trim, List.reverse_eq_nil_iff, List.dropWhile_eq_nil_iff]
  constructor
  · intro white
    cases skipped : skipWhite t with
    | nil => rfl
    | cons c rest =>
      -- What is left begins with no white space.
      have stop : isWhite c = false := by
        have := List.head?_dropWhile_not isWhite t
        rw [← skipWhite, skipped] at this
        simpa using this
      have := white c (by rw [← skipWhite, skipped]; simp)
      rw [stop] at this
      cases this
  · intro skipped c mem
    rw [← skipWhite, skipped] at mem
    cases mem

theorem skip_of_head {c : Char} {t : Text} (other : t.head? ≠ some c) : skip [c] t = t := by
  cases t with
  | nil => rfl
  | cons d t =>
    have ne : c ≠ d := fun eq => other (by rw [eq]; rfl)
    simp [skip, after?, ne]

/-- A character is there to be skipped or not. -/
theorem exists_skip (c : Char) (t : Text) :
    ∃ here : Bool, t = (if here then [c] else []) ++ skip [c] t := by
  by_cases head : t.head? = some c
  · obtain ⟨t, rfl⟩ := List.head?_eq_some_iff.1 head
    exact ⟨true, by simp [skip, after?]⟩
  · exact ⟨false, by simp [skip_of_head head]⟩

/-! ### Words in any letter case -/

/-- The second text spells the first one, letter case aside. -/
def Spells (word spelling : Text) : Prop :=
  List.Forall₂ (fun letter c => isLetterIgnoringCase letter c = true) word spelling

/-- A word is spelled somewhere in a text, letter case aside. -/
def Mentions (word t : Text) : Prop := ∃ spelling, Spells word spelling ∧ spelling <:+: t

/-- A word is spelled in a text with a word boundary on either side, letter case aside. -/
def MentionsWord (word t : Text) : Prop :=
  ∃ before spelling after, t = before ++ (spelling ++ after) ∧ Spells word spelling ∧
    (∀ c, before.getLast? = some c → isWord c = false) ∧ endsWord after = true

instance (word spelling : Text) : Decidable (Spells word spelling) :=
  inferInstanceAs (Decidable (List.Forall₂ _ word spelling))

theorem afterIgnoringCase?_eq_some_iff {word t rest : Text} :
    afterIgnoringCase? word t = some rest ↔ ∃ spelling, t = spelling ++ rest ∧
      Spells word spelling := by
  induction word generalizing t with
  | nil =>
    constructor
    · intro h
      obtain rfl := Option.some.inj h
      exact ⟨[], rfl, .nil⟩
    · rintro ⟨_, rfl, spells⟩
      cases spells
      rfl
  | cons letter word ih =>
    cases t with
    | nil =>
      constructor
      · intro h
        cases h
      · rintro ⟨_, eq, spells⟩
        cases spells
        cases eq
    | cons c t =>
      rw [afterIgnoringCase?]
      split
      case isTrue here =>
        rw [ih]
        constructor
        · rintro ⟨spelling, rfl, spells⟩
          exact ⟨c :: spelling, rfl, .cons here spells⟩
        · rintro ⟨_, eq, spells⟩
          cases spells with
          | cons head tail =>
            obtain ⟨rfl, rfl⟩ := List.cons.inj eq
            exact ⟨_, rfl, tail⟩
      case isFalse other =>
        constructor
        · intro h
          cases h
        · rintro ⟨_, eq, spells⟩
          cases spells with
          | cons head tail =>
            obtain ⟨rfl, rfl⟩ := List.cons.inj eq
            exact absurd head other

/-- The spelling of a word in letters is a word. -/
theorem Spells.isWord_of_mem {word spelling : Text} (h : Spells word spelling)
    (letters : ∀ m ∈ word, m.isLower = true) : ∀ c ∈ spelling, isWord c = true := by
  induction h with
  | nil => exact nofun
  | @cons letter c word spelling head _ ih =>
    intro d mem
    rcases List.mem_cons.1 mem with rfl | mem
    · exact isWord_of_isLetterIgnoringCase (letters letter List.mem_cons_self) head
    · exact ih (fun m mem => letters m (List.mem_cons_of_mem _ mem)) d mem

/-- Characters that no letter of a word is spelled by. -/
theorem Spells.not_mem {word spelling : Text} {d : Char} (h : Spells word spelling)
    (other : word.all (fun m => !isLetterIgnoringCase m d) = true) : d ∉ spelling := by
  induction h with
  | nil => exact List.not_mem_nil
  | @cons letter c word spelling head _ ih =>
    rw [List.all_cons, Bool.and_eq_true] at other
    rw [List.mem_cons, not_or]
    refine ⟨?_, ih other.2⟩
    rintro rfl
    rw [head] at other
    cases other.1

/-- What is no letter is spelled by itself. -/
theorem Spells.mem {word spelling : Text} {m : Char} (h : Spells word spelling) (mem : m ∈ word)
    (other : m.isLower = false) : m ∈ spelling := by
  induction h with
  | nil => cases mem
  | @cons letter c word spelling head _ ih =>
    rcases List.mem_cons.1 mem with rfl | mem
    · rw [eq_of_isLetterIgnoringCase other head]
      exact List.mem_cons_self
    · exact List.mem_cons_of_mem c (ih mem)

/-- A spelling of a word that begins with no letter begins with the same character. -/
theorem Spells.head?_append {letter : Char} {word spelling : Text}
    (h : Spells (letter :: word) spelling) (other : letter.isLower = false) (rest : Text) :
    (spelling ++ rest).head? = some letter := by
  cases h with
  | cons head _ => rw [eq_of_isLetterIgnoringCase other head]; rfl

theorem Spells.afterIgnoringCase? {word spelling : Text} (h : Spells word spelling) (rest : Text) :
    afterIgnoringCase? word (spelling ++ rest) = some rest :=
  afterIgnoringCase?_eq_some_iff.2 ⟨spelling, rfl, h⟩

/-- A word is mentioned where it can be read. -/
theorem mentions_iff {word t : Text} :
    Mentions word t ↔ ∃ s ∈ t.tails, (Text.afterIgnoringCase? word s).isSome = true := by
  constructor
  · rintro ⟨w, spells, before, after, rfl⟩
    refine ⟨w ++ after, (List.mem_tails _ _).2 ⟨before, by rw [List.append_assoc]⟩, ?_⟩
    rw [spells.afterIgnoringCase?]
    rfl
  · rintro ⟨s, suffix, found⟩
    obtain ⟨after, found⟩ := Option.isSome_iff_exists.1 found
    obtain ⟨w, rfl, spells⟩ := afterIgnoringCase?_eq_some_iff.1 found
    have inside : w ++ after <:+: t := ((List.mem_tails _ _).1 suffix).isInfix
    exact ⟨w, spells, (List.prefix_append w after).isInfix.trans inside⟩

instance (word t : Text) : Decidable (Mentions word t) := decidable_of_iff _ mentions_iff.symm

/-- Whether a word with boundaries on both sides is spelled at a place of a text. -/
def hasWordAt (word t : Text) (k : Nat) : Bool :=
  (t.take k).getLast?.all (fun c => !isWord c) &&
    (Text.afterIgnoringCase? word (t.drop k)).any endsWord

theorem mentionsWord_iff {word t : Text} :
    MentionsWord word t ↔ ∃ k ∈ List.range (t.length + 1), hasWordAt word t k = true := by
  constructor
  · rintro ⟨before, w, after, rfl, spells, left, right⟩
    refine ⟨before.length, List.mem_range.2 (by rw [List.length_append]; omega), ?_⟩
    rw [hasWordAt, List.take_left, List.drop_left, spells.afterIgnoringCase?, Bool.and_eq_true]
    exact ⟨by simpa [Option.all_eq_true] using left, right⟩
  · rintro ⟨k, -, here⟩
    obtain ⟨left, right⟩ := Bool.and_eq_true_iff.1 here
    obtain ⟨after, read, right⟩ := (Option.any_eq_true _ _).1 right
    obtain ⟨w, eq, spells⟩ := afterIgnoringCase?_eq_some_iff.1 read
    exact ⟨t.take k, w, after, by rw [← eq, List.take_append_drop], spells,
      by simpa [Option.all_eq_true] using left, right⟩

instance (word t : Text) : Decidable (MentionsWord word t) :=
  decidable_of_iff _ mentionsWord_iff.symm

/-! ### What a search passes by -/

/-- A search with a recogniser passes by a text in front of another one. -/
def PassedBy {α : Type} (f : Text → Option α) (t rest : Text) : Prop :=
  ∀ b, b ≠ [] → b <:+ t → f (b ++ rest) = none

variable {α : Type} {f : Text → Option α} {t rest : Text}

theorem PassedBy.cons_iff {c : Char} :
    PassedBy f (c :: t) rest ↔ f (c :: (t ++ rest)) = none ∧ PassedBy f t rest := by
  constructor
  · intro h
    exact ⟨h (c :: t) (List.cons_ne_nil _ _) List.suffix_rfl,
      fun b ne suffix => h b ne (suffix.trans (List.suffix_cons _ _))⟩
  · rintro ⟨head, tail⟩ b ne suffix
    rcases List.suffix_cons_iff.1 suffix with rfl | suffix
    · exact head
    · exact tail b ne suffix

section Marks

variable {R : Char → Char → Prop} {mark : Text}

theorem exists_mem_drop {b z : Text} {c : Char} (reads : List.Forall₂ R mark (b ++ c :: z)) :
    ∃ m ∈ mark.drop b.length, R m c := by
  have tail := List.forall₂_drop_append mark b (c :: z) reads
  cases parts : mark.drop b.length with
  | nil =>
    rw [parts] at tail
    cases tail
  | cons m ms =>
    rw [parts] at tail
    cases tail with
    | cons head _ => exact ⟨m, List.mem_cons_self, head⟩

/-- A recogniser that begins with a mark passes by a text without the mark, if the mark does not
reach from the text into what follows. -/
theorem passedBy_of_apart
    (own : ∀ s a, f s = some a → ∃ w back, s = w ++ back ∧ List.Forall₂ R mark w)
    (absent : ∀ w, List.Forall₂ R mark w → ¬ w <:+: t)
    (apart : ∀ b z, b ≠ [] → z ≠ [] → b <:+ t → z <+: rest → ¬ List.Forall₂ R mark (b ++ z)) :
    PassedBy f t rest := by
  intro b ne suffix
  by_contra found
  obtain ⟨a, found⟩ := Option.ne_none_iff_exists'.1 found
  obtain ⟨w, back, eq, reads⟩ := own _ _ found
  rcases List.append_eq_append_iff.1 eq with ⟨z, rfl, tail⟩ | ⟨z, rfl, -⟩
  · by_cases inside : z = []
    · rw [inside, List.append_nil] at reads
      exact absent b reads suffix.isInfix
    · exact apart b z ne inside suffix ⟨back, tail.symm⟩ reads
  · exact absent w reads ((List.prefix_append w z).isInfix.trans suffix.isInfix)

/-- A mark does not reach into what follows if that does not begin like an inner part of it. -/
theorem passedBy_of_head
    (own : ∀ s a, f s = some a → ∃ w back, s = w ++ back ∧ List.Forall₂ R mark w)
    (absent : ∀ w, List.Forall₂ R mark w → ¬ w <:+: t)
    (other : ∀ c, rest.head? = some c → ∀ m ∈ mark.tail, ¬ R m c) : PassedBy f t rest := by
  refine passedBy_of_apart own absent fun b z ne inside _ follows reads => ?_
  obtain ⟨c, z, rfl⟩ := List.exists_cons_of_ne_nil inside
  obtain ⟨back, rfl⟩ := follows
  obtain ⟨m, mem, pair⟩ := exists_mem_drop reads
  obtain ⟨d, b, rfl⟩ := List.exists_cons_of_ne_nil ne
  rw [List.length_cons, ← List.drop_tail] at mem
  exact other c rfl m (List.mem_of_mem_drop mem) pair

/-- A mark does not reach into what follows if it does not have the last character of the text. -/
theorem passedBy_of_getLast
    (own : ∀ s a, f s = some a → ∃ w back, s = w ++ back ∧ List.Forall₂ R mark w)
    (absent : ∀ w, List.Forall₂ R mark w → ¬ w <:+: t)
    (other : ∀ c, t.getLast? = some c → ∀ m ∈ mark, ¬ R m c) : PassedBy f t rest := by
  refine passedBy_of_apart own absent fun b z ne _ suffix _ reads => ?_
  obtain ⟨b, d, rfl⟩ := (List.eq_nil_or_concat' b).resolve_left ne
  obtain ⟨front, rfl⟩ := suffix
  rw [List.append_assoc] at reads
  obtain ⟨m, mem, pair⟩ := exists_mem_drop reads
  exact other d (by simp) m (List.mem_of_mem_drop mem) pair

end Marks

/-! ### Literal marks -/

/-- A search for a mark goes on behind a text that it passes by. -/
theorem cut?_append {mark : Text} (passed : PassedBy (after? mark) t rest) :
    cut? mark (t ++ rest) =
      (cut? mark rest).map fun (before, back) => (t ++ before, back) := by
  induction t with
  | nil => simp
  | cons c t ih =>
    obtain ⟨here, later⟩ := PassedBy.cons_iff.1 passed
    rw [List.cons_append, cut?, here, ih later, Option.map_map]
    rfl

theorem cut?_of_after? {mark t rest : Text} (h : after? mark t = some rest) :
    cut? mark t = some ([], rest) := by
  cases t with
  | nil => rw [cut?, h]; rfl
  | cons c t => rw [cut?, h]

/-- The first occurrence of a character. -/
theorem cut?_singleton {c : Char} (absent : c ∉ t) (rest : Text) :
    cut? [c] (t ++ c :: rest) = some (t, rest) := by
  have passed : PassedBy (after? [c]) t (c :: rest) := by
    intro b ne suffix
    cases b with
    | nil => exact absurd rfl ne
    | cons d b =>
      have other : c ≠ d := by
        rintro rfl
        exact absent (suffix.subset List.mem_cons_self)
      simp [after?, other]
  rw [cut?_append passed]
  simp [cut?, after?]

end Text

end SolutionSweep
