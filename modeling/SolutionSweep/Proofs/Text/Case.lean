import SolutionSweep.Proofs.Text.Fold

/-!
# Letter case and white space

Changing the case of a text replaces characters one by one. White space stays what it is, and no
other character is replaced by nothing or by a text with white space in it, so it does not matter
whether a text is stripped before or afterwards. What stands in an upper case has itself for its
upper case.

* `KeepsWhite`: a replacement of characters that does not touch white space;
* `strip_upper`, `strip_fold`: stripping before and afterwards;
* `upperChar_of_mem`: the upper case of an upper case.
-/

namespace SolutionSweep

/-! ### White space -/

/-- The ranges of the code points of white space. -/
def whiteSpans : List (Nat × Nat) :=
  [(0x9, 0xd), (0x1c, 0x20), (0x85, 0x85), (0xa0, 0xa0), (0x1680, 0x1680), (0x2000, 0x200a),
    (0x2028, 0x2029), (0x202f, 0x202f), (0x205f, 0x205f), (0x3000, 0x3000)]

theorem isWhite_iff {c : Char} :
    isWhite c = true ↔ ∃ s ∈ whiteSpans, s.1 ≤ c.toNat ∧ c.toNat ≤ s.2 := by
  simp only [isWhite, Bool.or_eq_true, Bool.and_eq_true, decide_eq_true_eq, beq_iff_eq, whiteSpans,
    List.mem_cons, List.not_mem_nil, or_false, exists_eq_or_imp, exists_eq_left]
  omega

theorem isWhite_ofNat {n : Nat} (white : isWhite (Char.ofNat n) = true) :
    ∃ s ∈ whiteSpans, s.1 ≤ n ∧ n ≤ s.2 := by
  rcases toNat_ofNat n with same | null
  · have spans := isWhite_iff.1 white
    rwa [same] at spans
  · rw [null] at white
    cases white

/-- A replacement of characters that leaves white space as it is and makes none. -/
structure KeepsWhite (f : Char → Text) : Prop where
  white : ∀ c, isWhite c = true → f c = [c]
  ne_nil : ∀ c, f c ≠ []
  other : ∀ c, isWhite c = false → ∀ d ∈ f c, isWhite d = false

namespace KeepsWhite

variable {f : Char → Text}

theorem flatMap_white (h : KeepsWhite f) {t : Text} (white : ∀ c ∈ t, isWhite c = true) :
    t.flatMap f = t := by
  rw [List.flatMap_congr fun c mem => h.white c (white c mem), List.flatMap_singleton']

/-- A text without anything to strip has nothing to strip when its characters are replaced. -/
theorem strip_flatMap_of_bare (h : KeepsWhite f) {t : Text} (bare : Text.strip t = t) :
    Text.strip (t.flatMap f) = t.flatMap f := by
  obtain ⟨head, last⟩ := Text.strip_eq_self_iff.1 bare
  refine Text.strip_eq_self_iff.2 ⟨fun c first => ?_, fun c final => ?_⟩
  · cases t with
    | nil => cases first
    | cons d rest =>
      rw [List.flatMap_cons, List.head?_append_of_ne_nil _ (h.ne_nil d)] at first
      exact h.other d (head d rfl) c (List.mem_of_head? first)
  · rcases List.eq_nil_or_concat' t with rfl | ⟨front, d, rfl⟩
    · cases final
    · rw [List.flatMap_append, List.flatMap_singleton,
        List.getLast?_append_of_ne_nil _ (h.ne_nil d)] at final
      exact h.other d (last d (by simp)) c (List.mem_of_getLast? final)

/-- **Characters can be replaced before or after stripping.** -/
theorem strip_flatMap (h : KeepsWhite f) (t : Text) :
    Text.strip (t.flatMap f) = (Text.strip t).flatMap f := by
  obtain ⟨front, back, parts, white, white'⟩ := Text.exists_trim isWhite t
  have bare := h.strip_flatMap_of_bare (Text.trim_trim isWhite t)
  have whole : t.flatMap f = front ++ ((Text.strip t).flatMap f ++ back) := by
    nth_rewrite 1 [parts]
    rw [List.flatMap_append, List.flatMap_append, h.flatMap_white white, h.flatMap_white white']
    rfl
  rw [whole]
  exact Text.trim_append white white' bare

/-- What has nothing to strip when its characters are replaced had nothing before. -/
theorem bare_of_flatMap (h : KeepsWhite f) {t : Text}
    (bare : Text.strip (t.flatMap f) = t.flatMap f) : Text.strip t = t := by
  obtain ⟨front, back, parts, white, white'⟩ := Text.exists_trim isWhite t
  have length := congrArg List.length bare
  rw [h.strip_flatMap] at length
  nth_rewrite 2 [parts] at length
  rw [List.flatMap_append, List.flatMap_append, h.flatMap_white white, h.flatMap_white white']
    at length
  simp only [List.length_append, Text.strip] at length
  have noFront : front = [] := List.length_eq_zero_iff.1 (by omega)
  have noBack : back = [] := List.length_eq_zero_iff.1 (by omega)
  rw [noFront, noBack, List.append_nil] at parts
  exact parts.symm

end KeepsWhite

/-! ### Mappings that keep white space -/

namespace CaseMapping

variable {m : CaseMapping} {c : Char}

/-- A character in no run and without an expansion stands for itself. -/
theorem apply_eq_self (uncovered : ∀ r ∈ m.runs, r.covers c.toNat = false)
    (unlisted : ∀ e ∈ m.expansions, e.1 ≠ c.toNat) : m.apply c = [c] := by
  obtain ⟨r, mem, covers, -⟩ | ⟨codes, mem, -⟩ | self := m.apply_cases c
  · rw [uncovered r mem] at covers
    cases covers
  · exact absurd rfl (unlisted _ mem)
  · exact self

end CaseMapping

/-- No code point of a run is in a range, nor is any that it is mapped to. -/
def CaseRun.avoids (r : CaseRun) (s : Nat × Nat) : Bool :=
  (Nat.blt r.last s.1 || Nat.blt s.2 r.first) &&
    (Nat.blt (r.last + r.shift).toNat s.1 || Nat.blt s.2 (r.first + r.shift).toNat)

/-- No character that a mapping maps is white space, nor is any that it is mapped to. -/
def CaseMapping.avoidsWhite (m : CaseMapping) : Bool :=
  m.runs.all (fun r => whiteSpans.all r.avoids) &&
    m.expansions.all fun e => !e.2.isEmpty &&
      (e.1 :: e.2).all fun n => whiteSpans.all fun s => Nat.blt n s.1 || Nat.blt s.2 n

/-- Such a mapping keeps white space. -/
theorem CaseMapping.keepsWhite {m : CaseMapping} (avoids : m.avoidsWhite = true) :
    KeepsWhite m.apply := by
  simp only [avoidsWhite, Bool.and_eq_true, List.all_eq_true, CaseRun.avoids, Bool.or_eq_true,
    Nat.blt_eq, Bool.not_eq_true', List.isEmpty_eq_false_iff] at avoids
  obtain ⟨runs, expansions⟩ := avoids
  refine ⟨fun c white => apply_eq_self (fun r mem => ?_) fun e mem eq => ?_, fun c => ?_,
    fun c other d mem => ?_⟩
  · obtain ⟨s, span, low, high⟩ := isWhite_iff.1 white
    have apart := (runs r mem s span).1
    rw [← Bool.not_eq_true, CaseRun.covers]
    simp only [Bool.and_eq_true, decide_eq_true_eq]
    omega
  · obtain ⟨s, span, low, high⟩ := isWhite_iff.1 white
    have apart := (expansions e mem).2 e.1 List.mem_cons_self s span
    omega
  · obtain ⟨r, -, -, eq⟩ | ⟨codes, mem, eq⟩ | eq := m.apply_cases c
    · rw [eq]
      exact List.cons_ne_nil _ _
    · rw [eq]
      exact fun none => (expansions _ mem).1 (List.map_eq_nil_iff.1 none)
    · rw [eq]
      exact List.cons_ne_nil _ _
  · rw [← Bool.not_eq_true]
    intro white
    obtain ⟨r, run, covers, eq⟩ | ⟨codes, listed, eq⟩ | eq := m.apply_cases c
    · rw [eq, List.mem_singleton] at mem
      obtain ⟨s, span, low, high⟩ := isWhite_ofNat (mem ▸ white)
      have apart := (runs r run s span).2
      simp only [CaseRun.covers, Bool.and_eq_true, decide_eq_true_eq] at covers
      omega
    · rw [eq] at mem
      obtain ⟨n, inside, rfl⟩ := List.mem_map.1 mem
      obtain ⟨s, span, low, high⟩ := isWhite_ofNat white
      have apart := (expansions _ listed).2 n (List.mem_cons_of_mem _ inside) s span
      omega
    · rw [eq, List.mem_singleton] at mem
      rw [mem, other] at white
      cases white

/-! ### Letters of ASCII -/

/-- The ASCII upper case of a character is the character, or that of a small letter. -/
theorem toUpper_cases (c : Char) : c.toUpper = c ∨
    (0x61 ≤ c.toNat ∧ c.toNat ≤ 0x7a) ∧ c.toUpper.toNat = c.toNat - 32 := by
  unfold Char.toUpper
  split
  · rename_i small
    have low : 0x61 ≤ c.toNat := UInt32.le_iff_toNat_le.1 small.1
    have high : c.toNat ≤ 0x7a := UInt32.le_iff_toNat_le.1 small.2
    have code : (c.val + ('A'.val - 'a'.val)).toNat = (c.toNat + (2 ^ 32 - 32)) % 2 ^ 32 :=
      UInt32.toNat_add _ _
    exact .inr ⟨⟨low, high⟩, code.trans (by omega)⟩
  · exact .inl rfl

/-- The ASCII lower case of a character is the character, or that of a capital letter. -/
theorem toLower_cases (c : Char) : c.toLower = c ∨
    (0x41 ≤ c.toNat ∧ c.toNat ≤ 0x5a) ∧ c.toLower.toNat = c.toNat + 32 := by
  unfold Char.toLower
  split
  · rename_i capital
    have low : 0x41 ≤ c.toNat := UInt32.le_iff_toNat_le.1 capital.1
    have high : c.toNat ≤ 0x5a := UInt32.le_iff_toNat_le.1 capital.2
    have code : (c.val + ('a'.val - 'A'.val)).toNat = (c.toNat + 32) % 2 ^ 32 :=
      UInt32.toNat_add _ _
    exact .inr ⟨⟨low, high⟩, code.trans (by omega)⟩
  · exact .inl rfl

/-- No letter of ASCII is white space. -/
theorem isWhite_eq_false_of_letter {c : Char} (letter : 0x41 ≤ c.toNat ∧ c.toNat ≤ 0x7a) :
    isWhite c = false := by
  rw [← Bool.not_eq_true]
  intro white
  obtain ⟨s, span, low, high⟩ := isWhite_iff.1 white
  have apart : ∀ s ∈ whiteSpans, s.2 < 0x41 ∨ 0x7a < s.1 := by decide
  have apart := apart s span
  omega

/-- White space is kept if only letters of ASCII are replaced there, and by letters. -/
theorem KeepsWhite.withAscii {f : Char → Text} (h : KeepsWhite f) {a : Char → Char}
    (letters : ∀ c, a c = c ∨ isWhite c = false ∧ isWhite (a c) = false) :
    KeepsWhite fun c => if c.toNat < 128 then [a c] else f c := by
  refine ⟨fun c white => ?_, fun c => ?_, fun c other d mem => ?_⟩
  · split
    · obtain same | ⟨other, -⟩ := letters c
      · rw [same]
      · rw [white] at other
        cases other
    · exact h.white c white
  · split
    · exact List.cons_ne_nil _ _
    · exact h.ne_nil c
  · split at mem
    · rw [List.mem_singleton.1 mem]
      obtain same | ⟨-, other'⟩ := letters c
      · rw [same, other]
      · exact other'
    · exact h.other c other d mem

theorem keepsWhite_upperChar : KeepsWhite upperChar := by
  have beyond : KeepsWhite upperMapping.apply := CaseMapping.keepsWhite (by decide +kernel)
  refine beyond.withAscii fun c => (toUpper_cases c).imp_right fun ⟨small, code⟩ => ?_
  exact ⟨isWhite_eq_false_of_letter (by omega), isWhite_eq_false_of_letter (by omega)⟩

theorem keepsWhite_foldChar : KeepsWhite foldChar := by
  have beyond : KeepsWhite foldMapping.apply := CaseMapping.keepsWhite (by decide +kernel)
  refine beyond.withAscii fun c => (toLower_cases c).imp_right fun ⟨capital, code⟩ => ?_
  exact ⟨isWhite_eq_false_of_letter (by omega), isWhite_eq_false_of_letter (by omega)⟩

namespace Text

/-- **A text can be stripped before it is turned into upper case, or afterwards.** -/
theorem strip_upper (t : Text) : strip (upper t) = upper (strip t) :=
  keepsWhite_upperChar.strip_flatMap t

/-- **A text can be stripped before its case is forgotten, or afterwards.** -/
theorem strip_fold (t : Text) : strip (fold t) = fold (strip t) :=
  keepsWhite_foldChar.strip_flatMap t

end Text

/-! ### Upper case twice

Sets of code points are numbers here, with a bit for each code point in the set, so that a single
computation shows two large sets to be disjoint. -/

/-- The code points of a run that starts at `first`, as bits. -/
def runBits (first step : Nat) : Nat → Nat
  | 0 => 0
  | count + 1 => runBits first step count ||| 1 <<< (first + step * count)

theorem testBit_one_shiftLeft {m n : Nat} : (1 <<< m).testBit n = true ↔ n = m := by
  rw [Nat.one_shiftLeft, Nat.testBit_two_pow, decide_eq_true_eq, eq_comm]

theorem testBit_runBits {first step count n : Nat} :
    (runBits first step count).testBit n = true ↔ ∃ i < count, n = first + step * i := by
  induction count with
  | zero => simp [runBits]
  | succ count ih =>
    rw [runBits, Nat.testBit_or, Bool.or_eq_true, ih, testBit_one_shiftLeft]
    simp only [Nat.lt_add_one_iff_lt_or_eq, or_and_right, exists_or, exists_eq_left]

/-- The union of some sets of code points. -/
def unionBits (sets : List Nat) : Nat := sets.foldr (· ||| ·) 0

theorem testBit_unionBits {sets : List Nat} {n : Nat} :
    (unionBits sets).testBit n = true ↔ ∃ s ∈ sets, s.testBit n = true := by
  induction sets with
  | nil => simp [unionBits]
  | cons s rest ih =>
    rw [unionBits, List.foldr_cons, Nat.testBit_or, Bool.or_eq_true]
    change _ ∨ (unionBits rest).testBit n = true ↔ _
    rw [ih, List.exists_mem_cons_iff]

namespace CaseRun

/-- How many code points belong to a run. -/
def count (r : CaseRun) : Nat := (r.last - r.first) / r.step + 1

/-- The code points of a run, and those that they are mapped to. -/
def sources (r : CaseRun) : Nat := runBits r.first r.step r.count

def images (r : CaseRun) : Nat := runBits (r.first + r.shift).toNat r.step r.count

theorem exists_of_covers {r : CaseRun} {n : Nat} (covers : r.covers n = true) :
    ∃ i < r.count, n = r.first + r.step * i := by
  simp only [CaseRun.covers, Bool.and_eq_true, decide_eq_true_eq, beq_iff_eq] at covers
  obtain ⟨⟨first, last⟩, step⟩ := covers
  refine ⟨(n - r.first) / r.step, ?_, ?_⟩
  · exact Nat.lt_succ_of_le (Nat.div_le_div_right (by omega))
  · have parts := Nat.div_add_mod (n - r.first) r.step
    omega

end CaseRun

/-- The lower-case letters of ASCII as a run. -/
def asciiRun : CaseRun := ⟨0x61, 0x7a, 1, -32⟩

/-- The code points of the characters that have an upper case of their own. -/
def loweredBits : Nat :=
  unionBits ((asciiRun :: upperMapping.runs).map CaseRun.sources ++
    upperMapping.expansions.map fun e => 1 <<< e.1)

/-- The code points that an upper case consists of. -/
def raisedBits : Nat :=
  unionBits (upperMapping.runs.map CaseRun.images ++
    (upperMapping.expansions.flatMap (·.2)).map (1 <<< ·))

/-- The two sets are disjoint, and no run is shifted below zero. -/
theorem upperMapping_settled : loweredBits &&& raisedBits = 0 ∧
    ∀ r ∈ upperMapping.runs, 0 ≤ (r.first : Int) + r.shift := by
  decide +kernel

/-- What an upper case consists of has no upper case of its own. -/
theorem upperChar_of_testBit {n : Nat} (raised : raisedBits.testBit n = true) :
    upperChar (Char.ofNat n) = [Char.ofNat n] := by
  have other : ∀ s ∈ (asciiRun :: upperMapping.runs).map CaseRun.sources ++
      upperMapping.expansions.map (fun e => 1 <<< e.1), ¬ s.testBit n = true := by
    intro s mem bit
    have lowered : loweredBits.testBit n = true := testBit_unionBits.2 ⟨s, mem, bit⟩
    have both : (loweredBits &&& raisedBits).testBit n = true := by
      rw [Nat.testBit_and, lowered, raised, Bool.and_true]
    rw [upperMapping_settled.1, Nat.zero_testBit] at both
    cases both
  have uncovered : ∀ r ∈ asciiRun :: upperMapping.runs, r.covers n = false := by
    intro r mem
    rw [← Bool.not_eq_true]
    intro covers
    exact other _ (List.mem_append_left _ (List.mem_map_of_mem mem))
      (testBit_runBits.2 (CaseRun.exists_of_covers covers))
  rcases toNat_ofNat n with same | null
  · unfold upperChar
    rw [same]
    split
    · obtain self | ⟨⟨low, high⟩, -⟩ := toUpper_cases (Char.ofNat n)
      · rw [self]
      · have ascii := uncovered _ List.mem_cons_self
        rw [same] at low high
        simp [CaseRun.covers, asciiRun, low, high, Nat.mod_one] at ascii
    · refine CaseMapping.apply_eq_self (fun r mem => ?_) fun e mem eq => ?_
      · rw [same]
        exact uncovered r (List.mem_cons_of_mem _ mem)
      · refine other _ (List.mem_append_right _ (List.mem_map_of_mem mem)) ?_
        rw [testBit_one_shiftLeft, eq, same]
  · rw [null]
    rfl

/-- **What stands in an upper case is its own upper case.** -/
theorem upperChar_of_mem {c d : Char} (mem : d ∈ upperChar c) : upperChar d = [d] := by
  unfold upperChar at mem
  split at mem
  · rename_i ascii
    rw [List.mem_singleton.1 mem]
    obtain self | ⟨small, code⟩ := toUpper_cases c
    · rw [self, upperChar, if_pos ascii, self]
    · rw [upperChar, if_pos (by omega)]
      obtain self | ⟨small', -⟩ := toUpper_cases c.toUpper
      · rw [self]
      · omega
  · obtain ⟨r, run, covers, eq⟩ | ⟨codes, listed, eq⟩ | eq := upperMapping.apply_cases c
    · rw [eq] at mem
      rw [List.mem_singleton.1 mem]
      refine upperChar_of_testBit (testBit_unionBits.2
        ⟨_, List.mem_append_left _ (List.mem_map_of_mem run), testBit_runBits.2 ?_⟩)
      obtain ⟨i, less, place⟩ := CaseRun.exists_of_covers covers
      have start := upperMapping_settled.2 r run
      exact ⟨i, less, by rw [place]; omega⟩
    · rw [eq] at mem
      obtain ⟨n, inside, rfl⟩ := List.mem_map.1 mem
      refine upperChar_of_testBit (testBit_unionBits.2 ⟨_, List.mem_append_right _
        (List.mem_map_of_mem (List.mem_flatMap.2 ⟨_, listed, inside⟩)), ?_⟩)
      rw [testBit_one_shiftLeft]
    · rename_i large
      rw [eq, List.mem_singleton] at mem
      rw [mem, upperChar, if_neg large, eq]

namespace Text

/-- A text of characters that are their own upper case is its own upper case. -/
theorem upper_eq_self {t : Text} (own : ∀ c ∈ t, upperChar c = [c]) : upper t = t := by
  rw [upper, List.flatMap_congr own, List.flatMap_singleton']

theorem upperChar_of_mem_upper {t : Text} {d : Char} (mem : d ∈ upper t) : upperChar d = [d] := by
  obtain ⟨c, -, inside⟩ := List.mem_flatMap.1 mem
  exact upperChar_of_mem inside

end Text

end SolutionSweep
