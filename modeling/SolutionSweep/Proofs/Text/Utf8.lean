import SolutionSweep.Text.Utf8

/-!
# Reading back what has been written

The bytes of a text spell the text again, without a gap.

* `units_encodeChar`: the bytes of a character spell that character, whatever follows them;
* `decode?_eq_some_iff`: the text of bytes that leave no gap;
* `decode?_encode`: the text of the bytes of a text;
* `decode?_append_encode`: the text of bytes with a text behind them.
-/

namespace SolutionSweep.Utf8

theorem toNat_toUInt8 {n : Nat} (small : n < 256) : n.toUInt8.toNat = n := by
  simpa using Nat.mod_eq_of_lt small

/-- The first byte of a character of two bytes. -/
theorem start_two {n : Nat} (low : 0xc2 ≤ n) (high : n < 0xe0) :
    start n.toUInt8 = ([], some ⟨n - 0xc0, 1, 0x80, 0xbf⟩) := by
  simp only [start, toNat_toUInt8 (show n < 256 by omega)]
  rw [if_neg (by omega), if_neg (by omega), if_pos high]

/-- The first byte of a character of three bytes. -/
theorem start_three {n : Nat} (low : 0xe0 ≤ n) (high : n < 0xf0) :
    start n.toUInt8 = ([], some ⟨n - 0xe0, 2, if n = 0xe0 then 0xa0 else 0x80,
      if n = 0xed then 0x9f else 0xbf⟩) := by
  simp only [start, toNat_toUInt8 (show n < 256 by omega)]
  rw [if_neg (by omega), if_neg (by omega), if_neg (by omega), if_pos high]

/-- The first byte of a character of four bytes. -/
theorem start_four {n : Nat} (low : 0xf0 ≤ n) (high : n < 0xf5) :
    start n.toUInt8 = ([], some ⟨n - 0xf0, 3, if n = 0xf0 then 0x90 else 0x80,
      if n = 0xf4 then 0x8f else 0xbf⟩) := by
  simp only [start, toNat_toUInt8 (show n < 256 by omega)]
  rw [if_neg (by omega), if_neg (by omega), if_neg (by omega), if_neg (by omega), if_pos high]

/-- A byte within the bounds goes on with the character that is begun. -/
theorem units_within {value missing low high n : Nat} (rest : Bytes) (above : low ≤ n)
    (below : n ≤ high) (small : high < 256) (more : missing ≠ 1) :
    units (some ⟨value, missing, low, high⟩) (n.toUInt8 :: rest) =
      units (some ⟨value * 64 + (n - 0x80), missing - 1, 0x80, 0xbf⟩) rest := by
  simp only [units, step, toNat_toUInt8 (show n < 256 by omega)]
  rw [if_pos ⟨above, below⟩, if_neg more, List.nil_append]

/-- The last byte completes the character. -/
theorem units_last {value low high n : Nat} (rest : Bytes) (above : low ≤ n) (below : n ≤ high)
    (small : high < 256) :
    units (some ⟨value, 1, low, high⟩) (n.toUInt8 :: rest) =
      some (Char.ofNat (value * 64 + (n - 0x80))) :: units none rest := by
  simp only [units, step, toNat_toUInt8 (show n < 256 by omega)]
  rw [if_pos ⟨above, below⟩, if_true, List.singleton_append]

/-- A first byte that begins a character spells nothing yet. -/
theorem units_start {b : UInt8} {g : Begun} (begins : start b = ([], some g)) (rest : Bytes) :
    units none (b :: rest) = units (some g) rest := by
  rw [units, step, begins, List.nil_append]

/-- **The bytes of a character spell that character.** -/
theorem units_encodeChar (c : Char) (rest : Bytes) :
    units none (encodeChar c ++ rest) = some c :: units none rest := by
  have whole : Char.ofNat c.toNat = c := Char.ofNat_toNat c
  have valid : c.toNat < 0xd800 ∨ 0xdfff < c.toNat ∧ c.toNat < 0x110000 := c.valid
  unfold encodeChar
  generalize c.toNat = n at whole valid
  subst whole
  dsimp only
  -- The cases are those of the number of bytes.
  split
  · rename_i one
    rw [List.singleton_append, units, step, start, toNat_toUInt8 (by omega), if_pos one]
    rfl
  split
  · rename_i two
    simp only [List.cons_append, List.nil_append]
    rw [units_start (start_two (by omega) (by omega)),
      units_last rest (by omega) (by omega) (by omega),
      show (0xc0 + n / 64 - 0xc0) * 64 + (0x80 + n % 64 - 0x80) = n by omega]
  split
  · rename_i three
    simp only [List.cons_append, List.nil_append]
    rw [units_start (start_three (by omega) (by omega)),
      units_within _ (by split <;> omega) (by split <;> omega) (by split <;> omega) (by omega),
      units_last rest (by omega) (by omega) (by omega),
      show ((0xe0 + n / 4096 - 0xe0) * 64 + (0x80 + n / 64 % 64 - 0x80)) * 64 +
        (0x80 + n % 64 - 0x80) = n by omega]
  · simp only [List.cons_append, List.nil_append]
    rw [units_start (start_four (by omega) (by omega)),
      units_within _ (by split <;> omega) (by split <;> omega) (by split <;> omega) (by omega),
      units_within _ (by omega) (by omega) (by omega) (by omega),
      units_last rest (by omega) (by omega) (by omega),
      show (((0xf0 + n / 262144 - 0xf0) * 64 + (0x80 + n / 4096 % 64 - 0x80)) * 64 +
        (0x80 + n / 64 % 64 - 0x80)) * 64 + (0x80 + n % 64 - 0x80) = n by omega]

/-- The bytes of a text spell its characters and leave no gap. -/
theorem units_encode (t : Text) : units none (encode t) = t.map some := by
  induction t with
  | nil => rfl
  | cons c rest ih => rw [encode, List.flatMap_cons, units_encodeChar, ← encode, ih, List.map_cons]

/-- Bytes spell a text if they spell its characters and leave no gap. -/
theorem decode?_eq_some_iff {bytes : Bytes} {t : Text} :
    decode? bytes = some t ↔ units none bytes = t.map some := by
  rw [decode?]
  generalize units none bytes = spelt
  induction spelt generalizing t with
  | nil => cases t <;> simp
  | cons u rest ih =>
    cases u with
    | none => cases t <;> simp
    | some c =>
      rw [List.mapM_cons]
      cases t with
      | nil => cases rest.mapM id <;> simp
      | cons d t =>
        rw [List.map_cons, List.cons.injEq, ← ih]
        cases rest.mapM id <;> simp

/-- **A text is read back from its bytes.** -/
theorem decode?_encode (t : Text) : decode? (encode t) = some t :=
  decode?_eq_some_iff.2 (units_encode t)

/-- Bytes that leave no gap can be followed by anything. -/
theorem units_append {begun : Option Begun} {front : Bytes} (whole : none ∉ units begun front)
    (back : Bytes) : units begun (front ++ back) = units begun front ++ units none back := by
  induction front generalizing begun with
  | nil =>
    cases begun with
    | none => rfl
    | some g => exact absurd List.mem_cons_self whole
  | cons b rest ih =>
    rw [units, List.mem_append, not_or] at whole
    rw [List.cons_append, units, ih whole.2, units, List.append_assoc]

/-- A text that is written behind other text is read behind it. -/
theorem decode?_append_encode {bytes : Bytes} {s : Text} (decoded : decode? bytes = some s)
    (t : Text) : decode? (bytes ++ encode t) = some (s ++ t) := by
  rw [decode?_eq_some_iff] at decoded ⊢
  have whole : none ∉ units none bytes := by
    rw [decoded]
    simp
  rw [units_append whole, decoded, units_encode, List.map_append]

end SolutionSweep.Utf8
