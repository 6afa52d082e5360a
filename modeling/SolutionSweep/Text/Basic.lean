/-!
# Text

Text is a list of characters, so that lengths, positions and orders count code points and a rule
about text can be stated by recursion.

* `isWhite`, `Text.strip`: white space of every script, and text without it at the ends;
* `Text.after?`: what follows a given beginning;
* `Text.cut?`: what stands before and after the first occurrence of a mark;
* `Text.splitOn`: the pieces between separators.
-/

namespace SolutionSweep

/-- A sequence of characters. -/
abbrev Text := List Char

/-- White space: the ASCII blanks and separators, and the spaces and line ends of Unicode. -/
def isWhite (c : Char) : Bool :=
  let n := c.toNat
  (0x9 ≤ n && n ≤ 0xd) || (0x1c ≤ n && n ≤ 0x20) || n == 0x85 || n == 0xa0 || n == 0x1680 ||
    (0x2000 ≤ n && n ≤ 0x200a) || n == 0x2028 || n == 0x2029 || n == 0x202f || n == 0x205f ||
    n == 0x3000

/-- The letters of the Latin alphabet without marks. -/
def isAsciiLetter (c : Char) : Bool := c.isAlpha

/-- The sixteen hexadecimal digits, in either letter case. -/
def isHexDigit (c : Char) : Bool :=
  c.isDigit || ('a' ≤ c && c ≤ 'f') || ('A' ≤ c && c ≤ 'F')

/-- The value of a hexadecimal digit. -/
def hexValue (c : Char) : Nat :=
  if c.isDigit then c.toNat - 48 else if c.isLower then c.toNat - 87 else c.toNat - 55

namespace Text

/-- Drops the characters of a class from both ends. -/
def trim (p : Char → Bool) (t : Text) : Text :=
  ((t.dropWhile p).reverse.dropWhile p).reverse

/-- Drops the characters of a class from the end. -/
def trimEnd (p : Char → Bool) (t : Text) : Text := (t.reverse.dropWhile p).reverse

/-- Drops white space from both ends. -/
def strip (t : Text) : Text := trim isWhite t

/-- Drops leading white space. -/
def skipWhite (t : Text) : Text := t.dropWhile isWhite

theorem length_skipWhite_le (t : Text) : (skipWhite t).length ≤ t.length := by
  simpa [skipWhite] using (List.dropWhile_sublist (p := isWhite) (l := t)).length_le

/-- Whether nothing but white space is there. -/
def isBlank (t : Text) : Bool := t.all isWhite

/-- What follows `beginning` in a text that starts with it. -/
def after? : (beginning t : Text) → Option Text
  | [], t => some t
  | _ :: _, [] => none
  | b :: bs, c :: cs => if b = c then after? bs cs else none

/-- A beginning and what follows it make up the text. -/
theorem length_of_after? {mark t rest : Text} (h : after? mark t = some rest) :
    t.length = mark.length + rest.length := by
  induction mark generalizing t with
  | nil => simp [after?] at h; simp [h]
  | cons m ms ih =>
      cases t with
      | nil => simp [after?] at h
      | cons c cs =>
          by_cases hc : m = c
          · simp [after?, hc] at h; have := ih h; simp; omega
          · simp [after?, hc] at h

/-- What follows `beginning` in a text that starts with it, and else the text. -/
def skip (beginning t : Text) : Text := (after? beginning t).getD t

/-- What stands before and after the first occurrence of a mark. -/
def cut? (mark : Text) : Text → Option (Text × Text)
  | [] => (after? mark []).map ([], ·)
  | c :: cs =>
      match after? mark (c :: cs) with
      | some rest => some ([], rest)
      | none => (cut? mark cs).map fun (before, rest) => (c :: before, rest)

/-- What stands before a mark, the mark and what follows it make up the text. -/
theorem length_of_cut? {mark t before rest : Text}
    (h : cut? mark t = some (before, rest)) :
    t.length = before.length + mark.length + rest.length := by
  induction t generalizing before with
  | nil =>
      simp only [cut?, Option.map_eq_some_iff] at h
      obtain ⟨r, hr, eq⟩ := h
      cases eq
      simpa using length_of_after? hr
  | cons c cs ih =>
      simp only [cut?] at h
      split at h
      · rename_i r hr
        cases h
        simpa using length_of_after? hr
      · simp only [Option.map_eq_some_iff] at h
        obtain ⟨⟨b, r⟩, hb, eq⟩ := h
        simp only [Prod.mk.injEq] at eq
        obtain ⟨rfl, rfl⟩ := eq
        have := ih hb
        simp only [List.length_cons]
        omega

/-- The pieces between separators; there is one more of them than of separators. -/
def splitOn (sep : Char) : Text → List Text
  | [] => [[]]
  | c :: cs =>
      if c = sep then [] :: splitOn sep cs
      else
        match splitOn sep cs with
        | [] => [[c]]
        | piece :: pieces => (c :: piece) :: pieces

/-- The pieces with a separator between each two. -/
def join (sep : Text) (pieces : List Text) : Text := sep.intercalate pieces

/-- The text with each backslash turned into a slash. -/
def slashed (t : Text) : Text := t.map fun c => if c = '\\' then '/' else c


end Text

end SolutionSweep
