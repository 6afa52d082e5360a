import SolutionSweep.Manifest.VersionControl
import SolutionSweep.Proofs.Manifest.Identifier
import Mathlib.Data.List.Forall2
import Mathlib.Tactic.MkIffOfInductiveProp

/-!
# Unique names are read back

A unique name is a path in which some characters are escaped. Every backslash is, so a name falls
into pieces, one for each character, and a backslash stands only at the beginning of a piece or
behind another one. Read from the left, the pieces are met one after another, whichever way each of
them is written.

* `Escapes`, `Writes`: the pieces that stand for a character, the names that stand for a path;
* `unescape?_of_writes`: the path is read back;
* `registeredPathKey_of_writes`: the unique name and the registered path are compared as equal.
-/

namespace SolutionSweep

/-- How a character of a path may be written in a unique name: as it is unless it is a backslash, a
backslash twice, or as a backslash, a `u` and the four hexadecimal digits of its code point. -/
@[mk_iff]
inductive Escapes : Char → Text → Prop
  | plain (c : Char) (other : c ≠ '\\') : Escapes c [c]
  | doubled : Escapes '\\' ['\\', '\\']
  | code (c : Char) (digits : Text) (four : digits.length = 4)
      (hex : digits.all isHexDigit = true) (value : hexValueOf digits = c.toNat) :
      Escapes c ('\\' :: 'u' :: digits)

instance (c : Char) (piece : Text) : Decidable (Escapes c piece) :=
  decidable_of_iff (c ≠ '\\' ∧ piece = [c] ∨ c = '\\' ∧ piece = ['\\', '\\'] ∨
    (piece.drop 2).length = 4 ∧ (piece.drop 2).all isHexDigit = true ∧
      hexValueOf (piece.drop 2) = c.toNat ∧ piece = '\\' :: 'u' :: piece.drop 2) (by
    rw [escapes_iff]
    refine or_congr_right (or_congr_right ⟨fun code => ⟨_, code⟩, ?_⟩)
    rintro ⟨digits, four, hex, value, rfl⟩
    exact ⟨four, hex, value, rfl⟩)

/-- A name writes a path if it consists of a piece for each of its characters. -/
def Writes (path name : Text) : Prop :=
  ∃ pieces, List.Forall₂ Escapes path pieces ∧ name = pieces.flatten

/-! ### Reading the pieces -/

/-- A piece is read as its character, whatever follows it. -/
theorem Escapes.unescape?_append {c : Char} {piece : Text} (h : Escapes c piece) (rest : Text) :
    unescape? (piece ++ rest) = (unescape? rest).map (c :: ·) := by
  cases h with
  | plain c other => simp [unescape?, other]
  | doubled => simp [unescape?]
  | code c digits four hex value =>
    obtain ⟨d₁, d₂, d₃, d₄, rfl⟩ := List.length_eq_four.1 four
    have valid : (hexValueOf [d₁, d₂, d₃, d₄]).isValidChar := value ▸ c.valid
    simp only [List.cons_append, List.nil_append]
    rw [unescape?, if_pos hex, if_pos valid, value, Char.ofNat_toNat]

/-- **The path is read back from its pieces.** -/
theorem unescape?_of_writes {path name : Text} (h : Writes path name) :
    unescape? name = some path := by
  obtain ⟨pieces, escapes, rfl⟩ := h
  induction escapes with
  | nil => rfl
  | cons head _ ih => rw [List.flatten_cons, head.unescape?_append, ih, Option.map_some]

/-! ### White space -/

/-- A piece begins like its character or with a backslash. -/
theorem Escapes.head?_append {c : Char} {piece : Text} (h : Escapes c piece) (rest : Text) :
    (piece ++ rest).head? = some c ∨ (piece ++ rest).head? = some '\\' := by
  cases h with
  | plain => exact .inl rfl
  | doubled => exact .inr rfl
  | code => exact .inr rfl

/-- A piece ends in its character, in a backslash or in a digit. -/
theorem Escapes.isWhite_getLast {c : Char} {piece : Text} (h : Escapes c piece)
    (bare : isWhite c = false) : ∃ d, piece.getLast? = some d ∧ isWhite d = false := by
  cases h with
  | plain => exact ⟨c, rfl, bare⟩
  | doubled => exact ⟨'\\', rfl, by decide⟩
  | code c digits four hex =>
    have filled : digits ≠ [] := by
      rintro rfl
      cases four
    obtain ⟨front, d, rfl⟩ := (List.eq_nil_or_concat' digits).resolve_left filled
    have digit : isHexDigit d = true := List.all_eq_true.1 hex d (by simp)
    refine ⟨d, by rw [← List.cons_append, ← List.cons_append, List.getLast?_concat], ?_⟩
    exact (isSteady_of_isIdChar (by simp [isIdChar, digit])).notWhite

theorem getLast?_flatten {path : Text} {pieces : List Text}
    (h : List.Forall₂ Escapes path pieces) {c : Char} (last : path.getLast? = some c)
    (bare : isWhite c = false) :
    ∃ d, pieces.flatten.getLast? = some d ∧ isWhite d = false := by
  induction h with
  | nil => cases last
  | @cons first piece path pieces escape escapes ih =>
    rw [List.flatten_cons, List.getLast?_append]
    cases escapes with
    | nil =>
      obtain rfl : first = c := Option.some.inj last
      obtain ⟨d, ends, other⟩ := escape.isWhite_getLast bare
      exact ⟨d, by rw [ends]; rfl, other⟩
    | cons _ _ =>
      obtain ⟨d, ends, other⟩ := ih (by rwa [List.getLast?_cons_cons] at last)
      exact ⟨d, by rw [ends]; rfl, other⟩

/-- No white space stands around a name if none stands around the path. -/
theorem strip_of_writes {path name : Text} (h : Writes path name)
    (bare : Text.strip path = path) : Text.strip name = name := by
  obtain ⟨pieces, escapes, rfl⟩ := h
  obtain ⟨front, back⟩ := Text.strip_eq_self_iff.1 bare
  refine Text.strip_eq_self_iff.2 ⟨fun c head => ?_, fun d final => ?_⟩
  · cases escapes with
    | nil => cases head
    | @cons first piece path pieces escape _ =>
      rw [List.flatten_cons] at head
      rcases escape.head?_append pieces.flatten with same | slash
      · obtain rfl := Option.some.inj (same.symm.trans head)
        exact front first rfl
      · obtain rfl := Option.some.inj (slash.symm.trans head)
        decide
  · cases last : path.getLast? with
    | none =>
      obtain rfl := List.getLast?_eq_none_iff.1 last
      cases escapes
      cases final
    | some c =>
      obtain ⟨e, ends, other⟩ := getLast?_flatten escapes last (back c last)
      obtain rfl := Option.some.inj (ends.symm.trans final)
      exact other

/-! ### Comparing names and paths -/

/-- **A unique name is compared as the path that it writes**, however each character is written. -/
theorem registeredPathKey_of_writes {path name : Text} (h : Writes path name)
    (bare : Text.strip path = path) :
    uniqueNameKey? name = some (registeredPathKey path) := by
  rw [uniqueNameKey?, strip_of_writes h bare, unescape?_of_writes h, registeredPathKey, bare,
    Option.map_some]

/-- A path with a segment that looks like an escape itself, and one of its many spellings. -/
theorem registeredPathKey_of_writes_steepPath :
    Writes "..\\u0041b\\É😀".toList "\\u002e.\\\\u0041\\u0062\\u005C\\u00c9😀".toList ∧
      Text.strip "..\\u0041b\\É😀".toList = "..\\u0041b\\É😀".toList ∧
      uniqueNameKey? "\\u002e.\\\\u0041\\u0062\\u005C\\u00c9😀".toList =
        some "../u0041b/é😀".toList := by
  have writes : Writes "..\\u0041b\\É😀".toList
      "\\u002e.\\\\u0041\\u0062\\u005C\\u00c9😀".toList :=
    ⟨["\\u002e".toList, ['.'], ['\\', '\\'], ['u'], ['0'], ['0'], ['4'], ['1'], "\\u0062".toList,
      "\\u005C".toList, "\\u00c9".toList, ['😀']], by decide +kernel, by decide +kernel⟩
  have bare : Text.strip "..\\u0041b\\É😀".toList = "..\\u0041b\\É😀".toList := by decide +kernel
  exact ⟨writes, bare, (registeredPathKey_of_writes writes bare).trans (by decide +kernel)⟩

end SolutionSweep
