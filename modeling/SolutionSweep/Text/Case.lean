import SolutionSweep.Text.Case.Context
import SolutionSweep.Text.Case.Fold
import SolutionSweep.Text.Case.Lower
import SolutionSweep.Text.Case.Upper

/-!
# Letter case

* `Text.upper`, `Text.fold` map each character on its own;
* `Text.lower` does so too, apart from the capital sigma, which at the end of a word becomes the
  final sigma;
* `Text.afterIgnoringCase?` reads a given beginning in any letter case.
-/

namespace SolutionSweep

/-- The upper-case text of a character. -/
def upperChar (c : Char) : Text :=
  if c.toNat < 128 then [c.toUpper] else upperMapping.apply c

/-- The lower-case text of a character, whatever stands around it. -/
def lowerChar (c : Char) : Text :=
  if c.toNat < 128 then [c.toLower] else lowerMapping.apply c

/-- The text that all spellings of a character in different case have in common. -/
def foldChar (c : Char) : Text :=
  if c.toNat < 128 then [c.toLower] else foldMapping.apply c

namespace Text

/-- The text in upper case. -/
def upper (t : Text) : Text := t.flatMap upperChar

/-- The text that all spellings of a text in different case have in common. -/
def fold (t : Text) : Text := t.flatMap foldChar

/-- Whether the first character that is not skipped is a cased one. -/
def meetsCased (t : Text) : Bool :=
  match t.dropWhile isCaseIgnorable with
  | [] => false
  | c :: _ => isCased c

/-- The lower case of text that follows `before`, which is given backwards. -/
def lowerAfter (before : Text) : Text → Text
  | [] => []
  | c :: rest =>
      (if c = 'Σ' then
        if meetsCased before && !meetsCased rest then ['ς'] else ['σ']
      else lowerChar c) ++ lowerAfter (c :: before) rest

/-- The text in lower case. -/
def lower (t : Text) : Text := lowerAfter [] t

end Text

/-- Whether a character is a given lower-case ASCII letter in either case, or one of the few
letters that are identified with it when case is ignored: the long s, the Kelvin sign, the
dotted capital and the dotless small i. -/
@[irreducible] def isLetterIgnoringCase (letter c : Char) : Bool :=
  c.toLower == letter ||
    (letter == 's' && c == 'ſ') || (letter == 'k' && c == '\u212a') ||
    (letter == 'i' && (c == 'İ' || c == 'ı'))

/-- What follows `beginning`, given in lower case, in a text that starts with it in any case. -/
def Text.afterIgnoringCase? : (beginning t : Text) → Option Text
  | [], t => some t
  | _ :: _, [] => none
  | b :: bs, c :: cs => if isLetterIgnoringCase b c then afterIgnoringCase? bs cs else none

theorem Text.length_of_afterIgnoringCase? {mark t rest : Text}
    (h : Text.afterIgnoringCase? mark t = some rest) : t.length = mark.length + rest.length := by
  induction mark generalizing t with
  | nil => simp [Text.afterIgnoringCase?] at h; simp [h]
  | cons m ms ih =>
      cases t with
      | nil => simp [Text.afterIgnoringCase?] at h
      | cons c cs =>
          by_cases hc : isLetterIgnoringCase m c
          · simp [Text.afterIgnoringCase?, hc] at h; have := ih h; simp; omega
          · simp [Text.afterIgnoringCase?, hc] at h

end SolutionSweep
