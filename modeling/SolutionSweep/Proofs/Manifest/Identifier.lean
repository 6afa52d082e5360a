import SolutionSweep.Manifest.Line
import SolutionSweep.Manifest.Block
import SolutionSweep.Proofs.Text.Basic

/-!
# Identifiers in canonical spelling

A registered identifier consists of hexadecimal digits and hyphens. Such a text has nothing to strip
and nothing to trim, and its upper case has nothing to turn into upper case, so its canonical
spelling is its own.

* `isIdChar`, `IsSteady`: the characters of identifiers, and what they are like;
* `canonicalId_canonicalId`: the canonical spelling is canonical;
* `canonicalId_id`: the identifier of a block is in canonical spelling.
-/

namespace SolutionSweep

/-- The characters of an identifier. -/
def isIdChar (c : Char) : Bool := c == '-' || isHexDigit c

/-- A character that is neither stripped nor trimmed, and whose upper case is one of identifiers and
stays what it is. -/
structure IsSteady (c : Char) : Prop where
  ascii : c.toNat < 128
  notWhite : isWhite c = false
  notBrace : isBrace c = false
  upper : isIdChar c.toUpper = true
  upperTwice : c.toUpper.toUpper = c.toUpper

/-- The characters of identifiers are steady. -/
theorem isSteady_of_isIdChar {c : Char} (h : isIdChar c = true) : IsSteady c := by
  have small : c.toNat < 128 := by
    simp only [isIdChar, isHexDigit, Bool.or_eq_true, beq_iff_eq, Bool.and_eq_true,
      decide_eq_true_eq, Char.isDigit, Char.le_def, UInt32.le_iff_toNat_le] at h
    rcases h with rfl | (⟨-, le⟩ | ⟨-, le⟩) | ⟨-, le⟩
    · decide
    · exact Nat.lt_of_le_of_lt (show c.toNat ≤ 57 from le) (by decide)
    · exact Nat.lt_of_le_of_lt (show c.toNat ≤ 102 from le) (by decide)
    · exact Nat.lt_of_le_of_lt (show c.toNat ≤ 70 from le) (by decide)
  -- There are few enough characters left to look at each of them.
  have table : ∀ n < 128, isIdChar (Char.ofNat n) = true →
      isWhite (Char.ofNat n) = false ∧ isBrace (Char.ofNat n) = false ∧
        isIdChar (Char.ofNat n).toUpper = true ∧
        (Char.ofNat n).toUpper.toUpper = (Char.ofNat n).toUpper := by
    decide +kernel
  rw [← Char.ofNat_toNat c] at h
  have entry := table c.toNat small h
  rw [Char.ofNat_toNat] at entry
  obtain ⟨notWhite, notBrace, upper, upperTwice⟩ := entry
  exact ⟨small, notWhite, notBrace, upper, upperTwice⟩

theorem upper_eq_map {t : Text} (h : ∀ c ∈ t, isIdChar c = true) :
    Text.upper t = t.map Char.toUpper := by
  induction t with
  | nil => rfl
  | cons c rest ih =>
    have small := (isSteady_of_isIdChar (h c List.mem_cons_self)).ascii
    have tail := ih fun d mem => h d (List.mem_cons_of_mem c mem)
    unfold Text.upper at tail ⊢
    rw [List.flatMap_cons, tail, upperChar, if_pos small, List.map_cons, List.singleton_append]

theorem canonicalId_eq_map {t : Text} (h : ∀ c ∈ t, isIdChar c = true) :
    canonicalId t = t.map Char.toUpper := by
  have steady : ∀ c ∈ t, IsSteady c := fun c mem => isSteady_of_isIdChar (h c mem)
  have strip : Text.strip t = t := Text.trim_eq_self fun c mem => (steady c mem).notWhite
  have braces : Text.trim isBrace t = t := Text.trim_eq_self fun c mem => (steady c mem).notBrace
  rw [canonicalId, strip, braces, strip, upper_eq_map h]

/-- The canonical spelling of an identifier is canonical. -/
theorem canonicalId_canonicalId {t : Text} (h : ∀ c ∈ t, isIdChar c = true) :
    canonicalId (canonicalId t) = canonicalId t := by
  have upper : ∀ c ∈ t.map Char.toUpper, isIdChar c = true := by
    intro c mem
    obtain ⟨d, lower, rfl⟩ := List.mem_map.1 mem
    exact (isSteady_of_isIdChar (h d lower)).upper
  rw [canonicalId_eq_map h, canonicalId_eq_map upper, List.map_map]
  exact List.map_congr_left fun c mem => (isSteady_of_isIdChar (h c mem)).upperTwice

/-- An identifier in braces consists of the characters of identifiers. -/
theorem isIdChar_of_takeBracedId? {t id rest : Text} (h : takeBracedId? t = some (id, rest)) :
    ∀ c ∈ id, isIdChar c = true := by
  obtain ⟨inside, -, h⟩ := Option.bind_eq_some_iff.1 h
  obtain ⟨⟨id', rest'⟩, taken, h⟩ := Option.bind_eq_some_iff.1 h
  obtain ⟨_, -, eq⟩ := Option.bind_eq_some_iff.1 h
  obtain ⟨rfl, -⟩ := Prod.mk.inj (Option.some.inj eq)
  unfold takeId? at taken
  split at taken
  · rename_i bare
    obtain ⟨rfl, -⟩ := Prod.mk.inj (Option.some.inj taken)
    exact List.all_eq_true.1 (Bool.and_eq_true_iff.1 bare).2
  · cases taken

theorem isIdChar_of_registration? {l : Text} {r : Line.Registration}
    (h : Line.registration? l = some r) : ∀ c ∈ r.id, isIdChar c = true := by
  unfold Line.registration? at h
  simp only [Option.bind_eq_bind, Option.bind_eq_some_iff, Option.pure_def, Option.some.injEq,
    Prod.exists] at h
  obtain ⟨_, -, _, _, -, _, -, _, -, _, _, -, _, -, _, _, -, _, -, _, -, _, _, braced, _, -, rfl⟩ :=
    h
  exact isIdChar_of_takeBracedId? braced

/-- **The identifier of a block is in canonical spelling.** -/
theorem canonicalId_id {lines : List Text} {b : Block} (mem : b ∈ Block.scan lines) :
    canonicalId b.id = b.id := by
  have general : ∀ i, b ∈ Block.scanFrom i lines → canonicalId b.id = b.id := by
    clear mem
    induction lines with
    | nil => exact fun i mem => nomatch mem
    | cons l rest ih =>
      intro i mem
      cases read : Line.registration? l with
      | none =>
        simp only [Block.scanFrom, read] at mem
        exact ih _ mem
      | some r =>
        simp only [Block.scanFrom, read] at mem
        rcases List.mem_cons.1 mem with rfl | mem
        · exact canonicalId_canonicalId (isIdChar_of_registration? read)
        · exact ih _ mem
  exact general 0 mem

end SolutionSweep
