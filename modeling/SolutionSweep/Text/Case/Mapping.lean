import SolutionSweep.Text.Basic

/-!
# Case mappings

A case mapping sends each character to a text. Most characters that have another case lie in
runs along which the distance to the other case is constant; few expand to several characters.
-/

namespace SolutionSweep

/-- Code points `first`, `first + step`, …, `last`, each mapped `shift` further. -/
structure CaseRun where
  first : Nat
  last : Nat
  step : Nat
  shift : Int

/-- Runs of characters mapped to one character each, and characters mapped to several. -/
structure CaseMapping where
  runs : List CaseRun
  expansions : List (Nat × List Nat)

/-- Whether a code point belongs to a run. -/
def CaseRun.covers (r : CaseRun) (n : Nat) : Bool :=
  r.first ≤ n && n ≤ r.last && (n - r.first) % r.step == 0

/-- The text that stands for a character; a character without another case stands for itself. -/
def CaseMapping.apply (m : CaseMapping) (c : Char) : Text :=
  match m.runs.find? (·.covers c.toNat) with
  | some r => [Char.ofNat (c.toNat + r.shift).toNat]
  | none =>
      match m.expansions.lookup c.toNat with
      | some codes => codes.map Char.ofNat
      | none => [c]

end SolutionSweep
