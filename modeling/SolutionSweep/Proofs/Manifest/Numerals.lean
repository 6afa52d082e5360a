import SolutionSweep.Manifest.Removal
import SolutionSweep.Proofs.Manifest.Release

/-!
# Numerals that can be read

The only step of a removal that may fail is reading a numeral, and it fails at a numeral that is too
long. Where all the numerals of version control can be read, a removal succeeds, whatever else is
written in the manifest: lines are deleted, indices and counts only go down, so the numerals stay
short.

* `Line.Fits`: the numeral that a line carries can be read;
* `exists_releaseIndex`: the release of an index succeeds and leaves such lines;
* `Removal.exists_apply`: a removal succeeds.
-/

namespace SolutionSweep

open Line (indexed? count? IndexedLine CountLine)

/-- If the line is one of version control, its numeral can be read. -/
structure Line.Fits (l : Text) : Prop where
  indexed : ∀ x, indexed? l = some x → x.Short
  counting : ∀ x, count? l = some x → x.Short

/-- The numeral of every line can be read. -/
def Fit (lines : List Text) : Prop := ∀ l ∈ lines, Line.Fits l

variable {lines : List Text}

/-- An index that can be read fits into its line. -/
theorem Line.fits_text_renumbered {l : Text} {x : IndexedLine} (read : indexed? l = some x)
    {n : Nat} (short : (x.renumbered n).Short) : Line.Fits (x.renumbered n).text := by
  have new := indexed?_text_renumbered read n
  constructor
  · intro y eq
    cases new.symm.trans eq
    exact short
  · intro y eq
    cases (count?_eq_none_of_indexed? new).symm.trans eq

/-- A count that can be read fits into every line. -/
theorem Line.Fits.recount {l : Text} (fits : Line.Fits l) {n : Nat}
    (short : (Text.ofNat n).length ≤ maxDigits) : Line.Fits (Line.recount l n) := by
  cases read : count? l with
  | none => rwa [Line.recount, read]
  | some x =>
    have new := count?_recount read n
    constructor
    · intro y eq
      cases (indexed?_eq_none_of_count? new).symm.trans eq
    · intro y eq
      cases new.symm.trans eq
      exact short

theorem Fit.of_sublist {lines' : List Text} (fit : Fit lines) (sub : lines'.Sublist lines) :
    Fit lines' := fun l mem => fit l (sub.subset mem)

/-! ### Reading a section -/

/-- The lines inside a section stand one behind the other. -/
theorem Section.exists_bodyOf_eq (s : Option Section) (lines : List Text) :
    ∃ (inner : List Text) (base : Nat), Section.bodyOf s lines = inner.zipIdx base ∧
      inner.Sublist lines := by
  cases s with
  | none => exact ⟨[], 0, rfl, List.nil_sublist _⟩
  | some s =>
    exact ⟨_, _, s.body_eq_zipIdx lines, (List.take_sublist _ _).trans (List.drop_sublist _ _)⟩

/-- The numerals inside a section can be read. -/
theorem Fit.readable (fit : Fit lines) : Readable lines := by
  constructor
  case indexed =>
    intro x mem
    obtain ⟨l, hl, read⟩ := List.mem_filterMap.1 mem
    exact (fit l hl).indexed x read
  case counting =>
    intro x head
    obtain ⟨l, hl, read⟩ := List.mem_filterMap.1 (List.mem_of_mem_head? head)
    exact (fit l hl).counting x read

/-- The properties of a section can be read, and are those of lines. -/
theorem Fit.exists_scan (fit : Fit lines) (s : Option Section) :
    ∃ properties, Property.scan lines s = .ok properties ∧
      ∀ p ∈ properties, p.index = p.line.number ∧ ∃ l ∈ lines, indexed? l = some p.line := by
  obtain ⟨inner, base, body, sub⟩ := Section.exists_bodyOf_eq s lines
  refine ⟨propertiesOf base inner,
    (Property.scan_eq_ok_iff body).2 ⟨(fit.of_sublist sub).readable.indexed, rfl⟩, fun p mem => ?_⟩
  obtain ⟨j, l, x, rfl, at_, read⟩ := mem_propertiesOf.1 mem
  exact ⟨rfl, l, sub.subset (List.mem_of_getElem? at_), read⟩

/-- The count of a section can be read, and is that of a line. -/
theorem Fit.exists_findCount (fit : Fit lines) (s : Option Section) :
    ∃ found, findCount lines s = .ok found ∧
      ∀ i n, found = some (i, n) → ∃ l ∈ lines, ∃ x, count? l = some x ∧ n = x.number := by
  obtain ⟨inner, base, body, sub⟩ := Section.exists_bodyOf_eq s lines
  obtain ⟨found, ok, value⟩ :=
    SolutionSweep.exists_findCount body (fit.of_sublist sub).readable.counting
  refine ⟨found, ok, ?_⟩
  rintro i n rfl
  obtain ⟨x, head, rfl⟩ := Option.map_eq_some_iff.1 value.symm
  obtain ⟨l, hl, read⟩ := List.mem_filterMap.1 (List.mem_of_mem_head? head)
  exact ⟨l, sub.subset hl, x, read, rfl⟩

/-! ### Releasing an index -/

/-- Renumbering keeps the numerals short. -/
theorem Fit.renumber (fit : Fit lines) {properties : List Property}
    (read : ∀ p ∈ properties, p.index = p.line.number ∧ ∃ l ∈ lines, indexed? l = some p.line)
    (released : Nat) : Fit (renumber properties released lines) := by
  intro l' mem
  obtain ⟨i, hi, rfl⟩ := List.mem_mapIdx.1 mem
  have old := fit _ (List.getElem_mem hi)
  unfold renumberLine
  split
  · exact old
  · rename_i p found
    obtain ⟨index, l, hl, parts⟩ := read p (List.mem_of_find?_eq_some found)
    split
    · rw [← IndexedLine.text_renumbered]
      exact Line.fits_text_renumbered parts
        (((fit l hl).indexed _ parts).renumbered parts (by omega))
    · exact old

/-- Counting down succeeds and keeps the numerals short. -/
theorem Fit.exists_countDown (fit : Fit lines) (s : Section) :
    ∃ counted, countDown s lines = .ok counted ∧ Fit counted := by
  obtain ⟨found, ok, value⟩ := fit.exists_findCount (some s)
  unfold countDown
  rw [ok]
  match found, value with
  | none, _ => exact ⟨lines, rfl, fit⟩
  | some (i, n), value =>
    obtain ⟨l, hl, x, read, rfl⟩ := value i n rfl
    have short : (Text.ofNat (x.number - 1)).length ≤ maxDigits :=
      ((fit l hl).counting x read).renumbered read (by omega)
    refine ⟨_, rfl, fun l' mem => ?_⟩
    obtain ⟨j, at_⟩ := List.mem_iff_getElem?.1 mem
    rw [List.getElem?_modify] at at_
    obtain ⟨old, here, rfl⟩ := Option.map_eq_some_iff.1 at_
    have fits := fit old (List.mem_of_getElem? here)
    split
    · exact fits.recount short
    · exact fits

/-- The release of an index succeeds and keeps the numerals short. -/
theorem Fit.exists_releaseIndex (fit : Fit lines) (s : Section) (b : Block) :
    ∃ left marked, releaseIndex s b lines = (left, .ok marked) ∧ Fit left := by
  obtain ⟨properties, scanned, read⟩ := fit.exists_scan (some s)
  unfold releaseIndex
  rw [scanned]
  cases resolved : indexOf? properties b.path with
  | none => exact ⟨lines, none, by simp [resolved], fit⟩
  | some released =>
    obtain ⟨counted, ok, fit'⟩ := (fit.renumber read released).exists_countDown s
    refine ⟨counted, some ((properties.filter (·.index == released)).map (·.lineIndex)), ?_, fit'⟩
    simp only [resolved, ok]

/-! ### Removing entries -/

namespace Surgery

variable {s : Surgery}

theorem fit_delete (fit : Fit s.lines) (doomed : List Nat) : Fit (s.delete doomed).lines :=
  fit.of_sublist (Document.linesExcept_sublist doomed 0 s.lines)

/-- Taking out the entry of a block succeeds and keeps the numerals short. -/
theorem exists_removeBlock (c : Conventions) (fit : Fit s.lines) (b : Block) :
    ∃ after removed, removeBlock c s b = (after, .ok removed) ∧ Fit after.lines := by
  unfold removeBlock
  match bookOf? c s.lines b with
  | none => exact ⟨_, _, rfl, fit_delete fit _⟩
  | some book =>
    obtain ⟨left, marked, released, fit'⟩ := fit.exists_releaseIndex book b
    replace fit' : Fit (s.withLines left).lines := fit'
    simp only [released]
    match marked with
    | none => exact ⟨_, _, rfl, fit_delete (s := (s.withLines left).warn _) fit' _⟩
    | some doomed => exact ⟨_, _, rfl, fit_delete fit' _⟩

theorem exists_removeId (c : Conventions) (fit : Fit s.lines) (id : EntryId) :
    ∃ after removed, removeId c s id = (after, .ok removed) ∧ Fit after.lines := by
  unfold removeId
  match Block.find? (Block.scan s.lines) id with
  | none => exact ⟨_, _, rfl, fit⟩
  | some b =>
    obtain ⟨after, removed, ok, fit'⟩ := exists_removeBlock c fit b
    simp only [ok]
    exact ⟨after, some removed, rfl, fit'⟩

/-- Taking out entries succeeds and keeps the numerals short. -/
theorem exists_removeIds (c : Conventions) (fit : Fit s.lines) (ids : List EntryId) :
    ∃ after removed, removeIds c s ids = (after, .ok removed) ∧ Fit after.lines := by
  induction ids generalizing s with
  | nil => exact ⟨s, [], rfl, fit⟩
  | cons id ids ih =>
    obtain ⟨middle, first, one, fit'⟩ := exists_removeId c fit id
    obtain ⟨after, others, more, fit''⟩ := ih fit'
    refine ⟨after, first.toList ++ others, ?_, fit''⟩
    simp only [removeIds, one, more]

/-- Pruning succeeds. -/
theorem exists_pruneFolders (c : Conventions) (fit : Fit s.lines) :
    ∃ after pruned, pruneFolders c s = (after, .ok pruned) := by
  fun_induction pruneFolders c s with
  | case1 s empty => exact ⟨s, [], rfl⟩
  | case2 s id ids empty after e pass =>
    obtain ⟨after', removed, ok, -⟩ := exists_removeIds c fit (id :: ids)
    rw [pass] at ok
    cases ok
  | case3 s id ids empty after removed pass done e rest ih =>
    obtain ⟨after', removed', ok, fit'⟩ := exists_removeIds c fit (id :: ids)
    rw [pass] at ok
    cases ok
    obtain ⟨done', pruned, ok⟩ := ih fit'
    rw [rest] at ok
    cases ok
  | case4 s id ids empty after removed pass done more rest ih => exact ⟨_, _, rfl⟩

end Surgery

/-- **A removal succeeds where all numerals can be read.** -/
theorem Removal.exists_apply (c : Conventions) {text : Text}
    (fit : Fit (Document.ofText text).lines) (selected : List Text) (prune : Bool) :
    ∃ removal, Removal.apply c text selected prune = .ok removal := by
  obtain ⟨after, removed, run, fit'⟩ := Surgery.exists_removeIds (s := Surgery.ofText text) c fit
    ((firsts id (selected.map canonicalId)).map canonicalId)
  unfold Removal.apply Surgery.removeAll
  rw [run]
  cases prune with
  | false => exact ⟨_, rfl⟩
  | true =>
    obtain ⟨done, pruned, prunes⟩ := Surgery.exists_pruneFolders c fit'
    simp only [prunes]
    exact ⟨_, rfl⟩

end SolutionSweep
