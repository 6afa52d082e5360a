import SolutionSweep.Proofs.Manifest.FixedPoint

/-!
# A removal that is repeated

A removal settles a manifest: the selected entries are gone, no folder is empty, no line is blank,
and the text is read back as the document that has been written. So the same removal, applied to
the text that it leaves, has nothing to do and leaves the same text.

* `Text.withoutBlankLines`: what an empty selection leaves of a text;
* `Surgery.removeIds_of_absent`: removals that find nothing;
* `Removal.apply_again`: the second removal;
* `Removal.apply_idempotent`: both together.
-/

namespace SolutionSweep

/-- The text without its blank lines. The others are joined by one kind of line break, the paired
one if it occurs in the text; the last of them is followed by a line break if the text ends with
one, and the first stands behind the mark if the text has one. -/
def Text.withoutBlankLines (text : Text) : Text :=
  let lines := (Document.ofText text).lines.filter fun l => !isBlank l
  let body := withoutMark text
  let lineBreak := if hasPairedBreak body then ['\r', '\n'] else ['\n']
  (if text.head? = some byteOrderMark then [byteOrderMark] else []) ++ join lineBreak lines ++
    (if (unifyBreaks body).getLast? = some '\n' ∧ lines ≠ [] then lineBreak else [])

variable {c : Conventions}

/-- Dropping blank lines changes nothing but the lines. -/
theorem Document.stripBlankLines_eq (d : Document) :
    d.stripBlankLines = { d with lines := nonblank d.lines } := by
  rw [← d.lines_stripBlankLines]
  rfl

/-- The text of a document that has been read, without its blank lines. -/
theorem Document.render_stripBlankLines_ofText (text : Text) :
    (ofText text).stripBlankLines.render = Text.withoutBlankLines text := by
  rw [stripBlankLines_eq, render, Text.withoutBlankLines]
  have breaks : (ofText text).newline.text =
      if Text.hasPairedBreak (Text.withoutMark text) then ['\r', '\n'] else ['\n'] := by
    simp only [ofText]
    split <;> rfl
  rw [breaks]
  simp only [ofText, nonblank, decide_eq_true_eq]
  congr

theorem nonblank_nonblank (lines : List Text) : nonblank (nonblank lines) = nonblank lines := by
  simp [nonblank]

namespace Surgery

variable {s : Surgery}

/-- Identifiers that nothing is registered under are passed over, with a warning for each. -/
theorem removeIds_of_absent {ids : List EntryId}
    (absent : ∀ id ∈ ids, id ∉ (outline s.lines).map (·.id)) :
    removeIds c s ids = ({ s with warnings := s.warnings ++ ids.map .entryNotFound }, .ok []) := by
  induction ids generalizing s with
  | nil => simp [removeIds]
  | cons id ids ih =>
    have none : Block.find? (Block.scan s.lines) id = Option.none := by
      refine List.find?_eq_none.2 fun b mem same => absent id List.mem_cons_self ?_
      rw [outline, List.map_map]
      exact List.mem_map.2 ⟨b, mem, by simpa [Block.unplaced] using same⟩
    have one : removeId c s id = (s.warn (.entryNotFound id), .ok Option.none) := by
      rw [removeId, none]
    have others := @ih (s.warn (.entryNotFound id)) fun id' mem =>
      absent id' (List.mem_cons_of_mem id mem)
    rw [removeIds_cons_of_ok one others]
    simp [warn]

/-- Nothing is pruned where no folder is empty. -/
theorem pruneFolders_of_settled (settled : emptyFolders s.lines = []) :
    pruneFolders c s = (s, .ok []) := by
  unfold pruneFolders
  split
  · rfl
  · rename_i id ids nonempty
    rw [settled] at nonempty
    cases nonempty

/-- Blank lines make no folder empty. -/
theorem emptyFolders_nonblank {lines : List Text} (orderly : Orderly lines) :
    emptyFolders (nonblank lines) = emptyFolders lines := by
  rw [emptyFolders_eq, emptyFolders_eq, outline_nonblank orderly.blocks,
    nestingPairs_nonblank orderly]

end Surgery

namespace Removal

variable {text : Text} {selected : List Text} {prune : Bool} {removal : Removal}

/-- The identifiers that a removal looks for, in order. -/
def sought (selected : List Text) : List EntryId :=
  (firsts id (selected.map canonicalId)).map canonicalId

/-- Where no folder is empty, nothing happens whether or not folders are to be pruned. -/
theorem prune_of_settled {s : Surgery}
    (settled : prune = true → Surgery.emptyFolders s.lines = []) :
    (if prune then Surgery.pruneFolders c s else (s, .ok [])) = (s, .ok []) := by
  cases prune with
  | false => rfl
  | true => exact Surgery.pruneFolders_of_settled (settled rfl)

/-- **A removal that is repeated finds nothing** and leaves the text as it is. -/
theorem apply_again (wellFormed : WellFormed text)
    (applied : apply c text selected prune = .ok removal) :
    apply c removal.text selected prune = .ok {
      text := removal.text
      removed := []
      prunedFolders := []
      warnings := (sought selected).map .entryNotFound } := by
  obtain ⟨after, done, run, prunes, closed⟩ := apply_eq_ok applied
  have orderly : Orderly (Surgery.ofText text).lines := wellFormed.orderly
  have distinct : DistinctIds (Surgery.ofText text).lines := distinctIds_iff.2 wellFormed.distinct
  obtain ⟨cleared, -⟩ := runs_cleared orderly distinct run prunes
  have writable := cleared.writable wellFormed.writable
  have written : removal.text = done.document.stripBlankLines.render :=
    congrArg Removal.text closed
  have lines : (Surgery.ofText removal.text).lines = nonblank done.lines := by
    rw [written]
    exact lines_close cleared.orderly writable [] []
  -- What has been looked for is no longer registered.
  have absent : ∀ id ∈ sought selected,
      id ∉ (outline (Surgery.ofText removal.text).lines).map (·.id) := by
    intro id chosen here
    rw [lines, outline_nonblank cleared.orderly.blocks, cleared.outline] at here
    obtain ⟨b, hb, rfl⟩ := List.mem_map.1 here
    obtain ⟨hb, kept⟩ := List.mem_filter.1 hb
    have taken := (Surgery.mem_map_removeIds distinct run).2 ⟨chosen, List.mem_map_of_mem hb⟩
    simp [taken] at kept
  have settled : prune = true → Surgery.emptyFolders (Surgery.ofText removal.text).lines = [] := by
    rintro rfl
    rw [lines, Surgery.emptyFolders_nonblank cleared.orderly]
    exact Surgery.emptyFolders_of_pruneFolders prunes
  -- Nothing is blank any more, and the document is written as it has been read.
  have same : (Document.ofText removal.text).stripBlankLines.render = removal.text := by
    have stripped : nonblank (Document.ofText removal.text).lines =
        (Document.ofText removal.text).lines := by
      rw [show (Document.ofText removal.text).lines = nonblank done.lines from lines]
      exact nonblank_nonblank _
    rw [Document.stripBlankLines_eq, stripped, written]
    exact Document.render_ofText_render (plain_stripBlankLines writable)
      (stripBlankLines_ne_nil cleared.orderly)
  have again : Surgery.removeAll c (Surgery.ofText removal.text)
      (firsts id (selected.map canonicalId)) =
        (⟨Document.ofText removal.text, (sought selected).map .entryNotFound⟩, .ok []) :=
    Surgery.removeIds_of_absent absent
  rw [apply_of_runs again (prune_of_settled settled), close, same]

/-- **A removal is idempotent.** Whatever is selected in a well-formed manifest, and whether or not
folders are pruned, the same removal applied to the text that it leaves takes out nothing and leaves
the same text. For every text, a removal of nothing drops the blank lines and changes nothing
else. -/
theorem apply_idempotent (c : Conventions) (text : Text) :
    (WellFormed text → ∀ selected prune removal, apply c text selected prune = .ok removal →
      ∃ again, apply c removal.text selected prune = .ok again ∧ again.text = removal.text ∧
        again.removed = [] ∧ again.prunedFolders = [] ∧ again.changed = false) ∧
    ∃ removal, apply c text [] false = .ok removal ∧ removal.changed = false ∧
      removal.warnings = [] ∧ removal.text = text.withoutBlankLines := by
  constructor
  · intro wellFormed selected prune removal applied
    exact ⟨_, apply_again wellFormed applied, rfl, rfl, rfl, rfl⟩
  · have nothing : apply c text [] false = .ok (close (Surgery.ofText text) [] []) := rfl
    exact ⟨_, nothing, rfl, rfl, Document.render_stripBlankLines_ofText text⟩

/-- The lines of the sample with a folder, with blank lines between them. -/
def spacedLines : List Text := nestedLines.flatMap fun l => [[], l, "\t ".toList]

/-- A manifest with these lines, behind a mark and with paired line breaks. -/
def spacedSample : Text := Document.render ⟨spacedLines, .paired, true, true⟩

/-- A selection of the project in two spellings, and of something that is not registered. -/
def spacedSelection : List Text :=
  ["\x7b".toList ++ sampleProjectId ++ "\x7d".toList, "?".toList, sampleProjectId]

theorem wellFormed_spacedSample : WellFormed spacedSample :=
  wellFormed_of_lines (spacedLines.take 13) "Global".toList (spacedLines.drop 14)
    (by decide +kernel)

/-- The project of the sample and its folder are taken out once, and the second removal finds
nothing. -/
theorem apply_idempotent_spacedSample : WellFormed spacedSample ∧ ∃ removal again,
    apply .standard spacedSample spacedSelection true = .ok removal ∧
      removal.removed.length = 1 ∧ removal.prunedFolders.length = 1 ∧
      apply .standard removal.text spacedSelection true = .ok again ∧
      again.text = removal.text ∧ again.changed = false := by
  have first : (apply .standard spacedSample spacedSelection true).toOption.map
      (fun removal => (removal.removed.length, removal.prunedFolders.length)) = some (1, 1) := by
    decide +kernel
  cases applied : apply .standard spacedSample spacedSelection true with
  | error e =>
    rw [applied] at first
    cases first
  | ok removal =>
    rw [applied] at first
    obtain ⟨one, one'⟩ := Prod.mk.inj (Option.some.inj first)
    obtain ⟨again, applied', same, -, -, unchanged⟩ :=
      (apply_idempotent .standard spacedSample).1 wellFormed_spacedSample _ _ _ applied
    exact ⟨wellFormed_spacedSample, removal, again, rfl, one, one', applied', same, unchanged⟩

end Removal

end SolutionSweep
