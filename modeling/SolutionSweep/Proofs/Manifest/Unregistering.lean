import SolutionSweep.Proofs.Manifest.Atomicity
import SolutionSweep.Proofs.Manifest.Registered

/-!
# Registrations change only by removal

What a removal does to the registrations of a manifest, however broken its blocks and sections are.
When one block goes, another one that had no end line may come to end behind it, and lines of
version control are rewritten in place; neither makes a registration appear or vanish.

* `Surgery.buildConfigId?_ne_of_removeBlock`: the build configuration of an entry goes with it;
* `Surgery.registrations_of_error`: a removal that fails keeps every registration;
* `Surgery.removeIds_registrations`: the registrations after a run of removals;
* `Surgery.removeEntry_unregisters`: the registrations after a removal, whatever comes of it.
-/

namespace SolutionSweep

/-- Rewriting a line of version control does not touch build configuration. -/
theorem Renumbered.buildConfigId?_eq {l l' : Text} (h : Renumbered l l') :
    Line.buildConfigId? l' = Line.buildConfigId? l :=
  h.apply_eq fun _ scc =>
    Line.eq_none_of_initial? (fun _ => Line.initial?_of_buildConfigId?) (by simp [scc])

namespace Surgery

variable {c : Conventions} {s after : Surgery}

/-- No build configuration of an entry outlives its block. -/
theorem buildConfigId?_ne_of_removeBlock {b : Block} {e : RemovedEntry}
    (ok : removeBlock c s b = (after, .ok e)) :
    ∀ l ∈ after.lines, Line.buildConfigId? l ≠ some b.id := by
  intro l mem config
  obtain ⟨-, left, doomed, eq, pairs, -⟩ := removeBlock_eq_ok ok
  rw [eq] at mem
  obtain ⟨i, at_, kept⟩ := Document.exists_of_mem_linesExcept mem
  rw [Nat.zero_add] at kept
  -- Rewriting does not touch the identifier, so the line was among those to delete.
  obtain ⟨l', at', pair⟩ := exists_of_renumbered pairs at_
  rw [pair.buildConfigId?_eq] at config
  exact kept (by simp [keyedIndices, mem_configIndices.2 ⟨l', at', config⟩])

/-- A removal that fails has rewritten lines of version control at most. -/
theorem registrations_of_error {written : Text} {e : LongNumeral}
    (failed : removeEntry c s written = (after, .error e)) :
    registrations after.lines = registrations s.lines := by
  cases removeEntry_eq_error_iff.1 failed with
  | index => rfl
  | count _ _ read => exact registrations_of_renumbered (forall₂_renumber read _)

/-- **A run of removals takes out the first registration of each identifier in turn.** -/
theorem removeIds_registrations {ids : List EntryId} {removed : List RemovedEntry}
    (ok : removeIds c s ids = (after, .ok removed)) :
    registrations after.lines =
      ids.foldl (fun left id => left.eraseP (·.id == id)) (registrations s.lines) := by
  induction ids generalizing s removed with
  | nil =>
    cases ok
    rfl
  | cons id ids ih =>
    obtain ⟨middle, first, more, one, others, rfl⟩ := removeIds_cons_eq_ok ok
    rw [ih others, List.foldl_cons, (removeId_registrations one).2]

/-- **What a removal does to the registrations of a manifest, however broken.** If it takes out an
entry, this is the first registration of the identifier; the other registrations are those before,
in order, and no build configuration of the identifier is left. If nothing is registered under the
identifier, there is one more warning and all else is as before. A removal that fails keeps every
registration, and so does dropping blank lines. -/
theorem removeEntry_unregisters (c : Conventions) (s : Surgery) (written : Text) :
    (∀ after e, removeEntry c s written = (after, .ok (some e)) →
      (∃ r, (registrations s.lines).find? (·.id == canonicalId written) = some r ∧ r.entry = e) ∧
      registrations after.lines =
        (registrations s.lines).eraseP (·.id == canonicalId written) ∧
      ∀ l ∈ after.lines, Line.buildConfigId? l ≠ some (canonicalId written)) ∧
    (∀ after, removeEntry c s written = (after, .ok none) →
      (∀ r ∈ registrations s.lines, r.id ≠ canonicalId written) ∧
      ∃ w, w.code = "ENTRY_NOT_FOUND".toList ∧ w.entry = canonicalId written ∧
        after = s.warn w) ∧
    (∀ after e, removeEntry c s written = (after, .error e) →
      registrations after.lines = registrations s.lines) ∧
    registrations s.document.stripBlankLines.lines = registrations s.lines := by
  refine ⟨fun after e ok => ?taken, fun after ok => ?absent,
    fun after e => registrations_of_error, ?blank⟩
  case taken =>
    rcases removeId_eq_ok ok with ⟨-, none, -⟩ | ⟨b, e, found, some, taken⟩
    · cases none
    · cases some
      have same : b.id = canonicalId written := by simpa using List.find?_some found
      obtain ⟨first, erased⟩ := removeBlock_registrations found taken
      obtain ⟨rfl, -⟩ := removeBlock_eq_ok taken
      exact ⟨⟨b.registration, first, rfl⟩, erased, same ▸ buildConfigId?_ne_of_removeBlock taken⟩
  case absent =>
    rcases removeId_eq_ok ok with ⟨absent, -, rfl⟩ | ⟨b, e, found, some, taken⟩
    · exact ⟨find?_registrations_eq_none.1 absent, .entryNotFound _, rfl, rfl, rfl⟩
    · cases some
  case blank => exact s.document.lines_stripBlankLines ▸ registrations_nonblank s.lines

/-- A manifest with an entry without an end line, another one that is registered twice, and end
lines and build configuration out of place. -/
def brokenSurgery : Surgery :=
  let line (name id : Text) : Text :=
    "Project(\"\x7bFAE04EC0-301F-11D3-BF4B-00C04F79EFBC\x7d\") = \"".toList ++ name ++
      "\", \"".toList ++ name ++ "\", \"\x7b".toList ++ id ++ "\x7d\"".toList
  let config := "\x7b".toList ++ bookedId ++ "\x7d.Debug|x86.Build.0 = Debug|x86".toList
  let other := "22222222-2222-2222-2222-222222222222".toList
  ⟨⟨[line ['A'] other, line ['B'] bookedId, config, "EndProject".toList, "EndProject".toList,
      line ['C'] bookedId, config], .lineFeed, false, true⟩, []⟩

/-- The first of two registrations goes, with all build configuration. The stray end line behind it
now closes the entry in front of it. -/
theorem removeEntry_unregisters_brokenSurgery :
    ∃ after e, removeEntry .standard brokenSurgery bookedId = (after, .ok (some e)) ∧
      e.name = ['B'] ∧ (registrations brokenSurgery.lines).map (·.name) = [['A'], ['B'], ['C']] ∧
      (registrations after.lines).map (·.name) = [['A'], ['C']] ∧
      (Block.scan after.lines).map (·.span) = [⟨0, 1⟩, ⟨2, 2⟩] ∧
      ∀ l ∈ after.lines, Line.buildConfigId? l ≠ some bookedId := by
  have result : ((removeEntry .standard brokenSurgery bookedId).2.toOption.getD none).map (·.name) =
      some ['B'] := by
    decide +kernel
  have spans : (Block.scan (removeEntry .standard brokenSurgery bookedId).1.lines).map (·.span) =
      [⟨0, 1⟩, ⟨2, 2⟩] := by
    decide +kernel
  have before : (registrations brokenSurgery.lines).map (·.name) = [['A'], ['B'], ['C']] := by
    decide +kernel
  have behind : ((registrations brokenSurgery.lines).eraseP (·.id == canonicalId bookedId)).map
      (·.name) = [['A'], ['C']] := by
    decide +kernel
  have plain : canonicalId bookedId = bookedId := by decide +kernel
  rcases run : removeEntry .standard brokenSurgery bookedId with ⟨after, _ | _ | e⟩
  · rw [run] at result
    cases result
  · rw [run] at result
    cases result
  · rw [run] at result spans
    obtain ⟨-, erased, gone⟩ :=
      (removeEntry_unregisters .standard brokenSurgery bookedId).1 after e run
    exact ⟨after, e, rfl, Option.some.inj result, before, by rw [erased, behind], spans,
      plain ▸ gone⟩

end Surgery

end SolutionSweep
