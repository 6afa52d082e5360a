import SolutionSweep.Proofs.Graph.Restriction
import SolutionSweep.Proofs.Path.Containment

/-!
# Roots and containment

A project with an absolute reference is a root if its file lies in the directory of the manifest. Of
a relative reference only the first segment counts, so the file may well lie elsewhere: the way may
leave the directory later, or come back into it.

* `isExternal_of_absolute`, `isExternal_of_relative`: what is decided;
* `within_of_relative`: where the file of a relative reference lies;
* `classified_by_reference`: both together, and what follows for the projects of a manifest;
* `isExternal_detours`: two references on which they differ.
-/

namespace SolutionSweep

open Reference

variable {cwd directory : Path} {reference : Text}

namespace Reference

/-- An absolute reference is external if its file lies outside of the directory. -/
theorem isExternal_of_absolute (normal : directory.IsNormal) (absolute : ¬ IsRelative reference) :
    isExternal cwd directory reference = true ↔
      ¬ directory.Within (path cwd directory reference) := by
  have style : isAbsolute (clean reference) = true := by simpa [IsRelative] using absolute
  rw [isExternal, climbs, style, normal.resolve_eq, ← Path.keyWithin_iff]
  simp

/-- A relative reference is external if it begins with double dots. -/
theorem isExternal_of_relative (relative : IsRelative reference) :
    isExternal cwd directory reference = true ↔ (segments reference).head? = some dotDot := by
  rw [isExternal, climbs_of_isRelative relative, show isAbsolute (clean reference) = false
    from relative]
  simp

/-- **Where the file of a relative reference lies.** With its double dots cancelled the reference
leads up and then down, and it ends in the directory if it does not lead up, or else if it leads
down again by the segments that it went up. -/
theorem within_of_relative (normal : directory.IsNormal) (relative : IsRelative reference) :
    ∃ k names, dotDot ∉ names ∧
      (Path.mk .relative (segments reference)).normal.segments =
        List.replicate k dotDot ++ names ∧
      (k = 0 → directory.Within (path cwd directory reference)) ∧
      (directory.EndsInName → (directory.Within (path cwd directory reference) ↔
        Path.keySegments (directory.segments.drop (directory.segments.length - k)) <+:
          Path.keySegments names)) := by
  obtain ⟨k, names, down, way⟩ := Path.exists_up_down (segments reference)
  have root : (Path.absolute cwd directory).root ≠ .relative := by
    rw [Path.absolute, Path.join, if_neg normal.rooted]
    exact normal.rooted
  have file : path cwd directory reference =
      directory.walk (List.replicate k dotDot ++ names) := by
    rw [path_of_isRelative root relative, normal.resolve_eq, ← way, Path.walk_normal]
  refine ⟨k, names, down, way, ?_, fun ends => ?_⟩
  · rintro rfl
    rw [file]
    exact normal.within_walk down
  · rw [file]
    exact normal.within_walk_iff ends k down

end Reference

namespace ProjectGraph

variable {g : ProjectGraph}

/-- A root is never unused. -/
theorem not_mem_unused_of_mem_roots {p : Project} (root : p ∈ g.roots) {result : Reachability}
    (classified : g.reachability = .ok result) : p ∉ result.unused := by
  obtain ⟨asked, -, -, unused⟩ := exists_traverse classified
  rw [unused, unusedGiven, List.mem_filter]
  rintro ⟨-, kept⟩
  have rootId : g.rootIds.contains p.id = true :=
    List.contains_iff_mem.2 (List.mem_map.2 ⟨p, root, rfl⟩)
  rw [rootId] at kept
  cases kept

/-- **What decides about roots.** A project with an absolute reference is external exactly if its
file lies outside of the directory. One with a relative reference is external exactly if the
reference begins with double dots; where its file lies is told by the reference with its double dots
cancelled. A project that is not external by this is a root, and never unused. -/
theorem classified_by_reference (normal : g.directory.IsNormal) :
    (∀ r, ¬ IsRelative r → (isExternal g.cwd g.directory r = true ↔
      ¬ g.directory.Within (path g.cwd g.directory r))) ∧
    (∀ r, IsRelative r →
      (isExternal g.cwd g.directory r = true ↔ (segments r).head? = some dotDot) ∧
      ∃ k names, dotDot ∉ names ∧
        (Path.mk .relative (segments r)).normal.segments = List.replicate k dotDot ++ names ∧
        (k = 0 → g.directory.Within (path g.cwd g.directory r)) ∧
        (g.directory.EndsInName → (g.directory.Within (path g.cwd g.directory r) ↔
          Path.keySegments (g.directory.segments.drop (g.directory.segments.length - k)) <+:
            Path.keySegments names))) ∧
    (∀ p ∈ g.projects,
      (¬ IsRelative p.relativePath ∧ g.directory.Within (path g.cwd g.directory p.relativePath) ∨
        IsRelative p.relativePath ∧ (segments p.relativePath).head? ≠ some dotDot) →
      p ∈ g.roots ∧ ∀ result, g.reachability = .ok result → p ∉ result.unused) := by
  refine ⟨fun r absolute => isExternal_of_absolute normal absolute, fun r relative =>
    ⟨isExternal_of_relative relative, within_of_relative normal relative⟩, fun p mem inside => ?_⟩
  have notExternal : ¬ isExternal g.cwd g.directory p.relativePath = true := by
    rcases inside with ⟨absolute, within⟩ | ⟨relative, first⟩
    · rw [isExternal_of_absolute normal absolute]
      exact not_not.2 within
    · rw [isExternal_of_relative relative]
      exact first
  have root : p ∈ g.roots := mem_roots.2 ⟨mem, by simpa [isRoot] using notExternal⟩
  exact ⟨root, fun result classified => not_mem_unused_of_mem_roots root classified⟩

/-- The project of a reference in the directory `/w/Sln`. -/
def referenceProject (r : Text) : Project where
  id := r
  name := []
  relativePath := r
  path := path (Path.ofText "/w".toList) (Path.ofText "/w/Sln".toList) r
  nestedPath := []

/-- A manifest with a project for each way to be judged: two absolute references, one of them to a
file in the directory, and two relative ones, one of them with double dots in front. -/
def fourReferences : ProjectGraph where
  cwd := Path.ofText "/w".toList
  directory := Path.ofText "/w/Sln".toList
  projects := ["C:\\A.csproj", "/w//sln/B.csproj", "x\\..\\C.csproj", ".\\..\\D.csproj"].map
    fun r => referenceProject r.toList
  read := fun _ => none

theorem classified_by_reference_fourReferences :
    fourReferences.directory.IsNormal ∧
      isExternal fourReferences.cwd fourReferences.directory "C:\\A.csproj".toList = true ∧
      isExternal fourReferences.cwd fourReferences.directory ".\\..\\D.csproj".toList = true ∧
      (∀ r ∈ ["/w//sln/B.csproj", "x\\..\\C.csproj"],
        referenceProject r.toList ∈ fourReferences.roots) ∧
      ∃ k names, (Path.mk .relative (segments ".\\..\\D.csproj".toList)).normal.segments =
        List.replicate k dotDot ++ names := by
  have normal : fourReferences.directory.IsNormal := by decide +kernel
  obtain ⟨absolute, relative, roots⟩ := classified_by_reference normal
  have drive := absolute "C:\\A.csproj".toList (by decide +kernel)
  obtain ⟨first, k, names, -, way, -⟩ := relative ".\\..\\D.csproj".toList (by decide +kernel)
  refine ⟨normal, drive.2 (by decide +kernel), first.2 (by decide +kernel), fun r mem => ?_,
    k, names, way⟩
  simp only [List.mem_cons, List.not_mem_nil, or_false] at mem
  rcases mem with rfl | rfl
  · exact (roots _ (by decide +kernel) (.inl (by decide +kernel))).1
  · exact (roots _ (by decide +kernel) (.inr (by decide +kernel))).1

end ProjectGraph

/-- A reference that leads out of the directory and back into it, and one that leads into a
directory below and out of both. -/
theorem isExternal_detours :
    let directory := Path.ofText "/w/sln".toList
    let back := "..\\sln\\A.csproj".toList
    let out := "App\\..\\..\\A.csproj".toList
    directory.IsNormal ∧
      (isExternal directory directory back = true ∧
        directory.Within (path directory directory back)) ∧
      isExternal directory directory out = false ∧
        ¬ directory.Within (path directory directory out) := by
  decide +kernel

end SolutionSweep
