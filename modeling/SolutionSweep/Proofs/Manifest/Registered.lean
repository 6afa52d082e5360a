import SolutionSweep.Proofs.Manifest.Blanks
import SolutionSweep.Proofs.Manifest.Blocks
import SolutionSweep.Proofs.Manifest.Excision
import SolutionSweep.Proofs.Manifest.Pruning
import Mathlib.Data.List.Nodup
import Mathlib.Data.List.Perm.Basic

/-!
# Registrations

What a manifest registers, read off line by line. This does not depend on whether blocks are closed,
so what removals do to it holds for every manifest: a removal takes out the first registration of an
entry, whatever kind it is of, and no other.

* `registrations`, `registered`: the registrations of a manifest, in order, with their types and as
  they are reported;
* `removeId_registrations`, `removeId_registered`: the registrations after a removal;
* `removeIds_registered`, `find?_of_mem_removeIds`: the registrations after a run of removals, and
  which of them the run takes out;
* `emptied_of_mem_pruneFolders`: pruning takes out what the identifiers of empty folders stand for.
-/

namespace SolutionSweep

open Document (linesExcept)
open Line (indexed? count? initial?)

/-- The entry that a line registers. -/
def Line.entry? (l : Text) : Option RemovedEntry :=
  (Line.registration? l).map fun r =>
    ⟨canonicalId r.id, r.name, r.path, !(canonicalId r.typeId == Block.folderTypeId)⟩

/-- The registrations of a manifest, in order. -/
def registered (lines : List Text) : List RemovedEntry := lines.filterMap Line.entry?

/-- What a line registers, with the identifiers in canonical spelling. -/
def Line.declared? (l : Text) : Option Line.Registration :=
  (Line.registration? l).map fun r =>
    { r with typeId := canonicalId r.typeId, id := canonicalId r.id }

/-- What a block registers. -/
def Block.registration (b : Block) : Line.Registration := ⟨b.typeId, b.name, b.path, b.id⟩

/-- The registrations of a manifest with their types, in order. -/
def registrations (lines : List Text) : List Line.Registration :=
  (Block.scan lines).map (·.registration)

/-- What is said of a registration once it has been taken out. -/
def Line.Registration.entry (r : Line.Registration) : RemovedEntry :=
  ⟨r.id, r.name, r.path, !(r.typeId == Block.folderTypeId)⟩

/-- Each registration line opens a block. -/
theorem registrations_eq (lines : List Text) :
    registrations lines = lines.filterMap Line.declared? := by
  have general : ∀ i, (Block.scanFrom i lines).map (·.registration) =
      lines.filterMap Line.declared? := by
    induction lines with
    | nil => exact fun _ => rfl
    | cons l rest ih =>
      intro i
      cases read : Line.registration? l with
      | none =>
        simp only [Block.scanFrom, read]
        rw [ih, List.filterMap_cons_none (by simp [Line.declared?, read])]
      | some r =>
        simp only [Block.scanFrom, read, List.map_cons, ih]
        rw [List.filterMap_cons_some (by rw [Line.declared?, read, Option.map_some])]
        rfl
  exact general 0

theorem map_entry_registrations (lines : List Text) :
    (registrations lines).map (·.entry) = registered lines := by
  rw [registrations_eq, registered, List.map_filterMap]
  refine List.filterMap_congr fun l _ => ?_
  rw [Line.declared?, Line.entry?, Option.map_map]
  rfl

theorem find?_registered (lines : List Text) (id : EntryId) :
    (registered lines).find? (·.id == id) =
      ((registrations lines).find? (·.id == id)).map (·.entry) := by
  rw [← map_entry_registrations, List.find?_map]
  rfl

theorem registered_of_eraseP {lines lines' : List Text} {id : EntryId}
    (erased : registrations lines' = (registrations lines).eraseP (·.id == id)) :
    registered lines' = (registered lines).eraseP (·.id == id) := by
  rw [← map_entry_registrations, ← map_entry_registrations, erased, List.eraseP_map]
  rfl

/-- No block is found exactly if nothing is registered. -/
theorem find?_registrations_eq_none {id : EntryId} {lines : List Text} :
    Block.find? (Block.scan lines) id = none ↔ ∀ r ∈ registrations lines, r.id ≠ id := by
  rw [Block.find?, List.find?_eq_none, registrations, List.forall_mem_map]
  simp [Block.registration]

theorem map_entry_scan (lines : List Text) :
    (Block.scan lines).map (·.entry) = registered lines := by
  rw [← map_entry_registrations, registrations, List.map_map]
  rfl

theorem Line.declared?_eq_none {l : Text} (h : Line.isRegistration l = false) :
    Line.declared? l = none := by
  rw [Line.declared?, Option.map_eq_none_iff]
  simpa [Line.isRegistration] using h

theorem Line.isRegistration_eq_false_of_initial? {l : Text} (h : initial? l ≠ some 'P') :
    Line.isRegistration l = false :=
  Bool.eq_false_iff.2 fun registers => h (Line.initial?_of_isRegistration registers)

theorem Line.entry?_eq_none {l : Text} (h : initial? l ≠ some 'P') : Line.entry? l = none := by
  rw [Line.entry?, Line.eq_none_of_initial? (fun _ => Line.initial?_of_registration?) h]
  rfl

/-- Rewriting a line of version control does not touch registrations. -/
theorem Renumbered.declared?_eq {l l' : Text} (h : Renumbered l l') :
    Line.declared? l' = Line.declared? l :=
  h.apply_eq fun _ scc =>
    Line.declared?_eq_none (Line.isRegistration_eq_false_of_initial? (by simp [scc]))

/-! ### Releasing an index, wherever its section stands -/

/-- A property stands on the line that it is read off. -/
theorem property_of_scan {lines : List Text} {s : Section} {properties : List Property}
    (scan : Property.scan lines (some s) = .ok properties) {p : Property} (mem : p ∈ properties) :
    ∃ l, lines[p.lineIndex]? = some l ∧ indexed? l = some p.line := by
  obtain ⟨⟨i, x⟩, taken, ok⟩ := exists_of_mem_mapM scan mem
  obtain ⟨⟨l, j⟩, hl, here⟩ := List.mem_filterMap.1 taken
  obtain ⟨x', read, eq⟩ := Option.map_eq_some_iff.1 here
  obtain ⟨rfl, rfl⟩ := Prod.mk.inj eq
  cases number : readNumeral x'.digits with
  | error e => simp [number, Except.map] at ok
  | ok n =>
    simp only [number, Except.map, Except.ok.injEq] at ok
    subst ok
    exact ⟨l, mem_body hl, read⟩

/-- Rewriting twice is rewriting once. -/
theorem Renumbered.trans {l l' l'' : Text} (h : Renumbered l l') (h' : Renumbered l' l'') :
    Renumbered l l'' := by
  cases h with
  | same => exact h'
  | @index x n read =>
    have read' := Line.indexed?_text_renumbered read n
    cases h' with
    | same => exact .index n read
    | index m again =>
      obtain rfl := Option.some.inj (read'.symm.trans again)
      exact show Renumbered l (x.renumbered m).text from .index m read
    | count m again =>
      rw [Line.count?_eq_none_of_indexed? read'] at again
      cases again
  | @count x n read =>
    have read' := Line.count?_text_renumbered read n
    cases h' with
    | same => exact .count n read
    | index m again =>
      rw [indexed?_eq_none_of_count? read'] at again
      cases again
    | count m again =>
      obtain rfl := Option.some.inj (read'.symm.trans again)
      exact show Renumbered l (x.renumbered m).text from .count m read

theorem forall₂_renumbered_trans {xs ys zs : List Text} (h : List.Forall₂ Renumbered xs ys)
    (h' : List.Forall₂ Renumbered ys zs) : List.Forall₂ Renumbered xs zs := by
  induction h generalizing zs with
  | nil => exact h'
  | cons first _ ih =>
    cases h' with
    | cons first' rest' => exact .cons (first.trans first') (ih rest')

theorem renumbered_recount (l : Text) (n : Nat) : Renumbered l (Line.recount l n) := by
  cases read : count? l with
  | none =>
    rw [Line.recount, read]
    exact .same
  | some x =>
    rw [Line.recount_eq read]
    exact .count n read

theorem forall₂_renumber {lines : List Text} {s : Section} {properties : List Property}
    (scan : Property.scan lines (some s) = .ok properties) (k : Nat) :
    List.Forall₂ Renumbered lines (renumber properties k lines) := by
  refine List.forall₂_iff_get.2 ⟨by simp [renumber], fun i h h' => ?_⟩
  simp only [List.get_eq_getElem, renumber, List.getElem_mapIdx, renumberLine]
  split
  · exact .same
  · rename_i p found
    split
    · obtain ⟨l, at_, read⟩ := property_of_scan scan (List.mem_of_find?_eq_some found)
      have here : p.lineIndex = i := by simpa using List.find?_some found
      obtain rfl : lines[i] = l := by simpa [here, h] using at_
      rw [← p.line.text_renumbered]
      exact .index _ read
    · exact .same

theorem forall₂_countDown {lines left : List Text} {s : Section}
    (counted : countDown s lines = .ok left) : List.Forall₂ Renumbered lines left := by
  unfold countDown at counted
  cases found : findCount lines (some s) with
  | error e => simp [found, Except.map] at counted
  | ok count =>
    rw [found] at counted
    cases count with
    | none =>
      cases counted
      exact forall₂_renumbered_refl lines
    | some at_ =>
      cases counted
      refine List.forall₂_iff_get.2 ⟨by simp, fun i h h' => ?_⟩
      simp only [List.get_eq_getElem, List.getElem_modify]
      split
      · exact renumbered_recount _ _
      · exact .same

/-- What the release of an index does to the lines, and which lines it marks for deletion. -/
theorem renumbered_releaseIndex {s : Section} {b : Block} {lines left : List Text}
    {doomed : Option (List Nat)} (released : releaseIndex s b lines = (left, .ok doomed)) :
    List.Forall₂ Renumbered lines left ∧
      ∀ i ∈ doomed.getD [], ∃ l x, lines[i]? = some l ∧ indexed? l = some x := by
  unfold releaseIndex at released
  cases scan : Property.scan lines (some s) with
  | error e =>
    rw [scan] at released
    cases released
  | ok properties =>
    rw [scan] at released
    dsimp only at released
    split at released
    · cases released
      exact ⟨forall₂_renumbered_refl lines, nofun⟩
    · rename_i k _
      split at released
      · cases released
      · rename_i counted
        cases released
        refine ⟨forall₂_renumbered_trans (forall₂_renumber scan k) (forall₂_countDown counted),
          fun i mem => ?_⟩
        obtain ⟨p, hp, rfl⟩ := List.mem_map.1 mem
        obtain ⟨l, at_, read⟩ := property_of_scan scan (List.mem_of_mem_filter hp)
        exact ⟨l, p.line, at_, read⟩

/-! ### One removal -/

theorem registered_append (xs ys : List Text) :
    registered (xs ++ ys) = registered xs ++ registered ys :=
  List.filterMap_append

theorem registrations_append (xs ys : List Text) :
    registrations (xs ++ ys) = registrations xs ++ registrations ys := by
  simp only [registrations_eq, List.filterMap_append]

/-- Rewriting lines of version control does not touch registrations. -/
theorem registrations_of_renumbered {xs ys : List Text} (h : List.Forall₂ Renumbered xs ys) :
    registrations ys = registrations xs := by
  rw [registrations_eq, registrations_eq]
  induction h with
  | nil => rfl
  | cons first _ ih => rw [List.filterMap_cons, List.filterMap_cons, first.declared?_eq, ih]

/-- A blank line registers nothing. -/
theorem registrations_nonblank (lines : List Text) :
    registrations (nonblank lines) = registrations lines := by
  rw [registrations_eq, registrations_eq, nonblank, List.filterMap_filter]
  refine List.filterMap_congr fun l _ => ?_
  cases blank : Text.isBlank l with
  | true =>
    rw [Line.declared?_eq_none (Line.isRegistration_eq_false (Line.isInert_of_isBlank blank))]
    rfl
  | false => rfl

/-- Deleting the lines that a block is keyed by takes its registration out and no other. -/
theorem registrations_linesExcept {lines left front rest : List Text} {opening : Text}
    {r : Line.Registration} (eq : lines = front ++ opening :: rest)
    (pairs : List.Forall₂ Renumbered lines left) {doomed : List Nat}
    (first : front.length ∈ doomed)
    (others : ∀ i l, lines[i]? = some l → i ∈ doomed →
      i ∈ (Block.ofLine front.length r rest).span.indices ∨ Line.isRegistration l = false) :
    registrations (linesExcept doomed 0 left) = registrations front ++ registrations rest := by
  subst eq
  obtain ⟨front', tail, rfl, pairsFront, pairsTail⟩ := renumbered_append_inv pairs
  cases pairsTail with
  | @cons _ opening' _ rest' _ pairsRest =>
    have length := pairsFront.length_eq
    rw [Document.linesExcept_append, Nat.zero_add,
      Document.linesExcept_cons_of_mem (length ▸ first), registrations_append,
      ← registrations_of_renumbered pairsFront, ← registrations_of_renumbered pairsRest]
    simp only [registrations_eq]
    refine congrArg₂ (· ++ ·) (Document.filterMap_linesExcept_eq fun i l' at' mem => ?_)
      (Document.filterMap_linesExcept_eq fun i l' at' mem => ?_)
    · obtain ⟨l, at_, pair⟩ := exists_of_renumbered pairsFront at'
      have lt : i < front.length := (List.getElem?_eq_some_iff.1 at_).1
      rw [Nat.zero_add] at mem
      have at' : (front ++ opening :: rest)[i]? = some l := by
        rw [List.getElem?_append_left lt, at_]
      rw [pair.declared?_eq]
      refine Line.declared?_eq_none ((others i l at' mem).resolve_left fun span => ?_)
      rw [Span.indices, List.mem_range'_1] at span
      have low : front.length ≤ i := span.1
      omega
    · obtain ⟨l, at_, pair⟩ := exists_of_renumbered pairsRest at'
      rw [pair.declared?_eq]
      have at'' : (front ++ opening :: rest)[front'.length + 1 + i]? = some l := by
        rw [← length, List.getElem?_append_right (by omega),
          show front.length + 1 + i - front.length = i + 1 by omega, List.getElem?_cons_succ, at_]
      refine Line.declared?_eq_none ((others _ l at'' mem).elim (fun span => ?_) id)
      refine Block.isRegistration_eq_false_of_lt_extent ?_ at_
      rw [Span.indices, List.mem_range'_1, ← length] at span
      simp only [Block.ofLine] at span
      omega

namespace Surgery

variable {c : Conventions} {s after : Surgery}

/-- The removal of a block takes the lines that are keyed by its entry out of lines that have been
rewritten, and perhaps lines of an index. -/
theorem removeBlock_eq_ok {b : Block} {e : RemovedEntry}
    (ok : removeBlock c s b = (after, .ok e)) :
    e = b.entry ∧ ∃ left doomed,
      after.lines = linesExcept (keyedIndices s.lines b ++ doomed) 0 left ∧
      List.Forall₂ Renumbered s.lines left ∧
      ∀ i ∈ doomed, ∃ l x, s.lines[i]? = some l ∧ indexed? l = some x := by
  unfold removeBlock at ok
  dsimp only at ok
  split at ok
  · cases ok
    refine ⟨rfl, s.lines, [], ?_, forall₂_renumbered_refl _, nofun⟩
    rw [List.append_nil]
    rfl
  · split at ok
    · cases ok
    · rename_i released
      cases ok
      obtain ⟨pairs, marked⟩ := renumbered_releaseIndex released
      refine ⟨rfl, _, [], ?_, pairs, nofun⟩
      rw [List.append_nil]
      rfl
    · rename_i released
      cases ok
      obtain ⟨pairs, marked⟩ := renumbered_releaseIndex released
      exact ⟨rfl, _, _, rfl, pairs, marked⟩

/-- The removal of the block that is found takes out the first registration of its entry. -/
theorem removeBlock_registrations {id : EntryId} {b : Block} {e : RemovedEntry}
    (found : Block.find? (Block.scan s.lines) id = some b)
    (ok : removeBlock c s b = (after, .ok e)) :
    (registrations s.lines).find? (·.id == id) = some b.registration ∧
      registrations after.lines = (registrations s.lines).eraseP (·.id == id) := by
  obtain ⟨rfl, front, opening, rest, r, eq, read, here, first⟩ :=
    Block.exists_opening_of_find? found
  obtain ⟨-, left, doomed, eq', pairs, marked⟩ := removeBlock_eq_ok ok
  have before : registrations s.lines =
      registrations front ++ b.registration :: registrations rest := by
    rw [eq, registrations_append, registrations_eq (opening :: rest), registrations_eq rest]
    refine congrArg _ (List.filterMap_cons_some ?_)
    rw [Line.declared?, read, ← here]
    rfl
  have others : ∀ r ∈ registrations front, ¬ (r.id == b.id) = true := by
    intro r mem same
    rw [registrations_eq] at mem
    obtain ⟨l, hl, here'⟩ := List.mem_filterMap.1 mem
    obtain ⟨r', read', rfl⟩ := Option.map_eq_some_iff.1 here'
    exact first l hl r' read' (by simpa using same)
  -- Apart from the lines of the block, the deleted lines begin with a brace or carry an index.
  have behind : registrations after.lines = registrations front ++ registrations rest := by
    rw [eq']
    refine registrations_linesExcept (r := r) eq pairs ?_ fun i l at_ mem => ?_
    · refine List.mem_append_left _ (List.mem_append_left _ (List.mem_append_left _ ?_))
      rw [← here]
      exact Span.first_mem_indices (Nat.le_add_right _ _)
    · rcases List.mem_append.1 mem with mem | mem
      · rw [here]
        exact (initial?_of_mem_keyedIndices mem at_).imp_right fun brace =>
          Line.isRegistration_eq_false_of_initial? (by simp [brace])
      · obtain ⟨l', x, at', indexed⟩ := marked i mem
        obtain rfl : l = l' := Option.some.inj (at_.symm.trans at')
        exact Or.inr (Line.isRegistration_eq_false (Line.isInert_of_indexed? indexed))
  rw [before, behind]
  constructor
  · rw [List.find?_append, List.find?_eq_none.2 others, Option.none_or,
      List.find?_cons_of_pos (by simp [Block.registration])]
  · rw [List.eraseP_append_right _ others, List.eraseP_cons_of_pos (by simp [Block.registration])]

/-- A removal that succeeds: nothing is found, or a block is taken out. -/
theorem removeId_eq_ok {id : EntryId} {removed : Option RemovedEntry}
    (ok : removeId c s id = (after, .ok removed)) :
    (Block.find? (Block.scan s.lines) id = none ∧ removed = none ∧
        after = s.warn (.entryNotFound id)) ∨
      ∃ b e, Block.find? (Block.scan s.lines) id = some b ∧ removed = some e ∧
        removeBlock c s b = (after, .ok e) := by
  unfold removeId at ok
  cases found : Block.find? (Block.scan s.lines) id with
  | none =>
    rw [found] at ok
    cases ok
    exact Or.inl ⟨rfl, rfl, rfl⟩
  | some b =>
    rw [found] at ok
    dsimp only at ok
    rcases taken : removeBlock c s b with ⟨middle, e | e⟩
    · rw [taken] at ok
      cases ok
    · rw [taken] at ok
      cases ok
      exact Or.inr ⟨b, e, rfl, rfl, taken⟩

/-- **A removal takes out the first registration of an entry and no other.** -/
theorem removeId_registrations {id : EntryId} {removed : Option RemovedEntry}
    (ok : removeId c s id = (after, .ok removed)) :
    removed = ((registrations s.lines).find? (·.id == id)).map (·.entry) ∧
      registrations after.lines = (registrations s.lines).eraseP (·.id == id) := by
  rcases removeId_eq_ok ok with ⟨absent, rfl, rfl⟩ | ⟨b, e, found, rfl, taken⟩
  · have absent : ∀ r ∈ registrations s.lines, ¬ (r.id == id) = true := by
      simpa using find?_registrations_eq_none.1 absent
    rw [List.find?_eq_none.2 absent]
    exact ⟨rfl, (List.eraseP_of_forall_not absent).symm⟩
  · obtain ⟨first, erased⟩ := removeBlock_registrations found taken
    obtain ⟨rfl, -⟩ := removeBlock_eq_ok taken
    rw [first]
    exact ⟨rfl, erased⟩

theorem removeId_registered {id : EntryId} {removed : Option RemovedEntry}
    (ok : removeId c s id = (after, .ok removed)) :
    removed = (registered s.lines).find? (·.id == id) ∧
      registered after.lines = (registered s.lines).eraseP (·.id == id) := by
  obtain ⟨rfl, erased⟩ := removeId_registrations ok
  exact ⟨(find?_registered s.lines id).symm, registered_of_eraseP erased⟩

/-- Every line that a removal leaves comes from a line that was there. -/
theorem exists_of_mem_removeId {id : EntryId} {removed : Option RemovedEntry}
    (ok : removeId c s id = (after, .ok removed)) {l' : Text} (mem : l' ∈ after.lines) :
    ∃ l ∈ s.lines, Renumbered l l' := by
  rcases removeId_eq_ok ok with ⟨-, -, rfl⟩ | ⟨b, e, -, -, taken⟩
  · exact ⟨l', mem, .same⟩
  · obtain ⟨-, left, doomed, eq, pairs, -⟩ := removeBlock_eq_ok taken
    rw [eq] at mem
    exact exists_mem_of_renumbered pairs ((Document.linesExcept_sublist _ _ _).subset mem)

/-! ### Runs of removals -/

/-- The first element of a kind and the others are all elements. -/
theorem perm_find?_eraseP {α : Type} (p : α → Bool) (xs : List α) :
    xs.Perm ((xs.find? p).toList ++ xs.eraseP p) := by
  induction xs with
  | nil => exact .refl _
  | cons x rest ih =>
    by_cases h : p x = true
    · rw [List.find?_cons_of_pos h, List.eraseP_cons_of_pos h]
      exact .refl _
    · rw [List.find?_cons_of_neg h, List.eraseP_cons_of_neg h]
      exact (ih.cons x).trans List.perm_middle.symm

/-- What is not of a kind is found as before when the first element of the kind is gone. -/
theorem find?_eraseP {α : Type} {p q : α → Bool} {xs : List α}
    (apart : ∀ x, p x = true → q x = false) :
    (xs.eraseP p).find? q = xs.find? q := by
  induction xs with
  | nil => rfl
  | cons x rest ih =>
    by_cases h : p x = true
    · rw [List.eraseP_cons_of_pos h, List.find?_cons_of_neg (by simp [apart x h])]
    · rw [List.eraseP_cons_of_neg h, List.find?_cons, List.find?_cons, ih]

/-- **What was registered is what a run of removals has taken out and what is left.** -/
theorem removeIds_registered {ids : List EntryId} {removed : List RemovedEntry}
    (ok : removeIds c s ids = (after, .ok removed)) :
    (registered s.lines).Perm (removed ++ registered after.lines) ∧ ∀ e ∈ removed, e.id ∈ ids := by
  induction ids generalizing s removed with
  | nil =>
    cases ok
    exact ⟨.refl _, nofun⟩
  | cons id ids ih =>
    obtain ⟨middle, first, more, one, others, rfl⟩ := removeIds_cons_eq_ok ok
    obtain ⟨rfl, erased⟩ := removeId_registered one
    obtain ⟨perm, among⟩ := ih others
    rw [erased] at perm
    refine ⟨?_, fun e mem => ?_⟩
    · rw [List.append_assoc]
      exact (perm_find?_eraseP _ _).trans (perm.append_left _)
    · rcases List.mem_append.1 mem with mem | mem
      · have hit := List.find?_some (Option.mem_toList.1 mem)
        exact List.mem_cons.2 (Or.inl (by simpa using hit))
      · exact List.mem_cons_of_mem id (among e mem)

/-- What has been taken out and what is left was registered. -/
theorem mem_registered_iff {ids : List EntryId} {removed : List RemovedEntry}
    (ok : removeIds c s ids = (after, .ok removed)) {e : RemovedEntry} :
    e ∈ registered s.lines ↔ e ∈ removed ∨ e ∈ registered after.lines := by
  rw [(removeIds_registered ok).1.mem_iff, List.mem_append]

/-- Different identifiers do not come into each other's way: each removal takes out what was the
first registration of its identifier from the start. -/
theorem find?_of_mem_removeIds {ids : List EntryId} {removed : List RemovedEntry}
    (ok : removeIds c s ids = (after, .ok removed)) (distinct : ids.Nodup) {e : RemovedEntry}
    (mem : e ∈ removed) : (registered s.lines).find? (·.id == e.id) = some e := by
  induction ids generalizing s removed with
  | nil =>
    cases ok
    cases mem
  | cons id ids ih =>
    obtain ⟨middle, first, more, one, others, rfl⟩ := removeIds_cons_eq_ok ok
    obtain ⟨rfl, erased⟩ := removeId_registered one
    rw [List.nodup_cons] at distinct
    rcases List.mem_append.1 mem with mem | mem
    · have found := Option.mem_toList.1 mem
      have same : e.id = id := by simpa using List.find?_some found
      rw [same]
      exact found
    · have other : e.id ≠ id := fun same =>
        distinct.1 (same ▸ (removeIds_registered others).2 e mem)
      rw [← ih others distinct.2 mem, erased, find?_eraseP]
      intro x hx
      rw [beq_iff_eq] at hx
      rw [beq_eq_false_iff_ne, hx]
      exact other.symm

/-- With distinct identifiers, whatever is registered under one of the chosen identifiers is taken
out. -/
theorem mem_of_removeIds {ids : List EntryId} {removed : List RemovedEntry}
    (ok : removeIds c s ids = (after, .ok removed))
    (distinct : ((registered s.lines).map (·.id)).Nodup) {e : RemovedEntry}
    (mem : e ∈ registered s.lines) (chosen : e.id ∈ ids) : e ∈ removed := by
  induction ids generalizing s removed with
  | nil => cases chosen
  | cons id ids ih =>
    obtain ⟨middle, first, more, one, others, rfl⟩ := removeIds_cons_eq_ok ok
    obtain ⟨rfl, erased⟩ := removeId_registered one
    by_cases same : e.id = id
    · -- No other registration bears this identifier, so `e` is the one that is found.
      obtain ⟨e', found⟩ := Option.isSome_iff_exists.1
        (List.find?_isSome (p := (·.id == id)) |>.2 ⟨e, mem, by simpa using same⟩)
      have same' : e'.id = id := by simpa using List.find?_some found
      obtain rfl : e' = e := List.inj_on_of_nodup_map distinct (List.mem_of_find?_eq_some found) mem
        (same'.trans same.symm)
      rw [found]
      exact List.mem_append_left _ (List.mem_singleton_self e')
    · refine List.mem_append_right _
        (ih others ?_ ?_ ((List.mem_cons.1 chosen).resolve_left same))
      · rw [erased]
        exact distinct.sublist (List.eraseP_sublist.map _)
      · rw [erased, List.mem_eraseP_of_neg (by simpa using same)]
        exact mem

/-- Every line that a run of removals leaves comes from a line that was there. -/
theorem exists_of_mem_removeIds {ids : List EntryId} {removed : List RemovedEntry}
    (ok : removeIds c s ids = (after, .ok removed)) {l' : Text} (mem : l' ∈ after.lines) :
    ∃ l ∈ s.lines, Renumbered l l' := by
  induction ids generalizing s removed with
  | nil =>
    cases ok
    exact ⟨l', mem, .same⟩
  | cons id ids ih =>
    obtain ⟨middle, first, more, one, others, rfl⟩ := removeIds_cons_eq_ok ok
    obtain ⟨l, mem, pair⟩ := ih others
    obtain ⟨l₀, mem₀, pair₀⟩ := exists_of_mem_removeId one mem
    exact ⟨l₀, mem₀, pair₀.trans pair⟩

/-! ### Pruning -/

/-- Pruning takes out what the identifiers of empty folders stand for: when the removals in front of
it were done, the identifier of an entry was that of a folder without anything in it. -/
theorem emptied_of_mem_pruneFolders {pruned : List RemovedEntry}
    (ok : pruneFolders c s = (after, .ok pruned)) {e : RemovedEntry} (mem : e ∈ pruned) :
    ∃ ids middle gone, removeIds c s ids = (middle, .ok gone) ∧ gone <+: pruned ∧
      e.id ∈ emptyFolders middle.lines := by
  fun_induction pruneFolders c s generalizing pruned with
  | case1 s empty =>
    cases ok
    cases mem
  | case2 s id ids empty after e pass => cases ok
  | case3 s id ids empty after removed pass done e rest ih => cases ok
  | case4 s id ids empty middle removed pass done more rest ih =>
    cases ok
    rcases List.mem_append.1 mem with mem | mem
    · exact ⟨[], s, [], rfl, List.nil_prefix, empty ▸ (removeIds_registered pass).2 e mem⟩
    · obtain ⟨ids', middle', gone, later, before, empty'⟩ := ih rest mem
      refine ⟨(id :: ids) ++ ids', middle', removed ++ gone, ?_,
        (List.prefix_append_right_inj _).2 before, empty'⟩
      rw [removeIds_append, pass]
      dsimp only
      rw [later, continued]

end Surgery

end SolutionSweep
