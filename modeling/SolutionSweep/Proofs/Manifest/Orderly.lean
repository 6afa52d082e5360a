import SolutionSweep.Manifest.Nesting
import SolutionSweep.Manifest.Block
import SolutionSweep.Proofs.Manifest.Thinning

/-!
# Orderly manifests

In an orderly manifest blocks and sections are closed and the blocks come before the sections. Then
a block or a section that is looked up can be located: the lines are those in front of it, its
opening line, the lines inside, its closing line, and the lines behind.

* `Orderly`: every block and every section is closed, and a line that opens the global part stands
  between the blocks and the sections;
* `Block.At`, `Section.At`: where a block or a section stands;
* `exists_at_of_find?`, `Section.exists_at`: in an orderly manifest they do stand somewhere;
* `Section.linesOf`: the lines inside the section of some name.
-/

namespace SolutionSweep

/-- The line that opens the global part. -/
def Line.isGlobalOpening (l : Text) : Bool := Text.strip l == Line.globalWord

/-- Each registration line is followed by a line that closes its block before the next registration
line or boundary of the global part. -/
def BlocksClosed (lines : List Text) : Prop :=
  Framed Line.isRegistration Line.isBlockEnd
    (fun l => Line.isRegistration l || Line.isGlobalBoundary l) lines

/-- Each header is followed by a line that closes its section before the next header or boundary of
the global part. -/
def SectionsClosed (lines : List Text) : Prop :=
  Framed Line.isSectionHeader Line.isSectionEnd
    (fun l => Line.isSectionHeader l || Line.isGlobalBoundary l) lines

instance (lines : List Text) : Decidable (BlocksClosed lines) :=
  inferInstanceAs (Decidable (Framed _ _ _ _))

instance (lines : List Text) : Decidable (SectionsClosed lines) :=
  inferInstanceAs (Decidable (Framed _ _ _ _))

/-- Blocks and sections are closed, and the global part opens after the blocks and before the
sections. -/
structure Orderly (lines : List Text) : Prop where
  blocks : BlocksClosed lines
  sections : SectionsClosed lines
  global : ∃ front opening back, lines = front ++ opening :: back ∧
    Line.isGlobalOpening opening = true ∧ (∀ l ∈ front, Line.isSectionHeader l = false) ∧
      ∀ l ∈ back, Line.isRegistration l = false

namespace Line

variable {l : Text}

theorem isGlobalBoundary_of_isGlobalOpening (h : isGlobalOpening l = true) :
    isGlobalBoundary l = true := by
  rw [isGlobalBoundary, Bool.or_eq_true_iff]
  exact Or.inl h

theorem initial?_of_isGlobalOpening (h : isGlobalOpening l = true) : initial? l = some 'G' :=
  initial?_eq_of_strip (beq_iff_eq.1 h)

theorem isGlobalOpening_eq_false_of_isRegistration (h : isRegistration l = true) :
    isGlobalOpening l = false :=
  eq_false_of_initial? initial?_of_isGlobalOpening (initial?_of_isRegistration h) (by decide)

theorem isGlobalOpening_eq_false_of_isBlockEnd (h : isBlockEnd l = true) :
    isGlobalOpening l = false :=
  eq_false_of_initial? initial?_of_isGlobalOpening (initial?_of_isBlockEnd h) (by decide)

end Line

/-! ### Thinning -/

theorem BlocksClosed.thinned {lines lines' : List Text} (h : BlocksClosed lines)
    (thin : Thinned lines lines') : BlocksClosed lines' :=
  Framed.thinned h thin (fun _ => Line.isRegistration_eq_false) fun l inert => by
    simp [Line.isBlockEnd_eq_false inert, Line.isRegistration_eq_false inert,
      Line.isGlobalBoundary_eq_false inert]

theorem SectionsClosed.thinned {lines lines' : List Text} (h : SectionsClosed lines)
    (thin : Thinned lines lines') : SectionsClosed lines' :=
  Framed.thinned h thin (fun _ => Line.isSectionHeader_eq_false) fun l inert => by
    simp [Line.isSectionEnd_eq_false inert, Line.isSectionHeader_eq_false inert,
      Line.isGlobalBoundary_eq_false inert]

/-- A thinned manifest is as orderly as before. -/
theorem Orderly.thinned {lines lines' : List Text} (h : Orderly lines)
    (thin : Thinned lines lines') : Orderly lines' := by
  refine ⟨h.blocks.thinned thin, h.sections.thinned thin, ?_⟩
  obtain ⟨front, opening, back, rfl, opens, noHeader, noBlock⟩ := h.global
  obtain ⟨front', tail, rfl, thinFront, thinTail⟩ := thin.append_inv
  obtain ⟨back', rfl, thinBack⟩ := thinTail.cons_inv
    (Line.isInert_eq_false_of_isGlobalBoundary (Line.isGlobalBoundary_of_isGlobalOpening opens))
  exact ⟨front', opening, back', rfl, opens,
    thinFront.forall_eq_false (fun _ => Line.isSectionHeader_eq_false) noHeader,
    thinBack.forall_eq_false (fun _ => Line.isRegistration_eq_false) noBlock⟩

/-! ### Blocks -/

namespace Block

/-- How a block stands among the lines of a manifest, with no block of the same entry before it. -/
structure At (b : Block) (lines front : List Text) (opening : Text) (inner : List Text)
    (closing : Text) (back : List Text) : Prop where
  lines_eq : lines = front ++ opening :: (inner ++ closing :: back)
  block : ∃ r, Line.registration? opening = some r ∧
    ofLine front.length r (inner ++ closing :: back) = b
  closes : Line.isBlockEnd closing = true
  inner : ∀ l ∈ inner, Line.isBlockEnd l = false ∧
    (Line.isRegistration l || Line.isGlobalBoundary l) = false
  first : ∀ l ∈ front, ∀ r, Line.registration? l = some r → canonicalId r.id ≠ b.id

variable {b : Block} {lines front inner back : List Text} {opening closing : Text}

/-- A block takes the lines up to the first closing one. -/
theorem extent_eq (closes : Line.isBlockEnd closing = true)
    (none : ∀ l ∈ inner, Line.isBlockEnd l = false ∧
      (Line.isRegistration l || Line.isGlobalBoundary l) = false) :
    extent (inner ++ closing :: back) = some (inner.length + 1) := by
  induction inner with
  | nil => simp [extent, closes]
  | cons l rest ih =>
    obtain ⟨noEnd, noBreak⟩ := none l List.mem_cons_self
    have := ih fun x hx => none x (List.mem_cons_of_mem l hx)
    simp [extent, noEnd, noBreak, this]

/-- The block of a registration line in front of its inner lines and its closing line. -/
theorem ofLine_eq {i : Nat} {r : Line.Registration}
    (closes : Line.isBlockEnd closing = true)
    (none : ∀ l ∈ inner, Line.isBlockEnd l = false ∧
      (Line.isRegistration l || Line.isGlobalBoundary l) = false) :
    ofLine i r (inner ++ closing :: back) =
      { id := canonicalId r.id, typeId := canonicalId r.typeId, name := r.name, path := r.path,
        span := ⟨i, i + inner.length + 1⟩, hasItems := inner.any Line.isItemsHeader } := by
  unfold ofLine
  rw [extent_eq closes none]
  simp [Nat.add_assoc]

theorem At.span_eq (h : b.At lines front opening inner closing back) :
    b.span = ⟨front.length, front.length + inner.length + 1⟩ := by
  obtain ⟨r, -, rfl⟩ := h.block
  rw [ofLine_eq h.closes h.inner]

theorem At.isRegistration (h : b.At lines front opening inner closing back) :
    Line.isRegistration opening = true := by
  obtain ⟨r, found, -⟩ := h.block
  simp [Line.isRegistration, found]

/-- The indices of the lines of a block are those between the lines in front and behind. -/
theorem At.mem_indices (h : b.At lines front opening inner closing back) {i : Nat} :
    i ∈ b.span.indices ↔ front.length ≤ i ∧ i < front.length + (inner.length + 2) := by
  rw [h.span_eq, Span.indices, List.mem_range'_1]
  simp only
  omega

theorem At.suffix_back (h : b.At lines front opening inner closing back) : back <:+ lines :=
  ⟨front ++ opening :: (inner ++ [closing]), by simp [h.lines_eq]⟩

/-- A registration line breaks off whatever is open, so the blocks in front of it are closed. -/
theorem At.blocksClosed_front (h : b.At lines front opening inner closing back)
    (closed : BlocksClosed lines) : BlocksClosed front := by
  rw [h.lines_eq] at closed
  exact Framed.front closed (by simp [h.isRegistration])
    (Line.isBlockEnd_eq_false_of_isRegistration h.isRegistration)

/-- Where the first block of an entry opens. -/
theorem exists_opening_of_find? {id : EntryId} (found : find? (scan lines) id = some b) :
    b.id = id ∧ ∃ front opening rest r, lines = front ++ opening :: rest ∧
      Line.registration? opening = some r ∧ ofLine front.length r rest = b ∧
        ∀ l ∈ front, ∀ r, Line.registration? l = some r → canonicalId r.id ≠ b.id := by
  have same : b.id = id := by simpa using List.find?_some found
  refine ⟨same, ?_⟩
  subst same
  -- The lines before those that are still to be scanned register other entries.
  have general : ∀ front rest, lines = front ++ rest →
      (∀ l ∈ front, ∀ r, Line.registration? l = some r → canonicalId r.id ≠ b.id) →
      find? (scanFrom front.length rest) b.id = some b →
      ∃ front opening rest r, lines = front ++ opening :: rest ∧
        Line.registration? opening = some r ∧ ofLine front.length r rest = b ∧
          ∀ l ∈ front, ∀ r, Line.registration? l = some r → canonicalId r.id ≠ b.id := by
    intro front rest
    induction rest generalizing front with
    | nil => intro _ _ found; simp [scanFrom, find?] at found
    | cons l rest ih =>
      intro eq others found
      have next (other : ∀ r, Line.registration? l = some r → canonicalId r.id ≠ b.id)
          (found : find? (scanFrom (front.length + 1) rest) b.id = some b) :=
        ih (front ++ [l]) (by simp [eq])
          (List.forall_mem_append.2 ⟨others, List.forall_mem_singleton.2 other⟩)
          (by simpa using found)
      cases read : Line.registration? l with
      | none =>
        simp only [scanFrom, read] at found
        exact next (by simp [read]) found
      | some r =>
        simp only [scanFrom, read, find?] at found
        by_cases hit : canonicalId r.id = b.id
        · rw [List.find?_cons_of_pos (by simp [ofLine, hit])] at found
          exact ⟨front, l, rest, r, eq, read, Option.some.inj found, others⟩
        · rw [List.find?_cons_of_neg (by simp [ofLine, hit])] at found
          refine next (fun r' read' => ?_) found
          obtain rfl : r = r' := Option.some.inj (read.symm.trans read')
          exact hit
  exact general [] lines rfl (by simp) found

/-- In a manifest with closed blocks, a block that is found stands somewhere. -/
theorem exists_at_of_find? (closed : BlocksClosed lines) {id : EntryId}
    (found : find? (scan lines) id = some b) :
    b.id = id ∧
      ∃ front opening inner closing back, b.At lines front opening inner closing back := by
  obtain ⟨same, front, opening, rest, r, eq, read, here, first⟩ := exists_opening_of_find? found
  have suffix : opening :: rest <:+ lines := ⟨front, eq.symm⟩
  obtain ⟨inner, closing, back, rfl, closes, none⟩ :=
    closed.split suffix (by simp [Line.isRegistration, read])
  exact ⟨same, front, opening, inner, closing, back, eq, ⟨r, read, here⟩, closes, none, first⟩

end Block

/-! ### Sections -/

/-- Headers of sections of some names, letter case aside. -/
def Line.opensSection (names : List Text) (l : Text) : Bool :=
  (Line.sectionHeader? l).any fun h => (names.map Text.lower).contains (Text.lower h.name)

theorem Line.isSectionHeader_of_opensSection {names : List Text} {l : Text}
    (h : Line.opensSection names l = true) : Line.isSectionHeader l = true := by
  unfold Line.opensSection at h
  unfold Line.isSectionHeader
  cases read : Line.sectionHeader? l with
  | none => simp [read] at h
  | some header => rfl

theorem Line.opensSection_eq_false {names : List Text} {l : Text}
    (h : Line.isSectionHeader l = false) : Line.opensSection names l = false := by
  by_contra other
  rw [Line.isSectionHeader_of_opensSection (by simpa using other)] at h
  cases h

namespace Section

/-- How the first section of some names stands among the lines of a manifest. -/
structure At (names : List Text) (lines front : List Text) (opening : Text) (inner : List Text)
    (closing : Text) (back : List Text) : Prop where
  lines_eq : lines = front ++ opening :: (inner ++ closing :: back)
  opens : Line.opensSection names opening = true
  closes : Line.isSectionEnd closing = true
  inner : ∀ l ∈ inner, Line.isSectionEnd l = false ∧
    (Line.isSectionHeader l || Line.isGlobalBoundary l) = false
  first : ∀ l ∈ front, Line.opensSection names l = false

variable {names lines front inner back : List Text} {opening closing : Text}

/-- A section takes the lines up to the first closing one. -/
theorem extent_eq (closes : Line.isSectionEnd closing = true)
    (none : ∀ l ∈ inner, Line.isSectionEnd l = false ∧
      (Line.isSectionHeader l || Line.isGlobalBoundary l) = false) :
    extent (inner ++ closing :: back) = inner.length + 1 := by
  induction inner with
  | nil => simp [extent, closes]
  | cons l rest ih =>
    obtain ⟨noEnd, noBreak⟩ := none l List.mem_cons_self
    have := ih fun x hx => none x (List.mem_cons_of_mem l hx)
    simp [extent, noEnd, noBreak, this]

/-- Lines without a header of some names have no section of these names. -/
theorem find?_scanFrom_append (absent : ∀ l ∈ front, Line.opensSection names l = false) (i : Nat)
    (rest : List Text) :
    find? (scanFrom i (front ++ rest)) names = find? (scanFrom (i + front.length) rest) names := by
  induction front generalizing i with
  | nil => rfl
  | cons l front ih =>
    have tail := ih (fun x hx => absent x (List.mem_cons_of_mem l hx)) (i + 1)
    have head := absent l List.mem_cons_self
    have shift : i + 1 + front.length = i + (l :: front).length := by simp; omega
    rw [shift] at tail
    cases read : Line.sectionHeader? l with
    | none => rw [List.cons_append, scanFrom, read]; exact tail
    | some h =>
      simp only [Line.opensSection, read, Option.any_some] at head
      rw [List.cons_append, scanFrom, read, ← tail]
      exact List.find?_cons_of_neg (by rw [head]; decide)

theorem find?_eq_none (absent : ∀ l ∈ lines, Line.opensSection names l = false) :
    find? (scan lines) names = none := by
  have := find?_scanFrom_append absent 0 []
  rwa [List.append_nil] at this

/-- The section that is found is the one that stands first. -/
theorem At.find?_eq (h : At names lines front opening inner closing back) :
    ∃ s, find? (scan lines) names = some s ∧
      s.span = ⟨front.length, front.length + inner.length + 1⟩ := by
  have opens := h.opens
  unfold Line.opensSection at opens
  cases read : Line.sectionHeader? opening with
  | none => simp [read] at opens
  | some header =>
    rw [read, Option.any_some] at opens
    have span : front.length + extent (inner ++ closing :: back) =
        front.length + inner.length + 1 := by rw [extent_eq h.closes h.inner, Nat.add_assoc]
    refine ⟨⟨header.name, header.timing, ⟨front.length, front.length + inner.length + 1⟩⟩, ?_, rfl⟩
    rw [h.lines_eq, scan, find?_scanFrom_append h.first, Nat.zero_add]
    simp only [scanFrom, read, find?, span]
    exact List.find?_cons_of_pos opens

/-- The body of a section are lines that stand one behind the other. -/
theorem body_eq_zipIdx (s : Section) (lines : List Text) :
    s.body lines = ((lines.drop (s.span.first + 1)).take
      (s.span.last - (s.span.first + 1))).zipIdx (s.span.first + 1) := by
  refine List.ext_getElem? fun i => ?_
  rw [body, List.getElem?_take, List.getElem?_drop, List.getElem?_zipIdx, List.getElem?_zipIdx,
    List.getElem?_take, List.getElem?_drop]
  split <;> simp

/-- The body of a section are the lines between its first line and its last one. -/
theorem body_eq {s : Section}
    (span : s.span = ⟨front.length, front.length + inner.length + 1⟩) :
    s.body (front ++ opening :: (inner ++ closing :: back)) = inner.zipIdx (front.length + 1) := by
  rw [body_eq_zipIdx, span]
  simp only [show front.length + inner.length + 1 - (front.length + 1) = inner.length by omega]
  rw [show front ++ opening :: (inner ++ closing :: back) =
    (front ++ [opening]) ++ (inner ++ closing :: back) by simp,
    List.drop_left' (by simp), List.take_left]

/-- The body of the section that is found are the lines inside of it. -/
theorem At.bodyOf_eq (h : At names lines front opening inner closing back) :
    bodyOf (find? (scan lines) names) lines = inner.zipIdx (front.length + 1) := by
  obtain ⟨s, found, span⟩ := h.find?_eq
  rw [found, h.lines_eq]
  exact body_eq span

theorem At.exists_bodyOf (h : At names lines front opening inner closing back) :
    ∃ s, find? (scan lines) names = some s ∧
      bodyOf (some s) lines = inner.zipIdx (front.length + 1) := by
  obtain ⟨s, found, -⟩ := h.find?_eq
  exact ⟨s, found, found ▸ h.bodyOf_eq⟩

/-- The lines inside of a section come after its header. -/
theorem At.getElem?_eq (h : At names lines front opening inner closing back) {i : Nat} {l : Text}
    (at_ : inner[i]? = some l) : lines[front.length + 1 + i]? = some l := by
  have lt : i < inner.length := (List.getElem?_eq_some_iff.1 at_).1
  rw [h.lines_eq, List.getElem?_append_right (by omega),
    show front.length + 1 + i - front.length = i + 1 by omega, List.getElem?_cons_succ,
    List.getElem?_append_left lt, at_]

/-- The lines inside the first section of some names, none if there is no such section. -/
def linesOf (names : List Text) (lines : List Text) : List Text :=
  (bodyOf (find? (scan lines) names) lines).map (·.1)

theorem At.linesOf_eq (h : At names lines front opening inner closing back) :
    linesOf names lines = inner := by
  rw [linesOf, h.bodyOf_eq, List.zipIdx_map_fst]

theorem linesOf_eq_nil (absent : ∀ l ∈ lines, Line.opensSection names l = false) :
    linesOf names lines = [] := by
  rw [linesOf, find?_eq_none absent]
  rfl

/-- In a manifest with closed sections, the first section of some names stands somewhere, if any of
the lines is a header of such a section. -/
theorem exists_at (closed : SectionsClosed lines) (names : List Text) :
    (∀ l ∈ lines, Line.opensSection names l = false) ∨
      ∃ front opening inner closing back, At names lines front opening inner closing back := by
  cases found : lines.find? (Line.opensSection names) with
  | none => exact Or.inl (by simpa using found)
  | some opening =>
    right
    obtain ⟨opens, front, rest, rfl, first⟩ := List.find?_eq_some_iff_append.1 found
    have suffix : opening :: rest <:+ front ++ opening :: rest := List.suffix_append _ _
    obtain ⟨inner, closing, back, rfl, closes, none⟩ :=
      closed.split suffix (Line.isSectionHeader_of_opensSection opens)
    exact ⟨front, opening, inner, closing, back, rfl, opens, closes, none, by simpa using first⟩

end Section

end SolutionSweep
