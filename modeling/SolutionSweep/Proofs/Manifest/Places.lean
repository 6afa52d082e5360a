import SolutionSweep.Proofs.Manifest.Registered

/-!
# Where a line stands

The lines that go with an entry depend on where they stand: in its block, or in the section of
nesting. Reading the lines one after another tells where each of them stands, and an inert line does
not change where the others do. So a deletion of inert lines is a filter on lines with their places.

* `Place`, `Place.next`: what has been opened before a line, and what is after it;
* `Phase.holds_iff`, `ownerOf_eq_some_iff`: the places found line by line are those that sections
  and blocks take by their indices;
* `outside`: the lines with their places, those of the book of version control set aside;
* `outside_linesExcept`: what is left of them after a deletion.
-/

namespace SolutionSweep

open Document (linesExcept)
open Line (indexed? count? nesting?)

/-- A line of two parts and the lines before it. -/
theorem getElem?_append_cases {xs ys : List Text} {i : Nat} {l : Text}
    (at_ : (xs ++ ys)[i]? = some l) :
    (i < xs.length ∧ xs[i]? = some l ∧ (xs ++ ys).take i = xs.take i) ∨
      ∃ j, i = xs.length + j ∧ ys[j]? = some l ∧ (xs ++ ys).take i = xs ++ ys.take j := by
  rcases Nat.lt_or_ge i xs.length with lt | ge
  · rw [List.getElem?_append_left lt] at at_
    exact Or.inl ⟨lt, at_, List.take_append_of_le_length lt.le⟩
  · obtain ⟨j, rfl⟩ := Nat.exists_eq_add_of_le ge
    rw [List.getElem?_append_right ge, Nat.add_sub_cancel_left] at at_
    exact Or.inr ⟨j, rfl, at_, by rw [List.take_length_add_append]⟩

/-! ### Sections -/

/-- How far the first section of some names has been read. -/
inductive Phase
  | ahead
  | inside
  | behind
  deriving DecidableEq

namespace Phase

/-- The phase after a line. -/
def next (names : List Text) : Phase → Text → Phase
  | ahead, l => if Line.opensSection names l then inside else ahead
  | inside, l => if Line.isSectionEnd l then behind else inside
  | behind, _ => behind

/-- Whether a line that is met in a phase stands between the first line of the section and its
last one. -/
def holds (phase : Phase) (l : Text) : Bool := phase == inside && !Line.isSectionEnd l

variable {names lines : List Text}

theorem foldl_ahead (absent : ∀ l ∈ lines, Line.opensSection names l = false) :
    lines.foldl (next names) ahead = ahead := by
  induction lines with
  | nil => rfl
  | cons l rest ih =>
    rw [List.foldl_cons, next, if_neg (by simp [absent l List.mem_cons_self])]
    exact ih fun x mem => absent x (List.mem_cons_of_mem l mem)

theorem foldl_inside (open_ : ∀ l ∈ lines, Line.isSectionEnd l = false) :
    lines.foldl (next names) inside = inside := by
  induction lines with
  | nil => rfl
  | cons l rest ih =>
    rw [List.foldl_cons, next, if_neg (by simp [open_ l List.mem_cons_self])]
    exact ih fun x mem => open_ x (List.mem_cons_of_mem l mem)

theorem foldl_behind (lines : List Text) : lines.foldl (next names) behind = behind := by
  induction lines with
  | nil => rfl
  | cons l rest ih => exact ih

/-- **The lines that are met inside of a section are those of its body.** -/
theorem holds_iff (closed : SectionsClosed lines) {i : Nat} {l : Text} (at_ : lines[i]? = some l) :
    holds ((lines.take i).foldl (next names) ahead) l = true ↔
      (l, i) ∈ Section.bodyOf (Section.find? (Section.scan lines) names) lines := by
  rcases Section.exists_at closed names with absent | ⟨front, opening, inner, closing, back, h⟩
  · rw [foldl_ahead fun l mem => absent l (List.mem_of_mem_take mem), Section.find?_eq_none absent]
    simp [holds, Section.bodyOf]
  · rw [h.bodyOf_eq, List.mem_zipIdx_iff_le_and_getElem?_sub]
    have opened : next names ahead opening = inside := if_pos h.opens
    have closed : next names inside closing = behind := if_pos h.closes
    -- The parts one after another: lines in front, header, lines inside, end line, lines behind.
    rw [h.lines_eq] at at_ ⊢
    rcases getElem?_append_cases at_ with ⟨lt, -, eq⟩ | ⟨j, rfl, at_, eq⟩
    · rw [eq, foldl_ahead fun x mem => h.first x (List.mem_of_mem_take mem)]
      exact iff_of_false (by simp [holds]) fun inside => by omega
    rw [eq, List.foldl_append, foldl_ahead h.first]
    cases j with
    | zero => exact iff_of_false (by simp [holds]) fun inside => by omega
    | succ j =>
      rw [List.getElem?_cons_succ] at at_
      rw [List.take_succ_cons, List.foldl_cons, opened,
        show front.length + (j + 1) - (front.length + 1) = j by omega]
      rcases getElem?_append_cases at_ with ⟨lt, at_, eq⟩ | ⟨k, rfl, at_, eq⟩
      · have kept := (h.inner l (List.mem_of_getElem? at_)).1
        rw [eq, foldl_inside fun x mem => (h.inner x (List.mem_of_mem_take mem)).1]
        simp [holds, kept, at_]
      · rw [eq, List.foldl_append, foldl_inside fun x mem => (h.inner x mem).1]
        cases k with
        | zero =>
          obtain rfl : closing = l := Option.some.inj at_
          simp [holds, h.closes]
        | succ k =>
          rw [List.take_succ_cons, List.foldl_cons, closed, foldl_behind]
          simp [holds]

end Phase

/-! ### Blocks -/

/-- The entry of the block that a line stands in, if `open_` is the one that is open before it. -/
def ownerOf (open_ : Option EntryId) (l : Text) : Option EntryId :=
  match Line.registration? l with
  | some r => some (canonicalId r.id)
  | none => open_

/-- The entry whose block is open after a line. -/
def ownerAfter (open_ : Option EntryId) (l : Text) : Option EntryId :=
  if Line.isBlockEnd l then none else ownerOf open_ l

theorem ownerOf_of_some {l : Text} {r : Line.Registration} (read : Line.registration? l = some r)
    (open_ : Option EntryId) : ownerOf open_ l = some (canonicalId r.id) := by rw [ownerOf, read]

theorem ownerOf_of_none {l : Text} (none : Line.registration? l = none) (open_ : Option EntryId) :
    ownerOf open_ l = open_ := by rw [ownerOf, none]

/-- Where an entry is open, its block was open before or a line has opened it, and no line after
that has closed it. -/
theorem foldl_ownerAfter_cases {lines : List Text} {open_ : Option EntryId} {id : EntryId}
    (owner : lines.foldl ownerAfter open_ = some id) :
    (open_ = some id ∧ ∀ l ∈ lines, Line.isBlockEnd l = false) ∨
      ∃ front opening rest r, lines = front ++ opening :: rest ∧
        Line.registration? opening = some r ∧ canonicalId r.id = id ∧
          ∀ l ∈ rest, Line.isBlockEnd l = false := by
  induction lines generalizing open_ with
  | nil => exact Or.inl ⟨owner, nofun⟩
  | cons l rest ih =>
    rcases ih owner with ⟨before, unclosed⟩ | ⟨front, opening, rest, r, rfl, read, same, unclosed⟩
    · cases closes : Line.isBlockEnd l with
      | true =>
        rw [ownerAfter, if_pos closes] at before
        cases before
      | false =>
        rw [ownerAfter, if_neg (by simp [closes])] at before
        cases read : Line.registration? l with
        | none =>
          rw [ownerOf_of_none read] at before
          exact Or.inl ⟨before, List.forall_mem_cons.2 ⟨closes, unclosed⟩⟩
        | some r =>
          rw [ownerOf_of_some read] at before
          exact Or.inr ⟨[], l, rest, r, rfl, read, Option.some.inj before, unclosed⟩
    · exact Or.inr ⟨l :: front, opening, rest, r, rfl, read, same, unclosed⟩

/-- Where no line registers an entry, no line is met in a block of it. -/
theorem ownerOf_ne_some {lines : List Text} {id : EntryId} {i : Nat} {l : Text}
    (at_ : lines[i]? = some l)
    (others : ∀ l ∈ lines, ∀ r, Line.registration? l = some r → canonicalId r.id ≠ id) :
    ownerOf ((lines.take i).foldl ownerAfter none) l ≠ some id := by
  intro owner
  cases read : Line.registration? l with
  | some r =>
    rw [ownerOf_of_some read] at owner
    exact others l (List.mem_of_getElem? at_) r read (Option.some.inj owner)
  | none =>
    rw [ownerOf_of_none read] at owner
    obtain ⟨⟨⟩, -⟩ | ⟨front, opening, rest, r, eq, read, same, -⟩ := foldl_ownerAfter_cases owner
    have mem : opening ∈ lines.take i := by
      rw [eq]
      simp
    exact others opening (List.mem_of_mem_take mem) r read same

/-- Lines that open and close nothing leave open what is open. -/
theorem foldl_ownerAfter_eq {lines : List Text} (quiet : ∀ l ∈ lines, Line.isBlockEnd l = false ∧
      (Line.isRegistration l || Line.isGlobalBoundary l) = false) (open_ : Option EntryId) :
    lines.foldl ownerAfter open_ = open_ := by
  induction lines with
  | nil => rfl
  | cons l rest ih =>
    obtain ⟨unclosed, unbroken⟩ := quiet l List.mem_cons_self
    have none : Line.registration? l = none := by
      simpa [Line.isRegistration] using (Bool.or_eq_false_iff.1 unbroken).1
    rw [List.foldl_cons, ownerAfter, if_neg (by simp [unclosed]), ownerOf_of_none none]
    exact ih fun x mem => quiet x (List.mem_cons_of_mem l mem)

/-- Where all blocks are closed, none is open. -/
theorem BlocksClosed.foldl_ownerAfter {lines : List Text} (closed : BlocksClosed lines) :
    lines.foldl ownerAfter none = none := by
  cases owner : lines.foldl ownerAfter none with
  | none => rfl
  | some id =>
    obtain ⟨⟨⟩, -⟩ | ⟨front, opening, rest, r, rfl, read, -, unclosed⟩ :=
      foldl_ownerAfter_cases owner
    obtain ⟨inner, closing, back, rfl, closes, -⟩ :=
      closed.split (List.suffix_append _ _) (by simp [Line.isRegistration, read])
    rw [unclosed closing (by simp)] at closes
    cases closes

namespace Block.At

variable {b : Block} {lines front inner back : List Text} {opening closing : Text}

theorem exists_registration (h : b.At lines front opening inner closing back) :
    ∃ r, Line.registration? opening = some r ∧ canonicalId r.id = b.id := by
  obtain ⟨r, read, rfl⟩ := h.block
  exact ⟨r, read, rfl⟩

/-- After the block no line registers its entry again. -/
theorem others (h : b.At lines front opening inner closing back)
    (distinct : ((registered lines).map (·.id)).Nodup) :
    ∀ l ∈ back, ∀ r, Line.registration? l = some r → canonicalId r.id ≠ b.id := by
  intro l mem r read same
  have entryOf {l : Text} {r : Line.Registration} (read : Line.registration? l = some r)
      (same : canonicalId r.id = b.id) : ∃ e, Line.entry? l = some e ∧ e.id = b.id := by
    rw [Line.entry?, read]
    exact ⟨_, rfl, same⟩
  obtain ⟨r₀, read₀, same₀⟩ := h.exists_registration
  obtain ⟨e₀, entry₀, id₀⟩ := entryOf read₀ same₀
  obtain ⟨e, entry, id⟩ := entryOf read same
  rw [h.lines_eq, registered_append, registered, registered,
    List.filterMap_cons_some entry₀, List.map_append, List.nodup_append] at distinct
  obtain ⟨-, distinct, -⟩ := distinct
  rw [List.map_cons, List.nodup_cons] at distinct
  refine distinct.1 (List.mem_map.2 ⟨e, List.mem_filterMap.2 ⟨l, by simp [mem], entry⟩, ?_⟩)
  rw [id, id₀]

/-- After the block nothing is open. -/
theorem foldl_ownerAfter (h : b.At lines front opening inner closing back)
    (open_ : Option EntryId) : (opening :: (inner ++ [closing])).foldl ownerAfter open_ = none := by
  rw [← List.cons_append, List.foldl_append]
  exact if_pos h.closes

/-- The lines of the block are met in the block. -/
theorem ownerOf_inside (h : b.At lines front opening inner closing back) {j : Nat} {l : Text}
    (at_ : (opening :: (inner ++ [closing]))[j]? = some l) :
    ownerOf (((opening :: (inner ++ [closing])).take j).foldl ownerAfter none) l = some b.id := by
  obtain ⟨r, read, same⟩ := h.exists_registration
  cases j with
  | zero =>
    obtain rfl : opening = l := Option.some.inj at_
    rw [ownerOf_of_some read, same]
  | succ j =>
    have opened : ownerAfter none opening = some b.id := by
      rw [ownerAfter, if_neg, ownerOf_of_some read, same]
      rw [Line.isBlockEnd_eq_false_of_isRegistration h.isRegistration]
      decide
    rw [List.getElem?_cons_succ] at at_
    have lt : j < inner.length + 1 := by
      simpa using (List.getElem?_eq_some_iff.1 at_).1
    have unregistered : Line.registration? l = none := by
      rcases List.mem_append.1 (List.mem_of_getElem? at_) with mem | mem
      · simpa [Line.isRegistration] using (Bool.or_eq_false_iff.1 (h.inner l mem).2).1
      · obtain rfl := List.mem_singleton.1 mem
        exact Line.eq_none_of_initial? (fun _ => Line.initial?_of_registration?)
          (by simp [Line.initial?_of_isBlockEnd h.closes])
    rw [List.take_succ_cons, List.foldl_cons, opened, ownerOf_of_none unregistered,
      List.take_append_of_le_length (by omega)]
    exact foldl_ownerAfter_eq (fun x mem => h.inner x (List.mem_of_mem_take mem)) _

/-- **The lines that are met in the block of an entry are those that the block takes.** -/
theorem ownerOf_eq_some_iff (h : b.At lines front opening inner closing back)
    (closed : BlocksClosed lines) (distinct : ((registered lines).map (·.id)).Nodup) {i : Nat}
    {l : Text} (at_ : lines[i]? = some l) :
    ownerOf ((lines.take i).foldl ownerAfter none) l = some b.id ↔ i ∈ b.span.indices := by
  rw [h.mem_indices]
  have length : (opening :: (inner ++ [closing])).length = inner.length + 2 := by simp
  have parts : lines = front ++ ((opening :: (inner ++ [closing])) ++ back) := by simp [h.lines_eq]
  have closedFront := (h.blocksClosed_front closed).foldl_ownerAfter
  -- No line in front of the block or behind it registers the entry, so none is met in its block.
  rw [parts] at at_ ⊢
  rcases getElem?_append_cases at_ with ⟨lt, at_, eq⟩ | ⟨j, rfl, at_, eq⟩
  · rw [eq]
    exact ⟨fun owner => absurd owner (ownerOf_ne_some at_ h.first), fun range => by omega⟩
  rw [eq, List.foldl_append, closedFront]
  rcases getElem?_append_cases at_ with ⟨lt, at_, eq⟩ | ⟨k, rfl, at_, eq⟩
  · refine ⟨fun _ => by omega, fun _ => ?_⟩
    rw [eq]
    exact h.ownerOf_inside at_
  · rw [eq, List.foldl_append, h.foldl_ownerAfter]
    exact ⟨fun owner => absurd owner (ownerOf_ne_some at_ (h.others distinct)),
      fun range => by omega⟩

end Block.At

/-! ### Places -/

/-- What is open before a line: the block of an entry, and how far the sections of nesting and of
version control have been read. -/
structure Place where
  owner : Option EntryId
  nesting : Phase
  book : Phase

namespace Place

/-- The place of the first line. -/
def start : Place := ⟨none, .ahead, .ahead⟩

/-- The place after a line. -/
def next (c : Conventions) (p : Place) (l : Text) : Place where
  owner := ownerAfter p.owner l
  nesting := p.nesting.next [nestingSectionName] l
  book := p.book.next c.versionControlSections l

/-- Whether a line goes with an entry: it stands in the block of the entry, or it is one of its
build configuration lines, or it is the nesting line that puts the entry into a folder. -/
def keyedBy (id : EntryId) (p : Place) (l : Text) : Bool :=
  ownerOf p.owner l == some id || Line.buildConfigId? l == some id ||
    (p.nesting.holds l && (nesting? l).any (·.1 == id))

/-- Whether a line is one that version control rewrites: it carries an index or the count. -/
def booked (p : Place) (l : Text) : Bool :=
  p.book.holds l && ((indexed? l).isSome || (count? l).isSome)

variable {c : Conventions} {l l' : Text} {lines xs ys : List Text}

theorem foldl_next (c : Conventions) (p : Place) (lines : List Text) :
    lines.foldl (next c) p =
      ⟨lines.foldl ownerAfter p.owner, lines.foldl (Phase.next [nestingSectionName]) p.nesting,
        lines.foldl (Phase.next c.versionControlSections) p.book⟩ := by
  induction lines generalizing p with
  | nil => rfl
  | cons l rest ih => exact ih (next c p l)

/-- An inert line opens and closes nothing. -/
theorem next_of_isInert (inert : Line.isInert l = true) (p : Place) : next c p l = p := by
  have phase (names : List Text) (phase : Phase) : phase.next names l = phase := by
    cases phase with
    | ahead => exact if_neg (by
        simp [Line.opensSection_eq_false (Line.isSectionHeader_eq_false inert)])
    | inside => exact if_neg (by simp [Line.isSectionEnd_eq_false inert])
    | behind => rfl
  have owner : ownerAfter p.owner l = p.owner := by
    rw [ownerAfter, if_neg (by simp [Line.isBlockEnd_eq_false inert]),
      ownerOf_of_none (Line.registration?_eq_none inert)]
  rw [next, phase, phase, owner]

theorem next_of_renumbered (h : Renumbered l l') (p : Place) : next c p l' = next c p l := by
  rcases h.eq_or_initial? with rfl | ⟨old, new⟩
  · rfl
  · rw [next_of_isInert (isInert_of_initial? old), next_of_isInert (isInert_of_initial? new)]

/-- Thinning leads to the same place. -/
theorem foldl_next_thinned (thin : Thinned xs ys) (p : Place) :
    ys.foldl (next c) p = xs.foldl (next c) p := by
  induction thin generalizing p with
  | nil => rfl
  | keep _ ih => exact ih _
  | drop inert _ ih => rw [ih, List.foldl_cons, next_of_isInert inert]
  | rewrite old new _ ih =>
    rw [List.foldl_cons, List.foldl_cons, next_of_isInert (isInert_of_initial? old),
      next_of_isInert (isInert_of_initial? new), ih]

/-- A line that is rewritten is still one of the book. -/
theorem booked_of_renumbered (h : Renumbered l l') (p : Place) : p.booked l' = p.booked l := by
  have ending : Line.isSectionEnd l' = Line.isSectionEnd l :=
    h.apply_eq fun _ scc => Line.isSectionEnd_eq_false (isInert_of_initial? scc)
  have kind : ((indexed? l').isSome || (count? l').isSome) =
      ((indexed? l).isSome || (count? l).isSome) := by
    cases h with
    | same => rfl
    | index n read => simp [Line.indexed?_text_renumbered read n, read]
    | count n read => simp [Line.count?_text_renumbered read n, read]
  rw [booked, booked, Phase.holds, Phase.holds, ending, kind]

end Place

/-! ### Lines with their places -/

/-- Lines with their places, from a place on. -/
def placed (c : Conventions) : Place → List Text → List (Place × Text)
  | _, [] => []
  | p, l :: rest => (p, l) :: placed c (p.next c l) rest

/-- The lines with their places, those of the book of version control set aside. -/
def outside (c : Conventions) (p : Place) (lines : List Text) : List (Place × Text) :=
  (placed c p lines).filter fun q => !q.1.booked q.2

section Placed

variable {c : Conventions} {doomed : List Nat} {first : Nat} {xs ys : List Text}

theorem placed_append (p : Place) (xs ys : List Text) :
    placed c p (xs ++ ys) = placed c p xs ++ placed c (xs.foldl (Place.next c) p) ys := by
  induction xs generalizing p with
  | nil => rfl
  | cons l rest ih => rw [List.cons_append, placed, ih, placed, List.foldl_cons, List.cons_append]

theorem outside_append (p : Place) (xs ys : List Text) :
    outside c p (xs ++ ys) = outside c p xs ++ outside c (xs.foldl (Place.next c) p) ys := by
  rw [outside, placed_append, List.filter_append]
  rfl

theorem outside_cons (p : Place) (l : Text) (rest : List Text) :
    outside c p (l :: rest) =
      (if p.booked l then [] else [(p, l)]) ++ outside c (p.next c l) rest := by
  rw [outside, placed, List.filter_cons]
  cases p.booked l <;> rfl

/-- A deletion by indices keeps the lines of certain places. -/
theorem map_filter_placed {p : Place} (keep : Place → Text → Bool)
    (exact_ : ∀ i l, xs[i]? = some l →
      (first + i ∈ doomed ↔ keep ((xs.take i).foldl (Place.next c) p) l = false)) :
    ((placed c p xs).filter fun q => keep q.1 q.2).map (·.2) = linesExcept doomed first xs := by
  induction xs generalizing first p with
  | nil => rfl
  | cons l rest ih =>
    have head := exact_ 0 l rfl
    have tail := @ih (first + 1) (p.next c l) fun i l' at_ => by
      have := exact_ (i + 1) l' at_
      rwa [show first + 1 + i = first + (i + 1) by omega]
    by_cases mem : first ∈ doomed
    · rw [Document.linesExcept_cons_of_mem mem, placed,
        List.filter_cons_of_neg (by simpa using head.1 mem), tail]
    · have kept : keep p l = true := by simpa using (not_congr head).1 mem
      rw [Document.linesExcept_cons_of_not_mem mem, placed,
        List.filter_cons_of_pos (by simpa using kept), List.map_cons, tail]

/-- A deletion takes the lines that are gone and leaves the others as they are. What it does to the
book of version control does not matter, as long as its lines stay of their kind. -/
structure Deletes (c : Conventions) (p : Place) (gone : Place → Text → Bool) (doomed : List Nat)
    (first : Nat) (xs ys : List Text) : Prop where
  pairs : List.Forall₂ Renumbered xs ys
  exactly : ∀ i l l', xs[i]? = some l → ys[i]? = some l' →
    ((xs.take i).foldl (Place.next c) p).booked l = false →
      l' = l ∧ (first + i ∈ doomed ↔ gone ((xs.take i).foldl (Place.next c) p) l = true)

namespace Deletes

variable {p : Place} {gone : Place → Text → Bool} {l l' : Text}

theorem cons_iff : Deletes c p gone doomed first (l :: xs) (l' :: ys) ↔
    Renumbered l l' ∧ (p.booked l = false → l' = l ∧ (first ∈ doomed ↔ gone p l = true)) ∧
      Deletes c (p.next c l) gone doomed (first + 1) xs ys := by
  have shift (i : Nat) : first + (i + 1) = first + 1 + i := by omega
  constructor
  · intro h
    obtain ⟨pair, pairs⟩ := List.forall₂_cons.1 h.pairs
    refine ⟨pair, h.exactly 0 l l' rfl rfl, pairs, fun i x x' at_ at' unbooked => ?_⟩
    have := h.exactly (i + 1) x x' at_ at' unbooked
    rwa [shift] at this
  · rintro ⟨pair, here, rest⟩
    refine ⟨.cons pair rest.pairs, fun i x x' at_ at' unbooked => ?_⟩
    cases i with
    | zero =>
      obtain rfl : l = x := Option.some.inj at_
      obtain rfl : l' = x' := Option.some.inj at'
      exact here unbooked
    | succ i =>
      rw [shift]
      exact rest.exactly i x x' at_ at' unbooked

theorem append_inv {xs ys zs : List Text} (h : Deletes c p gone doomed first (xs ++ ys) zs) :
    ∃ xs' ys', zs = xs' ++ ys' ∧ Deletes c p gone doomed first xs xs' ∧
      Deletes c (xs.foldl (Place.next c) p) gone doomed (first + xs.length) ys ys' := by
  induction xs generalizing first p zs with
  | nil => exact ⟨[], zs, rfl, ⟨.nil, nofun⟩, h⟩
  | cons l rest ih =>
    obtain ⟨l', zs, -, -, rfl⟩ := List.forall₂_cons_left_iff.1 h.pairs
    obtain ⟨pair, here, behind⟩ := cons_iff.1 h
    obtain ⟨rest', ys', rfl, left, right⟩ := ih behind
    refine ⟨l' :: rest', ys', rfl, cons_iff.2 ⟨pair, here, left⟩, ?_⟩
    rwa [show first + (l :: rest).length = first + 1 + rest.length by simp; omega]

/-- **A deletion of inert lines filters the lines with their places.** -/
theorem outside_eq (h : Deletes c p gone doomed first xs ys)
    (inert : ∀ i l, xs[i]? = some l → first + i ∈ doomed → Line.isInert l = true) :
    outside c p (linesExcept doomed first ys) =
      (outside c p xs).filter fun q => !gone q.1 q.2 := by
  induction xs generalizing first p ys with
  | nil =>
    obtain rfl := List.forall₂_nil_left_iff.1 h.pairs
    rfl
  | cons l rest ih =>
    obtain ⟨l', ys, -, -, rfl⟩ := List.forall₂_cons_left_iff.1 h.pairs
    obtain ⟨pair, here, behind⟩ := cons_iff.1 h
    have tail := ih behind fun i x at_ mem => by
      refine inert (i + 1) x at_ ?_
      rwa [show first + (i + 1) = first + 1 + i by omega]
    rw [outside_cons, List.filter_append, ← tail]
    by_cases mem : first ∈ doomed
    · -- The line is deleted, so the next one comes to stand in its place.
      have same := Place.next_of_isInert (c := c) (inert 0 l rfl mem) p
      rw [Document.linesExcept_cons_of_mem mem, same]
      cases book : p.booked l with
      | true => rfl
      | false =>
        have lost : gone p l = true := (here book).2.1 mem
        simp [lost]
    · rw [Document.linesExcept_cons_of_not_mem mem, outside_cons, Place.booked_of_renumbered pair,
        Place.next_of_renumbered pair]
      cases book : p.booked l with
      | true => rfl
      | false =>
        obtain ⟨rfl, exactly⟩ := here book
        have kept : gone p l' = false := by
          rw [← Bool.not_eq_true]
          exact fun lost => mem (exactly.2 lost)
        simp [kept]

/-- Where all lines are deleted, all lines outside of the book are gone. -/
theorem filter_outside_eq_nil (h : Deletes c p gone doomed first xs ys)
    (all : ∀ i < xs.length, first + i ∈ doomed) :
    ((outside c p xs).filter fun q => !gone q.1 q.2) = [] := by
  induction xs generalizing first p ys with
  | nil => rfl
  | cons l rest ih =>
    obtain ⟨l', ys, -, -, rfl⟩ := List.forall₂_cons_left_iff.1 h.pairs
    obtain ⟨-, here, behind⟩ := cons_iff.1 h
    rw [outside_cons, List.filter_append, ih behind fun i lt => ?_, List.append_nil]
    · cases book : p.booked l with
      | true => rfl
      | false =>
        have lost : gone p l = true := (here book).2.1 (all 0 (by simp))
        simp [lost]
    · have := all (i + 1) (by simpa using lt)
      rwa [show first + 1 + i = first + (i + 1) by omega]

end Deletes

end Placed

/-! ### Places and indices -/

/-- The indices of the lines of the book of version control that carry an index or the count. -/
def bookIndices (c : Conventions) (lines : List Text) : List Nat :=
  ((Section.bodyOf (Section.find? (Section.scan lines) c.versionControlSections) lines).filter
    fun (l, _) => (indexed? l).isSome || (count? l).isSome).map (·.2)

section Indices

variable {c : Conventions} {lines : List Text} {i : Nat} {l : Text}

/-- The place of the line at an index. -/
def placeAt (c : Conventions) (lines : List Text) (i : Nat) : Place :=
  (lines.take i).foldl (Place.next c) .start

theorem mem_bookIndices (orderly : Orderly lines) (at_ : lines[i]? = some l) :
    i ∈ bookIndices c lines ↔ (placeAt c lines i).booked l = true := by
  rw [placeAt, Place.foldl_next, Place.booked, Bool.and_eq_true]
  simp only [Place.start]
  rw [Phase.holds_iff orderly.sections at_]
  simp only [bookIndices, List.mem_map, List.mem_filter]
  constructor
  · rintro ⟨⟨l', i⟩, ⟨mem, kind⟩, rfl⟩
    obtain rfl : l = l' := Option.some.inj (at_.symm.trans (mem_bodyOf mem))
    exact ⟨mem, kind⟩
  · rintro ⟨mem, kind⟩
    exact ⟨(l, i), ⟨mem, kind⟩, rfl⟩

/-- **The lines that go with an entry are those that its removal deletes.** -/
theorem keyedBy_iff {b : Block} {front inner back : List Text} {opening closing : Text}
    (orderly : Orderly lines) (distinct : ((registered lines).map (·.id)).Nodup)
    (h : b.At lines front opening inner closing back) (at_ : lines[i]? = some l) :
    (placeAt c lines i).keyedBy b.id l = true ↔ i ∈ keyedIndices lines b := by
  rw [placeAt, Place.foldl_next, Place.keyedBy]
  simp only [Place.start, Bool.or_eq_true, Bool.and_eq_true, beq_iff_eq, Option.any_eq_true,
    keyedIndices, List.mem_append]
  rw [h.ownerOf_eq_some_iff orderly.blocks distinct at_, Phase.holds_iff orderly.sections at_,
    mem_configIndices, mem_childIndices]
  refine or_congr (or_congr Iff.rfl ?_) ?_
  · constructor
    · intro config
      exact ⟨l, at_, config⟩
    · rintro ⟨l', at', config⟩
      rwa [Option.some.inj (at_.symm.trans at')]
  · constructor
    · rintro ⟨mem, ⟨child, parent⟩, read, same⟩
      exact ⟨l, parent, mem, by rw [read, ← same]⟩
    · rintro ⟨l', parent, mem, read⟩
      obtain rfl : l = l' := Option.some.inj (at_.symm.trans (mem_bodyOf mem))
      exact ⟨mem, (b.id, parent), read, rfl⟩

end Indices

end SolutionSweep
