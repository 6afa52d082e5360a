import SolutionSweep.Proofs.Descriptor.Tags

/-!
# Descriptors as sequences of tags

A descriptor is filler with comments and tags of references in between. A value in a tag may hold
closing angle brackets, and a tag is taken to end at the first one of them; but no tag begins in a
tag, so each one ends before another one begins.

* `Attribute.Legal`, `tagInside`: attributes, and what stands in a tag behind its name;
* `closesItself_insert`, `closesItself_of_mem`: attributes and the way in which a tag is taken to
  end;
* `Piece`, `IsPlain`: comments and tags, and the filler between them;
* `maskComments_pieces`, `sealed_pieces`: comments are blanked out, and no tag is left open.
-/

namespace SolutionSweep.Descriptor

open ProjectReference

/-! ### Tags as they are written -/

/-- An attribute as it may stand in a tag: set apart by white space, and no tag begins in it. Its
name has no angle brackets, but its value may have closing ones. -/
@[mk_iff]
structure Attribute.Legal (a : Attribute) : Prop extends a.Written where
  apart : a.gap ≠ []
  name : '<' ∉ a.name ∧ '>' ∉ a.name
  value : '<' ∉ a.value

instance (a : Attribute) : Decidable a.Legal := decidable_of_iff _ a.legal_iff.symm

/-- The end of a tag, which may close itself. -/
def tagEnd (closed : Bool) : Text := if closed then "/>".toList else ">".toList

/-- What stands in a tag behind its name. -/
def tagInside (attributes : List Attribute) (gap : Text) (closed : Bool) : Text :=
  attributesText attributes ++ (gap ++ tagEnd closed)

/-- What stands between filler: comments, opening tags and closing tags. Whether the tags belong to
each other does not matter. -/
inductive Piece
  | comment (inside : Text)
  | opening (name : Text) (attributes : List Attribute) (gap : Text) (closed : Bool)
  | closing (name gap : Text)

namespace Piece

/-- The text of a piece. -/
def text : Piece → Text
  | comment inside => commentOpening ++ (inside ++ commentClosing)
  | opening name attributes gap closed => name ++ tagInside attributes gap closed
  | closing name gap => name ++ (gap ++ ['>'])

/-- The text of a piece with blanks in place of comments. -/
def masked : Piece → Text
  | comment inside => commentBlanks inside
  | opening name attributes gap closed => (opening name attributes gap closed).text
  | closing name gap => (closing name gap).text

/-- No comment ends inside of itself, and the names of tags are spelled in some letter case. -/
def Legal : Piece → Prop
  | comment inside => ¬ commentClosing <:+: inside
  | opening name attributes gap _ =>
      Text.Spells tagOpening name ∧ (∀ a ∈ attributes, a.Legal) ∧ Text.isBlank gap = true
  | closing name gap => Text.Spells tagClosing name ∧ Text.isBlank gap = true

instance : (p : Piece) → Decidable p.Legal
  | comment _ => inferInstanceAs (Decidable (¬ _))
  | opening .. => inferInstanceAs (Decidable (_ ∧ _ ∧ _))
  | closing .. => inferInstanceAs (Decidable (_ ∧ _))

end Piece

/-- Text in which neither an element nor a comment begins. The name of an element may be the
beginning of a longer one. -/
@[mk_iff]
structure IsPlain (t : Text) : Prop where
  element : ∀ b ∈ t.tails, ∀ tail ∈ Text.afterIgnoringCase? tagOpening b, endsWord tail = false
  comment : ¬ commentOpening <:+: t

instance (t : Text) : Decidable (IsPlain t) := decidable_of_iff _ (isPlain_iff t).symm

/-! ### Angle brackets in tags -/

variable {a : Attribute} {as : List Attribute} {gap : Text} {closed : Bool}

/-- An attribute around its value. -/
theorem Attribute.text_eq (a : Attribute) : a.text =
    (a.gap ++ (a.name ++ (a.left ++ '=' :: (a.right ++ [a.quote.char])))) ++
      (a.value ++ [a.quote.char]) := by
  simp [Attribute.text, bare]

theorem Attribute.getLast?_text (a : Attribute) : a.text.getLast? = some a.quote.char := by
  rw [Attribute.text, List.getLast?_append, a.getLast?_bare]
  rfl

/-- What stands in front of a value has no angle brackets. -/
theorem Attribute.Legal.plain_front (h : a.Legal) {c : Char} (bracket : c = '<' ∨ c = '>') :
    c ∉ a.gap ++ (a.name ++ (a.left ++ '=' :: (a.right ++ [a.quote.char]))) := by
  have other : isWhite c = false := by rcases bracket with rfl | rfl <;> decide
  have name : c ∉ a.name := by
    rcases bracket with rfl | rfl
    · exact h.name.1
    · exact h.name.2
  have quote : c ≠ a.quote.char := by
    rcases bracket with rfl | rfl <;> cases a.quote <;> decide
  have equals : c ≠ '=' := by rcases bracket with rfl | rfl <;> decide
  simp [name, quote, equals, Text.not_mem_of_isBlank h.gap other,
    Text.not_mem_of_isBlank h.left other, Text.not_mem_of_isBlank h.right other]

theorem Attribute.Legal.plain_text (h : a.Legal) : '<' ∉ a.text := by
  have front := h.plain_front (.inl rfl)
  have quote : '<' ≠ a.quote.char := by cases a.quote <;> decide
  rw [a.text_eq, List.mem_append, not_or]
  exact ⟨front, by simp [h.value, quote]⟩

theorem plain_attributesText (legal : ∀ a ∈ as, a.Legal) : '<' ∉ attributesText as := by
  intro mem
  obtain ⟨a, ha, mem⟩ := List.mem_flatMap.1 mem
  exact (legal a ha).plain_text mem

theorem plain_tagInside (legal : ∀ a ∈ as, a.Legal) (blank : Text.isBlank gap = true) :
    '<' ∉ tagInside as gap closed := by
  have ends : '<' ∉ tagEnd closed := by cases closed <;> decide
  simp [tagInside, plain_attributesText legal, Text.not_mem_of_isBlank blank (c := '<') (by decide),
    ends]

theorem mem_tagInside (as : List Attribute) (gap : Text) (closed : Bool) :
    '>' ∈ tagInside as gap closed := by
  have ends : '>' ∈ tagEnd closed := by cases closed <;> decide
  simp [tagInside, ends]

theorem attributesText_append (as bs : List Attribute) :
    attributesText (as ++ bs) = attributesText as ++ attributesText bs := List.flatMap_append

theorem tagInside_append (as bs : List Attribute) (gap : Text) (closed : Bool) :
    tagInside (as ++ bs) gap closed = attributesText as ++ tagInside bs gap closed := by
  rw [tagInside, tagInside, attributesText_append, List.append_assoc]

/-! ### How a tag is taken to end -/

/-- What stands in front of the last closing angle bracket does not matter if it has no other one
and no slash at its end. -/
theorem closesItself_append {s t : Text} (absent : '>' ∉ s) (slash : s.getLast? ≠ some '/') :
    closesItself (s ++ t) = closesItself t := by
  rw [closesItself, closesItself, seenPart_append absent, List.getLast?_append]
  cases (seenPart t).getLast? with
  | none => simpa using slash
  | some c => rfl

theorem closesItself_append_of_mem {s : Text} (mem : '>' ∈ s) (t : Text) :
    closesItself (s ++ t) = closesItself s := by
  rw [closesItself, closesItself, seenPart_append_of_mem mem]

/-- A tag without attributes ends as it is written. -/
theorem closesItself_tagEnd (blank : Text.isBlank gap = true) (closed : Bool) :
    closesItself (gap ++ tagEnd closed) = closed := by
  rw [closesItself_append (Text.not_mem_of_isBlank blank (by decide))]
  · cases closed <;> decide
  · intro last
    exact ne_slash_of_isEdge (endsAtEdge_of_isBlank blank '/' last) rfl

/-- Attributes end with quotes, not with a slash. -/
theorem getLast?_attributesText_ne (as : List Attribute) :
    (attributesText as).getLast? ≠ some '/' := by
  rcases List.eq_nil_or_concat' as with rfl | ⟨as, a, rfl⟩
  · exact nofun
  · rw [attributesText_append, List.getLast?_append, attributesText, List.flatMap_singleton,
      a.getLast?_text]
    simpa using a.quote.char_ne.2

theorem seenAttributes_append {s t : Text} (absent : '>' ∉ s) (slash : s.getLast? ≠ some '/') :
    seenAttributes (s ++ t) = s ++ seenAttributes t := by
  rw [seenAttributes, seenAttributes, closesItself_append absent slash, seenPart_append absent]
  split
  case isFalse => rfl
  case isTrue closes =>
    have ne : seenPart t ≠ [] := fun none => by
      rw [closesItself, none] at closes
      cases closes
    rw [List.dropLast_append_of_ne_nil ne]

/-- An attribute without closing angle brackets in its value does not change how a tag is taken to
end. -/
theorem closesItself_insert (before after : List Attribute) (legal : a.Legal) (gap : Text)
    (closed : Bool) (absent : '>' ∉ a.value) :
    closesItself (tagInside (before ++ a :: after) gap closed) =
      closesItself (tagInside (before ++ after) gap closed) := by
  rw [tagInside_append, tagInside_append]
  by_cases mem : '>' ∈ attributesText before
  · rw [closesItself_append_of_mem mem, closesItself_append_of_mem mem]
  · have slash := getLast?_attributesText_ne before
    have plain : '>' ∉ attributesText [a] := by
      have quote := a.quote.char_ne.1.symm
      rw [attributesText, List.flatMap_singleton, a.text_eq, List.mem_append, not_or]
      exact ⟨legal.plain_front (.inr rfl), by simp [absent, quote]⟩
    rw [closesItself_append mem slash, closesItself_append mem slash,
      show a :: after = [a] ++ after from rfl, tagInside_append,
      closesItself_append plain (getLast?_attributesText_ne [a])]

/-- An attribute with the first closing angle bracket of a tag in its value decides how the tag is
taken to end. -/
theorem closesItself_of_mem (before after : List Attribute) (legal : a.Legal) (gap : Text)
    (closed : Bool) (absent : '>' ∉ attributesText before) (mem : '>' ∈ a.value) :
    closesItself (tagInside (before ++ a :: after) gap closed) = closesItself a.value := by
  have front : (a.gap ++ (a.name ++ (a.left ++ '=' :: (a.right ++ [a.quote.char])))).getLast? ≠
      some '/' := by
    have quote := a.quote.char_ne.2
    rw [List.getLast?_append_of_ne_nil _ (by simp), List.getLast?_append_of_ne_nil _ (by simp),
      List.getLast?_append_of_ne_nil _ (by simp), ← List.cons_append,
      List.getLast?_append_of_ne_nil _ (by simp)]
    simpa using quote
  rw [tagInside_append, closesItself_append absent (getLast?_attributesText_ne before),
    show a :: after = [a] ++ after from rfl, tagInside_append, attributesText,
    List.flatMap_singleton, a.text_eq, List.append_assoc,
    closesItself_append (legal.plain_front (.inr rfl)) front, List.append_assoc,
    closesItself_append_of_mem mem]

/-! ### Descriptors up to an element -/

/-- Texts with a tag at their end. -/
theorem Sealed.cons {c : Char} {t : Text} (h : Sealed t)
    (here : ∀ tail, Text.afterIgnoringCase? tagOpening (c :: t) = some tail →
      endsWord tail = true → '>' ∈ tail) : Sealed (c :: t) := by
  intro b tail suffix read ends
  rcases List.suffix_cons_iff.1 suffix with rfl | inside
  · exact here tail read ends
  · exact h b tail inside read ends

/-- The name of an element begins with an angle bracket and a letter. -/
theorem exists_of_afterIgnoringCase? {t tail : Text}
    (h : Text.afterIgnoringCase? tagOpening t = some tail) :
    ∃ c u, t = '<' :: c :: u ∧ isWord c = true := by
  obtain ⟨w, rfl, spells⟩ := Text.afterIgnoringCase?_eq_some_iff.1 h
  obtain ⟨c, u, rfl, word, -⟩ := exists_cons_of_tagOpening spells
  exact ⟨c, u ++ tail, rfl, word⟩

theorem Sealed.append_of_not_mem {s t : Text} (h : Sealed t) (absent : '<' ∉ s) :
    Sealed (s ++ t) := by
  induction s with
  | nil => exact h
  | cons c s ih =>
    rw [List.mem_cons, not_or] at absent
    refine (ih absent.2).cons fun tail read _ => ?_
    obtain ⟨d, u, eq, -⟩ := exists_of_afterIgnoringCase? read
    exact absurd (List.cons.inj eq).1.symm absent.1

theorem IsPlain.sealed_append {s t : Text} (h : IsPlain s) (closed : Sealed t)
    (other : ∀ c, t.head? = some c → isWord c = false) : Sealed (s ++ t) := by
  have opens := h.element
  clear h
  induction s with
  | nil => exact closed
  | cons c s ih =>
    have tails : ∀ b ∈ s.tails, b ∈ (c :: s).tails := fun b mem =>
      (List.mem_tails b _).2 (((List.mem_tails b s).1 mem).trans (List.suffix_cons c s))
    refine (ih fun b mem => opens b (tails b mem)).cons fun tail read ends => ?_
    obtain ⟨w, eq, spells⟩ := Text.afterIgnoringCase?_eq_some_iff.1 read
    have longer : ∀ z, c :: s = w ++ z → endsWord z = false := fun z parts =>
      opens _ ((List.mem_tails _ _).2 List.suffix_rfl) z (by
        rw [parts]
        exact spells.afterIgnoringCase? z)
    rw [← List.cons_append] at eq
    rcases List.append_eq_append_iff.1 eq with ⟨z, rfl, behind⟩ | ⟨z, parts, rfl⟩
    · cases z with
      | nil => exact absurd (longer [] (by simp)) (by decide)
      | cons d z =>
        -- The name of a tag would go on with the first character of what follows.
        have word : isWord d = true := by
          obtain ⟨w, parts, tail, -⟩ := exists_cons_of_spells spells (by simp [marks])
          rw [List.cons_append] at parts
          refine Text.Spells.isWord_of_mem tail (List.all_eq_true.1 (by decide)) d ?_
          rw [← (List.cons.inj parts).2]
          exact List.mem_append_right s List.mem_cons_self
        rw [other d (by rw [behind]; rfl)] at word
        cases word
    · have inside : z ≠ [] := by
        rintro rfl
        exact absurd (longer [] parts) (by decide)
      rw [endsWord_append inside, longer z parts] at ends
      cases ends

theorem Piece.Legal.sealed_append {p : Piece} (h : p.Legal) {t : Text} (closed : Sealed t) :
    Sealed (p.masked ++ t) := by
  cases p with
  | comment inside =>
    refine closed.append_of_not_mem fun mem => ?_
    exact absurd (List.eq_of_mem_replicate mem) (by decide)
  | opening name attributes gap ends =>
    obtain ⟨spells, legal, blank⟩ := h
    obtain ⟨c, u, rfl, -, plain⟩ := exists_cons_of_tagOpening spells
    have rest : Sealed (c :: u ++ (tagInside attributes gap ends ++ t)) :=
      (closed.append_of_not_mem (plain_tagInside legal blank)).append_of_not_mem plain
    rw [masked, text, List.cons_append, List.cons_append, List.append_assoc]
    refine rest.cons fun tail read _ => ?_
    rw [← List.cons_append, spells.afterIgnoringCase?] at read
    rw [← Option.some.inj read]
    exact List.mem_append_left t (mem_tagInside attributes gap ends)
  | closing name gap =>
    obtain ⟨spells, blank⟩ := h
    obtain ⟨name, rfl, plain⟩ := exists_cons_of_tagClosing spells
    have white := Text.not_mem_of_isBlank blank (c := '<') (by decide)
    have rest : Sealed ('/' :: name ++ (gap ++ ['>']) ++ t) :=
      closed.append_of_not_mem (by simpa [white] using plain)
    refine rest.cons fun _ read _ => ?_
    obtain ⟨c, u, eq, word⟩ := exists_of_afterIgnoringCase? read
    obtain rfl := (List.cons.inj (List.cons.inj eq).2).1
    exact absurd word (by decide)

/-- No comment begins in a tag. -/
theorem maskComments_tag {c : Char} {u : Text} (other : c ≠ '!') (absent : '<' ∉ c :: u)
    (rest : Text) : maskComments ('<' :: c :: u ++ rest) = '<' :: c :: u ++ maskComments rest := by
  have own : ∀ s back, Text.after? commentOpening s = some back → s.head? = some '<' := by
    intro s back read
    rw [Text.after?_eq_some_iff.1 read]
    rfl
  refine maskComments_append (passedBy_cons own ?_ absent)
  simp [commentOpening, Text.after?, other.symm]

theorem IsTag.maskComments_append {t : Text} (h : IsTag t) (rest : Text) :
    maskComments (t ++ rest) = t ++ maskComments rest := by
  obtain ⟨c, u, rfl, word, absent⟩ := h.exists_cons
  refine maskComments_tag ?_ absent rest
  rintro rfl
  exact absurd word (by decide)

theorem isTag_append {name : Text} (spells : Text.Spells tagOpening name)
    (legal : ∀ a ∈ as, a.Legal) (blank : Text.isBlank gap = true) (closed : Bool) :
    IsTag (name ++ tagInside as gap closed) :=
  ⟨name, _, rfl, spells, plain_tagInside legal blank⟩

namespace Piece

variable {p : Piece}

theorem Legal.maskComments_append (h : p.Legal) (rest : Text) :
    maskComments (p.text ++ rest) = p.masked ++ maskComments rest := by
  cases p with
  | comment inside =>
    rw [text, List.append_assoc, List.append_assoc, maskComments_comment h]
    rfl
  | opening name attributes gap closed =>
    obtain ⟨spells, legal, blank⟩ := h
    exact (isTag_append spells legal blank closed).maskComments_append rest
  | closing name gap =>
    obtain ⟨spells, blank⟩ := h
    obtain ⟨name, rfl, plain⟩ := exists_cons_of_tagClosing spells
    have white := Text.not_mem_of_isBlank blank (c := '<') (by decide)
    exact maskComments_tag (u := name ++ (gap ++ ['>'])) (by decide)
      (by simpa [white] using plain) rest

/-- Every piece begins with an angle bracket. -/
theorem Legal.head?_append (h : p.Legal) (rest : Text) : (p.text ++ rest).head? = some '<' := by
  cases p with
  | comment inside => rfl
  | opening name attributes gap closed =>
    rw [text, List.append_assoc]
    exact h.1.head?_append (by decide) _
  | closing name gap =>
    rw [text, List.append_assoc]
    exact h.1.head?_append (by decide) _

/-- With blanks in place of comments no piece begins like the rest of a word. -/
theorem Legal.isWord_head? (h : p.Legal) (rest : Text) :
    ∀ c, (p.masked ++ rest).head? = some c → isWord c = false := by
  intro c head
  cases p with
  | comment inside =>
    obtain rfl := Option.some.inj head
    decide
  | opening name attributes gap closed =>
    obtain rfl := Option.some.inj (head.symm.trans (h.head?_append rest))
    decide
  | closing name gap =>
    obtain rfl := Option.some.inj (head.symm.trans (h.head?_append rest))
    decide

end Piece

/-- Pieces with filler in front of each of them. -/
theorem maskComments_pieces {pieces : List (Text × Piece)}
    (legal : ∀ p ∈ pieces, IsPlain p.1 ∧ p.2.Legal) {rest : Text} :
    maskComments (pieces.flatMap (fun p => p.1 ++ p.2.text) ++ rest) =
      pieces.flatMap (fun p => p.1 ++ p.2.masked) ++ maskComments rest := by
  induction pieces with
  | nil => rfl
  | cons p pieces ih =>
    obtain ⟨filler, piece⟩ := legal p List.mem_cons_self
    have opens : ∀ c, (p.2.text ++ (pieces.flatMap (fun p => p.1 ++ p.2.text) ++ rest)).head? =
        some c → c = '<' := fun c head => Option.some.inj (head.symm.trans (piece.head?_append _))
    rw [List.flatMap_cons, List.flatMap_cons, List.append_assoc, List.append_assoc,
      maskComments_filler filler.comment opens, piece.maskComments_append,
      ih fun q mem => legal q (List.mem_cons_of_mem p mem), List.append_assoc, List.append_assoc]

theorem sealed_pieces {pieces : List (Text × Piece)}
    (legal : ∀ p ∈ pieces, IsPlain p.1 ∧ p.2.Legal) {rest : Text} (closed : Sealed rest) :
    Sealed (pieces.flatMap (fun p => p.1 ++ p.2.masked) ++ rest) := by
  induction pieces with
  | nil => exact closed
  | cons p pieces ih =>
    obtain ⟨filler, piece⟩ := legal p List.mem_cons_self
    have later := ih fun q mem => legal q (List.mem_cons_of_mem p mem)
    rw [List.flatMap_cons, List.append_assoc, List.append_assoc]
    exact filler.sealed_append (piece.sealed_append later) (piece.isWord_head? _)

end SolutionSweep.Descriptor
