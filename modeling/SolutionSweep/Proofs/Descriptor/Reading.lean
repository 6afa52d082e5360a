import SolutionSweep.Proofs.Descriptor.Layout
import SolutionSweep.Proofs.Manifest.Identifier

/-!
# Reading the parts of an element

Each part of an element that refers to a project is read as it is written, whatever follows it.

* `Attribute.includeHere?_bare`, `includeAfter?_append_bare`: the attribute with the path;
* `DeclaredId.declaredHere?_text`, `DeclaredId.exists_of_declaredHere?`: identifiers that are
  declared, and where one is read;
* `Body.declared?_text`: the identifier that a body declares;
* `Element.ofElement?_parsed`: the reference that the parts of an element make.
-/

namespace SolutionSweep.Descriptor

open ProjectReference

/-! ### Attributes -/

theorem Quote.isWord_char (q : Quote) : isWord q.char = false := by
  cases q <;> decide +kernel

theorem Quote.char_ne (q : Quote) : q.char ≠ '>' ∧ q.char ≠ '/' := by
  cases q <;> decide

theorem Quote.isWhite_char (q : Quote) : isWhite q.char = false := by
  cases q <;> decide

theorem quotedValue?_eq (q : Quote) {value : Text} (absent : q.char ∉ value) (rest : Text) :
    quotedValue? (q.char :: (value ++ q.char :: rest)) = some value := by
  cases q
  · simp [quotedValue?, Quote.char, Text.cut?_singleton (c := '\'') absent rest]
  · simp [quotedValue?, Quote.char, Text.cut?_singleton (c := '"') absent rest]

namespace Attribute

variable {a : Attribute}

theorem WellFormed.not_mem_bare (h : a.WellFormed) : '>' ∉ a.bare := by
  have left := Text.not_mem_of_isBlank h.left (c := '>') (by decide)
  have right := Text.not_mem_of_isBlank h.right (c := '>') (by decide)
  simp [bare, h.name, left, right, h.value, a.quote.char_ne.1.symm]

/-- The attribute with the path is read, whatever follows it. -/
theorem includeHere?_bare (h : a.Written) (named : Text.Spells includeWord a.name)
    (rest : Text) : includeHere? (a.bare ++ rest) = some a.value := by
  have equals := Text.skipWhite_append_cons h.left (c := '=') (by decide)
    (a.right ++ a.quote.char :: (a.value ++ a.quote.char :: rest))
  have quoted := Text.skipWhite_append_cons h.right a.quote.isWhite_char
    (a.value ++ a.quote.char :: rest)
  have parts : a.bare ++ rest = a.name ++ (a.left ++ '=' :: (a.right ++ a.quote.char :: (a.value ++
      a.quote.char :: rest))) := by simp [bare]
  rw [parts, includeHere?, named.afterIgnoringCase?, Option.bind_eq_bind, Option.bind_some, equals]
  simp [Text.after?, quoted, quotedValue?_eq a.quote h.quoted]

end Attribute

theorem not_mem_attributesText {as : List Attribute} (h : ∀ a ∈ as, a.WellFormed) :
    '>' ∉ attributesText as := by
  intro mem
  obtain ⟨a, ha, mem⟩ := List.mem_flatMap.1 mem
  rcases List.mem_append.1 mem with mem | mem
  · exact Text.not_mem_of_isBlank (h a ha).gap (by decide) mem
  · exact (h a ha).not_mem_bare mem

/-! ### How a run of attributes ends -/

/-- White space and quotes, which do not belong to words and do not close a tag. -/
def isEdge (c : Char) : Prop := isWhite c = true ∨ ∃ q : Quote, c = q.char

theorem isWord_of_isEdge {c : Char} (h : isEdge c) : isWord c = false := by
  rcases h with white | ⟨q, rfl⟩
  · exact isWord_eq_false_of_isWhite white
  · exact q.isWord_char

theorem ne_slash_of_isEdge {c : Char} (h : isEdge c) : c ≠ '/' := by
  rcases h with white | ⟨q, rfl⟩
  · exact ne_of_isWhite white (by decide)
  · exact q.char_ne.2

/-- If a text is not empty, it ends with white space or a quote. -/
def EndsAtEdge (t : Text) : Prop := ∀ c, t.getLast? = some c → isEdge c

theorem EndsAtEdge.append {s t : Text} (hs : EndsAtEdge s) (ht : EndsAtEdge t) :
    EndsAtEdge (s ++ t) := by
  intro c last
  rw [List.getLast?_append] at last
  cases behind : t.getLast? with
  | none =>
    rw [behind] at last
    exact hs c last
  | some d =>
    rw [behind] at last
    obtain rfl := Option.some.inj last
    exact ht d behind

theorem endsAtEdge_of_isBlank {t : Text} (blank : Text.isBlank t = true) : EndsAtEdge t :=
  fun c last => .inl (List.all_eq_true.1 blank c (List.mem_of_getLast? last))

theorem Attribute.getLast?_bare (a : Attribute) : a.bare.getLast? = some a.quote.char := by
  have quoted : a.bare = (a.name ++ (a.left ++ '=' :: (a.right ++ a.quote.char :: a.value))) ++
      [a.quote.char] := by simp [bare]
  rw [quoted, List.getLast?_concat]

theorem endsAtEdge_bare (a : Attribute) : EndsAtEdge a.bare := by
  intro c last
  rw [a.getLast?_bare] at last
  exact .inr ⟨a.quote, (Option.some.inj last).symm⟩

theorem endsAtEdge_attributesText {as : List Attribute} (h : ∀ a ∈ as, a.Written) :
    EndsAtEdge (attributesText as) := by
  induction as with
  | nil => exact nofun
  | cons a as ih =>
    rw [attributesText, List.flatMap_cons, Attribute.text]
    exact ((endsAtEdge_of_isBlank (h a List.mem_cons_self).gap).append (endsAtEdge_bare a)).append
      (ih fun b mem => h b (List.mem_cons_of_mem a mem))

/-! ### The attribute with the path -/

/-- Whether the end of a text lies in a word, which it begins in or not. -/
def endsInWord (inWord : Bool) (t : Text) : Bool := (t.getLast?.map isWord).getD inWord

theorem endsInWord_cons (inWord : Bool) (c : Char) (t : Text) :
    endsInWord inWord (c :: t) = endsInWord (isWord c) t := by
  cases t with
  | nil => rfl
  | cons d t => simp [endsInWord, List.getLast?_cons]

/-- The search for the attribute passes by a text in which it does not begin at a word boundary. -/
theorem includeAfter?_append {t rest : Text} {inWord : Bool}
    (none : ∀ a b, t = a ++ b → b ≠ [] → endsInWord inWord a = false →
      includeHere? (b ++ rest) = none) :
    includeAfter? inWord (t ++ rest) = includeAfter? (endsInWord inWord t) rest := by
  induction t generalizing inWord with
  | nil => rfl
  | cons c t ih =>
    have here : (if inWord then Option.none else includeHere? (c :: (t ++ rest))) =
        Option.none := by
      cases inWord with
      | true => rfl
      | false => exact none [] (c :: t) rfl (List.cons_ne_nil _ _) rfl
    have later := @ih (isWord c) fun a b eq ne edge =>
      none (c :: a) b (by rw [eq]; rfl) ne (by rw [endsInWord_cons, edge])
    rw [List.cons_append, includeAfter?, here, endsInWord_cons]
    exact later

theorem includeAfter?_of_includeHere? {t value : Text} (h : includeHere? t = some value) :
    includeAfter? false t = some value := by
  cases t with
  | nil => cases h
  | cons c t => simp [includeAfter?, h]

theorem isLower_of_mem_includeWord : ∀ m ∈ includeWord, m.isLower = true :=
  List.all_eq_true.1 (by decide +kernel)

/-- The attribute begins with a whole word. -/
theorem exists_of_includeHere? {t value : Text} (h : includeHere? t = some value) :
    ∃ w back, t = w ++ back ∧ Text.Spells includeWord w ∧ endsWord back = true := by
  simp only [includeHere?, Option.bind_eq_bind, Option.bind_eq_some_iff] at h
  obtain ⟨back, word, rest, equals, -⟩ := h
  obtain ⟨w, rfl, spells⟩ := Text.afterIgnoringCase?_eq_some_iff.1 word
  refine ⟨w, back, rfl, spells, ?_⟩
  have skipped : Text.skipWhite back = '=' :: rest := Text.after?_eq_some_iff.1 equals
  cases back with
  | nil => rfl
  | cons c back =>
    rw [endsWord, Bool.not_eq_true']
    cases white : isWhite c with
    | true => exact isWord_eq_false_of_isWhite white
    | false =>
      rw [Text.skipWhite_cons white] at skipped
      rw [(List.cons.inj skipped).1]
      decide +kernel

/-- **The path is read off the attributes**: if nothing in front of it looks like the attribute, the
path is read whatever follows. -/
theorem includeAfter?_append_bare {front : Text} {a : Attribute} (edge : EndsAtEdge front)
    (first : ¬ Text.MentionsWord includeWord front) (h : a.Written)
    (named : Text.Spells includeWord a.name) (rest : Text) :
    includeAfter? false (front ++ (a.bare ++ rest)) = some a.value := by
  have none : ∀ s b, front = s ++ b → b ≠ [] → endsInWord false s = false →
      includeHere? (b ++ (a.bare ++ rest)) = none := by
    intro s b eq ne outside
    by_contra found
    obtain ⟨value, found⟩ := Option.ne_none_iff_exists'.1 found
    obtain ⟨w, back, parts, spells, ends⟩ := exists_of_includeHere? found
    have letters := spells.isWord_of_mem isLower_of_mem_includeWord
    rcases List.append_eq_append_iff.1 parts with ⟨z, rfl, -⟩ | ⟨z, rfl, rfl⟩
    · -- The word would go on behind a quote or white space.
      have last := List.getLast?_eq_some_getLast ne
      have outside : isWord (b.getLast ne) = false :=
        isWord_of_isEdge (edge _ (by rw [eq, List.getLast?_append, last]; rfl))
      rw [letters _ (List.mem_append_left z (List.getLast_mem ne))] at outside
      cases outside
    · refine first ⟨s, w, z, eq, spells, fun c last => ?_, ?_⟩
      · simpa [endsInWord, last] using outside
      · cases z with
        | nil => rfl
        | cons c z => exact ends
  have outside : endsInWord false front = false := by
    unfold endsInWord
    cases last : front.getLast? with
    | none => rfl
    | some c => exact isWord_of_isEdge (edge c last)
  rw [includeAfter?_append none, outside]
  exact includeAfter?_of_includeHere? (Attribute.includeHere?_bare h named _)

namespace Element

variable {e : Element}

theorem WellFormed.endsAtEdge_front (h : e.WellFormed) : EndsAtEdge e.front :=
  (endsAtEdge_of_isBlank h.blanks).append
    ((endsAtEdge_attributesText fun a mem => (h.before a mem).written).append
      (endsAtEdge_of_isBlank h.path.gap))

theorem WellFormed.endsAtEdge_attributes (h : e.WellFormed) : EndsAtEdge e.attributes :=
  h.endsAtEdge_front.append ((endsAtEdge_bare e.path).append
    ((endsAtEdge_attributesText fun a mem => (h.after a mem).written).append
      (endsAtEdge_of_isBlank h.gap)))

theorem WellFormed.not_mem_attributes (h : e.WellFormed) : '>' ∉ e.attributes := by
  simp only [attributes, front, List.mem_append, not_or]
  exact ⟨⟨Text.not_mem_of_isBlank h.blanks (by decide), not_mem_attributesText h.before,
    Text.not_mem_of_isBlank h.path.gap (by decide)⟩, h.path.not_mem_bare,
    not_mem_attributesText h.after, Text.not_mem_of_isBlank h.gap (by decide)⟩

theorem includeAfter?_attributes (h : e.WellFormed) :
    includeAfter? false e.attributes = some e.path.value :=
  includeAfter?_append_bare h.endsAtEdge_front h.first h.path.written h.named _

end Element

/-! ### Declared identifiers -/

/-- The pieces of a text and the separators between them make up its length. -/
theorem foldr_length_splitOn (sep : Char) (t : Text) :
    ((Text.splitOn sep t).map List.length).foldr (fun n total => n + 1 + total) 0 =
      t.length + 1 := by
  induction t with
  | nil => rfl
  | cons c t ih =>
    rw [Text.splitOn]
    split
    · simp only [List.map_cons, List.length_nil, List.foldr_cons, List.length_cons, ih]
      omega
    · cases pieces : Text.splitOn sep t with
      | nil =>
        rw [pieces] at ih
        cases ih
      | cons piece pieces =>
        rw [pieces] at ih
        simp only [List.map_cons, List.length_cons, List.foldr_cons] at ih ⊢
        omega

theorem length_of_isBareId {id : Text} (h : isBareId id = true) : id.length = idLength := by
  have groups := beq_iff_eq.1 (Bool.and_eq_true_iff.1 h).1
  have total := foldr_length_splitOn '-' id
  rw [groups] at total
  exact (Nat.succ.inj total).symm

theorem takeId?_append {id : Text} (h : isBareId id = true) (rest : Text) :
    takeId? (id ++ rest) = some (id, rest) := by
  have length := length_of_isBareId h
  rw [takeId?, List.take_left' length, List.drop_left' length, if_pos h]

theorem takeId?_eq_some_iff {t id rest : Text} :
    takeId? t = some (id, rest) ↔ isBareId id = true ∧ t = id ++ rest := by
  constructor
  · intro h
    unfold takeId? at h
    split at h
    · rename_i bare
      obtain ⟨rfl, rfl⟩ := Prod.mk.inj (Option.some.inj h)
      exact ⟨bare, (List.take_append_drop _ _).symm⟩
    · cases h
  · rintro ⟨bare, rfl⟩
    exact takeId?_append bare rest

/-- An identifier begins with a character of identifiers. -/
theorem exists_head_of_isBareId {id : Text} (h : isBareId id = true) :
    ∃ c rest, id = c :: rest ∧ IsSteady c := by
  cases id with
  | nil => cases h
  | cons c rest =>
    have steady := List.all_eq_true.1 (Bool.and_eq_true_iff.1 h).2
    exact ⟨c, rest, rfl, isSteady_of_isIdChar (steady c List.mem_cons_self)⟩

theorem canonicalId_of_isBareId {id : Text} (h : isBareId id = true) :
    canonicalId id = Text.upper id := by
  have steady := List.all_eq_true.1 (Bool.and_eq_true_iff.1 h).2
  rw [canonicalId_eq_map steady, upper_eq_map steady]

namespace DeclaredId

variable {d : DeclaredId}

/-- A declared identifier is read, whatever follows it. -/
theorem declaredHere?_text (h : d.WellFormed) (rest : Text) :
    declaredHere? (d.text ++ rest) = some (Text.upper d.id) := by
  obtain ⟨c, id, first, steady⟩ := exists_head_of_isBareId h.id
  have closing : (d.closing ++ rest).head? = some '<' := h.closing.head?_append (by decide) rest
  have behind : Text.skipWhite (d.right ++ (d.closing ++ rest)) = d.closing ++ rest :=
    Text.skipWhite_append_of_isBlank h.right fun c head => by
      rw [closing] at head
      obtain rfl := Option.some.inj head
      decide
  -- The braces are skipped if they are there, and nothing else is taken for one.
  have right : Text.skip ['}'] ((if d.braceRight then ['}'] else []) ++
      (d.right ++ (d.closing ++ rest))) = d.right ++ (d.closing ++ rest) := by
    cases d.braceRight with
    | true => simp [Text.skip, Text.after?]
    | false =>
      refine Text.skip_of_head fun head => ?_
      cases blank : d.right with
      | nil =>
        rw [blank] at head
        exact absurd (closing.symm.trans head) (by decide)
      | cons b right =>
        rw [blank] at head
        have white := h.right
        rw [blank] at white
        rw [Option.some.inj head] at white
        exact absurd (List.all_eq_true.1 white '}' List.mem_cons_self) (by decide)
  have left : Text.skip ['{'] (Text.skipWhite (d.left ++ ((if d.braceLeft then ['{'] else []) ++
      (d.id ++ ((if d.braceRight then ['}'] else []) ++ (d.right ++ (d.closing ++ rest))))))) =
        d.id ++ ((if d.braceRight then ['}'] else []) ++ (d.right ++ (d.closing ++ rest))) := by
    cases d.braceLeft with
    | true =>
      have skipped := Text.skipWhite_append_cons h.left (c := '{') (by decide)
      simp [skipped, Text.skip, Text.after?]
    | false =>
      have skipped := Text.skipWhite_append_cons h.left steady.notWhite
      have brace : c ≠ '{' := by
        rintro rfl
        exact absurd steady.notBrace (by decide)
      simp only [first, Bool.false_eq_true, if_false, List.nil_append, List.cons_append, skipped]
      exact Text.skip_of_head (by simpa using brace)
  have parts : d.text ++ rest = d.opening ++ (d.left ++ ((if d.braceLeft then ['{'] else []) ++
      (d.id ++ ((if d.braceRight then ['}'] else []) ++ (d.right ++ (d.closing ++ rest)))))) := by
    simp [text]
  rw [parts, declaredHere?, h.opening.afterIgnoringCase?]
  simp [left, takeId?_append h.id, right, behind, h.closing.afterIgnoringCase?,
    canonicalId_of_isBareId h.id]

/-- Where an identifier is read, one is declared. -/
theorem exists_of_declaredHere? {t : Text} {id : EntryId} (h : declaredHere? t = some id) :
    ∃ (d : DeclaredId) (rest : Text), d.WellFormed ∧ t = d.text ++ rest := by
  simp only [declaredHere?, Option.bind_eq_bind, Option.bind_eq_some_iff, Prod.exists] at h
  obtain ⟨afterOpening, opened, written, afterId, taken, rest, closed, -⟩ := h
  obtain ⟨opening, rfl, opens⟩ := Text.afterIgnoringCase?_eq_some_iff.1 opened
  obtain ⟨bare, inside⟩ := takeId?_eq_some_iff.1 taken
  obtain ⟨closing, behind, closes⟩ := Text.afterIgnoringCase?_eq_some_iff.1 closed
  obtain ⟨braceLeft, left⟩ := Text.exists_skip '{' (Text.skipWhite afterOpening)
  obtain ⟨braceRight, right⟩ := Text.exists_skip '}' afterId
  refine ⟨⟨opening, afterOpening.takeWhile isWhite, braceLeft, written, braceRight,
    (Text.skip ['}'] afterId).takeWhile isWhite, closing⟩, rest,
    ⟨opens, Text.isBlank_takeWhile _, bare, Text.isBlank_takeWhile _, closes⟩, ?_⟩
  calc opening ++ afterOpening
      = opening ++ (afterOpening.takeWhile isWhite ++ Text.skipWhite afterOpening) := by
        rw [Text.takeWhile_append_skipWhite]
    _ = opening ++ (afterOpening.takeWhile isWhite ++ ((if braceLeft then ['{'] else []) ++
          (written ++ afterId))) := by rw [left, inside]
    _ = opening ++ (afterOpening.takeWhile isWhite ++ ((if braceLeft then ['{'] else []) ++
          (written ++ ((if braceRight then ['}'] else []) ++
            ((Text.skip ['}'] afterId).takeWhile isWhite ++
              Text.skipWhite (Text.skip ['}'] afterId)))))) := by
        rw [Text.takeWhile_append_skipWhite, ← right]
    _ = _ := by simp [text, behind]

end DeclaredId

/-! ### Bodies -/

/-- What a body declares is found at its characters. -/
theorem Body.declaresOnce_iff {b : Body} :
    b.DeclaresOnce ↔ ∀ k ∈ List.range (b.text.length + 1),
      (declaredHere? (b.text.drop k)).isSome = true →
        b.declared.isSome = true ∧ k = b.front.length := by
  constructor
  · intro only k mem here
    obtain ⟨id, here⟩ := Option.isSome_iff_exists.1 here
    obtain ⟨d, back, wellFormed, eq⟩ := DeclaredId.exists_of_declaredHere? here
    obtain ⟨some, front⟩ := only (b.text.take k) d back wellFormed
      (by rw [← eq, List.take_append_drop])
    refine ⟨some, ?_⟩
    rw [← front, List.length_take, Nat.min_eq_left (Nat.le_of_lt_succ (List.mem_range.1 mem))]
  · intro h front d back wellFormed eq
    have here : (declaredHere? (b.text.drop front.length)).isSome = true := by
      rw [eq, List.drop_left, DeclaredId.declaredHere?_text wellFormed]
      rfl
    obtain ⟨some, length⟩ := h front.length (List.mem_range.2
      (by rw [eq, List.length_append]; omega)) here
    refine ⟨some, ?_⟩
    have taken := congrArg (List.take front.length) eq
    rw [List.take_left, length, Body.text, List.take_left] at taken
    exact taken.symm

instance (b : Body) : Decidable b.DeclaresOnce := decidable_of_iff _ Body.declaresOnce_iff.symm

instance (b : Body) : Decidable b.WellFormed := decidable_of_iff _ (Body.wellFormed_iff b).symm

instance : (content : Content) → Decidable content.WellFormed
  | .selfClosing => inferInstanceAs (Decidable True)
  | .body .. => inferInstanceAs (Decidable (_ ∧ _ ∧ _))

instance (e : Element) : Decidable e.WellFormed :=
  decidable_of_iff _ (Element.wellFormed_iff e).symm

instance Layout.decidableWellFormed : (l : Layout) → Decidable l.WellFormed
  | .last _ => inferInstanceAs (Decidable (IsFiller _))
  | .comment _ _ rest =>
      have := rest.decidableWellFormed
      inferInstanceAs (Decidable (_ ∧ _ ∧ _))
  | .element _ _ rest =>
      have := rest.decidableWellFormed
      inferInstanceAs (Decidable (_ ∧ _ ∧ _))

/-- The search for an identifier goes on behind a text that it passes by. -/
theorem declared?_append {t rest : Text} (passed : Text.PassedBy declaredHere? t rest) :
    declared? (t ++ rest) = declared? rest := by
  induction t with
  | nil => rfl
  | cons c t ih =>
    obtain ⟨here, later⟩ := Text.PassedBy.cons_iff.1 passed
    rw [List.cons_append, declared?, here]
    exact ih later

theorem declared?_of_declaredHere? {t : Text} {id : EntryId} (h : declaredHere? t = some id) :
    declared? t = some id := by
  cases t with
  | nil => cases h
  | cons c t => rw [declared?, h]

/-- **The identifier that a body declares is read off the body.** -/
theorem Body.declared?_text {b : Body} (h : b.WellFormed) :
    declared? b.text = b.declared.map fun d => Text.upper d.id := by
  -- In front of the identifier, and in a body without one, none is read.
  have none : ∀ s rest, s ≠ [] → (∃ front, b.text = front ++ (s ++ rest) ∧
      (b.declared.isSome = true → b.front = front ++ s)) → declaredHere? (s ++ rest) = none := by
    rintro s rest ne ⟨front, eq, inFront⟩
    by_contra found
    obtain ⟨id, found⟩ := Option.ne_none_iff_exists'.1 found
    obtain ⟨d, back, wellFormed, parts⟩ := DeclaredId.exists_of_declaredHere? found
    obtain ⟨some, same⟩ := h.only front d back wellFormed (by rw [eq, parts])
    have := inFront some
    rw [← same] at this
    exact ne (List.self_eq_append_right.1 this)
  cases declared : b.declared with
  | none =>
    have passed : Text.PassedBy declaredHere? b.text [] := by
      rintro s ne ⟨front, eq⟩
      exact none s [] ne ⟨front, by rw [← eq, List.append_nil], by simp [declared]⟩
    have := declared?_append passed
    rwa [List.append_nil] at this
  | some d =>
    have text : b.text = b.front ++ (d.text ++ b.back) := by simp [Body.text, declared]
    have passed : Text.PassedBy declaredHere? b.front (d.text ++ b.back) := by
      rintro s ne ⟨front, eq⟩
      exact none s _ ne ⟨front, by rw [text, ← eq, List.append_assoc], fun _ => eq.symm⟩
    rw [text, declared?_append passed]
    exact declared?_of_declaredHere?
      (DeclaredId.declaredHere?_text (h.declared d (by simp [declared])) _)

/-! ### Elements -/

/-- The parts of an element that are read. -/
def Element.parsed (e : Element) : ProjectReference.Element :=
  ⟨e.attributes, e.content.body?.map Body.text⟩

/-- **The reference is read off the parts of the element.** -/
theorem Element.ofElement?_parsed {e : Element} (h : e.WellFormed) :
    ofElement? e.parsed = some (asRead e.reference) := by
  have filled : Text.strip e.path.value ≠ [] := by
    rw [Ne, Text.strip_eq_nil_iff, h.filled]
    decide
  have declared : e.parsed.body.bind declared? = (asRead e.reference).declaredId := by
    cases content : e.content with
    | selfClosing => simp [parsed, asRead, reference, content, Content.body?]
    | body b closing gap =>
      have wellFormed := h.content
      rw [content] at wellFormed
      simp only [parsed, asRead, reference, content, Content.body?, Option.map_some,
        Option.bind_some, Body.declared?_text wellFormed.1, Option.map_map]
      rfl
  rw [ofElement?, show e.parsed.attributes = e.attributes from rfl, includeAfter?_attributes h]
  simp [filled, declared, asRead, reference]

end SolutionSweep.Descriptor
