import SolutionSweep.Proofs.Descriptor.Reading

/-!
# Extraction undoes writing

A descriptor is read element by element. Filler and the blanks that stand for comments are passed
by, and an element is taken exactly to its end, so the next one is looked for where it was written.

* `Element.element?_text`: an element is recognised and taken to its end;
* `Layout.maskComments_text`, `Layout.elements_masked`: comments are blanked out, and of what is
  left exactly the elements are found;
* `Layout.extract_text`: the references of a descriptor are those that were written.
-/

namespace SolutionSweep.Descriptor

open ProjectReference

/-! ### The end of an element -/

theorem exists_of_closingHere? {t after : Text} (h : closingHere? t = some after) :
    ∃ w back, t = w ++ back ∧ Text.Spells tagClosing w := by
  simp only [closingHere?, Option.bind_eq_bind, Option.bind_eq_some_iff] at h
  obtain ⟨back, word, -⟩ := h
  obtain ⟨w, rfl, spells⟩ := Text.afterIgnoringCase?_eq_some_iff.1 word
  exact ⟨w, back, rfl, spells⟩

/-- The search for the closing tag goes on behind a text that it passes by. -/
theorem cutClosing?_append {t rest : Text} (passed : Text.PassedBy closingHere? t rest) :
    cutClosing? (t ++ rest) =
      (cutClosing? rest).map fun (before, after) => (t ++ before, after) := by
  induction t with
  | nil => simp
  | cons c t ih =>
    obtain ⟨here, later⟩ := Text.PassedBy.cons_iff.1 passed
    rw [List.cons_append, cutClosing?, here, ih later, Option.map_map]
    rfl

theorem cutClosing?_of_closingHere? {t after : Text} (h : closingHere? t = some after) :
    cutClosing? t = some ([], after) := by
  cases t with
  | nil => cases h
  | cons c t => rw [cutClosing?, h]

/-- A body is taken up to its closing tag. -/
theorem cutClosing?_body {b : Body} {closing gap : Text}
    (h : (Content.body b closing gap).WellFormed) (rest : Text) :
    cutClosing? (b.text ++ (closing ++ (gap ++ '>' :: rest))) = some (b.text, rest) := by
  obtain ⟨body, spells, blank⟩ := h
  have here : closingHere? (closing ++ (gap ++ '>' :: rest)) = some rest := by
    have skipped := Text.skipWhite_append_cons blank (c := '>') (by decide) rest
    simp [closingHere?, spells.afterIgnoringCase?, skipped, Text.after?]
  have passed : Text.PassedBy closingHere? b.text (closing ++ (gap ++ '>' :: rest)) := by
    refine Text.passedBy_of_head (fun _ _ => exists_of_closingHere?)
      (fun w spells inside => body.closing ⟨w, spells, inside⟩) fun c head m mem reads => ?_
    have first : (closing ++ (gap ++ '>' :: rest)).head? = some '<' :=
      spells.head?_append (by decide) _
    obtain rfl : c = '<' := Option.some.inj (head.symm.trans first)
    -- No part of the tag but its first character is like an angle bracket.
    have inner : tagClosing.tail.all (fun m => !isLetterIgnoringCase m '<') = true := by
      decide +kernel
    have other := List.all_eq_true.1 inner m mem
    rw [reads] at other
    cases other
  rw [cutClosing?_append passed, cutClosing?_of_closingHere? here]
  simp

/-! ### Elements -/

/-- What is recognised at an opening tag depends on the character in front of its end. -/
theorem element?_tag {name attributes rest : Text} (spells : Text.Spells tagOpening name)
    (absent : '>' ∉ attributes) (apart : endsWord (attributes ++ '>' :: rest) = true) :
    element? (name ++ (attributes ++ '>' :: rest)) =
      if attributes.getLast? = some '/' then some (⟨attributes.dropLast, none⟩, rest)
      else (cutClosing? rest).map fun (body, after) => (⟨attributes, some body⟩, after) := by
  rw [element?, spells.afterIgnoringCase?]
  simp only [Option.bind_eq_bind, Option.bind_some, apart, Bool.not_true, Bool.false_eq_true,
    if_false, Text.cut?_singleton absent]
  split
  · rfl
  · cases cutClosing? rest <;> rfl

namespace Element

variable {e : Element}

theorem exists_of_element? {t : Text} {found : ProjectReference.Element × Text}
    (h : element? t = some found) : ∃ w back, t = w ++ back ∧ Text.Spells tagOpening w := by
  rw [element?, Option.bind_eq_bind, Option.bind_eq_some_iff] at h
  obtain ⟨back, word, -⟩ := h
  obtain ⟨w, rfl, spells⟩ := Text.afterIgnoringCase?_eq_some_iff.1 word
  exact ⟨w, back, rfl, spells⟩

/-- **An element is recognised, and taken exactly to its end.** -/
theorem element?_text (h : e.WellFormed) (rest : Text) :
    element? (e.text ++ rest) = some (e.parsed, rest) := by
  have apart : ∀ t, endsWord (e.attributes ++ t) = true := by
    intro t
    have blank := h.blanks
    obtain ⟨c, blanks, parts⟩ := List.exists_cons_of_ne_nil h.apart
    rw [parts] at blank
    have outside := isWord_eq_false_of_isWhite (List.all_eq_true.1 blank c List.mem_cons_self)
    simp [attributes, front, parts, endsWord, outside]
  cases content : e.content with
  | selfClosing =>
    have absent : '>' ∉ e.attributes ++ ['/'] := by
      simp [h.not_mem_attributes]
    rw [show e.text ++ rest = e.opening ++ ((e.attributes ++ ['/']) ++ '>' :: rest) by
      simp [text, content, Content.text], element?_tag h.opening absent (by simp [apart])]
    simp [parsed, content, Content.body?]
  | body b closing gap =>
    have wellFormed := h.content
    rw [content] at wellFormed
    -- The opening tag ends in a quote or in white space, so it is not taken for a self-closing one.
    have notClosed : e.attributes.getLast? ≠ some '/' := fun last =>
      ne_slash_of_isEdge (h.endsAtEdge_attributes '/' last) rfl
    rw [show e.text ++ rest = e.opening ++ (e.attributes ++ '>' :: (b.text ++ (closing ++
      (gap ++ '>' :: rest)))) by simp [text, content, Content.text],
      element?_tag h.opening h.not_mem_attributes (apart _), if_neg notClosed,
      cutClosing?_body wellFormed]
    simp [parsed, content, Content.body?]

theorem WellFormed.head?_text (h : e.WellFormed) (rest : Text) :
    (e.text ++ rest).head? = some '<' := by
  rw [text, List.append_assoc]
  exact h.opening.head?_append (by decide) _

/-- An element ends with the end of a tag. -/
theorem getLast?_text (e : Element) : e.text.getLast? = some '>' := by
  have tag : ∃ t, e.content.text = t ++ ['>'] := by
    cases e.content with
    | selfClosing => exact ⟨['/'], rfl⟩
    | body b closing gap => exact ⟨'>' :: (b.text ++ (closing ++ gap)), by simp [Content.text]⟩
  obtain ⟨t, eq⟩ := tag
  rw [text, eq, ← List.append_assoc, ← List.append_assoc, List.getLast?_concat]

end Element

theorem elements_nil : elements [] = [] := by rw [elements]

/-- The search for elements goes on behind a text that it passes by. -/
theorem elements_append {t rest : Text} (passed : Text.PassedBy element? t rest) :
    elements (t ++ rest) = elements rest := by
  induction t with
  | nil => rfl
  | cons c t ih =>
    obtain ⟨here, later⟩ := Text.PassedBy.cons_iff.1 passed
    rw [List.cons_append, elements]
    split
    · rename_i found
      rw [here] at found
      cases found
    · exact ih later

theorem elements_of_element? {t after : Text} {e : ProjectReference.Element}
    (h : element? t = some (e, after)) : elements t = e :: elements after := by
  cases t with
  | nil => cases h
  | cons c t =>
    rw [elements]
    split
    · rename_i found
      rw [h] at found
      cases found
      rfl
    · rename_i found
      rw [h] at found
      cases found

/-! ### Comments -/

/-- A mark that is read literally. -/
theorem exists_of_after? {mark t rest : Text} (h : Text.after? mark t = some rest) :
    ∃ w back, t = w ++ back ∧ List.Forall₂ (· = ·) mark w :=
  ⟨mark, rest, Text.after?_eq_some_iff.1 h, List.forall₂_same.2 fun _ _ => rfl⟩

theorem absent_of_not_isInfix {mark t : Text} (h : ¬ mark <:+: t) :
    ∀ w, List.Forall₂ (· = ·) mark w → ¬ w <:+: t := by
  intro w reads
  rw [List.forall₂_eq_eq_eq] at reads
  exact reads ▸ h

theorem maskComments_of_none {t : Text} (opening : Text.cut? commentOpening t = none) :
    maskComments t = t := by
  rw [maskComments]
  split
  · rfl
  · rename_i found
    rw [opening] at found
    cases found

theorem maskComments_of_open {t before opened : Text}
    (opening : Text.cut? commentOpening t = some (before, opened))
    (closing : Text.cut? commentClosing opened = none) : maskComments t = t := by
  rw [maskComments]
  split
  · rfl
  · rename_i found
    rw [opening] at found
    cases found
    split
    · rfl
    · rename_i found
      rw [closing] at found
      cases found

theorem maskComments_of_closed {t before opened inside rest : Text}
    (opening : Text.cut? commentOpening t = some (before, opened))
    (closing : Text.cut? commentClosing opened = some (inside, rest)) :
    maskComments t = before ++ (commentBlanks inside ++ maskComments rest) := by
  rw [maskComments, ← List.append_assoc]
  split
  · rename_i found
    rw [opening] at found
    cases found
  · rename_i found
    rw [opening] at found
    cases found
    split
    · rename_i found
      rw [closing] at found
      cases found
    · rename_i found
      rw [closing] at found
      cases found
      rfl

/-- Comments are looked for behind a text in which none begins. -/
theorem maskComments_append {t rest : Text}
    (passed : Text.PassedBy (Text.after? commentOpening) t rest) :
    maskComments (t ++ rest) = t ++ maskComments rest := by
  have whole := Text.cut?_append passed
  cases opening : Text.cut? commentOpening rest with
  | none =>
    rw [opening] at whole
    rw [maskComments_of_none whole, maskComments_of_none opening]
  | some parts =>
    obtain ⟨before, opened⟩ := parts
    rw [opening] at whole
    cases closing : Text.cut? commentClosing opened with
    | none => rw [maskComments_of_open whole closing, maskComments_of_open opening closing]
    | some parts =>
      obtain ⟨inside, rest⟩ := parts
      rw [maskComments_of_closed whole closing, maskComments_of_closed opening closing,
        List.append_assoc]

/-- A comment is turned into blanks. -/
theorem maskComments_comment {inside : Text} (absent : ¬ commentClosing <:+: inside) (rest : Text) :
    maskComments (commentOpening ++ (inside ++ (commentClosing ++ rest))) =
      commentBlanks inside ++ maskComments rest := by
  have opening : Text.cut? commentOpening (commentOpening ++ (inside ++ (commentClosing ++ rest))) =
      some ([], inside ++ (commentClosing ++ rest)) := Text.cut?_of_after? (Text.after?_append _ _)
  -- The end of a comment does not overlap with itself, so it does not begin inside.
  have passed : Text.PassedBy (Text.after? commentClosing) inside (commentClosing ++ rest) := by
    refine Text.passedBy_of_apart (fun _ _ => exists_of_after?) (absent_of_not_isInfix absent)
      fun b z ne inside _ follows reads => ?_
    rw [List.forall₂_eq_eq_eq] at reads
    rw [show commentClosing = ['-', '-', '>'] from rfl] at reads follows
    rcases b with _ | ⟨c, _ | ⟨d, _ | ⟨f, b⟩⟩⟩
    · exact ne rfl
    · obtain rfl : ['-', '>'] = z := (List.cons.inj reads).2
      simp at follows
    · obtain rfl : ['>'] = z := (List.cons.inj (List.cons.inj reads).2).2
      simp at follows
    · have tail : [] = b ++ z := (List.cons.inj (List.cons.inj (List.cons.inj reads).2).2).2
      exact inside (List.append_eq_nil_iff.1 tail.symm).2
  have closing : Text.cut? commentClosing (inside ++ (commentClosing ++ rest)) =
      some (inside, rest) := by
    rw [Text.cut?_append passed, Text.cut?_of_after? (Text.after?_append _ _)]
    simp
  rw [maskComments_of_closed opening closing, List.nil_append]

/-- No comment begins in a text without the beginning of one and reaches into an element, into
another comment or beyond the end. -/
theorem maskComments_filler {t rest : Text} (absent : ¬ commentOpening <:+: t)
    (other : ∀ c, rest.head? = some c → c = '<') :
    maskComments (t ++ rest) = t ++ maskComments rest := by
  refine maskComments_append (Text.passedBy_of_head (fun _ _ => exists_of_after?)
    (absent_of_not_isInfix absent) fun c head m mem eq => ?_)
  obtain rfl := other c head
  subst eq
  exact absurd mem (by decide)

theorem maskComments_element {e : Element} (h : e.WellFormed) (rest : Text) :
    maskComments (e.text ++ rest) = e.text ++ maskComments rest := by
  refine maskComments_append (Text.passedBy_of_getLast (fun _ _ => exists_of_after?)
    (absent_of_not_isInfix h.plain) fun c last m mem eq => ?_)
  rw [e.getLast?_text] at last
  obtain rfl := Option.some.inj last
  subst eq
  exact absurd mem (by decide)

/-! ### Layouts -/

/-- An element does not begin in filler and reach beyond it. -/
theorem elements_filler {t rest : Text} (absent : ¬ Text.Mentions tagOpening t)
    (other : ∀ c, rest.head? = some c → isWord c = false) :
    elements (t ++ rest) = elements rest := by
  refine elements_append (Text.passedBy_of_head (fun _ _ => Element.exists_of_element?)
    (fun w spells inside => absent ⟨w, spells, inside⟩) fun c head m mem reads => ?_)
  have letters : tagOpening.tail.all Char.isLower = true := by decide +kernel
  have word := isWord_of_isLetterIgnoringCase (List.all_eq_true.1 letters m mem) reads
  rw [other c head] at word
  cases word

theorem element?_blank (rest : Text) : element? (' ' :: rest) = none := by
  have other : isLetterIgnoringCase '<' ' ' = false := by decide +kernel
  have word : Text.afterIgnoringCase? tagOpening (' ' :: rest) = none := by
    rw [show tagOpening = '<' :: "projectreference".toList from rfl, Text.afterIgnoringCase?, other]
    rfl
  rw [element?, word]
  rfl

/-- No element begins in the blanks that stand for a comment. -/
theorem elements_commentBlanks (inside rest : Text) :
    elements (commentBlanks inside ++ rest) = elements rest := by
  refine elements_append fun b ne suffix => ?_
  obtain ⟨c, b, rfl⟩ := List.exists_cons_of_ne_nil ne
  rw [List.eq_of_mem_replicate (suffix.subset List.mem_cons_self)]
  exact element?_blank _

namespace Layout

/-- The text of a descriptor with blanks in place of comments. -/
def masked : Layout → Text
  | last filler => filler
  | comment filler inside rest => filler ++ (commentBlanks inside ++ rest.masked)
  | element filler e rest => filler ++ (e.text ++ rest.masked)

/-- The parts of the elements of a descriptor, in order. -/
def parsed : Layout → List ProjectReference.Element
  | last _ => []
  | comment _ _ rest => rest.parsed
  | element _ e rest => e.parsed :: rest.parsed

/-- Comments are blanked out, and nothing else. -/
theorem maskComments_text (l : Layout) (h : l.WellFormed) : maskComments l.text = l.masked := by
  induction l with
  | last filler =>
    have plain : maskComments (filler ++ []) = filler ++ maskComments [] :=
      maskComments_filler h.comment nofun
    have empty : maskComments [] = [] := maskComments_of_none rfl
    rw [List.append_nil, empty, List.append_nil] at plain
    rw [text, plain, masked]
  | comment filler inside rest ih =>
    obtain ⟨plain, absent, rest'⟩ := h
    have opens : ∀ c, (commentOpening ++ (inside ++ (commentClosing ++ rest.text))).head? = some c →
        c = '<' := fun c head => (Option.some.inj head).symm
    rw [text, maskComments_filler plain.comment opens, maskComments_comment absent, ih rest',
      masked]
  | element filler e rest ih =>
    obtain ⟨plain, wellFormed, rest'⟩ := h
    have opens : ∀ c, (e.text ++ rest.text).head? = some c → c = '<' := fun c head =>
      Option.some.inj (head.symm.trans (wellFormed.head?_text _))
    rw [text, maskComments_filler plain.comment opens, maskComments_element wellFormed, ih rest',
      masked]

/-- Of what is left, exactly the elements are found. -/
theorem elements_masked (l : Layout) (h : l.WellFormed) : elements l.masked = l.parsed := by
  induction l with
  | last filler =>
    have none : elements (filler ++ []) = elements [] := elements_filler h.element nofun
    rw [List.append_nil, elements_nil] at none
    rw [masked, none, parsed]
  | comment filler inside rest ih =>
    obtain ⟨plain, -, rest'⟩ := h
    have blank : ∀ c, (commentBlanks inside ++ rest.masked).head? = some c → isWord c = false := by
      intro c head
      obtain rfl := Option.some.inj head
      decide +kernel
    rw [masked, elements_filler plain.element blank, elements_commentBlanks, ih rest', parsed]
  | element filler e rest ih =>
    obtain ⟨plain, wellFormed, rest'⟩ := h
    have opens : ∀ c, (e.text ++ rest.masked).head? = some c → isWord c = false := by
      intro c head
      obtain rfl := Option.some.inj (head.symm.trans (wellFormed.head?_text _))
      decide +kernel
    rw [masked, elements_filler plain.element opens,
      elements_of_element? (Element.element?_text wellFormed _), ih rest', parsed]

/-- The parts of an element make its reference. -/
theorem filterMap_parsed (l : Layout) (h : l.WellFormed) :
    l.parsed.filterMap ofElement? = l.references.map asRead := by
  induction l with
  | last filler => rfl
  | comment filler inside rest ih => exact ih h.2.2
  | element filler e rest ih =>
    rw [parsed, references, List.filterMap_cons_some (Element.ofElement?_parsed h.2.1),
      List.map_cons, ih h.2.2]

/-- **Extraction undoes writing.** From every well-formed descriptor exactly the references that are
written in it are extracted, in order: the paths without white space at their ends, and the
identifiers in upper case. -/
theorem extract_text (l : Layout) (h : l.WellFormed) :
    extract l.text = l.references.map asRead := by
  rw [extract, l.maskComments_text h, l.elements_masked h, l.filterMap_parsed h]

/-! ### Sample -/

/-- An element that closes itself, with another attribute in front of the path. -/
def selfClosingSample : Element where
  opening := "<projectREFERENCE".toList
  blanks := ['\t']
  before := [⟨[], "IncludeAssets".toList, " ".toList, " ".toList, .single, "a \"b\" c".toList⟩]
  path := ⟨"\n".toList, "INCLUDE".toList, [], [], .double, " ..\\Lib\\Lib.csproj ".toList⟩
  after := []
  gap := " ".toList
  content := .selfClosing

/-- A body that declares an identifier. -/
def bodySample : Body where
  front := "<Name>Core</Name>\n".toList
  declared := some ⟨"<Project>".toList, " ".toList, true,
    "abcdef01-2345-6789-abcd-ef0123456789".toList, true, [], "</PROJECT>".toList⟩
  back := "\n".toList

/-- An element with this body, and an attribute behind the path. -/
def bodiedSample : Element where
  opening := "<ProjectReference".toList
  blanks := " ".toList
  before := []
  path := ⟨[], "Include".toList, [], [], .single, "../Core.csproj".toList⟩
  after := [⟨" ".toList, "Private".toList, [], [], .double, "false".toList⟩]
  gap := []
  content := .body bodySample "</ProjectReference".toList " ".toList

/-- A descriptor with both elements, and one in a comment. -/
def sample : Layout :=
  .comment "<Project>\n".toList " <ProjectReference Include='Dead.csproj'/> ".toList
    (.element "\n".toList selfClosingSample
      (.element "\n".toList bodiedSample (.last "\n</Project>\n".toList)))

theorem wellFormed_sample : sample.WellFormed := by
  decide +kernel

/-- The references of the sample. -/
theorem extract_text_sample : sample.WellFormed ∧ extract sample.text =
    [⟨"..\\Lib\\Lib.csproj".toList, none⟩,
      ⟨"../Core.csproj".toList, some "ABCDEF01-2345-6789-ABCD-EF0123456789".toList⟩] :=
  ⟨wellFormed_sample, (extract_text sample wellFormed_sample).trans (by decide +kernel)⟩

end Layout

end SolutionSweep.Descriptor
