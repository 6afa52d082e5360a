import SolutionSweep.Manifest.Identifier
import SolutionSweep.Text.Word

/-!
# References between projects

A project descriptor refers to another project by an element of the form
`<ProjectReference Include="path">…</ProjectReference>`, whose body may declare the identifier of
that project. Comments are blanked out first. The text need not be well-formed; what does not
complete an element is passed over.

* `ProjectReference.extract`: the references of a descriptor, in order.
-/

namespace SolutionSweep

/-- A reference of a descriptor: the path as written, and the identifier if one is declared. -/
structure ProjectReference where
  path : Text
  declaredId : Option EntryId
  deriving DecidableEq, Repr

/-! ### Comments -/

/-- The beginning of a comment. -/
def commentOpening : Text := "<!--".toList

/-- The end of a comment. -/
def commentClosing : Text := "-->".toList

/-- The beginning of a comment has characters. -/
theorem length_commentOpening : commentOpening.length = 4 := by simp [commentOpening]

/-- Blanks of the length of a comment with the given inside. -/
def commentBlanks (inside : Text) : Text := List.replicate (inside.length + 7) ' '

/-- The text with each complete comment turned into as many blanks. -/
def maskComments (t : Text) : Text :=
  match _opening : Text.cut? commentOpening t with
  | none => t
  | some (before, opened) =>
      match _closing : Text.cut? commentClosing opened with
      | none => t
      | some (inside, rest) => before ++ commentBlanks inside ++ maskComments rest
termination_by t.length
decreasing_by
  have := Text.length_of_cut? _opening
  have := Text.length_of_cut? _closing
  have := length_commentOpening
  omega

/-! ### Elements -/

namespace ProjectReference

/-- The beginning of the opening tag of an element, in lower case. -/
def tagOpening : Text := "<projectreference".toList

/-- The beginning of the closing tag of an element, in lower case. -/
def tagClosing : Text := "</projectreference".toList

/-- The name of the attribute that holds the path, in lower case. -/
def includeWord : Text := "include".toList

/-- The opening tag of a declared identifier, in lower case. -/
def idOpening : Text := "<project>".toList

/-- The closing tag of a declared identifier, in lower case. -/
def idClosing : Text := "</project>".toList

/-- The attributes of an element, and its body if it has one. -/
structure Element where
  attributes : Text
  body : Option Text
  deriving DecidableEq, Repr

/-- What follows the closing tag that a text starts with. -/
def closingHere? (t : Text) : Option Text := do
  let tail ← Text.afterIgnoringCase? tagClosing t
  Text.after? ['>'] (Text.skipWhite tail)

/-- What stands before and after the first closing tag of an element. -/
def cutClosing? : Text → Option (Text × Text)
  | [] => none
  | c :: rest =>
      match closingHere? (c :: rest) with
      | some after => some ([], after)
      | none => (cutClosing? rest).map fun (before, after) => (c :: before, after)

/-- Recognises an element at the start of a text, and returns what follows it. An opening tag
that ends in a slash has no body; any other needs a closing tag. -/
def element? (t : Text) : Option (Element × Text) := do
  let tail ← Text.afterIgnoringCase? tagOpening t
  if !endsWord tail then none
  else
    let (attributes, rest) ← Text.cut? ['>'] tail
    if attributes.getLast? = some '/' then some (⟨attributes.dropLast, none⟩, rest)
    else
      let (body, rest) ← cutClosing? rest
      some (⟨attributes, some body⟩, rest)

/-! ### Attributes and bodies -/

/-- The text between two quotes of the same kind at the start. -/
def quotedValue? : Text → Option Text
  | '"' :: rest => (Text.cut? ['"'] rest).map (·.1)
  | '\'' :: rest => (Text.cut? ['\''] rest).map (·.1)
  | _ => none

/-- The value of an `Include` attribute at the start, in any letter case. -/
def includeHere? (t : Text) : Option Text := do
  let rest ← Text.afterIgnoringCase? includeWord t
  let rest ← Text.after? ['='] (Text.skipWhite rest)
  quotedValue? (Text.skipWhite rest)

/-- The value of the first `Include` attribute that begins at a word boundary. -/
def includeAfter? : (inWord : Bool) → Text → Option Text
  | _, [] => none
  | inWord, c :: rest =>
      match if inWord then none else includeHere? (c :: rest) with
      | some value => some value
      | none => includeAfter? (isWord c) rest

/-- An identifier that is declared at the start, with or without braces. -/
def declaredHere? (t : Text) : Option EntryId := do
  let rest ← Text.afterIgnoringCase? idOpening t
  let (id, rest) ← takeId? (Text.skip ['{'] (Text.skipWhite rest))
  let _ ← Text.afterIgnoringCase? idClosing (Text.skipWhite (Text.skip ['}'] rest))
  return canonicalId id

/-- The first identifier that a body declares. -/
def declared? : Text → Option EntryId
  | [] => none
  | c :: rest =>
      match declaredHere? (c :: rest) with
      | some id => some id
      | none => declared? rest

/-- The reference that an element makes, if it includes a path that is not blank. -/
def ofElement? (e : Element) : Option ProjectReference := do
  let path := Text.strip (← includeAfter? false e.attributes)
  if path.isEmpty then none else some ⟨path, e.body.bind declared?⟩

/-! ### Extraction -/

theorem length_of_closingHere? {t after : Text} (h : closingHere? t = some after) :
    after.length < t.length := by
  obtain ⟨tail, opened, closed⟩ := Option.bind_eq_some_iff.1 h
  have := Text.length_of_afterIgnoringCase? opened
  have := Text.length_of_after? closed
  have := Text.length_skipWhite_le tail
  simp only [List.length_cons, List.length_nil] at *
  omega

theorem length_of_cutClosing? {t before after : Text}
    (h : cutClosing? t = some (before, after)) : after.length < t.length := by
  induction t generalizing before with
  | nil => simp [cutClosing?] at h
  | cons c rest ih =>
      simp only [cutClosing?] at h
      split at h
      · rename_i here
        cases h
        exact length_of_closingHere? here
      · obtain ⟨⟨b, a⟩, found, eq⟩ := Option.map_eq_some_iff.1 h
        cases eq
        exact Nat.lt_succ_of_lt (ih found)

/-- An element takes at least its tag name from the text. -/
theorem length_of_element? {t after : Text} {e : Element} (h : element? t = some (e, after)) :
    after.length < t.length := by
  simp only [element?, Option.bind_eq_bind, Option.bind_eq_some_iff] at h
  obtain ⟨tail, htail, h⟩ := h
  have := Text.length_of_afterIgnoringCase? htail
  split at h
  · cases h
  · obtain ⟨⟨attributes, rest⟩, hcut, h⟩ := Option.bind_eq_some_iff.1 h
    have := Text.length_of_cut? hcut
    simp only at h
    split at h
    · cases h
      simp only [List.length_cons, List.length_nil] at *
      omega
    · obtain ⟨⟨body, rest'⟩, hbody, h⟩ := Option.bind_eq_some_iff.1 h
      cases h
      have := length_of_cutClosing? hbody
      simp only [List.length_cons, List.length_nil] at *
      omega

/-- The elements of a text, in order; none begins inside another. -/
def elements : Text → List Element
  | [] => []
  | c :: rest =>
      match _found : element? (c :: rest) with
      | some (e, after) => e :: elements after
      | none => elements rest
termination_by t => t.length
decreasing_by
  · exact length_of_element? _found
  · simp

/-- The references of a descriptor, in order. -/
def extract (descriptor : Text) : List ProjectReference :=
  (elements (maskComments descriptor)).filterMap ofElement?

end ProjectReference

end SolutionSweep
