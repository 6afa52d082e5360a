import SolutionSweep.Descriptor.Reference
import SolutionSweep.Proofs.Text.Marks
import Mathlib.Tactic.MkIffOfInductiveProp

/-!
# Descriptors as they are written

A descriptor that holds references is some filler with comments and elements in between. Tags and
the name of the attribute with the path are spelled in any letter case, white space stands where it
may, and either kind of quotes is used.

* `Attribute`: an attribute with its white space and quotes;
* `DeclaredId`, `Body`: an element that declares an identifier, and the body around it;
* `Element`: an element that refers to a project, with other attributes on both sides of the path;
* `Layout`: a whole descriptor, `Layout.text`: its text, `Layout.references`: what it refers to;
* `WellFormed`: what must hold of each so that it is what it looks like.
-/

namespace SolutionSweep.Descriptor

open ProjectReference (tagOpening tagClosing includeWord idOpening idClosing)

/-! ### Attributes -/

/-- The two kinds of quotes. -/
inductive Quote
  | single
  | double
  deriving DecidableEq

/-- The character that opens and closes a value. -/
def Quote.char : Quote → Char
  | single => '\''
  | double => '"'

/-- An attribute: white space in front of it, its name, an equals sign with white space on both
sides, and its value in quotes. -/
structure Attribute where
  gap : Text
  name : Text
  left : Text
  right : Text
  quote : Quote
  value : Text

namespace Attribute

/-- The attribute behind the white space in front of it. -/
def bare (a : Attribute) : Text :=
  a.name ++ (a.left ++ '=' :: (a.right ++ a.quote.char :: (a.value ++ [a.quote.char])))

/-- The attribute and the white space in front of it. -/
def text (a : Attribute) : Text := a.gap ++ a.bare

/-- White space stands where it may, and the value does not end inside of itself. -/
@[mk_iff]
structure Written (a : Attribute) : Prop where
  gap : Text.isBlank a.gap = true
  left : Text.isBlank a.left = true
  right : Text.isBlank a.right = true
  quoted : a.quote.char ∉ a.value

instance (a : Attribute) : Decidable a.Written := decidable_of_iff _ (written_iff a).symm

/-- No tag ends inside of an attribute, and no value inside of itself. -/
@[mk_iff]
structure WellFormed (a : Attribute) : Prop where
  gap : Text.isBlank a.gap = true
  name : '>' ∉ a.name
  left : Text.isBlank a.left = true
  right : Text.isBlank a.right = true
  value : '>' ∉ a.value
  quoted : a.quote.char ∉ a.value

instance (a : Attribute) : Decidable a.WellFormed := decidable_of_iff _ (wellFormed_iff a).symm

theorem WellFormed.written {a : Attribute} (h : a.WellFormed) : a.Written :=
  ⟨h.gap, h.left, h.right, h.quoted⟩

end Attribute

/-- Attributes one after another. -/
def attributesText (attributes : List Attribute) : Text := attributes.flatMap Attribute.text

/-! ### Declared identifiers -/

/-- An element that declares an identifier, with or without braces around it. -/
structure DeclaredId where
  opening : Text
  left : Text
  braceLeft : Bool
  id : Text
  braceRight : Bool
  right : Text
  closing : Text

namespace DeclaredId

/-- The text of the element. -/
def text (d : DeclaredId) : Text :=
  d.opening ++ (d.left ++ ((if d.braceLeft then ['{'] else []) ++
    (d.id ++ ((if d.braceRight then ['}'] else []) ++ (d.right ++ d.closing)))))

/-- The tags are spelled in some letter case, and the identifier is one. -/
@[mk_iff]
structure WellFormed (d : DeclaredId) : Prop where
  opening : Text.Spells idOpening d.opening
  left : Text.isBlank d.left = true
  id : isBareId d.id = true
  right : Text.isBlank d.right = true
  closing : Text.Spells idClosing d.closing

instance (d : DeclaredId) : Decidable d.WellFormed := decidable_of_iff _ (wellFormed_iff d).symm

end DeclaredId

/-- The body of an element, which may declare an identifier. -/
structure Body where
  front : Text
  declared : Option DeclaredId
  back : Text

namespace Body

/-- The text of the body. -/
def text (b : Body) : Text := b.front ++ ((b.declared.map DeclaredId.text).getD [] ++ b.back)

/-- No identifier is declared in the body but the one that is. -/
def DeclaresOnce (b : Body) : Prop :=
  ∀ front (d : DeclaredId) back, d.WellFormed → b.text = front ++ (d.text ++ back) →
    b.declared.isSome = true ∧ front = b.front

/-- The element does not end inside of its body, and the body declares at most one identifier. -/
@[mk_iff]
structure WellFormed (b : Body) : Prop where
  closing : ¬ Text.Mentions tagClosing b.text
  declared : ∀ d ∈ b.declared, d.WellFormed
  only : b.DeclaresOnce

end Body

/-! ### Elements -/

/-- How an element ends: at once, or after a body with a closing tag, which may have white space in
it. -/
inductive Content
  | selfClosing
  | body (body : Body) (closing gap : Text)

namespace Content

/-- The end of the opening tag, and the body and the closing tag if there are any. -/
def text : Content → Text
  | selfClosing => "/>".toList
  | body b closing gap => '>' :: (b.text ++ (closing ++ (gap ++ ['>'])))

/-- The body, if there is one. -/
def body? : Content → Option Body
  | selfClosing => none
  | body b _ _ => some b

/-- The closing tag is spelled in some letter case. -/
def WellFormed : Content → Prop
  | selfClosing => True
  | body b closing gap =>
      b.WellFormed ∧ Text.Spells tagClosing closing ∧ Text.isBlank gap = true

end Content

/-- An element that refers to a project: the attribute with the path, and others in front of it and
behind it. -/
structure Element where
  opening : Text
  blanks : Text
  before : List Attribute
  path : Attribute
  after : List Attribute
  gap : Text
  content : Content

namespace Element

/-- What stands between the name of the tag and the attribute with the path. -/
def front (e : Element) : Text := e.blanks ++ (attributesText e.before ++ e.path.gap)

/-- What stands between the name of the tag and its end. -/
def attributes (e : Element) : Text :=
  e.front ++ (e.path.bare ++ (attributesText e.after ++ e.gap))

/-- The text of the element. -/
def text (e : Element) : Text := e.opening ++ (e.attributes ++ e.content.text)

/-- The reference as written. -/
def reference (e : Element) : ProjectReference :=
  ⟨e.path.value, (e.content.body?.bind Body.declared).map DeclaredId.id⟩

/-- The tag is spelled in some letter case and white space follows it, the attribute with the path
is the first one with the word for it, the path is not blank, and no comment begins in the
element. -/
@[mk_iff]
structure WellFormed (e : Element) : Prop where
  opening : Text.Spells tagOpening e.opening
  blanks : Text.isBlank e.blanks = true
  apart : e.blanks ≠ []
  before : ∀ a ∈ e.before, a.WellFormed
  first : ¬ Text.MentionsWord includeWord e.front
  path : e.path.WellFormed
  named : Text.Spells includeWord e.path.name
  filled : Text.isBlank e.path.value = false
  after : ∀ a ∈ e.after, a.WellFormed
  gap : Text.isBlank e.gap = true
  content : e.content.WellFormed
  plain : ¬ commentOpening <:+: e.text

end Element

/-! ### Layouts -/

/-- A descriptor: filler, and then either its end or a comment or an element and what follows. -/
inductive Layout
  | last (filler : Text)
  | comment (filler inside : Text) (rest : Layout)
  | element (filler : Text) (e : Element) (rest : Layout)

/-- Text in which neither an element nor a comment begins. -/
@[mk_iff]
structure IsFiller (t : Text) : Prop where
  element : ¬ Text.Mentions tagOpening t
  comment : ¬ commentOpening <:+: t

instance (t : Text) : Decidable (IsFiller t) := decidable_of_iff _ (isFiller_iff t).symm

namespace Layout

/-- The text of a descriptor. -/
def text : Layout → Text
  | last filler => filler
  | comment filler inside rest =>
      filler ++ (commentOpening ++ (inside ++ (commentClosing ++ rest.text)))
  | element filler e rest => filler ++ (e.text ++ rest.text)

/-- The references as they are written, in order. -/
def references : Layout → List ProjectReference
  | last _ => []
  | comment _ _ rest => rest.references
  | element _ e rest => e.reference :: rest.references

/-- The filler is filler, no comment ends inside of itself, and the elements are well-formed. -/
def WellFormed : Layout → Prop
  | last filler => IsFiller filler
  | comment filler inside rest =>
      IsFiller filler ∧ ¬ commentClosing <:+: inside ∧ rest.WellFormed
  | element filler e rest => IsFiller filler ∧ e.WellFormed ∧ rest.WellFormed

end Layout

/-- A reference as it is read: the path without white space at its ends, and the identifier in upper
case. -/
def asRead (r : ProjectReference) : ProjectReference :=
  ⟨Text.strip r.path, r.declaredId.map Text.upper⟩

end SolutionSweep.Descriptor
