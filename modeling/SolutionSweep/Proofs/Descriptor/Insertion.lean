import SolutionSweep.Proofs.Descriptor.Markup
import SolutionSweep.Proofs.Descriptor.OpenQuotes

/-!
# Attributes behind the path

An element may have more attributes behind its path. They say nothing about the reference, so one
more of them should change nothing. But a tag is taken to end at its first closing angle bracket,
which may stand in a value, and then the character in front of that decides whether the tag closes
itself. This is all by which an attribute counts, unless quotes in front of the path stay open.

* `Site`: an element with a path in a descriptor, where attributes can be put behind the path;
* `Site.Legal.extract_eq`: what they may be replaced by;
* `Site.extract_insert`: one more attribute;
* `Site.extract_insert_misread`: conditions that change the references.
-/

namespace SolutionSweep.Descriptor

open ProjectReference

/-- An element with a path in a descriptor: what stands in front of it, its tag up to the path, and
what stands behind the tag. -/
structure Site where
  front : List (Text × Piece)
  filler : Text
  name : Text
  before : List Attribute
  path : Attribute
  gap : Text
  back : Text

namespace Site

/-- What stands in front of the element. -/
def leading (s : Site) : Text := s.front.flatMap (fun p => p.1 ++ p.2.text) ++ s.filler

/-- The attributes up to the path. -/
def upToPath (s : Site) : Text := attributesText (s.before ++ [s.path])

/-- The tag behind its name, with more attributes behind the path. -/
def inside (s : Site) (more : List Attribute) (closed : Bool) : Text :=
  tagInside (s.before ++ s.path :: more) s.gap closed

/-- Whether the tag is taken to close itself. -/
def closes (s : Site) (more : List Attribute) (closed : Bool) : Bool :=
  closesItself (s.inside more closed)

/-- The descriptor with the given text in place of the tag. -/
def around (s : Site) (tag : Text) : Text := s.leading ++ (tag ++ s.back)

/-- The descriptor with more attributes behind the path. -/
def text (s : Site) (more : List Attribute) (closed : Bool) : Text :=
  s.around (s.name ++ s.inside more closed)

/-- The pieces in front of the element and the attributes up to the path are legal, and no value in
front of the path looks like the path with its quotes left open. What stands behind the tag is any
text. -/
@[mk_iff]
structure Legal (s : Site) : Prop where
  front : ∀ p ∈ s.front, IsPlain p.1 ∧ p.2.Legal
  filler : IsPlain s.filler
  name : Text.Spells tagOpening s.name
  before : ∀ a ∈ s.before, a.Legal
  path : s.path.Legal
  named : Text.Spells includeWord s.path.name
  quotes : QuotesClosed s.upToPath
  gap : Text.isBlank s.gap = true

instance (s : Site) : Decidable s.Legal := decidable_of_iff _ s.legal_iff.symm

variable {s : Site}

/-! ### The tag in the descriptor -/

/-- What stands in front of the element, with blanks in place of comments. -/
def masked (s : Site) : Text := s.front.flatMap (fun p => p.1 ++ p.2.masked) ++ s.filler

theorem inside_eq (s : Site) (more : List Attribute) (closed : Bool) :
    s.inside more closed = s.upToPath ++ tagInside more s.gap closed := by
  rw [inside, upToPath, ← tagInside_append, List.append_assoc]
  rfl

theorem Legal.sealed_masked (h : s.Legal) : Sealed s.masked := by
  have filler : Sealed (s.filler ++ []) := h.filler.sealed_append
    (fun b tail suffix read => by
      obtain rfl := List.suffix_nil.1 suffix
      cases read) nofun
  rw [List.append_nil] at filler
  exact sealed_pieces h.front filler

theorem Legal.extract_around (h : s.Legal) {tag : Text} (isTag : IsTag tag) :
    extract (s.around tag) = references (s.masked ++ (tag ++ maskComments s.back)) := by
  have opens : ∀ c, (tag ++ s.back).head? = some c → c = '<' := by
    obtain ⟨c, u, rfl, -, -⟩ := isTag.exists_cons
    exact fun d head => (Option.some.inj head).symm
  have mask : maskComments (s.around tag) = s.masked ++ (tag ++ maskComments s.back) := by
    rw [around, leading, List.append_assoc, maskComments_pieces h.front,
      maskComments_filler h.filler.comment opens, isTag.maskComments_append, masked,
      List.append_assoc]
  rw [extract, mask, references]

/-- Two tags that are the same to what follows are the same to the descriptor. -/
theorem Legal.extract_congr (h : s.Legal) {tag tag' : Text} (isTag : IsTag tag)
    (isTag' : IsTag tag') (same : references (tag ++ maskComments s.back) =
      references (tag' ++ maskComments s.back)) :
    extract (s.around tag) = extract (s.around tag') := by
  rw [h.extract_around isTag, h.extract_around isTag',
    references_append_congr isTag isTag' same h.sealed_masked]

variable {more : List Attribute}

theorem Legal.legal_attributes (h : s.Legal) (legal : ∀ b ∈ more, b.Legal) :
    ∀ b ∈ s.before ++ s.path :: more, b.Legal := by
  simp only [List.mem_append, List.mem_cons]
  rintro b (mem | rfl | mem)
  · exact h.before b mem
  · exact h.path
  · exact legal b mem

theorem Legal.isTag (h : s.Legal) (legal : ∀ b ∈ more, b.Legal) (closed : Bool) :
    IsTag (s.name ++ s.inside more closed) :=
  isTag_append h.name (h.legal_attributes legal) h.gap closed

/-- White space follows the name of the tag. -/
theorem Legal.endsWord_inside (h : s.Legal) (more : List Attribute) (closed : Bool) :
    endsWord (s.inside more closed) = true := by
  have first : ∀ b : Attribute, b.Legal → ∀ t, endsWord (b.text ++ t) = true := by
    intro b legal t
    have blank := legal.gap
    obtain ⟨c, gap, parts⟩ := List.exists_cons_of_ne_nil legal.apart
    rw [parts] at blank
    have white := List.all_eq_true.1 blank c List.mem_cons_self
    simp [Attribute.text, parts, endsWord, isWord_eq_false_of_isWhite white]
  rw [inside_eq, upToPath]
  cases before : s.before with
  | nil =>
    rw [List.nil_append, attributesText, List.flatMap_singleton]
    exact first s.path h.path _
  | cons b before =>
    rw [List.cons_append, attributesText, List.flatMap_cons, List.append_assoc]
    exact first b (h.before b (by rw [before]; exact List.mem_cons_self)) _

/-- Slashes and angle brackets behind the path do not change the reference. -/
theorem Legal.ofElement?_append (h : s.Legal) (t : Text) (body : Option Text) :
    ofElement? ⟨s.upToPath ++ t, body⟩ = ofElement? ⟨s.upToPath, body⟩ := by
  have outside : endsInWord false (attributesText s.before ++ s.path.gap) = false := by
    have last := List.getLast?_eq_some_getLast h.path.apart
    have white := List.all_eq_true.1 h.path.gap _ (List.getLast_mem h.path.apart)
    simp [endsInWord, List.getLast?_append, last, isWord_eq_false_of_isWhite white]
  have parts : s.upToPath = attributesText s.before ++ s.path.gap ++ s.path.bare := by
    simp [upToPath, attributesText, Attribute.text]
  have quotes := h.quotes
  rw [parts] at quotes
  simp only [ofElement?, parts,
    includeAfter?_append_of_quotesClosed h.path.toWritten h.named outside quotes t]

/-- **The attributes behind the path only count by how they let the tag end.** -/
theorem Legal.exists_references_tag (h : s.Legal) : ∃ attributes, ∀ more closed rest,
    (∀ b ∈ more, b.Legal) → references (s.name ++ s.inside more closed ++ rest) =
      referencesFrom attributes (s.closes more closed) rest := by
  have read : ∀ more closed rest, (∀ b ∈ more, b.Legal) →
      references (s.name ++ s.inside more closed ++ rest) =
        referencesFrom (seenAttributes (s.inside more closed)) (s.closes more closed) rest := by
    intro more closed rest legal
    rw [List.append_assoc, references_tag h.name (h.endsWord_inside more closed)
      (mem_tagInside _ _ _) (plain_tagInside (h.legal_attributes legal) h.gap), closes]
  by_cases mem : '>' ∈ s.upToPath
  · -- The tag is taken to end up to the path.
    refine ⟨seenAttributes s.upToPath, fun more closed rest legal => ?_⟩
    rw [read more closed rest legal, inside_eq, seenAttributes, seenAttributes,
      closesItself_append_of_mem mem, seenPart_append_of_mem mem]
  · refine ⟨s.upToPath, fun more closed rest legal => ?_⟩
    rw [read more closed rest legal, inside_eq,
      seenAttributes_append mem (getLast?_attributesText_ne _)]
    exact referencesFrom_congr (h.ofElement?_append _) _ rest

/-- Without attributes there is no reference. -/
theorem Legal.references_bare (h : s.Legal) (rest : Text) :
    references (s.name ++ tagEnd true ++ rest) = references rest := by
  rw [List.append_assoc, references_tag h.name rfl (by decide) (by decide)]
  rfl

/-- **The law of a descriptor**: what stands behind the path may as well be left out, but for the
way in which the tag is taken to end. -/
theorem Legal.extract_eq (h : s.Legal) (legal : ∀ b ∈ more, b.Legal) (closed : Bool) :
    extract (s.text more closed) = extract (s.text [] (s.closes more closed)) := by
  obtain ⟨attributes, read⟩ := h.exists_references_tag
  have none : ∀ b ∈ ([] : List Attribute), b.Legal := fun b mem => absurd mem List.not_mem_nil
  refine h.extract_congr (h.isTag legal closed) (h.isTag none _) ?_
  have ends : s.closes [] (s.closes more closed) = s.closes more closed := by
    rw [closes, closes, inside_eq, inside_eq]
    by_cases mem : '>' ∈ s.upToPath
    · rw [closesItself_append_of_mem mem, closesItself_append_of_mem mem]
    · rw [closesItself_append mem (getLast?_attributesText_ne _)]
      exact closesItself_tagEnd h.gap _
  rw [read more closed _ legal, read [] _ _ none, ends]

/-- Without closing angle brackets in its values a tag is taken to end as it is written. -/
theorem Legal.closes_eq (h : s.Legal)
    (absent : '>' ∉ attributesText (s.before ++ s.path :: more)) (closed : Bool) :
    s.closes more closed = closed := by
  rw [closes, inside, tagInside, closesItself_append absent (getLast?_attributesText_ne _),
    closesItself_tagEnd h.gap]

/-- **One more attribute behind the path.** It changes nothing unless the first closing angle
bracket of the tag is in its value, and the tag closes itself there and not at its end, or the other
way round. If the first one is in its value, the references are those of a tag that ends so; if the
tag does not close itself there and no closing tag follows, they are those of a tag without
attributes, so the reference is lost. -/
theorem extract_insert (h : s.Legal) {between after : List Attribute} {a : Attribute}
    (legal : ∀ b ∈ between ++ a :: after, b.Legal) (closed : Bool) :
    (('>' ∈ a.value → '>' ∉ attributesText (s.before ++ s.path :: between) →
        closesItself a.value = s.closes (between ++ after) closed) →
      extract (s.text (between ++ a :: after) closed) =
        extract (s.text (between ++ after) closed)) ∧
    ('>' ∉ attributesText (s.before ++ s.path :: (between ++ after)) →
      s.closes (between ++ after) closed = closed) ∧
    ('>' ∈ a.value → '>' ∉ attributesText (s.before ++ s.path :: between) →
      extract (s.text (between ++ a :: after) closed) =
        extract (s.text [] (closesItself a.value)) ∧
      (closesItself a.value = false → ¬ Text.Mentions tagClosing (maskComments s.back) →
        extract (s.text (between ++ a :: after) closed) =
          extract (s.around (s.name ++ tagEnd true)))) := by
  have legal' : ∀ b ∈ between ++ after, b.Legal := fun b mem => legal b (by
    simp only [List.mem_append, List.mem_cons] at mem ⊢
    tauto)
  have own : a.Legal := legal a (by simp)
  have split : ∀ bs, s.inside (between ++ bs) closed =
      tagInside ((s.before ++ s.path :: between) ++ bs) s.gap closed := fun bs => by simp [inside]
  have decides (mem : '>' ∈ a.value)
      (absent : '>' ∉ attributesText (s.before ++ s.path :: between)) :
      s.closes (between ++ a :: after) closed = closesItself a.value := by
    rw [closes, split, closesItself_of_mem _ _ own _ _ absent mem]
  refine ⟨fun same => ?_, fun absent => h.closes_eq absent closed, fun mem absent =>
    ⟨?_, fun opened none => ?_⟩⟩
  · -- The tag is taken to end as before.
    have ends : s.closes (between ++ a :: after) closed = s.closes (between ++ after) closed := by
      by_cases mem : '>' ∈ a.value
      · by_cases front : '>' ∈ attributesText (s.before ++ s.path :: between)
        · rw [closes, closes, split, split, tagInside_append, tagInside_append,
            closesItself_append_of_mem front, closesItself_append_of_mem front]
        · rw [decides mem front, same mem front]
      · rw [closes, closes, split, split, closesItself_insert _ _ own _ _ mem]
    rw [h.extract_eq legal closed, h.extract_eq legal' closed, ends]
  · rw [h.extract_eq legal closed, decides mem absent]
  · refine h.extract_congr (h.isTag legal closed) ⟨s.name, tagEnd true, rfl, h.name, by decide⟩ ?_
    obtain ⟨attributes, read⟩ := h.exists_references_tag
    rw [read _ _ _ legal, decides mem absent, opened, h.references_bare, referencesFrom,
      cutClosing?_eq_none none]
    rfl

/-! ### Samples -/

/-- An element with a body, behind a comment and a tag that is taken to end too early. -/
def conditionSite : Site where
  front := [("\n".toList, .comment "'".toList),
    ([], .opening "<projectREFERENCE".toList
      [⟨"\t".toList, "A".toList, [], [], .single, "/>".toList⟩] [] false)]
  filler := ['>']
  name := "<ProjectReference".toList
  before := []
  path := ⟨" ".toList, "INCLUDE".toList, " ".toList, [], .single, "A.csproj ".toList⟩
  gap := " ".toList
  back := "</ProjectReference>".toList

/-- A condition with two closing angle brackets, a slash in front of the second one. -/
def condition : Attribute where
  gap := " ".toList
  name := "Condition".toList
  left := []
  right := []
  quote := .double
  value := "1>0/>".toList

theorem extract_insert_conditionSite : conditionSite.Legal ∧ condition.Legal ∧
    extract (conditionSite.text [condition] false) = [⟨"A.csproj".toList, none⟩] := by
  have site : conditionSite.Legal := by decide +kernel
  have own : condition.Legal := by decide +kernel
  have legal : ∀ b ∈ ([] : List Attribute) ++ condition :: [], b.Legal := by simpa using own
  obtain ⟨unchanged, -⟩ := extract_insert site legal false
  exact ⟨site, own, (unchanged (by decide +kernel)).trans (by decide +kernel)⟩

/-- Two conditions that change the reference: the value of one has a closing angle bracket, the
other closes quotes that are open since a value in front of the path. -/
theorem extract_insert_misread :
    (extract "<ProjectReference Include=\"../a.csproj\"/>".toList = [⟨"../a.csproj".toList, none⟩] ∧
      extract "<ProjectReference Include=\"../a.csproj\" Condition=\"1>0\"/>".toList = []) ∧
    extract "<ProjectReference Label=\"include='\" Include=\"../a.csproj\"/>".toList =
      [⟨"../a.csproj".toList, none⟩] ∧
    extract ("<ProjectReference Label=\"include='\" Include=\"../a.csproj\"".toList ++
        " Condition=\"'1'\"/>".toList) =
      [⟨"\" Include=\"../a.csproj\" Condition=\"".toList, none⟩] := by
  decide +kernel

end Site

end SolutionSweep.Descriptor
