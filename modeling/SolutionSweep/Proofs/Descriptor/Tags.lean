import SolutionSweep.Proofs.Descriptor.Extraction

/-!
# What a tag does to the text around it

The searches for elements, closing tags and identifiers go from the left to the right, and none of
them stops halfway in an opening tag. So an opening tag is where one of them begins, or it lies in
the body of another element as a whole. If every tag in front of them comes to its end, two opening
tags that are the same to what follows are the same to the whole text.

* `references`: the references of a text without comments;
* `IsTag`, `Sealed`: opening tags, texts in which every opening tag comes to its end;
* `declared?_append_tag`, `cutClosing?_append_tag`: the searches in front of a tag;
* `references_append_congr`: an opening tag in the middle of a text;
* `references_tag`: an opening tag at the beginning of a text.
-/

namespace SolutionSweep.Descriptor

open ProjectReference

/-! ### References of a text -/

/-- The references of a text in which comments do not count. -/
def references (t : Text) : List ProjectReference := (elements t).filterMap ofElement?

theorem references_of_some {t after : Text} {e : ProjectReference.Element}
    (h : element? t = some (e, after)) :
    references t = (ofElement? e).toList ++ references after := by
  rw [references, elements_of_element? h]
  cases here : ofElement? e with
  | none => simp [here, references]
  | some r => simp [here, references]

theorem references_append {t rest : Text} (passed : Text.PassedBy element? t rest) :
    references (t ++ rest) = references rest := by
  rw [references, elements_append passed, references]

theorem references_cons_of_none {c : Char} {t : Text} (h : element? (c :: t) = none) :
    references (c :: t) = references t := by
  have passed : Text.PassedBy element? [c] t :=
    Text.PassedBy.cons_iff.2 ⟨h, fun b ne suffix => absurd (List.suffix_nil.1 suffix) ne⟩
  exact references_append passed

/-! ### Angle brackets -/

/-- A recogniser that begins with an angle bracket passes by a text without one. -/
theorem passedBy_of_not_mem {α : Type} {f : Text → Option α} {t : Text}
    (own : ∀ s a, f s = some a → s.head? = some '<') (absent : '<' ∉ t) (rest : Text) :
    Text.PassedBy f t rest := by
  intro b ne suffix
  obtain ⟨c, b, rfl⟩ := List.exists_cons_of_ne_nil ne
  by_contra found
  obtain ⟨a, found⟩ := Option.ne_none_iff_exists'.1 found
  obtain rfl : c = '<' := Option.some.inj (own _ _ found)
  exact absent (suffix.subset List.mem_cons_self)

/-- A recogniser that begins with an angle bracket passes by a text that begins with the only one if
it does not recognise anything there. -/
theorem passedBy_cons {α : Type} {f : Text → Option α} {c : Char} {t rest : Text}
    (own : ∀ s a, f s = some a → s.head? = some '<') (here : f (c :: (t ++ rest)) = none)
    (absent : '<' ∉ t) : Text.PassedBy f (c :: t) rest :=
  Text.PassedBy.cons_iff.2 ⟨here, passedBy_of_not_mem own absent rest⟩

/-- Each angle bracket but one at the beginning opens a closing tag. -/
def OpensOnce (m : Text) : Prop :=
  ∀ u v, m = u ++ '<' :: v → u = [] ∨ v.head? = some '/'

theorem opensOnce_cons {c : Char} {m : Text} (absent : '<' ∉ m) : OpensOnce (c :: m) := by
  intro u v eq
  cases u with
  | nil => exact .inl rfl
  | cons d u =>
    obtain ⟨-, rfl⟩ := List.cons.inj eq
    simp at absent

theorem opensOnce_append {c : Char} {front back : Text} (plain : '<' ∉ front) (plain' : '<' ∉ back)
    (slash : back.head? = some '/') : OpensOnce (c :: (front ++ '<' :: back)) := by
  intro u v eq
  cases u with
  | nil => exact .inl rfl
  | cons d u =>
    obtain ⟨-, -, rfl⟩ := (List.append_cons_inj_of_notMem plain plain').1 (List.cons.inj eq).2
    exact .inr slash

/-- The beginnings of tags that are looked for. -/
def marks : List Text := [tagOpening, tagClosing, idOpening, idClosing]

theorem isLetterIgnoringCase_bracket :
    ∀ mark ∈ marks, mark.tail.all (fun m => !isLetterIgnoringCase m '<') = true := by
  decide +kernel

/-- A mark is spelled with an angle bracket at its beginning and no other one. -/
theorem exists_cons_of_spells {mark w : Text} (h : Text.Spells mark w) (known : mark ∈ marks) :
    ∃ t, w = '<' :: t ∧ Text.Spells mark.tail t ∧ '<' ∉ t := by
  have plain := isLetterIgnoringCase_bracket mark known
  have opens : ∀ mark ∈ marks, mark.head? = some '<' := by decide
  obtain ⟨word, rfl⟩ := List.head?_eq_some_iff.1 (opens mark known)
  cases h with
  | @cons _ _ _ t first tail =>
    rw [eq_of_isLetterIgnoringCase (by decide) first]
    exact ⟨t, rfl, tail, Text.Spells.not_mem tail plain⟩

/-- The name of an opening tag begins with a letter. -/
theorem exists_cons_of_tagOpening {name : Text} (h : Text.Spells tagOpening name) :
    ∃ c u, name = '<' :: c :: u ∧ isWord c = true ∧ '<' ∉ c :: u := by
  obtain ⟨t, rfl, tail, plain⟩ := exists_cons_of_spells h (by simp [marks])
  cases tail with
  | @cons _ c _ u first _ =>
    exact ⟨c, u, rfl, isWord_of_isLetterIgnoringCase (by decide) first, plain⟩

/-- The name of a closing tag begins with a slash. -/
theorem exists_cons_of_tagClosing {name : Text} (h : Text.Spells tagClosing name) :
    ∃ u, name = '<' :: '/' :: u ∧ '<' ∉ '/' :: u := by
  obtain ⟨t, rfl, tail, plain⟩ := exists_cons_of_spells h (by simp [marks])
  cases tail with
  | @cons _ c _ u first _ =>
    obtain rfl := eq_of_isLetterIgnoringCase (by decide) first
    exact ⟨u, rfl, plain⟩

/-! ### Tags -/

/-- An opening tag: its name in some letter case, and no other tag in what follows. -/
def IsTag (t : Text) : Prop :=
  ∃ name inside, t = name ++ inside ∧ Text.Spells tagOpening name ∧ '<' ∉ inside

namespace IsTag

variable {t : Text}

theorem exists_cons (h : IsTag t) :
    ∃ c u, t = '<' :: c :: u ∧ isWord c = true ∧ '<' ∉ c :: u := by
  obtain ⟨name, inside, rfl, spells, absent⟩ := h
  obtain ⟨c, u, rfl, word, plain⟩ := exists_cons_of_tagOpening spells
  refine ⟨c, u ++ inside, rfl, word, ?_⟩
  rw [← List.cons_append, List.mem_append, not_or]
  exact ⟨plain, absent⟩

/-- What is read in front of a tag lies in front of it. -/
theorem within (h : IsTag t) {m after s rest : Text} (once : OpensOnce m) (ne : s ≠ [])
    (eq : m ++ after = s ++ (t ++ rest)) : ∃ s', s = m ++ s' ∧ after = s' ++ (t ++ rest) := by
  obtain ⟨c, u, rfl, word, -⟩ := h.exists_cons
  rcases List.append_eq_append_iff.1 eq with ⟨z, rfl, behind⟩ | ⟨z, rfl, tag⟩
  · exact ⟨z, rfl, behind⟩
  · cases z with
    | nil => exact ⟨[], by simp, tag.symm⟩
    | cons d z =>
      -- The second tag of what is read would be this one.
      obtain ⟨rfl, behind⟩ := List.cons.inj tag
      obtain ⟨z, rfl⟩ := List.head?_eq_some_iff.1 ((once s z rfl).resolve_left ne)
      obtain rfl := (List.cons.inj behind).1
      exact absurd word (by decide)

end IsTag

/-! ### Closing tags -/

theorem head?_of_closingHere? {t after : Text} (h : closingHere? t = some after) :
    t.head? = some '<' := by
  obtain ⟨w, back, rfl, spells⟩ := exists_of_closingHere? h
  exact spells.head?_append (by decide) back

/-- No closing tag is found in a text without one. -/
theorem cutClosing?_eq_none {t : Text} (absent : ¬ Text.Mentions tagClosing t) :
    cutClosing? t = none := by
  have passed : Text.PassedBy closingHere? t [] :=
    Text.passedBy_of_head (fun _ _ => exists_of_closingHere?)
      (fun w spells inside => absent ⟨w, spells, inside⟩) nofun
  have whole := cutClosing?_append passed
  rwa [List.append_nil] at whole

/-- A closing tag is read alike whatever follows it. -/
theorem exists_closing_of_closingHere? {t after : Text} (h : closingHere? t = some after) :
    ∃ m, t = m ++ after ∧ OpensOnce m ∧ ∀ rest, closingHere? (m ++ rest) = some rest := by
  simp only [closingHere?, Option.bind_eq_bind, Option.bind_eq_some_iff] at h
  obtain ⟨back, word, ends⟩ := h
  obtain ⟨w, rfl, spells⟩ := Text.afterIgnoringCase?_eq_some_iff.1 word
  have skipped : Text.skipWhite back = '>' :: after := Text.after?_eq_some_iff.1 ends
  have blank := Text.isBlank_takeWhile back
  refine ⟨w ++ (back.takeWhile isWhite ++ ['>']), ?_, ?_, fun rest => ?_⟩
  · rw [List.append_assoc, List.append_assoc, List.singleton_append, ← skipped,
      Text.takeWhile_append_skipWhite]
  · obtain ⟨w, rfl, plain⟩ := exists_cons_of_tagClosing spells
    have white := Text.not_mem_of_isBlank blank (c := '<') (by decide)
    refine opensOnce_cons ?_
    simpa [white] using plain
  · have gap := Text.skipWhite_append_cons blank (c := '>') (by decide) rest
    simp [closingHere?, spells.afterIgnoringCase?, gap, Text.after?]

/-- No closing tag begins in an opening one. -/
theorem IsTag.cutClosing?_append {t : Text} (h : IsTag t) (rest : Text) :
    cutClosing? (t ++ rest) = (cutClosing? rest).map fun (body, after) => (t ++ body, after) := by
  obtain ⟨c, u, rfl, word, absent⟩ := h.exists_cons
  refine Descriptor.cutClosing?_append (passedBy_cons (fun _ _ => head?_of_closingHere?) ?_ absent)
  by_contra found
  obtain ⟨after, found⟩ := Option.ne_none_iff_exists'.1 found
  obtain ⟨w, back, eq, spells⟩ := exists_of_closingHere? found
  obtain ⟨w, rfl, -⟩ := exists_cons_of_tagClosing spells
  obtain rfl := (List.cons.inj (List.cons.inj eq).2).1
  exact absurd word (by decide)

/-- **The search for a closing tag ends in front of an opening tag or goes on behind it.** -/
theorem cutClosing?_append_tag (s : Text) :
    (∃ body s', s' <:+ s ∧ ∀ t rest, IsTag t →
      cutClosing? (s ++ (t ++ rest)) = some (body, s' ++ (t ++ rest))) ∨
    ∀ t rest, IsTag t → cutClosing? (s ++ (t ++ rest)) =
      (cutClosing? rest).map fun (body, after) => (s ++ (t ++ body), after) := by
  induction s with
  | nil => exact .inr fun t rest tag => tag.cutClosing?_append rest
  | cons c s ih =>
    by_cases here : ∃ m s', c :: s = m ++ s' ∧ ∀ rest, closingHere? (m ++ rest) = some rest
    · obtain ⟨m, s', eq, read⟩ := here
      refine .inl ⟨[], s', ⟨m, eq.symm⟩, fun t rest _ => cutClosing?_of_closingHere? ?_⟩
      rw [eq, List.append_assoc, read]
    · have none : ∀ t rest, IsTag t → closingHere? (c :: (s ++ (t ++ rest))) = none := by
        intro t rest tag
        by_contra found
        obtain ⟨after, found⟩ := Option.ne_none_iff_exists'.1 found
        obtain ⟨m, eq, once, read⟩ := exists_closing_of_closingHere? found
        obtain ⟨s', parts, -⟩ := tag.within once (List.cons_ne_nil c s) eq.symm
        exact here ⟨m, s', parts, read⟩
      rcases ih with ⟨body, s', suffix, found⟩ | passed
      · refine .inl ⟨c :: body, s', suffix.trans (List.suffix_cons c s), fun t rest tag => ?_⟩
        rw [List.cons_append, cutClosing?, none t rest tag, found t rest tag]
        rfl
      · refine .inr fun t rest tag => ?_
        rw [List.cons_append, cutClosing?, none t rest tag, passed t rest tag, Option.map_map]
        rfl

/-! ### Declared identifiers -/

theorem head?_of_declaredHere? {t : Text} {id : EntryId} (h : declaredHere? t = some id) :
    t.head? = some '<' := by
  obtain ⟨d, rest, wellFormed, rfl⟩ := DeclaredId.exists_of_declaredHere? h
  rw [DeclaredId.text, List.append_assoc]
  exact wellFormed.opening.head?_append (by decide) _

/-- The element of an identifier has two tags, and the second one is a closing tag. -/
theorem DeclaredId.WellFormed.opensOnce_text {d : DeclaredId} (h : d.WellFormed) :
    OpensOnce d.text := by
  obtain ⟨opening, opens, -, plain⟩ := exists_cons_of_spells h.opening (by simp [marks])
  obtain ⟨closing, closes, tail, plain'⟩ := exists_cons_of_spells h.closing (by simp [marks])
  have slash : closing.head? = some '/' := by
    have := Text.Spells.head?_append tail (by decide) []
    rwa [List.append_nil] at this
  have id : '<' ∉ d.id := fun mem => by
    have steady := List.all_eq_true.1 (Bool.and_eq_true_iff.1 h.id).2 '<' mem
    exact absurd steady (by decide)
  have left := Text.not_mem_of_isBlank h.left (c := '<') (by decide)
  have right := Text.not_mem_of_isBlank h.right (c := '<') (by decide)
  have parts : d.text = '<' :: ((opening ++ (d.left ++ ((if d.braceLeft then ['{'] else []) ++
      (d.id ++ ((if d.braceRight then ['}'] else []) ++ d.right))))) ++ '<' :: closing) := by
    simp [DeclaredId.text, opens, closes]
  rw [parts]
  refine opensOnce_append ?_ plain' slash
  cases d.braceLeft <;> cases d.braceRight <;> simp [plain, left, id, right]

/-- The tag of an identifier ends where the name of an opening tag goes on. -/
theorem declaredHere?_tag {name : Text} (spells : Text.Spells tagOpening name) (rest : Text) :
    declaredHere? (name ++ rest) = none := by
  by_contra found
  obtain ⟨id, found⟩ := Option.ne_none_iff_exists'.1 found
  obtain ⟨d, after, wellFormed, eq⟩ := DeclaredId.exists_of_declaredHere? found
  have short : d.opening.length ≤ name.length := by
    rw [← spells.length_eq, ← wellFormed.opening.length_eq]
    decide
  have opens : d.opening <+: name ++ rest := by
    rw [eq, DeclaredId.text, List.append_assoc]
    exact List.prefix_append _ _
  have front := List.prefix_of_prefix_length_le opens (List.prefix_append name rest) short
  have ends : '>' ∈ name := front.subset (wellFormed.opening.mem (by decide) (by decide))
  exact spells.not_mem (by decide +kernel) ends

/-- No identifier is declared by an opening tag. -/
theorem IsTag.declared?_append {t : Text} (h : IsTag t) (rest : Text) :
    declared? (t ++ rest) = declared? rest := by
  obtain ⟨name, inside, rfl, spells, absent⟩ := h
  obtain ⟨c, u, rfl, -, plain⟩ := exists_cons_of_tagOpening spells
  have here := declaredHere?_tag spells (inside ++ rest)
  rw [List.cons_append, ← List.append_assoc] at here
  exact Descriptor.declared?_append (passedBy_cons (fun _ _ => head?_of_declaredHere?) here
    (by simpa [absent] using plain))

/-- **The search for an identifier does not depend on the attributes of a tag on its way.** -/
theorem declared?_append_tag (s : Text) {t t' : Text} (tag : IsTag t) (tag' : IsTag t')
    (rest : Text) : declared? (s ++ (t ++ rest)) = declared? (s ++ (t' ++ rest)) := by
  -- What is read in front of one tag is read in front of the other.
  have read : ∀ s, s ≠ [] → ∀ t t', IsTag t → IsTag t' → ∀ id,
      declaredHere? (s ++ (t ++ rest)) = some id → declaredHere? (s ++ (t' ++ rest)) = some id := by
    intro s ne t t' tag tag' id found
    obtain ⟨d, after, wellFormed, eq⟩ := DeclaredId.exists_of_declaredHere? found
    obtain ⟨s', rfl, -⟩ := tag.within wellFormed.opensOnce_text ne eq.symm
    rw [List.append_assoc, DeclaredId.declaredHere?_text wellFormed] at found ⊢
    exact found
  induction s with
  | nil => rw [List.nil_append, List.nil_append, tag.declared?_append, tag'.declared?_append]
  | cons c s ih =>
    have here : declaredHere? (c :: (s ++ (t ++ rest))) =
        declaredHere? (c :: (s ++ (t' ++ rest))) :=
      Option.ext fun id => ⟨read _ (List.cons_ne_nil c s) t t' tag tag' id,
        read _ (List.cons_ne_nil c s) t' t tag' tag id⟩
    rw [List.cons_append, List.cons_append, declared?, declared?, here, ih]

/-! ### Texts that leave no tag open -/

/-- Wherever an opening tag begins in a text, it ends in the text. -/
def Sealed (t : Text) : Prop :=
  ∀ b tail, b <:+ t → Text.afterIgnoringCase? tagOpening b = some tail → endsWord tail = true →
    '>' ∈ tail

theorem Sealed.of_suffix {s t : Text} (h : Sealed t) (suffix : s <:+ t) : Sealed s :=
  fun b tail inside => h b tail (inside.trans suffix)

/-- The name of a tag that begins in front of an opening tag lies in front of it. -/
theorem IsTag.exists_of_afterIgnoringCase? {t s rest back : Text} (h : IsTag t) (ne : s ≠ [])
    (opened : Text.afterIgnoringCase? tagOpening (s ++ (t ++ rest)) = some back) :
    ∃ tail, Text.afterIgnoringCase? tagOpening s = some tail ∧ back = tail ++ (t ++ rest) := by
  obtain ⟨w, eq, spells⟩ := Text.afterIgnoringCase?_eq_some_iff.1 opened
  have once : OpensOnce w := by
    obtain ⟨c, u, rfl, -, plain⟩ := exists_cons_of_tagOpening spells
    exact opensOnce_cons plain
  obtain ⟨tail, rfl, behind⟩ := h.within once ne eq.symm
  exact ⟨tail, spells.afterIgnoringCase? tail, behind⟩

/-- Whether a word ends is told by the next character. -/
theorem endsWord_append {s : Text} (ne : s ≠ []) (t : Text) : endsWord (s ++ t) = endsWord s := by
  cases s with
  | nil => exact absurd rfl ne
  | cons c s => rfl

/-- A tag whose name is a longer word is no opening tag of a reference. -/
theorem element?_of_endsWord {t tail : Text}
    (opened : Text.afterIgnoringCase? tagOpening t = some tail)
    (longer : endsWord tail = false) : element? t = none := by
  simp [element?, opened, longer]

/-- An opening tag is read in the same way whatever follows it. -/
theorem element?_tag_append {name x y : Text} (spells : Text.Spells tagOpening name)
    (absent : '>' ∉ x) (apart : endsWord (x ++ '>' :: y) = true) (u : Text) :
    element? (name ++ (x ++ '>' :: y) ++ u) =
      if x.getLast? = some '/' then some (⟨x.dropLast, none⟩, y ++ u)
      else (cutClosing? (y ++ u)).map fun (body, after) => (⟨x, some body⟩, after) := by
  have apart' : endsWord (x ++ '>' :: (y ++ u)) = true := by
    rw [← List.cons_append, ← List.append_assoc, endsWord_append (by simp)]
    exact apart
  rw [List.append_assoc, List.append_assoc, List.cons_append, element?_tag spells absent apart']

/-- **What begins in front of an opening tag** is an element that ends in front of it, or an element
with this tag in its body, or nothing. -/
theorem element?_append_tag {s : Text} (ne : s ≠ []) (closed : Sealed s) :
    (∃ e s', s' <:+ s ∧ s'.length < s.length ∧ ∀ t rest, IsTag t →
      element? (s ++ (t ++ rest)) = some (e, s' ++ (t ++ rest))) ∨
    (∃ x y, ∀ t rest, IsTag t → element? (s ++ (t ++ rest)) =
      (cutClosing? rest).map fun (body, after) => (⟨x, some (y ++ (t ++ body))⟩, after)) ∨
    ∀ t rest, IsTag t → element? (s ++ (t ++ rest)) = none := by
  by_cases opened : ∃ tail, Text.afterIgnoringCase? tagOpening s = some tail ∧
      endsWord tail = true
  · obtain ⟨tail, opened, ends⟩ := opened
    obtain ⟨x, y, rfl, absent⟩ :=
      List.eq_append_cons_of_mem (closed s tail List.suffix_rfl opened ends)
    obtain ⟨w, rfl, spells⟩ := Text.afterIgnoringCase?_eq_some_iff.1 opened
    have read := element?_tag_append spells absent ends
    have behind : y <:+ w ++ (x ++ '>' :: y) := ⟨w ++ (x ++ ['>']), by simp⟩
    have shorter : y.length < (w ++ (x ++ '>' :: y)).length := by
      simp only [List.length_append, List.length_cons]
      omega
    by_cases slash : x.getLast? = some '/'
    · exact .inl ⟨_, y, behind, shorter, fun t rest _ => (read _).trans (if_pos slash)⟩
    · rcases cutClosing?_append_tag y with ⟨body, s', suffix, found⟩ | passed
      · refine .inl ⟨⟨x, some body⟩, s', suffix.trans behind,
          Nat.lt_of_le_of_lt suffix.length_le shorter, fun t rest tag => ?_⟩
        rw [read, if_neg slash, found t rest tag, Option.map_some]
      · refine .inr (.inl ⟨x, y, fun t rest tag => ?_⟩)
        rw [read, if_neg slash, passed t rest tag, Option.map_map]
        rfl
  · refine .inr (.inr fun t rest tag => ?_)
    cases begins : Text.afterIgnoringCase? tagOpening (s ++ (t ++ rest)) with
    | none => simp [element?, begins]
    | some back =>
      obtain ⟨tail, read, rfl⟩ := tag.exists_of_afterIgnoringCase? ne begins
      have longer : endsWord tail = false := by
        by_contra ends
        exact opened ⟨tail, read, by simpa using ends⟩
      have inside : tail ≠ [] := by
        rintro rfl
        cases longer
      exact element?_of_endsWord begins ((endsWord_append inside _).trans longer)

/-- **An opening tag in the middle of a text.** If two tags are the same to what follows them, they
are the same to a text in which no tag in front is left open. -/
theorem references_append_congr {t t' rest : Text} (tag : IsTag t) (tag' : IsTag t')
    (same : references (t ++ rest) = references (t' ++ rest)) {s : Text} (closed : Sealed s) :
    references (s ++ (t ++ rest)) = references (s ++ (t' ++ rest)) := by
  induction hn : s.length using Nat.strong_induction_on generalizing s with
  | _ n ih =>
    subst hn
    cases s with
    | nil => exact same
    | cons c s =>
      have skip (none : ∀ u, IsTag u → element? (c :: s ++ (u ++ rest)) = none) :
          references (c :: s ++ (t ++ rest)) = references (c :: s ++ (t' ++ rest)) := by
        have later := ih _ (Nat.lt_succ_self _) (closed.of_suffix (List.suffix_cons c s)) rfl
        exact (references_cons_of_none (none t tag)).trans
          (later.trans (references_cons_of_none (none t' tag')).symm)
      rcases element?_append_tag (List.cons_ne_nil c s) closed with
        ⟨e, s', suffix, shorter, here⟩ | ⟨x, y, here⟩ | none
      · rw [references_of_some (here t rest tag), references_of_some (here t' rest tag'),
          ih _ shorter (closed.of_suffix suffix) rfl]
      · cases cut : cutClosing? rest with
        | none => exact skip fun u tag => (here u rest tag).trans (by rw [cut]; rfl)
        | some parts =>
          obtain ⟨body, after⟩ := parts
          have found : ∀ u, IsTag u → element? (c :: s ++ (u ++ rest)) =
              some (⟨x, some (y ++ (u ++ body))⟩, after) :=
            fun u tag => (here u rest tag).trans (by rw [cut]; rfl)
          have reference : ofElement? ⟨x, some (y ++ (t ++ body))⟩ =
              ofElement? ⟨x, some (y ++ (t' ++ body))⟩ := by
            simp only [ofElement?, Option.bind_some, declared?_append_tag y tag tag' body]
          rw [references_of_some (found t tag), references_of_some (found t' tag'), reference]
      · exact skip fun u => none u rest

/-! ### An opening tag at the beginning -/

/-- What is taken for the attributes of a tag, and a slash behind them: the text in front of the
first closing angle bracket, wherever that is. -/
def seenPart (inside : Text) : Text := inside.takeWhile (· != '>')

/-- Whether a tag is taken to close itself. -/
def closesItself (inside : Text) : Bool := (seenPart inside).getLast? == some '/'

/-- What is taken for the attributes of a tag. -/
def seenAttributes (inside : Text) : Text :=
  if closesItself inside then (seenPart inside).dropLast else seenPart inside

/-- The references from an opening tag on: a tag that closes itself is an element, another one takes
what follows up to a closing tag, or is passed over if there is none. -/
def referencesFrom (attributes : Text) (closed : Bool) (rest : Text) : List ProjectReference :=
  if closed then (ofElement? ⟨attributes, none⟩).toList ++ references rest
  else match cutClosing? rest with
    | some (body, after) => (ofElement? ⟨attributes, some body⟩).toList ++ references after
    | none => references rest

theorem referencesFrom_congr {s t : Text}
    (same : ∀ body, ofElement? ⟨s, body⟩ = ofElement? ⟨t, body⟩) (closed : Bool) (rest : Text) :
    referencesFrom s closed rest = referencesFrom t closed rest := by
  simp only [referencesFrom, same]

theorem seenPart_append {s t : Text} (absent : '>' ∉ s) : seenPart (s ++ t) = s ++ seenPart t := by
  refine List.takeWhile_append_of_pos fun c mem => ?_
  rw [bne_iff_ne]
  rintro rfl
  exact absent mem

theorem seenPart_cons (t : Text) : seenPart ('>' :: t) = [] := rfl

theorem seenPart_append_of_mem {s : Text} (mem : '>' ∈ s) (t : Text) :
    seenPart (s ++ t) = seenPart s := by
  obtain ⟨x, y, rfl, absent⟩ := List.eq_append_cons_of_mem mem
  rw [List.append_assoc, seenPart_append absent, List.cons_append, seenPart_cons,
    seenPart_append absent, seenPart_cons]

theorem head?_of_element? {t : Text} {found : ProjectReference.Element × Text}
    (h : element? t = some found) : t.head? = some '<' := by
  obtain ⟨w, back, rfl, spells⟩ := Element.exists_of_element? h
  exact spells.head?_append (by decide) back

/-- **What an opening tag does.** -/
theorem references_tag {name inside : Text} (spells : Text.Spells tagOpening name)
    (apart : endsWord inside = true) (ends : '>' ∈ inside) (plain : '<' ∉ inside) (rest : Text) :
    references (name ++ (inside ++ rest)) =
      referencesFrom (seenAttributes inside) (closesItself inside) rest := by
  obtain ⟨x, y, rfl, absent⟩ := List.eq_append_cons_of_mem ends
  obtain ⟨plain, plain'⟩ : '<' ∉ x ∧ '<' ∉ y := by simpa using plain
  have seen : seenPart (x ++ '>' :: y) = x := by
    rw [seenPart_append absent, seenPart_cons, List.append_nil]
  have read := element?_tag_append spells absent apart rest
  rw [← List.append_assoc]
  by_cases slash : x.getLast? = some '/'
  · rw [references_of_some (read.trans (if_pos slash)),
      references_append (passedBy_of_not_mem (fun _ _ => head?_of_element?) plain' rest)]
    simp [referencesFrom, seenAttributes, closesItself, seen, slash]
  · have cut : cutClosing? (y ++ rest) =
        (cutClosing? rest).map fun (body, after) => (y ++ body, after) :=
      cutClosing?_append (passedBy_of_not_mem (fun _ _ => head?_of_closingHere?) plain' rest)
    rw [if_neg slash, cut] at read
    simp only [referencesFrom, seenAttributes, closesItself, seen, beq_eq_false_iff_ne.2 slash,
      Bool.false_eq_true, if_false]
    cases closing : cutClosing? rest with
    | none =>
      rw [closing] at read
      obtain ⟨c, u, rfl, -, plain''⟩ := exists_cons_of_tagOpening spells
      refine references_append (passedBy_cons (fun _ _ => head?_of_element?) read ?_)
      simpa [plain, plain'] using plain''
    | some parts =>
      obtain ⟨body, after⟩ := parts
      rw [closing] at read
      have declared : declared? (y ++ body) = declared? body :=
        declared?_append (passedBy_of_not_mem (fun _ _ => head?_of_declaredHere?) plain' body)
      rw [references_of_some read]
      simp only [ofElement?, Option.bind_some, declared]

end SolutionSweep.Descriptor
