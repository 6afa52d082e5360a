import SolutionSweep.Proofs.Manifest.Rendering

/-!
# Reading a document, writing it and reading it again

What is read from a text is the text with unified line breaks, cut into lines. It is written with
line breaks of one kind, so reading what has been written gives the same document. The text itself
comes back if it had line breaks of this kind only.

* `Text.HasPair`, `Text.HasLoneReturn`, `Text.HasLoneFeed`: the line breaks of a text;
* `Text.writeBreaks`: a text with unified line breaks, written with breaks of one kind;
* `Document.render_ofText`: how a document that has been read is written;
* `Document.round_trip`: reading again, and which texts are written as they were.
-/

namespace SolutionSweep

namespace Text

/-- A carriage return is followed by a line feed somewhere. -/
def HasPair (t : Text) : Prop := ['\r', '\n'] <:+: t

/-- A carriage return stands somewhere without a line feed behind it. -/
def HasLoneReturn (t : Text) : Prop :=
  ∃ before rest, t = before ++ '\r' :: rest ∧ rest.head? ≠ some '\n'

/-- A line feed stands somewhere without a carriage return in front of it. -/
def HasLoneFeed (t : Text) : Prop :=
  ∃ before rest, t = before ++ '\n' :: rest ∧ before.getLast? ≠ some '\r'

/-- The text with each line feed written as a line break of a kind. -/
def writeBreaks (n : Newline) (t : Text) : Text :=
  t.flatMap fun c => if c = '\n' then n.text else [c]

/-! ### Which line breaks a text has -/

theorem hasPairedBreak_iff {t : Text} : hasPairedBreak t = true ↔ HasPair t := by
  constructor
  · intro paired
    fun_induction hasPairedBreak t with
    | case1 => cases paired
    | case2 rest => exact ⟨[], rest, rfl⟩
    | case3 c rest _ ih => exact (ih paired).trans (List.suffix_cons c rest).isInfix
  · rintro ⟨before, rest, rfl⟩
    rw [List.append_assoc]
    exact hasPairedBreak_append before rest

theorem not_hasLoneReturn_nil : ¬ HasLoneReturn [] := by
  rintro ⟨before, rest, eq, -⟩
  cases before <;> cases eq

theorem not_hasLoneFeed_nil : ¬ HasLoneFeed [] := by
  rintro ⟨before, rest, eq, -⟩
  cases before <;> cases eq

/-- A carriage return stands alone in front, or farther behind. -/
theorem hasLoneReturn_cons {c : Char} {rest : Text} :
    HasLoneReturn (c :: rest) ↔ c = '\r' ∧ rest.head? ≠ some '\n' ∨ HasLoneReturn rest := by
  constructor
  · rintro ⟨before, rest', eq, alone⟩
    cases before with
    | nil =>
      obtain ⟨rfl, rfl⟩ := List.cons.inj eq
      exact .inl ⟨rfl, alone⟩
    | cons d before =>
      obtain ⟨rfl, rfl⟩ := List.cons.inj eq
      exact .inr ⟨before, rest', rfl, alone⟩
  · rintro (⟨rfl, alone⟩ | ⟨before, rest', rfl, alone⟩)
    · exact ⟨[], rest, rfl, alone⟩
    · exact ⟨c :: before, rest', rfl, alone⟩

/-- A line feed stands alone in front, or farther behind if no carriage return is in front. -/
theorem hasLoneFeed_cons {c : Char} {rest : Text} (other : c ≠ '\r') :
    HasLoneFeed (c :: rest) ↔ c = '\n' ∨ HasLoneFeed rest := by
  constructor
  · rintro ⟨before, rest', eq, alone⟩
    cases before with
    | nil =>
      obtain ⟨rfl, rfl⟩ := List.cons.inj eq
      exact .inl rfl
    | cons d before =>
      obtain ⟨rfl, rfl⟩ := List.cons.inj eq
      refine .inr ⟨before, rest', rfl, fun last => alone ?_⟩
      rw [List.getLast?_cons, last]
      rfl
  · rintro (rfl | ⟨before, rest', rfl, alone⟩)
    · exact ⟨[], rest, rfl, by simp⟩
    · refine ⟨c :: before, rest', rfl, fun last => ?_⟩
      cases before with
      | nil => exact other (by simpa using last)
      | cons d before => exact alone (by simpa [List.getLast?_cons] using last)

/-- The line feed of a pair in front does not stand alone. -/
theorem hasLoneFeed_pair {rest : Text} :
    HasLoneFeed ('\r' :: '\n' :: rest) ↔ HasLoneFeed rest := by
  constructor
  · rintro ⟨before, rest', eq, alone⟩
    match before with
    | [] => cases eq
    | [c] =>
      obtain ⟨rfl, -⟩ := List.cons.inj eq
      exact absurd rfl alone
    | c :: d :: before =>
      obtain ⟨rfl, tail⟩ := List.cons.inj eq
      obtain ⟨rfl, rfl⟩ := List.cons.inj tail
      refine ⟨before, rest', rfl, fun last => alone ?_⟩
      rw [List.getLast?_cons, List.getLast?_cons, last]
      rfl
  · rintro ⟨before, rest', rfl, alone⟩
    refine ⟨'\r' :: '\n' :: before, rest', rfl, fun last => ?_⟩
    cases before with
    | nil => cases last
    | cons d before => exact alone (by simpa [List.getLast?_cons] using last)

/-- A pair leaves a line feed in the unified text. -/
theorem mem_unifyBreaks_of_hasPairedBreak {t : Text} (paired : hasPairedBreak t = true) :
    '\n' ∈ unifyBreaks t := by
  fun_induction hasPairedBreak t with
  | case1 => cases paired
  | case2 rest => exact List.mem_cons_self
  | case3 c rest other ih =>
    rw [unifyBreaks]
    · exact List.mem_cons_of_mem _ (ih paired)
    · exact other

/-! ### Writing line breaks -/

theorem writeBreaks_cons (n : Newline) (c : Char) (rest : Text) :
    writeBreaks n (c :: rest) = (if c = '\n' then n.text else [c]) ++ writeBreaks n rest := rfl

theorem writeBreaks_append (n : Newline) (s t : Text) :
    writeBreaks n (s ++ t) = writeBreaks n s ++ writeBreaks n t := List.flatMap_append

/-- Line feeds are written as they are. -/
theorem writeBreaks_lineFeed (t : Text) : writeBreaks .lineFeed t = t := by
  induction t with
  | nil => rfl
  | cons c rest ih =>
    rw [writeBreaks_cons, ih]
    split
    · rename_i feed
      rw [feed]
      rfl
    · rfl

/-- **Whatever line breaks are written, unifying them gives back the text.** -/
theorem unifyBreaks_writeBreaks (n : Newline) {t : Text} (clean : '\r' ∉ t) :
    unifyBreaks (writeBreaks n t) = t := by
  induction t with
  | nil => rfl
  | cons c rest ih =>
    rw [List.mem_cons, not_or] at clean
    rw [writeBreaks_cons]
    split
    · rename_i feed
      rw [unifyBreaks_newline, ih clean.2, feed]
    · rw [List.singleton_append, unifyBreaks_cons (Ne.symm clean.1), ih clean.2]

/-- A text that has line breaks shows of which kind they are written. -/
theorem hasPairedBreak_writeBreaks {t : Text} (clean : '\r' ∉ t) (n : Newline) :
    hasPairedBreak (writeBreaks n t) = decide (n = .paired ∧ '\n' ∈ t) := by
  cases n with
  | lineFeed =>
    rw [writeBreaks_lineFeed, hasPairedBreak_eq_false clean]
    rfl
  | paired =>
    by_cases feed : '\n' ∈ t
    · obtain ⟨before, rest, rfl⟩ := List.append_of_mem feed
      rw [writeBreaks_append, writeBreaks_cons, if_pos rfl]
      simpa [Newline.text] using
        hasPairedBreak_append (writeBreaks .paired before) (writeBreaks .paired rest)
    · -- Without a line feed nothing is written differently.
      have same : writeBreaks .paired t = t := by
        have each : ∀ c ∈ t, (if c = '\n' then Newline.paired.text else [c]) = [c] :=
          fun c mem => if_neg fun (eq : c = '\n') => feed (eq ▸ mem)
        rw [writeBreaks, List.flatMap_congr each, List.flatMap_singleton']
      rw [same, hasPairedBreak_eq_false clean]
      simp [feed]

/-- Lines joined with breaks of a kind are the text that they are cut from, with these breaks. -/
theorem join_splitOn_newline (n : Newline) (t : Text) :
    join n.text (splitOn '\n' t) = writeBreaks n t := by
  induction t with
  | nil => rfl
  | cons c cs ih =>
    obtain ⟨piece, pieces, parts⟩ := List.exists_cons_of_ne_nil (splitOn_ne_nil '\n' cs)
    rw [splitOn, writeBreaks_cons, ← ih]
    split
    · rw [parts, join_cons_cons, List.nil_append]
    · rw [parts]
      cases pieces with
      | nil => simp [join]
      | cons q pieces => simp only [join_cons_cons, List.cons_append, List.nil_append]

/-! ### What a text starts with -/

/-- Unified line breaks aside, a text starts as it did. -/
theorem head?_unifyBreaks {t : Text} {c : Char} (other : c ≠ '\n')
    (head : (unifyBreaks t).head? = some c) : t.head? = some c := by
  fun_cases unifyBreaks t with
  | case1 => cases head
  | case2 rest => exact absurd (Option.some.inj head).symm other
  | case3 d rest more =>
    rw [unifyBreaks] at head
    · split at head
      · exact absurd (Option.some.inj head).symm other
      · exact head
    · exact more

/-- Line breaks aside, what is written starts like the text. -/
theorem head?_writeBreaks {n : Newline} {t : Text} {c : Char} (feed : c ≠ '\n') (return_ : c ≠ '\r')
    (head : (writeBreaks n t).head? = some c) : t.head? = some c := by
  cases t with
  | nil => cases head
  | cons d rest =>
    rw [writeBreaks_cons] at head
    split at head
    · cases n with
      | lineFeed => exact absurd (Option.some.inj head).symm feed
      | paired => exact absurd (Option.some.inj head).symm return_
    · exact head

/-! ### Unified text written again -/

/-- A text whose line breaks are unified and written in pairs comes back if all were pairs. -/
theorem writeBreaks_unifyBreaks_paired (t : Text) :
    writeBreaks .paired (unifyBreaks t) = t ↔ ¬ HasLoneReturn t ∧ ¬ HasLoneFeed t := by
  fun_induction unifyBreaks t with
  | case1 => simp [writeBreaks, not_hasLoneReturn_nil, not_hasLoneFeed_nil]
  | case2 rest ih =>
    rw [writeBreaks_cons, if_pos rfl, hasLoneFeed_pair, hasLoneReturn_cons, hasLoneReturn_cons]
    simpa [Newline.text] using ih
  | case3 c rest other ih =>
    by_cases return_ : c = '\r'
    · -- A pair would be written, but no line feed follows.
      subst return_
      have alone : rest.head? ≠ some '\n' := by
        intro head
        obtain ⟨more, rfl⟩ := List.head?_eq_some_iff.1 head
        exact other more rfl rfl
      rw [if_pos rfl, writeBreaks_cons, if_pos rfl, hasLoneReturn_cons]
      refine ⟨fun same => absurd ?_ alone, fun none => absurd (.inl ⟨rfl, alone⟩) none.1⟩
      rw [← (List.cons.inj same).2]
      rfl
    · rw [if_neg return_, writeBreaks_cons, hasLoneReturn_cons, hasLoneFeed_cons return_]
      by_cases feed : c = '\n'
      · subst feed
        simp [Newline.text]
      · simpa [feed, return_] using ih

/-- A text without pairs whose line breaks are unified comes back if it had line feeds only. -/
theorem unifyBreaks_eq_self_iff {t : Text} (unpaired : ¬ HasPair t) :
    unifyBreaks t = t ↔ ¬ HasLoneReturn t := by
  constructor
  · rintro same ⟨before, rest, eq, -⟩
    have clean := not_mem_unifyBreaks t
    rw [same, eq] at clean
    simp at clean
  · intro none
    have clean : '\r' ∉ t := by
      intro mem
      obtain ⟨before, rest, rfl⟩ := List.append_of_mem mem
      refine none ⟨before, rest, rfl, fun head => unpaired ?_⟩
      obtain ⟨more, rfl⟩ := List.head?_eq_some_iff.1 head
      exact ⟨before, more, by simp⟩
    simpa [writeBreaks_lineFeed] using unifyBreaks_writeBreaks .lineFeed clean

/-! ### A text and its mark -/

/-- The byte order mark that a text starts with, if it does. -/
def markOf (t : Text) : Text := if t.head? = some byteOrderMark then [byteOrderMark] else []

/-- A text without its mark is the text itself, or what follows the mark. -/
theorem withoutMark_cases (t : Text) :
    (t.head? ≠ some byteOrderMark ∧ markOf t = [] ∧ withoutMark t = t) ∨
      ∃ rest, t = byteOrderMark :: rest ∧ markOf t = [byteOrderMark] ∧ withoutMark t = rest := by
  cases t with
  | nil => exact .inl ⟨nofun, rfl, rfl⟩
  | cons c rest =>
    by_cases marked : c = byteOrderMark
    · subst marked
      exact .inr ⟨rest, rfl, rfl, rfl⟩
    · refine .inl ⟨?_, ?_, ?_⟩
      · simpa using marked
      · simp [markOf, marked]
      · simp [withoutMark, marked]

theorem markOf_append_withoutMark (t : Text) : markOf t ++ withoutMark t = t := by
  obtain ⟨-, mark, body⟩ | ⟨rest, rfl, mark, body⟩ := withoutMark_cases t
  · rw [mark, body, List.nil_append]
  · rw [mark, body, List.singleton_append]

/-- A mark is no line break, so a text has those that it has without its mark. -/
theorem breaks_withoutMark (t : Text) :
    (HasPair (withoutMark t) ↔ HasPair t) ∧ (HasLoneReturn (withoutMark t) ↔ HasLoneReturn t) ∧
      (HasLoneFeed (withoutMark t) ↔ HasLoneFeed t) := by
  have notReturn : byteOrderMark ≠ '\r' := by decide
  have notFeed : byteOrderMark ≠ '\n' := by decide
  obtain ⟨-, -, body⟩ | ⟨rest, rfl, -, body⟩ := withoutMark_cases t
  · rw [body]
    exact ⟨.rfl, .rfl, .rfl⟩
  · rw [body, hasLoneReturn_cons, hasLoneFeed_cons notReturn]
    refine ⟨?_, by simp [notReturn], by simp [notFeed]⟩
    rw [HasPair, HasPair, List.infix_cons_iff]
    simp [List.cons_prefix_cons, notReturn.symm]

/-- What a text with a mark or without one is followed by can be told apart from the mark, if it
does not start with a mark itself where there is none. -/
theorem withoutMark_markOf_append {t body : Text}
    (unmarked : body.head? = some byteOrderMark → t.head? = some byteOrderMark) :
    withoutMark (markOf t ++ body) = body ∧
      ((markOf t ++ body).head? = some byteOrderMark ↔ t.head? = some byteOrderMark) := by
  obtain ⟨plain, mark, -⟩ | ⟨rest, rfl, mark, -⟩ := withoutMark_cases t
  · have plain' : body.head? ≠ some byteOrderMark := fun head => plain (unmarked head)
    rw [mark, List.nil_append]
    obtain ⟨-, -, same⟩ | ⟨rest, rfl, -⟩ := withoutMark_cases body
    · exact ⟨same, by simp [plain, plain']⟩
    · exact absurd rfl plain'
  · rw [mark]
    exact ⟨rfl, by simp⟩

end Text

namespace Document

open Text (writeBreaks unifyBreaks withoutMark markOf)

theorem splitLines_ne_nil (u : Text) : splitLines u ≠ [] := by
  unfold splitLines
  dsimp only
  split
  · rename_i last
    obtain ⟨front, rfl⟩ := List.getLast?_eq_some_iff.1 last
    rw [Text.splitOn_append, Text.splitOn, List.dropLast_concat]
    exact Text.splitOn_ne_nil _ _
  · exact Text.splitOn_ne_nil _ _

/-- The lines of a text, written with breaks of a kind, are the text with these breaks. -/
theorem join_splitLines (n : Newline) (u : Text) :
    Text.join n.text (splitLines u) ++ (if u.getLast? = some '\n' then n.text else []) =
      writeBreaks n u := by
  unfold splitLines
  dsimp only
  split
  · rename_i last
    obtain ⟨front, rfl⟩ := List.getLast?_eq_some_iff.1 last
    rw [Text.splitOn_append, Text.splitOn, List.dropLast_concat, Text.join_splitOn_newline,
      Text.writeBreaks_append]
    simp [writeBreaks]
  · rw [List.append_nil, Text.join_splitOn_newline]

/-- **How a document that has been read is written:** with its mark, and with line breaks of one
kind instead of those that the text had. -/
theorem render_ofText (t : Text) : (ofText t).render =
    markOf t ++ writeBreaks (ofText t).newline (unifyBreaks (withoutMark t)) := by
  have some_line := splitLines_ne_nil (unifyBreaks (withoutMark t))
  rw [← join_splitLines, ← List.append_assoc]
  simp only [render, ofText, markOf, some_line, decide_eq_true_eq, ne_eq, not_false_eq_true,
    and_true]

/-- The kind of line breaks: pairs if the text has one. -/
theorem newline_ofText (t : Text) :
    (ofText t).newline = if Text.hasPairedBreak (withoutMark t) then .paired else .lineFeed := rfl

/-- A document depends on the mark, on the unified text and on the kind of line breaks. -/
theorem ofText_congr {t t' : Text}
    (mark : t'.head? = some Text.byteOrderMark ↔ t.head? = some Text.byteOrderMark)
    (unified : unifyBreaks (withoutMark t') = unifyBreaks (withoutMark t))
    (paired : Text.hasPairedBreak (withoutMark t') = Text.hasPairedBreak (withoutMark t)) :
    ofText t' = ofText t := by
  simp only [ofText, mark, unified, paired]

/-- **What has been written is read as the same document.** -/
theorem ofText_render_ofText (t : Text) : ofText (ofText t).render = ofText t := by
  have clean := Text.not_mem_unifyBreaks (withoutMark t)
  have unmarked : (writeBreaks (ofText t).newline (unifyBreaks (withoutMark t))).head? =
      some Text.byteOrderMark → t.head? = some Text.byteOrderMark := by
    intro head
    have head := Text.head?_unifyBreaks (by decide)
      (Text.head?_writeBreaks (by decide) (by decide) head)
    obtain ⟨-, -, same⟩ | ⟨rest, rfl, -⟩ := Text.withoutMark_cases t
    · rwa [same] at head
    · rfl
  obtain ⟨body, mark⟩ := Text.withoutMark_markOf_append unmarked
  rw [← render_ofText] at body mark
  refine ofText_congr mark ?_ ?_
  · rw [body, Text.unifyBreaks_writeBreaks _ clean]
  · rw [body, Text.hasPairedBreak_writeBreaks clean, newline_ofText]
    cases paired : Text.hasPairedBreak (withoutMark t) with
    | false => simp
    | true => simpa using Text.mem_unifyBreaks_of_hasPairedBreak paired

/-- **Reading, writing and reading again.** What has been written is read as the same document. The
text that has been read is written as it was exactly if no carriage return stands in it without a
line feed, and no line feed without a carriage return beside pairs of both. -/
theorem round_trip (t : Text) :
    ofText (ofText t).render = ofText t ∧
      ((ofText t).render = t ↔ ¬ t.HasLoneReturn ∧ ¬ (t.HasPair ∧ t.HasLoneFeed)) := by
  refine ⟨ofText_render_ofText t, ?_⟩
  obtain ⟨pair, loneReturn, loneFeed⟩ := Text.breaks_withoutMark t
  rw [← pair, ← loneReturn, ← loneFeed]
  have body : (ofText t).render = t ↔
      writeBreaks (ofText t).newline (unifyBreaks (withoutMark t)) = withoutMark t := by
    rw [render_ofText]
    nth_rewrite 4 [← Text.markOf_append_withoutMark t]
    exact List.append_right_inj _
  rw [body, newline_ofText]
  by_cases paired : (withoutMark t).HasPair
  · rw [if_pos (Text.hasPairedBreak_iff.2 paired), Text.writeBreaks_unifyBreaks_paired]
    simp [paired]
  · rw [if_neg fun h => paired (Text.hasPairedBreak_iff.1 h), Text.writeBreaks_lineFeed,
      Text.unifyBreaks_eq_self_iff paired]
    simp [paired]

end Document

end SolutionSweep
