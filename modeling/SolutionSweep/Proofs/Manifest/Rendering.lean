import SolutionSweep.Manifest.Document
import SolutionSweep.Proofs.Text.Pieces
import Mathlib.Data.List.Basic

/-!
# Writing and reading a document

The lines of a document that has been read hold no line breaks. If in addition no line is empty and
none starts with a byte order mark, the document is read back with the same lines from the text that
it is written as, whatever the kind of its line breaks.

* `IsLine`: a text without line breaks;
* `isLine_of_mem_ofText`: the lines of a document that has been read are such texts;
* `lines_ofText_render`: reading what has been written;
* `lines_ofText_render_cases`: what is read if lines may start with a byte order mark;
* `render_ofText_render`: what has been read is written as it was.
-/

namespace SolutionSweep

/-- A text without line breaks. -/
structure IsLine (l : Text) : Prop where
  lineFeed : '\n' ∉ l
  carriageReturn : '\r' ∉ l

namespace Text

/-! ### Unified line breaks -/

theorem unifyBreaks_cons {c : Char} (h : c ≠ '\r') (rest : Text) :
    unifyBreaks (c :: rest) = c :: unifyBreaks rest := by
  rw [unifyBreaks]
  · rw [if_neg h]
  · rintro _ rfl
    exact absurd rfl h

theorem unifyBreaks_append {l : Text} (h : '\r' ∉ l) (rest : Text) :
    unifyBreaks (l ++ rest) = l ++ unifyBreaks rest := by
  induction l with
  | nil => rfl
  | cons c cs ih =>
    rw [List.mem_cons, not_or] at h
    rw [List.cons_append, unifyBreaks_cons (Ne.symm h.1), ih h.2, List.cons_append]

/-- Breaks are unified apart in front of a text that does not begin with the second half of one. -/
theorem unifyBreaks_append_of_head {u : Text} (whole : u.head? ≠ some '\n') (t : Text) :
    unifyBreaks (t ++ u) = unifyBreaks t ++ unifyBreaks u := by
  fun_induction unifyBreaks t with
  | case1 => rfl
  | case2 rest ih => rw [List.cons_append, List.cons_append, unifyBreaks, ih, List.cons_append]
  | case3 c rest other ih =>
    rw [List.cons_append, unifyBreaks, ih, List.cons_append]
    rintro more rfl eq
    cases rest with
    | nil =>
      rw [List.nil_append] at eq
      exact whole (by rw [eq, List.head?_cons])
    | cons d ds =>
      obtain ⟨rfl, -⟩ := List.cons.inj eq
      exact other ds rfl rfl

theorem unifyBreaks_newline (n : Newline) (rest : Text) :
    unifyBreaks (n.text ++ rest) = '\n' :: unifyBreaks rest := by
  cases n with
  | lineFeed => exact unifyBreaks_cons (by decide) rest
  | paired => rfl

theorem not_mem_unifyBreaks (t : Text) : '\r' ∉ unifyBreaks t := by
  fun_induction unifyBreaks t with
  | case1 => simp
  | case2 rest ih => simpa using ih
  | case3 c rest _ ih =>
    rw [List.mem_cons, not_or]
    refine ⟨?_, ih⟩
    split
    · decide
    · rename_i h
      exact Ne.symm h

/-- Joined lines are unified by joining them with line feeds. -/
theorem unifyBreaks_join {lines : List Text} (clean : ∀ l ∈ lines, '\r' ∉ l) (n : Newline)
    (rest : Text) :
    unifyBreaks (join n.text lines ++ rest) = join ['\n'] lines ++ unifyBreaks rest := by
  unfold join
  induction lines with
  | nil => rfl
  | cons l lines ih =>
    have head := clean l List.mem_cons_self
    have tail := ih fun l' mem => clean l' (List.mem_cons_of_mem l mem)
    cases lines with
    | nil => simpa using unifyBreaks_append head rest
    | cons l' lines =>
      rw [List.intercalate_cons_cons, List.intercalate_cons_cons]
      simp only [List.append_assoc]
      rw [unifyBreaks_append head, unifyBreaks_newline, tail, List.singleton_append]

/-! ### Paired line breaks -/

theorem hasPairedBreak_eq_false {t : Text} (h : '\r' ∉ t) : hasPairedBreak t = false := by
  fun_induction hasPairedBreak t with
  | case1 => rfl
  | case2 rest => simp at h
  | case3 c rest _ ih => exact ih fun mem => h (List.mem_cons_of_mem c mem)

theorem hasPairedBreak_append (t rest : Text) :
    hasPairedBreak (t ++ '\r' :: '\n' :: rest) = true := by
  fun_induction hasPairedBreak t with
  | case1 => rfl
  | case2 => rfl
  | case3 c cs other ih =>
    rw [List.cons_append, hasPairedBreak]
    · exact ih
    · rintro more rfl eq
      -- Only a carriage return that stood last would now be followed by a line feed.
      cases cs with
      | nil => cases eq
      | cons d ds =>
        obtain ⟨rfl, -⟩ := List.cons.inj eq
        exact other ds rfl rfl

/-! ### Pieces between line feeds -/

/-- Joined lines end with the last of them, if it is not empty or the only one. -/
theorem getLast?_join {lines : List Text} (clean : ∀ l ∈ lines, '\n' ∉ l)
    (filled : ∀ l ∈ lines.tail, l ≠ []) : (join ['\n'] lines).getLast? ≠ some '\n' := by
  unfold join
  induction lines with
  | nil => simp
  | cons l lines ih =>
    have head := clean l List.mem_cons_self
    cases lines with
    | nil =>
      intro last
      rw [List.intercalate_singleton] at last
      exact head (List.mem_of_getLast? last)
    | cons l' lines =>
      have tail := ih (fun l' mem => clean l' (List.mem_cons_of_mem l mem))
        fun l'' mem => filled l'' (List.mem_cons_of_mem l' mem)
      have next : l' ≠ [] := filled l' List.mem_cons_self
      have some_text : ['\n'].intercalate (l' :: lines) ≠ [] := by
        obtain ⟨c, cs, rfl⟩ := List.exists_cons_of_ne_nil next
        simp
      rwa [List.intercalate_cons_cons, List.getLast?_append_of_ne_nil _ some_text]

end Text

namespace Document

/-- The lines of a document that has been read hold no line breaks. -/
theorem isLine_of_mem_ofText {text l : Text} (h : l ∈ (ofText text).lines) : IsLine l := by
  have piece : l ∈ Text.splitOn '\n' (Text.unifyBreaks (Text.withoutMark text)) := by
    simp only [ofText, splitLines] at h
    split at h
    · exact List.dropLast_sublist _ |>.subset h
    · exact h
  refine ⟨fun mem => (Text.mem_splitOn piece mem).2 rfl, fun mem => ?_⟩
  exact Text.not_mem_unifyBreaks _ (Text.mem_splitOn piece mem).1

/-- The written text without its mark. -/
theorem withoutMark_render {d : Document} (unmarked : d.hasMark = false →
      ∀ l, d.lines.head? = some l → l ≠ [] ∧ l.head? ≠ some Text.byteOrderMark) :
    Text.withoutMark d.render = Text.join d.newline.text d.lines ++
      (if d.endsWithBreak ∧ d.lines ≠ [] then d.newline.text else []) := by
  unfold render
  cases marked : d.hasMark with
  | true => simp [Text.withoutMark]
  | false =>
    cases lines : d.lines with
    | nil => simp [Text.join, Text.withoutMark]
    | cons l rest =>
      obtain ⟨some_char, other⟩ := unmarked marked l (by simp [lines])
      obtain ⟨c, cs, rfl⟩ := List.exists_cons_of_ne_nil some_char
      have other : c ≠ Text.byteOrderMark := by simpa using other
      simp [Text.join, Text.withoutMark, other]

/-- The lines that a document is read back with, if none of its lines after the first is empty and
the first one is not taken for one with a mark. -/
theorem lines_ofText_render_of_unmarked {d : Document} (clean : ∀ l ∈ d.lines, IsLine l)
    (filled : ∀ l ∈ d.lines.tail, l ≠ []) (unmarked : d.hasMark = false →
      ∀ l, d.lines.head? = some l → l ≠ [] ∧ l.head? ≠ some Text.byteOrderMark) :
    (ofText d.render).lines = if d.lines = [] then [[]] else d.lines := by
  have noReturn : ∀ l ∈ d.lines, '\r' ∉ l := fun l mem => (clean l mem).carriageReturn
  have noFeed : ∀ l ∈ d.lines, '\n' ∉ l := fun l mem => (clean l mem).lineFeed
  simp only [ofText]
  rw [withoutMark_render unmarked, Text.unifyBreaks_join noReturn]
  by_cases empty : d.lines = []
  · rw [if_pos empty, if_neg (by simp [empty]), empty]
    decide
  · rw [if_neg empty, splitLines]
    by_cases ends : d.endsWithBreak = true
    · -- The last line break gives one more piece, which is empty and dropped.
      have feed : Text.unifyBreaks d.newline.text = ['\n'] := by cases d.newline <;> rfl
      have ending : (if d.endsWithBreak = true ∧ d.lines ≠ [] then d.newline.text else []) =
          d.newline.text := if_pos ⟨ends, empty⟩
      rw [ending, feed, Text.splitOn_join_append empty noFeed, if_pos (by simp),
        List.dropLast_concat]
    · -- The last line is not empty, so the text does not end with a line break.
      have last := Text.getLast?_join noFeed filled
      have ending : (if d.endsWithBreak = true ∧ d.lines ≠ [] then d.newline.text else []) = [] :=
        if_neg fun both => ends both.1
      rw [ending, show Text.unifyBreaks [] = [] from rfl, List.append_nil,
        Text.splitOn_join empty noFeed, if_neg last]

/-- A line that is read back: it has no breaks, is not empty and does not start with a mark. -/
structure IsPlain (l : Text) : Prop where
  line : IsLine l
  ne_nil : l ≠ []
  unmarked : l.head? ≠ some Text.byteOrderMark

/-- The first of lines that are read back is not taken for one with a mark. -/
theorem unmarked_head {d : Document} (plain : ∀ l ∈ d.lines, IsPlain l) (_ : d.hasMark = false) :
    ∀ l, d.lines.head? = some l → l ≠ [] ∧ l.head? ≠ some Text.byteOrderMark := fun l head =>
  have first := plain l (List.mem_of_mem_head? head)
  ⟨first.ne_nil, first.unmarked⟩

/-- **A document is read back with the lines that it has been written with.** A document without
lines is read back with one empty line. -/
theorem lines_ofText_render {d : Document} (plain : ∀ l ∈ d.lines, IsPlain l) :
    (ofText d.render).lines = if d.lines = [] then [[]] else d.lines :=
  lines_ofText_render_of_unmarked (fun l mem => (plain l mem).line)
    (fun l mem => (plain l (List.mem_of_mem_tail mem)).ne_nil) (unmarked_head plain)

theorem hasMark_ofText_render {d : Document} (plain : ∀ l ∈ d.lines, IsPlain l) :
    (ofText d.render).hasMark = d.hasMark := by
  unfold ofText render
  cases marked : d.hasMark with
  | true => simp
  | false =>
    cases lines : d.lines with
    | nil => simp [Text.join]
    | cons l rest =>
      have first := plain l (by simp [lines])
      obtain ⟨c, cs, rfl⟩ := List.exists_cons_of_ne_nil first.ne_nil
      have other : c ≠ Text.byteOrderMark := by simpa using first.unmarked
      simp [Text.join, other]

theorem endsWithBreak_ofText_render {d : Document} (plain : ∀ l ∈ d.lines, IsPlain l)
    (some_line : d.lines ≠ []) : (ofText d.render).endsWithBreak = d.endsWithBreak := by
  have last : (Text.join ['\n'] d.lines).getLast? ≠ some '\n' :=
    Text.getLast?_join (fun l mem => (plain l mem).line.lineFeed)
      fun l mem => (plain l (List.mem_of_mem_tail mem)).ne_nil
  simp only [ofText]
  rw [withoutMark_render (unmarked_head plain),
    Text.unifyBreaks_join fun l mem => (plain l mem).line.carriageReturn]
  cases ends : d.endsWithBreak with
  | true =>
    have feed : Text.unifyBreaks d.newline.text = ['\n'] := by cases d.newline <;> rfl
    simp [some_line, feed]
  | false => simpa [Text.unifyBreaks] using last

/-- A document that has a line break shows which kind it is. -/
theorem newline_ofText_render {d : Document} (plain : ∀ l ∈ d.lines, IsPlain l)
    (broken : d.endsWithBreak = true ∨ 1 < d.lines.length) (some_line : d.lines ≠ []) :
    (ofText d.render).newline = d.newline := by
  simp only [ofText]
  rw [withoutMark_render (unmarked_head plain)]
  cases kind : d.newline with
  | lineFeed =>
    -- Neither the lines nor the breaks between them hold a carriage return.
    refine if_neg ?_
    rw [Text.hasPairedBreak_eq_false, Bool.false_eq_true]
    · exact id
    · rw [List.mem_append, not_or]
      constructor
      · intro mem
        rcases Text.mem_join mem with ⟨l, hl, mem⟩ | mem
        · exact (plain l hl).line.carriageReturn mem
        · simp [Newline.text] at mem
      · split <;> simp [Newline.text]
  | paired =>
    refine if_pos ?_
    match lines : d.lines with
    | [] => exact absurd lines some_line
    | [l] =>
      have ends : d.endsWithBreak = true := broken.resolve_right (by simp [lines])
      simpa [Text.join, ends, Newline.text] using Text.hasPairedBreak_append l []
    | l :: l' :: rest =>
      rw [Text.join, List.intercalate_cons_cons, List.append_assoc, List.append_assoc]
      exact Text.hasPairedBreak_append l _

/-- **A document that is written and read again is written as the same text.** If it has no line
break, it may be read back with the other kind of breaks, which does not show. -/
theorem render_ofText_render {d : Document} (plain : ∀ l ∈ d.lines, IsPlain l)
    (some_line : d.lines ≠ []) : (ofText d.render).render = d.render := by
  have lines := lines_ofText_render plain
  rw [if_neg some_line] at lines
  have mark := hasMark_ofText_render plain
  have ends := endsWithBreak_ofText_render plain some_line
  by_cases broken : d.endsWithBreak = true ∨ 1 < d.lines.length
  · have kind := newline_ofText_render plain broken some_line
    rw [render, lines, mark, ends, kind, render]
  · obtain ⟨open_, short⟩ := not_or.1 broken
    obtain ⟨l, single⟩ : ∃ l, d.lines = [l] := by
      match d.lines, some_line, short with
      | [l], _, _ => exact ⟨l, rfl⟩
      | _ :: _ :: _, _, short => simp at short
    have written : d.render = (if d.hasMark then [Text.byteOrderMark] else []) ++ l := by
      simp [render, single, open_, Text.join]
    rw [render, lines, mark, ends, written]
    simp [single, open_, Text.join]

/-- Without marks inside, a document is read back with its lines. A mark in front of the first line
of a document without one of its own is taken for that of the document. -/
theorem lines_ofText_render_cases {d : Document} (clean : ∀ l ∈ d.lines, IsLine l)
    (filled : ∀ l ∈ d.lines, l ≠ []) :
    (ofText d.render).lines = (if d.lines = [] then [[]] else d.lines) ∨
      ∃ l rest, d.lines = (Text.byteOrderMark :: l) :: rest ∧
        (ofText d.render).lines = l :: rest := by
  by_cases unmarked : d.hasMark = false →
      ∀ l, d.lines.head? = some l → l.head? ≠ some Text.byteOrderMark
  · refine Or.inl (lines_ofText_render_of_unmarked clean
      (fun l mem => filled l (List.mem_of_mem_tail mem)) fun bare l head => ?_)
    exact ⟨filled l (List.mem_of_mem_head? head), unmarked bare l head⟩
  · right
    simp only [Classical.not_imp, not_forall, not_not] at unmarked
    obtain ⟨bare, first, head, mark⟩ := unmarked
    obtain ⟨rest, lines⟩ := List.head?_eq_some_iff.1 head
    obtain ⟨l, rfl⟩ := List.head?_eq_some_iff.1 mark
    -- The text is also that of a document with a mark, whose first line starts behind it.
    have same : d.render = render { d with lines := l :: rest, hasMark := true } := by
      cases rest <;> simp [render, bare, lines, Text.join]
    refine ⟨l, rest, lines, ?_⟩
    rw [same, lines_ofText_render_of_unmarked]
    · simp
    · intro l' mem
      rcases List.mem_cons.1 mem with rfl | mem
      · have line := clean (Text.byteOrderMark :: l') (by simp [lines])
        exact ⟨fun inside => line.lineFeed (List.mem_cons_of_mem _ inside),
          fun inside => line.carriageReturn (List.mem_cons_of_mem _ inside)⟩
      · exact clean l' (by simp [lines, mem])
    · intro l' mem
      exact filled l' (by rw [lines]; exact List.mem_cons_of_mem _ mem)
    · intro unmarked
      cases unmarked

end Document

end SolutionSweep
