import SolutionSweep.Proofs.Descriptor.Reading

/-!
# Quotes that stay open

The attribute with the path is looked for in the whole text of a tag, values of other attributes
included. What looks like it in such a value may have quotes that are not closed there, and whether
they are closed at all, and where, is then up to what follows. If no quotes stay open, the path does
not depend on what follows.

* `Stops`: recognisers that do not look beyond quotes at the end of a text;
* `valueHere?`, `QuotesClosed`: what stands behind the equals sign of the attribute, and texts in
  which no quotes of it stay open;
* `includeAfter?_append_of_quotesClosed`: the path is read whatever follows.
-/

namespace SolutionSweep.Descriptor

open ProjectReference

/-! ### What is read up to a quote -/

/-- A text that ends with quotes. -/
def EndsInQuote (t : Text) : Prop := ∃ q : Quote, t.getLast? = some q.char

theorem EndsInQuote.ne_nil {t : Text} (h : EndsInQuote t) : t ≠ [] := by
  rintro rfl
  obtain ⟨q, last⟩ := h
  cases last

theorem EndsInQuote.of_suffix {s t : Text} (h : EndsInQuote t) (suffix : s <:+ t) (ne : s ≠ []) :
    EndsInQuote s := by
  obtain ⟨q, last⟩ := h
  obtain ⟨front, rfl⟩ := suffix
  rw [List.getLast?_append_of_ne_nil front ne] at last
  exact ⟨q, last⟩

/-- What is left behind a character that is no quote ends with quotes as well. -/
theorem EndsInQuote.tail {c : Char} {t : Text} (h : EndsInQuote (c :: t))
    (other : ∀ q : Quote, c ≠ q.char) : EndsInQuote t := by
  refine h.of_suffix (List.suffix_cons c t) ?_
  rintro rfl
  obtain ⟨q, last⟩ := h
  exact other q (Option.some.inj last)

/-- A recogniser that does not look beyond quotes at the end of a text, and leaves them. -/
def Stops (f : Text → Option Text) : Prop :=
  ∀ t, EndsInQuote t → (∀ rest, f (t ++ rest) = (f t).map (· ++ rest)) ∧
    ∀ back, f t = some back → EndsInQuote back

theorem Stops.bind {f g : Text → Option Text} (hf : Stops f) (hg : Stops g) :
    Stops fun t => (f t).bind g := by
  intro t ends
  obtain ⟨reads, leaves⟩ := hf t ends
  cases read : f t with
  | none => exact ⟨fun rest => by simp [reads, read], fun back found => by simp [read] at found⟩
  | some s =>
    obtain ⟨reads', leaves'⟩ := hg s (leaves s read)
    exact ⟨fun rest => by simp [reads, read, reads'], fun back found => leaves' back (by
      simpa [read] using found)⟩

theorem stops_skipWhite : Stops fun t => some (Text.skipWhite t) := by
  intro t ends
  have ne : Text.skipWhite t ≠ [] := by
    intro none
    obtain ⟨q, last⟩ := ends
    have blank := Text.isBlank_iff_skipWhite_eq_nil.2 none
    exact Text.not_mem_of_isBlank blank q.isWhite_char (List.mem_of_getLast? last)
  refine ⟨fun rest => ?_, fun back read => ?_⟩
  · have stays : (t.dropWhile isWhite).isEmpty = false := List.isEmpty_eq_false_iff.2 ne
    simp [Text.skipWhite, List.dropWhile_append, stays]
  · obtain rfl := Option.some.inj read
    exact ends.of_suffix (List.dropWhile_suffix _) ne

theorem stops_equals : Stops (Text.after? ['=']) := by
  intro t ends
  obtain ⟨c, t, rfl⟩ := List.exists_cons_of_ne_nil ends.ne_nil
  by_cases equals : '=' = c
  · subst equals
    refine ⟨fun rest => by simp [Text.after?], fun back read => ?_⟩
    obtain rfl : t = back := by simpa [Text.after?] using read
    exact ends.tail fun q => by cases q <;> decide
  · exact ⟨fun rest => by simp [Text.after?, equals], fun back read => by
      simp [Text.after?, equals] at read⟩

theorem stops_word {word : Text} (letters : ∀ m ∈ word, m.isLower = true) :
    Stops (Text.afterIgnoringCase? word) := by
  induction word with
  | nil => exact fun t ends => ⟨fun rest => rfl, fun back read => Option.some.inj read ▸ ends⟩
  | cons letter word ih =>
    intro t ends
    obtain ⟨c, t, rfl⟩ := List.exists_cons_of_ne_nil ends.ne_nil
    simp only [List.cons_append, Text.afterIgnoringCase?]
    split
    case isFalse => exact ⟨fun rest => rfl, fun back read => by cases read⟩
    case isTrue head =>
      have part := isWord_of_isLetterIgnoringCase (letters letter List.mem_cons_self) head
      refine ih (fun m mem => letters m (List.mem_cons_of_mem letter mem)) t (ends.tail ?_)
      rintro q rfl
      rw [q.isWord_char] at part
      cases part

/-! ### The value of the attribute -/

/-- The text behind the equals sign of an attribute with the path that begins here. -/
def valueHere? (t : Text) : Option Text :=
  (((Text.afterIgnoringCase? includeWord t).bind fun rest => some (Text.skipWhite rest)).bind
    (Text.after? ['='])).bind fun rest => some (Text.skipWhite rest)

theorem includeHere?_eq (t : Text) : includeHere? t = (valueHere? t).bind quotedValue? := by
  cases word : Text.afterIgnoringCase? includeWord t with
  | none => simp [includeHere?, valueHere?, word]
  | some back =>
    cases equals : Text.after? ['='] (Text.skipWhite back) <;>
      simp [includeHere?, valueHere?, word, equals]

theorem stops_valueHere? : Stops valueHere? :=
  (((stops_word isLower_of_mem_includeWord).bind stops_skipWhite).bind stops_equals).bind
    stops_skipWhite

/-- Wherever the attribute with the path seems to begin in a text, its quotes are closed in it. -/
def QuotesClosed (t : Text) : Prop :=
  ∀ k ∈ List.range (t.length + 1), endsInWord false (t.take k) = false →
    ∀ v ∈ valueHere? (t.drop k), ∀ q ∈ [Quote.single, Quote.double],
      v.head? = some q.char → q.char ∈ v.tail

instance (t : Text) : Decidable (QuotesClosed t) := by
  unfold QuotesClosed
  infer_instance

/-- Only a value with quotes is read, up to the next ones of the kind. -/
theorem quotedValue?_append {v : Text} (ne : v ≠ [])
    (closed : ∀ q : Quote, v.head? = some q.char → q.char ∈ v.tail) (rest : Text) :
    quotedValue? (v ++ rest) = quotedValue? v := by
  obtain ⟨c, v, rfl⟩ := List.exists_cons_of_ne_nil ne
  by_cases quoted : ∃ q : Quote, c = q.char
  · obtain ⟨q, rfl⟩ := quoted
    obtain ⟨x, y, rfl, absent⟩ := List.eq_append_cons_of_mem (closed q rfl)
    rw [List.cons_append, List.append_assoc, List.cons_append, quotedValue?_eq q absent,
      quotedValue?_eq q absent]
  · have single : c ≠ '\'' := fun eq => quoted ⟨.single, eq⟩
    have double : c ≠ '"' := fun eq => quoted ⟨.double, eq⟩
    simp [quotedValue?, single, double]

/-- Wherever the path is looked for in such a text, what follows the text does not matter. -/
theorem includeHere?_append {t : Text} (closed : QuotesClosed t) (ends : EndsInQuote t)
    {a b : Text} (eq : t = a ++ b) (ne : b ≠ []) (outside : endsInWord false a = false)
    (rest : Text) : includeHere? (b ++ rest) = includeHere? b := by
  obtain ⟨reads, leaves⟩ := stops_valueHere? b (ends.of_suffix ⟨a, eq.symm⟩ ne)
  rw [includeHere?_eq, includeHere?_eq, reads]
  cases value : valueHere? b with
  | none => rfl
  | some v =>
    refine quotedValue?_append (leaves v value).ne_nil (fun q head => ?_) rest
    refine closed a.length ?_ ?_ v ?_ q (by cases q <;> simp) head
    · rw [eq, List.mem_range, List.length_append]
      omega
    · rwa [eq, List.take_left]
    · rwa [eq, List.drop_left]

/-! ### The search for the attribute -/

/-- The search ends in front of a text that changes nothing at the places in front of it. -/
theorem includeAfter?_append_of_some {t rest value : Text} {inWord : Bool}
    (same : ∀ a b, t = a ++ b → b ≠ [] → endsInWord inWord a = false →
      includeHere? (b ++ rest) = includeHere? b)
    (found : includeAfter? inWord t = some value) :
    includeAfter? inWord (t ++ rest) = some value := by
  induction t generalizing inWord with
  | nil => cases found
  | cons c t ih =>
    have here : (if inWord then none else includeHere? (c :: (t ++ rest))) =
        if inWord then none else includeHere? (c :: t) := by
      cases inWord with
      | true => rfl
      | false => exact same [] (c :: t) rfl (List.cons_ne_nil c t) rfl
    have later := @ih (isWord c) fun a b eq ne outside =>
      same (c :: a) b (by rw [eq]; rfl) ne (by rw [endsInWord_cons, outside])
    rw [List.cons_append, includeAfter?, here]
    rw [includeAfter?] at found
    split at found
    · exact found
    · exact later found

/-- The search ends where the attribute is, or in front of it. -/
theorem exists_includeAfter? {a b value : Text} {inWord : Bool}
    (outside : endsInWord inWord a = false) (here : includeHere? b = some value) :
    ∃ found, includeAfter? inWord (a ++ b) = some found := by
  induction a generalizing inWord with
  | nil =>
    obtain rfl : inWord = false := outside
    exact ⟨value, includeAfter?_of_includeHere? here⟩
  | cons c a ih =>
    obtain ⟨found, later⟩ := ih (by rwa [endsInWord_cons] at outside)
    rw [List.cons_append, includeAfter?]
    split
    · exact ⟨_, rfl⟩
    · exact ⟨found, later⟩

/-- **The path does not depend on what follows** if it is there and no quotes stay open. -/
theorem includeAfter?_append_of_quotesClosed {front : Text} {a : Attribute} (h : a.Written)
    (named : Text.Spells includeWord a.name) (outside : endsInWord false front = false)
    (closed : QuotesClosed (front ++ a.bare)) (rest : Text) :
    includeAfter? false (front ++ a.bare ++ rest) = includeAfter? false (front ++ a.bare) := by
  have here : includeHere? a.bare = some a.value := by
    have := Attribute.includeHere?_bare h named []
    rwa [List.append_nil] at this
  have ends : EndsInQuote (front ++ a.bare) :=
    ⟨a.quote, by rw [List.getLast?_append, a.getLast?_bare]; rfl⟩
  obtain ⟨found, first⟩ := exists_includeAfter? outside here
  rw [first]
  exact includeAfter?_append_of_some
    (fun _ _ eq ne edge => includeHere?_append closed ends eq ne edge rest) first

end SolutionSweep.Descriptor
