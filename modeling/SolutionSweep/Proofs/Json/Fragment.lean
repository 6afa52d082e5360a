import SolutionSweep.Proofs.Json.RoundTrip

/-!
# Objects behind other text

An object that is written behind other text does not end a value. If the text leaves a string open,
the object closes it too early; if it leaves an array or an object open, this is still open behind
the object; and in any other place no object may stand.

* `Json.value_cases`, `Json.items_cases`, `Json.fields_cases`: what is read if reading succeeds;
* `Json.Within`: what is left begins inside of the text in front of the object;
* `Json.value_append`, `Json.items_append`, `Json.fields_append`: what is left by the readers;
* `Json.parse_append_ne_ok`: no value is read.
-/

namespace SolutionSweep.Json

/-! ### What is read -/

section Cases

variable {fuel : Nat} {t rest : Text}

/-- A value is a string, an array, an object, or a word or number. -/
theorem value_cases {v : Json} (read : value (fuel + 1) t = .ok (v, rest)) :
    (∃ u s, t = '"' :: u ∧ string? u = some (s, rest)) ∨
    (∃ u, t = '[' :: u ∧ (skipBlanks u = ']' :: rest ∨
      ∃ vs, items fuel (skipBlanks u) = .ok (vs, rest))) ∨
    (∃ u, t = '\x7b' :: u ∧ (skipBlanks u = '\x7d' :: rest ∨
      ∃ fs, fields fuel (skipBlanks u) = .ok (fs, rest))) ∨
    scalar t = .ok (v, rest) := by
  unfold value at read
  split at read
  case h_1 u =>
    split at read
    · cases read
    · rename_i s after string
      obtain ⟨-, rfl⟩ := Prod.mk.inj (Except.ok.inj read)
      exact .inl ⟨u, s, rfl, string⟩
  case h_2 u =>
    split at read
    · rename_i after empty
      obtain ⟨-, rfl⟩ := Prod.mk.inj (Except.ok.inj read)
      exact .inr (.inl ⟨u, rfl, .inl empty⟩)
    · split at read
      · cases read
      · rename_i vs after each
        obtain ⟨-, rfl⟩ := Prod.mk.inj (Except.ok.inj read)
        exact .inr (.inl ⟨u, rfl, .inr ⟨vs, each⟩⟩)
  case h_3 u =>
    split at read
    · rename_i after empty
      obtain ⟨-, rfl⟩ := Prod.mk.inj (Except.ok.inj read)
      exact .inr (.inr (.inl ⟨u, rfl, .inl empty⟩))
    · split at read
      · cases read
      · rename_i fs after each
        obtain ⟨-, rfl⟩ := Prod.mk.inj (Except.ok.inj read)
        exact .inr (.inr (.inl ⟨u, rfl, .inr ⟨fs, each⟩⟩))
  case h_4 => exact .inr (.inr (.inr read))

/-- The values of an array end with a bracket or go on behind a comma. -/
theorem items_cases {vs : List Json} (read : items (fuel + 1) t = .ok (vs, rest)) :
    ∃ v u, value fuel t = .ok (v, u) ∧ (skipBlanks u = ']' :: rest ∨
      ∃ more vs', skipBlanks u = ',' :: more ∧ items fuel (skipBlanks more) = .ok (vs', rest)) := by
  rw [items] at read
  split at read
  · cases read
  · rename_i v u first
    refine ⟨v, u, first, ?_⟩
    split at read
    · rename_i after ends
      obtain ⟨-, rfl⟩ := Prod.mk.inj (Except.ok.inj read)
      exact .inl ends
    · rename_i more comma
      split at read
      · cases read
      · rename_i vs' after later
        obtain ⟨-, rfl⟩ := Prod.mk.inj (Except.ok.inj read)
        exact .inr ⟨more, vs', comma, later⟩
    · cases read

/-- The fields of an object are names and values. They end with a brace or go on behind a comma. -/
theorem fields_cases {fs : List (CodePoints × Json)} (read : fields (fuel + 1) t = .ok (fs, rest)) :
    ∃ u name r r' v u', t = '"' :: u ∧ string? u = some (name, r) ∧ skipBlanks r = ':' :: r' ∧
      value fuel (skipBlanks r') = .ok (v, u') ∧ (skipBlanks u' = '\x7d' :: rest ∨
        ∃ more fs', skipBlanks u' = ',' :: more ∧
          fields fuel (skipBlanks more) = .ok (fs', rest)) := by
  unfold fields at read
  split at read
  case h_2 => cases read
  case h_1 u =>
    split at read
    · cases read
    · rename_i name r string
      split at read
      case h_2 => cases read
      case h_1 r' colon =>
        split at read
        · cases read
        · rename_i v u' first
          refine ⟨u, name, r, r', v, u', rfl, string, colon, first, ?_⟩
          split at read
          · rename_i after ends
            obtain ⟨-, rfl⟩ := Prod.mk.inj (Except.ok.inj read)
            exact .inl ends
          · rename_i more comma
            split at read
            · cases read
            · rename_i fs' after later
              obtain ⟨-, rfl⟩ := Prod.mk.inj (Except.ok.inj read)
              exact .inr ⟨more, fs', comma, later⟩
          · cases read

end Cases

/-! ### Words and numbers -/

/-- What is left of a text behind characters other than an opening brace. -/
def Leaves (t rest : Text) : Prop := ∃ front, t = front ++ rest ∧ '\x7b' ∉ front

namespace Leaves

variable {t u rest : Text}

theorem refl (t : Text) : Leaves t t := ⟨[], rfl, nofun⟩

theorem trans (first : Leaves t u) (second : Leaves u rest) : Leaves t rest := by
  obtain ⟨front, rfl, clean⟩ := first
  obtain ⟨front', rfl, clean'⟩ := second
  refine ⟨front ++ front', (List.append_assoc _ _ _).symm, ?_⟩
  rw [List.mem_append, not_or]
  exact ⟨clean, clean'⟩

theorem cons {c : Char} (other : c ≠ '\x7b') (h : Leaves t rest) : Leaves (c :: t) rest := by
  obtain ⟨front, rfl, clean⟩ := h
  refine ⟨c :: front, rfl, ?_⟩
  rw [List.mem_cons, not_or]
  exact ⟨other.symm, clean⟩

theorem digits (t : Text) : Leaves t (t.dropWhile Char.isDigit) := by
  refine ⟨t.takeWhile Char.isDigit, List.takeWhile_append_dropWhile.symm, fun mem => ?_⟩
  have digit : Char.isDigit '\x7b' = true := List.mem_takeWhile_imp mem
  cases digit

end Leaves

/-- What does not hold a brace ends in front of the first one. -/
theorem exists_of_append_eq {front rest p w : Text} (clean : '\x7b' ∉ front)
    (parts : front ++ rest = p ++ '\x7b' :: w) :
    ∃ p', p = front ++ p' ∧ rest = p' ++ '\x7b' :: w := by
  obtain ⟨more, rfl, eq⟩ | ⟨more, rfl, eq⟩ := List.append_eq_append_iff.1 parts
  · exact ⟨more, rfl, eq⟩
  · cases more with
    | nil => exact ⟨[], by simp, eq.symm⟩
    | cons c more =>
      obtain ⟨rfl, -⟩ := List.cons.inj eq
      exact absurd (by simp) clean

theorem leaves_wholePart {t whole rest : Text} (h : wholePart? t = some (whole, rest)) :
    Leaves t rest ∧ rest.length < t.length := by
  unfold wholePart? at h
  split at h
  · obtain ⟨-, rfl⟩ := Prod.mk.inj (Option.some.inj h)
    exact ⟨.cons (by decide) (.refl _), by simp⟩
  · split at h
    · rename_i c rest' _ digit
      obtain ⟨-, rfl⟩ := Prod.mk.inj (Option.some.inj h)
      have shorter := (List.dropWhile_sublist (p := Char.isDigit) (l := rest')).length_le
      refine ⟨.cons ?_ (.digits rest'), Nat.lt_succ_of_le shorter⟩
      rintro rfl
      cases digit
    · cases h
  · cases h

theorem leaves_fractionPart (t : Text) : Leaves t (fractionPart t).2 := by
  unfold fractionPart
  split
  · split
    · exact .refl _
    · exact .cons (by decide) (.digits _)
  · exact .refl _

theorem leaves_exponentSign (t : Text) : Leaves t (exponentSign t).2 := by
  unfold exponentSign
  split
  · exact .cons (by decide) (.refl _)
  · exact .cons (by decide) (.refl _)
  · exact .refl _

theorem leaves_exponentPart (t : Text) : Leaves t (exponentPart t).2 := by
  unfold exponentPart
  split
  · split
    · rename_i c rest letter
      simp only
      split
      · exact .refl _
      · refine .cons ?_ ((leaves_exponentSign rest).trans (.digits _))
        rcases letter with rfl | rfl <;> decide
    · exact .refl _
  · exact .refl _

theorem leaves_unsigned {negative : Bool} {t rest : Text} {v : Json}
    (h : unsigned negative t = .ok (v, rest)) : Leaves t rest ∧ rest.length < t.length := by
  unfold unsigned at h
  split at h
  · cases h
  · rename_i whole rest' first
    obtain ⟨leaves, shorter⟩ := leaves_wholePart first
    have later := (leaves_fractionPart rest').trans (leaves_exponentPart (fractionPart rest').2)
    have last : rest = (exponentPart (fractionPart rest').2).2 := by
      simp only at h
      split at h
      · split at h
        · cases h
        · exact (Prod.mk.inj (Except.ok.inj h)).2.symm
      · exact (Prod.mk.inj (Except.ok.inj h)).2.symm
    subst last
    refine ⟨leaves.trans later, Nat.lt_of_le_of_lt ?_ shorter⟩
    obtain ⟨front, parts, -⟩ := later
    have length := congrArg List.length parts
    rw [List.length_append] at length
    omega

/-- A word or a number has characters, and none of them is a brace. -/
theorem leaves_scalar {t rest : Text} {v : Json} (h : scalar t = .ok (v, rest)) :
    Leaves t rest ∧ rest.length < t.length := by
  unfold scalar at h
  split at h
  · rename_i result found
    obtain rfl := Except.ok.inj h
    obtain ⟨⟨word, value⟩, mem, after⟩ := List.exists_of_findSome?_eq_some found
    obtain ⟨rest', behind, eq⟩ := Option.map_eq_some_iff.1 after
    obtain ⟨-, rfl⟩ := Prod.mk.inj eq
    have proper : ∀ w ∈ words, w.1 ≠ [] ∧ '\x7b' ∉ w.1 := by decide
    obtain ⟨filled, clean⟩ := proper _ mem
    obtain rfl := Text.after?_eq_some_iff.1 behind
    refine ⟨⟨word, rfl, clean⟩, ?_⟩
    rw [List.length_append]
    exact Nat.lt_add_of_pos_left (List.length_pos_of_ne_nil filled)
  · split at h
    · obtain ⟨leaves, shorter⟩ := leaves_unsigned h
      exact ⟨.cons (by decide) leaves, Nat.lt_succ_of_lt shorter⟩
    · exact leaves_unsigned h

/-! ### Behind other text -/

section Append

variable {w p rest : Text}

/-- What is left begins inside of the text `p` in front of the object `'{' :: w`. -/
def Within (w p rest : Text) : Prop := ∃ r, rest = r ++ '\x7b' :: w ∧ r.length < p.length

theorem Within.mono {p' : Text} (h : Within w p rest) (longer : p.length ≤ p'.length) :
    Within w p' rest := by
  obtain ⟨r, eq, shorter⟩ := h
  exact ⟨r, eq, Nat.lt_of_lt_of_le shorter longer⟩

/-- What is passed by a word or number is passed in front of the object. -/
theorem Leaves.within (leaves : Leaves (p ++ '\x7b' :: w) rest)
    (shorter : rest.length < (p ++ '\x7b' :: w).length) : Within w p rest := by
  obtain ⟨front, parts, clean⟩ := leaves
  obtain ⟨r, rfl, rfl⟩ := exists_of_append_eq clean parts.symm
  refine ⟨r, rfl, ?_⟩
  simp only [List.length_append] at shorter ⊢
  omega

theorem skipBlanks_append (p w : Text) :
    skipBlanks (p ++ '\x7b' :: w) = skipBlanks p ++ '\x7b' :: w := by
  induction p with
  | nil => rfl
  | cons c p ih =>
    by_cases blank : isBlank c = true
    · rw [List.cons_append, skipBlanks, List.dropWhile_cons_of_pos blank, ← skipBlanks, ih,
        skipBlanks, skipBlanks, List.dropWhile_cons_of_pos blank]
    · rw [List.cons_append, skipBlanks, List.dropWhile_cons_of_neg blank,
        skipBlanks, List.dropWhile_cons_of_neg blank, List.cons_append]

theorem length_skipBlanks_le (p : Text) : (skipBlanks p).length ≤ p.length :=
  (List.dropWhile_sublist _).length_le

/-- A mark behind blanks lies in front of the object, unless it is the brace. -/
theorem within_of_skipBlanks {c : Char} (other : c ≠ '\x7b')
    (mark : skipBlanks (p ++ '\x7b' :: w) = c :: rest) : Within w p rest := by
  have shorter := length_skipBlanks_le p
  rw [skipBlanks_append] at mark
  have clean : '\x7b' ∉ [c] := by simpa using other.symm
  obtain ⟨r, eq, rfl⟩ := exists_of_append_eq clean mark.symm
  rw [eq] at shorter
  exact ⟨r, rfl, shorter⟩

theorem Within.skipBlanks (h : Within w p rest) : Within w p (skipBlanks rest) := by
  obtain ⟨r, rfl, shorter⟩ := h
  exact ⟨_, skipBlanks_append r w, Nat.lt_of_le_of_lt (length_skipBlanks_le r) shorter⟩

theorem Within.mark {c : Char} {u : Text} (other : c ≠ '\x7b') (h : Within w p u)
    (mark : Json.skipBlanks u = c :: rest) : Within w p rest := by
  obtain ⟨r, rfl, shorter⟩ := h
  obtain ⟨r', rfl, shorter'⟩ := within_of_skipBlanks other mark
  exact ⟨r', rfl, Nat.lt_trans shorter' shorter⟩

/-- What is left behind a piece without braces is left inside of the text or of the object. -/
theorem within_or_of_append {front t u : Text} (clean : '\x7b' ∉ front)
    (parts : front ++ t = p ++ '\x7b' :: w)
    (later : ∀ p', t = p' ++ '\x7b' :: w → Within w p' rest ∨ rest = u) :
    Within w p rest ∨ rest = u := by
  obtain ⟨p', rfl, rfl⟩ := exists_of_append_eq clean parts
  refine (later p' rfl).imp_left fun within => within.mono ?_
  rw [List.length_append]
  omega

/-- A string ends in front of an object, or where the first name of the object begins. -/
theorem stringUnits?_append {t : Text} {s : CodePoints} (read : stringUnits? t = some (s, rest))
    (parts : t = p ++ '\x7b' :: '"' :: w) : Within ('"' :: w) p rest ∨ rest = w := by
  have inner {n : Nat} {found : Option (CodePoints × Text)} {s : CodePoints}
      (read : (found.map fun p => (n :: p.1, p.2)) = some (s, rest)) :
      ∃ s', found = some (s', rest) := by
    obtain ⟨⟨s', after⟩, first, eq⟩ := Option.map_eq_some_iff.1 read
    obtain ⟨-, rfl⟩ := Prod.mk.inj eq
    exact ⟨s', first⟩
  fun_induction stringUnits? t generalizing p s with
  | case1 => cases read
  | case2 t =>
    obtain ⟨-, rfl⟩ := Prod.mk.inj (Option.some.inj read)
    have clean : '\x7b' ∉ ['"'] := by decide
    obtain ⟨p', rfl, rfl⟩ := exists_of_append_eq clean parts
    exact .inl ⟨p', rfl, by simp⟩
  | case3 a b c d t hex ih =>
    obtain ⟨s', read⟩ := inner read
    have clean : '\x7b' ∉ ['\\', 'u', a, b, c, d] := fun mem => by
      have digits : '\x7b' ∈ [a, b, c, d] := by simpa using mem
      have digit := List.all_eq_true.1 hex _ digits
      revert digit
      decide
    exact within_or_of_append clean parts fun p' parts => ih read parts
  | case4 => cases read
  | case5 => cases read
  | case6 c t _ n escape ih =>
    obtain ⟨s', read⟩ := inner read
    have clean : '\x7b' ∉ ['\\', c] := fun mem => by
      obtain rfl : '\x7b' = c := by simpa using mem
      cases escape
    exact within_or_of_append clean parts fun p' parts => ih read parts
  | case7 => cases read
  | case8 c t _ _ _ _ ih =>
    obtain ⟨s', read⟩ := inner read
    cases p with
    | nil =>
      -- The quote of the first name closes the string.
      obtain ⟨rfl, rfl⟩ := List.cons.inj parts
      rw [stringUnits?] at read
      exact .inr (Prod.mk.inj (Option.some.inj read)).2.symm
    | cons c' p =>
      obtain ⟨rfl, rfl⟩ := List.cons.inj parts
      exact (ih read rfl).imp_left fun within => within.mono (Nat.le_succ _)

theorem string?_append {s : CodePoints}
    (read : string? (p ++ '\x7b' :: '"' :: w) = some (s, rest)) :
    Within ('"' :: w) p rest ∨ rest = w := by
  obtain ⟨⟨units, after⟩, first, eq⟩ := Option.map_eq_some_iff.1 read
  obtain ⟨-, rfl⟩ := Prod.mk.inj eq
  exact stringUnits?_append first rfl

end Append

/-! ### Readers in front of an object -/

section Readers

variable {w : Text}

/-- An object `'{' :: '"' :: w` whose first name begins with a letter, and which is read to its end. -/
structure IsObject (w : Text) : Prop where
  letter : ∃ c w', w = c :: w' ∧ c.isAlpha = true
  whole : ∀ fuel v rest, 2 * ('\x7b' :: '"' :: w).length < fuel →
    value fuel ('\x7b' :: '"' :: w) = .ok (v, rest) → rest = []

theorem IsObject.exists_skipBlanks (object : IsObject w) :
    ∃ c w', skipBlanks w = c :: w' ∧ c.isAlpha = true := by
  obtain ⟨c, w', rfl, letter⟩ := object.letter
  have solid : isBlank c = false := by
    refine Bool.eq_false_iff.2 fun blank => ?_
    simp only [isBlank, Bool.or_eq_true, beq_iff_eq] at blank
    rcases blank with ((rfl | rfl) | rfl) | rfl <;> cases letter
  exact ⟨c, w', skipBlanks_cons solid w', letter⟩

/-- A name that stands in the place of a mark is none. -/
theorem IsObject.no_mark (object : IsObject w) {c : Char} (other : c.isAlpha = false)
    (rest : Text) : skipBlanks w ≠ c :: rest := by
  obtain ⟨d, w', eq, letter⟩ := object.exists_skipBlanks
  rw [eq]
  intro same
  obtain ⟨rfl, -⟩ := List.cons.inj same
  rw [letter] at other
  cases other

/-- A value in front of an object leaves something of the text in front of it, or what stands
behind the quote of the first name; or nothing, if the value is the object. -/
def ValueStays (w : Text) (fuel : Nat) : Prop := ∀ p v rest,
  2 * (p ++ '\x7b' :: '"' :: w).length < fuel →
    value fuel (p ++ '\x7b' :: '"' :: w) = .ok (v, rest) →
      Within ('"' :: w) p rest ∨ rest = w ∨ p = [] ∧ rest = []

/-- The values of an array in front of an object leave something of the text in front of it. -/
def ItemsStay (w : Text) (fuel : Nat) : Prop := ∀ p vs rest,
  2 * (p ++ '\x7b' :: '"' :: w).length + 1 < fuel →
    items fuel (p ++ '\x7b' :: '"' :: w) = .ok (vs, rest) → Within ('"' :: w) p rest

/-- The fields of an object in front of another one leave something of the text in front of it. -/
def FieldsStay (w : Text) (fuel : Nat) : Prop := ∀ p fs rest,
  2 * (p ++ '\x7b' :: '"' :: w).length + 1 < fuel →
    fields fuel (p ++ '\x7b' :: '"' :: w) = .ok (fs, rest) → Within ('"' :: w) p rest

variable {fuel : Nat}

theorem valueStays_succ (object : IsObject w) (items : ItemsStay w fuel)
    (fields : FieldsStay w fuel) : ValueStays w (fuel + 1) := by
  intro p v rest enough read
  cases p with
  | nil => exact .inr (.inr ⟨rfl, object.whole _ v rest enough read⟩)
  | cons c p =>
    have shorter := length_skipBlanks_le p
    simp only [List.length_append, List.length_cons] at enough
    rw [List.cons_append] at read
    have inside {p' : Text} (le : p'.length ≤ p.length) (h : Within ('"' :: w) p' rest) :
        Within ('"' :: w) (c :: p) rest := h.mono (Nat.le_succ_of_le le)
    rcases value_cases read with ⟨u, s, parts, string⟩ | ⟨u, parts, array⟩ | ⟨u, parts, fs⟩ | scalar
    · obtain ⟨rfl, rfl⟩ := List.cons.inj parts
      exact (string?_append string).imp (inside (Nat.le_refl _)) .inl
    · obtain ⟨rfl, rfl⟩ := List.cons.inj parts
      rcases array with ends | ⟨vs, each⟩
      · exact .inl (inside (Nat.le_refl _) (within_of_skipBlanks (by decide) ends))
      · rw [skipBlanks_append] at each
        refine .inl (inside shorter (items _ _ _ ?_ each))
        simp only [List.length_append, List.length_cons]
        omega
    · obtain ⟨rfl, rfl⟩ := List.cons.inj parts
      rcases fs with ends | ⟨fs, each⟩
      · exact .inl (inside (Nat.le_refl _) (within_of_skipBlanks (by decide) ends))
      · rw [skipBlanks_append] at each
        refine .inl (inside shorter (fields _ _ _ ?_ each))
        simp only [List.length_append, List.length_cons]
        omega
    · obtain ⟨leaves, less⟩ := leaves_scalar scalar
      exact .inl (leaves.within less)

theorem itemsStay_succ (object : IsObject w) (value : ValueStays w fuel)
    (items : ItemsStay w fuel) : ItemsStay w (fuel + 1) := by
  intro p vs rest enough read
  obtain ⟨v, u, first, next⟩ := items_cases read
  rcases value p v u (by omega) first with within | rfl | ⟨-, rfl⟩
  · rcases next with ends | ⟨more, vs', comma, later⟩
    · exact within.mark (by decide) ends
    · obtain ⟨r, eq, shorter⟩ := (within.mark (by decide) comma).skipBlanks
      rw [eq] at later
      refine (items r vs' rest ?_ later).mono (Nat.le_of_lt shorter)
      simp only [List.length_append, List.length_cons] at enough ⊢
      omega
  · rcases next with ends | ⟨more, vs', comma, -⟩
    · exact absurd ends (object.no_mark (by decide) rest)
    · exact absurd comma (object.no_mark (by decide) more)
  · rcases next with ends | ⟨more, vs', comma, -⟩
    · cases ends
    · cases comma

theorem fieldsStay_succ (object : IsObject w) (value : ValueStays w fuel)
    (fields : FieldsStay w fuel) : FieldsStay w (fuel + 1) := by
  intro p fs rest enough read
  obtain ⟨u, name, r, r', v, u', parts, string, colon, first, next⟩ := fields_cases read
  cases p with
  | nil => cases (List.cons.inj parts).1
  | cons c p =>
    obtain ⟨rfl, rfl⟩ := List.cons.inj parts
    simp only [List.length_append, List.length_cons] at enough
    rcases string?_append string with within | rfl
    · obtain ⟨p₁, eq, shorter⟩ := (within.mark (by decide) colon).skipBlanks
      rw [eq] at first
      have stays := value p₁ v u' (by simp only [List.length_append, List.length_cons]; omega) first
      rcases stays with within | rfl | ⟨-, rfl⟩
      · have within : Within ('"' :: w) ('"' :: p) u' :=
          within.mono (by rw [List.length_cons]; omega)
        rcases next with ends | ⟨more, fs', comma, later⟩
        · exact within.mark (by decide) ends
        · obtain ⟨p₂, eq, shorter⟩ := (within.mark (by decide) comma).skipBlanks
          rw [eq] at later
          rw [List.length_cons] at shorter
          refine (fields p₂ fs' rest ?_ later).mono (by rw [List.length_cons]; omega)
          simp only [List.length_append, List.length_cons]
          omega
      · rcases next with ends | ⟨more, fs', comma, -⟩
        · exact absurd ends (object.no_mark (by decide) rest)
        · exact absurd comma (object.no_mark (by decide) more)
      · rcases next with ends | ⟨more, fs', comma, -⟩
        · cases ends
        · cases comma
    · exact absurd colon (object.no_mark (by decide) r')

/-- **The readers leave something of the text in front of an object.** -/
theorem stay (object : IsObject w) (fuel : Nat) :
    ValueStays w fuel ∧ ItemsStay w fuel ∧ FieldsStay w fuel := by
  induction fuel with
  | zero =>
    refine ⟨fun p v rest enough _ => ?_, fun p vs rest enough _ => ?_, fun p fs rest enough _ => ?_⟩
    all_goals omega
  | succ fuel ih =>
    obtain ⟨value, items, fields⟩ := ih
    exact ⟨valueStays_succ object items fields, itemsStay_succ object value items,
      fieldsStay_succ object value fields⟩

/-- **Text in front of an object does not make a value of it**, unless it is blank. -/
theorem parse_append_ne_ok (object : IsObject w) {p : Text} (filled : skipBlanks p ≠ []) (v : Json) :
    parse (p ++ '\x7b' :: '"' :: w) ≠ .ok v := by
  intro read
  rw [parse] at read
  split at read
  · cases read
  · rename_i v rest first
    split at read
    · rename_i ends
      have nothing : skipBlanks rest = [] := List.isEmpty_iff.1 ends
      have shorter := length_skipBlanks_le p
      rw [skipBlanks_append] at first
      have stays := (stay object _).1 _ _ _
        (by simp only [List.length_append, List.length_cons]; omega) first
      rcases stays with ⟨r, rfl, -⟩ | rfl | ⟨blank, -⟩
      · rw [skipBlanks_append] at nothing
        exact List.append_ne_nil_of_right_ne_nil _ (List.cons_ne_nil _ _) nothing
      · obtain ⟨c, w', eq, -⟩ := object.exists_skipBlanks
        rw [eq] at nothing
        cases nothing
      · exact filled blank
    · cases read

end Readers

end SolutionSweep.Json
