import SolutionSweep.Proofs.Json.Number
import SolutionSweep.Proofs.Json.Sorted
import SolutionSweep.Proofs.Text.Pieces

/-!
# Reading back what has been written

A value that is written on one line is read back with sorted fields. The lemmas about the parts of a
value say what is read with anything behind it; a number wants something behind it that does not
go on with it.

* `Json.Recordable`: values that are read back;
* `Json.string?_renderString`: strings;
* `Json.readsBack`: a value with something behind it;
* `Json.parse_render`, `Json.alike_sorted`: a value is read back, and holds what it held.
-/

namespace SolutionSweep

/-! ### Hexadecimal numerals -/

theorem hexValue_hexDigit : ∀ d < 16, hexValue (hexDigit d) = d := by decide

theorem isHexDigit_hexDigit : ∀ d < 16, isHexDigit (hexDigit d) = true := by decide

/-- A number is read back from enough hexadecimal digits. -/
theorem hexValueOf_hexPadded {width n : Nat} (small : n < Nat.pow 16 width) :
    hexValueOf (hexPadded width n) = n := by
  induction width generalizing n with
  | zero =>
    have : n < 1 := small
    obtain rfl : n = 0 := by omega
    rfl
  | succ width ih =>
    have step : Nat.pow 16 (width + 1) = Nat.pow 16 width * 16 := rfl
    have front := ih (n := n / 16) (by omega)
    rw [hexValueOf] at front ⊢
    rw [hexPadded, List.foldl_append, front, List.foldl_cons, List.foldl_nil,
      hexValue_hexDigit _ (Nat.mod_lt _ (by decide))]
    omega

theorem all_isHexDigit_hexPadded (width n : Nat) :
    (hexPadded width n).all isHexDigit = true := by
  induction width generalizing n with
  | zero => rfl
  | succ width ih =>
    simp [hexPadded, ih, isHexDigit_hexDigit _ (Nat.mod_lt n (by decide))]

theorem length_hexPadded (width n : Nat) : (hexPadded width n).length = width := by
  induction width generalizing n with
  | zero => rfl
  | succ width ih => simp [hexPadded, ih]

namespace Json

/-! ### Strings -/

/-- An escaped unit is read as it is, whatever follows it. -/
theorem stringUnits?_unitEscape {n : Nat} (small : n < 0x10000) (rest : Text) :
    stringUnits? (unitEscape n ++ rest) =
      (stringUnits? rest).map fun r => (n :: r.1, r.2) := by
  obtain ⟨a, b, c, d, digits⟩ := List.length_eq_four.1 (length_hexPadded 4 n)
  have hex := all_isHexDigit_hexPadded 4 n
  have value : hexValueOf (hexPadded 4 n) = n := hexValueOf_hexPadded small
  rw [digits] at hex value
  rw [unitEscape, digits]
  simp only [List.cons_append, List.nil_append]
  rw [stringUnits?, if_pos hex, value]

theorem stringUnits?_plain {n : Nat} (low : 0x20 ≤ n) (high : n ≤ 0x7e) (quote : n ≠ 0x22)
    (backslash : n ≠ 0x5c) (rest : Text) :
    stringUnits? (Char.ofNat n :: rest) = (stringUnits? rest).map fun r => (n :: r.1, r.2) := by
  have valid : n.isValidChar := .inl (by omega)
  have code : (Char.ofNat n).toNat = n := by
    rw [Char.ofNat, dif_pos valid]
    rfl
  have other (c : Char) (ne : n ≠ c.toNat) : Char.ofNat n ≠ c := by
    rintro rfl
    exact ne code.symm
  rw [stringUnits?, code, if_neg]
  · rw [not_or]
    exact ⟨other '\\' backslash, by omega⟩
  · exact other '"' quote
  · exact fun _ _ _ _ _ eq => absurd eq (other '\\' backslash)
  · exact fun _ _ eq => absurd eq (other '\\' backslash)

/-- A code point is read as the units that spell it, whatever follows it. -/
theorem stringUnits?_escaped {n : Nat} (small : n < 0x110000) (rest : Text) :
    stringUnits? (escaped n ++ rest) =
      (stringUnits? rest).map fun r => (CodePoints.units n ++ r.1, r.2) := by
  have one (basic : n < 0x10000) : CodePoints.units n = [n] := if_pos basic
  have letter {c : Char} {m : Nat} (stands : escape? c = some m) (notU : c ≠ 'u')
      (basic : m < 0x10000) : stringUnits? ('\\' :: c :: rest) =
        (stringUnits? rest).map fun r => (CodePoints.units m ++ r.1, r.2) := by
    rw [CodePoints.units, if_pos basic, stringUnits?, stands]
    · rfl
    · exact fun _ _ _ _ _ eq => absurd eq notU
  unfold escaped
  split
  case isTrue eq => subst eq; exact letter rfl (by decide) (by decide)
  split
  case isTrue eq => subst eq; exact letter rfl (by decide) (by decide)
  split
  case isTrue eq => subst eq; exact letter rfl (by decide) (by decide)
  split
  case isTrue eq => subst eq; exact letter rfl (by decide) (by decide)
  split
  case isTrue eq => subst eq; exact letter rfl (by decide) (by decide)
  split
  case isTrue eq => subst eq; exact letter rfl (by decide) (by decide)
  split
  case isTrue eq => subst eq; exact letter rfl (by decide) (by decide)
  split
  case isTrue printable =>
    rw [List.singleton_append, one (by omega)]
    exact stringUnits?_plain printable.1 printable.2 (by assumption) (by assumption) rest
  split
  case isTrue basic =>
    rw [one basic]
    exact stringUnits?_unitEscape basic rest
  case isFalse above =>
    rw [CodePoints.units, if_neg above, List.append_assoc, stringUnits?_unitEscape (by omega),
      stringUnits?_unitEscape (by omega), Option.map_map]
    rfl

theorem stringUnits?_flatMap_escaped {s : CodePoints} (small : ∀ n ∈ s, n < 0x110000)
    (rest : Text) :
    stringUnits? (s.flatMap escaped ++ '"' :: rest) = some (CodePoints.spelled s, rest) := by
  induction s with
  | nil => rfl
  | cons n s ih =>
    rw [List.flatMap_cons, List.append_assoc, stringUnits?_escaped (small n List.mem_cons_self),
      ih fun m mem => small m (List.mem_cons_of_mem n mem)]
    rfl

/-- **A string is read back**, whatever follows it. -/
theorem string?_renderString {s : CodePoints} (legible : s.IsLegible) (rest : Text) :
    ∃ t, renderString s ++ rest = '"' :: t ∧ string? t = some (s, rest) := by
  refine ⟨s.flatMap escaped ++ '"' :: rest, by simp [renderString], ?_⟩
  have joined := CodePoints.joinSurrogates_spelled legible
  simp only [string?, stringUnits?_flatMap_escaped legible.1, Option.map_some, joined]

/-! ### Values -/

/-- Values that are read back: integers are not too long, texts hold no split pairs, and the fields
of an object have distinct names. -/
inductive Recordable : Json → Prop
  | null : Recordable .null
  | bool (b : Bool) : Recordable (.bool b)
  | integer {n : Int} (short : (Text.ofNat n.natAbs).length ≤ maxDigits) : Recordable (.integer n)
  | real {x : Double} (valid : x.Valid) : Recordable (.real x)
  | text {s : CodePoints} (legible : s.IsLegible) : Recordable (.text s)
  | array {items : List Json} (each : ∀ v ∈ items, Recordable v) : Recordable (.array items)
  | object {fields : List (CodePoints × Json)} (distinct : (fields.map (·.1)).Nodup)
      (names : ∀ f ∈ fields, f.1.IsLegible) (each : ∀ f ∈ fields, Recordable f.2) :
      Recordable (.object fields)

/-- The characters that a word or a number may begin with: nothing else does, and they are no
blanks. -/
def IsPlain (c : Char) : Prop :=
  isBlank c = false ∧ c ≠ ']' ∧ c ≠ '"' ∧ c ≠ '[' ∧ c ≠ '\x7b'

instance (c : Char) : Decidable (IsPlain c) :=
  inferInstanceAs (Decidable (isBlank c = false ∧ c ≠ ']' ∧ c ≠ '"' ∧ c ≠ '[' ∧ c ≠ '\x7b'))

theorem isPlain_of_isDigit {c : Char} (digit : c.isDigit = true) : IsPlain c := by
  have other (d : Char) (letter : d.isDigit = false) : c ≠ d := by
    rintro rfl
    rw [letter] at digit
    cases digit
  refine ⟨?_, other _ rfl, other _ rfl, other _ rfl, other _ rfl⟩
  simp [isBlank, other ' ' rfl, other '\t' rfl, other '\n' rfl, other '\r' rfl]

theorem isPlain_minus : IsPlain '-' := by decide

theorem exists_head_ofInt (n : Int) : ∃ c t, Text.ofInt n = c :: t ∧ IsPlain c := by
  obtain ⟨c, t, digit, ⟨-, text, -⟩ | ⟨-, text, -⟩⟩ := exists_ofInt_eq n
  · exact ⟨c, t, text, isPlain_of_isDigit digit⟩
  · exact ⟨'-', c :: t, text, isPlain_minus⟩

theorem exists_head_double {x : Double} (valid : x.Valid) :
    ∃ c t, x.render doubleWords = c :: t ∧ IsPlain c := by
  cases x with
  | undefined => exact ⟨'N', _, rfl, by decide⟩
  | infinite negative => cases negative <;> exact ⟨_, _, rfl, by decide⟩
  | finite negative m e =>
    obtain ⟨y, reads, -⟩ := readsNearest_magnitude valid
    obtain ⟨c, t, parts, digit⟩ := reads.exists_head
    cases negative with
    | false => exact ⟨c, t, parts, isPlain_of_isDigit digit⟩
    | true => exact ⟨'-', c :: t, congrArg ('-' :: ·) parts, isPlain_minus⟩

/-- A value begins with no blank and no bracket. -/
theorem Recordable.exists_head {v : Json} (h : Recordable v) :
    ∃ c t, v.render = c :: t ∧ isBlank c = false ∧ c ≠ ']' := by
  cases h with
  | null => exact ⟨'n', _, rfl, by decide⟩
  | bool b => cases b <;> exact ⟨_, _, rfl, by decide⟩
  | @integer n short =>
    obtain ⟨c, t, parts, solid, other, -⟩ := exists_head_ofInt n
    exact ⟨c, t, parts, solid, other⟩
  | real valid =>
    obtain ⟨c, t, parts, solid, other, -⟩ := exists_head_double valid
    exact ⟨c, t, parts, solid, other⟩
  | text legible => exact ⟨'"', _, rfl, by decide⟩
  | array each => exact ⟨'[', _, rfl, by decide⟩
  | object distinct names each => exact ⟨'\x7b', _, rfl, by decide⟩

theorem skipBlanks_cons {c : Char} (h : isBlank c = false) (t : Text) :
    skipBlanks (c :: t) = c :: t :=
  List.dropWhile_cons_of_neg (by simp [h])

theorem Recordable.skipBlanks_append {v : Json} (h : Recordable v) (rest : Text) :
    skipBlanks (v.render ++ rest) = v.render ++ rest := by
  obtain ⟨c, t, parts, solid, -⟩ := h.exists_head
  rw [parts, List.cons_append, skipBlanks_cons solid]

section Steps

variable {fuel : Nat} {t u rest : Text} {v : Json} {vs : List Json} {name : CodePoints}
  {fs : List (CodePoints × Json)}

/-- The last value of an array. -/
theorem items_last (first : value fuel t = .ok (v, ']' :: rest)) :
    items (fuel + 1) t = .ok ([v], rest) := by
  rw [items, first]
  rfl

/-- A value of an array and those behind it. -/
theorem items_next (first : value fuel t = .ok (v, ',' :: ' ' :: u)) (solid : skipBlanks u = u)
    (later : items fuel u = .ok (vs, rest)) : items (fuel + 1) t = .ok (v :: vs, rest) := by
  have skipped : skipBlanks (' ' :: u) = u := solid
  rw [items, first]
  simp only
  rw [skipBlanks_cons (by decide)]
  simp only
  rw [skipped, later]

/-- The last field of an object. -/
theorem fields_last (string : string? t = some (name, ':' :: ' ' :: u))
    (solid : skipBlanks u = u) (first : value fuel u = .ok (v, '\x7d' :: rest)) :
    fields (fuel + 1) ('"' :: t) = .ok ([(name, v)], rest) := by
  have skipped : skipBlanks (' ' :: u) = u := solid
  rw [fields, string]
  simp only
  rw [skipBlanks_cons (by decide)]
  simp only
  rw [skipped, first]
  rfl

/-- A field of an object and those behind it. -/
theorem fields_next {w : Text} (string : string? t = some (name, ':' :: ' ' :: u))
    (solid : skipBlanks u = u) (first : value fuel u = .ok (v, ',' :: ' ' :: w))
    (solid' : skipBlanks w = w) (later : fields fuel w = .ok (fs, rest)) :
    fields (fuel + 1) ('"' :: t) = .ok ((name, v) :: fs, rest) := by
  have skipped : skipBlanks (' ' :: u) = u := solid
  have skipped' : skipBlanks (' ' :: w) = w := solid'
  rw [fields, string]
  simp only
  rw [skipBlanks_cons (by decide)]
  simp only
  rw [skipped, first]
  simp only
  rw [skipBlanks_cons (by decide)]
  simp only
  rw [skipped', later]

theorem value_array (solid : skipBlanks t = t) (filled : t.head? ≠ some ']')
    (read : items fuel t = .ok (vs, rest)) : value (fuel + 1) ('[' :: t) = .ok (.array vs, rest) := by
  rw [value, solid]
  split
  · exact absurd rfl filled
  · rw [read]

theorem value_object (solid : skipBlanks t = t) (filled : t.head? ≠ some '\x7d')
    (read : fields fuel t = .ok (fs, rest)) :
    value (fuel + 1) ('\x7b' :: t) = .ok (.object (lastValues fs), rest) := by
  rw [value, solid]
  split
  · exact absurd rfl filled
  · rw [read]

/-- What begins neither a string nor an array nor an object is a word or a number. -/
theorem value_scalar {c : Char} (plain : IsPlain c) :
    value (fuel + 1) (c :: t) = scalar (c :: t) := by
  obtain ⟨-, -, string, array, object⟩ := plain
  rw [value]
  · exact fun _ eq => string (List.cons.inj eq).1
  · exact fun _ eq => array (List.cons.inj eq).1
  · exact fun _ eq => object (List.cons.inj eq).1

end Steps

/-- A value is read back with anything behind it that does not go on with a number. -/
def ReadsBack (v : Json) : Prop := ∀ fuel rest, 2 * v.render.length < fuel → IsDelimited rest →
  value fuel (v.render ++ rest) = .ok (v.sorted, rest)

/-- Values as they stand in an array. -/
def itemsText (vs : List Json) : Text := Text.join ", ".toList (vs.map render)

/-- Fields as they stand in an object. -/
def fieldsText (fs : List (CodePoints × Json)) : Text :=
  Text.join ", ".toList (fs.map fun f => renderField (f.1, f.2.render))

theorem itemsText_singleton (v : Json) : itemsText [v] = v.render := by
  simp [itemsText, Text.join]

theorem itemsText_cons_cons (v w : Json) (vs : List Json) :
    itemsText (v :: w :: vs) = v.render ++ ',' :: ' ' :: itemsText (w :: vs) :=
  Text.join_cons_cons _ _ _ _

theorem fieldsText_singleton (f : CodePoints × Json) :
    fieldsText [f] = renderField (f.1, f.2.render) := by
  simp [fieldsText, Text.join]

theorem fieldsText_cons_cons (f g : CodePoints × Json) (fs : List (CodePoints × Json)) :
    fieldsText (f :: g :: fs) =
      renderField (f.1, f.2.render) ++ ',' :: ' ' :: fieldsText (g :: fs) :=
  Text.join_cons_cons _ _ _ _

/-- The values of an array begin like the first one, those of an object with a quote. -/
theorem exists_itemsText_eq (v : Json) (vs : List Json) :
    ∃ t, itemsText (v :: vs) = v.render ++ t := by
  cases vs with
  | nil => exact ⟨[], by rw [itemsText_singleton, List.append_nil]⟩
  | cons w vs => exact ⟨_, itemsText_cons_cons v w vs⟩

theorem exists_fieldsText_eq (f : CodePoints × Json) (fs : List (CodePoints × Json)) :
    ∃ t, fieldsText (f :: fs) = '"' :: t := by
  cases fs with
  | nil => exact ⟨_, fieldsText_singleton f⟩
  | cons g fs => exact ⟨_, fieldsText_cons_cons f g fs⟩

/-- The values of an array are read back one after the other. -/
theorem items_itemsText {vs : List Json} (some_item : vs ≠ []) (recordable : ∀ v ∈ vs, Recordable v)
    (read : ∀ v ∈ vs, ReadsBack v) (rest : Text) (fuel : Nat)
    (enough : 2 * (itemsText vs).length + 1 < fuel) :
    items fuel (itemsText vs ++ ']' :: rest) = .ok (vs.map sorted, rest) := by
  induction vs generalizing fuel with
  | nil => exact absurd rfl some_item
  | cons v vs ih =>
    obtain ⟨fuel, rfl⟩ : ∃ n, fuel = n + 1 := ⟨fuel - 1, by omega⟩
    have first := read v List.mem_cons_self fuel
    cases vs with
    | nil =>
      rw [itemsText_singleton] at enough ⊢
      exact items_last (first _ (by omega) (.cons (by decide) rest))
    | cons w vs =>
      have later := ih (List.cons_ne_nil w vs)
        (fun u mem => recordable u (List.mem_cons_of_mem v mem))
        (fun u mem => read u (List.mem_cons_of_mem v mem)) fuel
      rw [itemsText_cons_cons] at enough ⊢
      simp only [List.length_append, List.length_cons] at enough
      rw [List.append_assoc, List.cons_append, List.cons_append]
      refine items_next (first _ (by omega) (.cons (by decide) _)) ?_ (later (by omega))
      obtain ⟨t, parts⟩ := exists_itemsText_eq w vs
      rw [parts, List.append_assoc]
      exact (recordable w (by simp)).skipBlanks_append _

/-- A field with something behind it, up to its value. -/
theorem string?_renderField {name : CodePoints} (legible : name.IsLegible) (value rest : Text) :
    ∃ t, renderField (name, value) ++ rest = '"' :: t ∧
      string? t = some (name, ':' :: ' ' :: (value ++ rest)) := by
  obtain ⟨t, parts, string⟩ := string?_renderString legible (':' :: ' ' :: (value ++ rest))
  refine ⟨t, ?_, string⟩
  rw [← parts, renderField, List.append_assoc, List.append_assoc]
  rfl

/-- The fields of an object are read back one after the other. -/
theorem fields_fieldsText {fs : List (CodePoints × Json)} (some_field : fs ≠ [])
    (names : ∀ f ∈ fs, f.1.IsLegible) (recordable : ∀ f ∈ fs, Recordable f.2)
    (read : ∀ f ∈ fs, ReadsBack f.2) (rest : Text) (fuel : Nat)
    (enough : 2 * (fieldsText fs).length + 1 < fuel) :
    fields fuel (fieldsText fs ++ '\x7d' :: rest) =
      .ok (fs.map fun f => (f.1, f.2.sorted), rest) := by
  induction fs generalizing fuel with
  | nil => exact absurd rfl some_field
  | cons f fs ih =>
    obtain ⟨fuel, rfl⟩ : ∃ n, fuel = n + 1 := ⟨fuel - 1, by omega⟩
    have first := read f List.mem_cons_self fuel
    have legible := names f List.mem_cons_self
    have recorded := recordable f List.mem_cons_self
    have shorter : f.2.render.length ≤ (renderField (f.1, f.2.render)).length := by
      simp only [renderField, List.length_append]
      omega
    cases fs with
    | nil =>
      rw [fieldsText_singleton] at enough ⊢
      obtain ⟨t, parts, string⟩ := string?_renderField legible f.2.render ('\x7d' :: rest)
      rw [parts]
      exact fields_last string (recorded.skipBlanks_append _)
        (first _ (by omega) (.cons (by decide) rest))
    | cons g fs =>
      have later := ih (List.cons_ne_nil g fs)
        (fun u mem => names u (List.mem_cons_of_mem f mem))
        (fun u mem => recordable u (List.mem_cons_of_mem f mem))
        (fun u mem => read u (List.mem_cons_of_mem f mem)) fuel
      rw [fieldsText_cons_cons] at enough ⊢
      simp only [List.length_append, List.length_cons] at enough
      obtain ⟨t, parts, string⟩ := string?_renderField legible f.2.render
        (',' :: ' ' :: (fieldsText (g :: fs) ++ '\x7d' :: rest))
      rw [List.append_assoc, List.cons_append, List.cons_append, parts]
      refine fields_next string (recorded.skipBlanks_append _)
        (first _ (by omega) (.cons (by decide) _)) ?_ (later (by omega))
      obtain ⟨u, quote⟩ := exists_fieldsText_eq g fs
      rw [quote]
      exact skipBlanks_cons (by decide) _

/-- **A value is read back** with sorted fields, whatever follows it, unless it goes on with a
number. -/
theorem readsBack {v : Json} (h : Recordable v) : ReadsBack v := by
  induction h with
  | null =>
    rintro (_ | fuel) rest enough -
    · omega
    · rfl
  | bool b =>
    rintro (_ | fuel) rest enough -
    · omega
    · cases b <;> rfl
  | @integer n short =>
    rintro (_ | fuel) rest enough delimited
    · omega
    · obtain ⟨c, t, parts, plain⟩ := exists_head_ofInt n
      have read := scalar_ofInt short delimited
      rw [parts, List.cons_append] at read
      rw [render, parts, List.cons_append, value_scalar plain, read]
      rfl
  | @real x valid =>
    rintro (_ | fuel) rest enough delimited
    · omega
    · obtain ⟨c, t, parts, plain⟩ := exists_head_double valid
      have read := scalar_render valid delimited
      rw [parts, List.cons_append] at read
      rw [render, parts, List.cons_append, value_scalar plain, read]
      rfl
  | @text s legible =>
    rintro (_ | fuel) rest enough -
    · omega
    · obtain ⟨t, parts, string⟩ := string?_renderString legible rest
      rw [render, parts, value, string]
      rfl
  | @array vs each ih =>
    rintro (_ | fuel) rest enough -
    · omega
    rw [sorted, sortedItems_eq]
    cases vs with
    | nil => rfl
    | cons v vs =>
      have whole : (Json.array (v :: vs)).render = '[' :: itemsText (v :: vs) ++ [']'] := by
        rw [render, renderItems_eq]
        rfl
      rw [whole] at enough ⊢
      simp only [List.length_append, List.length_cons, List.length_nil] at enough
      obtain ⟨t, parts⟩ := exists_itemsText_eq v vs
      have recorded := each v List.mem_cons_self
      rw [List.append_assoc, List.cons_append]
      refine value_array ?_ ?_ (items_itemsText (List.cons_ne_nil v vs) each ih rest fuel (by omega))
      · rw [parts, List.append_assoc]
        exact recorded.skipBlanks_append _
      · obtain ⟨c, u, first, -, other⟩ := recorded.exists_head
        rw [parts, first]
        exact fun eq => other (Option.some.inj eq)
  | @object fields distinct names each ih =>
    rintro (_ | fuel) rest enough -
    · omega
    rw [sorted_object]
    have whole : (Json.object fields).render = '\x7b' :: fieldsText (sortFields fields) ++ ['\x7d'] :=
      render_object fields
    have perm := sortFields_perm fields
    have table : lastValues ((sortFields fields).map fun f => (f.1, f.2.sorted)) =
        (sortFields fields).map fun f => (f.1, f.2.sorted) := by
      refine lastValues_eq_self ?_
      rw [List.map_map]
      exact (perm.map (·.1)).nodup_iff.2 distinct
    rw [whole] at enough ⊢
    cases ordered : sortFields fields with
    | nil => rfl
    | cons f fs =>
      rw [ordered] at enough table perm
      simp only [List.length_append, List.length_cons, List.length_nil] at enough
      obtain ⟨t, quote⟩ := exists_fieldsText_eq f fs
      rw [List.append_assoc, List.cons_append, ← table]
      refine value_object ?_ ?_ (fields_fieldsText (List.cons_ne_nil f fs)
        (fun g mem => names g (perm.mem_iff.1 mem)) (fun g mem => each g (perm.mem_iff.1 mem))
        (fun g mem => ih g (perm.mem_iff.1 mem)) rest fuel (by omega))
      · rw [quote]
        exact skipBlanks_cons (by decide) _
      · rw [quote]
        simp

/-- **A value that has been written is read back**, with sorted fields. -/
theorem parse_render {v : Json} (h : Recordable v) : parse v.render = .ok v.sorted := by
  have read := readsBack h (2 * v.render.length + 2) [] (by omega) .nil
  have solid := h.skipBlanks_append []
  rw [List.append_nil] at read solid
  rw [parse, solid, read]
  rfl

/-- What is read back holds what has been written. -/
theorem alike_sorted {v : Json} (h : Recordable v) : Alike v v.sorted := by
  induction h with
  | null => exact .same _
  | bool b => exact .same _
  | integer short => exact .same _
  | real valid => exact .same _
  | text legible => exact .same _
  | @array items each ih =>
    rw [sorted, sortedItems_eq]
    refine .array ?_
    rw [List.forall₂_map_right_iff, List.forall₂_same]
    exact ih
  | @object fields distinct names each ih =>
    rw [sorted_object]
    refine .object fun name => ?_
    rw [lookup_sorted distinct]
    cases found : fields.lookup name with
    | none => exact .none
    | some v => exact .some (ih _ (mem_of_lookup found))

end Json

end SolutionSweep
