import SolutionSweep.Json.Printer
import SolutionSweep.Proofs.Text.Numeral

/-!
# Written JSON is printable

A value is written with printable characters of ASCII only, so that it stays on one line whatever
texts it is made of.

* `Json.isPlain_render`: the characters of a written value;
* `Json.newline_not_mem_render`: a written value is one line.
-/

namespace SolutionSweep

/-- The printable characters of ASCII. -/
def isPlain (c : Char) : Bool := 0x20 ≤ c.toNat && c.toNat ≤ 0x7e

/-- Texts of printable ASCII. -/
def Text.IsPlain (t : Text) : Prop := ∀ c ∈ t, isPlain c = true

instance (t : Text) : Decidable t.IsPlain :=
  decidable_of_iff (t.all isPlain = true) List.all_eq_true

namespace Text.IsPlain

variable {s t : Text}

theorem nil : IsPlain [] := fun _ mem => nomatch mem

theorem append (hs : IsPlain s) (ht : IsPlain t) : IsPlain (s ++ t) := by
  intro c mem
  exact (List.mem_append.1 mem).elim (hs c) (ht c)

theorem cons {c : Char} (hc : isPlain c = true) (ht : IsPlain t) : IsPlain (c :: t) := by
  intro d mem
  obtain rfl | mem := List.mem_cons.1 mem
  · exact hc
  · exact ht d mem

theorem of_subset (ht : IsPlain t) (sub : s ⊆ t) : IsPlain s := fun c mem => ht c (sub mem)

theorem replicate {c : Char} (hc : isPlain c = true) (n : Nat) :
    IsPlain (List.replicate n c) := by
  intro d mem
  rw [List.eq_of_mem_replicate mem]
  exact hc

theorem flatMap {α : Type} {xs : List α} {f : α → Text} (h : ∀ x ∈ xs, IsPlain (f x)) :
    IsPlain (xs.flatMap f) := by
  intro c mem
  obtain ⟨x, hx, hc⟩ := List.mem_flatMap.1 mem
  exact h x hx c hc

theorem join {sep : Text} {pieces : List Text} (hsep : IsPlain sep)
    (h : ∀ piece ∈ pieces, IsPlain piece) : IsPlain (Text.join sep pieces) := by
  unfold Text.join
  induction pieces with
  | nil => exact .nil
  | cons piece rest ih =>
    have first := h piece List.mem_cons_self
    have others := ih fun q mem => h q (List.mem_cons_of_mem _ mem)
    cases rest with
    | nil => simpa using first
    | cons next rest =>
      rw [List.intercalate_cons_cons]
      exact (first.append hsep).append others

end Text.IsPlain

/-! ### Numerals -/

theorem isPlain_of_isDigit {c : Char} (h : c.isDigit = true) : isPlain c = true := by
  simp only [Char.isDigit, Bool.and_eq_true, decide_eq_true_eq, ge_iff_le, UInt32.le_iff_toNat_le]
    at h
  have low : 0x30 ≤ c.toNat := h.1
  have high : c.toNat ≤ 0x39 := h.2
  simp only [isPlain, Bool.and_eq_true, decide_eq_true_eq]
  omega

theorem isPlain_ofNat (n : Nat) : Text.IsPlain (Text.ofNat n) := fun _ mem =>
  isPlain_of_isDigit (isDigit_of_mem_ofNat mem)

theorem isPlain_ofInt (n : Int) : Text.IsPlain (Text.ofInt n) := by
  cases n with
  | ofNat n => exact isPlain_ofNat n
  | negSucc n => exact .cons (by decide) (isPlain_ofNat (n + 1))

theorem isPlain_ofNatPadded (width n : Nat) : Text.IsPlain (Text.ofNatPadded width n) :=
  .append (.replicate (by decide) _) (isPlain_ofNat n)

theorem isPlain_hexPadded (width n : Nat) : Text.IsPlain (hexPadded width n) := by
  induction width generalizing n with
  | zero => exact .nil
  | succ width ih =>
    have digits : ∀ d < 16, isPlain (hexDigit d) = true := by decide
    exact (ih _).append (.cons (digits _ (Nat.mod_lt _ (by decide))) .nil)

namespace Double

theorem isPlain_exponentText (e : Int) : Text.IsPlain (exponentText e) := by
  unfold exponentText
  refine .append ?_ (isPlain_ofNatPadded 2 _)
  split <;> decide

theorem isPlain_layout {digits : Text} (plain : Text.IsPlain digits) (place : Int) :
    Text.IsPlain (layout digits place) := by
  unfold layout
  split
  · match digits with
    | [] => exact .nil
    | [d] => exact .cons (plain d List.mem_cons_self) (isPlain_exponentText _)
    | d :: d' :: rest =>
      refine .cons (plain d List.mem_cons_self) (.cons (by decide) (.append ?_ ?_))
      · exact plain.of_subset (List.subset_cons_self _ _)
      · exact isPlain_exponentText _
  · split
    · exact .append (.append (by decide) (.replicate (by decide) _)) plain
    · refine .append (.append (plain.of_subset (List.take_subset _ _))
        (.replicate (by decide) _)) (.cons (by decide) ?_)
      split
      · exact .cons (by decide) .nil
      · exact plain.of_subset (List.drop_subset _ _)

theorem isPlain_shortest (mantissa : Nat) (exponent : Int) :
    Text.IsPlain (shortest mantissa exponent).1 := by
  unfold shortest
  simp only
  split
  · decide
  · rename_i k unit found
    refine (isPlain_ofNat k).of_subset fun c mem => ?_
    exact List.mem_reverse.1 ((List.dropWhile_sublist _).subset (List.mem_reverse.1 mem))

/-- A number is written with printable ASCII, if the words for what is no number are. -/
theorem isPlain_render {words : Words} (infinity : Text.IsPlain words.infinity)
    (undefined : Text.IsPlain words.undefined) (x : Double) :
    Text.IsPlain (x.render words) := by
  have sign (negative : Bool) : Text.IsPlain (if negative then ['-'] else []) := by
    cases negative <;> decide
  cases x with
  | undefined => exact undefined
  | infinite negative => exact (sign negative).append infinity
  | finite negative mantissa exponent =>
    refine (sign negative).append ?_
    split
    · decide
    · exact isPlain_layout (isPlain_shortest mantissa exponent) _

end Double

/-! ### Values -/

namespace Json

theorem isPlain_escaped (n : Nat) : Text.IsPlain (escaped n) := by
  have unit (n : Nat) : Text.IsPlain (unitEscape n) :=
    .cons (by decide) (.cons (by decide) (isPlain_hexPadded 4 n))
  have self (low : 0x20 ≤ n) (high : n ≤ 0x7e) : Text.IsPlain [Char.ofNat n] := by
    have valid : n.isValidChar := .inl (by omega)
    have code : (Char.ofNat n).toNat = n := by
      rw [Char.ofNat, dif_pos valid]
      rfl
    refine .cons ?_ .nil
    simp [isPlain, code, low, high]
  unfold escaped
  repeat' split
  all_goals first
    | decide
    | exact self ‹0x20 ≤ n ∧ n ≤ 0x7e›.1 ‹0x20 ≤ n ∧ n ≤ 0x7e›.2
    | exact unit _
    | exact (unit _).append (unit _)

theorem isPlain_renderString (s : CodePoints) : Text.IsPlain (renderString s) :=
  .cons (by decide) (.append (.flatMap fun n _ => isPlain_escaped n)
    (.cons (by decide) .nil))

theorem isPlain_renderField {name : CodePoints} {value : Text} (h : Text.IsPlain value) :
    Text.IsPlain (renderField (name, value)) :=
  .append (.append (isPlain_renderString name) (by decide)) h

mutual

/-- **A written value** consists of printable characters of ASCII. -/
theorem isPlain_render : (v : Json) → Text.IsPlain v.render
  | .null => by decide
  | .bool b => by cases b <;> decide
  | .integer n => isPlain_ofInt n
  | .real x => Double.isPlain_render (by decide) (by decide) x
  | .text s => isPlain_renderString s
  | .array items =>
    .append (.cons (by decide) (.join (by decide) (isPlain_renderItems items))) (by decide)
  | .object fields => by
    refine .append (.cons (by decide) (.join (by decide) fun t mem => ?_)) (by decide)
    obtain ⟨f, written, rfl⟩ := List.mem_map.1 mem
    exact isPlain_renderField (isPlain_renderFields fields f (List.mem_mergeSort.1 written))

theorem isPlain_renderItems : (items : List Json) → ∀ t ∈ renderItems items, Text.IsPlain t
  | [] => fun _ mem => nomatch mem
  | item :: rest => by
    intro t mem
    obtain rfl | mem := List.mem_cons.1 mem
    · exact isPlain_render item
    · exact isPlain_renderItems rest t mem

theorem isPlain_renderFields :
    (fields : List (CodePoints × Json)) → ∀ f ∈ renderFields fields, Text.IsPlain f.2
  | [] => fun _ mem => nomatch mem
  | (name, value) :: rest => by
    intro f mem
    obtain rfl | mem := List.mem_cons.1 mem
    · exact isPlain_render value
    · exact isPlain_renderFields rest f mem

end

/-- A written value stays on one line. -/
theorem newline_not_mem_render (v : Json) : '\n' ∉ v.render := fun mem =>
  absurd (isPlain_render v _ mem) (by decide)

end Json

end SolutionSweep
