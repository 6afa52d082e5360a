import SolutionSweep.Text.Basic

/-!
# UTF-8

The bytes of a file are read one by one; `Begun` is a character of which some bytes have been
seen. What the bytes spell is a list of characters and gaps, a gap for each longest run of bytes
that begins a character and does not complete one.

* `Utf8.encode`: the bytes of a text;
* `Utf8.decode?`: the text of bytes without gaps;
* `Utf8.decodeLossy`: the text with a replacement character for each gap;
* `Utf8.fault?`: where the first gap shows, and `Utf8.decodeStart`: the text before it.
-/

namespace SolutionSweep

/-- The contents of a file. -/
abbrev Bytes := List UInt8

namespace Utf8

/-- The bytes of a character. -/
def encodeChar (c : Char) : Bytes :=
  let n := c.toNat
  if n < 0x80 then [n.toUInt8]
  else if n < 0x800 then [(0xc0 + n / 64).toUInt8, (0x80 + n % 64).toUInt8]
  else if n < 0x10000 then
    [(0xe0 + n / 4096).toUInt8, (0x80 + n / 64 % 64).toUInt8, (0x80 + n % 64).toUInt8]
  else
    [(0xf0 + n / 262144).toUInt8, (0x80 + n / 4096 % 64).toUInt8, (0x80 + n / 64 % 64).toUInt8,
      (0x80 + n % 64).toUInt8]

/-- The bytes of a text. -/
def encode (t : Text) : Bytes := t.flatMap encodeChar

/-- A character of which some bytes have been seen: the number they spell so far, how many bytes
are missing, and the bounds within which the next one lies. -/
structure Begun where
  value : Nat
  missing : Nat
  low : Nat
  high : Nat

/-- What a byte spells and what it begins, when no character is begun. -/
def start (b : UInt8) : List (Option Char) × Option Begun :=
  let n := b.toNat
  if n < 0x80 then ([some (Char.ofNat n)], none)
  else if n < 0xc2 then ([none], none)
  else if n < 0xe0 then ([], some ⟨n - 0xc0, 1, 0x80, 0xbf⟩)
  else if n < 0xf0 then
    ([], some ⟨n - 0xe0, 2, if n = 0xe0 then 0xa0 else 0x80, if n = 0xed then 0x9f else 0xbf⟩)
  else if n < 0xf5 then
    ([], some ⟨n - 0xf0, 3, if n = 0xf0 then 0x90 else 0x80, if n = 0xf4 then 0x8f else 0xbf⟩)
  else ([none], none)

/-- What a byte spells and what is begun after it. -/
def step (begun : Option Begun) (b : UInt8) : List (Option Char) × Option Begun :=
  match begun with
  | none => start b
  | some g =>
      if g.low ≤ b.toNat ∧ b.toNat ≤ g.high then
        let value := g.value * 64 + (b.toNat - 0x80)
        if g.missing = 1 then ([some (Char.ofNat value)], none)
        else ([], some ⟨value, g.missing - 1, 0x80, 0xbf⟩)
      else
        let (spelt, next) := start b
        (none :: spelt, next)

/-- The characters and gaps that the bytes spell. -/
def units : Option Begun → Bytes → List (Option Char)
  | none, [] => []
  | some _, [] => [none]
  | begun, b :: rest => (step begun b).1 ++ units (step begun b).2 rest

/-- The text that bytes spell without a gap. -/
def decode? (bytes : Bytes) : Option Text := (units none bytes).mapM id

/-- Whether a byte goes on with a surrogate, which three bytes could spell and which is no
character. -/
def entersSurrogate (begun : Option Begun) (b : UInt8) : Bool :=
  match begun with
  | none => false
  | some g => g.missing == 2 && g.high == 0x9f && 0xa0 ≤ b.toNat && b.toNat ≤ 0xbf

/-- The position at which the first gap shows, counted from `position` for the first byte: that of
the byte that cannot follow, or the end where a character is not completed. A surrogate shows at the
place of its third byte. -/
def faultFrom (position : Nat) : Option Begun → Bytes → Option Nat
  | none, [] => none
  | some _, [] => some position
  | begun, b :: rest =>
      if entersSurrogate begun b then some (position + 1)
      else if (step begun b).1.contains none then some position
      else faultFrom (position + 1) (step begun b).2 rest

/-- The position at which the first gap of some bytes shows. -/
def fault? (bytes : Bytes) : Option Nat := faultFrom 0 none bytes

/-- The text that bytes spell before the first gap. -/
def decodeStart (bytes : Bytes) : Text :=
  ((units none bytes).takeWhile (·.isSome)).filterMap id

/-- The text that bytes spell, each gap shown by a replacement character. -/
def decodeLossy (bytes : Bytes) : Text := (units none bytes).map (·.getD '\ufffd')

end Utf8

end SolutionSweep
