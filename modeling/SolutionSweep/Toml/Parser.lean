import SolutionSweep.Text.LineBreak
import SolutionSweep.Toml.Scalar

/-!
# Reading TOML documents

A document is read statement by statement: pairs of a key and a value, headers of tables, and
headers of arrays of tables. `Document` is what the statements so far have made, together with
the parts of it that later statements must not change:

* `closed`: tables that have a header or have come about by a dotted key under an earlier header;
* `frozen`: arrays and inline tables, which are complete once they are written.
-/

namespace SolutionSweep.Toml

/-! ### Keys -/

/-- Characters of keys without quotes. -/
def isBareKeyChar (c : Char) : Bool := c.isAlphanum || c == '-' || c == '_'

/-- Characters that a key may start with. -/
def startsKey (c : Char) : Bool := isBareKeyChar c || c == '"' || c == '\''

/-- One part of a key, and what follows it. -/
def keyPart? (t : Text) : Option (Text × Text) :=
  match t with
  | [] => none
  | c :: rest =>
      if isBareKeyChar c then some (t.takeWhile isBareKeyChar, t.dropWhile isBareKeyChar)
      else if c = '"' then basicString? false .plain rest
      else if c = '\'' then literalString? ['\''] false rest
      else none

/-- Parts of a key with dots in between, and what follows the blanks behind them. -/
def keyParts? : (fuel : Nat) → Text → Option (Key × Text)
  | 0, _ => none
  | fuel + 1, t =>
      match keyPart? t with
      | none => none
      | some (part, rest) =>
          match rest.dropWhile isBlank with
          | '.' :: more =>
              (keyParts? fuel (more.dropWhile isBlank)).map fun (k, r) => (part :: k, r)
          | rest => some ([part], rest)

/-- The key at the start of a text, and what follows it. -/
def key? (t : Text) : Option (Key × Text) := keyParts? t.length t

/-! ### Values -/

/-- What follows a comment, if there is one. -/
def afterComment? (t : Text) : Option Text :=
  match t with
  | '#' :: rest =>
      if (rest.takeWhile (· != '\n')).any isControl then none
      else some (rest.dropWhile (· != '\n'))
  | _ => some t

/-- What follows space and comments between the items of an array. -/
def afterSpace? : (fuel : Nat) → Text → Option Text
  | 0, t => some t
  | fuel + 1, t =>
      match t.dropWhile isSpace with
      | '#' :: rest => (afterComment? ('#' :: rest)).bind (afterSpace? fuel)
      | rest => some rest

/-- What follows space and comments between the items of an array. -/
def skipSpace? (t : Text) : Option Text := afterSpace? (t.length + 1) t

/-- The words that stand for truth values. -/
def truthValue? (t : Text) : Option (Toml × Text) :=
  [("true", true), ("false", false)].findSome? fun (word, b) =>
    (Text.after? word.toList t).map fun rest => (.boolean b, rest)

/-- A string, a truth value, a number or a point in time. -/
def scalar? (t : Text) : Option (Toml × Text) :=
  if t.head? = some '"' ∨ t.head? = some '\'' then
    (string? t).map fun (s, rest) => (.text s, rest)
  else truthValue? t <|> moment? t <|> number? t <|> special? t

/-- Whether a value is complete once it is written. -/
def isCompound : Toml → Bool
  | .array _ => true
  | .table _ => true
  | _ => false

mutual

/-- A value at the start of a text, and what follows it. Each level of nesting takes a
character and two units of fuel. -/
def value? : (fuel : Nat) → Text → Option (Toml × Text)
  | 0, _ => none
  | fuel + 1, t =>
      match t with
      | '[' :: rest => do
          match ← skipSpace? rest with
          | ']' :: after => return (.array [], after)
          | first =>
              let (items, after) ← items? fuel first
              return (.array items, after)
      | '\x7b' :: rest =>
          match rest.dropWhile isBlank with
          | '\x7d' :: after => some (.table [], after)
          | first => do
              let (fields, after) ← inlineFields? fuel [] [] first
              return (.table fields, after)
      | _ => scalar? t

/-- The remaining items of an array, and what follows its bracket. -/
def items? : (fuel : Nat) → Text → Option (List Toml × Text)
  | 0, _ => none
  | fuel + 1, t => do
      let (v, rest) ← value? fuel t
      match ← skipSpace? rest with
      | ']' :: after => return ([v], after)
      | ',' :: more =>
          match ← skipSpace? more with
          | ']' :: after => return ([v], after)
          | next =>
              let (vs, after) ← items? fuel next
              return (v :: vs, after)
      | _ => none

/-- The remaining fields of an inline table of which some are known, and what follows its brace.
Fields that are arrays or tables are frozen. -/
def inlineFields? : (fuel : Nat) → (known : Fields) → (frozen : List Key) → Text →
    Option (Fields × Text)
  | 0, _, _, _ => none
  | fuel + 1, known, frozen, t => do
      let (key, v, rest) ← pair? fuel t
      if beginsWithAny frozen key then none
      else
        let fields ← put false key.dropLast (key.getLastD []) v known
        match rest.dropWhile isBlank with
        | '\x7d' :: after => return (fields, after)
        | ',' :: more =>
            inlineFields? fuel fields (if isCompound v then key :: frozen else frozen)
              (more.dropWhile isBlank)
        | _ => none

/-- A key, an equals sign and a value, and what follows them. -/
def pair? : (fuel : Nat) → Text → Option (Key × Toml × Text)
  | 0, _ => none
  | fuel + 1, t => do
      let (key, rest) ← key? t
      match rest with
      | '=' :: rest =>
          let (v, after) ← value? fuel (rest.dropWhile isBlank)
          return (key, v, after)
      | _ => none

end

/-! ### Statements -/

/-- What the statements so far have made: the document, the path of the current header, the closed
and the frozen paths, and the paths that the next header closes. -/
structure Document where
  fields : Fields
  header : Key
  closed : List Key
  frozen : List Key
  pending : List Key

namespace Document

/-- The nonempty paths that a path goes through before its end. -/
def properPrefixes (key : Key) : List Key :=
  (List.range' 1 (key.length - 1)).map (key.take ·)

/-- Adds a value under a key that is relative to the current header. -/
def addPair (d : Document) (key : Key) (v : Toml) : Option Document :=
  let through := (properPrefixes key).map (d.header ++ ·)
  let parent := d.header ++ key.dropLast
  if through.any (d.closed.contains ·) || beginsWithAny d.frozen parent then none
  else
    (put true parent (key.getLastD []) v d.fields).map fun fields =>
      { d with
        fields := fields
        pending := through ++ d.pending
        frozen := if isCompound v then (d.header ++ key) :: d.frozen else d.frozen }

/-- Closes what dotted keys have made under the current header. -/
def settle (d : Document) : Document :=
  { d with closed := d.pending ++ d.closed, pending := [] }

/-- Opens the table of a header. -/
def openHeader (d : Document) (key : Key) : Option Document :=
  if d.closed.contains key || beginsWithAny d.frozen key then none
  else
    (openTable key d.fields).map fun fields =>
      { d with fields := fields, header := key, closed := key :: d.closed }

/-- Opens one more table of the array of a header; what is below it starts anew. -/
def openItem (d : Document) (key : Key) : Option Document :=
  if beginsWithAny d.frozen key then none
  else
    (addTable key d.fields).map fun fields =>
      { d with
        fields := fields
        header := key
        closed := key :: d.closed.filter (!key.isPrefixOf ·)
        frozen := d.frozen.filter (!key.isPrefixOf ·) }

end Document

/-- Reads a header, the brackets before its key aside, and what follows it. -/
def headerStatement? (apply : Key → Option Document) (closing t : Text) :
    Option (Document × Text) := do
  let (key, rest) ← key? (t.dropWhile isBlank)
  let d ← apply key
  let after ← Text.after? closing rest
  return (d, after)

/-- Reads one statement that starts with a character other than a blank, and what follows it. -/
def statement? (d : Document) (t : Text) : Option (Document × Text) :=
  match t with
  | '[' :: '[' :: rest => headerStatement? d.settle.openItem [']', ']'] rest
  | '[' :: rest => headerStatement? d.settle.openHeader [']'] rest
  | '#' :: _ => some (d, t)
  | c :: _ =>
      if startsKey c then do
        let (key, v, rest) ← pair? (2 * t.length + 2) t
        let d ← d.addPair key v
        return (d, rest)
      else none
  | [] => some (d, [])

/-- Reads the remaining statements, one to a line. -/
def statements? : (fuel : Nat) → Document → Text → Option Fields
  | 0, d, _ => some d.fields
  | fuel + 1, d, t =>
      match t.dropWhile isBlank with
      | [] => some d.fields
      | '\n' :: rest => statements? fuel d rest
      | line => do
          let (d, rest) ← statement? d line
          match ← afterComment? (rest.dropWhile isBlank) with
          | [] => return d.fields
          | '\n' :: rest => statements? fuel d rest
          | _ => none

/-- The text with each paired line break turned into a line feed. -/
def unpairBreaks : Text → Text
  | [] => []
  | '\r' :: '\n' :: rest => '\n' :: unpairBreaks rest
  | c :: rest => c :: unpairBreaks rest

/-- Reads a document as a table, unless it is malformed. -/
def parse? (t : Text) : Option Fields :=
  statements? (t.length + 1) ⟨[], [], [], [], []⟩ (unpairBreaks t)

end SolutionSweep.Toml
