import SolutionSweep.Table
import SolutionSweep.Text.Basic

/-!
# TOML values

A TOML document is a table of values. Numbers other than integers and points in time are kept as
they are written.

* `Toml.put`, `Toml.openTable`, `Toml.addTable`: a table with a value, a table or one more table of
  an array at the end of a path of keys, unless something else stands in the way.
-/

namespace SolutionSweep

/-- A TOML value. -/
inductive Toml
  | text (t : Text)
  | integer (n : Int)
  | float (written : Text)
  | boolean (b : Bool)
  | moment (written : Text)
  | array (items : List Toml)
  | table (fields : List (Text × Toml))
  deriving Repr

namespace Toml

/-- The keys and values of a table. -/
abbrev Fields := List (Text × Toml)

/-- A path of keys. -/
abbrev Key := List Text

/-- Changes the table that a value is or, where arrays may be entered, that its last item is. -/
def within (enterArrays : Bool) (f : Fields → Option Fields) : Toml → Option Toml
  | .table fields => (f fields).map .table
  | .array items =>
      if enterArrays then
        match items.getLast? with
        | some (.table fields) => (f fields).map fun t => .array (items.dropLast ++ [.table t])
        | _ => none
      else none
  | _ => none

/-- Changes the table at the end of a path. Tables that are missing on the way are made. -/
def update (enterArrays : Bool) (f : Fields → Option Fields) : Key → Fields → Option Fields
  | [], fields => f fields
  | k :: path, fields =>
      (within enterArrays (update enterArrays f path) ((fields.lookup k).getD (.table []))).map
        fun v => assign k v fields

/-- Adds a value under a key that is not in use. -/
def addField (key : Text) (value : Toml) (fields : Fields) : Option Fields :=
  if (fields.lookup key).isSome then none else some (fields ++ [(key, value)])

/-- Adds a value in the table at the end of a path. -/
def put (enterArrays : Bool) (path : Key) (key : Text) (value : Toml) (fields : Fields) :
    Option Fields :=
  update enterArrays (addField key value) path fields

/-- Makes sure that there is a table at the end of a path. -/
def openTable (path : Key) (fields : Fields) : Option Fields := update true some path fields

/-- Adds an empty table to the array under a key, which is made if it is missing. -/
def addItem (key : Text) (fields : Fields) : Option Fields :=
  match fields.lookup key with
  | none => some (fields ++ [(key, .array [.table []])])
  | some (.array items) => some (assign key (.array (items ++ [.table []])) fields)
  | some _ => none

/-- Adds an empty table to the array at the end of a path. -/
def addTable (path : Key) (fields : Fields) : Option Fields :=
  match path.getLast? with
  | none => none
  | some key => update true (addItem key) path.dropLast fields

/-- Whether a path begins with one of some paths. -/
def beginsWithAny (paths : List Key) (path : Key) : Bool := paths.any (·.isPrefixOf path)

end Toml

end SolutionSweep
