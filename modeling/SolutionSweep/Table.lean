/-!
# Tables

A table is a list of pairs in the order in which their keys first came up.

* `assign`: a table with the value of one key replaced or added;
* `lastValues`: the table of some pairs, of which the last one for a key counts;
* `firsts`: the elements of a list that are the first ones with their key.
-/

namespace SolutionSweep

variable {α β : Type} [DecidableEq α]

/-- Replaces the value of a key where it stands, or adds the key at the end. -/
def assign (key : α) (value : β) : List (α × β) → List (α × β)
  | [] => [(key, value)]
  | entry :: rest =>
      if entry.1 = key then (key, value) :: rest else entry :: assign key value rest

/-- The pairs with each key once, where it stood first, and with its last value. -/
def lastValues (pairs : List (α × β)) : List (α × β) :=
  pairs.foldl (fun table pair => assign pair.1 pair.2 table) []

/-- The elements whose key is neither among `seen` nor the key of an element before them. -/
def firstsAfter (key : β → α) : (seen : List α) → List β → List β
  | _, [] => []
  | seen, x :: rest =>
      if key x ∈ seen then firstsAfter key seen rest
      else x :: firstsAfter key (key x :: seen) rest

/-- The elements that are the first ones with their key. -/
def firsts (key : β → α) (xs : List β) : List β := firstsAfter key [] xs

end SolutionSweep
