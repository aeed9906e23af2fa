/-!
# Path parameters

The named parts of a path, in the order in which the pattern names them.

* **`PathData`**: values by name; the names keep the order of their first insertion.
* `PathData.insert`, `PathData.get?`, `PathData.at?`: set a value, and look it up by name or by
  position.
-/

namespace Folio

/-- **Values by name**, in the order in which the names were first inserted. -/
structure PathData where
  entries : List (String × String) := []
  deriving DecidableEq, Inhabited, Repr

/-- Set the value of a key; a key that is already there keeps its position. -/
def setEntry (key value : String) : List (String × String) → List (String × String)
  | [] => [(key, value)]
  | (k, v) :: rest => if k = key then (key, value) :: rest else (k, v) :: setEntry key value rest

namespace PathData

/-- The value of a name. -/
def get? (data : PathData) (key : String) : Option String :=
  (data.entries.find? fun entry => entry.1 = key).map Prod.snd

/-- Name and value at a position. -/
def at? (data : PathData) (position : Nat) : Option (String × String) :=
  data.entries[position]?

/-- Set the value of a name; a name that is already there keeps its position. -/
def insert (data : PathData) (key value : String) : PathData :=
  { entries := setEntry key value data.entries }

/-- The values inserted one after the other. -/
def ofList (pairs : List (String × String)) : PathData :=
  pairs.foldl (fun data pair => data.insert pair.1 pair.2) {}

/-- The number of names. -/
def size (data : PathData) : Nat :=
  data.entries.length

end PathData

end Folio
