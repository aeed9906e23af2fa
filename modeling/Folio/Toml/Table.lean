import Folio.Json.Value

/-!
# TOML tables under construction

A document fills tables in several ways: by headers, by keys with dots, and as a by-product of
longer paths. How a table came about decides what may still be added to it.

* `Node`: a value, a table or an array of tables; `Table` remembers how it came about.
* `Table.insertAt`: set a key below a path of a table, which creates the tables on the way.
* `Document`: the tables finished so far and the one that is being filled.
* **`Document.openTable`**, **`Document.openItem`**: the headers `[path]` and `[[path]]`.
* `Document.result`: the finished document as a value.
-/

namespace Folio.Toml

open Json (Value)

mutual

/-- What stands under a key. -/
inductive Node
  | value (v : Value)
  | table (t : Table)
  /-- The tables of an array of tables. -/
  | items (tables : List Table)

/-- A table: is it only implied by longer paths, and did a key with dots make it? -/
inductive Table
  | mk (implicit dotted : Bool) (entries : List (String × Node))

end

instance : Inhabited Table := ⟨.mk false false []⟩

namespace Table

def implicit : Table → Bool
  | .mk implicit _ _ => implicit

def dotted : Table → Bool
  | .mk _ dotted _ => dotted

def entries : Table → List (String × Node)
  | .mk _ _ entries => entries

/-- The table with other entries. -/
def withEntries (t : Table) (entries : List (String × Node)) : Table :=
  .mk t.implicit t.dotted entries

/-- What stands under a key. -/
def get? (t : Table) (key : String) : Option Node :=
  (t.entries.find? fun entry => entry.1 = key).map Prod.snd

/-- Remove a key. -/
def erase (t : Table) (key : String) : Table :=
  t.withEntries (t.entries.filter fun entry => entry.1 ≠ key)

/-- Set a key. -/
def put (t : Table) (key : String) (node : Node) : Table :=
  t.withEntries ((t.erase key).entries ++ [(key, node)])

/-- Change the table at the end of a path, creating tables on the way. Keys with dots (`dotted`)
must not enter a table that has a definition of its own. -/
def modifyAt (dotted : Bool) (f : Table → Option Table) : List String → Table → Option Table
  | [], t => f t
  | key :: path, t =>
    match t.get? key with
    | none =>
      (modifyAt dotted f path (.mk true dotted [])).map fun child => t.put key (.table child)
    | some (.value _) => none
    | some (.items tables) =>
      match tables.getLast? with
      | none => none
      | some last =>
        (modifyAt dotted f path last).map fun child =>
          t.put key (.items (tables.dropLast ++ [child]))
    | some (.table child) =>
      if dotted && !child.implicit then none
      else (modifyAt dotted f path child).map fun child => t.put key (.table child)

/-- Set a new key of the table at the end of a path of keys with dots. -/
def insertAt (path : List String) (key : String) (v : Value) (t : Table) : Option Table :=
  modifyAt true
    (fun target =>
      if target.dotted == path.isEmpty then none
      else
        match target.get? key with
        | some _ => none
        | none => some (target.put key (.value v)))
    path t

end Table

mutual

/-- A finished node as a value. -/
def Node.toValue : Node → Value
  | .value v => v
  | .table t => t.toValue
  | .items tables => .array (valuesOfTables tables)

/-- A finished table as a value. -/
def Table.toValue : Table → Value
  | .mk _ _ entries => .ofMembers (membersOfEntries entries)

/-- The values of tables. -/
def valuesOfTables : List Table → List Value
  | [] => []
  | t :: rest => t.toValue :: valuesOfTables rest

/-- The members that entries stand for. -/
def membersOfEntries : List (String × Node) → List (String × Value)
  | [] => []
  | (key, node) :: rest => (key, node.toValue) :: membersOfEntries rest

end

/-! ## Inline tables -/

/-- Set a new key below a path of an inline table. -/
def insertInline (path : List String) (key : String) (v : Value) (t : Table) : Option Table :=
  t.insertAt path key v

/-! ## Documents -/

/-- A document being read: the finished part, the table that is being filled, the path of its
header, and whether the header was one of an array of tables. -/
structure Document where
  root : Table := .mk false false []
  current : Table := .mk false false []
  path : List String := []
  isItem : Bool := false

/-- Split the last key off a path. -/
def splitLast : List String → Option (List String × String)
  | [] => none
  | [key] => some ([], key)
  | key :: rest => (splitLast rest).map fun (path, last) => (key :: path, last)

namespace Document

/-- Put the table that is being filled where its header says. -/
def close (d : Document) : Option Document :=
  match splitLast d.path with
  | none => some { root := d.current }
  | some (path, key) =>
    let place (parent : Table) : Option Table :=
      if d.isItem then
        match parent.get? key with
        | none => some (parent.put key (.items [d.current]))
        | some (.items tables) => some (parent.put key (.items (tables ++ [d.current])))
        | some _ => none
      else
        match parent.get? key with
        | none => some (parent.put key (.table d.current))
        | some _ => none
    (Table.modifyAt false place path d.root).map fun root => { root := root }

/-- The header `[path]`: a table that is only implied so far may be defined once. -/
def openTable (d : Document) (path : List String) : Option Document := do
  let d ← d.close
  let (front, key) ← splitLast path
  let root ← Table.modifyAt false some front d.root
  let found := lookUp front key root
  match found with
  | none => return { root := root, current := .mk false false [], path := path }
  | some (.table t) =>
    if t.implicit && !t.dotted then
      let root ← Table.modifyAt false (fun parent => some (parent.erase key)) front root
      return { root := root, current := .mk false false t.entries, path := path }
    else none
  | some _ => none
where
  /-- What stands under a key at the end of a path. -/
  lookUp (path : List String) (key : String) (t : Table) : Option Node :=
    match path with
    | [] => t.get? key
    | k :: rest =>
      match t.get? k with
      | some (.table child) => lookUp rest key child
      | some (.items tables) => tables.getLast?.bind (lookUp rest key)
      | _ => none

/-- The header `[[path]]`: one more table of an array of tables. -/
def openItem (d : Document) (path : List String) : Option Document := do
  let d ← d.close
  let (front, key) ← splitLast path
  let touch (parent : Table) : Option Table :=
    match parent.get? key with
    | none => some (parent.put key (.items []))
    | some (.items _) => some parent
    | some _ => none
  let root ← Table.modifyAt false touch front d.root
  return { root := root, current := .mk false false [], path := path, isItem := true }

/-- The line `key = value`. -/
def setKey (d : Document) (path : List String) (key : String) (v : Value) : Option Document :=
  (d.current.insertAt path key v).map fun current => { d with current := current }

/-- The finished document as a value. -/
def result (d : Document) : Option Value :=
  d.close.map fun d => d.root.toValue

end Document

end Folio.Toml
