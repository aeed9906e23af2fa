/-!
# JSON values

* `Number`: an integer, or a double.
* **`Value`**: a JSON value; the members of an object stand in the order of their keys, each key
  once.
* `Value.insertMember`: set a member.
* `Value.member?`: look a member up.
-/

namespace Folio.Json

/-- A JSON number: an integer of at most 64 bits, or a double. -/
inductive Number
  | integer (n : Int)
  | float (x : Float)
  deriving Inhabited

/-- **A JSON value.** -/
inductive Value
  | null
  | bool (b : Bool)
  | number (n : Number)
  | string (s : String)
  | array (items : List Value)
  | object (members : List (String × Value))
  deriving Inhabited

/-- Set a member; the keys stay in order. -/
def insertMember (key : String) (value : Value) :
    List (String × Value) → List (String × Value)
  | [] => [(key, value)]
  | (k, v) :: rest =>
    if key = k then (key, value) :: rest
    else if key < k then (key, value) :: (k, v) :: rest
    else (k, v) :: insertMember key value rest

/-- The object with these members; of two with one key the later counts. -/
def Value.ofMembers (members : List (String × Value)) : Value :=
  .object (members.foldl (fun sorted member => insertMember member.1 member.2 sorted) [])

/-- The member of a key. -/
def Value.member? (value : Value) (key : String) : Option Value :=
  match value with
  | .object members => (members.find? fun member => member.1 = key).map Prod.snd
  | _ => none

/-- Is the value an object? -/
def Value.isObject : Value → Bool
  | .object _ => true
  | _ => false

end Folio.Json
