import Folio.Json.Writer
import Folio.Text.Casing

/-!
# Models

A model is a JSON value whose properties fill the tags of a template.

* `Model`: a value to be bound.
* **`Model.property`**: the printable value of a property. A property is looked up by its exact name
  and then without regard to the case of the letters A to Z.
-/

namespace Folio

open Json (Value)

/-- A value to be bound into templates. -/
structure Model where
  value : Value := .null
  deriving Inhabited

namespace Model

/-- The member that a name selects: the one of exactly that key, else the first in the order of the
keys whose key differs in case alone. -/
def select (members : List (String × Value)) (name : String) : Option Value :=
  match members.find? fun member => member.1 = name with
  | some member => some member.2
  | none => (members.find? fun member => asciiEqual member.1 name).map Prod.snd

/-- A value as it is printed: null is not, a string is printed as it is, and anything else as its
JSON text. -/
def printed : Value → Option String
  | .null => none
  | .string text => some text
  | value => some value.text

/-- **The printable value of a property.** -/
def property (model : Model) (name : String) : Option String :=
  match model.value with
  | .object members => (select members name).bind printed
  | _ => none

end Model

end Folio
