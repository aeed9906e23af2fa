import Folio.Scanner.Options
import Folio.Text.Casing
import Folio.Text.Utf8

/-!
# Route declarations

A builder declares routes; its stem is its type name without the ending `Builder`, in lower case.

* `RouteDeclaration`: a pattern with the number and the priority of its route.
* **`stemOf`**: the stem of a type name.
* **`contributedRoutes`**: the routes that a builder contributes. Fragments are placed under the
  stem, and a builder that declares none has one route of its own.
-/

namespace Folio

/-- A route as declared. -/
structure RouteDeclaration where
  id : Int
  pattern : String
  priority : Int
  deriving DecidableEq, Inhabited, Repr

/-- The ending of a builder's name. -/
def builderEnding : String := "Builder"

/-- The builder that serves the application root by default. -/
def homeName : String := "HomeBuilder"

/-- The priority of the default route of the home builder. -/
def priorityOfHome : Int := 10

/-- The priority of every other default route. -/
def priorityOfStem : Int := 9

/-- A name without the ending `Builder` in any case; a name that does not end so is kept whole. -/
def dropEnding (typeName : String) : String :=
  if typeName.utf8ByteSize < builderEnding.utf8ByteSize then typeName
  else
    match Utf8.splitText? (typeName.utf8ByteSize - builderEnding.utf8ByteSize) typeName with
    | some (start, ending) => if asciiEqual ending builderEnding then start else typeName
    | none => typeName

/-- **The stem of a type name.** -/
def stemOf (typeName : String) : String :=
  lowercase (dropEnding typeName)

/-- The route of a builder that declares none. -/
def defaultRoute (typeName : String) : RouteDeclaration :=
  if asciiEqual typeName homeName then ⟨0, "^~/$", priorityOfHome⟩
  else ⟨0, "^~/" ++ stemOf typeName ++ "/?$", priorityOfStem⟩

/-- A declared pattern; one that begins with a slash is a fragment under the stem. -/
def fullPattern (stem pattern : String) : String :=
  if (dropStart? "/" pattern).isSome then "^~/" ++ stem ++ pattern else pattern

/-- **The routes that a builder contributes.** -/
def contributedRoutes (typeName : String) (declared : List RouteDeclaration) :
    List RouteDeclaration :=
  match declared with
  | [] => [defaultRoute typeName]
  | _ :: _ =>
    declared.map fun route =>
      { route with pattern := fullPattern (stemOf typeName) route.pattern }

end Folio
