import Folio.Error
import Folio.Request.Basic
import Folio.Request.Model
import Folio.Request.PathData
import Folio.Text.Quoted

/-!
# Descriptors

A descriptor says how things of one kind are constructed: from a request alone, from a
request and a model, or either way. It carries a number of its own, and takes a new one whenever a
constructor is added.

* `ConstructorArgs`: what a constructor is called with.
* **`Descriptor`**: a named type with its constructors.
* `Fresh`: the numbers that have not been given out yet.
-/

namespace Folio

/-- What a constructor is called with. -/
structure ConstructorArgs where
  request : Request
  pathData : PathData := {}
  model : Option Model := none
  routeId : Int := 0
  deriving Inhabited

/-- The constructor that the arguments select. -/
def ConstructorArgs.signature (args : ConstructorArgs) : Signature :=
  if args.model.isSome then .contextAndModel else .context

/-- Makes a thing from arguments. -/
abbrev Constructor (α : Type) := ConstructorArgs → α

/-- **How things of one kind are constructed.** -/
structure Descriptor (α : Type) where
  /-- No two descriptors have one number. -/
  id : Nat
  /-- Stands in messages, and names the stem of routes. -/
  typeName : String
  fromContext : Option (Constructor α) := none
  fromModel : Option (Constructor α) := none

/-- Computations that take numbers nobody else has; the state is the next one. -/
abbrev Fresh := StateM Nat

/-- A number that nobody else has. -/
def freshNumber : Fresh Nat := fun next => (next, next + 1)

namespace Descriptor

variable {α : Type}

/-- A descriptor without constructors. -/
def ofType (typeName : String) : Fresh (Descriptor α) := do
  return { id := ← freshNumber, typeName := typeName }

/-- The descriptor under another name; its number stays. -/
def named (descriptor : Descriptor α) (typeName : String) : Descriptor α :=
  { descriptor with typeName := typeName }

/-- The descriptor with a constructor for the signature; one that is there is replaced. -/
def withConstructor (descriptor : Descriptor α) (signature : Signature)
    (constructor : Constructor α) : Fresh (Descriptor α) := do
  let id ← freshNumber
  return match signature with
    | .context => { descriptor with id := id, fromContext := some constructor }
    | .contextAndModel => { descriptor with id := id, fromModel := some constructor }

/-- The constructor for a signature. -/
def constructor? (descriptor : Descriptor α) : Signature → Option (Constructor α)
  | .context => descriptor.fromContext
  | .contextAndModel => descriptor.fromModel

/-- Is there a constructor for the signature? -/
def supports (descriptor : Descriptor α) (signature : Signature) : Bool :=
  (descriptor.constructor? signature).isSome

/-- The signatures there are constructors for. -/
def signatures (descriptor : Descriptor α) : List Signature :=
  [Signature.context, .contextAndModel].filter descriptor.supports

/-- A descriptor as written for people to read. -/
def describe (descriptor : Descriptor α) : String :=
  "Implementation \x7b type_name: " ++ quoteText descriptor.typeName ++ ", signatures: [" ++
    ", ".intercalate (descriptor.signatures.map Signature.name) ++ "] \x7d"

end Descriptor

end Folio
