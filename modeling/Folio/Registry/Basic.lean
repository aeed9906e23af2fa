import Folio.Registry.Descriptor

/-!
# Registries

A registry maps identifiers to descriptors and constructs things by identifier. A constructor that
was used is kept under the number of its descriptor and its signature, and is found there the next
time; when a descriptor is no longer registered under any identifier, its constructors are dropped.

* **`Registry`**: the entries and the constructors kept.
* **`Registry.register`**: put a descriptor under an identifier; the last one counts.
* **`Registry.create`**, `Registry.construct`: construct a thing by identifier, or from a
  descriptor. Both answer with the registry after it, which has kept the constructor.
-/

namespace Folio

/-- Descriptors by identifier, and the constructors that were used. -/
structure Registry (α : Type) where
  /-- Names the registry in messages. -/
  kind : String
  entries : List (String × Descriptor α) := []
  constructors : List ((Nat × Signature) × Constructor α) := []

namespace Registry

variable {α : Type}

/-! ## Entries -/

/-- The descriptor registered under an identifier. -/
def get? (registry : Registry α) (identifier : String) : Option (Descriptor α) :=
  (registry.entries.find? fun entry => entry.1 = identifier).map Prod.snd

/-- Is anything registered under the identifier? -/
def contains (registry : Registry α) (identifier : String) : Bool :=
  (registry.get? identifier).isSome

/-- The identifiers in order. -/
def identifiers (registry : Registry α) : List String :=
  (registry.entries.map Prod.fst).mergeSort

/-- The number of identifiers. -/
def size (registry : Registry α) : Nat :=
  registry.entries.length

/-- The registry with a descriptor under the identifier. -/
def setEntry (registry : Registry α) (identifier : String) (descriptor : Descriptor α) :
    Registry α :=
  { registry with
    entries := (identifier, descriptor) ::
      registry.entries.filter fun entry => entry.1 ≠ identifier }

/-- Is the descriptor of this number registered under any identifier? -/
def isRegistered (registry : Registry α) (id : Nat) : Bool :=
  registry.entries.any fun entry => entry.2.id = id

/-! ## Constructors -/

/-- The constructor kept for a descriptor and a signature. -/
def constructor? (registry : Registry α) (id : Nat) (signature : Signature) :
    Option (Constructor α) :=
  (registry.constructors.find? fun kept => kept.1 = (id, signature)).map Prod.snd

/-- Keep a constructor. -/
def keep (registry : Registry α) (id : Nat) (signature : Signature) (constructor : Constructor α) :
    Registry α :=
  { registry with
    constructors := ((id, signature), constructor) ::
      registry.constructors.filter fun kept => kept.1 ≠ (id, signature) }

/-- Drop the constructors of a descriptor. -/
def evict (registry : Registry α) (id : Nat) : Registry α :=
  { registry with constructors := registry.constructors.filter fun kept => kept.1.1 ≠ id }

/-- Drop the constructors of a descriptor that is registered no more. -/
def evictUnregistered (registry : Registry α) (id : Nat) : Registry α :=
  if registry.isRegistered id then registry else registry.evict id

/-! ## Operations -/

/-- **Put a descriptor under an identifier.** -/
def register (registry : Registry α) (identifier : String) (descriptor : Descriptor α) :
    Except ConfigurationError (Registry α) :=
  if identifier = "" then .error (.emptyIdentifier registry.kind)
  else
    let next := registry.setEntry identifier descriptor
    match registry.get? identifier with
    | none => .ok next
    | some prior =>
      if prior.id = descriptor.id then .ok next else .ok (next.evictUnregistered prior.id)

/-- Construct a thing from a descriptor, registered or not. -/
def construct (registry : Registry α) (descriptor : Descriptor α) (args : ConstructorArgs) :
    Except ConfigurationError α × Registry α :=
  let signature := args.signature
  match registry.constructor? descriptor.id signature with
  | some constructor => (.ok (constructor args), registry)
  | none =>
    match descriptor.constructor? signature with
    | none => (.error (.missingConstructor descriptor.typeName signature), registry)
    | some constructor =>
      (.ok (constructor args), registry.keep descriptor.id signature constructor)

/-- **Construct a thing by its identifier.** -/
def create (registry : Registry α) (identifier : String) (args : ConstructorArgs) :
    Except ConfigurationError α × Registry α :=
  if identifier = "" then (.error (.emptyIdentifier registry.kind), registry)
  else
    match registry.get? identifier with
    | none => (.error (.unknownIdentifier registry.kind identifier), registry)
    | some descriptor => registry.construct descriptor args

end Registry

end Folio
