import Folio.Registry.Basic

/-!
# Calls at the same time

Many call one registry at the same time. A call goes on by steps that read or change the registry
once, and between two of its steps there may be any number of steps of other calls.

* `Operation`: what a registry is asked for; `Operation.alone` does it in one go.
* `Progress`, **`Progress.step`**: how far a call came, and its next step.
* **`Traffic`**: a registry and the calls to it. `Traffic.after` moves them as a schedule says.
-/

namespace Folio

variable {α : Type}

/-- What a registry is asked for. -/
inductive Operation (α : Type)
  | create (identifier : String) (args : ConstructorArgs)
  | instantiate (descriptor : Descriptor α) (args : ConstructorArgs)
  | register (identifier : String) (descriptor : Descriptor α)

/-- What an operation answers with that nobody disturbs. -/
def Operation.alone (registry : Registry α) :
    Operation α → Except ConfigurationError (Option α) × Registry α
  | .create identifier args =>
    let (outcome, registry) := registry.create identifier args
    (outcome.map some, registry)
  | .instantiate descriptor args =>
    let (outcome, registry) := registry.construct descriptor args
    (outcome.map some, registry)
  | .register identifier descriptor =>
    match registry.register identifier descriptor with
    | .error e => (.error e, registry)
    | .ok next => (.ok none, next)

/-! ## Steps -/

/-- How far a call came. -/
inductive Progress (α : Type)
  | asked (operation : Operation α)
  /-- The descriptor is known; what is kept for it was not looked at. -/
  | described (descriptor : Descriptor α) (args : ConstructorArgs)
  /-- Nothing was kept for the descriptor. -/
  | missed (descriptor : Descriptor α) (args : ConstructorArgs)
  /-- The constructor is known and not called yet. -/
  | equipped (constructor : Constructor α) (args : ConstructorArgs)
  /-- The descriptor of this number was replaced. -/
  | replaced (prior : Nat)
  /-- And it was found under no other identifier. -/
  | orphaned (prior : Nat)
  | answered (outcome : Except ConfigurationError (Option α))

/-- **The next step of a call**, and the registry after it. A call that was answered stays so. -/
def Progress.step (registry : Registry α) : Progress α → Progress α × Registry α
  | .asked (.create identifier args) =>
    if identifier = "" then (.answered (.error (.emptyIdentifier registry.kind)), registry)
    else
      match registry.get? identifier with
      | none => (.answered (.error (.unknownIdentifier registry.kind identifier)), registry)
      | some descriptor => (.described descriptor args, registry)
  | .asked (.instantiate descriptor args) => (.described descriptor args, registry)
  | .described descriptor args =>
    match registry.constructor? descriptor.id args.signature with
    | some constructor => (.equipped constructor args, registry)
    | none => (.missed descriptor args, registry)
  | .missed descriptor args =>
    match descriptor.constructor? args.signature with
    | none =>
      (.answered (.error (.missingConstructor descriptor.typeName args.signature)), registry)
    | some constructor =>
      (.equipped constructor args, registry.keep descriptor.id args.signature constructor)
  | .equipped constructor args => (.answered (.ok (some (constructor args))), registry)
  | .asked (.register identifier descriptor) =>
    if identifier = "" then (.answered (.error (.emptyIdentifier registry.kind)), registry)
    else
      let next := registry.setEntry identifier descriptor
      match registry.get? identifier with
      | none => (.answered (.ok none), next)
      | some prior =>
        if prior.id = descriptor.id then (.answered (.ok none), next)
        else (.replaced prior.id, next)
  | .replaced prior =>
    if registry.isRegistered prior then (.answered (.ok none), registry)
    else (.orphaned prior, registry)
  | .orphaned prior => (.answered (.ok none), registry.evict prior)
  | .answered outcome => (.answered outcome, registry)

/-- So many steps of a call, with no other between them. -/
def Progress.steps : Nat → Registry α → Progress α → Progress α × Registry α
  | 0, registry, progress => (progress, registry)
  | n + 1, registry, progress => (progress.step registry).1.steps n (progress.step registry).2

/-- The most steps that a call takes. -/
def Progress.most : Nat := 4

/-! ## Traffic -/

/-- **A registry and the calls to it.** -/
structure Traffic (α : Type) where
  registry : Registry α
  calls : List (Progress α)

namespace Traffic

/-- Operations that have not begun. -/
def start (registry : Registry α) (operations : List (Operation α)) : Traffic α :=
  { registry := registry, calls := operations.map .asked }

/-- Move the call at a place by one step. -/
def step (traffic : Traffic α) (place : Nat) : Traffic α :=
  match traffic.calls[place]? with
  | none => traffic
  | some progress =>
    let (next, registry) := progress.step traffic.registry
    { registry := registry, calls := traffic.calls.set place next }

/-- **Move the calls one after the other**, in the order of their places in a schedule. -/
def after (traffic : Traffic α) (schedule : List Nat) : Traffic α :=
  schedule.foldl step traffic

end Traffic

end Folio
