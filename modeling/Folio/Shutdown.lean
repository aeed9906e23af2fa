/-!
# Shutdown

A shutdown is announced to everyone who listens. A listener that has not looked for a while still
gets the latest announcement, after being told how many it missed.

* **`Shutdown`**: the number of announcements so far, and for each listener the number of those it
  has seen.
* `Shutdown.subscribe`, `Shutdown.trigger`, `Shutdown.receive`, `Shutdown.unsubscribe`: listen,
  announce, look, and stop listening.
* `ShutdownStep`, **`Shutdown.run`**: histories. Handles to one shutdown may be copied; all copies
  announce to the same listeners.
-/

namespace Folio

/-- **Announcements and listeners.** -/
structure Shutdown where
  /-- The number of announcements so far. -/
  sent : Nat := 0
  /-- For each listener, the number of announcements it has seen or missed. -/
  listeners : List (String × Nat) := []
  deriving DecidableEq, Inhabited, Repr

/-- What a listener finds. -/
inductive Received
  | signal
  /-- Nothing was announced since it looked last. -/
  | empty
  /-- So many announcements were replaced by later ones. -/
  | lagged (missed : Nat)
  deriving DecidableEq, Inhabited, Repr

/-- The wording of what a listener finds. -/
def Received.text : Received → String
  | .signal => "signal"
  | .empty => "Empty"
  | .lagged missed => "Lagged(" ++ toString missed ++ ")"

namespace Shutdown

/-- How many announcements a listener has seen or missed. -/
def seen? (shutdown : Shutdown) (name : String) : Option Nat :=
  (shutdown.listeners.find? fun listener => listener.1 = name).map Prod.snd

/-- The listeners but for one name. -/
def others (shutdown : Shutdown) (name : String) : List (String × Nat) :=
  shutdown.listeners.filter fun listener => listener.1 ≠ name

/-- Listen from now on; a listener of the same name gives way. -/
def subscribe (shutdown : Shutdown) (name : String) : Shutdown :=
  { shutdown with listeners := (name, shutdown.sent) :: shutdown.others name }

/-- Stop listening. -/
def unsubscribe (shutdown : Shutdown) (name : String) : Shutdown :=
  { shutdown with listeners := shutdown.others name }

/-- Announce to all who listen. -/
def trigger (shutdown : Shutdown) : Shutdown :=
  if shutdown.listeners.isEmpty then shutdown else { shutdown with sent := shutdown.sent + 1 }

/-- Set how many announcements a listener has seen or missed. -/
def setSeen (shutdown : Shutdown) (name : String) (seen : Nat) : Shutdown :=
  { shutdown with
    listeners := shutdown.listeners.map fun listener =>
      if listener.1 = name then (name, seen) else listener }

/-- What a listener finds that has seen `seen` announcements, and how many it has seen then. Only
the latest announcement is kept. -/
def look (sent seen : Nat) : Received × Nat :=
  if seen ≥ sent then (.empty, seen)
  else if seen + 1 = sent then (.signal, sent)
  else (.lagged (sent - seen - 1), sent - 1)

/-- A listener looks; none if nobody of that name listens. -/
def receive (shutdown : Shutdown) (name : String) : Option Received × Shutdown :=
  match shutdown.seen? name with
  | none => (none, shutdown)
  | some seen =>
    let (found, seen) := look shutdown.sent seen
    (some found, shutdown.setSeen name seen)

/-- The number of listeners. -/
def listenerCount (shutdown : Shutdown) : Nat :=
  shutdown.listeners.length

end Shutdown

/-! ## Histories -/

/-- One step of a history. -/
inductive ShutdownStep
  /-- A handle is copied. -/
  | clone
  | subscribe (name : String)
  | trigger
  | receive (name : String)
  | unsubscribe (name : String)
  deriving DecidableEq, Inhabited, Repr

/-- The shutdown after one step. -/
def Shutdown.step (shutdown : Shutdown) : ShutdownStep → Shutdown
  | .clone => shutdown
  | .subscribe name => shutdown.subscribe name
  | .trigger => shutdown.trigger
  | .receive name => (shutdown.receive name).2
  | .unsubscribe name => shutdown.unsubscribe name

/-- **The shutdown after a history.** -/
def Shutdown.run (shutdown : Shutdown) (steps : List ShutdownStep) : Shutdown :=
  steps.foldl Shutdown.step shutdown

end Folio
