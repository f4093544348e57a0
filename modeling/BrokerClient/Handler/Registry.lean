import BrokerClient.Broker.Request
import BrokerClient.Json.Printer
import BrokerClient.Text.Quoted

/-!
# The handler registry

A registry is a table from event types to handlers. A type is in the table only while it has a
handler, and the handlers of a type are in the order in which they were registered, no two of them
equal. Dispatching an event takes the handlers of its type as they are at that moment and runs them
one after another up to the first that fails.

## Main definitions

* `Registry` — the table.
* `Registry.register`, `Registry.unregister` — changes of the table.
* `Registry.dispatch` — the run of the handlers of an event.
-/

namespace BrokerClient

open Event

/-- What happens to an event whose type has no handler. -/
inductive Unregistered
  | ignore
  | warn
  | error
  deriving DecidableEq, Inhabited, Repr

/-- The word for what happens to an event without a handler. -/
def Unregistered.name : Unregistered → String
  | .ignore => "ignore"
  | .warn => "warn"
  | .error => "error"

/-- The handlers by event type. -/
structure Registry where
  unregistered : Unregistered := .warn
  table : List (String × List Handler) := []
  deriving DecidableEq, Inhabited, Repr

namespace Registry

/-- What may be given to be registered: a handler, or a value that cannot be called. -/
inductive Candidate
  | handler (h : Handler)
  | value (v : Json)

/-- The handlers of a type. -/
def handlers (r : Registry) (eventType : String) : List Handler :=
  (r.table.lookup eventType).getD []

/-- Whether a type has a handler. -/
def hasHandlers (r : Registry) (eventType : String) : Bool :=
  !(r.handlers eventType).isEmpty

/-- The types that have a handler. -/
def eventTypes (r : Registry) : List String :=
  r.table.map (·.1)

/-- All handlers, type by type. -/
def toList (r : Registry) : List (String × Handler) :=
  r.table.flatMap fun row => row.2.map (row.1, ·)

/-- How many handlers there are, over all types. -/
def size (r : Registry) : Nat :=
  r.toList.length

/-- Appends a handler to the row of a type, or a new row. -/
def appendTo (eventType : String) (h : Handler) :
    List (String × List Handler) → List (String × List Handler)
  | [] => [(eventType, [h])]
  | (t, hs) :: rest =>
    if t == eventType then (t, hs ++ [h]) :: rest else (t, hs) :: appendTo eventType h rest

/-- Adds a handler to a type that has no equal one yet. -/
def add (eventType : String) (h : Handler) (r : Registry) : Registry :=
  { r with table := appendTo eventType h r.table }

/-- Removes a handler from its type, and the type if no handler is left. -/
def remove (eventType : String) (h : Handler) (r : Registry) : Registry :=
  { r with table := r.table.filterMap fun row =>
      if row.1 == eventType then
        match row.2.erase h with
        | [] => none
        | hs => some (row.1, hs)
      else some row }

/-- Removes all handlers. -/
def empty (r : Registry) : Registry :=
  { r with table := [] }

/-- A registry in one line. -/
def describe (r : Registry) : String :=
  s!"HandlerRegistry(event_types={r.table.length}, handlers={r.size}, " ++
    s!"unregistered_event_handling={Text.quote r.unregistered.name})"

variable {S : Signature} {σ : Type}

/-- Logs what was done with a handler. -/
def logRegistered (done eventType : String) (h : Handler) : Program S σ Unit :=
  .log .debug .registry s!"{done} for {eventType}: {h.name}"
    [("event_type", .str eventType), ("handler", .str h.name)]

/-- Registers a handler for a type, unless it has an equal one. What cannot be called is refused,
and so is the empty type. -/
def register (eventType : String) (c : Candidate) : Program S Registry Unit := do
  if eventType.isEmpty then
    .fail (.badValue "event_type must be a non-empty string")
  else match c with
    | .value v =>
      .fail (.fault .type s!"Handler for {eventType} must be callable, got {v.inspect}")
    | .handler h =>
      if ((← Program.state).handlers eventType).contains h then
        logRegistered "Handler already registered" eventType h
      else
        .modify (add eventType h)
        logRegistered "Registered handler" eventType h

/-- Removes a handler from a type. Gives whether it, or one that is equal to it, was registered. -/
def unregister (eventType : String) (h : Handler) : Program S Registry Bool := do
  if ((← Program.state).handlers eventType).contains h then
    .modify (remove eventType h)
    return true
  else return false

/-- Deals with an event whose type has no handler. -/
def reportUnregistered (r : Registry) (e : Envelope) : Program S σ Unit :=
  match r.unregistered with
  | .ignore => return
  | .error => .fail (.unhandledEvent e.eventType e.eventId)
  | .warn =>
    let known := if r.eventTypes.isEmpty then "none" else ", ".intercalate r.eventTypes
    .log .warning .registry
      s!"No handler registered for event type {e.eventType}. Registered types: {known}"
      [("event_type", .str e.eventType), ("event_id", .str e.eventId),
        ("registered_types", .arr (r.eventTypes.map Json.str))]

/-- Runs the handlers of an event's type, each of them by `run`. Gives whether there were any. -/
def dispatch (registry : σ → Registry) (e : Envelope) (run : Handler → Program S σ Unit) :
    Program S σ Bool :=
  .read fun s =>
    let r := registry s
    match r.handlers e.eventType with
    | [] => do
      r.reportUnregistered e
      return false
    | hs => do
      hs.forM run
      return true

end Registry

end BrokerClient
