import BrokerClient.Connection.Channels
import BrokerClient.Handler.Registry
import BrokerClient.Retry.Schedule
import BrokerClient.Trace.Attribute

/-!
# Publishers

A publisher sends events to an exchange on channels that it borrows from a manager, and dispatches
events to the handlers of its own process. Sending a message is tried again as often as the
options of the message allow; every attempt borrows a channel anew.

## Main definitions

* `Publisher.send` — a message, with retries.
* `Publisher.publish` — an event as a message, inside a span.
* `Publisher.emitLocal` — an event within the process.
-/

namespace BrokerClient

open Broker Connection Event Trace

/-- A publisher to one exchange. -/
structure Publisher where
  exchange : String
  schedule : Retry.Schedule := {}
  tracer : Tracer := .silent
  deriving Inhabited, Repr

namespace Publisher

/-- A publisher to a named exchange, or to the manager's events exchange without a name. -/
def create (m : Manager) (exchange : Option String) (schedule : Retry.Schedule)
    (tracer : Tracer) : Publisher :=
  let given := exchange.getD ""
  { exchange := if given.isEmpty then m.names.events else given, schedule, tracer }

/-- The type and the identifier of an event as details of a log record. -/
def eventDetails (e : Envelope) : List (String × Json) :=
  [("event_type", .str e.eventType), ("event_id", .str e.eventId)]

/-- A message with where it goes and how often sending it is tried again. -/
structure Sending where
  exchange : String
  routingKey : String
  message : Message
  maxRetries : Nat

variable {σ : Type} (manager : Lens σ Manager)

/-- Sends a message once, on a borrowed channel. -/
def sendOnce (x : Sending) : Act σ Unit :=
  Manager.withChannel manager fun channel => do
    ask (.findExchange channel x.exchange)
    ask (.publish channel x.exchange x.routingKey x.message)

/-- Logs that an attempt to send a message has failed. -/
def logFailedAttempt (x : Sending) (number : Nat) (error : Error) : Act σ Unit :=
  .logFailure .publisher
    s!"Publish failed: {x.routingKey} -> {x.exchange}: {error.message}" error
    [("exchange", .str x.exchange), ("routing_key", .str x.routingKey),
      ("attempt", .int number), ("max_retries", .int x.maxRetries),
      ("error_type", .str error.name)]

/-- Waits for the next attempt after a failed one. -/
def pause (schedule : Retry.Schedule) (x : Sending) (number : Nat) : Act σ Unit := do
  let delay ← Program.ofExcept (schedule.backoff number)
  .log .warning .publisher
    (s!"Retrying publish ({number + 1}/{x.maxRetries}) in {Retry.delayText delay}s: " ++
      x.routingKey)
    [("routing_key", .str x.routingKey), ("remaining", .int (x.maxRetries - number))]
  ask (.sleep delay)

/-- Tries to send a message from an attempt on, with so many more to come after a failure. -/
def sendFrom (schedule : Retry.Schedule) (x : Sending) : Nat → Nat → Act σ Unit
  | remaining, number => do
    match ← (sendOnce manager x).attempt with
    | .ok () => return
    | .error error =>
      if error.isOrdinary then
        logFailedAttempt x number error
        match remaining with
        | 0 => .fail error
        | remaining + 1 => do
          pause schedule x number
          sendFrom schedule x remaining (number + 1)
      else .fail error

/-- Sends a message. -/
def send (schedule : Retry.Schedule) (x : Sending) : Act σ Unit :=
  sendFrom manager schedule x x.maxRetries 0

/-- The span of publishing an event. -/
def span (p : Publisher) (e : Envelope) : Span where
  name := "brokerkit.publish"
  kind := .producer
  attributes := some [
    (Attribute.eventId.key, .str e.eventId),
    (Attribute.eventType.key, .str e.eventType),
    (Attribute.messagingSystem.key, .str "rabbitmq"),
    (Attribute.messagingDestination.key, .str p.exchange),
    (Attribute.messagingRoutingKey.key, .str e.eventType),
    (Attribute.messagingOperation.key, .str "publish")]

/-- Publishes an event. -/
def publish (p : Publisher) (e : Envelope) (o : PublishOptions) : Act σ Unit := do
  .log .info .publisher s!"Publishing event: {e.eventType} | ID: {e.eventId}"
    (eventDetails e ++ [("exchange", .str p.exchange)])
  let message ← Program.ofExcept (Message.ofEnvelope e o)
  Program.inSpan p.tracer (p.span e) <|
    send manager p.schedule ⟨p.exchange, e.eventType, message, o.maxRetries.toNat⟩
  .log .info .publisher s!"Event published: {e.eventType}" (eventDetails e)

/-- Publishes a body as it is to any exchange. -/
def publishBytes (p : Publisher) (exchange routingKey : String) (body : ByteArray)
    (contentType : String) (headers : List (String × Json)) (o : PublishOptions) :
    Act σ Unit := do
  let message ← Program.ofExcept (Message.ofBytes body contentType headers o)
  send manager p.schedule ⟨exchange, routingKey, message, o.maxRetries.toNat⟩

/-- Dispatches an event to the handlers of the process. -/
def emitLocal (registry : σ → Registry) (e : Envelope) : Act σ Unit := do
  .log .info .publisher s!"Local event: {e.eventType} | ID: {e.eventId}" (eventDetails e)
  let _ ← Registry.dispatch registry e fun h => ask (.handle h e)

/-- Dispatches an event to the handlers of the process and publishes it. -/
def emitAll (p : Publisher) (registry : σ → Registry) (e : Envelope) (o : PublishOptions) :
    Act σ Unit := do
  emitLocal registry e
  p.publish manager e o

end Publisher

end BrokerClient
