import BrokerClient.Connection.Channels
import BrokerClient.Handler.Registry
import BrokerClient.Retry.Run

/-!
# Consumers

A consumer takes the messages of one queue. Each delivery is decoded and dispatched to the handlers
of its type, each of them with retries, and settled once: a body that is no envelope is rejected, a
delivery with a failed handler is refused, any other is acknowledged.

A consumer makes the job of a handler when it first runs it, and keeps the job in a table for all
later deliveries. The table goes by what handlers are equal to: a handler is not run by a job of its
own if one is kept for another handler that is equal to it.

A consumer works on a state that it shares with a manager and a registry. `Consumer.Site` says where
in that state they are.

## Main definitions

* `Consumer` — the state of a consumer, with the jobs that it keeps.
* `Consumer.Site` — where a consumer finds what it works with.
* `Consumer.wrap` — the job that a handler is run by.
* `Consumer.start`, `Consumer.stop` — taking and giving up a channel.
* `Consumer.receive` — what happens to a delivery.
-/

namespace BrokerClient

open Broker Channel Connection Event Trace

/-- How many deliveries came in and what became of them. -/
structure ConsumerStats where
  received : Int := 0
  succeeded : Int := 0
  failed : Int := 0
  rejected : Int := 0
  deriving DecidableEq, Inhabited, Repr

/-- The counters by name. -/
def ConsumerStats.members (s : ConsumerStats) : List (String × Json) :=
  [("received", .int s.received), ("succeeded", .int s.succeeded), ("failed", .int s.failed),
    ("rejected", .int s.rejected)]

/-- A consumer of one queue. -/
structure Consumer where
  options : ConsumerOptions
  schedule : Retry.Schedule := {}
  /-- Whether a failed delivery goes back to the queue. -/
  requeue : Bool := false
  tracer : Tracer := .silent
  channel : Option ConsumerChannel := none
  /-- What the broker calls the consumer. -/
  tag : Option String := none
  stats : ConsumerStats := {}
  /-- The jobs that are kept, by their handlers. -/
  wrapped : List (Handler × Retry.Job) := []
  /-- A job that is kept is the job of its handler. -/
  wrapped_eq : ∀ p ∈ wrapped, p.2 = .create p.1 schedule none .retry tracer
  deriving Repr

namespace Consumer

/-- A consumer as it is made: it has no channel and has run no handler. -/
def create (options : ConsumerOptions) (schedule : Retry.Schedule := {}) (requeue : Bool := false)
    (tracer : Tracer := .silent) : Consumer where
  options
  schedule
  requeue
  tracer
  wrapped_eq := List.forall_mem_nil _

/-- Where in a state a consumer finds what it works with. -/
structure Site (σ : Type) where
  consumer : Lens σ Consumer
  manager : Lens σ Manager
  registry : σ → Registry
  /-- Whether the transport says that a channel is closed. -/
  isClosed : σ → ChannelId → Bool

/-- Whether a consumer is consuming, given which channels are closed. -/
def isConsuming (c : Consumer) (isClosed : ChannelId → Bool) : Bool :=
  c.tag.isSome && match c.channel with
    | some channel => !isClosed channel.channel
    | none => false

/-- The name of a consumer's queue. -/
def queueName (c : Consumer) : String :=
  c.options.queueName

/-- The queue as a detail of a log record. -/
def queueDetail (c : Consumer) : String × Json :=
  ("queue_name", .str c.queueName)

/-- The tag as a detail of a log record. -/
def tagDetail (tag : Option String) : String × Json :=
  ("consumer_tag", Json.ofOption .str tag)

/-- Changes the counters. -/
def count (change : ConsumerStats → ConsumerStats) (c : Consumer) : Consumer :=
  { c with stats := change c.stats }

variable {σ : Type} (site : Site σ)

/-- The consumer. -/
def current : Act σ Consumer :=
  .read fun s => .done (site.consumer.get s)

/-- Changes the consumer. -/
def change (f : Consumer → Consumer) : Act σ Unit :=
  .modify (site.consumer.modify f)

/-- Cancels consuming, if the consumer has a tag and its channel is open. -/
def cancel (channel : ConsumerChannel) : Act σ Unit := .read fun s =>
  let c := site.consumer.get s
  match c.tag with
  | some tag =>
    if site.isClosed s channel.channel then return
    else
      Program.rescue (ask (.cancel channel.channel channel.queueName tag)) fun e => .read fun s =>
        .logFailure .consumer s!"Failed to cancel consumer on {c.queueName}: {e.message}" e
          [c.queueDetail, tagDetail (site.consumer.get s).tag]
  | none => return

/-- The error of removing the channel of a consumer that has given it up in the meantime. -/
def missingChannel : Error :=
  .fault .attribute "'NoneType' object has no attribute 'queue_name'"

/-- Removes the channel of the consumer from the manager. -/
def removeChannel : Act σ Unit := do
  match (← current site).channel with
  | some channel => (Manager.removeConsumerChannel channel).on site.manager
  | none => .fail missingChannel

/-- Ceases to consume and gives up the channel. A consumer without a channel is left alone. -/
def stop : Act σ Unit := do
  match (← current site).channel with
  | none => return
  | some channel =>
    cancel site channel
    change site fun c => { c with tag := none }
    removeChannel site
    change site fun c => { c with channel := none }
    let c ← current site
    .log .info .consumer s!"Stopped consuming from {c.queueName}"
      (c.queueDetail :: c.stats.members)

/-- Begins to consume on a new channel. -/
def begin : Act σ Unit := do
  let c ← current site
  let channel ← (Manager.createConsumerChannel c.options).on site.manager
  change site fun c => { c with channel := some channel }
  let tag : String ← Program.rescue (ask (.consume channel.channel channel.queueName)) fun e => do
    removeChannel site
    change site fun c => { c with channel := none }
    .fail e
  change site fun c => { c with tag := some tag }
  .read fun s =>
    .log .info .consumer s!"Consuming from {c.queueName}"
      [c.queueDetail, tagDetail (site.consumer.get s).tag,
        ("event_types", .arr ((site.registry s).eventTypes.map Json.str))]

/-- Provisions a channel and begins to consume. A channel that was closed from outside is given up
first; a consumer that is consuming is left alone. -/
def start : Act σ Unit := .read fun s => do
  let c := site.consumer.get s
  if c.isConsuming (site.isClosed s) then
    .log .warning .consumer s!"Consumer for {c.queueName} already started" []
  else
    if c.channel.isSome then stop site
    begin site

/-- The job of a handler of a consumer. -/
def job (c : Consumer) (h : Handler) : Retry.Job :=
  .create h c.schedule none .retry c.tracer

/-- Keeps the job of a handler, unless there is one for an equal handler. -/
def keep (h : Handler) (c : Consumer) : Consumer :=
  if (c.wrapped.lookup h).isSome then c
  else { c with
    wrapped := c.wrapped ++ [(h, c.job h)]
    wrapped_eq := by
      intro p member
      obtain old | new := List.mem_append.mp member
      · exact c.wrapped_eq p old
      · obtain rfl := List.mem_singleton.mp new
        rfl }

/-- The job that a handler is run by. It is kept from now on. A handler that cannot be hashed has
none. -/
def wrap (h : Handler) : Act σ Retry.Job :=
  match h.unhashable with
  | some text => .fail (.fault .type text)
  | none => do
    change site (keep h)
    let c ← current site
    return (c.wrapped.lookup h).getD (c.job h)

/-- The span of a delivery. -/
def span (c : Consumer) (e : Envelope) : Span where
  name := "brokerkit.consume"
  kind := .consumer
  attributes := some [
    (Attribute.eventId.key, .str e.eventId),
    (Attribute.eventType.key, .str e.eventType),
    (Attribute.messagingSystem.key, .str "rabbitmq"),
    (Attribute.messagingDestination.key, .str c.queueName),
    (Attribute.messagingOperation.key, .str "process")]

/-- Runs one handler of an event with retries. -/
def runOne (e : Envelope) (h : Handler) : Act σ Unit := do
  let job ← wrap site h
  job.run e 0

/-- Runs the handlers of an event. -/
def process (e : Envelope) : Act σ Unit := do
  let _ ← Registry.dispatch site.registry e (runOne site e)

/-- Settles a delivery whose body is no envelope. -/
def rejectDelivery (c : Consumer) (messageId : Option String) (error : Error) : Act σ Unit := do
  change site (count fun n => { n with rejected := n.rejected + 1 })
  .log .error .consumer
    s!"Rejecting undecodable message on {c.queueName}: {error.message}"
    [c.queueDetail, ("message_id", Json.ofOption .str messageId)]
  ask (.settle messageId (.reject false))

/-- Settles a delivery that a handler has failed on. -/
def refuseDelivery (c : Consumer) (messageId : Option String) (e : Envelope) (error : Error) :
    Act σ Unit := do
  change site (count fun n => { n with failed := n.failed + 1 })
  let requeue := if c.requeue then "True" else "False"
  .log .error .consumer
    (s!"Event processing failed, nacking (requeue={requeue}): " ++
      s!"{e.eventType} | ID: {e.eventId}")
    [c.queueDetail, ("event_type", .str e.eventType), ("event_id", .str e.eventId),
      ("error", .str error.message), ("error_type", .str error.name)]
  ask (.settle messageId (.nack c.requeue))

/-- Settles a delivery that all handlers have succeeded on. -/
def acknowledgeDelivery (messageId : Option String) : Act σ Unit := do
  change site (count fun n => { n with succeeded := n.succeeded + 1 })
  ask (.settle messageId .acknowledge)

/-- Processes an event inside a span. Gives whether all handlers have succeeded; if not, the
delivery has been refused. -/
def processOrRefuse (c : Consumer) (messageId : Option String) (e : Envelope) : Act σ Bool :=
  Program.inSpan c.tracer (c.span e) <|
    Program.rescue (do process site e; return true) fun error => do
      refuseDelivery site c messageId e error
      return false

/-- Takes a delivery. -/
def receive (fresh : Fresh) (body : ByteArray) (messageId : Option String) : Act σ Unit := do
  change site (count fun n => { n with received := n.received + 1 })
  let c ← current site
  match Envelope.ofBytes fresh body with
  | .error (.undecodable reason issues) =>
    rejectDelivery site c messageId (.undecodable reason issues)
  | .error error => .fail error
  | .ok e =>
    if ← processOrRefuse site c messageId e then acknowledgeDelivery site messageId
    else return

end Consumer

end BrokerClient
