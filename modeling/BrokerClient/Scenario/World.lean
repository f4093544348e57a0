import BrokerClient.Scenario.Answer
import BrokerClient.Scenario.Catalog
import BrokerClient.Scenario.Script

/-!
# The world of a scenario

The world holds the simulated broker, all objects that the steps have made, and what has happened
since the last answer. Steps are programs on the world. What they ask for is served by programs
too, until only the requests of `Request` are left, which are about running side by side: waiting
at a gate, closing several channels, calling a handler, and starting and awaiting other programs.

## Main definitions

* `World` — the state that steps share.
* `Request` — what is left to ask for.
* `serve` — how requests of the client come down to these.
-/

namespace BrokerClient.Scenario

open Broker Channel Connection Event Trace

/-- A pool with the connection that it opens channels on. -/
structure PoolObject where
  pool : Pool
  connection : ConnectionId
  deriving Inhabited

/-- A publisher with the places of its manager and its registry. -/
structure PublisherObject where
  publisher : Publisher
  manager : Nat
  registry : Nat
  deriving Inhabited

instance : Inhabited Consumer where
  default := .create { queueName := "" }

/-- A consumer with the places of its manager and its registry. -/
structure ConsumerObject where
  consumer : Consumer
  manager : Nat
  registry : Nat
  deriving Inhabited

/-- The world of a scenario. -/
structure World where
  /-- Identifiers and moments for envelopes that do not give their own. -/
  supply : Nat → Fresh
  /-- How often the supply was used. -/
  drawn : Nat := 0
  behaviours : List (String × Behaviour)
  /-- How many calls of each handler have had their outcome. -/
  outcomes : List (String × Nat) := []
  network : Network := {}
  /-- The gates that are closed. -/
  held : List String := []
  record : Record := {}
  /-- What the recording tracers hold. -/
  tracers : List (String × Recorder) := []
  registries : Catalog Registry := {}
  retries : Catalog Retry.Job := {}
  pools : Catalog PoolObject := {}
  channels : Catalog ConsumerChannel := {}
  managers : Catalog Manager := {}
  /-- The consumer channels that managers have made, by name. -/
  consumerChannels : List (String × ConsumerChannel) := []
  publishers : Catalog PublisherObject := {}
  consumers : Catalog ConsumerObject := {}
  /-- The tasks in the background, with their outcome once they are done. -/
  tasks : List (String × Option Outcome) := []
  /-- The answers of the steps so far. -/
  answers : List Answer := []

/-- What steps ask for once all else is served. -/
inductive Request
  /-- To go on when a gate is open. -/
  | pass (gate : String)
  /-- To close channels side by side. -/
  | closeAll (purpose : String) (channels : List ChannelId)
  /-- To call a handler. -/
  | invoke (handler : Handler) (envelope : Envelope)
  /-- To start a step in the background. -/
  | spawn (task : String) (step : Step)
  /-- To let waiting programs go on: so many of those at a gate, or all of them. -/
  | release (gate : String) (count : Option Nat)
  /-- To go on when nothing else can. -/
  | idle

/-- The requests of steps. All are replied with nothing. -/
abbrev requests : Signature := ⟨Request, fun _ => Unit⟩

/-- A program on the world. -/
abbrev Act := Program requests World

/-- Sends a request of a step. -/
def ask (r : Request) : Act Unit :=
  Program.perform (S := requests) r

namespace World

/-- Notes a signal. -/
def note (x : Signal) (w : World) : World :=
  match x with
  | .log r => { w with record := { w.record with logs := w.record.logs ++ [r] } }
  | .spanOpened (.recording name) span =>
    { w with tracers := w.tracers.map fun t => if t.1 == name then (name, t.2.note span) else t }
  | .spanOpened .. | .spanClosed .. => w

/-- Writes down a call. -/
def noteCall (c : Call) (w : World) : World :=
  { w with record := { w.record with calls := w.record.calls ++ [c] } }

/-- Writes down a wait. -/
def noteSleep (seconds : Float) (w : World) : World :=
  { w with record := { w.record with sleeps := w.record.sleeps ++ [seconds] } }

/-- Writes down the call of a handler. -/
def noteHandled (h : Handler) (e : Envelope) (w : World) : World :=
  let entry := (h.identity, e.eventType, e.eventId)
  { w with record := { w.record with handled := w.record.handled ++ [entry] } }

/-- Whether the channel is closed. -/
def isClosed (w : World) (c : ChannelId) : Bool :=
  w.network.isChannelClosed c

/-- The registries. -/
def registriesPart : Lens World (Catalog Registry) :=
  ⟨(·.registries), fun c w => { w with registries := c }⟩

/-- The pools. -/
def poolsPart : Lens World (Catalog PoolObject) :=
  ⟨(·.pools), fun c w => { w with pools := c }⟩

/-- The managers. -/
def managersPart : Lens World (Catalog Manager) :=
  ⟨(·.managers), fun c w => { w with managers := c }⟩

/-- The consumers. -/
def consumersPart : Lens World (Catalog ConsumerObject) :=
  ⟨(·.consumers), fun c w => { w with consumers := c }⟩

/-- The registry at a place. -/
def registryAt (place : Nat) : Lens World Registry :=
  registriesPart.andThen (Catalog.part place)

/-- The pool at a place. -/
def poolAt (place : Nat) : Lens World Pool :=
  (poolsPart.andThen (Catalog.part place)).andThen ⟨(·.pool), fun p o => { o with pool := p }⟩

/-- The manager at a place. -/
def managerAt (place : Nat) : Lens World Manager :=
  managersPart.andThen (Catalog.part place)

/-- The consumer at a place. -/
def consumerAt (place : Nat) : Lens World Consumer :=
  (consumersPart.andThen (Catalog.part place)).andThen
    ⟨(·.consumer), fun c o => { o with consumer := c }⟩

/-- Makes sure that there is a recording tracer with a name. -/
def addTracer (name : String) (w : World) : World :=
  if (w.tracers.lookup name).isSome then w else { w with tracers := w.tracers ++ [(name, {})] }

/-- Adds a task that is not done. -/
def addTask (name : String) (w : World) : World :=
  { w with tasks := (name, none) :: w.tasks.filter fun t => t.1 != name }

/-- Notes the outcome of a task. -/
def endTask (name : String) (o : Outcome) (w : World) : World :=
  { w with tasks := w.tasks.map fun t => if t.1 == name then (name, some o) else t }

/-- The next outcome of a handler, and the world in which it has been used. -/
def nextOutcome (label : String) (w : World) : Option Error × World :=
  let b := (w.behaviours.lookup label).getD {}
  let n := (w.outcomes.lookup label).getD 0
  let outcomes := (label, n + 1) :: w.outcomes.filter fun o => o.1 != label
  (b.outcomes.getD n b.always, { w with outcomes := outcomes })

/-- The handler with a label. -/
def handler (w : World) (label : String) : Handler :=
  Actor.handler ⟨label, ((w.behaviours.lookup label).getD {}).isFunction⟩

end World

/-- Makes the call of a request: it waits at the gate of its operation and is then made. -/
def makeCall (r : Broker.Request) : Act r.Reply := do
  ask (.pass (callOf r).operation)
  let w ← Program.state
  let (call, reply, network) := w.network.make r
  .modify fun w => { w with network := network }.noteCall call
  .ofExcept reply

/-- Serves a request of the client. Waits and calls of handlers are written down before they wait at
their gates. -/
def serve : (r : Broker.Request) → Act r.Reply
  | .sleep seconds => do
    .modify (World.noteSleep seconds)
    ask (.pass (callOf (.sleep seconds)).operation)
  | .handle h e => do
    .modify (World.noteHandled h e)
    ask (.pass (callOf (.handle h e)).operation)
    ask (.invoke h e)
  | .closeChannels purpose channels => ask (.closeAll purpose channels)
  | r => makeCall r

/-- Serves a request of a pool on a connection. -/
def servePool (connection : ConnectionId) : (r : Pool.Request) → Act r.Reply
  | .openChannel => serve (.openChannel connection)
  | .closeChannel c => serve (.closeChannel c)
  | .closeChannels cs => serve (.closeChannels "publisher" cs)

/-- Runs a program of the client on a part of the world. -/
def client {τ α : Type} (part : Lens World τ) (p : Broker.Act τ α) : Act α :=
  p.within part serve

/-- Runs a program of the client on the whole world. -/
def clientOnAll {α : Type} (p : Broker.Act World α) : Act α :=
  p.within ⟨id, fun w _ => w⟩ serve

/-- The program that closes one channel of several. -/
def closeOne (purpose : String) (c : ChannelId) : Act Unit := do
  let _ ← closeQuietly (serve (.closeChannel c)) purpose

/-- The next identifier and moment of the supply. -/
def draw : Act Fresh := do
  let w ← Program.state
  .modify fun w => { w with drawn := w.drawn + 1 }
  return w.supply w.drawn

/-- The place of a named object; without one the step fails. -/
def place {α : Type} (catalog : World → Catalog α) (name : String) : Act Nat := do
  match (catalog (← Program.state)).place? name with
  | some n => return n
  | none => .fail (.fault .key (Text.quote name))

/-- A named value; without one the step fails. -/
def lookUp {α : Type} (values : World → List (String × α)) (name : String) : Act α := do
  match (values (← Program.state)).lookup name with
  | some a => return a
  | none => .fail (.fault .key (Text.quote name))

/-- The tracer of a component: a recording one if it is named, else the component's own. -/
def tracerOr (own : Tracer) : Option String → Act Tracer
  | some name => do
    .modify (World.addTracer name)
    return .recording name
  | none => return own

/-- The schedule of a draft, or the standard one without a draft. -/
def scheduleOf (draft : Option Retry.Draft) : Act Retry.Schedule :=
  .ofExcept ((draft.getD {}).schedule)

/-- The envelope of given fields. -/
def envelopeOf (fields : Json) : Act Envelope := do
  .ofExcept (Envelope.create (← draw) fields)

end BrokerClient.Scenario
