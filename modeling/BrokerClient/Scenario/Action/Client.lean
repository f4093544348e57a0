import BrokerClient.Connection.Lifecycle
import BrokerClient.Scenario.World

/-!
# Steps with managers, publishers and consumers
-/

namespace BrokerClient.Scenario

open Broker Channel Connection

/-- Runs a program of the manager at a place. -/
def onManager {α : Type} (n : Nat) (p : Connection.Act α) : Act α :=
  client (World.managerAt n) p

/-- Makes a manager. -/
def newManager (name : String) (settings : List (String × Json)) : Act Json := do
  let settings ← Program.ofExcept (Settings.ofSources { keywords := settings })
  let m ← Program.ofExcept (Manager.create settings)
  .modify fun w => { w with managers := w.managers.put name m }
  return .arr [.str m.names.events, .str m.names.commands, .str m.names.dlx]

/-- Takes a step with a manager. -/
def ManagerAction.run (name : String) (a : ManagerAction) : Act Json := do
  let n ← place (·.managers) name
  match a with
  | .connect => do
    onManager n Manager.connect
    return .null
  | .disconnect => do
    onManager n Manager.disconnect
    return .null
  | .borrow => do
    let c ← onManager n Manager.borrow
    return .int c.number
  | .release c => do
    onManager n (Manager.giveBack c)
    return .null
  | .createConsumer handle fields => do
    let options ← Program.ofExcept (ConsumerOptions.create fields)
    let c ← onManager n (Manager.createConsumerChannel options)
    .modify fun w => { w with consumerChannels := (handle, c) :: w.consumerChannels }
    return .int c.channel.number
  | .removeConsumer handle => do
    let c ← lookUp (·.consumerChannels) handle
    onManager n (Manager.removeConsumerChannel c)
    return .null
  | .describe => return .str ((World.managerAt n).get (← Program.state)).describe
  | .stats => return ((World.managerAt n).get (← Program.state)).stats
  | .fillPool => do
    onManager n (Manager.onPool Pool.fill)
    return .null
  | .acquireFromPool => do
    let c ← onManager n (Manager.onPool Pool.acquire)
    return .int c.number

/-- The place of a named registry, or of a new one without a name. -/
def registryOr : Option String → Act Nat
  | some name => place (·.registries) name
  | none => do
    let n := (← Program.state).registries.objects.length
    .modify fun w => { w with registries := w.registries.push {} }
    return n

/-- The tracer that a component of a manager makes for itself. -/
def ownTracer (m : Manager) : Trace.Tracer :=
  .create m.settings.enableTracing true

/-- The publish options of given fields, or the standard ones without fields. -/
def optionsOf : Option Json → Act PublishOptions
  | some fields => .ofExcept (PublishOptions.create fields)
  | none => return {}

/-- Makes a publisher. -/
def newPublisher (name : String) (plan : PublisherPlan) : Act Json := do
  let manager ← place (·.managers) plan.manager
  let registry ← registryOr plan.registry
  let schedule ← scheduleOf plan.retry
  let m := (World.managerAt manager).get (← Program.state)
  let tracer ← tracerOr (ownTracer m) plan.tracer
  let publisher := Publisher.create m plan.exchange schedule tracer
  .modify fun w =>
    { w with publishers := w.publishers.put name { publisher, manager, registry } }
  let r := (World.registryAt registry).get (← Program.state)
  return .arr [.str publisher.exchange, .int r.size]

/-- Takes a step with a publisher. -/
def PublisherObject.act (o : PublisherObject) (a : PublisherAction) : Act Unit := do
  let manager := World.managerAt o.manager
  let registry := (World.registryAt o.registry).get
  match a with
  | .publish fields options => do
    let options ← optionsOf options
    let e ← envelopeOf fields
    clientOnAll (o.publisher.publish manager e options)
  | .emitLocal fields => do
    let e ← envelopeOf fields
    clientOnAll (Publisher.emitLocal registry e)
  | .emitAll fields options => do
    let options ← optionsOf options
    let e ← envelopeOf fields
    clientOnAll (o.publisher.emitAll manager registry e options)
  | .emitPriority fields priority => do
    let e ← envelopeOf fields
    let options ← optionsOf (some (.obj [("priority", priority), ("persistent", .bool true)]))
    clientOnAll (o.publisher.publish manager e options)
  | .emitWithExpiration fields expiration => do
    let e ← envelopeOf fields
    let options ←
      optionsOf (some (.obj [("expiration", expiration), ("persistent", .bool true)]))
    clientOnAll (o.publisher.publish manager e options)
  | .raw exchange key body contentType headers options => do
    let options ← optionsOf options
    clientOnAll (o.publisher.publishBytes manager exchange key body contentType headers options)

/-- Takes a step with a named publisher. -/
def PublisherAction.run (name : String) (a : PublisherAction) : Act Json := do
  let o ← lookUp (·.publishers.named) name
  o.act a
  return .null

/-- Where the consumer at a place finds what it works with. -/
def siteOf (n : Nat) (o : ConsumerObject) : Consumer.Site World where
  consumer := World.consumerAt n
  manager := World.managerAt o.manager
  registry := (World.registryAt o.registry).get
  isClosed w c := w.isClosed c

/-- The place of a named consumer and where it finds what it works with. -/
def consumerSite (name : String) : Act (Consumer.Site World) := do
  let n ← place (·.consumers) name
  return siteOf n ((World.consumersPart.andThen (Catalog.part n)).get (← Program.state))

/-- Makes a consumer. -/
def newConsumer (name : String) (plan : ConsumerPlan) : Act Json := do
  let options ← Program.ofExcept (ConsumerOptions.create plan.options)
  let schedule ← scheduleOf plan.retry
  let manager ← place (·.managers) plan.manager
  let registry ← place (·.registries) plan.registry
  let m := (World.managerAt manager).get (← Program.state)
  let tracer ← tracerOr (ownTracer m) plan.tracer
  let consumer := Consumer.create options schedule plan.requeue tracer
  .modify fun w => { w with consumers := w.consumers.put name { consumer, manager, registry } }
  return .null

/-- Takes a step with a consumer. -/
def ConsumerAction.run (name : String) : ConsumerAction → Act Json
  | .start => do
    clientOnAll (Consumer.start (← consumerSite name))
    return .null
  | .stop => do
    clientOnAll (Consumer.stop (← consumerSite name))
    return .null
  | .deliver body messageId => do
    let site ← consumerSite name
    let w ← Program.state
    match (site.consumer.get w).channel with
    | some c =>
      if w.network.consuming.contains c.channel then do
        let fresh ← draw
        clientOnAll (Consumer.receive site fresh body messageId)
        return .null
      else return .str "not consuming"
    | none => return .str "not consuming"

end BrokerClient.Scenario
