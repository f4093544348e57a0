import BrokerClient.Scenario.World

/-!
# Steps with registries and with handlers that are run again
-/

namespace BrokerClient.Scenario

open Broker Retry Trace

/-- How a dispatch runs a handler: as it is, or with retries. -/
def runnerOf (draft : Option Draft) (tracer : Option String) (e : Event.Envelope) :
    Act (Handler → Broker.Act Registry Unit) :=
  match draft with
  | none => return fun h => Broker.ask (.handle h e)
  | some d => do
    let schedule ← Program.ofExcept d.schedule
    let tracer ← tracerOr .silent tracer
    return fun h => (Job.create h schedule none .retry tracer).run e 0

/-- Makes a registry. -/
def newRegistry (name : String) (unregistered : Unregistered) : Act Json := do
  .modify fun w => { w with registries := w.registries.put name { unregistered } }
  return .null

/-- Takes a step with a registry. -/
def RegistryAction.run (name : String) (a : RegistryAction) : Act Json := do
  let registry := World.registryAt (← place (·.registries) name)
  let w ← Program.state
  let r := registry.get w
  match a with
  | .register eventType candidate => do
    client registry (Registry.register eventType candidate.given)
    return .null
  | .unregister eventType label =>
    return .bool (← client registry (Registry.unregister eventType (w.handler label)))
  | .handlers eventType => return .arr ((r.handlers eventType).map fun h => .str h.identity)
  | .has eventType => return .bool (r.hasHandlers eventType)
  | .types => return .arr (r.eventTypes.map Json.str)
  | .clear => do
    .modify (registry.modify Registry.empty)
    return .null
  | .size => return .int r.size
  | .describe => return .str r.describe
  | .dispatch fields draft tracer => do
    let e ← envelopeOf fields
    let run ← runnerOf draft tracer e
    return .bool (← client registry (Registry.dispatch id e run))

/-- Takes a step with a handler that is run with retries. -/
def RetryAction.run (name : String) : RetryAction → Act Json
  | .wrap label draft given logger tracer => do
    let schedule ← scheduleOf draft
    let tracer ← tracerOr .silent tracer
    let h := (← Program.state).handler label
    let logger := (logger.map Log.Logger.custom).getD .retry
    let job := Job.create h schedule given logger tracer
    .modify fun w => { w with retries := w.retries.put name job }
    return .arr [.str job.title, .str job.title]
  | .call fields attempt => do
    let job ← lookUp (·.retries.named) name
    let e ← envelopeOf fields
    clientOnAll (job.run e attempt)
    return .null

end BrokerClient.Scenario
