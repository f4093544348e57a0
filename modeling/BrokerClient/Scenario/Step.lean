import BrokerClient.Scenario.Action.Channel
import BrokerClient.Scenario.Action.Client
import BrokerClient.Scenario.Action.Handler
import BrokerClient.Scenario.Snapshot

/-!
# Steps

A step with steps inside enters its block, takes the steps, and leaves the block whatever has
happened. The steps inside answer for themselves, so only an error of the block's own or of
leaving it makes the step fail. What a step makes happen is written down in its answer.
-/

namespace BrokerClient.Scenario

open Broker Connection

/-- Takes a step without steps inside. -/
def Action.run : Action → Act Json
  | .network a => a.run
  | .isDone task => return .bool ((← lookUp (·.tasks) task).isSome)
  | .newRegistry name unregistered => Scenario.newRegistry name unregistered
  | .registry name a => a.run name
  | .retry name a => a.run name
  | .newPool name size => Scenario.newPool name size
  | .pool name a => a.run name
  | .routing application a => a.run application
  | .channel a => a.run
  | .newManager name settings => Scenario.newManager name settings
  | .manager name a => a.run name
  | .newPublisher name plan => Scenario.newPublisher name plan
  | .publisher name a => a.run name
  | .newConsumer name plan => Scenario.newConsumer name plan
  | .consumer name a => a.run name

/-- A block that has been entered: the channel that it holds and how it is left. -/
structure Entered where
  channel : Option ChannelId
  leave : Act Unit

/-- Enters a block. -/
def Block.enter : Block → Act Entered
  | .pool name => do
    let n ← place (·.pools) name
    let c ← onPool n Channel.Pool.acquire
    return ⟨some c, onPool n (Channel.Pool.release c)⟩
  | .channel name => do
    let n ← place (·.managers) name
    let c ← onManager n Manager.borrow
    return ⟨some c, onManager n (Manager.giveBack c)⟩
  | .session name => do
    let n ← place (·.managers) name
    onManager n Manager.connect
    return ⟨none, onManager n Manager.disconnect⟩
  | .consumer name => do
    let site ← consumerSite name
    clientOnAll (Consumer.start site)
    return ⟨none, clientOnAll (Consumer.stop site)⟩

/-- Takes what has been written down since it was last taken. -/
def takeRecord : Act Record := do
  let w ← Program.state
  .modify fun w => { w with record := {} }
  return w.record

/-- The answer of a step that has ended. -/
def answerOf (o : Outcome) : Act Answer := do
  let record ← takeRecord
  let w ← Program.state
  return .mk o.result o.block record w.snapshot

/-- The outcome of a task. A task that is not done is given the time to become so. -/
def outcomeOf (task : String) : Act Outcome := do
  ask .idle
  match ← lookUp (·.tasks) task with
  | some o => return o
  | none => .fail (.fault .runtime "task is not done")

mutual

/-- Takes a step. -/
def Step.run : Step → Act Outcome
  | .act a => do
    return { result := ← a.run.attempt }
  | .spawn task step => do
    let result ← Program.attempt do
      .modify (World.addTask task)
      ask (.spawn task step)
      ask .idle
      return .bool ((← lookUp (·.tasks) task).isSome)
    return { result }
  | .join task => do
    match ← (outcomeOf task).attempt with
    | .ok o => return o
    | .error e => return { result := .error e }
  | .block b inner raised => do
    match ← b.enter.attempt with
    | .error e => return { result := .error e }
    | .ok entered => do
      let record ← takeRecord
      let steps ← Step.answers inner
      let left ← entered.leave.attempt
      let result : Except Error Json := match left, raised with
        | .error e, _ => .error e
        | .ok (), some e => .error e
        | .ok (), none => .ok .null
      return { result, block := some ⟨entered.channel, record, steps⟩ }

/-- Takes steps one after another and gives their answers. -/
def Step.answers : List Step → Act (List Answer)
  | [] => return []
  | s :: rest => do
    let o ← s.run
    let answer ← answerOf o
    return answer :: (← Step.answers rest)

end

/-- Takes a step and fails if it fails. -/
def Step.perform (s : Step) : Act Unit := do
  let _ ← Program.ofExcept (← s.run).result

/-- What a handler does when it is called: its steps, and then its next outcome. -/
def invoke (h : Handler) : Act Unit := do
  let b := ((← Program.state).behaviours.lookup h.identity).getD {}
  b.steps.forM Step.perform
  let (error, after) := World.nextOutcome h.identity (← Program.state)
  .modify fun _ => after
  match error with
  | some e => .fail e
  | none => return

/-- A step in the background: its outcome is noted. -/
def runTask (task : String) (s : Step) : Act Unit := do
  let o ← s.run
  .modify (World.endTask task o)

end BrokerClient.Scenario
