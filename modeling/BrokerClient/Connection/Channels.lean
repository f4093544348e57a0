import BrokerClient.Connection.Manager

/-!
# The channels of a connection

Publisher channels are lent from the pool. A consumer channel is opened and provisioned for one
consumer and tracked until it is removed; if provisioning fails, the channel is closed.

## Main definitions

* `Manager.borrow`, `Manager.giveBack`, `Manager.withChannel` — publisher channels.
* `Manager.createConsumerChannel`, `Manager.removeConsumerChannel` — consumer channels.
-/

namespace BrokerClient.Connection.Manager

open Broker Channel

/-- Lends a publisher channel. -/
def borrow : Act ChannelId := do
  match (← Program.state).connection with
  | some _ => onPool Pool.acquire
  | none => .fail (.notConnected "get a publisher channel")

/-- Takes a publisher channel back. -/
def giveBack (c : ChannelId) : Act Unit :=
  onPool (Pool.release c)

/-- Runs a program with a lent publisher channel and takes the channel back afterwards. -/
def withChannel {σ α : Type} (manager : Lens σ Manager) (body : ChannelId → Broker.Act σ α) :
    Broker.Act σ α := do
  let c ← borrow.on manager
  (body c).ensuring ((giveBack c).on manager)

/-- The queue of a consumer channel as a detail of a log record. -/
def queueDetail (o : ConsumerOptions) : String × Json :=
  ("queue_name", .str o.queueName)

/-- Logs that a step towards a consumer channel has failed. -/
def logConsumerFailure (step : String) (o : ConsumerOptions) (e : Error) : Act Unit :=
  .logFailure .connection
    s!"Failed to {step} consumer channel for queue {o.queueName}: {e.message}" e
    [queueDetail o, ("error_type", .str e.name)]

/-- The error of a consumer channel that could not be made. -/
def consumerChannelError (o : ConsumerOptions) (e : Error) : Error :=
  .channelCreation "consumer" e.message (some o.queueName) (some e)

/-- Opens a consumer channel, provisions it and begins to track it. -/
def createConsumerChannel (o : ConsumerOptions) : Act ConsumerChannel := do
  let m ← Program.state
  match m.connection with
  | none => .fail (.notConnected "create a consumer channel")
  | some c =>
    .log .info .connection s!"Creating consumer channel for queue: {o.queueName}"
      [queueDetail o]
    let channel : ChannelId ← Program.rescue (ask (.openChannel c)) fun e => do
      logConsumerFailure "open" o e
      .fail (consumerChannelError o e)
    let consumerChannel ← Program.rescue (provision channel o m.names.events) fun e => do
      logConsumerFailure "provision" o e
      let _ ← closeQuietly (ask (.closeChannel channel)) "consumer"
      .fail (consumerChannelError o e)
    .modify (track consumerChannel)
    let m ← Program.state
    .log .info .connection s!"Consumer channel ready for queue: {o.queueName}"
      [queueDetail o, m.consumersDetail]
    return consumerChannel

/-- Closes a consumer channel and ceases to track it. A channel that is not tracked is left alone.
-/
def removeConsumerChannel (c : ConsumerChannel) : Act Unit := do
  if (← Program.state).tracks c then
    let _ ← closeQuietly (ask (.closeChannel c.channel)) "consumer"
    .modify (untrack c)
    let m ← Program.state
    .log .info .connection s!"Consumer channel removed for queue: {c.queueName}"
      [queueDetail c.options, m.consumersDetail]
  else
    .log .warning .connection
      s!"Consumer channel for queue {c.queueName} is not tracked, ignoring"
      [queueDetail c.options]

end BrokerClient.Connection.Manager
