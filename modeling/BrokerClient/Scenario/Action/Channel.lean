import BrokerClient.Scenario.Action.Network

/-!
# Steps with pools, exchanges and single channels
-/

namespace BrokerClient.Scenario

open Broker Channel Routing

/-- Runs a program of the pool at a place. -/
def onPool {α : Type} (n : Nat) (p : Pool.Act α) : Act α := do
  let connection := ((World.poolsPart.andThen (Catalog.part n)).get (← Program.state)).connection
  p.within (World.poolAt n) (servePool connection)

/-- Makes a pool on a connection of its own. -/
def newPool (name : String) (size : Int) : Act Json := do
  let connection ← openConnection
  let pool ← Program.ofExcept (Pool.create size)
  .modify fun w => { w with pools := w.pools.put name { pool, connection } }
  return .null

/-- Takes a step with a pool. -/
def PoolAction.run (name : String) (a : PoolAction) : Act Json := do
  let n ← place (·.pools) name
  match a with
  | .fill => do
    onPool n Pool.fill
    return .null
  | .acquire => do
    let c ← onPool n Pool.acquire
    return .int c.number
  | .release c => do
    onPool n (Pool.release c)
    return .null
  | .close => do
    onPool n Pool.close
    return .null
  | .stats => return ((World.poolAt n).get (← Program.state)).stats.toJson

/-- Takes a step with the shared exchanges of an application. -/
def RoutingAction.run (application : String) : RoutingAction → Act Json
  | .bootstrap => do
    let names ← Program.ofExcept (ExchangeNames.forApplication application)
    let connection ← openConnection
    clientOnAll (Routing.bootstrap connection names)
    return .null
  | .declare => do
    let names ← Program.ofExcept (ExchangeNames.forApplication application)
    let c ← openChannel
    clientOnAll (declareExchanges c names)
    return .null

/-- The channel of a provisioned consumer channel. -/
def provisioned (name : String) : Act ChannelId := do
  return (← lookUp (·.channels.named) name).channel

/-- Takes a step with a channel. -/
def ChannelAction.run : ChannelAction → Act Json
  | .closeQuietly c purpose =>
    return .bool (← Channel.closeQuietly (serve (.closeChannel c)) purpose)
  | .provision name fields defaultExchange channel => do
    let options ← Program.ofExcept (ConsumerOptions.create fields)
    let channel ← match channel with
      | some c => (return c : Act ChannelId)
      | none => openChannel
    let c ← clientOnAll (Channel.provision channel options defaultExchange)
    .modify fun w => { w with channels := w.channels.put name c }
    let closed := (← Program.state).isClosed c.channel
    return .obj [("queue_name", .str c.queueName), ("exchange", .str c.exchange),
      ("queue", .str c.queueName), ("channel", .int c.channel.number),
      ("is_closed", .bool closed)]
  | .close name => do
    let c ← provisioned name
    serve (.closeChannel c)
    return .bool ((← Program.state).isClosed c)
  | .closed name => do
    let c ← provisioned name
    return .bool ((← Program.state).isClosed c)
  | .equal a b => return .bool ((← place (·.channels) a) == (← place (·.channels) b))

end BrokerClient.Scenario
