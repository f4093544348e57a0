import BrokerClient.Scenario.World

/-!
# Steps of the simulated broker
-/

namespace BrokerClient.Scenario

open Broker Connection

/-- Changes the simulated broker. -/
def onNetwork (change : Network → Network) : Act Unit :=
  .modify fun w => { w with network := change w.network }

/-- Opens a channel without a call. -/
def openChannel : Act ChannelId := do
  let (c, network) := (← Program.state).network.openChannel
  onNetwork fun _ => network
  return c

/-- Opens a connection without a call. -/
def openConnection : Act ConnectionId := do
  let (c, network) := (← Program.state).network.openConnection
  onNetwork fun _ => network
  return c

/-- The given connection, or the latest. -/
def connectionOr (w : World) (c : Option ConnectionId) : ConnectionId :=
  c.getD ⟨w.network.connections⟩

/-- The places of the managers that a connection reports to. -/
def watchers (w : World) (c : ConnectionId) : List Nat :=
  (List.range w.managers.objects.length).filter fun n =>
    ((World.managerAt n).get w).watching.contains c

/-- Runs a program of every manager that a connection reports to. -/
def report (c : Option ConnectionId) (p : Connection.Act Unit) : Act Unit := do
  let w ← Program.state
  (watchers w (connectionOr w c)).forM fun n => client (World.managerAt n) p

/-- Takes a step of the simulated broker. -/
def NetworkAction.run : NetworkAction → Act Json
  | .addFault f => do
    onNetwork fun n => { n with faults := n.faults ++ [f] }
    return .null
  | .clearFaults => do
    onNetwork fun n => { n with faults := [] }
    return .null
  | .hold gate => do
    .modify fun w => { w with held := gate :: w.held }
    return .null
  | .letPass gate count => do
    ask (.release gate (some count))
    ask .idle
    return .null
  | .openGate gate => do
    .modify fun w => { w with held := w.held.filter (· != gate) }
    ask (.release gate none)
    ask .idle
    return .null
  | .openChannel => do
    let c ← Scenario.openChannel
    return .int c.number
  | .setChannelClosed c closed => do
    onNetwork (Network.setChannelClosed c closed)
    return .null
  | .setConnectionClosed c closed => do
    let c := connectionOr (← Program.state) c
    onNetwork (Network.setConnectionClosed c closed)
    return .null
  | .drop c error => do
    report c (Manager.lost error)
    return .null
  | .restore c => do
    report c Manager.restored
    return .null

end BrokerClient.Scenario
