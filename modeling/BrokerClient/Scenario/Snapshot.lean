import BrokerClient.Scenario.World

/-!
# The state of all objects

A snapshot shows every named object of the world as a JSON value: the managers, pools, consumers and
registries, and the spans that recording tracers hold.
-/

namespace BrokerClient.Scenario

open Broker Channel Connection Trace

/-- The numbers of channels. -/
def channelNumbers (cs : List ChannelId) : Json :=
  .arr (cs.map fun c => .int c.number)

/-- The numbers of channels in ascending order. -/
def sortedNumbers (cs : List ChannelId) : Json :=
  channelNumbers (cs.mergeSort fun a b => a.number ≤ b.number)

/-- The state of a pool. -/
def poolState (p : Pool) : Json :=
  .obj [("channels", channelNumbers p.channels), ("in_use", sortedNumbers p.inUse),
    ("size", .int p.size), ("len", .int p.channels.length)]

/-- The state of a manager. -/
def managerState (n : Network) (m : Manager) : Json :=
  .obj [("state", .str m.phase.name), ("connected", .bool (m.isConnected n.isConnectionClosed)),
    ("channel_connected", .bool (m.isChannelConnected n.isConnectionClosed)),
    ("has_connection", .bool m.connection.isSome),
    ("reconnections", .int m.reconnections), ("pool", poolState m.pool), ("stats", m.stats),
    ("consumers", sortedNumbers (m.consumerChannels.map (·.channel)))]

/-- The state of a consumer. -/
def consumerState (n : Network) (c : Consumer) : Json :=
  .obj [("consuming", .bool (c.isConsuming n.isChannelClosed)),
    ("stats", .obj c.stats.members), ("queue", .str c.queueName),
    ("channel", Json.ofOption (fun x => .int x.channel.number) c.channel)]

/-- The state of a registry. -/
def registryState (r : Registry) : Json :=
  .obj (r.table.map fun row => (row.1, .arr (row.2.map fun h => .str h.identity)))

/-- A span that a recording tracer holds. -/
def spanJson (s : Span) : Json :=
  .arr [.str s.name, .str s.kind.name, Json.ofOption Json.obj s.attributes]

/-- The states of named objects of one kind. -/
def kindStates {α : Type} (kind : String) (state : α → Json) (objects : List (String × α)) :
    List (String × Json) :=
  objects.map fun o => (s!"{kind}:{o.1}", state o.2)

/-- The state of all named objects. -/
def World.snapshot (w : World) : Json :=
  .obj (kindStates "manager" (managerState w.network) w.managers.named ++
    kindStates "pool" (fun o => poolState o.pool) w.pools.named ++
    kindStates "consumer" (fun o => consumerState w.network o.consumer) w.consumers.named ++
    kindStates "registry" registryState w.registries.named ++
    kindStates "tracer" (fun r => .arr (r.recorded.map spanJson)) w.tracers)

end BrokerClient.Scenario
