import BrokerClient.Channel.Pool
import BrokerClient.Channel.Provision
import BrokerClient.Settings.Basic
import BrokerClient.Text.Quoted
import BrokerClient.Routing.Declare

/-!
# The connection manager

A manager owns the connection of a process, the pool of publisher channels and the consumer channels
that it has handed out. This module holds its state, its view of what the transport reports and
its diagnostics; connecting and the channels are in modules of their own.
-/

namespace BrokerClient.Connection

open Broker Channel Routing

/-- Where a manager is in its life. -/
inductive Phase
  | disconnected
  | connecting
  | connected
  | closing
  deriving DecidableEq, Inhabited, Repr

/-- The word for a phase. -/
def Phase.name : Phase → String
  | .disconnected => "disconnected"
  | .connecting => "connecting"
  | .connected => "connected"
  | .closing => "closing"

/-- The state of a manager. -/
structure Manager where
  settings : Settings
  names : ExchangeNames
  phase : Phase := .disconnected
  connection : Option ConnectionId := none
  pool : Pool
  /-- The consumer channels that are tracked. -/
  consumerChannels : List ConsumerChannel := []
  /-- How often the transport has restored a connection. -/
  reconnections : Nat := 0
  /-- The connections that report to the manager. -/
  watching : List ConnectionId := []
  deriving Inhabited, Repr

/-- A program of a manager. -/
abbrev Act := Broker.Act Manager

namespace Manager

/-- A manager at rest. -/
def create (settings : Settings) : Except Error Manager := do
  let names ← ExchangeNames.forApplication settings.application
  let pool ← Pool.create settings.channelPoolSize
  return { settings, names, pool }

/-- Whether a manager is connected, given which connections are closed. -/
def isConnected (m : Manager) (isClosed : ConnectionId → Bool) : Bool :=
  m.phase == .connected && match m.connection with
    | some c => !isClosed c
    | none => false

/-- Whether a manager is connected and has a channel to publish on. -/
def isChannelConnected (m : Manager) (isClosed : ConnectionId → Bool) : Bool :=
  m.isConnected isClosed && 0 < m.pool.channels.length

/-- Whether a consumer channel is tracked. -/
def tracks (m : Manager) (c : ConsumerChannel) : Bool :=
  m.consumerChannels.any fun d => d.channel == c.channel

/-- Begins to track a consumer channel. -/
def track (c : ConsumerChannel) (m : Manager) : Manager :=
  { m with consumerChannels := m.consumerChannels ++ [c] }

/-- Ceases to track a consumer channel. -/
def untrack (c : ConsumerChannel) (m : Manager) : Manager :=
  { m with consumerChannels := m.consumerChannels.filter fun d => d.channel != c.channel }

/-- The counts of channels by name. -/
def stats (m : Manager) : Json :=
  .obj [("publisherChannels", m.pool.stats.toJson),
    ("consumerChannels", .obj [("total", .int m.consumerChannels.length)])]

/-- A manager in one line, without credentials. -/
def describe (m : Manager) : String :=
  s!"ConnectionManager(url={Text.quote m.settings.safeUrl}, state={m.phase.name}, " ++
    s!"publisher_channels={m.pool.channels.length}, " ++
    s!"consumer_channels={m.consumerChannels.length})"

/-- The number of consumer channels as a detail of a log record. -/
def consumersDetail (m : Manager) : String × Json :=
  ("consumer_channels", .int m.consumerChannels.length)

/-- The pool of a manager. -/
def poolPart : Lens Manager Pool where
  get m := m.pool
  set p m := { m with pool := p }

/-- Serves a request of the pool. -/
def servePool : (r : Pool.Request) → Act r.Reply
  | .openChannel => do
    match (← Program.state).connection with
    | some c => ask (.openChannel c)
    | none => .fail (.notConnected "open a channel")
  | .closeChannel c => ask (.closeChannel c)
  | .closeChannels cs => ask (.closeChannels "publisher" cs)

/-- Runs a program of the pool. -/
def onPool {α : Type} (p : Pool.Act α) : Act α :=
  p.within poolPart servePool

/-- The transport has restored a connection. -/
def restored : Act Unit := do
  .modify fun m => { m with reconnections := m.reconnections + 1, phase := .connected }
  let m ← Program.state
  .log .info .connection "RabbitMQ connection restored"
    [("reconnections", .int m.reconnections),
      ("publisher_channels", .int m.pool.channels.length), m.consumersDetail]

/-- The transport has lost a connection to an error, or has closed it. -/
def lost (error : Option Error) : Act Unit := do
  let m ← Program.state
  let reconnections : String × Json := ("reconnections", .int m.reconnections)
  match error with
  | some e =>
    .modify fun m => if m.phase == .connected then { m with phase := .connecting } else m
    .log .warning .connection s!"RabbitMQ connection lost: {e.message}"
      [("error", .str e.message), ("error_type", .str e.name), reconnections]
  | none => .log .info .connection "RabbitMQ connection closed" [reconnections]

end Manager

end BrokerClient.Connection
