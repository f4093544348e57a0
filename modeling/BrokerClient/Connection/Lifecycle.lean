import BrokerClient.Connection.Manager

/-!
# Connecting and disconnecting

Connecting opens the connection, declares the shared exchanges and fills the pool; if any of this
fails, all of it is torn down again. Disconnecting closes the consumer channels, then the publisher
channels, then the connection, and no failure to close stops it.

## Main definitions

* `Manager.connect` — opens all, or tears all down again.
* `Manager.disconnect` — closes all, in a fixed order.
-/

namespace BrokerClient.Connection.Manager

open Broker Channel Routing

/-- The masked address as a detail of a log record. -/
def urlDetail (m : Manager) : String × Json :=
  ("rabbitmq_url", .str m.settings.safeUrl)

/-- The text and the class of an error as details of a log record. -/
def errorDetails (e : Error) : List (String × Json) :=
  [("error", .str e.message), ("error_type", .str e.name)]

/-- Closes the consumer channels and forgets them. -/
def closeConsumerChannels : Act Unit := do
  let m ← Program.state
  let channels := m.consumerChannels.map (·.channel)
  if channels.length ≠ 0 then
    .log .info .connection s!"Closing consumer channels ({channels.length})" []
  ask (.closeChannels "consumer" channels)
  .modify fun m => { m with consumerChannels := [] }

/-- Closes the connection, if there is one, and forgets it. -/
def closeConnection : Act Unit := do
  match (← Program.state).connection with
  | some c =>
    Program.rescue (ask (.closeConnection c)) fun e =>
      .logFailure .connection s!"Failed to close RabbitMQ connection: {e.message}" e
        (errorDetails e)
    .modify fun m => { m with connection := none }
  | none => return

/-- Closes the consumer channels, then the publisher channels, then the connection. -/
def disconnect : Act Unit := do
  .modify fun m => { m with phase := .closing }
  closeConsumerChannels
  onPool Pool.close
  closeConnection
  .modify fun m => { m with phase := .disconnected }
  .log .info .connection "Disconnected from RabbitMQ" []

/-- Opens the connection and what belongs to it. -/
def establish : Act Unit := do
  let m ← Program.state
  let c : ConnectionId ←
    ask (.connect m.settings.url m.settings.heartbeat m.settings.reconnectInterval)
  .modify fun m => { m with connection := some c, watching := m.watching ++ [c] }
  bootstrap c m.names
  onPool Pool.fill

/-- Connects, declares the shared exchanges and fills the pool. A manager that has a connection,
or is about to have one, is left alone. -/
def connect : Act Unit := do
  let m ← Program.state
  if m.connection.isSome || m.phase == .connecting then
    .log .warning .connection
      s!"ConnectionManager already {m.phase.name}, ignoring connect()" []
  else
    .modify fun m => { m with phase := .connecting }
    .log .info .connection s!"Connecting to RabbitMQ at {m.settings.host}:{m.settings.port}"
      [m.urlDetail]
    Program.rescue establish fun e => do
      .logFailure .connection s!"Failed to connect to RabbitMQ: {e.message}" e
        (m.urlDetail :: errorDetails e)
      disconnect
      .fail e
    .modify fun m => { m with phase := .connected }
    let m ← Program.state
    .log .info .connection "Connected to RabbitMQ"
      [m.urlDetail, ("publisher_channels", .int m.pool.channels.length),
        ("management_url", .str m.settings.managementUrl)]

end BrokerClient.Connection.Manager
