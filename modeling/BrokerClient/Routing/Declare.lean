import BrokerClient.Broker.Request
import BrokerClient.Channel.Close

/-!
# Declaring the shared exchanges

The exchanges are declared on a channel that is opened for this alone and closed afterwards, whether
the declarations succeeded or not. Declaring an exchange that is there already does no harm.
-/

namespace BrokerClient.Routing

open Broker

variable {σ : Type}

/-- Declares an exchange on a channel. -/
def declareExchange (channel : ChannelId) (spec : ExchangeSpec) : Act σ Unit := do
  ask (.declareExchange channel ⟨spec.name, spec.kind, spec.durable, none, none⟩)
  .log .debug .routing s!"Declared exchange: {spec.name}"
    [("exchange_name", .str spec.name), ("exchange_type", .str spec.kind.name)]

/-- Declares the shared exchanges on a channel, up to the first that fails. -/
def declareExchanges (channel : ChannelId) (names : ExchangeNames) : Act σ Unit :=
  names.specs.forM (declareExchange channel)

/-- Declares the shared exchanges on a channel of their own. -/
def bootstrap (connection : ConnectionId) (names : ExchangeNames) : Act σ Unit := do
  .log .info .routing "Declaring common exchanges"
    [("exchanges", .arr (names.specs.map fun s => .str s.name))]
  let channel ← ask (.openChannel connection)
  Program.ensuring (declareExchanges channel names) do
    let _ ← Channel.closeQuietly (ask (.closeChannel channel)) "topology"
  .log .info .routing "Common exchanges ready"
    [("events", .str names.events), ("commands", .str names.commands), ("dlx", .str names.dlx)]

end BrokerClient.Routing
