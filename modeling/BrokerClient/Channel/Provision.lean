import BrokerClient.Broker.Request
import BrokerClient.Channel.Options

/-!
# Provisioning consumer channels

A consumer channel belongs to one consumer. Before it is handed out it declares its exchange, then
its queue, then a binding if there is a routing key, and last it sets the prefetch limit.
-/

namespace BrokerClient.Channel

open Broker

/-- A channel with the exchange and the queue that it has declared. -/
structure ConsumerChannel where
  channel : ChannelId
  options : ConsumerOptions
  /-- The name of the declared exchange. -/
  exchange : String
  deriving DecidableEq, Repr

/-- The name of the queue of a consumer channel. -/
def ConsumerChannel.queueName (c : ConsumerChannel) : String :=
  c.options.queueName

variable {σ : Type}

/-- Declares the exchange of a consumer channel. -/
def declareExchange (channel : ChannelId) (o : ConsumerOptions) (exchange : String) :
    Act σ Unit := do
  ask (.declareExchange channel {
    name := exchange
    kind := o.exchangeKind
    durable := o.exchangeOptions.durable
    autoDelete := some o.exchangeOptions.autoDelete
    internal := some o.exchangeOptions.internal })
  .log .info .consumerChannel s!"Exchange ready: {exchange} ({o.exchangeKind.name})"
    [("exchange_name", .str exchange), ("exchange_type", .str o.exchangeKind.name)]

/-- Declares the queue of a consumer channel. -/
def declareQueue (channel : ChannelId) (o : ConsumerOptions) : Act σ Unit := do
  ask (.declareQueue channel {
    name := o.queueName
    durable := o.queueOptions.durable
    exclusive := o.queueOptions.exclusive
    autoDelete := o.queueOptions.autoDelete
    arguments := o.queueOptions.arguments })
  .log .info .consumerChannel s!"Queue ready: {o.queueName}"
    [("queue_name", .str o.queueName), ("arguments", .obj o.queueOptions.arguments)]

/-- Binds the queue of a consumer channel if there is a routing key; an empty one binds too. -/
def bindQueue (channel : ChannelId) (o : ConsumerOptions) (exchange : String) : Act σ Unit :=
  match o.routingKey with
  | some key => do
    ask (.bindQueue channel o.queueName exchange key)
    .log .info .consumerChannel s!"Bound {o.queueName} <- {exchange} [{key}]"
      [("queue_name", .str o.queueName), ("exchange_name", .str exchange),
        ("routing_key", .str key)]
  | none => return

/-- Sets the prefetch limit of a consumer channel. -/
def setPrefetch (channel : ChannelId) (o : ConsumerOptions) : Act σ Unit := do
  ask (.setPrefetch channel o.prefetchCount)
  .log .info .consumerChannel s!"Consumer channel provisioned (prefetch: {o.prefetchCount})"
    [("queue_name", .str o.queueName), ("prefetch_count", .int o.prefetchCount)]

/-- Makes a consumer channel of an open channel. -/
def provision (channel : ChannelId) (o : ConsumerOptions) (defaultExchange : String) :
    Act σ ConsumerChannel := do
  let exchange := o.exchangeOr defaultExchange
  declareExchange channel o exchange
  declareQueue channel o
  bindQueue channel o exchange
  setPrefetch channel o
  return ⟨channel, o, exchange⟩

end BrokerClient.Channel
