/-!
# Span attributes

The names under which spans carry what they are about. Those of messaging follow the common
conventions for traces.
-/

namespace BrokerClient.Trace

/-- What an attribute of a span is about. -/
inductive Attribute
  | eventId
  | eventType
  | handlerName
  | handlerSuccess
  | retryAttempt
  | retryMax
  | errorType
  | messagingSystem
  | messagingDestination
  | messagingRoutingKey
  | messagingOperation
  deriving DecidableEq, Repr

/-- The name of an attribute. -/
def Attribute.key : Attribute → String
  | .eventId => "brokerkit.event.id"
  | .eventType => "brokerkit.event.type"
  | .handlerName => "brokerkit.handler.name"
  | .handlerSuccess => "brokerkit.handler.success"
  | .retryAttempt => "brokerkit.retry.attempt"
  | .retryMax => "brokerkit.retry.max"
  | .errorType => "brokerkit.error.type"
  | .messagingSystem => "messaging.system"
  | .messagingDestination => "messaging.destination.name"
  | .messagingRoutingKey => "messaging.rabbitmq.destination.routing_key"
  | .messagingOperation => "messaging.operation"

end BrokerClient.Trace
