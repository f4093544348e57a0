import BrokerClient.Error
import BrokerClient.Json.Basic

/-!
# Log records

A record names the part of the library it comes from, says how serious it is and what happened, and
carries details as named values. A record about a failure also carries the error.
-/

namespace BrokerClient.Log

/-- How serious a record is. -/
inductive Level
  | debug
  | info
  | warning
  | error
  deriving DecidableEq, Repr

/-- The word for a level. -/
def Level.name : Level → String
  | .debug => "DEBUG"
  | .info => "INFO"
  | .warning => "WARNING"
  | .error => "ERROR"

/-- The part of the library that a record comes from, or a logger of the user's own. -/
inductive Logger
  | routing
  | closing
  | pool
  | consumerChannel
  | connection
  | registry
  | retry
  | publisher
  | consumer
  | custom (name : String)
  deriving DecidableEq, Repr

/-- The full name of a logger. -/
def Logger.name : Logger → String
  | .routing => "brokerkit.topology"
  | .closing => "brokerkit.channels._closing"
  | .pool => "brokerkit.channels.pool"
  | .consumerChannel => "brokerkit.channels.consumer"
  | .connection => "brokerkit.connection"
  | .registry => "brokerkit.handlers.registry"
  | .retry => "brokerkit.handlers.retry"
  | .publisher => "brokerkit.publisher"
  | .consumer => "brokerkit.consumer"
  | .custom name => "brokerkit." ++ name

/-- A log record. -/
structure Record where
  level : Level
  logger : Logger
  message : String
  /-- Details by name. -/
  details : List (String × Json)
  /-- The error that the record is about. -/
  failure : Option Error
  deriving Repr

end BrokerClient.Log
