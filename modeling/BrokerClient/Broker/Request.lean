import BrokerClient.Handler.Basic
import BrokerClient.Message
import BrokerClient.Program
import BrokerClient.Routing

/-!
# Requests to the broker and the world around

What the client asks of the broker, of the clock and of the handlers of events. Connections,
channels and deliveries are known by what the broker calls them; the queue and the exchange that a
channel declares are known by the channel and a name. Closing several channels is a single
request: the closes run side by side, and each of them is a `closeQuietly`.
-/

namespace BrokerClient.Broker

open Routing

/-- A connection as the broker knows it. -/
structure ConnectionId where
  number : Nat
  deriving DecidableEq, Inhabited, Repr

/-- A channel as the broker knows it. -/
structure ChannelId where
  number : Nat
  deriving DecidableEq, Inhabited, Repr

/-- How an exchange is declared. Flags that are not given are left to the broker. -/
structure ExchangeDeclaration where
  name : String
  kind : ExchangeKind
  durable : Bool
  autoDelete : Option Bool := none
  internal : Option Bool := none
  deriving DecidableEq, Repr

/-- How a queue is declared. -/
structure QueueDeclaration where
  name : String
  durable : Bool
  exclusive : Bool
  autoDelete : Bool
  arguments : List (String × Json)
  deriving Repr

/-- What is done with a delivery in the end. -/
inductive Settlement
  | acknowledge
  | reject (requeue : Bool)
  /-- A refusal that counts as a failed delivery. -/
  | nack (requeue : Bool)
  deriving DecidableEq, Repr

/-- What a client may ask for. -/
inductive Request
  | connect (url : String) (heartbeat : Int) (reconnectInterval : Float)
  | openChannel (connection : ConnectionId)
  | declareExchange (channel : ChannelId) (exchange : ExchangeDeclaration)
  | declareQueue (channel : ChannelId) (queue : QueueDeclaration)
  | bindQueue (channel : ChannelId) (queue exchange routingKey : String)
  | setPrefetch (channel : ChannelId) (count : Int)
  | consume (channel : ChannelId) (queue : String)
  | cancel (channel : ChannelId) (queue tag : String)
  | findExchange (channel : ChannelId) (name : String)
  | publish (channel : ChannelId) (exchange routingKey : String) (message : Message)
  | closeChannel (channel : ChannelId)
  | closeChannels (purpose : String) (channels : List ChannelId)
  | closeConnection (connection : ConnectionId)
  /-- Settles the delivery of a message, which may have an identifier. -/
  | settle (messageId : Option String) (settlement : Settlement)
  | sleep (seconds : Float)
  | handle (handler : Handler) (envelope : Event.Envelope)

/-- What a request is replied with. -/
abbrev Request.Reply : Request → Type
  | .connect .. => ConnectionId
  | .openChannel _ => ChannelId
  | .consume .. => String
  | _ => Unit

/-- The requests of a client. -/
abbrev requests : Signature := ⟨Request, Request.Reply⟩

/-- A program of a client. -/
abbrev Act := Program requests

/-- Sends a request of a client. -/
def ask {σ : Type} (r : Request) : Act σ r.Reply :=
  Program.perform (S := requests) r

end BrokerClient.Broker
