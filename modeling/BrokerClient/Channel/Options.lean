import BrokerClient.Routing
import BrokerClient.Validation.Form

/-!
# Options of consumer channels

What a consumer channel declares for itself: its exchange, its queue with arguments, a binding and a
prefetch limit. Fields are given in camel case or with underscores, and no other members are
allowed.
-/

namespace BrokerClient.Channel

open Validation Routing

/-- Flags for the declaration of an exchange. -/
structure ExchangeOptions where
  durable : Bool := true
  autoDelete : Bool := false
  internal : Bool := false
  deriving DecidableEq, Repr, Inhabited

/-- Flags and arguments for the declaration of a queue. -/
structure QueueOptions where
  durable : Bool := true
  exclusive : Bool := false
  autoDelete : Bool := false
  maxPriority : Option Int := none
  deadLetterExchange : Option String := none
  deadLetterRoutingKey : Option String := none
  messageTtl : Option Int := none
  maxLength : Option Int := none
  deriving DecidableEq, Repr, Inhabited

/-- All that a consumer channel provisions. -/
structure ConsumerOptions where
  queueName : String
  /-- Without a name the application's events exchange is used. -/
  exchangeName : Option String := none
  exchangeKind : ExchangeKind := .topic
  exchangeOptions : ExchangeOptions := {}
  /-- Without a key the queue is not bound; the empty key binds. -/
  routingKey : Option String := none
  queueOptions : QueueOptions := {}
  prefetchCount : Int := 1
  deriving DecidableEq, Repr

namespace ExchangeOptions

/-- The model's name in reports. -/
def model : String := "ExchangeOptions"

/-- The fields of the flags. -/
def form : Form ExchangeOptions :=
  ExchangeOptions.mk
    <$> .withDefault (.single "durable") true bool
    <*> .withDefault ⟨"autoDelete", "auto_delete"⟩ false bool
    <*> .withDefault (.single "internal") false bool

/-- Reads a JSON value as the flags of an exchange. -/
def ofJson (origin : Origin) : Json → Checked ExchangeOptions :=
  form.check model .forbid origin

end ExchangeOptions

namespace QueueOptions

/-- The model's name in reports. -/
def model : String := "QueueOptions"

/-- The fields of a queue's options. -/
def form : Form QueueOptions :=
  QueueOptions.mk
    <$> .withDefault (.single "durable") true bool
    <*> .withDefault (.single "exclusive") false bool
    <*> .withDefault ⟨"autoDelete", "auto_delete"⟩ false bool
    <*> .withDefault ⟨"maxPriority", "max_priority"⟩ none (optional (intWithin 1 255))
    <*> .withDefault ⟨"deadLetterExchange", "dead_letter_exchange"⟩ none (optional string)
    <*> .withDefault ⟨"deadLetterRoutingKey", "dead_letter_routing_key"⟩ none (optional string)
    <*> .withDefault ⟨"messageTtl", "message_ttl"⟩ none (optional (intFrom 0))
    <*> .withDefault ⟨"maxLength", "max_length"⟩ none (optional (intFrom 0))

/-- Reads a JSON value as the options of a queue. -/
def ofJson (origin : Origin) : Json → Checked QueueOptions :=
  form.check model .forbid origin

/-- The arguments of the queue's declaration: those that were set, in a fixed order. -/
def arguments (q : QueueOptions) : List (String × Json) :=
  [("x-dead-letter-exchange", q.deadLetterExchange.map Json.str),
    ("x-dead-letter-routing-key", q.deadLetterRoutingKey.map Json.str),
    ("x-message-ttl", q.messageTtl.map Json.int),
    ("x-max-length", q.maxLength.map Json.int),
    ("x-max-priority", q.maxPriority.map Json.int)].filterMap fun a => a.2.map (a.1, ·)

end QueueOptions

namespace ConsumerOptions

/-- The model's name in reports. -/
def model : String := "ConsumerChannelOptions"

/-- The fields of a consumer channel's options. -/
def form (origin : Origin) : Form ConsumerOptions :=
  ConsumerOptions.mk
    <$> .required ⟨"queueName", "queue_name"⟩ nonEmptyString
    <*> .withDefault ⟨"exchangeName", "exchange_name"⟩ none (optional string)
    <*> .withDefault ⟨"exchangeType", "exchange_type"⟩ .topic (oneOf ExchangeKind.words)
    <*> .field ⟨"exchangeOptions", "exchange_options"⟩ (.ok {}) (ExchangeOptions.ofJson origin)
    <*> .withDefault ⟨"routingKey", "routing_key"⟩ none (optional string)
    <*> .field ⟨"queueOptions", "queue_options"⟩ (.ok {}) (QueueOptions.ofJson origin)
    <*> .withDefault ⟨"prefetchCount", "prefetch_count"⟩ 1 (intFrom 0)

/-- Reads a JSON value as the options of a consumer channel. -/
def ofJson (origin : Origin) : Json → Checked ConsumerOptions :=
  (form origin).check model .forbid origin

/-- Makes options of given fields. -/
def create (fields : Json) : Except Error ConsumerOptions :=
  (ofJson .value fields).mapError (Refusal.error model)

/-- The exchange that a channel declares: the given one, or the default when none is named. -/
def exchangeOr (o : ConsumerOptions) (default : String) : String :=
  match o.exchangeName with
  | some name => if name.isEmpty then default else name
  | none => default

end ConsumerOptions

end BrokerClient.Channel
