import BrokerClient.Text.Blank
import BrokerClient.Error

/-!
# Names and exchanges

The services of an application share three durable exchanges, `{application}.events`,
`{application}.commands` and `{application}.dlx`. Queues are named
`{application}.{domain}.{purpose}` and routing keys `{domain}.{action}`; no segment of a name may
be blank.
-/

namespace BrokerClient.Routing

/-- How an exchange routes. -/
inductive ExchangeKind
  | topic
  | direct
  | fanout
  | headers
  deriving DecidableEq, Repr

/-- The word for a kind of exchange. -/
def ExchangeKind.name : ExchangeKind → String
  | .topic => "topic"
  | .direct => "direct"
  | .fanout => "fanout"
  | .headers => "headers"

/-- The kinds of exchanges by their words. -/
def ExchangeKind.words : List (String × ExchangeKind) :=
  [ExchangeKind.topic, .direct, .fanout, .headers].map fun k => (k.name, k)

/-- Joins the segments of a name by points. The first blank segment is an error that names it. -/
def joinSegments (segments : List (String × String)) : Except Error String :=
  match segments.find? fun s => Text.isBlankText s.2 with
  | some (name, _) => .error (.badValue s!"{name} must be a non-empty string")
  | none => .ok (".".intercalate (segments.map (·.2)))

/-- The name of a queue. -/
def queueName (application domain purpose : String) : Except Error String :=
  joinSegments [("application", application), ("domain", domain), ("purpose", purpose)]

/-- A routing key. -/
def routingKey (domain action : String) : Except Error String :=
  joinSegments [("domain", domain), ("action", action)]

/-- What is declared for a shared exchange. -/
structure ExchangeSpec where
  name : String
  kind : ExchangeKind
  durable : Bool
  deriving DecidableEq, Repr

/-- The names of an application's shared exchanges. -/
structure ExchangeNames where
  events : String
  commands : String
  dlx : String
  deriving DecidableEq, Repr, Inhabited

namespace ExchangeNames

/-- The shared exchanges of an application. -/
def forApplication (application : String) : Except Error ExchangeNames := do
  let a ← joinSegments [("application", application)]
  return ⟨a ++ ".events", a ++ ".commands", a ++ ".dlx"⟩

/-- The shared exchanges in the order in which they are declared. -/
def specs (n : ExchangeNames) : List ExchangeSpec :=
  [⟨n.events, .topic, true⟩, ⟨n.commands, .direct, true⟩, ⟨n.dlx, .topic, true⟩]

end ExchangeNames

end BrokerClient.Routing
