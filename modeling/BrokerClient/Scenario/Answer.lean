import BrokerClient.Scenario.Network

/-!
# What a step leaves behind

The answer of a step is its result with all that happened while it ran: the calls of the broker, the
waits, the calls of handlers and the log records, and the state of all objects afterwards.
-/

namespace BrokerClient.Scenario

/-- What happened in the world outside. -/
structure Record where
  calls : List Call := []
  /-- The waits in seconds. -/
  sleeps : List Float := []
  /-- The calls of handlers: the label, and the type and the identifier of the event. -/
  handled : List (String × String × String) := []
  logs : List Log.Record := []
  deriving Inhabited, Repr

/-- What happened in a block: the channel that it held, what happened when it was entered, and the
answers of the steps inside. -/
structure BlockReport (α : Type) where
  channel : Option Broker.ChannelId
  entered : Record
  steps : List α

/-- The answer of a step. -/
inductive Answer
  | mk (result : Except Error Json) (block : Option (BlockReport Answer)) (record : Record)
    (state : Json)

/-- How a step ended: its result, and what happened inside if it was entered. -/
structure Outcome where
  result : Except Error Json
  block : Option (BlockReport Answer) := none

end BrokerClient.Scenario
