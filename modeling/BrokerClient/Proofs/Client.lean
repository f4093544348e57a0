import BrokerClient.Consumer
import BrokerClient.Proofs.Course
import Mathlib.Logic.Function.Basic

/-!
# Clients

A client is a manager with any number of consumers and registries, together with what the transport
says about which channels are closed. Consumers and registries are known by numbers. This is the
state on which the programs of managers, publishers and consumers run side by side.

## Main definitions

* `Client` — the state.
* `Client.managerPart`, `Client.consumerPart`, `Client.site` — where the programs find their parts.
-/

namespace BrokerClient

open Broker Channel Connection

/-- A plain reply that grants a request. -/
def Broker.Request.granted : (r : Request) → r.Reply
  | .connect .. => ⟨0⟩
  | .openChannel _ => ⟨0⟩
  | .consume .. => "tag"
  | .declareExchange .. | .declareQueue .. | .bindQueue .. | .setPrefetch .. | .cancel ..
  | .findExchange .. | .publish .. | .closeChannel _ | .closeChannels .. | .closeConnection _
  | .settle .. | .sleep _ | .handle .. => ()

/-- A manager, consumers and registries. -/
structure Client where
  manager : Manager
  consumers : Nat → Consumer
  registries : Nat → Registry
  /-- Whether the transport says that a channel is closed. -/
  closed : ChannelId → Bool

namespace Client

/-- The manager of a client. -/
def managerPart : Lens Client Manager :=
  ⟨(·.manager), fun m s => { s with manager := m }⟩

/-- A consumer of a client. -/
def consumerPart (i : Nat) : Lens Client Consumer :=
  ⟨fun s => s.consumers i, fun c s => { s with consumers := Function.update s.consumers i c }⟩

/-- The registry with a number. -/
def registry (r : Nat) (s : Client) : Registry :=
  s.registries r

/-- Where a consumer that dispatches to a registry finds what it works with. -/
def site (i r : Nat) : Consumer.Site Client where
  consumer := consumerPart i
  manager := managerPart
  registry := registry r
  isClosed := closed

@[simp]
theorem get_managerPart (s : Client) : managerPart.get s = s.manager :=
  rfl

@[simp]
theorem modify_managerPart (f : Manager → Manager) (s : Client) :
    managerPart.modify f s = { s with manager := f s.manager } :=
  rfl

@[simp]
theorem get_consumerPart (i : Nat) (s : Client) : (consumerPart i).get s = s.consumers i :=
  rfl

@[simp]
theorem modify_consumerPart (i : Nat) (f : Consumer → Consumer) (s : Client) :
    (consumerPart i).modify f s =
      { s with consumers := Function.update s.consumers i (f (s.consumers i)) } :=
  rfl

end Client

/-- The course of a client. -/
abbrev Client.Course : Type := BrokerClient.Course requests Client

/-- The surroundings of a client. -/
abbrev Client.Surroundings : Type := BrokerClient.Surroundings requests Client

/-- Surroundings that grant every request. -/
def Client.granting : Client.Surroundings := fun w r =>
  (.ok r.granted, w.state)

end BrokerClient
