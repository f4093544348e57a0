import BrokerClient.Proofs.Client
import BrokerClient.Connection.Lifecycle

/-!
# What a client has opened and closed

The course of a client tells which channels and connections have been opened and on which of them
`close` has been called. A ledger lists channels and connections that have to be accounted for: a
course is balanced with a ledger if everything that was opened, each time something else, is either
in the ledger or has been closed, and this once.

The ledger of a manager is what it holds: the channels of its pool, the consumer channels that it
tracks, and its connection. While a program holds a channel that nobody else knows yet, the channel
is in the ledger besides.

## Main definitions

* `Client.opened`, `Client.closeCalls`, `Client.connected`, `Client.connectionCloses` — what the
  course of a client tells.
* `Ledger`, `Client.Balanced` — what has to be accounted for.
* `Client.Truthful`, `Client.Faithful` — surroundings that open new channels and leave the manager
  alone, with cancellations and without.
* `Client.Holding` — a course that is balanced with what the manager and a program hold.

## Main results

* `Client.Holding.ends_open`, `Client.Holding.ends_close` — what requests do to the ledger.
-/

namespace BrokerClient

open Broker Channel Connection

/-- The channel that a request has opened. -/
def Broker.Request.opens : (r : Request) → Except Error r.Reply → List ChannelId
  | .openChannel _, .ok c => [c]
  | _, _ => []

/-- The connection that a request has opened. -/
def Broker.Request.connects : (r : Request) → Except Error r.Reply → List ConnectionId
  | .connect .., .ok c => [c]
  | _, _ => []

/-- The channels that a request closes. -/
def Broker.Request.closes : Request → List ChannelId
  | .closeChannel c => [c]
  | .closeChannels _ cs => cs
  | _ => []

/-- The connection that a request closes. -/
def Broker.Request.disconnects : Request → List ConnectionId
  | .closeConnection c => [c]
  | _ => []

/-- Whether a request neither opens nor closes anything. -/
def Broker.Request.isPlain : Request → Bool
  | .connect .. | .openChannel _ | .closeChannel _ | .closeChannels .. | .closeConnection _ => false
  | _ => true

/-- Channels and connections that have to be accounted for. -/
structure Ledger where
  channels : List ChannelId
  connections : List ConnectionId

/-- A ledger with the channels that a program holds besides. -/
def Ledger.hold (cs : List ChannelId) (l : Ledger) : Ledger :=
  { l with channels := l.channels ++ cs }

/-- What a manager holds: the channels of its pool, the consumer channels and the connection. -/
def Connection.Manager.ledger (m : Manager) : Ledger where
  channels := m.pool.channels ++ m.consumerChannels.map (·.channel)
  connections := m.connection.toList

/-- A manager at rest holds nothing. -/
theorem Connection.Manager.ledger_of_create {settings : Settings} {m : Manager}
    (h : Manager.create settings = .ok m) : m.ledger = ⟨[], []⟩ := by
  unfold Manager.create at h
  cases names : Routing.ExchangeNames.forApplication settings.application with
  | error e =>
    rw [names] at h
    cases h
  | ok n =>
    cases pool : Pool.create settings.channelPoolSize with
    | error e =>
      rw [names, pool] at h
      cases h
    | ok p =>
      rw [names, pool] at h
      cases h
      unfold Pool.create at pool
      split at pool <;> cases pool
      rfl

namespace Client

variable {α : Type}

/-- What the requests of a course tell, the first first. -/
def told (f : (r : Request) → Except Error r.Reply → List α) (w : Client.Course) : List α :=
  w.past.flatMap fun
    | .exchanged x => f x.request x.reply
    | .heard _ => []

/-- The channels that have been opened. -/
def opened : Client.Course → List ChannelId :=
  told Request.opens

/-- The channels on which `close` has been called, once for each call. -/
def closeCalls : Client.Course → List ChannelId :=
  told fun r _ => r.closes

/-- The connections that have been opened. -/
def connected : Client.Course → List ConnectionId :=
  told Request.connects

/-- The connections on which `close` has been called, once for each call. -/
def connectionCloses : Client.Course → List ConnectionId :=
  told fun r _ => r.disconnects

@[simp]
theorem told_answer (f : (r : Request) → Except Error r.Reply → List α) (w : Client.Course)
    (r : Request) (reply : Except Error r.Reply) (s : Client) :
    told f (w.answer r reply s) = told f w ++ f r reply := by
  simp [told, Course.answer]

@[simp]
theorem told_note (f : (r : Request) → Except Error r.Reply → List α) (w : Client.Course)
    (x : Signal) : told f (w.note x) = told f w := by
  simp [told, Course.note]

/-- Whatever was opened is in the ledger or has been closed, and nothing is so twice. -/
structure Balanced (l : Ledger) (w : Client.Course) : Prop where
  channels_nodup : (opened w).Nodup
  channels_perm : (opened w).Perm (l.channels ++ closeCalls w)
  connections_nodup : (connected w).Nodup
  connections_perm : (connected w).Perm (l.connections ++ connectionCloses w)

/-- The broker may fail as it likes, and requests may be cancelled, but nothing is opened twice, and
nobody else uses the manager. -/
structure Truthful (env : Client.Surroundings) : Prop where
  undisturbed : ∀ w r, (env w r).2.manager = w.state.manager
  new_channel : ∀ w r, ∀ c ∈ Request.opens r (env w r).1, c ∉ opened w
  new_connection : ∀ w r, ∀ c ∈ Request.connects r (env w r).1, c ∉ connected w

/-- Besides, nothing is cancelled. Waiting for several closes never fails then, as each of them
fails quietly. -/
structure Faithful (env : Client.Surroundings) : Prop extends Truthful env where
  ordinary : env.Ordinary
  closes_quietly : ∀ w purpose cs, (env w (.closeChannels purpose cs)).1 = .ok ()

section Requests

variable {σ : Type} {env : Client.Surroundings} {part : Lens Client.Course σ}
  {l l' : Ledger} {w : Client.Course} {r : Request} {cs : List ChannelId}

/-- Appending what is new keeps a list that is balanced without repetition. -/
private theorem balance_append {xs ys zs new out : List α} {ys' : List α} (nodup : xs.Nodup)
    (perm : xs.Perm (ys ++ zs)) (fresh : ∀ a ∈ new, a ∉ xs) (single : new.Nodup)
    (moved : (ys ++ new).Perm (ys' ++ out)) :
    (xs ++ new).Nodup ∧ (xs ++ new).Perm (ys' ++ (zs ++ out)) := by
  refine ⟨List.nodup_append.mpr ⟨nodup, single, fun a ha b hb eq => fresh b hb (eq ▸ ha)⟩, ?_⟩
  calc List.Perm (xs ++ new) ((ys ++ zs) ++ new) := perm.append_right new
    List.Perm _ ((ys ++ new) ++ zs) := by
      rw [List.append_assoc, List.append_assoc]
      exact List.perm_append_comm.append_left ys
    List.Perm _ ((ys' ++ out) ++ zs) := moved.append_right zs
    List.Perm _ (ys' ++ (zs ++ out)) := by
      rw [List.append_assoc]
      exact List.perm_append_comm.append_left ys'

theorem opens_nodup (r : Request) (reply : Except Error r.Reply) :
    (r.opens reply).Nodup := by
  cases r <;> cases reply <;> simp [Request.opens]

private theorem connects_nodup (r : Request) (reply : Except Error r.Reply) :
    (r.connects reply).Nodup := by
  cases r <;> cases reply <;> simp [Request.connects]

/-- A request moves what it opens into the ledger and what it closes out of it. -/
theorem Balanced.answer (henv : Faithful env) (h : Balanced l w)
    (channels : (l.channels ++ r.opens (env w r).1).Perm (l'.channels ++ r.closes))
    (connections : (l.connections ++ r.connects (env w r).1).Perm
      (l'.connections ++ r.disconnects)) :
    Balanced l' (w.answer r (env w r).1 (env w r).2) := by
  obtain ⟨channels_nodup, channels_perm⟩ := balance_append h.channels_nodup h.channels_perm
    (henv.new_channel w r) (opens_nodup r _) channels
  obtain ⟨connections_nodup, connections_perm⟩ := balance_append h.connections_nodup
    h.connections_perm (henv.new_connection w r) (connects_nodup r _) connections
  constructor <;> simp only [opened, closeCalls, connected, connectionCloses, told_answer] <;>
    assumption

theorem Balanced.note (h : Balanced l w) (x : Signal) : Balanced l (w.note x) := by
  constructor <;> simp only [opened, closeCalls, connected, connectionCloses, told_note]
  exacts [h.channels_nodup, h.channels_perm, h.connections_nodup, h.connections_perm]

/-- The order in a ledger does not matter. -/
theorem Balanced.perm (h : Balanced l w) (channels : l.channels.Perm l'.channels)
    (connections : l.connections.Perm l'.connections) : Balanced l' w :=
  ⟨h.channels_nodup, h.channels_perm.trans (channels.append_right _), h.connections_nodup,
    h.connections_perm.trans (connections.append_right _)⟩

/-- What a course tells does not depend on the state. -/
theorem Balanced.state (h : Balanced l w) (s : Client) : Balanced l { w with state := s } :=
  ⟨h.channels_nodup, h.channels_perm, h.connections_nodup, h.connections_perm⟩

/-- The course is balanced with a ledger while the manager is as given. -/
def At (m : Manager) (l : Ledger) (w : Client.Course) : Prop :=
  w.state.manager = m ∧ Balanced l w

/-- A request against faithful surroundings, with what it leaves in the ledger. -/
theorem At.ends_ask {m : Manager} (henv : Faithful env) (h : At m l w) (r : Request)
    (after : Except Error r.Reply → Ledger)
    (channels : ∀ reply, (l.channels ++ r.opens reply).Perm ((after reply).channels ++ r.closes))
    (connections : ∀ reply, (l.connections ++ r.connects reply).Perm
      ((after reply).connections ++ r.disconnects)) :
    (ask r : Act σ r.Reply).Ends env.host part (fun a => At m (after (.ok a)))
      (fun e w => At m (after (.error e)) w ∧ e.isOrdinary) w := by
  have manager : (env w r).2.manager = m := (henv.undisturbed w r).trans h.1
  have balanced := h.2.answer henv (channels (env w r).1) (connections (env w r).1)
  refine Program.ends_request (fun a ha => ?_) fun e he => ?_
  · rw [ha] at balanced
    exact ⟨manager, balanced⟩
  · rw [he] at balanced
    exact ⟨⟨manager, balanced⟩, henv.ordinary w r e he⟩

theorem At.note {m : Manager} (h : At m l w) (x : Signal) : At m l (w.note x) :=
  ⟨h.1, h.2.note x⟩

theorem At.modify {m : Manager} (h : At m l w) (f : Manager → Manager) :
    At (f m) l ((Course.on managerPart).modify f w) :=
  ⟨congrArg f h.1, h.2.state _⟩

/-- Closing a channel takes it out of the ledger, whether that fails or not. -/
theorem At.ends_close {m : Manager} (henv : Faithful env) {c : ChannelId}
    (h : At m (l.hold (c :: cs)) w) :
    (ask (.closeChannel c) : Act σ Unit).Ends env.host part (fun _ => At m (l.hold cs))
      (fun e w => At m (l.hold cs) w ∧ e.isOrdinary) w := by
  refine At.ends_ask henv h (.closeChannel c) (fun _ => l.hold cs) ?_ fun reply => .refl _
  intro reply
  simp only [Ledger.hold, Request.opens, Request.closes, List.append_nil, List.append_assoc]
  exact (List.perm_append_singleton c cs).symm.append_left _

/-- Waiting for several closes takes their channels out of the ledger, and never fails. -/
theorem At.ends_closeChannels {m : Manager} (henv : Faithful env) (h : At m l w) (purpose : String)
    (after : Ledger)
    (channels : l.channels.Perm (after.channels ++ cs))
    (connections : l.connections = after.connections) :
    (ask (.closeChannels purpose cs) : Act σ Unit).Ends env.host part (fun _ => At m after)
      (fun _ _ => False) w := by
  have balanced : Balanced after (w.answer (.closeChannels purpose cs) _ _) :=
    h.2.answer henv (by simpa [Request.opens, Request.closes] using channels)
      (by simp [Request.connects, Request.disconnects, connections])
  refine Program.ends_request (fun a ha => ?_) fun e he => ?_
  · rw [ha] at balanced
    exact ⟨(henv.undisturbed w _).trans h.1, balanced⟩
  · rw [henv.closes_quietly] at he
    cases he

/-- What the manager holds and a program besides is all that has to be accounted for. -/
def Holding (cs : List ChannelId) (w : Client.Course) : Prop :=
  Balanced (w.state.manager.ledger.hold cs) w

namespace Holding

theorem of_at {m : Manager} (h : At m (m.ledger.hold cs) w) : Holding cs w := by
  obtain ⟨rfl, balanced⟩ := h
  exact balanced

theorem note (h : Holding cs w) (x : Signal) : Holding cs (w.note x) :=
  Balanced.note h x

private theorem plain_opens (plain : r.isPlain) :
    (∀ reply, r.opens reply = []) ∧ r.closes = [] := by
  cases r with
  | openChannel | closeChannel | closeChannels => cases plain
  | _ => exact ⟨fun _ => rfl, rfl⟩

private theorem plain_connects (plain : r.isPlain) :
    (∀ reply, r.connects reply = []) ∧ r.disconnects = [] := by
  cases r with
  | connect | closeConnection => cases plain
  | _ => exact ⟨fun _ => rfl, rfl⟩

/-- A request that neither opens nor closes anything changes nothing. -/
theorem keeps_ask (henv : Faithful env) (plain : r.isPlain) :
    (ask r : Act σ r.Reply).Keeps env.host part (Holding cs) := by
  intro w h
  refine (At.ends_ask henv ⟨rfl, h⟩ r (fun _ => w.state.manager.ledger.hold cs) (fun reply => ?_)
    fun reply => ?_).mono (fun _ _ h => of_at h) fun _ _ h => ⟨of_at h.1, h.2⟩
  · rw [(plain_opens plain).1, (plain_opens plain).2]
  · rw [(plain_connects plain).1, (plain_connects plain).2]

/-- A channel that is opened is held by the program. -/
theorem ends_open (henv : Faithful env) (h : Holding cs w) (connection : ConnectionId) :
    (ask (.openChannel connection) : Act σ ChannelId).Ends env.host part
      (fun c => Holding (c :: cs)) (fun e w => Holding cs w ∧ e.isOrdinary) w := by
  refine (At.ends_ask henv ⟨rfl, h⟩ (.openChannel connection) (fun reply =>
    w.state.manager.ledger.hold (Request.opens (.openChannel connection) reply ++ cs)) ?_ ?_).mono
    (fun _ _ h => of_at h) fun _ _ h => ⟨of_at h.1, h.2⟩
  · intro reply
    simp only [Ledger.hold, Request.closes, List.append_nil, List.append_assoc]
    exact List.perm_append_comm.append_left _
  · exact fun reply => .refl _

/-- A channel that is closed need not be held any more, whether closing it fails or not. -/
theorem ends_close (henv : Faithful env) {c : ChannelId} (h : Holding (c :: cs) w) :
    (ask (.closeChannel c) : Act σ Unit).Ends env.host part (fun _ => Holding cs)
      (fun e w => Holding cs w ∧ e.isOrdinary) w :=
  (At.ends_close henv ⟨rfl, h⟩).mono (fun _ _ h => of_at h) fun _ _ h => ⟨of_at h.1, h.2⟩

/-- A change of the manager has to keep what is held all in all. -/
theorem modify {cs' : List ChannelId} (h : Holding cs w) {f : Manager → Manager}
    (channels : ∀ m : Manager, (m.ledger.channels ++ cs).Perm ((f m).ledger.channels ++ cs'))
    (connections : ∀ m : Manager, (f m).connection = m.connection) :
    Holding cs' ((Course.on managerPart).modify f w) := by
  have moved : Balanced ((f w.state.manager).ledger.hold cs') w := by
    refine Balanced.perm h (channels _) ?_
    simp only [Ledger.hold, Manager.ledger, connections]
    exact .refl _
  exact moved.state _

end Holding

end Requests

end Client

end BrokerClient
