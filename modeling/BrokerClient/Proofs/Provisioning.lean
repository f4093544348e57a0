import BrokerClient.Connection.Channels
import BrokerClient.Proofs.Connecting

/-!
# Making consumer channels

A consumer channel is made on the connection of its manager: a channel is opened, and what the
channel needs is declared on it, one thing after the other. The first refusal ends the making. A
channel that has been opened by then is closed, whether that succeeds or not, and the manager is as
it was. Only a channel that has been granted everything is tracked. A cancellation is not recovered
from: it ends the making, or the removal of a consumer channel, as it is.

## Main definitions

* `Answer.InOrder` — requests one after the other, up to the first refusal.
* `ConsumerOptions.provisioning` — what a consumer channel asks for before it is handed out.
* `Manager.Creation`, `Manager.Removal` — what making and removing a consumer channel asks for, and
  how it ends.
* `Manager.Making` — how the making ends where nothing is cancelled.

## Main results

* `Manager.creation_of_runs`, `Manager.Creation.making` — how a consumer channel is made.
* `Manager.removal_of_runs` — how one is removed.
-/

namespace BrokerClient

open Broker Channel Connection

/-! ### Requests in order -/

/-- Requests are sent one after the other, up to the first that is refused. -/
inductive Answer.InOrder : List Request → List (Answer requests) → Except Error Unit → Prop
  | all : InOrder [] [] (.ok ())
  | refused {r rs e} : InOrder (r :: rs) [⟨r, .error e⟩] (.error e)
  | granted {r rs a asked result} (rest : InOrder rs asked result) :
    InOrder (r :: rs) (⟨r, .ok a⟩ :: asked) result

namespace Answer.InOrder

variable {rs rs' : List Request} {asked asked' : List (Answer requests)}
  {result : Except Error Unit} {e : Error}

/-- More requests follow where the first have all been granted. -/
theorem append (h : InOrder rs asked (.ok ())) (h' : InOrder rs' asked' result) :
    InOrder (rs ++ rs') (asked ++ asked') result := by
  generalize ended : Except.ok () = succeeded at h
  induction h with
  | all => exact h'
  | refused => cases ended
  | granted rest ih => exact .granted (ih ended)

/-- No more requests follow after a refusal. -/
theorem append_refused (h : InOrder rs asked (.error e)) :
    InOrder (rs ++ rs') asked (.error e) := by
  generalize ended : Except.error e = failed at h
  induction h with
  | all => cases ended
  | refused => exact .refused
  | granted rest ih => exact .granted (ih ended)

/-- A refusal is an ordinary error. -/
theorem ordinary (h : InOrder rs asked (.error e)) (regular : ∀ a ∈ asked, a.Regular) :
    e.isOrdinary := by
  generalize ended : Except.error e = failed at h
  induction h with
  | all => cases ended
  | refused =>
    cases ended
    exact (regular _ List.mem_cons_self).ordinary
  | granted rest ih => exact ih (fun a ha => regular a (List.mem_cons_of_mem _ ha)) ended

end Answer.InOrder

section Serial

variable {σ α β : Type} {p : Act σ α} {a : α} {b : β} {r : Request} {rs rs' : List Request}

/-- A program sends requests in order and changes nothing; if all are granted, it gives a value. -/
def Program.Serial (p : Act σ α) (rs : List Request) (a : α) : Prop :=
  ∀ ⦃s asked result s'⦄, p.Alone s asked result s' →
    (Answer.InOrder rs asked (.ok ()) ∧ result = .ok a ∨
      ∃ e, Answer.InOrder rs asked (.error e) ∧ result = .error e) ∧ s' = s

namespace Program.Serial

theorem pure : (Pure.pure a : Act σ α).Serial [] a := by
  rintro s asked result s' ⟨rfl, rfl, rfl⟩
  exact ⟨.inl ⟨.all, rfl⟩, rfl⟩

theorem log {level : Log.Level} {logger : Log.Logger} {message : String}
    {details : List (String × Json)} :
    (Program.log level logger message details : Act σ Unit).Serial [] () := by
  rintro s asked result s' ⟨rfl, rfl, rfl⟩
  exact ⟨.inl ⟨.all, rfl⟩, rfl⟩

/-- A request comes before those of what follows it. -/
theorem ask_seq {f : r.Reply → Act σ β} (rest : ∀ reply, (f reply).Serial rs b) :
    (ask r >>= f).Serial (r :: rs) b := by
  intro s asked result s' h
  rw [Program.Alone, Program.runs_seq] at h
  obtain ⟨e, h, rfl⟩ | ⟨reply, s₁, asked₁, asked₂, rfl, h, h'⟩ := h
  · obtain ⟨rfl, rfl⟩ := Program.runs_perform.mp h
    exact ⟨.inr ⟨e, .refused, rfl⟩, rfl⟩
  · obtain ⟨rfl, rfl⟩ := Program.runs_perform.mp h
    obtain ⟨⟨granted, rfl⟩ | ⟨e, refused, rfl⟩, rfl⟩ := rest reply h'
    · exact ⟨.inl ⟨.granted granted, rfl⟩, rfl⟩
    · exact ⟨.inr ⟨e, .granted refused, rfl⟩, rfl⟩

/-- The second part of a sequence sends its requests after those of the first. -/
theorem seq {f : α → Act σ β} (hp : p.Serial rs a) (hf : (f a).Serial rs' b) :
    (p >>= f).Serial (rs ++ rs') b := by
  intro s asked result s' h
  rw [Program.Alone, Program.runs_seq] at h
  obtain ⟨e, h, rfl⟩ | ⟨a', s₁, asked₁, asked₂, rfl, h, h'⟩ := h
  · obtain ⟨⟨-, ended⟩ | ⟨e, first, ended⟩, rfl⟩ := hp h
    · cases ended
    · cases ended
      exact ⟨.inr ⟨e, first.append_refused, rfl⟩, rfl⟩
  · obtain ⟨⟨first, ended⟩ | ⟨e, -, ended⟩, rfl⟩ := hp h
    · cases ended
      obtain ⟨⟨granted, rfl⟩ | ⟨e, refused, rfl⟩, rfl⟩ := hf h'
      · exact ⟨.inl ⟨first.append granted, rfl⟩, rfl⟩
      · exact ⟨.inr ⟨e, first.append refused, rfl⟩, rfl⟩
    · cases ended

end Program.Serial

end Serial

/-! ### Provisioning -/

namespace Channel.ConsumerOptions

/-- The declaration of the exchange of a consumer channel. -/
def exchangeDeclaration (o : ConsumerOptions) (exchange : String) : ExchangeDeclaration where
  name := exchange
  kind := o.exchangeKind
  durable := o.exchangeOptions.durable
  autoDelete := some o.exchangeOptions.autoDelete
  internal := some o.exchangeOptions.internal

/-- The declaration of the queue of a consumer channel. -/
def queueDeclaration (o : ConsumerOptions) : QueueDeclaration where
  name := o.queueName
  durable := o.queueOptions.durable
  exclusive := o.queueOptions.exclusive
  autoDelete := o.queueOptions.autoDelete
  arguments := o.queueOptions.arguments

/-- What a consumer channel asks for before it is handed out: its exchange, its queue, a binding if
there is a routing key, and the prefetch limit. -/
def provisioning (o : ConsumerOptions) (c : ChannelId) (exchange : String) : List Request :=
  .declareExchange c (o.exchangeDeclaration exchange) :: .declareQueue c o.queueDeclaration ::
    (o.routingKey.toList.map (.bindQueue c o.queueName exchange ·) ++
      [.setPrefetch c o.prefetchCount])

end Channel.ConsumerOptions

/-- Provisioning asks for what a consumer channel needs, in order, and gives the consumer
channel. -/
theorem Channel.serial_provision {σ : Type} (c : ChannelId) (o : ConsumerOptions)
    (default : String) :
    (provision c o default : Act σ ConsumerChannel).Serial
      (o.provisioning c (o.exchangeOr default)) ⟨c, o, o.exchangeOr default⟩ := by
  have bound (exchange : String) : (bindQueue c o exchange : Act σ Unit).Serial
      (o.routingKey.toList.map (.bindQueue c o.queueName exchange ·)) () := by
    unfold bindQueue
    cases o.routingKey with
    | some key => exact .ask_seq fun _ => .log
    | none => exact .pure
  have declared (exchange : String) : (declareExchange c o exchange : Act σ Unit).Serial
      [.declareExchange c (o.exchangeDeclaration exchange)] () :=
    .ask_seq fun _ => .log
  have queued : (declareQueue c o : Act σ Unit).Serial [.declareQueue c o.queueDeclaration] () :=
    .ask_seq fun _ => .log
  have limited : (setPrefetch c o : Act σ Unit).Serial [.setPrefetch c o.prefetchCount] () :=
    .ask_seq fun _ => .log
  exact (declared _).seq (queued.seq ((bound _).seq (limited.seq .pure)))

namespace Connection.Manager

variable {m m' : Manager} {o : ConsumerOptions} {asked : List (Answer requests)}

/-- The channels of the consumer channels that are tracked. -/
def tracked (m : Manager) : List ChannelId :=
  m.consumerChannels.map (·.channel)

theorem tracks_iff {d : ConsumerChannel} : m.tracks d ↔ d.channel ∈ m.tracked := by
  simp [tracks, tracked]

@[simp]
theorem tracked_track (d : ConsumerChannel) : (m.track d).tracked = m.tracked ++ [d.channel] := by
  simp [track, tracked]

theorem mem_tracked_untrack {d : ConsumerChannel} {c : ChannelId} :
    c ∈ (m.untrack d).tracked ↔ c ∈ m.tracked ∧ c ≠ d.channel := by
  simp only [tracked, untrack, List.mem_map, List.mem_filter, bne_iff_ne]
  constructor
  · rintro ⟨e, ⟨he, other⟩, rfl⟩
    exact ⟨⟨e, he, rfl⟩, other⟩
  · rintro ⟨⟨e, he, rfl⟩, other⟩
    exact ⟨e, ⟨he, other⟩, rfl⟩

/-- To cease to track what is not tracked changes nothing. -/
theorem untrack_of_not_mem {d : ConsumerChannel} (untracked : d.channel ∉ m.tracked) :
    m.untrack d = m := by
  have all : m.consumerChannels.filter (fun e => e.channel != d.channel) = m.consumerChannels := by
    refine List.filter_eq_self.mpr fun e he => bne_iff_ne.mpr fun same => untracked ?_
    exact same ▸ List.mem_map_of_mem he
  unfold untrack
  rw [all]

/-- To cease to track what has just come to be tracked changes nothing. -/
theorem untrack_track {d : ConsumerChannel} (new : d.channel ∉ m.tracked) :
    (m.track d).untrack d = m := by
  have same : (m.track d).untrack d = m.untrack d := by
    simp [track, untrack, List.filter_append]
  rw [same, untrack_of_not_mem new]

/-- All but the consumer channels is as it was. -/
structure Alike (m m' : Manager) : Prop where
  connection : m'.connection = m.connection
  phase : m'.phase = m.phase
  pool : m'.pool = m.pool

theorem Alike.trans {m'' : Manager} (h : Alike m m') (h' : Alike m' m'') : Alike m m'' :=
  ⟨h'.connection.trans h.connection, h'.phase.trans h.phase, h'.pool.trans h.pool⟩

/-! ### Making and removing -/

/-- The error that a failed step raises: a cancellation is raised as it is. -/
def raised (o : ConsumerOptions) (e : Error) : Error :=
  if e.isOrdinary then consumerChannelError o e else e

/-- The error that is raised after a close: that of the close if it was cancelled. -/
def afterClose (closed : Except Error Unit) (e : Error) : Error :=
  match quietly closed with
  | .ok _ => e
  | .error cancellation => cancellation

/-- What making a consumer channel asks for, whatever it is replied with, and how it ends. A step
that is cancelled ends it at once. -/
inductive Creation (m : Manager) (o : ConsumerOptions) :
    List (Answer requests) → Except Error ConsumerChannel → Manager → Prop
  | unconnected (unconnected : m.connection = none) :
    Creation m o [] (.error (.notConnected "create a consumer channel")) m
  | unopened {k e} (connected : m.connection = some k) :
    Creation m o [⟨.openChannel k, .error e⟩] (.error (raised o e)) m
  | cancelled {k c steps e} (connected : m.connection = some k)
    (refused : Answer.InOrder (o.provisioning c (o.exchangeOr m.names.events)) steps (.error e))
    (passes : e.isOrdinary = false) :
    Creation m o (⟨.openChannel k, .ok c⟩ :: steps) (.error e) m
  | unprovisioned {k c steps e closed} (connected : m.connection = some k)
    (refused : Answer.InOrder (o.provisioning c (o.exchangeOr m.names.events)) steps (.error e))
    (ordinary : e.isOrdinary) :
    Creation m o (⟨.openChannel k, .ok c⟩ :: steps ++ [⟨.closeChannel c, closed⟩])
      (.error (afterClose closed (consumerChannelError o e))) m
  | made {k c steps} (connected : m.connection = some k)
    (granted : Answer.InOrder (o.provisioning c (o.exchangeOr m.names.events)) steps (.ok ())) :
    Creation m o (⟨.openChannel k, .ok c⟩ :: steps) (.ok ⟨c, o, o.exchangeOr m.names.events⟩)
      (m.track ⟨c, o, o.exchangeOr m.names.events⟩)

/-- A manager is as it was where no consumer channel could be made. -/
theorem Creation.unchanged {e : Error} (h : Creation m o asked (.error e) m') : m' = m := by
  cases h <;> rfl

/-- A consumer channel that has been made is tracked, on a channel of the connection. -/
theorem Creation.of_ok {d : ConsumerChannel} (h : Creation m o asked (.ok d) m') :
    m' = m.track d ∧ ∃ k, m.connection = some k ∧ ⟨.openChannel k, .ok d.channel⟩ ∈ asked := by
  cases h with
  | made connected => exact ⟨rfl, _, connected, List.mem_cons_self⟩

/-- A channel is opened for a consumer. -/
theorem runs_opening {k : ConnectionId} {result : Except Error ChannelId}
    (h : (Program.rescue (ask (.openChannel k)) fun e => do
      logConsumerFailure "open" o e
      .fail (consumerChannelError o e) : Act ChannelId).Alone m asked result m') :
    (∃ c, asked = [⟨.openChannel k, .ok c⟩] ∧ result = .ok c ∧ m' = m) ∨
      ∃ e, asked = [⟨.openChannel k, .error e⟩] ∧ result = .error (raised o e) ∧ m' = m := by
  obtain ⟨c, opens, rfl⟩ | ⟨e, refused, passes, rfl⟩ |
    ⟨e, m₁, asked₁, asked₂, rfl, refused, ordinary, rfl, rfl, rfl⟩ := Program.runs_rescue.mp h
  · obtain ⟨rfl, rfl⟩ := Program.runs_perform.mp opens
    exact .inl ⟨c, rfl, rfl, rfl⟩
  · obtain ⟨rfl, rfl⟩ := Program.runs_perform.mp refused
    exact .inr ⟨e, rfl, by simp [raised, passes], rfl⟩
  · obtain ⟨rfl, rfl⟩ := Program.runs_perform.mp refused
    exact .inr ⟨e, rfl, by simp [raised, ordinary], rfl⟩

/-- A channel is provisioned for a consumer, or closed, unless provisioning is cancelled. -/
theorem runs_provisioning {c : ChannelId} {default : String}
    {result : Except Error ConsumerChannel}
    (h : (Program.rescue (provision c o default) fun e => do
      logConsumerFailure "provision" o e
      let _ ← closeQuietly (ask (.closeChannel c)) "consumer"
      .fail (consumerChannelError o e) : Act ConsumerChannel).Alone m asked result m') :
    m' = m ∧
      (Answer.InOrder (o.provisioning c (o.exchangeOr default)) asked (.ok ()) ∧
          result = .ok ⟨c, o, o.exchangeOr default⟩ ∨
        ∃ e steps, Answer.InOrder (o.provisioning c (o.exchangeOr default)) steps (.error e) ∧
          (e.isOrdinary = false ∧ asked = steps ∧ result = .error e ∨
            ∃ closed, e.isOrdinary ∧ asked = steps ++ [⟨.closeChannel c, closed⟩] ∧
              result = .error (afterClose closed (consumerChannelError o e)))) := by
  obtain ⟨d, provisions, rfl⟩ | ⟨e, failed, passes, rfl⟩ |
    ⟨e, m₁, steps, asked₂, rfl, failed, ordinary, closes⟩ := Program.runs_rescue.mp h
  · obtain ⟨⟨granted, ended⟩ | ⟨_, -, ended⟩, rfl⟩ := serial_provision c o default provisions
    · exact ⟨rfl, .inl ⟨granted, ended⟩⟩
    · cases ended
  · obtain ⟨⟨-, ended⟩ | ⟨_, refused, ended⟩, rfl⟩ := serial_provision c o default failed
    · cases ended
    · cases ended
      exact ⟨rfl, .inr ⟨e, asked, refused, .inl ⟨passes, rfl, rfl⟩⟩⟩
  · obtain ⟨⟨-, ended⟩ | ⟨_, refused, ended⟩, rfl⟩ := serial_provision c o default failed
    · cases ended
    cases ended
    rw [logConsumerFailure, Program.runs_logFailure_seq, Program.runs_seq] at closes
    obtain ⟨_, failed, rfl⟩ | ⟨_, m₂, asked₃, _, rfl, closes, rfl, rfl, rfl⟩ := closes
    · obtain ⟨closed, rfl, ended, rfl⟩ := closing_of_runs failed
      exact ⟨rfl, .inr ⟨e, steps, refused, .inr ⟨closed, ordinary, rfl, by
        rw [afterClose, ← ended]⟩⟩⟩
    · obtain ⟨closed, rfl, ended, rfl⟩ := closing_of_runs closes
      exact ⟨rfl, .inr ⟨e, steps, refused, .inr ⟨closed, ordinary, by rw [List.append_nil], by
        rw [afterClose, ← ended]⟩⟩⟩

/-- How a consumer channel is made. -/
theorem creation_of_runs {result : Except Error ConsumerChannel}
    (h : (createConsumerChannel o).Alone m asked result m') : Creation m o asked result m' := by
  rw [createConsumerChannel, Program.Alone, Program.runs_state_seq] at h
  cases connected : m.connection with
  | none =>
    simp only [Lens.whole, id, connected] at h
    obtain ⟨rfl, rfl, rfl⟩ := h
    exact .unconnected connected
  | some k =>
    simp only [Lens.whole, id, connected] at h
    rw [Program.runs_log_seq, Program.runs_seq] at h
    obtain ⟨_, failed, rfl⟩ | ⟨c, m₁, asked₁, asked₂, rfl, opens, h⟩ := h
    · obtain ⟨_, -, ended, -⟩ | ⟨e, rfl, ended, rfl⟩ := runs_opening failed
      · cases ended
      · cases ended
        exact .unopened connected
    obtain ⟨_, rfl, ended, rfl⟩ | ⟨_, -, ended, -⟩ := runs_opening opens
    case inr => cases ended
    cases ended
    rw [Program.runs_seq] at h
    obtain ⟨_, failed, rfl⟩ | ⟨d, m₁, asked₂, asked₃, rfl, provisions, h⟩ := h
    · obtain ⟨rfl, ⟨-, ended⟩ | ⟨e, steps, refused,
        ⟨passes, rfl, ended⟩ | ⟨closed, ordinary, rfl, ended⟩⟩⟩ := runs_provisioning failed <;>
        cases ended
      · exact .cancelled connected refused passes
      · exact .unprovisioned connected refused ordinary
    · obtain ⟨rfl, ⟨granted, ended⟩ | ⟨_, _, -, ⟨-, -, ended⟩ | ⟨_, -, -, ended⟩⟩⟩ :=
        runs_provisioning provisions <;> cases ended
      obtain ⟨rfl, rfl, rfl⟩ := h
      rw [List.append_nil]
      exact .made connected granted

/-- What making a consumer channel asks for, and how it ends, where nothing is cancelled. -/
inductive Making (m : Manager) (o : ConsumerOptions) :
    List (Answer requests) → Except Error ConsumerChannel → Manager → Prop
  | unconnected (unconnected : m.connection = none) :
    Making m o [] (.error (.notConnected "create a consumer channel")) m
  | unopened {k e} (connected : m.connection = some k) :
    Making m o [⟨.openChannel k, .error e⟩] (.error (consumerChannelError o e)) m
  | unprovisioned {k c steps e closed} (connected : m.connection = some k)
    (refused : Answer.InOrder (o.provisioning c (o.exchangeOr m.names.events)) steps (.error e)) :
    Making m o (⟨.openChannel k, .ok c⟩ :: steps ++ [⟨.closeChannel c, closed⟩])
      (.error (consumerChannelError o e)) m
  | made {k c steps} (connected : m.connection = some k)
    (granted : Answer.InOrder (o.provisioning c (o.exchangeOr m.names.events)) steps (.ok ())) :
    Making m o (⟨.openChannel k, .ok c⟩ :: steps) (.ok ⟨c, o, o.exchangeOr m.names.events⟩)
      (m.track ⟨c, o, o.exchangeOr m.names.events⟩)

/-- A manager is as it was where no consumer channel could be made. -/
theorem Making.unchanged {e : Error} (h : Making m o asked (.error e) m') : m' = m := by
  cases h <;> rfl

/-- A consumer channel that has been made is tracked, on a channel of the connection. -/
theorem Making.of_ok {d : ConsumerChannel} (h : Making m o asked (.ok d) m') :
    m' = m.track d ∧ ∃ k, m.connection = some k ∧ ⟨.openChannel k, .ok d.channel⟩ ∈ asked := by
  cases h with
  | made connected => exact ⟨rfl, _, connected, List.mem_cons_self⟩

/-- Without cancellations a consumer channel is made or not. -/
theorem Creation.making {result : Except Error ConsumerChannel} (h : Creation m o asked result m')
    (regular : ∀ a ∈ asked, a.Regular) : Making m o asked result m' := by
  cases h with
  | unconnected unconnected => exact .unconnected unconnected
  | unopened connected =>
    rw [raised, if_pos (regular _ List.mem_cons_self).ordinary]
    exact .unopened connected
  | cancelled connected refused passes =>
    have ordinary := refused.ordinary (List.forall_mem_cons.mp regular).2
    rw [passes] at ordinary
    cases ordinary
  | @unprovisioned k c steps e closed connected refused =>
    have quiet : afterClose closed (consumerChannelError o e) = consumerChannelError o e := by
      cases closed with
      | ok => rfl
      | error e' =>
        have ordinary : e'.isOrdinary :=
          (regular _ (List.mem_append_right _ List.mem_cons_self)).ordinary
        simp [afterClose, quietly, ordinary]
    rw [quiet]
    exact .unprovisioned connected refused
  | made connected granted => exact .made connected granted

/-- What removing a consumer channel asks for, whatever it is replied with, and how it ends. -/
inductive Removal (m : Manager) (d : ConsumerChannel) :
    List (Answer requests) → Except Error Unit → Manager → Prop
  | untracked (untracked : d.channel ∉ m.tracked) : Removal m d [] (.ok ()) m
  | removed {closed} (tracked : d.channel ∈ m.tracked) :
    Removal m d [⟨.closeChannel d.channel, closed⟩] (.ok ()) (m.untrack d)
  | cancelled {e} (tracked : d.channel ∈ m.tracked) (passes : e.isOrdinary = false) :
    Removal m d [⟨.closeChannel d.channel, .error e⟩] (.error e) m

/-- How a consumer channel is removed. -/
theorem removal_of_runs {d : ConsumerChannel} {result : Except Error Unit}
    (h : (removeConsumerChannel d).Alone m asked result m') : Removal m d asked result m' := by
  rw [removeConsumerChannel, Program.Alone, Program.runs_state_seq] at h
  by_cases tracks : m.tracks d
  · change Program.Runs _ _ (if m.tracks d then _ else _) _ _ _ _ at h
    rw [if_pos tracks, Program.runs_seq] at h
    obtain ⟨e, failed, rfl⟩ | ⟨_, m₁, asked₁, _, rfl, closes, rfl, rfl, rfl⟩ := h
    · obtain ⟨closed, rfl, ended, rfl⟩ := closing_of_runs failed
      cases closed with
      | ok => cases ended
      | error e' =>
        rw [quietly] at ended
        split at ended
        · cases ended
        · rename_i passes
          cases ended
          exact .cancelled (tracks_iff.mp tracks) (by simpa using passes)
    · obtain ⟨closed, rfl, -, rfl⟩ := closing_of_runs closes
      exact .removed (tracks_iff.mp tracks)
  · change Program.Runs _ _ (if m.tracks d then _ else _) _ _ _ _ at h
    rw [if_neg tracks] at h
    obtain ⟨rfl, rfl, rfl⟩ := h
    exact .untracked (mt tracks_iff.mpr tracks)

end Connection.Manager

end BrokerClient
