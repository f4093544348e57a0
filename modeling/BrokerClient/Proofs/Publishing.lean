import BrokerClient.Proofs.Ownership.Ledger
import BrokerClient.Proofs.Pool.Opening
import BrokerClient.Proofs.Retrying

/-!
# What publishing does to the pool

Every attempt to send a message borrows a channel of the pool, which may have to grow for that, and
takes it back before anything else happens. So during a wait and at the end just the channels are
lent that were lent before. A channel that an attempt has added is free for the next one, so that
the pool grows once at most, however many attempts there are.

## Main definitions

* `Client.Undisturbed` — others leave the manager alone, and a new channel is none of the pool.
* `Client.Grown` — the pool has one channel more at most, and the manager is the same apart from it.
* `Broker.Request.published?` — the message that a request publishes.
* `Publication`, `Publication.program` — an event or bytes to publish.
* `Published` — what is seen of publishing.

## Main results

* `Publisher.runs_sendOnce` — an attempt takes its channel back and delivers just when it succeeds.
* `Publisher.sent_of_tried` — any number of attempts.
* `Publication.published_of_run` — a publication publishes only its message.
* `Publication.keeps_pool` — publishing lends no channel for longer than an attempt.
-/

namespace BrokerClient

open Broker Channel Connection Event

/-! ### Pools that gain a channel -/

namespace Channel.Pool

variable {p : Pool} {c : ChannelId}

/-- A channel that was not lent can be lent and taken back. -/
theorem takeBack_lend (h : c ∉ p.inUse) : (p.lend c).takeBack c = p := by
  simp [lend, takeBack, List.insert_of_not_mem h]

theorem mem_inUse_lend : c ∈ (p.lend c).inUse :=
  List.mem_insert_self

end Channel.Pool

/-- The pool of a client. -/
def Client.pool (s : Client) : Pool :=
  s.manager.pool

/-- A client has a connection, and its pool lends channels of its own. -/
structure Client.Ready (s : Client) : Prop where
  connected : s.manager.connection.isSome
  lends : s.pool.inUse ⊆ s.pool.channels

/-- The pool has one new channel more at most, and this only if all channels were lent; the manager
is the same apart from it. -/
inductive Client.Grown (s s' : Client) : Prop
  | same (manager : s'.manager = s.manager)
  | added (c : ChannelId) (lent : s.pool.channels ⊆ s.pool.inUse) (new : c ∉ s.pool.channels)
    (manager : s'.manager = { s.manager with pool := s.manager.pool.add c })

namespace Client

variable {s s₁ s₂ s' : Client}

theorem Ready.of_grown (h : s.Ready) (grown : s.Grown s') : s'.Ready := by
  cases grown with
  | same manager => exact ⟨manager ▸ h.connected, by simpa only [pool, manager] using h.lends⟩
  | added c _ _ manager =>
    refine ⟨manager ▸ h.connected, ?_⟩
    simp only [pool, manager]
    exact fun a ha => List.mem_append_left _ (h.lends ha)

/-- A pool that has grown has a free channel, so it does not grow again. -/
theorem Grown.trans (h : s.Ready) (first : s.Grown s₁) (second : s₁.Grown s') : s.Grown s' := by
  cases first with
  | same manager =>
    cases second with
    | same manager' => exact .same (manager'.trans manager)
    | added c lent new manager' =>
      simp only [pool, manager] at lent new manager'
      exact .added c lent new manager'
  | added c lent new manager =>
    cases second with
    | same manager' => exact .added c lent new (manager'.trans manager)
    | added c' lent' =>
      simp only [pool, manager, Pool.add] at lent'
      exact absurd (h.lends (lent' (List.mem_append_right _ (List.mem_singleton_self c)))) new

theorem Grown.of_eq (h : s.Grown s₁) (same : s'.manager = s₁.manager) : s.Grown s' := by
  cases h with
  | same manager => exact .same (same.trans manager)
  | added c lent new manager => exact .added c lent new (same.trans manager)

/-- Others leave the manager alone, and a new channel is none of the pool. -/
def Undisturbed (r : Request) (reply : Except Error r.Reply) (s s' : Client) : Prop :=
  s'.manager = s.manager ∧ ∀ c ∈ r.opens reply, c ∉ s.pool.channels

/-- How the requests of a client are served where others leave the manager alone. -/
abbrev undisturbed : Service requests (Exchange requests Client) Client :=
  .noted requests Undisturbed

/-- How the requests of the pool of a client are served then. -/
abbrev undisturbedPool : Service Pool.requests (Exchange requests Client) Client :=
  Program.servedBy undisturbed managerPart Manager.servePool

end Client

/-! ### One attempt -/

namespace Channel.Pool

variable {A ω : Type} {service : Service requests A ω} {part : Lens ω Pool} {w w' : ω}
  {asked : List A} {c : ChannelId}

theorem runs_acquire_of_free {r : Except Error ChannelId} (free : (part.get w).free? = some c) :
    acquire.Runs service part w asked r w' ↔
      asked = [] ∧ r = .ok c ∧ w' = part.modify (lend c) w := by
  simp only [acquire, Program.runs_state_seq, free, Program.runs_modify_seq, Program.runs_log_seq,
    Program.runs_pure]

/-- Where all channels are lent, a new one joins the pool unless a close begins meanwhile. -/
theorem runs_acquire_of_none {r : Except Error ChannelId} (lent : (part.get w).free? = none)
    (stays : ∀ {asked reply w₁}, service .openChannel w asked reply w₁ →
      (part.get w₁).generation = (part.get w).generation)
    (h : acquire.Runs service part w asked r w') :
    (∃ e, service .openChannel w asked (.error e) w' ∧ r = .error (openFailure e)) ∨
      ∃ c w₁, service .openChannel w asked (.ok c) w₁ ∧ r = .ok c ∧
        w' = part.modify (fun p => (p.add c).lend c) w₁ := by
  simp only [acquire, Program.runs_state_seq, lent, Program.runs_log_seq] at h
  exact runs_openFor stays h

theorem runs_release_of_lent {r : Except Error Unit} (lent : c ∈ (part.get w).inUse) :
    (release c).Runs service part w asked r w' ↔
      asked = [] ∧ r = .ok () ∧ w' = part.modify (takeBack c) w := by
  rw [release, Program.runs_state_seq, if_pos (by simpa using lent), Program.runs_modify_seq,
    Program.runs_log]

end Channel.Pool

namespace Publisher

variable {x : Sending} {c : ChannelId} {s s₁ s' : Client}
  {asked asked₁ asked₂ : List (Exchange requests Client)}

/-- What an attempt to send a message asks for. -/
inductive Sending.Attempts (x : Sending) : Request → Prop
  | openChannel (connection : ConnectionId) : Attempts x (.openChannel connection)
  | findExchange (c : ChannelId) : Attempts x (.findExchange c x.exchange)
  | publish (c : ChannelId) : Attempts x (.publish c x.exchange x.routingKey x.message)

/-- Whether a message has been sent. -/
def delivers : Exchange requests Client → Bool
  | ⟨.publish .., .ok _, _, _⟩ => true
  | _ => false

/-- How many messages have been sent where sending one ends in this way. -/
def deliveries : Except Error Unit → Nat
  | .ok _ => 1
  | .error _ => 0

/-- The manager of a connected client asks for a new channel on its connection. -/
theorem served_openChannel {k : ConnectionId} {reply : Except Error ChannelId}
    (connected : s.manager.connection = some k)
    (h : Client.undisturbedPool .openChannel s asked reply s') :
    asked = [⟨Request.openChannel k, reply, s, s'⟩] ∧
      Client.Undisturbed (.openChannel k) reply s s' := by
  simp only [Client.undisturbedPool, Program.servedBy, Manager.servePool, Program.runs_state_seq,
    Client.get_managerPart, connected] at h
  exact Program.runs_perform.mp h

/-- Lending a channel asks for a new one at most. What is lent is a channel that was free, if need
be after the pool has grown. -/
theorem runs_borrow {r : Except Error ChannelId} (ready : s.Ready)
    (h : (Manager.borrow.on Client.managerPart).Runs Client.undisturbed .whole s asked r s') :
    (∀ a ∈ asked, x.Attempts a.request) ∧ asked.countP delivers = 0 ∧
      ((∃ e, r = .error e ∧ s'.manager = s.manager) ∨
        ∃ c s₀, r = .ok c ∧ s.Grown s₀ ∧ c ∉ s₀.pool.inUse ∧
          s'.manager = { s₀.manager with pool := s₀.manager.pool.lend c }) := by
  obtain ⟨k, connected⟩ := Option.isSome_iff_exists.mp ready.connected
  have acquired : Pool.acquire.Runs Client.undisturbedPool
      (Client.managerPart.andThen Manager.poolPart) s asked r s' := by
    rw [Program.runs_on, Manager.borrow, Program.runs_state_seq,
      show (Lens.whole.andThen Client.managerPart).get s = s.manager from rfl, connected] at h
    exact Program.runs_within.mp h
  cases free : s.pool.free? with
  | some c =>
    obtain ⟨rfl, rfl, rfl⟩ := (Pool.runs_acquire_of_free free).mp acquired
    exact ⟨List.forall_mem_nil _, rfl, .inr ⟨c, s, rfl, .same rfl, Pool.not_lent_of_free free, rfl⟩⟩
  | none =>
    have lent := Pool.free?_eq_none_iff.mp free
    obtain ⟨e, served, rfl⟩ | ⟨c, s₁, served, rfl, rfl⟩ :=
      Pool.runs_acquire_of_none free (fun served => by
        obtain ⟨-, same, -⟩ := served_openChannel connected served
        exact congrArg (·.pool.generation) same) acquired
    · obtain ⟨rfl, same, -⟩ := served_openChannel connected served
      exact ⟨by simpa using .openChannel k, rfl, .inl ⟨_, rfl, same⟩⟩
    · obtain ⟨rfl, same, new⟩ := served_openChannel connected served
      have new : c ∉ s.pool.channels := new c (List.mem_singleton_self c)
      let s₀ : Client := { s with manager := { s.manager with pool := s.pool.add c } }
      have grown : s.Grown s₀ := .added c lent new rfl
      have unlent : c ∉ s₀.pool.inUse := fun used => new (ready.lends used)
      have joined : { s₁.manager with pool := (s₁.manager.pool.add c).lend c } =
          { s₀.manager with pool := s₀.manager.pool.lend c } := by rw [same]; rfl
      exact ⟨by simpa using .openChannel k, rfl, .inr ⟨c, s₀, rfl, grown, unlent, joined⟩⟩

theorem runs_giveBack {r : Except Error Unit} (lent : c ∈ s.pool.inUse) :
    ((Manager.giveBack c).on Client.managerPart).Runs Client.undisturbed .whole s asked r s' ↔
      asked = [] ∧ r = .ok () ∧
        s' = { s with manager := { s.manager with pool := s.manager.pool.takeBack c } } := by
  rw [Program.runs_on, Manager.giveBack, Manager.onPool, Program.runs_within]
  exact Pool.runs_release_of_lent lent

/-- Finding the exchange and publishing to it asks for just that. -/
theorem runs_body {r : Except Error Unit}
    (h : (do
      ask (.findExchange c x.exchange)
      ask (.publish c x.exchange x.routingKey x.message) : Act Client Unit).Runs Client.undisturbed
        .whole s asked r s') :
    (∀ a ∈ asked, x.Attempts a.request) ∧ asked.countP delivers = deliveries r ∧
      s'.manager = s.manager := by
  obtain ⟨e, found, rfl⟩ | ⟨_, s₁, _, _, rfl, found, published⟩ := Program.runs_seq.mp h
  · obtain ⟨rfl, same, -⟩ := Program.runs_perform.mp found
    exact ⟨by simpa using .findExchange c, rfl, same⟩
  · obtain ⟨rfl, same, -⟩ := Program.runs_perform.mp found
    obtain ⟨rfl, same', -⟩ := Program.runs_perform.mp published
    refine ⟨?_, by cases r <;> rfl, same'.trans same⟩
    simpa using ⟨.findExchange c, .publish c⟩

/-- An attempt delivers the message just when it succeeds, and what it has lent it has taken back in
the end. -/
theorem runs_sendOnce {r : Except Error Unit} (ready : s.Ready)
    (h : (sendOnce Client.managerPart x).Runs Client.undisturbed .whole s asked r s') :
    (∀ a ∈ asked, x.Attempts a.request) ∧ asked.countP delivers = deliveries r ∧ s.Grown s' := by
  obtain ⟨e, failed, rfl⟩ | ⟨c, s₁, asked₁, _, rfl, borrowed, h⟩ := Program.runs_seq.mp h
  · obtain ⟨asks, none, ⟨_, -, same⟩ | ⟨_, _, lent, -⟩⟩ := runs_borrow ready failed
    · exact ⟨asks, none, .same same⟩
    · cases lent
  · obtain ⟨asks₁, none, ⟨_, failed, -⟩ | ⟨_, s₀, lent, grown, unlent, manager⟩⟩ :=
      runs_borrow (x := x) ready borrowed
    · cases failed
    · cases lent
      obtain ⟨r', s₂, asked₂, asked₃, rfl, sent, back⟩ := Program.runs_ensuring.mp h
      obtain ⟨asks₂, one, same⟩ := runs_body sent
      have lent : c ∈ s₂.pool.inUse := by
        simp only [Client.pool, same, manager]
        exact Pool.mem_inUse_lend
      simp only [runs_giveBack lent] at back
      obtain ⟨_, ⟨-, failed, -⟩, -⟩ | ⟨⟨rfl, -, rfl⟩, rfl⟩ := back
      · cases failed
      · rw [List.append_nil]
        refine ⟨List.forall_mem_append.mpr ⟨asks₁, asks₂⟩, ?_, grown.of_eq ?_⟩
        · rw [List.countP_append, none, one, Nat.zero_add]
        · have restored : (s₀.manager.pool.lend c).takeBack c = s₀.manager.pool :=
            Pool.takeBack_lend unlent
          simp only [same, manager, restored]

/-! ### Any number of attempts -/

/-- What is noted of sending a message: attempts, and waits while the pool has grown at most, which
it also has at the end. So many messages have been sent. -/
structure Sent (x : Sending) (s : Client) (asked : List (Exchange requests Client)) (count : Nat)
    (s' : Client) : Prop where
  asks : ∀ a ∈ asked, x.Attempts a.request ∨
    (∃ delay, a.request = .sleep delay) ∧ s.Grown a.before ∧ s.Grown a.after
  delivered : asked.countP delivers = count
  grown : s.Grown s'

theorem sent_of_attempt {r : Except Error Unit} (ready : s.Ready)
    (h : (sendOnce Client.managerPart x).Runs Client.undisturbed .whole s asked r s') :
    Sent x s asked (deliveries r) s' :=
  have ⟨asks, delivered, grown⟩ := runs_sendOnce ready h
  ⟨fun a ha => .inl (asks a ha), delivered, grown⟩

theorem sent_of_wait {delay : Float} {reply : Except Error Unit}
    (h : Client.undisturbed (.sleep delay) s asked reply s') : Sent x s asked 0 s' := by
  obtain ⟨rfl, same, -⟩ := h
  refine ⟨fun a ha => ?_, rfl, .same same⟩
  obtain rfl := List.mem_singleton.mp ha
  exact .inr ⟨⟨delay, rfl⟩, .same rfl, .same same⟩

/-- The pool does not grow a second time. -/
theorem Sent.trans {count count' : Nat} (ready : s.Ready) (first : Sent x s asked₁ count s₁)
    (second : Sent x s₁ asked₂ count' s') : Sent x s (asked₁ ++ asked₂) (count + count') s' where
  asks a ha := by
    obtain ha | ha := List.mem_append.mp ha
    · exact first.asks a ha
    · obtain attempt | ⟨sleep, before, after⟩ := second.asks a ha
      · exact .inl attempt
      · exact .inr ⟨sleep, first.grown.trans ready before, first.grown.trans ready after⟩
  delivered := by rw [List.countP_append, first.delivered, second.delivered]
  grown := first.grown.trans ready second.grown

/-- Whatever comes of the attempts and of the waits, the message is delivered once if the last
attempt succeeds, and else not at all. -/
theorem sent_of_tried {schedule : Retry.Schedule} {retries n : Nat} {tries : List Retry.Try}
    {result : Except Error Unit} (ready : s.Ready)
    (course : schedule.Course retries n tries result)
    (h : Retry.Tried Client.undisturbed .whole (fun _ => sendOnce Client.managerPart x) n tries s
      asked s') : Sent x s asked (deliveries result) s' := by
  induction course generalizing s asked with
  | succeeded | cancelled | exhausted | undelayed =>
    have attempt := sent_of_attempt ready (Retry.tried_single.mp h)
    exact attempt
  | interrupted =>
    obtain ⟨s₁, asked₁, _, rfl, runs, s₂, asked₂, _, rfl, served, rfl, rfl⟩ := h
    rw [List.append_nil]
    exact (sent_of_attempt ready runs).trans ready (sent_of_wait served)
  | again _ _ _ _ ih =>
    obtain ⟨s₁, asked₁, _, rfl, runs, s₂, asked₂, asked₃, rfl, served, tried⟩ := h
    have attempt := sent_of_attempt ready runs
    have waited := attempt.trans ready (sent_of_wait served)
    have rest := waited.trans ready (ih (ready.of_grown waited.grown) tried)
    rw [List.append_assoc] at rest
    simpa [deliveries] using rest

theorem sent_of_runs {schedule : Retry.Schedule} {result : Except Error Unit} (ready : s.Ready)
    (h : (send Client.managerPart schedule x).Runs Client.undisturbed .whole s asked result s') :
    Sent x s asked (deliveries result) s' := by
  obtain ⟨tries, tried, course⟩ :=
    (Retry.runs_retrying (Nat.sub_zero x.maxRetries).symm).mp (Retry.runs_sendFrom.mp h)
  exact sent_of_tried ready course tried

end Publisher

/-! ### What is published -/

/-- The message that a request publishes, if it publishes one. -/
def Broker.Request.published? : Request → Option Message
  | .publish _ _ _ m => some m
  | _ => none

namespace Publisher

variable {x : Sending} {s s' : Client} {asked : List (Exchange requests Client)}
  {other : (r : Request) → Except Error r.Reply → Client → Client → Prop}

/-- The pool of a manager publishes nothing. -/
theorem unpublished_onPool {α : Type} {p : Channel.Pool.Act α} {part : Lens Client Manager}
    {r : Except Error α} (h : (Manager.onPool p).Runs (.noted requests other) part s asked r s') :
    ∀ a ∈ asked, a.request.published? = none := by
  rw [Manager.onPool, Program.runs_within] at h
  refine h.forall_asked fun r w asked reply w' served => ?_
  cases r with
  | openChannel =>
    simp only [Program.servedBy, Manager.servePool, Program.runs_state_seq] at served
    split at served
    · obtain ⟨rfl, -⟩ := Program.runs_perform.mp served
      simp [Request.published?]
    · obtain ⟨rfl, -, -⟩ := Program.runs_fail.mp served
      exact List.forall_mem_nil _
  | closeChannel | closeChannels =>
    obtain ⟨rfl, -⟩ := Program.runs_perform.mp served
    simp [Request.published?]

theorem unpublished_borrow {r : Except Error ChannelId}
    (h : (Manager.borrow.on Client.managerPart).Runs (.noted requests other) .whole s asked r s') :
    ∀ a ∈ asked, a.request.published? = none := by
  rw [Program.runs_on, Manager.borrow, Program.runs_state_seq] at h
  split at h
  · exact unpublished_onPool h
  · obtain ⟨rfl, -, -⟩ := Program.runs_fail.mp h
    exact List.forall_mem_nil _

/-- An attempt publishes only the message. -/
theorem published_sendOnce {r : Except Error Unit}
    (h : (sendOnce Client.managerPart x).Runs (.noted requests other) .whole s asked r s') :
    ∀ a ∈ asked, ∀ m ∈ a.request.published?, m = x.message := by
  have nothing {asked : List (Exchange requests Client)}
      (h : ∀ a ∈ asked, a.request.published? = none) :
      ∀ a ∈ asked, ∀ m ∈ a.request.published?, m = x.message := fun a ha m hm => by
    rw [h a ha] at hm
    cases hm
  obtain ⟨e, failed, rfl⟩ | ⟨c, s₁, _, _, rfl, lent, h⟩ := Program.runs_seq.mp h
  · exact nothing (unpublished_borrow failed)
  · obtain ⟨_, s₂, _, _, rfl, sent, back⟩ := Program.runs_ensuring.mp h
    refine List.forall_mem_append.mpr ⟨nothing (unpublished_borrow lent),
      List.forall_mem_append.mpr ⟨?_, nothing ?_⟩⟩
    · obtain ⟨e, found, rfl⟩ | ⟨_, s₁, _, _, rfl, found, published⟩ := Program.runs_seq.mp sent
      · obtain ⟨rfl, -⟩ := Program.runs_perform.mp found
        simp [Request.published?]
      · obtain ⟨rfl, -⟩ := Program.runs_perform.mp found
        obtain ⟨rfl, -⟩ := Program.runs_perform.mp published
        simp [Request.published?]
    · simp only [Program.runs_on] at back
      obtain ⟨_, back, -⟩ | ⟨back, -⟩ := back
      · exact unpublished_onPool back
      · exact unpublished_onPool back

/-- Sending a message publishes only this one. -/
theorem published_send {schedule : Retry.Schedule} {r : Except Error Unit}
    (h : (send Client.managerPart schedule x).Runs (.noted requests other) .whole s asked r s') :
    ∀ a ∈ asked, ∀ m ∈ a.request.published?, m = x.message := by
  obtain ⟨tries, tried, -⟩ :=
    (Retry.runs_retrying (Nat.sub_zero x.maxRetries).symm).mp (Retry.runs_sendFrom.mp h)
  refine tried.forall_asked published_sendOnce ?_
  rintro delay w asked r w' ⟨rfl, -⟩
  simp [Request.published?]

end Publisher

/-! ### Publications -/

/-- What a publisher can be asked to publish. -/
inductive Publication
  | event (event : Envelope) (options : PublishOptions)
  | bytes (exchange routingKey : String) (body : ByteArray) (contentType : String)
    (headers : List (String × Json)) (options : PublishOptions)

namespace Publication

/-- The program that publishes it. -/
def program (p : Publisher) : Publication → Act Client Unit
  | .event e o => p.publish Client.managerPart e o
  | .bytes exchange routingKey body contentType headers o =>
    p.publishBytes Client.managerPart exchange routingKey body contentType headers o

/-- The message with its exchange, its routing key and its retries. -/
def sending (p : Publisher) : Publication → Except Error Publisher.Sending
  | .event e o => do
    return ⟨p.exchange, e.eventType, ← Message.ofEnvelope e o, o.maxRetries.toNat⟩
  | .bytes exchange routingKey body contentType headers o => do
    return ⟨exchange, routingKey, ← Message.ofBytes body contentType headers o, o.maxRetries.toNat⟩

/-- A publication is the sending of a message, if the message can be made. -/
theorem runs_program {p : Publisher} {x : Publication} {A ω : Type} {service : Service requests A ω}
    {part : Lens ω Client} {w w' : ω} {asked : List A} {result : Except Error Unit} :
    (x.program p).Runs service part w asked result w' ↔
      match x.sending p with
      | .ok y =>
        (Publisher.send Client.managerPart p.schedule y).Runs service part w asked result w'
      | .error e => asked = [] ∧ result = .error e ∧ w' = w := by
  cases x with
  | event e o =>
    rw [program, Publisher.publish, Program.runs_log_seq, sending]
    cases Message.ofEnvelope e o with
    | error => rfl
    | ok message => exact Program.runs_seq_log.trans Program.runs_inSpan
  | bytes exchange routingKey body contentType headers o =>
    rw [program, Publisher.publishBytes, sending]
    cases Message.ofBytes body contentType headers o <;> rfl

/-- A publication publishes only its message, whatever comes of its requests. -/
theorem published_of_run (env : Client.Surroundings) {p : Publisher} {x : Publication}
    {y : Publisher.Sending} (made : x.sending p = .ok y) (w : Client.Course) : ∃ asked,
    ((x.program p).run env.host Course.statePart w).2.exchanges = w.exchanges ++ asked ∧
      ∀ a ∈ asked, ∀ m ∈ a.request.published?, m = y.message := by
  obtain ⟨asked, grown, runs⟩ :=
    @Program.runs_of_noted _ _ _ env (fun _ _ _ _ => True) (fun _ _ => trivial) (x.program p) w
  rw [runs_program, made] at runs
  exact ⟨asked, grown, Publisher.published_send runs⟩

end Publication

/-- What is noted of publishing, if the message with its exchange and routing key is this one: no
message can be made, or it is sent, and this once if publishing succeeds, and else not at all. -/
inductive Published (s : Client) : Except Error Publisher.Sending →
    List (Exchange requests Client) → Except Error Unit → Client → Prop
  | unmade {e} : Published s (.error e) [] (.error e) s
  | sent {x asked result s'} (h : Publisher.Sent x s asked (Publisher.deliveries result) s') :
    Published s (.ok x) asked result s'

namespace Publication

/-- Whatever comes of its requests, publishing lends no channel for longer than an attempt: during
every wait and at the end just the channels are lent that were lent before, and the pool has all its
channels in their order, with one more at most. Every attempt sends the same message to the same
place, and one of them succeeds in this if publishing does, and else none. -/
theorem keeps_pool (env : Client.Surroundings) (p : Publisher) (x : Publication)
    (w : Client.Course)
    (undisturbed : ∀ w r, Client.Undisturbed r (env w r).1 w.state (env w r).2)
    (connected : w.state.manager.connection.isSome)
    (lends : w.state.pool.inUse ⊆ w.state.pool.channels) : ∃ asked,
    ((x.program p).run env.host Course.statePart w).2.exchanges = w.exchanges ++ asked ∧
      Published w.state (x.sending p) asked ((x.program p).run env.host Course.statePart w).1
        ((x.program p).run env.host Course.statePart w).2.state := by
  obtain ⟨asked, grown, runs⟩ := Program.runs_of_noted undisturbed (x.program p) w
  refine ⟨asked, grown, ?_⟩
  rw [runs_program] at runs
  cases made : x.sending p with
  | error e =>
    rw [made] at runs
    obtain ⟨rfl, failed, same⟩ := runs
    rw [failed, same]
    exact .unmade
  | ok y =>
    rw [made] at runs
    exact .sent (Publisher.sent_of_runs ⟨connected, lends⟩ runs)

/-- A broker that has one channel to open and drops the first message. -/
def droppingFirst : Client.Surroundings := fun w r =>
  (match r with
    | .openChannel _ =>
      if ⟨2⟩ ∈ w.state.pool.channels then .error (.fault .runtime "no more channels") else .ok ⟨2⟩
    | .publish .. => if w.exchanges.length < 3 then .error (.fault .runtime "dropped") else .ok ()
    | r => .ok r.granted, w.state)

/-- A client whose only channel is lent. -/
def lentOut : Client.Course where
  state := {
    manager := { (default : Manager) with
      connection := some ⟨0⟩
      pool := { size := 1, channels := [⟨1⟩], inUse := [⟨1⟩] } }
    consumers := fun _ => .create { queueName := "orders" }
    registries := fun _ => {}
    closed := fun _ => false }

/-- A publisher of orders. -/
def orderPublisher : Publisher where
  exchange := "shop.events"

/-- An order that is sent again once if need be. -/
def retriedOrder : Publication :=
  .bytes "shop.events" "order.placed" "ship".toUTF8 "text/plain" [] { maxRetries := 1 }

/-- Both attempts use the channel that the first of them has added to the pool. -/
theorem keeps_pool_lentOut :
    (∀ w r, Client.Undisturbed r (droppingFirst w r).1 w.state (droppingFirst w r).2) ∧
    lentOut.state.pool.inUse ⊆ lentOut.state.pool.channels ∧
    ((retriedOrder.program orderPublisher).run droppingFirst.host Course.statePart
      lentOut).2.state.pool.channels = [⟨1⟩, ⟨2⟩] ∧
    ∃ asked,
      ((retriedOrder.program orderPublisher).run droppingFirst.host Course.statePart
        lentOut).2.exchanges = lentOut.exchanges ++ asked ∧
      Published lentOut.state (retriedOrder.sending orderPublisher) asked
        ((retriedOrder.program orderPublisher).run droppingFirst.host Course.statePart lentOut).1
        ((retriedOrder.program orderPublisher).run droppingFirst.host Course.statePart
          lentOut).2.state := by
  have undisturbed (w : Client.Course) (r : Request) :
      Client.Undisturbed r (droppingFirst w r).1 w.state (droppingFirst w r).2 := by
    refine ⟨rfl, ?_⟩
    cases r with
    | openChannel k =>
      simp only [droppingFirst]
      split <;> simp_all [Request.opens]
    | _ =>
      intro c hc
      cases hc
  have lends : lentOut.state.pool.inUse ⊆ lentOut.state.pool.channels := List.Subset.refl _
  exact ⟨undisturbed, lends, by decide +kernel,
    keeps_pool droppingFirst orderPublisher retriedOrder lentOut undisturbed rfl lends⟩

end Publication

end BrokerClient
