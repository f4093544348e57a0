import BrokerClient.Publisher
import BrokerClient.Proofs.Ownership.Manager
import BrokerClient.Proofs.Runs
import Mathlib.Data.List.MinMax

/-!
# Every channel has one owner

The operations of a manager, of publishers and of consumers are run one after the other, each to
its end, whether it fails or not. After each of them a channel that was ever opened is either in the
pool, or it is the channel of a tracked consumer channel, or `close` has been called on it; it is
just one of these, and `close` has not been called on it twice. The same holds of connections.

A cancellation may come between opening and closing, so that all this is said of courses in which no
request was cancelled. The surroundings may cancel others all the same: the course is one in tamed
surroundings, too (`Client.foldl_tamed`).

## Main definitions

* `Client.Operation`, `Client.Operation.program` — what is asked of a client.
* `Client.after` — the course of operations one after the other.
* `Client.tamed` — surroundings in which ordinary failures take the place of cancellations.

## Main results

* `Client.Holding.keeps_operation` — every operation keeps what is held.
* `Client.channels_partitioned` — every channel and every connection has one owner.
-/

namespace BrokerClient

open Broker Channel Connection

/-- A reply as it comes from a broker: nothing is cancelled, and waiting for several closes never
fails, as each of them fails quietly. -/
def Answer.Regular : Answer requests → Prop
  | ⟨.closeChannels .., reply⟩ => reply = .ok ()
  | ⟨_, reply⟩ => ∀ e, reply = .error e → e.isOrdinary

/-- An error of a request other than closing several channels is an ordinary one. -/
theorem Answer.Regular.ordinary {r : Request} {e : Error}
    (h : Answer.Regular ⟨r, .error e⟩) : e.isOrdinary := by
  cases r with
  | closeChannels => cases h
  | _ => exact h e rfl

/-- A plain refusal of a request. Waiting for several closes is not refused. -/
def Broker.Request.refused : (r : Request) → Except Error r.Reply
  | .closeChannels .. => .ok ()
  | _ => .error (.fault .runtime "refused")

namespace Client

namespace Holding

section Publishing

variable {σ α : Type} {env : Client.Surroundings} {part : Lens Client.Course σ}
  {manager : Lens σ Manager} {cs : List ChannelId}

theorem keeps_withChannel (henv : Faithful env) (at_manager : part.andThen manager = managerAt)
    {body : ChannelId → Act σ α} (h : ∀ c, (body c).Keeps env.host part (Holding cs)) :
    (Manager.withChannel manager body).Keeps env.host part (Holding cs) := by
  refine .seq (.on ?_) fun c => .ensuring (h c) (.on ?_) <;> rw [at_manager]
  · exact keeps_borrow henv
  · exact keeps_giveBack c

theorem keeps_sendFrom (henv : Faithful env) (at_manager : part.andThen manager = managerAt)
    (schedule : Retry.Schedule) (x : Publisher.Sending) (remaining number : Nat) :
    (Publisher.sendFrom manager schedule x remaining number).Keeps env.host part (Holding cs) := by
  have once : (Publisher.sendOnce manager x).Keeps env.host part (Holding cs) :=
    keeps_withChannel henv at_manager fun c =>
      .seq (keeps_ask henv rfl) fun _ => keeps_ask henv rfl
  have paused (number : Nat) :
      (Publisher.pause schedule x number : Act σ Unit).Keeps env.host part (Holding cs) :=
    .seq (.ofExcept fun _ => Retry.Schedule.backoff_ordinary) fun _ =>
      .seq (keeps_log _ _ _ _) fun _ => keeps_ask henv rfl
  induction remaining generalizing number with
  | zero =>
    rw [Publisher.sendFrom]
    refine once.attempt_seq (fun _ => .done ()) fun e ordinary => ?_
    simp only [if_pos ordinary]
    exact .seq (keeps_logFailure _ _ _ _) fun _ => .fail ordinary
  | succ remaining ih =>
    rw [Publisher.sendFrom]
    refine once.attempt_seq (fun _ => .done ()) fun e ordinary => ?_
    simp only [if_pos ordinary]
    exact .seq (keeps_logFailure _ _ _ _) fun _ => .seq (paused _) fun _ => ih _

theorem keeps_publish (henv : Faithful env) (at_manager : part.andThen manager = managerAt)
    (p : Publisher) (e : Event.Envelope) (o : PublishOptions) :
    (p.publish manager e o).Keeps env.host part (Holding cs) :=
  .seq (keeps_log _ _ _ _) fun _ =>
    .seq (.ofExcept fun _ => Message.ofEnvelope_ordinary) fun _ =>
    .seq (.inSpan (fun x _ h => h.note x) _ _ (keeps_sendFrom henv at_manager _ _ _ _)) fun _ =>
    keeps_log _ _ _ _

theorem keeps_publishBytes (henv : Faithful env) (at_manager : part.andThen manager = managerAt)
    (p : Publisher) (exchange routingKey : String) (body : ByteArray) (contentType : String)
    (headers : List (String × Json)) (o : PublishOptions) :
    (p.publishBytes manager exchange routingKey body contentType headers o).Keeps env.host part
      (Holding cs) :=
  .seq (.ofExcept fun _ => Message.ofBytes_ordinary) fun _ => keeps_sendFrom henv at_manager _ _ _ _

end Publishing

section Consuming

variable {env : Client.Surroundings} {cs : List ChannelId} {i r : Nat}

/-- What a consumer notes about itself does not change what the manager holds. -/
theorem keeps_change (f : Consumer → Consumer) :
    (Consumer.change (site i r) f).Keeps env.host Course.statePart (Holding cs) :=
  .modify fun _ h => h.state _

theorem keeps_current :
    (Consumer.current (site i r)).Keeps env.host Course.statePart (Holding cs) :=
  .read fun _ => .done _

theorem keeps_cancel (henv : Faithful env) (channel : ConsumerChannel) :
    (Consumer.cancel (site i r) channel).Keeps env.host Course.statePart (Holding cs) := by
  refine .read fun s => ?_
  dsimp only
  split
  · split
    · exact .done ()
    · exact .rescue (keeps_ask henv rfl) fun _ => .read fun _ => keeps_logFailure _ _ _ _
  · exact .done ()

theorem keeps_removeChannel (henv : Faithful env) :
    (Consumer.removeChannel (site i r)).Keeps env.host Course.statePart (Holding cs) := by
  refine .seq keeps_current fun c => ?_
  split
  · exact .on (keeps_removeConsumerChannel henv _)
  · exact .fail rfl

theorem keeps_stop (henv : Faithful env) :
    (Consumer.stop (site i r)).Keeps env.host Course.statePart (Holding cs) := by
  refine .seq keeps_current fun c => ?_
  split
  · exact .done ()
  · exact .seq (keeps_cancel henv _) fun _ => .seq (keeps_change _) fun _ =>
      .seq (keeps_removeChannel henv) fun _ => .seq (keeps_change _) fun _ =>
      .seq keeps_current fun _ => keeps_log _ _ _ _

/-- A consumer that cannot begin to consume gives its new channel up again. -/
theorem keeps_begin (henv : Faithful env) :
    (Consumer.begin (site i r)).Keeps env.host Course.statePart (Holding cs) := by
  refine .seq keeps_current fun c => .seq (.on (keeps_createConsumerChannel henv _)) fun channel =>
    .seq (keeps_change _) fun _ => .seq ?consumed fun tag => .seq (keeps_change _) fun _ =>
    .read fun _ => keeps_log _ _ _ _
  intro w h
  have asked : (ask (.consume channel.channel channel.queueName) : Act Client String).Keeps env.host
      Course.statePart (Holding cs) := keeps_ask henv rfl
  refine .rescue (M := fun e w => Holding cs w ∧ e.isOrdinary)
    ((asked w h).mono (fun _ _ h => h) fun _ _ h => ⟨h, h.2⟩) ?_
  rintro e w ⟨h, ordinary⟩
  exact (Program.Keeps.seq (keeps_removeChannel henv) fun _ => .seq (keeps_change _) fun _ =>
    .fail ordinary) w h

theorem keeps_start (henv : Faithful env) :
    (Consumer.start (site i r)).Keeps env.host Course.statePart (Holding cs) := by
  refine .read fun s => ?_
  dsimp only
  split
  · exact keeps_log _ _ _ _
  · split
    · exact .seq (keeps_stop henv) fun _ => keeps_begin henv
    · exact keeps_begin henv

end Consuming

end Holding

/-! ### Where nothing is cancelled -/

open Classical in
/-- Surroundings in which ordinary failures take the place of cancellations. -/
noncomputable def tamed (env : Client.Surroundings) : Client.Surroundings := fun w r =>
  (if Answer.Regular ⟨r, (env w r).1⟩ then (env w r).1 else r.refused, (env w r).2)

section Tamed

variable {α : Type} {env : Client.Surroundings} {w : Client.Course} {r : Request}

theorem tamed_eq (regular : Answer.Regular ⟨r, (env w r).1⟩) : tamed env w r = env w r := by
  rw [tamed, if_pos regular]

/-- What is replied in tamed surroundings is what was replied or a refusal. -/
theorem tamed_cases (env : Client.Surroundings) (w : Client.Course) (r : Request) :
    (tamed env w r).2 = (env w r).2 ∧
      (Answer.Regular ⟨r, (env w r).1⟩ ∧ (tamed env w r).1 = (env w r).1 ∨
        (tamed env w r).1 = r.refused) := by
  rw [tamed]
  split
  · exact ⟨rfl, .inl ⟨‹_›, rfl⟩⟩
  · exact ⟨rfl, .inr rfl⟩

theorem Truthful.tamed (henv : Truthful env) : Faithful (tamed env) where
  undisturbed w r := by
    rw [(tamed_cases env w r).1]
    exact henv.undisturbed w r
  new_channel w r := by
    obtain ⟨-, ⟨-, same⟩ | refused⟩ := tamed_cases env w r
    · rw [same]
      exact henv.new_channel w r
    · rw [refused]
      cases r <;> exact List.forall_mem_nil _
  new_connection w r := by
    obtain ⟨-, ⟨-, same⟩ | refused⟩ := tamed_cases env w r
    · rw [same]
      exact henv.new_connection w r
    · rw [refused]
      cases r <;> exact List.forall_mem_nil _
  ordinary w r e failed := by
    obtain ⟨-, ⟨regular, same⟩ | refused⟩ := tamed_cases env w r
    · rw [same.symm.trans failed] at regular
      exact regular.ordinary
    · rw [refused] at failed
      cases r <;> cases failed <;> rfl
  closes_quietly w purpose cs := by
    obtain ⟨-, ⟨regular, same⟩ | refused⟩ := tamed_cases env w (.closeChannels purpose cs)
    · exact same.trans regular
    · exact refused

/-- A run in which nothing is cancelled goes in the same way in tamed surroundings. -/
theorem run_tamed (p : Act Client α)
    (regular : ∀ a ∈ (p.run env.host Course.statePart w).2.answers, a.Regular) :
    p.run (tamed env).host Course.statePart w = p.run env.host Course.statePart w := by
  induction p generalizing w with
  | done a | fail e => rfl
  | read k ih => exact ih _ regular
  | update c p ih => exact ih regular
  | emit x p ih => exact ih regular
  | call r k ih =>
    have later := Program.answers_run env (k (env w r).1) (w.answer r (env w r).1 (env w r).2)
    have first : Answer.Regular ⟨r, (env w r).1⟩ := by
      refine regular _ (later.subset ?_)
      rw [Course.answers_answer]
      exact List.mem_append_right _ (List.mem_singleton_self _)
    have same := tamed_eq first
    simp only [Program.run, Surroundings.host, same]
    exact ih _ regular

/-- In faithful surroundings every reply is regular. -/
theorem regular_of_faithful (henv : Faithful env) {w : Client.Course} {a : Answer requests}
    (replied : a.reply = (env w a.request).1) : a.Regular := by
  obtain ⟨r, reply⟩ := a
  obtain rfl : reply = (env w r).1 := replied
  cases r with
  | closeChannels purpose cs => exact henv.closes_quietly w purpose cs
  | _ => exact fun e => henv.ordinary w _ e

end Tamed

/-- What is asked of a client. -/
inductive Operation
  | connect
  | disconnect
  | borrow
  | giveBack (channel : ChannelId)
  | createConsumerChannel (options : ConsumerOptions)
  | removeConsumerChannel (channel : ConsumerChannel)
  | publish (publisher : Publisher) (envelope : Event.Envelope) (options : PublishOptions)
  | publishBytes (publisher : Publisher) (exchange routingKey : String) (body : ByteArray)
      (contentType : String) (headers : List (String × Json)) (options : PublishOptions)
  /-- A consumer starts, to dispatch to a registry. -/
  | start (consumer registry : Nat)
  | stop (consumer registry : Nat)
  /-- The transport has restored a connection. -/
  | restored
  /-- The transport has lost a connection. -/
  | lost (error : Option Error)
  /-- The transport says which channels are closed. -/
  | observe (closed : ChannelId → Bool)

/-- The program of an operation. -/
def Operation.program : Operation → Act Client Unit
  | connect => Manager.connect.on managerPart
  | disconnect => Manager.disconnect.on managerPart
  | borrow => do let _ ← Manager.borrow.on managerPart
  | giveBack c => (Manager.giveBack c).on managerPart
  | createConsumerChannel o => do let _ ← (Manager.createConsumerChannel o).on managerPart
  | removeConsumerChannel c => (Manager.removeConsumerChannel c).on managerPart
  | publish p e o => p.publish managerPart e o
  | publishBytes p exchange routingKey body contentType headers o =>
    p.publishBytes managerPart exchange routingKey body contentType headers o
  | start i r => Consumer.start (site i r)
  | stop i r => Consumer.stop (site i r)
  | restored => Manager.restored.on managerPart
  | lost error => (Manager.lost error).on managerPart
  | observe closed => .modify fun s => { s with closed := closed }

/-- The course after an operation, whether it has failed or not. -/
def performed (env : Client.Surroundings) (w : Client.Course) (o : Operation) : Client.Course :=
  (o.program.run env.host Course.statePart w).2

/-- The course of operations one after the other. -/
def after (env : Client.Surroundings) (start : Client) (operations : List Operation) :
    Client.Course :=
  operations.foldl (performed env) { state := start }

section Operations

variable {env : Client.Surroundings} {cs : List ChannelId}

/-- Operations in which nothing is cancelled go in the same way in tamed surroundings. -/
theorem foldl_tamed {operations : List Operation} {w : Client.Course}
    (regular : ∀ a ∈ (operations.foldl (performed env) w).answers, a.Regular) :
    operations.foldl (performed (tamed env)) w = operations.foldl (performed env) w := by
  have grows (operations : List Operation) (w : Client.Course) :
      w.answers <+: (operations.foldl (performed env) w).answers := by
    induction operations generalizing w with
    | nil => exact List.prefix_refl _
    | cons o operations ih => exact (Program.answers_run env o.program w).trans (ih _)
  induction operations generalizing w with
  | nil => rfl
  | cons o operations ih =>
    have same : performed (tamed env) w o = performed env w o :=
      congrArg Prod.snd (run_tamed o.program fun a member =>
        regular a ((grows operations _).subset member))
    rw [List.foldl_cons, List.foldl_cons, same]
    exact ih regular

/-- An operation may fail anywhere: nothing is lost by it. -/
theorem Holding.keeps_operation (henv : Faithful env) (o : Operation) :
    o.program.Keeps env.host Course.statePart (Holding cs) := by
  cases o with
  | connect => exact .on (keeps_connect henv)
  | disconnect => exact .on (keeps_disconnect henv)
  | borrow => exact .seq (.on (keeps_borrow henv)) fun _ => .done ()
  | giveBack c => exact .on (keeps_giveBack c)
  | createConsumerChannel o =>
    exact .seq (.on (keeps_createConsumerChannel henv o)) fun _ => .done ()
  | removeConsumerChannel c => exact .on (keeps_removeConsumerChannel henv c)
  | publish p e o => exact keeps_publish henv rfl p e o
  | publishBytes p exchange routingKey body contentType headers o =>
    exact keeps_publishBytes henv rfl p exchange routingKey body contentType headers o
  | start i r => exact keeps_start henv
  | stop i r => exact keeps_stop henv
  | restored => exact .on keeps_restored
  | lost error => exact .on (keeps_lost error)
  | observe closed => exact .modify fun _ h => h.state _

theorem Holding.performed (henv : Faithful env) {w : Client.Course} (h : Holding cs w)
    (o : Operation) : Holding cs (performed env w o) :=
  ((keeps_operation henv o w h).mono (fun _ _ h => h) fun _ _ h => h.1).world

theorem Holding.after (henv : Faithful env) {start : Client} (h : Holding cs { state := start })
    (operations : List Operation) : Holding cs (after env start operations) := by
  unfold Client.after
  generalize ({ state := start } : Client.Course) = w at h ⊢
  induction operations generalizing w with
  | nil => exact h
  | cons o operations ih => exact ih _ (h.performed henv o)

/-- In faithful surroundings nothing is cancelled. -/
theorem regular_after (henv : Faithful env) (start : Client) (operations : List Operation) :
    ∀ a ∈ (after env start operations).answers, a.Regular := by
  have none : ∀ a ∈ ({ state := start } : Client.Course).answers, a.Regular :=
    List.forall_mem_nil _
  unfold after
  generalize ({ state := start } : Client.Course) = w at none ⊢
  induction operations generalizing w with
  | nil => exact none
  | cons o operations ih =>
    refine ih _ fun a member => ?_
    have others (w : Client.Course) (q) :
        Leaves (fun _ => ()) w.state (w.answer q (env w q).1 (env w q).2).state := rfl
    obtain ⟨asked, answers, replied, -⟩ :=
      Program.runs_of_run Course.stateView (fun _ => ()) others o.program w
    rw [performed, answers, List.mem_append] at member
    obtain old | new := member
    · exact none a old
    · obtain ⟨w₁, reply⟩ := replied a new
      exact regular_of_faithful henv reply

/-- After any operations in which nothing is cancelled, whatever failed in them, each channel that
was ever opened is in the pool, or tracked as a consumer channel, or `close` has been called on it,
and just one of these, and this once; and each connection is the connection of the manager, or
`close` has been called on it. -/
theorem channels_partitioned (henv : Truthful env) {settings : Settings} {start : Client}
    (created : Manager.create settings = .ok start.manager) (operations : List Operation) :
    let w := after env start operations
    let m := w.state.manager
    let channels := m.pool.channels ++ m.consumerChannels.map (·.channel) ++ closeCalls w
    let connections := m.connection.toList ++ connectionCloses w
    (∃ a ∈ w.answers, ¬ a.Regular) ∨
      channels.Nodup ∧ (opened w).Perm channels ∧
        connections.Nodup ∧ (connected w).Perm connections := by
  intro w m channels connections
  refine or_iff_not_imp_left.mpr fun none => ?_
  have regular : ∀ a ∈ w.answers, a.Regular := fun a member =>
    Classical.not_not.mp fun irregular => none ⟨a, member, irregular⟩
  have fresh : Holding [] { state := start } := by
    unfold Holding
    rw [Manager.ledger_of_create created]
    exact ⟨.nil, .nil, .nil, .nil⟩
  have held : Holding [] w := by
    have tame := fresh.after henv.tamed operations
    rwa [after, foldl_tamed regular] at tame
  simp only [Holding, Ledger.hold, List.append_nil] at held
  exact ⟨held.channels_perm.nodup held.channels_nodup, held.channels_perm,
    held.connections_perm.nodup held.connections_nodup, held.connections_perm⟩

end Operations

/-! ### A broker that numbers what it opens -/

/-- A number beyond the given ones. -/
def nextNumber (numbers : List Nat) : Nat :=
  numbers.foldr max 0 + 1

theorem not_mem_of_nextNumber {α : Type} {number : α → Nat} {a : α} {l : List α}
    (h : number a = nextNumber (l.map number)) : a ∉ l := by
  intro old
  have le : number a ≤ (l.map number).foldr max 0 :=
    List.le_max_of_le' 0 (List.mem_map_of_mem old) le_rfl
  unfold nextNumber at h
  omega

/-- A broker that numbers what it opens, and that refuses whatever it likes. -/
def numbering (refuses : Client.Course → Request → Bool) : Client.Surroundings := fun w r =>
  (if refuses w r then .error (.fault .runtime "refused")
    else match r with
      | .connect .. => .ok ⟨nextNumber ((connected w).map (·.number))⟩
      | .openChannel _ => .ok ⟨nextNumber ((opened w).map (·.number))⟩
      | r => .ok r.granted, w.state)

/-- Every pattern of refusals is one of faithful surroundings. -/
theorem numbering_faithful (refuses : Client.Course → Request → Bool)
    (quiet : ∀ w purpose cs, refuses w (.closeChannels purpose cs) = false) :
    Faithful (numbering refuses) where
  ordinary w r e h := by
    simp only [numbering] at h
    split at h
    · cases h
      rfl
    · cases r <;> cases h
  undisturbed _ _ := rfl
  new_channel w r c hc := by
    cases r with
    | openChannel connection =>
      cases refused : refuses w (.openChannel connection) with
      | true => simp [numbering, refused, Request.opens] at hc
      | false =>
        have new : c = ⟨nextNumber ((opened w).map (·.number))⟩ := by
          simpa [numbering, refused, Request.opens] using hc
        exact not_mem_of_nextNumber (congrArg (·.number) new)
    | _ => cases hc
  new_connection w r c hc := by
    cases r with
    | connect url heartbeat interval =>
      cases refused : refuses w (.connect url heartbeat interval) with
      | true => simp [numbering, refused, Request.connects] at hc
      | false =>
        have new : c = ⟨nextNumber ((connected w).map (·.number))⟩ := by
          simpa [numbering, refused, Request.connects] using hc
        exact not_mem_of_nextNumber (congrArg (·.number) new)
    | _ => cases hc
  closes_quietly w purpose cs := by
    simp [numbering, quiet]

/-- A broker that refuses to let anyone consume, and to close what it is asked to. -/
def reluctant : Client.Course → Request → Bool
  | _, .consume .. | _, .closeChannel _ | _, .closeConnection _ => true
  | _, _ => false

/-- Settings for two publisher channels. -/
def shopSettings : Settings where
  host := "localhost"
  port := 5672
  user := "guest"
  password := "guest"
  vhost := "/"
  managementPort := 15672
  channelPoolSize := 2
  heartbeat := 30
  reconnectInterval := 1
  application := "shop"
  enableTracing := false

/-- A client of a shop. -/
def shop : Client where
  manager := (Manager.create shopSettings).toOption.getD default
  consumers := fun _ => .create { queueName := "orders" }
  registries := fun _ => {}
  closed := fun _ => false

/-- A consumer channel is made, a consumer fails to start, and the pool has to grow before all is
closed and opened again. -/
def busyDay : List Operation :=
  [.connect, .createConsumerChannel { queueName := "orders" }, .start 0 0, .borrow, .borrow,
    .borrow, .disconnect, .connect]

theorem channels_partitioned_busyDay :
    let w := after (numbering reluctant) shop busyDay
    let m := w.state.manager
    Truthful (numbering reluctant) ∧ Manager.create shopSettings = .ok shop.manager ∧
      closeCalls w = [1, 5, 4, 2, 3, 6, 7].map .mk ∧
      (opened w).Perm (m.pool.channels ++ m.consumerChannels.map (·.channel) ++ closeCalls w) := by
  have faithful : Faithful (numbering reluctant) := numbering_faithful _ fun _ _ _ => rfl
  have created : Manager.create shopSettings = .ok shop.manager := rfl
  obtain ⟨a, member, irregular⟩ | ⟨-, perm, -, -⟩ :=
    channels_partitioned faithful.toTruthful created busyDay
  · exact absurd (regular_after faithful shop busyDay a member) irregular
  · exact ⟨faithful.toTruthful, created, by decide, perm⟩

end Client

end BrokerClient
