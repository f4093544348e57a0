import BrokerClient.Proofs.Consuming
import Mathlib.Data.List.Induction

/-!
# Consumers that start again

A manager connects and disconnects, and its consumers start and stop, one operation after the other
and each with whatever failures. A disconnection forgets the consumer channels whether they could be
closed or not, while a consumer asks its own channel whether it is closed. So the two may disagree:
a consumer clings to a channel that the manager has closed, as far as it knows, if the close has
failed. Such a consumer takes itself to be consuming, and to start it again does nothing.

This is the only disagreement. A start that returns leaves any other consumer consuming on a channel
that the manager tracks and that has been opened on its connection.

## Main definitions

* `Client.Operation.isLifecycle` — the operations in question.
* `Client.OpenedOn`, `Client.CreatedBy` — where a channel has been opened, and by whom.
* `Client.Clinging` — a consumer consumes on a channel whose close has failed.
* `Client.Attached` — a consumer has the channel that it should have.
* `Client.Tended` — what is known of consumers and their channels between operations.

## Main results

* `Client.tended_after` — what is known after operations.
* `Client.start_attaches_iff` — where a consumer that has started consumes.
-/

namespace BrokerClient

open Broker Channel Connection

namespace Client

/-- Whether an operation connects, disconnects, starts or stops. -/
def Operation.isLifecycle : Operation → Bool
  | connect | disconnect | start .. | stop .. => true
  | _ => false

/-- A channel has been opened on a connection. -/
def OpenedOn (w : Client.Course) (k : ConnectionId) (c : ChannelId) : Prop :=
  ⟨.openChannel k, .ok c⟩ ∈ w.answers

/-- A channel has been created by a consumer: it was opened while the consumer started. -/
def CreatedBy (env : Client.Surroundings) (start : Client) (operations : List Operation) (i : Nat)
    (c : ChannelId) : Prop :=
  ∃ before r later, operations = before ++ .start i r :: later ∧
    c ∈ opened (after env start (before ++ [.start i r])) ∧ c ∉ opened (after env start before)

/-- A consumer consumes on a channel on which `close` has been called: the close has failed. -/
def Clinging (w : Client.Course) (i : Nat) : Prop :=
  (w.state.consumers i).isConsuming w.state.closed ∧
    ∃ d, (w.state.consumers i).channel = some d ∧ d.channel ∈ closeCalls w

theorem exists_channel_of_isConsuming {c : Consumer} {closed : ChannelId → Bool}
    (consuming : c.isConsuming closed) : ∃ d, c.channel = some d := by
  cases has : c.channel with
  | some d => exact ⟨d, rfl⟩
  | none => simp [Consumer.isConsuming, has] at consuming

theorem clinging_iff {w : Client.Course} {i : Nat} {d : ConsumerChannel}
    (has : (w.state.consumers i).channel = some d)
    (consuming : (w.state.consumers i).isConsuming w.state.closed) :
    Clinging w i ↔ d.channel ∈ closeCalls w := by
  simp [Clinging, consuming, has]

/-- A channel is the one that a consumer should have: the manager tracks it, it has been opened on
the connection of the manager, and no other channel that the consumer has created is tracked. -/
structure Attached (created : ChannelId → Prop) (w : Client.Course) (c : ChannelId) : Prop where
  tracked : c ∈ w.state.manager.tracked
  current : ∃ k, w.state.manager.connection = some k ∧ OpenedOn w k c
  single : ∀ e ∈ w.state.manager.tracked, created e → e = c

section History

variable {env : Client.Surroundings} {start : Client} {operations : List Operation} {o : Operation}
  {i : Nat} {c : ChannelId}

theorem after_concat : after env start (operations ++ [o]) =
    performed env (after env start operations) o := by
  simp [after]

theorem not_createdBy_nil : ¬ CreatedBy env start [] i c := by
  rintro ⟨before, r, later, eq, -⟩
  simp at eq

/-- Only the start of a consumer creates a channel of it. -/
theorem createdBy_concat_iff : CreatedBy env start (operations ++ [o]) i c ↔
    CreatedBy env start operations i c ∨ (∃ r, o = .start i r) ∧
      c ∈ opened (performed env (after env start operations) o) ∧
      c ∉ opened (after env start operations) := by
  constructor
  · rintro ⟨before, r, later, eq, new, fresh⟩
    obtain ⟨rfl, rfl, -⟩ | ⟨later, -, rfl⟩ := concat_eq_append_cons_iff.mp eq
    · exact .inr ⟨⟨r, rfl⟩, after_concat ▸ new, fresh⟩
    · exact .inl ⟨before, r, later, rfl, new, fresh⟩
  · rintro (⟨before, r, later, rfl, new, fresh⟩ | ⟨⟨r, rfl⟩, new, fresh⟩)
    · exact ⟨before, r, later ++ [o], by simp, new, fresh⟩
    · exact ⟨operations, r, [], rfl, after_concat ▸ new, fresh⟩

end History

/-! ### Courses that go on -/

section Grown

variable {env : Client.Surroundings} {w w' : Client.Course} {asked : List (Answer requests)}
  {c : ChannelId} {k : ConnectionId}

theorem mem_opened_of_grown (grown : w'.answers = w.answers ++ asked) (h : c ∈ opened w) :
    c ∈ opened w' := by
  rw [opened, told_eq_gather] at h ⊢
  rw [grown, Answer.gather_append]
  exact List.mem_append_left _ h

theorem mem_closeCalls_of_grown (grown : w'.answers = w.answers ++ asked) (h : c ∈ closeCalls w) :
    c ∈ closeCalls w' := by
  rw [closeCalls, told_eq_gather] at h ⊢
  rw [grown, Answer.gather_append]
  exact List.mem_append_left _ h

theorem OpenedOn.of_grown (grown : w'.answers = w.answers ++ asked) (h : OpenedOn w k c) :
    OpenedOn w' k c := by
  rw [OpenedOn, grown]
  exact List.mem_append_left _ h

/-- An operation runs the requests by which the course goes on. -/
theorem runs_performed (henv : Attentive env) (w : Client.Course) (o : Operation) :
    ∃ asked, (performed env w o).answers = w.answers ++ asked ∧
      o.program.Runs attended .whole w.state asked
        (o.program.run env.host Course.statePart w).1 (performed env w o).state :=
  runs_of_attentive henv o.program w

/-- What an operation opens has not been opened before. -/
theorem fresh_of_performed (henv : Faithful env) {o : Operation}
    (grown : (performed env w o).answers = w.answers ++ asked) (h : c ∈ Answer.opened asked) :
    c ∉ opened w := by
  have past (f : Client → Client) (w : Client.Course) :
      (Course.statePart.modify f w).past = w.past :=
    rfl
  obtain ⟨new, eq, -, fresh⟩ := opens_new henv past o.program w
  have told : new = Answer.opened asked := by
    change opened (performed env w o) = _ at eq
    rw [opened, told_eq_gather, told_eq_gather, grown, Answer.gather_append] at eq
    exact (List.append_cancel_left eq).symm
  exact fresh c (told ▸ h)

end Grown

/-! ### What a ledger tells of tracked channels -/

namespace Holding

variable {w w' : Client.Course} {asked : List (Answer requests)} {c : ChannelId}

theorem mem_opened_iff (h : Holding [] w) : c ∈ opened w ↔
    (c ∈ w.state.manager.pool.channels ∨ c ∈ w.state.manager.tracked) ∨ c ∈ closeCalls w := by
  rw [h.channels_perm.mem_iff]
  simp [Ledger.hold, Manager.ledger, Manager.tracked, or_assoc]

/-- A tracked channel is not in the pool, and `close` has not been called on it. -/
theorem of_tracked (h : Holding [] w) (tracked : c ∈ w.state.manager.tracked) :
    c ∉ w.state.manager.pool.channels ∧ c ∉ closeCalls w := by
  have nodup := h.channels_perm.nodup h.channels_nodup
  simp only [Ledger.hold, Manager.ledger, List.append_nil] at nodup
  obtain ⟨held, -, apart⟩ := List.nodup_append.mp nodup
  obtain ⟨-, -, apart'⟩ := List.nodup_append.mp held
  exact ⟨fun pooled => apart' c pooled c tracked rfl,
    fun closed => apart c (List.mem_append_right _ tracked) c closed rfl⟩

/-- A channel that is tracked no more has been closed, unless it has come into the pool. -/
theorem tracked_or_closed (h : Holding [] w) (h' : Holding [] w')
    (grown : w'.answers = w.answers ++ asked)
    (pool : ∀ c ∈ w'.state.manager.pool.channels,
      c ∈ w.state.manager.pool.channels ∨ c ∉ opened w)
    (known : c ∈ w.state.manager.tracked ∨ c ∈ closeCalls w) :
    c ∈ w'.state.manager.tracked ∨ c ∈ closeCalls w' := by
  obtain tracked | closed := known
  · have was : c ∈ opened w := h.mem_opened_iff.mpr (.inl (.inr tracked))
    obtain (pooled | tracked') | closed := h'.mem_opened_iff.mp (mem_opened_of_grown grown was)
    · obtain old | new := pool c pooled
      · exact absurd old (h.of_tracked tracked).1
      · exact absurd was new
    · exact .inl tracked'
    · exact .inr closed
  · exact .inr (mem_closeCalls_of_grown grown closed)

end Holding

/-! ### What is known between operations -/

/-- What is known of consumers and their channels, given who has created which. -/
structure Tended (created : Nat → ChannelId → Prop) (w : Client.Course) : Prop where
  holding : Holding [] w
  idle : w.state.manager.connection = none → w.state.manager.phase = .disconnected
  /-- What is tracked has been opened on the connection of the manager. -/
  current : ∀ c ∈ w.state.manager.tracked, ∃ k, w.state.manager.connection = some k ∧
    OpenedOn w k c
  /-- What a consumer has created is its own channel, as long as it is tracked. -/
  own : ∀ i c, created i c → c ∈ w.state.manager.tracked →
    ∃ d, (w.state.consumers i).channel = some d ∧ d.channel = c
  /-- The channel of a consumer is tracked, or its close has been asked for. -/
  kept : ∀ i d, (w.state.consumers i).channel = some d →
    d.channel ∈ w.state.manager.tracked ∨ d.channel ∈ closeCalls w
  known : ∀ i c, created i c → c ∈ opened w

namespace Tended

variable {created created' : Nat → ChannelId → Prop} {w w' : Client.Course}
  {asked : List (Answer requests)} {i : Nat}

/-- The channel of a consumer is the one that it should have if it is tracked. -/
theorem attached_iff (h : Tended created w) {d : ConsumerChannel}
    (has : (w.state.consumers i).channel = some d) :
    Attached (created i) w d.channel ↔ d.channel ∈ w.state.manager.tracked := by
  refine ⟨fun attached => attached.tracked, fun tracked => ⟨tracked, h.current _ tracked, ?_⟩⟩
  intro c hc by_i
  obtain ⟨d', has', rfl⟩ := h.own i c by_i hc
  rw [has] at has'
  cases has'
  rfl

/-- A consumer that consumes does so on a tracked channel unless it clings to another one. -/
theorem tracked_iff_not_clinging (h : Tended created w) {d : ConsumerChannel}
    (has : (w.state.consumers i).channel = some d)
    (consuming : (w.state.consumers i).isConsuming w.state.closed) :
    d.channel ∈ w.state.manager.tracked ↔ ¬ Clinging w i := by
  rw [clinging_iff has consuming]
  exact ⟨fun tracked => (h.holding.of_tracked tracked).2, (h.kept i d has).resolve_right⟩

/-- A client at rest. -/
theorem start {settings : Settings} {s : Client} (made : Manager.create settings = .ok s.manager)
    (new : ∀ i, (s.consumers i).channel = none) (none : ∀ i c, ¬ created i c) :
    Tended created { state := s } := by
  have ledger := Manager.ledger_of_create made
  have untracked : s.manager.tracked = [] :=
    (List.append_eq_nil_iff.mp (congrArg Ledger.channels ledger)).2
  constructor
  · unfold Holding
    rw [ledger]
    exact ⟨.nil, .nil, .nil, .nil⟩
  · exact fun _ => (Manager.resting_of_create made).phase
  · simp [untracked]
  · exact fun i c h => absurd h (none i c)
  · simp [new]
  · exact fun i c h => absurd h (none i c)

/-- Nothing is done to the manager and to the consumers. -/
theorem unchanged (h : Tended created w) (manager : w'.state.manager = w.state.manager)
    (consumers : w'.state.consumers = w.state.consumers) (answers : w'.answers = w.answers)
    (holding : Holding [] w') (subset : ∀ i c, created' i c → created i c) :
    Tended created' w' := by
  have grown : w'.answers = w.answers ++ [] := by rw [answers, List.append_nil]
  constructor
  · exact holding
  · exact manager ▸ h.idle
  · rw [manager]
    intro c tracked
    obtain ⟨k, connected, opens⟩ := h.current c tracked
    exact ⟨k, connected, opens.of_grown grown⟩
  · rw [manager, consumers]
    exact fun i c made => h.own i c (subset i c made)
  · rw [manager, consumers]
    exact fun i d has => (h.kept i d has).imp_right (mem_closeCalls_of_grown grown)
  · exact fun i c made => mem_opened_of_grown grown (h.known i c (subset i c made))

/-- The manager tracks nothing in the end, and the consumers are as they were. -/
theorem cleared (h : Tended created w) (holding : Holding [] w')
    (grown : w'.answers = w.answers ++ asked) (subset : ∀ i c, created' i c → created i c)
    (consumers : w'.state.consumers = w.state.consumers)
    (idle : w'.state.manager.connection = none → w'.state.manager.phase = .disconnected)
    (untracked : w'.state.manager.tracked = [])
    (pool : ∀ c ∈ w'.state.manager.pool.channels,
      c ∈ w.state.manager.pool.channels ∨ c ∉ opened w) : Tended created' w' where
  holding := holding
  idle := idle
  current c tracked := by simp [untracked] at tracked
  own i c _ tracked := by simp [untracked] at tracked
  kept i d has := by
    rw [consumers] at has
    exact h.holding.tracked_or_closed holding grown pool (h.kept i d has)
  known i c made := mem_opened_of_grown grown (h.known i c (subset i c made))

/-- Everything is torn down. -/
theorem torn {m : Manager} (h : Tended created w) (holding : Holding [] w')
    (grown : w'.answers = w.answers ++ asked) (subset : ∀ i c, created' i c → created i c)
    (consumers : w'.state.consumers = w.state.consumers) (torn : w'.state.manager = m.torn) :
    Tended created' w' := by
  refine h.cleared holding grown subset consumers ?_ ?_ ?_
  · exact fun _ => congrArg (·.phase) torn
  · exact congrArg (·.tracked) torn
  · intro c pooled
    rw [torn] at pooled
    cases pooled

/-- A consumer gives up its channel, and may come by a new one. -/
theorem turned (h : Tended created w) (holding : Holding [] w')
    (grown : w'.answers = w.answers ++ asked) (alike : w.state.manager.Alike w'.state.manager)
    (others : ∀ j ≠ i, w'.state.consumers j = w.state.consumers j)
    (mine : ∀ j c, created' j c → created j c ∨ j = i ∧ c ∈ opened w' ∧ c ∉ opened w)
    (has : ∀ d, (w'.state.consumers i).channel = some d → d.channel ∈ w'.state.manager.tracked)
    (tracked : ∀ c ∈ w'.state.manager.tracked,
      (c ∈ w.state.manager.tracked ∧ ∀ d, (w.state.consumers i).channel = some d → c ≠ d.channel) ∨
      c ∉ opened w ∧ (∃ d, (w'.state.consumers i).channel = some d ∧ d.channel = c) ∧
        ∃ k, w.state.manager.connection = some k ∧ OpenedOn w' k c) : Tended created' w' where
  holding := holding
  idle := by
    rw [alike.connection, alike.phase]
    exact h.idle
  current c hc := by
    rw [alike.connection]
    obtain ⟨old, -⟩ | ⟨-, -, new⟩ := tracked c hc
    · obtain ⟨k, connected, opens⟩ := h.current c old
      exact ⟨k, connected, opens.of_grown grown⟩
    · exact new
  own j c made hc := by
    obtain ⟨old, other⟩ | ⟨fresh, its, -⟩ := tracked c hc
    · -- the other channels that are tracked belong to other consumers
      obtain before | ⟨-, -, fresh⟩ := mine j c made
      · obtain ⟨d, hd, rfl⟩ := h.own j c before old
        by_cases same : j = i
        · subst same
          exact absurd rfl (other d hd)
        · exact ⟨d, others j same ▸ hd, rfl⟩
      · exact absurd (h.holding.mem_opened_iff.mpr (.inl (.inr old))) fresh
    · obtain before | ⟨rfl, -⟩ := mine j c made
      · exact absurd (h.known j c before) fresh
      · exact its
  kept j d hd := by
    by_cases same : j = i
    · exact .inl (has d (same ▸ hd))
    · refine h.holding.tracked_or_closed holding grown (fun c pooled => .inl ?_)
        (h.kept j d (others j same ▸ hd))
      rwa [alike.pool] at pooled
  known j c made := by
    obtain before | ⟨-, opens, -⟩ := mine j c made
    · exact mem_opened_of_grown grown (h.known j c before)
    · exact opens

end Tended

/-! ### Operations -/

section Operations

variable {env : Client.Surroundings} {created created' : Nat → ChannelId → Prop}
  {w : Client.Course} {i r : Nat}

theorem Tended.connected (henv : Attentive env) (h : Tended created w)
    (subset : ∀ i c, created' i c → created i c) :
    Tended created' (performed env w .connect) := by
  have holding := h.holding.performed henv.toFaithful .connect
  obtain ⟨asked, grown, runs⟩ := runs_performed henv w .connect
  obtain ⟨alone, regular, consumers⟩ := alone_of_runs (Program.runs_on.mp runs)
  cases connected : w.state.manager.connection with
  | some k =>
    obtain ⟨rfl, -, same⟩ :=
      Manager.runs_connect_of_connected (connected ▸ Option.isSome_some) alone
    rw [List.append_nil] at grown
    exact h.unchanged same consumers grown holding subset
  | none =>
    have untracked : w.state.manager.tracked = [] := by
      refine List.eq_nil_iff_forall_not_mem.mpr fun c tracked => ?_
      obtain ⟨k, has, -⟩ := h.current c tracked
      rw [connected] at has
      cases has
    obtain ⟨opening, c?, new, opens, ⟨ok, rfl, eq⟩ | ⟨e, closed, -, -, eq⟩⟩ :=
      Manager.runs_connect (h.idle connected) connected regular alone
    · refine h.cleared holding grown subset consumers (fun unconnected => ?_) ?_ fun c pooled => ?_
      · rw [ok] at opens
        obtain ⟨some, -⟩ := opens.complete
        rw [show c? = none from (congrArg (·.connection) eq).symm.trans unconnected] at some
        cases some
      · exact (congrArg (·.tracked) eq).trans untracked
      · rw [congrArg (·.pool.channels) eq] at pooled
        refine (List.mem_append.mp pooled).imp_right fun hc => ?_
        refine fresh_of_performed henv.toFaithful grown ?_
        rw [(Manager.opened_of_opening opens).1]
        exact List.mem_append_right _ hc
    · exact h.torn holding grown subset consumers eq

theorem Tended.disconnected (henv : Attentive env) (h : Tended created w)
    (subset : ∀ i c, created' i c → created i c) :
    Tended created' (performed env w .disconnect) := by
  have holding := h.holding.performed henv.toFaithful .disconnect
  obtain ⟨asked, grown, runs⟩ := runs_performed henv w .disconnect
  obtain ⟨alone, regular, consumers⟩ := alone_of_runs (Program.runs_on.mp runs)
  obtain ⟨closed, -, -, torn⟩ := Manager.runs_disconnect regular alone
  exact h.torn holding grown subset consumers torn

theorem Tended.stopped (henv : Attentive env) (h : Tended created w)
    (subset : ∀ i c, created' i c → created i c) :
    Tended created' (performed env w (.stop i r)) := by
  have holding := h.holding.performed henv.toFaithful (.stop i r)
  obtain ⟨asked, grown, runs⟩ := runs_performed henv w (.stop i r)
  obtain ⟨stopped, -⟩ := stopped_of_runs runs
  refine h.turned holding grown stopped.alike (fun j other => stopped.others other)
    (fun j c made => .inl (subset j c made)) (fun d hd => ?_) fun c tracked =>
      .inl (stopped.mem_tracked_iff.mp tracked)
  rw [stopped.channel] at hd
  cases hd

theorem Tended.started (henv : Attentive env) (h : Tended created w)
    (mine : ∀ j c, created' j c → created j c ∨ j = i ∧
      c ∈ opened (performed env w (.start i r)) ∧ c ∉ opened w) :
    Tended created' (performed env w (.start i r)) := by
  have holding := h.holding.performed henv.toFaithful (.start i r)
  obtain ⟨asked, grown, runs⟩ := runs_performed henv w (.start i r)
  obtain ⟨-, rfl, -, same⟩ | ⟨-, stops, begins, s₁, rfl, stopped, begun⟩ := started_of_runs runs
  · rw [List.append_nil] at grown
    refine h.unchanged (congrArg manager same) (congrArg consumers same) grown holding
      fun j c made => (mine j c made).resolve_right ?_
    rintro ⟨-, new, fresh⟩
    rw [opened, told_eq_gather, grown, ← told_eq_gather] at new
    exact fresh new
  have turned := h.turned holding grown (stopped.alike.trans begun.alike)
    (fun j other => (begun.others other).trans (stopped.others other)) mine
  have rest (c : ChannelId) (tracked : c ∈ s₁.manager.tracked) := stopped.mem_tracked_iff.mp tracked
  generalize (Program.run env.host Course.statePart (Operation.start i r).program w).1 = result
    at begun
  cases result with
  | error e =>
    obtain ⟨idle, subset⟩ := begun.of_error stopped.channel
    exact turned (by simp [idle]) fun c tracked => .inl (rest c (subset tracked))
  | ok =>
    obtain ⟨d, k, has, -, tracked, connected, opens⟩ := begun.of_ok
    have opens := List.mem_append_right stops opens
    rw [tracked, has] at turned
    refine turned (by simp) fun c hc => ?_
    obtain old | new := List.mem_append.mp hc
    · exact .inl (rest c old)
    obtain rfl := List.mem_singleton.mp new
    refine .inr ⟨fresh_of_performed henv.toFaithful grown (Answer.mem_opened opens), ⟨d, rfl, rfl⟩,
      k, stopped.alike.connection ▸ connected, ?_⟩
    rw [OpenedOn, grown]
    exact List.mem_append_right _ opens

/-- An operation other than its start does not give a consumer a channel. -/
theorem channel_of_performed (henv : Attentive env) {o : Operation} (lifecycle : o.isLifecycle)
    (other : ∀ r, o ≠ .start i r) {d : ConsumerChannel}
    (has : ((performed env w o).state.consumers i).channel = some d) :
    (w.state.consumers i).channel = some d := by
  obtain ⟨asked, -, runs⟩ := runs_performed henv w o
  cases o with
  | connect | disconnect =>
    obtain ⟨-, -, consumers⟩ := alone_of_runs (Program.runs_on.mp runs)
    exact consumers ▸ has
  | stop j r =>
    obtain ⟨stopped, -⟩ := stopped_of_runs runs
    by_cases same : i = j
    · subst same
      rw [stopped.channel] at has
      cases has
    · exact stopped.others same ▸ has
  | start j r =>
    have same : i ≠ j := fun same => other r (same ▸ rfl)
    obtain ⟨-, -, -, same⟩ | ⟨-, stops, begins, s₁, rfl, stopped, begun⟩ := started_of_runs runs
    · exact same ▸ has
    · exact ((begun.others ‹_›).trans (stopped.others ‹_›)) ▸ has
  | _ => cases lifecycle

end Operations

/-! ### Sequences of operations -/

section Sequences

variable {env : Client.Surroundings} {settings : Settings} {start : Client}
  {operations : List Operation} {i r : Nat}

/-- What is known after operations of a client that has begun at rest. -/
theorem tended_after (henv : Attentive env) (made : Manager.create settings = .ok start.manager)
    (new : ∀ i, (start.consumers i).channel = none)
    (lifecycle : ∀ o ∈ operations, o.isLifecycle) :
    Tended (CreatedBy env start operations) (after env start operations) := by
  induction operations using List.reverseRecOn with
  | nil => exact .start made new fun _ _ => not_createdBy_nil
  | append_singleton operations o ih =>
    have h := ih fun p hp => lifecycle p (List.mem_append_left _ hp)
    have last : o.isLifecycle := lifecycle o (by simp)
    have before (other : ∀ j r, o ≠ .start j r) (j : Nat) (c : ChannelId)
        (made : CreatedBy env start (operations ++ [o]) j c) : CreatedBy env start operations j c :=
      (createdBy_concat_iff.mp made).resolve_right fun ⟨⟨r, eq⟩, _⟩ => other j r eq
    rw [after_concat]
    cases o with
    | connect => exact h.connected henv (before nofun)
    | disconnect => exact h.disconnected henv (before nofun)
    | stop j r => exact h.stopped henv (before nofun)
    | start j r =>
      refine h.started henv fun j' c made => (createdBy_concat_iff.mp made).imp_right ?_
      rintro ⟨⟨r, eq⟩, new⟩
      cases eq
      exact ⟨rfl, new⟩
    | _ => cases last

/-- A consumer that has not started since a disconnection has no channel whose close has not been
asked for. -/
theorem closed_since_disconnect (henv : Attentive env)
    (made : Manager.create settings = .ok start.manager)
    (new : ∀ i, (start.consumers i).channel = none) {before later : List Operation}
    (lifecycle : ∀ o ∈ before ++ .disconnect :: later, o.isLifecycle)
    (unstarted : ∀ r, .start i r ∉ later) {d : ConsumerChannel}
    (has :
      ((after env start (before ++ .disconnect :: later)).state.consumers i).channel = some d) :
    d.channel ∈ closeCalls (after env start (before ++ .disconnect :: later)) := by
  induction later using List.reverseRecOn with
  | nil =>
    refine ((tended_after henv made new lifecycle).kept i d has).resolve_left fun tracked => ?_
    rw [after_concat] at tracked
    obtain ⟨asked, grown, runs⟩ := runs_performed henv (after env start before) .disconnect
    obtain ⟨alone, regular, -⟩ := alone_of_runs (Program.runs_on.mp runs)
    obtain ⟨closed, -, -, torn⟩ := Manager.runs_disconnect regular alone
    rw [torn] at tracked
    cases tracked
  | append_singleton later o ih =>
    rw [← List.cons_append, ← List.append_assoc] at lifecycle has ⊢
    rw [after_concat] at has ⊢
    have has' := channel_of_performed henv (lifecycle o (by simp))
      (fun r eq => unstarted r (by simp [eq])) has
    have closed := ih (fun p hp => lifecycle p (List.mem_append_left _ hp))
      (fun r hr => unstarted r (List.mem_append_left _ hr)) has'
    obtain ⟨asked, grown, -⟩ :=
      runs_performed henv (after env start (before ++ .disconnect :: later)) o
    exact mem_closeCalls_of_grown grown closed

/-- A start that returns leaves the consumer consuming, on the channel that it should have if and
only if it did not cling to another one before. After a disconnection, the channel is a new one
under the same condition. -/
theorem start_attaches_iff (henv : Attentive env)
    (made : Manager.create settings = .ok start.manager)
    (new : ∀ i, (start.consumers i).channel = none)
    (lifecycle : ∀ o ∈ operations, o.isLifecycle) :
    let w := after env start operations
    let w' := after env start (operations ++ [.start i r])
    ((Consumer.start (site i r)).run env.host Course.statePart w).1.isOk →
      ∃ d, (w'.state.consumers i).channel = some d ∧
        (w'.state.consumers i).isConsuming w'.state.closed ∧
        (Attached (CreatedBy env start (operations ++ [.start i r]) i) w' d.channel ↔
          ¬ Clinging w i) ∧
        ∀ before later, operations = before ++ .disconnect :: later →
          (∀ r, .start i r ∉ later) → (d.channel ∉ opened w ↔ ¬ Clinging w i) := by
  intro w w' succeeded
  have ended : ((Consumer.start (site i r)).run env.host Course.statePart w).1 = .ok () := by
    cases result : ((Consumer.start (site i r)).run env.host Course.statePart w).1 with
    | ok => rfl
    | error e =>
      rw [result] at succeeded
      cases succeeded
  have h : Tended (CreatedBy env start operations) w := tended_after henv made new lifecycle
  have h' : Tended (CreatedBy env start (operations ++ [.start i r])) w' := by
    refine tended_after henv made new fun o ho => ?_
    obtain old | last := List.mem_append.mp ho
    · exact lifecycle o old
    · obtain rfl := List.mem_singleton.mp last
      rfl
  obtain ⟨asked, grown, runs⟩ := runs_performed henv w (.start i r)
  rw [show Operation.program (.start i r) = Consumer.start (site i r) from rfl, ended,
    ← show w' = performed env w (.start i r) from after_concat] at runs
  obtain ⟨consuming, rfl, -, same⟩ | ⟨inactive, stops, begins, s₁, rfl, stopped, begun⟩ :=
    started_of_runs runs
  · -- the consumer has been left alone
    obtain ⟨d, has⟩ := exists_channel_of_isConsuming consuming
    have has' : (w'.state.consumers i).channel = some d := by rw [same, has]
    refine ⟨d, has', by rwa [same], ?_, fun before later eq unstarted => ?_⟩
    · rw [h'.attached_iff has', same]
      exact h.tracked_iff_not_clinging has consuming
    · subst eq
      have closed := closed_since_disconnect henv made new lifecycle unstarted has
      refine iff_of_false (not_not.mpr ?_) (not_not.mpr ((clinging_iff has consuming).mpr closed))
      exact h.holding.mem_opened_iff.mpr (.inr closed)
  · -- the consumer has begun on a new channel
    obtain ⟨d, k, has, consuming, tracked, -, opens⟩ := begun.of_ok
    have quiet : ¬ Clinging w i := fun clinging => by simp [clinging.1] at inactive
    have attached : Attached _ w' d.channel := (h'.attached_iff has).mpr (by simp [tracked])
    have fresh := fresh_of_performed henv.toFaithful grown
      (Answer.mem_opened (List.mem_append_right stops opens))
    exact ⟨d, has, consuming, iff_of_true attached quiet, fun _ _ _ _ => iff_of_true fresh quiet⟩

end Sequences

/-! ### A broker that fails to close some channels -/

/-- What a broker refuses that cannot close some channels: to close these, and to let anyone consume
on a channel that is closed. -/
def jams (stuck : ChannelId → Bool) : Client.Course → Request → Bool
  | _, .closeChannel c => stuck c
  | w, .consume c _ => w.state.closed c
  | _, _ => false

/-- A broker that numbers what it opens. A channel is closed once it has been closed, unless it is
stuck. -/
def jamming (stuck : ChannelId → Bool) : Client.Surroundings := fun w r =>
  ((numbering (jams stuck) w r).1,
    { w.state with closed := fun c => w.state.closed c || (r.closes.contains c && !stuck c) })

theorem attentive_jamming (stuck : ChannelId → Bool) : Attentive (jamming stuck) :=
  have faithful := numbering_faithful (jams stuck) fun _ _ _ => rfl
  { ordinary := faithful.ordinary
    undisturbed := fun _ _ => rfl
    new_channel := faithful.new_channel
    new_connection := faithful.new_connection
    closes_quietly := faithful.closes_quietly
    unchanged := fun _ _ => rfl
    consuming := fun w c queue tag granted => by
      cases closed : w.state.closed c with
      | true => simp [jamming, numbering, jams, closed] at granted
      | false => simp [jamming, Request.closes, closed] }

/-- A consumer starts before its manager reconnects. -/
def reconnection : List Operation :=
  [.connect, .start 0 0, .disconnect, .connect]

/-- A broker that can close all channels. -/
def smooth : Client.Surroundings :=
  jamming fun _ => false

/-- If all channels can be closed, the consumer consumes on a new one after the reconnection. -/
theorem start_attaches_reconnected :
    let w := after smooth shop reconnection
    let w' := after smooth shop (reconnection ++ [.start 0 0])
    ((Consumer.start (site 0 0)).run smooth.host Course.statePart w).1.isOk ∧
      ∃ d, (w'.state.consumers 0).channel = some d ∧
        (w'.state.consumers 0).isConsuming w'.state.closed ∧
        Attached (CreatedBy smooth shop (reconnection ++ [.start 0 0]) 0) w' d.channel ∧
        d.channel ∉ opened w := by
  have made : Manager.create shopSettings = .ok shop.manager := rfl
  have lifecycle : ∀ o ∈ reconnection, o.isLifecycle := by decide
  have succeeded : ((Consumer.start (site 0 0)).run smooth.host Course.statePart
      (after smooth shop reconnection)).1.isOk := by
    decide
  have inactive : let s := (after smooth shop reconnection).state
      (s.consumers 0).isConsuming s.closed = false := by
    decide
  intro w w'
  have quiet : ¬ Clinging w 0 := fun clinging => Bool.eq_false_iff.mp inactive clinging.1
  obtain ⟨d, has, consuming, attached, fresh⟩ := start_attaches_iff (i := 0) (r := 0)
    (attentive_jamming _) made (fun _ => rfl) lifecycle succeeded
  refine ⟨succeeded, d, has, consuming, attached.mpr quiet, ?_⟩
  exact (fresh [.connect, .start 0 0] [.connect] rfl (by simp)).mpr quiet

/-- A broker that cannot close the first channel of the consumer. -/
def jammed : Client.Surroundings :=
  jamming (· == ⟨4⟩)

/-- It is not true that a consumer that has started always consumes on a channel that the manager
tracks: a channel that could not be closed stays open, and the consumer stays with it. -/
theorem start_clings_to_jammed_channel :
    ¬ ∀ (env : Client.Surroundings) (settings : Settings) (start : Client)
      (operations : List Operation) (i r : Nat), Attentive env →
      (∀ w c, (env w (.closeChannel c)).2.closed c =
        (w.state.closed c || (env w (.closeChannel c)).1.isOk)) →
      Manager.create settings = .ok start.manager →
      (∀ i, (start.consumers i).channel = none) → (∀ o ∈ operations, o.isLifecycle) →
      let w := after env start operations
      let w' := after env start (operations ++ [.start i r])
      ((Consumer.start (site i r)).run env.host Course.statePart w).1.isOk →
        ∀ d, (w'.state.consumers i).channel = some d → d.channel ∈ w'.state.manager.tracked := by
  intro tracks
  have truthful (w : Client.Course) (c : ChannelId) : (jammed w (.closeChannel c)).2.closed c =
      (w.state.closed c || (jammed w (.closeChannel c)).1.isOk) := by
    cases stuck : c == ⟨4⟩ <;>
      simp [jammed, jamming, numbering, jams, stuck, Request.closes, Except.isOk, Except.toBool]
  have made : Manager.create shopSettings = .ok shop.manager := rfl
  have lifecycle : ∀ o ∈ reconnection, o.isLifecycle := by decide
  have succeeded : ((Consumer.start (site 0 0)).run jammed.host Course.statePart
      (after jammed shop reconnection)).1.isOk := by
    decide
  have untracked : let s := (after jammed shop (reconnection ++ [.start 0 0])).state
      (s.consumers 0).channel.map (·.channel) = some ⟨4⟩ ∧ ⟨4⟩ ∉ s.manager.tracked := by
    decide
  obtain ⟨d, has, eq⟩ := Option.map_eq_some_iff.mp untracked.1
  refine untracked.2 (eq ▸ ?_)
  exact tracks jammed shopSettings shop reconnection 0 0 (attentive_jamming _) truthful made
    (fun _ => rfl) lifecycle succeeded d has

end Client

end BrokerClient
