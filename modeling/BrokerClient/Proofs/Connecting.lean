import BrokerClient.Proofs.Connections
import BrokerClient.Proofs.Ownership.Operations
import BrokerClient.Proofs.Pool.Opening

/-!
# Connecting a manager that nobody else uses

Connecting dials, declares the shared exchanges on a channel of their own and fills the pool. If all
of this is granted, the manager is connected and has a full pool; otherwise the first refusal is
the error of the call, and everything that was opened is closed, once. Failures to close make no
difference.

The manager need not be new. Channels that are in its pool already, as they may be after calls that
overlapped a disconnection, stay there and are counted in, so that a pool is as large as it should
be only if it has not been too large before.

## Main definitions

* `Routing.Declared`, `Routing.Bootstrapped` — what declaring the exchanges asks for.
* `Manager.Opening` — what opening everything asks for, up to the first refusal.
* `Manager.closings` — what tearing everything down asks for.

## Main results

* `Manager.connect_opens_or_closes` — what `connect` does.
-/

namespace BrokerClient

open Broker Channel Routing

section Bootstrap

variable {σ : Type} {s s' : σ} {b : ChannelId} {c : ConnectionId} {names : ExchangeNames}
  {asked : List (Answer requests)} {result : Except Error Unit}

/-- What declaring exchanges asks for, up to the first refusal. -/
inductive Routing.Declared (b : ChannelId) :
    List ExchangeSpec → List (Answer requests) → Except Error Unit → Prop
  | all : Declared b [] [] (.ok ())
  | refused {spec specs e} : Declared b (spec :: specs)
    [⟨.declareExchange b ⟨spec.name, spec.kind, spec.durable, none, none⟩, .error e⟩] (.error e)
  | next {spec specs asked result} (rest : Declared b specs asked result) :
    Declared b (spec :: specs)
      (⟨.declareExchange b ⟨spec.name, spec.kind, spec.durable, none, none⟩, .ok ()⟩ :: asked) result

/-- What declaring the shared exchanges asks for: a channel of their own, the exchanges in order,
and the close of the channel. -/
inductive Routing.Bootstrapped (c : ConnectionId) (names : ExchangeNames) :
    List (Answer requests) → Except Error Unit → Prop
  | refused {e} : Bootstrapped c names [⟨.openChannel c, .error e⟩] (.error e)
  | opened {b asked closed result} (declared : Declared b names.specs asked result) :
    Bootstrapped c names (⟨.openChannel c, .ok b⟩ :: asked ++ [⟨.closeChannel b, closed⟩]) result

/-- A failure to declare is an ordinary one. -/
theorem Routing.Declared.ordinary {specs : List ExchangeSpec} {e : Error}
    (h : Declared b specs asked result) (regular : ∀ a ∈ asked, a.Regular)
    (failed : result = .error e) : e.isOrdinary := by
  induction h with
  | all => cases failed
  | refused =>
    cases failed
    exact (regular _ List.mem_cons_self).ordinary
  | next rest ih => exact ih (fun a ha => regular a (List.mem_cons_of_mem _ ha)) failed

theorem Routing.Bootstrapped.ordinary {e : Error} (h : Bootstrapped c names asked (.error e))
    (regular : ∀ a ∈ asked, a.Regular) : e.isOrdinary := by
  cases h with
  | refused => exact (regular _ List.mem_cons_self).ordinary
  | opened declared =>
    refine declared.ordinary (fun a ha => regular a ?_) rfl
    exact List.mem_append_left _ (List.mem_cons_of_mem _ ha)

theorem Routing.runs_declareExchange {spec : ExchangeSpec}
    (h : (declareExchange b spec : Act σ Unit).Alone s asked result s') :
    asked = [⟨.declareExchange b ⟨spec.name, spec.kind, spec.durable, none, none⟩, result⟩] ∧
      s' = s := by
  rw [declareExchange, Program.Alone, Program.runs_seq] at h
  obtain ⟨e, h, rfl⟩ | ⟨_, s₁, asked₁, _, rfl, h, rfl, rfl, rfl⟩ := h
  · exact Program.runs_perform.mp h
  · obtain ⟨rfl, rfl⟩ := Program.runs_perform.mp h
    exact ⟨rfl, rfl⟩

theorem Routing.declared_of_runs {specs : List ExchangeSpec}
    (h : (specs.forM (declareExchange b) : Act σ Unit).Alone s asked result s') :
    Declared b specs asked result ∧ s' = s := by
  induction specs generalizing asked with
  | nil =>
    obtain ⟨rfl, rfl, rfl⟩ := Program.runs_done.mp h
    exact ⟨.all, rfl⟩
  | cons spec specs ih =>
    rw [List.forM_eq_forM, List.forM_cons, Program.Alone, Program.runs_seq] at h
    obtain ⟨e, h, rfl⟩ | ⟨_, s₁, asked₁, asked₂, rfl, h, h'⟩ := h
    · obtain ⟨rfl, rfl⟩ := runs_declareExchange h
      exact ⟨.refused, rfl⟩
    · obtain ⟨rfl, rfl⟩ := runs_declareExchange h
      obtain ⟨rest, rfl⟩ := ih h'
      exact ⟨.next rest, rfl⟩

/-- What comes of closing a channel quietly: only a cancellation is raised. -/
def Channel.quietly : Except Error Unit → Except Error Bool
  | .ok () => .ok true
  | .error e => if e.isOrdinary then .ok false else .error e

/-- Closing a channel quietly asks for one close. -/
theorem Channel.closing_of_runs {purpose : String} {result : Except Error Bool}
    (h : (closeQuietly (ask (.closeChannel b)) purpose : Act σ Bool).Alone s asked result s') :
    ∃ closed, asked = [⟨.closeChannel b, closed⟩] ∧ result = quietly closed ∧ s' = s := by
  have asks {asked : List (Answer requests)} {s' : σ} {result : Except Error Bool}
      (h : ((ask (.closeChannel b)).bind fun _ => .done true : Act σ Bool).Alone s asked result s') :
      ∃ closed, asked = [⟨.closeChannel b, closed⟩] ∧ result = closed.map (fun _ => true) ∧
        s' = s := by
    rw [Program.Alone, Program.runs_bind] at h
    obtain ⟨e, h, rfl⟩ | ⟨_, s₁, asked₁, _, rfl, h, rfl, rfl, rfl⟩ := h
    · obtain ⟨rfl, rfl⟩ := Program.runs_perform.mp h
      exact ⟨.error e, rfl, rfl, rfl⟩
    · obtain ⟨rfl, rfl⟩ := Program.runs_perform.mp h
      exact ⟨.ok (), by rw [List.append_nil], rfl, rfl⟩
  obtain ⟨_, succeeded, rfl⟩ | ⟨e, failed, cancelled, rfl⟩ |
    ⟨e, s₁, asked₁, _, rfl, failed, ordinary, rfl, rfl, rfl⟩ := Program.runs_rescue.mp h
  · obtain ⟨closed, rfl, ended, rfl⟩ := asks succeeded
    cases closed <;> cases ended
    exact ⟨.ok (), rfl, rfl, rfl⟩
  · obtain ⟨closed, rfl, ended, rfl⟩ := asks failed
    cases closed <;> cases ended
    exact ⟨.error e, rfl, by simp [quietly, cancelled], rfl⟩
  · obtain ⟨closed, rfl, ended, rfl⟩ := asks failed
    cases closed <;> cases ended
    exact ⟨.error e, rfl, by simp [quietly, ordinary], rfl⟩

/-- Closing a channel quietly never fails, but for a cancellation. -/
theorem Channel.runs_closeQuietly {purpose : String} {result : Except Error Bool}
    (regular : ∀ a ∈ asked, a.Regular)
    (h : (closeQuietly (ask (.closeChannel b)) purpose : Act σ Bool).Alone s asked result s') :
    ∃ closed, asked = [⟨.closeChannel b, closed⟩] ∧ result = .ok closed.isOk ∧ s' = s := by
  obtain ⟨closed, rfl, rfl, rfl⟩ := closing_of_runs h
  refine ⟨closed, rfl, ?_, rfl⟩
  cases closed with
  | ok => rfl
  | error e => exact if_pos (regular _ List.mem_cons_self).ordinary

theorem Channel.runs_closeQuietly_seq {purpose : String} (regular : ∀ a ∈ asked, a.Regular)
    (h : (do let _ ← closeQuietly (ask (.closeChannel b)) purpose : Act σ Unit).Alone s asked result
      s') :
    ∃ closed, asked = [⟨.closeChannel b, closed⟩] ∧ result = .ok () ∧ s' = s := by
  rw [Program.Alone, Program.runs_seq] at h
  obtain ⟨e, h, rfl⟩ | ⟨_, s₁, asked₁, _, rfl, h, rfl, rfl, rfl⟩ := h
  · obtain ⟨closed, -, ended, -⟩ := runs_closeQuietly regular h
    cases ended
  · rw [List.append_nil] at regular ⊢
    obtain ⟨closed, rfl, -, rfl⟩ := runs_closeQuietly regular h
    exact ⟨closed, rfl, rfl, rfl⟩

/-- The shared exchanges are declared on a channel of their own, which is closed afterwards. -/
theorem Routing.bootstrapped_of_runs (regular : ∀ a ∈ asked, a.Regular)
    (h : (bootstrap c names : Act σ Unit).Alone s asked result s') :
    Bootstrapped c names asked result ∧ s' = s := by
  rw [bootstrap, Program.Alone, Program.runs_log_seq, Program.runs_seq] at h
  obtain ⟨e, h, rfl⟩ | ⟨b, s₁, asked₁, asked₂, rfl, h, h'⟩ := h
  · obtain ⟨rfl, rfl⟩ := Program.runs_perform.mp h
    exact ⟨.refused, rfl⟩
  · obtain ⟨rfl, rfl⟩ := Program.runs_perform.mp h
    -- what comes after the close asks for nothing and changes nothing
    have ensured : ∃ r, ((declareExchanges b names).ensuring (do
          let _ ← closeQuietly (ask (.closeChannel b)) "topology") : Act σ Unit).Alone s₁ asked₂ r
        s' ∧ result = r := by
      rw [Program.runs_seq] at h'
      obtain ⟨e, h', rfl⟩ | ⟨_, s₂, asked₃, _, rfl, h', rfl, rfl, rfl⟩ := h'
      · exact ⟨_, h', rfl⟩
      · rw [List.append_nil]
        exact ⟨_, h', rfl⟩
    obtain ⟨r, h', rfl⟩ := ensured
    rw [Program.Alone, Program.runs_ensuring] at h'
    obtain ⟨r, s₂, asked₃, asked₄, rfl, declares, closes⟩ := h'
    obtain ⟨declared, rfl⟩ := declared_of_runs declares
    have regular' : ∀ a ∈ asked₄, a.Regular := fun a ha => regular a (by simp [ha])
    obtain ⟨e, closes, rfl⟩ | ⟨closes, rfl⟩ := closes
    · obtain ⟨closed, -, ended, -⟩ := runs_closeQuietly_seq regular' closes
      cases ended
    · obtain ⟨closed, rfl, -, rfl⟩ := runs_closeQuietly_seq regular' closes
      exact ⟨.opened declared, rfl⟩

end Bootstrap

namespace Connection.Manager

variable {m m' : Manager} {c : ConnectionId} {asked : List (Answer requests)}
  {result : Except Error Unit}

/-! ### Tearing everything down -/

/-- What tearing everything down asks for: the consumer channels are closed, then the publisher
channels, then the connection, if there is one. -/
def closings (m : Manager) (closed : Except Error Unit) : List (Answer requests) :=
  ⟨.closeChannels "consumer" (m.consumerChannels.map (·.channel)), .ok ()⟩ ::
    ⟨.closeChannels "publisher" m.pool.channels, .ok ()⟩ ::
      m.connection.toList.map fun c => ⟨.closeConnection c, closed⟩

/-- A manager that has closed everything. -/
def torn (m : Manager) : Manager :=
  { m with
    phase := .disconnected
    connection := none
    consumerChannels := []
    pool := m.pool.beginClose.endClose.forget }

/-- What a disconnection asks for, and how it ends. Only a cancelled close breaks it off. -/
inductive Disconnected (m : Manager) : List (Answer requests) → Except Error Unit → Manager → Prop
  | consumers {e} : Disconnected m
    [⟨.closeChannels "consumer" (m.consumerChannels.map (·.channel)), .error e⟩] (.error e)
    { m with phase := .closing }
  | publishers {e} : Disconnected m
    [⟨.closeChannels "consumer" (m.consumerChannels.map (·.channel)), .ok ()⟩,
      ⟨.closeChannels "publisher" m.pool.channels, .error e⟩] (.error e)
    { m with phase := .closing, consumerChannels := [], pool := m.pool.beginClose.endClose }
  | connection {c e} (connected : m.connection = some c) (passes : e.isOrdinary = false) :
    Disconnected m (m.closings (.error e)) (.error e)
      { m with
        phase := .closing, consumerChannels := [], pool := m.pool.beginClose.endClose.forget }
  | finished {closed : Except Error Unit} (ordinary : ∀ e, closed = .error e → e.isOrdinary) :
    Disconnected m (m.closings closed) (.ok ()) m.torn

/-- Consumer channels are closed, and then they are forgotten. -/
theorem runs_closeConsumerChannels (h : closeConsumerChannels.Alone m asked result m') :
    asked = [⟨.closeChannels "consumer" (m.consumerChannels.map (·.channel)), result⟩] ∧
      m' = if result.isOk then { m with consumerChannels := [] } else m := by
  have closes : (do
      ask (.closeChannels "consumer" (m.consumerChannels.map (·.channel)))
      .modify fun m => { m with consumerChannels := [] } : Act Unit).Alone m asked result m' := by
    rw [closeConsumerChannels, Program.Alone, Program.runs_state_seq] at h
    dsimp only at h
    split at h <;> exact h
  rw [Program.Alone, Program.runs_seq] at closes
  obtain ⟨e, failed, rfl⟩ | ⟨_, m₁, asked₁, _, rfl, closed, rfl, rfl, rfl⟩ := closes
  · obtain ⟨rfl, rfl⟩ := Program.runs_perform.mp failed
    exact ⟨rfl, rfl⟩
  · obtain ⟨rfl, rfl⟩ := Program.runs_perform.mp closed
    exact ⟨rfl, rfl⟩

/-- Publisher channels are closed, and then they are forgotten. -/
theorem runs_closePool (h : (onPool Pool.close).Alone m asked result m') :
    asked = [⟨.closeChannels "publisher" m.pool.channels, result⟩] ∧
      m' = { m with
        pool := if result.isOk then m.pool.beginClose.endClose.forget
          else m.pool.beginClose.endClose } := by
  rw [onPool, Program.Alone, Program.runs_within, Pool.close, Program.runs_state_seq,
    Program.runs_modify_seq, Program.runs_log_seq, Program.runs_seq] at h
  -- the close is the one request, and the end of it is noted in any case
  have closes {asked' : List (Answer requests)} {r : Except Error Unit} {m₁ m₂ : Manager}
      {cs : List ChannelId}
      (h : (Program.ensuring (Pool.ask (.closeChannels cs)) (.modify Pool.endClose)).Runs
        (Program.servedBy (.direct requests (Leaves id)) .whole servePool)
        (Lens.whole.andThen poolPart) m₁ asked' r m₂) :
      asked' = [⟨.closeChannels "publisher" cs, r⟩] ∧
        m₂ = { m₁ with pool := m₁.pool.endClose } := by
    obtain ⟨r', m₃, asked₁, asked₂, rfl, h, last⟩ := Program.runs_ensuring.mp h
    obtain ⟨rfl, rfl⟩ := Program.runs_perform.mp (Program.runs_perform.mp h)
    obtain ⟨e, ⟨-, ended, -⟩, -⟩ | ⟨⟨rfl, -, rfl⟩, rfl⟩ := last
    · cases ended
    · exact ⟨rfl, rfl⟩
  obtain ⟨e, h, rfl⟩ | ⟨_, m₁, asked₁, _, rfl, h, rfl, rfl, rfl⟩ := h
  · obtain ⟨rfl, rfl⟩ := closes h
    exact ⟨rfl, rfl⟩
  · obtain ⟨rfl, rfl⟩ := closes h
    exact ⟨rfl, rfl⟩

/-- The connection is closed and forgotten, if there is one. Only a cancelled close is raised. -/
theorem runs_closeConnection (h : closeConnection.Alone m asked result m') :
    ∃ closed : Except Error Unit,
      asked = m.connection.toList.map (fun c => ⟨.closeConnection c, closed⟩) ∧
      ((∀ e, closed = .error e → e.isOrdinary) ∧ result = .ok () ∧
          m' = { m with connection := none } ∨
        ∃ c e, m.connection = some c ∧ closed = .error e ∧ e.isOrdinary = false ∧
          result = .error e ∧ m' = m) := by
  rw [closeConnection, Program.Alone, Program.runs_state_seq] at h
  cases has : m.connection with
  | none =>
    simp only [Lens.whole, id, has] at h
    obtain ⟨rfl, rfl, rfl⟩ := h
    refine ⟨.ok (), rfl, .inl ⟨?_, rfl, ?_⟩⟩
    · rintro _ ⟨⟩
    · rw [← has]
  | some c =>
    have closes {asked' : List (Answer requests)} {r : Except Error Unit} {m₁ : Manager}
        (h : (Program.rescue (ask (.closeConnection c)) fun e =>
          .logFailure .connection s!"Failed to close RabbitMQ connection: {e.message}" e
            (errorDetails e) : Act Unit).Alone m asked' r m₁) :
        ∃ closed : Except Error Unit, asked' = [⟨.closeConnection c, closed⟩] ∧ m₁ = m ∧
          ((∀ e, closed = .error e → e.isOrdinary) ∧ r = .ok () ∨
            ∃ e, closed = .error e ∧ e.isOrdinary = false ∧ r = .error e) := by
      obtain ⟨⟨⟩, closes, rfl⟩ | ⟨e, fails, passes, rfl⟩ |
        ⟨e, m₁, asked₁, _, rfl, fails, ordinary, rfl, rfl, rfl⟩ := Program.runs_rescue.mp h
      · obtain ⟨rfl, rfl⟩ := Program.runs_perform.mp closes
        refine ⟨.ok (), rfl, rfl, .inl ⟨?_, rfl⟩⟩
        rintro _ ⟨⟩
      · obtain ⟨rfl, rfl⟩ := Program.runs_perform.mp fails
        exact ⟨.error e, rfl, rfl, .inr ⟨e, rfl, passes, rfl⟩⟩
      · obtain ⟨rfl, rfl⟩ := Program.runs_perform.mp fails
        refine ⟨.error e, rfl, rfl, .inl ⟨?_, rfl⟩⟩
        rintro _ ⟨⟩
        exact ordinary
    have has' : (Lens.whole.get m).connection = some c := has
    rw [has', Program.runs_seq] at h
    obtain ⟨e, h, rfl⟩ | ⟨_, m₁, asked₁, _, rfl, h, rfl, rfl, rfl⟩ := h
    · obtain ⟨closed, rfl, rfl, ⟨-, ended⟩ | ⟨e', rfl, passes, ended⟩⟩ := closes h
      · cases ended
      · cases ended
        exact ⟨.error e, rfl, .inr ⟨c, e, rfl, rfl, passes, rfl, rfl⟩⟩
    · obtain ⟨closed, rfl, rfl, ⟨ordinary, -⟩ | ⟨e, rfl, passes, ended⟩⟩ := closes h
      · rw [List.append_nil]
        exact ⟨closed, rfl, .inl ⟨ordinary, rfl, rfl⟩⟩
      · cases ended

/-- Disconnecting closes the consumer channels, then the publisher channels, then the connection, up
to the first close that is cancelled. -/
theorem disconnected_of_runs (h : disconnect.Alone m asked result m') :
    Disconnected m asked result m' := by
  rw [disconnect, Program.Alone, Program.runs_modify_seq, Program.runs_seq] at h
  obtain ⟨e, consumers, rfl⟩ | ⟨_, m₁, asked₁, asked₂, rfl, consumers, h⟩ := h
  · obtain ⟨rfl, rfl⟩ := runs_closeConsumerChannels consumers
    exact .consumers
  obtain ⟨rfl, eq₁⟩ := runs_closeConsumerChannels consumers
  rw [Program.runs_seq] at h
  obtain ⟨e, pool, rfl⟩ | ⟨_, m₂, asked₂, asked₃, rfl, pool, h⟩ := h
  · obtain ⟨rfl, rfl⟩ := runs_closePool pool
    subst eq₁
    exact .publishers
  obtain ⟨rfl, eq₂⟩ := runs_closePool pool
  rw [Program.runs_seq] at h
  obtain ⟨e, connection, rfl⟩ | ⟨_, m₃, asked₃, asked₄, rfl, connection, h⟩ := h
  · obtain ⟨closed, rfl, ⟨-, ended, -⟩ | ⟨c, e', has, rfl, passes, ended, rfl⟩⟩ :=
      runs_closeConnection connection
    · cases ended
    · cases ended
      subst eq₁ eq₂
      exact .connection has passes
  obtain ⟨closed, rfl, ⟨ordinary, -, eq₃⟩ | ⟨c, e', -, -, -, ended, -⟩⟩ :=
    runs_closeConnection connection
  · rw [Program.runs_modify_seq, Program.runs_log] at h
    obtain ⟨rfl, rfl, rfl⟩ := h
    subst eq₁ eq₂ eq₃
    rw [List.append_nil]
    exact .finished ordinary
  · cases ended

/-- Disconnecting tears everything down and never fails, if nothing is cancelled. -/
theorem runs_disconnect (regular : ∀ a ∈ asked, a.Regular)
    (h : disconnect.Alone m asked result m') :
    ∃ closed, asked = m.closings closed ∧ result = .ok () ∧ m' = m.torn := by
  cases disconnected_of_runs h with
  | consumers => cases regular _ List.mem_cons_self
  | publishers => cases regular _ (List.mem_cons_of_mem _ List.mem_cons_self)
  | @connection c e connected passes =>
    have last : (⟨.closeConnection c, .error e⟩ : Answer requests) ∈ m.closings (.error e) := by
      simp [closings, connected]
    rw [(regular _ last).ordinary] at passes
    cases passes
  | finished => exact ⟨_, rfl, rfl, rfl⟩

/-! ### Opening everything -/

/-- What opening everything asks for, up to the first refusal: the dial, the declarations, and as
many publisher channels as are lacking. Gives the connection and the publisher channels that have
been opened. -/
inductive Opening (settings : Settings) (names : ExchangeNames) (lacking : Nat) :
    List (Answer requests) → Option ConnectionId → List ChannelId → Except Error Unit → Prop
  | undialled {e} : Opening settings names lacking
    [⟨.connect settings.url settings.heartbeat settings.reconnectInterval, .error e⟩] none []
    (.error e)
  | undeclared {c asked e} (declarations : Bootstrapped c names asked (.error e)) :
    Opening settings names lacking
      (⟨.connect settings.url settings.heartbeat settings.reconnectInterval, .ok c⟩ :: asked)
      (some c) [] (.error e)
  | declared {c asked asked' new result} (declarations : Bootstrapped c names asked (.ok ()))
    (channels : Pool.Filled (fun reply => ⟨.openChannel c, reply⟩) lacking asked' new result) :
    Opening settings names lacking
      (⟨.connect settings.url settings.heartbeat settings.reconnectInterval, .ok c⟩ ::
        (asked ++ asked')) (some c) new result

/-- A manager that has opened a connection and publisher channels. -/
def opened (m : Manager) (connection : Option ConnectionId) (new : List ChannelId) : Manager :=
  { m with
    connection := connection
    watching := m.watching ++ connection.toList
    pool := m.pool.addAll new }

/-- A failure to open is an ordinary one. -/
theorem Opening.ordinary {settings : Settings} {names : ExchangeNames} {lacking : Nat}
    {c? : Option ConnectionId} {new : List ChannelId} {e : Error}
    (h : Opening settings names lacking asked c? new result) (regular : ∀ a ∈ asked, a.Regular)
    (failed : result = .error e) : e.isOrdinary := by
  cases h with
  | undialled =>
    cases failed
    exact (regular _ List.mem_cons_self).ordinary
  | undeclared declarations =>
    cases failed
    exact declarations.ordinary fun a ha => regular a (List.mem_cons_of_mem _ ha)
  | declared declarations channels =>
    subst failed
    exact channels.ordinary fun ha =>
      (regular _ (List.mem_cons_of_mem _ (List.mem_append_right _ ha))).ordinary

/-- If everything has been opened, there is a connection, and the pool lacks nothing. -/
theorem Opening.complete {settings : Settings} {names : ExchangeNames} {lacking : Nat}
    {c? : Option ConnectionId} {new : List ChannelId}
    (h : Opening settings names lacking asked c? new (.ok ())) :
    c?.isSome ∧ new.length = lacking := by
  cases h with
  | declared declarations channels => exact ⟨rfl, channels.length_eq rfl⟩

theorem opened_none (unconnected : m.connection = none) : m.opened none [] = m := by
  cases m
  cases unconnected
  simp [opened, Pool.addAll]

/-- The channels of a pool are opened on the connection of its manager. -/
theorem opens_pool (c : ConnectionId) :
    Pool.Opens (Program.servedBy (.direct requests (Leaves id)) .whole servePool)
      (Lens.whole.andThen poolPart) (fun m => m.connection = some c)
      (fun reply => (⟨.openChannel c, reply⟩ : Answer requests)) where
  lawful := ⟨fun _ _ => rfl, fun _ _ _ => rfl, fun _ => rfl⟩
  opens {m asked reply m'} has served := by
    have runs : Program.Alone (servePool .openChannel) m asked reply m' := served
    have known : (Lens.whole.get m).connection = some c := has
    rw [servePool, Program.Alone, Program.runs_state_seq, known] at runs
    exact Program.runs_perform.mp runs
  keeps _ has := has

/-- Everything is opened up to the first refusal. -/
theorem opening_of_runs (unconnected : m.connection = none) (regular : ∀ a ∈ asked, a.Regular)
    (h : establish.Alone m asked result m') :
    ∃ c? new,
      Opening m.settings m.names (m.pool.size - m.pool.channels.length) asked c? new result ∧
        m' = m.opened c? new := by
  rw [establish, Program.Alone, Program.runs_state_seq, Program.runs_seq] at h
  obtain ⟨e, failed, rfl⟩ | ⟨c, m₁, asked₁, asked₂, rfl, dial, h⟩ := h
  · obtain ⟨rfl, rfl⟩ := Program.runs_perform.mp failed
    exact ⟨none, [], .undialled, (opened_none unconnected).symm⟩
  obtain ⟨rfl, eq₁⟩ := Program.runs_perform.mp dial
  rw [List.forall_mem_append] at regular
  rw [Program.runs_modify_seq, Program.runs_seq] at h
  obtain rfl : m₁ = m := eq₁
  obtain ⟨e, failed, rfl⟩ | ⟨⟨⟩, m₂, asked₂, asked₃, rfl, declares, h⟩ := h
  · obtain ⟨declarations, rfl⟩ := bootstrapped_of_runs regular.2 failed
    refine ⟨some c, [], .undeclared declarations, ?_⟩
    simp [opened, Pool.addAll, Lens.whole, Lens.modify]
  rw [List.forall_mem_append] at regular
  obtain ⟨declarations, rfl⟩ := bootstrapped_of_runs regular.2.1 declares
  rw [onPool, Program.runs_within] at h
  obtain ⟨new, filled, rfl⟩ := Pool.runs_fill (opens_pool c) rfl h
  refine ⟨some c, new, ?_, rfl⟩
  rw [List.singleton_append]
  exact .declared declarations filled

/-- A manager that has a connection is left alone. -/
theorem runs_connect_of_connected (connected : m.connection.isSome)
    (h : connect.Alone m asked result m') : asked = [] ∧ result = .ok () ∧ m' = m := by
  rw [connect, Program.Alone, Program.runs_state_seq] at h
  change Program.Runs _ _ (if (m.connection.isSome || m.phase == .connecting) = true then _ else _)
    _ _ _ _ at h
  rwa [if_pos (by rw [connected, Bool.true_or])] at h

/-- Connecting opens everything, or tears down what it has opened. -/
theorem runs_connect (phase : m.phase = .disconnected) (unconnected : m.connection = none)
    (regular : ∀ a ∈ asked, a.Regular) (h : connect.Alone m asked result m') :
    ∃ opening c? new,
      Opening m.settings m.names (m.pool.size - m.pool.channels.length) opening c? new result ∧
        ((result = .ok () ∧ asked = opening ∧
            m' = { m.opened c? new with phase := .connected }) ∨
          ∃ e closed, result = .error e ∧ asked = opening ++ (m.opened c? new).closings closed ∧
            m' = (m.opened c? new).torn) := by
  rw [connect, Program.Alone, Program.runs_state_seq] at h
  have may : ¬ (m.connection.isSome || m.phase == .connecting) = true := by
    rw [unconnected, phase]
    decide
  change Program.Runs _ _ (if (m.connection.isSome || m.phase == .connecting) = true then _ else _)
    _ _ _ _ at h
  rw [if_neg may, Program.runs_modify_seq, Program.runs_log_seq, Program.runs_seq] at h
  have establishes {asked' : List (Answer requests)} {r : Except Error Unit} {m₁ : Manager}
      (regular' : ∀ a ∈ asked', a.Regular)
      (h : establish.Alone { m with phase := .connecting } asked' r m₁) :
      ∃ c? new, Opening m.settings m.names (m.pool.size - m.pool.channels.length) asked' c? new r ∧
        m₁ = { m.opened c? new with phase := .connecting } := by
    have unconnected' : { m with phase := .connecting }.connection = none := unconnected
    exact opening_of_runs unconnected' regular' h
  have ordinary {asked' : List (Answer requests)} {m₁ : Manager}
      (regular' : ∀ a ∈ asked', a.Regular) (e : Error)
      (h : establish.Alone { m with phase := .connecting } asked' (.error e) m₁) :
      e.isOrdinary := by
    obtain ⟨c?, new, opening, -⟩ := establishes regular' h
    exact opening.ordinary regular' rfl
  obtain ⟨e, failed, rfl⟩ | ⟨⟨⟩, m₁, asked₁, _, rfl, succeeded, h⟩ := h
  · obtain ⟨_, -, ended⟩ | ⟨e', m₁, asked₁, asked₂, rfl, failed, h⟩ :=
      Program.runs_rescue_of_ordinary (ordinary regular) failed
    · cases ended
    · rw [List.forall_mem_append] at regular
      obtain ⟨c?, new, opening, eq₁⟩ := establishes regular.1 failed
      rw [Program.runs_logFailure_seq, Program.runs_seq] at h
      obtain ⟨e'', h, -⟩ | ⟨_, m₂, asked₂, _, rfl, closes, rfl, ended, rfl⟩ := h
      · obtain ⟨closed, -, ended, -⟩ := runs_disconnect regular.2 h
        cases ended
      · cases ended
        rw [List.append_nil] at regular ⊢
        obtain ⟨closed, rfl, -, rfl⟩ := runs_disconnect regular.2 closes
        subst eq₁
        exact ⟨asked₁, c?, new, opening, .inr ⟨e, closed, rfl, rfl, rfl⟩⟩
  · obtain ⟨rfl, rfl, rfl⟩ := h
    rw [List.append_nil] at regular ⊢
    obtain ⟨_, succeeded, -⟩ | ⟨e, m₂, asked₂, asked₃, rfl, failed, h⟩ :=
      Program.runs_rescue_of_ordinary (ordinary regular) succeeded
    · obtain ⟨c?, new, opening, rfl⟩ := establishes regular succeeded
      exact ⟨asked₁, c?, new, opening, .inl ⟨rfl, rfl, rfl⟩⟩
    · rw [Program.runs_logFailure_seq, Program.runs_seq] at h
      obtain ⟨_, -, ended⟩ | ⟨_, _, _, _, -, -, -, ended, -⟩ := h <;> cases ended

end Connection.Manager

/-! ### What has been opened and closed -/

namespace Answer

variable {β : Type}

/-- What requests tell with their replies, the first first. -/
def gather (f : (r : Request) → Except Error r.Reply → List β) (asked : List (Answer requests)) :
    List β :=
  asked.flatMap fun a => f a.request a.reply

@[simp]
theorem gather_nil (f : (r : Request) → Except Error r.Reply → List β) : gather f [] = [] :=
  rfl

@[simp]
theorem gather_cons (f : (r : Request) → Except Error r.Reply → List β) (a : Answer requests)
    (asked : List (Answer requests)) :
    gather f (a :: asked) = f a.request a.reply ++ gather f asked :=
  List.flatMap_cons

@[simp]
theorem gather_append (f : (r : Request) → Except Error r.Reply → List β)
    (asked asked' : List (Answer requests)) :
    gather f (asked ++ asked') = gather f asked ++ gather f asked' :=
  List.flatMap_append

/-- The channels that requests open. -/
abbrev opened : List (Answer requests) → List ChannelId :=
  gather Request.opens

theorem mem_opened {asked : List (Answer requests)} {k : ConnectionId} {c : ChannelId}
    (h : ⟨.openChannel k, .ok c⟩ ∈ asked) : c ∈ opened asked :=
  List.mem_flatMap.mpr ⟨_, h, List.mem_singleton_self c⟩

/-- The channels that requests close, once for each time. -/
abbrev closed : List (Answer requests) → List ChannelId :=
  gather fun r _ => r.closes

/-- The connections that requests open. -/
abbrev connected : List (Answer requests) → List ConnectionId :=
  gather Request.connects

/-- The connections that requests close, once for each time. -/
abbrev disconnected : List (Answer requests) → List ConnectionId :=
  gather fun r _ => r.disconnects

end Answer

namespace Client

variable {env : Client.Surroundings} {τ α β : Type}

theorem told_eq_gather (f : (r : Request) → Except Error r.Reply → List β) (w : Client.Course) :
    told f w = Answer.gather f w.answers := by
  unfold told Course.answers
  induction w.past with
  | nil => rfl
  | cons x past ih =>
    rw [List.flatMap_cons, ih]
    cases x with
    | heard => rw [List.filterMap_cons_none rfl, List.nil_append]
    | exchanged x =>
      have noted : Entry.answer? (.exchanged x) = some ⟨x.request, x.reply⟩ := rfl
      rw [List.filterMap_cons_some noted, Answer.gather_cons]

/-- A program opens each channel once, and none that has been opened before. -/
theorem opens_new (henv : Faithful env) {part : Lens Client.Course τ}
    (past : ∀ c w, (part.modify c w).past = w.past) (p : Program requests τ α)
    (w : Client.Course) : ∃ new, opened (p.run env.host part w).2 = opened w ++ new ∧ new.Nodup ∧
      ∀ c ∈ new, c ∉ opened w := by
  induction p generalizing w with
  | done a | fail e => exact ⟨[], (List.append_nil _).symm, .nil, by simp⟩
  | read k ih => exact ih (part.get w) w
  | update c p ih =>
    have same : opened (part.modify c w) = opened w := by
      rw [opened, told, told, past]
    obtain ⟨new, h⟩ := ih (part.modify c w)
    rw [same] at h
    exact ⟨new, h⟩
  | emit x p ih =>
    obtain ⟨new, h⟩ := ih (w.note x)
    rw [opened, told_note] at h
    exact ⟨new, h⟩
  | call r k ih =>
    obtain ⟨new, eq, single, fresh⟩ := ih (env w r).1 (w.answer r (env w r).1 (env w r).2)
    have opens : opened (w.answer r (env w r).1 (env w r).2) =
        opened w ++ r.opens (env w r).1 := told_answer ..
    rw [opens] at eq fresh
    refine ⟨r.opens (env w r).1 ++ new, eq.trans (List.append_assoc ..), ?_, ?_⟩
    · refine List.nodup_append.mpr ⟨opens_nodup r _, single, fun c old d new same => ?_⟩
      exact fresh d new (List.mem_append_right _ (same ▸ old))
    · intro c hc
      obtain first | later := List.mem_append.mp hc
      · exact henv.new_channel w r c first
      · exact fun old => fresh c later (List.mem_append_left _ old)

/-- A course as its manager, for programs of the manager. -/
def managerView :
    View (Course.on managerPart : Lens Client.Course Connection.Manager) Connection.Manager where
  see w := w.state.manager
  inner := .whole
  get_see _ := rfl
  see_modify _ _ := rfl
  answers_modify _ _ := rfl
  see_note _ _ := rfl

end Client

namespace Connection.Manager

variable {m : Manager} {c : ConnectionId} {asked : List (Answer requests)}
  {result : Except Error Unit}

/-- Declaring exchanges opens and closes nothing. -/
theorem opened_of_declared {b : ChannelId} {specs : List ExchangeSpec}
    (h : Declared b specs asked result) :
    Answer.opened asked = [] ∧ Answer.closed asked = [] ∧ Answer.connected asked = [] ∧
      Answer.disconnected asked = [] := by
  induction h with
  | all | refused => exact ⟨rfl, rfl, rfl, rfl⟩
  | next rest ih => exact ih

/-- The channel on which the shared exchanges are declared is closed once. -/
theorem opened_of_bootstrapped {names : ExchangeNames} (h : Bootstrapped c names asked result) :
    Answer.opened asked = Answer.closed asked ∧ Answer.connected asked = [] ∧
      Answer.disconnected asked = [] := by
  cases h with
  | refused => exact ⟨rfl, rfl, rfl⟩
  | opened declared =>
    obtain ⟨opened, closed, connected, disconnected⟩ := opened_of_declared declared
    simp only [Answer.gather_append, Answer.gather_cons, opened, closed, connected, disconnected]
    exact ⟨rfl, rfl, rfl⟩

/-- A filling opens the new channels and closes none. -/
theorem opened_of_filled {n : Nat} {new : List ChannelId}
    (h : Pool.Filled (fun reply => ⟨.openChannel c, reply⟩) n asked new result) :
    Answer.opened asked = new ∧ Answer.closed asked = [] ∧ Answer.connected asked = [] ∧
      Answer.disconnected asked = [] := by
  induction h with
  | full | failed => exact ⟨rfl, rfl, rfl, rfl⟩
  | next rest ih => exact ⟨congrArg (_ :: ·) ih.1, ih.2⟩

/-- Opening everything closes the channels that it opens but for the new ones of the pool. -/
theorem opened_of_opening {settings : Settings} {names : ExchangeNames} {lacking : Nat}
    {c? : Option ConnectionId} {new : List ChannelId}
    (h : Opening settings names lacking asked c? new result) :
    Answer.opened asked = Answer.closed asked ++ new ∧ Answer.connected asked = c?.toList ∧
      Answer.disconnected asked = [] := by
  cases h with
  | undialled => exact ⟨rfl, rfl, rfl⟩
  | undeclared declarations =>
    obtain ⟨opened, connected, disconnected⟩ := opened_of_bootstrapped declarations
    simp only [Answer.gather_cons, opened, connected, disconnected]
    exact ⟨(List.append_nil _).symm, rfl, rfl⟩
  | declared declarations channels =>
    obtain ⟨opened, connected, disconnected⟩ := opened_of_bootstrapped declarations
    obtain ⟨opened', closed', connected', disconnected'⟩ := opened_of_filled channels
    simp only [Answer.gather_cons, Answer.gather_append, opened, connected, disconnected, opened',
      closed', connected', disconnected', List.append_nil]
    exact ⟨rfl, rfl, rfl⟩

theorem opened_closings (m : Manager) (closed : Except Error Unit) :
    Answer.opened (m.closings closed) = [] ∧
      Answer.closed (m.closings closed) =
        m.consumerChannels.map (·.channel) ++ m.pool.channels ∧
      Answer.connected (m.closings closed) = [] ∧
      Answer.disconnected (m.closings closed) = m.connection.toList := by
  unfold closings
  cases m.connection <;> exact ⟨rfl, congrArg (_ ++ ·) (List.append_nil _), rfl, rfl⟩

/-- Opening everything and tearing it down closes whatever has been opened, each once. -/
theorem opened_of_opening_closings {settings : Settings} {names : ExchangeNames} {lacking : Nat}
    {c? : Option ConnectionId} {new : List ChannelId}
    (h : Opening settings names lacking asked c? new result) (closed : Except Error Unit) :
    let all := asked ++ (m.opened c? new).closings closed
    (Answer.closed all).Perm
        (m.consumerChannels.map (·.channel) ++ m.pool.channels ++ Answer.opened all) ∧
      Answer.disconnected all = Answer.connected all := by
  obtain ⟨opened, connected, disconnected⟩ := opened_of_opening h
  obtain ⟨opened', closed', connected', disconnected'⟩ :=
    opened_closings (m.opened c? new) closed
  simp only [Answer.gather_append, opened, connected, disconnected, opened', closed', connected',
    disconnected', List.append_nil]
  refine ⟨?_, rfl⟩
  change List.Perm (_ ++ (m.consumerChannels.map (·.channel) ++ (m.pool.channels ++ new))) _
  let held := m.consumerChannels.map (·.channel) ++ m.pool.channels
  calc List.Perm _ (Answer.closed asked ++ held ++ new) :=
        .of_eq (by simp only [held, List.append_assoc])
    List.Perm _ (held ++ Answer.closed asked ++ new) := List.perm_append_comm.append_right new
    List.Perm _ (held ++ (Answer.closed asked ++ new)) := .of_eq (List.append_assoc ..)

/-- A manager that is disconnected and has no connection. -/
structure Resting (m : Manager) : Prop where
  phase : m.phase = .disconnected
  unconnected : m.connection = none
  sized : (m.pool.size : Int) = m.settings.channelPoolSize

theorem resting_of_create {settings : Settings} (created : create settings = .ok m) :
    m.Resting := by
  unfold create at created
  cases names : ExchangeNames.forApplication settings.application with
  | error e =>
    rw [names] at created
    cases created
  | ok n =>
    cases pool : Pool.create settings.channelPoolSize with
    | error e =>
      rw [names, pool] at created
      cases created
    | ok p =>
      rw [names, pool] at created
      cases created
      unfold Pool.create at pool
      split at pool
      · cases pool
      · rename_i large
        cases pool
        exact ⟨rfl, rfl, Int.toNat_of_nonneg (by omega)⟩

/-- A manager at rest that connects opens a connection, declares the shared exchanges and opens the
channels that its pool lacks. If all of this is granted, the manager is connected and has what
has been opened; so its pool is as large as it should be, with no channel lent, unless there were
too many channels in it before, or lent ones. Otherwise the call fails with the first refusal, and
everything is closed, each channel and each connection once. -/
theorem connect_opens_or_closes {env : Client.Surroundings} (henv : Client.Faithful env)
    {w : Client.Course} (resting : w.state.manager.Resting) :
    let m := w.state.manager
    let r := (connect.on Client.managerPart).run env.host Course.statePart w
    let m' := r.2.state.manager
    ∃ opening c? new,
      Opening m.settings m.names (m.pool.size - m.pool.channels.length) opening c? new r.1 ∧
      new.Nodup ∧ (∀ c ∈ new, c ∉ Client.opened w) ∧
      ((r.1 = .ok () ∧ r.2.answers = w.answers ++ opening ∧
          m' = { m.opened c? new with phase := .connected } ∧ c?.isSome ∧
          (((m'.pool.channels.length : Int) = m.settings.channelPoolSize ∧ m'.pool.inUse = []) ↔
            (m.pool.channels.length : Int) ≤ m.settings.channelPoolSize ∧ m.pool.inUse = [])) ∨
        ∃ e closed, r.1 = .error e ∧ e.isOrdinary ∧
          let asked := opening ++ (m.opened c? new).closings closed
          r.2.answers = w.answers ++ asked ∧ m' = (m.opened c? new).torn ∧
          (Answer.closed asked).Perm
            (m.consumerChannels.map (·.channel) ++ m.pool.channels ++ Answer.opened asked) ∧
          Answer.disconnected asked = Answer.connected asked) := by
  intro m r m'
  obtain ⟨asked, answers, replies, runs⟩ := Program.runs_of_run Client.managerView id
    (fun w q => henv.undisturbed w q) connect w
  have eq : connect.run env.host (Course.on Client.managerPart) w = r := (Program.run_on ..).symm
  rw [eq] at answers runs
  have regular : ∀ a ∈ asked, a.Regular := by
    intro a ha
    obtain ⟨w₁, replied⟩ := replies a ha
    exact Client.regular_of_faithful henv replied
  obtain ⟨opening, c?, new, opens, ends⟩ :=
    runs_connect resting.phase resting.unconnected regular runs
  have past (f : Client → Client) (w : Client.Course) :
      (Course.statePart.modify f w).past = w.past :=
    rfl
  obtain ⟨all, grown, single, fresh⟩ := Client.opens_new henv past (connect.on Client.managerPart) w
  have told : all = Answer.opened asked := by
    change Client.opened r.2 = _ at grown
    rw [Client.opened, Client.told_eq_gather, Client.told_eq_gather, answers,
      Answer.gather_append] at grown
    exact (List.append_cancel_left grown).symm
  have among : new.Sublist (Answer.opened asked) := by
    obtain ⟨opened, -, -⟩ := opened_of_opening opens
    obtain ⟨-, rfl, -⟩ | ⟨-, -, -, rfl, -⟩ := ends
    · exact opened ▸ List.sublist_append_right ..
    · simp only [Answer.gather_append, opened, List.append_assoc]
      exact (List.sublist_append_left ..).trans (List.sublist_append_right ..)
  subst told
  refine ⟨opening, c?, new, opens, among.nodup single, fun c hc => fresh c (among.subset hc), ?_⟩
  obtain ⟨ok, rfl, eq⟩ | ⟨e, closed, failed, rfl, eq⟩ := ends
  · rw [ok] at opens
    obtain ⟨connected, length⟩ := opens.complete
    refine .inl ⟨ok, answers, eq, connected, ?_⟩
    have channels : m'.pool.channels = m.pool.channels ++ new := congrArg (·.pool.channels) eq
    have lent : m'.pool.inUse = m.pool.inUse := congrArg (·.pool.inUse) eq
    have sized : (m.pool.size : Int) = m.settings.channelPoolSize := resting.sized
    have added : new.length = m.pool.size - m.pool.channels.length := length
    rw [channels, lent, List.length_append, added]
    refine and_congr_left fun _ => ?_
    omega
  · rw [failed] at opens
    rw [List.forall_mem_append] at regular
    exact .inr ⟨e, closed, failed, opens.ordinary regular.1 rfl, answers, eq,
      opened_of_opening_closings opens closed⟩

/-- A broker that opens two channels and closes nothing willingly. -/
def narrow : Client.Course → Request → Bool
  | w, .openChannel _ => 2 ≤ (Client.opened w).length
  | _, .closeChannel _ | _, .closeConnection _ => true
  | _, _ => false

/-- The second channel of the pool is refused, so both channels and the connection are closed. -/
theorem connect_closes_narrow :
    let env := Client.numbering narrow
    let r := (connect.on Client.managerPart).run env.host Course.statePart { state := Client.shop }
    Client.Faithful env ∧ Client.shop.manager.Resting ∧ r.1.isOk = false ∧
      Client.opened r.2 = [⟨1⟩, ⟨2⟩] ∧ r.2.state.manager.phase = .disconnected ∧
      (Client.closeCalls r.2).Perm (Client.opened r.2) := by
  intro env r
  have faithful : Client.Faithful env := Client.numbering_faithful _ fun _ _ _ => rfl
  have created : create Client.shopSettings = .ok Client.shop.manager := rfl
  have resting : Client.shop.manager.Resting := resting_of_create created
  have failed : r.1.isOk = false := by decide
  refine ⟨faithful, resting, failed, by decide, by decide +kernel, ?_⟩
  obtain ⟨opening, c?, new, -, -, -, ⟨ok, -⟩ | ⟨e, closed, -, -, answers, torn, perm, -⟩⟩ :=
    connect_opens_or_closes faithful (w := { state := Client.shop }) resting
  · change r.1 = _ at ok
    rw [ok] at failed
    cases failed
  · rw [Client.closeCalls, Client.opened, Client.told_eq_gather, Client.told_eq_gather, answers]
    exact perm

/-! ### Calls that overlap a disconnection -/

/-- The calls of a manager that lends channels. -/
def operations (p : Act Unit) : Prop :=
  p = connect ∨ p = disconnect ∨ p = (do let _ ← borrow) ∨ ∃ c, p = giveBack c

/-- Settings for one publisher channel. -/
def smallSettings : Settings :=
  { Client.shopSettings with channelPoolSize := 1 }

/-- A manager with a pool of one channel. -/
def small : Manager :=
  (create smallSettings).toOption.getD default

/-- Every request is granted, and what is opened is the given one. -/
def numbers (n : Nat) : (r : Request) → Except Error r.Reply
  | .connect .. => .ok ⟨n⟩
  | .openChannel _ => .ok ⟨n⟩
  | r => .ok r.granted

theorem allows_numbers {w : Moment} {n : Nat} (fresh : ⟨n⟩ ∉ returned w.past) (r : Request) :
    (rules operations).allows w r (numbers n r) := by
  cases r with
  | connect => exact fresh
  | _ => trivial

/-- A manager connects. While a disconnection waits for its connection to close, two channels are
lent and given back. -/
def overlapped : Scene requests Manager Unit :=
  let moves : List (Scene.Move requests Manager Unit) :=
    [.begin connect, .reply 0 (numbers 1), .reply 0 (numbers 2), .reply 0 (numbers 2),
      .reply 0 (numbers 2), .reply 0 (numbers 2), .reply 0 (numbers 2), .reply 0 (numbers 3),
      .begin disconnect, .reply 0 (numbers 3),
      .begin (do let _ ← borrow), .reply 1 (numbers 4), .begin (do let _ ← borrow),
      .reply 1 (numbers 5), .begin (giveBack ⟨4⟩), .begin (giveBack ⟨5⟩), .reply 0 (numbers 5)]
  moves.foldl (Scene.move (rules operations).pass) { state := small }

theorem reached_overlapped : Scene.Reached (rules operations) small overlapped := by
  have connects : (rules operations).begins connect := .inl rfl
  have disconnects : (rules operations).begins disconnect := .inr (.inl rfl)
  have borrows : (rules operations).begins (do let _ ← borrow) := .inr (.inr (.inl rfl))
  have givesBack (c : ChannelId) : (rules operations).begins (giveBack c) :=
    .inr (.inr (.inr ⟨c, rfl⟩))
  have start : Scene.Reached (rules operations) small _ := .start
  have dialled := (start.begin connects).reply 0 (allows_numbers (n := 1) (by decide))
  have declared := ((((dialled.reply 0 (allows_numbers (n := 2) (by decide))).reply 0
    (allows_numbers (n := 2) (by decide))).reply 0
    (allows_numbers (n := 2) (by decide))).reply 0
    (allows_numbers (n := 2) (by decide))).reply 0
    (allows_numbers (n := 2) (by decide))
  have connected := declared.reply 0 (allows_numbers (n := 3) (by decide))
  have closing := (connected.begin disconnects).reply 0
    (allows_numbers (n := 3) (by decide))
  have first := (closing.begin borrows).reply 1 (allows_numbers (n := 4) (by decide))
  have second := (first.begin borrows).reply 1 (allows_numbers (n := 5) (by decide))
  exact ((second.begin (givesBack ⟨4⟩)).begin (givesBack ⟨5⟩)).reply 0
    (allows_numbers (n := 5) (by decide))

/-- It is not true that the pool of a manager that has connected is always as large as it should be:
after an overlapped disconnection it is too large. -/
theorem connect_keeps_overlapped :
    ¬ ∀ (settings : Settings) (m : Manager) (s : Scene requests Manager Unit)
      (env : Client.Surroundings) (w : Client.Course),
      create settings = .ok m → Scene.Reached (rules operations) m s → s.waiting.length = 0 →
      s.state.Resting → Client.Faithful env → w.state.manager = s.state →
        let r := (connect.on Client.managerPart).run env.host Course.statePart w
        r.1.isOk → (r.2.state.manager.pool.channels.length : Int) = settings.channelPoolSize := by
  intro sized
  let env := Client.numbering fun _ _ => false
  let w : Client.Course := { state := { Client.shop with manager := overlapped.state } }
  have created : create smallSettings = .ok small := rfl
  have rest : overlapped.waiting.length = 0 := by decide
  have resting : overlapped.state.Resting :=
    ⟨by decide, by decide +kernel, by decide +kernel⟩
  have faithful : Client.Faithful env := Client.numbering_faithful _ fun _ _ _ => rfl
  have connects : ((connect.on Client.managerPart).run env.host Course.statePart w).1.isOk := by
    decide
  have large : ((connect.on Client.managerPart).run env.host Course.statePart
      w).2.state.manager.pool.channels.length = 2 := by decide
  have single := sized _ _ _ env w created reached_overlapped rest resting faithful rfl connects
  rw [large] at single
  revert single
  decide

end Connection.Manager
end BrokerClient
