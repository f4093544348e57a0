import BrokerClient.Proofs.Connecting

/-!
# Disconnecting, call by call

A request to close several channels is a single one. It stands for a quiet close of each of them,
and these run side by side. So that a statement about a disconnection is one about the closes that
reach the broker, its requests are served call by call: the calls that a request stands for come in
any order, and each of them may fail. Failures make no difference; a cancellation is passed on once
the calls of its phase have been made, and no later phase is begun.

## Main definitions

* `Channel.ClosedTogether` — channels are closed side by side.
* `Answer.Calls` — the calls that an answer stands for.
* `Manager.callByCall` — requests are served call by call.
* `Manager.Interrupted` — a disconnection in which a close is cancelled.

## Main results

* `Channel.closedTogether_iff` — closing channels side by side closes each of them once.
* `Manager.disconnect_calls_iff`, `Manager.interrupted_of_runs` — the runs of a disconnection.
* `Manager.disconnect_closes_each_once` — what a disconnection closes, and what is left.
-/

namespace BrokerClient

open Broker Channel Connection

/-- What waiting for closes gives: a failure of one of them, if there is any. -/
def Channel.Gathered (ends : List (Except Error Bool)) : Except Error Unit → Prop
  | .ok () => ∀ r ∈ ends, r.isOk
  | .error e => .error e ∈ ends

/-- Channels are closed side by side: each is closed quietly on its own, and their calls come in any
order. -/
def Channel.ClosedTogether (purpose : String) (cs : List ChannelId) (reply : Except Error Unit)
    (calls : List (Answer requests)) : Prop :=
  ∃ closes : List (List (Answer requests) × Except Error Bool),
    cs.Forall₂ (fun c x =>
      (closeQuietly (ask (.closeChannel c)) purpose : Act Unit Bool).Alone () x.1 x.2 ()) closes ∧
    calls.Perm (closes.flatMap (·.1)) ∧ Gathered (closes.map (·.2)) reply

/-- The calls that an answer stands for. -/
def Answer.Calls : Answer requests → List (Answer requests) → Prop
  | ⟨.closeChannels purpose cs, reply⟩, calls => ClosedTogether purpose cs reply calls
  | a, calls => calls = [a]

/-- A close that is raised by nobody is not cancelled. -/
theorem Channel.ordinary_of_quietly {e : Error} (ok : (quietly (.error e)).isOk) :
    e.isOrdinary := by
  by_contra passes
  simp [quietly, passes, Except.isOk, Except.toBool] at ok

/-- What a quiet close raises is a cancellation. -/
theorem Channel.quietly_eq_error {closed : Except Error Unit} {e : Error}
    (raised : quietly closed = .error e) : closed = .error e ∧ e.isOrdinary = false := by
  cases closed with
  | ok => cases raised
  | error e' =>
    by_cases ordinary : e'.isOrdinary
    · simp [quietly, ordinary] at raised
    · simp only [quietly, if_neg ordinary, Except.error.injEq] at raised
      subst raised
      exact ⟨rfl, by simpa using ordinary⟩

section Closes

variable {σ : Type} {b : ChannelId} {calls : List (Answer requests)}

/-- A quiet close runs whatever comes of the close. -/
theorem Channel.closeQuietly_runs (purpose : String) (s : σ) {closed : Except Error Unit}
    (regular : Answer.Regular ⟨.closeChannel b, closed⟩) :
    (closeQuietly (ask (.closeChannel b)) purpose : Act σ Bool).Alone s
      [⟨.closeChannel b, closed⟩] (.ok closed.isOk) s := by
  rw [closeQuietly, Program.Alone, Program.runs_rescue]
  have asks : (ask (.closeChannel b) : Act σ Unit).Alone s [⟨.closeChannel b, closed⟩] closed s :=
    Program.runs_perform.mpr ⟨rfl, rfl⟩
  cases closed with
  | ok u => exact .inl ⟨true, Program.runs_bind.mpr (.inr ⟨u, s, _, [], rfl, asks, rfl, rfl, rfl⟩),
      rfl⟩
  | error e =>
    exact .inr (.inr ⟨e, s, _, [], rfl, Program.runs_bind.mpr (.inl ⟨e, asks, rfl⟩),
      regular.ordinary, rfl, rfl, rfl⟩)

/-- For every list of calls of `close` there are quiet closes that make them. -/
theorem Channel.closes_of_requests {purpose : String} {cs : List ChannelId}
    (asks : cs.Forall₂ (fun c a => a.request = .closeChannel c) calls)
    (regular : ∀ a ∈ calls, a.Regular) :
    ∃ closes : List (List (Answer requests) × Except Error Bool),
      cs.Forall₂ (fun c x =>
        (closeQuietly (ask (.closeChannel c)) purpose : Act Unit Bool).Alone () x.1 x.2 ())
        closes ∧
      closes.flatMap (·.1) = calls ∧ ∀ x ∈ closes, x.2.isOk := by
  induction asks with
  | nil => exact ⟨[], .nil, rfl, nofun⟩
  | @cons c a cs calls request asks ih =>
    obtain ⟨closes, runs, eq, oks⟩ := ih fun a ha => regular a (List.mem_cons_of_mem _ ha)
    obtain ⟨r, closed⟩ := a
    obtain rfl : r = .closeChannel c := request
    have run := closeQuietly_runs purpose () (regular _ List.mem_cons_self)
    refine ⟨([⟨.closeChannel c, closed⟩], .ok closed.isOk) :: closes, .cons run runs, ?_,
      List.forall_mem_cons.mpr ⟨rfl, oks⟩⟩
    rw [List.flatMap_cons, eq]
    rfl

/-- Whatever comes of it, closing channels side by side calls the close of each of them once. It
fails only if one of these is cancelled. -/
theorem Channel.ClosedTogether.closes {purpose : String} {cs : List ChannelId}
    {reply : Except Error Unit} (h : ClosedTogether purpose cs reply calls) :
    (calls.map (·.request)).Perm (cs.map .closeChannel) ∧
      (reply = .ok () ∧ (∀ a ∈ calls, a.Regular) ∨
        ∃ c e, reply = .error e ∧ e.isOrdinary = false ∧ ⟨.closeChannel c, .error e⟩ ∈ calls) := by
  obtain ⟨closes, runs, perm, gathered⟩ := h
  have each : (closes.flatMap (·.1)).map (·.request) = cs.map .closeChannel ∧
      ∀ x ∈ closes, ∃ c closed, x = ([⟨.closeChannel c, closed⟩], quietly closed) := by
    clear perm gathered
    induction runs with
    | nil => exact ⟨rfl, List.forall_mem_nil _⟩
    | @cons c x cs closes run runs ih =>
      obtain ⟨closed, asked, ended, -⟩ := closing_of_runs run
      obtain ⟨asks, rest⟩ := ih
      refine ⟨?_, List.forall_mem_cons.mpr ⟨⟨c, closed, Prod.ext asked ended⟩, rest⟩⟩
      rw [List.flatMap_cons, List.map_append, asks, asked]
      rfl
  refine ⟨each.1 ▸ perm.map _, ?_⟩
  cases reply with
  | ok =>
    refine .inl ⟨rfl, fun a member => ?_⟩
    obtain ⟨x, among, asked⟩ := List.mem_flatMap.mp (perm.mem_iff.mp member)
    obtain ⟨c, closed, rfl⟩ := each.2 x among
    obtain rfl := List.mem_singleton.mp asked
    rintro e rfl
    exact ordinary_of_quietly (gathered _ (List.mem_map_of_mem among))
  | error e =>
    obtain ⟨x, among, failed⟩ := List.mem_map.mp gathered
    obtain ⟨c, closed, rfl⟩ := each.2 x among
    obtain ⟨rfl, passes⟩ := quietly_eq_error failed
    exact .inr ⟨c, e, rfl, passes,
      perm.mem_iff.mpr (List.mem_flatMap.mpr ⟨_, among, List.mem_singleton_self _⟩)⟩

/-- Closing channels side by side never fails, and calls the close of each of them once. -/
theorem Channel.closedTogether_iff {purpose : String} {cs : List ChannelId}
    {reply : Except Error Unit} (regular : ∀ a ∈ calls, a.Regular) :
    ClosedTogether purpose cs reply calls ↔
      reply = .ok () ∧ (calls.map (·.request)).Perm (cs.map .closeChannel) := by
  constructor
  · intro h
    obtain ⟨perm, ⟨granted, -⟩ | ⟨c, e, -, passes, cancelled⟩⟩ := h.closes
    · exact ⟨granted, perm⟩
    · rw [(regular _ cancelled).ordinary] at passes
      cases passes
  · rintro ⟨rfl, perm⟩
    have among : List.Forall₂ (fun (r : Request) (a : Answer requests) => a.request = r)
        (calls.map (·.request)) calls := by
      rw [List.forall₂_map_left_iff]
      exact List.forall₂_same.mpr fun _ _ => rfl
    -- the calls in the order of the channels
    obtain ⟨ordered, asks, reordered⟩ := List.perm_comp_forall₂ perm.symm among
    rw [List.forall₂_map_left_iff] at asks
    obtain ⟨closes, runs, eq, oks⟩ := closes_of_requests asks fun a ha =>
      regular a (reordered.mem_iff.mp ha)
    refine ⟨closes, runs, eq ▸ reordered.symm, fun r hr => ?_⟩
    obtain ⟨x, hx, rfl⟩ := List.mem_map.mp hr
    exact oks x hx

end Closes

theorem Answer.regular_of_calls {a : Answer requests} {calls : List (Answer requests)}
    (stands : a.Calls calls) (regular : ∀ b ∈ calls, b.Regular) : a.Regular := by
  obtain ⟨r, reply⟩ := a
  cases r with
  | closeChannels purpose cs => exact ((closedTogether_iff regular).mp stands).1
  | _ =>
    have alone : calls = [⟨_, reply⟩] := stands
    exact regular _ (alone ▸ List.mem_cons_self)

/-- Answers are regular if the calls that they stand for are. -/
theorem Answer.regular_of_standFor {answers calls : List (Answer requests)}
    (stand : StandFor Answer.Calls answers calls) (regular : ∀ a ∈ calls, a.Regular) :
    ∀ a ∈ answers, a.Regular := by
  induction stand with
  | nil => exact List.forall_mem_nil _
  | cons first others ih =>
    rw [List.forall_mem_append] at regular
    exact List.forall_mem_cons.mpr ⟨regular_of_calls first regular.1, ih regular.2⟩

namespace Connection.Manager

variable {m m' : Manager} {calls : List (Answer requests)} {result : Except Error Unit}

/-- Requests are served call by call, and nobody else uses the manager. -/
def callByCall : Service requests (Answer requests) Manager :=
  .spread requests Answer.Calls (Leaves id)

/-- Tearing everything down can be run whatever comes of the close of the connection. -/
theorem disconnect_runs {closed : Except Error Unit}
    (regular : ∀ c, Answer.Regular ⟨.closeConnection c, closed⟩) :
    disconnect.Alone m (m.closings closed) (.ok ()) m.torn := by
  have consumers {m₁ : Manager} : closeConsumerChannels.Alone m₁
      [⟨.closeChannels "consumer" (m₁.consumerChannels.map (·.channel)), .ok ()⟩] (.ok ())
      { m₁ with consumerChannels := [] } := by
    have closes : (do
        ask (.closeChannels "consumer" (m₁.consumerChannels.map (·.channel)))
        .modify fun m => { m with consumerChannels := [] } : Act Unit).Alone m₁
        [⟨.closeChannels "consumer" (m₁.consumerChannels.map (·.channel)), .ok ()⟩] (.ok ())
        { m₁ with consumerChannels := [] } :=
      Program.runs_seq.mpr (.inr ⟨(), _, _, [], rfl, Program.runs_perform.mpr ⟨rfl, rfl⟩,
        rfl, rfl, rfl⟩)
    rw [closeConsumerChannels, Program.Alone, Program.runs_state_seq]
    dsimp only
    split <;> exact closes
  have pool {m₁ : Manager} : (onPool Pool.close).Alone m₁
      [⟨.closeChannels "publisher" m₁.pool.channels, .ok ()⟩] (.ok ())
      { m₁ with pool := m₁.pool.beginClose.endClose.forget } := by
    rw [onPool, Program.Alone, Program.runs_within, Pool.close, Program.runs_state_seq,
      Program.runs_modify_seq, Program.runs_log_seq]
    exact Program.runs_seq.mpr (.inr ⟨(), _, _, [], rfl, Program.runs_ensuring.mpr
      ⟨.ok (), _, _, [], rfl, Program.runs_perform.mpr (Program.runs_perform.mpr ⟨rfl, rfl⟩),
        .inr ⟨⟨rfl, rfl, rfl⟩, rfl⟩⟩, rfl, rfl, rfl⟩)
  have connection {m₁ : Manager} : closeConnection.Alone m₁
      (m₁.connection.toList.map fun c => ⟨.closeConnection c, closed⟩) (.ok ())
      { m₁ with connection := none } := by
    rw [closeConnection, Program.Alone, Program.runs_state_seq]
    cases has : m₁.connection with
    | none =>
      simp only [Lens.whole, id, has]
      refine ⟨rfl, rfl, ?_⟩
      rw [← has]
    | some c =>
      have has' : (Lens.whole.get m₁).connection = some c := has
      have closes : (Program.rescue (ask (.closeConnection c)) fun e =>
          .logFailure .connection s!"Failed to close RabbitMQ connection: {e.message}" e
            (errorDetails e) : Act Unit).Alone m₁ [⟨.closeConnection c, closed⟩] (.ok ()) m₁ := by
        refine Program.runs_rescue.mpr ?_
        cases closed with
        | ok u => exact .inl ⟨u, Program.runs_perform.mpr ⟨rfl, rfl⟩, rfl⟩
        | error e => exact .inr (.inr ⟨e, m₁, _, [], rfl, Program.runs_perform.mpr ⟨rfl, rfl⟩,
            (regular c).ordinary, rfl, rfl, rfl⟩)
      rw [has']
      exact Program.runs_seq.mpr (.inr ⟨(), m₁, _, [], rfl, closes, rfl, rfl, rfl⟩)
  rw [disconnect, Program.Alone, Program.runs_modify_seq]
  exact Program.runs_seq.mpr (.inr ⟨(), _, _, _, rfl, consumers, Program.runs_seq.mpr
    (.inr ⟨(), _, _, _, rfl, pool, Program.runs_seq.mpr
      (.inr ⟨(), _, _, [], (List.append_nil _).symm, connection, rfl, rfl, rfl⟩)⟩)⟩)

/-- A close of a connection, if there is one, stands for itself. -/
theorem standFor_closeConnection_iff {c? : Option ConnectionId} {closed : Except Error Unit} :
    StandFor Answer.Calls (c?.toList.map fun c => ⟨.closeConnection c, closed⟩) calls ↔
      calls = c?.toList.map fun c => ⟨.closeConnection c, closed⟩ := by
  cases c? with
  | none =>
    constructor
    · rintro ⟨⟩
      rfl
    · rintro rfl
      exact .nil
  | some c =>
    constructor
    · rintro (_ | ⟨first, ⟨⟩⟩)
      rw [List.append_nil]
      exact first
    · rintro rfl
      have itself : Answer.Calls ⟨.closeConnection c, closed⟩ [⟨.closeConnection c, closed⟩] := rfl
      exact .cons itself .nil

/-- Tearing everything down stands for one close of each channel and of the connection, in the order
of the phases. -/
theorem standFor_closings_iff {closed : Except Error Unit} (regular : ∀ a ∈ calls, a.Regular) :
    StandFor Answer.Calls (m.closings closed) calls ↔
      ∃ consumers publishers, calls = consumers ++ (publishers ++
          m.connection.toList.map fun c => ⟨.closeConnection c, closed⟩) ∧
        (consumers.map (·.request)).Perm
          (m.consumerChannels.map fun c => .closeChannel c.channel) ∧
        (publishers.map (·.request)).Perm (m.pool.channels.map .closeChannel) := by
  have tracked : m.consumerChannels.map (fun c => Request.closeChannel c.channel) =
      (m.consumerChannels.map (·.channel)).map .closeChannel := by
    rw [List.map_map]
    rfl
  rw [tracked]
  constructor
  · rintro (_ | ⟨first, _ | ⟨second, third⟩⟩)
    rw [standFor_closeConnection_iff] at third
    subst third
    rw [List.forall_mem_append, List.forall_mem_append] at regular
    exact ⟨_, _, rfl, ((closedTogether_iff regular.1).mp first).2,
      ((closedTogether_iff regular.2.1).mp second).2⟩
  · rintro ⟨consumers, publishers, rfl, first, second⟩
    rw [List.forall_mem_append, List.forall_mem_append] at regular
    exact .cons ((closedTogether_iff regular.1).mpr ⟨rfl, first⟩)
      (.cons ((closedTogether_iff regular.2.1).mpr ⟨rfl, second⟩)
        (standFor_closeConnection_iff.mpr rfl))

/-- A close of a connection, if there is one, has one outcome. -/
theorem exists_closed {c? : Option ConnectionId} (regular : ∀ a ∈ calls, a.Regular)
    (asks : calls.map (·.request) = c?.toList.map .closeConnection) :
    ∃ closed : Except Error Unit, (∀ c, Answer.Regular ⟨.closeConnection c, closed⟩) ∧
      calls = c?.toList.map fun c => ⟨.closeConnection c, closed⟩ := by
  cases c? with
  | none =>
    obtain rfl : calls = [] := List.map_eq_nil_iff.mp asks
    exact ⟨.ok (), nofun, rfl⟩
  | some c =>
    obtain ⟨⟨r, closed⟩, rfl, asked⟩ := List.map_eq_singleton_iff.mp asks
    obtain rfl : r = .closeConnection c := asked
    have first : Answer.Regular ⟨.closeConnection c, closed⟩ := regular _ List.mem_cons_self
    exact ⟨closed, fun _ => first, rfl⟩

/-- Disconnecting, call by call. -/
theorem disconnect_calls_iff (regular : ∀ a ∈ calls, a.Regular) :
    disconnect.Runs callByCall .whole m calls result m' ↔
      (∃ consumers publishers connection, calls = consumers ++ publishers ++ connection ∧
        (consumers.map (·.request)).Perm
          (m.consumerChannels.map fun c => .closeChannel c.channel) ∧
        (publishers.map (·.request)).Perm (m.pool.channels.map .closeChannel) ∧
        connection.map (·.request) = m.connection.toList.map .closeConnection) ∧
      result = .ok () ∧ m' = m.torn := by
  rw [callByCall, Program.runs_spread]
  constructor
  · rintro ⟨answers, runs, stand⟩
    obtain ⟨closed, rfl, rfl, rfl⟩ :=
      runs_disconnect (Answer.regular_of_standFor stand regular) runs
    obtain ⟨consumers, publishers, rfl, first, second⟩ := (standFor_closings_iff regular).mp stand
    refine ⟨⟨consumers, publishers, _, (List.append_assoc ..).symm, first, second, ?_⟩, rfl, rfl⟩
    rw [List.map_map]
    rfl
  · rintro ⟨⟨consumers, publishers, connection, rfl, first, second, third⟩, rfl, rfl⟩
    obtain ⟨closed, regular', rfl⟩ := exists_closed
      (fun a ha => regular a (List.mem_append_right _ ha)) third
    refine ⟨m.closings closed, disconnect_runs regular', (standFor_closings_iff regular).mpr ?_⟩
    exact ⟨consumers, publishers, List.append_assoc .., first, second⟩

/-- A disconnection in which a close is cancelled: the calls up to the end of this phase, and what
is left then. -/
inductive Interrupted (m : Manager) : List (Answer requests) → Error → Manager → Prop
  | consumers {calls c e} (cancelled : ⟨.closeChannel c, .error e⟩ ∈ calls)
    (closes : (calls.map (·.request)).Perm
      (m.consumerChannels.map fun c => .closeChannel c.channel)) :
    Interrupted m calls e { m with phase := .closing }
  | publishers {calls calls' c e} (cancelled : ⟨.closeChannel c, .error e⟩ ∈ calls')
    (closes : (calls.map (·.request)).Perm
      (m.consumerChannels.map fun c => .closeChannel c.channel))
    (closes' : (calls'.map (·.request)).Perm (m.pool.channels.map .closeChannel)) :
    Interrupted m (calls ++ calls') e
      { m with phase := .closing, consumerChannels := [], pool := m.pool.beginClose.endClose }
  | connection {calls calls' c e} (connected : m.connection = some c)
    (closes : (calls.map (·.request)).Perm
      (m.consumerChannels.map fun c => .closeChannel c.channel))
    (closes' : (calls'.map (·.request)).Perm (m.pool.channels.map .closeChannel)) :
    Interrupted m (calls ++ calls' ++ [⟨.closeConnection c, .error e⟩]) e
      { m with
        phase := .closing, consumerChannels := [], pool := m.pool.beginClose.endClose.forget }

/-- A cancelled close breaks a disconnection off at the end of its phase, and is passed on. -/
theorem interrupted_of_runs (runs : disconnect.Runs callByCall .whole m calls result m')
    (irregular : ∃ a ∈ calls, ¬ a.Regular) :
    ∃ e, e.isOrdinary = false ∧ result = .error e ∧ Interrupted m calls e m' := by
  have tracked : (m.consumerChannels.map (·.channel)).map Request.closeChannel =
      m.consumerChannels.map fun c => .closeChannel c.channel := List.map_map
  rw [callByCall, Program.runs_spread] at runs
  obtain ⟨answers, runs, stand⟩ := runs
  cases disconnected_of_runs runs with
  | @consumers e =>
    obtain _ | ⟨first, ⟨⟩⟩ := stand
    obtain ⟨closes, ⟨granted, -⟩ | ⟨c, _, ⟨⟩, passes, cancelled⟩⟩ :=
      Channel.ClosedTogether.closes first
    · cases granted
    · rw [List.append_nil]
      exact ⟨e, passes, rfl, .consumers cancelled (tracked ▸ closes)⟩
  | @publishers e =>
    obtain _ | ⟨first, _ | ⟨second, ⟨⟩⟩⟩ := stand
    obtain ⟨closes, -⟩ := Channel.ClosedTogether.closes first
    obtain ⟨closes', ⟨granted, -⟩ | ⟨c, _, ⟨⟩, passes, cancelled⟩⟩ :=
      Channel.ClosedTogether.closes second
    · cases granted
    · rw [List.append_nil]
      exact ⟨e, passes, rfl, .publishers cancelled (tracked ▸ closes) closes'⟩
  | @connection c e connected passes =>
    obtain _ | ⟨first, _ | ⟨second, third⟩⟩ := stand
    rw [standFor_closeConnection_iff, connected] at third
    subst third
    obtain ⟨closes, -⟩ := Channel.ClosedTogether.closes first
    obtain ⟨closes', -⟩ := Channel.ClosedTogether.closes second
    rw [← List.append_assoc]
    exact ⟨e, passes, rfl, .connection connected (tracked ▸ closes) closes'⟩
  | finished ordinary =>
    obtain _ | ⟨first, _ | ⟨second, third⟩⟩ := stand
    rw [standFor_closeConnection_iff] at third
    subst third
    obtain ⟨-, ⟨-, regular⟩ | ⟨_, _, ⟨⟩, -⟩⟩ := Channel.ClosedTogether.closes first
    obtain ⟨-, ⟨-, regular'⟩ | ⟨_, _, ⟨⟩, -⟩⟩ := Channel.ClosedTogether.closes second
    obtain ⟨a, member, irregular⟩ := irregular
    refine absurd ?_ irregular
    rw [List.mem_append, List.mem_append] at member
    obtain member | member | member := member
    · exact regular a member
    · exact regular' a member
    · obtain ⟨c, -, rfl⟩ := List.mem_map.mp member
      exact ordinary

/-- Whatever comes of the closes, a disconnection that nobody interferes with succeeds. It closes
each tracked consumer channel once, then each channel of the pool once, and last the connection, if
there is one. Nothing is left then, and another disconnection closes nothing. Only a cancelled close
breaks a disconnection off, at the end of its phase. -/
theorem disconnect_closes_each_once (m : Manager) (calls : List (Answer requests))
    (result : Except Error Unit) (m' : Manager) :
    ((∀ a ∈ calls, a.Regular) →
      (disconnect.Runs callByCall .whole m calls result m' ↔
        (∃ consumers publishers connection, calls = consumers ++ publishers ++ connection ∧
          (consumers.map (·.request)).Perm
            (m.consumerChannels.map fun c => .closeChannel c.channel) ∧
          (publishers.map (·.request)).Perm (m.pool.channels.map .closeChannel) ∧
          connection.map (·.request) = m.connection.toList.map .closeConnection) ∧
        result = .ok () ∧ m' = m.torn)) ∧
    (m.torn.phase = .disconnected ∧ m.torn.connection = none ∧ m.torn.consumerChannels = [] ∧
      m.torn.pool.channels = [] ∧ m.torn.pool.inUse = []) ∧
    (∀ again result' m'', (∀ a ∈ again, a.Regular) →
      (disconnect.Runs callByCall .whole m.torn again result' m'' ↔
        again = [] ∧ result' = .ok () ∧ m'' = m.torn.torn)) ∧
    (disconnect.Runs callByCall .whole m calls result m' → (∃ a ∈ calls, ¬ a.Regular) →
      ∃ e, e.isOrdinary = false ∧ result = .error e ∧ Interrupted m calls e m') := by
  refine ⟨disconnect_calls_iff, ⟨rfl, rfl, rfl, rfl, rfl⟩, ?_, interrupted_of_runs⟩
  intro again result' m'' regular'
  rw [disconnect_calls_iff regular']
  refine and_congr_left fun _ => ⟨?_, ?_⟩
  · rintro ⟨consumers, publishers, connection, rfl, first, second, third⟩
    have first' : consumers = [] := List.map_eq_nil_iff.mp first.eq_nil
    have second' : publishers = [] := List.map_eq_nil_iff.mp second.eq_nil
    have third' : connection = [] := List.map_eq_nil_iff.mp third
    rw [first', second', third']
    rfl
  · rintro rfl
    exact ⟨[], [], [], rfl, .nil, .nil, rfl⟩

/-- A manager that is about to be connected again, with two consumer channels and two publisher
channels of which one is lent. -/
def crowded : Manager :=
  { Client.shop.manager with
    phase := .connecting
    connection := some ⟨7⟩
    consumerChannels := [1, 2].map fun n => ⟨⟨n⟩, { queueName := "orders" }, "events"⟩
    pool := { size := 2, channels := [⟨3⟩, ⟨4⟩], inUse := [⟨4⟩] } }

/-- Three of the five closes fail, and those of one phase come out of order. -/
theorem disconnect_closes_crowded :
    let broken : Except Error Unit := .error (.fault .connection "broken")
    let calls : List (Answer requests) :=
      [⟨.closeChannel ⟨2⟩, broken⟩, ⟨.closeChannel ⟨1⟩, .ok ()⟩, ⟨.closeChannel ⟨4⟩, .ok ()⟩,
        ⟨.closeChannel ⟨3⟩, broken⟩, ⟨.closeConnection ⟨7⟩, broken⟩]
    (∀ a ∈ calls, a.Regular) ∧
      disconnect.Runs callByCall .whole crowded calls (.ok ()) crowded.torn ∧
      crowded.torn.pool.inUse = [] ∧
      disconnect.Runs callByCall .whole crowded.torn [] (.ok ()) crowded.torn.torn := by
  intro broken calls
  have fails : ∀ e, broken = .error e → e.isOrdinary := by
    intro e h
    rw [← Except.error.inj h]
    rfl
  have regular : ∀ a ∈ calls, a.Regular := by
    refine List.forall_mem_cons.mpr ⟨fails, ?_⟩
    refine List.forall_mem_cons.mpr ⟨nofun, List.forall_mem_cons.mpr ⟨nofun, ?_⟩⟩
    refine List.forall_mem_cons.mpr ⟨fails, ?_⟩
    exact List.forall_mem_singleton.mpr fails
  obtain ⟨runs, ⟨-, -, -, -, free⟩, again, -⟩ :=
    disconnect_closes_each_once crowded calls (.ok ()) crowded.torn
  refine ⟨regular, (runs regular).mpr ⟨⟨calls.take 2, (calls.drop 2).take 2, calls.drop 4, rfl,
    ?_, ?_, rfl⟩, rfl, rfl⟩, free, ?_⟩
  · exact .swap ..
  · exact .swap ..
  · exact (again [] (.ok ()) _ (List.forall_mem_nil _)).mpr ⟨rfl, rfl, rfl⟩

end Connection.Manager

end BrokerClient
