import BrokerClient.Proofs.Ownership.Pool

/-!
# What a manager opens and closes

A manager tracks the consumer channels that it makes and closes those that it cannot make; it holds
one connection, and a connection attempt that fails is torn down again. So every program of a
manager keeps what it holds and a program besides, whatever fails. Closing is counted by the call:
a channel that could not be closed leaves the ledger like any other.

## Main results

* `Client.Holding.keeps_createConsumerChannel`, `Client.Holding.keeps_removeConsumerChannel` —
  consumer channels.
* `Client.Holding.keeps_connect`, `Client.Holding.keeps_disconnect` — the connection.
-/

namespace BrokerClient

open Broker Channel Connection

namespace Client

namespace Holding

variable {σ : Type} {env : Client.Surroundings} {part : Lens Client.Course σ}
  {w : Client.Course} {cs : List ChannelId}

/-- A change that leaves the ledger as it is. -/
theorem modifyManager (h : Holding cs w) {f : Manager → Manager}
    (same : ∀ m, (f m).ledger = m.ledger) : Holding cs (managerAt.modify f w) := by
  have moved : Balanced ((f w.state.manager).ledger.hold cs) w := by
    rw [same]
    exact h
  exact moved.state _

theorem keeps_onPool {α : Type} {p : Pool.Act α}
    (h : p.Keeps (poolHost env) poolAt (Holding cs)) :
    (Manager.onPool p).Keeps env.host managerAt (Holding cs) := by
  intro w hw
  rw [Manager.onPool, Program.ends_within]
  exact h w hw

theorem keeps_borrow (henv : Faithful env) :
    Manager.borrow.Keeps env.host managerAt (Holding cs) := by
  refine .seq .state fun m => ?_
  split
  · exact keeps_onPool (keeps_acquire henv)
  · exact .fail rfl

theorem keeps_giveBack (c : ChannelId) :
    (Manager.giveBack c).Keeps env.host managerAt (Holding cs) :=
  keeps_onPool (keeps_release c)

theorem keeps_log (level : Log.Level) (logger : Log.Logger) (message : String)
    (details : List (String × Json)) :
    (Program.log level logger message details : Act σ Unit).Keeps env.host part (Holding cs) :=
  .signal (fun x _ h => h.note x) _

theorem keeps_logFailure (logger : Log.Logger) (message : String) (error : Error)
    (details : List (String × Json)) :
    (Program.logFailure logger message error details : Act σ Unit).Keeps env.host part
      (Holding cs) :=
  .signal (fun x _ h => h.note x) _

/-- Provisioning gives a consumer channel on the channel that it was given. -/
theorem ends_provision (henv : Faithful env) (h : Holding cs w) (c : ChannelId)
    (o : ConsumerOptions) (exchange : String) :
    (provision c o exchange : Act σ ConsumerChannel).Ends env.host part
      (fun d w => d.channel = c ∧ Holding cs w) (fun e w => Holding cs w ∧ e.isOrdinary) w := by
  have declared (exchange : String) :
      (declareExchange c o exchange : Act σ Unit).Keeps env.host part (Holding cs) :=
    .seq (keeps_ask henv rfl) fun _ => keeps_log _ _ _ _
  have queued : (declareQueue c o : Act σ Unit).Keeps env.host part (Holding cs) :=
    .seq (keeps_ask henv rfl) fun _ => keeps_log _ _ _ _
  have bound (exchange : String) :
      (bindQueue c o exchange : Act σ Unit).Keeps env.host part (Holding cs) := by
    unfold bindQueue
    split
    · exact .seq (keeps_ask henv rfl) fun _ => keeps_log _ _ _ _
    · exact .done ()
  have limited : (setPrefetch c o : Act σ Unit).Keeps env.host part (Holding cs) :=
    .seq (keeps_ask henv rfl) fun _ => keeps_log _ _ _ _
  simp only [provision, Program.ends_seq, Program.ends_pure]
  refine (declared _ w h).mono (fun _ w h => ?_) fun _ _ h => h
  refine (queued w h).mono (fun _ w h => ?_) fun _ _ h => h
  refine (bound _ w h).mono (fun _ w h => ?_) fun _ _ h => h
  exact (limited w h).mono (fun _ _ h => ⟨trivial, h⟩) fun _ _ h => h

/-- A channel that could not be made a consumer channel is closed. -/
theorem ends_closeUnused (henv : Faithful env) {c : ChannelId} (h : Holding (c :: cs) w)
    (purpose : String) {err : Error → Client.Course → Prop} :
    (closeQuietly (ask (.closeChannel c) : Act σ Unit) purpose).Ends env.host part
      (fun _ => Holding cs) err w :=
  ends_closeQuietly (fun x _ h => h.note x) purpose (h.ends_close henv)

/-- A consumer channel that is created is tracked; if provisioning it fails, it is closed. -/
theorem keeps_createConsumerChannel (henv : Faithful env) (o : ConsumerOptions) :
    (Manager.createConsumerChannel o).Keeps env.host managerAt (Holding cs) := by
  refine .seq .state fun m => ?_
  split
  · exact .fail rfl
  rename_i connection _
  refine .seq (keeps_log _ _ _ _) fun _ w h => ?_
  refine .seq (M := fun c => Holding (c :: cs)) ?opened fun c w h => ?_
  case opened =>
    exact .rescue (h.ends_open henv connection) fun e w h => ⟨h.note _, rfl⟩
  refine .seq (M := fun d w => d.channel = c ∧ Holding (c :: cs) w) ?provisioned ?_
  case provisioned =>
    refine .rescue (h.ends_provision henv c o _) fun e w h => ?_
    simp only [Manager.logConsumerFailure, Program.logFailure, Program.ends_seq,
      Program.ends_signal]
    exact ((h.note _).ends_closeUnused henv "consumer").mono (fun _ _ h => ⟨h, rfl⟩)
      fun _ _ h => h
  rintro d w ⟨rfl, h⟩
  have tracked : Holding cs (managerAt.modify (Manager.track d) w) := by
    refine h.modify (fun m => ?_) fun _ => rfl
    simp only [Manager.ledger, Manager.track, List.map_append, List.map_cons, List.map_nil,
      List.append_assoc, List.singleton_append]
    exact .refl _
  exact tracked.note _

/-- What is tracked once is what is tracked besides one channel, and this channel. -/
private theorem tracked_perm {tracked : List ConsumerChannel} {c : ChannelId}
    (nodup : (tracked.map (·.channel)).Nodup) (hc : c ∈ tracked.map (·.channel)) :
    (tracked.map (·.channel)).Perm
      ((tracked.filter fun d => d.channel != c).map (·.channel) ++ [c]) := by
  have rest : (tracked.filter fun d => d.channel != c).map (·.channel) =
      (tracked.map (·.channel)).erase c := by
    rw [nodup.erase_eq_filter, List.filter_map]
    rfl
  rw [rest]
  exact (List.perm_cons_erase hc).trans (List.perm_append_singleton _ _).symm

/-- A consumer channel that is removed is closed once and tracked no more. -/
theorem keeps_removeConsumerChannel (henv : Faithful env) (c : ConsumerChannel) :
    (Manager.removeConsumerChannel c).Keeps env.host managerAt (Holding cs) := by
  intro w h
  let m := w.state.manager
  simp only [Manager.removeConsumerChannel, Program.ends_seq, Program.ends_state]
  split
  · rename_i tracked
    have hc : c.channel ∈ m.consumerChannels.map (·.channel) := by
      obtain ⟨d, hd, eq⟩ := List.any_eq_true.mp tracked
      exact List.mem_map.mpr ⟨d, hd, eq_of_beq eq⟩
    -- nothing was opened twice, so no two consumer channels have the same channel
    have nodup : (m.consumerChannels.map (·.channel)).Nodup := by
      have all := h.channels_perm.nodup h.channels_nodup
      simp only [Ledger.hold, Manager.ledger, List.append_assoc] at all
      exact (List.nodup_append.mp (List.nodup_append.mp all).2.1).1
    have held : At m ((m.untrack c).ledger.hold (c.channel :: cs)) w := by
      refine ⟨rfl, h.perm ?_ (.refl _)⟩
      simp only [Ledger.hold, Manager.ledger, Manager.untrack, List.append_assoc]
      refine .append_left _ ?_
      rw [← List.singleton_append, ← List.append_assoc]
      exact (tracked_perm nodup hc).append_right _
    refine .seq (M := fun _ => At m ((m.untrack c).ledger.hold cs))
      (ends_closeQuietly (fun x _ h => h.note x) "consumer" (held.ends_close henv)) fun _ w h => ?_
    have untracked : Holding cs (managerAt.modify (Manager.untrack c) w) :=
      of_at (h.modify (Manager.untrack c))
    exact untracked.note _
  · exact h.note _

/-! ### Connecting and disconnecting -/

/-- The consumer channels are closed and forgotten together. -/
theorem keeps_closeConsumerChannels (henv : Faithful env) :
    Manager.closeConsumerChannels.Keeps env.host managerAt (Holding cs) := by
  intro w h
  let m := w.state.manager
  let after : Ledger := ⟨m.pool.channels ++ cs, m.connection.toList⟩
  have channels : (m.ledger.hold cs).channels.Perm
      (after.channels ++ m.consumerChannels.map (·.channel)) := by
    simp only [Ledger.hold, Manager.ledger, after, List.append_assoc]
    exact List.perm_append_comm.append_left _
  have closed {w : Client.Course} (h : At m (m.ledger.hold cs) w) :
      (do
        ask (.closeChannels "consumer" (m.consumerChannels.map (·.channel)))
        Program.modify fun m => { m with consumerChannels := [] } : Act Manager Unit).Ends env.host
        managerAt (fun _ => Holding cs) (fun e w => Holding cs w ∧ e.isOrdinary) w := by
    refine .seq (M := fun _ => At m after) ?_ fun _ w h => ?_
    · exact (h.ends_closeChannels henv "consumer" after channels rfl).mono (fun _ _ h => h)
        fun _ _ h => h.elim
    · refine of_at (m := { m with consumerChannels := [] }) ?_
      have emptied : ({ m with consumerChannels := [] } : Manager).ledger.hold cs = after := by
        simp [Ledger.hold, Manager.ledger, after]
      rw [emptied]
      exact h.modify fun m => { m with consumerChannels := [] }
  rw [Manager.closeConsumerChannels, Program.ends_seq, Program.ends_state]
  dsimp only
  split
  · rw [Program.log, Program.ends_seq, Program.ends_signal]
    exact closed ⟨rfl, h.note _⟩
  · exact closed ⟨rfl, h⟩

/-- A connection is closed once and forgotten, whether closing it fails or not. -/
theorem keeps_closeConnection (henv : Faithful env) :
    Manager.closeConnection.Keeps env.host managerAt (Holding cs) := by
  intro w h
  let m := w.state.manager
  simp only [Manager.closeConnection, Program.ends_seq, Program.ends_state]
  split
  · rename_i c connection
    have connected : w.state.manager.connection = some c := connection
    let after : Ledger := ⟨(m.ledger.hold cs).channels, []⟩
    have closed : (ask (.closeConnection c) : Act Manager Unit).Ends env.host managerAt
        (fun _ => At m after) (fun e w => At m after w ∧ e.isOrdinary) w := by
      refine At.ends_ask henv ⟨rfl, h⟩ (.closeConnection c) (fun _ => after) (fun reply => .refl _)
        fun reply => ?_
      simp only [Ledger.hold, Manager.ledger, connected]
      exact .refl _
    refine .seq (M := fun _ => At m after) ?_ fun _ w h => ?_
    · exact .rescue closed fun e w h => h.note _
    · exact of_at (h.modify fun m => { m with connection := none })
  · exact h

theorem keeps_disconnect (henv : Faithful env) :
    Manager.disconnect.Keeps env.host managerAt (Holding cs) :=
  .seq (.modify fun _ h => h.modifyManager fun _ => rfl) fun _ =>
    .seq (keeps_closeConsumerChannels henv) fun _ =>
    .seq (keeps_onPool (keeps_poolClose henv)) fun _ =>
    .seq (keeps_closeConnection henv) fun _ =>
    .seq (.modify fun _ h => h.modifyManager fun _ => rfl) fun _ => keeps_log _ _ _ _

/-- The channel on which the shared exchanges are declared is closed in the end. -/
theorem keeps_bootstrap (henv : Faithful env) (connection : ConnectionId)
    (names : Routing.ExchangeNames) :
    (Routing.bootstrap connection names : Act σ Unit).Keeps env.host part (Holding cs) := by
  refine .seq (keeps_log _ _ _ _) fun _ w h => ?_
  refine .seq (M := fun c => Holding (c :: cs)) (h.ends_open henv connection) fun c w h => ?_
  have declared : (Routing.declareExchanges c names : Act σ Unit).Keeps env.host part
      (Holding (c :: cs)) :=
    .forM fun spec _ => .seq (keeps_ask henv rfl) fun _ => keeps_log _ _ _ _
  refine .seq (M := fun _ => Holding cs) ?_ fun _ => keeps_log _ _ _ _
  simp only [Program.ends_ensuring, Program.ends_seq, Program.ends_pure]
  refine (declared w h).mono (fun _ w h => h.ends_closeUnused henv "topology") fun e w h => ?_
  exact (h.1.ends_closeUnused henv "topology").mono (fun _ _ closed => ⟨closed, h.2⟩)
    fun _ _ h => h

/-- A connection that is opened is the one that the manager holds. -/
theorem ends_establish (henv : Faithful env) (h : Holding cs w)
    (idle : w.state.manager.connection = none) :
    Manager.establish.Ends env.host managerAt (fun _ => Holding cs)
      (fun e w => Holding cs w ∧ e.isOrdinary) w := by
  let m := w.state.manager
  let after (reply : Except Error ConnectionId) : Ledger :=
    ⟨(m.ledger.hold cs).channels, reply.toOption.toList⟩
  have refused (e : Error) : after (.error e) = m.ledger.hold cs := by
    simp only [Ledger.hold, Manager.ledger, after, m, idle]
    rfl
  have connected : (ask (.connect m.settings.url m.settings.heartbeat
      m.settings.reconnectInterval) : Act Manager ConnectionId).Ends env.host managerAt
      (fun c => At m (after (.ok c))) (fun e w => Holding cs w ∧ e.isOrdinary) w := by
    refine (At.ends_ask henv ⟨rfl, h⟩ (.connect ..) after (fun _ => .refl _) fun reply => ?_).mono
      (fun _ _ h => h) fun e w h => ⟨of_at (refused e ▸ h.1), h.2⟩
    simp only [Ledger.hold, Manager.ledger, idle]
    cases reply <;> exact .refl _
  rw [Manager.establish, Program.ends_seq, Program.ends_state]
  refine .seq connected fun c w h => ?_
  rw [Program.ends_seq, Program.ends_modify]
  refine (Program.Keeps.seq (keeps_bootstrap henv c _) fun _ => keeps_onPool (keeps_fill henv)) _ ?_
  exact of_at (h.modify fun m => { m with connection := some c, watching := m.watching ++ [c] })

/-- A connection attempt that fails is torn down by disconnecting. -/
theorem keeps_connect (henv : Faithful env) :
    Manager.connect.Keeps env.host managerAt (Holding cs) := by
  intro w h
  rw [Manager.connect, Program.ends_seq, Program.ends_state]
  dsimp only
  split
  · exact h.note _
  rename_i free
  -- only a manager without a connection gets here, so that none is forgotten
  have idle : w.state.manager.connection = none := by
    rw [Bool.or_eq_true, not_or] at free
    exact Option.not_isSome_iff_eq_none.mp free.1
  have begun : Holding cs (managerAt.modify (fun m => { m with phase := .connecting }) w) :=
    h.modifyManager fun _ => rfl
  rw [Program.ends_seq, Program.ends_modify, Program.log]
  dsimp only
  rw [Program.ends_seq, Program.ends_signal]
  refine .seq (M := fun _ => Holding cs) ?_ fun _ => Program.Keeps.seq
    (.modify fun _ h => h.modifyManager fun _ => rfl) fun _ =>
    .seq .state fun _ => keeps_log _ _ _ _
  refine .rescue (M := fun e w => Holding cs w ∧ e.isOrdinary)
    ((ends_establish henv (begun.note _) idle).mono (fun _ _ h => h) fun _ _ h => ⟨h, h.2⟩) ?_
  rintro e w ⟨h, ordinary⟩
  exact (Program.Keeps.seq (keeps_logFailure _ _ _ _) fun _ =>
    .seq (keeps_disconnect henv) fun _ => .fail ordinary) w h

/-! ### What the transport reports -/

theorem keeps_restored : Manager.restored.Keeps env.host managerAt (Holding cs) :=
  .seq (.modify fun _ h => h.modifyManager fun _ => rfl) fun _ =>
    .seq .state fun _ => keeps_log _ _ _ _

theorem keeps_lost (error : Option Error) :
    (Manager.lost error).Keeps env.host managerAt (Holding cs) := by
  refine .seq .state fun m => ?_
  dsimp only
  split
  · refine .seq (.modify fun _ h => h.modifyManager fun m => ?_) fun _ => keeps_log _ _ _ _
    split <;> rfl
  · exact keeps_log _ _ _ _

end Holding

end Client

end BrokerClient
