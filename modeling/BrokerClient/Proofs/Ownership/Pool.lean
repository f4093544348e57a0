import BrokerClient.Proofs.Ownership.Ledger

/-!
# What the pool of a manager opens and closes

A channel that the pool opens either joins it or is closed, and a close of the pool closes just the
channels that it makes the pool forget. So every program of the pool keeps what the manager holds
and a program besides, whatever fails.

## Main definitions

* `Client.managerAt`, `Client.poolAt`, `Client.poolHost` — where the pool is and what serves it.

## Main results

* `Client.Holding.keeps_fill`, `Client.Holding.keeps_acquire`, `Client.Holding.keeps_release`,
  `Client.Holding.keeps_poolClose` — the programs of the pool keep what is held.
-/

namespace BrokerClient

open Broker Channel Connection

namespace Client

/-- Where the manager is in a course. -/
def managerAt : Lens Client.Course Manager :=
  Course.on managerPart

/-- Where the pool is in a course. -/
def poolAt : Lens Client.Course Pool :=
  managerAt.andThen Manager.poolPart

/-- What serves the requests of a pool. -/
def poolHost (env : Client.Surroundings) : Host Pool.requests Client.Course :=
  Program.hostWithin env.host managerAt Manager.servePool

/-- A quiet close ends as one that succeeds and as one that fails alike. -/
theorem ends_closeQuietly {S : Signature} {σ : Type} {host : Host S Client.Course}
    {part : Lens Client.Course σ} {I : Client.Course → Prop} {w : Client.Course}
    (hear : ∀ x w, I w → I (host.hear x w)) {close : Program S σ Unit} (purpose : String)
    {err : Error → Client.Course → Prop}
    (h : close.Ends host part (fun _ => I) (fun e w => I w ∧ e.isOrdinary) w) :
    (closeQuietly close purpose).Ends host part (fun _ => I) err w :=
  .rescue (.seq h fun _ _ h => h) fun _ w h => hear _ w h

namespace Holding

variable {σ : Type} {env : Client.Surroundings} {part : Lens Client.Course σ}
  {w : Client.Course} {cs : List ChannelId}

/-- A change of the pool has to keep what is held all in all. -/
theorem modifyPool {cs' : List ChannelId} (h : Holding cs w) {f : Pool → Pool}
    (channels : ∀ p : Pool, (p.channels ++ cs).Perm ((f p).channels ++ cs')) :
    Holding cs' (poolAt.modify f w) := by
  refine h.modify (f := fun m => { m with pool := f m.pool }) (fun m => ?_) fun _ => rfl
  simp only [Manager.ledger]
  generalize m.consumerChannels.map (·.channel) = tracked
  calc List.Perm (m.pool.channels ++ tracked ++ cs) (m.pool.channels ++ cs ++ tracked) := by
        rw [List.append_assoc, List.append_assoc]
        exact List.perm_append_comm.append_left _
    List.Perm _ ((f m.pool).channels ++ cs' ++ tracked) := (channels m.pool).append_right _
    List.Perm _ ((f m.pool).channels ++ tracked ++ cs') := by
        rw [List.append_assoc, List.append_assoc]
        exact List.perm_append_comm.append_left _

theorem ends_poolOpen (henv : Faithful env) (h : Holding cs w) :
    Pool.openChannel.Ends (poolHost env) poolAt (fun c => Holding (c :: cs))
      (fun e w => Holding cs w ∧ e.isOrdinary) w := by
  have served : (Pool.ask .openChannel).Ends (poolHost env) poolAt (fun c => Holding (c :: cs))
      (fun e w => Holding cs w ∧ e.isOrdinary) w := by
    rw [Pool.ask, poolHost, Program.ends_perform_within, Manager.servePool]
    simp only [Program.ends_seq, Program.ends_state]
    cases (managerAt.get w).connection with
    | some connection => exact h.ends_open henv connection
    | none => exact ⟨h, rfl⟩
  exact .rescue served fun e w h => ⟨h.note _, rfl⟩

/-- A channel that has come too late is closed quietly. -/
theorem ends_discard (henv : Faithful env) {c : ChannelId} (h : Holding (c :: cs) w) :
    (closeQuietly (Pool.ask (.closeChannel c)) "publisher").Ends (poolHost env) poolAt
      (fun _ => Holding cs) (fun e w => Holding cs w ∧ e.isOrdinary) w := by
  refine ends_closeQuietly (fun x _ h => h.note x) "publisher" ?_
  rw [Pool.ask, poolHost, Program.ends_perform_within, Manager.servePool]
  exact h.ends_close henv

theorem keeps_openFor (henv : Faithful env) (generation : Nat) (operation : String)
    {join : ChannelId → Pool → Pool}
    (joins : ∀ c p, (join c p).channels = p.channels ++ [c]) :
    (Pool.openFor generation operation join).Keeps (poolHost env) poolAt (Holding cs) := by
  intro w h
  rw [Pool.openFor, Program.ends_seq]
  refine (h.ends_poolOpen henv).mono (fun c w h => ?_) fun _ _ h => h
  simp only [Program.ends_seq, Program.ends_state]
  split
  · refine h.modifyPool fun p => ?_
    rw [joins, List.append_assoc]
    exact .refl _
  · simp only [Pool.discardStale, Program.log, Program.ends_seq, Program.ends_state,
      Program.ends_signal, Program.ends_fail, Program.ends_pure]
    exact (ends_discard henv (h.note _)).mono (fun _ _ h => ⟨h, rfl⟩) fun _ _ h => h

theorem keeps_fill (henv : Faithful env) : Pool.fill.Keeps (poolHost env) poolAt (Holding cs) := by
  have rounds (generation rounds : Nat) :
      (Pool.fillFrom generation rounds).Keeps (poolHost env) poolAt (Holding cs) := by
    induction rounds with
    | zero => exact .done ()
    | succ rounds ih =>
      refine .seq .state fun p => ?_
      split
      · refine .seq (keeps_openFor henv _ _ fun _ _ => rfl) fun _ => .seq .state fun p => ?_
        exact .seq (.signal (fun x _ h => h.note x) _) fun _ => ih
      · exact .done ()
  exact .seq .state fun p => .seq (.signal (fun x _ h => h.note x) _) fun _ => rounds _ _

theorem keeps_acquire (henv : Faithful env) :
    Pool.acquire.Keeps (poolHost env) poolAt (Holding cs) := by
  refine .seq .state fun p => ?_
  split
  · refine .seq (.modify fun w h => h.modifyPool fun p => ?_) fun _ =>
      .seq (.signal (fun x _ h => h.note x) _) fun _ => .done _
    exact .refl _
  · exact .seq (.signal (fun x _ h => h.note x) _) fun _ =>
      keeps_openFor henv _ _ fun _ _ => rfl

theorem keeps_release (c : ChannelId) :
    (Pool.release c).Keeps (poolHost env) poolAt (Holding cs) := by
  refine .seq .state fun p => ?_
  split
  · refine .seq (.modify fun w h => h.modifyPool fun p => ?_) fun _ =>
      .signal (fun x _ h => h.note x) _
    exact .refl _
  · exact .signal (fun x _ h => h.note x) _

/-- A close empties the pool of just the channels that it has closed. -/
theorem keeps_poolClose (henv : Faithful env) :
    Pool.close.Keeps (poolHost env) poolAt (Holding cs) := by
  intro w h
  let m := w.state.manager
  let closed : Ledger := ⟨m.consumerChannels.map (·.channel) ++ cs, m.connection.toList⟩
  -- the channels leave the ledger when they are closed, and the pool only after that
  have begun : At { m with pool := m.pool.beginClose } (m.ledger.hold cs)
      (poolAt.modify Pool.beginClose w) :=
    At.modify ⟨rfl, h⟩ fun m => { m with pool := m.pool.beginClose }
  have channels : (m.ledger.hold cs).channels.Perm (closed.channels ++ m.pool.channels) := by
    simp only [Ledger.hold, Manager.ledger, closed, List.append_assoc]
    rw [← List.append_assoc _ cs]
    exact List.perm_append_comm
  have forgotten {w : Client.Course} (h : At { m with pool := m.pool.beginClose } closed w) :
      Holding cs (poolAt.modify Pool.forget (poolAt.modify Pool.endClose w)) :=
    of_at ((h.modify fun m => { m with pool := m.pool.endClose }).modify fun m =>
      { m with pool := m.pool.forget })
  simp only [Pool.close, Program.log, Program.ends_seq, Program.ends_state, Program.ends_modify,
    Program.ends_signal, Program.ends_ensuring, Pool.ask]
  rw [poolHost, Program.ends_perform_within, Manager.servePool]
  refine ((begun.note _).ends_closeChannels henv "publisher" closed channels rfl).mono
    (fun _ w h => (forgotten h).note _) fun _ _ h => h.elim

end Holding

end Client

end BrokerClient
