import BrokerClient.Consumer
import BrokerClient.Program.Laws
import BrokerClient.Proofs.Restarting
import BrokerClient.Proofs.Tracking.Abandonment
import BrokerClient.Proofs.Tracking.Calls

/-!
# Starts and stops of one consumer

However starts and stops of one consumer overlap, and whatever fails, once no call waits the manager
tracks no channel that has been opened for the consumer but the consumer's own, unless one has been
abandoned. What has been abandoned outlives a stop: nobody knows it any more who could close it. So
a consumer leaves nothing behind as long as none of its starts has a channel in the making while
another one has, or while a channel is being closed.

## Main definitions

* `Client.turnover` — how starts and stops of a consumer run side by side.

## Main results

* `Client.abides_create`, `Client.abides_remove`, `Client.abides_stop`, `Client.abides_begin` — what
  the parts of starts and stops do to the channels of the consumer.
* `Client.tracks_only_own_iff` — which channels are left behind, and how.
-/

namespace BrokerClient.Client

open Broker Channel Connection
open Manager (isMaking)

/-! ### Programs of the manager -/

section On

variable {σ τ : Type} (part : Lens σ τ)

theorem on_closeQuietly (c : ChannelId) (purpose : String) :
    (closeQuietly (ask (.closeChannel c)) purpose : Act τ Bool).on part =
      closeQuietly (ask (.closeChannel c)) purpose := by
  simp only [closeQuietly, ask, Program.perform, Program.on_rescue, Program.on_bind,
    Program.on_call, Program.on_ofExcept]
  rfl

theorem on_bindQueue (c : ChannelId) (o : ConsumerOptions) (exchange : String) :
    (bindQueue c o exchange : Act τ Unit).on part = bindQueue c o exchange := by
  unfold bindQueue
  split
  · simp only [ask, bind, Program.perform, Program.on_bind, Program.on_call, Program.on_ofExcept]
    rfl
  · rfl

/-- A channel is provisioned in the same way whatever the state. -/
theorem on_provision (c : ChannelId) (o : ConsumerOptions) (exchange : String) :
    (provision c o exchange : Act τ ConsumerChannel).on part = provision c o exchange := by
  simp only [provision, declareExchange, declareQueue, setPrefetch, ask, bind, Program.perform,
    Program.on_bind, Program.on_call, Program.on_ofExcept, on_bindQueue]
  rfl

end On

/-! ### Calls -/

/-- How starts and stops of a consumer run side by side, if the manager tracked some channels in the
beginning. In between, the transport may say which channels are closed. The broker opens every
channel once, and nothing is cancelled. -/
def turnover (i r : Nat) (first : List ChannelId) : Rules requests Client Unit where
  begins p := p = Consumer.start (site i r) ∨ p = Consumer.stop (site i r) ∨
    ∃ closed, p = .modify fun s => { s with closed := closed }
  pass _ := none
  allows w q reply := (∀ c ∈ q.opens reply, c ∉ first ∧ c ∉ openings w.past) ∧
    ∀ e, reply = .error e → e.isOrdinary

section Calls

variable {i r : Nat} {first : List ChannelId} {w : Moment} {q : Request} {c : ChannelId}

/-- A request that has been asked for, by way of what holds after its reply. -/
theorem abides_ask (asked : Tenure i first [] [] (w.ask q))
    (closes : ∀ c ∈ q.closes, q = .closeChannel c) {ok : q.Reply → Moment → Prop}
    {err : Error → Moment → Prop}
    (hok : ∀ w' a, (w.ask q).Before w' → Tenure i first [] [] w' → w'.Awaits q →
      Tenure i first (q.opens (.ok a) ++ q.provisions) q.closes (w'.reply q (.ok a)) →
      ok a (w'.reply q (.ok a)))
    (herr : ∀ w' e, (w.ask q).Before w' → Tenure i first [] [] w' → w'.Awaits q → e.isOrdinary →
      Tenure i first (q.opens (.error e) ++ q.provisions) q.closes (w'.reply q (.error e)) →
      err e (w'.reply q (.error e))) :
    (ask q : Act Client q.Reply).Abides (turnover i r first) (Tenure i first [] []) ok err w := by
  refine (Program.abides_perform rfl).mpr ⟨asked, fun w' reply after h awaits may => ?_⟩
  have replied := h.reply awaits closes may.1
  cases reply with
  | ok a => exact hok w' a after h awaits replied
  | error e => exact herr w' e after h awaits (may.2 e rfl) replied

/-- A request that neither makes nor closes channels. -/
theorem abides_plain (h : Tenure i first [] [] w) (making : isMaking q = false)
    (provisions : q.provisions = []) (closes : q.closes = []) :
    (ask q : Act Client q.Reply).Abides (turnover i r first) (Tenure i first [] [])
      (fun _ => Tenure i first [] []) (fun e w => Tenure i first [] [] w ∧ e.isOrdinary) w := by
  have opens (a : Except Error q.Reply) : q.opens a ++ q.provisions = [] := by
    rw [provisions, List.append_nil]
    cases q with
    | openChannel => cases making
    | _ => rfl
  refine abides_ask (h.ask_plain making provisions closes) (by simp [closes]) ?_ ?_
  · intro w' a _ _ _ h
    rwa [opens, closes] at h
  · intro w' e _ _ _ ordinary h
    rw [opens, closes] at h
    exact ⟨h, ordinary⟩

/-- A request that provisions a channel, after which the channel is in hand again. -/
theorem abides_provisioning (h : Tenure i first [c] [] w) (provisions : q.provisions = [c]) :
    (ask q : Act Client q.Reply).Abides (turnover i r first) (Tenure i first [] [])
      (fun _ => Tenure i first [c] []) (fun e w => Tenure i first [c] [] w ∧ e.isOrdinary) w := by
  have opens (a : Except Error q.Reply) : q.opens a ++ q.provisions = [c] := by
    rw [provisions]
    cases q with
    | openChannel => cases provisions
    | _ => rfl
  have closes : q.closes = [] := by
    cases q with
    | closeChannel | closeChannels => cases provisions
    | _ => rfl
  refine abides_ask (h.ask_provision provisions) (by simp [closes]) ?_ ?_
  · intro w' a _ _ _ held
    rwa [opens, closes] at held
  · intro w' e _ _ _ ordinary held
    rw [opens, closes] at held
    exact ⟨held, ordinary⟩

/-- A close, by way of what holds after it. -/
theorem abides_close {purpose : String} {ok : Bool → Moment → Prop}
    {err : Error → Moment → Prop} (asked : Tenure i first [] [] (w.ask (.closeChannel c)))
    (closed : ∀ w' closed, (w.ask (Request.closeChannel c)).Before w' → Tenure i first [] [c] w' →
      Loose i w' → ok closed w') :
    (closeQuietly (ask (.closeChannel c)) purpose : Act Client Bool).Abides (turnover i r first)
      (Tenure i first [] []) ok err w := by
  let q : Request := .closeChannel c
  have closes : ∀ d ∈ q.closes, q = .closeChannel d := by
    intro d hd
    obtain rfl := List.mem_singleton.mp hd
    rfl
  refine Channel.abides_closeQuietly (abides_ask asked closes ?_ ?_)
  · intro w' a after h awaits replied
    exact closed _ true (after.trans (w'.before_reply ..)) replied (h.loose_of_reply awaits rfl _)
  · intro w' e after h awaits ordinary replied
    refine ⟨closed _ false (after.trans (w'.before_reply ..)) replied ?_, ordinary⟩
    exact h.loose_of_reply awaits rfl _

/-! ### Calls keep it -/

theorem abides_current_seq {α : Type} {rules : Rules requests Client Unit} {I : Moment → Prop}
    {f : Consumer → Act Client α} {ok : α → Moment → Prop} {err : Error → Moment → Prop} :
    (Consumer.current (site i r) >>= f).Abides rules I ok err w ↔
      (f (w.state.consumers i)).Abides rules I ok err w :=
  Iff.rfl

/-- The channel of a consumer channel has been in hand, and has just been tracked. -/
def JustTracked (i : Nat) (first : List ChannelId) (d : ConsumerChannel) (w : Moment) : Prop :=
  ∃ w₁, Tenure i first [d.channel] [] w₁ ∧ w = w₁.change (managerPart.modify (Manager.track d))

/-- A consumer channel is made while the consumer has none of its own. -/
theorem abides_create (h : Tenure i first [] [] w) (idle : ownChannel i w.state = none)
    (o : ConsumerOptions) :
    ((Manager.createConsumerChannel o).on managerPart).Abides (turnover i r first)
      (Tenure i first [] []) (JustTracked i first) (fun _ => Tenure i first [] []) w := by
  simp only [Manager.createConsumerChannel, bind, Program.state, Program.bind, Program.on_read,
    Program.Abides, get_managerPart]
  cases w.state.manager.connection with
  | none => exact h
  | some k =>
    have opens : (ask (.openChannel k) : Connection.Act ChannelId).on managerPart =
        ask (.openChannel k) := Program.on_perform managerPart (S := requests) (.openChannel k)
    simp only [Program.log, Program.signal, Program.bind, Program.on_emit, Program.on_bind,
      Program.on_rescue, Program.Abides, opens, on_provision, on_closeQuietly]
    refine Program.abides_bind.mpr (Program.abides_rescue.mpr
      (abides_ask (h.ask_open idle k) (fun _ hc => absurd hc List.not_mem_nil) ?opened ?failed))
    case failed =>
      intro w' e _ _ _ ordinary h
      rw [if_pos ordinary]
      exact h
    case opened =>
      intro w' c _ _ _ held
      refine Program.abides_bind.mpr (Program.abides_rescue.mpr
        ((Channel.abides_provision (fun _ _ h => abides_provisioning h) held o _).mono ?_ ?_))
      · rintro d w ⟨rfl, held⟩
        exact ⟨w, held, rfl⟩
      · rintro e w ⟨held, ordinary⟩
        rw [if_pos ordinary]
        refine (Program.abides_bind (p := closeQuietly _ _)).mpr
          (abides_close held.ask_close_hand ?_)
        exact fun w' _ after shut _ => shut.forget (held.discards.mono after)

/-- The channel that the consumer has is closed if it is tracked, and then tracked no more. -/
theorem abides_remove (h : Tenure i first [] [] w) {d : ConsumerChannel}
    (own : ownChannel i w.state = some d.channel) :
    ((Manager.removeConsumerChannel d).on managerPart).Abides (turnover i r first)
      (Tenure i first [] []) (fun _ w => Tenure i first [] [] w ∧ Loose i w)
      (fun _ => Tenure i first [] []) w := by
  simp only [Manager.removeConsumerChannel, bind, Program.state, Program.bind, Program.on_read,
    Program.Abides]
  by_cases tracks : (managerPart.get w.state).tracks d
  · rw [if_pos tracks, Program.on_bind, on_closeQuietly]
    refine Program.abides_bind.mpr (abides_close (h.ask_close_own own) ?_)
    intro w' _ after shut loose
    have left : Tenure i first [] [] (w'.change (managerPart.modify (Manager.untrack d))) :=
      shut.untrack (mem_closings_of_before after) (fun _ => Manager.mem_tracked_untrack) rfl
    exact ⟨left, loose.change rfl fun c tracked => (Manager.mem_tracked_untrack.mp tracked).1⟩
  · rw [if_neg tracks]
    refine ⟨h, fun c has tracked => ?_⟩
    cases own.symm.trans has
    exact absurd (Manager.tracks_iff.mpr tracked) tracks

theorem abides_removeChannel (h : Tenure i first [] [] w) :
    (Consumer.removeChannel (site i r)).Abides (turnover i r first) (Tenure i first [] [])
      (fun _ w => Tenure i first [] [] w ∧ Loose i w) (fun _ => Tenure i first [] []) w := by
  rw [Consumer.removeChannel, abides_current_seq]
  cases has : (w.state.consumers i).channel with
  | none => exact h
  | some d => exact abides_remove h (by rw [ownChannel, has, Option.map_some])

/-- Cancelling touches no channel. -/
theorem abides_cancel (h : Tenure i first [] [] w) (d : ConsumerChannel) :
    (Consumer.cancel (site i r) d).Abides (turnover i r first) (Tenure i first [] [])
      (fun _ => Tenure i first [] []) (fun _ => Tenure i first [] []) w := by
  unfold Consumer.cancel Program.Abides
  dsimp only
  split
  · split
    · exact h
    · refine Program.abides_rescue.mpr ((abides_plain h rfl rfl rfl).mono (fun _ _ h => h) ?_)
      rintro e w ⟨h, ordinary⟩
      rw [if_pos ordinary]
      exact h
  · exact h

/-- A consumer that has stopped has no channel of its own. -/
theorem abides_stop (h : Tenure i first [] [] w) :
    (Consumer.stop (site i r)).Abides (turnover i r first) (Tenure i first [] [])
      (fun _ w => Tenure i first [] [] w ∧ ownChannel i w.state = none)
      (fun _ => Tenure i first [] []) w := by
  rw [Consumer.stop, abides_current_seq]
  cases has : (w.state.consumers i).channel with
  | none => exact ⟨h, by rw [ownChannel, has, Option.map_none]⟩
  | some d =>
    refine Program.abides_bind.mpr ((abides_cancel h d).mono (fun _ w h => ?_) fun _ _ h => h)
    have untagged := h.change (f := (consumerPart i).modify fun c => { c with tag := none }) rfl
      (ownChannel_modify ..)
    -- what is removed is the channel that the consumer has by now, which need not be `d`
    refine (Program.abides_bind (p := Consumer.removeChannel _)).mpr
      ((abides_removeChannel untagged).mono ?_ fun _ _ h => h)
    rintro _ w ⟨h, loose⟩
    have none : ownChannel i ((consumerPart i).modify (fun c => { c with channel := none })
        w.state) = none := ownChannel_modify ..
    exact ⟨h.letGo loose rfl none, none⟩

/-- A consumer begins to consume while it has no channel of its own. -/
theorem abides_begin (h : Tenure i first [] [] w) (idle : ownChannel i w.state = none) :
    (Consumer.begin (site i r)).Abides (turnover i r first) (Tenure i first [] [])
      (fun _ => Tenure i first [] []) (fun _ => Tenure i first [] []) w := by
  refine (Program.abides_bind (p := Program.on _ _)).mpr
    ((abides_create h idle _).mono ?_ fun _ _ h => h)
  rintro d _ ⟨w, held, rfl⟩
  -- nothing comes between the tracking of the channel and its becoming the consumer's own
  have settled := held.settle (f := managerPart.modify (Manager.track d))
    (g := (consumerPart i).modify fun c => { c with channel := some d }) (by simp) rfl rfl
    (ownChannel_modify ..)
  refine (Program.abides_bind (p := Program.rescue _ _)).mpr (Program.abides_rescue.mpr
    ((abides_plain settled rfl rfl rfl).mono ?_ ?_))
  · exact fun tag w h => h.change rfl (ownChannel_modify ..)
  · rintro e w ⟨h, ordinary⟩
    rw [if_pos ordinary]
    refine Program.abides_bind.mpr ((abides_removeChannel h).mono ?_ fun _ _ h => h)
    rintro _ w ⟨h, loose⟩
    exact h.letGo loose rfl (ownChannel_modify ..)

theorem heeds_start :
    (Consumer.start (site i r)).Heeds (turnover i r first) (Tenure i first [] []) := by
  intro w h
  change (if (w.state.consumers i).isConsuming w.state.closed then _
    else if (w.state.consumers i).channel.isSome then
      Consumer.stop (site i r) >>= fun _ => Consumer.begin (site i r)
    else Consumer.begin (site i r) : Act Client Unit).Abides _ _ _ _ _
  split
  · exact h
  · split
    · refine Program.abides_bind.mpr ((abides_stop h).mono ?_ fun _ _ h => h)
      exact fun _ w ⟨h, idle⟩ => abides_begin h idle
    · rename_i idle
      refine abides_begin h ?_
      rw [ownChannel, Option.not_isSome_iff_eq_none.mp idle, Option.map_none]

theorem heeds_stop :
    (Consumer.stop (site i r)).Heeds (turnover i r first) (Tenure i first [] []) :=
  fun _ h => (abides_stop h).mono (fun _ _ h => h.1) fun _ _ h => h

end Calls

/-! ### All scenes -/

section Scenes

variable {i r : Nat} {s₀ : Client} {s : Scene requests Client Unit}

theorem tenure_of_reached (idle : (s₀.consumers i).channel = none)
    (reached : Scene.Reached (turnover i r s₀.manager.tracked) s₀ s) :
    Tenure i s₀.manager.tracked [] [] s.toMoment := by
  refine reached.holds (.start idle) ?_
  rintro p (rfl | rfl | ⟨closed, rfl⟩)
  · exact heeds_start
  · exact heeds_stop
  · exact .modify fun w h => h.change rfl rfl

/-- However starts and stops of a consumer overlap, once no call waits a channel that has been
opened is tracked only if the consumer has it as its own, unless it has been abandoned. After one
more stop, what has been abandoned is still tracked, and nothing else that has been opened is.
Nothing is abandoned unless a channel was in the making while another one was, or while a channel
was being closed. -/
theorem tracks_only_own_iff (idle : (s₀.consumers i).channel = none)
    (reached : Scene.Reached (turnover i r s₀.manager.tracked) s₀ s) (rest : s.waiting = []) :
    (∀ c ∈ openings s.past,
      (c ∈ s.state.manager.tracked → ownChannel i s.state = some c) ↔ ¬ Abandoned i s.past c) ∧
    (∀ env, Attentive env → ∀ w : Client.Course, w.state = s.state →
      let s' := ((Consumer.stop (site i r)).run env.host Course.statePart w).2.state
      ownChannel i s' = none ∧
        ∀ c ∈ openings s.past, c ∈ s'.manager.tracked ↔ Abandoned i s.past c) ∧
    ∀ c, Abandoned i s.past c → Overlapped s.past := by
  have kept := tenure_of_reached idle reached
  have unclosed {c : ChannelId} (tracked : c ∈ s.state.manager.tracked) : c ∉ closings s.past := by
    intro closed
    obtain shut | waits := kept.whereabouts.closing c tracked closed
    · cases shut
    · rw [reached.awaited_eq_zero rest] at waits
      exact Nat.lt_irrefl 0 waits
  have abandoned {c : ChannelId} (opened : c ∈ openings s.past) :
      Abandoned i s.past c ↔ c ∈ s.state.manager.tracked ∧ ownChannel i s.state ≠ some c := by
    constructor
    · intro abandoned
      obtain ⟨tracked, other, -⟩ := kept.whereabouts.abandoned c abandoned
      exact ⟨tracked, other⟩
    · rintro ⟨tracked, other⟩
      obtain own | abandoned | closed := kept.whereabouts.fate c tracked opened
      · exact absurd own other
      · exact abandoned
      · exact absurd closed (unclosed tracked)
  refine ⟨fun c opened => ?_, ?_, kept.crossing.lost⟩
  · rw [abandoned opened, not_and_not_right]
  · intro env henv w same s'
    obtain ⟨asked, -, runs⟩ := runs_of_attentive henv (Consumer.stop (site i r)) w
    rw [same] at runs
    have stopped := (stopped_of_runs runs).1
    refine ⟨by rw [ownChannel, stopped.channel, Option.map_none], fun c opened => ?_⟩
    rw [stopped.mem_tracked_iff, abandoned opened, and_congr_right_iff]
    intro _
    cases has : (s.state.consumers i).channel with
    | none => simp [ownChannel, has]
    | some d => simp [ownChannel, has, eq_comm]

end Scenes

/-! ### Two starts at once -/

theorem allows_numbers_turnover {i r n : Nat} {first : List ChannelId} {w : Moment}
    (fresh : ⟨n⟩ ∉ first ∧ ⟨n⟩ ∉ openings w.past) (q : Request) :
    (turnover i r first).allows w q (Manager.numbers n q) := by
  cases q with
  | openChannel k =>
    refine ⟨fun c hc => ?_, nofun⟩
    obtain rfl := List.mem_singleton.mp hc
    exact fresh
  | _ => exact ⟨nofun, nofun⟩

/-- The call that has waited longest is granted what it asks for; a channel gets the number. -/
def granted (s : Scene requests Client Unit) (n : Nat) : Scene requests Client Unit :=
  s.move (fun _ => none) (.reply 0 (Manager.numbers n))

theorem reached_granted {i r : Nat} {first : List ChannelId} {s₀ : Client} (ns : List Nat)
    {s : Scene requests Client Unit} (reached : Scene.Reached (turnover i r first) s₀ s)
    (fresh : ∀ k, (h : k < ns.length) →
      ⟨ns[k]⟩ ∉ first ∧ ⟨ns[k]⟩ ∉ openings ((ns.take k).foldl granted s).past) :
    Scene.Reached (turnover i r first) s₀ (ns.foldl granted s) := by
  induction ns generalizing s with
  | nil => exact reached
  | cons n ns ih =>
    have first := fresh 0 (Nat.succ_pos _)
    exact ih (reached.reply 0 (allows_numbers_turnover first)) fun k h =>
      fresh (k + 1) (Nat.succ_lt_succ h)

/-- Consumers at rest, and a manager that is connected. -/
def resting : Client where
  manager := Manager.linked
  consumers _ := .create { queueName := "orders" }
  registries _ := {}
  closed _ := false

/-- Two starts of one consumer, before anything is granted. -/
def rivals : Scene requests Client Unit :=
  let start : Scene.Move requests Client Unit := .begin (Consumer.start (site 0 0))
  (Scene.move (fun _ => none) { state := resting } start).move (fun _ => none) start

/-- Both starts have ended. -/
def rivalry : Scene requests Client Unit :=
  [1, 2, 3, 3, 3, 3, 3, 3, 3, 3].foldl granted rivals

theorem reached_rivalry :
    Scene.Reached (turnover 0 0 resting.manager.tracked) resting rivalry := by
  have may : (turnover 0 0 resting.manager.tracked).begins (Consumer.start (site 0 0)) := .inl rfl
  have start : Scene.Reached (turnover 0 0 resting.manager.tracked) resting _ := .start
  refine reached_granted _ ((start.begin may).begin may) ?_
  decide

/-- When no call waits any more, the manager tracks two channels of the consumer. -/
theorem tracked_rivalry :
    rivalry.waiting = [] ∧ openings rivalry.past = [⟨1⟩, ⟨2⟩] ∧
      rivalry.state.manager.tracked = [⟨1⟩, ⟨2⟩] ∧ ownChannel 0 rivalry.state = some ⟨2⟩ :=
  ⟨List.length_eq_zero_iff.mp (by decide), by decide +kernel, by decide +kernel,
    by decide⟩

/-- The first channel has been abandoned, and one more stop does not change this. -/
theorem tracks_only_own_rivalry :
    (resting.consumers 0).channel = none ∧
      Scene.Reached (turnover 0 0 resting.manager.tracked) resting rivalry ∧ rivalry.waiting = [] ∧
      Abandoned 0 rivalry.past ⟨1⟩ ∧ ¬ Abandoned 0 rivalry.past ⟨2⟩ ∧ Overlapped rivalry.past ∧
      ⟨1⟩ ∈ ((Consumer.stop (site 0 0)).run smooth.host Course.statePart
        { state := rivalry.state }).2.state.manager.tracked := by
  obtain ⟨rest, opened, tracked, own⟩ := tracked_rivalry
  obtain ⟨kept, stops, overlaps⟩ := tracks_only_own_iff rfl reached_rivalry rest
  have first : ⟨1⟩ ∈ openings rivalry.past := by simp [opened]
  have second : ⟨2⟩ ∈ openings rivalry.past := by simp [opened]
  have lost : Abandoned 0 rivalry.past ⟨1⟩ := by
    refine not_not.mp fun kept₁ => ?_
    have owned := (kept ⟨1⟩ first).mpr kept₁ (by simp [tracked])
    rw [own] at owned
    cases owned
  refine ⟨rfl, reached_rivalry, rest, lost, (kept ⟨2⟩ second).mp fun _ => own, overlaps _ lost, ?_⟩
  exact ((stops smooth (attentive_jamming _) { state := rivalry.state } rfl).2 ⟨1⟩ first).mpr lost

/-- It is not true that the manager tracks no channel of a consumer but the consumer's own when no
call waits any more. -/
theorem start_leaves_rival_channel :
    ¬ ∀ (s₀ : Client) (i r : Nat) (s : Scene requests Client Unit),
      (s₀.consumers i).channel = none →
      Scene.Reached (turnover i r s₀.manager.tracked) s₀ s → s.waiting = [] →
        ∀ c ∈ openings s.past, c ∈ s.state.manager.tracked → ownChannel i s.state = some c := by
  intro own
  obtain ⟨rest, opened, tracked, second⟩ := tracked_rivalry
  have first := own resting 0 0 rivalry rfl reached_rivalry rest ⟨1⟩ (by simp [opened])
    (by simp [tracked])
  rw [second] at first
  cases first

end BrokerClient.Client
