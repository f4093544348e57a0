import BrokerClient.Connection.Channels
import BrokerClient.Proofs.Tracking.Fate

/-!
# Consumer channels that are forgotten

However calls that create and remove consumer channels and disconnections of one manager overlap,
once no call waits a channel that was opened for a consumer is tracked, or its close has been asked
for, unless it is forgotten. This happens where the channel begins to be tracked while a
disconnection is under way. A channel that begins to be tracked so late may also be left with a
manager that has no connection any more. So no channel is forgotten or left behind as long as no
consumer channel is in the making while a disconnection waits.

## Main definitions

* `Manager.trackingRules`, `Manager.consumerCalls` — how the calls run side by side.

## Main results

* `Channel.abides_provision`, `Channel.abides_closeQuietly` — what calls are made of.
* `Manager.heeds_createConsumerChannel`, `Manager.heeds_removeConsumerChannel`,
  `Manager.heeds_disconnect_tracking` — the calls.
* `Manager.tracked_or_closed_iff` — which consumer channels are forgotten, and how.
-/

namespace BrokerClient

open Broker Channel

/-! ### What calls are made of -/

namespace Channel

variable {σ ρ : Type} {rules : Rules requests σ ρ} {I H : Moment requests σ → Prop}
  {w : Moment requests σ} {c : ChannelId}

/-- What holds again after each request that provisions a channel holds when the channel has been
provisioned, and when that has failed. -/
theorem abides_provision
    (again : ∀ w (r : Request), H w → r.provisions = [c] → (ask r : Act σ r.Reply).Abides rules I
      (fun _ => H) (fun e w => H w ∧ e.isOrdinary) w)
    (h : H w) (o : ConsumerOptions) (exchange : String) :
    (provision c o exchange : Act σ ConsumerChannel).Abides rules I
      (fun d w => d.channel = c ∧ H w) (fun e w => H w ∧ e.isOrdinary) w := by
  have logged {w : Moment requests σ} (h : H w) {r : Request} (provisions : r.provisions = [c])
      {level : Log.Level} {logger : Log.Logger} {message : String}
      {details : List (String × Json)} :
      (ask r >>= fun _ => Program.log level logger message details : Act σ Unit).Abides rules I
        (fun _ => H) (fun e w => H w ∧ e.isOrdinary) w :=
    Program.abides_bind.mpr (again w r h provisions)
  have bound {w : Moment requests σ} (h : H w) (exchange : String) :
      (bindQueue c o exchange : Act σ Unit).Abides rules I (fun _ => H)
        (fun e w => H w ∧ e.isOrdinary) w := by
    unfold bindQueue
    split
    · exact logged h rfl
    · exact h
  refine Program.abides_bind.mpr ((logged h rfl).mono (fun _ w h => ?_) fun _ _ h => h)
  refine Program.abides_bind.mpr ((logged h rfl).mono (fun _ w h => ?_) fun _ _ h => h)
  refine Program.abides_bind.mpr ((bound h _).mono (fun _ w h => ?_) fun _ _ h => h)
  refine Program.abides_bind.mpr ((logged h rfl).mono (fun _ w h => ?_) fun _ _ h => h)
  exact ⟨rfl, h⟩

/-- A quiet close, by way of what holds after the close. -/
theorem abides_closeQuietly {purpose : String} {ok : Bool → Moment requests σ → Prop}
    {err : Error → Moment requests σ → Prop}
    (close : (ask (.closeChannel c) : Act σ Unit).Abides rules I (fun _ => ok true)
      (fun e w => ok false w ∧ e.isOrdinary) w) :
    (closeQuietly (ask (.closeChannel c)) purpose : Act σ Bool).Abides rules I ok err w := by
  refine Program.abides_rescue.mpr (Program.abides_bind.mpr
    (close.mono (fun _ _ closed => closed) ?_))
  rintro e w ⟨closed, ordinary⟩
  rw [if_pos ordinary]
  exact closed

end Channel

namespace Connection.Manager

/-- How the calls run side by side, if the pool had some channels in the beginning. To close no
channels takes no time, the broker opens every channel once, and nothing is cancelled. -/
def trackingRules (pool : List ChannelId) (begins : Act Unit → Prop) :
    Rules requests Manager Unit where
  begins
  pass
    | .closeChannels _ [] => some ()
    | _ => none
  allows w r reply := (∀ c ∈ r.opens reply, c ∉ pool ∧ c ∉ channelsOpened w.past) ∧
    ∀ e, reply = .error e → e.isOrdinary

/-- The calls that consumer channels are made and lost by. -/
def consumerCalls (p : Act Unit) : Prop :=
  p = disconnect ∨ (∃ o, p = do let _ ← createConsumerChannel o) ∨
    ∃ c, p = removeConsumerChannel c

/-! ### Calls keep it -/

section Calls

variable {pool : List ChannelId} {begins : Act Unit → Prop} {w : Moment} {r : Request}

/-- A request that has been asked for, by way of what holds after its reply. -/
theorem abides_ask (asked : Tracking pool [] (w.ask r))
    (waits : (trackingRules pool begins).pass r = none) {ok : r.Reply → Moment → Prop}
    {err : Error → Moment → Prop}
    (hok : ∀ w' a, (w.ask r).Before w' → Tracking pool [] w' → w'.Awaits r →
      Tracking pool (r.opens (.ok a) ++ r.provisions) (w'.reply r (.ok a)) →
      ok a (w'.reply r (.ok a)))
    (herr : ∀ w' e, (w.ask r).Before w' → Tracking pool [] w' → w'.Awaits r → e.isOrdinary →
      Tracking pool (r.opens (.error e) ++ r.provisions) (w'.reply r (.error e)) →
      err e (w'.reply r (.error e))) :
    (ask r : Act r.Reply).Abides (trackingRules pool begins) (Tracking pool []) ok err w := by
  refine (Program.abides_perform waits).mpr ⟨asked, fun w' reply after h awaits may => ?_⟩
  have replied := h.reply awaits may.1
  cases reply with
  | ok a => exact hok w' a after h awaits replied
  | error e => exact herr w' e after h awaits (may.2 e rfl) replied

/-- A request that provisions a channel, after which the channel is in hand again. -/
theorem abides_provisioning {c : ChannelId} (h : Tracking pool [c] w)
    (provisions : r.provisions = [c]) :
    (ask r : Act r.Reply).Abides (trackingRules pool begins) (Tracking pool [])
      (fun _ => Tracking pool [c]) (fun e w => Tracking pool [c] w ∧ e.isOrdinary) w := by
  have waits : (trackingRules pool begins).pass r = none := by
    cases r with
    | closeChannels => cases provisions
    | _ => rfl
  have opens (a : Except Error r.Reply) : r.opens a ++ r.provisions = [c] := by
    rw [provisions]
    cases r with
    | openChannel => cases provisions
    | _ => rfl
  refine abides_ask (h.ask_provision provisions) waits ?_ ?_
  · intro w' a _ _ _ held
    rwa [opens] at held
  · intro w' e _ _ _ ordinary held
    rw [opens] at held
    exact ⟨held, ordinary⟩

/-- A close, by way of what holds after it. -/
theorem abides_close {c : ChannelId} {purpose : String} {ok : Bool → Moment → Prop}
    {err : Error → Moment → Prop} (asked : Tracking pool [] (w.ask (.closeChannel c)))
    (closed : ∀ w' closed, c ∈ channelCloses w'.past → Tracking pool [] w' → ok closed w') :
    (closeQuietly (ask (.closeChannel c)) purpose : Act Bool).Abides (trackingRules pool begins)
      (Tracking pool []) ok err w := by
  let r : Request := .closeChannel c
  have closes {w' : Moment} (after : (w.ask r).Before w') (a : Except Error r.Reply) :
      c ∈ channelCloses (w'.reply r a).past := by
    obtain ⟨later, eq⟩ := after
    simp [Moment.reply, ← eq, Moment.ask, channelCloses, Request.closes, r]
  refine Channel.abides_closeQuietly (abides_ask asked rfl ?_ ?_)
  · exact fun w' a after _ _ h => closed _ true (closes after _) h
  · exact fun w' e after _ _ ordinary h => ⟨closed _ false (closes after _) h, ordinary⟩

/-- A consumer channel is in the making until it is tracked or closed. -/
theorem heeds_createConsumerChannel (o : ConsumerOptions) :
    (createConsumerChannel o).Heeds (trackingRules pool begins) (Tracking pool []) := by
  intro w h
  simp only [createConsumerChannel, bind, Program.state, Program.bind, Program.Abides]
  cases has : w.state.connection with
  | none => exact h
  | some k =>
    have connected : w.state.connection ≠ none := by
      rw [has]
      exact Option.some_ne_none k
    refine (Program.abides_bind (p := Program.rescue (ask (.openChannel k)) _)).mpr
      (Program.abides_rescue.mpr (abides_ask (h.ask_open connected k) rfl ?opened ?failed))
    case failed =>
      intro w' e _ _ _ ordinary h
      rw [if_pos ordinary]
      exact h
    case opened =>
      intro w' c _ _ _ held
      refine Program.abides_bind.mpr (Program.abides_rescue.mpr
        ((Channel.abides_provision (fun _ _ h => abides_provisioning h) held o _).mono ?_ ?_))
      · rintro d w ⟨rfl, h⟩
        exact h.track
      · rintro e w ⟨h, ordinary⟩
        rw [if_pos ordinary]
        refine (Program.abides_bind (p := closeQuietly _ _)).mpr (abides_close
          (h.ask_close (fun d hd => List.mem_singleton.mp hd) (.inl List.mem_cons_self)) ?_)
        exact fun _ _ _ h => h

/-- A channel is closed before it is tracked no more. -/
theorem heeds_removeConsumerChannel (c : ConsumerChannel) :
    (removeConsumerChannel c).Heeds (trackingRules pool begins) (Tracking pool []) := by
  intro w h
  simp only [removeConsumerChannel, bind, Program.state, Program.bind, Program.Abides]
  split
  · rename_i tracks
    have empty : ∀ d ∈ [], d = c.channel := fun d hd => absurd hd List.not_mem_nil
    refine Program.abides_bind.mpr (abides_close
      (h.ask_close empty (.inr (tracks_iff.mp tracks))) fun w' _ closed h => ?_)
    refine h.untrack (f := Manager.untrack c) (fun m d hd => (mem_tracked_untrack.mp hd).1)
      (fun d was goes => ?_) fun _ => ⟨rfl, rfl⟩
    by_cases same : d = c.channel
    · exact .inl (same ▸ closed)
    · exact (goes (mem_tracked_untrack.mpr ⟨was, same⟩)).elim
  · exact h

/-- Only those channels are tracked that have slipped in. -/
def Late (w : Moment) : Prop :=
  ∀ c ∈ w.state.tracked, Slipped w.past c

theorem Late.change (h : Late w) {f : Manager → Manager} (same : ∀ m, (f m).tracked = m.tracked) :
    Late (w.change f) :=
  fun c tracked => (h c (same w.state ▸ tracked)).append _

/-- The reply to a request of a disconnection but for its first. -/
theorem late_of_reply (h : Tracking pool [] w) (awaits : w.Awaits r) (clearing : isClearing r)
    (a : Except Error r.Reply) : Late (w.reply r a) :=
  fun c tracked => (h.timing.clearing (awaits.awaited_pos clearing) c tracked).append _

/-- After the consumer channels have been closed, none is tracked. -/
theorem abides_closeConsumerChannels (h : Tracking pool [] w) :
    closeConsumerChannels.Abides (trackingRules pool begins) (Tracking pool [])
      (fun _ w => Tracking pool [] w ∧ Late w) (fun _ => Tracking pool []) w := by
  have forgets {w : Moment} (h : Tracking pool [] w)
      (closed : ∀ c ∈ w.state.tracked, c ∈ channelCloses w.past ∨ Slipped w.past c) :
      let w' := w.change fun m => { m with consumerChannels := [] }
      Tracking pool [] w' ∧ Late w' :=
    ⟨h.untrack (fun _ => nofun) (fun c was _ => closed c was) fun _ => ⟨rfl, rfl⟩, nofun⟩
  have closes : (do
      ask (.closeChannels "consumer" w.state.tracked)
      .modify fun m => { m with consumerChannels := [] } : Act Unit).Abides
      (trackingRules pool begins) (Tracking pool []) (fun _ w => Tracking pool [] w ∧ Late w)
      (fun _ => Tracking pool []) w := by
    refine Program.abides_bind.mpr ?_
    cases tracked : w.state.tracked with
    | nil =>
      refine forgets h fun c hc => ?_
      rw [tracked] at hc
      cases hc
    | cons d ds =>
      refine abides_ask (tracked ▸ h.ask_consumers) rfl ?_ fun w' e _ _ _ _ h => h
      intro w' a _ h' awaits replied
      refine forgets replied fun c hc => ?_
      obtain closed | slipped := h'.timing.emptying (awaits.awaited_pos rfl) c hc
      · refine .inl ?_
        simpa [Moment.reply] using closed
      · exact .inr (slipped.append _)
  simp only [closeConsumerChannels, bind, Program.state, Program.bind, Program.Abides]
  split
  · exact closes
  · exact closes

/-- The publisher channels are closed. -/
theorem abides_closePool (h : Tracking pool [] w) (late : Late w) :
    (onPool Pool.close).Abides (trackingRules pool begins) (Tracking pool [])
      (fun _ w => Tracking pool [] w ∧ Late w) (fun _ => Tracking pool []) w := by
  have changes {w : Moment} (h : Tracking pool [] w) (late : Late w) (f : Pool → Pool)
      (keeps : ∀ p, (f p).channels ⊆ p.channels) :
      Tracking pool [] (w.change (poolPart.modify f)) ∧ Late (w.change (poolPart.modify f)) :=
    ⟨h.change (fun _ => rfl) (fun _ => rfl) fun m => keeps m.pool, late.change fun _ => rfl⟩
  obtain ⟨begun, late⟩ := changes h late Pool.beginClose fun _ _ hc => hc
  have forgets {w : Moment} (h : Tracking pool [] w) (late : Late w) :
      Tracking pool [] ((w.change (poolPart.modify Pool.endClose)).change
        (poolPart.modify Pool.forget)) ∧ Late ((w.change (poolPart.modify Pool.endClose)).change
        (poolPart.modify Pool.forget)) := by
    obtain ⟨h, late⟩ := changes h late Pool.endClose fun _ _ hc => hc
    exact changes h late Pool.forget fun _ => nofun
  have asked : Tracking pool [] ((w.change (poolPart.modify Pool.beginClose)).ask
      (.closeChannels "publisher" w.state.pool.channels)) := begun.ask_publishers late
  change (Program.bind (Program.attempt (ask (.closeChannels "publisher" w.state.pool.channels)))
    _).Abides _ _ _ _ _
  refine Program.abides_bind.mpr (Program.abides_attempt.mpr ?_)
  cases channels : w.state.pool.channels with
  | nil => exact forgets begun late
  | cons d ds =>
    rw [channels] at asked
    refine abides_ask asked rfl ?_ ?_
    · exact fun w' a _ h' awaits replied => forgets replied (late_of_reply h' awaits rfl _)
    · intro w' e _ h' awaits _ replied
      exact (changes replied (late_of_reply h' awaits rfl _) Pool.endClose fun _ _ hc => hc).1

/-- The connection is closed and given up. -/
theorem abides_closeConnection (h : Tracking pool [] w) (late : Late w) :
    closeConnection.Abides (trackingRules pool begins) (Tracking pool [])
      (fun _ => Tracking pool []) (fun _ => Tracking pool []) w := by
  simp only [closeConnection, bind, Program.state, Program.bind, Program.Abides]
  cases w.state.connection with
  | none => exact h
  | some k =>
    let r : Request := .closeConnection k
    have givesUp {w' : Moment} (h' : Tracking pool [] w') (awaits : w'.Awaits r)
        {a : Except Error r.Reply} (replied : Tracking pool [] (w'.reply r a)) :
        Tracking pool [] ((w'.reply r a).change fun m => { m with connection := none }) := by
      refine replied.giveUp (late_of_reply h' awaits rfl a) fun waits => ?_
      have closes : Disconnecting w'.past := .inr (awaits.awaited_pos rfl)
      obtain ⟨-, quiet⟩ | overlapped :=
        h'.timing.busy (.inr (awaited_pos_of_append_replied waits))
      · exact (quiet closes).elim
      · exact overlapped.append _
    refine Program.abides_bind.mpr (Program.abides_rescue.mpr (abides_ask (h.ask_connection late k)
      rfl (fun w' a _ h' awaits replied => givesUp h' awaits replied) ?_))
    intro w' e _ h' awaits ordinary replied
    rw [if_pos ordinary]
    exact givesUp h' awaits replied

theorem heeds_disconnect_tracking :
    disconnect.Heeds (trackingRules pool begins) (Tracking pool []) := by
  have phase (p : Phase) : (Program.modify fun m => { m with phase := p } : Act Unit).Heeds
      (trackingRules pool begins) (Tracking pool []) :=
    .modify fun w h => h.change (fun _ => rfl) (fun _ => rfl) fun _ _ hc => hc
  refine .seq (phase _) fun _ w h => ?_
  refine Program.abides_bind.mpr ((abides_closeConsumerChannels h).mono ?_ fun _ _ h => h)
  rintro _ w ⟨h, late⟩
  refine Program.abides_bind.mpr ((abides_closePool h late).mono ?_ fun _ _ h => h)
  rintro _ w ⟨h, late⟩
  refine Program.abides_bind.mpr ((abides_closeConnection h late).mono ?_ fun _ _ h => h)
  exact fun _ => Program.Heeds.seq (phase _) fun _ => .log _ _ _ _

end Calls

/-! ### All scenes -/

/-- However calls that create and remove consumer channels and disconnections overlap, once no call
waits a channel that has been opened is tracked, or its close has been asked for, unless it is
forgotten; and a manager without a connection tracks no channel that has not slipped in. What is
forgotten has slipped in, too, and nothing slips in unless a consumer channel was in the making
while a disconnection waited. -/
theorem tracked_or_closed_iff {m : Manager} (untracked : m.consumerChannels = [])
    {s : Scene requests Manager Unit}
    (reached : Scene.Reached (trackingRules m.pool.channels consumerCalls) m s)
    (rest : s.waiting = []) :
    (∀ c ∈ channelsOpened s.past,
      (c ∈ s.state.tracked ∨ c ∈ channelCloses s.past) ↔ ¬ Forgotten s.past c) ∧
    (s.state.connection = none → ∀ c ∈ s.state.tracked, Slipped s.past c) ∧
    (∀ c, Forgotten s.past c → Slipped s.past c) ∧ ∀ c, Slipped s.past c → Overlapped s.past := by
  have kept : Tracking m.pool.channels [] s.toMoment := by
    refine reached.holds ⟨fun _ => Nat.le_refl 0, .start untracked, .start untracked⟩ ?_
    rintro p (rfl | ⟨o, rfl⟩ | ⟨c, rfl⟩)
    · exact heeds_disconnect_tracking
    · exact .seq (heeds_createConsumerChannel o) fun _ => .done ()
    · exact heeds_removeConsumerChannel c
  refine ⟨fun c opened => ⟨kept.custody.kept c, fun unforgotten => ?_⟩, kept.timing.unconnected,
    kept.timing.forgotten, kept.timing.slipped⟩
  obtain held | waits | tracked | closed | forgotten := kept.custody.fate c opened
  · cases held
  · rw [reached.awaited_eq_zero rest] at waits
    exact absurd waits (Nat.lt_irrefl 0)
  · exact .inl tracked
  · exact .inr closed
  · exact absurd forgotten unforgotten

theorem allows_numbers_tracking {pool : List ChannelId} {begins : Act Unit → Prop} {w : Moment}
    {n : Nat} (fresh : ⟨n⟩ ∉ pool ∧ ⟨n⟩ ∉ channelsOpened w.past) (r : Request) :
    (trackingRules pool begins).allows w r (numbers n r) := by
  cases r with
  | openChannel k =>
    refine ⟨fun c hc => ?_, nofun⟩
    obtain rfl := List.mem_singleton.mp hc
    exact fresh
  | _ => exact ⟨nofun, nofun⟩

/-- A manager that is connected. -/
def linked : Manager :=
  { fresh default default 1 with phase := .connected, connection := some ⟨0⟩ }

/-- A second consumer channel is in the making while a disconnection waits for the close of the
first one. -/
def lateTracking : Scene requests Manager Unit :=
  let create := do let _ ← createConsumerChannel { queueName := "orders" }
  let moves : List (Scene.Move requests Manager Unit) :=
    [.begin create, .reply 0 (numbers 1), .reply 0 (numbers 2), .reply 0 (numbers 2),
      .reply 0 (numbers 2), .begin create, .reply 0 (numbers 2), .reply 0 (numbers 3),
      .reply 0 (numbers 3), .begin disconnect, .reply 0 (numbers 3), .reply 0 (numbers 3),
      .reply 0 (numbers 3)]
  moves.foldl (Scene.move (trackingRules [] consumerCalls).pass) { state := linked }

theorem reached_lateTracking :
    Scene.Reached (trackingRules [] consumerCalls) linked lateTracking := by
  have disconnects : (trackingRules [] consumerCalls).begins disconnect := .inl rfl
  have creates : (trackingRules [] consumerCalls).begins
      (do let _ ← createConsumerChannel { queueName := "orders" }) := .inr (.inl ⟨_, rfl⟩)
  have start : Scene.Reached (trackingRules [] consumerCalls) linked _ := .start
  have opened := (start.begin creates).reply 0
    (allows_numbers_tracking (n := 1) (by decide))
  have first := ((opened.reply 0 (allows_numbers_tracking (n := 2) (by decide))).reply 0
    (allows_numbers_tracking (n := 2) (by decide))).reply 0
    (allows_numbers_tracking (n := 2) (by decide))
  have opened' := (first.begin creates).reply 0
    (allows_numbers_tracking (n := 2) (by decide))
  have second := (opened'.reply 0 (allows_numbers_tracking (n := 3) (by decide))).reply 0
    (allows_numbers_tracking (n := 3) (by decide))
  have tracked := (second.begin disconnects).reply 0
    (allows_numbers_tracking (n := 3) (by decide))
  exact (tracked.reply 0 (allows_numbers_tracking (n := 3) (by decide))).reply 0
    (allows_numbers_tracking (n := 3) (by decide))

/-- When no call waits any more, the second channel has been opened and is neither tracked nor
closed. -/
theorem unaccounted_lateTracking :
    lateTracking.waiting = [] ∧ ⟨2⟩ ∈ channelsOpened lateTracking.past ∧
      ¬ (⟨2⟩ ∈ lateTracking.state.tracked ∨ ⟨2⟩ ∈ channelCloses lateTracking.past) :=
  ⟨List.length_eq_zero_iff.mp (by decide), by decide +kernel, by decide +kernel⟩

/-- The second channel is forgotten: it has slipped in. -/
theorem tracked_or_closed_lateTracking :
    linked.consumerChannels = [] ∧
      Scene.Reached (trackingRules [] consumerCalls) linked lateTracking ∧
      lateTracking.waiting = [] ∧ ⟨2⟩ ∈ channelsOpened lateTracking.past ∧
      Forgotten lateTracking.past ⟨2⟩ ∧ Slipped lateTracking.past ⟨2⟩ ∧
      Overlapped lateTracking.past := by
  obtain ⟨rest, opened, neither⟩ := unaccounted_lateTracking
  obtain ⟨kept, -, slips, overlaps⟩ :=
    tracked_or_closed_iff (m := linked) rfl reached_lateTracking rest
  have forgotten : Forgotten lateTracking.past ⟨2⟩ :=
    not_not.mp fun unforgotten => neither ((kept ⟨2⟩ opened).mpr unforgotten)
  exact ⟨rfl, reached_lateTracking, rest, opened, forgotten, slips _ forgotten,
    overlaps _ (slips _ forgotten)⟩

/-- It is not true that every channel that has been opened for a consumer is tracked or has been
closed when no call waits any more, even if a manager without a connection tracks nothing. -/
theorem disconnect_loses_late_channel :
    ¬ ∀ (m : Manager) (s : Scene requests Manager Unit), m.connection.isSome →
      m.consumerChannels = [] → Scene.Reached (trackingRules m.pool.channels consumerCalls) m s →
      s.waiting = [] →
        (∀ c ∈ channelsOpened s.past, c ∈ s.state.tracked ∨ c ∈ channelCloses s.past) ∧
          (s.state.connection = none → s.state.tracked = []) := by
  intro kept
  obtain ⟨rest, opened, neither⟩ := unaccounted_lateTracking
  obtain ⟨owned, -⟩ := kept linked lateTracking rfl rfl reached_lateTracking rest
  exact neither (owned ⟨2⟩ opened)

end Connection.Manager

end BrokerClient
