import BrokerClient.Proofs.Consuming
import BrokerClient.Proofs.Ownership.Operations
import BrokerClient.Proofs.Tracing

/-!
# Channels and tags of consumers

Whatever operations, publications and deliveries a client has gone through, one at a time, and
whatever has failed or been cancelled in them, a consumer that holds a tag holds a channel. It does
so at every request and after it, for only starting and stopping change what consumers hold.

From every such state, a start of a consumer that is not consuming either gives it a new channel and
a tag, or fails and leaves it with neither, its stale channel being the only one that the manager
has ceased to track. A stop cancels, then closes, and leaves the consumer with neither, whatever has
failed. Only a cancellation of these requests breaks them off, and it is passed on.

## Main definitions

* `Course.Throughout` — what holds at all times of a course.
* `Client.Solitary` — surroundings in which a client runs one thing at a time.
* `Client.held`, `Client.Tagged` — the channels and tags of consumers.
* `Client.Occasion`, `Client.lived` — what a client goes through.

## Main results

* `Program.Mirrors.ends` — what a program keeps that mirrors another.
* `Client.tagged_lived` — a tag is held together with a channel at all times.
* `Client.starts_and_stops` — how consumers start and stop.
-/

namespace BrokerClient

open Broker Channel Connection

/-! ### What a course has at all times -/

namespace Course

variable {S : Signature} {σ : Type} {P : σ → Prop} {w : Course S σ}

/-- Something holds now, and it held before and after every request. -/
def Throughout (P : σ → Prop) (w : Course S σ) : Prop :=
  P w.state ∧ ∀ x ∈ w.exchanges, P x.before ∧ P x.after

theorem Throughout.note (h : Throughout P w) (x : Signal) : Throughout P (w.note x) := by
  rw [Throughout, exchanges_note]
  exact h

theorem Throughout.answer (h : Throughout P w) (r : S.Request) (reply : Except Error (S.Reply r))
    {s : σ} (hs : P s) : Throughout P (w.answer r reply s) := by
  rw [Throughout, exchanges_answer, List.forall_mem_append, List.forall_mem_singleton]
  exact ⟨hs, h.2, h.1, hs⟩

theorem Throughout.modify (h : Throughout P w) {c : σ → σ} (hc : P (c w.state)) :
    Throughout P (statePart.modify c w) :=
  ⟨hc, h.2⟩

end Course

/-- A program that mirrors another keeps what no change, no reply and no signal touches. -/
theorem Program.Mirrors.ends {S : Signature} {σ α : Type} {l : Likeness S σ}
    {env : Surroundings S σ} {I : Course S σ → Prop} (same : ∀ s, l.states s s)
    (changes : ∀ c c', l.changes c c' → ∀ w, I w → I (Course.statePart.modify c w))
    (answers : ∀ w r, I w → I (w.answer r (env w r).1 (env w r).2))
    (notes : ∀ w x, I w → I (w.note x)) {p p' : Program S σ α} (h : Mirrors l p p')
    {w : Course S σ} (hw : I w) :
    p.Ends env.host Course.statePart (fun _ => I) (fun _ => I) w := by
  induction h generalizing w with
  | done a | fail e => exact hw
  | read _ ih => exact ih _ _ (same w.state) hw
  | update alike _ ih => exact ih (changes _ _ alike w hw)
  | look alike _ ih => exact ih w.state _ (same _) (changes _ _ alike w hw)
  | emit x _ ih => exact ih (notes w x hw)
  | call _ _ ih => exact ih (env w _).1 (answers w _ hw)
  | aside _ _ ih => exact ih (notes w _ hw)
  | aside' _ _ ih => exact ih hw

namespace Client

/-! ### Surroundings -/

/-- A client runs one thing at a time: nobody else uses the manager and the consumers meanwhile. A
channel that is opened is none of those that are tracked. Anything may fail or be cancelled. -/
structure Solitary (env : Client.Surroundings) : Prop where
  undisturbed : ∀ w r, (env w r).2.manager = w.state.manager
  unchanged : ∀ w r, (env w r).2.consumers = w.state.consumers
  new_channel : ∀ w k c, (env w (.openChannel k)).1 = .ok c → c ∉ w.state.manager.tracked

/-- A channel that is opened is none of those that are tracked. -/
def OpensNew : (r : Request) → Client → Except Error r.Reply → Client → Prop
  | .openChannel _, s, .ok c, _ => c ∉ s.manager.tracked
  | _, _, _, _ => True

variable {α : Type} {env : Client.Surroundings} {w : Client.Course} {i r : Nat}

theorem runs_of_solitary (henv : Solitary env) (p : Act Client α) (w : Client.Course) :
    ∃ asked, (p.run env.host Course.statePart w).2.answers = w.answers ++ asked ∧
      p.Runs (unshared OpensNew) .whole w.state asked (p.run env.host Course.statePart w).1
        (p.run env.host Course.statePart w).2.state := by
  refine Program.runs_of_served Course.stateView (unshared OpensNew) (fun w r => ?_) p w
  refine ⟨rfl, henv.undisturbed w r, henv.unchanged w r, ?_⟩
  cases r with
  | openChannel k =>
    cases replied : (env w (.openChannel k)).1 with
    | error e => trivial
    | ok c => exact henv.new_channel w k c replied
  | _ => trivial

/-! ### What consumers hold -/

/-- The channels and the tags of the consumers. -/
def held (s : Client) (i : Nat) : Option ConsumerChannel × Option String :=
  ((s.consumers i).channel, (s.consumers i).tag)

/-- A consumer that holds a tag holds a channel. -/
def Tagged (s : Client) : Prop :=
  ∀ i, (s.consumers i).tag.isSome → (s.consumers i).channel.isSome

/-- A consumer without a channel has no tag. -/
theorem Tagged.tag_eq_none {s : Client} (h : Tagged s) (idle : (s.consumers i).channel = none) :
    (s.consumers i).tag = none := by
  refine Option.not_isSome_iff_eq_none.mp fun held => ?_
  have channel := h i held
  rw [idle] at channel
  cases channel

theorem tagged_of_held {s s' : Client} (same : s'.held = s.held) (h : Tagged s) : Tagged s' := by
  intro i
  have eq := congrFun same i
  rw [held, held, Prod.mk.injEq] at eq
  rw [eq.1, eq.2]
  exact h i

/-- A tag has been held with a channel at all times, and what is held now is as `Q` says. -/
def Tidy (Q : (Nat → Option ConsumerChannel × Option String) → Prop) (w : Client.Course) : Prop :=
  w.Throughout Tagged ∧ Q w.state.held

variable {Q : (Nat → Option ConsumerChannel × Option String) → Prop}

theorem Tidy.note (h : Tidy Q w) (x : Signal) : Tidy Q (w.note x) :=
  ⟨h.1.note x, h.2⟩

theorem Tidy.modify (h : Tidy Q w) {c : Client → Client} (same : (c w.state).held = w.state.held) :
    Tidy Q (Course.statePart.modify c w) := by
  refine ⟨h.1.modify (tagged_of_held same h.1.1), ?_⟩
  change Q (c w.state).held
  rw [same]
  exact h.2

theorem Tidy.answer (henv : Solitary env) (h : Tidy Q w) (r : Request) :
    Tidy Q (w.answer r (env w r).1 (env w r).2) := by
  have same : (env w r).2.held = w.state.held := by
    funext j
    rw [held, held, henv.unchanged]
  refine ⟨h.1.answer r _ (tagged_of_held same h.1.1), ?_⟩
  change Q (env w r).2.held
  rw [same]
  exact h.2

/-- Changes that spare what consumers hold. -/
def sparing : Likeness requests Client where
  states := Eq
  changes c _ := ∀ s, (c s).held = s.held
  asks _ := True

/-- A program that spares what consumers hold keeps it. -/
theorem ends_sparing (henv : Solitary env) {p p' : Act Client α} (h : p.Mirrors sparing p')
    (hw : Tidy Q w) : p.Ends env.host Course.statePart (fun _ => Tidy Q) (fun _ => Tidy Q) w :=
  h.ends (fun _ => rfl) (fun _ _ spares _ hw => hw.modify (spares _))
    (fun _ r hw => hw.answer henv r) (fun _ x hw => hw.note x) hw

/-- What follows such a program starts from what was held before it. -/
theorem ends_sparing_seq {β : Type} (henv : Solitary env) {p p' : Act Client α}
    (h : p.Mirrors sparing p') (hw : Tidy Q w) {f : α → Act Client β}
    {ok : β → Client.Course → Prop} (hf : ∀ a w, Tidy Q w →
      (f a).Ends env.host Course.statePart ok (fun _ w => w.Throughout Tagged) w) :
    (p >>= f).Ends env.host Course.statePart ok (fun _ w => w.Throughout Tagged) w :=
  .seq ((ends_sparing henv h hw).mono (fun _ _ h => h) fun _ _ h => h.1) hf

theorem sparing_on (p : Connection.Act α) :
    (p.on managerPart).Mirrors sparing (p.on managerPart) :=
  .on_self (fun _ _ same => congrArg manager same) (fun _ _ => rfl) (fun _ => trivial) p

theorem held_modify {f : Consumer → Consumer} (channel : ∀ c, (f c).channel = c.channel)
    (tag : ∀ c, (f c).tag = c.tag) (s : Client) : ((consumerPart i).modify f s).held = s.held := by
  funext j
  obtain rfl | other := eq_or_ne j i
  · simp [held, channel, tag]
  · simp [held, Function.update_of_ne other]

/-- What a consumer counts is not what it holds, and neither are the jobs that it keeps. -/
theorem blurs_sparing (i r : Nat) (messageId : Option String) :
    (site i r).Blurs messageId (fun _ => True) sparing where
  settings _ _ same := congrArg (fun s : Client => (s.consumers i).settings) same
  registry _ _ same := congrArg (registry r) same
  standIns h _ _ _ same := congrArg (fun s : Client => (s.consumers i).standIn h) same
  keeps h _ := held_modify (Consumer.channel_keep h) (Consumer.tag_keep h)
  counts _ _ _ := held_modify (fun _ => rfl) fun _ => rfl
  handles _ _ := trivial
  sleeps _ := trivial
  settles _ := trivial

/-! ### Starting and stopping -/

/-- A consumer changes what it holds: it must hold a channel if it holds a tag. -/
theorem Tidy.change (h : Tidy Q w) (f : Consumer → Consumer)
    (tagged : (f (w.state.consumers i)).tag.isSome → (f (w.state.consumers i)).channel.isSome) :
    Tidy (fun held => held i = ((f (w.state.consumers i)).channel, (f (w.state.consumers i)).tag))
      (Course.statePart.modify ((consumerPart i).modify f) w) := by
  refine ⟨h.1.modify fun j => ?_, ?_⟩
  · obtain rfl | other := eq_or_ne j i
    · simpa using tagged
    · simpa [Function.update_of_ne other] using h.1.1 j
  · simp [Course.statePart, Lens.modify, held, consumerPart]

theorem Tidy.mono {Q' : (Nat → Option ConsumerChannel × Option String) → Prop} (h : Tidy Q w)
    (imp : ∀ held, Q held → Q' held) : Tidy Q' w :=
  ⟨h.1, imp _ h.2⟩

theorem sparing_cancel (d : ConsumerChannel) :
    (Consumer.cancel (site i r) d).Mirrors sparing (Consumer.cancel (site i r) d) := by
  refine .read fun s s' same => ?_
  cases same
  dsimp only
  split
  · split
    · exact .done ()
    · exact .rescue (.perform trivial) fun e => .read fun s s' same => by
        cases same
        exact .logFailure _ _ _ _
  · exact .done ()

theorem sparing_removeChannel :
    (Consumer.removeChannel (site i r)).Mirrors sparing (Consumer.removeChannel (site i r)) := by
  refine .read fun s s' same => ?_
  cases same
  simp only [Program.done_bind]
  split
  · exact sparing_on _
  · exact .fail _

theorem ends_current_seq {f : Consumer → Act Client α} {ok : α → Client.Course → Prop}
    {err : Error → Client.Course → Prop} :
    (Consumer.current (site i r) >>= f).Ends env.host Course.statePart ok err w ↔
      (f (w.state.consumers i)).Ends env.host Course.statePart ok err w :=
  Iff.rfl

/-- Stopping keeps a tag together with its channel. A consumer that has stopped has no tag. -/
theorem ends_stop (henv : Solitary env) (hw : w.Throughout Tagged) :
    (Consumer.stop (site i r)).Ends env.host Course.statePart
      (fun _ => Tidy fun held => (held i).2 = none) (fun _ w => w.Throughout Tagged) w := by
  rw [Consumer.stop, ends_current_seq]
  cases has : (w.state.consumers i).channel with
  | none => exact ⟨hw, hw.1.tag_eq_none has⟩
  | some d =>
    dsimp only
    -- the tag goes first, while the channel is still there
    have holds : Tidy (fun held => (held i).1 = some d) w := ⟨hw, has⟩
    let Untagged (w : Client.Course) : Prop := Tidy (fun held => (held i).2 = none) w
    refine ends_sparing_seq henv (sparing_cancel d) holds fun _ w h => ?_
    refine .seq (M := fun _ => Untagged) ?_ fun _ w h => ?_
    · exact (h.change _ (by simp)).mono fun held eq => congrArg Prod.snd eq
    refine ends_sparing_seq henv sparing_removeChannel h fun _ w h => ?_
    have untagged : (w.state.consumers i).tag = none := h.2
    refine .seq (M := fun _ => Untagged) ?_ fun _ w h => h.note _
    exact (h.change _ (by simp [untagged])).mono fun held eq =>
      (congrArg Prod.snd eq).trans untagged

/-- Consuming on a channel keeps it, or gives it up where there is no tag. -/
theorem ends_consume (henv : Solitary env) {d : ConsumerChannel}
    (hw : Tidy (fun held => held i = (some d, none)) w) :
    (Program.rescue (ask (.consume d.channel d.queueName)) fun e => do
      Consumer.removeChannel (site i r)
      Consumer.change (site i r) fun c => { c with channel := none }
      .fail e : Act Client String).Ends env.host Course.statePart
      (fun _ => Tidy fun held => held i = (some d, none)) (fun _ w => w.Throughout Tagged) w := by
  rw [Program.ends_rescue]
  have asks : (ask (.consume d.channel d.queueName) : Act Client String).Mirrors sparing
      (ask (.consume d.channel d.queueName)) := .perform trivial
  refine (ends_sparing henv asks hw).mono (fun _ _ h => h) fun e w h => ?_
  split
  · refine ends_sparing_seq henv sparing_removeChannel h fun _ w h => ?_
    have untagged : (w.state.consumers i).tag = none := congrArg Prod.snd h.2
    exact (h.change _ (by simp [untagged])).1
  · exact h.1

/-- Beginning to consume keeps a tag together with its channel, from where there is no tag. -/
theorem ends_begin (henv : Solitary env) (hw : Tidy (fun held => (held i).2 = none) w) :
    (Consumer.begin (site i r)).Ends env.host Course.statePart
      (fun _ w => w.Throughout Tagged) (fun _ w => w.Throughout Tagged) w := by
  rw [Consumer.begin, ends_current_seq]
  refine ends_sparing_seq henv (sparing_on _) hw fun d w h => ?_
  have untagged : (w.state.consumers i).tag = none := h.2
  let Ready (w : Client.Course) : Prop := Tidy (fun held => held i = (some d, none)) w
  refine .seq (M := fun _ => Ready) ?_ fun _ w h => ?_
  · exact (h.change _ (by simp)).mono fun held eq => eq.trans (by rw [untagged])
  refine .seq (M := fun _ => Ready) (ends_consume henv h) fun tag w h => ?_
  have channel : (w.state.consumers i).channel = some d := congrArg Prod.fst h.2
  exact (h.change _ (by simp [channel])).1.note _

/-- A consumer without a channel has nothing to stop. -/
theorem run_stop_of_idle (idle : (w.state.consumers i).channel = none) :
    (Consumer.stop (site i r)).run env.host Course.statePart w = (.ok (), w) := by
  have same (f : Consumer → Act Client Unit) :
      (Consumer.current (site i r) >>= f).run env.host Course.statePart w =
        (f (w.state.consumers i)).run env.host Course.statePart w := rfl
  rw [Consumer.stop, same, idle]
  rfl

theorem ends_start (henv : Solitary env) (hw : w.Throughout Tagged) :
    (Consumer.start (site i r)).Ends env.host Course.statePart
      (fun _ w => w.Throughout Tagged) (fun _ w => w.Throughout Tagged) w := by
  rw [Consumer.start, Program.ends_read]
  dsimp only
  split
  · exact hw.note _
  · split
    · exact .seq (ends_stop henv hw) fun _ _ h => ends_begin henv h
    case isFalse idle =>
      exact ends_begin henv ⟨hw, hw.1.tag_eq_none (Option.not_isSome_iff_eq_none.mp idle)⟩

/-! ### What a client goes through -/

/-- What a client goes through: what is asked of it, and what is published and delivered. -/
inductive Occasion
  | operation (operation : Operation)
  | traffic (traffic : Traffic)

/-- What the client does. -/
def Occasion.program : Occasion → Act Client Unit
  | operation o => o.program
  | traffic t => t.program

/-- The course of occasions one after the other, each to its end. -/
def lived (env : Client.Surroundings) (start : Client) (occasions : List Occasion) :
    Client.Course :=
  occasions.foldl (fun w o => (o.program.run env.host Course.statePart w).2) { state := start }

/-- Whatever a client does, no consumer comes to hold a tag without a channel. -/
theorem ends_occasion (henv : Solitary env) (o : Occasion) (hw : w.Throughout Tagged) :
    o.program.Ends env.host Course.statePart
      (fun _ w => w.Throughout Tagged) (fun _ w => w.Throughout Tagged) w := by
  have managers : ∀ s s', sparing.states s s' → managerPart.get s = managerPart.get s' :=
    fun _ _ same => congrArg manager same
  have spared {p p' : Act Client Unit} (h : p.Mirrors sparing p') : p.Ends env.host
      Course.statePart (fun _ w => w.Throughout Tagged) (fun _ w => w.Throughout Tagged) w :=
    (ends_sparing (Q := fun _ => True) henv h ⟨hw, trivial⟩).mono (fun _ _ h => h.1)
      fun _ _ h => h.1
  cases o with
  | traffic t =>
    exact spared <| t.mirrors managers (fun _ _ same => congrArg registries same)
      (fun _ _ => rfl) (fun _ => trivial) blurs_sparing
  | operation o =>
    cases o with
    | start i r => exact ends_start henv hw
    | stop i r => exact (ends_stop henv hw).mono (fun _ _ h => h.1) fun _ _ h => h
    | connect | disconnect | giveBack | removeConsumerChannel | restored | lost =>
      exact spared (sparing_on _)
    | borrow | createConsumerChannel =>
      exact spared (.seq (sparing_on _) fun _ => .done ())
    | publish p e o =>
      exact spared (p.publish_mirrors managers (fun _ _ => rfl) (fun _ => trivial) .silent e o)
    | publishBytes p exchange routingKey body contentType headers o =>
      exact spared (p.publishBytes_mirrors managers (fun _ _ => rfl) (fun _ => trivial) exchange
        routingKey body contentType headers o)
    | observe closed =>
      have observed (s : Client) : ({ s with closed := closed } : Client).held = s.held := rfl
      have spares : (Operation.observe closed).program.Mirrors sparing (.modify id) :=
        .modify observed
      exact spared spares

theorem tagged_lived (henv : Solitary env) {start : Client} (tagged : Tagged start)
    (occasions : List Occasion) : (lived env start occasions).Throughout Tagged := by
  have begins : ({ state := start } : Client.Course).Throughout Tagged :=
    ⟨tagged, List.forall_mem_nil _⟩
  unfold lived
  generalize ({ state := start } : Client.Course) = w at begins ⊢
  induction occasions generalizing w with
  | nil => exact begins
  | cons o occasions ih => exact ih _ (ends_occasion henv o begins).world

/-! ### How consumers start and stop -/

/-- Requests by which a consumer gives up its channel. -/
def givesUp : Request → Bool
  | .cancel .. | .closeChannel _ => true
  | _ => false

/-- Requests by which a consumer gives up its channel or begins to consume. -/
def givesUpOrConsumes : Request → Bool
  | .consume .. => true
  | r => givesUp r

/-- A run was broken off: its last request, one of these, was cancelled, and so was the run. -/
def BrokenOff (these : Request → Bool) (asked : List (Answer requests))
    (result : Except Error Unit) : Prop :=
  ∃ before request e, asked = before ++ [⟨request, .error e⟩] ∧ these request ∧
    e.isOrdinary = false ∧ result = .error e

section Outcomes

variable {s s' : Client} {asked : List (Answer requests)} {result : Except Error Unit}

/-- A run that follows another was broken off as the second of them was. -/
theorem BrokenOff.append {these : Request → Bool} (h : BrokenOff these asked result)
    (earlier : List (Answer requests)) : BrokenOff these (earlier ++ asked) result := by
  obtain ⟨before, request, e, rfl, one, passes, ended⟩ := h
  exact ⟨earlier ++ before, request, e, (List.append_assoc ..).symm, one, passes, ended⟩

theorem BrokenOff.mono {these those : Request → Bool} (h : BrokenOff these asked result)
    (imp : ∀ r, these r → those r) : BrokenOff those asked result := by
  obtain ⟨before, request, e, eq, one, passes, ended⟩ := h
  exact ⟨before, request, e, eq, imp request one, passes, ended⟩

/-- The manager ceases to track the channel of a consumer that stops. -/
theorem Stopped.manager_eq (h : Stopped i s asked s') :
    s'.manager = (s.consumers i).channel.elim s.manager s.manager.untrack := by
  cases h with
  | idle idle => rw [idle, Option.elim_none]
  | stopped has _ _ manager => rw [manager, has, Option.elim_some]

/-- A consumer that has stopped has no tag. -/
theorem Stopped.tag (h : Stopped i s asked s') (tagged : Tagged s) :
    (s'.consumers i).tag = none := by
  cases h with
  | idle idle => exact tagged.tag_eq_none idle
  | stopped _ _ _ _ consumers => rw [consumers, Function.update_self]

/-- A stop ends with neither a channel nor a tag, or it was broken off. -/
theorem Halted.cases (h : Halted i s asked result s') :
    result = .ok () ∧ Stopped i s asked s' ∨ BrokenOff givesUp asked result := by
  cases h with
  | halted stopped => exact .inl ⟨rfl, stopped⟩
  | uncancelled _ _ _ passes => exact .inr ⟨[], _, _, rfl, rfl, passes, rfl⟩
  | unclosed _ _ _ passes => exact .inr ⟨_, _, _, rfl, rfl, passes, rfl⟩

/-- A consumer that begins without a channel and a tag ends with both or with neither, or this was
broken off. Where it ends with neither, the manager is as it was. -/
theorem Beginning.cases (h : Beginning OpensNew i s asked result s')
    (idle : (s.consumers i).channel = none) (untagged : (s.consumers i).tag = none) :
    (result = .ok () ∧ (s'.consumers i).channel.isSome ∧ (s'.consumers i).tag.isSome) ∨
      (∃ e, result = .error e ∧ (s'.consumers i).channel = none ∧ (s'.consumers i).tag = none ∧
        s'.manager = s.manager) ∨
      BrokenOff givesUpOrConsumes asked result := by
  cases h with
  | unmade _ manager consumers =>
    exact .inr (.inl ⟨_, rfl, consumers ▸ idle, consumers ▸ untagged, manager⟩)
  | refused provisioned _ _ manager consumers =>
    obtain ⟨k, t, new⟩ := provisioned.opened
    refine .inr (.inl ⟨_, rfl, ?_, ?_, ?_⟩)
    · rw [consumers, Function.update_self]
    · rw [consumers, Function.update_self, untagged]
    · rw [manager, provisioned.made.of_ok.1, Manager.untrack_track new]
  | unremoved _ passes =>
    exact .inr (.inr ⟨_, _, _, (List.append_assoc _ [_] [_]).symm, rfl, passes, rfl⟩)
  | unconsumed _ passes => exact .inr (.inr ⟨_, _, _, rfl, rfl, passes, rfl⟩)
  | consuming _ _ _ consumers =>
    refine .inl ⟨rfl, ?_, ?_⟩ <;> rw [consumers, Function.update_self] <;> rfl

end Outcomes

/-- Whatever a client has gone through, and whatever fails, a tag is held together with a channel at
all times. A start of a consumer that is not consuming gives it a channel and a tag, or it fails and
leaves neither, and the manager has ceased to track the stale channel, and that only. A stop cancels
if there is a tag and the channel is open, then it closes if the channel is tracked; it leaves
neither a channel nor a tag, and a further stop does nothing. A start or stop is broken off only if
one of these requests is cancelled, and then it passes this on. -/
theorem starts_and_stops (henv : Solitary env) {start : Client}
    (fresh : ∀ i, (start.consumers i).channel = none ∧ (start.consumers i).tag = none)
    (occasions : List Occasion) (i r : Nat) :
    let w := lived env start occasions
    let c := w.state.consumers i
    let m := w.state.manager
    let started := (Consumer.start (site i r)).run env.host Course.statePart w
    let stopped := (Consumer.stop (site i r)).run env.host Course.statePart w
    w.Throughout Tagged ∧
    (c.isConsuming w.state.closed = false →
      ∃ asked, started.2.answers = w.answers ++ asked ∧
        ((started.1 = .ok () ∧ (started.2.state.consumers i).channel.isSome ∧
            (started.2.state.consumers i).tag.isSome) ∨
          (∃ e, started.1 = .error e ∧ (started.2.state.consumers i).channel = none ∧
            (started.2.state.consumers i).tag = none ∧
            started.2.state.manager = c.channel.elim m m.untrack) ∨
          BrokenOff givesUpOrConsumes asked started.1)) ∧
    ∃ asked, stopped.2.answers = w.answers ++ asked ∧
      ((stopped.1 = .ok () ∧ Stopped i w.state asked stopped.2.state ∧
          (stopped.2.state.consumers i).channel = none ∧
          (stopped.2.state.consumers i).tag = none ∧
          (∀ d, c.channel = some d → d.channel ∉ stopped.2.state.manager.tracked) ∧
          (Consumer.stop (site i r)).run env.host Course.statePart stopped.2 =
            (.ok (), stopped.2)) ∨
        BrokenOff givesUp asked stopped.1) := by
  intro w c m started stopped
  have idle : Tagged start := by
    intro j held
    rw [(fresh j).2] at held
    cases held
  have tagged := tagged_lived henv idle occasions
  refine ⟨tagged, fun inactive => ?_, ?_⟩
  · obtain ⟨asked, grown, runs⟩ := runs_of_solitary henv (Consumer.start (site i r)) w
    refine ⟨asked, grown, ?_⟩
    obtain ⟨consuming, -⟩ | ⟨-, ⟨e, halted, ended⟩ |
      ⟨stops, begins, s₁, rfl, stopped, beginning⟩⟩ := starting_of_runs runs
    · cases inactive.symm.trans consuming
    · obtain ⟨ended', -⟩ | broken := halted.cases
      · cases ended'
      · have these (r : Request) (one : givesUp r) : givesUpOrConsumes r := by
          cases r <;> first | rfl | exact one
        exact .inr (.inr (ended ▸ broken.mono these))
    · obtain started | ⟨e, ended, channel, tag, manager⟩ | broken :=
        beginning.cases stopped.channel (stopped.tag tagged.1)
      · exact .inl started
      · exact .inr (.inl ⟨e, ended, channel, tag, manager.trans stopped.manager_eq⟩)
      · exact .inr (.inr (broken.append stops))
  · obtain ⟨asked, grown, runs⟩ := runs_of_solitary henv (Consumer.stop (site i r)) w
    refine ⟨asked, grown, ?_⟩
    obtain ⟨ended, gone⟩ | broken := (halted_of_runs runs).cases
    · refine .inl ⟨ended, gone, gone.channel, gone.tag tagged.1, fun d has tracked => ?_, ?_⟩
      · exact (gone.mem_tracked_iff.mp tracked).2 d has rfl
      · exact run_stop_of_idle gone.channel
    · exact .inr broken

/-! ### A broker that fails at will -/

/-- A broker that numbers the channels that it opens, and that fails whenever it likes. -/
def supplying (fails : Client.Course → Request → Option Error) : Client.Surroundings := fun w r =>
  (match fails w r with
    | some e => .error e
    | none => match r with
      | .openChannel _ =>
        .ok ⟨nextNumber ((opened w ++ w.state.manager.tracked).map (·.number))⟩
      | r => .ok r.granted, w.state)

theorem solitary_supplying (fails : Client.Course → Request → Option Error) :
    Solitary (supplying fails) where
  undisturbed _ _ := rfl
  unchanged _ _ := rfl
  new_channel w k c granted := by
    have new : c ∉ opened w ++ w.state.manager.tracked := by
      cases failed : fails w (.openChannel k) with
      | some e => simp [supplying, failed] at granted
      | none =>
        have numbered :
            c = ⟨nextNumber ((opened w ++ w.state.manager.tracked).map (·.number))⟩ := by
          simpa [supplying, failed, eq_comm] using granted
        exact not_mem_of_nextNumber (congrArg (·.number) numbered)
    exact fun tracked => new (List.mem_append_right _ tracked)

/-- A broker that fails to cancel and to close, and to consume on a channel that is closed. -/
def stubborn : Client.Surroundings := supplying fun w r => match r with
  | .cancel .. | .closeChannel _ => some (.fault .runtime "refused")
  | .consume c _ => if w.state.closed c then some (.fault .runtime "refused") else none
  | _ => none

/-- A consumer starts, and then all channels are closed. -/
def jolted : List Occasion :=
  [.operation .connect, .operation (.start 0 0), .operation (.observe fun _ => true)]

/-- A start that has to give up a stale channel fails where consuming is refused, and the consumer
is left with nothing; and so it is by a stop, although its channel cannot be closed. -/
theorem starts_and_stops_jolted :
    let w := lived stubborn shop jolted
    let started := (Consumer.start (site 0 0)).run stubborn.host Course.statePart w
    let stopped := (Consumer.stop (site 0 0)).run stubborn.host Course.statePart w
    Solitary stubborn ∧
      (∀ i, (shop.consumers i).channel = none ∧ (shop.consumers i).tag = none) ∧
      (w.state.consumers 0).isConsuming w.state.closed = false ∧
      w.state.manager.tracked = [⟨4⟩] ∧ (started.2.state.consumers 0).channel = none ∧
      ⟨4⟩ ∉ started.2.state.manager.tracked ∧ (stopped.2.state.consumers 0).channel = none ∧
      ⟨4⟩ ∉ stopped.2.state.manager.tracked := by
  have solitary : Solitary stubborn := solitary_supplying _
  have fresh (i : Nat) : (shop.consumers i).channel = none ∧ (shop.consumers i).tag = none :=
    ⟨rfl, rfl⟩
  have main := starts_and_stops solitary fresh jolted 0 0
  dsimp only at main ⊢
  -- what has happened is computed once; from here on it is known by these facts alone
  generalize lives : lived stubborn shop jolted = w at main ⊢
  generalize starts : (Consumer.start (site 0 0)).run stubborn.host Course.statePart w = started
    at main ⊢
  generalize stops : (Consumer.stop (site 0 0)).run stubborn.host Course.statePart w = stopped
    at main ⊢
  have inactive : (w.state.consumers 0).isConsuming w.state.closed = false := by
    rw [← lives]
    decide
  have tracked : w.state.manager.tracked = [⟨4⟩] := by
    rw [← lives]
    decide
  have stale : (w.state.consumers 0).channel.map (·.channel) = some ⟨4⟩ := by
    rw [← lives]
    decide
  have failed : started.1.mapError (·.isOrdinary) = .error true := by
    rw [← starts, ← lives]
    decide
  have halted : stopped.1.toBool := by
    rw [← stops, ← lives]
    decide
  obtain ⟨d, has, number⟩ := Option.map_eq_some_iff.mp stale
  obtain ⟨-, starting, _, -, ⟨-, -, empty, -, untracked, -⟩ | ⟨-, -, e, -, -, -, ended⟩⟩ := main
  case inr =>
    rw [ended] at halted
    cases halted
  obtain ⟨_, -, ⟨ended, -⟩ | ⟨e, -, neither, -, manager⟩ | ⟨-, -, e, -, -, passes, ended⟩⟩ :=
    starting inactive
  · rw [ended] at failed
    cases failed
  · refine ⟨solitary, fresh, inactive, tracked, neither, ?_, empty, number ▸ untracked d has⟩
    rw [manager, has, Option.elim_some, Manager.mem_tracked_untrack, number]
    exact fun still => still.2 rfl
  · rw [ended, Except.mapError, passes] at failed
    cases failed

/-- A broker that cancels some requests of a consumer that has a channel. -/
def cancelling (cancelled : Request → Bool) : Client.Surroundings := supplying fun w r =>
  if (w.state.consumers 0).channel.isSome && cancelled r then some (.fault .cancelled "stop")
  else none

/-- It is not true that a stop always returns, nor that a start that fails always leaves a consumer
without a channel: neither is true if a request of theirs is cancelled. -/
theorem cancellations_break_off :
    let started (cancelled : Request → Bool) := (Consumer.start (site 0 0)).run
      (cancelling cancelled).host Course.statePart
      (lived (cancelling cancelled) shop [.operation .connect])
    let stopped (cancelled : Request → Bool) := (Consumer.stop (site 0 0)).run
      (cancelling cancelled).host Course.statePart
      (lived (cancelling cancelled) shop [.operation .connect, .operation (.start 0 0)])
    let consuming : Request → Bool := fun | .consume .. => true | _ => false
    (stopped fun | .cancel .. => true | _ => false).1.toBool = false ∧
      (stopped fun | .closeChannel _ => true | _ => false).1.toBool = false ∧
      (started consuming).1.toBool = false ∧
      ((started consuming).2.state.consumers 0).channel.isSome := by
  decide

end Client

end BrokerClient
