import BrokerClient.Proofs.Provisioning

/-!
# Starting and stopping consumers

Operations of a client run one at a time, so nobody else uses the manager and the consumers while a
consumer starts or stops; the transport alone may say at any time that a channel is closed. Under
these terms a run of `start` or `stop` is told by the requests that it sends and by the state that
it leaves.

A stop cancels before it closes and leaves neither a channel nor a tag. A start leaves a consuming
consumer alone. Otherwise it gives up the channel that the consumer may have and begins anew, with a
new channel or with none. Only a cancellation breaks off either of them; where nothing is cancelled,
a stop never fails.

## Main definitions

* `Client.unshared` — how requests are served while nobody else uses the manager and the consumers.
* `Client.Attentive`, `Client.attended` — surroundings in which, besides, nothing is cancelled.
* `Client.Halted`, `Client.Beginning` — what runs ask for and leave.
* `Client.Stopped`, `Client.Begun` — the same where nothing is cancelled.

## Main results

* `Client.halted_of_runs`, `Client.beginning_of_runs`, `Client.starting_of_runs` — how consumers
  stop and start.
* `Client.stopped_of_runs`, `Client.Beginning.begun`, `Client.started_of_runs` — how they do where
  nothing is cancelled.
-/

namespace BrokerClient.Client

open Broker Channel Connection

/-! ### Surroundings -/

/-- The broker may fail as it likes, but nobody else uses the manager and the consumers, and a
channel on which consuming has just been granted is open. -/
structure Attentive (env : Client.Surroundings) : Prop extends Faithful env where
  unchanged : ∀ w r, (env w r).2.consumers = w.state.consumers
  consuming : ∀ w c queue tag, (env w (.consume c queue)).1 = .ok tag →
    (env w (.consume c queue)).2.closed c = false

/-- What the reply to a request leaves. -/
structure Attends (r : Request) (s : Client) (reply : Except Error r.Reply) (s' : Client) :
    Prop where
  regular : Answer.Regular ⟨r, reply⟩
  manager : s'.manager = s.manager
  consumers : s'.consumers = s.consumers
  consuming : ∀ c queue, r = .consume c queue → reply.isOk → s'.closed c = false

/-- Requests are asked for themselves, and nobody else uses the manager and the consumers. -/
def attended : Service requests (Answer requests) Client := fun r s asked reply s' =>
  asked = [⟨r, reply⟩] ∧ Attends r s reply s'

variable {α : Type} {env : Client.Surroundings} {s s' : Client} {asked : List (Answer requests)}
  {i r : Nat}

/-- A run against attentive surroundings is one of the runs of the program. -/
theorem runs_of_attentive (henv : Attentive env) (p : Act Client α) (w : Client.Course) :
    ∃ asked, (p.run env.host Course.statePart w).2.answers = w.answers ++ asked ∧
      p.Runs attended .whole w.state asked (p.run env.host Course.statePart w).1
        (p.run env.host Course.statePart w).2.state := by
  refine Program.runs_of_served Course.stateView attended (fun w r => ⟨rfl, ?_⟩) p w
  refine ⟨regular_of_faithful henv.toFaithful rfl, henv.undisturbed w r, henv.unchanged w r, ?_⟩
  rintro c queue rfl granted
  cases replied : (env w (.consume c queue)).1 with
  | ok tag => exact henv.consuming w c queue tag replied
  | error e =>
    rw [replied] at granted
    cases granted

/-- Requests are asked for themselves, and nobody else uses the manager and the consumers. What else
is known of a reply, and of the states before and after it, is `known`. -/
def unshared (known : (r : Request) → Client → Except Error r.Reply → Client → Prop) :
    Service requests (Answer requests) Client := fun r s asked reply s' =>
  asked = [⟨r, reply⟩] ∧ s'.manager = s.manager ∧ s'.consumers = s.consumers ∧ known r s reply s'

variable {known : (r : Request) → Client → Except Error r.Reply → Client → Prop}

/-- A program of the manager runs on it alone, and leaves the consumers as they are. -/
theorem alone_of_unshared {p : Connection.Act α} {result : Except Error α}
    (h : p.Runs (unshared known) (Lens.whole.andThen managerPart) s asked result s') :
    p.Alone s.manager asked result s'.manager ∧ s'.consumers = s.consumers := by
  refine ⟨h.seen (·.manager) (fun _ => rfl) (fun _ _ => rfl) ?_, ?_⟩
  · exact fun _ _ _ _ _ served => ⟨served.1, served.2.1⟩
  · let I (t : Client) : Prop := t.consumers = s.consumers
    exact h.keeps (I := I) (fun _ _ same => same)
      (fun _ _ _ _ _ served same => served.2.2.1.trans same) rfl

/-- In attentive surroundings, too, nobody else uses the manager and the consumers. -/
theorem unshared_of_attended {σ : Type} {part : Lens Client σ} {p : Act σ α}
    {result : Except Error α} (h : p.Runs attended part s asked result s') :
    p.Runs (unshared Attends) part s asked result s' ∧ ∀ a ∈ asked, a.Regular := by
  refine ⟨h.seen id (fun _ => rfl) (fun _ _ => rfl) ?_, h.forall_asked ?_⟩
  · exact fun _ _ _ _ _ served => ⟨served.1, served.2.manager, served.2.consumers, served.2⟩
  · rintro _ _ _ _ _ ⟨rfl, attends⟩ a ha
    obtain rfl := List.mem_singleton.mp ha
    exact attends.regular

theorem alone_of_runs {p : Connection.Act α} {result : Except Error α}
    (h : p.Runs attended (Lens.whole.andThen managerPart) s asked result s') :
    p.Alone s.manager asked result s'.manager ∧ (∀ a ∈ asked, a.Regular) ∧
      s'.consumers = s.consumers := by
  obtain ⟨runs, regular⟩ := unshared_of_attended h
  obtain ⟨alone, same⟩ := alone_of_unshared runs
  exact ⟨alone, regular, same⟩

/-- A cancellation is not regular. -/
theorem not_regular_of_cancelled {r : Request} {e : Error} (passes : e.isOrdinary = false) :
    ¬ Answer.Regular ⟨r, .error e⟩ := by
  intro regular
  have ordinary := regular.ordinary
  rw [passes] at ordinary
  cases ordinary

section Site

variable {service : Service requests (Answer requests) Client} {result : Except Error α}

theorem runs_current_seq {f : Consumer → Act Client α} :
    (Consumer.current (site i r) >>= f).Runs service .whole s asked result s' ↔
      (f (s.consumers i)).Runs service .whole s asked result s' :=
  Iff.rfl

theorem runs_change_seq {change : Consumer → Consumer} {f : Unit → Act Client α} :
    (Consumer.change (site i r) change >>= f).Runs service .whole s asked result s' ↔
      (f ()).Runs service .whole
        { s with consumers := Function.update s.consumers i (change (s.consumers i)) } asked result
        s' :=
  Iff.rfl

end Site

/-! ### Stopping -/

/-- What cancelling asks for: nothing if the consumer has no tag or its channel is closed. -/
inductive Cancelled (i : Nat) (s : Client) (d : ConsumerChannel) : List (Answer requests) → Prop
  | skipped (needless : (s.consumers i).tag = none ∨ s.closed d.channel) : Cancelled i s d []
  | cancelled {tag reply} (tagged : (s.consumers i).tag = some tag)
    (isOpen : s.closed d.channel = false) :
    Cancelled i s d [⟨.cancel d.channel d.queueName tag, reply⟩]

/-- Cancelling fails only if it is itself cancelled. -/
theorem cancelled_of_runs {d : ConsumerChannel} {result : Except Error Unit}
    (h : (Consumer.cancel (site i r) d).Runs (unshared known) .whole s asked result s') :
    Cancelled i s d asked ∧ s'.manager = s.manager ∧ s'.consumers = s.consumers ∧
      (result = .ok () ∨ ∃ tag e, (s.consumers i).tag = some tag ∧ s.closed d.channel = false ∧
        e.isOrdinary = false ∧ asked = [⟨.cancel d.channel d.queueName tag, .error e⟩] ∧
        result = .error e) := by
  rw [Consumer.cancel, Program.runs_read] at h
  dsimp only at h
  split at h
  case h_2 untagged =>
    obtain ⟨rfl, rfl, rfl⟩ := h
    exact ⟨.skipped (.inl untagged), rfl, rfl, .inl rfl⟩
  case h_1 tag tagged =>
    split at h
    case isTrue closed =>
      obtain ⟨rfl, rfl, rfl⟩ := h
      exact ⟨.skipped (.inr closed), rfl, rfl, .inl rfl⟩
    case isFalse isOpen =>
      have isOpen : s.closed d.channel = false := Bool.eq_false_iff.mpr isOpen
      obtain ⟨⟨⟩, asks, rfl⟩ | ⟨e, asks, passes, rfl⟩ |
        ⟨e, s₁, asked₁, _, rfl, asks, -, rfl, rfl, rfl⟩ := Program.runs_rescue.mp h
      · obtain ⟨rfl, manager, consumers, -⟩ := Program.runs_perform.mp asks
        exact ⟨.cancelled tagged isOpen, manager, consumers, .inl rfl⟩
      · obtain ⟨rfl, manager, consumers, -⟩ := Program.runs_perform.mp asks
        exact ⟨.cancelled tagged isOpen, manager, consumers,
          .inr ⟨tag, e, tagged, isOpen, passes, rfl, rfl⟩⟩
      · obtain ⟨rfl, manager, consumers, -⟩ := Program.runs_perform.mp asks
        exact ⟨.cancelled tagged isOpen, manager, consumers, .inl rfl⟩

/-- What removing a channel asks for: its close, if the manager tracks it. -/
inductive Removed (m : Manager) (d : ConsumerChannel) : List (Answer requests) → Prop
  | untracked (untracked : d.channel ∉ m.tracked) : Removed m d []
  | closed {reply} (tracked : d.channel ∈ m.tracked) :
    Removed m d [⟨.closeChannel d.channel, reply⟩]

theorem Removed.of_ok {m m' : Manager} {d : ConsumerChannel} (h : m.Removal d asked (.ok ()) m') :
    Removed m d asked ∧ m' = m.untrack d := by
  cases h with
  | untracked untracked => exact ⟨.untracked untracked, (Manager.untrack_of_not_mem untracked).symm⟩
  | removed tracked => exact ⟨.closed tracked, rfl⟩

/-- The channel of a consumer is removed. -/
theorem removal_of_runs {d : ConsumerChannel} {result : Except Error Unit}
    (has : (s.consumers i).channel = some d)
    (h : (Consumer.removeChannel (site i r)).Runs (unshared known) .whole s asked result s') :
    s.manager.Removal d asked result s'.manager ∧ s'.consumers = s.consumers := by
  rw [Consumer.removeChannel, runs_current_seq, has] at h
  obtain ⟨alone, same⟩ := alone_of_unshared (Program.runs_on.mp h)
  exact ⟨Manager.removal_of_runs alone, same⟩

/-- What a stop asks for, and the state that it leaves. -/
inductive Stopped (i : Nat) (s : Client) : List (Answer requests) → Client → Prop
  | idle (idle : (s.consumers i).channel = none) : Stopped i s [] s
  | stopped {d cancels removes s'} (has : (s.consumers i).channel = some d)
    (cancelled : Cancelled i s d cancels) (removed : Removed s.manager d removes)
    (manager : s'.manager = s.manager.untrack d)
    (consumers : s'.consumers =
      Function.update s.consumers i { s.consumers i with tag := none, channel := none }) :
    Stopped i s (cancels ++ removes) s'

namespace Stopped

variable {c : ChannelId}

theorem alike (h : Stopped i s asked s') : s.manager.Alike s'.manager := by
  cases h with
  | idle => exact ⟨rfl, rfl, rfl⟩
  | stopped _ _ _ manager =>
    rw [manager]
    exact ⟨rfl, rfl, rfl⟩

theorem others (h : Stopped i s asked s') {j : Nat} (other : j ≠ i) :
    s'.consumers j = s.consumers j := by
  cases h with
  | idle => rfl
  | stopped _ _ _ _ consumers => rw [consumers, Function.update_of_ne other]

/-- A consumer that has stopped has no channel. -/
theorem channel (h : Stopped i s asked s') : (s'.consumers i).channel = none := by
  cases h with
  | idle idle => exact idle
  | stopped _ _ _ _ consumers => rw [consumers, Function.update_self]

/-- What is tracked after a stop is what was tracked, but for the channel of the consumer. -/
theorem mem_tracked_iff (h : Stopped i s asked s') : c ∈ s'.manager.tracked ↔
    c ∈ s.manager.tracked ∧ ∀ d, (s.consumers i).channel = some d → c ≠ d.channel := by
  cases h with
  | idle idle => simp [idle]
  | stopped has _ _ manager =>
    rw [manager, Manager.mem_tracked_untrack, has]
    simp

end Stopped

/-- What a stop asks for, whatever it is replied with, how it ends, and the state that it leaves. -/
inductive Halted (i : Nat) (s : Client) :
    List (Answer requests) → Except Error Unit → Client → Prop
  | halted {all : List (Answer requests)} {t : Client} (stopped : Stopped i s all t) :
    Halted i s all (.ok ()) t
  | uncancelled {d tag e s'} (has : (s.consumers i).channel = some d)
    (tagged : (s.consumers i).tag = some tag) (isOpen : s.closed d.channel = false)
    (passes : e.isOrdinary = false) (manager : s'.manager = s.manager)
    (consumers : s'.consumers = s.consumers) :
    Halted i s [⟨.cancel d.channel d.queueName tag, .error e⟩] (.error e) s'
  | unclosed {d cancels e s'} (has : (s.consumers i).channel = some d)
    (cancelled : Cancelled i s d cancels) (tracked : d.channel ∈ s.manager.tracked)
    (passes : e.isOrdinary = false) (manager : s'.manager = s.manager)
    (consumers : s'.consumers =
      Function.update s.consumers i { s.consumers i with tag := none }) :
    Halted i s (cancels ++ [⟨.closeChannel d.channel, .error e⟩]) (.error e) s'

/-- A stop is broken off only by a cancellation. -/
theorem halted_of_runs {result : Except Error Unit}
    (h : (Consumer.stop (site i r)).Runs (unshared known) .whole s asked result s') :
    Halted i s asked result s' := by
  rw [Consumer.stop, runs_current_seq] at h
  cases has : (s.consumers i).channel with
  | none =>
    rw [has] at h
    obtain ⟨rfl, rfl, rfl⟩ := h
    exact .halted (.idle has)
  | some d =>
    rw [has] at h
    dsimp only at h
    rw [Program.runs_seq] at h
    obtain ⟨e, failed, rfl⟩ | ⟨_, s₁, cancels, asked₁, rfl, cancels', h⟩ := h
    · obtain ⟨-, manager, consumers, ended | ⟨tag, _, tagged, isOpen, passes, rfl, ended⟩⟩ :=
        cancelled_of_runs failed <;> cases ended
      exact .uncancelled has tagged isOpen passes manager consumers
    obtain ⟨cancelled, manager, consumers, -⟩ := cancelled_of_runs cancels'
    rw [runs_change_seq, consumers, Program.runs_seq] at h
    have untagged : (Function.update s.consumers i { s.consumers i with tag := none } i).channel =
        some d := by
      rw [Function.update_self]
      exact has
    obtain ⟨e, failed, rfl⟩ | ⟨_, s₂, removes, asked₂, rfl, removes', h⟩ := h
    · obtain ⟨removal, consumers'⟩ := removal_of_runs untagged failed
      dsimp only at removal
      rw [manager] at removal
      generalize eq : s'.manager = m' at removal
      cases removal with
      | cancelled tracked passes => exact .unclosed has cancelled tracked passes eq consumers'
    obtain ⟨removal, consumers'⟩ := removal_of_runs untagged removes'
    obtain ⟨removed, manager'⟩ := Removed.of_ok removal
    rw [runs_change_seq, consumers', runs_current_seq] at h
    obtain ⟨rfl, rfl, rfl⟩ := h
    dsimp only at removed manager'
    rw [manager] at removed manager'
    rw [List.append_nil]
    exact .halted (.stopped has cancelled removed manager' (by simp))

/-- Where nothing is cancelled, a stop never fails. -/
theorem Halted.stopped {result : Except Error Unit} (h : Halted i s asked result s')
    (regular : ∀ a ∈ asked, a.Regular) : Stopped i s asked s' ∧ result = .ok () := by
  cases h with
  | halted stopped => exact ⟨stopped, rfl⟩
  | uncancelled has tagged isOpen passes =>
    exact absurd (regular _ List.mem_cons_self) (not_regular_of_cancelled passes)
  | unclosed has cancelled tracked passes =>
    exact absurd (regular _ (List.mem_append_right _ List.mem_cons_self))
      (not_regular_of_cancelled passes)

theorem stopped_of_runs {result : Except Error Unit}
    (h : (Consumer.stop (site i r)).Runs attended .whole s asked result s') :
    Stopped i s asked s' ∧ result = .ok () := by
  obtain ⟨runs, regular⟩ := unshared_of_attended h
  exact (halted_of_runs runs).stopped regular

/-! ### Starting -/

/-- A consumer channel has been made on a channel that was opened in this state. -/
structure Provisioned (known : (r : Request) → Client → Except Error r.Reply → Client → Prop)
    (i : Nat) (s : Client) (making : List (Answer requests)) (d : ConsumerChannel)
    (m : Manager) : Prop where
  made : s.manager.Creation (s.consumers i).options making (.ok d) m
  opened : ∃ k t, known (.openChannel k) s (.ok d.channel) t

/-- What a consumer that begins to consume asks for, whatever it is replied with, how it ends, and
the state that it leaves. -/
inductive Beginning (known : (r : Request) → Client → Except Error r.Reply → Client → Prop)
    (i : Nat) (s : Client) : List (Answer requests) → Except Error Unit → Client → Prop
  | unmade {making e s'}
    (made : s.manager.Creation (s.consumers i).options making (.error e) s.manager)
    (manager : s'.manager = s.manager) (consumers : s'.consumers = s.consumers) :
    Beginning known i s making (.error e) s'
  | refused {making d m e removes s'} (provisioned : Provisioned known i s making d m)
    (ordinary : e.isOrdinary) (removed : Removed m d removes)
    (manager : s'.manager = m.untrack d)
    (consumers : s'.consumers =
      Function.update s.consumers i { s.consumers i with channel := none }) :
    Beginning known i s (making ++ ⟨.consume d.channel d.queueName, .error e⟩ :: removes)
      (.error e) s'
  | unremoved {making d m e e' s'} (provisioned : Provisioned known i s making d m)
    (passes : e'.isOrdinary = false) (manager : s'.manager = m)
    (consumers : s'.consumers =
      Function.update s.consumers i { s.consumers i with channel := some d }) :
    Beginning known i s (making ++
      [⟨.consume d.channel d.queueName, .error e⟩, ⟨.closeChannel d.channel, .error e'⟩])
      (.error e') s'
  | unconsumed {making d m e s'} (provisioned : Provisioned known i s making d m)
    (passes : e.isOrdinary = false) (manager : s'.manager = m)
    (consumers : s'.consumers =
      Function.update s.consumers i { s.consumers i with channel := some d }) :
    Beginning known i s (making ++ [⟨.consume d.channel d.queueName, .error e⟩]) (.error e) s'
  | consuming {making d m tag s₁ s'} (provisioned : Provisioned known i s making d m)
    (granted : ∃ t, known (.consume d.channel d.queueName) t (.ok tag) s₁)
    (manager : s'.manager = m)
    (consumers : s'.consumers =
      Function.update s.consumers i { s.consumers i with channel := some d, tag := some tag })
    (closed : s'.closed = s₁.closed) :
    Beginning known i s (making ++ [⟨.consume d.channel d.queueName, .ok tag⟩]) (.ok ()) s'

/-- A consumer channel is made on a channel that is opened in the state in which its making
begins. -/
theorem opening_of_runs {σ : Type} {part : Lens σ Manager} {o : ConsumerOptions} {w w' : σ}
    {service : Service requests (Answer requests) σ} {result : Except Error ConsumerChannel}
    {k : ConnectionId} (connected : (part.get w).connection = some k)
    (h : (Manager.createConsumerChannel o).Runs service part w asked result w') :
    ∃ reply w₁ asked₁ asked₂, asked = asked₁ ++ asked₂ ∧
      service (.openChannel k) w asked₁ reply w₁ := by
  rw [Manager.createConsumerChannel, Program.runs_state_seq] at h
  simp only [connected] at h
  obtain ⟨reply, w₁, asked₁, asked₂, eq, served, -⟩ := h
  exact ⟨reply, w₁, asked₁, asked₂, eq, served⟩

/-- A consumer channel is made for a consumer, or nothing changes. -/
theorem provisioned_of_runs {result : Except Error ConsumerChannel}
    (h : (Manager.createConsumerChannel (s.consumers i).options).Runs (unshared known)
      (Lens.whole.andThen managerPart) s asked result s') :
    s'.consumers = s.consumers ∧
      ((∃ d, result = .ok d ∧ Provisioned known i s asked d s'.manager) ∨
        ∃ e, result = .error e ∧ s'.manager = s.manager ∧
          s.manager.Creation (s.consumers i).options asked (.error e) s.manager) := by
  obtain ⟨alone, same⟩ := alone_of_unshared h
  have creation := Manager.creation_of_runs alone
  refine ⟨same, ?_⟩
  cases result with
  | error e =>
    have unchanged := creation.unchanged
    exact .inr ⟨e, rfl, unchanged, unchanged ▸ creation⟩
  | ok d =>
    refine .inl ⟨d, rfl, creation, ?_⟩
    generalize s'.manager = m' at creation
    cases creation with
    | @made k c steps connected granted =>
      obtain ⟨reply, t, _, rest, eq, rfl, -, -, opened⟩ := opening_of_runs connected h
      cases eq
      exact ⟨k, t, opened⟩

/-- A consumer asks to consume on its new channel, and gives the channel up if that is refused. -/
theorem consuming_of_runs {d : ConsumerChannel} {result : Except Error String}
    (has : (s.consumers i).channel = some d)
    (h : (Program.rescue (ask (.consume d.channel d.queueName)) fun e => do
      Consumer.removeChannel (site i r)
      Consumer.change (site i r) fun c => { c with channel := none }
      .fail e : Act Client String).Runs (unshared known) .whole s asked result s') :
    (∃ reply, asked = [⟨.consume d.channel d.queueName, reply⟩] ∧ result = reply ∧
        (∀ e, reply = .error e → e.isOrdinary = false) ∧ s'.manager = s.manager ∧
        s'.consumers = s.consumers ∧ known (.consume d.channel d.queueName) s reply s') ∨
      ∃ e, e.isOrdinary ∧
        ((∃ removes, asked = ⟨.consume d.channel d.queueName, .error e⟩ :: removes ∧
            Removed s.manager d removes ∧ result = .error e ∧
            s'.manager = s.manager.untrack d ∧ s'.consumers =
              Function.update s.consumers i { s.consumers i with channel := none }) ∨
          ∃ e', asked = [⟨.consume d.channel d.queueName, .error e⟩,
              ⟨.closeChannel d.channel, .error e'⟩] ∧ e'.isOrdinary = false ∧
            result = .error e' ∧ s'.manager = s.manager ∧ s'.consumers = s.consumers) := by
  obtain ⟨tag, asks, rfl⟩ | ⟨e, asks, passes, rfl⟩ |
    ⟨e, s₁, asked₁, asked₂, rfl, asks, ordinary, recovers⟩ := Program.runs_rescue.mp h
  · obtain ⟨rfl, manager, consumers, granted⟩ := Program.runs_perform.mp asks
    exact .inl ⟨.ok tag, rfl, rfl, by simp, manager, consumers, granted⟩
  · obtain ⟨rfl, manager, consumers, refused⟩ := Program.runs_perform.mp asks
    exact .inl ⟨.error e, rfl, rfl, by simpa using passes, manager, consumers, refused⟩
  obtain ⟨rfl, manager, consumers, -⟩ := Program.runs_perform.mp asks
  have has' : (s₁.consumers i).channel = some d := consumers ▸ has
  refine .inr ⟨e, ordinary, ?_⟩
  rw [Program.runs_seq] at recovers
  obtain ⟨e', failed, rfl⟩ | ⟨_, s₂, removes, _, rfl, removes', rest⟩ := recovers
  · obtain ⟨removal, consumers'⟩ := removal_of_runs has' failed
    generalize s'.manager = m' at removal
    cases removal with
    | cancelled tracked passes =>
      exact .inr ⟨e', rfl, passes, rfl, manager, consumers'.trans consumers⟩
  · obtain ⟨removal, consumers'⟩ := removal_of_runs has' removes'
    obtain ⟨removed, manager'⟩ := Removed.of_ok removal
    rw [runs_change_seq, consumers', consumers] at rest
    obtain ⟨rfl, rfl, rfl⟩ := rest
    rw [manager] at removed manager'
    exact .inl ⟨removes, by simp, removed, rfl, manager', rfl⟩

/-- A consumer begins to consume on a new channel, or is left without a channel, unless consuming or
the removal of the channel is cancelled. -/
theorem beginning_of_runs {result : Except Error Unit}
    (h : (Consumer.begin (site i r)).Runs (unshared known) .whole s asked result s') :
    Beginning known i s asked result s' := by
  rw [Consumer.begin, runs_current_seq, Program.runs_seq] at h
  obtain ⟨e, failed, rfl⟩ | ⟨d, s₁, making, asked₁, rfl, makes, h⟩ := h
  · obtain ⟨same, ⟨_, ended, -⟩ | ⟨_, ended, manager, made⟩⟩ :=
      provisioned_of_runs (Program.runs_on.mp failed) <;> cases ended
    exact .unmade made manager same
  obtain ⟨same, ⟨_, ended, provisioned⟩ | ⟨_, ended, -⟩⟩ :=
    provisioned_of_runs (Program.runs_on.mp makes) <;> cases ended
  rw [runs_change_seq, same, Program.runs_seq] at h
  have has : (Function.update s.consumers i { s.consumers i with channel := some d } i).channel =
      some d := by
    rw [Function.update_self]
  obtain ⟨e, failed, rfl⟩ | ⟨tag, s₂, asked₁, asked₂, rfl, consumes, h⟩ := h
  · obtain ⟨_, rfl, rfl, passes, manager, consumers, -⟩ |
      ⟨e, ordinary, ⟨removes, rfl, removed, ended, manager, consumers⟩ |
        ⟨e', rfl, passes, ended, manager, consumers⟩⟩ := consuming_of_runs has failed
    · exact .unconsumed provisioned (passes e rfl) manager consumers
    · cases ended
      exact .refused provisioned ordinary removed manager (by simp [consumers])
    · cases ended
      exact .unremoved provisioned passes manager consumers
  · obtain ⟨_, rfl, rfl, -, manager, consumers, granted⟩ |
      ⟨_, -, ⟨_, -, -, ended, -⟩ | ⟨_, -, -, ended, -⟩⟩ :=
        consuming_of_runs has consumes
    · rw [runs_change_seq, consumers] at h
      obtain ⟨rfl, rfl, rfl⟩ := h
      rw [List.append_nil]
      exact .consuming provisioned ⟨_, granted⟩ manager (by simp) rfl
    · cases ended
    · cases ended

/-- A consumer that is consuming is left alone; any other gives up its channel and, if that is not
cancelled, begins anew. -/
theorem starting_of_runs {result : Except Error Unit}
    (h : (Consumer.start (site i r)).Runs (unshared known) .whole s asked result s') :
    ((s.consumers i).isConsuming s.closed ∧ asked = [] ∧ result = .ok () ∧ s' = s) ∨
      (s.consumers i).isConsuming s.closed = false ∧
        ((∃ e, Halted i s asked (.error e) s' ∧ result = .error e) ∨
          ∃ stops begins s₁, asked = stops ++ begins ∧ Stopped i s stops s₁ ∧
            Beginning known i s₁ begins result s') := by
  rw [Consumer.start, Program.runs_read] at h
  dsimp only at h
  split at h
  case isTrue consuming =>
    obtain ⟨rfl, rfl, rfl⟩ := h
    exact .inl ⟨consuming, rfl, rfl, rfl⟩
  case isFalse inactive =>
    refine .inr ⟨Bool.eq_false_iff.mpr inactive, ?_⟩
    split at h
    case isTrue =>
      rw [Program.runs_seq] at h
      obtain ⟨e, failed, rfl⟩ | ⟨_, s₁, stops, begins, rfl, stops', h⟩ := h
      · exact .inl ⟨e, halted_of_runs failed, rfl⟩
      · cases halted_of_runs stops' with
        | halted stopped =>
          exact .inr ⟨stops, begins, s₁, rfl, stopped, beginning_of_runs h⟩
    case isFalse idle =>
      have idle : (s.consumers i).channel = none := Option.not_isSome_iff_eq_none.mp idle
      exact .inr ⟨[], asked, s, rfl, .idle idle, beginning_of_runs h⟩

/-! ### Starting where nothing is cancelled -/

/-- What a consumer that begins to consume asks for, how it ends, and the state that it leaves. -/
inductive Begun (i : Nat) (s : Client) :
    List (Answer requests) → Except Error Unit → Client → Prop
  | unmade {making e s'}
    (made : s.manager.Making (s.consumers i).options making (.error e) s.manager)
    (manager : s'.manager = s.manager) (consumers : s'.consumers = s.consumers) :
    Begun i s making (.error e) s'
  | refused {making d m e removes s'}
    (made : s.manager.Making (s.consumers i).options making (.ok d) m)
    (removed : Removed m d removes) (manager : s'.manager = m.untrack d)
    (consumers : s'.consumers =
      Function.update s.consumers i { s.consumers i with channel := none }) :
    Begun i s (making ++ ⟨.consume d.channel d.queueName, .error e⟩ :: removes) (.error e) s'
  | consuming {making d m tag s'}
    (made : s.manager.Making (s.consumers i).options making (.ok d) m)
    (manager : s'.manager = m)
    (consumers : s'.consumers =
      Function.update s.consumers i { s.consumers i with channel := some d, tag := some tag })
    (isOpen : s'.closed d.channel = false) :
    Begun i s (making ++ [⟨.consume d.channel d.queueName, .ok tag⟩]) (.ok ()) s'

namespace Begun

theorem alike {result : Except Error Unit} (h : Begun i s asked result s') :
    s.manager.Alike s'.manager := by
  cases h with
  | unmade _ manager =>
    rw [manager]
    exact ⟨rfl, rfl, rfl⟩
  | refused made _ manager | consuming made manager =>
    rw [manager, made.of_ok.1]
    exact ⟨rfl, rfl, rfl⟩

theorem others {result : Except Error Unit} (h : Begun i s asked result s') {j : Nat}
    (other : j ≠ i) : s'.consumers j = s.consumers j := by
  cases h with
  | unmade _ _ consumers => rw [consumers]
  | refused _ _ _ consumers | consuming _ _ consumers =>
    rw [consumers, Function.update_of_ne other]

/-- A consumer that could not begin has no channel, and nothing more is tracked. -/
theorem of_error {e : Error} (h : Begun i s asked (.error e) s')
    (idle : (s.consumers i).channel = none) :
    (s'.consumers i).channel = none ∧ s'.manager.tracked ⊆ s.manager.tracked := by
  cases h with
  | unmade _ manager consumers => exact ⟨consumers ▸ idle, manager ▸ List.Subset.refl _⟩
  | refused made _ manager consumers =>
    refine ⟨by rw [consumers, Function.update_self], fun c tracked => ?_⟩
    rw [manager, Manager.mem_tracked_untrack, made.of_ok.1, Manager.tracked_track,
      List.mem_append, List.mem_singleton] at tracked
    exact tracked.1.resolve_right tracked.2

/-- A consumer that has begun consumes on a channel that has just been opened and is tracked. -/
theorem of_ok (h : Begun i s asked (.ok ()) s') : ∃ d k,
    (s'.consumers i).channel = some d ∧ (s'.consumers i).isConsuming s'.closed ∧
      s'.manager.tracked = s.manager.tracked ++ [d.channel] ∧ s.manager.connection = some k ∧
      ⟨.openChannel k, .ok d.channel⟩ ∈ asked := by
  cases h with
  | @consuming making d m tag s' made manager consumers isOpen =>
    obtain ⟨rfl, k, connected, opens⟩ := made.of_ok
    refine ⟨d, k, by rw [consumers, Function.update_self], ?_, ?_, connected,
      List.mem_append_left _ opens⟩
    · rw [consumers, Function.update_self]
      simp [Consumer.isConsuming, isOpen]
    · rw [manager, Manager.tracked_track]

end Begun

/-- Without cancellations a consumer begins to consume on a new channel, or is left without a
channel. -/
theorem Beginning.begun {result : Except Error Unit} (h : Beginning Attends i s asked result s')
    (regular : ∀ a ∈ asked, a.Regular) : Begun i s asked result s' := by
  cases h with
  | unmade made manager consumers => exact .unmade (made.making regular) manager consumers
  | refused provisioned ordinary removed manager consumers =>
    obtain ⟨first, -⟩ := List.forall_mem_append.mp regular
    exact .refused (provisioned.made.making first) removed manager consumers
  | unremoved provisioned passes =>
    have closing := List.forall_mem_cons.mp (List.forall_mem_append.mp regular).2
    exact absurd (closing.2 _ List.mem_cons_self) (not_regular_of_cancelled passes)
  | unconsumed provisioned passes =>
    exact absurd (regular _ (List.mem_append_right _ List.mem_cons_self))
      (not_regular_of_cancelled passes)
  | consuming provisioned granted manager consumers closed =>
    obtain ⟨first, -⟩ := List.forall_mem_append.mp regular
    obtain ⟨t, attends⟩ := granted
    refine .consuming (provisioned.made.making first) manager consumers ?_
    rw [closed]
    exact attends.consuming _ _ rfl rfl

/-- A consumer that is consuming is left alone; any other gives up its channel and begins anew. -/
theorem started_of_runs {result : Except Error Unit}
    (h : (Consumer.start (site i r)).Runs attended .whole s asked result s') :
    ((s.consumers i).isConsuming s.closed ∧ asked = [] ∧ result = .ok () ∧ s' = s) ∨
      (s.consumers i).isConsuming s.closed = false ∧ ∃ stops begins s₁, asked = stops ++ begins ∧
        Stopped i s stops s₁ ∧ Begun i s₁ begins result s' := by
  obtain ⟨runs, regular⟩ := unshared_of_attended h
  obtain same | ⟨inactive, ⟨e, halted, -⟩ | ⟨stops, begins, s₁, rfl, stopped, beginning⟩⟩ :=
    starting_of_runs runs
  · exact .inl same
  · obtain ⟨-, ended⟩ := halted.stopped regular
    cases ended
  · have begun := beginning.begun (List.forall_mem_append.mp regular).2
    exact .inr ⟨inactive, stops, begins, s₁, rfl, stopped, begun⟩

end BrokerClient.Client
