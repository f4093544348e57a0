import BrokerClient.Proofs.Handling
import BrokerClient.Proofs.WireFormat
import BrokerClient.Publisher

/-!
# Events within the process and over the broker

An event can be dispatched within the process, or be sent as a message and be received by a
consumer. Without retries both ask for the same: calls of the handlers, one after another up to the
first that fails, with the same envelope, and nothing else. Within the process every handler is
called itself. A consumer calls the stand-ins, and it does not call what cannot be hashed.

If the handlers can be hashed and are equal to no other ones, both call the same handlers. Then how
the dispatch ends within the process decides how the delivery is settled. The two run in
surroundings of their own. All that has to be the same there is what the handlers do, which may
depend on what they have been asked for since the event came up (`Client.Behaves`).

## Main definitions

* `Called`, `Emitted` — what handlers and events ask for without retries, and how they end.
* `Client.Behaves` — handlers that do the same whatever else happens.
* `Client.BothWays` — an event that is dispatched within the process and is received, too.

## Main results

* `Processed.emitted` — without retries a consumer asks for what a dispatch without them asks for.
* `Emitted.unique` — what the handlers do decides what an event asks for, whichever way it goes.
* `Client.emitted_as_received` — an event ends within the process as its delivery is settled.
-/

namespace BrokerClient

open Broker Event Retry

/-- The calls of handlers one after another up to the first that fails, and how this ends; `callee`
gives what is called for a handler. -/
inductive Called (callee : Handler → Except Error Handler) (e : Envelope) :
    List Handler → List (Answer requests) → Except Error Unit → Prop
  | finished : Called callee e [] [] (.ok ())
  /-- Nothing can be called for a handler. -/
  | uncalled {h hs error} (none : callee h = .error error) :
    Called callee e (h :: hs) [] (.error error)
  | stopped {h g hs error} (called : callee h = .ok g) :
    Called callee e (h :: hs) [⟨.handle g e, .error error⟩] (.error error)
  | next {h g hs asked result} (called : callee h = .ok g)
    (rest : Called callee e hs asked result) :
    Called callee e (h :: hs) (⟨.handle g e, .ok ()⟩ :: asked) result

/-- What an event asks for without retries, and how its dispatch ends. -/
inductive Emitted (callee : Handler → Except Error Handler) (r : Registry) (e : Envelope) :
    List (Answer requests) → Except Error Unit → Prop
  | unhandled (none : r.handlers e.eventType = []) : Emitted callee r e [] (r.unhandled e)
  | handled {asked result} (some : r.handlers e.eventType ≠ [])
    (called : Called callee e (r.handlers e.eventType) asked result) :
    Emitted callee r e asked result

/-! ### Without retries -/

section WithoutRetries

variable {callee : Handler → Except Error Handler} {s : Schedule} {h : Handler} {hs : List Handler}
  {e : Envelope} {r : Registry} {asked : List (Answer requests)} {result : Except Error Unit}

/-- Without retries a job is one call of its handler. -/
theorem Retry.Attempts.once (off : s.maxRetries = 0) (attempts : Attempts s h e 0 asked result) :
    asked = [⟨.handle h e, result⟩] := by
  cases attempts with
  | succeeded | cancelled | exhausted => rfl
  | undelayed _ more | interrupted _ more | again _ more => omega

theorem Dispatched.called (off : s.maxRetries = 0)
    (dispatched : Dispatched callee s e hs asked result) : Called callee e hs asked result := by
  induction dispatched with
  | finished => exact .finished
  | uncalled none => exact .uncalled none
  | stopped called failed =>
    obtain rfl := failed.once off
    exact .stopped called
  | next called succeeded _ ih =>
    obtain rfl := succeeded.once off
    exact .next called ih

/-- Without retries a consumer asks for what a dispatch without them asks for, but for what is
called for a handler. -/
theorem Processed.emitted (off : s.maxRetries = 0)
    (processed : Processed callee r s e asked result) : Emitted callee r e asked result := by
  cases processed with
  | unhandled none => exact .unhandled none
  | handled some dispatched => exact .handled some (dispatched.called off)

/-- Nothing is asked for but calls with the envelope, each for one of the handlers. -/
theorem Called.handles (called : Called callee e hs asked result) :
    ∀ a ∈ asked, ∃ h ∈ hs, ∃ g reply, callee h = .ok g ∧ a = ⟨.handle g e, reply⟩ := by
  induction called with
  | finished | uncalled => exact List.forall_mem_nil _
  | stopped called =>
    exact List.forall_mem_singleton.mpr ⟨_, List.mem_cons_self, _, _, called, rfl⟩
  | next called _ ih =>
    refine List.forall_mem_cons.mpr ⟨⟨_, List.mem_cons_self, _, _, called, rfl⟩, fun a member => ?_⟩
    obtain ⟨h, registered, call⟩ := ih a member
    exact ⟨h, List.mem_cons_of_mem _ registered, call⟩

theorem Emitted.handles (emitted : Emitted callee r e asked result) :
    ∀ a ∈ asked, ∃ h ∈ r.handlers e.eventType, ∃ g reply, callee h = .ok g ∧
      a = ⟨.handle g e, reply⟩ := by
  cases emitted with
  | unhandled => exact List.forall_mem_nil _
  | handled _ called => exact called.handles

end WithoutRetries

/-! ### Dispatching within the process -/

section Emit

variable {ω σ : Type} {part : Lens ω σ} {w w' : ω} {e : Envelope} {asked : List (Answer requests)}
  {other : ω → ω → Prop}

theorem called_of_runs {hs : List Handler} {result : Except Error Unit}
    (h : (hs.forM fun h => ask (.handle h e) : Act σ Unit).Runs (.direct requests other) part w
      asked result w') : Called .ok e hs asked result := by
  induction hs generalizing w asked with
  | nil =>
    obtain ⟨rfl, rfl, rfl⟩ := Program.runs_done.mp h
    exact .finished
  | cons handler hs ih =>
    rw [List.forM_eq_forM, List.forM_cons, Program.runs_seq] at h
    obtain ⟨error, failed, rfl⟩ | ⟨_, w₁, asked₁, asked₂, rfl, succeeded, h⟩ := h
    · obtain ⟨rfl, -⟩ := Program.runs_perform.mp failed
      exact .stopped rfl
    · obtain ⟨rfl, -⟩ := Program.runs_perform.mp succeeded
      exact .next rfl (ih h)

/-- An event is dispatched within the process with the registry as it is at the beginning, and each
handler is called itself. -/
theorem emitted_of_runs {registry : σ → Registry} {result : Except Error Unit}
    (h : (Publisher.emitLocal registry e).Runs (.direct requests other) part w asked result w') :
    Emitted .ok (registry (part.get w)) e asked result := by
  have dispatched {asked result} {w' : ω} (h : (Registry.dispatch registry e fun h =>
      ask (.handle h e)).Runs (.direct requests other) part w asked result w') :
      Emitted .ok (registry (part.get w)) e asked (result.map fun _ => ()) := by
    obtain ⟨none, rfl, unhandled, -⟩ | ⟨some, all⟩ := Registry.runs_dispatch h
    · rw [unhandled]
      exact .unhandled none
    · exact .handled some (called_of_runs all)
  rw [Publisher.emitLocal, Program.runs_log_seq, Program.runs_seq] at h
  simp only [Program.runs_pure] at h
  obtain ⟨error, failed, rfl⟩ | ⟨_, _, asked₁, _, rfl, succeeded, rfl, rfl, rfl⟩ := h
  · exact dispatched failed
  · rw [List.append_nil]
    exact dispatched succeeded

end Emit

/-! ### What handlers do -/

/-- What a handler does when it is called with an envelope, by what has been asked for before. -/
def Behaviour : Type :=
  List (Answer requests) → Handler → Envelope → Except Error Unit

/-- The handlers that are asked have done what a behaviour says. -/
def Follows (act : Behaviour) : List (Answer requests) → List (Answer requests) → Prop
  | _, [] => True
  | past, a :: rest =>
    (∀ h e reply, a = ⟨.handle h e, reply⟩ → reply = act past h e) ∧ Follows act (past ++ [a]) rest

section Follows

variable {callee : Handler → Except Error Handler} {act : Behaviour}
  {past asked asked' : List (Answer requests)} {e : Envelope}
  {r : Registry} {result result' : Except Error Unit}

theorem Follows.of_append {rest : List (Answer requests)}
    (follows : Follows act past (asked ++ rest)) : Follows act past asked := by
  induction asked generalizing past with
  | nil => trivial
  | cons a asked ih => exact ⟨follows.1, ih follows.2⟩

/-- What the handlers of a list do decides what they are asked for and how this ends. Another callee
makes no difference if it is the handler itself for those that are called. -/
theorem Called.unique {hs : List Handler} (called : Called .ok e hs asked result)
    (called' : Called callee e hs asked' result') (follows : Follows act past asked)
    (follows' : Follows act past asked')
    (own : ∀ h reply, ⟨.handle h e, reply⟩ ∈ asked → callee h = .ok h) :
    asked' = asked ∧ result' = result := by
  induction called generalizing past asked' with
  | finished =>
    cases called'
    exact ⟨rfl, rfl⟩
  | uncalled none => cases none
  | stopped itself =>
    cases itself
    have itself := own _ _ (List.mem_singleton_self _)
    have reply := follows.1 _ _ _ rfl
    cases called' with
    | uncalled none => exact nomatch itself.symm.trans none
    | stopped called =>
      cases itself.symm.trans called
      have same := (follows'.1 _ _ _ rfl).trans reply.symm
      exact ⟨by rw [same], same⟩
    | next called =>
      cases itself.symm.trans called
      exact nomatch reply.trans (follows'.1 _ _ _ rfl).symm
  | next itself rest ih =>
    cases itself
    have itself := own _ _ List.mem_cons_self
    have reply := follows.1 _ _ _ rfl
    cases called' with
    | uncalled none => exact nomatch itself.symm.trans none
    | stopped called =>
      cases itself.symm.trans called
      exact nomatch reply.trans (follows'.1 _ _ _ rfl).symm
    | next called rest' =>
      cases itself.symm.trans called
      obtain ⟨rfl, same⟩ := ih rest' follows.2 follows'.2 fun h reply member =>
        own h reply (List.mem_cons_of_mem _ member)
      exact ⟨rfl, same⟩

/-- What the handlers do decides what an event asks for and how its dispatch ends. -/
theorem Emitted.unique (emitted : Emitted .ok r e asked result)
    (emitted' : Emitted callee r e asked' result') (follows : Follows act past asked)
    (follows' : Follows act past asked')
    (own : ∀ h reply, ⟨.handle h e, reply⟩ ∈ asked → callee h = .ok h) :
    asked' = asked ∧ result' = result := by
  cases emitted with
  | unhandled none =>
    cases emitted' with
    | unhandled => exact ⟨rfl, rfl⟩
    | handled some => exact absurd none some
  | handled some called =>
    cases emitted' with
    | unhandled none => exact absurd none some
    | handled _ called' => exact called.unique called' follows follows' own

end Follows

namespace Client

/-- Handlers that do what a behaviour says by what has been asked for since a course, whatever else
happens. -/
def Behaves (act : Behaviour) (env : Client.Surroundings) (w : Client.Course) : Prop :=
  ∀ (w' : Client.Course) asked h e, w'.answers = w.answers ++ asked →
    (env w' (.handle h e)).1 = act asked h e

/-- In a run of any program the handlers do what the behaviour says. -/
theorem Behaves.follows {act : Behaviour} {env : Client.Surroundings} {w : Client.Course}
    (behaves : Behaves act env w) {α : Type} (p : Act Client α) {w' : Client.Course}
    {past : List (Answer requests)} (since : w'.answers = w.answers ++ past) : ∃ asked,
      (p.run env.host Course.statePart w').2.answers = w'.answers ++ asked ∧
        Follows act past asked := by
  induction p generalizing w' past with
  | done a | fail e => exact ⟨[], (List.append_nil _).symm, trivial⟩
  | read k ih => exact ih _ since
  | update c p ih => exact ih since
  | emit x p ih =>
    have noted : (w'.note x).answers = w.answers ++ past := by rw [Course.answers_note, since]
    obtain ⟨asked, eq, follows⟩ := ih noted
    rw [Course.answers_note] at eq
    exact ⟨asked, eq, follows⟩
  | call q k ih =>
    have goes : (w'.answer q (env w' q).1 (env w' q).2).answers =
        w.answers ++ (past ++ [⟨q, (env w' q).1⟩]) := by
      rw [Course.answers_answer, since, List.append_assoc]
    obtain ⟨asked, eq, follows⟩ := ih (env w' q).1 goes
    rw [Course.answers_answer, List.append_assoc] at eq
    refine ⟨⟨q, (env w' q).1⟩ :: asked, eq, ?_, follows⟩
    intro h e reply handled
    cases handled
    exact behaves w' past h e since

/-- A run asks for answers of which the handlers' are what the behaviour says. -/
theorem Behaves.follows_of_answers {act : Behaviour} {env : Client.Surroundings}
    {w : Client.Course} (behaves : Behaves act env w) {α : Type} {p : Act Client α}
    {asked : List (Answer requests)}
    (answers : (p.run env.host Course.statePart w).2.answers = w.answers ++ asked) :
    Follows act [] asked := by
  obtain ⟨asked', answers', follows⟩ := behaves.follows p (List.append_nil _).symm
  obtain rfl := List.append_cancel_left (answers'.symm.trans answers)
  exact follows

/-- A dispatch within the process: what it asks for, by what the handlers do. -/
theorem Behaves.emitted {act : Behaviour} {env : Client.Surroundings} {w : Client.Course}
    (behaves : Behaves act env w) (r : Nat) (e : Envelope) : ∃ asked,
      ((Publisher.emitLocal (registry r) e).run env.host Course.statePart w).2.answers =
        w.answers ++ asked ∧
      Emitted .ok (w.state.registries r) e asked
        ((Publisher.emitLocal (registry r) e).run env.host Course.statePart w).1 ∧
      Follows act [] asked := by
  obtain ⟨asked, answers, -, runs⟩ := Program.runs_of_run Course.stateView (fun _ => ())
    (fun _ _ => rfl) (Publisher.emitLocal (registry r) e) w
  exact ⟨asked, answers, emitted_of_runs runs, behaves.follows_of_answers answers⟩

/-- A dispatch of a consumer without retries: what it asks for, by what the handlers do. -/
theorem Behaves.processed {act : Behaviour} {env : Client.Surroundings} {w : Client.Course}
    {i : Nat} {others : Handler → Prop} (behaves : Behaves act env w)
    (retains : Retains i others env) (r : Nat) (e : Envelope)
    (off : (w.state.consumers i).schedule.maxRetries = 0) : ∃ asked c,
      (w.state.consumers i).Later (Consumer.Newcomers others (w.state.registries r) e) c ∧
      Emitted c.callee (w.state.registries r) e asked
        ((Consumer.process (site i r) e).run env.host Course.statePart w).1 ∧
      Follows act [] asked := by
  obtain ⟨asked, answers, runs⟩ := retains.runs (Consumer.process (site i r) e) w
  obtain ⟨beside, processed⟩ := Consumer.processed_of_runs runs
  exact ⟨asked, _, beside.later, (processed _ (.refl _)).emitted off,
    behaves.follows_of_answers answers⟩

/-- An event goes both ways: in one course it is dispatched within the process, and in another one
its own message body is delivered to a consumer without retries. The event has been decoded from a
message body, and all its numbers are finite. The registries are the same, and what the handlers do
is the same. -/
structure BothWays (act : Behaviour) (env₁ env₂ : Client.Surroundings) (w₁ w₂ : Client.Course)
    (i r : Nat) (e : Envelope) (d : Delivery) : Prop where
  decoded : ∃ (fresh : Fresh) (body : ByteArray ⊕ String), fresh.eventId ≠ "" ∧
    Envelope.decode fresh body = .ok e
  data : Json.allFiniteMembers e.data
  metadata : Json.allFiniteMembers e.metadata
  sent : d.body = e.toBytes
  off : (w₂.state.consumers i).schedule.maxRetries = 0
  same : w₁.state.registries r = w₂.state.registries r
  behaves₁ : Behaves act env₁ w₁
  behaves₂ : Behaves act env₂ w₂

section BothWays

variable {act : Behaviour} {env₁ env₂ : Client.Surroundings} {w₁ w₂ : Client.Course} {i r : Nat}
  {others : Handler → Prop} {e : Envelope} {d : Delivery}

/-- What is delivered is the event itself. -/
theorem BothWays.ofBytes (ways : BothWays act env₁ env₂ w₁ w₂ i r e d) :
    Envelope.ofBytes d.fresh d.body = .ok e := by
  obtain ⟨fresh, body, named, decoded⟩ := ways.decoded
  have read := Envelope.ofBytes_toBytes (Envelope.writable_of_decode named decoded) d.fresh
  rwa [Envelope.finitePart_of_allFinite ways.data ways.metadata, ← ways.sent] at read

/-- An event that is decoded from a message body, with finite numbers only, asks within the process
and over the broker for calls of handlers with this event, one after another up to the first that
fails, and for nothing else. Within the process each handler is called itself, and in a delivery its
stand-in is. The delivery is acknowledged if its dispatch has returned, and refused if it has failed
with an ordinary error; only a cancellation leaves it unsettled.

If the handlers that are called within the process can be hashed and are equal to no other ones,
both ways come to the same: the same calls have the same outcomes, and the dispatch of the consumer
ends as the one within the process. -/
theorem emitted_as_received (ways : BothWays act env₁ env₂ w₁ w₂ i r e d)
    (retains : Retains i others env₂) :
    let emitted := (Publisher.emitLocal (registry r) e).run env₁.host Course.statePart w₁
    let before := w₂.state.consumers i
    let after := (received env₂ i r w₂ d).state.consumers i
    ∃ asked asked' result last n,
      emitted.2.answers = w₁.answers ++ asked ∧
      Emitted .ok (w₁.state.registries r) e asked emitted.1 ∧
      (received env₂ i r w₂ d).answers = w₂.answers ++ asked' ++ last ∧
      Emitted after.callee (w₂.state.registries r) e asked' result ∧
      (∀ a ∈ asked ++ asked', ∃ h reply, a = ⟨.handle h e, reply⟩) ∧
      Concluded d.messageId before.requeue (Fate.ofProcessing result) last n ∧
      counted i (received env₂ i r w₂ d) = counted i w₂ + { received := 1 } + n ∧
      ((∀ h reply, ⟨.handle h e, reply⟩ ∈ asked →
          before.Unrivalled others (w₂.state.registries r) e h) →
        asked' = asked ∧ result = emitted.1 ∧
          ((Consumer.process (site i r) e).run env₂.host Course.statePart w₂).1 = emitted.1) := by
  intro emitted before after
  obtain ⟨asked, answers, locally, follows⟩ := ways.behaves₁.emitted r e
  obtain ⟨asked', result, last, n, processed, concluded, answers', counts, later⟩ :=
    received_envelope (r := r) (w := w₂) retains ways.ofBytes
  have remotely : Emitted after.callee (w₂.state.registries r) e asked' result :=
    processed.emitted ways.off
  have follows' : Follows act [] (asked' ++ last) :=
    ways.behaves₂.follows_of_answers (answers'.trans (List.append_assoc ..))
  have calls {callee : Handler → Except Error Handler} {registry : Registry} {asked result}
      (emitted : Emitted callee registry e asked result) (a : Answer requests)
      (member : a ∈ asked) :
      ∃ h reply, a = ⟨.handle h e, reply⟩ := by
    obtain ⟨_, _, g, reply, _, eq⟩ := emitted.handles a member
    exact ⟨g, reply, eq⟩
  refine ⟨asked, asked', result, last, n, answers, locally, answers', remotely,
    List.forall_mem_append.mpr ⟨calls locally, calls remotely⟩, concluded, counts,
    fun unrivalled => ?_⟩
  have own {c : Consumer}
      (later : before.Later (Consumer.Newcomers others (w₂.state.registries r) e) c) (h : Handler)
      (reply : Except Error Unit) (called : ⟨.handle h e, reply⟩ ∈ asked) : c.callee h = .ok h :=
    (unrivalled h reply called).callee_eq later
  have locally' : Emitted .ok (w₂.state.registries r) e asked emitted.1 := ways.same ▸ locally
  obtain ⟨asked'', c, later', dispatched, follows''⟩ :=
    ways.behaves₂.processed retains r e ways.off
  obtain ⟨rfl, rfl⟩ := locally'.unique remotely follows follows'.of_append (own later)
  exact ⟨rfl, rfl, (locally'.unique dispatched follows follows'' (own later')).2⟩

end BothWays

/-- A consumer of orders that does not try again, with nothing behind it. -/
def prompt : Client.Course where
  state := { waiting.state with
    consumers := fun _ => .create { queueName := "orders" } { maxRetries := 0 } }

/-- An event with nothing but its type and its identifier. -/
def bare (type : String) : Envelope :=
  ⟨"e1", type, default, none, [], []⟩

/-- The delivery of a bare event. -/
def bareDelivery (type : String) : Delivery :=
  ⟨⟨"e2", default⟩, (bare type).toBytes, some "m1"⟩

/-- A bare event goes both ways between a course and itself. -/
theorem bothWays_bare {act : Behaviour} {env : Client.Surroundings} {w : Client.Course}
    {type : String} (named : type ≠ "") (off : (w.state.consumers 0).schedule.maxRetries = 0)
    (behaves : Behaves act env w) :
    BothWays act env env w w 0 0 (bare type) (bareDelivery type) where
  decoded := by
    have writable : Envelope.Writable (bare type) :=
      ⟨by simp [bare], named, nofun, .emptyObj, .emptyObj⟩
    refine ⟨⟨"e2", default⟩, .inl (bare type).toBytes, by decide, ?_⟩
    rw [Envelope.decode, Sum.elim_inl, Envelope.ofBytes_toBytes writable,
      Envelope.finitePart_of_allFinite rfl rfl]
  data := rfl
  metadata := rfl
  sent := by rw [bareDelivery]
  off := off
  same := rfl
  behaves₁ := behaves
  behaves₂ := behaves

theorem emitted_as_received_failing :
    let e := bare "order.placed"
    let emitted :=
      (Publisher.emitLocal (registry 0) e).run failingHandlers.host Course.statePart prompt
    let received := received failingHandlers 0 0 prompt (bareDelivery "order.placed")
    BothWays (fun _ _ _ => .error (.fault .runtime "boom")) failingHandlers failingHandlers prompt
        prompt 0 0 e (bareDelivery "order.placed") ∧
      Retains 0 (fun _ => False) failingHandlers ∧
      ∃ asked last n,
        emitted.2.answers = prompt.answers ++ asked ∧
        received.answers = prompt.answers ++ asked ++ last ∧
        ((Consumer.process (site 0 0) e).run failingHandlers.host Course.statePart prompt).1 =
          emitted.1 ∧
        Concluded (some "m1") false (Fate.ofProcessing emitted.1) last n ∧
        counted 0 received = counted 0 prompt + { received := 1 } + n := by
  intro e emitted received
  have ways : BothWays (fun _ _ _ => .error (.fault .runtime "boom")) failingHandlers
      failingHandlers prompt prompt 0 0 e (bareDelivery "order.placed") :=
    bothWays_bare (by decide) rfl fun _ _ _ _ _ => rfl
  have retains : Retains 0 (fun _ => False) failingHandlers := retains_of_still (fun _ _ => rfl) _ _
  obtain ⟨asked, asked', result, last, n, answers, locally, answers', -, -, concluded, counts,
    same⟩ := emitted_as_received ways retains
  -- the one handler of orders is the only one there is
  have unrivalled (h : Handler) (reply : Except Error Unit)
      (called : ⟨.handle h e, reply⟩ ∈ asked) :
      (prompt.state.consumers 0).Unrivalled (fun _ => False) (prompt.state.registries 0) e h := by
    obtain ⟨g, registered, _, _, itself, eq⟩ := locally.handles _ called
    cases itself
    cases eq
    obtain rfl := List.mem_singleton.mp registered
    refine ⟨rfl, ?_⟩
    rintro g (kept | none | registered) -
    · cases kept
    · cases none
    · exact List.mem_singleton.mp registered
  obtain ⟨rfl, rfl, ended⟩ := same unrivalled
  exact ⟨ways, retains, asked', last, n, answers, answers', ended, concluded, counts⟩

/-- A handler of orders that cannot be hashed. -/
def packing : Handler :=
  { identity := "pack", unhashable := some "unhashable type: 'Packing'" }

/-- A consumer of orders whose handler cannot be hashed. -/
def packingPrompt : Client.Course where
  state := { prompt.state with
    registries := fun _ => { table := [("order.placed", [packing])] } }

/-- It is not true that a delivery is refused exactly if the dispatch within the process fails. An
order whose handler is cancelled is not settled at all, and one whose handler cannot be hashed is
refused although this handler succeeds within the process. Nor is it true that the same handlers are
called, if an equal one has been called before. -/
theorem emitted_unlike_received :
    (¬ ∀ (act : Behaviour) (env : Client.Surroundings) (w : Client.Course) (i r : Nat)
        (e : Envelope) (d : Delivery), BothWays act env env w w i r e d →
        Retains i (fun _ => False) env →
        (∀ h ∈ (w.state.registries r).handlers e.eventType, h.unhashable = none) →
        ((∃ error, ((Publisher.emitLocal (registry r) e).run env.host Course.statePart w).1 =
            .error error) ↔
          (d.messageId, .nack (w.state.consumers i).requeue) ∈
            settlements (received env i r w d))) ∧
      (¬ ∀ (act : Behaviour) (env : Client.Surroundings) (w : Client.Course) (i r : Nat)
        (e : Envelope) (d : Delivery), BothWays act env env w w i r e d →
        Retains i (fun _ => False) env → (∀ past h e, act past h e = .ok ()) →
        ((∃ error, ((Publisher.emitLocal (registry r) e).run env.host Course.statePart w).1 =
            .error error) ↔
          (d.messageId, .nack (w.state.consumers i).requeue) ∈
            settlements (received env i r w d))) ∧
      ¬ ∀ (act : Behaviour) (env : Client.Surroundings) (w : Client.Course) (i r : Nat)
        (e : Envelope) (d : Delivery), BothWays act env env w w i r e d →
        Retains i (fun _ => False) env → (∀ past h e, act past h e = .ok ()) →
        (∀ h ∈ (w.state.registries r).handlers e.eventType, h.unhashable = none) →
        calledObjects
            ((Publisher.emitLocal (registry r) e).run env.host Course.statePart w).2.answers =
          calledObjects (received env i r w d).answers := by
  refine ⟨fun agree => ?_, fun agree => ?_, fun agree => ?_⟩
  · have ways : BothWays (fun _ _ _ => .error (.fault .cancelled "stop")) cancelledHandlers
        cancelledHandlers prompt prompt 0 0 (bare "order.placed") (bareDelivery "order.placed") :=
      bothWays_bare (by decide) rfl fun _ _ _ _ _ => rfl
    have unsettled : settlements (received cancelledHandlers 0 0 prompt
        (bareDelivery "order.placed")) = [] := by decide +kernel
    have refused := (agree _ _ _ _ _ _ _ ways (retains_of_still (fun _ _ => rfl) _ _)
      (by decide)).mp ⟨.fault .cancelled "stop", rfl⟩
    rw [unsettled] at refused
    cases refused
  · have ways : BothWays (fun _ _ _ => .ok ()) granting granting packingPrompt packingPrompt 0 0
        (bare "order.placed") (bareDelivery "order.placed") :=
      bothWays_bare (by decide) rfl fun _ _ _ _ _ => rfl
    have refused : (some "m1", .nack false) ∈ settlements (received granting 0 0 packingPrompt
        (bareDelivery "order.placed")) := by decide +kernel
    obtain ⟨error, failed⟩ := (agree _ _ _ _ _ _ _ ways (retains_of_still (fun _ _ => rfl) _ _)
      fun _ _ _ => rfl).mpr refused
    have returned : ((Publisher.emitLocal (registry 0) (bare "order.placed")).run granting.host
        Course.statePart packingPrompt).1 = .ok () := rfl
    cases returned.symm.trans failed
  · have calls : calledObjects ((Publisher.emitLocal (registry 0) (bare "order.paid")).run
        granting.host Course.statePart (received granting 0 0 invoicing created)).2.answers =
          ["bill", "collect"] := by decide +kernel
    have calls' : calledObjects (received granting 0 0 (received granting 0 0 invoicing created)
        (bareDelivery "order.paid")).answers = ["bill", "bill"] := by decide +kernel
    have off : ((received granting 0 0 invoicing created).state.consumers 0).schedule.maxRetries =
        0 := by decide +kernel
    have row : ((received granting 0 0 invoicing created).state.registries 0).handlers
        "order.paid" = [collecting] := by decide +kernel
    generalize received granting 0 0 invoicing created = before at calls calls' off row
    have ways : BothWays (fun _ _ _ => .ok ()) granting granting before before 0 0
        (bare "order.paid") (bareDelivery "order.paid") :=
      bothWays_bare (by decide) off fun _ _ _ _ _ => rfl
    have same := agree _ _ _ _ _ _ _ ways (retains_of_still (fun _ _ => rfl) _ _)
      (fun _ _ _ => rfl) (row ▸ by decide)
    rw [calls, calls'] at same
    simp at same

end Client

end BrokerClient
