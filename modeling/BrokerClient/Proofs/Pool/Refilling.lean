import BrokerClient.Proofs.Pool.Opening

/-!
# What comes of a filling

If nobody interferes, what comes of a filling depends on nothing but what comes of the channels that
it opens. A filling that can open all the channels that the pool lacks adds them in order and asks
for nothing else, so that another filling has nothing to do. A filling that fails has added the
channels opened before the failure, and another one that succeeds opens the rest.

A failure to open a channel is told as the cause of the failure to fill the pool, unless it is a
cancellation, which is passed on as it is.

## Main definitions

* `outcomes` — surroundings that leave a pool alone and open channels with given outcomes.
* `filled` — what comes of a filling in these.
* `Yields` — the first channels that are opened.

## Main results

* `filled_cases` — a filling succeeds, or fails at the first channel that cannot be opened.
* `filled_as_opened` — how it ends, which channels are added, and what is left for another filling.
-/

namespace BrokerClient.Channel.Pool

open Broker (ChannelId)

/-- What is replied to the request with a number, if channels are opened with these outcomes. -/
def replyTo (outcome : Nat → Except Error ChannelId) (n : Nat) :
    (r : Request) → Except Error r.Reply
  | .openChannel => outcome n
  | .closeChannel _ | .closeChannels _ => .ok ()

/-- Surroundings that leave the pool alone and open channels with these outcomes. -/
def outcomes (outcome : Nat → Except Error ChannelId) : Surroundings requests Pool :=
  fun w r => (replyTo outcome w.answers.length r, w.state)

/-- How a filling ends, and its course, if nobody interferes and channels are opened with these
outcomes. -/
def filled (outcome : Nat → Except Error ChannelId) (p : Pool) :
    Except Error Unit × Course requests Pool :=
  fill.run (outcomes outcome).host Course.statePart { state := p }

/-- The first channels that are opened are these. -/
def Yields (outcome : Nat → Except Error ChannelId) (cs : List ChannelId) : Prop :=
  ∀ i (h : i < cs.length), outcome i = .ok cs[i]

variable {outcome : Nat → Except Error ChannelId} {cs cs' : List ChannelId} {e e' : Error}

/-- An opening has one outcome. -/
theorem Yields.eq_of_length (h : Yields outcome cs) (h' : Yields outcome cs')
    (lengths : cs.length = cs'.length) : cs = cs' :=
  List.ext_getElem lengths fun i hi hi' => Except.ok.inj ((h i hi).symm.trans (h' i hi'))

/-- No channel is opened where opening one fails. -/
theorem Yields.length_le (h : Yields outcome cs) {n : Nat} (failed : outcome n = .error e) :
    cs.length ≤ n := by
  refine Nat.le_of_not_lt fun more => ?_
  have opened := h n more
  rw [failed] at opened
  cases opened

/-- There is one first failure. -/
theorem Yields.first_failure (h : Yields outcome cs) (failed : outcome cs.length = .error e)
    (h' : Yields outcome cs') (failed' : outcome cs'.length = .error e') : cs = cs' ∧ e = e' := by
  obtain rfl := h.eq_of_length h' (Nat.le_antisymm (h.length_le failed') (h'.length_le failed))
  exact ⟨rfl, Except.error.inj (failed.symm.trans failed')⟩

/-! ### The course of a filling -/

/-- The answer to an opening. -/
def opening (reply : Except Error ChannelId) : Answer requests :=
  ⟨.openChannel, reply⟩

/-- Requests were replied to by their numbers. -/
def Numbered (outcome : Nat → Except Error ChannelId) (w : Course requests Pool) : Prop :=
  ∀ i a, w.answers[i]? = some a → a.reply = replyTo outcome i a.request

theorem Numbered.run {α : Type} (q : Act α) {w : Course requests Pool} (h : Numbered outcome w) :
    Numbered outcome (q.run (outcomes outcome).host Course.statePart w).2 := by
  induction q generalizing w with
  | done a | fail e => exact h
  | read k ih => exact ih _ h
  | update c q ih => exact ih h
  | emit x q ih =>
    refine ih fun i a ha => h i a ?_
    rwa [← Course.answers_note w x]
  | call r k ih =>
    refine ih _ fun i a ha => ?_
    simp only [Surroundings.host, Course.answers_answer] at ha
    obtain before | after := Nat.lt_or_ge i w.answers.length
    · rw [List.getElem?_append_left before] at ha
      exact h i a ha
    · rw [List.getElem?_append_right after, List.getElem?_singleton] at ha
      obtain ⟨last, eq⟩ := Option.ite_none_right_eq_some.mp ha
      obtain rfl : i = w.answers.length := by omega
      cases eq
      rfl

/-- Where nobody interferes, an opening is asked for and leaves the pool as it is. -/
theorem opens_alone : Opens (.direct requests (Leaves id)) .whole (fun _ => True) opening where
  lawful := ⟨fun _ _ => rfl, fun _ _ _ => rfl, fun _ => rfl⟩
  opens _ served := served
  keeps _ _ := trivial

/-- A filling in surroundings that leave the pool alone. -/
theorem filled_of_undisturbed {env : Surroundings requests Pool}
    (undisturbed : ∀ w r, (env w r).2 = w.state) (w : Course requests Pool) :
    let ended := fill.run env.host Course.statePart w
    ∃ asked new, ended.2.answers = w.answers ++ asked ∧ ended.2.state = addAll new w.state ∧
      Filled opening (w.state.size - w.state.channels.length) asked new ended.1 := by
  obtain ⟨asked, answers, -, runs⟩ := Program.runs_of_run Course.stateView id
    (fun w r => undisturbed w r) fill w
  obtain ⟨new, opened, state⟩ := runs_fill opens_alone trivial runs
  exact ⟨asked, new, answers, state, opened⟩

/-- A filling succeeds, or fails at the first channel that cannot be opened. -/
theorem filled_cases (outcome : Nat → Except Error ChannelId) (p : Pool) :
    ∃ new, Yields outcome new ∧ (filled outcome p).2.state = addAll new p ∧
      ((new.length = p.size - p.channels.length ∧ (filled outcome p).1 = .ok () ∧
          (filled outcome p).2.answers = new.map (fun c => opening (.ok c))) ∨
        ∃ e, new.length < p.size - p.channels.length ∧ outcome new.length = .error e ∧
          (filled outcome p).1 = .error (openFailure e) ∧
          (filled outcome p).2.answers =
            new.map (fun c => opening (.ok c)) ++ [opening (.error e)]) := by
  obtain ⟨asked, new, answers, state, opened⟩ : ∃ asked new,
      (filled outcome p).2.answers = [] ++ asked ∧ (filled outcome p).2.state = addAll new p ∧
        Filled opening (p.size - p.channels.length) asked new (filled outcome p).1 :=
    filled_of_undisturbed (fun _ _ => rfl) { state := p }
  have numbered : Numbered outcome (filled outcome p).2 :=
    .run fill fun _ _ none => by cases none
  rw [List.nil_append] at answers
  -- the outcomes are read off the answers
  have yields (rest : List (Answer requests))
      (eq : asked = new.map (fun c => opening (.ok c)) ++ rest) : Yields outcome new := by
    intro i h
    refine (numbered i (opening (.ok new[i])) ?_).symm
    rw [answers, eq, List.getElem?_append_left (by simpa using h), List.getElem?_map,
      List.getElem?_eq_getElem h]
    rfl
  refine ⟨new, ?_, state, ?_⟩
  · obtain ⟨-, eq, -⟩ | ⟨e, -, eq, -⟩ := opened.cases
    · exact yields [] (by rw [eq, List.append_nil])
    · exact yields _ eq
  · rw [answers]
    obtain ⟨all, eq, result⟩ | ⟨e, fewer, eq, result⟩ := opened.cases
    · exact .inl ⟨all, result, eq⟩
    · refine .inr ⟨e, fewer, (numbered new.length (opening (.error e)) ?_).symm, result, eq⟩
      rw [answers, eq, List.getElem?_append_right (by simp), List.length_map, Nat.sub_self]
      rfl

/-! ### What is left for another filling -/

/-- A filling that succeeds opens as many channels as the pool still lacks. -/
theorem refilled_of_ok {p : Pool} (succeeded : (filled outcome (addAll cs p)).1 = .ok ()) :
    ∃ more, (filled outcome (addAll cs p)).2.state = addAll (cs ++ more) p ∧
      (filled outcome (addAll cs p)).2.state.channels.length =
        max p.size (p.channels.length + cs.length) := by
  obtain ⟨more, -, state, ⟨all, -⟩ | ⟨e, -, -, failed, -⟩⟩ := filled_cases outcome (addAll cs p)
  · refine ⟨more, ?_, ?_⟩
    · rw [state, addAll, addAll, addAll, List.append_assoc]
    · rw [state]
      simp only [addAll, List.length_append] at all ⊢
      omega
  · rw [succeeded] at failed
    cases failed

/-- A filling of a pool that has its size asks for nothing. -/
theorem filled_of_full {p : Pool} (full : p.size ≤ p.channels.length) :
    (filled outcome p).1 = .ok () ∧ (filled outcome p).2.state = p ∧
      (filled outcome p).2.answers = [] := by
  have none : p.size - p.channels.length = 0 := Nat.sub_eq_zero_of_le full
  obtain ⟨new, -, state, ⟨all, succeeded, asked⟩ | ⟨e, fewer, -⟩⟩ := filled_cases outcome p
  · obtain rfl := List.eq_nil_of_length_eq_zero (all.trans none)
    rw [addAll, List.append_nil] at state
    exact ⟨succeeded, state, asked⟩
  · omega

/-- A filling that nobody interferes with leaves the channels that the pool has in their places and
lends none. If all channels that the pool lacks can be opened, they are added in order, nothing else
is asked for, and another filling asks for nothing at all. Else the channels before the first
failure are added, the failure is told as the cause of the error unless it is a cancellation, and
another filling that succeeds brings the pool to its size. -/
theorem filled_as_opened (outcome : Nat → Except Error ChannelId) (p : Pool) :
    let lacking := p.size - p.channels.length
    let ended := filled outcome p
    (∃ new, ended.2.state = { p with channels := p.channels ++ new }) ∧
      (∀ new, new.length = lacking → Yields outcome new →
        ended.1 = .ok () ∧ ended.2.state = addAll new p ∧
          ended.2.answers = new.map (fun c => opening (.ok c)) ∧
          ∀ outcome', let again := filled outcome' ended.2.state
            again.1 = .ok () ∧ again.2.state = ended.2.state ∧ again.2.answers = []) ∧
      ∀ new e, new.length < lacking → Yields outcome new → outcome new.length = .error e →
        (e.isOrdinary → ended.1 = .error (.channelCreation "publisher" e.message none (some e))) ∧
          (e.isOrdinary = false → ended.1 = .error e) ∧ ended.2.state = addAll new p ∧
          ended.2.answers = new.map (fun c => opening (.ok c)) ++ [opening (.error e)] ∧
          ∀ outcome', let again := filled outcome' ended.2.state
            again.1 = .ok () → ∃ more, again.2.state = addAll (new ++ more) p ∧
              again.2.state.channels.length = max p.size p.channels.length := by
  intro lacking ended
  obtain ⟨added, yields, state, ending⟩ := filled_cases outcome p
  change ended.2.state = addAll added p at state
  refine ⟨⟨added, state⟩, fun new all yields' => ?_, fun new e fewer yields' failed => ?_⟩
  · obtain ⟨all', succeeded, asked⟩ | ⟨e, fewer, failed, -⟩ := ending
    · obtain rfl := yields.eq_of_length yields' (all'.trans all.symm)
      refine ⟨succeeded, state, asked, fun outcome' => ?_⟩
      have full : ended.2.state.size ≤ ended.2.state.channels.length := by
        rw [state, addAll, List.length_append]
        change p.size ≤ _
        omega
      exact filled_of_full full
    · have := yields'.length_le failed
      omega
  · obtain ⟨all', -⟩ | ⟨e', fewer', failed', error, asked⟩ := ending
    · have := yields.length_le failed
      omega
    · obtain ⟨rfl, rfl⟩ := yields.first_failure failed' yields' failed
      refine ⟨fun ordinary => ?_, fun passes => ?_, state, asked, fun outcome' succeeded => ?_⟩
      · rw [error, openFailure, if_pos ordinary]
      · rw [error, openFailure, passes]
        rfl
      · rw [state] at succeeded ⊢
        obtain ⟨more, refilled, length⟩ := refilled_of_ok succeeded
        exact ⟨more, refilled, by rw [length]; omega⟩

/-- The second channel cannot be opened. -/
def faltering : Nat → Except Error ChannelId
  | 1 => .error (.fault .connection "refused")
  | n => .ok ⟨n + 2⟩

/-- A pool of one lent channel lacks two: the first of them is added and stays when the second
fails, and a filling that succeeds then adds a third channel. -/
theorem filled_as_opened_faltering :
    let p : Pool := { size := 3, channels := [⟨1⟩], inUse := [⟨1⟩] }
    let refused : Error := .fault .connection "refused"
    let ended := filled faltering p
    Yields faltering [⟨2⟩] ∧ faltering 1 = .error refused ∧
      ended.1 = .error (.channelCreation "publisher" "refused" none (some refused)) ∧
      ended.2.state = { p with channels := [⟨1⟩, ⟨2⟩] } ∧
      ended.2.answers.length = 2 ∧
      (filled (fun n => .ok ⟨n + 3⟩) ended.2.state).2.state.channels.length = 3 := by
  intro p refused ended
  have yields : Yields faltering [⟨2⟩] := by
    intro i h
    obtain rfl : i = 0 := Nat.lt_one_iff.mp h
    rfl
  obtain ⟨-, -, failing⟩ := filled_as_opened faltering p
  obtain ⟨told, -, state, answers, again⟩ := failing [⟨2⟩] refused (by decide) yields rfl
  have h : (filled (fun n => .ok ⟨n + 3⟩) ended.2.state).1 = .ok () := by
    rw [state]
    rfl
  obtain ⟨more, -, length⟩ := again (fun n => .ok ⟨n + 3⟩) h
  refine ⟨yields, rfl, told rfl, state, ?_, ?_⟩
  · rw [answers]
    rfl
  · rw [length]
    rfl

/-- It is not true that the error of a filling always tells of a failure to open a channel: if the
opening is cancelled, the cancellation is passed on. -/
theorem filled_passes_cancellation :
    let stop : Error := .fault .cancelled "stop"
    let outcome : Nat → Except Error ChannelId := fun _ => .error stop
    let ended := filled outcome { size := 1 }
    Yields outcome [] ∧ outcome 0 = .error stop ∧ ended.1 = .error stop ∧
      ∀ reason cause, ended.1 ≠ .error (.channelCreation "publisher" reason none cause) := by
  intro stop outcome ended
  have passed : ended.1 = .error stop := rfl
  refine ⟨fun i h => absurd h (Nat.not_lt_zero i), rfl, passed, fun reason cause told => ?_⟩
  exact Error.noConfusion (Except.error.inj (passed.symm.trans told))

end BrokerClient.Channel.Pool
