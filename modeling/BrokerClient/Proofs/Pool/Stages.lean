import BrokerClient.Channel.Pool
import BrokerClient.Proofs.Running

/-!
# The stages of a pool's calls

A call of the pool runs in one go up to the first request that it has to wait for. What is left of
it then is the program of a `Stage`, and a reply makes it run on to the next stage or to its end.
There is one lemma for the beginning of each call and one for each reply that fits a stage; what
happens between two awaits is known from these, and `Begun` and `Answered` list it.

## Main definitions

* `Call`, `Call.program` — the calls of a pool.
* `Stage`, `Stage.program` — what a call may wait for, and what is left of it.
* `Reply.turn` — what a reply makes of a waiting call.
* `Begun`, `Answered` — all that calls do in one go.

## Main results

* `advance_acquire_of_free`, `advance_acquire_of_none`, `advance_fill`, `advance_release`,
  `advance_close` — how calls begin.
* `advance_opened`, `turn_failed_openFor`, `turn_closed_discarding`, `turn_closed_closing` — how
  they go on.
* `begun_advance`, `answered_of_turn` — the lists are complete.
-/

namespace BrokerClient.Channel.Pool

open Broker (ChannelId)

/-- A call of the pool. -/
inductive Call
  | acquire
  | fill
  | close
  | release (channel : ChannelId)
  deriving DecidableEq, Repr

/-- The program of a call, which gives the channel that is lent, if one is. -/
def Call.program : Call → Act (Option ChannelId)
  | .acquire => do return some (← Pool.acquire)
  | .fill => do
    Pool.fill
    return none
  | .close => do
    Pool.close
    return none
  | .release c => do
    Pool.release c
    return none

/-- Closing no channels takes no time. -/
def pass : (r : Request) → Option r.Reply
  | .closeChannels [] => some ()
  | _ => none

/-- Opens a channel and goes on filling. -/
def fillNext (generation rounds : Nat) : Act Unit := do
  let _ ← openFor generation "fill the publisher pool" add
  let p ← Program.state
  .log .debug .pool s!"Publisher channel #{p.channels.length} created" []
  fillFrom generation rounds

/-- Waits for channels to be closed and forgets all. -/
def closeAll (channels : List ChannelId) : Act Unit := do
  Program.ensuring (ask (.closeChannels channels)) (.modify endClose)
  .modify forget
  .log .info .pool "All publisher channels closed" []

/-- What a call may wait for. -/
inductive Stage
  /-- A channel to lend at once. -/
  | growing (generation : Nat)
  /-- A channel for the pool, with so many more rounds to come. -/
  | filling (generation rounds : Nat)
  /-- The close of a channel that came too late. -/
  | discarding (operation : String) (channel : ChannelId)
  /-- The closes of all channels. -/
  | closing (channels : List ChannelId)

/-- The program that is left of a call. -/
def Stage.program : Stage → Act (Option ChannelId)
  | .growing g => do
    return some (← openFor g "acquire a publisher channel" fun c p => (p.add c).lend c)
  | .filling g rounds => do
    fillNext g rounds
    return none
  | .discarding operation c => do
    let _ ← closeQuietly (ask (.closeChannel c)) "publisher"
    .fail (.notConnected operation)
  | .closing cs => do
    closeAll cs
    return none

/-! ### Beginning a call -/

/-- A free channel is not lent. -/
theorem not_lent_of_free {p : Pool} {c : ChannelId} (h : p.free? = some c) : c ∉ p.inUse := by
  simpa using List.find?_some h

/-- There is no free channel where all are lent. -/
theorem free?_eq_none_iff {p : Pool} : p.free? = none ↔ p.channels ⊆ p.inUse := by
  simp [free?, List.subset_def]

theorem advance_acquire_of_free {p : Pool} {c : ChannelId} (h : p.free? = some c) :
    Call.acquire.program.advance pass p = (.done (some c), p.lend c) := by
  simp only [Call.program, Pool.acquire, bind_assoc, Program.advance_state_seq, h,
    Program.advance_modify_seq, Program.advance_log_seq, pure_bind]
  rfl

theorem advance_acquire_of_none {p : Pool} (h : p.free? = none) :
    Call.acquire.program.advance pass p = ((Stage.growing p.generation).program, p) := by
  simp only [Call.program, Pool.acquire, bind_assoc, Program.advance_state_seq, h,
    Program.advance_log_seq]
  rfl

/-- Filling goes on while there are rounds left and the pool is too small. -/
theorem advance_fillFrom (g rounds : Nat) (p : Pool) :
    (do fillFrom g rounds; return none : Act (Option ChannelId)).advance pass p =
      match rounds with
      | 0 => (.done none, p)
      | rounds + 1 => if p.channels.length < p.size then ((Stage.filling g rounds).program, p)
        else (.done none, p) := by
  cases rounds with
  | zero => rfl
  | succ rounds =>
    simp only [fillFrom, bind_assoc, Program.advance_state_seq]
    by_cases small : p.channels.length < p.size
    · simp only [if_pos small]
      rfl
    · simp only [if_neg small]
      rfl

theorem advance_fill (p : Pool) :
    Call.fill.program.advance pass p =
      (do fillFrom p.generation ((p.closing + 1) * p.size); return none :
        Act (Option ChannelId)).advance pass p := by
  simp only [Call.program, Pool.fill, bind_assoc, Program.advance_state_seq,
    Program.advance_log_seq]

theorem takeBack_of_not_mem {p : Pool} {c : ChannelId} (h : c ∉ p.inUse) : p.takeBack c = p := by
  rw [takeBack, List.erase_of_not_mem h]

theorem advance_release (c : ChannelId) (p : Pool) :
    (Call.release c).program.advance pass p = (.done none, p.takeBack c) := by
  simp only [Call.program, Pool.release, bind_assoc, Program.advance_state_seq,
    List.contains_iff_mem]
  by_cases lent : c ∈ p.inUse
  · simp only [if_pos lent]
    rfl
  · simp only [if_neg lent, takeBack_of_not_mem lent]
    rfl

/-- Without channels a close is over at once. -/
theorem advance_close (p : Pool) :
    Call.close.program.advance pass p =
      if p.channels = [] then (.done none, p.beginClose.endClose.forget)
      else ((Stage.closing p.channels).program, p.beginClose) := by
  have begun : Call.close.program.advance pass p =
      (Stage.closing p.channels).program.advance pass p.beginClose := by
    simp only [Call.program, Stage.program, Pool.close, closeAll, bind_assoc,
      Program.advance_state_seq, Program.advance_modify_seq, Program.advance_log_seq]
  rw [begun]
  generalize p.channels = cs
  cases cs <;> rfl

/-! ### Going on with a reply -/

/-- What a call may be replied with. -/
inductive Reply
  | opened (channel : ChannelId)
  | closed
  | failed (error : Error)

/-- The reply to a request, if it fits. Waiting for several closes never fails, as each of them
fails quietly. -/
def Reply.to : Reply → (r : Request) → Option (Except Error r.Reply)
  | .opened c, .openChannel => some (.ok c)
  | .closed, .closeChannel _ => some (.ok ())
  | .closed, .closeChannels _ => some (.ok ())
  | .failed e, .openChannel => some (.error e)
  | .failed e, .closeChannel _ => some (.error e)
  | _, _ => none

/-- What a reply makes of a call that waits for it, and of the pool. -/
def Reply.turn (reply : Reply) (p : Pool) :
    Act (Option ChannelId) → Option (Act (Option ChannelId) × Pool)
  | .call r k => (reply.to r).map fun answer => (k answer).advance pass p
  | _ => none

/-- The error of a call that has failed to open a channel. -/
def openFailure (e : Error) : Error :=
  if e.isOrdinary then .channelCreation "publisher" e.message none (some e) else e

/-- The error of a call whose channel has come too late, by how closing it has failed. -/
def lateFailure (operation : String) (e : Error) : Error :=
  if e.isOrdinary then .notConnected operation else e

/-- A channel that has come in time joins the pool, one that has come too late is closed. -/
theorem advance_opened (c : ChannelId) (g : Nat) (operation : String)
    (join : ChannelId → Pool → Pool) (f : ChannelId → Act (Option ChannelId)) (p : Pool) :
    (Reply.opened c).turn p (openFor g operation join >>= f) =
      some (if p.generation = g then (f c).advance pass (join c p)
        else ((Stage.discarding operation c).program, p)) := by
  change some (Program.advance (S := requests) pass
    (Program.bind (if p.generation == g then _ else _) f) p) = _
  by_cases same : p.generation = g
  · simp only [beq_iff_eq, if_pos same]
    rfl
  · have stale : (do discardStale c; .fail (.notConnected operation) : Act ChannelId) >>= f =
        (do discardStale c; .fail (.notConnected operation) : Act (Option ChannelId)) := by
      rw [bind_assoc]
      rfl
    simp only [beq_iff_eq, if_neg same]
    change some (Program.advance (S := requests) pass
      ((do discardStale c; .fail (.notConnected operation) : Act ChannelId) >>= f) p) = _
    rw [stale, discardStale]
    simp only [bind_assoc, Program.advance_state_seq, Program.advance_log_seq]
    rfl

/-- A channel that could not be opened ends the call. -/
theorem turn_failed_openFor (e : Error) (g : Nat) (operation : String)
    (join : ChannelId → Pool → Pool) (f : ChannelId → Act (Option ChannelId)) (p : Pool) :
    (Reply.failed e).turn p (openFor g operation join >>= f) = some (.fail (openFailure e), p) := by
  change some (Program.advance (S := requests) pass (Program.bind (Program.bind
    (Program.bind (.done (Except.error e)) _) _) f) p) = _
  simp only [Program.done_bind, openFailure]
  cases e.isOrdinary <;> rfl

theorem turn_closed_discarding (operation : String) (c : ChannelId) (p : Pool) :
    Reply.closed.turn p (Stage.discarding operation c).program =
      some (.fail (.notConnected operation), p) :=
  rfl

theorem turn_failed_discarding (e : Error) (operation : String) (c : ChannelId) (p : Pool) :
    (Reply.failed e).turn p (Stage.discarding operation c).program =
      some (.fail (lateFailure operation e), p) := by
  change some (Program.advance (S := requests) pass (Program.bind (Program.bind
    (.done (Except.error e)) _) _) p) = _
  simp only [Program.done_bind, lateFailure]
  cases e.isOrdinary <;> rfl

theorem turn_closed_closing (cs : List ChannelId) (p : Pool) :
    Reply.closed.turn p (Stage.closing cs).program = some (.done none, p.endClose.forget) :=
  rfl

/-! ### What becomes of a call -/

/-- What is left of a filling with so many rounds to come. -/
inductive Filling (p : Pool) : Nat → Act (Option ChannelId) → Prop
  | done {rounds} (finished : rounds = 0 ∨ p.size ≤ p.channels.length) :
    Filling p rounds (.done none)
  | more {rounds} (small : p.channels.length < p.size) :
    Filling p (rounds + 1) (Stage.filling p.generation rounds).program

/-- What a call does up to its first request. -/
inductive Begun (p : Pool) : Call → Act (Option ChannelId) × Pool → Prop
  | lent {c} (free : p.free? = some c) : Begun p .acquire (.done (some c), p.lend c)
  | growing (lent : p.free? = none) : Begun p .acquire ((Stage.growing p.generation).program, p)
  | filling {q} (left : Filling p ((p.closing + 1) * p.size) q) : Begun p .fill (q, p)
  | closed (empty : p.channels = []) : Begun p .close (.done none, p.beginClose.endClose.forget)
  | closing (nonempty : p.channels ≠ []) :
    Begun p .close ((Stage.closing p.channels).program, p.beginClose)
  | released {c} : Begun p (.release c) (.done none, p.takeBack c)

/-- A call waits at a stage for a channel, for the pool of a generation. -/
inductive Stage.Opens (generation : Nat) : Call → Stage → Prop
  | growing : Opens generation .acquire (.growing generation)
  | filling {rounds} : Opens generation .fill (.filling generation rounds)

/-- What a call was about when its channel has come too late. -/
def Call.operation : Call → String
  | .fill => "fill the publisher pool"
  | _ => "acquire a publisher channel"

/-- What a reply makes of a call that waits at a stage. -/
inductive Answered (p : Pool) : Stage → Reply → Act (Option ChannelId) × Pool → Prop
  | lent {c} : Answered p (.growing p.generation) (.opened c) (.done (some c), (p.add c).lend c)
  | filled {rounds c q} (left : Filling (p.add c) rounds q) :
    Answered p (.filling p.generation rounds) (.opened c) (q, p.add c)
  | late {st generation call c} (opens : st.Opens generation call)
    (later : p.generation ≠ generation) :
    Answered p st (.opened c) ((Stage.discarding call.operation c).program, p)
  | unopened {st generation call e} (opens : st.Opens generation call) :
    Answered p st (.failed e) (.fail (openFailure e), p)
  | discarded {operation c} :
    Answered p (.discarding operation c) .closed (.fail (.notConnected operation), p)
  | undiscarded {operation c e} :
    Answered p (.discarding operation c) (.failed e) (.fail (lateFailure operation e), p)
  | closed {cs} : Answered p (.closing cs) .closed (.done none, p.endClose.forget)

/-- Filling goes on or is over. -/
theorem filling_fillFrom (rounds : Nat) (p : Pool) :
    ∃ q, Filling p rounds q ∧
      (do fillFrom p.generation rounds; return none : Act (Option ChannelId)).advance pass p =
        (q, p) := by
  rw [advance_fillFrom]
  cases rounds with
  | zero => exact ⟨_, .done (.inl rfl), rfl⟩
  | succ rounds =>
    by_cases small : p.channels.length < p.size
    · exact ⟨_, .more small, if_pos small⟩
    · exact ⟨_, .done (.inr (Nat.le_of_not_lt small)), if_neg small⟩

theorem begun_advance (call : Call) (p : Pool) :
    Begun p call (call.program.advance pass p) := by
  cases call with
  | acquire =>
    cases free : p.free? with
    | some c =>
      rw [advance_acquire_of_free free]
      exact .lent free
    | none =>
      rw [advance_acquire_of_none free]
      exact .growing free
  | fill =>
    obtain ⟨q, left, eq⟩ := filling_fillFrom ((p.closing + 1) * p.size) p
    rw [advance_fill, eq]
    exact .filling left
  | close =>
    rw [advance_close]
    split
    · exact .closed ‹_›
    · exact .closing ‹_›
  | release c =>
    rw [advance_release]
    exact .released

theorem answered_of_turn {st : Stage} {reply : Reply} {p : Pool}
    {r : Act (Option ChannelId) × Pool} (h : reply.turn p st.program = some r) :
    Answered p st reply r := by
  cases st with
  | growing g =>
    cases reply with
    | opened c =>
      rw [Stage.program, advance_opened] at h
      by_cases same : p.generation = g
      · subst same
        simp only [if_true, Option.some.injEq] at h
        exact h ▸ .lent
      · simp only [if_neg same, Option.some.injEq] at h
        exact h ▸ .late .growing same
    | failed e =>
      rw [Stage.program, turn_failed_openFor, Option.some.injEq] at h
      exact h ▸ .unopened .growing
    | closed => cases h
  | filling g rounds =>
    simp only [Stage.program, fillNext, bind_assoc] at h
    cases reply with
    | opened c =>
      rw [advance_opened] at h
      by_cases same : p.generation = g
      · subst same
        simp only [if_true, Option.some.injEq, Program.advance_state_seq,
          Program.advance_log_seq] at h
        obtain ⟨q, left, eq⟩ := filling_fillFrom rounds (p.add c)
        rw [← h]
        exact eq ▸ .filled left
      · simp only [if_neg same, Option.some.injEq] at h
        exact h ▸ .late .filling same
    | failed e =>
      rw [turn_failed_openFor, Option.some.injEq] at h
      exact h ▸ .unopened .filling
    | closed => cases h
  | discarding operation c =>
    cases reply with
    | opened c => cases h
    | failed e =>
      rw [turn_failed_discarding, Option.some.injEq] at h
      exact h ▸ .undiscarded
    | closed =>
      rw [turn_closed_discarding, Option.some.injEq] at h
      exact h ▸ .discarded
  | closing cs =>
    cases reply with
    | opened c => cases h
    | failed e => cases h
    | closed =>
      rw [turn_closed_closing, Option.some.injEq] at h
      exact h ▸ .closed

end BrokerClient.Channel.Pool
