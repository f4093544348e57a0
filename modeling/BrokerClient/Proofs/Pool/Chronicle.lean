import BrokerClient.Proofs.Pool.Scene
import Mathlib.Data.List.DropRight

/-!
# What the calls of a pool have seen

A chronicle is a scene in which the calls have numbers, with all that has happened to them: when
each of them has begun, has asked for a channel, has been replied to and has ended. It goes by the
moves of the scene and adds nothing to them.

A call that waits for a channel has taken down a generation of the pool. Since it has asked for the
channel, the pool has gone on from this generation by as many as closes have begun; that is why the
generation tells whether one has.

## Main definitions

* `Chronicle`, `Chronicle.step`, `Chronicle.after` — a scene with the past of its calls.
* `ClosedSince` — a close has begun since a call has asked for a channel.
* `Chronicle.Change` — what a move does to a chronicle.
* `Chronicle.Sound` — what is known of the calls that wait.

## Main results

* `Chronicle.step_change` — every move makes a change of the list.
* `Chronicle.sound_after` — every reachable chronicle is sound.
-/

namespace BrokerClient.Channel.Pool

open Broker (ChannelId)

/-- What happens to the calls of a pool, which are known by numbers. -/
inductive Event
  | began (number : Nat) (call : Call)
  /-- The call has asked for a channel. -/
  | asked (number : Nat)
  | replied (number : Nat) (reply : Reply)
  | ended (number : Nat) (result : Except Error (Option ChannelId))

/-- Whether a call has asked for a channel. -/
def Event.asks (n : Nat) : Event → Bool
  | .asked m => m == n
  | _ => false

/-- Whether a close has begun. -/
def Event.isClose : Event → Bool
  | .began _ .close => true
  | _ => false

/-- What has happened since a call has asked for a channel for the last time. -/
def since (n : Nat) (past : List Event) : List Event :=
  past.rtakeWhile fun e => !e.asks n

/-- How many closes have begun since a call has asked for a channel. -/
def closesSince (n : Nat) (past : List Event) : Nat :=
  (since n past).countP Event.isClose

/-- A close has begun since a call has asked for a channel. -/
def ClosedSince (n : Nat) (past : List Event) : Prop :=
  ∃ m, .began m .close ∈ since n past

theorem closedSince_iff {n : Nat} {past : List Event} :
    ClosedSince n past ↔ 0 < closesSince n past := by
  rw [closesSince, List.countP_pos_iff]
  constructor
  · rintro ⟨m, mem⟩
    exact ⟨_, mem, rfl⟩
  · rintro ⟨e, mem, close⟩
    cases e with
    | began m call =>
      cases call with
      | close => exact ⟨m, mem⟩
      | acquire | fill | release => cases close
    | asked | replied | ended => cases close

theorem closesSince_asked (n : Nat) (past : List Event) :
    closesSince n (past ++ [.asked n]) = 0 := by
  simp [closesSince, since, Event.asks]

/-- What happens to other calls matters by the closes that begin. -/
theorem closesSince_append {n : Nat} {past events : List Event}
    (others : ∀ e ∈ events, e.asks n = false) :
    closesSince n (past ++ events) = closesSince n past + events.countP Event.isClose := by
  induction events generalizing past with
  | nil => simp
  | cons e events ih =>
    have first : closesSince n (past ++ [e]) = closesSince n past + [e].countP Event.isClose := by
      simp [closesSince, since, others e List.mem_cons_self]
    rw [List.append_cons, ih fun e he => others e (List.mem_cons_of_mem _ he), first,
      Nat.add_assoc, ← List.countP_append]
    rfl

/-- What is noted of a call that has run in one go and left this. -/
def news (n : Nat) : Act (Option ChannelId) → List Event
  | .call .openChannel _ => [.asked n]
  | .done result => [.ended n (.ok result)]
  | .fail e => [.ended n (.error e)]
  | _ => []

/-- A call that waits for something. -/
structure Caller where
  number : Nat
  call : Call
  thread : Thread

/-- The first close that the call has asked for begins. -/
def Thread.beginClose (t : Thread) : Thread :=
  ⟨t.program, t.unclosed.tail⟩

/-- The first close that the call has asked for begins. -/
def Caller.beginClose (x : Caller) : Caller :=
  { x with thread := x.thread.beginClose }

/-- What a reply makes of a waiting call, if it can be replied to. -/
def Thread.turn? (t : Thread) (s : Scene) (reply : Reply) :
    Option (Act (Option ChannelId) × Pool) :=
  if t.unclosed = [] ∧ ∀ c ∈ reply.channels, c ∉ s.opened then reply.turn s.pool t.program
  else none

/-- A scene with the calls that wait in it and the past of all calls. -/
structure Chronicle where
  scene : Scene
  callers : List Caller := []
  /-- How many calls have begun. -/
  calls : Nat := 0
  /-- What has happened to the calls, the first first. -/
  past : List Event := []

namespace Chronicle

/-- Notes that something has happened to a call, which has run in one go and left this. -/
def proceed (h : Chronicle) (others : List Caller) (n : Nat) (call : Call) (first : Event)
    (q : Act (Option ChannelId)) : Chronicle :=
  { h with
    callers := others ++ (waits q).map fun t => ⟨n, call, t⟩
    past := h.past ++ first :: news n q }

/-- Notes a move. -/
def note (h : Chronicle) : Move → Chronicle
  | .begin call =>
    { h.proceed h.callers h.calls call (.began h.calls call)
        (call.program.advance pass h.scene.pool).1 with calls := h.calls + 1 }
  | .reply i reply =>
    match h.callers[i]? with
    | some x =>
      match x.thread.turn? h.scene reply with
      | some r =>
        h.proceed (h.callers.eraseIdx i) x.number x.call (.replied x.number reply) r.1
      | none => h
    | none => h
  | .beginClose i => { h with callers := h.callers.modify i Caller.beginClose }

/-- The chronicle after a move. -/
def step (h : Chronicle) (m : Move) : Chronicle :=
  { h.note m with scene := h.scene.step m }

/-- The chronicle after moves from an empty pool. -/
def after (size : Nat) (moves : List Move) : Chronicle :=
  moves.foldl step { scene := .start size }

/-- A chronicle goes by the moves of the scene. -/
theorem scene_after (size : Nat) (moves : List Move) :
    (after size moves).scene = Scene.after size moves := by
  have run (moves : List Move) (h : Chronicle) :
      (moves.foldl step h).scene = moves.foldl Scene.step h.scene := by
    induction moves generalizing h with
    | nil => rfl
    | cons m moves ih => exact ih _
  exact run moves _

theorem after_concat (size : Nat) (moves : List Move) (m : Move) :
    after size (moves ++ [m]) = (after size moves).step m := by
  simp [after]

end Chronicle

/-- A call waits at a stage that suits it. While it waits for a channel, the pool has gone on by so
many closes since. -/
inductive Stage.Suits (generation closes : Nat) (call : Call) : Stage → Prop
  | opens {st g} (opens : st.Opens g call) (count : g + closes = generation) :
    Suits generation closes call st
  | discarding {c} : Suits generation closes call (.discarding call.operation c)
  | closing {cs} : Suits generation closes call (.closing cs)

/-- A call with a number waits at a stage that suits it after what has happened. -/
def Known (p : Pool) (n : Nat) (past : List Event) (call : Call) (t : Thread) : Prop :=
  ∃ st : Stage, t.program = st.program ∧ t.unclosed ⊆ st.unclosed ∧
    st.Suits p.generation (closesSince n past) call

namespace Chronicle

/-- Callers are the calls that wait in the scene; each waits at a stage that suits it, none of them
has ended, and no call ends twice. -/
structure Sound (h : Chronicle) : Prop where
  waiting : h.scene.waiting = h.callers.map Caller.thread
  numbers : (h.callers.map Caller.number).Nodup
  begun : ∀ x ∈ h.callers, x.number < h.calls
  ended : ∀ n result, .ended n result ∈ h.past → n < h.calls ∧ ∀ x ∈ h.callers, x.number ≠ n
  ended_once : ∀ n result result', .ended n result ∈ h.past → .ended n result' ∈ h.past →
    result = result'
  known : ∀ x ∈ h.callers, Known h.scene.pool x.number h.past x.call x.thread

/-- What a move does to a chronicle. -/
inductive Change (h : Chronicle) : Move → Chronicle → Prop
  | same {m} : Change h m h
  | began {call r s} (begun : Begun h.scene.pool call r)
    (waiting : s.waiting = h.scene.waiting ++ waits r.1)
    (generation : s.pool.generation = r.2.generation) :
    Change h (.begin call)
      { h.proceed h.callers h.calls call (.began h.calls call) r.1 with
        scene := s, calls := h.calls + 1 }
  | replied {i x reply r s} {st : Stage} (found : h.callers[i]? = some x)
    (program : x.thread.program = st.program)
    (suits : st.Suits h.scene.pool.generation (closesSince x.number h.past) x.call)
    (fresh : ∀ c ∈ reply.channels, c ∉ h.scene.opened)
    (turn : reply.turn h.scene.pool st.program = some r)
    (waiting : s.waiting = h.scene.waiting.eraseIdx i ++ waits r.1) (pool : s.pool = r.2) :
    Change h (.reply i reply)
      { h.proceed (h.callers.eraseIdx i) x.number x.call (.replied x.number reply) r.1 with
        scene := s }
  | beginClose {i s} (waiting : s.waiting = h.scene.waiting.modify i Thread.beginClose)
    (pool : s.pool = h.scene.pool) :
    Change h (.beginClose i) { h with scene := s, callers := h.callers.modify i Caller.beginClose }

end Chronicle

/-! ### What a move does to a scene -/

namespace Scene

variable {s : Scene}

theorem step_begin (call : Call) :
    (s.step (.begin call)).waiting = s.waiting ++ waits (call.program.advance pass s.pool).1 ∧
      (s.step (.begin call)).pool.generation =
        (call.program.advance pass s.pool).2.generation := by
  cases call with
  | acquire | fill | close => exact ⟨rfl, rfl⟩
  | release c =>
    rw [step, advance_release]
    split
    · exact ⟨rfl, rfl⟩
    · exact ⟨(List.append_nil _).symm, rfl⟩

theorem step_reply_of_some {i : Nat} {t : Thread} {reply : Reply}
    {r : Act (Option ChannelId) × Pool} (found : s.waiting[i]? = some t)
    (turn : t.turn? s reply = some r) :
    s.step (.reply i reply) =
      (s.noteOpened reply.channels).proceed (s.waiting.eraseIdx i) r := by
  obtain ⟨program, _ | ⟨c, cs⟩⟩ := t
  · by_cases fresh : ∀ c ∈ reply.channels, c ∉ s.opened
    · rw [Thread.turn?, if_pos ⟨rfl, fresh⟩] at turn
      simp only [step, Scene.reply, found, if_pos fresh, turn]
    · rw [Thread.turn?, if_neg fun h => fresh h.2] at turn
      cases turn
  · cases turn

theorem step_reply_of_none {i : Nat} {reply : Reply}
    (none : ∀ t, s.waiting[i]? = some t → t.turn? s reply = none) :
    s.step (.reply i reply) = s := by
  cases found : s.waiting[i]? with
  | none => simp only [step, Scene.reply, found]
  | some t =>
    have none := none t found
    obtain ⟨program, _ | ⟨c, cs⟩⟩ := t
    · by_cases fresh : ∀ c ∈ reply.channels, c ∉ s.opened
      · rw [Thread.turn?, if_pos ⟨rfl, fresh⟩] at none
        simp only [step, Scene.reply, found, if_pos fresh, none]
      · simp only [step, Scene.reply, found, if_neg fresh]
    · simp only [step, Scene.reply, found]

theorem step_beginClose (i : Nat) :
    (s.step (.beginClose i)).waiting = s.waiting.modify i Thread.beginClose ∧
      (s.step (.beginClose i)).pool = s.pool := by
  rw [step, Scene.beginClose, List.modify_eq_set_getElem?]
  cases found : s.waiting[i]? with
  | none => simp
  | some t =>
    obtain ⟨program, _ | ⟨c, cs⟩⟩ := t
    · obtain ⟨inside, at_i⟩ := List.getElem?_eq_some_iff.mp found
      have same : s.waiting.set i (Thread.beginClose ⟨program, []⟩) = s.waiting := by
        rw [Thread.beginClose, List.tail_nil, ← at_i, List.set_getElem_self]
      exact ⟨same.symm, rfl⟩
    · exact ⟨rfl, rfl⟩

end Scene

namespace Chronicle

variable {h h' : Chronicle}

theorem Sound.getElem?_waiting (sound : h.Sound) (i : Nat) :
    h.scene.waiting[i]? = h.callers[i]?.map Caller.thread := by
  rw [sound.waiting, List.getElem?_map]

/-- A call that can be replied to goes on. -/
theorem Sound.step_reply (sound : h.Sound) {i : Nat} {x : Caller} {reply : Reply}
    {r : Act (Option ChannelId) × Pool} (found : h.callers[i]? = some x)
    (turn : x.thread.turn? h.scene reply = some r) :
    h.step (.reply i reply) =
      { h.proceed (h.callers.eraseIdx i) x.number x.call (.replied x.number reply) r.1 with
        scene := (h.scene.noteOpened reply.channels).proceed (h.scene.waiting.eraseIdx i) r } := by
  have found' : h.scene.waiting[i]? = some x.thread := by
    rw [sound.getElem?_waiting, found, Option.map_some]
  rw [step, Scene.step_reply_of_some found' turn]
  simp only [note, found, turn]

/-- Every move makes one of the changes. -/
theorem step_change (sound : h.Sound) (m : Move) : h.Change m (h.step m) := by
  cases m with
  | begin call =>
    obtain ⟨waiting, generation⟩ := h.scene.step_begin call
    exact .began (begun_advance call h.scene.pool) waiting generation
  | reply i reply =>
    cases found : h.callers[i]? with
    | none =>
      have same : h.scene.step (.reply i reply) = h.scene :=
        Scene.step_reply_of_none (by simp [sound.getElem?_waiting, found])
      have kept : h.step (.reply i reply) = h := by simp only [step, note, found, same]
      rw [kept]
      exact .same
    | some x =>
      cases turn : x.thread.turn? h.scene reply with
      | none =>
        have same : h.scene.step (.reply i reply) = h.scene :=
          Scene.step_reply_of_none (by simp [sound.getElem?_waiting, found, turn])
        have kept : h.step (.reply i reply) = h := by simp only [step, note, found, turn, same]
        rw [kept]
        exact .same
      | some r =>
        obtain ⟨st, program, -, suits⟩ := sound.known x (List.mem_of_getElem? found)
        rw [sound.step_reply found turn]
        rw [Thread.turn?] at turn
        split at turn
        · rename_i ready
          exact .replied found program suits ready.2 (program ▸ turn) rfl rfl
        · cases turn
  | beginClose i =>
    obtain ⟨waiting, pool⟩ := h.scene.step_beginClose i
    exact .beginClose waiting pool

end Chronicle

/-! ### What is known of the calls that wait -/

section News

variable {m n : Nat} {q : Act (Option ChannelId)} {past : List Event}

theorem waits_eq (q : Act (Option ChannelId)) : waits q = [] ∨ ∃ t, waits q = [t] := by
  cases q with
  | call r k => cases r <;> exact .inr ⟨_, rfl⟩
  | done | fail | read | update | emit => exact .inl rfl

theorem countP_news : (news n q).countP Event.isClose = 0 := by
  cases q with
  | call r k => cases r <;> rfl
  | done | fail | read | update | emit => rfl

theorem asks_of_mem_news (other : m ≠ n) : ∀ e ∈ news n q, e.asks m = false := by
  cases q with
  | call r k => cases r <;> simp [news, Event.asks, other.symm]
  | done | fail | read | update | emit => simp [news, Event.asks]

/-- A call that ends does not wait. -/
theorem ended_mem_news {result : Except Error (Option ChannelId)}
    (h : .ended m result ∈ news n q) : m = n ∧ waits q = [] := by
  cases q with
  | call r k => cases r <;> simp [news] at h
  | read | update | emit => cases h
  | done a | fail e =>
    cases List.mem_singleton.mp h
    exact ⟨rfl, rfl⟩

/-- A call that waits at a stage has not ended. -/
theorem ended_not_mem_news {result : Except Error (Option ChannelId)} (st : Stage) :
    .ended m result ∉ news n st.program := by
  intro h
  have waits := (ended_mem_news h).2
  rw [waits_program] at waits
  cases waits

theorem eq_of_ended_mem_news {result result' : Except Error (Option ChannelId)}
    (h : .ended m result ∈ news n q) (h' : .ended m result' ∈ news n q) : result = result' := by
  cases q with
  | call r k => cases r <;> simp [news] at h
  | read | update | emit => cases h
  | done a | fail e =>
    cases List.mem_singleton.mp h
    cases List.mem_singleton.mp h'
    rfl

/-- A call that has ended had done so before, or it has just done so. -/
theorem ended_mem_later {first : Event} {result : Except Error (Option ChannelId)}
    (h : .ended m result ∈ past ++ first :: news n q)
    (silent : ∀ m result, first ≠ .ended m result) :
    .ended m result ∈ past ∨ .ended m result ∈ news n q := by
  obtain old | recent := List.mem_append.mp h
  · exact .inl old
  · exact .inr ((List.mem_cons.mp recent).resolve_left (silent m result).symm)

/-- For the other calls a call has done no more than to begin a close. -/
theorem closesSince_news {first : Event} (asks : ∀ m, first.asks m = false) (other : m ≠ n) :
    closesSince m (past ++ first :: news n q) =
      closesSince m past + [first].countP Event.isClose := by
  rw [closesSince_append (List.forall_mem_cons.mpr ⟨asks m, asks_of_mem_news other⟩),
    List.countP_cons, countP_news, List.countP_singleton, Nat.zero_add]

theorem Stage.Suits.later {st : Stage} {generation closes : Nat} {call : Call}
    (h : st.Suits generation closes call) (more : Nat) :
    st.Suits (generation + more) (closes + more) call := by
  cases h with
  | opens opens count => exact .opens opens (by omega)
  | discarding => exact .discarding
  | closing => exact .closing

/-- A call that waits for a channel has just asked for it. -/
theorem closesSince_opens {st : Stage} {generation : Nat} {call : Call} {first : Event}
    (opens : st.Opens generation call) :
    closesSince n (past ++ first :: news n st.program) = 0 := by
  have asks : news n st.program = [.asked n] := by cases opens <;> rfl
  rw [asks, List.append_cons, closesSince_asked]

theorem Stage.Opens.unique {st : Stage} {g g' : Nat} {call call' : Call} (h : st.Opens g call)
    (h' : st.Opens g' call') : g' = g ∧ call' = call := by
  cases h <;> cases h' <;> exact ⟨rfl, rfl⟩

theorem known_program {p : Pool} {st : Stage} {call : Call}
    (suits : st.Suits p.generation (closesSince n past) call) :
    ∀ t ∈ waits st.program, Known p n past call t := by
  rw [waits_program]
  rintro t ht
  cases List.mem_singleton.mp ht
  exact ⟨st, rfl, List.Subset.refl _, suits⟩

variable {p : Pool} {call : Call} {r : Act (Option ChannelId) × Pool}

theorem Begun.generation_eq (h : Begun p call r) :
    r.2.generation = p.generation + [Event.began n call].countP Event.isClose := by
  cases h <;> rfl

theorem Answered.generation_eq {st : Stage} {reply : Reply} (h : Answered p st reply r) :
    r.2.generation = p.generation := by
  cases h <;> rfl

theorem Filling.known {first : Event} {rounds : Nat} {q : Act (Option ChannelId)}
    (h : Filling p rounds q) : ∀ t ∈ waits q, Known p n (past ++ first :: news n q) .fill t := by
  cases h with
  | done => exact List.forall_mem_nil _
  | more => exact known_program (.opens .filling (by rw [closesSince_opens .filling]; rfl))

theorem Begun.known (h : Begun p call r) :
    ∀ t ∈ waits r.1, Known r.2 n (past ++ .began n call :: news n r.1) call t := by
  cases h with
  | lent | closed | released => exact List.forall_mem_nil _
  | growing => exact known_program (.opens .growing (by rw [closesSince_opens .growing]; rfl))
  | filling left => exact left.known
  | closing => exact known_program .closing

theorem Answered.known {st : Stage} {reply : Reply} {closes : Nat} (h : Answered p st reply r)
    (suits : st.Suits p.generation closes call) :
    ∀ t ∈ waits r.1, Known r.2 n (past ++ .replied n reply :: news n r.1) call t := by
  cases h with
  | lent | unopened | discarded | undiscarded | closed => exact List.forall_mem_nil _
  | filled left =>
    cases suits with
    | opens opens =>
      cases opens
      exact left.known
  | late opens =>
    cases suits with
    | opens opens' =>
      obtain ⟨-, rfl⟩ := opens.unique opens'
      exact known_program .discarding
    | discarding | closing => cases opens

end News

namespace Chronicle

variable {h h' : Chronicle}

/-- A call takes its turn, be it a new one or one that has waited. -/
theorem Sound.proceed (sound : h.Sound) {others : List Caller} {n calls : Nat} {call : Call}
    {first : Event} {q : Act (Option ChannelId)} {s : Scene}
    (kept : others ⊆ h.callers) (numbers : (others.map Caller.number).Nodup)
    (new : ∀ x ∈ others, x.number ≠ n) (unended : ∀ result, .ended n result ∉ h.past)
    (le : h.calls ≤ calls) (lt : n < calls)
    (silent : ∀ m result, first ≠ .ended m result) (asks : ∀ m, first.asks m = false)
    (waiting : s.waiting = others.map Caller.thread ++ waits q)
    (generation : s.pool.generation =
      h.scene.pool.generation + [first].countP Event.isClose)
    (known : ∀ t ∈ waits q, Known s.pool n (h.past ++ first :: news n q) call t) :
    Sound { h.proceed others n call first q with scene := s, calls } where
  waiting := by simpa [Chronicle.proceed, Function.comp_def] using waiting
  numbers := by
    have apart : ∀ a ∈ others.map Caller.number, a ≠ n := by simpa using new
    obtain none | ⟨t, one⟩ := waits_eq q
    · simpa [Chronicle.proceed, none] using numbers
    · simp only [Chronicle.proceed, one, List.map_append, List.map_cons, List.map_nil]
      exact List.nodup_append.mpr ⟨numbers, by simp, by simpa using apart⟩
  begun x hx := by
    obtain hx | hx := List.mem_append.mp hx
    · exact Nat.lt_of_lt_of_le (sound.begun x (kept hx)) le
    · obtain ⟨t, -, rfl⟩ := List.mem_map.mp hx
      exact lt
  ended m result hm := by
    obtain hm | hm := ended_mem_later hm silent
    · obtain ⟨before, gone⟩ := sound.ended m result hm
      refine ⟨Nat.lt_of_lt_of_le before le, fun x hx => ?_⟩
      obtain hx | hx := List.mem_append.mp hx
      · exact gone x (kept hx)
      · obtain ⟨t, -, rfl⟩ := List.mem_map.mp hx
        rintro rfl
        exact unended result hm
    · obtain ⟨rfl, none⟩ := ended_mem_news hm
      refine ⟨lt, fun x hx => new x ?_⟩
      simpa [Chronicle.proceed, none] using hx
  ended_once m result result' hm hm' := by
    obtain old | new := ended_mem_later hm silent <;>
      obtain old' | new' := ended_mem_later hm' silent
    · exact sound.ended_once m result result' old old'
    · obtain ⟨rfl, -⟩ := ended_mem_news new'
      exact absurd old (unended result)
    · obtain ⟨rfl, -⟩ := ended_mem_news new
      exact absurd old' (unended result')
    · exact eq_of_ended_mem_news new new'
  known x hx := by
    obtain hx | hx := List.mem_append.mp hx
    · obtain ⟨st, program, unclosed, suits⟩ := sound.known x (kept hx)
      refine ⟨st, program, unclosed, ?_⟩
      have later := suits.later ([first].countP Event.isClose)
      rwa [← generation, ← closesSince_news asks (new x hx)] at later
    · obtain ⟨t, ht, rfl⟩ := List.mem_map.mp hx
      exact known t ht

/-- A change of an entry of a list shows in what is made of the entries. -/
private theorem map_modify {α β : Type} {f : α → β} {g : α → α} {k : β → β}
    (seen : ∀ a, f (g a) = k (f a)) (l : List α) (i : Nat) :
    (l.modify i g).map f = (l.map f).modify i k := by
  refine List.ext_getElem? fun j => ?_
  simp only [List.getElem?_map, List.getElem?_modify]
  cases l[j]? with
  | none => rfl
  | some a => by_cases h : i = j <;> simp [h, seen]

/-- The calls that wait are the same after a close has begun, but for the closes that are left. -/
theorem mem_modify_beginClose {callers : List Caller} {i : Nat} {x : Caller}
    (hx : x ∈ callers.modify i Caller.beginClose) :
    ∃ y ∈ callers, x.number = y.number ∧ x.call = y.call ∧
      x.thread.program = y.thread.program ∧ x.thread.unclosed ⊆ y.thread.unclosed := by
  obtain ⟨j, hj⟩ := List.mem_iff_getElem?.mp hx
  rw [List.getElem?_modify] at hj
  obtain ⟨y, found, rfl⟩ := Option.map_eq_some_iff.mp hj
  refine ⟨y, List.mem_of_getElem? found, ?_⟩
  split
  · exact ⟨rfl, rfl, rfl, (List.tail_sublist _).subset⟩
  · exact ⟨rfl, rfl, rfl, List.Subset.refl _⟩

theorem exists_mem_modify_beginClose {callers : List Caller} {i : Nat} {y : Caller}
    (hy : y ∈ callers) : ∃ x ∈ callers.modify i Caller.beginClose,
      x.number = y.number ∧ x.thread.program = y.thread.program := by
  obtain ⟨j, found⟩ := List.mem_iff_getElem?.mp hy
  have found' : (callers.modify i Caller.beginClose)[j]? =
      some (if i = j then y.beginClose else y) := by
    rw [List.getElem?_modify, found]
    rfl
  refine ⟨_, List.mem_of_getElem? found', ?_⟩
  split <;> exact ⟨rfl, rfl⟩

theorem Sound.change {m : Move} (sound : h.Sound) (change : h.Change m h') : h'.Sound := by
  cases change with
  | same => exact sound
  | @began call r s begun waiting generation =>
    refine sound.proceed (List.Subset.refl _) sound.numbers
      (fun x hx => Nat.ne_of_lt (sound.begun x hx))
      (fun result hr => Nat.lt_irrefl _ (sound.ended _ result hr).1) (Nat.le_succ _)
      (Nat.lt_succ_self _) nofun (fun _ => rfl) (by rw [waiting, sound.waiting]) ?_ ?_
    · rw [generation, begun.generation_eq]
    · simpa only [Known, generation] using begun.known
  | @replied i x reply r s st found program suits fresh turn waiting pool =>
    have answered := answered_of_turn turn
    have mem := List.mem_of_getElem? found
    have numbers : (x.number :: (h.callers.eraseIdx i).map Caller.number).Nodup :=
      ((Scene.perm_of_getElem? found).map Caller.number).nodup_iff.mp sound.numbers
    obtain ⟨apart, numbers⟩ := List.nodup_cons.mp numbers
    refine sound.proceed (List.eraseIdx_subset) numbers ?_ ?_ (Nat.le_refl _)
      (sound.begun x mem) nofun (fun _ => rfl) ?_ ?_ ?_
    · exact fun y hy eq => apart (eq ▸ List.mem_map_of_mem hy)
    · exact fun result hr => (sound.ended _ result hr).2 x mem rfl
    · rw [waiting, sound.waiting, List.eraseIdx_map]
    · rw [pool, answered.generation_eq]
      rfl
    · rw [pool]
      exact answered.known suits
  | @beginClose i s waiting pool =>
    constructor
    · rw [waiting, sound.waiting]
      exact (map_modify (f := Caller.thread) (g := Caller.beginClose) (fun _ => rfl) _ i).symm
    · have same : (h.callers.modify i Caller.beginClose).map Caller.number =
          h.callers.map Caller.number := by
        rw [map_modify (f := Caller.number) (g := Caller.beginClose) (k := id) fun _ => rfl,
          List.modify_id]
      exact same ▸ sound.numbers
    · intro x hx
      obtain ⟨y, hy, number, -⟩ := mem_modify_beginClose hx
      exact number ▸ sound.begun y hy
    · intro n result hr
      refine ⟨(sound.ended n result hr).1, fun x hx => ?_⟩
      obtain ⟨y, hy, number, -⟩ := mem_modify_beginClose hx
      exact number ▸ (sound.ended n result hr).2 y hy
    · exact sound.ended_once
    · intro x hx
      obtain ⟨y, hy, number, call, program, unclosed⟩ := mem_modify_beginClose hx
      obtain ⟨st, at_st, subset, suits⟩ := sound.known y hy
      exact ⟨st, program.trans at_st, List.Subset.trans unclosed subset, by rwa [number, call, pool]⟩

/-- Every reachable chronicle is sound. -/
theorem sound_after (size : Nat) (moves : List Move) : (after size moves).Sound := by
  induction moves using List.reverseRecOn with
  | nil => constructor <;> simp [after, Scene.start]
  | append_singleton moves m sound =>
    rw [after_concat]
    exact sound.change (step_change sound m)

end Chronicle

end BrokerClient.Channel.Pool
