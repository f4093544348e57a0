import BrokerClient.Proofs.Pool.Chronicle
import BrokerClient.Proofs.Pool.Forgetting
import BrokerClient.Proofs.Pool.Lending

/-!
# Channels that come too late

A close of the pool takes down the channels that the pool has, so a channel that is being opened at
that time has to be kept out. The generation of the pool tells such a channel from others: it has
gone on since the call asked for its channel if and only if a close has begun in between, however
many calls and closes overlap.

## Main definitions

* `Chronicle.Opens` — a call is given the channel that it has asked for.
* `Scene.ShutOut` — the pool does not have the channel, and it has been closed once.
* `Chronicle.Refused` — a call fails as its channel has come too late.
* `Chronicle.Joined` — a channel has joined the pool.
* `Late` — in these moves, a call has been given a channel after a close had begun.

## Main results

* `Chronicle.Opens.step_late`, `Chronicle.Opens.joined` — what becomes of a channel.
* `Scene.ShutOut.append`, `Chronicle.Refused.append` — this is for good.
* `closes_separate_openings` — channels that come too late, and those that come in time.
-/

namespace BrokerClient.Channel.Pool

open Broker (ChannelId)

/-! ### Channels that are shut out -/

/-- The pool does not have the channel, it has been closed once, and nothing else is going to close
it. -/
structure Scene.ShutOut (s : Scene) (c : ChannelId) : Prop where
  opened : c ∈ s.opened
  out : c ∉ s.pool.channels
  closed_once : s.closed.count c = 1
  unclaimed : ∀ t ∈ s.waiting, c ∉ t.unclosed

/-- A turn brings no channel into the pool and closes none but those that it is given and those of
the pool. -/
theorem Turn.leaves_out {p : Pool} {st : Option Stage} {cs : List ChannelId}
    {r : Act (Option ChannelId) × Pool} {c : ChannelId} (turn : Turn p st cs r) (other : c ∉ cs)
    (out : c ∉ p.channels) : c ∉ r.2.channels ∧ c ∉ claims r.1 := by
  cases turn with
  | stay _ quiet => exact ⟨out, quiet.claims_eq ▸ List.not_mem_nil⟩
  | lend => exact ⟨out, List.not_mem_nil⟩
  | grow =>
    refine ⟨fun inside => ?_, List.not_mem_nil⟩
    exact (List.mem_append.mp inside).elim out other
  | fill quiet =>
    refine ⟨fun inside => ?_, quiet.claims_eq ▸ List.not_mem_nil⟩
    exact (List.mem_append.mp inside).elim out other
  | late => exact ⟨out, by rwa [claims_program]⟩
  | closeNone | closed => exact ⟨List.not_mem_nil, List.not_mem_nil⟩
  | close => exact ⟨out, by rwa [claims_program]⟩

namespace Scene

variable {s s' : Scene} {known : Stage → Prop} {c : ChannelId}

theorem ShutOut.change (h : s.ShutOut c) (change : s.Change known s') : s'.ShutOut c := by
  cases change with
  | same => exact h
  | @turn st cs r rest waiting kind fresh turn =>
    obtain ⟨out, unclaimed⟩ := turn.leaves_out (fun new => fresh c new h.opened) h.out
    rw [claims, List.mem_append, List.mem_flatMap, not_or] at unclaimed
    refine ⟨List.mem_append_left _ h.opened, out, ?_, ?_⟩
    · change (s.closed ++ closesNow r.1).count c = 1
      rw [List.count_append, h.closed_once, List.count_eq_zero.mpr unclaimed.1]
    · intro t ht
      obtain ht | ht := List.mem_append.mp ht
      · exact h.unclaimed t (waiting.mem_iff.mpr (List.mem_append_right _ ht))
      · exact fun mem => unclaimed.2 ⟨t, ht, mem⟩
  | release lent =>
    refine ⟨h.opened, h.out, ?_, ?_⟩
    · simpa [proceed, endLoan, closesNow] using h.closed_once
    · simpa [proceed, endLoan, waits] using h.unclaimed
  | @beginClose program d cs rest waiting' waiting kept =>
    have here := h.unclaimed _ (waiting.mem_iff.mpr List.mem_cons_self)
    refine ⟨h.opened, h.out, ?_, fun t ht => ?_⟩
    · have other : d ≠ c := fun eq => here (eq ▸ List.mem_cons_self)
      change (s.closed ++ [d]).count c = 1
      rw [List.count_append, h.closed_once, List.count_singleton, if_neg (by simpa using other)]
    · obtain rfl | ht := List.mem_cons.mp (kept.mem_iff.mp ht)
      · exact fun mem => here (List.mem_cons_of_mem _ mem)
      · exact h.unclaimed t (waiting.mem_iff.mpr (List.mem_cons_of_mem _ ht))

/-- What every change keeps is kept by further moves. -/
theorem append_induction {P : Scene → Prop}
    (change : ∀ s s' : Scene, P s → (s.Change fun _ => True) s' → P s') {size : Nat}
    {moves : List Move} (h : P (after size moves)) (later : List Move) :
    P (after size (moves ++ later)) := by
  induction later using List.reverseRecOn with
  | nil => rwa [List.append_nil]
  | append_singleton later m ih =>
    have staged : (after size (moves ++ later)).Staged fun _ => True :=
      (staged_induction (K := fun _ _ => True) (P := fun _ => True) (fun _ => trivial)
        (fun _ _ staged _ made => ⟨made.staged staged, trivial⟩) size _).1
    rw [← List.append_assoc, after, List.foldl_append]
    exact change _ _ ih (step_change staged m)

theorem ShutOut.append {size : Nat} {moves : List Move} (h : (after size moves).ShutOut c)
    (later : List Move) : (after size (moves ++ later)).ShutOut c :=
  append_induction (P := fun s => s.ShutOut c) (fun _ _ h change => h.change change) h later

/-- A channel that has been opened stays so. -/
theorem opened_append {size : Nat} {moves : List Move} (h : c ∈ (after size moves).opened)
    (later : List Move) : c ∈ (after size (moves ++ later)).opened := by
  refine append_induction (P := fun s => c ∈ s.opened) (fun s s' h change => ?_) h later
  cases change with
  | same | release | beginClose => exact h
  | turn => exact List.mem_append_left _ h

/-- A channel that has not been opened is in no pool, and nobody is going to close it. -/
theorem unknown_of_new (size : Nat) (moves : List Move) (new : c ∉ (after size moves).opened) :
    c ∉ (after size moves).pool.channels ∧ ¬ (after size moves).Claimed c := by
  obtain ⟨-, custody⟩ := custody_after size moves
  exact ⟨fun inside => new (custody.channels_opened inside),
    fun claimed => new (custody.claimed_in_time c claimed).1⟩

end Scene

/-! ### What becomes of an opened channel -/

/-- Whether a call waits for a channel. -/
def Caller.awaitsChannel (x : Caller) : Bool :=
  match x.thread.program with
  | .call .openChannel _ => true
  | _ => false

theorem turn_opened {st : Stage} {g : Nat} {call : Call} (opens : st.Opens g call) (p : Pool)
    (c : ChannelId) : ∃ r, (Reply.opened c).turn p st.program = some r := by
  cases opens with
  | growing =>
    rw [Stage.program, advance_opened]
    exact ⟨_, rfl⟩
  | filling =>
    simp only [Stage.program, fillNext, bind_assoc]
    rw [advance_opened]
    exact ⟨_, rfl⟩

theorem Stage.Opens.awaitsChannel {st : Stage} {g : Nat} {call : Call} {x : Caller}
    (h : st.Opens g call) (program : x.thread.program = st.program) : x.awaitsChannel := by
  rw [Caller.awaitsChannel, program]
  cases h <;> rfl

theorem Stage.Opens.unclosed_eq {st : Stage} {g : Nat} {call : Call} (h : st.Opens g call) :
    st.unclosed = [] := by
  cases h <;> rfl

namespace Chronicle

variable {h h' : Chronicle} {i n : Nat} {x : Caller} {c : ChannelId}

/-- A waiting call is given the channel that it has asked for, which is a new one. -/
structure Opens (h : Chronicle) (i : Nat) (x : Caller) (c : ChannelId) : Prop where
  found : h.callers[i]? = some x
  awaits : x.awaitsChannel
  new : c ∉ h.scene.opened

/-- A call that waits for a channel has taken down the generation of the pool in which it has asked
for it. -/
theorem Opens.stage (opens : h.Opens i x c) (sound : h.Sound) :
    ∃ st g, x.thread = Stage.thread st ∧ st.Opens g x.call ∧
      g + closesSince x.number h.past = h.scene.pool.generation := by
  obtain ⟨st, program, unclosed, suits⟩ := sound.known x (List.mem_of_getElem? opens.found)
  have awaits := opens.awaits
  rw [Caller.awaitsChannel, program] at awaits
  cases suits with
  | @opens _ g opens count =>
    refine ⟨st, g, ?_, opens, count⟩
    rw [Stage.thread, ← program, ← List.subset_nil.mp (opens.unclosed_eq ▸ unclosed)]
  | discarding | closing => cases awaits

/-- A call is given a channel. -/
theorem Opens.step_eq (opens : h.Opens i x c) (sound : h.Sound) :
    ∃ st g r, st.Opens g x.call ∧ g + closesSince x.number h.past = h.scene.pool.generation ∧
      Answered h.scene.pool st (.opened c) r ∧
      h.step (.reply i (.opened c)) =
        { h.proceed (h.callers.eraseIdx i) x.number x.call (.replied x.number (.opened c)) r.1 with
          scene := (h.scene.noteOpened [c]).proceed (h.scene.waiting.eraseIdx i) r } := by
  obtain ⟨st, g, thread, waits, count⟩ := opens.stage sound
  obtain ⟨r, turn⟩ := turn_opened waits h.scene.pool c
  refine ⟨st, g, r, waits, count, answered_of_turn turn, sound.step_reply opens.found ?_⟩
  have fresh : ∀ d ∈ (Reply.opened c).channels, d ∉ h.scene.opened := by
    simpa [Reply.channels] using opens.new
  rw [thread, Thread.turn?, if_pos ⟨rfl, fresh⟩]
  exact turn

/-- A channel that comes too late does not join the pool; its close begins at once. -/
theorem Opens.step_late (opens : h.Opens i x c) (sound : h.Sound)
    (late : ClosedSince x.number h.past) :
    h.step (.reply i (.opened c)) =
      { h.proceed (h.callers.eraseIdx i) x.number x.call (.replied x.number (.opened c))
          (Stage.discarding x.call.operation c).program with
        scene := (h.scene.noteOpened [c]).proceed (h.scene.waiting.eraseIdx i)
          ((Stage.discarding x.call.operation c).program, h.scene.pool) } := by
  obtain ⟨st, g, r, waits, count, answered, eq⟩ := opens.step_eq sound
  have more := closedSince_iff.mp late
  rw [eq]
  cases answered with
  | lent =>
    obtain ⟨rfl, -⟩ := waits.unique .growing
    omega
  | filled =>
    obtain ⟨rfl, -⟩ := waits.unique .filling
    omega
  | late waits' =>
    obtain ⟨-, same⟩ := waits.unique waits'
    rw [same]

/-- The channel has joined the pool of a chronicle as the last one, in use where it is lent, and its
call has ended well or goes on to ask for the next channel. -/
inductive Joined (h h' : Chronicle) (x : Caller) (c : ChannelId) : Prop
  | lent (call : x.call = .acquire) (pool : h'.scene.pool = (h.scene.pool.add c).lend c)
    (ended : .ended x.number (.ok (some c)) ∈ h'.past)
  | filled (call : x.call = .fill) (pool : h'.scene.pool = h.scene.pool.add c)
    (next : .ended x.number (.ok none) ∈ h'.past ∨
      ∃ y ∈ h'.callers, y.number = x.number ∧ y.awaitsChannel)

/-- A channel that comes in time joins the pool at once. -/
theorem Opens.joined (opens : h.Opens i x c) (sound : h.Sound)
    (timely : ¬ ClosedSince x.number h.past) :
    h.Joined (h.step (.reply i (.opened c))) x c := by
  obtain ⟨st, g, r, waits, count, answered, eq⟩ := opens.step_eq sound
  have none : closesSince x.number h.past = 0 := by
    rw [closedSince_iff] at timely
    omega
  rw [eq]
  cases answered with
  | lent =>
    obtain ⟨-, call⟩ := Stage.Opens.growing.unique waits
    exact .lent call rfl (List.mem_append_right _ (by simp [news]))
  | filled left =>
    obtain ⟨-, call⟩ := Stage.Opens.filling.unique waits
    refine .filled call rfl ?_
    cases left with
    | done => exact .inl (List.mem_append_right _ (by simp [news]))
    | @more rounds =>
      let next : Caller :=
        ⟨x.number, x.call, (Stage.filling h.scene.pool.generation rounds).thread⟩
      have mem : next ∈ h.callers.eraseIdx i ++ [next] :=
        List.mem_append_right _ (List.mem_singleton_self _)
      exact .inr ⟨next, mem, rfl, rfl⟩
  | late waits' later =>
    obtain ⟨rfl, -⟩ := waits.unique waits'
    omega

/-! ### What becomes of a call that has been refused -/

/-- How a call ends whose channel has come too late: it is not connected, unless a cancellation of
the close of the channel passes through it. -/
inductive Refusal (n : Nat) (operation : String) (past : List Event) :
    Except Error (Option ChannelId) → Prop
  | notConnected : Refusal n operation past (.error (.notConnected operation))
  | cancelled {e} (passes : e.isOrdinary = false) (replied : .replied n (.failed e) ∈ past) :
    Refusal n operation past (.error e)

/-- The call with a number waits for a channel to be closed that has come too late, or it has failed
for this. -/
structure Refused (h : Chronicle) (n : Nat) (operation : String) (c : ChannelId) : Prop where
  results : ∀ result, .ended n result ∈ h.past → Refusal n operation h.past result
  goes_on : (∃ result, .ended n result ∈ h.past) ∨
    ∃ y ∈ h.callers, y.number = n ∧ y.thread.program = (Stage.discarding operation c).program

variable {operation : String}

theorem Refusal.append {past : List Event} {result : Except Error (Option ChannelId)}
    (h : Refusal n operation past result) (events : List Event) :
    Refusal n operation (past ++ events) result := by
  cases h with
  | notConnected => exact .notConnected
  | cancelled passes replied => exact .cancelled passes (List.mem_append_left _ replied)

/-- The close of the channel ends the call. -/
theorem refusal_of_answered {p : Pool} {reply : Reply} {r : Act (Option ChannelId) × Pool}
    {past : List Event} (answered : Answered p (.discarding operation c) reply r) :
    ∃ result, news n r.1 = [.ended n result] ∧
      Refusal n operation (past ++ .replied n reply :: news n r.1) result := by
  cases answered with
  | discarded => exact ⟨_, rfl, .notConnected⟩
  | @undiscarded _ _ e =>
    refine ⟨_, rfl, ?_⟩
    rw [lateFailure]
    split
    · exact .notConnected
    · rename_i passes
      exact .cancelled (by simpa using passes) (List.mem_append_right _ List.mem_cons_self)
  | late opens | unopened opens => cases opens

/-- What another call does makes no difference to a call that has been refused. -/
theorem Refused.proceed (refused : h.Refused n operation c) {others : List Caller} {m calls : Nat}
    {call : Call} {first : Event} {q : Act (Option ChannelId)} {s : Scene} (other : m ≠ n)
    (silent : ∀ m result, first ≠ .ended m result)
    (kept : ∀ y ∈ h.callers, y.number = n → y ∈ others) :
    Refused { h.proceed others m call first q with scene := s, calls } n operation c where
  results result hr := by
    obtain hr | hr := ended_mem_later hr silent
    · exact (refused.results result hr).append _
    · exact absurd (ended_mem_news hr).1.symm other
  goes_on := refused.goes_on.imp
    (fun ⟨result, ended⟩ => ⟨result, List.mem_append_left _ ended⟩)
    (fun ⟨y, hy, number, waits⟩ => ⟨y, List.mem_append_left _ (kept y hy number), number, waits⟩)

theorem Refused.change {m : Move} (refused : h.Refused n operation c) (sound : h.Sound)
    (change : h.Change m h') : h'.Refused n operation c := by
  cases change with
  | same => exact refused
  | @began call r s begun waiting generation =>
    refine refused.proceed (Nat.ne_of_gt ?_) nofun fun y hy _ => hy
    obtain ⟨result, ended⟩ | ⟨y, hy, rfl, -⟩ := refused.goes_on
    · exact (sound.ended n result ended).1
    · exact sound.begun y hy
  | @replied i x reply r s st found program suits fresh turn waiting pool =>
    have mem := List.mem_of_getElem? found
    obtain rfl | other := eq_or_ne x.number n
    · -- the call is in hand, so it has not ended and waits for the close
      have unended : ∀ result, .ended x.number result ∉ h.past :=
        fun result hr => (sound.ended _ result hr).2 x mem rfl
      obtain ⟨result, ended⟩ | ⟨y, hy, number, discards⟩ := refused.goes_on
      · exact absurd ended (unended result)
      · obtain rfl : y = x := List.inj_on_of_nodup_map sound.numbers hy mem number
        rw [← program, discards] at turn
        obtain ⟨result, ends, refusal⟩ := refusal_of_answered (answered_of_turn turn)
        refine ⟨fun result' hr => ?_, .inl ⟨result, ?_⟩⟩
        · obtain hr | hr := ended_mem_later hr nofun
          · exact absurd hr (unended result')
          · rw [ends] at hr
            cases List.mem_singleton.mp hr
            exact refusal
        · exact List.mem_append_right _ (List.mem_cons_of_mem _ (ends ▸ List.mem_singleton_self _))
    · refine refused.proceed other nofun fun y hy number => ?_
      have kept : y ∈ x :: h.callers.eraseIdx i := (Scene.perm_of_getElem? found).mem_iff.mp hy
      exact (List.mem_cons.mp kept).resolve_left fun same => other (same ▸ number)
  | @beginClose i s waiting pool =>
    refine ⟨refused.results, refused.goes_on.imp_right ?_⟩
    rintro ⟨y, hy, number, waits⟩
    obtain ⟨x, hx, number', program⟩ := exists_mem_modify_beginClose hy
    exact ⟨x, hx, number'.trans number, program.trans waits⟩

theorem Refused.append {size : Nat} {moves : List Move}
    (h : (after size moves).Refused n operation c) (later : List Move) :
    (after size (moves ++ later)).Refused n operation c := by
  induction later using List.reverseRecOn with
  | nil => rwa [List.append_nil]
  | append_singleton later m ih =>
    have sound := sound_after size (moves ++ later)
    rw [← List.append_assoc, after_concat]
    exact ih.change sound (step_change sound m)

/-- A call whose channel has come too late is refused. -/
theorem Opens.refused (opens : h.Opens i x c) (sound : h.Sound)
    (late : ClosedSince x.number h.past) :
    (h.step (.reply i (.opened c))).Refused x.number x.call.operation c := by
  rw [opens.step_late sound late]
  let waits : Caller := ⟨x.number, x.call, (Stage.discarding x.call.operation c).thread⟩
  refine ⟨fun result hr => ?_, .inr ⟨waits, List.mem_append_right _ ?_, rfl, rfl⟩⟩
  · obtain hr | hr := ended_mem_later hr nofun
    · exact absurd rfl ((sound.ended _ result hr).2 x (List.mem_of_getElem? opens.found))
    · exact absurd hr (ended_not_mem_news (.discarding _ _))
  · exact List.mem_singleton_self _

end Chronicle

/-! ### Who is refused -/

/-- In these moves, the call with a number has been given a channel after a close had begun that the
call had not seen when it asked. -/
def Late (size : Nat) (moves : List Move) (n : Nat) : Prop :=
  ∃ earlier i x c later, moves = earlier ++ .reply i (.opened c) :: later ∧
    (Chronicle.after size earlier).Opens i x c ∧ x.number = n ∧
      ClosedSince n (Chronicle.after size earlier).past

theorem Late.append {size n : Nat} {moves : List Move} (h : Late size moves n)
    (more : List Move) : Late size (moves ++ more) n := by
  obtain ⟨earlier, i, x, c, later, rfl, opens, late⟩ := h
  exact ⟨earlier, i, x, c, later ++ more, by rw [List.append_assoc, List.cons_append], opens, late⟩

/-- A call that waits for a channel or for several closes closes no channel itself. -/
theorem closesNow_waits (st : Stage) (none : closesNow st.program = []) :
    ∀ t ∈ waits st.program, closesNow t.program = [] := by
  rw [waits_program]
  intro t ht
  cases List.mem_singleton.mp ht
  exact none

theorem Filling.blameless {p : Pool} {rounds n : Nat} {q : Act (Option ChannelId)}
    (h : Filling p rounds q) : (∀ t ∈ waits q, closesNow t.program = []) ∧
      ∀ m e, .ended m (.error e) ∉ news n q := by
  cases h with
  | done => exact ⟨List.forall_mem_nil _, by simp [news]⟩
  | more => exact ⟨closesNow_waits (.filling _ _) rfl, fun _ _ => ended_not_mem_news (.filling _ _)⟩

/-- A call that begins closes no channel itself, and it does not fail. -/
theorem Begun.blameless {p : Pool} {call : Call} {n : Nat} {r : Act (Option ChannelId) × Pool}
    (h : Begun p call r) : (∀ t ∈ waits r.1, closesNow t.program = []) ∧
      ∀ m e, .ended m (.error e) ∉ news n r.1 := by
  cases h with
  | lent | closed | released => exact ⟨List.forall_mem_nil _, by simp [news]⟩
  | growing => exact ⟨closesNow_waits (.growing _) rfl, fun _ _ => ended_not_mem_news (.growing _)⟩
  | closing => exact ⟨closesNow_waits (.closing _) rfl, fun _ _ => ended_not_mem_news (.closing _)⟩
  | filling left => exact left.blameless

/-- A call that has been replied to closes a channel itself if it was given the channel too late,
and is not connected after that only. -/
theorem Answered.blames {p : Pool} {st : Stage} {reply : Reply} {n : Nat}
    {r : Act (Option ChannelId) × Pool} (h : Answered p st reply r) :
    (∀ t ∈ waits r.1, closesNow t.program ≠ [] → ∃ g call c, reply = .opened c ∧
      st.Opens g call ∧ p.generation ≠ g) ∧
    ∀ m operation, .ended m (.error (.notConnected operation)) ∈ news n r.1 →
      closesNow st.program ≠ [] := by
  cases h with
  | lent | closed => exact ⟨List.forall_mem_nil _, by simp [news]⟩
  | filled left =>
    obtain ⟨none, succeeds⟩ := left.blameless
    exact ⟨fun t ht closes => absurd (none t ht) closes,
      fun m _ ended => absurd ended (succeeds m _)⟩
  | late opens later =>
    exact ⟨fun _ _ _ => ⟨_, _, _, rfl, opens, later⟩,
      fun _ _ ended => absurd ended (ended_not_mem_news (.discarding _ _))⟩
  | @unopened _ _ _ e opens =>
    refine ⟨List.forall_mem_nil _, fun m operation ended => ?_⟩
    simp only [news, List.mem_singleton, Event.ended.injEq, Except.error.injEq] at ended
    obtain ⟨-, failed⟩ := ended
    rw [openFailure] at failed
    split at failed
    · cases failed
    · rename_i passes
      exact absurd (failed ▸ rfl) passes
  | discarded | undiscarded => exact ⟨List.forall_mem_nil _, fun _ _ _ => List.cons_ne_nil _ _⟩

namespace Chronicle

/-- A call that waits for one channel to be closed or that is not connected has been given its
channel too late. -/
structure Blames (size : Nat) (moves : List Move) (h : Chronicle) : Prop where
  waits : ∀ x ∈ h.callers, closesNow x.thread.program ≠ [] → Late size moves x.number
  ended : ∀ n operation, .ended n (.error (.notConnected operation)) ∈ h.past → Late size moves n

theorem Blames.change {size : Nat} {moves : List Move} {m : Move}
    (blames : Blames size moves (after size moves))
    (change : (after size moves).Change m h') : Blames size (moves ++ [m]) h' := by
  have waited {x} (hx : x ∈ (after size moves).callers)
      (closes : closesNow x.thread.program ≠ []) : Late size (moves ++ [m]) x.number :=
    (blames.waits x hx closes).append _
  have failed {n operation}
      (hn : .ended n (.error (.notConnected operation)) ∈ (after size moves).past) :
      Late size (moves ++ [m]) n :=
    (blames.ended n operation hn).append _
  cases change with
  | same => exact ⟨fun x => waited, fun n operation => failed⟩
  | @began call r s begun waiting generation =>
    refine ⟨fun x hx closes => ?_, fun n operation hn => ?_⟩
    · obtain hx | hx := List.mem_append.mp hx
      · exact waited hx closes
      · obtain ⟨t, ht, rfl⟩ := List.mem_map.mp hx
        exact absurd ((begun.blameless (n := 0)).1 t ht) closes
    · obtain hn | hn := ended_mem_later hn nofun
      · exact failed hn
      · exact absurd hn (begun.blameless.2 n _)
  | @replied i x reply r s st found program suits fresh turn waiting pool =>
    have answered := answered_of_turn turn
    have mem := List.mem_of_getElem? found
    refine ⟨fun y hy closes => ?_, fun n operation hn => ?_⟩
    · obtain hy | hy := List.mem_append.mp hy
      · exact waited (List.eraseIdx_subset hy) closes
      · obtain ⟨t, ht, rfl⟩ := List.mem_map.mp hy
        obtain ⟨g, call, c, rfl, opens, later⟩ := (answered.blames (n := 0)).1 t ht closes
        cases suits with
        | opens opens' count =>
          obtain ⟨rfl, -⟩ := opens.unique opens'
          have since : 0 < closesSince x.number (after size moves).past := by omega
          have new := fresh c (List.mem_singleton_self c)
          exact ⟨moves, i, x, c, [], rfl, ⟨found, opens.awaitsChannel program, new⟩, rfl,
            closedSince_iff.mpr since⟩
        | discarding | closing => cases opens
    · obtain hn | hn := ended_mem_later hn nofun
      · exact failed hn
      · obtain ⟨rfl, -⟩ := ended_mem_news hn
        exact waited mem (program ▸ answered.blames.2 _ _ hn)
  | @beginClose i s waiting pool =>
    refine ⟨fun x hx closes => ?_, fun n operation => failed⟩
    obtain ⟨y, hy, number, -, program, -⟩ := mem_modify_beginClose hx
    rw [number]
    exact waited hy (program ▸ closes)

theorem blames_after (size : Nat) (moves : List Move) : Blames size moves (after size moves) := by
  induction moves using List.reverseRecOn with
  | nil => constructor <;> simp [after]
  | append_singleton moves m ih =>
    rw [after_concat]
    exact ih.change (step_change (sound_after size moves) m)

end Chronicle

/-! ### Closes separate openings -/

/-- A channel that comes too late is shut out. -/
theorem Chronicle.Opens.shutOut {size : Nat} {earlier : List Move} {i : Nat} {x : Caller}
    {c : ChannelId} (opens : (after size earlier).Opens i x c)
    (late : ClosedSince x.number (after size earlier).past) :
    (Scene.after size (earlier ++ [.reply i (.opened c)])).ShutOut c := by
  have sound := sound_after size earlier
  rw [← scene_after, after_concat, opens.step_late sound late]
  have new := opens.new
  rw [scene_after] at new ⊢
  obtain ⟨out, unclaimed⟩ := Scene.unknown_of_new size earlier new
  rw [Scene.Claimed, not_or] at unclaimed
  refine ⟨List.mem_append_right _ (List.mem_singleton_self c), out, ?_, fun t ht => ?_⟩
  · change ((Scene.after size earlier).closed ++ [c]).count c = 1
    rw [List.count_append, List.count_eq_zero.mpr unclaimed.1, List.count_singleton_self]
  · obtain ht | ht := List.mem_append.mp ht
    · exact fun mem => unclaimed.2 ⟨t, List.eraseIdx_subset ht, mem⟩
    · rw [List.mem_singleton.mp ht]
      exact List.not_mem_nil

/-- The pool has a channel, or it counts it among those in use. -/
def Scene.Has (s : Scene) (c : ChannelId) : Prop :=
  c ∈ s.pool.channels ∨ c ∈ s.pool.inUse

theorem Scene.not_has {size : Nat} {moves : List Move} {c : ChannelId}
    (out : c ∉ (after size moves).pool.channels) : ¬ (after size moves).Has c := by
  rintro (inside | used)
  · exact out inside
  · exact out (((lending_after size moves).mem_inUse c).mp used).1

/-- A channel that comes too late is in the pool at no time. -/
theorem Chronicle.Opens.not_has {size : Nat} {earlier later moves : List Move} {i : Nat}
    {x : Caller} {c : ChannelId} (opens : (after size earlier).Opens i x c)
    (late : ClosedSince x.number (after size earlier).past)
    (part : moves <+: earlier ++ .reply i (.opened c) :: later) :
    ¬ (Scene.after size moves).Has c := by
  have new := opens.new
  rw [scene_after] at new
  obtain ⟨rest, whole⟩ := part
  obtain ⟨between, rfl, -⟩ | ⟨between, rfl, after⟩ := List.append_eq_append_iff.mp whole
  · exact Scene.not_has
      (Scene.unknown_of_new size moves fun known => new (Scene.opened_append known between)).1
  · cases between with
    | nil =>
      rw [List.append_nil]
      exact Scene.not_has (Scene.unknown_of_new size earlier new).1
    | cons m between =>
      obtain ⟨rfl, -⟩ := List.cons.inj after
      rw [List.append_cons]
      exact Scene.not_has ((opens.shutOut late).append between).out

/-- Only a close that begins while a channel is being opened keeps the channel from the pool,
however calls overlap. A channel that comes after such a close is in the pool at no time, `close` is
called on it just once, however this ends, and its call fails as not connected, unless the close of
the channel is cancelled and the cancellation passes. Any other channel joins the pool at once, in
use where it is lent. A call that is not connected has been given a channel too late, and no call
ends twice. -/
theorem closes_separate_openings (size : Nat) :
    (∀ earlier i x c later, (Chronicle.after size earlier).Opens i x c →
      ClosedSince x.number (Chronicle.after size earlier).past →
      (∀ moves, moves <+: earlier ++ .reply i (.opened c) :: later →
        ¬ (Scene.after size moves).Has c) ∧
      (Scene.after size (earlier ++ .reply i (.opened c) :: later)).closed.count c = 1 ∧
      (Chronicle.after size (earlier ++ .reply i (.opened c) :: later)).Refused x.number
        x.call.operation c) ∧
    (∀ earlier i x c, (Chronicle.after size earlier).Opens i x c →
      ¬ ClosedSince x.number (Chronicle.after size earlier).past →
      (Chronicle.after size earlier).Joined
        (Chronicle.after size (earlier ++ [.reply i (.opened c)])) x c) ∧
    (∀ moves n operation,
      .ended n (.error (.notConnected operation)) ∈ (Chronicle.after size moves).past →
        Late size moves n) ∧
    ∀ moves n result result', .ended n result ∈ (Chronicle.after size moves).past →
      .ended n result' ∈ (Chronicle.after size moves).past → result = result' := by
  refine ⟨fun earlier i x c later opens late => ?_, fun earlier i x c opens timely => ?_,
    fun moves => (Chronicle.blames_after size moves).ended,
    fun moves => (Chronicle.sound_after size moves).ended_once⟩
  · have shut := (opens.shutOut late).append later
    have refused := opens.refused (Chronicle.sound_after size earlier) late
    rw [← Chronicle.after_concat] at refused
    refine ⟨fun moves part => opens.not_has late part, ?_⟩
    rw [List.append_cons]
    exact ⟨shut.closed_once, refused.append later⟩
  · rw [Chronicle.after_concat]
    exact opens.joined (Chronicle.sound_after size earlier) timely

/-- A channel is being opened for a loan when the pool is closed. -/
def closedWhileOpening : List Move :=
  [.begin .acquire, .begin .close]

/-- The call that waits for the channel. -/
def borrower : Caller :=
  ⟨0, .acquire, (Stage.growing 0).thread⟩

theorem opens_borrower : (Chronicle.after 1 closedWhileOpening).Opens 0 borrower ⟨1⟩ :=
  ⟨rfl, rfl, List.not_mem_nil⟩

theorem closedSince_borrower :
    ClosedSince borrower.number (Chronicle.after 1 closedWhileOpening).past :=
  ⟨1, List.mem_cons_self⟩

theorem close_separates_borrower :
    (Chronicle.after 1 closedWhileOpening).Opens 0 borrower ⟨1⟩ ∧
      ClosedSince borrower.number (Chronicle.after 1 closedWhileOpening).past ∧
      (Scene.after 1
        (closedWhileOpening ++ [.reply 0 (.opened ⟨1⟩), .reply 0 .closed])).closed.count ⟨1⟩ = 1 ∧
      (Chronicle.after 1
        (closedWhileOpening ++ [.reply 0 (.opened ⟨1⟩), .reply 0 .closed])).Refused 0
          "acquire a publisher channel" ⟨1⟩ :=
  ⟨opens_borrower, closedSince_borrower, ((closes_separate_openings 1).1 closedWhileOpening 0
    borrower ⟨1⟩ [.reply 0 .closed] opens_borrower closedSince_borrower).2⟩

/-- It is not true that a call whose channel has come too late always fails as not connected: a
cancellation of the close of the channel passes through it. -/
theorem cancelled_close_passes :
    ¬ ∀ (size : Nat) (earlier : List Move) (i : Nat) (x : Caller) (c : ChannelId)
      (later : List Move), (Chronicle.after size earlier).Opens i x c →
      ClosedSince x.number (Chronicle.after size earlier).past →
      ∀ result, .ended x.number result ∈
        (Chronicle.after size (earlier ++ .reply i (.opened c) :: later)).past →
          result = .error (.notConnected x.call.operation) := by
  intro refuses
  have ended : .ended 0 (.error (.fault .cancelled "stop")) ∈ (Chronicle.after 1
      (closedWhileOpening ++ [.reply 0 (.opened ⟨1⟩),
        .reply 0 (.failed (.fault .cancelled "stop"))])).past :=
    List.mem_of_getElem? (i := 6) rfl
  have refused := refuses 1 closedWhileOpening 0 borrower ⟨1⟩ _ opens_borrower closedSince_borrower
    _ ended
  cases refused

end BrokerClient.Channel.Pool
