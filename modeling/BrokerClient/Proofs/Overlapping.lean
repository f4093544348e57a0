import BrokerClient.Proofs.Handling
import BrokerClient.Proofs.Mirroring
import Mathlib.Algebra.BigOperators.Group.Finset.Basic
import Mathlib.Data.Fintype.BigOperators

/-!
# Deliveries that overlap

A consumer may have taken several deliveries before the first of them is settled. They take turns:
in its turn a delivery goes on from the reply to its last request up to its next one, and nothing
else runs meanwhile. All of them count with the same counters, look into the same registry and run
their handlers by the jobs in the same table, which each of them fills. In between others may do
anything else to the client.

The handlers share no state. What is replied to the requests of a delivery depends on this delivery
alone, and nobody else touches the registry, the counters, the settings or the jobs of the consumer.
The jobs in the table are the only thing that deliveries notice of each other. A delivery runs a
handler by the job that it finds right after it has seen to it that there is one, and what the table
holds then it holds in the end. So a delivery asks for what it asks for when it is alone in a state
in which handlers have the stand-ins that they have in the end (`Client.Unaltered`), and whatever
the order of turns was, the counters have grown by what each delivery adds to them when it is alone.

The state at the beginning is one of these if those handlers of the events delivered that are equal
have one stand-in from the beginning (`Client.Concordant`), as is the case if no two objects are
equal: whichever delivery is the first to keep a job for a handler, no stand-in becomes another one.

## Main definitions

* `Client.Due`, `Client.Concordant` — the handlers of what is delivered, and how equal ones are run.
* `Client.Unaltered` — what deliveries rely on.
* `Client.Onward` — what deliveries do to the consumer, but for its counters.
* `Client.Replies`, `Client.alone` — what is replied to a delivery, and its course when it is alone.
* `Client.Overlap`, `Client.Overlap.turn` — deliveries that take turns.
* `Client.Overlap.Underway` — deliveries that lead on.
* `Client.Overlap.Fits` — a delivery as far as it has got when it is alone.

## Main results

* `Program.Mirrors.advance` — a piece of a program, beside others and alone.
* `Client.Overlap.Underway.turns` — deliveries lead on, whatever the order of turns.
* `Client.Overlap.overlap_as_alone` — overlapping deliveries do what each of them does alone.
-/

namespace BrokerClient

open Broker Event Retry

/-! ### Counters -/

namespace ConsumerStats

instance : Zero ConsumerStats :=
  ⟨{}⟩

instance : Neg ConsumerStats :=
  ⟨fun a => ⟨-a.received, -a.succeeded, -a.failed, -a.rejected⟩⟩

theorem zero_def : (0 : ConsumerStats) = {} :=
  rfl

theorem neg_def (a : ConsumerStats) :
    -a = ⟨-a.received, -a.succeeded, -a.failed, -a.rejected⟩ :=
  rfl

/-- Counters are added and subtracted one by one. -/
instance : AddCommGroup ConsumerStats where
  add_assoc a b c := by simp only [add_def, Int.add_assoc]
  zero_add a := by simp only [add_def, zero_def, Int.zero_add]
  add_zero a := by simp only [add_def, zero_def, Int.add_zero]
  add_comm a b := by simp only [add_def, Int.add_comm]
  neg_add_cancel a := by simp only [add_def, neg_def, zero_def, Int.add_left_neg]
  sub_eq_add_neg a b := by simp only [add_def, neg_def, sub_def, Int.sub_eq_add_neg]
  nsmul := nsmulRec
  zsmul := zsmulRec

end ConsumerStats

namespace Client

/-- A handler that can be hashed, of an event that is delivered. -/
def Due {ι : Type} (r : Nat) (s : Client) (ds : ι → Delivery) (h : Handler) : Prop :=
  h.unhashable = none ∧ ∃ k e, Envelope.ofBytes (ds k).fresh (ds k).body = .ok e ∧
    h ∈ (s.registries r).handlers e.eventType

/-- Handlers that are equal are run by one job. -/
def Concordant (i : Nat) (runs : Handler → Prop) (s : Client) : Prop :=
  ∀ g h, runs g → runs h → g == h → (s.consumers i).standIn g = (s.consumers i).standIn h

/-- For deliveries a state is as another one: in the settings of the consumer, in its registry, and
in the stand-ins of the handlers that they run. -/
structure Unaltered (i r : Nat) (runs : Handler → Prop) (s s' : Client) : Prop where
  settings : (s'.consumers i).settings = (s.consumers i).settings
  registry : s'.registries r = s.registries r
  standIn : ∀ h, runs h → (s'.consumers i).standIn h = (s.consumers i).standIn h

/-- A state later on, if nobody but deliveries has used the consumer since: its settings and its
registry are as they were, and at most it keeps more jobs. -/
structure Onward (i r : Nat) (runs : Handler → Prop) (s s' : Client) : Prop where
  settings : (s'.consumers i).settings = (s.consumers i).settings
  registry : s'.registries r = s.registries r
  later : (s.consumers i).Later runs (s'.consumers i)

/-- A change adds to the counters. -/
def Contributes (i : Nat) (n : ConsumerStats) (c : Client → Client) : Prop :=
  ∀ s, ((c s).consumers i).stats = (s.consumers i).stats + n

/-- A state on the way to `last` and one in which everything is as in `last` are alike for a
delivery. It adds to counters, keeps jobs that are kept in `last`, and settles nothing but its own
message. -/
def upToCounters (i r : Nat) (runs : Handler → Prop) (last : Client) (messageId : Option String) :
    Likeness requests Client where
  states s s' := Onward i r runs s last ∧ Unaltered i r runs last s'
  changes c c' := ∃ n, Contributes i n c ∧ Contributes i n c' ∧
    ∀ s s', Onward i r runs (c s) last → Unaltered i r runs last s' →
      Unaltered i r runs last (c' s')
  asks q := ∀ m x, settlementOf q = some (m, x) → m = messageId

/-- States with one registry, and changes that lead on. -/
def leadingOn (i r : Nat) (runs : Handler → Prop) (registry : Registry) :
    Likeness requests Client where
  states s s' := s = s' ∧ s.registries r = registry
  changes c _ := ∀ s, Onward i r runs s (c s)
  asks _ := True

section Sharing

variable {i r : Nat} {runs : Handler → Prop} {s s' s'' : Client} {h : Handler}

theorem Unaltered.refl (s : Client) : Unaltered i r runs s s :=
  ⟨rfl, rfl, fun _ _ => rfl⟩

/-- A consumer changes nothing for deliveries that leaves its settings and the stand-ins. -/
theorem Unaltered.modify (u : Unaltered i r runs s s') {f : Consumer → Consumer}
    (settings : (f (s'.consumers i)).settings = (s'.consumers i).settings)
    (standIn : ∀ h, runs h → (f (s'.consumers i)).standIn h = (s'.consumers i).standIn h) :
    Unaltered i r runs s ((consumerPart i).modify f s') where
  settings := by
    rw [← u.settings, ← settings]
    simp
  registry := u.registry
  standIn h due := by
    rw [← u.standIn h due, ← standIn h due]
    simp

theorem Onward.refl (s : Client) : Onward i r runs s s :=
  ⟨rfl, rfl, .refl _⟩

theorem Onward.trans (h : Onward i r runs s s') (h' : Onward i r runs s' s'') :
    Onward i r runs s s'' :=
  ⟨h'.settings.trans h.settings, h'.registry.trans h.registry, h.later.trans h'.later⟩

theorem onward_modify {f : Consumer → Consumer}
    (settings : ∀ c : Consumer, (f c).settings = c.settings)
    (later : ∀ c : Consumer, c.Later runs (f c)) (s : Client) :
    Onward i r runs s ((consumerPart i).modify f s) where
  settings := by simp [settings]
  registry := rfl
  later := by simpa using later (s.consumers i)

theorem onward_keep (due : runs h) (s : Client) :
    Onward i r runs s ((consumerPart i).modify (Consumer.keep h) s) :=
  onward_modify (Consumer.settings_keep h)
    (fun c => (Consumer.later_keep h c).mono fun _ eq => eq ▸ due) s

/-- If equal handlers had one stand-in, nothing has become other for deliveries. -/
theorem Onward.unaltered (onward : Onward i r runs s s') (concordant : Concordant i runs s) :
    Unaltered i r runs s' s where
  settings := onward.settings.symm
  registry := onward.registry.symm
  standIn h due := by
    refine (onward.later.standIn_eq fun g other equal => ?_).symm
    exact concordant g h other due (BEq.symm equal)

theorem contributes_count {f : ConsumerStats → ConsumerStats} {n : ConsumerStats}
    (hf : ∀ m, f m = m + n) : Contributes i n ((consumerPart i).modify (Consumer.count f)) := by
  intro s
  simp [Consumer.count, hf]

theorem contributes_keep (h : Handler) :
    Contributes i 0 ((consumerPart i).modify (Consumer.keep h)) := by
  intro s
  simp

theorem exists_kept_modify (i : Nat) (h : Handler) (s : Client) :
    ∃ g ∈ (((consumerPart i).modify (Consumer.keep h) s).consumers i).kept, h == g := by
  simpa using Consumer.exists_kept_keep h (s.consumers i)

theorem blurs_upToCounters (i r : Nat) (runs : Handler → Prop) (last : Client)
    (messageId : Option String) :
    (site i r).Blurs messageId runs (upToCounters i r runs last messageId) where
  settings _ _ alike := (alike.2.settings.trans alike.1.settings).symm
  registry _ _ alike := (alike.2.registry.trans alike.1.registry).symm
  standIns h due s s' alike := by
    have kept := alike.1.later.standIn_of_kept (exists_kept_modify i h s)
    exact ((alike.2.standIn h due).trans kept).symm
  keeps h due := by
    refine ⟨0, contributes_keep h, contributes_keep h, fun s s' onward u => ?_⟩
    refine u.modify (Consumer.settings_keep h _) fun g other =>
      Consumer.standIn_keep fun equal => ?_
    -- in the end a job is kept for both, which is that of one handler
    rw [u.standIn g other, u.standIn h due]
    exact Consumer.standIn_congr equal (onward.later.exists_kept (exists_kept_modify i h s))
  counts f d hf := ⟨d, contributes_count hf, contributes_count hf, fun _ _ _ u =>
    u.modify rfl fun _ _ => rfl⟩
  handles _ _ _ _ own := by cases own
  sleeps _ _ _ own := by cases own
  settles _ _ _ own := by
    cases own
    rfl

theorem blurs_leadingOn (i r : Nat) (runs : Handler → Prop) (registry : Registry)
    (messageId : Option String) :
    (site i r).Blurs messageId runs (leadingOn i r runs registry) where
  settings _ _ alike := by rw [alike.1]
  registry _ _ alike := by rw [alike.1]
  standIns _ _ _ _ alike := by rw [alike.1]
  keeps _ due := onward_keep due
  counts f _ _ := onward_modify (fun _ => rfl) fun c => Consumer.later_count f c
  handles _ _ := trivial
  sleeps _ := trivial
  settles _ := trivial

end Sharing

end Client

/-! ### Pieces of programs -/

namespace Program

section Steps

variable {S : Signature} {σ α : Type} {I : σ → Prop} {R : σ → σ → Prop}

/-- From a state on, each change that a program makes is a step as `R` says. After a request the
program goes on from any state as `I` says. -/
def Ascends (I : σ → Prop) (R : σ → σ → Prop) : Program S σ α → σ → Prop
  | done _, _ | fail _, _ => True
  | read k, s => (k s).Ascends I R s
  | update c p, s => R s (c s) ∧ p.Ascends I R (c s)
  | emit _ p, s => p.Ascends I R s
  | call _ k, _ => ∀ reply s, I s → (k reply).Ascends I R s

variable {p p' : Program S σ α} {s : σ}

theorem Mirrors.ascends {l : Likeness S σ} (h : p.Mirrors l p') (same : ∀ s, I s → l.states s s)
    (steps : ∀ c c', l.changes c c' → ∀ s, I s → R s (c s) ∧ I (c s)) (start : I s) :
    p.Ascends I R s := by
  induction h generalizing s with
  | done a | fail e => trivial
  | read _ ih => exact ih s s (same s start) start
  | update alike _ ih =>
    obtain ⟨step, start⟩ := steps _ _ alike s start
    exact ⟨step, ih start⟩
  | look alike _ ih =>
    obtain ⟨step, start⟩ := steps _ _ alike s start
    exact ⟨step, ih s _ (same _ start) start⟩
  | emit _ _ ih | aside _ _ ih | aside' _ _ ih => exact ih start
  | call _ _ ih => exact fun reply s start => ih reply start

/-- A piece of a program is one step, if steps one after another are. -/
theorem Ascends.step (h : p.Ascends I R s) (refl : ∀ s, R s s)
    (trans : ∀ {s s' s''}, R s s' → R s' s'' → R s s'') : R s (p.advance (fun _ => none) s).2 := by
  induction p generalizing s with
  | done a | fail e | call r k => exact refl s
  | read k ih => exact ih s h
  | update c p ih => exact trans h.1 (ih h.2)
  | emit x p ih => exact ih h

/-- What is left after a piece of a program goes on from any state. -/
theorem Ascends.left (h : p.Ascends I R s) (s' : σ) :
    (p.advance (fun _ => none) s).1.Ascends I R s' := by
  induction p generalizing s with
  | done a | fail e => trivial
  | read k ih => exact ih s h
  | update c p ih => exact ih h.2
  | emit x p ih => exact ih h
  | call r k => exact h

end Steps

variable {i r : Nat} {runs : Handler → Prop} {messageId : Option String}
  {l : Likeness requests Client}

/-- From each state on the way to the end of a piece, what comes after the piece is reached. -/
theorem Ascends.onward {p : Act Client Unit} {I : Client → Prop} {s last : Client}
    (ascends : p.Ascends I (Client.Onward i r runs) s)
    (onward : Client.Onward i r runs (p.advance (fun _ => none) s).2 last) :
    Client.Onward i r runs s last :=
  (ascends.step .refl .trans).trans onward

/-- Two programs that have come to the same end or to the same request, and that do the same from
there on. -/
inductive Meets (l : Likeness requests Client) : Act Client Unit → Act Client Unit → Prop
  | done : Meets l (done ()) (done ())
  | fail (e : Error) : Meets l (fail e) (fail e)
  | call {r k k'} (may : l.asks r) (next : ∀ reply, (k reply).Mirrors l (k' reply)) :
    Meets l (call r k) (call r k')

/-- How far a piece of a program gets from a state beside others, and how far a program that mirrors
it gets alone. They come to the same request or to the same end, in states that are alike, and count
the same. -/
structure InStep (l : Likeness requests Client) (i : Nat) (env : Client.Surroundings)
    (p p' : Act Client Unit) (s : Client) (w w' : Client.Course) (n : ConsumerStats) : Prop where
  meets : ∃ q', Meets l (p.advance (fun _ => none) s).1 q' ∧
    q'.run env.host Course.statePart w' = p'.run env.host Course.statePart w
  answers : w'.answers = w.answers
  alike : l.states (p.advance (fun _ => none) s).2 w'.state
  counts : ((p.advance (fun _ => none) s).2.consumers i).stats = (s.consumers i).stats + n
  counts' : (w'.state.consumers i).stats = (w.state.consumers i).stats + n

namespace InStep

variable {env : Client.Surroundings} {p p' : Act Client Unit} {s : Client} {w w' : Client.Course}
  {d n : ConsumerStats}

/-- A piece ends where it begins if there is a request or an end. -/
theorem here (alike : l.states s w.state) (meets : Meets l p p')
    (same : p.advance (fun _ => none) s = (p, s)) : InStep l i env p p' s w w 0 where
  meets := ⟨p', by rwa [same], rfl⟩
  answers := rfl
  alike := by rwa [same]
  counts := by rw [same, add_zero]
  counts' := (add_zero _).symm

theorem read {k k' : Client → Act Client Unit}
    (step : InStep l i env (k s) (k' w.state) s w w' n) :
    InStep l i env (read k) (read k') s w w' n :=
  ⟨step.meets, step.answers, step.alike, step.counts, step.counts'⟩

/-- What the piece beside others notes is for nobody to see. -/
theorem noted {x : Signal} (step : InStep l i env p p' s w w' n) :
    InStep l i env (emit x p) p' s w w' n :=
  ⟨step.meets, step.answers, step.alike, step.counts, step.counts'⟩

theorem noted' {x : Signal} (step : InStep l i env p p' s (w.note x) w' n) :
    InStep l i env p (emit x p') s w w' n :=
  ⟨step.meets, step.answers.trans (Course.answers_note w x), step.alike, step.counts, step.counts'⟩

theorem update {c c' : Client → Client} (contributes : Client.Contributes i d c)
    (contributes' : Client.Contributes i d c')
    (step : InStep l i env p p' (c s) (Course.statePart.modify c' w) w' n) :
    InStep l i env (update c p) (update c' p') s w w' (d + n) where
  meets := step.meets
  answers := step.answers
  alike := step.alike
  counts := by
    rw [← add_assoc, ← contributes s]
    exact step.counts
  counts' := by
    rw [← add_assoc, ← contributes' w.state]
    exact step.counts'

end InStep

/-- A piece of a program does beside others what a program that mirrors it does alone, given how it
ends for all of them. -/
theorem Mirrors.advance {last : Client} {p p' : Act Client Unit} {I : Client → Prop}
    (h : p.Mirrors (Client.upToCounters i r runs last messageId) p') (env : Client.Surroundings)
    {s : Client} {w : Client.Course} (ascends : p.Ascends I (Client.Onward i r runs) s)
    (onward : Client.Onward i r runs (p.advance (fun _ => none) s).2 last)
    (unaltered : Client.Unaltered i r runs last w.state) :
    ∃ w' n, InStep (Client.upToCounters i r runs last messageId) i env p p' s w w' n := by
  induction h generalizing s w with
  | done a => exact ⟨w, 0, .here ⟨onward, unaltered⟩ .done rfl⟩
  | fail e => exact ⟨w, 0, .here ⟨onward, unaltered⟩ (.fail e) rfl⟩
  | call may next => exact ⟨w, 0, .here ⟨onward, unaltered⟩ (.call may next) rfl⟩
  | read _ ih =>
    have reached := Ascends.onward ascends onward
    obtain ⟨w', n, step⟩ := ih _ _ ⟨reached, unaltered⟩ ascends onward unaltered
    exact ⟨w', n, step.read⟩
  | @update c c' _ _ changes _ ih =>
    obtain ⟨d, contributes, contributes', alike⟩ := changes
    have unaltered' := alike s w.state (Ascends.onward ascends.2 onward) unaltered
    obtain ⟨w', n, step⟩ := ih (w := Course.statePart.modify c' w) ascends.2 onward unaltered'
    exact ⟨w', d + n, step.update contributes contributes'⟩
  | @look c c' _ _ changes _ ih =>
    obtain ⟨d, contributes, contributes', alike⟩ := changes
    have reached := Ascends.onward ascends.2 onward
    have unaltered' := alike s w.state reached unaltered
    obtain ⟨w', n, step⟩ := ih s _ ⟨reached, unaltered'⟩ (w := Course.statePart.modify c' w)
      ascends.2 onward unaltered'
    exact ⟨w', d + n, .update contributes contributes' step.read⟩
  | @emit x _ _ _ ih =>
    obtain ⟨w', n, step⟩ := ih (w := w.note x) ascends onward unaltered
    exact ⟨w', n, step.noted'.noted⟩
  | aside _ _ ih =>
    obtain ⟨w', n, step⟩ := ih ascends onward unaltered
    exact ⟨w', n, step.noted⟩
  | @aside' x _ _ _ _ ih =>
    obtain ⟨w', n, step⟩ := ih (w := w.note x) ascends onward unaltered
    exact ⟨w', n, step.noted'⟩

end Program

namespace Client

/-! ### Deliveries that take turns -/

/-- What is replied to the requests of one delivery, given what has been replied to it before. -/
def Replies : Type :=
  List (Answer requests) → (q : Request) → Except Error q.Reply

/-- Surroundings in which there is one delivery only, and nobody else. -/
def Replies.surroundings (replies : Replies) : Client.Surroundings :=
  fun w q => (replies w.answers q, w.state)

/-- The result of a delivery that is alone, and its course. -/
def alone (i r : Nat) (s : Client) (d : Delivery) (replies : Replies) :
    Except Error Unit × Client.Course :=
  (receive i r d).run replies.surroundings.host Course.statePart { state := s }

/-- What a delivery adds to the counters of its consumer when it is alone. -/
def contribution (i r : Nat) (s : Client) (d : Delivery) (replies : Replies) : ConsumerStats :=
  ((alone i r s d replies).2.state.consumers i).stats - (s.consumers i).stats

/-- A delivery under way: what is left to do, and what has been asked for so far. -/
structure Undertaking where
  left : Act Client Unit
  asked : List (Answer requests) := []

/-- How a delivery has ended, if it has. -/
def Undertaking.ended (u : Undertaking) : Option (Except Error Unit) :=
  match u.left with
  | .done () => some (.ok ())
  | .fail e => some (.error e)
  | _ => none

/-- Deliveries side by side, some of which are under way. -/
structure Overlap (ι : Type) where
  state : Client
  under : ι → Option Undertaking := fun _ => none

/-- What may happen next: a delivery is taken or goes on, or others change the client. -/
inductive Turn (ι : Type)
  | take (k : ι)
  | meanwhile (change : Client → Client)

namespace Turn

variable {ι : Type}

/-- Whether a delivery is taken or goes on. -/
def takes [DecidableEq ι] (k : ι) : Turn ι → Bool
  | take j => j = k
  | meanwhile _ => false

/-- Others touch neither the counters, the settings and the jobs of a consumer nor its registry. -/
def Spares (i r : Nat) : Turn ι → Prop
  | take _ => True
  | meanwhile change => ∀ s, ((change s).consumers i).stats = (s.consumers i).stats ∧
      ((change s).consumers i).settings = (s.consumers i).settings ∧
      ((change s).consumers i).wrapped = (s.consumers i).wrapped ∧
      (change s).registries r = s.registries r

end Turn

namespace Overlap

variable {ι : Type} [DecidableEq ι]

/-- Goes on with a delivery up to its next request. -/
def proceed (k : ι) (left : Act Client Unit) (asked : List (Answer requests)) (x : Overlap ι) :
    Overlap ι :=
  let piece := left.advance (fun _ => none) x.state
  { state := piece.2, under := Function.update x.under k (some ⟨piece.1, asked⟩) }

/-- The turn of a delivery, which is taken or goes on from the reply to its last request, or of
others. -/
def turn (i r : Nat) (ds : ι → Delivery) (replies : ι → Replies) (x : Overlap ι) :
    Turn ι → Overlap ι
  | .meanwhile change => { x with state := change x.state }
  | .take k => match x.under k with
    | none => x.proceed k (receive i r (ds k)) []
    | some ⟨.call q next, asked⟩ =>
      let reply := replies k asked q
      x.proceed k (next reply) (asked ++ [⟨q, reply⟩])
    | some _ => x

/-- A delivery has been taken and has ended. -/
def finished (x : Overlap ι) (k : ι) : Bool :=
  (x.under k).any fun u => u.ended.isSome

omit [DecidableEq ι] in
theorem finished_iff {x : Overlap ι} {k : ι} :
    x.finished k ↔ ∃ u result, x.under k = some u ∧ u.ended = some result := by
  simp only [finished, Option.any_eq_true, Option.isSome_iff_exists, exists_and_left]

section Turns

variable {i r : Nat} {s : Client} {ds : ι → Delivery} {replies : ι → Replies} {x : Overlap ι}
  {k : ι}

theorem turn_none (h : x.under k = none) :
    x.turn i r ds replies (.take k) = x.proceed k (receive i r (ds k)) [] := by
  simp only [turn, h]

theorem turn_call {q : Request} {next : Except Error q.Reply → Act Client Unit}
    {asked : List (Answer requests)} (h : x.under k = some ⟨.call q next, asked⟩) :
    x.turn i r ds replies (.take k) =
      x.proceed k (next (replies k asked q)) (asked ++ [⟨q, replies k asked q⟩]) := by
  simp only [turn, h]

theorem turn_ended {u : Undertaking} (h : x.under k = some u) (ended : u.ended.isSome) :
    x.turn i r ds replies (.take k) = x := by
  obtain ⟨left, asked⟩ := u
  cases left with
  | done | fail => simp only [turn, h]
  | read | update | emit | call => cases ended

theorem turn_of_ne {j : ι} (other : j ≠ k) :
    (x.turn i r ds replies (.take j)).under k = x.under k := by
  unfold turn
  dsimp only
  split
  · exact Function.update_of_ne other.symm _ _
  · exact Function.update_of_ne other.symm _ _
  · rfl

/-! ### Leading on -/

/-- The registry is as it was, and whatever is left to do of a delivery leads on as long as the
registry stays so. -/
structure Underway (i r : Nat) (s : Client) (ds : ι → Delivery) (x : Overlap ι) : Prop where
  registry : x.state.registries r = s.registries r
  ascends : ∀ k u, x.under k = some u → ∀ t, u.left.Ascends
    (fun t => t.registries r = s.registries r) (Onward i r (Due r s ds)) t

omit [DecidableEq ι] in
/-- As long as the registry is as it was, a delivery runs handlers that are due. -/
theorem receive_mirrors {l : Likeness requests Client} (k : ι)
    (blurs : (site i r).Blurs (ds k).messageId (Due r s ds) l)
    (registry : ∀ t t', l.states t t' → t'.registries r = s.registries r) :
    (receive i r (ds k)).Mirrors l (receive i r (ds k)) := by
  refine Consumer.receive_mirrors blurs _ _ fun e decoded t t' alike h registered hashable => ?_
  exact ⟨hashable, k, e, decoded, registry t t' alike ▸ registered⟩

omit [DecidableEq ι] in
theorem ascends_receive (k : ι) {t : Client} (registry : t.registries r = s.registries r) :
    (receive i r (ds k)).Ascends (fun t => t.registries r = s.registries r)
      (Onward i r (Due r s ds)) t := by
  have mirrors := receive_mirrors k (blurs_leadingOn i r (Due r s ds) (s.registries r) _)
    fun _ _ alike => alike.1 ▸ alike.2
  refine mirrors.ascends (fun _ same => ⟨rfl, same⟩) (fun c _ leads t same => ?_) registry
  exact ⟨leads t, (leads t).registry.trans same⟩

theorem Underway.proceed (h : Underway i r s ds x) {left : Act Client Unit}
    (ascends : left.Ascends (fun t => t.registries r = s.registries r) (Onward i r (Due r s ds))
      x.state) (asked : List (Answer requests)) :
    Underway i r s ds (x.proceed k left asked) ∧
      Onward i r (Due r s ds) x.state (x.proceed k left asked).state := by
  have onward := ascends.step .refl .trans
  refine ⟨⟨onward.registry.trans h.registry, fun j u under t => ?_⟩, onward⟩
  obtain rfl | other := eq_or_ne j k
  · simp only [Overlap.proceed, Function.update_self, Option.some.injEq] at under
    subst under
    exact ascends.left t
  · simp only [Overlap.proceed, Function.update_of_ne other] at under
    exact h.ascends j u under t

theorem Underway.turn (h : Underway i r s ds x) (replies : ι → Replies) {t : Turn ι}
    (spares : t.Spares i r) :
    Underway i r s ds (x.turn i r ds replies t) ∧
      Onward i r (Due r s ds) x.state (x.turn i r ds replies t).state := by
  cases t with
  | meanwhile change =>
    obtain ⟨-, settings, wrapped, registry⟩ := spares x.state
    refine ⟨⟨registry.trans h.registry, h.ascends⟩, settings, registry, ?_, [], ?_, ?_⟩
    · exact (congrArg Consumer.schedule settings :)
    · rw [List.append_nil]
      exact congrArg (List.map Prod.fst) wrapped
    · exact List.forall_mem_nil _
  | take k =>
    cases under : x.under k with
    | none =>
      rw [turn_none under]
      exact h.proceed (ascends_receive k h.registry) _
    | some u =>
      obtain ⟨left, asked⟩ := u
      cases left with
      | call q next =>
        rw [turn_call under]
        exact h.proceed (h.ascends k _ under x.state _ x.state h.registry) _
      | done | fail | read | update | emit =>
        have same : x.turn i r ds replies (.take k) = x := by simp only [Overlap.turn, under]
        rw [same]
        exact ⟨h, .refl _⟩

theorem Underway.turns (h : Underway i r s ds x) (replies : ι → Replies) (turns : List (Turn ι))
    (spare : ∀ t ∈ turns, t.Spares i r) :
    Underway i r s ds (turns.foldl (Overlap.turn i r ds replies) x) ∧
      Onward i r (Due r s ds) x.state (turns.foldl (Overlap.turn i r ds replies) x).state := by
  induction turns generalizing x with
  | nil => exact ⟨h, .refl _⟩
  | cons t turns ih =>
    obtain ⟨spares, spare⟩ := List.forall_mem_cons.mp spare
    obtain ⟨underway, onward⟩ := h.turn replies spares
    obtain ⟨underway', onward'⟩ := ih underway spare
    exact ⟨underway', onward.trans onward'⟩

omit [DecidableEq ι] in
theorem underway_start : Underway i r s ds { state := s } where
  registry := rfl
  ascends _ _ h := by cases h

/-! ### As far as alone -/

/-- A delivery that is alone from `s` has come to a course from which `p` is left to do. It has
settled nothing but its own message and has counted `n`, and all else is as in `last`. -/
structure Halfway (i r : Nat) (runs : Handler → Prop) (last s : Client) (d : Delivery)
    (replies : Replies) (asked : List (Answer requests)) (n : ConsumerStats) (p : Act Client Unit)
    (w : Client.Course) : Prop where
  rest : p.run replies.surroundings.host Course.statePart w = alone i r s d replies
  answers : w.answers = asked
  own : ∀ a ∈ asked, (upToCounters i r runs last d.messageId).asks a.request
  unaltered : Unaltered i r runs last w.state
  counts : (w.state.consumers i).stats = (s.consumers i).stats + n

/-- A delivery beside others, which come to an end in `last`, has got as far as it gets alone from
`s`, and has counted `n`. -/
def Fits (i r : Nat) (runs : Handler → Prop) (last s : Client) (d : Delivery) (replies : Replies)
    (u : Undertaking) (n : ConsumerStats) : Prop :=
  ∃ p w, Program.Meets (upToCounters i r runs last d.messageId) u.left p ∧
    Halfway i r runs last s d replies u.asked n p w

variable {last s' : Client} {runs : Handler → Prop}

namespace Fits

variable {d : Delivery} {b : Replies} {u : Undertaking} {n : ConsumerStats}

/-- A delivery alone goes on from where the one beside others has got. -/
theorem asked_prefix (h : Fits i r runs last s d b u n) :
    u.asked <+: (alone i r s d b).2.answers := by
  obtain ⟨p, w, -, h⟩ := h
  rw [← h.rest, ← h.answers]
  exact Program.answers_run _ p w

/-- A delivery that has ended has done what it does alone. -/
theorem of_ended (h : Fits i r runs last s d b u n) {result : Except Error Unit}
    (ended : u.ended = some result) :
    result = (alone i r s d b).1 ∧ u.asked = (alone i r s d b).2.answers ∧
      n = contribution i r s d b := by
  obtain ⟨left, asked⟩ := u
  obtain ⟨p, w, meets, h⟩ := h
  unfold contribution
  rw [← h.rest]
  cases meets with
  | done | fail e =>
    cases ended
    refine ⟨rfl, h.answers.symm, ?_⟩
    simp only [Program.run, h.counts, add_sub_cancel_left]
  | call => cases ended

/-- A delivery that has not ended asks for more when it is alone. -/
theorem asked_lt (h : Fits i r runs last s d b u n) (going : u.ended = none) :
    u.asked.length < (alone i r s d b).2.answers.length := by
  obtain ⟨left, asked⟩ := u
  obtain ⟨p, w, meets, h⟩ := h
  rw [← h.rest]
  cases meets with
  | done | fail e => cases going
  | @call q _ k' _ _ =>
    have longer := (Program.answers_run b.surroundings (k' (b w.answers q))
      (w.answer q (b w.answers q) w.state)).length_le
    rw [Course.answers_answer, List.length_append, congrArg List.length h.answers] at longer
    exact longer

end Fits

namespace Halfway

variable {d : Delivery} {b : Replies} {asked : List (Answer requests)} {n : ConsumerStats}
  {p p' : Act Client Unit} {w : Client.Course}

/-- Nothing has been asked for before the first request. -/
theorem start (alike : Unaltered i r runs last s') :
    Halfway i r runs last s' d b [] 0 (receive i r d) { state := s' } where
  rest := rfl
  answers := rfl
  own := List.forall_mem_nil _
  unaltered := alike
  counts := (add_zero _).symm

/-- A delivery goes on with what is replied to it. -/
theorem reply {q : Request} {next : Except Error q.Reply → Act Client Unit}
    (h : Halfway i r runs last s' d b asked n (.call q next) w)
    (may : (upToCounters i r runs last d.messageId).asks q) :
    Halfway i r runs last s' d b (asked ++ [⟨q, b asked q⟩]) n (next (b asked q))
      (w.answer q (b asked q) w.state) := by
  obtain ⟨rest, rfl, own, unaltered, counts⟩ := h
  refine ⟨rest, Course.answers_answer .., ?_, unaltered, counts⟩
  exact List.forall_mem_append.mpr ⟨own, List.forall_mem_singleton.mpr may⟩

/-- In a piece, a delivery alone and the one beside others get equally far. -/
theorem advance {t : Client} {I : Client → Prop}
    (h : Halfway i r runs last s' d b asked n p' w)
    (mirrors : p.Mirrors (upToCounters i r runs last d.messageId) p')
    (ascends : p.Ascends I (Onward i r runs) t)
    (onward : Onward i r runs (p.advance (fun _ => none) t).2 last) :
    ∃ m, Fits i r runs last s' d b ⟨(p.advance (fun _ => none) t).1, asked⟩ (n + m) ∧
      ((p.advance (fun _ => none) t).2.consumers i).stats = (t.consumers i).stats + m := by
  obtain ⟨w', m, step⟩ := mirrors.advance b.surroundings ascends onward h.unaltered
  obtain ⟨p'', meets, same⟩ := step.meets
  refine ⟨m, ⟨p'', w', meets, ?_⟩, step.counts⟩
  refine ⟨same.trans h.rest, step.answers.trans h.answers, h.own, step.alike.2, ?_⟩
  rw [step.counts', h.counts, add_assoc]

end Halfway

variable [Fintype ι]

/-- Deliveries side by side, which come to an end in `last`. Each has got as far as it gets alone
from `s'`, and `counted` says what each of them has counted. -/
structure Together (i r : Nat) (s : Client) (ds : ι → Delivery) (replies : ι → Replies)
    (last s' : Client) (x : Overlap ι) (counted : ι → ConsumerStats) : Prop where
  counts : (x.state.consumers i).stats = (s.consumers i).stats + ∑ k, counted k
  untaken : ∀ k, x.under k = none → counted k = 0
  fits : ∀ k u, x.under k = some u →
    Fits i r (Due r s ds) last s' (ds k) (replies k) u (counted k)

variable {counted : ι → ConsumerStats}

omit [DecidableEq ι] in
/-- Before the first turn nothing has been counted. -/
theorem together_start : Together i r s ds replies last s' { state := s } 0 where
  counts := by simp
  untaken _ _ := rfl
  fits _ _ h := by cases h

/-- One delivery goes on, and the others stay where they are. -/
theorem Together.proceed (h : Together i r s ds replies last s' x counted)
    {p p' : Act Client Unit} {asked : List (Answer requests)} {w : Client.Course}
    {I : Client → Prop}
    (halfway : Halfway i r (Due r s ds) last s' (ds k) (replies k) asked (counted k) p' w)
    (mirrors : p.Mirrors (upToCounters i r (Due r s ds) last (ds k).messageId) p')
    (ascends : p.Ascends I (Onward i r (Due r s ds)) x.state)
    (onward : Onward i r (Due r s ds) (x.proceed k p asked).state last) :
    ∃ counted', Together i r s ds replies last s' (x.proceed k p asked) counted' := by
  obtain ⟨m, fits, grown⟩ := halfway.advance mirrors ascends onward
  refine ⟨counted + Pi.single k m, ?_, fun j none => ?_, fun j u under => ?_⟩
  · simp only [Overlap.proceed, grown, h.counts, Pi.add_apply, Finset.sum_add_distrib,
      Finset.sum_pi_single', Finset.mem_univ, if_pos, add_assoc]
  · obtain rfl | other := eq_or_ne j k
    · simp [Overlap.proceed] at none
    · simp only [Overlap.proceed, Function.update_of_ne other] at none
      simp [h.untaken j none, other]
  · obtain rfl | other := eq_or_ne j k
    · simp only [Overlap.proceed, Function.update_self, Option.some.injEq] at under
      subst under
      simpa using fits
    · simp only [Overlap.proceed, Function.update_of_ne other] at under
      simpa [other] using h.fits j u under

/-- Whoever's turn it is, each delivery stays where it gets alone. -/
theorem Together.turn (h : Together i r s ds replies last s' x counted)
    (underway : Underway i r s ds x) (alike : Unaltered i r (Due r s ds) last s') {t : Turn ι}
    (spares : t.Spares i r)
    (onward : Onward i r (Due r s ds) (x.turn i r ds replies t).state last) :
    ∃ counted', Together i r s ds replies last s' (x.turn i r ds replies t) counted' := by
  cases t with
  | meanwhile change =>
    obtain ⟨stats, -⟩ := spares x.state
    exact ⟨counted, stats.trans h.counts, h.untaken, h.fits⟩
  | take k =>
    cases under : x.under k with
    | none =>
      rw [turn_none under] at onward ⊢
      have ascends : (receive i r (ds k)).Ascends _ (Onward i r (Due r s ds)) x.state :=
        ascends_receive k underway.registry
      have begun := ascends.onward onward
      have mirrors := receive_mirrors k (blurs_upToCounters i r (Due r s ds) last _)
        fun _ _ alike => alike.2.registry.trans (begun.registry.trans underway.registry)
      have start : Halfway i r (Due r s ds) last s' (ds k) (replies k) [] (counted k)
          (receive i r (ds k)) { state := s' } := by
        rw [h.untaken k under]
        exact .start alike
      exact h.proceed start mirrors ascends onward
    | some u =>
      obtain ⟨left, asked⟩ := u
      obtain ⟨p, w, meets, halfway⟩ := h.fits k _ under
      dsimp only at meets halfway
      cases meets with
      | done | fail e =>
        rw [turn_ended under rfl]
        exact ⟨counted, h⟩
      | call may next =>
        rw [turn_call under] at onward ⊢
        exact h.proceed (halfway.reply may) (next _)
          (underway.ascends k _ under x.state _ x.state underway.registry) onward

/-- In any order of turns that leads to an end, each delivery is where it gets alone. -/
theorem Together.turns (h : Together i r s ds replies last s' x counted)
    (underway : Underway i r s ds x) (alike : Unaltered i r (Due r s ds) last s')
    (turns : List (Turn ι)) (spare : ∀ t ∈ turns, t.Spares i r)
    (onward : Onward i r (Due r s ds) (turns.foldl (Overlap.turn i r ds replies) x).state last) :
    ∃ counted', Together i r s ds replies last s' (turns.foldl (Overlap.turn i r ds replies) x)
      counted' := by
  induction turns generalizing x counted with
  | nil => exact ⟨counted, h⟩
  | cons t turns ih =>
    obtain ⟨spares, spare⟩ := List.forall_mem_cons.mp spare
    obtain ⟨underway', -⟩ := underway.turn replies spares
    obtain ⟨-, later⟩ := underway'.turns replies turns spare
    obtain ⟨counted', h'⟩ := h.turn underway alike spares (later.trans onward)
    exact ih h' underway' spare onward

variable (ds replies)

/-- Once turns have been taken, each delivery is where it gets alone from a state as the one in the
end. -/
theorem together_turns (turns : List (Turn ι)) (spare : ∀ t ∈ turns, t.Spares i r)
    (alike : Unaltered i r (Due r s ds) (turns.foldl (turn i r ds replies) { state := s }).state
      s') :
    ∃ counted, Together i r s ds replies (turns.foldl (turn i r ds replies) { state := s }).state
      s' (turns.foldl (turn i r ds replies) { state := s }) counted :=
  together_start.turns underway_start alike turns spare (.refl _)

/-- A delivery that has not ended has asked for one thing in each of its turns. -/
theorem asked_of_turns (turns : List (Turn ι)) (spare : ∀ t ∈ turns, t.Spares i r) (k : ι) :
    let x := turns.foldl (turn i r ds replies) { state := s }
    (x.under k = none → turns.countP (Turn.takes k) = 0) ∧
      ∀ u, x.under k = some u → u.ended = none →
        turns.countP (Turn.takes k) = u.asked.length + 1 := by
  induction turns using List.reverseRecOn with
  | nil => exact ⟨fun _ => rfl, fun _ h => by cases h⟩
  | append_singleton turns t ih =>
    have spare' : ∀ t ∈ turns, t.Spares i r := fun t ht => spare t (List.mem_append_left _ ht)
    obtain ⟨counted, h⟩ := together_turns ds replies turns spare' (.refl _)
    have ih := ih spare'
    dsimp only at ih ⊢
    rw [List.foldl_concat, List.countP_append, List.countP_singleton]
    generalize turns.foldl (turn i r ds replies) { state := s } = x at h ih
    cases t with
    | meanwhile change => simpa [turn, Turn.takes] using ih
    | take j =>
      obtain rfl | other := eq_or_ne j k
      · have once : (if Turn.takes j (Turn.take j) = true then 1 else 0) = 1 := by simp [Turn.takes]
        rw [once]
        cases under : x.under j with
        | none =>
          simp [turn_none under, Overlap.proceed, ih.1 under]
        | some u =>
          obtain ⟨left, asked⟩ := u
          obtain ⟨p, w, meets, -⟩ := h.fits j _ under
          cases meets with
          | done | fail e =>
            rw [turn_ended under rfl]
            simp [under, Undertaking.ended]
          | call may next =>
            simp [turn_call under, Overlap.proceed, ih.2 _ under rfl]
      · have apart : (if Turn.takes k (Turn.take j) = true then 1 else 0) = 0 := by
          simp [Turn.takes, other]
        rw [apart, turn_of_ne other]
        exact ih

/-- Whatever the order of turns, a delivery that overlaps with others asks for what it asks for when
it is alone, with the same replies, and it settles nothing but its own message; when it has ended,
it has the result that it has alone. It has ended when it has had one turn more than it asks for
requests alone. When all have ended, the counters have grown by what each of them adds alone.

A delivery is alone from a state in which handlers have the stand-ins that they have in the end. If
handlers that are equal had one stand-in at the beginning, this may be the state at the
beginning. -/
theorem overlap_as_alone (i r : Nat) (s : Client) (ds : ι → Delivery) (replies : ι → Replies)
    (turns : List (Turn ι)) (spare : ∀ t ∈ turns, t.Spares i r) :
    let x := turns.foldl (turn i r ds replies) { state := s }
    (∀ s', Unaltered i r (Due r s ds) x.state s' →
      (∀ k u, x.under k = some u →
        u.asked <+: (alone i r s' (ds k) (replies k)).2.answers ∧
        ∀ result, u.ended = some result → result = (alone i r s' (ds k) (replies k)).1 ∧
          u.asked = (alone i r s' (ds k) (replies k)).2.answers) ∧
      (∀ k, (alone i r s' (ds k) (replies k)).2.answers.length < turns.countP (Turn.takes k) →
        x.finished k) ∧
      ((∀ k, x.finished k) → (x.state.consumers i).stats =
        (s.consumers i).stats + ∑ k, contribution i r s' (ds k) (replies k))) ∧
    (∀ k u, x.under k = some u → ∀ a ∈ u.asked, ∀ messageId settlement,
      settlementOf a.request = some (messageId, settlement) → messageId = (ds k).messageId) ∧
    (Concordant i (Due r s ds) s → Unaltered i r (Due r s ds) x.state s) := by
  intro x
  refine ⟨fun s' alike => ?_, fun k u under => ?_, fun concordant => ?_⟩
  · obtain ⟨counted, h⟩ : ∃ counted, Together i r s ds replies x.state s' x counted :=
      together_turns ds replies turns spare alike
    refine ⟨fun k u under => ?_, fun k enough => ?_, fun finished => ?_⟩
    · have fits := h.fits k u under
      refine ⟨fits.asked_prefix, fun result ended => ?_⟩
      obtain ⟨result, asked, -⟩ := fits.of_ended ended
      exact ⟨result, asked⟩
    · obtain ⟨untaken, going⟩ := asked_of_turns ds replies turns spare k
      change x.under k = none → _ at untaken
      change ∀ u, x.under k = some u → _ at going
      cases under : x.under k with
      | none =>
        rw [untaken under] at enough
        cases enough
      | some u =>
        cases ended : u.ended with
        | some result => exact finished_iff.mpr ⟨u, result, under, ended⟩
        | none =>
          have fewer := (h.fits k u under).asked_lt ended
          rw [going u under ended] at enough
          omega
    · rw [h.counts]
      refine congrArg _ (Finset.sum_congr rfl fun k _ => ?_)
      obtain ⟨u, result, under, ended⟩ := finished_iff.mp (finished k)
      exact ((h.fits k u under).of_ended ended).2.2
  · obtain ⟨counted, h⟩ : ∃ counted, Together i r s ds replies x.state x.state x counted :=
      together_turns ds replies turns spare (.refl _)
    obtain ⟨p, w, -, halfway⟩ := h.fits k u under
    exact halfway.own
  · exact (underway_start.turns replies turns spare).2.unaltered concordant

end Turns

/-! ### Two messages at once -/

/-- Handlers fail once and then succeed, and all else is granted. -/
def failingOnce : Replies := fun asked q =>
  match q with
  | .handle .. => if asked.isEmpty then .error (.fault .runtime "boom") else .ok ()
  | q => .ok q.granted

/-- An order and a message that cannot be read. -/
def pair : Bool → Delivery
  | false => order
  | true => { order with body := "?".toUTF8, messageId := some "m2" }

/-- The order waits for its second attempt while the other message is rejected. -/
def pairTurns : List (Turn Bool) :=
  [.take false, .take true, .meanwhile fun s => { s with manager := default }, .take false,
    .take true, .take false, .take false, .take false]

/-- There is one handler only. -/
theorem concordant_waiting : Concordant 0 (Due 0 waiting.state pair) waiting.state := by
  have only {h : Handler} (due : Due 0 waiting.state pair h) : h = shipping := by
    obtain ⟨-, _, _, _, member⟩ := due
    unfold Registry.handlers at member
    simp only [waiting, List.lookup_cons] at member
    split at member
    · exact List.mem_singleton.mp member
    · cases member
  intro g h due due' _
  rw [only due, only due']

theorem overlap_as_alone_pair :
    Concordant 0 (Due 0 waiting.state pair) waiting.state ∧ (∀ t ∈ pairTurns, t.Spares 0 0) ∧
      ((pairTurns.foldl (turn 0 0 pair fun _ => failingOnce)
        { state := waiting.state }).state.consumers 0).stats =
          { received := 2, succeeded := 1, rejected := 1 } := by
  have spare : ∀ t ∈ pairTurns, t.Spares 0 0 := by
    simp [pairTurns, Turn.Spares]
  obtain ⟨alone_from, -, unaltered⟩ :=
    overlap_as_alone 0 0 waiting.state pair (fun _ => failingOnce) pairTurns spare
  obtain ⟨-, ends, counts⟩ := alone_from waiting.state (unaltered concordant_waiting)
  have four : (alone 0 0 waiting.state (pair false) failingOnce).2.answers.length = 4 := by
    decide +kernel
  have one : (alone 0 0 waiting.state (pair true) failingOnce).2.answers.length = 1 := by
    decide +kernel
  have ended (k : Bool) : (pairTurns.foldl (turn 0 0 pair fun _ => failingOnce)
      { state := waiting.state }).finished k := by
    cases k with
    | false => exact ends false (by rw [four]; decide)
    | true => exact ends true (by rw [one]; decide)
  have order : contribution 0 0 waiting.state (pair false) failingOnce =
      { received := 1, succeeded := 1 } := by decide +kernel
  have other : contribution 0 0 waiting.state (pair true) failingOnce =
      { received := 1, rejected := 1 } := by decide +kernel
  refine ⟨concordant_waiting, spare, (counts ended).trans ?_⟩
  rw [Fintype.sum_bool, order, other]
  rfl

/-- A created order and a paid one. -/
def createdAndPaid : Bool → Delivery
  | false => created
  | true => paid

/-- The handler of created orders succeeds, that of paid orders fails, and all else is granted. -/
def failingCollection : Replies := fun _ q =>
  match q with
  | .handle h _ => if h = billing then .ok () else .error (.fault .runtime "boom")
  | q => .ok q.granted

/-- The created order is taken, and then the paid one is processed to its end. -/
def crossing : List (Turn Bool) :=
  [.take false, .take true, .take true, .take true]

/-- It is not true of all handlers that deliveries which overlap do what each of them does alone.
The handler of created orders is called for a paid order, too, that is taken while a created one
waits, if it is equal to the handler of paid orders. -/
theorem overlap_confuses_equal :
    ¬ ∀ (i r : Nat) (s : Client) (ds : Bool → Delivery) (replies : Bool → Replies)
      (turns : List (Turn Bool)), (∀ t ∈ turns, t.Spares i r) →
      ∀ k u, (turns.foldl (turn i r ds replies) { state := s }).under k = some u →
        u.ended.isSome → u.asked = (alone i r s (ds k) (replies k)).2.answers := by
  intro agree
  have same := agree 0 0 invoicing.state createdAndPaid (fun _ => failingCollection) crossing
    (by simp [crossing, Turn.Spares]) true
  have beside : ((crossing.foldl (turn 0 0 createdAndPaid fun _ => failingCollection)
      { state := invoicing.state }).under true).map
        (fun u => (u.ended.isSome, calledObjects u.asked)) = some (true, ["bill"]) := by
    decide +kernel
  have apart : calledObjects (alone 0 0 invoicing.state (createdAndPaid true)
      failingCollection).2.answers = ["collect"] := by decide +kernel
  generalize (crossing.foldl (turn 0 0 createdAndPaid fun _ => failingCollection)
      { state := invoicing.state }).under true = under at same beside
  generalize alone 0 0 invoicing.state (createdAndPaid true) failingCollection = ended at same apart
  obtain ⟨u, rfl, called⟩ := Option.map_eq_some_iff.mp beside
  obtain ⟨ended, called⟩ := Prod.mk.inj called
  rw [same u rfl ended, apart] at called
  simp at called

end Overlap

end Client

end BrokerClient
