import BrokerClient.Proofs.Runs
import BrokerClient.Publisher
import BrokerClient.Retry.Run
import Mathlib.Logic.ExistsUnique

/-!
# One way to try again

A job runs a handler again after a failure and a publisher sends a message again, each in a loop of
its own. Both are the loop `Schedule.retrying`, with another attempt in it and with log records and
spans around it that leave no trace in a run. What this loop does is told by a `Try` for each
attempt: what came of it, and the wait after it. What came of the attempts and of the waits
determines the tries and the end, so that both loops make the same attempts, wait for the same
delays and end in the same way wherever the same comes of their attempts.

## Main definitions

* `Schedule.retrying` — attempts with waits between them.
* `Try`, `Tried` — attempts with what came of them, and the runs that they make up.
* `Schedule.Course` — which tries a schedule leads to, and with which end.

## Main results

* `runs_retrying` — the runs of the loop are tries that follow the schedule.
* `Publisher.send_agrees_with_job` — sending a message and running a job agree.
-/

namespace BrokerClient

open Broker Connection Event

namespace Retry

variable {σ ω A : Type}

/-- Waits after a failed attempt for as long as the schedule says. -/
def Schedule.wait (s : Schedule) (n : Nat) : Act σ Unit := do
  let delay ← Program.ofExcept (s.backoff n)
  ask (.sleep delay)

/-- Attempts from a number on, with so many more to come after failures and a wait before each of
these. -/
def Schedule.retrying (s : Schedule) (attempt : Nat → Act σ Unit) : Nat → Nat → Act σ Unit
  | 0, n => attempt n
  | remaining + 1, n => (attempt n).rescue fun _ => do
    s.wait n
    s.retrying attempt remaining (n + 1)

/-- A wait with what came of it. -/
structure Wait where
  delay : Float
  reply : Except Error Unit

/-- An attempt with what came of it, and the wait after it. -/
structure Try where
  outcome : Except Error Unit
  wait : Option Wait

/-- A run is these attempts, the first with a number, and the waits after them. -/
def Tried (service : Service requests A ω) (part : Lens ω σ) (attempt : Nat → Act σ Unit) :
    Nat → List Try → ω → List A → ω → Prop
  | _, [], w, asked, w' => asked = [] ∧ w' = w
  | n, t :: tries, w, asked, w' => ∃ w₁ asked₁ rest, asked = asked₁ ++ rest ∧
      (attempt n).Runs service part w asked₁ t.outcome w₁ ∧
      match t.wait with
      | none => Tried service part attempt (n + 1) tries w₁ rest w'
      | some wait => ∃ w₂ asked₂ asked₃, rest = asked₂ ++ asked₃ ∧
          service (.sleep wait.delay) w₁ asked₂ wait.reply w₂ ∧
          Tried service part attempt (n + 1) tries w₂ asked₃ w'

/-- Which tries a schedule leads to from an attempt on, and how they end, with so many retries in
all. -/
inductive Schedule.Course (s : Schedule) (retries : Nat) :
    Nat → List Try → Except Error Unit → Prop
  | succeeded {n : Nat} : Course s retries n [⟨.ok (), none⟩] (.ok ())
  /-- A cancellation passes, whatever retries there are. -/
  | cancelled {n : Nat} {error} (passes : error.isOrdinary = false) :
    Course s retries n [⟨.error error, none⟩] (.error error)
  /-- The retries are used up: the error of the last attempt is the error of all. -/
  | exhausted {n : Nat} {error} (ordinary : error.isOrdinary) (last : retries ≤ n) :
    Course s retries n [⟨.error error, none⟩] (.error error)
  /-- The delay cannot be computed. -/
  | undelayed {n : Nat} {error excess} (ordinary : error.isOrdinary) (more : n < retries)
    (delay : s.backoff n = .error excess) :
    Course s retries n [⟨.error error, none⟩] (.error excess)
  /-- The wait itself fails. -/
  | interrupted {n : Nat} {error delay interruption} (ordinary : error.isOrdinary)
    (more : n < retries) (wait : s.backoff n = .ok delay) :
    Course s retries n [⟨.error error, some ⟨delay, .error interruption⟩⟩] (.error interruption)
  | again {n : Nat} {error delay tries result} (ordinary : error.isOrdinary)
    (more : n < retries) (wait : s.backoff n = .ok delay)
    (rest : Course s retries (n + 1) tries result) :
    Course s retries n (⟨.error error, some ⟨delay, .ok ()⟩⟩ :: tries) result

section Loop

variable {service : Service requests A ω} {part : Lens ω σ} {attempt : Nat → Act σ Unit}
  {s : Schedule} {remaining retries n : Nat} {w w' : ω} {asked : List A}
  {result : Except Error Unit}

/-- A single attempt, with no wait after it. -/
theorem tried_single {r : Except Error Unit} :
    Tried service part attempt n [⟨r, none⟩] w asked w' ↔
      (attempt n).Runs service part w asked r w' := by
  constructor
  · rintro ⟨w₁, asked, _, rfl, runs, rfl, rfl⟩
    rwa [List.append_nil]
  · exact fun runs => ⟨w', asked, [], (List.append_nil _).symm, runs, rfl, rfl⟩

/-- An attempt with a wait and further tries after it. -/
theorem tried_waited {r : Except Error Unit} {tries : List Try} {w₁ w₂ : ω}
    {asked₁ asked₂ asked₃ : List A} (wait : Wait)
    (runs : (attempt n).Runs service part w asked₁ r w₁)
    (served : service (.sleep wait.delay) w₁ asked₂ wait.reply w₂)
    (tried : Tried service part attempt (n + 1) tries w₂ asked₃ w') :
    Tried service part attempt n (⟨r, some wait⟩ :: tries) w (asked₁ ++ (asked₂ ++ asked₃)) w' :=
  ⟨w₁, asked₁, _, rfl, runs, w₂, asked₂, asked₃, rfl, served, tried⟩

/-- What holds of all that attempts and waits ask for holds of all that the tries ask for. -/
theorem Tried.forall_asked {P : A → Prop} {tries : List Try}
    (h : Tried service part attempt n tries w asked w')
    (attempts : ∀ {n w asked r w'}, (attempt n).Runs service part w asked r w' → ∀ a ∈ asked, P a)
    (waits : ∀ {delay w asked r w'}, service (.sleep delay) w asked r w' → ∀ a ∈ asked, P a) :
    ∀ a ∈ asked, P a := by
  induction tries generalizing n w asked with
  | nil =>
    obtain ⟨rfl, -⟩ := h
    exact List.forall_mem_nil _
  | cons t tries ih =>
    obtain ⟨w₁, asked₁, rest, rfl, runs, h⟩ := h
    refine List.forall_mem_append.mpr ⟨attempts runs, ?_⟩
    split at h
    · exact ih h
    · obtain ⟨w₂, asked₂, asked₃, rfl, served, h⟩ := h
      exact List.forall_mem_append.mpr ⟨waits served, ih h⟩

theorem runs_wait : (s.wait n).Runs service part w asked result w' ↔
    (∃ delay, s.backoff n = .ok delay ∧ service (.sleep delay) w asked result w') ∨
      ∃ excess, s.backoff n = .error excess ∧ asked = [] ∧ result = .error excess ∧ w' = w := by
  rw [Schedule.wait]
  cases s.backoff n with
  | ok delay =>
    refine Program.runs_perform.trans ⟨fun served => .inl ⟨delay, rfl, served⟩, ?_⟩
    rintro (⟨_, waits, served⟩ | ⟨_, failed, -⟩)
    · cases waits
      exact served
    · cases failed
  | error excess =>
    refine Program.runs_fail.trans ⟨fun ended => .inr ⟨excess, rfl, ended⟩, ?_⟩
    rintro (⟨_, waits, -⟩ | ⟨_, fails, ended⟩)
    · cases waits
    · cases fails
      exact ended

/-- The runs of the loop are tries that follow the schedule. -/
theorem runs_retrying (left : remaining = retries - n) :
    (s.retrying attempt remaining n).Runs service part w asked result w' ↔
      ∃ tries, Tried service part attempt n tries w asked w' ∧
        s.Course retries n tries result := by
  induction remaining generalizing n w asked with
  | zero =>
    have last : retries ≤ n := by omega
    constructor
    · intro runs
      refine ⟨_, tried_single.mpr runs, ?_⟩
      obtain error | _ := result
      · by_cases ordinary : error.isOrdinary
        · exact .exhausted ordinary last
        · exact .cancelled (by simpa using ordinary)
      · exact .succeeded
    · rintro ⟨tries, tried, course⟩
      cases course with
      | succeeded | cancelled | exhausted => exact tried_single.mp tried
      | undelayed _ more | interrupted _ more | again _ more => omega
  | succ remaining ih =>
    have more : n < retries := by omega
    have later : remaining = retries - (n + 1) := by omega
    rw [Schedule.retrying, Program.runs_rescue]
    constructor
    · rintro (⟨_, runs, rfl⟩ | ⟨error, runs, passes, rfl⟩ |
        ⟨error, w₁, asked₁, rest, rfl, runs, ordinary, h⟩)
      · exact ⟨_, tried_single.mpr runs, .succeeded⟩
      · exact ⟨_, tried_single.mpr runs, .cancelled passes⟩
      · simp only [Program.runs_seq, runs_wait] at h
        obtain ⟨_, ⟨delay, wait, served⟩ | ⟨excess, delay, rfl, failed, rfl⟩, rfl⟩ |
          ⟨_, w₂, asked₂, asked₃, rfl, ⟨delay, wait, served⟩ | ⟨_, _, _, failed, _⟩, h⟩ := h
        · have done : Tried service part attempt (n + 1) [] w' [] w' := ⟨rfl, rfl⟩
          have tried := tried_waited ⟨delay, .error _⟩ runs served done
          rw [List.append_nil] at tried
          exact ⟨_, tried, .interrupted ordinary more wait⟩
        · cases failed
          exact ⟨_, tried_single.mpr (by rwa [List.append_nil]), .undelayed ordinary more delay⟩
        · obtain ⟨tries, tried, course⟩ := (ih later).mp h
          exact ⟨_, tried_waited ⟨delay, .ok ()⟩ runs served tried,
            .again ordinary more wait course⟩
        · cases failed
    · simp only [Program.runs_seq, runs_wait]
      rintro ⟨tries, tried, course⟩
      cases course with
      | succeeded => exact .inl ⟨(), tried_single.mp tried, rfl⟩
      | cancelled passes => exact .inr (.inl ⟨_, tried_single.mp tried, passes, rfl⟩)
      | exhausted _ last => omega
      | undelayed ordinary _ delay =>
        exact .inr (.inr ⟨_, w', asked, [], (List.append_nil _).symm, tried_single.mp tried,
          ordinary, .inl ⟨_, .inr ⟨_, delay, rfl, rfl, rfl⟩, rfl⟩⟩)
      | interrupted ordinary _ wait =>
        obtain ⟨w₁, asked₁, _, rfl, runs, w₂, asked₂, _, rfl, served, rfl, rfl⟩ := tried
        rw [List.append_nil]
        exact .inr (.inr ⟨_, w₁, asked₁, asked₂, rfl, runs, ordinary,
          .inl ⟨_, .inl ⟨_, wait, served⟩, rfl⟩⟩)
      | again ordinary _ wait course =>
        obtain ⟨w₁, asked₁, _, rfl, runs, w₂, asked₂, asked₃, rfl, served, tried⟩ := tried
        exact .inr (.inr ⟨_, w₁, asked₁, _, rfl, runs, ordinary, .inr ⟨(), w₂, asked₂, asked₃, rfl,
          .inl ⟨_, wait, served⟩, (ih later).mpr ⟨_, tried, course⟩⟩⟩)

end Loop

/-! ### The loop of a job and the loop of a publisher -/

section Loops

variable {service : Service requests A ω} {part : Lens ω σ} {n : Nat} {w w' : ω} {asked : List A}
  {result : Except Error Unit}

/-- Attempts with the same runs, after which programs go on in the same way, lead to the same
runs. -/
theorem runs_attempt_seq_congr {p q : Act σ Unit} {f g : Except Error Unit → Act σ Unit}
    (hp : ∀ w asked r w', p.Runs service part w asked r w' ↔ q.Runs service part w asked r w')
    (h : ∀ r w asked, (f r).Runs service part w asked result w' ↔
      (g r).Runs service part w asked result w') :
    (p.attempt >>= f).Runs service part w asked result w' ↔
      (q.attempt >>= g).Runs service part w asked result w' := by
  simp only [Program.runs_attempt_seq, hp, h]

theorem runs_attempt_ofExcept {p : Act σ Unit} :
    (p.attempt >>= Program.ofExcept).Runs service part w asked result w' ↔
      p.Runs service part w asked result w' := by
  simp only [Program.runs_attempt_seq, Program.runs_ofExcept]
  constructor
  · rintro ⟨_, _, asked, _, rfl, runs, rfl, rfl, rfl⟩
    rwa [List.append_nil]
  · exact fun runs => ⟨_, w', asked, [], (List.append_nil _).symm, runs, rfl, rfl, rfl⟩

theorem Job.runs_pause_iff {j : Job} {e : Envelope} :
    (j.pause e n).Runs service part w asked result w' ↔
      (j.schedule.wait n).Runs service part w asked result w' := by
  rw [Job.pause, Schedule.wait]
  cases j.schedule.backoff n <;> rfl

/-- A job is the loop around the calls of its handler. -/
theorem Job.runs_runFrom {j : Job} {e : Envelope} {remaining : Nat} :
    (j.runFrom e remaining n).Runs service part w asked result w' ↔
      (j.schedule.retrying (fun _ => ask (.handle j.handler e)) remaining n).Runs service part w
        asked result w' := by
  have attempts (n : Nat) : ∀ w asked r w', (j.attempt e n).Runs service part w asked r w' ↔
      (ask (.handle j.handler e) : Act σ Unit).Runs service part w asked r w' :=
    fun _ _ _ _ => Program.runs_inSpan
  induction remaining generalizing n w asked with
  | zero =>
    rw [Job.runFrom, Schedule.retrying, Program.runs_log_seq]
    refine (runs_attempt_seq_congr (attempts n) fun r w asked => ?_).trans runs_attempt_ofExcept
    obtain error | _ := r
    · by_cases ordinary : error.isOrdinary
      · simp only [if_pos ordinary]
        rfl
      · simp only [if_neg ordinary]
        rfl
    · rfl
  | succ remaining ih =>
    rw [Job.runFrom, Schedule.retrying, Program.runs_log_seq]
    refine runs_attempt_seq_congr (attempts n) fun r w asked => ?_
    obtain error | _ := r
    · by_cases ordinary : error.isOrdinary
      · have later (w : ω) (asked : List A) := @ih (n + 1) w asked
        push_cast at later
        simp only [if_pos ordinary, Program.runs_logFailure_seq]
        simp only [Program.runs_seq, Job.runs_pause_iff, later]
      · simp only [if_neg ordinary]
    · rfl

variable {manager : Lens σ Manager} {s : Schedule} {x : Publisher.Sending}

theorem runs_publisherPause :
    (Publisher.pause s x n).Runs service part w asked result w' ↔
      (s.wait n).Runs service part w asked result w' := by
  rw [Publisher.pause, Schedule.wait]
  cases s.backoff n <;> rfl

/-- A publisher is the loop around sending once. -/
theorem runs_sendFrom {remaining : Nat} :
    (Publisher.sendFrom manager s x remaining n).Runs service part w asked result w' ↔
      (s.retrying (fun _ => Publisher.sendOnce manager x) remaining n).Runs service part w asked
        result w' := by
  induction remaining generalizing n w asked with
  | zero =>
    rw [Publisher.sendFrom, Schedule.retrying]
    refine (runs_attempt_seq_congr (fun _ _ _ _ => Iff.rfl) fun r w asked => ?_).trans
      runs_attempt_ofExcept
    obtain error | _ := r
    · by_cases ordinary : error.isOrdinary
      · simp only [if_pos ordinary]
        rfl
      · simp only [if_neg ordinary]
        rfl
    · rfl
  | succ remaining ih =>
    rw [Publisher.sendFrom, Schedule.retrying]
    refine runs_attempt_seq_congr (fun _ _ _ _ => Iff.rfl) fun r w asked => ?_
    obtain error | _ := r
    · by_cases ordinary : error.isOrdinary
      · simp only [if_pos ordinary, Publisher.logFailedAttempt, Program.runs_logFailure_seq]
        simp only [Program.runs_seq, runs_publisherPause, ih]
      · simp only [if_neg ordinary]
    · rfl

end Loops

/-! ### What comes of the attempts decides -/

/-- The tries from a number on have these outcomes and these ends of their waits. -/
def Meets (outcomes waits : Nat → Except Error Unit) (n : Nat) (tries : List Try) : Prop :=
  ∀ i t, tries[i]? = some t → t.outcome = outcomes (n + i) ∧
    ∀ wait, t.wait = some wait → wait.reply = waits (n + i)

section Meets

variable {outcomes waits : Nat → Except Error Unit} {s : Schedule} {retries n : Nat} {t : Try}
  {tries tries' : List Try} {result result' : Except Error Unit}

theorem meets_cons : Meets outcomes waits n (t :: tries) ↔
    (t.outcome = outcomes n ∧ ∀ wait, t.wait = some wait → wait.reply = waits n) ∧
      Meets outcomes waits (n + 1) tries := by
  constructor
  · intro h
    refine ⟨h 0 t rfl, fun i t' found => ?_⟩
    have later := h (i + 1) t' found
    rwa [← Nat.add_assoc, Nat.add_right_comm] at later
  · rintro ⟨first, rest⟩ (_ | i) t' found
    · cases found
      exact first
    · have later := rest i t' found
      rwa [Nat.add_assoc, Nat.add_comm 1] at later

theorem meets_nil : Meets outcomes waits n [] :=
  fun _ _ found => by simp at found

theorem meets_single {outcome : Except Error Unit} :
    Meets outcomes waits n [⟨outcome, none⟩] ↔ outcome = outcomes n := by
  simp [meets_cons, meets_nil]

theorem meets_waited {outcome reply : Except Error Unit} {delay : Float} :
    Meets outcomes waits n (⟨outcome, some ⟨delay, reply⟩⟩ :: tries) ↔
      outcome = outcomes n ∧ reply = waits n ∧ Meets outcomes waits (n + 1) tries := by
  simp [meets_cons, and_assoc]

/-- The tries that a schedule makes of what comes of attempts and waits, and how they end. -/
def Schedule.follow (s : Schedule) (outcomes waits : Nat → Except Error Unit) :
    Nat → Nat → List Try × Except Error Unit
  | remaining, n =>
    match outcomes n with
    | .ok () => ([⟨.ok (), none⟩], .ok ())
    | .error error =>
      if error.isOrdinary then
        match remaining with
        | 0 => ([⟨.error error, none⟩], .error error)
        | remaining + 1 =>
          match s.backoff n with
          | .error excess => ([⟨.error error, none⟩], .error excess)
          | .ok delay =>
            match waits n with
            | .error interruption =>
              ([⟨.error error, some ⟨delay, .error interruption⟩⟩], .error interruption)
            | .ok () =>
              let rest := s.follow outcomes waits remaining (n + 1)
              (⟨.error error, some ⟨delay, .ok ()⟩⟩ :: rest.1, rest.2)
      else ([⟨.error error, none⟩], .error error)

/-- There are tries for whatever comes of the attempts and of the waits. -/
theorem course_follow (s : Schedule) (outcomes waits : Nat → Except Error Unit)
    (remaining n : Nat) :
    s.Course (n + remaining) n (s.follow outcomes waits remaining n).1
        (s.follow outcomes waits remaining n).2 ∧
      Meets outcomes waits n (s.follow outcomes waits remaining n).1 := by
  cases outcome : outcomes n with
  | ok =>
    rw [Schedule.follow, outcome]
    exact ⟨.succeeded, meets_single.mpr outcome.symm⟩
  | error error =>
    by_cases ordinary : error.isOrdinary
    · cases remaining with
      | zero =>
        rw [Schedule.follow, outcome]
        simp only [if_pos ordinary]
        exact ⟨.exhausted ordinary (Nat.le_refl _), meets_single.mpr outcome.symm⟩
      | succ remaining =>
        have more : n < n + (remaining + 1) := by omega
        rw [Schedule.follow, outcome]
        simp only [if_pos ordinary]
        cases wait : s.backoff n with
        | error excess => exact ⟨.undelayed ordinary more wait, meets_single.mpr outcome.symm⟩
        | ok delay =>
          cases reply : waits n with
          | error interruption =>
            exact ⟨.interrupted ordinary more wait,
              meets_waited.mpr ⟨outcome.symm, reply.symm, meets_nil⟩⟩
          | ok =>
            obtain ⟨course, meets⟩ := course_follow s outcomes waits remaining (n + 1)
            rw [Nat.add_assoc, Nat.add_comm 1] at course
            exact ⟨.again ordinary more wait course,
              meets_waited.mpr ⟨outcome.symm, reply.symm, meets⟩⟩
    · rw [Schedule.follow, outcome]
      simp only [if_neg ordinary]
      exact ⟨.cancelled (by simpa using ordinary), meets_single.mpr outcome.symm⟩

/-- What comes of the attempts and of the waits decides what the tries are and how they end. -/
theorem Schedule.Course.eq_follow (h : s.Course retries n tries result)
    (meets : Meets outcomes waits n tries) :
    (tries, result) = s.follow outcomes waits (retries - n) n := by
  induction h with
  | succeeded => rw [Schedule.follow, ← meets_single.mp meets]
  | cancelled passes =>
    rw [Schedule.follow, ← meets_single.mp meets]
    simp [passes]
  | @exhausted n error ordinary last =>
    rw [Nat.sub_eq_zero_of_le last, Schedule.follow, ← meets_single.mp meets]
    simp [ordinary]
  | @undelayed n error excess ordinary more delay =>
    obtain ⟨k, rfl⟩ := Nat.exists_eq_add_of_lt more
    rw [show n + k + 1 - n = k + 1 by omega, Schedule.follow, ← meets_single.mp meets]
    simp [ordinary, delay]
  | @interrupted n error delay interruption ordinary more wait =>
    obtain ⟨outcome, reply, -⟩ := meets_waited.mp meets
    obtain ⟨k, rfl⟩ := Nat.exists_eq_add_of_lt more
    rw [show n + k + 1 - n = k + 1 by omega, Schedule.follow, ← outcome]
    simp [ordinary, wait, ← reply]
  | @again n error delay tries result ordinary more wait rest ih =>
    obtain ⟨outcome, reply, later⟩ := meets_waited.mp meets
    have rest := ih later
    obtain ⟨k, rfl⟩ := Nat.exists_eq_add_of_lt more
    rw [show n + k + 1 - (n + 1) = k by omega] at rest
    rw [show n + k + 1 - n = k + 1 by omega, Schedule.follow, ← outcome]
    simp [ordinary, wait, ← reply, ← rest]

end Meets

end Retry

/-- Of a schedule only the delays matter. -/
theorem Retry.Schedule.Course.of_backoff {s s' : Retry.Schedule} {retries n : Nat}
    {tries : List Retry.Try} {result : Except Error Unit}
    (same : ∀ n : Nat, s'.backoff n = s.backoff n) (h : s.Course retries n tries result) :
    s'.Course retries n tries result := by
  induction h with
  | succeeded => exact .succeeded
  | cancelled passes => exact .cancelled passes
  | exhausted ordinary last => exact .exhausted ordinary last
  | undelayed ordinary more delay => exact .undelayed ordinary more ((same _).trans delay)
  | interrupted ordinary more wait => exact .interrupted ordinary more ((same _).trans wait)
  | again ordinary more wait _ ih => exact .again ordinary more ((same _).trans wait) ih

/-- Sending a message and running a job are one loop: the runs of either are tries that follow the
schedule, up to the retries of the message and of the job, and for whatever comes of the attempts
and of the waits there is just one list of tries, with one end, that meets it. So where the same
comes of their attempts, they make as many of them, wait for the same delays in the same order, and
end in the same way. -/
theorem Publisher.send_agrees_with_job {σ τ : Type} (manager : Lens σ Manager) (s : Retry.Schedule)
    (x : Sending) (j : Retry.Job) (e : Envelope) :
    (∀ (ω A : Type) (service : Service requests A ω) (part : Lens ω σ) w asked result w',
      (send manager s x).Runs service part w asked result w' ↔
        ∃ tries, Retry.Tried service part (fun _ => sendOnce manager x) 0 tries w asked w' ∧
          s.Course x.maxRetries 0 tries result) ∧
    (∀ (ω A : Type) (service : Service requests A ω) (part : Lens ω τ) w asked result w',
      (({ j with schedule := { s with maxRetries := x.maxRetries } } : Retry.Job).run e 0).Runs
          service part w asked result w' ↔
        ∃ tries, Retry.Tried service part (fun _ => ask (.handle j.handler e)) 0 tries w asked w' ∧
          s.Course x.maxRetries 0 tries result) ∧
    ∀ outcomes waits, ∃! c : List Retry.Try × Except Error Unit,
      s.Course x.maxRetries 0 c.1 c.2 ∧ Retry.Meets outcomes waits 0 c.1 := by
  refine ⟨fun ω A service part w asked result w' => ?_,
    fun ω A service part w asked result w' => ?_, fun outcomes waits => ?_⟩
  · rw [send, Retry.runs_sendFrom, Retry.runs_retrying (Nat.sub_zero x.maxRetries).symm]
  · have same : ∀ n : Nat, ({ s with maxRetries := x.maxRetries } : Retry.Schedule).backoff n =
        s.backoff n := fun _ => rfl
    let job : Retry.Job := { j with schedule := { s with maxRetries := x.maxRetries } }
    have loop : (job.runFrom e x.maxRetries (0 : Nat)).Runs service part w asked result w' ↔ _ :=
      Retry.Job.runs_runFrom
    rw [Retry.runs_retrying (Nat.sub_zero x.maxRetries).symm] at loop
    refine loop.trans (exists_congr fun tries => and_congr_right fun _ => ?_)
    exact ⟨.of_backoff fun n => (same n).symm, .of_backoff same⟩
  · refine ⟨s.follow outcomes waits x.maxRetries 0, ?_, fun c hc => hc.1.eq_follow hc.2⟩
    have course := Retry.course_follow s outcomes waits x.maxRetries 0
    rwa [Nat.zero_add] at course

end BrokerClient
