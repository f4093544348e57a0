import BrokerClient.Proofs.Runs
import BrokerClient.Retry.Run
import Mathlib.Order.Defs.Unbundled

/-!
# The attempts of a job

`Attempts` says, without a program, what a job asks for: its handler is called for attempt after
attempt, with one wait between two of them, up to the first attempt that succeeds, that is cancelled
or that is not followed by another one because the retries are used up or the delay cannot be
computed. So the attempts of a job are some failures, after each of which the job has waited for the
next attempt, and a last one, whose `Ending` is the end of the job.

## Main definitions

* `Retry.Attempts` — what a job asks for from an attempt on, and how it ends.
* `Retry.Failure`, `Retry.Ending` — attempts that another one follows, and the last one.

## Main results

* `Retry.Job.attempts_of_runs` — the runs of a job.
* `Retry.Job.run_attempts` — the attempts of a job, one by one.
-/

namespace BrokerClient.Retry

open Broker Event

/-- What is asked from the attempt with a number on, with the replies, and how it ends. -/
inductive Attempts (s : Schedule) (h : Handler) (e : Envelope) :
    Int → List (Answer requests) → Except Error Unit → Prop
  | succeeded {n : Int} : Attempts s h e n [⟨.handle h e, .ok ()⟩] (.ok ())
  | cancelled {n : Int} {error} (passes : error.isOrdinary = false) :
    Attempts s h e n [⟨.handle h e, .error error⟩] (.error error)
  /-- The retries are used up: the error of the last attempt is the error of all. -/
  | exhausted {n : Int} {error} (ordinary : error.isOrdinary) (last : s.maxRetries ≤ n) :
    Attempts s h e n [⟨.handle h e, .error error⟩] (.error error)
  /-- The delay cannot be computed. -/
  | undelayed {n : Int} {error excess} (ordinary : error.isOrdinary) (more : n < s.maxRetries)
    (delay : s.backoff n = .error excess) :
    Attempts s h e n [⟨.handle h e, .error error⟩] (.error excess)
  /-- The wait itself fails. -/
  | interrupted {n : Int} {error delay interruption} (ordinary : error.isOrdinary)
    (more : n < s.maxRetries) (wait : s.backoff n = .ok delay) :
    Attempts s h e n [⟨.handle h e, .error error⟩, ⟨.sleep delay, .error interruption⟩]
      (.error interruption)
  | again {n : Int} {error delay asked result} (ordinary : error.isOrdinary)
    (more : n < s.maxRetries) (wait : s.backoff n = .ok delay)
    (rest : Attempts s h e (n + 1) asked result) :
    Attempts s h e n (⟨.handle h e, .error error⟩ :: ⟨.sleep delay, .ok ()⟩ :: asked) result

/-- What others leave as it is, they leave whatever more they do. -/
instance {ω β : Type} (f : ω → β) : IsPreorder ω (Leaves f) where
  refl _ := rfl
  trans _ _ _ left left' := left'.trans left

namespace Job

variable {ω σ : Type} {other : ω → ω → Prop} {part : Lens ω σ} {j : Job} {e : Envelope} {n : Int}
  {w w' : ω} {asked : List (Answer requests)} {result : Except Error Unit}

theorem runs_attempt {r : Except Error Unit} :
    (j.attempt e n).Runs (.direct requests other) part w asked r w' ↔
      asked = [⟨.handle j.handler e, r⟩] ∧ other w w' := by
  rw [attempt, Program.runs_inSpan]
  exact Program.runs_perform

variable [IsPreorder ω other]

/-- A pause is one wait, unless the delay cannot be computed. -/
theorem runs_pause (h : (j.pause e n).Runs (.direct requests other) part w asked result w') :
    other w w' ∧ ((∃ delay, j.schedule.backoff n = .ok delay ∧ asked = [⟨.sleep delay, result⟩]) ∨
      ∃ excess, j.schedule.backoff n = .error excess ∧ asked = [] ∧ result = .error excess) := by
  rw [pause, Program.runs_seq] at h
  simp only [Program.runs_ofExcept] at h
  obtain ⟨excess, ⟨rfl, delay, rfl⟩, rfl⟩ | ⟨delay, _, _, asked, rfl, ⟨rfl, wait, rfl⟩, h⟩ := h
  · exact ⟨refl _, .inr ⟨excess, delay.symm, rfl, rfl⟩⟩
  · rw [Program.runs_log_seq] at h
    obtain ⟨rfl, left⟩ := Program.runs_perform.mp h
    exact ⟨left, .inl ⟨delay, wait.symm, rfl⟩⟩

/-- A job asks for attempts, of which `remaining` more may follow the next one. The world is changed
by others only. -/
theorem attempts_of_runFrom {remaining : Nat} (left : remaining = (j.schedule.maxRetries - n).toNat)
    (h : (j.runFrom e remaining n).Runs (.direct requests other) part w asked result w') :
    Attempts j.schedule j.handler e n asked result ∧ other w w' := by
  induction remaining generalizing n w asked with
  | zero =>
    have last : j.schedule.maxRetries ≤ n := by omega
    rw [runFrom] at h
    simp only [Program.runs_log_seq, Program.runs_attempt_seq, runs_attempt] at h
    obtain ⟨error | _, w₁, _, asked, rfl, ⟨rfl, same⟩, h⟩ := h
    · by_cases ordinary : error.isOrdinary
      · simp only [if_pos ordinary, Program.runs_logFailure_seq, Program.runs_log_seq] at h
        obtain ⟨rfl, rfl, rfl⟩ := h
        exact ⟨.exhausted ordinary last, same⟩
      · simp only [if_neg ordinary] at h
        obtain ⟨rfl, rfl, rfl⟩ := h
        exact ⟨.cancelled (by simpa using ordinary), same⟩
    · obtain ⟨rfl, rfl, rfl⟩ := h
      exact ⟨.succeeded, same⟩
  | succ remaining ih =>
    have more : n < j.schedule.maxRetries := by omega
    rw [runFrom] at h
    simp only [Program.runs_log_seq, Program.runs_attempt_seq, runs_attempt] at h
    obtain ⟨error | _, w₁, _, asked, rfl, ⟨rfl, same⟩, h⟩ := h
    · by_cases ordinary : error.isOrdinary
      · simp only [if_pos ordinary] at h
        rw [Program.runs_logFailure_seq, Program.runs_seq] at h
        obtain ⟨failure, paused, rfl⟩ | ⟨_, w₂, pause, asked, rfl, paused, h⟩ := h
        · obtain ⟨same', ⟨delay, wait, rfl⟩ | ⟨excess, delay, rfl, failed⟩⟩ := runs_pause paused
          · exact ⟨.interrupted ordinary more wait, IsTrans.trans _ _ _ same same'⟩
          · cases failed
            exact ⟨.undelayed ordinary more delay, IsTrans.trans _ _ _ same same'⟩
        · obtain ⟨same', ⟨delay, wait, rfl⟩ | ⟨excess, -, -, failed⟩⟩ := runs_pause paused
          · obtain ⟨rest, same''⟩ := ih (by omega) h
            have paused := IsTrans.trans _ _ _ same same'
            exact ⟨.again ordinary more wait rest, IsTrans.trans _ _ _ paused same''⟩
          · cases failed
      · simp only [if_neg ordinary] at h
        obtain ⟨rfl, rfl, rfl⟩ := h
        exact ⟨.cancelled (by simpa using ordinary), same⟩
    · obtain ⟨rfl, rfl, rfl⟩ := h
      exact ⟨.succeeded, same⟩

/-- Whatever others do in the meantime, a job asks for attempts. -/
theorem attempts_of_runs
    (h : (j.run e n).Runs (.direct requests other) part w asked result w') :
    Attempts j.schedule j.handler e n asked result ∧ other w w' :=
  attempts_of_runFrom rfl h

end Job

/-! ### One attempt after the other -/

/-- An attempt that has failed and that another one follows, with the delay between the two. -/
structure Failure where
  error : Error
  delay : Float

/-- What failures ask for: each is a call of the handler and a wait. -/
def Failure.answers (h : Handler) (e : Envelope) (failures : List Failure) :
    List (Answer requests) :=
  failures.flatMap fun f => [⟨.handle h e, .error f.error⟩, ⟨.sleep f.delay, .ok ()⟩]

/-- An attempt with a number that fails in this way is followed by another one. -/
structure Schedule.Retries (s : Schedule) (number : Int) (f : Failure) : Prop where
  ordinary : f.error.isOrdinary
  more : number < s.maxRetries
  wait : s.backoff number = .ok f.delay

/-- What the last attempt asks for, if it is the one with a number, and how it ends the job. -/
inductive Ending (s : Schedule) (h : Handler) (e : Envelope) (number : Int) :
    List (Answer requests) → Except Error Unit → Prop
  | succeeded : Ending s h e number [⟨.handle h e, .ok ()⟩] (.ok ())
  /-- The retries are used up: the error of the attempt is the error of the job. -/
  | exhausted {error} (ordinary : error.isOrdinary) (last : s.maxRetries ≤ number) :
    Ending s h e number [⟨.handle h e, .error error⟩] (.error error)
  /-- The delay cannot be computed. -/
  | undelayed {error excess} (ordinary : error.isOrdinary) (more : number < s.maxRetries)
    (delay : s.backoff number = .error excess) :
    Ending s h e number [⟨.handle h e, .error error⟩] (.error excess)
  /-- A cancellation passes, whatever retries there are. -/
  | cancelled {error} (passes : error.isOrdinary = false) :
    Ending s h e number [⟨.handle h e, .error error⟩] (.error error)
  /-- The wait itself fails. -/
  | interrupted {error delay interruption} (ordinary : error.isOrdinary)
    (more : number < s.maxRetries) (wait : s.backoff number = .ok delay) :
    Ending s h e number [⟨.handle h e, .error error⟩, ⟨.sleep delay, .error interruption⟩]
      (.error interruption)

section OneByOne

variable {s : Schedule} {h : Handler} {e : Envelope} {first : Int} {asked : List (Answer requests)}
  {result : Except Error Unit}

/-- Attempts are failures and a last attempt. -/
theorem Attempts.failures (attempts : Attempts s h e first asked result) :
    ∃ failures last, asked = Failure.answers h e failures ++ last ∧
      (∀ (i : Nat) f, failures[i]? = some f → s.Retries (first + i) f) ∧
      Ending s h e (first + failures.length) last result := by
  have single {n : Int} {last} (ending : Ending s h e n last result) :
      ∃ failures last', last = Failure.answers h e failures ++ last' ∧
        (∀ (i : Nat) f, failures[i]? = some f → s.Retries (n + i) f) ∧
        Ending s h e (n + failures.length) last' result :=
    ⟨[], last, rfl, nofun, by simpa using ending⟩
  induction attempts with
  | succeeded => exact single .succeeded
  | cancelled passes => exact single (.cancelled passes)
  | exhausted ordinary last => exact single (.exhausted ordinary last)
  | undelayed ordinary more delay => exact single (.undelayed ordinary more delay)
  | interrupted ordinary more wait => exact single (.interrupted ordinary more wait)
  | @again n error delay asked result ordinary more wait rest ih =>
    obtain ⟨failures, last, rfl, retries, ending⟩ := ih single
    refine ⟨⟨error, delay⟩ :: failures, last, rfl, ?_, ?_⟩
    · rintro (_ | i) f found
      · cases found
        simpa using ⟨ordinary, more, wait⟩
      · have later := retries i f found
        rwa [show n + 1 + (i : Int) = n + (i + 1 : Nat) by omega] at later
    · rwa [List.length_cons, show n + ((failures.length + 1 : Nat) : Int) =
        n + 1 + failures.length by omega]

/-- There are no more attempts than the schedule allows, and there is one in any case. -/
theorem attempts_le {failures : List Failure}
    (retries : ∀ (i : Nat) f, failures[i]? = some f → s.Retries (first + i) f) :
    (failures.length : Int) + 1 ≤ max 1 (s.maxRetries - first + 1) := by
  obtain none | some := Nat.eq_zero_or_pos failures.length
  · omega
  · have more := (retries _ _ (List.getElem?_eq_getElem (Nat.sub_one_lt_of_lt some))).more
    omega

end OneByOne

/-- Whatever is replied, a job calls its handler for attempt after attempt, always with the same
event, and waits once between two of them, for as long as the schedule says. It goes on after a
failure as long as retries are left and the delay can be computed, and the last attempt ends it: by
its success, by its own error, or by the error of the delay. A cancellation ends it at once, be it
of the handler or of a wait. -/
theorem Job.run_attempts {σ : Type} (env : Surroundings requests σ) (j : Job) (e : Envelope)
    (first : Int) (w : Course requests σ) :
    ∃ failures last,
      ((j.run e first).run env.host Course.statePart w).2.answers =
        w.answers ++ Failure.answers j.handler e failures ++ last ∧
      (∀ (i : Nat) f, failures[i]? = some f → j.schedule.Retries (first + i) f) ∧
      Ending j.schedule j.handler e (first + failures.length) last
        ((j.run e first).run env.host Course.statePart w).1 ∧
      (failures.length : Int) + 1 ≤ max 1 (j.schedule.maxRetries - first + 1) := by
  obtain ⟨asked, grown, -, runs⟩ := Program.runs_of_run Course.stateView (fun _ => ())
    (fun _ _ => rfl) (j.run e first) w
  obtain ⟨failures, last, rfl, retries, ending⟩ := (Job.attempts_of_runs runs).1.failures
  rw [← List.append_assoc] at grown
  exact ⟨failures, last, grown, retries, ending, attempts_le retries⟩

/-- Everything is cancelled that is asked for. -/
def cancelling : Surroundings requests Unit :=
  fun _ _ => (.error (.fault .cancelled "stop"), ())

/-- It is not true that a job ends with an error only when its retries are used up or a delay cannot
be computed: a cancelled handler is not called again. -/
theorem Job.run_passes_cancellation :
    ¬ ∀ (env : Surroundings requests Unit) (j : Job) (e : Envelope) (first : Int)
      (w : Course requests Unit), ∃ failures last,
        ((j.run e first).run env.host Course.statePart w).2.answers =
          w.answers ++ Failure.answers j.handler e failures ++ last ∧
        Ending j.schedule j.handler e (first + failures.length) last
          ((j.run e first).run env.host Course.statePart w).1 ∧
        ∀ error, ((j.run e first).run env.host Course.statePart w).1 = .error error →
          j.schedule.maxRetries ≤ first + failures.length ∨
            ∃ excess, j.schedule.backoff (first + failures.length) = .error excess := by
  intro stops
  let j : Job := { handler := default, name := "ship" }
  obtain ⟨failures, last, answers, ending, only⟩ := stops cancelling j default 0 { state := () }
  have begins : (j.run default 0 : Act Unit Unit) = j.runFrom default 3 0 := rfl
  rw [begins, Job.runFrom] at answers ending only
  have answers' : Failure.answers j.handler default failures ++ last =
      [⟨.handle j.handler default, .error (.fault .cancelled "stop")⟩] := answers.symm
  have none : failures = [] := by
    cases failures with
    | nil => rfl
    | cons f failures => simp [Failure.answers] at answers'
  subst none
  obtain used | ⟨excess, undelayed⟩ := only (.fault .cancelled "stop") rfl
  · exact absurd used (by decide)
  · have delayed : (j.schedule.backoff 0).isOk := by decide +kernel
    rw [show (0 : Int) = 0 + ([] : List Failure).length from rfl, undelayed] at delayed
    cases delayed

end BrokerClient.Retry
