import BrokerClient.Error
import BrokerClient.Number.Decimal
import BrokerClient.Number.Power

/-!
# Retry schedules

A schedule bounds the retries after a first attempt and gives the delay before each of them:
`baseDelay · exponentialBase ^ attempt` seconds, and no more than the cap if there is one. The power
is taken before the cap applies, so an attempt number that makes it too large is an error even
with a cap, and so is an attempt number that is itself too large for a double.
-/

namespace BrokerClient.Retry

/-- How often and after which delays to try again. -/
structure Schedule where
  maxRetries : Nat := 3
  baseDelay : Float := 1
  exponentialBase : Float := 2
  maxDelay : Option Float := none
  deriving Repr, Inhabited

/-- A schedule as it is asked for. -/
structure Draft where
  maxRetries : Int := 3
  baseDelay : Float := 1
  exponentialBase : Float := 2
  maxDelay : Option Float := none
  deriving Repr, Inhabited

/-- The schedule that a draft asks for; the first field that is out of range is an error. A NaN
compares with nothing and so is never out of range. -/
def Draft.schedule (d : Draft) : Except Error Schedule :=
  let shown := Number.Layout.message.float
  if d.maxRetries < 0 then
    .error (.badValue s!"max_retries must be >= 0, got {d.maxRetries}. Use 0 for no retries.")
  else if d.baseDelay < 0 then
    .error (.badValue s!"base_delay must be >= 0, got {shown d.baseDelay}.")
  else if d.exponentialBase < 1 then
    .error (.badValue s!"exponential_base must be >= 1.0, got {shown d.exponentialBase}.")
  else
    let schedule : Schedule := ⟨d.maxRetries.toNat, d.baseDelay, d.exponentialBase, d.maxDelay⟩
    match d.maxDelay with
    | some cap =>
      if cap < d.baseDelay then
        .error (.badValue
          s!"max_delay ({shown cap}) must be >= base_delay ({shown d.baseDelay}).")
      else .ok schedule
    | none => .ok schedule

namespace Schedule

/-- The smaller of a delay and a cap; the delay unless the cap is less. -/
def capped (delay : Float) : Option Float → Float
  | some cap => if cap < delay then cap else delay
  | none => delay

/-- The delay after a failed attempt; attempts count from zero. -/
def backoff (s : Schedule) (attempt : Int) : Except Error Float :=
  if Number.exceedsDouble attempt then .error (.overflow .number)
  else if Number.powerOverflows s.exponentialBase attempt then .error (.overflow .power)
  else .ok (capped (s.baseDelay * Number.power s.exponentialBase attempt) s.maxDelay)

/-- A delay that cannot be computed is an ordinary error. -/
theorem backoff_ordinary {s : Schedule} {attempt : Int} {e : Error}
    (h : s.backoff attempt = .error e) : e.isOrdinary := by
  unfold backoff at h
  split at h
  · cases h
    rfl
  · split at h
    · cases h
      rfl
    · cases h

end Schedule

/-- A delay as it is written in messages. -/
def delayText (delay : Float) : String :=
  Number.fixed 2 delay

end BrokerClient.Retry
