import BrokerClient.Broker.Request
import BrokerClient.Retry.Schedule
import BrokerClient.Trace.Attribute

/-!
# Running a handler with retries

`Job.run` runs a handler for an event, each time inside a span, until it succeeds or the retries are
used up; the error of the last attempt is then the error of the run. Between attempts it waits for
as long as the schedule says. A cancellation ends the run at once.

## Main definitions

* `Job` — a handler with a schedule, a logger and a tracer.
* `Job.run` — the attempts of a job for one event.
-/

namespace BrokerClient.Retry

open Broker Event Trace

/-- A handler and how it is run again after a failure. -/
structure Job where
  handler : Handler
  /-- The name in log records and spans. -/
  name : String
  schedule : Schedule := {}
  logger : Log.Logger := .retry
  tracer : Tracer := .silent
  deriving Inhabited, Repr

namespace Job

/-- The job of a handler; without a name it goes by the handler's. -/
def create (handler : Handler) (schedule : Schedule) (name : Option String)
    (logger : Log.Logger) (tracer : Tracer) : Job :=
  let given := name.getD ""
  { handler, schedule, logger, tracer, name := if given.isEmpty then handler.name else given }

/-- A job's own name. -/
def title (j : Job) : String :=
  s!"with_retry({j.name})"

/-- The details that all log records of an attempt carry. -/
def details (j : Job) (e : Envelope) (attempt : Int) : List (String × Json) :=
  [("handler", .str j.name), ("event_id", .str e.eventId), ("event_type", .str e.eventType),
    ("attempt", .int attempt), ("max_retries", .int j.schedule.maxRetries)]

/-- The span of an attempt. -/
def span (j : Job) (e : Envelope) (attempt : Int) : Span where
  name := "brokerkit.handler.execute"
  kind := .«internal»
  attributes := some [
    (Attribute.handlerName.key, .str j.name),
    (Attribute.eventId.key, .str e.eventId),
    (Attribute.eventType.key, .str e.eventType),
    (Attribute.retryAttempt.key, .int attempt),
    (Attribute.retryMax.key, .int j.schedule.maxRetries)]

variable {σ : Type}

/-- Runs the handler once, inside a span. -/
def attempt (j : Job) (e : Envelope) (number : Int) : Act σ Unit :=
  Program.inSpan j.tracer (j.span e number) (ask (.handle j.handler e))

/-- Waits for the next attempt after a failed one. -/
def pause (j : Job) (e : Envelope) (number : Int) : Act σ Unit := do
  let delay ← Program.ofExcept (j.schedule.backoff number)
  .log .warning j.logger
    (s!"Retrying ({number + 1}/{j.schedule.maxRetries}) in {delayText delay}s: " ++
      s!"{e.eventType} | ID: {e.eventId}")
    (j.details e number ++ [("delay_seconds", .float delay)])
  ask (.sleep delay)

/-- Runs attempts from a number on, with so many more to come after a failure. -/
def runFrom (j : Job) (e : Envelope) : Nat → Int → Act σ Unit
  | remaining, number => do
    let details := j.details e number
    .log .info j.logger s!"Handling event: {e.eventType} | ID: {e.eventId}" details
    match ← (j.attempt e number).attempt with
    | .ok () => .log .info j.logger s!"Event handled: {e.eventType} | ID: {e.eventId}" details
    | .error error =>
      if error.isOrdinary then
        .logFailure j.logger
          s!"Event handling failed: {e.eventType} | ID: {e.eventId} | error: {error.message}"
          error
          (details ++ [("error", .str error.message), ("error_type", .str error.name)])
        match remaining with
        | 0 => do
          .log .error j.logger s!"Retries exhausted: {e.eventType} | ID: {e.eventId}" details
          .fail error
        | remaining + 1 => do
          j.pause e number
          j.runFrom e remaining (number + 1)
      else .fail error

/-- Runs the handler for an event, the first attempt with a given number. -/
def run (j : Job) (e : Envelope) (first : Int) : Act σ Unit :=
  j.runFrom e (j.schedule.maxRetries - first).toNat first

end Job

end BrokerClient.Retry
