import BrokerClient.Validation.Issue

/-!
# Errors

`Error` lists the causes for which an operation fails. `Error.name` is the class that an error is
reported under and `Error.message` its text. A cancellation is the one error that is not ordinary:
recovery from ordinary errors lets it pass.
-/

namespace BrokerClient

/-- The kinds of errors that come from a transport, from a handler or from plain misuse. -/
inductive FaultKind
  | connection
  | connectionRefused
  | connectionReset
  | runtime
  | value
  | type
  | timeout
  | os
  | attribute
  | key
  | cancelled
  deriving DecidableEq, Repr

/-- The class name of a kind of error. -/
def FaultKind.name : FaultKind → String
  | .connection => "ConnectionError"
  | .connectionRefused => "ConnectionRefusedError"
  | .connectionReset => "ConnectionResetError"
  | .runtime => "RuntimeError"
  | .value => "ValueError"
  | .type => "TypeError"
  | .timeout => "TimeoutError"
  | .os => "OSError"
  | .attribute => "AttributeError"
  | .key => "KeyError"
  | .cancelled => "CancelledError"

/-- What became too large. -/
inductive Excess
  /-- A power of floating-point numbers. -/
  | power
  /-- An integer that is no floating-point number. -/
  | number
  /-- A moment beyond the calendar. -/
  | calendar
  /-- A duration of more than 999999999 days. -/
  | duration (days : Int)
  deriving DecidableEq, Repr

/-- Why an operation fails. -/
inductive Error
  /-- An operation needs a connection that is not open. -/
  | notConnected (operation : String)
  /-- A channel could not be opened or provisioned. -/
  | channelCreation (purpose reason : String) (queue : Option String) (cause : Option Error)
  /-- An event has no handler and the registry is strict. -/
  | unhandledEvent (eventType eventId : String)
  /-- A message body is no envelope. -/
  | undecodable (reason : String) (issues : List Validation.Issue)
  /-- An input does not fit a model. -/
  | invalid (model : String) (issues : List Validation.Issue)
  /-- A field of an immutable record was assigned to. -/
  | frozenField (name : String)
  /-- A result is too large. -/
  | overflow (excess : Excess)
  /-- A failure of the transport or of a handler, or plain misuse. -/
  | fault (kind : FaultKind) (text : String)
  deriving Repr

namespace Error

/-- A refused argument. -/
abbrev badValue (text : String) : Error := .fault .value text

/-- The class that an error is reported under. -/
def name : Error → String
  | .notConnected _ => "NotConnectedError"
  | .channelCreation .. => "ChannelCreationError"
  | .unhandledEvent .. => "UnhandledEventError"
  | .undecodable .. => "EnvelopeDecodeError"
  | .invalid .. => "ValidationError"
  | .frozenField _ => "FrozenInstanceError"
  | .overflow _ => "OverflowError"
  | .fault kind _ => kind.name

/-- The text of an error. -/
def message : Error → String
  | .notConnected operation =>
    s!"Cannot {operation}: not connected to RabbitMQ (call connect() first)"
  | .channelCreation purpose reason queue _ =>
    let target := match queue with
      | some q => if q.isEmpty then "" else " for queue " ++ q
      | none => ""
    s!"Failed to create {purpose} channel{target}: {reason}"
  | .unhandledEvent eventType eventId =>
    s!"No handler registered for event type {eventType} (event_id: {eventId})"
  | .undecodable reason _ => "Invalid event envelope: " ++ reason
  | .invalid model issues => Validation.headline model issues
  | .frozenField field => s!"cannot assign to field '{field}'"
  | .overflow .power => "(34, 'Numerical result out of range')"
  | .overflow .number => "int too large to convert to float"
  | .overflow .calendar => "date value out of range"
  | .overflow (.duration days) => s!"days={days}; must have magnitude <= 999999999"
  | .fault _ text => text

/-- Whether an error is one of the library's own. -/
def isOwn : Error → Bool
  | .notConnected _ | .channelCreation .. | .unhandledEvent .. | .undecodable .. => true
  | _ => false

/-- Whether recovery applies to an error. Only a cancellation passes through it. -/
def isOrdinary : Error → Bool
  | .fault .cancelled _ => false
  | _ => true

end Error

end BrokerClient
