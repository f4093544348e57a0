import BrokerClient.Json.Printer
import BrokerClient.Json.Reader
import BrokerClient.Validation.Form

/-!
# Event envelopes

An envelope is all that the library knows of a message: an identifier, a type that is also the
routing key, a moment in UTC, perhaps the actor, and a payload with metadata. `Envelope.ofBytes`
reads a message body and `Envelope.toBytes` writes one. A body may leave out the identifier and the
moment; these then come from `Fresh`.

## Main definitions

* `Envelope` — an event and its data.
* `Envelope.ofBytes`, `Envelope.toBytes` — message bodies.
* `Envelope.create` — envelopes of given fields.
-/

namespace BrokerClient.Event

open Validation Calendar

/-- Who caused an event. -/
inductive UserId
  | number (n : Int)
  | text (s : String)
  deriving DecidableEq, Repr

/-- An event and its data. -/
structure Envelope where
  eventId : String
  eventType : String
  timestamp : Instant
  userId : Option UserId
  data : List (String × Json)
  metadata : List (String × Json)
  deriving Inhabited, Repr

/-- The identifier and the moment of an envelope that does not give its own. -/
structure Fresh where
  eventId : String
  now : Instant
  deriving Inhabited, Repr

namespace Envelope

/-- The model's name in reports. -/
def model : String := "EventEnvelope"

/-- A moment, or how a timestamp is refused. One that leaves the calendar is an error outright. -/
def settleTimestamp : Except Timestamp.Fault Instant → Checked Instant
  | .ok t => .ok t
  | .error .malformed => .error (.here .datetimeFromDateParsing)
  | .error .outOfRange => .error (.here .datetimeParsing)
  | .error .beyondCalendar => .error (.abort (.overflow .calendar))

/-- A moment: a number, a text or nothing else. -/
def readTimestamp (origin : Origin) : Json → Checked Instant
  | .int n =>
    if n.natAbs < Nat.pow 2 63 then settleTimestamp (Timestamp.ofInt n)
    else if origin == .value && n.natAbs < Nat.pow 2 1023 then .error (.here .datetimeParsing)
    else .error (.here .datetimeType)
  | .float x => settleTimestamp (Timestamp.ofFloat x)
  | .str s => settleTimestamp (Timestamp.ofText s)
  | _ => .error (.here .datetimeType)

/-- An actor. Integers and texts are kept as they are; of the rest only what reads as an integer
is taken. -/
def readUserId : Json → Checked (Option UserId)
  | .null => .ok none
  | .str s => .ok (some (.text s))
  | v => match Validation.int v with
    | .ok n => .ok (some (.number n))
    | .error r => .error (.issues [⟨["int"], r⟩, ⟨["str"], .stringType⟩])

/-- The fields of an envelope. -/
def form (fresh : Fresh) (origin : Origin) : Form Envelope :=
  Envelope.mk
    <$> .withDefault ⟨"eventId", "event_id"⟩ fresh.eventId nonEmptyString
    <*> .required ⟨"eventType", "event_type"⟩ nonEmptyString
    <*> .field (.single "timestamp") (.ok fresh.now) (readTimestamp origin)
    <*> .field ⟨"userId", "user_id"⟩ (.ok none) readUserId
    <*> .withDefault (.single "data") [] (object origin)
    <*> .withDefault (.single "metadata") [] (object origin)

/-- Reads a JSON value as an envelope. -/
def ofJson (fresh : Fresh) (origin : Origin) (v : Json) : Checked Envelope :=
  (form fresh origin).check model .ignore origin v

/-- Makes an envelope of given fields. -/
def create (fresh : Fresh) (fields : Json) : Except Error Envelope :=
  (ofJson fresh .value fields).mapError (Refusal.error model)

/-- The error of a refused body. Only a refusal of fields counts as undecodable. -/
def decodeError : Refusal → Error
  | .issues list => .undecodable (headline model list) list
  | .abort e => e

/-- Reads the JSON value of a body, if it is one, as an envelope. -/
def ofBody (fresh : Fresh) (body : Option Json) : Except Error Envelope :=
  match body with
  | some v => (ofJson fresh .text v).mapError decodeError
  | none => .error (decodeError (.here .jsonInvalid))

/-- Reads a message body. -/
def ofBytes (fresh : Fresh) (body : ByteArray) : Except Error Envelope :=
  ofBody fresh (Json.ofBytes? .standard body)

/-- Reads the text of a message body. -/
def ofText (fresh : Fresh) (body : String) : Except Error Envelope :=
  ofBody fresh (Json.ofText? .standard body)

/-- The JSON value of an actor. -/
def userIdJson : Option UserId → Json
  | none => .null
  | some (.number n) => .int n
  | some (.text s) => .str s

/-- The JSON value of an envelope, its fields in a fixed order. -/
def toJson (e : Envelope) : Json :=
  .obj [("eventId", .str e.eventId), ("eventType", .str e.eventType),
    ("timestamp", .str (e.timestamp.text "Z")), ("userId", userIdJson e.userId),
    ("data", .obj e.data), ("metadata", .obj e.metadata)]

/-- The text of an envelope's message body. -/
def text (e : Envelope) : String :=
  e.toJson.text

/-- The message body of an envelope. -/
def toBytes (e : Envelope) : ByteArray :=
  e.text.toUTF8

/-- A short form for people. -/
def summary (e : Envelope) : String :=
  s!"{e.eventType} (id={e.eventId})"

/-- Equality by value of two envelopes. -/
def same (a b : Envelope) : Bool :=
  a.eventId == b.eventId && a.eventType == b.eventType && a.timestamp == b.timestamp &&
    a.userId == b.userId && Json.same (.obj a.data) (.obj b.data) &&
    Json.same (.obj a.metadata) (.obj b.metadata)

end Envelope

end BrokerClient.Event
