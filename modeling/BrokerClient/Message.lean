import BrokerClient.Event.Envelope

/-!
# Messages and how they are published

`PublishOptions` says how one message is sent: its priority, its time to live, whether it survives a
restart of the broker and how often sending it is tried again. `Message` is what is sent. A time to
live is given in milliseconds; on the wire it is the text of whole milliseconds of a duration
whose seconds are a double, so it may come out one less than it was given.
-/

namespace BrokerClient

open Validation Calendar

/-- How one message is published. -/
structure PublishOptions where
  priority : Option Int := none
  /-- Time to live in milliseconds. -/
  expiration : Option Int := none
  persistent : Bool := true
  maxRetries : Int := 0
  deriving DecidableEq, Repr, Inhabited

namespace PublishOptions

/-- The model's name in reports. -/
def model : String := "PublishOptions"

/-- The fields of the options. -/
def form : Form PublishOptions :=
  PublishOptions.mk
    <$> .withDefault (.single "priority") none (optional (intWithin 0 255))
    <*> .withDefault (.single "expiration") none (optional (intFrom 0))
    <*> .withDefault (.single "persistent") true bool
    <*> .withDefault (.single "max_retries") 0 (intFrom 0)

/-- Reads a JSON value as publish options. -/
def ofJson (origin : Origin) : Json → Checked PublishOptions :=
  form.check model .forbid origin

/-- Makes options of given fields. -/
def create (fields : Json) : Except Error PublishOptions :=
  (ofJson .value fields).mapError (Refusal.error model)

/-- The milliseconds of a day. -/
def dayLength : Int := 86400000

/-- The longest duration in days. -/
def longestDuration : Int := 999999999

/-- The wire text of a time to live in milliseconds. -/
def expirationText (milliseconds : Int) : Except Error String :=
  let days := milliseconds / dayLength
  if longestDuration < days then .error (.overflow (.duration days))
  else
    let seconds := Float.ofScientific milliseconds.toNat true 3
    match Number.truncate? (seconds * 1000) with
    | some n => .ok (toString n)
    | none => .error (.overflow (.duration days))

/-- The wire text of the time to live, if there is one. -/
def wireExpiration (o : PublishOptions) : Except Error (Option String) :=
  match o.expiration with
  | some ms => (expirationText ms).map some
  | none => .ok none

/-- A time to live that is too long is an ordinary error. -/
theorem wireExpiration_ordinary {o : PublishOptions} {e : Error}
    (h : o.wireExpiration = .error e) : e.isOrdinary := by
  have text {ms : Int} (h : expirationText ms = .error e) : e.isOrdinary := by
    simp only [expirationText] at h
    split at h
    · cases h
      rfl
    · split at h <;> cases h
      rfl
  rw [wireExpiration] at h
  split at h
  · rename_i ms _
    cases result : expirationText ms with
    | ok t => simp [result, Except.map] at h
    | error e' =>
      simp only [result, Except.map, Except.error.injEq] at h
      exact text (h ▸ result)
  · cases h

end PublishOptions

/-- A message as it is sent. -/
structure Message where
  body : ByteArray
  contentType : String
  contentEncoding : Option String
  persistent : Bool
  priority : Option Int
  expiration : Option String
  messageId : Option String
  eventType : Option String
  timestamp : Option Instant
  headers : List (String × Json)

namespace Message

/-- The message that carries an envelope. -/
def ofEnvelope (e : Event.Envelope) (o : PublishOptions) : Except Error Message := do
  let expiration ← o.wireExpiration
  return {
    body := e.toBytes
    contentType := "application/json"
    contentEncoding := some "utf-8"
    persistent := o.persistent
    priority := o.priority
    expiration := expiration
    messageId := some e.eventId
    eventType := some e.eventType
    timestamp := some e.timestamp
    headers := [] }

/-- The message that carries given bytes. -/
def ofBytes (body : ByteArray) (contentType : String) (headers : List (String × Json))
    (o : PublishOptions) : Except Error Message := do
  let expiration ← o.wireExpiration
  return {
    body := body
    contentType := contentType
    contentEncoding := none
    persistent := o.persistent
    priority := o.priority
    expiration := expiration
    messageId := none
    eventType := none
    timestamp := none
    headers := headers }

/-- A message that cannot be made is an ordinary error. -/
private theorem made_ordinary {o : PublishOptions} {make : Option String → Message} {e : Error}
    (h : (o.wireExpiration >>= fun expiration => pure (make expiration)) = .error e) :
    e.isOrdinary := by
  cases result : o.wireExpiration with
  | ok expiration =>
    rw [result] at h
    cases h
  | error e' =>
    rw [result] at h
    cases h
    exact PublishOptions.wireExpiration_ordinary result

theorem ofEnvelope_ordinary {envelope : Event.Envelope} {o : PublishOptions} {e : Error}
    (h : ofEnvelope envelope o = .error e) : e.isOrdinary :=
  made_ordinary h

theorem ofBytes_ordinary {body : ByteArray} {contentType : String}
    {headers : List (String × Json)} {o : PublishOptions} {e : Error}
    (h : ofBytes body contentType headers o = .error e) : e.isOrdinary :=
  made_ordinary h

/-- The wire number of the delivery mode: two keeps a message over a restart of the broker. -/
def deliveryMode (m : Message) : Nat :=
  if m.persistent then 2 else 1

end Message

end BrokerClient
