import BrokerClient.Proofs.Forms
import BrokerClient.Proofs.Json.Equality

/-!
# Envelopes by the members of their bodies

Whether a body is accepted and which envelope it gives depends on the values of six fields. The
identifier and the moment of an envelope come from outside only where the body does not give them,
so two readings of one body differ at most in these two fields.

## Main definitions

* `Envelope.bodyJson?` — the value of a body that is given as bytes or as a text.
* `Envelope.renewed` — an envelope with another identifier and moment where none is given.

## Main results

* `Envelope.respects_form` — members that give the same values are read alike.
* `Envelope.toOption_decode_fresh` — a body that is read once more.
* `Envelope.same_self_of_decode` — which decoded envelopes are equal to themselves.
-/

namespace BrokerClient.Event.Envelope

open Validation Calendar

variable {fresh : Fresh} {origin : Origin} {body : ByteArray ⊕ String} {e : Envelope}
  {ms : List (String × Json)}

/-! ### Fields -/

/-- The field of the identifier. -/
def idField : FieldName := ⟨"eventId", "event_id"⟩

/-- The field of the moment. -/
def momentField : FieldName := .single "timestamp"

/-- The fields of an envelope. -/
def fields : List FieldName :=
  [idField, ⟨"eventType", "event_type"⟩, momentField, ⟨"userId", "user_id"⟩, .single "data",
    .single "metadata"]

theorem fields_form (fresh : Fresh) (origin : Origin) : (form fresh origin).fields = fields :=
  rfl

theorem unambiguous : Unambiguous fields := by
  decide

/-- Members are read alike that give the same value to each field, or two values that are the same
moment. -/
theorem respects_form {V : FieldName → Json → Json → Prop}
    (moment : ∀ v v', V momentField v v' →
      (readTimestamp origin v).toOption = (readTimestamp origin v').toOption)
    (others : ∀ f, f ≠ momentField → ∀ v v', V f v v' → v = v') :
    (form fresh origin).Respects V :=
  .seq (.seq (.seq (.seq (.seq (.map _ (.withDefault (others _ (by decide))))
    (.required (others _ (by decide)))) (.field moment))
    (.field fun v v' same => by rw [others _ (by decide) v v' same]))
    (.withDefault (others _ (by decide)))) (.withDefault (others _ (by decide)))

/-- The moment of an envelope is read from the value of its field. -/
theorem readTimestamp_of_form {v : Json} (given : momentField.value? ms = some v)
    (h : (form fresh origin).read ms = .ok e) : readTimestamp origin v = .ok e.timestamp := by
  simp only [form, Form.read_map, Form.read_seq, Checked.apply_eq_ok_iff,
    Checked.map_eq_ok_iff] at h
  obtain ⟨_, _, ⟨_, _, ⟨_, _, ⟨_, moment, ⟨_, _, ⟨_, -, rfl⟩, -, rfl⟩, read, rfl⟩, -, rfl⟩, -,
    rfl⟩, -, rfl⟩ := h
  rw [← toOption_eq_some_iff, Form.toOption_read_field, ← momentField, given] at read
  exact toOption_eq_some_iff.mp read

/-! ### Reading once more -/

/-- An envelope with another identifier and moment where the members give none. -/
def renewed (fresh : Fresh) (ms : List (String × Json)) (e : Envelope) : Envelope :=
  { e with
    eventId := if (idField.value? ms).isSome then e.eventId else fresh.eventId
    timestamp := if (momentField.value? ms).isSome then e.timestamp else fresh.now }

theorem renewed_of_given (id : (idField.value? ms).isSome)
    (moment : (momentField.value? ms).isSome) :
    e.renewed fresh ms = e := by
  simp [renewed, id, moment]

/-- The record of the fields, each of which has to be read. -/
theorem toOption_form (fresh : Fresh) (origin : Origin) (ms : List (String × Json)) :
    ((form fresh origin).read ms).toOption =
      ((idField.value? ms).elim (some fresh.eventId) fun v => (nonEmptyString v).toOption).bind
        fun id => ((Form.required ⟨"eventType", "event_type"⟩ nonEmptyString).read ms).toOption.bind
        fun type => ((momentField.value? ms).elim (some fresh.now)
          fun v => (readTimestamp origin v).toOption).bind
        fun moment => ((Form.field ⟨"userId", "user_id"⟩ (.ok none) readUserId).read ms).toOption.bind
        fun user =>
          ((Form.withDefault (.single "data") [] (object origin)).read ms).toOption.bind
        fun data =>
          ((Form.withDefault (.single "metadata") [] (object origin)).read ms).toOption.map
        fun metadata => ⟨id, type, moment, user, data, metadata⟩ := by
  have moment : ((momentField.value? ms).elim (some fresh.now)
      fun v => (readTimestamp origin v).toOption) =
        ((Form.field momentField (.ok fresh.now) (readTimestamp origin)).read ms).toOption :=
    (Form.toOption_read_field momentField (.ok fresh.now) (readTimestamp origin) ms).symm
  rw [← Form.toOption_read_withDefault, moment]
  simp only [form, Form.read_map, Form.read_seq, Checked.toOption_apply, Checked.toOption_map,
    Option.bind_map, Option.bind_assoc, Function.comp_def]
  rfl

/-- What is not given comes from outside, and nothing else. -/
theorem toOption_form_fresh (fresh again : Fresh) (origin : Origin) (ms : List (String × Json)) :
    ((form again origin).read ms).toOption =
      ((form fresh origin).read ms).toOption.map (renewed again ms) := by
  rw [toOption_form, toOption_form]
  cases id : idField.value? ms <;> cases moment : momentField.value? ms <;>
    simp [renewed, id, moment, Option.map_bind, Function.comp_def]

/-! ### Bodies -/

/-- The value of a body that is given as bytes or as a text. -/
def bodyJson? (body : ByteArray ⊕ String) : Option Json :=
  body.elim (Json.ofBytes? .standard) (Json.ofText? .standard)

theorem decode_eq_ofBody (fresh : Fresh) (body : ByteArray ⊕ String) :
    decode fresh body = ofBody fresh (bodyJson? body) := by
  cases body <;> rfl

theorem fits_of_bodyJson? {v : Json} (h : bodyJson? body = some v) :
    Json.Fits .standard 200 v := by
  cases body with
  | inl bytes => exact Json.fits_of_ofBytes? h
  | inr text => exact Json.fits_of_ofChars? h

/-- The names of a body are distinct. -/
theorem nodup_of_bodyJson? (h : bodyJson? body = some (.obj ms)) : (ms.map Prod.fst).Nodup := by
  cases fits_of_bodyJson? h with
  | obj names _ => exact names
  | emptyObj => exact List.nodup_nil

/-- An accepted body is an object. -/
theorem bodyJson?_of_decode (h : decode fresh body = .ok e) :
    ∃ ms, bodyJson? body = some (.obj ms) := by
  rw [decode_eq_ofBody] at h
  cases value : bodyJson? body with
  | none =>
    rw [value] at h
    cases h
  | some v =>
    rw [value] at h
    have read := Checked.mapError_eq_ok_iff.mp h
    cases v with
    | obj ms => exact ⟨ms, rfl⟩
    | null | bool | int | float | str | arr => cases read

/-- The envelope of a body is that of its members. -/
theorem toOption_decode (h : bodyJson? body = some (.obj ms)) (fresh : Fresh) :
    (decode fresh body).toOption = ((form fresh .text).read ms).toOption := by
  rw [decode_eq_ofBody, h, ofBody, ← Form.check_ignore _ model .text]
  exact Checked.toOption_mapError _ _

theorem decode_eq_ok_iff (h : bodyJson? body = some (.obj ms)) :
    decode fresh body = .ok e ↔ (form fresh .text).read ms = .ok e := by
  rw [← toOption_eq_some_iff, toOption_decode h, toOption_eq_some_iff]

/-- A body is accepted or refused once more, and what it does not give is new. -/
theorem toOption_decode_fresh (h : bodyJson? body = some (.obj ms)) (fresh again : Fresh) :
    (decode again body).toOption = (decode fresh body).toOption.map (renewed again ms) := by
  rw [toOption_decode h, toOption_decode h, toOption_form_fresh fresh]

/-- What a body gives as payload and metadata has been read. -/
theorem fits_of_decode (h : decode fresh body = .ok e) :
    Json.Fits .standard 199 (.obj e.data) ∧ Json.Fits .standard 199 (.obj e.metadata) := by
  obtain ⟨ms, value⟩ := bodyJson?_of_decode h
  -- an identifier that comes from outside need not be one that can be written
  let named : Fresh := ⟨"e", default⟩
  have nonempty : named.eventId ≠ "" := by decide
  have again : decode named body = .ok (e.renewed named ms) := by
    rw [← toOption_eq_some_iff, toOption_decode_fresh value fresh, h]
    rfl
  have writable := writable_of_decode nonempty again
  exact ⟨writable.data, writable.metadata⟩

/-- Whether no double of an envelope is a NaN. -/
def nanFree (e : Envelope) : Bool :=
  Json.nanFreeMembers e.data && Json.nanFreeMembers e.metadata

/-- A decoded envelope is equal to itself exactly if none of its doubles is a NaN. -/
theorem same_self_of_decode (h : decode fresh body = .ok e) : e.same e = e.nanFree := by
  obtain ⟨data, metadata⟩ := fits_of_decode h
  simp only [same, beq_self_eq_true, Bool.true_and, Json.same_self data, Json.same_self metadata]
  rfl

end BrokerClient.Event.Envelope
