import BrokerClient.Proofs.Decoding
import BrokerClient.Proofs.Calendar.Written
import BrokerClient.Proofs.Json.RoundTrip

/-!
# Message bodies of decoded envelopes

An envelope that has been decoded can be written and decoded again. Its payload and metadata come
from a body, so they are no deeper and their integers no longer than a reader puts up with, and its
identifier and type are not empty. The copy differs from it in one thing: a double that is no number
is written as null. So a payload without such doubles comes back as it is, and the copy is written
as the same bytes.

## Main definitions

* `Event.Envelope.decode` — the envelope of a body that is given as bytes or as a text.
* `Event.Envelope.finitePart` — an envelope with its doubles that are no numbers replaced.
* `Event.Envelope.Writable` — envelopes whose message bodies can be read.

## Main results

* `Event.Envelope.writable_of_decode` — a decoded envelope can be written.
* `Event.Envelope.ofBytes_toBytes` — an envelope that can be written is read from its body.
* `Event.Envelope.decode_toBytes` — what becomes of a decoded envelope.
-/

namespace BrokerClient

namespace Validation

variable {α β : Type}

theorem Checked.apply_eq_ok_iff {f : Checked (α → β)} {a : Checked α} {b : β} :
    f.apply a = .ok b ↔ ∃ g x, f = .ok g ∧ a = .ok x ∧ g x = b := by
  match f, a with
  | .ok g, .ok x => simp [apply]
  | .ok g, .error r => simp [apply]
  | .error r, .ok x => simp [apply]
  | .error r, .error s => simp [apply]

theorem Checked.map_eq_ok_iff {f : α → β} {a : Checked α} {b : β} :
    Except.map f a = .ok b ↔ ∃ x, a = .ok x ∧ f x = b := by
  cases a <;> simp [Except.map]

theorem Checked.mapError_ok {γ : Type} (f : Refusal → γ) (x : α) :
    (.ok x : Checked α).mapError f = .ok x :=
  rfl

theorem Checked.mapError_eq_ok_iff {γ : Type} {f : Refusal → γ} {a : Checked α} {x : α} :
    a.mapError f = .ok x ↔ a = .ok x := by
  cases a with
  | ok y =>
    constructor
    · rintro ⟨⟩
      rfl
    · rintro ⟨⟩
      rfl
  | error r =>
    constructor
    · rintro ⟨⟩
    · rintro ⟨⟩

@[simp]
theorem Checked.ofReading_eq_ok_iff {r : Reading α} {x : α} :
    ofReading r = .ok x ↔ r = .ok x := by
  cases r <;> simp [ofReading]

theorem nonEmptyString_str {s : String} (h : s ≠ "") : nonEmptyString (.str s) = .ok s := by
  have full : s.isEmpty = false := by simpa using h
  change (if s.isEmpty then Except.error Reason.stringTooShort else .ok s) = .ok s
  rw [full]
  rfl

theorem ne_empty_of_nonEmptyString {v : Json} {s : String} (h : nonEmptyString v = .ok s) :
    s ≠ "" := by
  cases v with
  | str t =>
    change (if t.isEmpty then Except.error Reason.stringTooShort else .ok t) = .ok s at h
    split at h
    · cases h
    · rename_i full
      cases h
      simpa using full
  | null | bool | int | float | arr | obj => cases h

/-- An integer that is read is at least the bound. -/
theorem le_of_intFrom {low n : Int} {v : Json} (h : intFrom low v = .ok n) : low ≤ n := by
  unfold intFrom at h
  cases read : int v with
  | error r =>
    rw [read] at h
    cases h
  | ok m =>
    rw [read] at h
    change (if m < low then Except.error (Reason.atLeast low) else .ok m) = .ok n at h
    split at h
    · cases h
    · rename_i reaches
      cases h
      exact Int.not_lt.mp reaches

theorem object_eq_ok_iff {origin : Origin} {v : Json} {ms : List (String × Json)} :
    object origin v = .ok ms ↔ v = .obj ms := by
  cases v <;> simp [object]

variable {members : List (String × Json)}

/-- The member that gives a field is one of the members. -/
theorem FieldName.mem_of_find? {f : FieldName} {name : String} {v : Json}
    (h : f.find? members = some (name, v)) : (name, v) ∈ members := by
  unfold find? at h
  split at h
  · cases h
    exact Json.mem_of_member? ‹_›
  · obtain ⟨w, found, eq⟩ := Option.map_eq_some_iff.mp h
    cases eq
    exact Json.mem_of_member? found

namespace Form

variable {α : Type}

/-- A field is read from a member or has the value of a field that is not given. -/
theorem field_eq_ok {f : FieldName} {absent : Checked α} {read : Json → Checked α} {a : α}
    (h : (field f absent read).read members = .ok a) :
    (∃ name v, (name, v) ∈ members ∧ read v = .ok a) ∨ absent = .ok a := by
  simp only [field] at h
  split at h
  · rename_i name v found
    exact .inl ⟨name, v, FieldName.mem_of_find? found, Checked.mapError_eq_ok_iff.mp h⟩
  · exact .inr (Checked.mapError_eq_ok_iff.mp h)

end Form

end Validation

namespace Event

open Validation Calendar Number

/-- A double that is read as an integer has few digits. -/
theorem natAbs_lt_of_intOfFloat {x : Float} {n : ℤ} (h : intOfFloat x = .ok n) :
    n.natAbs < 10 ^ 19 := by
  unfold intOfFloat at h
  split at h
  · cases h
  · split at h
    · split at h
      · rename_i lt
        cases h
        exact Nat.lt_trans lt (by decide)
      · cases h
    · cases h

/-- What is read as an integer from anything but a text has no more digits than a reader puts up
with. -/
theorem digitCount_of_int {depth : ℕ} {v : Json} {n : ℤ} (fits : Json.Fits .standard depth v)
    (h : Validation.int v = .ok n) (noText : ∀ s, v ≠ .str s) :
    digitCount n.natAbs ≤ Json.Limits.standard.digits := by
  have small {k : ℕ} (lt : k < 10 ^ 19) : digitCount k ≤ Json.Limits.standard.digits := by
    have short : digitCount k ≤ 19 := (Nat.length_toDigits_le_iff (by decide) (by decide)).mpr lt
    exact short.trans (by decide)
  cases fits with
  | int short =>
    cases h
    exact short
  | bool b => cases b <;> cases h <;> exact small (by decide)
  | float x => exact small (natAbs_lt_of_intOfFloat h)
  | str s => exact absurd rfl (noText s)
  | null | emptyArr | arr | emptyObj | obj => cases h

theorem digitCount_of_readUserId {depth : ℕ} {v : Json} {n : ℤ}
    (fits : Json.Fits .standard depth v)
    (h : Envelope.readUserId v = .ok (some (.number n))) :
    digitCount n.natAbs ≤ Json.Limits.standard.digits := by
  unfold Envelope.readUserId at h
  split at h
  · cases h
  · cases h
  · rename_i noText
    split at h
    · rename_i read
      cases h
      exact digitCount_of_int fits read noText
    · cases h

namespace Envelope

variable {fresh : Fresh} {e : Envelope}

/-- An envelope as it is decoded from its message body. -/
def finitePart (e : Envelope) : Envelope :=
  { e with data := Json.finiteMembers e.data, metadata := Json.finiteMembers e.metadata }

/-- Envelopes whose message bodies can be read. -/
structure Writable (e : Envelope) : Prop where
  eventId : e.eventId ≠ ""
  eventType : e.eventType ≠ ""
  userId : ∀ n, e.userId = some (.number n) → digitCount n.natAbs ≤ Json.Limits.standard.digits
  data : Json.Fits .standard 199 (.obj e.data)
  metadata : Json.Fits .standard 199 (.obj e.metadata)

/-- What a form reads from members that fit can be written. -/
theorem writable_of_form {members : List (String × Json)} (named : fresh.eventId ≠ "")
    (fits : ∀ m ∈ members, Json.Fits .standard 199 m.2)
    (h : (form fresh .text).read members = .ok e) : Writable e := by
  simp only [form, Form.read_map, Form.read_seq, Checked.apply_eq_ok_iff,
    Checked.map_eq_ok_iff] at h
  obtain ⟨_, metadata, ⟨_, data, ⟨_, user, ⟨_, moment, ⟨_, type, ⟨id, hid, rfl⟩, htype, rfl⟩,
    -, rfl⟩, huser, rfl⟩, hdata, rfl⟩, hmetadata, rfl⟩ := h
  have object_fits {ms : List (String × Json)} {name : String}
      (h : (Form.withDefault (.single name) [] (object .text)).read members = .ok ms) :
      Json.Fits .standard 199 (.obj ms) := by
    rcases Form.field_eq_ok h with ⟨_, v, mem, read⟩ | default
    · rw [Checked.ofReading_eq_ok_iff, object_eq_ok_iff] at read
      have := fits _ mem
      rwa [read] at this
    · cases default
      exact .emptyObj
  refine ⟨?_, ?_, ?_, object_fits hdata, object_fits hmetadata⟩
  · rcases Form.field_eq_ok hid with ⟨_, v, -, read⟩ | default
    · exact ne_empty_of_nonEmptyString (Checked.ofReading_eq_ok_iff.mp read)
    · cases default
      exact named
  · rcases Form.field_eq_ok htype with ⟨_, v, -, read⟩ | default
    · exact ne_empty_of_nonEmptyString (Checked.ofReading_eq_ok_iff.mp read)
    · cases default
  · intro n number
    simp only at number
    subst number
    rcases Form.field_eq_ok huser with ⟨_, v, mem, read⟩ | default
    · exact digitCount_of_readUserId (fits _ mem) read
    · cases default

/-- Reads a message body that is given as bytes or as a text. -/
def decode (fresh : Fresh) (body : ByteArray ⊕ String) : Except Error Envelope :=
  body.elim (ofBytes fresh) (ofText fresh)

theorem writable_of_ofBody {body : Option Json} (named : fresh.eventId ≠ "")
    (fits : ∀ v ∈ body, Json.Fits .standard 200 v) (h : ofBody fresh body = .ok e) :
    Writable e := by
  cases body with
  | none => cases h
  | some v =>
    have read := Checked.mapError_eq_ok_iff.mp h
    cases fits v rfl with
    | obj names values => exact writable_of_form named values read
    | emptyObj => exact writable_of_form named (by simp) read
    | null | bool | int | float | str | emptyArr | arr => cases read

/-- A decoded envelope can be written. -/
theorem writable_of_decode {body : ByteArray ⊕ String} (named : fresh.eventId ≠ "")
    (h : decode fresh body = .ok e) : Writable e := by
  cases body with
  | inl bytes => exact writable_of_ofBody named (fun _ read => Json.fits_of_ofBytes? read) h
  | inr text => exact writable_of_ofBody named (fun _ read => Json.fits_of_ofChars? read) h

/-- The message body of an envelope is a text that can be read. -/
theorem Writable.fits (w : Writable e) : Json.Fits .standard 200 e.toJson := by
  have user : Json.Fits .standard 199 (userIdJson e.userId) := by
    cases actor : e.userId with
    | none => exact .null
    | some u =>
      cases u with
      | number n => exact .int (w.userId n actor)
      | text s => exact .str s
  have names : ["eventId", "eventType", "timestamp", "userId", "data", "metadata"].Nodup := by
    decide
  refine .obj names ?_
  simp only [List.forall_mem_cons]
  exact ⟨.str _, .str _, .str _, user, w.data, w.metadata, by simp⟩

/-- Replacing doubles and making a JSON value can be done in either order. -/
theorem finitePart_toJson (e : Envelope) : e.toJson.finitePart = e.finitePart.toJson := by
  have user : (userIdJson e.userId).finitePart = userIdJson e.userId := by
    match e.userId with
    | none => rfl
    | some (.number n) => rfl
    | some (.text s) => rfl
  simp [toJson, finitePart, Json.finitePart, Json.finiteMembers, user]

theorem readUserId_userIdJson (u : Option UserId) : readUserId (userIdJson u) = .ok u := by
  match u with
  | none => rfl
  | some (.number n) => rfl
  | some (.text s) => rfl

/-- An envelope is read from its JSON value. -/
theorem ofJson_toJson {e : Envelope} (id : e.eventId ≠ "") (type : e.eventType ≠ "")
    (fresh : Fresh) : ofJson fresh .text e.toJson = .ok e := by
  have moment : readTimestamp .text (.str (e.timestamp.text "Z")) = .ok e.timestamp := by
    rw [readTimestamp, Instant.ofText_text]
    rfl
  rw [ofJson, toJson, Form.check_ignore]
  simp [form, Form.withDefault, Form.required, Form.field, FieldName.find?, FieldName.single,
    Json.member?, nonEmptyString_str id, nonEmptyString_str type, moment, readUserId_userIdJson,
    object, Checked.ofReading, Checked.apply, Except.map, Checked.mapError_ok]

/-- An envelope that can be written is read from its message body as its finite part. -/
theorem ofBytes_toBytes (w : Writable e) (fresh : Fresh) :
    ofBytes fresh e.toBytes = .ok e.finitePart := by
  have read := Json.ofBytes?_toUTF8 w.fits
  have same : ofJson fresh .text e.finitePart.toJson = .ok e.finitePart :=
    ofJson_toJson (e := e.finitePart) w.eventId w.eventType fresh
  rw [ofBytes, toBytes, text, read, finitePart_toJson, ofBody, same]
  rfl

/-- What a decoded copy is written as. -/
theorem toBytes_finitePart (e : Envelope) : e.finitePart.toBytes = e.toBytes := by
  rw [toBytes, toBytes, text, text, Json.text, Json.text, ← finitePart_toJson,
    Json.chars_finitePart]

/-- An envelope whose doubles are all numbers is its own finite part. -/
theorem finitePart_of_allFinite (data : Json.allFiniteMembers e.data)
    (metadata : Json.allFiniteMembers e.metadata) : e.finitePart = e := by
  rw [finitePart, Json.finiteMembers_of_allFinite data, Json.finiteMembers_of_allFinite metadata]

/-- A decoded envelope is read from its own message body, each double that is no number replaced by
null and nothing else changed; and what is read has the same message body. -/
theorem decode_toBytes {fresh : Fresh} {body : ByteArray ⊕ String} {e : Envelope}
    (named : fresh.eventId ≠ "") (h : decode fresh body = .ok e) (again : Fresh) :
    ofBytes again e.toBytes = .ok e.finitePart ∧
      (Json.allFiniteMembers e.data → Json.allFiniteMembers e.metadata → e.finitePart = e) ∧
      e.finitePart.toBytes = e.toBytes :=
  ⟨ofBytes_toBytes (writable_of_decode named h) again, finitePart_of_allFinite,
    toBytes_finitePart e⟩

/-- An order as a service may write it: the identifier and the moment are left out, and one number
of the payload is none. -/
def unratedOrder : String :=
  "\x7b\"eventType\":\"order.paid\",\"userId\":7,\"data\":\x7b\"rate\":NaN,\"items\":[1,2]\x7d\x7d"

theorem ofText?_unratedOrder : Json.ofText? .standard unratedOrder =
    some (.obj [("eventType", .str "order.paid"), ("userId", .int 7),
      ("data", .obj [("rate", .float notANumber), ("items", .arr [.int 1, .int 2])])]) := by
  rw [unratedOrder, Json.ofText?, String.toList_ofList]
  rfl

theorem decode_toBytes_unratedOrder :
    let fresh : Fresh := ⟨"e1", default⟩
    let e : Envelope := ⟨"e1", "order.paid", default, some (.number 7),
      [("rate", .float notANumber), ("items", .arr [.int 1, .int 2])], []⟩
    fresh.eventId ≠ "" ∧ decode fresh (.inr unratedOrder) = .ok e ∧
      ofBytes fresh e.toBytes = .ok e.finitePart ∧
      (Json.allFiniteMembers e.data → Json.allFiniteMembers e.metadata → e.finitePart = e) ∧
      e.finitePart.toBytes = e.toBytes := by
  intro fresh e
  have named : fresh.eventId ≠ "" := by decide
  have read : decode fresh (.inr unratedOrder) = .ok e := by
    rw [decode, Sum.elim_inr, ofText, ofText?_unratedOrder]
    rfl
  exact ⟨named, read, decode_toBytes named read fresh⟩

end Envelope

end Event

end BrokerClient
