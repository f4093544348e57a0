import BrokerClient.Event.Envelope
import BrokerClient.Proofs.Timestamps

/-!
# How reading a message body fails

Reading a body fails in one of two ways. Mostly the fields are refused, and the body counts as
undecodable. The other way is an error outright, which stops the reading; a form has one only if one
of its fields has, and of the fields of an envelope this is the timestamp, when its moment leaves
the calendar on the way to UTC. Such a timestamp stops the reading whatever the other fields are.

## Main definitions

* `Validation.Checked.abort?` — the error outright of a reading.
* `Event.Envelope.leavesCalendar` — whether a body gives a timestamp that leaves the calendar.

## Main results

* `Event.Envelope.ofBytes_error` — the two ways in which reading a body fails.
* `Event.Envelope.ofBytes_eq_beyondCalendar_iff` — the bodies that stop the reading.
-/

namespace BrokerClient

namespace Validation

variable {α β : Type}

namespace Checked

/-- The error outright of a reading, if it fails in this way. -/
def abort? : Checked α → Option Error
  | .error (.abort e) => some e
  | _ => none

@[simp]
theorem abort?_ok (a : α) : abort? (.ok a : Checked α) = none :=
  rfl

@[simp]
theorem abort?_issues (l : List Issue) : abort? (.error (.issues l) : Checked α) = none :=
  rfl

@[simp]
theorem abort?_here (r : Reason) : abort? (.error (.here r) : Checked α) = none :=
  rfl

theorem abort?_eq_some_iff {r : Checked α} {e : Error} :
    r.abort? = some e ↔ r = .error (.abort e) := by
  match r with
  | .ok a => simp
  | .error (.issues l) => simp
  | .error (.abort e') => simp [abort?]

@[simp]
theorem abort?_ofReading (r : Reading α) : (ofReading r).abort? = none := by
  cases r <;> rfl

@[simp]
theorem abort?_map (f : α → β) (r : Checked α) : abort? (Except.map f r) = r.abort? := by
  match r with
  | .ok a => rfl
  | .error (.issues l) => rfl
  | .error (.abort e) => rfl

@[simp]
theorem abort?_under (name : String) (r : Checked α) :
    abort? (r.mapError (Refusal.under name)) = r.abort? := by
  match r with
  | .ok a => rfl
  | .error (.issues l) => rfl
  | .error (.abort e) => rfl

/-- Of two readings the first error outright wins, whatever else is refused. -/
@[simp]
theorem abort?_apply (f : Checked (α → β)) (a : Checked α) :
    (f.apply a).abort? = f.abort?.or a.abort? := by
  match f, a with
  | .ok f, .ok a => rfl
  | .ok f, .error (.issues l) => rfl
  | .ok f, .error (.abort e) => rfl
  | .error (.issues l), .ok a => rfl
  | .error (.issues l), .error (.issues m) => rfl
  | .error (.issues l), .error (.abort e) => rfl
  | .error (.abort e), .ok a => rfl
  | .error (.abort e), .error r => rfl

end Checked

theorem FieldName.find?_single (name : String) (members : List (String × Json)) :
    (single name).find? members = (Json.member? name members).map (name, ·) := by
  unfold find? single
  cases Json.member? name members <;> rfl

namespace Form

variable {members : List (String × Json)}

@[simp]
theorem read_map (g : α → β) (f : Form α) :
    (g <$> f).read members = Except.map g (f.read members) :=
  rfl

@[simp]
theorem read_seq (f : Form (α → β)) (a : Form α) :
    (f <*> a).read members = (f.read members).apply (a.read members) :=
  rfl

theorem abort?_field (f : FieldName) (absent : Checked α) (read : Json → Checked α) :
    ((field f absent read).read members).abort? =
      (f.find? members).elim absent.abort? fun x => (read x.2).abort? := by
  simp only [field]
  cases f.find? members with
  | none => exact Checked.abort?_under _ _
  | some x => exact Checked.abort?_under _ _

@[simp]
theorem abort?_required (f : FieldName) (read : Json → Reading α) :
    ((required f read).read members).abort? = none := by
  rw [required, abort?_field]
  cases f.find? members <;> simp

@[simp]
theorem abort?_withDefault (f : FieldName) (default : α) (read : Json → Reading α) :
    ((withDefault f default read).read members).abort? = none := by
  rw [withDefault, abort?_field]
  cases f.find? members <;> simp

/-- A model that ignores members that belong to no field reads just the fields. -/
theorem check_ignore (f : Form α) (model : String) (origin : Origin) :
    f.check model .ignore origin (.obj members) = f.read members :=
  rfl

end Form

end Validation

namespace Event.Envelope

open Validation Calendar

/-- The error of a timestamp that leaves the calendar. -/
def beyondCalendar : Error := .overflow .calendar

theorem abort?_settleTimestamp (r : Except Timestamp.Fault Instant) (e : Error) :
    (settleTimestamp r).abort? = some e ↔ r = .error .beyondCalendar ∧ beyondCalendar = e := by
  match r with
  | .ok t => simp [settleTimestamp]
  | .error .malformed => simp [settleTimestamp]
  | .error .outOfRange => simp [settleTimestamp]
  | .error .beyondCalendar => simp [settleTimestamp, Checked.abort?, beyondCalendar]

/-- Whether a timestamp leaves the calendar. -/
def timestampLeaves : Json → Bool
  | .str s => (Timestamp.civil? s.toList).any Timestamp.Civil.leavesCalendar
  | _ => false

/-- Whether the timestamp of an object leaves the calendar. -/
def objectLeaves : Json → Bool
  | .obj members => (Json.member? "timestamp" members).any timestampLeaves
  | _ => false

/-- Whether the timestamp of a body leaves the calendar. -/
def leavesCalendar (body : ByteArray) : Bool :=
  (Json.ofBytes? .standard body).any objectLeaves

/-- Reading a timestamp stops outright if it leaves the calendar. -/
theorem abort?_readTimestamp (origin : Origin) (v : Json) (e : Error) :
    (readTimestamp origin v).abort? = some e ↔ timestampLeaves v ∧ beyondCalendar = e := by
  cases v with
  | str s =>
    rw [readTimestamp, abort?_settleTimestamp, Timestamp.ofText_eq_beyondCalendar_iff]
    rfl
  | int n =>
    have inside := Timestamp.ofMicros_ne (some (Timestamp.intMicros n))
    simp only [readTimestamp, timestampLeaves]
    split
    · simp [abort?_settleTimestamp, Timestamp.ofInt, inside]
    · split <;> simp
  | float x =>
    have inside := Timestamp.ofMicros_ne (Timestamp.floatMicros? x)
    simp [readTimestamp, timestampLeaves, abort?_settleTimestamp, Timestamp.ofFloat, inside]
  | null | bool | arr | obj => simp [readTimestamp, timestampLeaves]

@[simp]
theorem abort?_readUserId (v : Json) : (readUserId v).abort? = none := by
  unfold readUserId
  split
  · rfl
  · rfl
  · split <;> rfl

/-- Reading an envelope stops outright just at a timestamp that leaves the calendar. -/
theorem abort?_form (fresh : Fresh) (origin : Origin) (members : List (String × Json)) :
    ((form fresh origin).read members).abort? =
      (Json.member? "timestamp" members).bind fun v => (readTimestamp origin v).abort? := by
  have user : ((Form.field ⟨"userId", "user_id"⟩ (.ok none) readUserId).read members).abort? =
      none := by
    rw [Form.abort?_field]
    cases FieldName.find? _ members <;> simp
  have moment : ((Form.field (.single "timestamp") (.ok fresh.now) (readTimestamp origin)).read
      members).abort? =
      (Json.member? "timestamp" members).bind fun v => (readTimestamp origin v).abort? := by
    rw [Form.abort?_field, FieldName.find?_single]
    cases Json.member? "timestamp" members <;> rfl
  simp [form, user, moment]

theorem abort?_ofJson (fresh : Fresh) (origin : Origin) (v : Json) (e : Error) :
    (ofJson fresh origin v).abort? = some e ↔ objectLeaves v ∧ beyondCalendar = e := by
  cases v with
  | obj members =>
    rw [ofJson, Form.check_ignore, abort?_form, objectLeaves]
    cases Json.member? "timestamp" members with
    | none => simp
    | some v => exact abort?_readTimestamp origin v e
  | null | bool | int | float | str | arr => simp [ofJson, Form.check, objectLeaves]

/-- A body that cannot be read is undecodable, unless its timestamp leaves the calendar. -/
theorem ofBytes_error {fresh : Fresh} {body : ByteArray} {e : Error}
    (h : ofBytes fresh body = .error e) :
    (∃ reason issues, e = .undecodable reason issues) ∨
      leavesCalendar body ∧ e = beyondCalendar := by
  unfold ofBytes ofBody at h
  unfold leavesCalendar
  cases hv : Json.ofBytes? .standard body with
  | none =>
    simp only [hv, Refusal.here, decodeError, Except.error.injEq] at h
    exact .inl ⟨_, _, h.symm⟩
  | some v =>
    simp only [hv] at h
    match hr : ofJson fresh .text v with
    | .ok e => simp [hr, Except.mapError] at h
    | .error (.issues l) =>
      simp only [hr, Except.mapError, decodeError, Except.error.injEq] at h
      exact .inl ⟨_, _, h.symm⟩
    | .error (.abort e') =>
      simp only [hr, Except.mapError, decodeError, Except.error.injEq] at h
      subst h
      obtain ⟨leaves, eq⟩ := (abort?_ofJson fresh .text v e').mp (Checked.abort?_eq_some_iff.mpr hr)
      exact .inr ⟨leaves, eq.symm⟩

/-- A timestamp that leaves the calendar stops the reading. -/
theorem ofBytes_of_leavesCalendar {fresh : Fresh} {body : ByteArray} (h : leavesCalendar body) :
    ofBytes fresh body = .error beyondCalendar := by
  unfold leavesCalendar at h
  obtain ⟨v, hv, leaves⟩ := (Option.any_eq_true _ _).mp h
  have stopped := Checked.abort?_eq_some_iff.mp
    ((abort?_ofJson fresh .text v beyondCalendar).mpr ⟨leaves, rfl⟩)
  simp only [ofBytes, ofBody, hv, stopped, Except.mapError, decodeError]

end Event.Envelope

end BrokerClient
