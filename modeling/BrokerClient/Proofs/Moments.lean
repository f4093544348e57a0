import BrokerClient.Proofs.Envelopes
import BrokerClient.Proofs.Calendar.Writings

/-!
# The moments of decoded envelopes

The moment of an envelope is the one that its body writes, moved to UTC and cut to the microsecond.
How it is written leaves no trace: bodies that write the same moment in different ways, and are the
same otherwise, give the same envelope.

## Main results

* `Envelope.decode_writing` — what becomes of a written moment.
-/

namespace BrokerClient

open Validation

/-! ### Writings as texts -/

namespace Calendar.Timestamp.Writing

variable {w : Writing} {t : Instant}

/-- The text of a writing. -/
def text (w : Writing) : String := String.ofList w.chars

theorem ofText_text (w : Writing) : ofText w.text = w.civil.instant := by
  simp [ofText, text, w.civil?_chars]

/-- A civil date and time that is accepted has its instant in UTC. -/
theorem of_instant_eq_ok {c : Civil} (h : c.instant = .ok t) :
    1 ≤ c.date.year ∧ t.micros = c.micros := by
  unfold Civil.instant at h
  split at h
  · cases h
  · rename_i year
    refine ⟨Nat.one_le_iff_ne_zero.mpr (by simpa using year), ?_⟩
    simp only at h
    split at h
    · rename_i read
      cases h
      exact Instant.micros_of_ofMicros? read
    · cases h

end Calendar.Timestamp.Writing

namespace Event.Envelope

open Calendar Timestamp

variable {fresh : Fresh} {body : ByteArray ⊕ String} {e : Envelope} {ms : List (String × Json)}

/-! ### The moment that is read -/

theorem settleTimestamp_eq_ok_iff {r : Except Fault Instant} {t : Instant} :
    settleTimestamp r = .ok t ↔ r = .ok t := by
  match r with
  | .ok _ => simp [settleTimestamp]
  | .error .malformed => simp [settleTimestamp]
  | .error .outOfRange => simp [settleTimestamp]
  | .error .beyondCalendar => simp [settleTimestamp]

theorem value?_momentField (ms : List (String × Json)) :
    momentField.value? ms = Json.member? "timestamp" ms := by
  rw [FieldName.value?, momentField, FieldName.find?_single, Option.map_map]
  exact Option.map_id'

/-- An accepted body with a written moment has an instant of this moment. -/
theorem instant_of_decode {w : Writing} (value : bodyJson? body = some (.obj ms))
    (given : Json.member? "timestamp" ms = some (.str w.text)) (h : decode fresh body = .ok e) :
    w.civil.instant = .ok e.timestamp := by
  rw [← value?_momentField] at given
  have read := readTimestamp_of_form given ((decode_eq_ok_iff value).mp h)
  rwa [readTimestamp, settleTimestamp_eq_ok_iff, Writing.ofText_text] at read

/-! ### One moment in two writings -/

theorem member?_replace {name other : String} (h : name ≠ other) (v v' : Json)
    (before after : List (String × Json)) :
    Json.member? name (before ++ (other, v) :: after) =
      Json.member? name (before ++ (other, v') :: after) := by
  induction before with
  | nil => simp [Json.member?, h.symm]
  | cons m before ih =>
    obtain ⟨first, u⟩ := m
    by_cases same : first = name <;> simp [Json.member?, same, ih]

/-- Fields of other names do not see that a member has another value. -/
theorem value?_replace {f : FieldName} {other : String} (h : other ∉ f.spellings) (v v' : Json)
    (before after : List (String × Json)) :
    f.value? (before ++ (other, v) :: after) = f.value? (before ++ (other, v') :: after) := by
  simp only [FieldName.spellings, List.mem_cons, not_or] at h
  have preferred := member?_replace (Ne.symm h.1) v v' before after
  have plain := member?_replace (Ne.symm h.2.1) v v' before after
  simp only [FieldName.value?, FieldName.find?, preferred, plain]

/-- Members that differ in the moment alone, in two values that are read alike, are read alike. -/
theorem toOption_form_replace {origin : Origin} {v v' : Json} {before after : List (String × Json)}
    (names : ((before ++ ("timestamp", v) :: after).map Prod.fst).Nodup)
    (same : (readTimestamp origin v).toOption = (readTimestamp origin v').toOption) :
    ((form fresh origin).read (before ++ ("timestamp", v) :: after)).toOption =
      ((form fresh origin).read (before ++ ("timestamp", v') :: after)).toOption := by
  have given {v : Json} (names : ((before ++ ("timestamp", v) :: after).map Prod.fst).Nodup) :
      momentField.value? (before ++ ("timestamp", v) :: after) = some v := by
    rw [value?_momentField]
    exact Json.member?_of_mem names (by simp)
  have names' : ((before ++ ("timestamp", v') :: after).map Prod.fst).Nodup := by
    simpa using names
  refine respects_form (V := fun f v v' => if f = momentField then
    (readTimestamp origin v).toOption = (readTimestamp origin v').toOption else v = v')
    (fun v v' => by simp) (fun f other v v' => by simp [other]) _ _ fun f mem => ?_
  by_cases moment : f = momentField
  · subst moment
    rw [given names, given names']
    exact .some (by simpa using same)
  · have moment_mem : momentField ∈ fields := by decide
    have other : "timestamp" ∉ f.spellings := fun spelled =>
      moment (unambiguous f mem momentField moment_mem "timestamp" spelled (by decide))
    rw [value?_replace other v v']
    generalize f.value? _ = value
    cases value with
    | none => exact .none
    | some v => exact .some (by simp [moment])

/-- The members of a body that writes its moment in a certain way. -/
def membersAt (before after : List (String × Json)) (w : Writing) : List (String × Json) :=
  before ++ ("timestamp", .str w.text) :: after

theorem mem_membersAt (before after : List (String × Json)) (w : Writing) :
    ("timestamp", .str w.text) ∈ membersAt before after w := by
  simp [membersAt]

theorem instant_ext {t t' : Instant} (h : t.micros = t'.micros) : t = t' := by
  cases t
  cases t'
  simp_all

/-- Two accepted bodies that write one moment in two ways give the same envelope. -/
theorem eq_of_decode {fresh' : Fresh} {body' : ByteArray ⊕ String} {e' : Envelope}
    {before after : List (String × Json)} {w w' : Writing}
    (value : bodyJson? body = some (.obj (membersAt before after w)))
    (value' : bodyJson? body' = some (.obj (membersAt before after w')))
    (id : (idField.find? (membersAt before after w)).isSome) (same : ⌊w.moment⌋ = ⌊w'.moment⌋)
    (h : decode fresh body = .ok e) (h' : decode fresh' body' = .ok e') : e = e' := by
  have names := nodup_of_bodyJson? value
  have names' := nodup_of_bodyJson? value'
  have given := Json.member?_of_mem (v := .str w.text) names (mem_membersAt before after w)
  have given' := Json.member?_of_mem (v := .str w'.text) names' (mem_membersAt before after w')
  have read := instant_of_decode value given h
  have read' := instant_of_decode value' given' h'
  have moments : e.timestamp = e'.timestamp := by
    refine instant_ext ?_
    rw [(Writing.of_instant_eq_ok read).2, (Writing.of_instant_eq_ok read').2, ← w.floor_moment,
      ← w'.floor_moment, same]
  have alike : (readTimestamp .text (.str w.text)).toOption =
      (readTimestamp .text (.str w'.text)).toOption := by
    rw [readTimestamp, readTimestamp, Writing.ofText_text, Writing.ofText_text, read, read',
      moments]
  have id' : (idField.value? (membersAt before after w')).isSome := by
    rw [membersAt, value?_replace (by decide) _ (.str w.text), ← membersAt, FieldName.value?,
      Option.isSome_map]
    exact id
  have moment' : (momentField.value? (membersAt before after w')).isSome := by
    rw [value?_momentField, given']
    rfl
  refine Option.some.inj ?_
  calc some e = (decode fresh body).toOption := by rw [h]; rfl
    _ = (decode fresh body').toOption := by
      rw [toOption_decode value, toOption_decode value']
      exact toOption_form_replace names alike
    _ = (decode fresh' body').toOption.map (renewed fresh (membersAt before after w')) :=
      toOption_decode_fresh value' fresh' fresh
    _ = some e' := by
      rw [h']
      exact congrArg some (renewed_of_given id' moment')

/-! ### A moment on a leap day -/

/-- Half past midnight on 1 March 2024, one hour ahead of UTC. -/
def marchNight : Writing where
  date := ⟨2024, 3, 1⟩
  separator := 'T'
  hours := 0
  minutes := 30
  seconds := some ⟨0, some ⟨'.', ['0'], .inl rfl, by simp [Json.Digits, Json.isDigit], by decide⟩,
    by decide⟩
  zone := .shifted ⟨.plus, 1, true, 0, by decide, by decide⟩
  valid := by decide
  year_le := by decide
  separates := by decide
  hours_lt := by decide
  minutes_lt := by decide

/-- The same moment in UTC, where it is still 29 February. -/
def leapEvening : Writing where
  date := ⟨2024, 2, 29⟩
  separator := ' '
  hours := 23
  minutes := 30
  seconds := none
  zone := .utc 'Z' (.inl rfl)
  valid := by decide
  year_le := by decide
  separates := by decide
  hours_lt := by decide
  minutes_lt := by decide

theorem text_marchNight : marchNight.text = "2024-03-01T00:30:00.0+01:00" := by
  decide +kernel

theorem text_leapEvening : leapEvening.text = "2024-02-29 23:30Z" := by
  decide +kernel

/-- An order whose rate is no number, placed at this moment. -/
def orderAtNight : String :=
  "\x7b\"eventId\":\"e1\",\"eventType\":\"order.paid\"," ++
    "\"timestamp\":\"2024-03-01T00:30:00.0+01:00\",\"data\":\x7b\"rate\":NaN\x7d\x7d"

/-- The same order with the moment in UTC. -/
def orderInEvening : String :=
  "\x7b\"eventId\":\"e1\",\"eventType\":\"order.paid\"," ++
    "\"timestamp\":\"2024-02-29 23:30Z\",\"data\":\x7b\"rate\":NaN\x7d\x7d"

/-- The members of both orders. -/
def orderMembers (w : Writing) : List (String × Json) :=
  membersAt [("eventId", .str "e1"), ("eventType", .str "order.paid")]
    [("data", .obj [("rate", .float Number.notANumber)])] w

theorem bodyJson?_orderAtNight :
    bodyJson? (.inr orderAtNight) = some (.obj (orderMembers marchNight)) := by
  unfold orderAtNight
  rw [orderMembers, membersAt, text_marchNight, bodyJson?, Sum.elim_inr, Json.ofText?,
    String.toList_append, String.toList_ofList, String.toList_ofList]
  rfl

theorem bodyJson?_orderInEvening :
    bodyJson? (.inr orderInEvening) = some (.obj (orderMembers leapEvening)) := by
  unfold orderInEvening
  rw [orderMembers, membersAt, text_leapEvening, bodyJson?, Sum.elim_inr, Json.ofText?,
    String.toList_append, String.toList_ofList, String.toList_ofList]
  rfl

/-- The envelope of both orders. -/
def nightOrder : Envelope where
  eventId := "e1"
  eventType := "order.paid"
  timestamp := ⟨1709249400000000, by decide, by decide⟩
  userId := none
  data := [("rate", .float Number.notANumber)]
  metadata := []

theorem decode_orderMembers {w : Writing} (value : bodyJson? body = some (.obj (orderMembers w)))
    (read : w.civil.instant = .ok nightOrder.timestamp) (fresh : Fresh) :
    decode fresh body = .ok nightOrder := by
  have moment : readTimestamp .text (.str w.text) = .ok nightOrder.timestamp := by
    rw [readTimestamp, Writing.ofText_text, read]
    rfl
  have id : nonEmptyString (.str "e1") = .ok "e1" := nonEmptyString_str (by decide)
  have type : nonEmptyString (.str "order.paid") = .ok "order.paid" :=
    nonEmptyString_str (by decide)
  rw [decode_eq_ok_iff value]
  simp [form, Form.withDefault, Form.required, Form.field, FieldName.find?, FieldName.single,
    Json.member?, orderMembers, membersAt, moment, id, type, readUserId,
    object, Checked.ofReading, Checked.apply, Except.map, Checked.mapError_ok]
  rfl

theorem decode_orderAtNight (fresh : Fresh) : decode fresh (.inr orderAtNight) = .ok nightOrder :=
  decode_orderMembers bodyJson?_orderAtNight (by decide +kernel) fresh

theorem decode_orderInEvening (fresh : Fresh) :
    decode fresh (.inr orderInEvening) = .ok nightOrder :=
  decode_orderMembers bodyJson?_orderInEvening (by decide +kernel) fresh

theorem moment_orders : marchNight.moment = leapEvening.moment := by
  decide +kernel

theorem floor_moment_orders : ⌊marchNight.moment⌋ = ⌊leapEvening.moment⌋ := by
  rw [moment_orders]

/-! ### The moment of a decoded envelope -/

/-- The moment of an accepted body is, in UTC, the written local date and time minus the written
offset, which is zero if none is written, with its fraction cut to the microsecond. Two accepted
bodies that give an identifier and differ only in how they write a moment give the same envelope
and the same bytes. As envelopes are compared by value, the two are equal if no double of theirs is
a NaN. -/
theorem decode_writing :
    (∀ (fresh : Fresh) (body : ByteArray ⊕ String) (e : Envelope) (ms : List (String × Json))
        (w : Writing), bodyJson? body = some (.obj ms) →
      Json.member? "timestamp" ms = some (.str w.text) → decode fresh body = .ok e →
        w.civil.InUtc e.timestamp.date e.timestamp.timeOfDay ∧ e.timestamp.micros = ⌊w.moment⌋) ∧
    ∀ (fresh fresh' : Fresh) (body body' : ByteArray ⊕ String) (e e' : Envelope)
        (before after : List (String × Json)) (w w' : Writing),
      bodyJson? body = some (.obj (membersAt before after w)) →
      bodyJson? body' = some (.obj (membersAt before after w')) →
      (idField.find? (membersAt before after w)).isSome → ⌊w.moment⌋ = ⌊w'.moment⌋ →
      decode fresh body = .ok e → decode fresh' body' = .ok e' →
        e = e' ∧ e.toBytes = e'.toBytes ∧ e.same e' = e.nanFree := by
  constructor
  · intro fresh body e ms w value given h
    obtain ⟨year, micros⟩ := Writing.of_instant_eq_ok (instant_of_decode value given h)
    rw [w.floor_moment]
    exact ⟨Civil.inUtc_of_micros w.valid year w.timeOfDay_civil_lt w.natAbs_offset_lt micros,
      micros⟩
  · intro fresh fresh' body body' e e' before after w w' value value' id same h h'
    obtain rfl := eq_of_decode value value' id same h h'
    exact ⟨rfl, rfl, same_self_of_decode h⟩

theorem decode_writing_leapDay :
    let fresh : Fresh := ⟨"e2", default⟩
    let night := Sum.inr orderAtNight
    let evening := Sum.inr orderInEvening
    bodyJson? night = some (.obj (orderMembers marchNight)) ∧
      bodyJson? evening = some (.obj (orderMembers leapEvening)) ∧
      Json.member? "timestamp" (orderMembers marchNight) = some (.str marchNight.text) ∧
      (idField.find? (orderMembers marchNight)).isSome ∧
      ⌊marchNight.moment⌋ = ⌊leapEvening.moment⌋ ∧
      decode fresh night = .ok nightOrder ∧ decode fresh evening = .ok nightOrder ∧
      marchNight.civil.InUtc nightOrder.timestamp.date nightOrder.timestamp.timeOfDay ∧
      nightOrder.timestamp.micros = ⌊marchNight.moment⌋ ∧
      nightOrder.same nightOrder = nightOrder.nanFree := by
  intro fresh night evening
  have read := decode_orderAtNight fresh
  have read' := decode_orderInEvening fresh
  have moment : Json.member? "timestamp" (orderMembers marchNight) = some (.str marchNight.text) :=
    rfl
  have id : (idField.find? (orderMembers marchNight)).isSome := rfl
  obtain ⟨utc, micros⟩ := decode_writing.1 fresh night nightOrder _ marchNight
    bodyJson?_orderAtNight moment read
  obtain ⟨-, -, same⟩ := decode_writing.2 fresh fresh night evening nightOrder nightOrder _ _
    marchNight leapEvening bodyJson?_orderAtNight bodyJson?_orderInEvening id floor_moment_orders
    read read'
  exact ⟨bodyJson?_orderAtNight, bodyJson?_orderInEvening, moment, id, floor_moment_orders, read,
    read', utc, micros, same⟩

/-- A NaN is equal to nothing, so the envelopes of one moment need not compare as equal. -/
theorem decode_writing_unequal :
    ¬ ∀ (fresh fresh' : Fresh) (body body' : ByteArray ⊕ String) (e e' : Envelope)
        (before after : List (String × Json)) (w w' : Writing),
      bodyJson? body = some (.obj (membersAt before after w)) →
      bodyJson? body' = some (.obj (membersAt before after w')) →
      (idField.find? (membersAt before after w)).isSome → w.moment = w'.moment →
      decode fresh body = .ok e → decode fresh' body' = .ok e' → e.same e' = true := by
  intro equal
  have same := equal default default _ _ _ _ _ _ marchNight leapEvening bodyJson?_orderAtNight
    bodyJson?_orderInEvening rfl moment_orders (decode_orderAtNight _) (decode_orderInEvening _)
  rw [same_self_of_decode (decode_orderAtNight default)] at same
  have : nightOrder.nanFree = false := by decide
  rw [this] at same
  cases same

end Event.Envelope

end BrokerClient
