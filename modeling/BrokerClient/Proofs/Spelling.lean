import BrokerClient.Channel.Options
import BrokerClient.Proofs.Envelopes

/-!
# Spelling, order and noise of names

An envelope does not depend on the spelling of the names in its body, on their order, nor on members
that the model does not know. The options of a consumer channel do not depend on the spelling of
their names either, at both levels, but a name that is no spelling of a field is refused at both
levels.

## Main definitions

* `ConsumerOptions.Nested` — values of options that may be respelled themselves.
* `ConsumerOptions.Stray` — members with a name, at either level, that no field has.

## Main results

* `Channel.ConsumerOptions.toOption_ofJson_respelled` — respelled options are read alike.
* `Channel.ConsumerOptions.ofJson_of_stray` — a stray name is refused.
* `spelling_immaterial` — what spelling, order and unknown names do to bodies and to options.
-/

namespace BrokerClient

open Validation

/-! ### Options of consumer channels -/

namespace Channel

variable {origin : Origin} {ms : List (String × Json)} {v v' : Json}

theorem ExchangeOptions.unambiguous : Unambiguous ExchangeOptions.form.fields := by
  decide

theorem QueueOptions.unambiguous : Unambiguous QueueOptions.form.fields := by
  decide

/-- Options of an exchange are read alike in all spellings. -/
theorem ExchangeOptions.toOption_ofJson_respelled
    (h : Respelled ExchangeOptions.form.fields (fun _ => Eq) v v') :
    (ExchangeOptions.ofJson origin v).toOption = (ExchangeOptions.ofJson origin v').toOption :=
  Form.toOption_check_respelled ExchangeOptions.unambiguous
    (.seq (.seq (.map _ (.withDefault fun _ _ => id)) (.withDefault fun _ _ => id))
      (.withDefault fun _ _ => id)) h

/-- Options of a queue are read alike in all spellings. -/
theorem QueueOptions.toOption_ofJson_respelled
    (h : Respelled QueueOptions.form.fields (fun _ => Eq) v v') :
    (QueueOptions.ofJson origin v).toOption = (QueueOptions.ofJson origin v').toOption :=
  Form.toOption_check_respelled QueueOptions.unambiguous
    (.seq (.seq (.seq (.seq (.seq (.seq (.seq (.map _ (.withDefault fun _ _ => id))
      (.withDefault fun _ _ => id)) (.withDefault fun _ _ => id)) (.withDefault fun _ _ => id))
      (.withDefault fun _ _ => id)) (.withDefault fun _ _ => id)) (.withDefault fun _ _ => id))
      (.withDefault fun _ _ => id)) h

namespace ConsumerOptions

/-- The field of the exchange's options. -/
def exchangeField : FieldName := ⟨"exchangeOptions", "exchange_options"⟩

/-- The field of the queue's options. -/
def queueField : FieldName := ⟨"queueOptions", "queue_options"⟩

/-- The fields of options. -/
def fields : List FieldName :=
  [⟨"queueName", "queue_name"⟩, ⟨"exchangeName", "exchange_name"⟩,
    ⟨"exchangeType", "exchange_type"⟩, exchangeField, ⟨"routingKey", "routing_key"⟩, queueField,
    ⟨"prefetchCount", "prefetch_count"⟩]

theorem fields_form (origin : Origin) : (form origin).fields = fields :=
  rfl

theorem unambiguous : Unambiguous fields := by
  decide

/-- Two values of a field: options of an exchange or of a queue may be respelled themselves, and
other values are the same. -/
def Nested (f : FieldName) (v v' : Json) : Prop :=
  if f = exchangeField then Respelled ExchangeOptions.form.fields (fun _ => Eq) v v'
  else if f = queueField then Respelled QueueOptions.form.fields (fun _ => Eq) v v'
  else v = v'

theorem respects_form (origin : Origin) : (form origin).Respects Nested := by
  have plain {f : FieldName} (exchange : f ≠ exchangeField) (queue : f ≠ queueField) (v v' : Json)
      (h : Nested f v v') : v = v' := by
    rwa [Nested, if_neg exchange, if_neg queue] at h
  have exchange (v v' : Json) (h : Nested exchangeField v v') :
      (ExchangeOptions.ofJson origin v).toOption = (ExchangeOptions.ofJson origin v').toOption :=
    ExchangeOptions.toOption_ofJson_respelled (by rwa [Nested, if_pos rfl] at h)
  have queue (v v' : Json) (h : Nested queueField v v') :
      (QueueOptions.ofJson origin v).toOption = (QueueOptions.ofJson origin v').toOption :=
    QueueOptions.toOption_ofJson_respelled
      (by rwa [Nested, if_neg (by decide), if_pos rfl] at h)
  exact .seq (.seq (.seq (.seq (.seq (.seq (.map _
    (.required (plain (by decide) (by decide))))
    (.withDefault (plain (by decide) (by decide))))
    (.withDefault (plain (by decide) (by decide))))
    (.field exchange))
    (.withDefault (plain (by decide) (by decide))))
    (.field queue))
    (.withDefault (plain (by decide) (by decide)))

/-- Options are read alike in all spellings. -/
theorem toOption_ofJson_respelled (origin : Origin) (h : Respelled fields Nested v v') :
    (ofJson origin v).toOption = (ofJson origin v').toOption :=
  Form.toOption_check_respelled unambiguous (respects_form origin) h

/-- Members of which one, or one of whose options of an exchange or of a queue, has a name that no
field has. -/
inductive Stray (ms : List (String × Json)) : Prop
  | outer {name : String} {v : Json} (mem : (name, v) ∈ ms)
    (unknown : Unknown fields name)
  | exchange {name inner : String} {xs : List (String × Json)} {v : Json}
    (mem : (name, .obj xs) ∈ ms) (spelled : name ∈ exchangeField.spellings)
    (mem' : (inner, v) ∈ xs) (unknown : Unknown ExchangeOptions.form.fields inner)
  | queue {name inner : String} {xs : List (String × Json)} {v : Json}
    (mem : (name, .obj xs) ∈ ms) (spelled : name ∈ queueField.spellings)
    (mem' : (inner, v) ∈ xs) (unknown : Unknown QueueOptions.form.fields inner)

/-- Accepted members give options of an exchange and of a queue that are accepted. -/
theorem nested_of_form {o : ConsumerOptions} (h : (form origin).read ms = .ok o) :
    (∀ v, exchangeField.value? ms = some v → ∃ x, ExchangeOptions.ofJson origin v = .ok x) ∧
      ∀ v, queueField.value? ms = some v → ∃ q, QueueOptions.ofJson origin v = .ok q := by
  simp only [form, Form.read_map, Form.read_seq, Checked.apply_eq_ok_iff,
    Checked.map_eq_ok_iff] at h
  obtain ⟨_, _, ⟨_, _, ⟨_, _, ⟨_, _, ⟨_, _, ⟨_, _, ⟨_, -, rfl⟩, -, rfl⟩, -, rfl⟩, exchange, rfl⟩,
    -, rfl⟩, queue, rfl⟩, -, rfl⟩ := h
  rw [← toOption_eq_some_iff, Form.toOption_read_field] at exchange queue
  rw [← exchangeField] at exchange
  rw [← queueField] at queue
  constructor
  · intro v given
    rw [given] at exchange
    exact ⟨_, toOption_eq_some_iff.mp exchange⟩
  · intro v given
    rw [given] at queue
    exact ⟨_, toOption_eq_some_iff.mp queue⟩

/-- Members that are accepted give a field the value that a member has under its name. -/
theorem value?_of_ofJson {o : ConsumerOptions} {f : FieldName} {name : String}
    (names : (ms.map Prod.fst).Nodup) (h : ofJson origin (.obj ms) = .ok o)
    (field : f ∈ fields) (spelled : name ∈ f.spellings) (mem : (name, v) ∈ ms) :
    (form origin).read ms = .ok o ∧ f.value? ms = some v := by
  rw [← toOption_eq_some_iff, ofJson, Form.toOption_check_forbid] at h
  split at h
  · rename_i all
    have once := ((Form.extras_eq_nil_iff unambiguous names).mp all).2
    have found := FieldName.find?_of_mem_givers (once f field)
      (FieldName.mem_givers.mpr ⟨mem, spelled⟩)
    exact ⟨toOption_eq_some_iff.mp h, by rw [FieldName.value?, found]; rfl⟩
  · cases h

/-- A stray name is refused. -/
theorem ofJson_of_stray (origin : Origin) (names : (ms.map Prod.fst).Nodup) (stray : Stray ms) :
    ∃ r, ofJson origin (.obj ms) = .error r := by
  cases result : ofJson origin (.obj ms) with
  | error r => exact ⟨r, rfl⟩
  | ok o =>
    exfalso
    cases stray with
    | outer mem unknown =>
      obtain ⟨r, refused⟩ : ∃ r, ofJson origin (.obj ms) = .error r :=
        Form.check_of_unknown mem unknown
      cases result.symm.trans refused
    | exchange mem spelled mem' unknown =>
      obtain ⟨read, given⟩ := value?_of_ofJson names result (f := exchangeField) (by decide) spelled
        mem
      obtain ⟨x, accepted⟩ := (nested_of_form read).1 _ given
      obtain ⟨r, refused⟩ := Form.check_of_unknown mem' unknown
      cases accepted.symm.trans refused
    | queue mem spelled mem' unknown =>
      obtain ⟨read, given⟩ :=
        value?_of_ofJson names result (f := queueField) (by decide) spelled mem
      obtain ⟨q, accepted⟩ := (nested_of_form read).2 _ given
      obtain ⟨r, refused⟩ := Form.check_of_unknown mem' unknown
      cases accepted.symm.trans refused

end ConsumerOptions

end Channel

/-! ### Bodies of envelopes -/

namespace Event.Envelope

variable {body body' : ByteArray ⊕ String} {ms ms' : List (String × Json)}

/-- Rewritten members are read alike. -/
theorem toOption_decode_rewritten (value : bodyJson? body = some (.obj ms))
    (value' : bodyJson? body' = some (.obj ms')) (once : GivenOnce fields ms)
    (h : Rewritten fields ms ms') (fresh : Fresh) :
    (decode fresh body).toOption = (decode fresh body').toOption := by
  have respects : (form fresh .text).Respects fun _ => Eq :=
    respects_form (fun v v' same => by rw [same]) fun _ _ _ _ => id
  rw [toOption_decode value, toOption_decode value']
  refine respects ms ms' fun f mem => ?_
  rw [h.value?_eq unambiguous once mem]
  generalize f.value? ms' = given
  cases given with
  | none => exact .none
  | some v => exact .some rfl

end Event.Envelope

/-! ### Two spellings of an order and of a queue -/

namespace Event.Envelope

/-- An order whose rate is no number. -/
def camelOrder : String :=
  "\x7b\"eventId\":\"e1\",\"eventType\":\"a.b\",\"timestamp\":0," ++
    "\"data\":\x7b\"rate\":NaN\x7d\x7d"

/-- The same order with other spellings, in another order and with a name that no field has. -/
def snakeOrder : String :=
  "\x7b\"noise\":1,\"data\":\x7b\"rate\":NaN\x7d,\"timestamp\":0," ++
    "\"event_type\":\"a.b\",\"event_id\":\"e1\"\x7d"

/-- The payload of both orders. -/
def rate : Json := .obj [("rate", .float Number.notANumber)]

def camelMembers : List (String × Json) :=
  [("eventId", .str "e1"), ("eventType", .str "a.b"), ("timestamp", .int 0), ("data", rate)]

def snakeMembers : List (String × Json) :=
  [("event_id", .str "e1"), ("event_type", .str "a.b"), ("timestamp", .int 0), ("data", rate)]

theorem bodyJson?_camelOrder : bodyJson? (.inr camelOrder) = some (.obj camelMembers) := by
  unfold camelOrder
  rw [bodyJson?, Sum.elim_inr, Json.ofText?, String.toList_append, String.toList_ofList,
    String.toList_ofList]
  rfl

theorem bodyJson?_snakeOrder :
    bodyJson? (.inr snakeOrder) = some (.obj (("noise", .int 1) :: snakeMembers.reverse)) := by
  unfold snakeOrder
  rw [bodyJson?, Sum.elim_inr, Json.ofText?, String.toList_append, String.toList_ofList,
    String.toList_ofList]
  rfl

theorem rewritten_camelMembers :
    Rewritten fields camelMembers (("noise", .int 1) :: snakeMembers.reverse) := by
  have spelled {name name' : String} (v : Json) (f : FieldName)
      (mem : f ∈ fields ∧ name ∈ f.spellings ∧ name' ∈ f.spellings) :
      Respelling fields (fun _ => Eq) (name, v) (name', v) :=
    .known mem.1 mem.2.1 mem.2.2 rfl
  have snake : Rewritten fields camelMembers snakeMembers :=
    .respelled (.cons (spelled _ idField (by decide))
      (.cons (spelled _ ⟨"eventType", "event_type"⟩ (by decide))
        (.cons (spelled _ momentField (by decide))
          (.cons (spelled _ (.single "data") (by decide)) .nil))))
  have unknown : Unknown fields "noise" := by
    unfold Unknown
    decide
  exact (snake.trans (.reordered (List.reverse_perm _).symm)).trans (.added _ _ unknown)

/-- The envelope of both orders. -/
def ratedOrder : Envelope where
  eventId := "e1"
  eventType := "a.b"
  timestamp := default
  userId := none
  data := [("rate", .float Number.notANumber)]
  metadata := []

theorem decode_camelOrder (fresh : Fresh) : decode fresh (.inr camelOrder) = .ok ratedOrder := by
  rw [decode_eq_ok_iff bodyJson?_camelOrder]
  rfl

theorem givenOnce_camelMembers : GivenOnce fields camelMembers := by
  unfold GivenOnce
  decide

theorem decode_snakeOrder (fresh : Fresh) : decode fresh (.inr snakeOrder) = .ok ratedOrder := by
  have alike := toOption_decode_rewritten bodyJson?_camelOrder bodyJson?_snakeOrder
    givenOnce_camelMembers rewritten_camelMembers fresh
  rw [← toOption_eq_some_iff, ← alike, decode_camelOrder]
  rfl

end Event.Envelope

namespace Channel.ConsumerOptions

/-- Options with a limit of the queue's length. -/
def camelQueue : Json :=
  .obj [("queueName", .str "q"), ("queueOptions", .obj [("maxLength", .int 5)])]

/-- The same options with other spellings at both levels. -/
def snakeQueue : Json :=
  .obj [("queue_name", .str "q"), ("queue_options", .obj [("max_length", .int 5)])]

/-- What both stand for. -/
def limitedQueue : ConsumerOptions where
  queueName := "q"
  queueOptions := { maxLength := some 5 }

/-- Members with a name of the queue's options that is not spelled right. -/
def strayMembers : List (String × Json) :=
  [("queueName", .str "q"), ("queueOptions", .obj [("maxlength", .int 5)])]

theorem respelled_camelQueue : Respelled fields Nested camelQueue snakeQueue := by
  have inner : Respelled QueueOptions.form.fields (fun _ => Eq) (.obj [("maxLength", .int 5)])
      (.obj [("max_length", .int 5)]) :=
    .object (by decide) (by decide)
      (.cons (.known (f := ⟨"maxLength", "max_length"⟩) (by decide) (by decide) (by decide) rfl)
        .nil)
  have options :
      Nested queueField (.obj [("maxLength", .int 5)]) (.obj [("max_length", .int 5)]) := by
    rwa [Nested, if_neg (by decide), if_pos rfl]
  exact .object (by decide) (by decide)
    (.cons (.known (f := ⟨"queueName", "queue_name"⟩) (by decide) (by decide) (by decide) rfl)
      (.cons (.known (f := queueField) (by decide) (by decide) (by decide) options) .nil))

theorem stray_strayMembers : Stray strayMembers := by
  have unknown : Unknown QueueOptions.form.fields "maxlength" := by
    unfold Unknown
    decide
  exact .queue (List.mem_cons_of_mem _ List.mem_cons_self) (by decide) List.mem_cons_self unknown

end Channel.ConsumerOptions

/-! ### Both -/

open Event Event.Envelope Channel

/-- The spelling and the order of names and unknown names in a body do not matter: a body that
gives no field twice and a rewritten one are both refused, or they give the same envelope, up to an
identifier and a moment that they do not give. Envelopes are compared by value, so the two are
equal if no double of theirs is a NaN. The spelling of names does not matter for the options of a
consumer channel either, at both levels, but a name that no field has is refused there. -/
theorem spelling_immaterial :
    (∀ (fresh again : Fresh) (body body' : ByteArray ⊕ String) (ms ms' : List (String × Json)),
      bodyJson? body = some (.obj ms) → bodyJson? body' = some (.obj ms') →
      GivenOnce Envelope.fields ms → Rewritten Envelope.fields ms ms' →
        (decode again body').toOption = (decode fresh body).toOption.map (renewed again ms) ∧
        ∀ e, decode fresh body = .ok e → decode fresh body' = .ok e ∧ e.same e = e.nanFree) ∧
    (∀ (origin : Origin) (v v' : Json),
      Respelled ConsumerOptions.fields ConsumerOptions.Nested v v' →
        ((∃ o, ConsumerOptions.ofJson origin v = .ok o) ↔
          ∃ o', ConsumerOptions.ofJson origin v' = .ok o') ∧
        ∀ o o', ConsumerOptions.ofJson origin v = .ok o →
          ConsumerOptions.ofJson origin v' = .ok o' →
            o = o' ∧ o.queueOptions.arguments = o'.queueOptions.arguments) ∧
    ∀ (origin : Origin) (ms : List (String × Json)), (ms.map Prod.fst).Nodup →
      ConsumerOptions.Stray ms → ∃ r, ConsumerOptions.ofJson origin (.obj ms) = .error r := by
  refine ⟨?_, ?_, fun origin ms => ConsumerOptions.ofJson_of_stray origin⟩
  · intro fresh again body body' ms ms' value value' once h
    have alike := toOption_decode_rewritten value value' once h
    refine ⟨by rw [← alike again, toOption_decode_fresh value fresh], fun e read => ?_⟩
    refine ⟨?_, same_self_of_decode read⟩
    rw [← toOption_eq_some_iff, ← alike fresh, read]
    rfl
  · intro origin v v' h
    have alike := ConsumerOptions.toOption_ofJson_respelled origin h
    have same (o : ConsumerOptions) : ConsumerOptions.ofJson origin v = .ok o ↔
        ConsumerOptions.ofJson origin v' = .ok o := by
      rw [← toOption_eq_some_iff, alike, toOption_eq_some_iff]
    refine ⟨exists_congr same, fun o o' read read' => ?_⟩
    cases ((same o).mp read).symm.trans read'
    exact ⟨rfl, rfl⟩

theorem spelling_immaterial_orders :
    let fresh : Fresh := default
    bodyJson? (.inr camelOrder) = some (.obj camelMembers) ∧
      bodyJson? (.inr snakeOrder) = some (.obj (("noise", .int 1) :: snakeMembers.reverse)) ∧
      GivenOnce Envelope.fields camelMembers ∧
      Rewritten Envelope.fields camelMembers (("noise", .int 1) :: snakeMembers.reverse) ∧
      decode fresh (.inr camelOrder) = .ok ratedOrder ∧
      decode fresh (.inr snakeOrder) = .ok ratedOrder ∧
      ratedOrder.same ratedOrder = ratedOrder.nanFree ∧
      Respelled ConsumerOptions.fields ConsumerOptions.Nested ConsumerOptions.camelQueue
        ConsumerOptions.snakeQueue ∧
      ConsumerOptions.ofJson .value ConsumerOptions.camelQueue = .ok ConsumerOptions.limitedQueue ∧
      (∃ o, ConsumerOptions.ofJson .value ConsumerOptions.snakeQueue = .ok o) ∧
      (ConsumerOptions.strayMembers.map Prod.fst).Nodup ∧
      ConsumerOptions.Stray ConsumerOptions.strayMembers ∧
      ∃ r, ConsumerOptions.ofJson .value (.obj ConsumerOptions.strayMembers) = .error r := by
  intro fresh
  obtain ⟨bodies, options, strays⟩ := spelling_immaterial
  have read := decode_camelOrder fresh
  obtain ⟨read', same⟩ := (bodies fresh fresh _ _ _ _ bodyJson?_camelOrder bodyJson?_snakeOrder
    givenOnce_camelMembers rewritten_camelMembers).2 ratedOrder read
  have queue : ConsumerOptions.ofJson .value ConsumerOptions.camelQueue =
      .ok ConsumerOptions.limitedQueue := rfl
  have accepted := (options .value _ _ ConsumerOptions.respelled_camelQueue).1.mp ⟨_, queue⟩
  have names : (ConsumerOptions.strayMembers.map Prod.fst).Nodup := by decide
  exact ⟨bodyJson?_camelOrder, bodyJson?_snakeOrder, givenOnce_camelMembers,
    rewritten_camelMembers, read, read', same, ConsumerOptions.respelled_camelQueue, queue,
    accepted, names, ConsumerOptions.stray_strayMembers,
    strays .value _ names ConsumerOptions.stray_strayMembers⟩

/-- A NaN is equal to nothing, so the envelopes of a body and of a rewritten one need not compare as
equal. -/
theorem respelled_unequal :
    ¬ ∀ (fresh : Fresh) (body body' : ByteArray ⊕ String) (ms ms' : List (String × Json))
        (e e' : Envelope), bodyJson? body = some (.obj ms) → bodyJson? body' = some (.obj ms') →
      GivenOnce Envelope.fields ms → Rewritten Envelope.fields ms ms' →
      decode fresh body = .ok e → decode fresh body' = .ok e' → e.same e' = true := by
  intro equal
  have same := equal default _ _ _ _ ratedOrder ratedOrder bodyJson?_camelOrder bodyJson?_snakeOrder
    givenOnce_camelMembers rewritten_camelMembers (decode_camelOrder _) (decode_snakeOrder _)
  have unequal : ratedOrder.nanFree = false := by decide
  rw [same_self_of_decode (decode_camelOrder default), unequal] at same
  cases same

end BrokerClient
