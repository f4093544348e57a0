import BrokerClient.Proofs.Provisioning

/-!
# Creating a consumer channel on any replies

Any of the steps towards a consumer channel may fail: opening the channel, declaring its exchange
and its queue, binding and setting the prefetch limit. So may the close that follows a failure.
Whichever of them fail, the requests are those of the options, in order and up to the first failure;
a channel that was opened in vain is closed once; and the manager changes only by the channel that
has been granted everything.

A cancellation is not recovered from. It ends the call as it is, whether a step or the close was
cancelled.

## Main definitions

* `QueueOptions.Sets` — the arguments of a queue that its options set.

## Main results

* `QueueOptions.mem_arguments_iff` — a queue is declared with the arguments that are set.
* `ConsumerOptions.exchangeOr_eq` — which exchange is declared.
* `Manager.create_provisions_or_closes` — what creating a consumer channel does.
-/

namespace BrokerClient

open Broker Channel Connection

namespace Channel

/-! ### What the options say -/

/-- An argument of a queue is set by an option. -/
inductive QueueOptions.Sets (q : QueueOptions) : String → Json → Prop
  | deadLetterExchange {x} (set : q.deadLetterExchange = some x) :
    Sets q "x-dead-letter-exchange" (.str x)
  | deadLetterRoutingKey {x} (set : q.deadLetterRoutingKey = some x) :
    Sets q "x-dead-letter-routing-key" (.str x)
  | messageTtl {n} (set : q.messageTtl = some n) : Sets q "x-message-ttl" (.int n)
  | maxLength {n} (set : q.maxLength = some n) : Sets q "x-max-length" (.int n)
  | maxPriority {n} (set : q.maxPriority = some n) : Sets q "x-max-priority" (.int n)

/-- The arguments of a queue are those that are set, whatever to. -/
theorem QueueOptions.mem_arguments_iff {q : QueueOptions} {name : String} {v : Json} :
    (name, v) ∈ q.arguments ↔ q.Sets name v := by
  constructor
  · simp only [arguments, List.mem_filterMap, List.mem_cons, List.not_mem_nil, or_false,
      Option.map_eq_some_iff]
    rintro ⟨_, rfl | rfl | rfl | rfl | rfl, v, value, eq⟩ <;>
      obtain ⟨x, set, rfl⟩ := Option.map_eq_some_iff.mp value <;> cases eq
    · exact .deadLetterExchange set
    · exact .deadLetterRoutingKey set
    · exact .messageTtl set
    · exact .maxLength set
    · exact .maxPriority set
  · rintro (set | set | set | set | set) <;> simp [arguments, set]

/-- No argument is given twice. -/
theorem QueueOptions.arguments_nodup (q : QueueOptions) : (q.arguments.map (·.1)).Nodup := by
  have names : (q.arguments.map (·.1)).Sublist ["x-dead-letter-exchange",
      "x-dead-letter-routing-key", "x-message-ttl", "x-max-length", "x-max-priority"] := by
    have given (rows : List (String × Option Json)) :
        ((rows.filterMap fun a => a.2.map (a.1, ·)).map (·.1)).Sublist (rows.map (·.1)) := by
      induction rows with
      | nil => exact .slnil
      | cons row rows ih =>
        obtain ⟨name, value⟩ := row
        cases value with
        | none => exact ih.cons _
        | some v => exact ih.cons_cons _
    exact given _
  exact List.Nodup.sublist names (by decide)

/-- The exchange that is declared has the given name, if that is not empty. -/
theorem ConsumerOptions.exchangeOr_eq (o : ConsumerOptions) (default : String) :
    o.exchangeOr default = (o.exchangeName.filter (· ≠ "")).getD default := by
  unfold exchangeOr
  cases o.exchangeName with
  | none => rfl
  | some name => by_cases empty : name = "" <;> simp [Option.filter, empty]

end Channel

namespace Connection.Manager

/-- Whatever the broker replies, a connected manager that creates a consumer channel opens a channel
and asks on it for what the options say, in order and up to the first failure. If all is granted,
the new consumer channel is tracked, and nothing else changes. Otherwise nothing changes at all, a
channel that was opened is closed once, and the error of the call names the queue and its cause. A
cancellation is passed on as it is, and then it is left open whether the channel is closed. -/
theorem create_provisions_or_closes (env : BrokerClient.Surroundings requests Manager)
    (undisturbed : ∀ w r, (env w r).2 = w.state) (w : BrokerClient.Course requests Manager)
    (o : ConsumerOptions) {k : ConnectionId} (connected : w.state.connection = some k) :
    let m := w.state
    let outcome := (createConsumerChannel o).run env.host Course.statePart w
    let exchange := (o.exchangeName.filter (· ≠ "")).getD m.names.events
    let failure (e : Error) : Error :=
      .channelCreation "consumer" e.message (some o.queueName) (some e)
    (∀ name v, (name, v) ∈ o.queueDeclaration.arguments ↔ o.queueOptions.Sets name v) ∧
    (o.queueDeclaration.arguments.map (·.1)).Nodup ∧
    ((∃ e, outcome.2.answers = w.answers ++ [⟨.openChannel k, .error e⟩] ∧
        outcome.1 = .error (if e.isOrdinary then failure e else e) ∧ outcome.2.state = m) ∨
      ∃ c steps closes,
        outcome.2.answers = w.answers ++ ⟨.openChannel k, .ok c⟩ :: (steps ++ closes) ∧
        (Answer.InOrder (o.provisioning c exchange) steps (.ok ()) ∧ closes = [] ∧
            outcome.1 = .ok ⟨c, o, exchange⟩ ∧
            outcome.2.state =
              { m with consumerChannels := m.consumerChannels ++ [⟨c, o, exchange⟩] } ∨
          ∃ e, Answer.InOrder (o.provisioning c exchange) steps (.error e) ∧
            outcome.2.state = m ∧
            (e.isOrdinary → ∃ closed, closes = [⟨.closeChannel c, closed⟩] ∧
              outcome.1 = .error (afterClose closed (failure e))) ∧
            (e.isOrdinary = false → outcome.1 = .error e ∧ closes.length ≤ 1 ∧
              ∀ a ∈ closes, a.request = .closeChannel c))) := by
  intro m outcome exchange failure
  refine ⟨fun _ _ => QueueOptions.mem_arguments_iff, QueueOptions.arguments_nodup _, ?_⟩
  obtain ⟨asked, grown, -, alone⟩ := Program.runs_of_run Course.stateView id
    (fun w r => undisturbed w r) (createConsumerChannel o) w
  have named : o.exchangeOr m.names.events = exchange := o.exchangeOr_eq _
  have created : Creation m o asked outcome.1 outcome.2.state := creation_of_runs alone
  change outcome.2.answers = _ at grown
  rw [grown]
  generalize outcome.2.state = m' at created ⊢
  generalize outcome.1 = result at created ⊢
  cases created with
  | unconnected unconnected =>
    rw [unconnected] at connected
    cases connected
  | unopened connected' =>
    cases connected.symm.trans connected'
    exact .inl ⟨_, rfl, rfl, rfl⟩
  | cancelled connected' refused passes =>
    cases connected.symm.trans connected'
    exact .inr ⟨_, _, [], by rw [List.append_nil], .inr ⟨_, named ▸ refused, rfl, by simp [passes],
      fun _ => ⟨rfl, Nat.zero_le _, List.forall_mem_nil _⟩⟩⟩
  | unprovisioned connected' refused ordinary =>
    cases connected.symm.trans connected'
    exact .inr ⟨_, _, _, rfl, .inr ⟨_, named ▸ refused, rfl, fun _ => ⟨_, rfl, rfl⟩,
      by simp [ordinary]⟩⟩
  | made connected' granted =>
    cases connected.symm.trans connected'
    rw [named] at granted ⊢
    exact .inr ⟨_, _, [], by rw [List.append_nil], .inl ⟨granted, rfl, rfl, rfl⟩⟩

/-- A broker that refuses to set prefetch limits, and that cancels whatever it likes. -/
def refusingLimits (cancels : Request → Bool) : BrokerClient.Surroundings requests Manager :=
  fun w r =>
    (if cancels r then .error (.fault .cancelled "stop")
      else match r with
        | .setPrefetch .. => .error (.fault .runtime "refused")
        | r => .ok r.granted, w.state)

/-- A connected manager. -/
def connectedIdle : BrokerClient.Course requests Manager where
  state := { (default : Manager) with connection := some ⟨0⟩ }

/-- A queue of orders that are bound by an empty key and have no time to live. -/
def orderOptions : ConsumerOptions where
  queueName := "orders"
  routingKey := some ""
  queueOptions := { messageTtl := some 0 }

/-- The channel is closed when the last step is refused. -/
theorem create_closes_unlimited :
    let outcome := (createConsumerChannel orderOptions).run (refusingLimits fun _ => false).host
      Course.statePart connectedIdle
    (∀ w r, (refusingLimits (fun _ => false) w r).2 = w.state) ∧
      connectedIdle.state.connection = some ⟨0⟩ ∧
      ("x-message-ttl", .int 0) ∈ orderOptions.queueDeclaration.arguments ∧
      outcome.2.state = connectedIdle.state ∧ outcome.2.answers.length = 6 := by
  intro outcome
  have undisturbed : ∀ w r, (refusingLimits (fun _ => false) w r).2 = w.state := fun _ _ => rfl
  obtain ⟨sets, -, ⟨e, -, -, same⟩ |
    ⟨c, steps, closes, -, ⟨-, -, granted, -⟩ | ⟨e, -, same, -⟩⟩⟩ :=
    create_provisions_or_closes _ undisturbed connectedIdle orderOptions rfl
  · exact ⟨undisturbed, rfl, (sets _ _).mpr (.messageTtl rfl), same, rfl⟩
  · cases granted
  · exact ⟨undisturbed, rfl, (sets _ _).mpr (.messageTtl rfl), same, rfl⟩

/-- It is not true that the error of the call always names the queue and its cause: it does not if
the channel's opening is cancelled, or a step that follows, or the close after a refused step. -/
theorem create_passes_cancellations :
    let named (cancels : Request → Bool) : Prop := ∃ cause,
      ((createConsumerChannel orderOptions).run (refusingLimits cancels).host Course.statePart
        connectedIdle).1 = .error (.channelCreation "consumer" cause.message (some "orders")
          (some cause))
    ¬ named (fun | .openChannel _ => true | _ => false) ∧
      ¬ named (fun | .declareQueue .. => true | _ => false) ∧
      ¬ named (fun | .closeChannel _ => true | _ => false) := by
  refine ⟨?_, ?_, ?_⟩
  · rintro ⟨cause, named⟩
    cases named
  · rintro ⟨cause, named⟩
    cases named
  · rintro ⟨cause, named⟩
    cases named

end Connection.Manager

end BrokerClient
