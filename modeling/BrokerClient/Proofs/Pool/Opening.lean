import BrokerClient.Proofs.Pool.Stages
import BrokerClient.Proofs.Runs

/-!
# Filling a pool that nobody else uses

A filling that runs without interference opens as many channels as the pool lacks, up to the first
that cannot be opened. All of them join the pool behind the channels that it has, those before a
failure too, and nothing else of the pool changes.

How the requests of the pool are served is left open, as a pool may belong to a manager.

## Main definitions

* `Filled` — what a filling asks for, which channels it opens, and how it ends.

## Main results

* `Filled.cases` — a filling opens all channels, or those before the first failure.
* `runs_fill` — the runs of a filling.
-/

namespace BrokerClient

variable {ω σ τ : Type}

/-- What is put into a part is found there, and nowhere else. -/
structure Lens.Lawful (part : Lens ω σ) : Prop where
  get_set : ∀ s w, part.get (part.set s w) = s
  set_set : ∀ s s' w, part.set s' (part.set s w) = part.set s' w
  set_get : ∀ w, part.set (part.get w) w = w

namespace Channel.Pool

open Broker (ChannelId)

variable {A : Type} {answer : Except Error ChannelId → A}

/-- What opening so many channels asks for, up to the first that fails, and which channels it
opens. -/
inductive Filled (answer : Except Error ChannelId → A) :
    Nat → List A → List ChannelId → Except Error Unit → Prop
  | full : Filled answer 0 [] [] (.ok ())
  | failed {n e} : Filled answer (n + 1) [answer (.error e)] [] (.error (openFailure e))
  | next {n c asked new result} (rest : Filled answer n asked new result) :
    Filled answer (n + 1) (answer (.ok c) :: asked) (c :: new) result

/-- A filling opens as many channels as it has to, or those before the first failure. -/
theorem Filled.cases {n : Nat} {asked : List A} {new : List ChannelId} {result : Except Error Unit}
    (h : Filled answer n asked new result) :
    (new.length = n ∧ asked = new.map (fun c => answer (.ok c)) ∧ result = .ok ()) ∨
      ∃ e, new.length < n ∧ asked = new.map (fun c => answer (.ok c)) ++ [answer (.error e)] ∧
        result = .error (openFailure e) := by
  induction h with
  | full => exact .inl ⟨rfl, rfl, rfl⟩
  | failed => exact .inr ⟨_, Nat.succ_pos _, rfl, rfl⟩
  | next rest ih =>
    obtain ⟨rfl, rfl, rfl⟩ | ⟨e, fewer, rfl, rfl⟩ := ih
    · exact .inl ⟨rfl, rfl, rfl⟩
    · exact .inr ⟨e, Nat.succ_lt_succ fewer, rfl, rfl⟩

/-- A filling that succeeds opens as many channels as it has to. -/
theorem Filled.length_eq {n : Nat} {asked : List A} {new : List ChannelId}
    {result : Except Error Unit} (h : Filled answer n asked new result)
    (succeeded : result = .ok ()) :
    new.length = n := by
  obtain ⟨all, -⟩ | ⟨e, -, -, failed⟩ := h.cases
  · exact all
  · cases succeeded.symm.trans failed

/-- A filling that fails does so with an ordinary error if opening a channel does. -/
theorem Filled.ordinary {n : Nat} {asked : List A} {new : List ChannelId} {e : Error}
    (h : Filled answer n asked new (.error e))
    (regular : ∀ {e'}, answer (.error e') ∈ asked → e'.isOrdinary) : e.isOrdinary := by
  obtain ⟨-, -, succeeded⟩ | ⟨e', -, rfl, failed⟩ := h.cases
  · cases succeeded
  · have ordinary : e'.isOrdinary := regular (List.mem_append_right _ List.mem_cons_self)
    cases failed
    rw [openFailure, if_pos ordinary]
    rfl

variable {service : Service requests A ω} {part : Lens ω Pool} {w w' : ω} {asked : List A}

/-- A failure to open a channel tells its cause, unless it is a cancellation. -/
theorem runs_openChannel {result : Except Error ChannelId}
    (h : openChannel.Runs service part w asked result w') :
    ∃ reply, service .openChannel w asked reply w' ∧ result = reply.mapError openFailure := by
  rw [openChannel, Program.runs_rescue] at h
  obtain ⟨c, h, rfl⟩ | ⟨e, h, passes, rfl⟩ |
    ⟨e, w₁, asked₁, _, rfl, h, ordinary, rfl, rfl, rfl⟩ := h
  · exact ⟨.ok c, Program.runs_perform.mp h, rfl⟩
  · have same : openFailure e = e := by simp [openFailure, passes]
    exact ⟨.error e, Program.runs_perform.mp h, congrArg Except.error same.symm⟩
  · have told : openFailure e = .channelCreation "publisher" e.message none (some e) := by
      simp [openFailure, ordinary]
    rw [List.append_nil]
    exact ⟨.error e, Program.runs_perform.mp h, congrArg Except.error told.symm⟩

/-- A channel that is opened in time joins the pool. -/
theorem runs_openFor {g : Nat} {operation : String} {join : ChannelId → Pool → Pool}
    {result : Except Error ChannelId}
    (stays : ∀ {asked reply w₁}, service .openChannel w asked reply w₁ →
      (part.get w₁).generation = g)
    (h : (openFor g operation join).Runs service part w asked result w') :
    (∃ e, service .openChannel w asked (.error e) w' ∧ result = .error (openFailure e)) ∨
      ∃ c w₁, service .openChannel w asked (.ok c) w₁ ∧ result = .ok c ∧
        w' = part.modify (join c) w₁ := by
  rw [openFor, Program.runs_seq] at h
  obtain ⟨e, h, rfl⟩ | ⟨c, w₁, asked₁, asked₂, rfl, h, h'⟩ := h
  · obtain ⟨e' | c, served, eq⟩ := runs_openChannel h
    · cases eq
      exact .inl ⟨e', served, rfl⟩
    · cases eq
  · obtain ⟨e | c', served, eq⟩ := runs_openChannel h
    · cases eq
    · cases eq
      rw [Program.runs_state_seq] at h'
      simp only [stays served, beq_self_eq_true, if_true] at h'
      rw [Program.runs_modify_seq] at h'
      obtain ⟨rfl, rfl, rfl⟩ := Program.runs_pure.mp h'
      rw [List.append_nil]
      exact .inr ⟨c, w₁, served, rfl, rfl⟩

/-- How channels are opened where nobody else uses the pool. -/
structure Opens (service : Service requests A ω) (part : Lens ω Pool) (known : ω → Prop)
    (answer : Except Error ChannelId → A) : Prop where
  lawful : part.Lawful
  opens : ∀ {w asked reply w'}, known w → service .openChannel w asked reply w' →
    asked = [answer reply] ∧ w' = w
  keeps : ∀ {w} (f : Pool → Pool), known w → known (part.modify f w)

variable {known : ω → Prop}

theorem Opens.runs_openFor (opens : Opens service part known answer) (is : known w) {g : Nat}
    (same : (part.get w).generation = g) {operation : String} {join : ChannelId → Pool → Pool}
    {result : Except Error ChannelId}
    (h : (openFor g operation join).Runs service part w asked result w') :
    (∃ e, asked = [answer (.error e)] ∧ result = .error (openFailure e) ∧ w' = w) ∨
      ∃ c, asked = [answer (.ok c)] ∧ result = .ok c ∧ w' = part.modify (join c) w := by
  have stays {asked reply w₁} (served : service .openChannel w asked reply w₁) :
      (part.get w₁).generation = g := by rwa [(opens.opens is served).2]
  obtain ⟨e, served, rfl⟩ | ⟨c, w₁, served, rfl, rfl⟩ := Pool.runs_openFor stays h
  · obtain ⟨rfl, rfl⟩ := opens.opens is served
    exact .inl ⟨e, rfl, rfl, rfl⟩
  · obtain ⟨rfl, rfl⟩ := opens.opens is served
    exact .inr ⟨c, rfl, rfl, rfl⟩

/-- Adds channels behind the others. -/
def addAll (new : List ChannelId) (p : Pool) : Pool :=
  { p with channels := p.channels ++ new }

/-- Rounds that suffice open as many channels as the pool lacks. -/
theorem runs_fillFrom (opens : Opens service part known answer) {g rounds : Nat} (is : known w)
    (same : (part.get w).generation = g)
    (suffice : (part.get w).size - (part.get w).channels.length ≤ rounds)
    {result : Except Error Unit} (h : (fillFrom g rounds).Runs service part w asked result w') :
    ∃ new, Filled answer ((part.get w).size - (part.get w).channels.length) asked new result ∧
      w' = part.modify (addAll new) w := by
  have none (w : ω) : w = part.modify (addAll []) w := by
    rw [Lens.modify, addAll, List.append_nil]
    exact (opens.lawful.set_get w).symm
  induction rounds generalizing w asked with
  | zero =>
    obtain ⟨rfl, rfl, rfl⟩ := Program.runs_done.mp h
    rw [Nat.le_zero.mp suffice]
    exact ⟨[], .full, none _⟩
  | succ rounds ih =>
    rw [fillFrom, Program.runs_state_seq] at h
    by_cases small : (part.get w).channels.length < (part.get w).size
    · obtain ⟨n, lacks⟩ : ∃ n, (part.get w).size - (part.get w).channels.length = n + 1 :=
        ⟨_, (Nat.succ_pred_eq_of_pos (Nat.sub_pos_of_lt small)).symm⟩
      rw [if_pos small, Program.runs_seq] at h
      obtain ⟨e, h, rfl⟩ | ⟨c, w₁, asked₁, asked₂, rfl, h, h'⟩ := h
      · obtain ⟨e', rfl, eq, rfl⟩ | ⟨c, -, eq, -⟩ := opens.runs_openFor is same h
        · cases eq
          rw [lacks]
          exact ⟨[], .failed, none _⟩
        · cases eq
      · obtain ⟨e', -, eq, -⟩ | ⟨c', rfl, eq, rfl⟩ := opens.runs_openFor is same h
        · cases eq
        · cases eq
          rw [Program.runs_state_seq, Program.runs_log_seq] at h'
          have added : part.get (part.modify (Pool.add c) w) = (part.get w).add c :=
            opens.lawful.get_set _ _
          obtain ⟨new, filled, rfl⟩ := ih (opens.keeps _ is) (by rw [added]; exact same)
            (by rw [added]; simp [Pool.add]; omega) h'
          have left : ((part.get w).add c).size - ((part.get w).add c).channels.length = n := by
            simp only [Pool.add, List.length_append, List.length_singleton]
            omega
          rw [added, left] at filled
          rw [lacks]
          refine ⟨c :: new, .next filled, ?_⟩
          simp only [Lens.modify, opens.lawful.get_set, opens.lawful.set_set, Pool.add, addAll,
            List.append_assoc, List.singleton_append]
    · rw [if_neg small] at h
      obtain ⟨rfl, rfl, rfl⟩ := Program.runs_pure.mp h
      rw [Nat.sub_eq_zero_of_le (Nat.le_of_not_lt small)]
      exact ⟨[], .full, none _⟩

/-- A filling opens as many channels as the pool lacks. -/
theorem runs_fill (opens : Opens service part known answer) (is : known w)
    {result : Except Error Unit} (h : fill.Runs service part w asked result w') :
    ∃ new, Filled answer ((part.get w).size - (part.get w).channels.length) asked new result ∧
      w' = part.modify (addAll new) w := by
  rw [fill, Program.runs_state_seq, Program.runs_log_seq] at h
  refine runs_fillFrom opens is rfl ?_ h
  calc (part.get w).size - (part.get w).channels.length ≤ 1 * (part.get w).size := by omega
    _ ≤ ((part.get w).closing + 1) * (part.get w).size := Nat.mul_le_mul_right _ (by omega)

end Channel.Pool

end BrokerClient
