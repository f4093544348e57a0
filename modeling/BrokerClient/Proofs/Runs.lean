import BrokerClient.Proofs.Course

/-!
# Runs by replies

A program is deterministic but for the replies to its requests and for what others do to the world
in the meantime. `Program.Runs` relates a program and a world to the requests that a run sends, each
with its reply, and to how the run ends. It has one law for each way to build a program; these laws
take a run of a program apart into runs of its parts. Signals leave no trace in it.

How requests may be served is left open in a `Service`, so that a statement about all runs covers
every pattern of failures. Every run against surroundings is one of these runs.

## Main definitions

* `Answer` — a request with its reply.
* `Service` — how the requests of programs may be served.
* `Program.Runs` — the runs of a program.
* `Service.spread`, `StandFor` — requests that are served by asking for others.
* `Course.answers` — the requests of a course with their replies.
* `Service.noted`, `Course.exchanges` — requests with the states before and after them.

## Main results

* `Program.runs_seq`, `Program.runs_rescue`, `Program.runs_ensuring` — the laws of sequences and of
  what happens after a failure.
* `Program.runs_within` — the runs of an embedded program.
* `Program.Runs.seen`, `Program.Runs.keeps` — what is seen of a run, and what it keeps.
* `Program.runs_spread` — the runs of a program whose requests stand for others.
* `Program.runs_of_served`, `Program.runs_of_run`, `Program.runs_of_noted` — a run against
  surroundings.
-/

namespace BrokerClient

/-- A request with its reply. -/
structure Answer (S : Signature) where
  request : S.Request
  reply : Except Error (S.Reply request)

/-- How requests may be served in a world: what is asked for in turn, the reply, and the world after
it. -/
def Service (S : Signature) (A ω : Type) : Type :=
  (r : S.Request) → ω → List A → Except Error (S.Reply r) → ω → Prop

variable {S T : Signature} {A ω σ τ α β : Type}

/-- A request is asked for itself; `other` says what others may do to the world meanwhile. -/
def Service.direct (S : Signature) (other : ω → ω → Prop) : Service S (Answer S) ω :=
  fun r w asked reply w' => asked = [⟨r, reply⟩] ∧ other w w'

@[simp]
theorem Service.direct_iff {other : ω → ω → Prop} {r : S.Request} {w w' : ω}
    {asked : List (Answer S)} {reply : Except Error (S.Reply r)} :
    Service.direct S other r w asked reply w' ↔ asked = [⟨r, reply⟩] ∧ other w w' :=
  Iff.rfl

/-- Others leave something as it is. -/
def Leaves (f : ω → β) (w w' : ω) : Prop :=
  f w' = f w

@[simp]
theorem leaves_id_iff {w w' : ω} : Leaves id w w' ↔ w' = w :=
  Iff.rfl

/-- A state as a part of itself. -/
def Lens.whole : Lens σ σ :=
  ⟨id, fun s _ => s⟩

namespace Program

/-- The runs of a program on a part of a world: `asked` lists what is asked for. -/
def Runs (service : Service S A ω) (part : Lens ω σ) :
    Program S σ α → ω → List A → Except Error α → ω → Prop
  | done a, w, asked, result, w' => asked = [] ∧ result = .ok a ∧ w' = w
  | fail e, w, asked, result, w' => asked = [] ∧ result = .error e ∧ w' = w
  | read k, w, asked, result, w' => (k (part.get w)).Runs service part w asked result w'
  | update c p, w, asked, result, w' => p.Runs service part (part.modify c w) asked result w'
  | emit _ p, w, asked, result, w' => p.Runs service part w asked result w'
  | call r k, w, asked, result, w' => ∃ reply w₁ asked₁ asked₂, asked = asked₁ ++ asked₂ ∧
      service r w asked₁ reply w₁ ∧ (k reply).Runs service part w₁ asked₂ result w'

/-- The runs of a program whose state nobody else changes. -/
abbrev Alone (p : Program S σ α) (s : σ) (asked : List (Answer S))
    (result : Except Error α) (s' : σ) : Prop :=
  p.Runs (.direct S (Leaves id)) .whole s asked result s'

variable {service : Service S A ω} {part : Lens ω σ} {w w' : ω} {asked : List A}

@[simp]
theorem runs_done {a : α} {result : Except Error α} :
    (done a : Program S σ α).Runs service part w asked result w' ↔
      asked = [] ∧ result = .ok a ∧ w' = w :=
  Iff.rfl

@[simp]
theorem runs_pure {a : α} {result : Except Error α} :
    (pure a : Program S σ α).Runs service part w asked result w' ↔
      asked = [] ∧ result = .ok a ∧ w' = w :=
  Iff.rfl

@[simp]
theorem runs_fail {e : Error} {result : Except Error α} :
    (fail e : Program S σ α).Runs service part w asked result w' ↔
      asked = [] ∧ result = .error e ∧ w' = w :=
  Iff.rfl

@[simp]
theorem runs_read {k : σ → Program S σ α} {result : Except Error α} :
    (read k).Runs service part w asked result w' ↔
      (k (part.get w)).Runs service part w asked result w' :=
  Iff.rfl

@[simp]
theorem runs_emit {x : Signal} {p : Program S σ α} {result : Except Error α} :
    (emit x p).Runs service part w asked result w' ↔ p.Runs service part w asked result w' :=
  Iff.rfl

/-- The second part of a sequence runs where the first has ended with a result. -/
theorem runs_bind {p : Program S σ α} {f : α → Program S σ β} {result : Except Error β} :
    (p.bind f).Runs service part w asked result w' ↔
      (∃ e, p.Runs service part w asked (.error e) w' ∧ result = .error e) ∨
        ∃ a w₁ asked₁ asked₂, asked = asked₁ ++ asked₂ ∧
          p.Runs service part w asked₁ (.ok a) w₁ ∧
          (f a).Runs service part w₁ asked₂ result w' := by
  induction p generalizing w asked with
  | done a =>
    constructor
    · exact fun h => .inr ⟨a, w, [], asked, rfl, ⟨rfl, rfl, rfl⟩, h⟩
    · rintro (⟨_, ⟨_, ended, _⟩, _⟩ | ⟨_, _, _, _, rfl, ⟨rfl, ended, rfl⟩, h⟩)
      · cases ended
      · cases ended
        exact h
  | fail e =>
    constructor
    · rintro ⟨rfl, rfl, rfl⟩
      exact .inl ⟨e, ⟨rfl, rfl, rfl⟩, rfl⟩
    · rintro (⟨_, ⟨rfl, ended, rfl⟩, rfl⟩ | ⟨_, _, _, _, _, ⟨_, ended, _⟩, _⟩)
      · cases ended
        exact ⟨rfl, rfl, rfl⟩
      · cases ended
  | read k ih => exact ih (part.get w)
  | update c p ih => exact ih
  | emit x p ih => exact ih
  | call r k ih =>
    simp only [Program.bind, Runs, ih]
    constructor
    · rintro ⟨reply, w₁, asked₁, rest, rfl, served,
        ⟨e, h, rfl⟩ | ⟨a, w₂, asked₂, asked₃, rfl, h, hf⟩⟩
      · exact .inl ⟨e, ⟨reply, w₁, asked₁, rest, rfl, served, h⟩, rfl⟩
      · exact .inr ⟨a, w₂, asked₁ ++ asked₂, asked₃, (List.append_assoc ..).symm,
          ⟨reply, w₁, asked₁, asked₂, rfl, served, h⟩, hf⟩
    · rintro (⟨e, ⟨reply, w₁, asked₁, rest, rfl, served, h⟩, rfl⟩ |
        ⟨a, w₂, _, asked₃, rfl, ⟨reply, w₁, asked₁, asked₂, rfl, served, h⟩, hf⟩)
      · exact ⟨reply, w₁, asked₁, rest, rfl, served, .inl ⟨e, h, rfl⟩⟩
      · exact ⟨reply, w₁, asked₁, asked₂ ++ asked₃, List.append_assoc .., served,
          .inr ⟨a, w₂, asked₂, asked₃, rfl, h, hf⟩⟩

theorem runs_seq {p : Program S σ α} {f : α → Program S σ β} {result : Except Error β} :
    (p >>= f).Runs service part w asked result w' ↔
      (∃ e, p.Runs service part w asked (.error e) w' ∧ result = .error e) ∨
        ∃ a w₁ asked₁ asked₂, asked = asked₁ ++ asked₂ ∧
          p.Runs service part w asked₁ (.ok a) w₁ ∧
          (f a).Runs service part w₁ asked₂ result w' :=
  runs_bind

/-- An attempt runs like the program and always has a result. -/
theorem runs_attempt {p : Program S σ α} {result : Except Error (Except Error α)} :
    p.attempt.Runs service part w asked result w' ↔
      ∃ r, p.Runs service part w asked r w' ∧ result = .ok r := by
  induction p generalizing w asked with
  | done a | fail e =>
    simp only [attempt, Runs]
    constructor
    · rintro ⟨rfl, rfl, rfl⟩
      exact ⟨_, ⟨rfl, rfl, rfl⟩, rfl⟩
    · rintro ⟨_, ⟨rfl, rfl, rfl⟩, rfl⟩
      exact ⟨rfl, rfl, rfl⟩
  | read k ih => exact ih (part.get w)
  | update c p ih => exact ih
  | emit x p ih => exact ih
  | call r k ih =>
    simp only [attempt, Runs, ih]
    constructor
    · rintro ⟨reply, w₁, asked₁, rest, rfl, served, result, h, rfl⟩
      exact ⟨result, ⟨reply, w₁, asked₁, rest, rfl, served, h⟩, rfl⟩
    · rintro ⟨result, ⟨reply, w₁, asked₁, rest, rfl, served, h⟩, rfl⟩
      exact ⟨reply, w₁, asked₁, rest, rfl, served, result, h, rfl⟩

/-- A program goes on after an attempt with what has come of it. -/
theorem runs_attempt_seq {p : Program S σ α} {f : Except Error α → Program S σ β}
    {result : Except Error β} :
    (p.attempt >>= f).Runs service part w asked result w' ↔
      ∃ r w₁ asked₁ asked₂, asked = asked₁ ++ asked₂ ∧ p.Runs service part w asked₁ r w₁ ∧
        (f r).Runs service part w₁ asked₂ result w' := by
  simp only [runs_seq, runs_attempt]
  constructor
  · rintro (⟨_, ⟨_, _, ended⟩, _⟩ | ⟨_, w₁, asked₁, asked₂, rfl, ⟨_, hp, ended⟩, hf⟩)
    · cases ended
    · cases ended
      exact ⟨_, w₁, asked₁, asked₂, rfl, hp, hf⟩
  · rintro ⟨r, w₁, asked₁, asked₂, rfl, hp, hf⟩
    exact .inr ⟨r, w₁, asked₁, asked₂, rfl, ⟨r, hp, rfl⟩, hf⟩

@[simp]
theorem runs_ofExcept {r result : Except Error α} :
    (ofExcept r : Program S σ α).Runs service part w asked result w' ↔
      asked = [] ∧ result = r ∧ w' = w := by
  cases r <;> rfl

@[simp]
theorem runs_state {result : Except Error σ} :
    (state : Program S σ σ).Runs service part w asked result w' ↔
      asked = [] ∧ result = .ok (part.get w) ∧ w' = w :=
  Iff.rfl

@[simp]
theorem runs_modify {c : σ → σ} {result : Except Error Unit} :
    (modify c : Program S σ Unit).Runs service part w asked result w' ↔
      asked = [] ∧ result = .ok () ∧ w' = part.modify c w :=
  Iff.rfl

@[simp]
theorem runs_log {level : Log.Level} {logger : Log.Logger} {message : String}
    {details : List (String × Json)} {result : Except Error Unit} :
    (log level logger message details : Program S σ Unit).Runs service part w asked result w' ↔
      asked = [] ∧ result = .ok () ∧ w' = w :=
  Iff.rfl

@[simp]
theorem runs_logFailure {logger : Log.Logger} {message : String} {error : Error}
    {details : List (String × Json)} {result : Except Error Unit} :
    (logFailure logger message error details : Program S σ Unit).Runs service part w asked result
      w' ↔ asked = [] ∧ result = .ok () ∧ w' = w :=
  Iff.rfl

/-- A request ends with its reply. -/
@[simp]
theorem runs_perform {r : S.Request} {result : Except Error (S.Reply r)} :
    (perform r : Program S σ (S.Reply r)).Runs service part w asked result w' ↔
      service r w asked result w' := by
  simp only [perform, Runs, runs_ofExcept]
  constructor
  · rintro ⟨reply, w₁, asked₁, _, rfl, served, rfl, rfl, rfl⟩
    rwa [List.append_nil]
  · intro served
    exact ⟨result, w', asked, [], (List.append_nil _).symm, served, rfl, rfl, rfl⟩

/-! ### Steps that ask for nothing -/

@[simp]
theorem runs_state_seq {f : σ → Program S σ α} {result : Except Error α} :
    (state >>= f).Runs service part w asked result w' ↔
      (f (part.get w)).Runs service part w asked result w' :=
  Iff.rfl

@[simp]
theorem runs_modify_seq {c : σ → σ} {f : Unit → Program S σ α} {result : Except Error α} :
    (modify c >>= f).Runs service part w asked result w' ↔
      (f ()).Runs service part (part.modify c w) asked result w' :=
  Iff.rfl

@[simp]
theorem runs_log_seq {level : Log.Level} {logger : Log.Logger} {message : String}
    {details : List (String × Json)} {f : Unit → Program S σ α} {result : Except Error α} :
    (log level logger message details >>= f).Runs service part w asked result w' ↔
      (f ()).Runs service part w asked result w' :=
  Iff.rfl

@[simp]
theorem runs_logFailure_seq {logger : Log.Logger} {message : String} {error : Error}
    {details : List (String × Json)} {f : Unit → Program S σ α} {result : Except Error α} :
    (logFailure logger message error details >>= f).Runs service part w asked result w' ↔
      (f ()).Runs service part w asked result w' :=
  Iff.rfl

/-! ### After a failure -/

/-- A recovery runs where the program has ended with an ordinary error. -/
theorem runs_rescue {p : Program S σ α} {recover : Error → Program S σ α}
    {result : Except Error α} :
    (p.rescue recover).Runs service part w asked result w' ↔
      (∃ a, p.Runs service part w asked (.ok a) w' ∧ result = .ok a) ∨
      (∃ e, p.Runs service part w asked (.error e) w' ∧ e.isOrdinary = false ∧
        result = .error e) ∨
      ∃ e w₁ asked₁ asked₂, asked = asked₁ ++ asked₂ ∧
        p.Runs service part w asked₁ (.error e) w₁ ∧ e.isOrdinary ∧
        (recover e).Runs service part w₁ asked₂ result w' := by
  refine runs_attempt_seq.trans ⟨?_, ?_⟩
  · rintro ⟨e | a, w₁, asked₁, asked₂, rfl, hp, h⟩
    · by_cases ordinary : e.isOrdinary
      · simp only [if_pos ordinary] at h
        exact .inr (.inr ⟨e, w₁, asked₁, asked₂, rfl, hp, ordinary, h⟩)
      · simp only [if_neg ordinary] at h
        obtain ⟨rfl, rfl, rfl⟩ := h
        exact .inr (.inl ⟨e, by rwa [List.append_nil], by simpa using ordinary, rfl⟩)
    · obtain ⟨rfl, rfl, rfl⟩ := h
      exact .inl ⟨_, by rwa [List.append_nil], rfl⟩
  · rintro (⟨a, hp, rfl⟩ | ⟨e, hp, passes, rfl⟩ | ⟨e, w₁, asked₁, asked₂, rfl, hp, ordinary, h⟩)
    · exact ⟨.ok a, w', asked, [], (List.append_nil _).symm, hp, rfl, rfl, rfl⟩
    · refine ⟨.error e, w', asked, [], (List.append_nil _).symm, hp, ?_⟩
      simp [passes]
    · refine ⟨.error e, w₁, asked₁, asked₂, rfl, hp, ?_⟩
      simpa only [if_pos ordinary] using h

/-- A program that fails with ordinary errors only goes on with its recovery. -/
theorem runs_rescue_of_ordinary {p : Program S σ α} {recover : Error → Program S σ α}
    {result : Except Error α}
    (ordinary : ∀ e, p.Runs service part w asked (.error e) w' → e.isOrdinary)
    (h : (p.rescue recover).Runs service part w asked result w') :
    (∃ a, p.Runs service part w asked (.ok a) w' ∧ result = .ok a) ∨
      ∃ e w₁ asked₁ asked₂, asked = asked₁ ++ asked₂ ∧
        p.Runs service part w asked₁ (.error e) w₁ ∧
        (recover e).Runs service part w₁ asked₂ result w' := by
  obtain succeeded | ⟨e, failed, passes, -⟩ | ⟨e, w₁, asked₁, asked₂, eq, failed, -, h⟩ :=
    runs_rescue.mp h
  · exact .inl succeeded
  · rw [ordinary e failed] at passes
    cases passes
  · exact .inr ⟨e, w₁, asked₁, asked₂, eq, failed, h⟩

/-- The last step runs where the program has ended, and its failure goes first. -/
theorem runs_ensuring {p : Program S σ α} {last : Program S σ Unit} {result : Except Error α} :
    (p.ensuring last).Runs service part w asked result w' ↔
      ∃ r w₁ asked₁ asked₂, asked = asked₁ ++ asked₂ ∧ p.Runs service part w asked₁ r w₁ ∧
        ((∃ e, last.Runs service part w₁ asked₂ (.error e) w' ∧ result = .error e) ∨
          last.Runs service part w₁ asked₂ (.ok ()) w' ∧ result = r) := by
  refine runs_attempt_seq.trans ⟨?_, ?_⟩
  · rintro ⟨r, w₁, asked₁, asked₂, rfl, hp, h⟩
    refine ⟨r, w₁, asked₁, asked₂, rfl, hp, ?_⟩
    obtain ⟨e, failed, rfl⟩ | ⟨_, w₂, asked₃, asked₄, rfl, ended, ends⟩ := runs_bind.mp h
    · exact .inl ⟨e, failed, rfl⟩
    · obtain ⟨rfl, rfl, rfl⟩ := runs_ofExcept.mp ends
      exact .inr ⟨by rwa [List.append_nil], rfl⟩
  · rintro ⟨r, w₁, asked₁, asked₂, rfl, hp, ⟨e, h, rfl⟩ | ⟨h, rfl⟩⟩
    · exact ⟨r, w₁, asked₁, asked₂, rfl, hp, runs_bind.mpr (.inl ⟨e, h, rfl⟩)⟩
    · exact ⟨result, w₁, asked₁, asked₂, rfl, hp, runs_bind.mpr (.inr ⟨(), w', asked₂, [],
        (List.append_nil _).symm, h, runs_ofExcept.mpr ⟨rfl, rfl, rfl⟩⟩)⟩

/-- A span around a program makes no difference to its runs. -/
@[simp]
theorem runs_inSpan {tracer : Trace.Tracer} {span : Trace.Span} {p : Program S σ α}
    {result : Except Error α} :
    (p.inSpan tracer span).Runs service part w asked result w' ↔
      p.Runs service part w asked result w' := by
  cases tracer with
  | silent | recording => rfl
  | exporting =>
    refine (runs_attempt_seq (S := S)).trans ⟨?_, fun h => ?_⟩
    · rintro ⟨_ | _, w₁, asked₁, asked₂, rfl, h, rfl, rfl, rfl⟩ <;> rwa [List.append_nil]
    · refine ⟨result, w', asked, [], (List.append_nil _).symm, h, ?_⟩
      cases result <;> exact ⟨rfl, rfl, rfl⟩

/-! ### What all requests of a run have in common -/

/-- A run is a run of what is seen of the world, if requests and changes are seen as such. -/
theorem Runs.seen {ω' : Type} {service' : Service S A ω'} {part' : Lens ω' σ} {p : Program S σ α}
    {result : Except Error α} (h : p.Runs service part w asked result w') (see : ω → ω')
    (get : ∀ w, part'.get (see w) = part.get w)
    (modify : ∀ c w, see (part.modify c w) = part'.modify c (see w))
    (served : ∀ r w asked reply w', service r w asked reply w' →
      service' r (see w) asked reply (see w')) :
    p.Runs service' part' (see w) asked result (see w') := by
  induction p generalizing w asked with
  | done a | fail e =>
    obtain ⟨rfl, rfl, rfl⟩ := h
    exact ⟨rfl, rfl, rfl⟩
  | read k ih =>
    rw [runs_read, get]
    exact ih _ h
  | update c p ih =>
    have seen := ih h
    rw [modify] at seen
    exact seen
  | emit x p ih => exact ih h
  | call r k ih =>
    obtain ⟨reply, w₁, asked₁, asked₂, rfl, first, rest⟩ := h
    exact ⟨reply, see w₁, asked₁, asked₂, rfl, served _ _ _ _ _ first, ih _ rest⟩

/-- What no request and no change touches holds at the end of a run. -/
theorem Runs.keeps {I : ω → Prop} {p : Program S σ α} {result : Except Error α}
    (h : p.Runs service part w asked result w')
    (modify : ∀ c w, I w → I (part.modify c w))
    (served : ∀ r w asked reply w', service r w asked reply w' → I w → I w') (hw : I w) : I w' := by
  induction p generalizing w asked with
  | done a | fail e =>
    obtain ⟨-, -, rfl⟩ := h
    exact hw
  | read k ih => exact ih _ h hw
  | update c p ih => exact ih h (modify c w hw)
  | emit x p ih => exact ih h hw
  | call r k ih =>
    obtain ⟨reply, w₁, asked₁, asked₂, -, first, rest⟩ := h
    exact ih _ rest (served _ _ _ _ _ first hw)

/-- What holds of all that requests ask for holds of all that a run asks for. -/
theorem Runs.forall_asked {P : A → Prop} {p : Program S σ α} {result : Except Error α}
    (h : p.Runs service part w asked result w')
    (served : ∀ r w asked reply w', service r w asked reply w' → ∀ a ∈ asked, P a) :
    ∀ a ∈ asked, P a := by
  induction p generalizing w asked with
  | done a | fail e =>
    obtain ⟨rfl, -, -⟩ := h
    exact List.forall_mem_nil _
  | read k ih => exact ih _ h
  | update c p ih => exact ih h
  | emit x p ih => exact ih h
  | call r k ih =>
    obtain ⟨reply, w₁, asked₁, asked₂, rfl, first, rest⟩ := h
    exact List.forall_mem_append.mpr ⟨served _ _ _ _ _ first, ih _ rest⟩

/-! ### Embedded programs -/

/-- The requests of an embedded program are served by programs on the whole. -/
def servedBy (service : Service S A ω) (part : Lens ω σ)
    (serve : (r : T.Request) → Program S σ (T.Reply r)) : Service T A ω :=
  fun r => (serve r).Runs service part

/-- An embedded program runs on the part of the part, against the programs that serve it. -/
@[simp]
theorem runs_within {inner : Lens σ τ} {serve : (r : T.Request) → Program S σ (T.Reply r)}
    {p : Program T τ α} {result : Except Error α} :
    (p.within inner serve).Runs service part w asked result w' ↔
      p.Runs (servedBy service part serve) (part.andThen inner) w asked result w' := by
  induction p generalizing w asked with
  | done a | fail e => rfl
  | read k ih => exact ih ((part.andThen inner).get w)
  | update c p ih => exact ih
  | emit x p ih => exact ih
  | call r k ih =>
    refine runs_attempt_seq.trans ?_
    simp only [ih]
    rfl

theorem servedBy_perform : servedBy service part (fun r => perform r) = service := by
  funext r w asked reply w'
  exact propext runs_perform

/-- A program that passes its requests on runs on the part of the part. -/
@[simp]
theorem runs_on {inner : Lens σ τ} {p : Program S τ α} {result : Except Error α} :
    (p.on inner).Runs service part w asked result w' ↔
      p.Runs service (part.andThen inner) w asked result w' := by
  rw [on, runs_within, servedBy_perform]

end Program

/-! ### Runs against surroundings -/

/-- The request that an entry notes, with its reply. -/
def Entry.answer? : Entry S σ → Option (Answer S)
  | .exchanged x => some ⟨x.request, x.reply⟩
  | .heard _ => none

namespace Course

/-- The requests of a course with their replies, the first first. -/
def answers (w : Course S σ) : List (Answer S) :=
  w.past.filterMap Entry.answer?

@[simp]
theorem answers_answer (w : Course S σ) (r : S.Request) (reply : Except Error (S.Reply r))
    (s : σ) : (w.answer r reply s).answers = w.answers ++ [⟨r, reply⟩] := by
  simp [answers, answer, Entry.answer?]

@[simp]
theorem answers_note (w : Course S σ) (x : Signal) : (w.note x).answers = w.answers := by
  simp [answers, note, Entry.answer?]

end Course

/-- What is seen of a course: a program on a part of the course is a program on a part of this, and
signals are not seen. -/
structure View (part : Lens (Course S σ) τ) (ω : Type) where
  see : Course S σ → ω
  inner : Lens ω τ
  get_see : ∀ w, inner.get (see w) = part.get w
  see_modify : ∀ c w, see (part.modify c w) = inner.modify c (see w)
  answers_modify : ∀ c w, (part.modify c w).answers = w.answers
  see_note : ∀ w x, see (w.note x) = see w

/-- A course as its state. -/
def Course.stateView : View (statePart : Lens (Course S σ) σ) σ where
  see w := w.state
  inner := .whole
  get_see _ := rfl
  see_modify _ _ := rfl
  answers_modify _ _ := rfl
  see_note _ _ := rfl

namespace Program

variable {env : Surroundings S σ}

/-- A run against surroundings is one of the runs of the program, if requests are served as the
surroundings reply; the course has gone on by the requests of the run. -/
theorem runs_of_served {part : Lens (Course S σ) τ} (view : View part ω)
    (service : Service S (Answer S) ω)
    (served : ∀ w r, service r (view.see w) [⟨r, (env w r).1⟩] (env w r).1
      (view.see (w.answer r (env w r).1 (env w r).2)))
    (p : Program S τ α) (w : Course S σ) : ∃ asked,
      (p.run env.host part w).2.answers = w.answers ++ asked ∧
        p.Runs service view.inner (view.see w) asked (p.run env.host part w).1
          (view.see (p.run env.host part w).2) := by
  induction p generalizing w with
  | done a | fail e => exact ⟨[], (List.append_nil _).symm, rfl, rfl, rfl⟩
  | read k ih =>
    simp only [Runs, view.get_see]
    exact ih (part.get w) w
  | update c p ih =>
    obtain ⟨asked, eq, h⟩ := ih (part.modify c w)
    rw [view.answers_modify] at eq
    rw [view.see_modify] at h
    exact ⟨asked, eq, h⟩
  | emit x p ih =>
    obtain ⟨asked, eq, h⟩ := ih (w.note x)
    rw [Course.answers_note] at eq
    rw [view.see_note] at h
    exact ⟨asked, eq, h⟩
  | call r k ih =>
    obtain ⟨asked, eq, h⟩ := ih (env w r).1 (w.answer r (env w r).1 (env w r).2)
    rw [Course.answers_answer, List.append_assoc] at eq
    exact ⟨⟨r, (env w r).1⟩ :: asked, eq, (env w r).1, _, [⟨r, (env w r).1⟩], asked, rfl,
      served w r, h⟩

/-- A run against surroundings, where others leave something as it is: the surroundings have given
the replies. -/
theorem runs_of_run {part : Lens (Course S σ) τ} (view : View part ω) (f : ω → β)
    (others : ∀ w r, Leaves f (view.see w) (view.see (w.answer r (env w r).1 (env w r).2)))
    (p : Program S τ α) (w : Course S σ) : ∃ asked,
      (p.run env.host part w).2.answers = w.answers ++ asked ∧
        (∀ a ∈ asked, ∃ w₁, a.reply = (env w₁ a.request).1) ∧
        p.Runs (.direct S (Leaves f)) view.inner (view.see w) asked (p.run env.host part w).1
          (view.see (p.run env.host part w).2) := by
  let replied : Service S (Answer S) ω := fun r w asked reply w' =>
    (∃ w₁, reply = (env w₁ r).1) ∧ Service.direct S (Leaves f) r w asked reply w'
  obtain ⟨asked, eq, h⟩ := runs_of_served view replied
    (fun w r => ⟨⟨w, rfl⟩, rfl, others w r⟩) p w
  refine ⟨asked, eq, h.forall_asked ?_, h.seen id (fun _ => rfl) (fun _ _ => rfl) ?_⟩
  · rintro r w asked reply w' ⟨from_env, rfl, -⟩ a ha
    obtain rfl := List.mem_singleton.mp ha
    exact from_env
  · exact fun r w asked reply w' h => h.2

/-- Whatever is done, nothing that has been asked for is taken back. -/
theorem answers_run (env : Surroundings S σ) (p : Program S σ α) (w : Course S σ) :
    w.answers <+: (p.run env.host Course.statePart w).2.answers := by
  have others (w : Course S σ) (r) :
      Leaves (fun _ => ()) w.state (w.answer r (env w r).1 (env w r).2).state := rfl
  obtain ⟨asked, answers, -⟩ := runs_of_run Course.stateView (fun _ => ()) others p w
  exact ⟨asked, answers.symm⟩

end Program

/-! ### Requests that stand for others -/

variable {B : Type}

/-- Requests that are served by asking for others: `stands` says what an answer stands for. -/
def Service.spread (S : Signature) (stands : Answer S → List B → Prop)
    (other : ω → ω → Prop) : Service S B ω :=
  fun r w asked reply w' => stands ⟨r, reply⟩ asked ∧ other w w'

/-- What answers stand for, one after the other. -/
inductive StandFor (stands : A → List B → Prop) : List A → List B → Prop
  | nil : StandFor stands [] []
  | cons {a asked answers rest} (first : stands a asked) (others : StandFor stands answers rest) :
    StandFor stands (a :: answers) (asked ++ rest)

namespace Program

/-- A program whose requests stand for others runs as it does when they are asked for themselves. -/
theorem runs_spread {part : Lens ω σ} {w w' : ω} {stands : Answer S → List B → Prop}
    {other : ω → ω → Prop} {p : Program S σ α} {asked : List B} {result : Except Error α} :
    p.Runs (.spread S stands other) part w asked result w' ↔
      ∃ answers, p.Runs (.direct S other) part w answers result w' ∧
        StandFor stands answers asked := by
  induction p generalizing w asked with
  | done a | fail e =>
    constructor
    · rintro ⟨rfl, rfl, rfl⟩
      exact ⟨[], ⟨rfl, rfl, rfl⟩, .nil⟩
    · rintro ⟨_, ⟨rfl, rfl, rfl⟩, ⟨⟩⟩
      exact ⟨rfl, rfl, rfl⟩
  | read k ih => exact ih (part.get w)
  | update c p ih => exact ih
  | emit x p ih => exact ih
  | call r k ih =>
    constructor
    · rintro ⟨reply, w₁, asked₁, rest, rfl, ⟨first, meanwhile⟩, h⟩
      obtain ⟨answers, runs, others⟩ := (ih reply).mp h
      exact ⟨⟨r, reply⟩ :: answers,
        ⟨reply, w₁, [⟨r, reply⟩], answers, rfl, ⟨rfl, meanwhile⟩, runs⟩, .cons first others⟩
    · rintro ⟨_, ⟨reply, w₁, _, answers, rfl, ⟨rfl, meanwhile⟩, runs⟩, stand⟩
      cases stand with
      | cons first others =>
        exact ⟨reply, w₁, _, _, rfl, ⟨first, meanwhile⟩, (ih reply).mpr ⟨answers, runs, others⟩⟩

end Program

/-! ### Requests with the states around them -/

section Noted

variable {S : Signature} {σ α : Type}

/-- A request is asked for itself and noted with the states before and after it. -/
def Service.noted (S : Signature)
    (other : (r : S.Request) → Except Error (S.Reply r) → σ → σ → Prop) :
    Service S (Exchange S σ) σ :=
  fun r s asked reply s' => asked = [⟨r, reply, s, s'⟩] ∧ other r reply s s'

/-- The exchange that an entry notes. -/
def Entry.exchange? : Entry S σ → Option (Exchange S σ)
  | .exchanged x => some x
  | .heard _ => none

/-- The exchanges of a course, the first first. -/
def Course.exchanges (w : Course S σ) : List (Exchange S σ) :=
  w.past.filterMap Entry.exchange?

theorem Course.exchanges_answer (w : Course S σ) (r : S.Request) (reply : Except Error (S.Reply r))
    (s : σ) : (w.answer r reply s).exchanges = w.exchanges ++ [⟨r, reply, w.state, s⟩] := by
  simp [exchanges, answer, Entry.exchange?]

theorem Course.exchanges_note (w : Course S σ) (x : Signal) :
    (w.note x).exchanges = w.exchanges := by
  simp [exchanges, note, Entry.exchange?]

/-- A run against surroundings is one of the runs of the program, and its exchanges are noted. -/
theorem Program.runs_of_noted {env : Surroundings S σ}
    {other : (r : S.Request) → Except Error (S.Reply r) → σ → σ → Prop}
    (served : ∀ w r, other r (env w r).1 w.state (env w r).2) (p : Program S σ α)
    (w : Course S σ) : ∃ asked,
      (p.run env.host Course.statePart w).2.exchanges = w.exchanges ++ asked ∧
        p.Runs (.noted S other) .whole w.state asked (p.run env.host Course.statePart w).1
          (p.run env.host Course.statePart w).2.state := by
  induction p generalizing w with
  | done a | fail e => exact ⟨[], (List.append_nil _).symm, rfl, rfl, rfl⟩
  | read k ih => exact ih w.state w
  | update c p ih => exact ih (Course.statePart.modify c w)
  | emit x p ih =>
    obtain ⟨asked, eq, h⟩ := ih (w.note x)
    rw [Course.exchanges_note] at eq
    exact ⟨asked, eq, h⟩
  | call r k ih =>
    obtain ⟨asked, eq, h⟩ := ih (env w r).1 (w.answer r (env w r).1 (env w r).2)
    rw [Course.exchanges_answer, List.append_assoc] at eq
    exact ⟨_ :: asked, eq, (env w r).1, (env w r).2, [_], asked, rfl, ⟨rfl, served w r⟩, h⟩

/-- A program that logs something in the end runs as it does without. -/
theorem Program.runs_seq_log {A ω : Type} {service : Service S A ω} {part : Lens ω σ} {w w' : ω}
    {asked : List A} {p : Program S σ Unit} {level : Log.Level} {logger : Log.Logger}
    {message : String} {details : List (String × Json)} {result : Except Error Unit} :
    (p >>= fun _ => log level logger message details).Runs service part w asked result w' ↔
      p.Runs service part w asked result w' := by
  simp only [runs_seq, runs_log]
  constructor
  · rintro (⟨e, h, rfl⟩ | ⟨_, w₁, asked, _, rfl, h, rfl, rfl, rfl⟩)
    · exact h
    · rwa [List.append_nil]
  · intro h
    cases result with
    | ok a => exact .inr ⟨a, w', asked, [], (List.append_nil _).symm, h, rfl, rfl, rfl⟩
    | error e => exact .inl ⟨e, h, rfl⟩

end Noted

end BrokerClient
