import BrokerClient.Program.Laws

/-!
# Running programs

A `Host` answers the requests of a program and hears its signals. It does so in a world of which the
state of the program is a part. `Program.run` runs a program in such a world; a program is a finite
tree, so every run comes to an end.

`Program.Ends` says how a run ends, by one assertion for a result and one for an error. It has one
law for each way to build a program, and these laws rewrite a statement about a program into
statements about its requests. `Program.Keeps` is the special case of an invariant.

Where programs overlap, a run is made of pieces: `Program.advance` runs a program up to the first
request that it has to wait for.

## Main definitions

* `Host` — what a program runs against.
* `Program.run` — the run of a program.
* `Program.Ends`, `Program.Keeps` — what holds at the end of a run.
* `Program.advance` — the piece of a run up to a request.

## Main results

* `Program.run_within` — an embedded program runs on the part, against the programs that serve it.
* `Program.ends_bind`, `Program.ends_rescue`, `Program.ends_ensuring` — laws of `Program.Ends`.
* `Program.Keeps.bind`, `Program.Keeps.inSpan` — programs that keep an assertion.
-/

namespace BrokerClient

variable {S T : Signature} {ω σ τ α β : Type}

/-- Answers requests and hears signals in a world. -/
structure Host (S : Signature) (ω : Type) where
  serve : (r : S.Request) → ω → Except Error (S.Reply r) × ω
  hear : Signal → ω → ω

namespace Program

/-- Runs a program on a part of a world. -/
def run (host : Host S ω) (part : Lens ω σ) : Program S σ α → ω → Except Error α × ω
  | done a, w => (.ok a, w)
  | fail e, w => (.error e, w)
  | read k, w => (k (part.get w)).run host part w
  | update c p, w => p.run host part (part.modify c w)
  | emit x p, w => p.run host part (host.hear x w)
  | call r k, w => (k (host.serve r w).1).run host part (host.serve r w).2

variable {host : Host S ω} {part : Lens ω σ}

/-- The run of a sequence goes on only after a result. -/
theorem run_bind (p : Program S σ α) (f : α → Program S σ β) (w : ω) :
    (p.bind f).run host part w = match p.run host part w with
      | (.ok a, w') => (f a).run host part w'
      | (.error e, w') => (.error e, w') := by
  induction p generalizing w with
  | done a => rfl
  | fail e => rfl
  | read k ih => exact ih _ w
  | update c p ih => exact ih _
  | emit x p ih => exact ih _
  | call r k ih => exact ih _ _

/-- An attempt runs like the program and always has a result. -/
theorem run_attempt (p : Program S σ α) (w : ω) :
    p.attempt.run host part w = (.ok (p.run host part w).1, (p.run host part w).2) := by
  induction p generalizing w with
  | done a => rfl
  | fail e => rfl
  | read k ih => exact ih _ w
  | update c p ih => exact ih _
  | emit x p ih => exact ih _
  | call r k ih => exact ih _ _

/-- The host of an embedded program: its requests are served by programs on the whole state. -/
def hostWithin (host : Host S ω) (part : Lens ω σ)
    (serve : (r : T.Request) → Program S σ (T.Reply r)) : Host T ω where
  serve r w := (serve r).run host part w
  hear := host.hear

/-- An embedded program runs on the part of the part, against the programs that serve it. -/
theorem run_within (inner : Lens σ τ) (serve : (r : T.Request) → Program S σ (T.Reply r))
    (p : Program T τ α) (w : ω) :
    (p.within inner serve).run host part w =
      p.run (hostWithin host part serve) (part.andThen inner) w := by
  induction p generalizing w with
  | done a => rfl
  | fail e => rfl
  | read k ih => exact ih _ w
  | update c p ih => exact ih _
  | emit x p ih => exact ih _
  | call r k ih =>
    simp only [within, run_bind, run_attempt]
    exact ih _ _

/-- What holds at the end of a run: one assertion for a result and one for an error. -/
def atEnd (ok : α → ω → Prop) (err : Error → ω → Prop) : Except Error α × ω → Prop
  | (.ok a, w) => ok a w
  | (.error e, w) => err e w

@[simp]
theorem atEnd_ok (ok : α → ω → Prop) (err : Error → ω → Prop) (a : α) (w : ω) :
    atEnd ok err (.ok a, w) ↔ ok a w :=
  Iff.rfl

@[simp]
theorem atEnd_error (ok : α → ω → Prop) (err : Error → ω → Prop) (e : Error) (w : ω) :
    atEnd ok err (.error e, w) ↔ err e w :=
  Iff.rfl

/-- The worlds from which a program ends with a result as `ok` says or with an error as `err`
says. -/
def Ends (host : Host S ω) (part : Lens ω σ) (p : Program S σ α) (ok : α → ω → Prop)
    (err : Error → ω → Prop) (w : ω) : Prop :=
  atEnd ok err (p.run host part w)

variable {ok : α → ω → Prop} {err : Error → ω → Prop}

/-- Weaker assertions hold too. -/
theorem Ends.mono {p : Program S σ α} {w : ω} {ok' : α → ω → Prop} {err' : Error → ω → Prop}
    (h : p.Ends host part ok err w) (hok : ∀ a w, ok a w → ok' a w)
    (herr : ∀ e w, err e w → err' e w) : p.Ends host part ok' err' w := by
  unfold Ends at h ⊢
  match p.run host part w, h with
  | (.ok a, w'), h => exact hok a w' h
  | (.error e, w'), h => exact herr e w' h

/-- What holds whichever way a run ends holds of the world that it leaves. -/
theorem Ends.world {p : Program S σ α} {w : ω} {Q : ω → Prop}
    (h : p.Ends host part (fun _ => Q) (fun _ => Q) w) : Q (p.run host part w).2 := by
  unfold Ends at h
  match p.run host part w, h with
  | (.ok _, _), h => exact h
  | (.error _, _), h => exact h

@[simp]
theorem ends_done (a : α) : (done a).Ends host part ok err = ok a :=
  rfl

@[simp]
theorem ends_pure (a : α) : (pure a : Program S σ α).Ends host part ok err = ok a :=
  rfl

@[simp]
theorem ends_fail (e : Error) : (fail e : Program S σ α).Ends host part ok err = err e :=
  rfl

@[simp]
theorem ends_read (k : σ → Program S σ α) :
    (read k).Ends host part ok err = fun w => (k (part.get w)).Ends host part ok err w :=
  rfl

@[simp]
theorem ends_update (c : σ → σ) (p : Program S σ α) :
    (update c p).Ends host part ok err = fun w => p.Ends host part ok err (part.modify c w) :=
  rfl

@[simp]
theorem ends_emit (x : Signal) (p : Program S σ α) :
    (emit x p).Ends host part ok err = fun w => p.Ends host part ok err (host.hear x w) :=
  rfl

/-- The second part of a sequence starts where the first has ended with a result. -/
@[simp]
theorem ends_bind (p : Program S σ α) (f : α → Program S σ β) {ok : β → ω → Prop} :
    (p.bind f).Ends host part ok err =
      p.Ends host part (fun a => (f a).Ends host part ok err) err := by
  funext w
  simp only [Ends, run_bind]
  match p.run host part w with
  | (.ok a, w') => rfl
  | (.error e, w') => rfl

@[simp]
theorem ends_seq (p : Program S σ α) (f : α → Program S σ β) {ok : β → ω → Prop} :
    (p >>= f).Ends host part ok err =
      p.Ends host part (fun a => (f a).Ends host part ok err) err :=
  ends_bind p f

/-- A sequence, by way of what holds between its parts. -/
theorem Ends.seq {p : Program S σ α} {f : α → Program S σ β} {ok : β → ω → Prop} {w : ω}
    {M : α → ω → Prop} (hp : p.Ends host part M err w)
    (hf : ∀ a w, M a w → (f a).Ends host part ok err w) : (p >>= f).Ends host part ok err w := by
  rw [ends_seq]
  exact hp.mono hf fun _ _ h => h

@[simp]
theorem ends_attempt (p : Program S σ α) {ok : Except Error α → ω → Prop} :
    p.attempt.Ends host part ok err =
      p.Ends host part (fun a => ok (.ok a)) (fun e => ok (.error e)) := by
  funext w
  simp only [Ends, run_attempt]
  match p.run host part w with
  | (.ok a, w') => rfl
  | (.error e, w') => rfl

@[simp]
theorem ends_ofExcept (r : Except Error α) :
    (ofExcept r : Program S σ α).Ends host part ok err = fun w => atEnd ok err (r, w) := by
  cases r <;> rfl

@[simp]
theorem ends_state {ok : σ → ω → Prop} :
    (state : Program S σ σ).Ends host part ok err = fun w => ok (part.get w) w :=
  rfl

@[simp]
theorem ends_modify (c : σ → σ) {ok : Unit → ω → Prop} :
    (modify c : Program S σ Unit).Ends host part ok err = fun w => ok () (part.modify c w) :=
  rfl

@[simp]
theorem ends_signal (x : Signal) {ok : Unit → ω → Prop} :
    (signal x : Program S σ Unit).Ends host part ok err = fun w => ok () (host.hear x w) :=
  rfl

/-- A request ends as the host answers it. -/
theorem ends_perform (r : S.Request) {ok : S.Reply r → ω → Prop} :
    (perform r : Program S σ (S.Reply r)).Ends host part ok err =
      fun w => atEnd ok err (host.serve r w) := by
  funext w
  exact congrFun (ends_ofExcept (host.serve r w).1) (host.serve r w).2

/-- The recovery starts where the program has ended with an ordinary error. -/
@[simp]
theorem ends_rescue (p : Program S σ α) (recover : Error → Program S σ α) :
    (p.rescue recover).Ends host part ok err =
      p.Ends host part ok fun e w => if e.isOrdinary then (recover e).Ends host part ok err w
        else err e w := by
  simp only [rescue, ends_bind, ends_attempt, ends_done]
  congr 1
  funext e w
  split <;> rfl

/-- A recovery, by way of what holds where it starts. -/
theorem Ends.rescue {p : Program S σ α} {recover : Error → Program S σ α} {w : ω}
    {M : Error → ω → Prop} (hp : p.Ends host part ok (fun e w => M e w ∧ e.isOrdinary) w)
    (hr : ∀ e w, M e w → (recover e).Ends host part ok err w) :
    (p.rescue recover).Ends host part ok err w := by
  rw [ends_rescue]
  refine hp.mono (fun _ _ h => h) fun e w h => ?_
  rw [if_pos h.2]
  exact hr e w h.1

/-- The last step starts where the program has ended, however that was. -/
@[simp]
theorem ends_ensuring (p : Program S σ α) (last : Program S σ Unit) :
    (p.ensuring last).Ends host part ok err =
      p.Ends host part (fun a => last.Ends host part (fun _ => ok a) err)
        (fun e => last.Ends host part (fun _ => err e) err) := by
  simp only [ensuring, ends_bind, ends_attempt, ends_ofExcept]
  rfl

/-- A span around a program makes no difference to assertions that signals do not touch. -/
theorem Ends.inSpan {p : Program S σ α} {I : ω → Prop} {w : ω}
    (hear : ∀ x w, I w → I (host.hear x w)) (hear_ok : ∀ a x w, ok a w → ok a (host.hear x w))
    (hear_err : ∀ e x w, err e w → err e (host.hear x w)) (tracer : Trace.Tracer)
    (span : Trace.Span) (h : ∀ w, I w → p.Ends host part ok err w) (hw : I w) :
    (p.inSpan tracer span).Ends host part ok err w := by
  cases tracer with
  | silent => exact h w hw
  | recording name => exact h _ (hear _ w hw)
  | exporting =>
    simp only [Program.inSpan, ends_emit, ends_bind, ends_attempt, ends_done, ends_fail]
    exact (h _ (hear _ w hw)).mono (fun a _ h => hear_ok a _ _ h) fun e _ h => hear_err e _ _ h

/-- An embedded program ends as it does on the part of the part. -/
@[simp]
theorem ends_within (inner : Lens σ τ) (serve : (r : T.Request) → Program S σ (T.Reply r))
    (p : Program T τ α) :
    (p.within inner serve).Ends host part ok err =
      p.Ends (hostWithin host part serve) (part.andThen inner) ok err := by
  funext w
  simp only [Ends, run_within]

/-- A request of an embedded program ends as the program that serves it. -/
theorem ends_perform_within {serve : (r : T.Request) → Program S σ (T.Reply r)}
    {inner : Lens ω τ} (r : T.Request) {ok : T.Reply r → ω → Prop} :
    (perform r : Program T τ (T.Reply r)).Ends (hostWithin host part serve) inner ok err =
      (serve r).Ends host part ok err :=
  ends_perform r

/-- To serve requests by passing them on is to leave them to the host. -/
theorem hostWithin_perform : hostWithin host part (fun r => perform r) = host := by
  have serve (r : S.Request) (w : ω) :
      (perform r : Program S σ (S.Reply r)).run host part w = host.serve r w := by
    change (ofExcept (host.serve r w).1 : Program S σ (S.Reply r)).run host part
      (host.serve r w).2 = _
    match host.serve r w with
    | (.ok a, w') => rfl
    | (.error e, w') => rfl
  simp only [hostWithin, serve]

/-- A program that passes its requests on ends as it does against the host itself. -/
theorem run_on (inner : Lens σ τ) (p : Program S τ α) (w : ω) :
    (p.on inner).run host part w = p.run host (part.andThen inner) w := by
  rw [on, run_within, hostWithin_perform]

@[simp]
theorem ends_on (inner : Lens σ τ) (p : Program S τ α) :
    (p.on inner).Ends host part ok err = p.Ends host (part.andThen inner) ok err := by
  rw [on, ends_within, hostWithin_perform]

/-! ### Assertions that a program keeps -/

/-- Every run that starts with the assertion ends with it, and only ordinary errors end a run. -/
def Keeps (host : Host S ω) (part : Lens ω σ) (I : ω → Prop) (p : Program S σ α) : Prop :=
  ∀ w, I w → p.Ends host part (fun _ => I) (fun e w => I w ∧ e.isOrdinary) w

variable {I : ω → Prop}

theorem Keeps.done (a : α) : (done a : Program S σ α).Keeps host part I :=
  fun _ h => h

theorem Keeps.fail {e : Error} (he : e.isOrdinary) :
    (fail e : Program S σ α).Keeps host part I :=
  fun _ h => ⟨h, he⟩

theorem Keeps.read {k : σ → Program S σ α} (h : ∀ s, (k s).Keeps host part I) :
    (read k).Keeps host part I :=
  fun w hw => h _ w hw

theorem Keeps.bind {p : Program S σ α} {f : α → Program S σ β} (hp : p.Keeps host part I)
    (hf : ∀ a, (f a).Keeps host part I) : (p.bind f).Keeps host part I := by
  intro w hw
  rw [ends_bind]
  exact (hp w hw).mono (fun a w' h => hf a w' h) fun _ _ h => h

theorem Keeps.seq {p : Program S σ α} {f : α → Program S σ β} (hp : p.Keeps host part I)
    (hf : ∀ a, (f a).Keeps host part I) : (p >>= f).Keeps host part I :=
  hp.bind hf

theorem Keeps.modify {c : σ → σ} (h : ∀ w, I w → I (part.modify c w)) :
    (modify c : Program S σ Unit).Keeps host part I :=
  h

theorem Keeps.state : (state : Program S σ σ).Keeps host part I :=
  fun _ h => h

theorem Keeps.ofExcept {r : Except Error α} (h : ∀ e, r = .error e → e.isOrdinary) :
    (ofExcept r : Program S σ α).Keeps host part I := by
  cases r with
  | ok a => exact .done a
  | error e => exact .fail (h e rfl)

/-- After an attempt the program goes on with a result or with an ordinary error. -/
theorem Keeps.attempt_seq {p : Program S σ α} {f : Except Error α → Program S σ β}
    (hp : p.Keeps host part I) (hok : ∀ a, (f (.ok a)).Keeps host part I)
    (herr : ∀ e, e.isOrdinary → (f (.error e)).Keeps host part I) :
    (p.attempt >>= f).Keeps host part I := by
  intro w hw
  rw [ends_seq, ends_attempt]
  exact (hp w hw).mono (fun a w' h => hok a w' h) fun e w' h => herr e h.2 w' h.1

theorem Keeps.rescue {p : Program S σ α} {recover : Error → Program S σ α}
    (hp : p.Keeps host part I) (hr : ∀ e, (recover e).Keeps host part I) :
    (p.rescue recover).Keeps host part I := by
  intro w hw
  rw [ends_rescue]
  refine (hp w hw).mono (fun _ _ h => h) fun e w' h => ?_
  rw [if_pos h.2]
  exact hr e w' h.1

theorem Keeps.ensuring {p : Program S σ α} {last : Program S σ Unit}
    (hp : p.Keeps host part I) (hl : last.Keeps host part I) :
    (p.ensuring last).Keeps host part I := by
  intro w hw
  rw [ends_ensuring]
  refine (hp w hw).mono (fun a w' h => hl w' h) fun e w' h => ?_
  exact (hl w' h.1).mono (fun _ _ h' => ⟨h', h.2⟩) fun _ _ h' => h'

theorem Keeps.forM {f : β → Program S σ Unit} {l : List β}
    (h : ∀ b ∈ l, (f b).Keeps host part I) : (l.forM f).Keeps host part I := by
  induction l with
  | nil => exact .done ()
  | cons b l ih =>
    rw [List.forM_eq_forM, List.forM_cons]
    exact (h b List.mem_cons_self).seq fun _ => ih fun c hc => h c (List.mem_cons_of_mem b hc)

/-- A program on a part keeps what it keeps against the host itself. -/
theorem Keeps.on {inner : Lens σ τ} {p : Program S τ α}
    (h : p.Keeps host (part.andThen inner) I) : (p.on inner).Keeps host part I := by
  intro w hw
  rw [ends_on]
  exact h w hw

section Signals

variable (hear : ∀ x w, I w → I (host.hear x w))

include hear

theorem Keeps.signal (x : Signal) : (signal x : Program S σ Unit).Keeps host part I :=
  hear x

/-- A span around a program makes no difference to an assertion that signals do not touch. -/
theorem Keeps.inSpan {p : Program S σ α} (tracer : Trace.Tracer) (span : Trace.Span)
    (hp : p.Keeps host part I) : (p.inSpan tracer span).Keeps host part I := by
  intro w hw
  exact Ends.inSpan hear (fun _ x w h => hear x w h) (fun _ x w h => ⟨hear x w h.1, h.2⟩) tracer
    span hp hw

end Signals

/-! ### Running up to a request -/

/-- Runs a program up to the first request that it has to wait for: `pass` gives the replies that
come at once. Gives what is left of the program, and the state. Signals are not heard. -/
def advance (pass : (r : S.Request) → Option (S.Reply r)) :
    Program S σ α → σ → Program S σ α × σ
  | done a, s => (done a, s)
  | fail e, s => (fail e, s)
  | read k, s => (k s).advance pass s
  | update c p, s => p.advance pass (c s)
  | emit _ p, s => p.advance pass s
  | call r k, s => match pass r with
    | some a => (k (.ok a)).advance pass s
    | none => (call r k, s)

variable {pass : (r : S.Request) → Option (S.Reply r)} {s : σ}

@[simp]
theorem advance_done (a : α) : (done a : Program S σ α).advance pass s = (done a, s) :=
  rfl

@[simp]
theorem advance_fail (e : Error) : (fail e : Program S σ α).advance pass s = (fail e, s) :=
  rfl

@[simp]
theorem advance_read (k : σ → Program S σ α) :
    (read k).advance pass s = (k s).advance pass s :=
  rfl

@[simp]
theorem advance_update (c : σ → σ) (p : Program S σ α) :
    (update c p).advance pass s = p.advance pass (c s) :=
  rfl

@[simp]
theorem advance_emit (x : Signal) (p : Program S σ α) :
    (emit x p).advance pass s = p.advance pass s :=
  rfl

@[simp]
theorem advance_state_seq (f : σ → Program S σ α) :
    (state >>= f).advance pass s = (f s).advance pass s :=
  rfl

@[simp]
theorem advance_modify_seq (c : σ → σ) (f : Unit → Program S σ α) :
    (modify c >>= f).advance pass s = (f ()).advance pass (c s) :=
  rfl

@[simp]
theorem advance_log_seq (level : Log.Level) (logger : Log.Logger) (message : String)
    (details : List (String × Json)) (f : Unit → Program S σ α) :
    (log level logger message details >>= f).advance pass s = (f ()).advance pass s :=
  rfl

end Program

end BrokerClient
