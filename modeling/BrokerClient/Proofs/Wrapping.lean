import BrokerClient.Consumer

/-!
# The jobs that a consumer keeps

A consumer keeps one job for all handlers that are equal: that of the first of them that it has run.
This handler stands in for the others, which are not called as long as the consumer lives. A handler
that is equal to itself only is its own stand-in, and a handler that cannot be hashed is never run.

What is kept for a handler is the job of its stand-in (`lookup_wrapped`), by the invariant that a
consumer carries with its table. A table only grows, so that a stand-in stays one
(`Later.standIn_of_keep`).

## Main definitions

* `Consumer.kept` — the handlers whose jobs are kept.
* `Consumer.standIn`, `Consumer.callee` — the handler that is called for a handler.
* `Consumer.Later` — a consumer later on, with more jobs.

## Main results

* `Consumer.wrapped_getD` — a handler is run by the job of its stand-in.
* `Consumer.standIn_beq` — a stand-in is equal to the handler that it stands in for.
* `Consumer.standIn_keep`, `Consumer.Later.standIn_eq` — which stand-ins stay as they are when jobs
  are kept.
-/

namespace BrokerClient.Consumer

open Retry

variable {c c' c'' : Consumer} {g h : Handler}

/-- The handlers whose jobs are kept. -/
def kept (c : Consumer) : List Handler :=
  c.wrapped.map (·.1)

/-- The handler whose job a handler is run by: of those that are equal to it the first that a job is
kept for, or itself. -/
def standIn (c : Consumer) (h : Handler) : Handler :=
  (c.kept.find? (h == ·)).getD h

/-- What is called for a handler: its stand-in, unless the handler cannot be hashed. -/
def callee (c : Consumer) (h : Handler) : Except Error Handler :=
  match h.unhashable with
  | some text => .error (.fault .type text)
  | none => .ok (c.standIn h)

theorem callee_of_hashable (hashable : h.unhashable = none) : c.callee h = .ok (c.standIn h) := by
  simp only [callee, hashable]

/-! ### What is kept -/

/-- What is kept for a handler is the job of the first handler that is equal to it. -/
theorem lookup_wrapped (c : Consumer) (h : Handler) :
    c.wrapped.lookup h = (c.kept.find? (h == ·)).map c.job := by
  have jobs := c.wrapped_eq
  unfold kept
  generalize c.wrapped = wrapped at jobs
  induction wrapped with
  | nil => rfl
  | cons p wrapped ih =>
    obtain ⟨g, job⟩ := p
    obtain ⟨own, jobs⟩ := List.forall_mem_cons.mp jobs
    rw [List.lookup_cons, List.map_cons, List.find?_cons]
    cases h == g with
    | true => exact congrArg some own
    | false => exact ih jobs

/-- A handler is run by the job of its stand-in. -/
theorem wrapped_getD (c : Consumer) (h : Handler) :
    (c.wrapped.lookup h).getD (c.job h) = c.job (c.standIn h) := by
  rw [lookup_wrapped, standIn]
  cases c.kept.find? (h == ·) <;> rfl

/-- A stand-in is equal to the handler that it stands in for. -/
theorem standIn_beq (c : Consumer) (h : Handler) : h == c.standIn h := by
  rw [standIn]
  cases found : c.kept.find? (h == ·) with
  | none => exact BEq.rfl
  | some g => exact List.find?_some found

/-- A handler stands in for itself if there is no job of another one that is equal to it. -/
theorem standIn_eq_self (only : ∀ g ∈ c.kept, h == g → g = h) : c.standIn h = h := by
  rw [standIn]
  cases found : c.kept.find? (h == ·) with
  | none => rfl
  | some g => exact only g (List.mem_of_find?_eq_some found) (List.find?_some found)

theorem find?_beq_congr (equal : g == h) (hs : List Handler) :
    hs.find? (g == ·) = hs.find? (h == ·) :=
  congrArg (hs.find? ·) (funext fun _ => BEq.congr_left equal)

/-- Handlers that are equal have one stand-in if a job is kept for them. -/
theorem standIn_congr (equal : g == h) (kept : ∃ k ∈ c.kept, h == k) :
    c.standIn g = c.standIn h := by
  obtain ⟨k, found⟩ := Option.isSome_iff_exists.mp (List.find?_isSome.mpr kept)
  rw [standIn, standIn, find?_beq_congr equal, found, Option.getD_some, Option.getD_some]

theorem callee_beq (called : c.callee h = .ok g) : h.unhashable = none ∧ h == g := by
  unfold callee at called
  cases hashed : h.unhashable with
  | some text => simp [hashed] at called
  | none =>
    rw [hashed] at called
    cases called
    exact ⟨rfl, c.standIn_beq h⟩

theorem callee_congr (same : c.standIn h = c'.standIn h) : c.callee h = c'.callee h := by
  rw [callee, callee, same]

/-! ### Keeping one more -/

/-- A job is kept at the end of the table, unless there is one for an equal handler. -/
theorem kept_keep (h : Handler) (c : Consumer) :
    (keep h c).kept = if (c.kept.find? (h == ·)).isSome then c.kept else c.kept ++ [h] := by
  rw [keep, lookup_wrapped, Option.isSome_map]
  split
  · rfl
  · simp [kept]

/-- If handlers that are equal have one stand-in, keeping a job for one of them changes no
stand-in. -/
theorem standIn_keep (one : g == h → c.standIn g = c.standIn h) :
    (keep h c).standIn g = c.standIn g := by
  rw [standIn, kept_keep]
  split
  · rfl
  · rename_i none
    rw [List.find?_append, List.find?_singleton]
    cases found : c.kept.find? (g == ·) with
    | some g' => simp [standIn, found]
    | none =>
      cases equal : g == h with
      | false => simp [standIn, found]
      | true =>
        have own : c.standIn h = h := by
          rw [standIn, Option.not_isSome_iff_eq_none.mp none, Option.getD_none]
        simpa [own] using (one equal).symm

@[simp]
theorem standIn_keep_self (h : Handler) (c : Consumer) : (keep h c).standIn h = c.standIn h :=
  standIn_keep fun _ => rfl

@[simp]
theorem job_keep (h : Handler) (c : Consumer) (g : Handler) : (keep h c).job g = c.job g := by
  unfold keep
  split <;> rfl

/-- A handler is run by the job of its stand-in before anything was kept for it. -/
theorem wrapped_keep_getD (h : Handler) (c : Consumer) :
    ((keep h c).wrapped.lookup h).getD ((keep h c).job h) = c.job (c.standIn h) := by
  rw [wrapped_getD, standIn_keep_self, job_keep]

@[simp]
theorem stats_keep (h : Handler) (c : Consumer) : (keep h c).stats = c.stats := by
  unfold keep
  split <;> rfl

@[simp]
theorem channel_keep (h : Handler) (c : Consumer) : (keep h c).channel = c.channel := by
  unfold keep
  split <;> rfl

@[simp]
theorem tag_keep (h : Handler) (c : Consumer) : (keep h c).tag = c.tag := by
  unfold keep
  split <;> rfl

@[simp]
theorem schedule_keep (h : Handler) (c : Consumer) : (keep h c).schedule = c.schedule := by
  unfold keep
  split <;> rfl

@[simp]
theorem tracer_keep (h : Handler) (c : Consumer) : (keep h c).tracer = c.tracer := by
  unfold keep
  split <;> rfl

/-! ### Later on -/

/-- A consumer later on: it has its schedule and the jobs that it had still, and more jobs only for
handlers that `others` says. -/
structure Later (others : Handler → Prop) (c c' : Consumer) : Prop where
  schedule : c'.schedule = c.schedule
  kept : ∃ more, c'.kept = c.kept ++ more ∧ ∀ h ∈ more, others h

section Later

variable {others others' : Handler → Prop}

theorem Later.refl (c : Consumer) : Later others c c :=
  ⟨rfl, [], (List.append_nil _).symm, List.forall_mem_nil _⟩

theorem Later.trans (later : Later others c c') (later' : Later others c' c'') :
    Later others c c'' := by
  obtain ⟨schedule, more, eq, all⟩ := later
  obtain ⟨schedule', more', eq', all'⟩ := later'
  exact ⟨schedule'.trans schedule, more ++ more', by rw [eq', eq, List.append_assoc],
    List.forall_mem_append.mpr ⟨all, all'⟩⟩

theorem Later.mono (later : Later others c c') (imp : ∀ h, others h → others' h) :
    Later others' c c' := by
  obtain ⟨schedule, more, eq, all⟩ := later
  exact ⟨schedule, more, eq, fun h member => imp h (all h member)⟩

theorem later_keep (h : Handler) (c : Consumer) : Later (· = h) c (keep h c) := by
  refine ⟨schedule_keep h c, ?_⟩
  rw [kept_keep]
  split
  · exact ⟨[], (List.append_nil _).symm, List.forall_mem_nil _⟩
  · exact ⟨[h], rfl, List.forall_mem_singleton.mpr rfl⟩

theorem later_count (f : ConsumerStats → ConsumerStats) (c : Consumer) :
    Later others c (count f c) :=
  ⟨rfl, [], (List.append_nil _).symm, List.forall_mem_nil _⟩

/-- A job is kept for a handler from when it is run. -/
theorem exists_kept_keep (h : Handler) (c : Consumer) : ∃ g ∈ (keep h c).kept, h == g := by
  rw [kept_keep]
  split
  · rename_i there
    exact List.find?_isSome.mp there
  · exact ⟨h, List.mem_append_right _ List.mem_cons_self, BEq.rfl⟩

/-- A handler has the stand-in that it had if a job was kept for a handler that is equal to it. -/
theorem Later.standIn_of_kept (later : Later others c c') (there : ∃ g ∈ c.kept, h == g) :
    c'.standIn h = c.standIn h := by
  obtain ⟨-, more, eq, -⟩ := later
  obtain ⟨g, found⟩ := Option.isSome_iff_exists.mp (List.find?_isSome.mpr there)
  rw [standIn, standIn, eq, List.find?_append, found, Option.some_or]

/-- Whoever a handler has been run by stands in for it from then on. -/
theorem Later.standIn_of_keep (later : Later others (keep h c) c') :
    c'.standIn h = c.standIn h := by
  rw [later.standIn_of_kept (exists_kept_keep h c), standIn_keep_self]

theorem Later.exists_kept (later : Later others c c') (there : ∃ g ∈ c.kept, h == g) :
    ∃ g ∈ c'.kept, h == g := by
  obtain ⟨-, more, eq, -⟩ := later
  obtain ⟨g, member, equal⟩ := there
  exact ⟨g, eq ▸ List.mem_append_left more member, equal⟩

/-- A handler stands in for itself as long as no job is kept for another one that is equal to it. -/
theorem Later.standIn_eq_self (later : Later others c c')
    (only : ∀ g, g ∈ c.kept ∨ others g → h == g → g = h) : c'.standIn h = h := by
  obtain ⟨-, more, eq, all⟩ := later
  refine Consumer.standIn_eq_self fun g member equal => only g ?_ equal
  rw [eq, List.mem_append] at member
  exact member.imp_right (all g)

/-- A handler has the stand-in that it had if the equal handlers for which jobs may have been kept
since then had the same. -/
theorem Later.standIn_eq (later : Later others c c')
    (one : ∀ g, others g → h == g → c.standIn g = c.standIn h) : c'.standIn h = c.standIn h := by
  obtain ⟨-, more, eq, all⟩ := later
  rw [standIn, eq, List.find?_append]
  cases absent : c.kept.find? (h == ·) with
  | some g => rw [standIn, absent, Option.some_or]
  | none =>
    have itself : c.standIn h = h := by rw [standIn, absent, Option.getD_none]
    rw [Option.none_or]
    cases found : more.find? (h == ·) with
    | none => exact itself.symm
    | some g =>
      have equal : h == g := List.find?_some found
      have own : c.standIn g = g := by
        rw [standIn, ← find?_beq_congr equal, absent, Option.getD_none]
      rw [← one g (all g (List.mem_of_find?_eq_some found)) equal, own, Option.getD_some]

end Later

end BrokerClient.Consumer
