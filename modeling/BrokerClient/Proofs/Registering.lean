import BrokerClient.Handler.Registry
import BrokerClient.Proofs.Course
import Mathlib.Data.List.Induction
import Mathlib.Data.List.Nodup
import Mathlib.Data.List.Pairwise
import Mathlib.Data.List.Perm.Basic

/-!
# The registry as an ordered set

A registry keeps its handlers in rows, one for each type. Seen from outside it is a list of pairs of
a type and a handler, no two of them equal: a new pair is put at the end, a pair can be taken out,
and all of them can be dropped. What the registry tells of a type is that list, as far as it is
about the type.

Handlers are compared by what they are equal to. A handler is not registered again in place of an
equal one, and whoever takes out a handler takes out the one that is equal to it.

The rows stay of one form under every call (`Sound`): no two rows are of one type, and no row is
empty. With that a row is what the list has of its type, and there are no other rows.

## Main definitions

* `Registry.Call` — the calls that change a registry.
* `Registry.pairs` — the ordered set of pairs that calls lead to.
* `Registry.Lists` — what a registry tells, if it stands for a list of pairs.

## Main results

* `Registry.handlers_add`, `Registry.handlers_remove` — what the changes of the table do to the
  handlers of each type.
* `Registry.lists_pairs` — after any calls a registry stands for the pairs that they lead to, and
  answers by them.
-/

namespace BrokerClient.Registry

variable {S : Signature}

/-! ### Calls and the set of pairs -/

/-- A call that changes a registry. -/
inductive Call
  | register (eventType : String) (candidate : Candidate)
  | unregister (eventType : String) (h : Handler)
  | clear

namespace Call

/-- The run of a call. Only `unregister` gives something: whether the handler was there. -/
def program : Call → Program S Registry (Option Bool)
  | register t c => do
    Registry.register t c
    return none
  | unregister t h => return some (← Registry.unregister t h)
  | clear => do
    .modify Registry.empty
    return none

/-- What becomes of the pairs. -/
def change (ps : List (String × Handler)) : Call → List (String × Handler)
  | register t (.handler h) => if t = "" ∨ ps.contains (t, h) then ps else ps ++ [(t, h)]
  | register _ (.value _) => ps
  | unregister t h => ps.erase (t, h)
  | clear => []

/-- What is answered when the registered pairs are these. -/
def answer (ps : List (String × Handler)) : Call → Except Error (Option Bool)
  | register t c =>
    if t = "" then .error (.badValue "event_type must be a non-empty string")
    else match c with
      | .value v =>
        .error (.fault .type s!"Handler for {t} must be callable, got {v.inspect}")
      | .handler _ => .ok none
  | unregister t h => .ok (some (ps.contains (t, h)))
  | clear => .ok none

/-- A refused call leaves the pairs alone. -/
theorem change_of_error {c : Call} {ps : List (String × Handler)} {e : Error}
    (h : c.answer ps = .error e) : c.change ps = ps := by
  match c with
  | register t (.handler f) =>
    have empty : t = "" := by
      by_contra h'
      simp [answer, h'] at h
    simp [change, empty]
  | register t (.value v) => rfl

end Call

/-- No two entries of a list are equal. -/
def Distinct {α : Type} [BEq α] (l : List α) : Prop :=
  l.Pairwise fun a b => (a == b) = false

section Distinct

variable {α : Type} [BEq α] {l l' : List α} {a : α}

/-- An entry that differs from all others is in the list once. -/
theorem Distinct.nodup [ReflBEq α] (distinct : Distinct l) : l.Nodup := by
  refine distinct.imp fun {a b} differs same => ?_
  rw [same, beq_self_eq_true] at differs
  cases differs

/-- Entries that are equal are one entry. -/
theorem Distinct.eq_of_beq [EquivBEq α] {b : α} (distinct : Distinct l) (ha : a ∈ l) (hb : b ∈ l)
    (equal : a == b) : a = b := by
  by_contra other
  have : Std.Symm fun a b : α => (a == b) = false := ⟨fun _ _ differs => BEq.comm.trans differs⟩
  rw [distinct.forall ha hb other] at equal
  cases equal

theorem Distinct.of_sublist (distinct : Distinct l) (part : l'.Sublist l) : Distinct l' :=
  distinct.sublist part

theorem Distinct.append_singleton [EquivBEq α] (distinct : Distinct l)
    (absent : l.contains a = false) : Distinct (l ++ [a]) := by
  refine List.pairwise_append.mpr ⟨distinct, List.pairwise_singleton _ _, ?_⟩
  rintro b member _ (_ | ⟨_, ⟨⟩⟩)
  by_contra equal
  have present : l.contains a :=
    List.contains_iff_exists_mem_beq.mpr ⟨b, member, BEq.symm (by simpa using equal)⟩
  rw [absent] at present
  cases present

/-- What is equal to no entry cannot be taken out. -/
theorem erase_of_not_contains [EquivBEq α] (absent : l.contains a = false) : l.erase a = l := by
  rw [List.erase_eq_eraseP']
  refine List.eraseP_of_forall_not fun b member equal => ?_
  have present : l.contains a :=
    List.contains_iff_exists_mem_beq.mpr ⟨b, member, BEq.symm equal⟩
  rw [absent] at present
  cases present

end Distinct

/-- Pairs are equal if their types are the same and their handlers are equal. -/
instance : EquivBEq (String × Handler) where
  rfl {p} := by simp [BEq.beq]
  symm {p q} eq := by
    obtain ⟨types, handlers⟩ := Bool.and_eq_true_iff.mp eq
    exact Bool.and_eq_true_iff.mpr ⟨BEq.symm types, BEq.symm handlers⟩
  trans {p q r} eq eq' := by
    obtain ⟨types, handlers⟩ := Bool.and_eq_true_iff.mp eq
    obtain ⟨types', handlers'⟩ := Bool.and_eq_true_iff.mp eq'
    exact Bool.and_eq_true_iff.mpr ⟨BEq.trans types types', BEq.trans handlers handlers'⟩

theorem pair_beq (t u : String) (g h : Handler) : ((t, g) == (u, h)) = (t == u && g == h) :=
  rfl

/-- The pairs that calls lead to, from an empty registry. -/
def pairs (calls : List Call) : List (String × Handler) :=
  calls.foldl Call.change []

/-- What a list of pairs has of a type. -/
def handlersIn (ps : List (String × Handler)) (t : String) : List Handler :=
  (ps.filter (·.1 = t)).map (·.2)

@[simp]
theorem mem_handlersIn {ps : List (String × Handler)} {t : String} {h : Handler} :
    h ∈ handlersIn ps t ↔ (t, h) ∈ ps := by
  simp [handlersIn]

@[simp]
theorem handlersIn_append (ps qs : List (String × Handler)) (t : String) :
    handlersIn (ps ++ qs) t = handlersIn ps t ++ handlersIn qs t := by
  simp [handlersIn]

theorem handlersIn_singleton (t u : String) (h : Handler) :
    handlersIn [(t, h)] u = if u = t then [h] else [] := by
  by_cases same : t = u <;> simp [handlersIn, same, eq_comm]

/-- A type has a handler that is equal to `h` if the list has a pair with one. -/
theorem contains_handlersIn (ps : List (String × Handler)) (t : String) (h : Handler) :
    (handlersIn ps t).contains h = ps.contains (t, h) := by
  rw [Bool.eq_iff_iff, List.contains_iff_exists_mem_beq, List.contains_iff_exists_mem_beq]
  constructor
  · rintro ⟨g, member, equal⟩
    exact ⟨(t, g), mem_handlersIn.mp member, by simpa [pair_beq] using equal⟩
  · rintro ⟨⟨u, g⟩, member, equal⟩
    obtain ⟨rfl, handlers⟩ : t = u ∧ h == g := by simpa [pair_beq] using equal
    exact ⟨g, mem_handlersIn.mpr member, handlers⟩

/-- No two handlers of a type are equal. -/
theorem Distinct.handlersIn {ps : List (String × Handler)} (distinct : Distinct ps) (t : String) :
    Distinct (handlersIn ps t) := by
  refine List.pairwise_map.mpr ((distinct.filter _).imp_of_mem fun {p q} hp hq differs => ?_)
  simp only [List.mem_filter, decide_eq_true_eq] at hp hq
  obtain ⟨u, g⟩ := p
  obtain ⟨v, h⟩ := q
  obtain rfl : u = t := hp.2
  obtain rfl : v = u := hq.2
  simpa [pair_beq] using differs

/-- Taking out a pair takes its handler from its type and from no other. -/
theorem handlersIn_erase (ps : List (String × Handler)) (t u : String) (h : Handler) :
    handlersIn (ps.erase (t, h)) u =
      if u = t then (handlersIn ps t).erase h else handlersIn ps u := by
  induction ps with
  | nil => simp [handlersIn]
  | cons p ps ih =>
    obtain ⟨v, g⟩ := p
    rw [← List.singleton_append, handlersIn_append, handlersIn_append, handlersIn_singleton,
      handlersIn_singleton]
    rw [List.singleton_append, List.erase_cons]
    by_cases first : (v, g) == (t, h)
    · obtain ⟨rfl, equal⟩ : v = t ∧ g == h := by simpa [pair_beq] using first
      rw [if_pos first]
      by_cases same : u = v <;> simp [same, List.erase_cons, equal]
    · rw [if_neg first, ← List.singleton_append, handlersIn_append, handlersIn_singleton, ih]
      by_cases same : u = t
      · subst same
        by_cases row : u = v
        · subst row
          have other : (g == h) = false := by simpa [pair_beq] using first
          simp [other]
        · simp [row]
      · simp [same]

/-- What a registry tells, if it stands for a list of pairs. -/
structure Lists (r : Registry) (ps : List (String × Handler)) : Prop where
  pairs_distinct : Distinct ps
  handlers_eq (t : String) : r.handlers t = handlersIn ps t
  handlers_distinct (t : String) : Distinct (r.handlers t)
  hasHandlers_iff (t : String) : r.hasHandlers t ↔ r.handlers t ≠ []
  eventTypes_nodup : r.eventTypes.Nodup
  mem_eventTypes (t : String) : t ∈ r.eventTypes ↔ ∃ h, (t, h) ∈ ps
  size_eq : r.size = ps.length

/-! ### The rows -/

/-- The form of the rows: each type has one, and none is empty. -/
structure Sound (r : Registry) : Prop where
  types_nodup : r.eventTypes.Nodup
  row_ne_nil : ∀ row ∈ r.table, row.2 ≠ []

variable {r : Registry} {mode : Unregistered} {t u : String} {h : Handler} {hs : List Handler}
  {rest : List (String × List Handler)}

@[simp]
theorem handlers_nil : handlers ⟨mode, []⟩ t = [] :=
  rfl

@[simp]
theorem handlers_cons : handlers ⟨mode, (u, hs) :: rest⟩ t =
    if t = u then hs else handlers ⟨mode, rest⟩ t := by
  by_cases same : t = u
  · simp [handlers, same]
  · have differs : (t == u) = false := beq_false_of_ne same
    simp [handlers, List.lookup_cons, same, differs]

@[simp]
theorem eventTypes_cons :
    eventTypes ⟨mode, (u, hs) :: rest⟩ = u :: eventTypes ⟨mode, rest⟩ :=
  rfl

/-- A type without a row has no handlers. -/
theorem handlers_of_not_mem (absent : t ∉ r.eventTypes) : r.handlers t = [] := by
  obtain ⟨mode, table⟩ := r
  induction table with
  | nil => rfl
  | cons row rest ih =>
    obtain ⟨u, hs⟩ := row
    simp only [eventTypes_cons, List.mem_cons, not_or] at absent
    rw [handlers_cons, if_neg absent.1]
    exact ih absent.2

theorem Sound.tail (sound : Sound ⟨mode, (u, hs) :: rest⟩) : Sound ⟨mode, rest⟩ :=
  ⟨(List.nodup_cons.mp sound.types_nodup).2,
    fun row h => sound.row_ne_nil row (List.mem_cons_of_mem _ h)⟩

theorem Sound.not_mem_tail (sound : Sound ⟨mode, (u, hs) :: rest⟩) :
    u ∉ eventTypes ⟨mode, rest⟩ :=
  (List.nodup_cons.mp sound.types_nodup).1

/-- The types of the rows are those that have a handler. -/
theorem Sound.mem_eventTypes_iff (sound : r.Sound) : t ∈ r.eventTypes ↔ r.handlers t ≠ [] := by
  refine ⟨fun member => ?_, fun some => by_contra fun absent => some (handlers_of_not_mem absent)⟩
  obtain ⟨mode, table⟩ := r
  induction table with
  | nil => simp [eventTypes] at member
  | cons row rest ih =>
    rw [handlers_cons]
    split
    · exact sound.row_ne_nil row List.mem_cons_self
    · rename_i differs
      rw [eventTypes_cons, List.mem_cons] at member
      exact ih sound.tail (member.resolve_left differs)

/-- The rows hold the handlers of their types. -/
theorem Sound.mem_toList (sound : r.Sound) : (t, h) ∈ r.toList ↔ h ∈ r.handlers t := by
  obtain ⟨mode, table⟩ := r
  induction table with
  | nil => simp [toList]
  | cons row rest ih =>
    obtain ⟨u, hs⟩ := row
    have step : (t, h) ∈ toList ⟨mode, (u, hs) :: rest⟩ ↔
        h ∈ hs ∧ u = t ∨ (t, h) ∈ toList ⟨mode, rest⟩ := by
      simp [toList]
    rw [step, ih sound.tail, handlers_cons]
    by_cases same : t = u
    · subst same
      simp [handlers_of_not_mem sound.not_mem_tail]
    · simp [same, Ne.symm same]

/-- No handler is in the rows twice for one type, if no row holds it twice. -/
theorem Sound.toList_nodup (sound : r.Sound) (rows : ∀ t, (r.handlers t).Nodup) :
    r.toList.Nodup := by
  obtain ⟨mode, table⟩ := r
  induction table with
  | nil => exact .nil
  | cons row rest ih =>
    obtain ⟨u, hs⟩ := row
    have absent := handlers_of_not_mem sound.not_mem_tail
    have rows' (t : String) : (handlers ⟨mode, rest⟩ t).Nodup := by
      by_cases same : t = u
      · simp [same, absent]
      · simpa [same] using rows t
    have first : hs.Nodup := by simpa using rows u
    refine (first.map fun _ _ eq => (Prod.mk.inj eq).2).append (ih sound.tail rows') ?_
    rintro ⟨t, h⟩ inFirst inRest
    obtain ⟨_, -, eq⟩ := List.mem_map.mp inFirst
    obtain ⟨rfl, rfl⟩ := Prod.mk.inj eq
    simpa [absent] using sound.tail.mem_toList.mp inRest

/-- Adding a handler puts it at the end of its type and leaves the other types alone. -/
theorem handlers_add (r : Registry) (t u : String) (h : Handler) :
    (r.add t h).handlers u = if u = t then r.handlers t ++ [h] else r.handlers u := by
  obtain ⟨mode, table⟩ := r
  simp only [add]
  induction table with
  | nil => simp [appendTo]
  | cons row rest ih =>
    obtain ⟨v, hs⟩ := row
    simp only [appendTo]
    by_cases here : v = t
    · by_cases same : u = t <;> simp [here, same]
    · have elsewhere : ¬t = v := Ne.symm here
      by_cases same : u = v
      · simp [here, same]
      · simp [here, same, elsewhere, ih]

theorem Sound.add (sound : r.Sound) (t : String) (h : Handler) : (r.add t h).Sound := by
  obtain ⟨mode, table⟩ := r
  simp only [Registry.add]
  have types (rest) : ∀ u, u ∈ eventTypes ⟨mode, appendTo t h rest⟩ →
      u = t ∨ u ∈ eventTypes ⟨mode, rest⟩ := by
    intro u
    induction rest with
    | nil => simp [appendTo, eventTypes]
    | cons row rest ih =>
      obtain ⟨v, hs⟩ := row
      simp only [appendTo]
      split
      · exact .inr
      · simp only [eventTypes_cons, List.mem_cons]
        tauto
  induction table with
  | nil => exact ⟨List.nodup_singleton t, by simp [appendTo]⟩
  | cons row rest ih =>
    obtain ⟨v, hs⟩ := row
    simp only [appendTo, beq_iff_eq]
    split
    · exact ⟨sound.types_nodup, List.forall_mem_cons.mpr ⟨by simp, sound.tail.row_ne_nil⟩⟩
    · rename_i differs
      refine ⟨List.nodup_cons.mpr ⟨fun member => ?_, (ih sound.tail).types_nodup⟩,
        List.forall_mem_cons.mpr ⟨sound.row_ne_nil _ List.mem_cons_self,
          (ih sound.tail).row_ne_nil⟩⟩
      exact (types rest v member).elim differs sound.not_mem_tail

/-- The row that is left of a row when a handler is removed. -/
theorem table_remove_cons (v : String) (hs : List Handler)
    (rest : List (String × List Handler)) :
    remove t h ⟨mode, (v, hs) :: rest⟩ = ⟨mode,
      if v = t then
        if hs.erase h = [] then (remove t h ⟨mode, rest⟩).table
        else (v, hs.erase h) :: (remove t h ⟨mode, rest⟩).table
      else (v, hs) :: (remove t h ⟨mode, rest⟩).table⟩ := by
  simp only [remove, List.filterMap_cons, beq_iff_eq]
  by_cases here : v = t
  · cases left : hs.erase h <;> simp [here]
  · simp [here]

theorem eventTypes_remove (r : Registry) (t : String) (h : Handler) :
    (r.remove t h).eventTypes.Sublist r.eventTypes := by
  obtain ⟨mode, table⟩ := r
  induction table with
  | nil => exact .slnil
  | cons row rest ih =>
    rw [table_remove_cons, eventTypes_cons]
    split_ifs
    · exact ih.cons _
    · exact ih.cons_cons _
    · exact ih.cons_cons _

/-- Removing a handler takes it from its type and leaves the other types alone. -/
theorem Sound.handlers_remove (sound : r.Sound) (t u : String) (h : Handler) :
    (r.remove t h).handlers u = if u = t then (r.handlers t).erase h else r.handlers u := by
  obtain ⟨mode, table⟩ := r
  induction table with
  | nil => simp [remove]
  | cons row rest ih =>
    obtain ⟨v, hs⟩ := row
    have ih := ih sound.tail
    have rest_eq : (⟨mode, (remove t h ⟨mode, rest⟩).table⟩ : Registry) =
      remove t h ⟨mode, rest⟩ := rfl
    rw [table_remove_cons, handlers_cons, handlers_cons]
    by_cases here : v = t
    · subst here
      have gone := handlers_of_not_mem sound.not_mem_tail
      rw [if_pos rfl, if_pos rfl]
      split
      · rename_i none
        rw [rest_eq, ih, gone]
        split <;> simp [none]
      · rw [handlers_cons, rest_eq, ih]
        split <;> rfl
    · rw [if_neg here, if_neg (Ne.symm here), handlers_cons, rest_eq, ih]
      split
      · rename_i same
        rw [if_neg (same ▸ here)]
      · rfl

theorem Sound.remove (sound : r.Sound) (t : String) (h : Handler) : (r.remove t h).Sound := by
  refine ⟨sound.types_nodup.sublist (eventTypes_remove r t h), ?_⟩
  obtain ⟨mode, table⟩ := r
  induction table with
  | nil => simp [Registry.remove]
  | cons row rest ih =>
    obtain ⟨v, hs⟩ := row
    have ih := ih sound.tail
    have first := sound.row_ne_nil _ List.mem_cons_self
    rw [table_remove_cons]
    split_ifs with here none
    · exact ih
    · exact List.forall_mem_cons.mpr ⟨none, ih⟩
    · exact List.forall_mem_cons.mpr ⟨first, ih⟩

/-! ### What a registry stands for -/

/-- The rows are of their form, and each has what the list has of its type. -/
structure Holds (r : Registry) (ps : List (String × Handler)) : Prop where
  sound : r.Sound
  distinct : Distinct ps
  handlers_eq (t : String) : r.handlers t = handlersIn ps t

variable {ps : List (String × Handler)}

theorem Holds.mem_iff (holds : r.Holds ps) : h ∈ r.handlers t ↔ (t, h) ∈ ps := by
  rw [holds.handlers_eq, mem_handlersIn]

theorem Holds.lists (holds : r.Holds ps) : r.Lists ps := by
  have rows (t : String) : Distinct (r.handlers t) := by
    rw [holds.handlers_eq]
    exact holds.distinct.handlersIn t
  refine ⟨holds.distinct, holds.handlers_eq, rows, fun t => by simp [hasHandlers],
    holds.sound.types_nodup, fun t => ?_, ?_⟩
  · rw [holds.sound.mem_eventTypes_iff, ← List.isEmpty_eq_false_iff,
      List.isEmpty_eq_false_iff_exists_mem]
    simp only [holds.mem_iff]
  · have same : r.toList.Perm ps := by
      rw [List.perm_ext_iff_of_nodup (holds.sound.toList_nodup fun t => (rows t).nodup)
        holds.distinct.nodup]
      rintro ⟨t, h⟩
      rw [holds.sound.mem_toList, holds.mem_iff]
    exact same.length_eq

theorem Holds.add (holds : r.Holds ps) (absent : ps.contains (t, h) = false) :
    (r.add t h).Holds (ps ++ [(t, h)]) := by
  refine ⟨holds.sound.add t h, holds.distinct.append_singleton absent, fun u => ?_⟩
  rw [handlers_add, handlersIn_append, handlersIn_singleton, ← holds.handlers_eq]
  by_cases same : u = t <;> simp [same]

theorem Holds.remove (holds : r.Holds ps) (t : String) (h : Handler) :
    (r.remove t h).Holds (ps.erase (t, h)) := by
  refine ⟨holds.sound.remove t h, holds.distinct.of_sublist List.erase_sublist, fun u => ?_⟩
  rw [holds.sound.handlers_remove, handlersIn_erase]
  simp only [holds.handlers_eq]

theorem Holds.empty (r : Registry) : r.empty.Holds [] :=
  ⟨⟨.nil, by simp [Registry.empty]⟩, .nil, fun _ => rfl⟩

/-! ### Calls one after the other -/

variable {w : Course S Registry} (env : Surroundings S Registry)

/-- A call answers by the pairs, and the registry stands for what becomes of them. -/
def EndsBy (ps : List (String × Handler)) (w : Course S Registry) (c : Call) : Prop :=
  c.program.Ends env.host Course.statePart
    (fun a w' => c.answer ps = .ok a ∧ w'.state.Holds (c.change ps) ∧
      w'.state.unregistered = w.state.unregistered)
    (fun e w' => c.answer ps = .error e ∧ w'.state = w.state) w

theorem Holds.contains_eq (holds : w.state.Holds ps) :
    ((Course.statePart.get w).handlers t).contains h = ps.contains (t, h) := by
  rw [← contains_handlersIn, ← holds.handlers_eq]
  rfl

theorem Holds.ends_register (holds : w.state.Holds ps) (t : String) (c : Candidate) :
    EndsBy env ps w (.register t c) := by
  rw [EndsBy, Call.program, Program.ends_seq]
  unfold register
  by_cases empty : t = ""
  · simp [empty, Call.answer]
  match c with
  | .value v => simp [empty, Call.answer]
  | .handler h =>
    simp only [empty, String.isEmpty_iff, if_false]
    rw [Program.ends_seq, Program.ends_state]
    beta_reduce
    rw [holds.contains_eq]
    cases present : ps.contains (t, h) with
    | true =>
      have stays : (Call.register t (.handler h)).change ps = ps := if_pos (.inr present)
      exact ⟨if_neg empty, stays.symm ▸ holds, rfl⟩
    | false =>
      have grows : (Call.register t (.handler h)).change ps = ps ++ [(t, h)] :=
        if_neg (by simp [empty, present])
      exact ⟨if_neg empty, grows.symm ▸ holds.add present, rfl⟩

theorem Holds.ends_unregister (holds : w.state.Holds ps) (t : String) (h : Handler) :
    EndsBy env ps w (.unregister t h) := by
  rw [EndsBy, Call.program, unregister, Program.ends_seq, Program.ends_seq, Program.ends_state]
  beta_reduce
  rw [holds.contains_eq]
  cases present : ps.contains (t, h) with
  | true => exact ⟨by simp [Call.answer, present], holds.remove t h, rfl⟩
  | false =>
    refine ⟨by simp [Call.answer, present], ?_, rfl⟩
    rwa [Call.change, erase_of_not_contains present]

theorem Holds.ends (holds : w.state.Holds ps) (c : Call) : EndsBy env ps w c := by
  match c with
  | .register t c => exact holds.ends_register env t c
  | .unregister t h => exact holds.ends_unregister env t h
  | .clear => exact ⟨rfl, .empty _, rfl⟩

/-- The course after a call, whether it was refused or not. -/
def performed (w : Course S Registry) (c : Call) : Course S Registry :=
  (c.program.run env.host Course.statePart w).2

/-- The course after calls, from an empty registry. -/
def after (mode : Unregistered) (calls : List Call) : Course S Registry :=
  calls.foldl (performed env) { state := { unregistered := mode } }

theorem Holds.performed (holds : w.state.Holds ps) (c : Call) :
    (performed env w c).state.Holds (c.change ps) ∧
      (Registry.performed env w c).state.unregistered = w.state.unregistered := by
  refine Program.Ends.world (Q := fun w' => w'.state.Holds (c.change ps) ∧
    w'.state.unregistered = w.state.unregistered) ((holds.ends env c).mono (fun _ _ h => h.2) ?_)
  intro e w' h
  rw [h.2, c.change_of_error h.1]
  exact ⟨holds, rfl⟩

theorem holds_after (mode : Unregistered) (calls : List Call) :
    (after env mode calls).state.Holds (pairs calls) ∧
      (after env mode calls).state.unregistered = mode := by
  induction calls using List.reverseRecOn with
  | nil => exact ⟨.empty { unregistered := mode }, rfl⟩
  | append_singleton calls c ih =>
    obtain ⟨holds, same⟩ := ih.1.performed env c
    simp only [after, pairs, List.foldl_append, List.foldl_cons, List.foldl_nil]
    exact ⟨holds, same.trans ih.2⟩

/-- After any calls a registry stands for the pairs that they lead to: the handlers of a type are
those that the list has of it, in its order and without repetition, for no two of them are equal; a
type has handlers, and is among the types, just if the list has a pair of it; and the size is the
number of pairs. Another
call answers by the pairs, and leaves the registry as it is if it is refused. -/
theorem lists_pairs (mode : Unregistered) (calls : List Call) (call : Call) :
    let w := after env mode calls
    let outcome := call.program.run env.host Course.statePart w
    w.state.Lists (pairs calls) ∧ w.state.unregistered = mode ∧
      outcome.1 = call.answer (pairs calls) ∧
      ∀ e, outcome.1 = .error e → outcome.2.state = w.state := by
  obtain ⟨holds, same⟩ := holds_after env mode calls
  refine ⟨holds.lists, same, ?_⟩
  have ends := holds.ends env call
  unfold EndsBy Program.Ends at ends
  revert ends
  generalize call.program.run env.host Course.statePart (after env mode calls) = outcome
  match outcome with
  | (.ok a, w') =>
    rintro ⟨answers, -⟩
    exact ⟨answers.symm, fun e failed => nomatch failed⟩
  | (.error e, w') =>
    rintro ⟨answers, stays⟩
    exact ⟨answers.symm, fun _ _ => stays⟩

end BrokerClient.Registry
