import BrokerClient.Proofs.WireFormat
import Mathlib.Data.List.Forall2

/-!
# What a form takes from an object

A form takes one value for each of its fields, under either spelling. It does not see the order of
the members, nor which of the two spellings is used, nor, if the model ignores them, members of
other names: such a change of the members keeps the values that are given to a field, and if there
is at most one of these it is the one that is read. A model that forbids other members refuses each
name that no field has, and of two spellings of one field the second.

## Main definitions

* `FieldName.given` — the values that members give to a field, under any spelling.
* `Rewritten` — members with other spellings, in another order, with other members beside them.
* `Respelled` — objects that differ in the spelling of their members.
* `Form.Respects` — forms that read related values alike.

## Main results

* `Rewritten.given_perm` — rewritten members give the same values to each field.
* `Form.toOption_check_respelled` — a respelled object is read alike or refused alike.
* `Form.check_of_unknown` — a name that no field has is refused.
-/

namespace BrokerClient.Validation

variable {α β : Type}

/-! ### Results without their refusals -/

namespace Checked

@[simp]
theorem toOption_map (f : α → β) (a : Checked α) :
    (Except.map f a).toOption = a.toOption.map f := by
  cases a <;> rfl

@[simp]
theorem toOption_mapError {γ : Type} (f : Refusal → γ) (a : Checked α) :
    (a.mapError f).toOption = a.toOption := by
  cases a <;> rfl

@[simp]
theorem toOption_apply (f : Checked (α → β)) (a : Checked α) :
    (f.apply a).toOption = f.toOption.bind fun g => a.toOption.map g := by
  cases f <;> cases a <;> rfl

@[simp]
theorem toOption_ofReading (r : Reading α) : (ofReading r).toOption = r.toOption := by
  cases r <;> rfl

end Checked

theorem toOption_eq_some_iff {ε : Type} {a : Except ε α} {x : α} :
    a.toOption = some x ↔ a = .ok x := by
  cases a <;> simp [Except.toOption]

theorem toOption_eq_none_iff {ε : Type} {a : Except ε α} :
    a.toOption = none ↔ ∃ r, a = .error r := by
  cases a <;> simp [Except.toOption]

/-! ### The values of a field -/

namespace FieldName

variable {f g : FieldName} {ms : List (String × Json)} {name : String} {v : Json}

/-- The spellings of a field. -/
def spellings (f : FieldName) : List String := [f.preferred, f.plain]

/-- The value that is read for a field. -/
def value? (f : FieldName) (ms : List (String × Json)) : Option Json :=
  (f.find? ms).map Prod.snd

/-- The members that give a field, under any spelling. -/
def givers (f : FieldName) (ms : List (String × Json)) : List (String × Json) :=
  ms.filter fun m => m.1 ∈ f.spellings

/-- The values that members give to a field, under any spelling. -/
def given (f : FieldName) (ms : List (String × Json)) : List Json :=
  (f.givers ms).map Prod.snd

theorem mem_givers {m : String × Json} : m ∈ f.givers ms ↔ m ∈ ms ∧ m.1 ∈ f.spellings := by
  simp [givers]

theorem length_given (f : FieldName) (ms : List (String × Json)) :
    (f.given ms).length = (f.givers ms).length :=
  List.length_map _

theorem given_cons_of_mem (h : name ∈ f.spellings) :
    f.given ((name, v) :: ms) = v :: f.given ms := by
  simp [given, givers, h]

theorem given_cons_of_not_mem (h : name ∉ f.spellings) :
    f.given ((name, v) :: ms) = f.given ms := by
  simp [given, givers, h]

theorem spelled_of_find? (h : f.find? ms = some (name, v)) : name ∈ f.spellings := by
  unfold find? at h
  split at h
  · cases h
    exact List.mem_cons_self
  · obtain ⟨w, -, eq⟩ := Option.map_eq_some_iff.mp h
    cases eq
    exact List.mem_cons_of_mem _ List.mem_cons_self

theorem mem_givers_of_find? {m : String × Json} (h : f.find? ms = some m) : m ∈ f.givers ms :=
  mem_givers.mpr ⟨mem_of_find? h, spelled_of_find? h⟩

theorem member?_isSome_of_mem (h : (name, v) ∈ ms) : (Json.member? name ms).isSome := by
  induction ms with
  | nil => cases h
  | cons m ms ih =>
    obtain ⟨other, w⟩ := m
    by_cases same : other = name
    · simp [Json.member?, same]
    · have later : (name, v) ∈ ms := by
        rcases List.mem_cons.mp h with first | later
        · cases first
          exact absurd rfl same
        · exact later
      simp [Json.member?, same, ih later]

theorem find?_isSome_of_mem (spelled : name ∈ f.spellings) (h : (name, v) ∈ ms) :
    (f.find? ms).isSome := by
  have found := member?_isSome_of_mem h
  unfold find?
  split
  · rfl
  · rename_i absent
    rcases List.mem_pair.mp spelled with rfl | rfl
    · rw [absent] at found
      cases found
    · rwa [Option.isSome_map]

/-- The only member that gives a field is the one that is read. -/
theorem find?_eq_head? (once : (f.given ms).length ≤ 1) : f.find? ms = (f.givers ms).head? := by
  rw [length_given] at once
  cases read : f.find? ms with
  | none =>
    have none_given : f.givers ms = [] := by
      by_contra some_given
      obtain ⟨m, mem⟩ := List.exists_mem_of_ne_nil _ some_given
      obtain ⟨mem, spelled⟩ := mem_givers.mp mem
      have found := find?_isSome_of_mem spelled mem
      rw [read] at found
      cases found
    rw [none_given]
    rfl
  | some m =>
    have mem := mem_givers_of_find? read
    have one : (f.givers ms).length = 1 := Nat.le_antisymm once (List.length_pos_of_mem mem)
    obtain ⟨m', only⟩ := List.length_eq_one_iff.mp one
    rw [only] at mem ⊢
    rw [List.mem_singleton.mp mem]
    rfl

theorem find?_of_mem_givers {m : String × Json} (once : (f.given ms).length ≤ 1)
    (h : m ∈ f.givers ms) : f.find? ms = some m := by
  rw [find?_eq_head? once]
  rw [length_given] at once
  obtain ⟨m', only⟩ := List.length_eq_one_iff.mp (Nat.le_antisymm once (List.length_pos_of_mem h))
  rw [only] at h ⊢
  rw [List.mem_singleton.mp h]
  rfl

theorem value?_eq_head? (once : (f.given ms).length ≤ 1) : f.value? ms = (f.given ms).head? := by
  rw [value?, find?_eq_head? once, given, List.head?_map]

end FieldName

/-! ### Members with other spellings -/

/-- No name is a spelling of two fields. -/
def Unambiguous (fs : List FieldName) : Prop :=
  ∀ f ∈ fs, ∀ g ∈ fs, ∀ name ∈ f.spellings, name ∈ g.spellings → f = g

instance (fs : List FieldName) : Decidable (Unambiguous fs) :=
  inferInstanceAs (Decidable (∀ f ∈ fs, ∀ g ∈ fs, ∀ name ∈ f.spellings, name ∈ g.spellings → f = g))

/-- A name that is no spelling of a field. -/
def Unknown (fs : List FieldName) (name : String) : Prop :=
  ∀ f ∈ fs, name ∉ f.spellings

/-- A member and the same member with a spelling of the same field. Values may be rewritten too;
which ones depends on the field. -/
inductive Respelling (fs : List FieldName) (V : FieldName → Json → Json → Prop) :
    String × Json → String × Json → Prop
  | known {f : FieldName} {name name' : String} {v v' : Json} (mem : f ∈ fs)
    (spelled : name ∈ f.spellings) (spelled' : name' ∈ f.spellings) (values : V f v v') :
    Respelling fs V (name, v) (name', v')
  | unknown {name : String} {v : Json} (h : Unknown fs name) : Respelling fs V (name, v) (name, v)

variable {fs : List FieldName} {V : FieldName → Json → Json → Prop} {f : FieldName}
  {ms ms' : List (String × Json)}

/-- Respelled members give the same values to each field, in the same order. -/
theorem forall₂_given (apart : Unambiguous fs) (h : List.Forall₂ (Respelling fs V) ms ms')
    (mem : f ∈ fs) : List.Forall₂ (V f) (f.given ms) (f.given ms') := by
  induction h with
  | nil => exact .nil
  | cons first _ ih =>
    cases first with
    | @known g name name' v v' mem' spelled spelled' values =>
      by_cases same : f = g
      · subst same
        rw [FieldName.given_cons_of_mem spelled, FieldName.given_cons_of_mem spelled']
        exact .cons values ih
      · have other {name : String} (h : name ∈ g.spellings) : name ∉ f.spellings :=
          fun h' => same (apart f mem g mem' name h' h)
        rwa [FieldName.given_cons_of_not_mem (other spelled),
          FieldName.given_cons_of_not_mem (other spelled')]
    | unknown h =>
      rwa [FieldName.given_cons_of_not_mem (h f mem), FieldName.given_cons_of_not_mem (h f mem)]

/-- Members with other spellings, in another order and with other unknown members beside them. -/
inductive Rewritten (fs : List FieldName) : List (String × Json) → List (String × Json) → Prop
  | respelled {ms ms' : List (String × Json)}
    (h : List.Forall₂ (Respelling fs fun _ => Eq) ms ms') : Rewritten fs ms ms'
  | reordered {ms ms' : List (String × Json)} (h : ms.Perm ms') : Rewritten fs ms ms'
  | added {name : String} (v : Json) (ms : List (String × Json)) (h : Unknown fs name) :
    Rewritten fs ms ((name, v) :: ms)
  | removed {name : String} (v : Json) (ms : List (String × Json)) (h : Unknown fs name) :
    Rewritten fs ((name, v) :: ms) ms
  | trans {ms ms' ms'' : List (String × Json)} (h : Rewritten fs ms ms')
    (h' : Rewritten fs ms' ms'') : Rewritten fs ms ms''

/-- Rewritten members give the same values to each field. -/
theorem Rewritten.given_perm (apart : Unambiguous fs) (h : Rewritten fs ms ms') (mem : f ∈ fs) :
    (f.given ms).Perm (f.given ms') := by
  induction h with
  | respelled h =>
    have same := forall₂_given apart h mem
    rw [List.forall₂_eq_eq_eq] at same
    rw [same]
  | reordered h => exact (h.filter _).map _
  | added v ms h => rw [FieldName.given_cons_of_not_mem (h f mem)]
  | removed v ms h => rw [FieldName.given_cons_of_not_mem (h f mem)]
  | trans _ _ ih ih' => exact ih.trans ih'

/-- No field is given twice, neither under one spelling nor under both. -/
def GivenOnce (fs : List FieldName) (ms : List (String × Json)) : Prop :=
  ∀ f ∈ fs, (f.given ms).length ≤ 1

/-- For a field that is given once, the value that is read does not depend on how the members are
written. -/
theorem Rewritten.value?_eq (apart : Unambiguous fs) (once : GivenOnce fs ms)
    (h : Rewritten fs ms ms') (mem : f ∈ fs) : f.value? ms = f.value? ms' := by
  have perm := h.given_perm apart mem
  have few := once f mem
  rw [FieldName.value?_eq_head? few, FieldName.value?_eq_head? (perm.length_eq ▸ few)]
  cases values : f.given ms with
  | nil =>
    rw [values] at perm
    rw [← perm.nil_eq]
  | cons v rest =>
    rw [values] at perm few
    have alone : rest = [] := by simpa using few
    subst alone
    rw [← perm.singleton_eq]

/-! ### Forms that read related values alike -/

namespace Form

/-- A form that reads related values alike: both members are refused or both give one record. -/
def Respects (form : Form α) (V : FieldName → Json → Json → Prop) : Prop :=
  ∀ ms ms' : List (String × Json),
    (∀ f ∈ form.fields, Option.Rel (V f) (f.value? ms) (f.value? ms')) →
      (form.read ms).toOption = (form.read ms').toOption

theorem toOption_read_field (f : FieldName) (absent : Checked α) (read : Json → Checked α)
    (ms : List (String × Json)) : ((field f absent read).read ms).toOption =
      (f.value? ms).elim absent.toOption fun v => (read v).toOption := by
  simp only [field, FieldName.value?]
  cases f.find? ms <;> simp

theorem toOption_read_withDefault (f : FieldName) (default : α) (read : Json → Reading α)
    (ms : List (String × Json)) : ((withDefault f default read).read ms).toOption =
      (f.value? ms).elim (some default) fun v => (read v).toOption := by
  simp only [withDefault, toOption_read_field, Checked.toOption_ofReading]
  rfl

theorem Respects.field {absent : Checked α} {read : Json → Checked α}
    (h : ∀ v v', V f v v' → (read v).toOption = (read v').toOption) :
    (field f absent read).Respects V := by
  intro ms ms' related
  have values := related f List.mem_cons_self
  rw [toOption_read_field, toOption_read_field]
  generalize f.value? ms = given at *
  generalize f.value? ms' = given' at *
  cases values with
  | none => rfl
  | some value => exact h _ _ value

theorem Respects.withDefault {default : α} {read : Json → Reading α}
    (h : ∀ v v', V f v v' → v = v') : (withDefault f default read).Respects V :=
  .field fun v v' value => by rw [h v v' value]

theorem Respects.required {read : Json → Reading α} (h : ∀ v v', V f v v' → v = v') :
    (required f read).Respects V :=
  .field fun v v' value => by rw [h v v' value]

theorem Respects.map {form : Form α} (g : α → β) (h : form.Respects V) :
    (g <$> form).Respects V := by
  intro ms ms' related
  rw [read_map, read_map, Checked.toOption_map, Checked.toOption_map, h ms ms' related]

theorem Respects.seq {form : Form (α → β)} {last : Form α} (h : form.Respects V)
    (h' : last.Respects V) : (form <*> last).Respects V := by
  intro ms ms' related
  rw [read_seq, read_seq, Checked.toOption_apply, Checked.toOption_apply,
    h ms ms' fun f mem => related f (List.mem_append_left _ mem),
    h' ms ms' fun f mem => related f (List.mem_append_right _ mem)]

/-! ### Other members -/

variable {form : Form α} {model : String} {origin : Origin}

/-- Nothing is left over exactly if each member is read for some field. -/
theorem extras_eq_nil_iff_find? : form.extras ms = [] ↔
    ∀ m ∈ ms, ∃ f ∈ form.fields, ∃ v, f.find? ms = some (m.1, v) := by
  simp [extras, List.filter_eq_nil_iff]

/-- Nothing is left over exactly if each member has the name of a field and no field is given
twice. -/
theorem extras_eq_nil_iff (apart : Unambiguous form.fields) (names : (ms.map Prod.fst).Nodup) :
    form.extras ms = [] ↔
      (∀ m ∈ ms, ¬ Unknown form.fields m.1) ∧ GivenOnce form.fields ms := by
  rw [extras_eq_nil_iff_find?]
  constructor
  · intro found
    refine ⟨fun m mem unknown => ?_, fun f mem => ?_⟩
    · obtain ⟨f, mem', v, read⟩ := found m mem
      exact unknown f mem' (FieldName.spelled_of_find? read)
    · -- all members that give the field have the name of the one that is read
      have read {m : String × Json} (h : m ∈ f.givers ms) : ∃ v, f.find? ms = some (m.1, v) := by
        obtain ⟨mem', spelled⟩ := FieldName.mem_givers.mp h
        obtain ⟨g, mem'', v, read⟩ := found m mem'
        have same : f = g := apart f mem g mem'' m.1 spelled (FieldName.spelled_of_find? read)
        exact ⟨v, same ▸ read⟩
      have distinct : ((f.givers ms).map Prod.fst).Nodup :=
        names.sublist (List.filter_sublist.map Prod.fst)
      rw [FieldName.length_given]
      match givers : f.givers ms with
      | [] => exact Nat.zero_le 1
      | [m] => exact le_rfl
      | m :: m' :: rest =>
        obtain ⟨v, first⟩ := read (m := m) (by simp [givers])
        obtain ⟨v', second⟩ := read (m := m') (by simp [givers])
        have one := Option.some.inj (first.symm.trans second)
        have same : m.1 = m'.1 := (Prod.mk.inj one).1
        simp [givers, same] at distinct
  · rintro ⟨known, once⟩ m mem
    obtain ⟨f, mem', spelled⟩ : ∃ f ∈ form.fields, m.1 ∈ f.spellings := by
      simpa [Unknown] using known m mem
    exact ⟨f, mem', m.2, FieldName.find?_of_mem_givers (once f mem')
      (FieldName.mem_givers.mpr ⟨mem, spelled⟩)⟩

theorem toOption_check_forbid (ms : List (String × Json)) :
    (form.check model .forbid origin (.obj ms)).toOption =
      if form.extras ms = [] then (form.read ms).toOption else none := by
  cases extras : form.extras ms with
  | nil => simp [check, extras]
  | cons name rest =>
    simp only [check, extras, Checked.toOption_apply, reduceCtorEq, if_false]
    cases ((form.read ms).map fun a (_ : Unit) => a).toOption <;> rfl

/-- A name that no field has is refused. -/
theorem check_of_unknown {m : String × Json} (mem : m ∈ ms) (h : Unknown form.fields m.1) :
    ∃ r, form.check model .forbid origin (.obj ms) = .error r := by
  have left : form.extras ms ≠ [] := fun none => by
    obtain ⟨f, mem', v, read⟩ := extras_eq_nil_iff_find?.mp none m mem
    exact h f mem' (FieldName.spelled_of_find? read)
  rw [← toOption_eq_none_iff, toOption_check_forbid, if_neg left]

end Form

/-- Two objects that differ in the spelling of their members, or one value twice. -/
inductive Respelled (fs : List FieldName) (V : FieldName → Json → Json → Prop) : Json → Json → Prop
  | object {ms ms' : List (String × Json)} (names : (ms.map Prod.fst).Nodup)
    (names' : (ms'.map Prod.fst).Nodup) (members : List.Forall₂ (Respelling fs V) ms ms') :
    Respelled fs V (.obj ms) (.obj ms')
  | refl (v : Json) : Respelled fs V v v

/-- Respelled members are all known, and given once, or neither are. -/
theorem respelling_known (h : List.Forall₂ (Respelling fs V) ms ms') :
    (∀ m ∈ ms, ¬ Unknown fs m.1) ↔ ∀ m ∈ ms', ¬ Unknown fs m.1 := by
  induction h with
  | nil => rfl
  | cons first _ ih =>
    rw [List.forall_mem_cons, List.forall_mem_cons, ih]
    cases first with
    | known mem spelled spelled' _ =>
      have known {name : String} (h : name ∈ FieldName.spellings _) : ¬ Unknown fs name :=
        fun unknown => unknown _ mem h
      simp [known spelled, known spelled']
    | unknown h => simp [h]

theorem respelling_givenOnce (apart : Unambiguous fs) (h : List.Forall₂ (Respelling fs V) ms ms') :
    GivenOnce fs ms ↔ GivenOnce fs ms' :=
  forall₂_congr fun f mem => by rw [(forall₂_given apart h mem).length_eq]

/-- An object and a respelled one are read alike, or both are refused. -/
theorem Form.toOption_check_respelled {form : Form α} {model : String} {origin : Origin}
    (apart : Unambiguous form.fields) (respects : form.Respects V) {v v' : Json}
    (h : Respelled form.fields V v v') :
    (form.check model .forbid origin v).toOption =
      (form.check model .forbid origin v').toOption := by
  cases h with
  | refl v => rfl
  | @object ms ms' names names' members =>
    have same : form.extras ms = [] ↔ form.extras ms' = [] := by
      rw [extras_eq_nil_iff apart names, extras_eq_nil_iff apart names', respelling_known members,
        respelling_givenOnce apart members]
    rw [toOption_check_forbid, toOption_check_forbid]
    by_cases all : form.extras ms = []
    · rw [if_pos all, if_pos (same.mp all)]
      have once := ((extras_eq_nil_iff apart names).mp all).2
      have once' := ((extras_eq_nil_iff apart names').mp (same.mp all)).2
      refine respects ms ms' fun f mem => ?_
      rw [FieldName.value?_eq_head? (once f mem), FieldName.value?_eq_head? (once' f mem)]
      have values := forall₂_given apart members mem
      generalize f.given ms = given at *
      generalize f.given ms' = given' at *
      cases values with
      | nil => exact .none
      | cons first _ => exact .some first
    · rw [if_neg all, if_neg (same.not.mp all)]

end BrokerClient.Validation
