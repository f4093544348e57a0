import BrokerClient.Proofs.Json.Fitting
import BrokerClient.Proofs.Number.Order

/-!
# Values that equal themselves

A value is compared by value, and a NaN is equal to nothing. A value that a reader gives is
therefore equal to a copy of itself exactly if none of its doubles is a NaN: the names of its
objects are distinct, so every member is compared with its own copy.

## Main definitions

* `Json.nanFree` — whether no double of a value is a NaN.

## Main results

* `Json.same_self` — which values are equal to themselves.
-/

namespace BrokerClient

/-- A double is equal to itself unless it is a NaN. -/
theorem Number.beq_self (x : Float) : (x == x) = !x.isNaN := by
  have unfolded : (x == x) = ((parts x).compare (parts x) == some .eq) := by
    change Float.beq x x = _
    unfold Float.beq
    rfl
  rw [unfolded, Bool.eq_iff_iff, beq_iff_eq, Bool.not_eq_true', ← Bool.not_eq_true, isNaN_iff_parts]
  constructor
  · intro same nan
    rw [(compare_eq_none_iff _ _).mpr (.inl nan)] at same
    cases same
  · exact compare_self

namespace Json

open Number

mutual

/-- Whether no double of a value is a NaN. -/
def nanFree : Json → Bool
  | .float x => !x.isNaN
  | .arr items => nanFreeItems items
  | .obj members => nanFreeMembers members
  | _ => true

/-- Whether no double of a list of values is a NaN. -/
def nanFreeItems : List Json → Bool
  | [] => true
  | v :: vs => nanFree v && nanFreeItems vs

/-- Whether no double of the members of an object is a NaN. -/
def nanFreeMembers : List (String × Json) → Bool
  | [] => true
  | (_, v) :: ms => nanFree v && nanFreeMembers ms

end

/-- Under distinct names every member is found. -/
theorem member?_of_mem {name : String} {v : Json} {ms : List (String × Json)}
    (names : (ms.map Prod.fst).Nodup) (h : (name, v) ∈ ms) : member? name ms = some v := by
  induction ms with
  | nil => cases h
  | cons m ms ih =>
    obtain ⟨other, w⟩ := m
    obtain ⟨new, names⟩ := List.nodup_cons.mp names
    rcases List.mem_cons.mp h with first | later
    · cases first
      simp [member?]
    · have differ : other ≠ name := by
        rintro rfl
        exact new (List.mem_map.mpr ⟨_, later, rfl⟩)
      simp [member?, differ, ih names later]

theorem sameItems_self {vs : List Json} (h : ∀ v ∈ vs, same v v = nanFree v) :
    sameItems vs vs = nanFreeItems vs := by
  induction vs with
  | nil => rfl
  | cons v vs ih =>
    obtain ⟨first, later⟩ := List.forall_mem_cons.mp h
    rw [sameItems, nanFreeItems, first, ih later]

/-- Members that are found in an object are compared with themselves. -/
theorem sameMembers_eq {rest ms : List (String × Json)}
    (found : ∀ m ∈ rest, member? m.1 ms = some m.2)
    (h : ∀ m ∈ rest, same m.2 m.2 = nanFree m.2) :
    sameMembers rest ms = nanFreeMembers rest := by
  induction rest with
  | nil => rfl
  | cons m rest ih =>
    obtain ⟨name, v⟩ := m
    obtain ⟨here, there⟩ := List.forall_mem_cons.mp found
    obtain ⟨first, later⟩ := List.forall_mem_cons.mp h
    simp only at here first
    rw [sameMembers, nanFreeMembers, here, ih there later, ← first]

/-- A value that a reader can give is equal to itself exactly if none of its doubles is a NaN. -/
theorem same_self {limits : Limits} {depth : ℕ} {v : Json} (fits : Fits limits depth v) :
    same v v = nanFree v := by
  induction fits with
  | null => rfl
  | bool b => simp [same, asInt?, nanFree]
  | int => simp [same, asInt?, nanFree]
  | float x => exact beq_self x
  | str s => simp [same, nanFree]
  | emptyArr => rfl
  | arr _ ih => rw [same, nanFree, sameItems_self ih]
  | emptyObj => rfl
  | @obj _ members names _ ih =>
    have found : ∀ m ∈ members, member? m.1 members = some m.2 :=
      fun m mem => member?_of_mem names mem
    rw [same, nanFree, sameMembers_eq found ih, beq_self_eq_true, Bool.true_and]

end Json

end BrokerClient
