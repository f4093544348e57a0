/-!
# Tables by name

A table lists values by name, each name once and in the order in which the names were first set. A
name keeps its place when it is set again.
-/

namespace BrokerClient.Table

variable {α : Type}

/-- Sets the value of a name. -/
def set (name : String) (a : α) : List (String × α) → List (String × α)
  | [] => [(name, a)]
  | (n, b) :: rest => if n == name then (n, a) :: rest else (n, b) :: set name a rest

/-- A name that has just been set is found. -/
theorem lookup_set (name : String) (a : α) (t : List (String × α)) :
    (set name a t).lookup name = some a := by
  induction t with
  | nil => simp [set]
  | cons entry rest ih =>
    obtain ⟨n, b⟩ := entry
    by_cases h : n = name
    · simp [set, h]
    · have h' : (name == n) = false := beq_false_of_ne (Ne.symm h)
      simp [set, h, List.lookup_cons, h', ih]

/-- Setting a name leaves the others alone. -/
theorem lookup_set_of_ne {name other : String} (a : α) (t : List (String × α))
    (h : other ≠ name) : (set name a t).lookup other = t.lookup other := by
  have h' : (other == name) = false := beq_false_of_ne h
  induction t with
  | nil => simp [set, List.lookup_cons, h']
  | cons entry rest ih =>
    obtain ⟨n, b⟩ := entry
    by_cases hn : n = name
    · subst hn
      simp [set, List.lookup_cons, h']
    · simp [set, hn, List.lookup_cons, ih]

end BrokerClient.Table
