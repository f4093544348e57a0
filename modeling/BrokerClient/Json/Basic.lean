import BrokerClient.Number.Binary64

/-!
# JSON values

Objects keep the order of their members, and integers of any size are kept apart from doubles.
`Json.same` compares by value: numbers and truth values by the number they stand for, objects
without regard to the order of their members. A NaN is the same as nothing.
-/

namespace BrokerClient

/-- A JSON value. -/
inductive Json
  | null
  | bool (b : Bool)
  | int (n : Int)
  | float (x : Float)
  | str (s : String)
  | arr (items : List Json)
  | obj (members : List (String × Json))
  deriving Inhabited, Repr

namespace Json

/-- The value of something that may be missing. -/
def ofOption {α : Type} (f : α → Json) : Option α → Json
  | some a => f a
  | none => .null

/-- Sets a member: the last value given for a name counts, at the place of the first. -/
def setMember (name : String) (v : Json) : List (String × Json) → List (String × Json)
  | [] => [(name, v)]
  | (n, w) :: rest => if n == name then (n, v) :: rest else (n, w) :: setMember name v rest

/-- The value of a member. -/
def member? (name : String) : List (String × Json) → Option Json
  | [] => none
  | (n, v) :: rest => if n == name then some v else member? name rest

/-- A member that has just been set is found. -/
theorem member?_setMember (name : String) (v : Json) (ms : List (String × Json)) :
    member? name (setMember name v ms) = some v := by
  induction ms with
  | nil => simp [setMember, member?]
  | cons m rest ih =>
    obtain ⟨n, w⟩ := m
    by_cases h : n = name <;> simp [setMember, member?, h, ih]

/-- Setting a member leaves the others alone. -/
theorem member?_setMember_of_ne {name other : String} (v : Json) (ms : List (String × Json))
    (h : other ≠ name) : member? other (setMember name v ms) = member? other ms := by
  induction ms with
  | nil => simp [setMember, member?, Ne.symm h]
  | cons m rest ih => grind [setMember, member?]

/-- The number that a value stands for, if it is an integer or a truth value. -/
def asInt? : Json → Option Int
  | .int n => some n
  | .bool b => some (if b then 1 else 0)
  | _ => none

/-- Whether a double is exactly an integer. -/
def floatIsInt (x : Float) (n : Int) : Bool :=
  Number.exactInt? x == some n

mutual

/-- Equality by value. -/
def same : Json → Json → Bool
  | .null, .null => true
  | .str a, .str b => a == b
  | .float x, .float y => x == y
  | .float x, .int n => floatIsInt x n
  | .float x, .bool b => floatIsInt x (if b then 1 else 0)
  | .int n, .float y => floatIsInt y n
  | .bool b, .float y => floatIsInt y (if b then 1 else 0)
  | .arr xs, .arr ys => sameItems xs ys
  | .obj xs, .obj ys => xs.length == ys.length && sameMembers xs ys
  | a, b => match a.asInt?, b.asInt? with
    | some m, some n => m == n
    | _, _ => false

/-- Equality of two lists, place by place. -/
def sameItems : List Json → List Json → Bool
  | [], [] => true
  | x :: xs, y :: ys => same x y && sameItems xs ys
  | _, _ => false

/-- Whether every member of the first object is in the second. -/
def sameMembers : List (String × Json) → List (String × Json) → Bool
  | [], _ => true
  | (name, v) :: rest, ys =>
    (match member? name ys with
    | some w => same v w
    | none => false) && sameMembers rest ys

end

mutual

/-- The value with every double that is no number replaced by null. -/
def finitePart : Json → Json
  | .float x => if Number.isFinite x then .float x else .null
  | .arr items => .arr (finiteItems items)
  | .obj members => .obj (finiteMembers members)
  | v => v

/-- The items of a list, each with its doubles that are no numbers replaced. -/
def finiteItems : List Json → List Json
  | [] => []
  | x :: xs => finitePart x :: finiteItems xs

/-- The members of an object, each with its doubles that are no numbers replaced. -/
def finiteMembers : List (String × Json) → List (String × Json)
  | [] => []
  | (name, v) :: rest => (name, finitePart v) :: finiteMembers rest

end

end Json

end BrokerClient
