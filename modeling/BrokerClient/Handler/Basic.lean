/-!
# Handlers

What a handler does when it is called is the environment's. The library itself looks at what a
handler is equal to, whether it can be hashed, and what it is called in log records. A handler is an
object, and different objects may be equal and may have the same name.
-/

namespace BrokerClient

/-- A handler of events. -/
structure Handler where
  /-- Which object the handler is. -/
  identity : String
  /-- What the handler is compared by. Unless its class says otherwise, an object is equal to itself
  only. -/
  key : String := identity
  /-- The qualified name, if there is one, as functions have it. -/
  qualifiedName : Option String := none
  /-- How the handler is shown if it has no qualified name. -/
  shown : String := ""
  /-- What the attempt to hash the handler fails with, if it cannot be hashed. -/
  unhashable : Option String := none
  deriving DecidableEq, Inhabited, Repr

namespace Handler

/-- The name of a handler in log records. -/
def name (h : Handler) : String :=
  match h.qualifiedName with
  | some name => if name.isEmpty then h.shown else name
  | none => h.shown

/-- Handlers are equal if they are compared by the same. -/
instance : BEq Handler :=
  ⟨fun g h => g.key == h.key⟩

theorem beq_iff {g h : Handler} : g == h ↔ g.key = h.key :=
  beq_iff_eq (a := g.key) (b := h.key)

instance : EquivBEq Handler where
  rfl := beq_iff.mpr rfl
  symm eq := beq_iff.mpr (beq_iff.mp eq).symm
  trans eq eq' := beq_iff.mpr ((beq_iff.mp eq).trans (beq_iff.mp eq'))

end Handler

end BrokerClient
