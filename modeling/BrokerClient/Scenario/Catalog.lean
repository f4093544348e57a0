import BrokerClient.Program
import BrokerClient.Table

/-!
# Objects by name

The objects of a scenario are kept for good and known by their place. A name stands for the object
that was last made under it; whoever works with an older object still has its place.
-/

namespace BrokerClient.Scenario

/-- Objects of one kind. -/
structure Catalog (α : Type) where
  objects : List α := []
  /-- The places of the named objects. -/
  names : List (String × Nat) := []
  deriving Inhabited, Repr

namespace Catalog

variable {α : Type}

/-- Adds an object without a name. -/
def push (a : α) (c : Catalog α) : Catalog α :=
  { c with objects := c.objects ++ [a] }

/-- Adds an object under a name. -/
def put (name : String) (a : α) (c : Catalog α) : Catalog α :=
  { objects := c.objects ++ [a], names := Table.set name c.objects.length c.names }

/-- The place of the object with a name. -/
def place? (c : Catalog α) (name : String) : Option Nat :=
  c.names.lookup name

/-- The object with a name. -/
def find? (c : Catalog α) (name : String) : Option α := do
  c.objects[← c.place? name]?

/-- The named objects. -/
def named (c : Catalog α) : List (String × α) :=
  c.names.filterMap fun (name, place) => c.objects[place]?.map (name, ·)

/-- The object at a place. -/
def part [Inhabited α] (place : Nat) : Lens (Catalog α) α where
  get c := c.objects.getD place default
  set a c := { c with objects := c.objects.set place a }

end Catalog

end BrokerClient.Scenario
