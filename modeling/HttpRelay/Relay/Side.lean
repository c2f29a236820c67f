import HttpRelay.Message.Kind

/-!
# The two sides of the relay

The relay stands between a client and a target. A request goes from the client's side to
the target's, a response the other way.
-/

namespace HttpRelay

inductive Side where
  | client
  | target
  deriving DecidableEq, Repr

namespace Kind

/-- The side that a message comes from. -/
def origin : Kind → Side
  | request => .client
  | response => .target

/-- The side that a message goes to. -/
def destination : Kind → Side
  | request => .target
  | response => .client

end Kind

structure Sides (Item : Type) where
  client : Item
  target : Item
  deriving DecidableEq, Repr

namespace Sides

variable {Item : Type}

def get (sides : Sides Item) : Side → Item
  | .client => sides.client
  | .target => sides.target

def modify (sides : Sides Item) (side : Side) (change : Item → Item) : Sides Item :=
  match side with
  | .client => { sides with client := change sides.client }
  | .target => { sides with target := change sides.target }

@[simp]
theorem get_modify_self (sides : Sides Item) (side : Side) (change : Item → Item) :
    (sides.modify side change).get side = change (sides.get side) := by
  cases side <;> rfl

theorem get_modify_of_ne (sides : Sides Item) {side other : Side} (ne : other ≠ side)
    (change : Item → Item) : (sides.modify side change).get other = sides.get other := by
  cases side <;> cases other <;> simp_all [get, modify]

end Sides

end HttpRelay
