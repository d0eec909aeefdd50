/-!
A queue between one sender and one receiver, either of which may leave.
-/

namespace HealthRelay

variable {α : Type}

structure Queue (α : Type) where
  /-- How many items it holds at most. -/
  capacity : Option Nat
  /-- What has been sent and not yet taken, the first one first. -/
  items : List α
  /-- The sender is still there. -/
  senderOpen : Bool
  /-- The receiver is still there. -/
  receiverOpen : Bool
  deriving DecidableEq

namespace Queue

/-- What becomes of an item that is sent. -/
inductive Delivery where
  | accepted
  | full
  /-- There is nobody to receive it. -/
  | gone
  deriving DecidableEq

/-- What is found when an item is taken. -/
inductive Pickup (α : Type) where
  | item (a : α)
  /-- Nothing yet. -/
  | empty
  /-- Nothing, now or ever. -/
  | closed
  deriving DecidableEq

/-- An empty queue. -/
def ofCapacity (capacity : Option Nat) : Queue α where
  capacity := capacity
  items := []
  senderOpen := true
  receiverOpen := true

/-- There is no room for another item. -/
def isFull (q : Queue α) : Bool := q.capacity.any (· ≤ q.items.length)

/-- Sends an item without waiting for room. -/
def send (a : α) (q : Queue α) : Delivery × Queue α :=
  if !q.receiverOpen then (.gone, q)
  else if q.isFull then (.full, q)
  else (.accepted, { q with items := q.items ++ [a] })

/-- Takes the first item without waiting for one. -/
def take (q : Queue α) : Pickup α × Queue α :=
  match q.items with
  | a :: rest => (.item a, { q with items := rest })
  | [] => (if q.senderOpen then .empty else .closed, q)

/-- The sender leaves; what it has sent can still be taken. -/
def closeSender (q : Queue α) : Queue α := { q with senderOpen := false }

/-- The receiver leaves, and what was not taken is lost. -/
def closeReceiver (q : Queue α) : Queue α := { q with receiverOpen := false, items := [] }

/-- Taking does not have to wait: there is an item, or there never will be one. -/
def isSettled (q : Queue α) : Bool := !q.items.isEmpty || !q.senderOpen

end Queue

end HealthRelay
