/-!
# Object/Pool — which slots of a pool are held

A pool has a fixed number of slots, each held or free.  Holding takes the lowest free slot
(`Pool.firstFree?`), and freeing makes it available again.
-/

namespace PosixVfs

/-- A pool: for each slot whether it is held, and whether the pool's maker still keeps the pool. -/
structure Pool where
  held : List Bool := []
  kept : Bool := true
  deriving DecidableEq, Repr, Inhabited

namespace Pool

/-- A pool of `capacity` slots, all free. -/
def new (capacity : Nat) : Pool := { held := List.replicate capacity false }

/-- How many slots there are. -/
def capacity (p : Pool) : Nat := p.held.length

/-- Slot `slot` exists and is held. -/
def isHeld (p : Pool) (slot : Nat) : Bool := p.held[slot]? == some true

/-- How many slots are held. -/
def heldCount (p : Pool) : Nat := p.held.count true

/-- How many slots are free. -/
def available (p : Pool) : Nat := p.capacity - p.heldCount

/-- The lowest free slot. -/
def firstFree? (p : Pool) : Option Nat := p.held.findIdx? (!·)

/-- The pool with a slot held. -/
def hold (p : Pool) (slot : Nat) : Pool := { p with held := p.held.set slot true }

/-- The pool with a slot free. -/
def free (p : Pool) (slot : Nat) : Pool := { p with held := p.held.set slot false }

end Pool

end PosixVfs
