import PosixVfs.World.Basic

/-!
# World/Slots — taking objects from their pools and giving them back

An object taken from a pool by `acquireLinked` remembers its owner, and `giveBack` returns it
there.  A pool lives as long as something keeps it: its maker, a file system that takes objects
from it, or the choice of it for new sockets.  Objects outlive their pool; giving one back to a
pool that is gone has no effect but that the object forgets its owner.
-/

namespace PosixVfs.World

variable {ε : Type}

/-- Something keeps the pool. -/
def poolAlive (w : World ε) (p : PoolId) : Bool :=
  (w.pools p).kept || w.catalog.uses p || w.socketPool.map PoolId.sockets == some p

/-- Take the lowest free slot of a pool. -/
def acquire (w : World ε) (p : PoolId) : Option Nat × World ε :=
  match (w.pools p).firstFree? with
  | some slot => (some slot, w.setPool p ((w.pools p).hold slot))
  | none => (none, w.note (.poolExhausted (w.pools p).capacity))

/-- Give back the object stored at `address`.  This succeeds if it is one of the pool's and held. -/
def release (w : World ε) (p : PoolId) (address : ObjectId) : Bool × World ε :=
  match (p.slotOf? address).filter (· < (w.pools p).capacity) with
  | some slot =>
      if (w.pools p).isHeld slot then (true, w.setPool p ((w.pools p).free slot))
      else (false, w.note (.slotAlreadyFree slot))
  | none => (false, w)

/-- Take a slot of a pool, and let its object remember the pool. -/
def acquireLinked (w : World ε) (p : PoolId) : Option Nat × World ε :=
  match w.acquire p with
  | (some slot, w) => (some slot, w.setOwner (p.member slot) (some p))
  | (none, w) => (none, w)

/-- Let `o` forget its owner, and give the object at `address` back to that owner if it is alive. -/
def releaseLink (w : World ε) (o address : ObjectId) : Bool × World ε :=
  match (w.owner o).filter w.poolAlive with
  | some p => (w.setOwner o none).release p address
  | none => (false, w.setOwner o none)

/-- Give an object back to the pool it came from. -/
def giveBack (w : World ε) (o : ObjectId) : Bool × World ε := w.releaseLink o o

/-- Take a file from the file pool with number `i`. -/
def acquireFile (w : World ε) (i : Nat) : Option FileId × World ε :=
  let (slot, w) := w.acquireLinked (.files i)
  (slot.map (FileId.mk i), w)

/-- Take a directory from the directory pool with number `i`. -/
def acquireDirectory (w : World ε) (i : Nat) : Option DirectoryId × World ε :=
  let (slot, w) := w.acquireLinked (.directories i)
  (slot.map (DirectoryId.mk i), w)

/-- Take a socket from the socket pool with number `i`. -/
def acquireSocket (w : World ε) (i : Nat) : Option SocketId × World ε :=
  let (slot, w) := w.acquireLinked (.sockets i)
  (slot.map (SocketId.mk i), w)

/-- The pool's maker lets go of it. -/
def dropPool (w : World ε) (p : PoolId) : World ε :=
  w.setPool p { w.pools p with kept := false }

end PosixVfs.World
