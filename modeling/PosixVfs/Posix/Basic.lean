import PosixVfs.Descriptor.Binding
import PosixVfs.Namespace.Mounting
import PosixVfs.Namespace.Registry

/-!
# Posix/Basic — the context in which calls are made

A `Posix` context holds the descriptor table, the mount table and the device registry beside the
world.  It also holds the error of the last call: every call goes through `track`, which records how
it ended.
-/

namespace PosixVfs

/-- The state that calls work on. -/
structure Posix (ε : Type) where
  table : Table
  mounts : MountTable
  registry : Registry
  /-- How the most recent call failed, if it did. -/
  lastError : Option Errno := none
  world : World ε

namespace Posix

variable {ε α : Type}

/-- A context of the given capacities over a world. -/
def build (c : Capacities) (w : World ε) : Posix ε where
  table := .new c.descriptors
  mounts := .new c.mounts
  registry := .new c.devices
  world :=
    (w.note (.contextBuilt c.descriptors c.mounts c.devices)).note (.tableBuilt c.descriptors)

/-- A context of the given capacities, if they are usable. -/
def new (c : Capacities) (w : World ε) : Except CapacityError (Posix ε) :=
  c.check.map fun () => build c w

/-- The errno value of the last call, 0 if it succeeded. -/
def errno (p : Posix ε) : Int32 := p.lastError.elim 0 Errno.code

/-- Record how a call ended. -/
def track : Except Errno α × Posix ε → Except Errno α × Posix ε
  | (.ok a, p) => (.ok a, { p with lastError := none })
  | (.error e, p) =>
      (.error e, { p with lastError := some e, world := p.world.note (.callFailed e) })

/-- The context after something was done to the world. -/
def inWorld (p : Posix ε) (r : α × World ε) : α × Posix ε := (r.1, { p with world := r.2 })

/-- The context after something was done to the descriptor table and the world. -/
def inTable (p : Posix ε) (r : α × Table × World ε) : α × Posix ε :=
  (r.1, { p with table := r.2.1, world := r.2.2 })

/-- The context after something was done to the mount table and the world. -/
def inMounts (p : Posix ε) (r : α × MountTable × World ε) : α × Posix ε :=
  (r.1, { p with mounts := r.2.1, world := r.2.2 })

/-- The context after something was done to the registry and the world. -/
def inRegistry (p : Posix ε) (r : α × Registry × World ε) : α × Posix ε :=
  (r.1, { p with registry := r.2.1, world := r.2.2 })

end Posix

end PosixVfs
