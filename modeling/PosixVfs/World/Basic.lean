import PosixVfs.Block.Geometry
import PosixVfs.Object.Hook
import PosixVfs.Object.Pool
import PosixVfs.World.Log

/-!
# World/Basic — the objects, their shared state and their embedder

An `Embedder` answers hooks, in any way it likes: its answers may depend on all it was asked
before.  A `World` holds one embedder with the state that the library keeps for its objects: the
pools, which pool an object came from, which descriptor it is bound to, the last entry of a
directory, the disk of a file system.  `World.trace` lists the hooks that were called with their
answers, and `World.log` the records that were written, both in order.

Functions that change a world return the new one, behind their value if they have one.  A function
that can fail has an `Except` for its value, so what it did before it failed stays done.
-/

namespace PosixVfs

/-- A program that implements the objects: it answers hooks out of a state `ε` of its own. -/
class Embedder (ε : Type) where
  answer : (h : Hook) → ε → h.Reply × ε

/-- A character device: its name, and the names under the device directory that mean it. -/
structure Device where
  name : String
  accepts : String → Bool := fun other => name == other

instance : Inhabited Device := ⟨{ name := "" }⟩

/-- The pools, by number, from which a file system takes its files and its directories. -/
structure Provision where
  files : Option Nat := none
  directories : Option Nat := none
  deriving DecidableEq, Repr, Inhabited

/-- What is fixed about the embedder's single objects.  `gathers o` says that the object `o` writes
several buffers at once by a hook of its own. -/
structure Catalog where
  devices : List Device := []
  fileSystems : List Provision := []
  disks : List Geometry := []
  gathers : IoId → Bool := fun _ => false

namespace Catalog

/-- A device; one that is not listed has no name. -/
def device (c : Catalog) (d : DeviceId) : Device := c.devices.getD d.index default

/-- Where a file system takes its objects from. -/
def provision (c : Catalog) (s : FileSystemId) : Provision := c.fileSystems.getD s.index default

/-- The geometry of a disk. -/
def geometry (c : Catalog) (k : DiskId) : Geometry := c.disks.getD k.index default

/-- Some file system takes objects from the pool. -/
def uses (c : Catalog) (p : PoolId) : Bool :=
  c.fileSystems.any fun s => s.files.map PoolId.files == some p ||
    s.directories.map PoolId.directories == some p

end Catalog

/-- `f` with the value at `a` replaced by `b`. -/
def assign {α β : Type} [DecidableEq α] (f : α → β) (a : α) (b : β) : α → β :=
  fun x => if x = a then b else f x

section Assign

variable {α β : Type} [DecidableEq α] (f : α → β) (a : α) (b : β)

@[simp] theorem assign_self : assign f a b a = b := if_pos rfl

theorem assign_of_ne {x : α} (h : x ≠ a) : assign f a b x = f x := if_neg h

theorem assign_eq_self : assign f a (f a) = f := by
  funext x
  by_cases h : x = a <;> simp [assign, h]

end Assign

/-- A hook that was called, and its answer. -/
structure Event where
  hook : Hook
  reply : hook.Reply

/-- The objects with all that is known about them. -/
structure World (ε : Type) where
  embedder : ε
  catalog : Catalog := {}
  pools : PoolId → Pool := fun _ => {}
  /-- The pool an object goes back to when it is released. -/
  owner : ObjectId → Option PoolId := fun _ => none
  /-- The descriptor an object is bound to, as the object itself has it. -/
  descriptor : IoId → Option Fd := fun _ => none
  /-- The entry that a directory produced last. -/
  entry : DirectoryId → Entry := fun _ => .blank
  /-- The disk that a file system is attached to. -/
  disk : FileSystemId → Option DiskId := fun _ => none
  /-- The number of the pool that new sockets come from. -/
  socketPool : Option Nat := none
  trace : List Event := []
  log : List LogRecord := []

namespace World

variable {ε : Type}

/-- Write a record to the log. -/
def note (w : World ε) (r : LogRecord) : World ε := { w with log := w.log ++ [r] }

/-- Write a record about a failure, if there was one. -/
def noteFailure {α : Type} (w : World ε) (r : Except Errno α) (record : Errno → LogRecord) :
    World ε :=
  match r with
  | .ok _ => w
  | .error e => w.note (record e)

/-- Put a question to its object. -/
def ask [Embedder ε] (w : World ε) (h : Hook) : h.Reply × World ε :=
  let (reply, embedder) := Embedder.answer h w.embedder
  (reply, { w with embedder, trace := w.trace ++ [⟨h, reply⟩] })

/-- Let an object know its descriptor. -/
def setDescriptor (w : World ε) (o : IoId) (fd : Option Fd) : World ε :=
  { w with descriptor := assign w.descriptor o fd }

/-- Let an object know the pool it goes back to. -/
def setOwner (w : World ε) (o : ObjectId) (p : Option PoolId) : World ε :=
  { w with owner := assign w.owner o p }

/-- Replace the state of a pool. -/
def setPool (w : World ε) (p : PoolId) (pool : Pool) : World ε :=
  { w with pools := assign w.pools p pool }

/-- Keep the entry that a directory produced. -/
def setEntry (w : World ε) (d : DirectoryId) (e : Entry) : World ε :=
  { w with entry := assign w.entry d e }

/-- Attach a file system to a disk, or detach it. -/
def setDisk (w : World ε) (s : FileSystemId) (k : Option DiskId) : World ε :=
  { w with disk := assign w.disk s k }

end World

end PosixVfs
