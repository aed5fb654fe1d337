import PosixVfs.Limits

/-!
# Object/Identity — the objects that take part, and where they live

Files, directories and sockets live in the slots of a pool (`PoolId.member`); devices, file systems
and disks are single objects of the embedder's.  Those a descriptor can be bound to are the I/O
objects (`IoId`).  Two objects are the same when their identities are equal.
-/

namespace PosixVfs

/-- A file descriptor. -/
abbrev Fd := Int32

namespace Fd

/-- The descriptor of slot `i` of a table. -/
def ofIndex (i : Nat) : Fd := .ofNat i

/-- The slot of a descriptor in a table of `capacity` slots. -/
def index? (fd : Fd) (capacity : Nat) : Option Nat :=
  if 0 ≤ fd.toInt ∧ fd.toInt.toNat < capacity then some fd.toInt.toNat else none

end Fd

/-- A file: slot `slot` of the file pool with number `pool`. -/
structure FileId where
  pool : Nat
  slot : Nat
  deriving DecidableEq, Repr

/-- A directory: slot `slot` of the directory pool with number `pool`. -/
structure DirectoryId where
  pool : Nat
  slot : Nat
  deriving DecidableEq, Repr

/-- A socket: slot `slot` of the socket pool with number `pool`. -/
structure SocketId where
  pool : Nat
  slot : Nat
  deriving DecidableEq, Repr

/-- A character device of the embedder's. -/
structure DeviceId where
  index : Nat
  deriving DecidableEq, Repr

/-- A file system of the embedder's. -/
structure FileSystemId where
  index : Nat
  deriving DecidableEq, Repr

/-- A block device of the embedder's. -/
structure DiskId where
  index : Nat
  deriving DecidableEq, Repr

/-- What kind of I/O object a descriptor is bound to. -/
inductive IoKind where
  | device
  | file
  | socket
  deriving DecidableEq, Repr

/-- The name of the kind. -/
def IoKind.label : IoKind → String
  | device => "Device"
  | file => "File"
  | socket => "Socket"

/-- An object that a descriptor can be bound to. -/
inductive IoId where
  | device (d : DeviceId)
  | file (f : FileId)
  | socket (s : SocketId)
  deriving DecidableEq, Repr

namespace IoId

/-- What kind of object it is. -/
def kind : IoId → IoKind
  | device _ => .device
  | file _ => .file
  | socket _ => .socket

/-- The socket, if the object is one. -/
def socket? : IoId → Option SocketId
  | socket s => some s
  | _ => none

/-- The text of a handle to the object, given the text of its address. -/
def describe (o : IoId) (address : String) : String :=
  "IoRef \x7b kind: " ++ o.kind.label ++ ", addr: " ++ address ++ " \x7d"

end IoId

/-- The text of a handle to a directory, given the text of the directory's address. -/
def DirectoryId.describe (_ : DirectoryId) (address : String) : String :=
  "DirHandle(" ++ address ++ ")"

/-- Any object.  Objects are told apart by where they are stored, so this is also an address. -/
inductive ObjectId where
  | io (o : IoId)
  | directory (d : DirectoryId)
  | fileSystem (s : FileSystemId)
  | disk (k : DiskId)
  deriving DecidableEq, Repr

/-- A pool of files, of directories or of sockets, by its number. -/
inductive PoolId where
  | files (i : Nat)
  | directories (i : Nat)
  | sockets (i : Nat)
  deriving DecidableEq, Repr

/-- The object in a slot of a pool. -/
def PoolId.member : PoolId → Nat → ObjectId
  | files i, slot => .io (.file ⟨i, slot⟩)
  | directories i, slot => .directory ⟨i, slot⟩
  | sockets i, slot => .io (.socket ⟨i, slot⟩)

/-- The slot of the pool that an address points into, if the pool had that many slots. -/
def PoolId.slotOf? : PoolId → ObjectId → Option Nat
  | files i, .io (.file f) => if f.pool = i then some f.slot else none
  | directories i, .directory d => if d.pool = i then some d.slot else none
  | sockets i, .io (.socket s) => if s.pool = i then some s.slot else none
  | _, _ => none

theorem PoolId.slotOf?_eq_some {p : PoolId} {o : ObjectId} {slot : Nat} :
    p.slotOf? o = some slot ↔ o = p.member slot := by
  cases p <;> rcases o with (_ | ⟨_, _⟩ | ⟨_, _⟩) | ⟨_, _⟩ | _ | _ <;> simp [slotOf?, member]

end PosixVfs
