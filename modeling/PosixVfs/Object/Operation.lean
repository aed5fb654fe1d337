import PosixVfs.Errno
import PosixVfs.Flags
import PosixVfs.Object.Identity
import PosixVfs.Text.Utf8

/-!
# Object/Operation — what can be asked of an open object, and what comes back

Operations are data: `IoOp` on whatever a descriptor is bound to, `SocketOp` on a socket and
`PathOp` on a path of a file system.  Each says with what kind of value it succeeds
(`IoOp.Value`, …).  The same operation is what a caller passes in and what the object's hook sees.
-/

namespace PosixVfs

/-- Permission bits. -/
abbrev Mode := UInt32

/-- The address of a peer in its canonical form.  Nothing here looks inside. -/
structure Address where
  text : String
  deriving DecidableEq, Repr

/-- Where a seek counts from. -/
inductive Whence where
  | set
  | current
  | «end»
  deriving DecidableEq, Repr

/-- The origin that a raw number stands for. -/
def Whence.decode (value : Int32) : Except Errno Whence :=
  if value = 0 then .ok set
  else if value = 1 then .ok current
  else if value = 2 then .ok «end»
  else .error .invalidArgument

/-- Which directions of a connection are shut down. -/
inductive Direction where
  | read
  | write
  | both
  deriving DecidableEq, Repr

/-- The directions that a raw number stands for. -/
def Direction.decode (value : Int32) : Except Errno Direction :=
  if value = 0 then .ok read
  else if value = 1 then .ok write
  else if value = 2 then .ok both
  else .error .invalidArgument

/-- The optional argument of a control operation. -/
abbrev ControlArg := Option Int64

/-- What is known of a file. -/
structure FileStat where
  dev : UInt64 := 0
  ino : UInt64 := 0
  mode : Mode := 0
  nlink : UInt32 := 0
  uid : UInt32 := 0
  gid : UInt32 := 0
  size : Int64 := 0
  atime : Int64 := 0
  mtime : Int64 := 0
  ctime : Int64 := 0
  blksize : UInt32 := 0
  blocks : UInt64 := 0
  deriving DecidableEq, Repr, Inhabited

/-- Access and modification times. -/
structure FileTimes where
  access : Int64
  modification : Int64
  deriving DecidableEq, Repr

/-- What a reading hook leaves behind: the count it reports, and the bytes it put into the buffer,
from the front.  The two need not agree. -/
structure Filled where
  count : UInt64
  data : Bytes
  deriving DecidableEq, Repr, Inhabited

/-- A zeroed buffer of `len` bytes with `data` written over its front. -/
def Bytes.overlay (data : Bytes) (len : Nat) : Bytes :=
  data.take len ++ List.replicate (len - data.length) 0

/-- The bytes `data` laid over zeroed buffers of the given lengths, one after the other. -/
def Bytes.scatter (data : Bytes) : List Nat → List Bytes
  | [] => []
  | len :: lens => data.overlay len :: Bytes.scatter (data.drop len) lens

/-- A message to receive: its name as the caller set it, the lengths of its buffers, its flags. -/
structure Inbox where
  name : Option Address
  lens : List Nat
  flags : MessageFlags
  deriving DecidableEq, Repr

/-- A message as a receiving hook leaves it; `data` runs across the buffers in order. -/
structure Received where
  count : UInt64
  data : Bytes
  name : Option Address
  flags : MessageFlags
  deriving DecidableEq, Repr

/-- A message to send. -/
structure Outbox where
  name : Option Address
  buffers : List Bytes
  deriving DecidableEq, Repr

/-! ## Operations on a descriptor -/

/-- An operation on whatever a descriptor is bound to. -/
inductive IoOp where
  | read (len : Nat)
  | write (data : Bytes)
  | writev (buffers : List Bytes)
  | ioctl (request : Int32) (arg : ControlArg)
  | fcntl (command : Int32) (arg : ControlArg)
  | lseek (offset : Int64) (whence : Whence)
  | isatty
  | fstat
  | ftruncate (length : Int64)
  | fsync
  deriving DecidableEq, Repr

/-- What the operation succeeds with. -/
abbrev IoOp.Value : IoOp → Type
  | read _ => Filled
  | write _ | writev _ => UInt64
  | ioctl _ _ | fcntl _ _ => Int32
  | lseek _ _ => Int64
  | isatty => Bool
  | fstat => FileStat
  | ftruncate _ | fsync => Unit

/-! ## Operations on a socket -/

/-- An operation on a socket that is bound to a descriptor. -/
inductive SocketOp where
  | bind (address : Address)
  | connect (address : Address)
  | listen (backlog : Int32)
  | getpeername
  | getsockname
  | getsockopt (level name : Int32) (len : Nat)
  | setsockopt (level name : Int32) (value : Bytes)
  | recv (len : Nat) (flags : MessageFlags)
  | recvfrom (len : Nat) (flags : MessageFlags)
  | recvmsg (message : Inbox) (flags : MessageFlags)
  | send (data : Bytes) (flags : MessageFlags)
  | sendto (data : Bytes) (flags : MessageFlags) (address : Address)
  | sendmsg (message : Outbox) (flags : MessageFlags)
  | shutdown (how : Direction)
  | sockatmark
  deriving DecidableEq, Repr

/-- What the operation succeeds with. -/
abbrev SocketOp.Value : SocketOp → Type
  | bind _ | connect _ | listen _ | setsockopt _ _ _ | shutdown _ => Unit
  | getpeername | getsockname => Address
  | getsockopt _ _ _ | recv _ _ => Filled
  | recvfrom _ _ => Filled × Option Address
  | recvmsg _ _ => Received
  | send _ _ | sendto _ _ _ | sendmsg _ _ => UInt64
  | sockatmark => Bool

/-! ## Operations on a path -/

/-- An operation on a path of a file system. -/
inductive PathOp where
  | chmod (mode : Mode)
  | stat
  | truncate (length : Int64)
  | unlink
  | utime (times : Option FileTimes)
  | mkdir (mode : Mode)
  | rmdir
  deriving DecidableEq, Repr

/-- What the operation succeeds with. -/
abbrev PathOp.Value : PathOp → Type
  | stat => FileStat
  | _ => Unit

end PosixVfs
