import PosixVfs.Posix.Call

/-!
# Posix/Syscall — calls as a C program makes them

A C program passes plain numbers and pointers that may be null, and gets one number back: −1 for a
failure, which the last error then explains.  `Syscall.decode` turns the arguments into a `Call`
before anything else is looked at, and `Call.word` turns the value back into a number.
-/

namespace PosixVfs

/-- A raw call; `none` stands for a null pointer. -/
inductive Syscall where
  | openPath (path : Option String) (flags : Int32) (mode : Mode)
  | close (fd : Fd)
  | read (fd : Fd) (len : Option Nat)
  | write (fd : Fd) (data : Option Bytes)
  | writev (fd : Fd) (buffers : Option (List Bytes))
  | lseek (fd : Fd) (offset : Int64) (whence : Int32)
  | ioctl (fd : Fd) (request : Int32) (arg : ControlArg)
  | fcntl (fd : Fd) (command : Int32) (arg : ControlArg)
  | isatty (fd : Fd)
  | ftruncate (fd : Fd) (length : Int64)
  | fsync (fd : Fd)
  | chmod (path : Option String) (mode : Mode)
  | truncate (path : Option String) (length : Int64)
  | rename (path target : Option String)
  | unlink (path : Option String)
  | mkdir (path : Option String) (mode : Mode)
  | rmdir (path : Option String)
  | umount (path : Option String) (flags : UInt32)
  | sync
  | socket (domain kind protocol : Int32)
  | listen (fd : Fd) (backlog : Int32)
  | shutdown (fd : Fd) (how : Int32)
  | sockatmark (fd : Fd)
  deriving DecidableEq

namespace Call

/-- The number that a C program gets for the value of a call. -/
def word : (c : Call) → c.Value → Int64
  | openPath _ _ _, fd | socket _ _ _, fd => fd.toInt64
  | onDescriptor _ (.read _), filled => filled.count.toInt64
  | onDescriptor _ (.write _), n | onDescriptor _ (.writev _), n => n.toInt64
  | onDescriptor _ (.ioctl _ _), value | onDescriptor _ (.fcntl _ _), value => value.toInt64
  | onDescriptor _ (.lseek _ _), offset => offset
  | onDescriptor _ .isatty, answer | onSocket _ .sockatmark, answer => if answer then 1 else 0
  | _, _ => 0

/-- What a reading call leaves in the caller's buffer. -/
def buffer : (c : Call) → c.Value → Bytes
  | onDescriptor _ (.read len), filled => filled.data.overlay len
  | _, _ => []

/-- The answer that something is no terminal counts as a plain no. -/
def forgives : Call → Errno → Bool
  | onDescriptor _ .isatty, .notATerminal => true
  | _, _ => false

end Call

/-- What a raw call returns: a number, and what the caller's buffer holds afterwards. -/
structure Return where
  word : Int64
  buffer : Bytes := []
  deriving DecidableEq, Repr

namespace Syscall

/-- What a pointer points to. -/
def deref {α : Type} : Option α → Except Errno α
  | some a => .ok a
  | none => .error .fault

/-- The call that a raw call stands for. -/
def decode : Syscall → Except Errno Call
  | openPath path flags mode => do return .openPath (← deref path) ⟨flags.toUInt32⟩ mode
  | close fd => return .close fd
  | read fd len => do return .onDescriptor fd (.read (← deref len))
  | write fd data => do return .onDescriptor fd (.write (← deref data))
  | writev fd buffers => do return .onDescriptor fd (.writev (← deref buffers))
  | lseek fd offset whence => do return .onDescriptor fd (.lseek offset (← Whence.decode whence))
  | ioctl fd request arg => return .onDescriptor fd (.ioctl request arg)
  | fcntl fd command arg => return .onDescriptor fd (.fcntl command arg)
  | isatty fd => return .onDescriptor fd .isatty
  | ftruncate fd length => return .onDescriptor fd (.ftruncate length)
  | fsync fd => return .onDescriptor fd .fsync
  | chmod path mode => do return .onPath (← deref path) (.chmod mode)
  | truncate path length => do return .onPath (← deref path) (.truncate length)
  | rename path target => do return .rename (← deref path) (← deref target)
  | unlink path => do return .onPath (← deref path) .unlink
  | mkdir path mode => do return .onPath (← deref path) (.mkdir mode)
  | rmdir path => do return .onPath (← deref path) .rmdir
  | umount path flags => do return .umount (← deref path) ⟨flags⟩
  | sync => return .sync
  | socket domain kind protocol => return .socket domain kind protocol
  | listen fd backlog => return .onSocket fd (.listen backlog)
  | shutdown fd how => do return .onSocket fd (.shutdown (← Direction.decode how))
  | sockatmark fd => return .onSocket fd .sockatmark

/-- What the caller's buffer holds before the call. -/
def blank : Syscall → Bytes
  | read _ (some len) => List.replicate len 0
  | _ => []

variable {ε : Type} [Embedder ε]

/-- **The raw entry point.**  Arguments that cannot be decoded fail the call before anything else is
looked at. -/
def handle (s : Syscall) (p : Posix ε) : Return × Posix ε :=
  let p := { p with lastError := none }
  match s.decode with
  | .error e => (⟨-1, s.blank⟩, { p with lastError := some e })
  | .ok call =>
      match call.run p with
      | (.ok value, p) => (⟨call.word value, call.buffer value⟩, p)
      | (.error e, p) =>
          if call.forgives e then (⟨0, s.blank⟩, p)
          else (⟨-1, s.blank⟩, { p with lastError := some e })

end Syscall

end PosixVfs
