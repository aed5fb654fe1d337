import PosixVfs.Posix.Path
import PosixVfs.Posix.Socket

/-!
# Posix/Call — the calls as data

A `Call` is one call with its arguments, and `Call.run` makes it.  A history of a context is a list
of calls.
-/

namespace PosixVfs

/-- A call of the context. -/
inductive Call where
  | setRoot (s : FileSystemId) (disk : Option DiskId) (flags : MountFlags)
  | mount (s : FileSystemId) (path : String) (disk : Option DiskId) (flags : MountFlags)
  | umount (path : String) (flags : MountFlags)
  | registerDevice (d : DeviceId)
  | setSocketPool (pool : Nat)
  | sync
  | openPath (path : String) (flags : OpenFlags) (mode : Mode)
  | openDirectory (path : String)
  | readDirectory (d : DirectoryId)
  | rewindDirectory (d : DirectoryId)
  | closeDirectory (d : DirectoryId)
  | onPath (path : String) (op : PathOp)
  | rename (path target : String)
  | close (fd : Fd)
  | closeAll
  | onDescriptor (fd : Fd) (op : IoOp)
  | socket (domain kind protocol : Int32)
  | accept (fd : Fd)
  | onSocket (fd : Fd) (op : SocketOp)
  deriving DecidableEq

namespace Call

/-- What the call succeeds with. -/
abbrev Value : Call → Type
  | openPath _ _ _ | socket _ _ _ => Fd
  | openDirectory _ => DirectoryId
  | readDirectory _ => Option Entry
  | onPath _ op => op.Value
  | onDescriptor _ op => op.Value
  | onSocket _ op => op.Value
  | closeAll => Nat
  | accept _ => Fd × Option Address
  | _ => Unit

variable {ε : Type} [Embedder ε]

/-- Make the call. -/
def run : (c : Call) → Posix ε → Except Errno c.Value × Posix ε
  | setRoot s disk flags, p => p.setRoot s disk flags
  | mount s path disk flags, p => p.mount s path disk flags
  | umount path flags, p => p.umount path flags
  | registerDevice d, p => p.registerDevice d
  | setSocketPool pool, p => (.ok (), p.setSocketPool pool)
  | sync, p => (.ok (), p.sync)
  | openPath path flags mode, p => p.openPath path flags mode
  | openDirectory path, p => p.openDirectory path
  | readDirectory d, p => p.readDirectory d
  | rewindDirectory d, p => p.rewindDirectory d
  | closeDirectory d, p => p.closeDirectory d
  | onPath path op, p => p.onPath path op
  | rename path target, p => p.rename path target
  | close fd, p => p.close fd
  | closeAll, p =>
      let (n, p) := p.closeAll
      (.ok n, p)
  | onDescriptor fd op, p => p.onDescriptor fd op
  | socket domain kind protocol, p => p.socket domain kind protocol
  | accept fd, p => p.accept fd
  | onSocket fd op, p => p.onSocket fd op

end Call

end PosixVfs
