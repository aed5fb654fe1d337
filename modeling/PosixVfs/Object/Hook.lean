import PosixVfs.Object.Operation
import PosixVfs.Stream.Entry

/-!
# Object/Hook — the questions put to the embedder

The library keeps the tables; what a file, a directory or a device *does* is the embedder's.  Each
`Hook` is one question to one object (`Hook.subject`), and `Hook.Reply` is the type of its answer.
`Hook.default` is the answer of an object whose maker left the question open.
-/

namespace PosixVfs

/-- A question to an object of the embedder's. -/
inductive Hook where
  /-- Open a file or device.  A file sees the path within its file system, a device the full one. -/
  | opening (o : IoId) (path : String) (flags : OpenFlags) (mode : Mode)
  | closing (o : IoId)
  | io (o : IoId) (op : IoOp)
  /-- Make a socket out of a fresh object. -/
  | create (s : SocketId) (domain kind protocol : Int32)
  /-- Take a pending connection of `s` into the fresh socket `connection`. -/
  | accept (s : SocketId) (connection : SocketId)
  | socket (s : SocketId) (op : SocketOp)
  | openDirectory (d : DirectoryId) (path : String)
  /-- Produce the next entry; `entry` is the one produced last. -/
  | readDirectory (d : DirectoryId) (entry : Entry)
  | rewindDirectory (d : DirectoryId)
  | closeDirectory (d : DirectoryId)
  /-- Mount, unmount or sync a file system; `disk` is the one that it is attached to meanwhile. -/
  | mount (s : FileSystemId) (disk : Option DiskId) (flags : MountFlags)
  | unmount (s : FileSystemId) (disk : Option DiskId) (flags : MountFlags)
  | sync (s : FileSystemId) (disk : Option DiskId)
  | path (s : FileSystemId) (path : String) (op : PathOp)
  | rename (s : FileSystemId) (path target : String)
  | readBlocks (k : DiskId) (start : UInt64) (len : Nat)
  | writeBlocks (k : DiskId) (start : UInt64) (data : Bytes)
  | flush (k : DiskId)
  deriving DecidableEq

/-- What a directory does when it is read: it changes the entry, and then says whether that was one
more entry, the end of the stream, or a failure. -/
structure ReadStep where
  edits : List Entry.Edit
  more : Except Errno Bool

namespace Hook

/-- The object that is asked. -/
def subject : Hook → ObjectId
  | opening o _ _ _ | closing o | io o _ => .io o
  | create s _ _ _ | accept s _ | socket s _ => .io (.socket s)
  | openDirectory d _ | readDirectory d _ | rewindDirectory d | closeDirectory d => .directory d
  | mount s _ _ | unmount s _ _ | sync s _ | path s _ _ | rename s _ _ => .fileSystem s
  | readBlocks k _ _ | writeBlocks k _ _ | flush k => .disk k

/-- The type of the answer. -/
abbrev Reply : Hook → Type
  | io _ op => Except Errno op.Value
  | accept _ _ => Except Errno (Option Address)
  | socket _ op => Except Errno op.Value
  | readDirectory _ _ => ReadStep
  | path _ _ op => Except Errno op.Value
  | readBlocks _ _ _ => Except DiskError Filled
  | writeBlocks _ _ _ => Except DiskError UInt64
  | flush _ => Except DiskError Unit
  | _ => Except Errno Unit

/-- The answer of an object that leaves the question open: opening, closing, mounting, syncing and
flushing succeed, an object is no terminal, and all else is not supported. -/
def default : (h : Hook) → h.Reply
  | opening _ _ _ _ | closing _ => .ok ()
  | io _ .isatty => .error .notATerminal
  | io _ _ => .error .notSupported
  | create _ _ _ _ | accept _ _ | socket _ _ => .error .notSupported
  | openDirectory _ _ | closeDirectory _ => .ok ()
  | readDirectory _ _ => ⟨[], .error .notSupported⟩
  | rewindDirectory _ => .error .notSupported
  | mount _ _ _ | unmount _ _ _ | sync _ _ => .ok ()
  | path _ _ _ | rename _ _ _ => .error .notSupported
  | readBlocks _ _ _ | writeBlocks _ _ _ => .error .notSupported
  | flush _ => .ok ()

end Hook

end PosixVfs
