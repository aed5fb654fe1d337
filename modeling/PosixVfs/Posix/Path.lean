import PosixVfs.Namespace.Opening
import PosixVfs.Posix.Basic
import PosixVfs.Stream.Handle

/-!
# Posix/Path — calls that name a path

A path goes to the file system that owns it; an empty one names nothing, and one without an owner
is a bad descriptor.  Only opening looks at the registered devices first, and a device is given the
whole path.
-/

namespace PosixVfs.Posix

variable {ε : Type} [Embedder ε]

/-- Make a file system the root. -/
def setRoot (p : Posix ε) (s : FileSystemId) (disk : Option DiskId) (flags : MountFlags) :
    Except Errno Unit × Posix ε :=
  track <| p.inMounts <| p.mounts.setRoot p.world s disk flags

/-- Mount a file system. -/
def mount (p : Posix ε) (s : FileSystemId) (path : String) (disk : Option DiskId)
    (flags : MountFlags) : Except Errno Unit × Posix ε :=
  track <| p.inMounts <| p.mounts.mount p.world s path disk flags

/-- Unmount what is mounted on a path. -/
def umount (p : Posix ε) (path : String) (flags : MountFlags) : Except Errno Unit × Posix ε :=
  track <| p.inMounts <| p.mounts.umount p.world path flags

/-- Register a device under its own name. -/
def registerDevice (p : Posix ε) (d : DeviceId) : Except Errno Unit × Posix ε :=
  track <| p.inRegistry <| p.registry.register p.world d

/-- Sync every file system in use.  This never fails. -/
def sync (p : Posix ε) : Posix ε :=
  { p with world := p.mounts.syncAll p.world, lastError := none }

/-- Where a path leads, and a second one with it. -/
def resolve (p : Posix ε) (path : String) (secondary : Option String := none) :
    Except Errno Resolved :=
  if path.isEmpty || secondary.any String.isEmpty then .error .noSuchEntity
  else
    match p.mounts.identify? path secondary with
    | some r => .ok r
    | none => .error .badFileDescriptor

/-- Carry out an operation on a path, on the file system that owns it. -/
def onPath (p : Posix ε) (path : String) (op : PathOp) : Except Errno op.Value × Posix ε :=
  track <|
    match p.resolve path with
    | .ok r => p.inWorld (p.world.ask (.path r.fileSystem r.path op))
    | .error e => (.error e, p)

/-- Rename a path.  The file system that owns it also gets the new path, stripped in the same way if
that lies under the same mount point. -/
def rename (p : Posix ε) (path target : String) : Except Errno Unit × Posix ε :=
  track <|
    match p.resolve path (some target) with
    | .ok r =>
        p.inWorld (p.world.ask (.rename r.fileSystem r.path (r.secondary.getD target)))
    | .error e => (.error e, p)

/-- Open the device or file that a path names. -/
def openObject (p : Posix ε) (path : String) (flags : OpenFlags) (mode : Mode) :
    Except Errno IoId × World ε :=
  if path.isEmpty then (.error .noSuchEntity, p.world)
  else
    match p.registry.identify? p.world.catalog path with
    | some d =>
        match p.world.ask (.opening (.device d) path flags mode) with
        | (.ok (), w) => (.ok (.device d), w)
        | (.error e, w) => (.error e, w)
    | none =>
        match p.resolve path with
        | .error e => (.error e, p.world)
        | .ok r =>
            let (file, w) := r.fileSystem.openFile p.world r.path flags mode
            (file.map IoId.file, w)

/-- Open a path, and bind what it names to the lowest free descriptor. -/
def openPath (p : Posix ε) (path : String) (flags : OpenFlags) (mode : Mode) :
    Except Errno Fd × Posix ε :=
  track <|
    match p.openObject path flags mode with
    | (.ok o, w) => p.inTable (o.register p.table w)
    | (.error e, w) => (.error e, { p with world := w })

/-! ## Directory streams -/

/-- Open the directory at a path. -/
def openDirectory (p : Posix ε) (path : String) : Except Errno DirectoryId × Posix ε :=
  track <|
    match p.resolve path with
    | .ok r => p.inWorld (r.fileSystem.openDirectory p.world r.path)
    | .error e => (.error e, p)

/-- The next entry of a stream, or `none` at its end. -/
def readDirectory (p : Posix ε) (d : DirectoryId) : Except Errno (Option Entry) × Posix ε :=
  track <| p.inWorld <| d.read p.world

/-- Start a stream again from its first entry. -/
def rewindDirectory (p : Posix ε) (d : DirectoryId) : Except Errno Unit × Posix ε :=
  track <| p.inWorld <| d.rewind p.world

/-- Close a stream. -/
def closeDirectory (p : Posix ε) (d : DirectoryId) : Except Errno Unit × Posix ε :=
  track <| p.inWorld <| d.close p.world

end PosixVfs.Posix
