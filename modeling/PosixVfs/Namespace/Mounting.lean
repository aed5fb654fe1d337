import PosixVfs.Namespace.MountTable

/-!
# Namespace/Mounting — mounting, unmounting and syncing file systems

Mounting attaches a disk to the file system before it is asked, so that the file system can read it
while it answers.  A file system that refuses is not entered into the table, but one that becomes the
root is, whatever it answers.  Unmounting goes through in any case: what the file system answers is
only logged, and it is asked while it still has its disk.
-/

namespace PosixVfs

variable {ε : Type} [Embedder ε]

namespace World

/-- Ask a file system to mount what it is attached to. -/
def askMount (w : World ε) (s : FileSystemId) (flags : MountFlags) : Except Errno Unit × World ε :=
  w.ask (.mount s (w.disk s) flags)

/-- Tell a file system that it is unmounted. -/
def askUnmount (w : World ε) (s : FileSystemId) (flags : MountFlags) :
    Except Errno Unit × World ε :=
  w.ask (.unmount s (w.disk s) flags)

/-- Ask a file system to sync. -/
def askSync (w : World ε) (s : FileSystemId) : Except Errno Unit × World ε :=
  w.ask (.sync s (w.disk s))

end World

namespace MountTable

/-- Make `s` the root.  A root before it is replaced without a word to it. -/
def setRoot (t : MountTable) (w : World ε) (s : FileSystemId) (disk : Option DiskId)
    (flags : MountFlags) : Except Errno Unit × MountTable × World ε :=
  let (answer, w) := ((w.note (.rootSet flags)).setDisk s disk).askMount s flags
  (answer, { t with root := some s }, w)

/-- Mount `s` on `path`: the path is checked first, then that it is not taken, then that there is a
slot. -/
def mount (t : MountTable) (w : World ε) (s : FileSystemId) (path : String) (disk : Option DiskId)
    (flags : MountFlags) : Except Errno Unit × MountTable × World ε :=
  if !wellFormed path then (.error .invalidArgument, t, w)
  else if (t.position? path).isSome then (.error .busy, t, w.note (.alreadyMounted path))
  else
    match t.firstFree? with
    | none => (.error .noSpace, t, w)
    | some slot =>
        match (w.setDisk s disk).askMount s flags with
        | (.error e, w) => (.error e, t, w.setDisk s none)
        | (.ok (), w) =>
            (.ok (), t.set slot (some ⟨.ofString path, s⟩), w.note (.mounted path flags))

/-- Unmount what is mounted on exactly this path: it is synced, told, and loses its disk. -/
def umount (t : MountTable) (w : World ε) (path : String) (flags : MountFlags) :
    Except Errno Unit × MountTable × World ε :=
  match t.position? path with
  | none => (.error .invalidArgument, t, w)
  | some slot =>
      match t.mount? slot with
      | none => (.error .invalidArgument, t, w)
      | some m =>
          let (synced, w) := w.askSync m.fileSystem
          let w := w.noteFailure synced (.unmountSyncFailed path)
          let (told, w) := w.askUnmount m.fileSystem flags
          let w := w.noteFailure told (.unmountFailed path)
          (.ok (), t.set slot none, (w.setDisk m.fileSystem none).note (.unmounted path))

/-- Sync one file system; a failure is only logged. -/
def syncOne (w : World ε) (s : FileSystemId) : World ε :=
  let (synced, w) := w.askSync s
  w.noteFailure synced .syncFailed

/-- Sync every file system in use, once. -/
def syncAll (t : MountTable) (w : World ε) : World ε := t.fileSystems.foldl syncOne w

end MountTable

end PosixVfs
