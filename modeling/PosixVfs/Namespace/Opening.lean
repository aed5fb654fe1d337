import PosixVfs.World.Slots

/-!
# Namespace/Opening — opening a file or a directory on its file system

The file system takes an object from its pool and asks it to open the path.  An object that cannot
goes straight back.
-/

namespace PosixVfs.FileSystemId

variable {ε : Type} [Embedder ε]

/-- Open the file at `path`, a path within the file system. -/
def openFile (s : FileSystemId) (w : World ε) (path : String) (flags : OpenFlags) (mode : Mode) :
    Except Errno FileId × World ε :=
  match (w.catalog.provision s).files with
  | none => (.error .notSupported, w)
  | some pool =>
      match w.acquireFile pool with
      | (none, w) => (.error .tooManyOpenFiles, w.note (.noFileObject path))
      | (some f, w) =>
          match w.ask (.opening (.file f) path flags mode) with
          | (.ok (), w) => (.ok f, w)
          | (.error e, w) => (.error e, (w.giveBack (.io (.file f))).2)

/-- Open the directory at `path`, a path within the file system. -/
def openDirectory (s : FileSystemId) (w : World ε) (path : String) :
    Except Errno DirectoryId × World ε :=
  match (w.catalog.provision s).directories with
  | none => (.error .notSupported, w)
  | some pool =>
      match w.acquireDirectory pool with
      | (none, w) => (.error .tooManyOpenFiles, w.note (.noDirectoryObject path))
      | (some d, w) =>
          match w.ask (.openDirectory d path) with
          | (.ok (), w) => (.ok d, w)
          | (.error e, w) => (.error e, (w.giveBack (.directory d)).2)

end PosixVfs.FileSystemId
