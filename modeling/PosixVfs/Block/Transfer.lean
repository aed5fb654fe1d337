import PosixVfs.World.Basic

/-!
# Block/Transfer — reading and writing the disk behind a file system

A transfer is checked against the geometry of the disk before the disk is asked; one that is refused
reaches no hook.
-/

namespace PosixVfs

namespace DiskId

variable {ε : Type} [Embedder ε]

/-- Check a transfer of `len` bytes from block `start` on against the disk's geometry. -/
def checkTransfer (k : DiskId) (w : World ε) (start len : UInt64) : Except DiskError Unit :=
  (w.catalog.geometry k).check start len

end DiskId

namespace FileSystemId

variable {ε : Type} [Embedder ε]

/-- Ask the disk that the file system is attached to, provided that it lets the transfer through. -/
def transfer (s : FileSystemId) (w : World ε) (start : UInt64) (len : Nat) {α : Type}
    (request : DiskId → World ε → Except DiskError α × World ε) : Except Errno α × World ε :=
  match w.disk s with
  | some k =>
      match k.checkTransfer w start (.ofNat len) with
      | .ok () =>
          let (answer, w) := request k w
          (answer.mapError DiskError.toErrno, w)
      | .error e => (.error e.toErrno, w)
  | none => (.error .notSupported, w)

/-- Read `len` bytes from block `start` on. -/
def readBlocks (s : FileSystemId) (w : World ε) (start : UInt64) (len : Nat) :
    Except Errno Filled × World ε :=
  s.transfer w start len fun k w => w.ask (.readBlocks k start len)

/-- Write `data` from block `start` on. -/
def writeBlocks (s : FileSystemId) (w : World ε) (start : UInt64) (data : Bytes) :
    Except Errno UInt64 × World ε :=
  s.transfer w start data.length fun k w => w.ask (.writeBlocks k start data)

end FileSystemId

end PosixVfs
