import PosixVfs.Descriptor.Perform
import PosixVfs.Posix.Basic

/-!
# Posix/Descriptor — calls that name a descriptor

An operation on a descriptor is carried out on the object bound to it.  Closing frees the descriptor
whatever the object answers.
-/

namespace PosixVfs.Posix

variable {ε : Type} [Embedder ε]

/-- The object bound to a descriptor. -/
def object (p : Posix ε) (fd : Fd) : Except Errno IoId :=
  match p.table.io? fd with
  | some o => .ok o
  | none => .error .badFileDescriptor

/-- Carry out an operation on the object bound to `fd`.  Writing no buffers at all is refused. -/
def onDescriptor (p : Posix ε) (fd : Fd) (op : IoOp) : Except Errno op.Value × Posix ε :=
  track <|
    match p.object fd with
    | .ok o =>
        if op = .writev [] then (.error .invalidArgument, p)
        else p.inWorld (o.perform p.world op)
    | .error e => (.error e, p)

/-- Close a descriptor. -/
def close (p : Posix ε) (fd : Fd) : Except Errno Unit × Posix ε :=
  track <|
    match p.object fd with
    | .ok o => p.inTable (o.close p.table p.world)
    | .error e => (.error e, p)

/-- Close one of many objects; a failure is only logged. -/
def closeOne (s : Table × World ε) (o : IoId) : Table × World ε :=
  let (closed, t, w) := o.close s.1 s.2
  (t, w.noteFailure closed (.closeFailed o.kind))

/-- Close every bound descriptor, in ascending order.  The result is how many there were. -/
def closeAll (p : Posix ε) : Nat × Posix ε :=
  let objects := p.table.bound.map Prod.snd
  let (table, world) := objects.foldl closeOne (p.table, p.world)
  (objects.length, { p with table, world, lastError := none })

end PosixVfs.Posix
