import PosixVfs.Descriptor.Table

/-!
# Descriptor/Binding — the life of an open object

An object that was opened is bound to a descriptor by `register`; if the table refuses it, the
opening is undone.  `close` asks the object to close, and then unbinds it and gives it back to its
pool whatever the object answered.
-/

namespace PosixVfs.IoId

variable {ε : Type} [Embedder ε]

/-- Bind an opened object to the lowest free descriptor.  If the table refuses, the object is
closed.  An object that is already bound stays so; any other is unbound and goes back to its pool.
-/
def register (o : IoId) (t : Table) (w : World ε) : Except Errno Fd × Table × World ε :=
  match t.alloc w o with
  | (.ok fd, t, w) => (.ok fd, t, w)
  | (.error cause, t, w) =>
      let (answer, w) := (w.note (.rollback o.kind cause)).ask (.closing o)
      let w := w.noteFailure answer .rollbackCloseFailed
      if cause = .busy then (.error cause, t, w)
      else (.error cause, t, ((w.setDescriptor o none).giveBack (.io o)).2)

/-- Unbind the object from the descriptor it has, if it has one. -/
def unbind (o : IoId) (t : Table) (w : World ε) : Table × World ε :=
  match w.descriptor o with
  | none => (t, w)
  | some fd =>
      let (freed, t, w) := t.free w fd
      (t, (w.noteFailure freed fun _ => .notBoundInTable fd).setDescriptor o none)

/-- Close the object.  Its own answer is the result, but in any case it is unbound and goes back to
its pool. -/
def close (o : IoId) (t : Table) (w : World ε) : Except Errno Unit × Table × World ε :=
  let (answer, w) := w.ask (.closing o)
  let (t, w) := o.unbind t w
  (answer, t, (w.giveBack (.io o)).2)

end PosixVfs.IoId
