import PosixVfs.World.Basic

/-!
# Descriptor/Perform — carrying out an operation on an object

An operation is the object's own affair, with one exception: an object without a hook for writing
several buffers gets them one by one (`IoId.gather`).
-/

namespace PosixVfs.IoId

variable {ε : Type} [Embedder ε]

/-- Write the buffers one by one up to the first failure.  The result is the sum of the counts, as a
word. -/
def gather (o : IoId) (w : World ε) : List Bytes → Except Errno UInt64 × World ε
  | [] => (.ok 0, w)
  | data :: rest =>
      match w.ask (.io o (.write data)) with
      | (.error e, w) => (.error e, w)
      | (.ok n, w) =>
          match gather o w rest with
          | (.error e, w) => (.error e, w)
          | (.ok m, w) => (.ok (n + m), w)

/-- Carry out an operation. -/
def perform (o : IoId) (w : World ε) : (op : IoOp) → Except Errno op.Value × World ε
  | .writev buffers =>
      if w.catalog.gathers o then w.ask (.io o (.writev buffers)) else o.gather w buffers
  | op => w.ask (.io o op)

end PosixVfs.IoId
