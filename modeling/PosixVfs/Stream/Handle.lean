import PosixVfs.World.Slots

/-!
# Stream/Handle — reading and closing a directory stream

An open stream is the directory behind it; it has no descriptor.  The directory keeps the entry of
its last read (`World.entry`).  A read hands that entry to the directory to be changed, and keeps
the outcome unless the read fails.
-/

namespace PosixVfs.DirectoryId

variable {ε : Type} [Embedder ε]

/-- The next entry of the stream, or `none` at its end. -/
def read (d : DirectoryId) (w : World ε) : Except Errno (Option Entry) × World ε :=
  let before := w.entry d
  match w.ask (.readDirectory d before) with
  | (⟨changes, .ok more⟩, w) =>
      let entry := before.edits changes
      (.ok (if more then some entry else none), w.setEntry d entry)
  | (⟨_, .error e⟩, w) => (.error e, w)

/-- Start the stream again from its first entry. -/
def rewind (d : DirectoryId) (w : World ε) : Except Errno Unit × World ε :=
  w.ask (.rewindDirectory d)

/-- Close the stream.  The directory's own answer is the result, but in any case it goes back to its
pool. -/
def close (d : DirectoryId) (w : World ε) : Except Errno Unit × World ε :=
  let (answer, w) := w.ask (.closeDirectory d)
  (answer, (w.giveBack (.directory d)).2)

end PosixVfs.DirectoryId
