import PosixVfs.Proofs.Posix.Record
import PosixVfs.Proofs.World.Asking

/-!
# Proofs/Posix/Asking — calls that only ask

A call that only asks leaves the context as it was, but for the embedder's own state, the log and
the record of how the call ended (`Posix.Asked`).  `Posix.EndsBy` is all there is to say about such
a call: what was asked, and what came of it.
-/

namespace PosixVfs.Posix

variable {ε α : Type} [Embedder ε]

/-- The hooks in `events` were called, with these answers, and something may have been logged; but
for the error of the last call, all else is in `p'` as it is in `p`. -/
structure Asked (p : Posix ε) (events : List Event) (p' : Posix ε) : Prop where
  table : p'.table = p.table
  mounts : p'.mounts = p.mounts
  registry : p'.registry = p.registry
  world : p.world.Asked events p'.world

/-- A call on `p` with this outcome has this result, and did nothing but to call these hooks. -/
def EndsBy (p : Posix ε) (events : List Event) (result : Except Errno α)
    (outcome : Except Errno α × Posix ε) : Prop :=
  outcome.1 = result ∧ p.Asked events outcome.2

variable {p : Posix ε} {events : List Event} {result : Except Errno α}
  {outcome : Except Errno α × Posix ε}

/-- Recording how the call ended is nothing else. -/
theorem EndsBy.track (h : p.EndsBy events result outcome) :
    p.EndsBy events result (Posix.track outcome) := by
  obtain ⟨rfl, ht, hm, hr, hw⟩ := h
  refine ⟨fst_track outcome, ?_⟩
  rcases outcome with ⟨e | a, p'⟩
  · exact ⟨ht, hm, hr, hw.note _⟩
  · exact ⟨ht, hm, hr, hw⟩

/-- A call that is refused asks nothing. -/
theorem endsBy_refused (p : Posix ε) (e : Errno) :
    p.EndsBy [] (.error e : Except Errno α) (Posix.track (.error e, p)) :=
  EndsBy.track ⟨rfl, rfl, rfl, rfl, .refl _⟩

/-- A call that asks in its world does nothing else. -/
theorem endsBy_inWorld {w : World ε} (h : p.world.Asked events w) (result : Except Errno α) :
    p.EndsBy events result (Posix.track (p.inWorld (result, w))) :=
  EndsBy.track ⟨rfl, rfl, rfl, rfl, h⟩

end PosixVfs.Posix
