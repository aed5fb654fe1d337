import PosixVfs.Descriptor.Perform
import PosixVfs.Proofs.World.Asking

/-!
# Proofs/Descriptor/Gathering — buffers that are written one by one

An object without a hook for several buffers is asked to write them in order, until it fails.
`IoId.Gathered` lists the two ways in which that ends, with all that was asked, and `IoId.gathered`
says that there is no third.
-/

namespace PosixVfs.IoId

/-- The object was asked to write these buffers, and reported these counts. -/
def writes (o : IoId) (buffers : List Bytes) (counts : List UInt64) : List Event :=
  buffers.zipWith (fun data n => ⟨.io o (.write data), .ok n⟩) counts

/-- How writing buffers one by one ends: all are written, and the counts added up; or those before
`data` are written, and `data` fails. -/
inductive Gathered (o : IoId) (buffers : List Bytes) : List Event → Except Errno UInt64 → Prop
  | all (counts : List UInt64) (h : counts.length = buffers.length) :
      Gathered o buffers (o.writes buffers counts) (.ok (counts.foldr (· + ·) 0))
  | upTo (done : List Bytes) (data : Bytes) (rest : List Bytes) (counts : List UInt64) (e : Errno)
      (hb : buffers = done ++ data :: rest) (h : counts.length = done.length) :
      Gathered o buffers (o.writes done counts ++ [⟨.io o (.write data), .error e⟩]) (.error e)

variable {ε : Type} [Embedder ε]

/-- **Writing one by one** asks for nothing but the writes, and ends in one of the two ways. -/
theorem gathered (o : IoId) (w : World ε) (buffers : List Bytes) : ∃ events,
    w.Asked events (o.gather w buffers).2 ∧ o.Gathered buffers events (o.gather w buffers).1 := by
  induction buffers generalizing w with
  | nil => exact ⟨[], .refl w, .all [] rfl⟩
  | cons data rest ih =>
      rw [gather]
      rcases ha : w.ask (.io o (.write data)) with ⟨e | n, w₁⟩
      · exact ⟨_, .ask ha, .upTo [] data rest [] e rfl rfl⟩
      · obtain ⟨events, hrest, hg⟩ := ih w₁
        -- The first write comes before those of the remaining buffers, however these ended.
        refine ⟨⟨.io o (.write data), .ok n⟩ :: events, ?_⟩
        rcases hr : o.gather w₁ rest with ⟨result, w₂⟩
        rw [hr] at hrest hg
        cases hg with
        | all counts h =>
            simp only [hr]
            exact ⟨(World.Asked.ask ha).trans hrest, .all (n :: counts) (congrArg Nat.succ h)⟩
        | upTo done data' rest' counts e hb h =>
            simp only [hr]
            exact ⟨(World.Asked.ask ha).trans hrest,
              .upTo (data :: done) data' rest' (n :: counts) e (congrArg (data :: ·) hb)
                (congrArg Nat.succ h)⟩

end PosixVfs.IoId
