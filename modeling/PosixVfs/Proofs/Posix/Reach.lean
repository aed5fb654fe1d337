import PosixVfs.Proofs.Namespace.History
import PosixVfs.Proofs.Session.Refusal

/-!
# Proofs/Posix/Reach — which mount tables a context can have

A context is built with an empty mount table, and there are three calls that act on it
(`Call.mountAct?`).  All other calls leave it alone (`Posix.mounts_run`), and nothing else can get
at it.  So in every context that can be reached, it contains what was put there, as it does after a
history of its own (`Posix.Reachable.recorded`).
-/

namespace PosixVfs

variable {ε : Type}

/-- What the call does to the mount table, if it does anything to it. -/
def Call.mountAct? : Call → Option MountAct
  | setRoot s disk flags => some (.setRoot s disk flags)
  | mount s path disk flags => some (.mount s path disk flags)
  | umount path flags => some (.umount path flags)
  | _ => none

namespace Posix

variable [Embedder ε] {p p' : Posix ε}

/-- **What a call does to the mount table.** -/
theorem mounts_run (c : Call) (p : Posix ε) : (c.run p).2.mounts =
    c.mountAct?.elim p.mounts fun act => (MountTable.step (p.mounts, p.world) act).1 := by
  cases c with
  | setRoot | mount | umount => exact mounts_track _
  | openPath | openDirectory | socket | accept => exact (mounts_registry_of_acquires rfl).1
  | setSocketPool | sync | closeAll => rfl
  | registerDevice | readDirectory | rewindDirectory | closeDirectory => exact mounts_track _
  | onPath | rename | onSocket =>
      refine (mounts_track _).trans ?_
      split <;> rfl
  | close fd =>
      refine (mounts_track _).trans ?_
      rcases p.object fd with e | o <;> rfl
  | onDescriptor =>
      refine (mounts_track _).trans ?_
      split
      · split <;> rfl
      · rfl

/-- **The contexts that can be reached**: by building one over any world, by calls, and by anything
at all that leaves the mount table alone, such as work on the descriptor table, the registry or the
objects by hand. -/
inductive Reachable : Posix ε → Prop
  | built (c : Capacities) (w : World ε) : Reachable (build c w)
  | called {p : Posix ε} (c : Call) (h : Reachable p) : Reachable (c.run p).2
  | handled {p p' : Posix ε} (h : Reachable p) (hm : p'.mounts = p.mounts) : Reachable p'

namespace Reachable

/-- Raw calls do not lead anywhere else. -/
theorem raw (h : p.Reachable) (s : Syscall) : (s.handle p).2.Reachable := by
  rw [Syscall.handle]
  rcases s.decode with e | c
  · exact h.handled rfl
  · have hclear : Reachable { p with lastError := none } := h.handled rfl
    have hrun := hclear.called c
    rcases hr : c.run { p with lastError := none } with ⟨e | value, p'⟩
    · rw [hr] at hrun
      simp only [hr]
      split
      · exact hrun
      · exact hrun.handled rfl
    · rw [hr] at hrun
      simp only [hr]
      exact hrun

/-- **What the mount table contains was put there.** -/
theorem recorded (h : p.Reachable) : ∃ acts, p.mounts.Recorded acts := by
  induction h with
  | built c w => exact ⟨[], MountTable.recorded_new _⟩
  | called c _ ih =>
      obtain ⟨acts, hacts⟩ := ih
      rw [mounts_run]
      rcases c.mountAct? with _ | act
      · exact ⟨acts, hacts⟩
      · exact ⟨acts ++ [act], hacts.extend act⟩
  | handled _ hm ih => exact hm ▸ ih

end Reachable

end Posix

end PosixVfs
