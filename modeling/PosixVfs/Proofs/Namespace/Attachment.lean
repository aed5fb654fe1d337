import PosixVfs.Proofs.Namespace.MountMap
import PosixVfs.Scripted.Script

/-!
# Proofs/Namespace/Attachment — which disk a file system is attached to

A file system has one disk, however often it is mounted.  The disk is set by whatever touches the
file system (`MountAct.Touches`): it becomes the root, it is asked to be mounted, or one of its
mount points goes.  So its disk is what the last of these made of it, and nothing else matters
(`MountTable.disk_history`).  In particular, the mount points that stay do not keep the disk
(`MountTable.disk_lost_of_alias`).
-/

namespace PosixVfs

variable {ε : Type} [Embedder ε]

namespace MountAct

/-- In a table `t`, the act makes `s` the root, asks it to be mounted, or unmounts a path of it. -/
def Touches (t : MountTable) (s : FileSystemId) : MountAct → Prop
  | setRoot s' _ _ => s' = s
  | mount s' path _ _ => s' = s ∧ t.entries.refusal? t.capacity path = none
  | umount path _ => t.entries.lookup path = some s

/-- What the act comes to. -/
def answer (r : MountTable × World ε) : MountAct → Except Errno Unit
  | setRoot s disk flags => (r.1.setRoot r.2 s disk flags).1
  | mount s path disk flags => (r.1.mount r.2 s path disk flags).1
  | umount path flags => (r.1.umount r.2 path flags).1

/-- The disk that the act leaves the file system with that it touches. -/
def disk : MountAct → Option DiskId
  | setRoot _ disk _ | mount _ _ disk _ => disk
  | umount _ _ => none

/-- Mounting takes place only if the file system agrees; the other acts take place in any case. -/
def TakesPlace (r : MountTable × World ε) : MountAct → Prop
  | act@(mount _ _ _ _) => act.answer r = .ok ()
  | _ => True

end MountAct

namespace MountTable

variable {t t' : MountTable} {s s' : FileSystemId} {acts : List MountAct} {act : MountAct}
  {path : String} {r : MountTable × World ε}

/-- The file system is mounted on some path, or is the root. -/
def InUse (t : MountTable) (s : FileSystemId) : Prop :=
  t.root = some s ∨ ∃ path, t.entries.lookup path = some s

/-! ## One act -/

theorem Enters.of_inUse (h : t.Enters path s' t') (hs : t'.InUse s) : s' = s ∨ t.InUse s := by
  obtain hroot | ⟨q, hq⟩ := hs
  · exact .inr (.inl (h.root ▸ hroot))
  · rw [h.entries] at hq
    by_cases hpath : q = path
    · rw [hpath, Finmap.lookup_insert] at hq
      exact .inl (Option.some.inj hq)
    · rw [Finmap.lookup_insert_of_ne _ hpath] at hq
      exact .inr (.inr ⟨q, hq⟩)

theorem Leaves.of_inUse (h : t.Leaves path t') (hs : t'.InUse s) : t.InUse s := by
  obtain hroot | ⟨q, hq⟩ := hs
  · exact .inl (h.root ▸ hroot)
  · rw [h.entries] at hq
    by_cases hpath : q = path
    · rw [hpath, Finmap.lookup_erase] at hq
      cases hq
    · rw [Finmap.lookup_erase_ne hpath] at hq
      exact .inr ⟨q, hq⟩

namespace Recorded

variable (h : r.1.Recorded acts)

include h

/-- **An act leaves its own disk** with the file system that it touches, if it takes place. -/
theorem disk_of_touches (ht : act.Touches r.1 s) (hp : act.TakesPlace r) :
    (step r act).2.disk s = act.disk := by
  cases act with
  | setRoot s' disk flags =>
      obtain rfl := ht
      exact assign_self ..
  | mount s' path disk flags =>
      obtain ⟨rfl, hnone⟩ := ht
      obtain ⟨e, log, he, -⟩ | ⟨-, w', ⟨e, hr, -⟩ | ⟨t', hr, hasked, -⟩⟩ :=
        h.mount_outcome r.2 s' path disk flags
      · rw [he] at hnone
        cases hnone
      · rw [MountAct.TakesPlace, MountAct.answer, hr] at hp
        cases hp
      · rw [step, hr, hasked.disk]
        exact assign_self ..
  | umount path flags =>
      obtain ⟨hnot, -⟩ | ⟨s', synced, told, t', w', hs', hr, hasked, -⟩ :=
        h.umount_outcome r.2 path flags
      · exact absurd (Finmap.mem_of_lookup_eq_some ht) hnot
      · obtain rfl := Option.some.inj (hs'.symm.trans ht)
        rw [step, hr, hasked.disk]
        exact assign_self ..

/-- **An act that does not touch a file system** leaves it its disk, and does not bring it into
use. -/
theorem step_of_not_touches (ht : ¬ act.Touches r.1 s) :
    (step r act).2.disk s = r.2.disk s ∧ ((step r act).1.InUse s → r.1.InUse s) := by
  cases act with
  | setRoot s' disk flags =>
      refine ⟨assign_of_ne _ _ _ (Ne.symm ht), ?_⟩
      rintro (hroot | hs)
      · exact absurd (Option.some.inj hroot) ht
      · exact .inr hs
  | mount s' path disk flags =>
      obtain ⟨e, log, -, hr⟩ | ⟨hnone, w', ⟨e, hr, hasked⟩ | ⟨t', hr, hasked, henters⟩⟩ :=
        h.mount_outcome r.2 s' path disk flags
      · rw [step, hr]
        exact ⟨rfl, id⟩
      · have hne : s ≠ s' := fun heq => ht ⟨heq.symm, hnone⟩
        rw [step, hr, hasked.disk]
        exact ⟨assign_of_ne _ _ _ hne, id⟩
      · have hne : s ≠ s' := fun heq => ht ⟨heq.symm, hnone⟩
        rw [step, hr, hasked.disk]
        exact ⟨assign_of_ne _ _ _ hne, fun hs => (henters.of_inUse hs).resolve_left hne.symm⟩
  | umount path flags =>
      obtain ⟨-, hr⟩ | ⟨s', synced, told, t', w', hs', hr, hasked, hleaves⟩ :=
        h.umount_outcome r.2 path flags
      · rw [step, hr]
        exact ⟨rfl, id⟩
      · have hne : s ≠ s' := fun heq => ht (heq ▸ hs')
        rw [step, hr, hasked.disk]
        exact ⟨assign_of_ne _ _ _ hne, hleaves.of_inUse⟩

end Recorded

/-! ## A history -/

variable {n : Nat} {w : World ε} {done before after : List MountAct}

theorem history_append_singleton (n : Nat) (w : World ε) (acts : List MountAct) (act : MountAct) :
    history n w (acts ++ [act]) = step (history n w acts) act := by
  rw [history, List.foldl_append]
  rfl

/-- After the acts in `done`, none of those in `after` touches `s`. -/
def Untouched (n : Nat) (w : World ε) (s : FileSystemId) (done after : List MountAct) : Prop :=
  ∀ mid act, mid ++ [act] <+: after → ¬ act.Touches (history n w (done ++ mid)).1 s

theorem Untouched.of_snoc (h : Untouched n w s done (after ++ [act])) :
    Untouched n w s done after ∧ ¬ act.Touches (history n w (done ++ after)).1 s :=
  ⟨fun mid next hmid => h mid next (hmid.trans (List.prefix_append _ _)),
    h after act (List.prefix_refl _)⟩

theorem Untouched.snoc (h : Untouched n w s done after)
    (ht : ¬ act.Touches (history n w (done ++ after)).1 s) :
    Untouched n w s done (after ++ [act]) := by
  intro mid next hmid
  obtain heq | hmid := List.prefix_concat_iff.mp hmid
  · obtain ⟨rfl, rfl⟩ := List.append_singleton_inj.mp heq
    exact ht
  · exact h mid next hmid

/-- As long as nothing touches it, a file system keeps its disk. -/
theorem Untouched.disk (h : Untouched n w s done after) :
    (history n w (done ++ after)).2.disk s = (history n w done).2.disk s := by
  induction after using List.reverseRecOn with
  | nil => rw [List.append_nil]
  | append_singleton after act ih =>
      obtain ⟨hafter, ht⟩ := h.of_snoc
      rw [← List.append_assoc, history_append_singleton, ← ih hafter]
      exact ((recorded_history n w (done ++ after)).step_of_not_touches ht).1

/-- `act` was the last of `acts` that touched `s`. -/
structure LastTouch (n : Nat) (w : World ε) (s : FileSystemId) (acts before : List MountAct)
    (act : MountAct) (after : List MountAct) : Prop where
  eq : acts = before ++ [act] ++ after
  touches : act.Touches (history n w before).1 s
  untouched : Untouched n w s (before ++ [act]) after

/-- A file system that is in use was touched. -/
theorem exists_lastTouch (hs : (history n w acts).1.InUse s) :
    ∃ before act after, LastTouch n w s acts before act after := by
  induction acts using List.reverseRecOn with
  | nil =>
      obtain hroot | ⟨path, hpath⟩ := hs
      · cases hroot
      · rw [history, List.foldl_nil, entries_new] at hpath
        cases hpath
  | append_singleton acts act ih =>
      by_cases ht : act.Touches (history n w acts).1 s
      · refine ⟨acts, act, [], (List.append_nil _).symm, ht, fun mid next hmid => ?_⟩
        simp at hmid
      · rw [history_append_singleton] at hs
        obtain ⟨before, last, after, hlast⟩ :=
          ih (((recorded_history n w acts).step_of_not_touches ht).2 hs)
        obtain rfl := hlast.eq
        exact ⟨before, last, after ++ [act], List.append_assoc _ _ _, hlast.touches,
          hlast.untouched.snoc ht⟩

/-- **Whose word counts.**  After every history, a file system in use was touched by some act, and
has the disk that the last of these left it with: the disk it was made the root with, whatever it
answered, or was mounted with; or none, if what touched it last was the unmounting of one of its
paths, whether or not it is in use on others. -/
theorem disk_history (n : Nat) (w : World ε) (acts : List MountAct) (s : FileSystemId) :
    let r := history n w acts
    (r.1.InUse s → ∃ before act after, LastTouch n w s acts before act after) ∧
    ∀ before act after, LastTouch n w s acts before act after →
      act.TakesPlace (history n w before) → r.2.disk s = act.disk := by
  refine ⟨exists_lastTouch, fun before act after hlast hp => ?_⟩
  obtain rfl := hlast.eq
  rw [hlast.untouched.disk, history_append_singleton]
  exact (recorded_history n w before).disk_of_touches hlast.touches hp

/-- A file system that stays in use does not keep the disk that it was last mounted with when
another of its mount points goes, nor the disk that it was last made the root with when it refuses
to be made the root with another one. -/
theorem disk_lost_of_alias :
    (let w : World Script := { embedder := {} }
      let first := MountAct.mount ⟨0⟩ "/a/" (some ⟨0⟩) ⟨0⟩
      let second := MountAct.mount ⟨0⟩ "/b/" (some ⟨0⟩) ⟨0⟩
      let r := history 2 w [first, second, .umount "/b/" ⟨0⟩]
      first.answer (new 2, w) = .ok () ∧ second.answer (history 2 w [first]) = .ok () ∧
      r.1.mounts = [⟨.ofString "/a/", ⟨0⟩⟩] ∧ r.2.disk ⟨0⟩ ≠ some ⟨0⟩) ∧
    (let script := ({} : Script).enqueue (.fileSystem ⟨0⟩) "mount" [{}, { error := some .busy }]
      let w : World Script := { embedder := script }
      let first := MountAct.setRoot ⟨0⟩ (some ⟨0⟩) ⟨0⟩
      let second := MountAct.setRoot ⟨0⟩ (some ⟨1⟩) ⟨0⟩
      let r := history 1 w [first, second]
      first.answer (new 1, w) = .ok () ∧ second.answer (history 1 w [first]) = .error .busy ∧
      r.1.root = some ⟨0⟩ ∧ r.2.disk ⟨0⟩ ≠ some ⟨0⟩) := by
  decide +kernel

end MountTable

end PosixVfs
