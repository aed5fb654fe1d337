import PosixVfs.Posix.Path
import PosixVfs.Proofs.Posix.Asking
import PosixVfs.Proofs.Slots

/-!
# Proofs/Posix/Syncing — a sync reaches every file system in use once

A file system can be mounted in several slots and be the root as well.  What counts is where it
occurs first (`MountTable.place`): a sync goes through the file systems in this order, so each of
them has its turn once (`MountTable.pairwise_fileSystems`), and a failure keeps nobody behind it
from theirs (`Posix.sync_reaches_each_once`).
-/

namespace PosixVfs

/-! ## The order of the file systems -/

namespace MountTable

/-- Where a file system occurs first: the lowest slot that it is mounted in, and behind all slots if
it is mounted in none. -/
def place (t : MountTable) (s : FileSystemId) : Nat :=
  t.slots.findIdx fun slot => slot.any (·.fileSystem == s)

/-- The file systems in use are those that are mounted somewhere, and the root. -/
theorem mem_fileSystems_iff {t : MountTable} {s : FileSystemId} :
    s ∈ t.fileSystems ↔ (∃ m ∈ t.mounts, m.fileSystem = s) ∨ t.root = some s := by
  rw [fileSystems, List.mem_eraseDups, List.mem_append, List.mem_map, Option.mem_toList]

/-- **The file systems in use** are listed by their places. -/
theorem pairwise_fileSystems (t : MountTable) :
    t.fileSystems.Pairwise fun s s' => t.place s < t.place s' :=
  Slots.pairwise_findIdx_eraseDups Mount.fileSystem t.slots t.root

end MountTable

/-! ## Syncing -/

variable {ε : Type} [Embedder ε]

/-- **Syncing some file systems** asks each of them in turn, whatever those before it answered. -/
theorem MountTable.asked_foldl_syncOne (w : World ε) (order : List FileSystemId) :
    ∃ events, events.map Event.hook = order.map (fun s => Hook.sync s (w.disk s)) ∧
      w.Asked events (order.foldl syncOne w) := by
  induction order generalizing w with
  | nil => exact ⟨[], rfl, .refl w⟩
  | cons s order ih =>
      rcases ha : w.askSync s with ⟨synced, w₁⟩
      have hone : w.Asked [⟨.sync s (w.disk s), synced⟩] (syncOne w s) := by
        rw [syncOne, ha]
        exact (World.Asked.ask ha).noteFailure _ _
      obtain ⟨events, hhooks, hrest⟩ := ih (syncOne w s)
      refine ⟨_, ?_, hone.trans hrest⟩
      rw [List.map_append, hhooks, hone.disk]
      rfl

/-- **A sync reaches every file system in use once.**  These are the file systems that are mounted,
in any number of slots, and the root; they come in the order of the slots in which they occur first,
and a root that is not mounted comes last.  Syncing a mount table asks each of them to sync, in this
order, with its disk attached and whatever the others answer, and asks nothing else; but for the
embedder's answers and the log, the world stays as it is.  So it is with a call to sync, which always
succeeds. -/
theorem Posix.sync_reaches_each_once (p : Posix ε) :
    let t := p.mounts
    ∃ order : List FileSystemId, order.Nodup ∧
      (∀ s, s ∈ order ↔ (∃ m ∈ t.mounts, m.fileSystem = s) ∨ t.root = some s) ∧
      order.Pairwise (fun s s' => t.place s < t.place s') ∧
      (∀ w : World ε, ∃ events, events.map Event.hook = order.map (fun s => .sync s (w.disk s)) ∧
        w.Asked events (t.syncAll w)) ∧
      ∃ events, events.map Event.hook = order.map (fun s => .sync s (p.world.disk s)) ∧
        p.Asked events p.sync ∧ p.sync.lastError = none := by
  intro t
  have hall (w : World ε) : ∃ events,
      events.map Event.hook = t.fileSystems.map (fun s => .sync s (w.disk s)) ∧
      w.Asked events (t.syncAll w) := MountTable.asked_foldl_syncOne w t.fileSystems
  refine ⟨t.fileSystems, ?_, fun s => MountTable.mem_fileSystems_iff, t.pairwise_fileSystems, hall, ?_⟩
  · refine t.pairwise_fileSystems.imp fun {s s'} hlt heq => ?_
    rw [heq] at hlt
    exact Nat.lt_irrefl _ hlt
  · obtain ⟨events, hhooks, hasked⟩ := hall p.world
    exact ⟨events, hhooks, ⟨rfl, rfl, rfl, hasked⟩, rfl⟩

end PosixVfs
