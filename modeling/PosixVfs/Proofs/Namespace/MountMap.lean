import PosixVfs.Proofs.Namespace.History
import PosixVfs.Proofs.SlotMap

/-!
# Proofs/Namespace/MountMap — a mount table is a bounded map from paths to file systems

Seen from outside, a mount table is a finite map that sends each mount path to its file system
(`MountTable.entries`), and of the slots only their number matters.  `MountMap.refusal?` says from
the map alone which mounts are refused, and why.  All other mounts are put to the file system and
insert one entry if it agrees; an unmount erases one entry, whatever the file system says
(`MountTable.refines_map_history`).
-/

namespace PosixVfs

/-- Mount paths, and the file system that is mounted on each. -/
abbrev MountMap := Finmap fun _ : String => FileSystemId

/-- Why a map with room for `bound` paths refuses one more, if it does.  The path is looked at
first, then whether it is taken, then whether there is room. -/
def MountMap.refusal? (m : MountMap) (bound : Nat) (path : String) : Option Errno :=
  if 64 < Text.size path ∨ Text.startsWith path "/" = false ∨ Text.endsWith path "/" = false then
    some .invalidArgument
  else if path ∈ m then some .busy
  else if m.keys.card = bound then some .noSpace
  else none

namespace MountTable

variable {t : MountTable} {acts : List MountAct} {slot : Nat} {m : Mount} {path : String}
  {s : FileSystemId}

theorem wellFormed_eq_false_iff : wellFormed path = false ↔
    64 < Text.size path ∨ Text.startsWith path "/" = false ∨ Text.endsWith path "/" = false := by
  rw [wellFormed, Bool.and_eq_false_iff, Bool.and_eq_false_iff, decide_eq_false_iff_not,
    Nat.not_le, or_assoc]
  rfl

/-! ## The slots as a map -/

/-- The mount points as a map. -/
def entries (t : MountTable) : MountMap :=
  (t.mounts.map fun m => (⟨m.path.text, m.fileSystem⟩ : Σ _ : String, FileSystemId)).toFinmap

theorem mem_entries_iff : path ∈ t.entries ↔ ∃ i m, t.mount? i = some m ∧ m.path.text = path :=
  Slots.mem_toMap_iff

/-- A path is a key if it is found in the table. -/
theorem position?_eq_none_iff_notMem : t.position? path = none ↔ path ∉ t.entries := by
  rw [position?_eq_none_iff, mem_entries_iff]
  push Not
  rfl

theorem entries_new (n : Nat) : (new n).entries = ∅ := Slots.toMap_replicate_none n

theorem capacity_set (t : MountTable) (slot : Nat) (x : Option Mount) :
    (t.set slot x).capacity = t.capacity := List.length_set

namespace Recorded

variable (h : t.Recorded acts)

include h

/-- **No path is taken twice.** -/
theorem nodup : (t.mounts.map (·.path.text)).Nodup :=
  Slots.nodup_map_filterMap _ h.distinct

/-- What a path is mapped to is what is mounted on it. -/
theorem lookup_entries_iff : t.entries.lookup path = some s ↔
    ∃ i m, t.mount? i = some m ∧ m.path.text = path ∧ m.fileSystem = s :=
  h.distinct_slots.lookup_toMap_iff

/-- The map is full when the slots are. -/
theorem firstFree?_eq_none_iff_card : t.firstFree? = none ↔ t.entries.keys.card = t.capacity :=
  h.distinct_slots.findIdx?_isNone_eq_none_iff_card

end Recorded

/-! ## What becomes of the map -/

/-- `t'` is `t` with `s` mounted on `path` in a slot that was empty. -/
structure Enters (t : MountTable) (path : String) (s : FileSystemId) (t' : MountTable) : Prop where
  entries : t'.entries = t.entries.insert path s
  root : t'.root = t.root
  capacity : t'.capacity = t.capacity
  slots : ∃ slot < t.capacity, t.mount? slot = none ∧
    ∀ i, t'.mount? i = if i = slot then some ⟨.ofString path, s⟩ else t.mount? i

/-- `t'` is `t` without the mount point on `path`, whose slot is empty now. -/
structure Leaves (t : MountTable) (path : String) (t' : MountTable) : Prop where
  entries : t'.entries = t.entries.erase path
  root : t'.root = t.root
  capacity : t'.capacity = t.capacity
  slots : ∃ slot m, t.mount? slot = some m ∧ m.path.text = path ∧
    ∀ i, t'.mount? i = if i = slot then none else t.mount? i

namespace Recorded

variable (h : t.Recorded acts)

include h

/-- **Filling an empty slot** enters one path. -/
theorem enters (hwf : wellFormed path = true) (hnew : path ∉ t.entries)
    (hfree : t.firstFree? = some slot) (s : FileSystemId) :
    t.Enters path s (t.set slot (some ⟨.ofString path, s⟩)) := by
  obtain ⟨hlt, hempty⟩ := of_firstFree? hfree
  have htext : (FixedText.ofString path : FixedText maxMountPath).text = path :=
    FixedText.text_ofString (size_le_of_wellFormed hwf)
  have hentries {m : Mount} (hm : m.path.text ∉ t.entries) :
      (t.set slot (some m)).entries = t.entries.insert m.path.text m.fileSystem :=
    h.distinct_slots.toMap_set_some hlt hempty hm
  refine ⟨?_, rfl, capacity_set _ _ _, slot, hlt, hempty, mount?_set hlt _⟩
  rw [hentries (htext.symm ▸ hnew), htext]

/-- **Emptying a slot** takes out one path. -/
theorem leaves (hm : t.mount? slot = some m) :
    t.Leaves m.path.text (t.set slot none) where
  entries := h.distinct_slots.toMap_set_none hm
  root := rfl
  capacity := capacity_set _ _ _
  slots := ⟨slot, m, hm, rfl, mount?_set (lt_of_mount? hm) _⟩

end Recorded

/-! ## Mounting and unmounting on the map -/

section Outcomes

variable {ε : Type} [Embedder ε] (w : World ε)

namespace Recorded

variable (h : t.Recorded acts)

include h

/-- The map refuses what the table refuses. -/
theorem refusal?_entries : t.entries.refusal? t.capacity path =
    if !wellFormed path then some .invalidArgument
    else if (t.position? path).isSome then some .busy
    else if t.firstFree? = none then some .noSpace
    else none := by
  have hwf : (!wellFormed path) = true ↔
      64 < Text.size path ∨ Text.startsWith path "/" = false ∨ Text.endsWith path "/" = false := by
    rw [Bool.not_eq_true', wellFormed_eq_false_iff]
  have hpos : (t.position? path).isSome = true ↔ path ∈ t.entries := by
    rw [← not_iff_not, Option.not_isSome_iff_eq_none, position?_eq_none_iff_notMem]
  simp only [MountMap.refusal?, hwf, hpos, h.firstFree?_eq_none_iff_card]

/-- **Mounting** is refused for what the map says about the path; otherwise the file system, which
has the disk by then, is asked and decides.  If it refuses, it has no disk afterwards. -/
theorem mount_outcome (s : FileSystemId) (path : String) (disk : Option DiskId)
    (flags : MountFlags) :
    (∃ e log, t.entries.refusal? t.capacity path = some e ∧
      t.mount w s path disk flags = (.error e, t, { w with log })) ∨
    t.entries.refusal? t.capacity path = none ∧ ∃ w',
      ((∃ e, t.mount w s path disk flags = (.error e, t, w') ∧
        (w.setDisk s none).Asked [⟨.mount s disk flags, .error e⟩] w') ∨
      ∃ t', t.mount w s path disk flags = (.ok (), t', w') ∧
        (w.setDisk s disk).Asked [⟨.mount s disk flags, .ok ()⟩] w' ∧ t.Enters path s t') := by
  rw [h.refusal?_entries, MountTable.mount]
  split
  · exact .inl ⟨_, w.log, rfl, rfl⟩
  · next hwf =>
      split
      · exact .inl ⟨_, (w.note (.alreadyMounted path)).log, rfl, rfl⟩
      · next hpos =>
          rcases hfree : t.firstFree? with _ | slot
          · exact .inl ⟨_, w.log, rfl, rfl⟩
          · refine .inr ⟨rfl, ?_⟩
            rw [Bool.not_eq_true, Bool.not_eq_false'] at hwf
            rw [Option.not_isSome_iff_eq_none, position?_eq_none_iff_notMem] at hpos
            have hdisk : (w.setDisk s disk).disk s = disk := assign_self ..
            rcases ha : (w.setDisk s disk).askMount s flags with ⟨e | ⟨⟩, w₁⟩
            · have hasked := (World.Asked.ask ha).setDisk s none
              rw [hdisk, World.setDisk_setDisk] at hasked
              exact ⟨_, .inl ⟨e, rfl, hasked⟩⟩
            · have hasked := World.Asked.ask ha
              rw [hdisk] at hasked
              exact ⟨_, .inr ⟨_, rfl, hasked.note _, h.enters hwf hpos hfree s⟩⟩

/-- **Unmounting** is refused for a path that is no key; otherwise the file system is synced and
told, and gone whatever it answers. -/
theorem umount_outcome (path : String) (flags : MountFlags) :
    path ∉ t.entries ∧ t.umount w path flags = (.error .invalidArgument, t, w) ∨
    ∃ (s : FileSystemId) (synced told : Except Errno Unit) (t' : MountTable) (w' : World ε),
      t.entries.lookup path = some s ∧ t.umount w path flags = (.ok (), t', w') ∧
      (w.setDisk s none).Asked
        [⟨.sync s (w.disk s), synced⟩, ⟨.unmount s (w.disk s) flags, told⟩] w' ∧
      t.Leaves path t' := by
  obtain ⟨hpos, hr⟩ | ⟨slot, m, w', -, hm, rfl, hr, synced, told, hasked⟩ :=
    t.umount_cases w path flags
  · exact .inl ⟨position?_eq_none_iff_notMem.mp hpos, hr⟩
  · have hlookup := h.lookup_entries_iff.mpr ⟨slot, m, hm, rfl, rfl⟩
    exact .inr ⟨m.fileSystem, synced, told, _, w', hlookup, hr, hasked, h.leaves hm⟩

end Recorded

end Outcomes

/-! ## After every history -/

variable {ε : Type} [Embedder ε]

/-- The number of slots never changes. -/
theorem capacity_history (n : Nat) (w : World ε) (acts : List MountAct) :
    (history n w acts).1.capacity = n := by
  refine history_induction (P := fun _ r => r.1.capacity = n) ?_ (fun _ r act h => ?_) acts
  · exact List.length_replicate
  · rcases act with ⟨s, disk, flags⟩ | ⟨s, path, disk, flags⟩ | ⟨path, flags⟩
    · exact h
    · rw [step]
      obtain ⟨e, w', hr⟩ | ⟨slot, w', -, -, -, hr⟩ := r.1.mount_cases r.2 s path disk flags
      · rwa [hr]
      · rwa [hr, capacity_set]
    · rw [step]
      obtain ⟨-, hr⟩ | ⟨slot, m, w', -, -, -, hr, -⟩ := r.1.umount_cases r.2 path flags
      · rwa [hr]
      · rwa [hr, capacity_set]

/-- **A mount table is a bounded map.**  It starts out empty, and after every history of a table of
`n` slots no path is taken twice, so the table is a map.  A mount that the map refuses asks nobody
and changes nothing but the log.  Any other is put to the file system exactly once, which is attached
to the disk when it is asked, and nothing else is asked: if it refuses, its error is the result, the
table stays as it is, and it has no disk; if it agrees, it has the disk, and exactly one entry is
inserted, into an empty slot.  An unmount of a path that is no key asks nobody and changes nothing.
Any other syncs the file system and tells it, in this order, once each, and while it still has its
disk; then the file system has none, and exactly this entry is erased, whatever was answered. -/
theorem refines_map_history (n : Nat) (w₀ : World ε) (acts : List MountAct) :
    let t := (history n w₀ acts).1
    (new n).entries = ∅ ∧ (t.mounts.map (·.path.text)).Nodup ∧
    (∀ path s, t.entries.lookup path = some s ↔
      ∃ m ∈ t.mounts, m.path.text = path ∧ m.fileSystem = s) ∧
    (∀ (w : World ε) (s : FileSystemId) (path : String) (disk : Option DiskId) (flags : MountFlags),
      (∀ e, t.entries.refusal? n path = some e →
        ∃ log, t.mount w s path disk flags = (.error e, t, { w with log })) ∧
      (t.entries.refusal? n path = none →
        ∃ (answer : Except Errno Unit) (t' : MountTable) (w' : World ε),
          t.mount w s path disk flags = (answer, t', w') ∧
          w'.trace = w.trace ++ [⟨.mount s disk flags, answer⟩] ∧
          (∀ e, answer = .error e → t' = t ∧
            (w.setDisk s none).Asked [⟨.mount s disk flags, answer⟩] w') ∧
          (answer = .ok () → t.Enters path s t' ∧
            (w.setDisk s disk).Asked [⟨.mount s disk flags, answer⟩] w'))) ∧
    ∀ (w : World ε) (path : String) (flags : MountFlags),
      (t.umount w path flags = (.error .invalidArgument, t, w) ↔ path ∉ t.entries) ∧
      ∀ s, t.entries.lookup path = some s →
        ∃ (synced told : Except Errno Unit) (t' : MountTable) (w' : World ε),
          t.umount w path flags = (.ok (), t', w') ∧
          w'.trace = w.trace ++ [⟨.sync s (w.disk s), synced⟩, ⟨.unmount s (w.disk s) flags, told⟩] ∧
          (w.setDisk s none).Asked
            [⟨.sync s (w.disk s), synced⟩, ⟨.unmount s (w.disk s) flags, told⟩] w' ∧
          t.Leaves path t' := by
  intro t
  have h : t.Recorded acts := recorded_history n w₀ acts
  have hcap : t.capacity = n := capacity_history n w₀ acts
  refine ⟨entries_new n, h.nodup, fun path s => ?_, fun w s path disk flags => ?_,
    fun w path flags => ?_⟩
  · rw [h.lookup_entries_iff]
    simp only [mem_mounts_iff]
    exact ⟨fun ⟨i, m, hi, hm⟩ => ⟨m, ⟨i, hi⟩, hm⟩, fun ⟨m, ⟨i, hi⟩, hm⟩ => ⟨i, m, hi, hm⟩⟩
  · rw [← hcap]
    obtain ⟨e, log, he, hr⟩ | ⟨hnone, w', ⟨e, hr, hasked⟩ | ⟨t', hr, hasked, henters⟩⟩ :=
      h.mount_outcome w s path disk flags
    · rw [he]
      refine ⟨fun e' heq => ?_, nofun⟩
      obtain rfl := Option.some.inj heq
      exact ⟨log, hr⟩
    · rw [hnone]
      exact ⟨nofun, fun _ =>
        ⟨.error e, t, w', hr, hasked.trace, fun _ _ => ⟨rfl, hasked⟩, nofun⟩⟩
    · rw [hnone]
      exact ⟨nofun, fun _ =>
        ⟨.ok (), t', w', hr, hasked.trace, nofun, fun _ => ⟨henters, hasked⟩⟩⟩
  · obtain ⟨hnot, hr⟩ | ⟨s, synced, told, t', w', hs, hr, hasked, hleaves⟩ :=
      h.umount_outcome w path flags
    · refine ⟨iff_of_true hr hnot, fun s hs => ?_⟩
      exact absurd (Finmap.mem_of_lookup_eq_some hs) hnot
    · refine ⟨iff_of_false ?_ (not_not_intro (Finmap.mem_of_lookup_eq_some hs)), fun s' hs' => ?_⟩
      · rw [hr]
        exact nofun
      · obtain rfl := Option.some.inj (hs.symm.trans hs')
        exact ⟨synced, told, t', w', hr, hasked.trace, hasked, hleaves⟩

end MountTable

end PosixVfs
