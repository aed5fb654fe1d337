import PosixVfs.Namespace.Mounting
import PosixVfs.Proofs.Slots
import PosixVfs.Proofs.Text.Fitting
import PosixVfs.Proofs.World.Asking

/-!
# Proofs/Namespace/History — what a mount table has been through

A mount table starts empty, and then file systems are made the root, mounted and unmounted, in any
order and with any answers (`MountTable.history`).  What it contains was put there: each mount point
has a well-formed path that its file system was mounted on, no path is taken twice, and there is a
root as soon as one was set (`MountTable.recorded_history`).
-/

namespace PosixVfs

variable {ε : Type}

/-- One thing that is done to a mount table. -/
inductive MountAct where
  | setRoot (s : FileSystemId) (disk : Option DiskId) (flags : MountFlags)
  | mount (s : FileSystemId) (path : String) (disk : Option DiskId) (flags : MountFlags)
  | umount (path : String) (flags : MountFlags)

/-- It makes a file system the root. -/
def MountAct.isSetRoot : MountAct → Bool
  | setRoot _ _ _ => true
  | _ => false

namespace MountTable

variable {t : MountTable} {slot i : Nat} {m : Mount} {path : String}

/-! ## Looking at slots -/

theorem mem_mounts_iff : m ∈ t.mounts ↔ ∃ i, t.mount? i = some m := Slots.mem_filterMap_iff

theorem mount?_new (n i : Nat) : (new n).mount? i = none := by
  rw [mount?, new, List.getElem?_replicate]
  split <;> rfl

theorem mount?_set (h : slot < t.capacity) (x : Option Mount) (i : Nat) :
    (t.set slot x).mount? i = if i = slot then x else t.mount? i :=
  Slots.join_set h x i

theorem lt_of_mount? (h : t.mount? i = some m) : i < t.capacity := Slots.lt_of_join h

/-- The lowest empty slot exists and is empty. -/
theorem of_firstFree? (h : t.firstFree? = some slot) :
    slot < t.capacity ∧ t.mount? slot = none := by
  obtain ⟨hlt, hempty, -⟩ := Slots.findIdx?_isNone_iff.mp h
  exact ⟨hlt, hempty⟩

/-- A path is found in the slot of the mount point with this path. -/
theorem of_position? (h : t.position? path = some slot) :
    ∃ m, t.mount? slot = some m ∧ m.path.text = path := by
  obtain ⟨m, hm, hpath⟩ := Slots.exists_of_findIdx?_any h
  exact ⟨m, hm, beq_iff_eq.mp hpath⟩

/-- A path is not found if there is no mount point with this path. -/
theorem position?_eq_none_iff :
    t.position? path = none ↔ ∀ i m, t.mount? i = some m → m.path.text ≠ path := by
  rw [position?, Slots.findIdx?_any_eq_none_iff]
  refine forall_congr' fun i => forall_congr' fun m => imp_congr_right fun _ => ?_
  rw [beq_eq_false_iff_ne]

/-- Paths of mount points are no longer than their buffer. -/
theorem size_le_of_wellFormed (h : wellFormed path = true) : Text.size path ≤ maxMountPath := by
  rw [wellFormed, Bool.and_eq_true, Bool.and_eq_true, decide_eq_true_iff] at h
  exact h.1.1

/-! ## What an operation does to the table -/

variable [Embedder ε]

/-- **Mounting** changes nothing, or enters the file system under a new path into an empty slot. -/
theorem mount_cases (t : MountTable) (w : World ε) (s : FileSystemId) (path : String)
    (disk : Option DiskId) (flags : MountFlags) :
    (∃ e w', t.mount w s path disk flags = (.error e, t, w')) ∨
    ∃ slot w', wellFormed path = true ∧ t.position? path = none ∧ t.firstFree? = some slot ∧
      t.mount w s path disk flags = (.ok (), t.set slot (some ⟨.ofString path, s⟩), w') := by
  rw [mount]
  split
  next => exact .inl ⟨_, _, rfl⟩
  next hwf =>
    split
    next => exact .inl ⟨_, _, rfl⟩
    next hpos =>
      rw [Bool.not_eq_true, Bool.not_eq_false'] at hwf
      rw [Option.not_isSome_iff_eq_none] at hpos
      rcases hfree : t.firstFree? with _ | slot
      · exact .inl ⟨_, _, rfl⟩
      · rcases ha : (w.setDisk s disk).askMount s flags with ⟨e | ⟨⟩, w'⟩
        · exact .inl ⟨e, _, rfl⟩
        · exact .inr ⟨slot, _, hwf, hpos, rfl, rfl⟩

/-- **Unmounting** changes nothing, or empties the slot of the mount point with this path.  Then the
file system was synced and told while it had its disk, and has lost it, whatever it answered. -/
theorem umount_cases (t : MountTable) (w : World ε) (path : String) (flags : MountFlags) :
    (t.position? path = none ∧ t.umount w path flags = (.error .invalidArgument, t, w)) ∨
    ∃ slot m w', t.position? path = some slot ∧ t.mount? slot = some m ∧ m.path.text = path ∧
      t.umount w path flags = (.ok (), t.set slot none, w') ∧
      ∃ synced told : Except Errno Unit, (w.setDisk m.fileSystem none).Asked
        [⟨.sync m.fileSystem (w.disk m.fileSystem), synced⟩,
          ⟨.unmount m.fileSystem (w.disk m.fileSystem) flags, told⟩] w' := by
  rw [umount]
  rcases hpos : t.position? path with _ | slot
  · exact .inl ⟨rfl, rfl⟩
  · obtain ⟨m, hm, hpath⟩ := of_position? hpos
    simp only [hm]
    rcases hs : w.askSync m.fileSystem with ⟨synced, w₁⟩
    have h₁ := (World.Asked.ask hs).noteFailure synced (.unmountSyncFailed path)
    rcases hu : (w₁.noteFailure synced (.unmountSyncFailed path)).askUnmount m.fileSystem flags
      with ⟨told, w₂⟩
    have h₂ := (World.Asked.ask hu).noteFailure told (.unmountFailed path)
    rw [h₁.disk] at h₂
    exact .inr ⟨slot, m, _, rfl, hm, hpath, rfl, synced, told,
      ((h₁.trans h₂).setDisk m.fileSystem none).note _⟩

/-! ## Histories -/

/-- The table and the world after an act. -/
def step (r : MountTable × World ε) : MountAct → MountTable × World ε
  | .setRoot s disk flags => (r.1.setRoot r.2 s disk flags).2
  | .mount s path disk flags => (r.1.mount r.2 s path disk flags).2
  | .umount path flags => (r.1.umount r.2 path flags).2

/-- A table of `n` slots that was empty when the world was `w`, and the world, after some acts. -/
def history (n : Nat) (w : World ε) (acts : List MountAct) : MountTable × World ε :=
  acts.foldl step (.new n, w)

/-- Where a history has come to, by induction on what was done last. -/
theorem history_induction {P : List MountAct → MountTable × World ε → Prop} {n : Nat}
    {w : World ε} (hnew : P [] (new n, w))
    (hstep : ∀ acts r act, P acts r → P (acts ++ [act]) (step r act)) (acts : List MountAct) :
    P acts (history n w acts) := by
  have hfrom : ∀ (rest done : List MountAct) (r : MountTable × World ε), P done r →
      P (done ++ rest) (rest.foldl step r) := by
    intro rest
    induction rest with
    | nil =>
        intro done r h
        rwa [List.append_nil]
    | cons act rest ih =>
        intro done r h
        have hrest := ih (done ++ [act]) (step r act) (hstep done r act h)
        rwa [List.append_assoc] at hrest
  exact hfrom acts [] _ hnew

/-- What the table contains is what was put there by the acts. -/
structure Recorded (t : MountTable) (acts : List MountAct) : Prop where
  mounted : ∀ i m, t.mount? i = some m → ∃ path disk flags,
    MountAct.mount m.fileSystem path disk flags ∈ acts ∧ wellFormed path = true ∧
      m.path = .ofString path
  distinct : ∀ i j m m', t.mount? i = some m → t.mount? j = some m' →
    m.path.text = m'.path.text → i = j
  root : t.root = none ↔ ∀ act ∈ acts, act.isSetRoot = false

namespace Recorded

variable {acts : List MountAct} {act : MountAct}

theorem distinct_slots (h : t.Recorded acts) :
    Slots.Distinct (fun m : Mount => m.path.text) t.slots := h.distinct

/-- An act that leaves the table alone, and is no setting of a root, makes no difference. -/
theorem skip (h : t.Recorded acts) (hact : act.isSetRoot = false) :
    t.Recorded (acts ++ [act]) where
  mounted i m hm := by
    obtain ⟨path, disk, flags, hmem, hpath⟩ := h.mounted i m hm
    exact ⟨path, disk, flags, List.mem_append_left _ hmem, hpath⟩
  distinct := h.distinct
  root := by
    rw [h.root]
    simp [or_imp, forall_and, hact]

theorem setRoot (h : t.Recorded acts) (s : FileSystemId) (hact : act.isSetRoot = true) :
    Recorded { t with root := some s } (acts ++ [act]) where
  mounted i m hm := by
    obtain ⟨path, disk, flags, hmem, hpath⟩ := h.mounted i m hm
    exact ⟨path, disk, flags, List.mem_append_left _ hmem, hpath⟩
  distinct := h.distinct
  root := by simp [or_imp, forall_and, hact]

theorem mount (h : t.Recorded acts) {s : FileSystemId} {disk : Option DiskId} {flags : MountFlags}
    (hwf : wellFormed path = true) (hpos : t.position? path = none)
    (hfree : t.firstFree? = some slot) :
    (t.set slot (some ⟨.ofString path, s⟩)).Recorded (acts ++ [.mount s path disk flags]) := by
  obtain ⟨hlt, hempty⟩ := of_firstFree? hfree
  have hnew : ∀ i m, t.mount? i = some m →
      m.path.text ≠ (FixedText.ofString path : FixedText maxMountPath).text := by
    rw [FixedText.text_ofString (size_le_of_wellFormed hwf)]
    exact position?_eq_none_iff.mp hpos
  refine ⟨fun i m hm => ?_, h.distinct_slots.set_some hlt hnew, (h.skip rfl).root⟩
  rw [mount?_set hlt] at hm
  split at hm
  · obtain rfl := Option.some.inj hm
    exact ⟨path, disk, flags, List.mem_append_right _ (List.mem_singleton_self _), hwf, rfl⟩
  · exact (h.skip rfl).mounted i m hm

theorem umount (h : t.Recorded acts) {flags : MountFlags} (hm : t.mount? slot = some m) :
    (t.set slot none).Recorded (acts ++ [.umount path flags]) := by
  have hlt := lt_of_mount? hm
  refine ⟨fun i m' hm' => ?_, h.distinct_slots.set_none hlt, (h.skip rfl).root⟩
  rw [mount?_set hlt] at hm'
  split at hm'
  · cases hm'
  · exact (h.skip rfl).mounted i m' hm'

end Recorded

/-- Every act is recorded. -/
theorem Recorded.extend {r : MountTable × World ε} {acts : List MountAct} (h : r.1.Recorded acts)
    (act : MountAct) : (step r act).1.Recorded (acts ++ [act]) := by
  rcases act with ⟨s, disk, flags⟩ | ⟨s, path, disk, flags⟩ | ⟨path, flags⟩
  · exact h.setRoot s rfl
  · rw [step]
    obtain ⟨e, w', hr⟩ | ⟨slot, w', hwf, hpos, hfree, hr⟩ := r.1.mount_cases r.2 s path disk flags
    · rw [hr]
      exact h.skip rfl
    · rw [hr]
      exact h.mount hwf hpos hfree
  · rw [step]
    obtain ⟨-, hr⟩ | ⟨slot, m, w', -, hm, -, hr, -⟩ := r.1.umount_cases r.2 path flags
    · rw [hr]
      exact h.skip rfl
    · rw [hr]
      exact h.umount hm

/-- An empty table has nothing on record. -/
theorem recorded_new (n : Nat) : (new n).Recorded [] := by
  refine ⟨fun i m hm => ?_, fun i j m m' hm => ?_, by simp [new]⟩
  all_goals
    rw [mount?_new] at hm
    cases hm

/-- **What a table contains was put there**, after every history. -/
theorem recorded_history (n : Nat) (w : World ε) (acts : List MountAct) :
    (history n w acts).1.Recorded acts :=
  history_induction (P := fun acts r => r.1.Recorded acts) (recorded_new n)
    (fun _ _ act h => h.extend act) acts

end MountTable

end PosixVfs
