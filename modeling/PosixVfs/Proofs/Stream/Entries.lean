import PosixVfs.Proofs.Descriptor.Gathering
import PosixVfs.Proofs.Posix.Acquisition
import PosixVfs.Proofs.Posix.LastError
import PosixVfs.Proofs.Posix.Syncing

/-!
# Proofs/Stream/Entries — nothing but a reading changes an entry

A directory keeps the entry of its last reading across everything else that is done in between:
streams may be closed and opened on it, slots taken and given back, file systems mounted and
unmounted.  `Call.entry_run` says so of every call, and the lemmas before it of the functions that
the calls are made of.
-/

namespace PosixVfs

variable {ε : Type}

namespace World

variable (w : World ε)

@[simp] theorem entry_noteFailure {α : Type} (r : Except Errno α) (record : Errno → LogRecord) :
    (w.noteFailure r record).entry = w.entry := by
  cases r <;> rfl

@[simp] theorem entry_acquireLinked (p : PoolId) : (w.acquireLinked p).2.entry = w.entry := by
  obtain ⟨-, hr⟩ | ⟨slot, -, hr⟩ := w.acquireLinked_cases p <;> rw [hr] <;> rfl

@[simp] theorem entry_giveBack (x : ObjectId) : (w.giveBack x).2.entry = w.entry := by
  rw [giveBack]
  obtain ⟨log, -, hr⟩ | ⟨p, slot, -, -, -, -, hr⟩ := w.releaseLink_cases x x <;> rw [hr] <;> rfl

variable [Embedder ε] {w} {w' : World ε}

/-- Asking leaves the entries alone. -/
theorem Asked.entry {events : List Event} (h : w.Asked events w') : w'.entry = w.entry := by
  rw [h.rest]

theorem entry_of_ask {q : Hook} {r : q.Reply} (h : w.ask q = (r, w')) : w'.entry = w.entry :=
  (Asked.ask h).entry

end World

namespace Table

variable (t : Table) (w : World ε)

theorem entry_alloc (o : IoId) : (t.alloc w o).2.2.entry = w.entry := by
  obtain ⟨fd, -, hr⟩ | ⟨-, -, hr⟩ | ⟨i, -, -, hr⟩ := t.alloc_cases w o <;> rw [hr] <;> rfl

theorem entry_free (fd : Fd) : (t.free w fd).2.2.entry = w.entry := by
  obtain ⟨-, hr⟩ | ⟨i, o, -, -, hr⟩ := t.free_cases w fd <;> rw [hr]
  rfl

end Table

theorem Registry.entry_register (r : Registry) (w : World ε) (d : DeviceId) :
    (r.register w d).2.2.entry = w.entry := by
  rw [register]
  split
  · rfl
  split
  · rfl
  split <;> rfl

namespace Posix

theorem entry_track {α : Type} (r : Except Errno α × Posix ε) :
    (track r).2.world.entry = r.2.world.entry := by
  rcases r with ⟨_ | _, p⟩ <;> rfl

theorem entry_freshSocket (p : Posix ε) : p.freshSocket.2.entry = p.world.entry := by
  rw [freshSocket]
  split
  · exact World.entry_acquireLinked _ _
  · rfl

end Posix

variable [Embedder ε]

namespace IoId

variable (o : IoId) (t : Table) (w : World ε)

theorem entry_close : (o.close t w).2.2.entry = w.entry := by
  rcases ha : w.ask (.closing o) with ⟨answer, w₁⟩
  rw [close, ha]
  simp only [World.entry_giveBack]
  rw [unbind, ← World.entry_of_ask ha]
  rcases w₁.descriptor o with _ | fd
  · rfl
  · rw [← t.entry_free w₁ fd]
    exact World.entry_noteFailure _ _ _

theorem entry_register : (o.register t w).2.2.entry = w.entry := by
  have halloc := t.entry_alloc w o
  rw [register]
  rcases hr : t.alloc w o with ⟨e | fd, t', w₁⟩
  · rw [hr] at halloc
    rcases ha : (w₁.note (.rollback o.kind e)).ask (.closing o) with ⟨answer, w₂⟩
    have hask : w₂.entry = w.entry := (World.entry_of_ask ha).trans halloc
    simp only [ha]
    split
    · rw [World.entry_noteFailure, hask]
    · rw [World.entry_giveBack, ← hask]
      exact World.entry_noteFailure _ _ _
  · rw [hr] at halloc
    exact halloc

theorem entry_perform (op : IoOp) : (o.perform w op).2.entry = w.entry := by
  cases op with
  | writev buffers =>
      rw [perform]
      split
      · rfl
      · obtain ⟨events, hasked, -⟩ := o.gathered w buffers
        exact hasked.entry
  | _ => rfl

end IoId

namespace FileSystemId

variable (s : FileSystemId) (w : World ε) (path : String)

theorem entry_openFile (flags : OpenFlags) (mode : Mode) :
    (s.openFile w path flags mode).2.entry = w.entry := by
  rw [openFile]
  split
  · rfl
  next pool _ =>
    have htake : (w.acquireFile pool).2.entry = w.entry := w.entry_acquireLinked _
    rcases hr : w.acquireFile pool with ⟨_ | f, w₁⟩ <;> rw [hr] at htake
    · exact htake
    · rcases ha : w₁.ask (.opening (.file f) path flags mode) with ⟨e | ⟨⟩, w₂⟩
      · simp only [ha, World.entry_giveBack]
        exact (World.entry_of_ask ha).trans htake
      · simp only [ha]
        exact (World.entry_of_ask ha).trans htake

theorem entry_openDirectory : (s.openDirectory w path).2.entry = w.entry := by
  rw [openDirectory]
  split
  · rfl
  next pool _ =>
    have htake : (w.acquireDirectory pool).2.entry = w.entry := w.entry_acquireLinked _
    rcases hr : w.acquireDirectory pool with ⟨_ | d, w₁⟩ <;> rw [hr] at htake
    · exact htake
    · rcases ha : w₁.ask (.openDirectory d path) with ⟨e | ⟨⟩, w₂⟩
      · simp only [ha, World.entry_giveBack]
        exact (World.entry_of_ask ha).trans htake
      · simp only [ha]
        exact (World.entry_of_ask ha).trans htake

end FileSystemId

namespace MountTable

variable (t : MountTable) (w : World ε)

theorem entry_mount (s : FileSystemId) (path : String) (disk : Option DiskId)
    (flags : MountFlags) : (t.mount w s path disk flags).2.2.entry = w.entry := by
  rw [mount]
  split
  · rfl
  split
  · rfl
  split
  · rfl
  rcases ha : (w.setDisk s disk).askMount s flags with ⟨e | ⟨⟩, w₁⟩
  all_goals
    have hask : w₁.entry = (w.setDisk s disk).entry := World.entry_of_ask ha
    exact hask

theorem entry_umount (path : String) (flags : MountFlags) :
    (t.umount w path flags).2.2.entry = w.entry := by
  rw [umount]
  split
  · rfl
  split
  · rfl
  · change World.entry (World.noteFailure _ _ _) = _
    rw [World.entry_noteFailure]
    exact World.entry_noteFailure _ _ _

theorem entry_syncAll : (t.syncAll w).entry = w.entry := by
  obtain ⟨events, -, hasked⟩ := asked_foldl_syncOne w t.fileSystems
  exact hasked.entry

end MountTable

namespace Posix

variable (p : Posix ε)

theorem entry_openObject (path : String) (flags : OpenFlags) (mode : Mode) :
    (p.openObject path flags mode).2.entry = p.world.entry := by
  rw [openObject]
  split
  · rfl
  split
  next d _ =>
    rcases ha : p.world.ask (.opening (.device d) path flags mode) with ⟨e | ⟨⟩, w₁⟩ <;>
      exact World.entry_of_ask ha
  split
  · rfl
  · exact FileSystemId.entry_openFile _ _ _ _ _

theorem entry_socket (domain kind protocol : Int32) :
    (p.socket domain kind protocol).2.world.entry = p.world.entry := by
  rw [socket, entry_track, inTable]
  have hfresh := p.entry_freshSocket
  rcases hr : p.freshSocket with ⟨_ | s, w₁⟩ <;> rw [hr] at hfresh
  · exact hfresh
  · rcases ha : w₁.ask (.create s domain kind protocol) with ⟨e | ⟨⟩, w₂⟩
    · simp only [ha, World.entry_noteFailure, IoId.entry_close]
      exact (World.entry_of_ask ha).trans hfresh
    · simp only [ha, IoId.entry_register]
      exact (World.entry_of_ask ha).trans hfresh

theorem entry_accept (fd : Fd) : (p.accept fd).2.world.entry = p.world.entry := by
  rw [accept, entry_track]
  split
  · rfl
  next listener _ =>
    have hfresh := p.entry_freshSocket
    rw [inTable]
    rcases hr : p.freshSocket with ⟨_ | s, w₁⟩ <;> rw [hr] at hfresh
    · exact hfresh
    · rcases ha : w₁.ask (.accept listener s) with ⟨e | peer, w₂⟩
      · simp only [ha, World.entry_giveBack]
        exact (World.entry_of_ask ha).trans hfresh
      · simp only [ha, IoId.entry_register]
        exact (World.entry_of_ask ha).trans hfresh

theorem entry_closeAll : p.closeAll.2.world.entry = p.world.entry := by
  refine p.closeAll_induction (P := fun _ w => w.entry = p.world.entry) (fun t w o hw => ?_) rfl
  rw [closeOne, World.entry_noteFailure, IoId.entry_close, hw]

end Posix

/-- **No call but a reading** changes the entry of any directory. -/
theorem Call.entry_run {c : Call} (hc : ∀ d, c ≠ .readDirectory d) (p : Posix ε) :
    (c.run p).2.world.entry = p.world.entry := by
  cases c with
  | readDirectory d => exact absurd rfl (hc d)
  | setSocketPool pool => rfl
  | sync => exact p.mounts.entry_syncAll p.world
  | closeAll => exact p.entry_closeAll
  | socket domain kind protocol => exact p.entry_socket domain kind protocol
  | accept fd => exact p.entry_accept fd
  | setRoot | rewindDirectory => exact Posix.entry_track _
  | mount s path disk flags => exact (Posix.entry_track _).trans (p.mounts.entry_mount _ _ _ _ _)
  | umount path flags => exact (Posix.entry_track _).trans (p.mounts.entry_umount _ _ _)
  | registerDevice d => exact (Posix.entry_track _).trans (p.registry.entry_register _ _)
  | closeDirectory d => exact (Posix.entry_track _).trans (World.entry_giveBack _ _)
  | openPath path flags mode =>
      have hopen := p.entry_openObject path flags mode
      refine (Posix.entry_track _).trans ?_
      rcases hr : p.openObject path flags mode with ⟨e | o, w₁⟩ <;> rw [hr] at hopen
      · exact hopen
      · exact (IoId.entry_register _ _ _).trans hopen
  | openDirectory path =>
      refine (Posix.entry_track _).trans ?_
      split
      · exact FileSystemId.entry_openDirectory _ _ _
      · rfl
  | onPath | rename | onSocket =>
      refine (Posix.entry_track _).trans ?_
      split <;> rfl
  | close fd =>
      refine (Posix.entry_track _).trans ?_
      split
      · exact IoId.entry_close _ _ _
      · rfl
  | onDescriptor fd op =>
      refine (Posix.entry_track _).trans ?_
      split
      · split
        · rfl
        · exact IoId.entry_perform _ _ _
      · rfl

end PosixVfs
