import PosixVfs.Posix.Call
import PosixVfs.Proofs.World.Surplus

/-!
# Proofs/Posix/Untouched — the calls that leave table and books alone

Most calls look up who owns a path or a descriptor, and ask that object.  Such a call leaves the
descriptor table and the books untouched, and nothing open behind it (`Call.untouched_of_isPlain`);
the calls that open, close and accept are the only others.
-/

namespace PosixVfs

variable {ε : Type} {α : Type}

/-! ## Recording how a call ended -/

namespace Posix

/-- Building a context writes two records and does nothing else to the world. -/
theorem after_build (c : Capacities) (w : World ε) : w.After [] w.books (build c w).world :=
  ((World.After.refl w).note rfl).note rfl

section Track

variable (r : Except Errno α × Posix ε)

@[simp] theorem table_track : (track r).2.table = r.2.table := by
  rcases r with ⟨_ | _, p⟩ <;> rfl

@[simp] theorem mounts_track : (track r).2.mounts = r.2.mounts := by
  rcases r with ⟨_ | _, p⟩ <;> rfl

@[simp] theorem registry_track : (track r).2.registry = r.2.registry := by
  rcases r with ⟨_ | _, p⟩ <;> rfl

/-- Recording how a call ended is no event, and not in the books. -/
theorem after_track {w : World ε} {events : List Event} {b : Books}
    (h : w.After events b r.2.world) : w.After events b (track r).2.world := by
  rcases r with ⟨_ | _, p⟩
  · exact h.note rfl
  · exact h

end Track

/-- Descriptor table and books are the same in both, and what was opened in between was closed. -/
structure Untouched (p p' : Posix ε) : Prop where
  table : p'.table = p.table
  restores : p.world.Restores p'.world

namespace Untouched

variable {p p' : Posix ε}

theorem refl (p : Posix ε) : p.Untouched p := ⟨rfl, .refl _⟩

theorem track {r : Except Errno α × Posix ε} (h : p.Untouched r.2) :
    p.Untouched (Posix.track r).2 :=
  ⟨(table_track r).trans h.table,
    h.restores.imp fun _ hr => hr.imp_left fun ha => after_track r ha⟩

/-- Recording a failure touches nothing. -/
theorem refused (h : p.Untouched p') (e : Errno) : ∃ e' p'',
    Posix.track ((.error e, p') : Except Errno α × Posix ε) = (.error e', p'') ∧ p.Untouched p'' :=
  ⟨e, _, rfl, track (r := ((.error e, p') : Except Errno α × Posix ε)) h⟩

theorem books (h : p.Untouched p') : p'.world.books = p.world.books :=
  h.restores.elim fun _ hr => hr.1.books

end Untouched

end Posix

/-! ## What is asked, and nothing else -/

theorem Registry.restores_register (r : Registry) (w : World ε) (d : DeviceId) :
    w.Restores (r.register w d).2.2 := by
  have h := World.Restores.refl w
  rw [register]
  split
  · exact h
  split
  · exact h
  split
  · exact h
  · exact h.note rfl

variable [Embedder ε]

theorem World.Restores.gather {w w' : World ε} (h : w.Restores w') (o : IoId)
    (buffers : List Bytes) : w.Restores (o.gather w' buffers).2 := by
  induction buffers generalizing w' with
  | nil => exact h
  | cons data rest ih =>
      rw [IoId.gather]
      rcases ha : w'.ask (.io o (.write data)) with ⟨_ | n, w₁⟩
      · exact h.ask rfl ha
      · have hrest := ih (h.ask rfl ha)
        rcases hr : o.gather w₁ rest with ⟨_ | m, w₂⟩
        · rw [hr] at hrest
          simpa only [hr] using hrest
        · rw [hr] at hrest
          simpa only [hr] using hrest

theorem World.Restores.perform {w w' : World ε} (h : w.Restores w') (o : IoId) (op : IoOp) :
    w.Restores (o.perform w' op).2 := by
  cases op with
  | writev buffers =>
      rw [IoId.perform]
      split
      · exact h.ask rfl rfl
      · exact h.gather o buffers
  | _ => exact h.ask rfl rfl

namespace MountTable

variable (t : MountTable) (w : World ε)

theorem restores_setRoot (s : FileSystemId) (disk : Option DiskId) (flags : MountFlags) :
    w.Restores (t.setRoot w s disk flags).2.2 :=
  (((World.Restores.refl w).note (r := .rootSet flags) rfl).setDisk s disk).ask rfl rfl

theorem restores_mount (s : FileSystemId) (path : String) (disk : Option DiskId)
    (flags : MountFlags) : w.Restores (t.mount w s path disk flags).2.2 := by
  have h := World.Restores.refl w
  rw [mount]
  split
  · exact h
  split
  · exact h.note rfl
  split
  · exact h
  rcases ha : (w.setDisk s disk).askMount s flags with ⟨_ | _, w₁⟩
  · exact ((h.setDisk s disk).ask rfl ha).setDisk s none
  · exact ((h.setDisk s disk).ask rfl ha).note rfl

theorem restores_umount (path : String) (flags : MountFlags) :
    w.Restores (t.umount w path flags).2.2 := by
  have h := World.Restores.refl w
  rw [umount]
  split
  · exact h
  split
  · exact h
  next m _ =>
    rcases ha : w.askSync m.fileSystem with ⟨synced, w₁⟩
    have h₁ := (h.ask rfl ha).noteFailure synced (f := .unmountSyncFailed path) fun _ => rfl
    rcases hb : (w₁.noteFailure synced (.unmountSyncFailed path)).askUnmount m.fileSystem
      flags with ⟨told, w₂⟩
    have h₂ := (h₁.ask rfl hb).noteFailure told (f := .unmountFailed path) fun _ => rfl
    simp only [hb]
    exact (h₂.setDisk m.fileSystem none).note rfl

theorem restores_syncAll : w.Restores (t.syncAll w) := by
  have hfold : ∀ (l : List FileSystemId) (w' : World ε), w.Restores w' →
      w.Restores (l.foldl syncOne w') := by
    intro l
    induction l with
    | nil => exact fun w' h => h
    | cons s l ih =>
        intro w' h
        exact ih _ ((h.ask (q := .sync s (w'.disk s)) rfl rfl).noteFailure _ fun _ => rfl)
  exact hfold t.fileSystems w (.refl w)

end MountTable

theorem DirectoryId.restores_read (d : DirectoryId) (w : World ε) : w.Restores (d.read w).2 := by
  rw [read]
  rcases ha : w.ask (.readDirectory d (w.entry d)) with ⟨⟨changes, _ | more⟩, w₁⟩
  · simpa only [ha] using (World.Restores.refl w).ask rfl ha
  · simpa only [ha] using ((World.Restores.refl w).ask rfl ha).setEntry d _

/-! ## Plain calls -/

/-- A call that neither opens, closes nor accepts, and does not choose the pool of sockets. -/
def Call.isPlain : Call → Bool
  | setRoot _ _ _ | mount _ _ _ _ | umount _ _ | registerDevice _ | sync | readDirectory _
  | rewindDirectory _ | onPath _ _ | rename _ _ | onDescriptor _ _ | onSocket _ _ => true
  | _ => false

/-- **A plain call leaves table and books untouched**, whatever it asks and whatever comes back. -/
theorem Call.untouched_of_isPlain {c : Call} (hc : c.isPlain = true) (p : Posix ε) :
    p.Untouched (c.run p).2 := by
  have h := World.Restores.refl p.world
  cases c with
  | setRoot s disk flags => exact .track ⟨rfl, p.mounts.restores_setRoot p.world s disk flags⟩
  | mount s path disk flags =>
      exact .track ⟨rfl, p.mounts.restores_mount p.world s path disk flags⟩
  | umount path flags => exact .track ⟨rfl, p.mounts.restores_umount p.world path flags⟩
  | registerDevice d => exact .track ⟨rfl, p.registry.restores_register p.world d⟩
  | sync => exact ⟨rfl, p.mounts.restores_syncAll p.world⟩
  | readDirectory d => exact .track ⟨rfl, d.restores_read p.world⟩
  | rewindDirectory d => exact .track ⟨rfl, h.ask (q := .rewindDirectory d) rfl rfl⟩
  | onPath path op =>
      refine .track ?_
      split
      · exact ⟨rfl, h.ask rfl rfl⟩
      · exact .refl p
  | rename path target =>
      refine .track ?_
      split
      · exact ⟨rfl, h.ask rfl rfl⟩
      · exact .refl p
  | onDescriptor fd op =>
      refine .track ?_
      split
      · split
        · exact .refl p
        · exact ⟨rfl, h.perform _ op⟩
      · exact .refl p
  | onSocket fd op =>
      refine .track ?_
      split
      · exact ⟨rfl, h.ask rfl rfl⟩
      · exact .refl p
  | _ => cases hc

end PosixVfs
