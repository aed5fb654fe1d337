import PosixVfs.Proofs.Descriptor.Agreement
import PosixVfs.Proofs.Namespace.Opening

/-!
# Proofs/Descriptor/Sound — no operation makes table and objects disagree

`Table.Sound` says that table and objects agree on every binding, and that no closing ever looked
for a descriptor that was not there.  Whatever touches a table, an object or a pool keeps this, with
no regard to what was done before: also for an object that is bound already, or that comes back from
its pool while it is bound.
-/

namespace PosixVfs

variable {ε : Type}

namespace Table

/-- Table and objects agree on every binding, and no closing went astray so far. -/
structure Sound (t : Table) (w : World ε) : Prop where
  agrees : t.Agrees w
  strays : w.strays = 0

namespace Sound

variable {t : Table} {w w' : World ε}

/-- What leaves the bindings alone keeps table and objects in agreement. -/
theorem after (h : t.Sound w) {events : List Event} {b : Books} (ha : w.After events b w')
    (hb : b.descriptor = w.descriptor) : t.Sound w' := by
  refine ⟨h.agrees.congr ?_, ha.strays.trans h.strays⟩
  rw [← hb, ← ha.books]
  rfl

theorem bind (h : t.Sound w) {fd : Fd} {i : Nat} {o : IoId} {events : List Event} {b : Books}
    (hi : fd.index? t.capacity = some i) (hfree : t.object? i = none)
    (ho : w.descriptor o = none) (ha : w.After events b w')
    (hb : b.descriptor = (w.setDescriptor o (some fd)).descriptor) : (t.set i (some o)).Sound w' := by
  refine ⟨(h.agrees.bind hi hfree ho).congr ?_, ha.strays.trans h.strays⟩
  rw [← hb, ← ha.books]
  rfl

theorem unbind (h : t.Sound w) {fd : Fd} {i : Nat} {o : IoId} {events : List Event} {b : Books}
    (hi : fd.index? t.capacity = some i) (ho : t.object? i = some o) (ha : w.After events b w')
    (hb : b.descriptor = (w.setDescriptor o none).descriptor) : (t.set i none).Sound w' := by
  refine ⟨(h.agrees.unbind hi ho).congr ?_, ha.strays.trans h.strays⟩
  rw [← hb, ← ha.books]
  rfl

/-! ## The operations on bindings -/

theorem alloc (h : t.Sound w) (o : IoId) : (t.alloc w o).2.1.Sound (t.alloc w o).2.2 := by
  have hw := World.After.refl w
  obtain ⟨fd, -, ha⟩ | ⟨-, -, ha⟩ | ⟨i, ho, hf, ha⟩ := t.alloc_cases w o
  · rw [ha]
    exact h.after (hw.note rfl) rfl
  · rw [ha]
    exact h
  · rw [ha]
    obtain ⟨-, hlt, hfree, -⟩ := firstFree?_eq_some_iff.mp hf
    exact h.bind (Fd.index?_ofIndex h.agrees.capacity_le hlt) hfree ho
      ((hw.setDescriptor o _).note rfl) rfl

theorem install (h : t.Sound w) (fd : Fd) (o : IoId) :
    (t.install w fd o).2.1.Sound (t.install w fd o).2.2 := by
  obtain ⟨e, ha⟩ | ⟨i, hi, hfree, ho, ha⟩ := t.install_cases w o fd
  · rw [ha]
    exact h
  · rw [ha]
    exact h.bind hi hfree ho ((World.After.refl w).setDescriptor o _) rfl

theorem free (h : t.Sound w) (fd : Fd) : (t.free w fd).2.1.Sound (t.free w fd).2.2 := by
  obtain ⟨-, ha⟩ | ⟨i, o, hi, ho, ha⟩ := t.free_cases w fd
  · rw [ha]
    exact h
  · rw [ha]
    exact h.unbind hi ho (((World.After.refl w).setDescriptor o none).note rfl) rfl

theorem giveBack (h : t.Sound w) (x : ObjectId) : t.Sound (w.giveBack x).2 :=
  h.after ((World.After.refl w).giveBack x) (w.descriptor_giveBack x)

theorem acquire (h : t.Sound w) (p : PoolId) : t.Sound (w.acquire p).2 := by
  rw [World.acquire]
  split
  · exact h.after ((World.After.refl w).setPool p _) rfl
  · exact h.after ((World.After.refl w).note rfl) rfl

theorem acquireLinked (h : t.Sound w) (p : PoolId) : t.Sound (w.acquireLinked p).2 := by
  obtain ⟨-, ha⟩ | ⟨slot, -, ha⟩ := w.acquireLinked_cases p
  · rw [ha]
    exact h.after ((World.After.refl w).note rfl) rfl
  · rw [ha]
    exact h.after (w.after_take p slot) rfl

theorem release (h : t.Sound w) (p : PoolId) (x : ObjectId) : t.Sound (w.release p x).2 :=
  h.after ((World.After.refl w).release p x) (w.descriptor_release p x)

variable [Embedder ε]

theorem openFile (h : t.Sound w) (s : FileSystemId) (path : String) (flags : OpenFlags)
    (mode : Mode) : t.Sound (s.openFile w path flags mode).2 := by
  obtain ⟨e, w', -, ho, ha⟩ | ⟨i, slot, w', -, -, ⟨ho, ha⟩ | ⟨e, ho, ha⟩⟩ :=
    s.openFile_cases w path flags mode
  · rw [ho]
    exact h.after ha rfl
  · rw [ho]
    exact h.after ha rfl
  · rw [ho]
    exact h.after ha (World.descriptor_giveBack _ _)

theorem openDirectory (h : t.Sound w) (s : FileSystemId) (path : String) :
    t.Sound (s.openDirectory w path).2 := by
  obtain ⟨e, w', -, ho, ha⟩ | ⟨i, slot, w', -, -, ⟨ho, ha⟩ | ⟨e, ho, ha⟩⟩ :=
    s.openDirectory_cases w path
  · rw [ho]
    exact h.after ha rfl
  · rw [ho]
    exact h.after ha rfl
  · rw [ho]
    exact h.after ha (World.descriptor_giveBack _ _)

/-- **Registering** keeps table and objects in agreement, also for an object that is bound. -/
theorem register (h : t.Sound w) (o : IoId) : (o.register t w).2.1.Sound (o.register t w).2.2 := by
  obtain ⟨i, w', ho, hf, hr, ha⟩ | ⟨answer, w', ⟨fd, -, hr, ha⟩ | ⟨-, -, hr, ha⟩⟩ :=
    IoId.register_cases (t := t) (w := w) o
  · rw [hr]
    obtain ⟨-, hlt, hfree, -⟩ := firstFree?_eq_some_iff.mp hf
    exact h.bind (Fd.index?_ofIndex h.agrees.capacity_le hlt) hfree ho ha rfl
  · rw [hr]
    exact h.after ha rfl
  · rw [hr]
    exact h.after ha (w.descriptor_giveBack _)

/-- **Closing** keeps table and objects in agreement, also for an object that is not bound. -/
theorem close (h : t.Sound w) (o : IoId) : (o.close t w).2.1.Sound (o.close t w).2.2 := by
  obtain ⟨answer, w', ha, ⟨ho, hc⟩ | ⟨fd, i, -, hi, ho, hc⟩⟩ := IoId.close_cases o h.agrees
  · rw [hc]
    refine h.after ha ?_
    rw [World.descriptor_books, World.descriptor_giveBack]
    exact World.descriptor_of_books (World.books_setDescriptor_of_none ho)
  · rw [hc]
    exact h.unbind hi ho ha (World.descriptor_giveBack _ _)

end Sound

end Table

end PosixVfs
