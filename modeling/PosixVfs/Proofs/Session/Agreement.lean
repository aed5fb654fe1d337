import PosixVfs.Proofs.Descriptor.Sound
import PosixVfs.Proofs.Posix.Acquisition
import PosixVfs.Proofs.Session.Run

/-!
# Proofs/Session/Agreement — bindings never go astray

Every call keeps table and objects in agreement (`Posix.Sound.run`), and so does everything that is
done by hand.  So they agree after every history, and `Session.New.bindings_agree` reads off what
this means.
-/

namespace PosixVfs

variable {ε : Type}

/-! ## Calls -/

namespace Posix

/-- Table and objects agree on every binding, and no closing went astray so far. -/
def Sound (p : Posix ε) : Prop := p.table.Sound p.world

namespace Sound

variable {p p' : Posix ε}

theorem untouched (h : p.Sound) (hu : p.Untouched p') : p'.Sound := by
  obtain ⟨events, ha, -⟩ := hu.restores
  rw [Sound, hu.table]
  exact Table.Sound.after h ha rfl

theorem track {α : Type} {r : Except Errno α × Posix ε} (h : r.2.Sound) :
    (Posix.track r).2.Sound := by
  rw [Sound, table_track]
  exact Table.Sound.after h (after_track r (.refl _)) rfl

/-- Choosing a pool for sockets binds nothing. -/
theorem setSocketPool (h : p.Sound) (i : Nat) : (p.setSocketPool i).Sound := ⟨
  h.agrees.congr rfl, h.strays⟩

variable [Embedder ε]

/-- Looking for what a path names binds nothing. -/
theorem openObject (h : p.Sound) (path : String) (flags : OpenFlags) (mode : Mode) :
    p.table.Sound (p.openObject path flags mode).2 := by
  obtain ⟨-, e, -, ho⟩ | ⟨d, answer, w', -, ho, ha⟩ | ⟨-, r, -, ho⟩ :=
    p.openObject_cases path flags mode
  · rw [ho]
    exact h
  · rw [ho]
    exact Table.Sound.after h ha rfl
  · rw [ho]
    exact Table.Sound.openFile h r.fileSystem r.path flags mode

theorem openPath (h : p.Sound) (path : String) (flags : OpenFlags) (mode : Mode) :
    (p.openPath path flags mode).2.Sound := by
  have ho := h.openObject path flags mode
  refine .track ?_
  rcases hr : p.openObject path flags mode with ⟨e | o, w⟩
  · rw [hr] at ho
    exact ho
  · rw [hr] at ho
    exact ho.register o

theorem openDirectory (h : p.Sound) (path : String) : (p.openDirectory path).2.Sound := by
  refine .track ?_
  rcases p.resolve path with e | r
  · exact h
  · exact Table.Sound.openDirectory h r.fileSystem r.path

theorem closeDirectory (h : p.Sound) (d : DirectoryId) : (p.closeDirectory d).2.Sound := by
  refine .track ?_
  exact Table.Sound.giveBack (Table.Sound.after h ((World.After.refl _).ask rfl) rfl) _

theorem close (h : p.Sound) (fd : Fd) : (p.close fd).2.Sound := by
  refine .track ?_
  rcases p.object fd with e | o
  · exact h
  · exact Table.Sound.close h o

theorem closeAll (h : p.Sound) : p.closeAll.2.Sound := by
  refine p.closeAll_induction (P := Table.Sound) (fun t w o ht => ?_) h
  exact (ht.close o).after ((World.After.refl _).noteFailure _ fun _ => rfl) rfl

theorem socket (h : p.Sound) (domain kind protocol : Int32) :
    (p.socket domain kind protocol).2.Sound := by
  obtain ⟨e, w', hs, ha⟩ | ⟨i, slot, w', -, ⟨ha, hs⟩ | ⟨e, ha, hs⟩⟩ :=
    p.socket_cases domain kind protocol
  · rw [hs]
    exact .track (Table.Sound.after h ha rfl)
  · rw [hs]
    exact .track ((Table.Sound.after h ha rfl).register _)
  · rw [hs]
    have hc := (Table.Sound.after h ha rfl).close (.socket ⟨i, slot⟩)
    exact .track (hc.after ((World.After.refl _).noteFailure _ fun _ => rfl) rfl)

theorem accept (h : p.Sound) (fd : Fd) : (p.accept fd).2.Sound := by
  obtain ⟨e, w', hs, ha⟩ | ⟨listener, i, slot, w', -, ⟨peer, ha, hs⟩ | ⟨e, ha, hs⟩⟩ :=
    p.accept_cases fd
  · rw [hs]
    exact .track (Table.Sound.after h ha rfl)
  · rw [hs]
    exact .track ((Table.Sound.after h ha rfl).register _)
  · rw [hs]
    exact .track ((Table.Sound.after h ha rfl).giveBack _)

/-- **Every call** keeps table and objects in agreement. -/
theorem run (h : p.Sound) (c : Call) : (c.run p).2.Sound := by
  by_cases hc : c.isPlain = true
  · exact h.untouched (c.untouched_of_isPlain hc p)
  · cases c with
    | setSocketPool i => exact h.setSocketPool i
    | openPath path flags mode => exact h.openPath path flags mode
    | openDirectory path => exact h.openDirectory path
    | closeDirectory d => exact h.closeDirectory d
    | close fd => exact h.close fd
    | closeAll => exact h.closeAll
    | socket domain kind protocol => exact h.socket domain kind protocol
    | accept fd => exact h.accept fd
    | _ => exact absurd rfl hc

theorem handle (h : p.Sound) (s : Syscall) : (s.handle p).2.Sound := by
  obtain ⟨e, -, ht, hw⟩ | ⟨c, -, ht, hw⟩ := s.handle_cases p
  · rw [Sound, ht, hw]
    exact h
  · rw [Sound, ht, hw]
    exact run (p := { p with lastError := none }) h c

end Sound

end Posix

/-! ## Histories -/

namespace Session

variable {s : Session ε}

/-- In a new session that has no more slots than there are descriptors, nothing is bound. -/
theorem New.sound (h : s.New) (hcap : s.posix.table.capacity ≤ Fd.count) : s.posix.Sound := by
  obtain ⟨c, w, hw, hp⟩ := h.exists_build
  rw [hp] at hcap ⊢
  rw [Posix.build, Table.capacity_new] at hcap
  have hstrays : w.strays = 0 := by rw [World.strays, hw.log]; rfl
  have hnew : (Table.new c.descriptors).Sound w := ⟨.new hcap hw.descriptor, hstrays⟩
  exact hnew.after (Posix.after_build c w) rfl

variable [Embedder ε]

/-- **No act** makes table and objects disagree. -/
theorem sound_step (s : Session ε) (act : Act) (h : s.posix.Sound) : (s.step act).posix.Sound := by
  cases act with
  | call c => exact h.run c
  | raw call => exact h.handle call
  | alloc o => exact Table.Sound.alloc h o
  | install fd o => exact Table.Sound.install h fd o
  | free fd => exact Table.Sound.free h fd
  | register o => exact Table.Sound.register h o
  | close o => exact Table.Sound.close h o
  | giveBack x => exact Table.Sound.giveBack h x
  | acquire p => exact Table.Sound.acquire h p
  | acquireLinked p => exact Table.Sound.acquireLinked h p
  | release p x => exact Table.Sound.release h p x
  | dropPool p => exact Table.Sound.after h ((World.After.refl _).setPool p _) rfl

/-- After every history, table and objects agree on every binding. -/
theorem New.sound_run (hs : s.New) (hcap : s.posix.table.capacity ≤ Fd.count) (acts : List Act) :
    (s.run acts).posix.Sound :=
  run_induction (P := fun s => s.posix.Sound) sound_step (hs.sound hcap) acts

/-- **Table and objects agree on every binding**, after every history of a new session whose table
has no more slots than there are descriptors, whatever is called, answered and done by hand.  An
object is in one slot at most, no object has a descriptor that is not bound, and no closing ever went
astray. -/
theorem New.bindings_agree (hs : s.New) (hcap : s.posix.table.capacity ≤ Fd.count)
    (acts : List Act) :
    let p := (s.run acts).posix
    (∀ fd o, p.table.io? fd = some o ↔ p.world.descriptor o = some fd) ∧
    (∀ i o, i < p.table.capacity →
      (p.table.object? i = some o ↔ p.world.descriptor o = some (Fd.ofIndex i))) ∧
    (∀ i j o, p.table.object? i = some o → p.table.object? j = some o → i = j) ∧
    (∀ fd o, p.world.descriptor o = some fd → p.table.isValid fd = true) ∧
    ∀ fd, .notBoundInTable fd ∉ p.world.log := by
  intro p
  have h : p.Sound := hs.sound_run hcap acts
  refine ⟨h.agrees.io?_iff, fun i o hi => ?_, fun i j o => h.agrees.object?_inj,
    fun fd o hd => ?_, fun fd hmem => ?_⟩
  · rw [← h.agrees.io?_iff, Table.io?_of_index? (Fd.index?_ofIndex h.agrees.capacity_le hi)]
  · rw [Table.isValid, (h.agrees.io?_iff fd o).mpr hd]
    rfl
  · exact List.countP_eq_zero.mp h.strays _ hmem rfl

/-- A socket that was given back by hand while it was bound comes back from its pool; it keeps its
descriptor. -/
theorem bindings_agree_of_reuse :
    let s := usual.run [.call (.setSocketPool 0), .call (.socket 2 1 0),
      .giveBack (.io (.socket ⟨0, 0⟩)), .call (.socket 2 1 0)]
    s.posix.table.io? 3 = some (.socket ⟨0, 0⟩) ∧
      s.posix.world.descriptor (.socket ⟨0, 0⟩) = some 3 := by
  intro s
  have h : s.posix.table.io? 3 = some (.socket ⟨0, 0⟩) := by decide +kernel
  exact ⟨h, ((new_usual.bindings_agree (by decide) _).1 3 (.socket ⟨0, 0⟩)).mp h⟩

end Session

end PosixVfs
