import PosixVfs.Proofs.Posix.Outcome
import PosixVfs.Proofs.Session.Run

/-!
# Proofs/Session/Refusal — a failed acquisition changes nothing

A call that opens a path or a directory, makes a socket or accepts a connection can fail at many
points, some of them after an object was taken, opened or bound.  In a tidy world all of that is
undone (`Posix.Tidy.acquires_outcome`), and orderly acts keep a world tidy.  So wherever such a call
fails after an orderly history, bindings, slots, links and the three tables are what they were
(`Session.New.unchanged_of_refused`).
-/

namespace PosixVfs

variable {ε : Type}

/-- What a call does to a context, and to the streams that are open.  It fails without a trace or
only asks, it binds an object or opens a stream, or it is one of the four calls that do something
else. -/
inductive Posix.Effect [Embedder ε] (p : Posix ε) (c : Call) : Prop
  | untouched (h : p.Untouched (c.run p).2) (streams : ∀ open_, c.streams (c.run p).1 open_ = open_)
  | binds (o : IoId) (i : Nat) (h : p.Binds o i (c.run p).2)
      (streams : ∀ open_, c.streams (c.run p).1 open_ = open_)
  | opensStream (i slot : Nat) (h : p.Streams i slot (c.run p).2)
      (streams : ∀ open_, c.streams (c.run p).1 open_ = ⟨i, slot⟩ :: open_)
  | setSocketPool (i : Nat) (h : c = .setSocketPool i)
  | closeDirectory (d : DirectoryId) (h : c = .closeDirectory d)
  | close (fd : Fd) (h : c = .close fd)
  | closeAll (h : c = .closeAll)

namespace Posix.Tidy

variable {p p' : Posix ε}

theorem untouched (h : p.Tidy) (hu : p.Untouched p') : p'.Tidy := World.Tidy.of_books h hu.books

theorem binds (h : p.Tidy) {o : IoId} {i : Nat} (hb : p.Binds o i p') : p'.Tidy := by
  obtain ⟨w₁, events, hf, ha, -⟩ := hb.after
  exact (World.Tidy.finds h hf _).of_books ha.books

theorem opensStream (h : p.Tidy) {i slot : Nat} (hs : p.Streams i slot p') : p'.Tidy := by
  obtain ⟨events, ha, -⟩ := hs.after
  exact (World.Tidy.take h hs.offers).of_books ha.books

theorem track {α : Type} {r : Except Errno α × Posix ε} (h : r.2.Tidy) : (Posix.track r).2.Tidy :=
  h.untouched (.track (.refl r.2))

/-- Sockets are to come from a pool that is alive. -/
theorem setSocketPool (h : p.Tidy) {i : Nat} (ha : p.world.poolAlive (.sockets i) = true) :
    (p.setSocketPool i).Tidy :=
  World.Tidy.congr h (fun _ => rfl) rfl (fun _ => World.poolAlive_of_socketPool ha) fun _ => id

variable [Embedder ε]

theorem close (h : p.Tidy) (fd : Fd) : (p.close fd).2.Tidy := by
  refine .track ?_
  rcases p.object fd with e | o
  · exact h
  · exact World.Tidy.close h p.table o

theorem closeAll (h : p.Tidy) : p.closeAll.2.Tidy := by
  refine p.closeAll_induction (P := fun _ w => w.Tidy) (fun t w o hw => ?_) h
  exact (hw.close t o).of_books ((World.After.refl _).noteFailure _ fun _ => rfl).books

theorem closeDirectory (h : p.Tidy) (d : DirectoryId) : (p.closeDirectory d).2.Tidy := by
  refine .track ?_
  have ha := ((World.After.refl p.world).ask (q := .closeDirectory d) rfl).giveBack (.directory d)
  exact (World.Tidy.giveBack h fun o ho => by cases ho).of_books ha.books

variable {c : Call}

/-- **A call that acquires** fails without a trace, or binds an object that it found, or opens a
stream on a directory that it took. -/
theorem acquires_outcome (h : p.Tidy) (hc : c.acquires = true) :
    (∃ e, (c.run p).1 = .error e ∧ p.Untouched (c.run p).2) ∨
    ∃ a, (c.run p).1 = .ok a ∧
      ((∃ o i, p.Binds o i (c.run p).2 ∧ ∀ open_, c.streams (.ok a) open_ = open_) ∨
        ∃ i slot, p.Streams i slot (c.run p).2 ∧
          ∀ open_, c.streams (.ok a) open_ = ⟨i, slot⟩ :: open_) := by
  cases c with
  | openPath path flags mode =>
      obtain ⟨e, p', hr, hu⟩ | ⟨o, i, p', hr, hb⟩ := h.openPath_outcome path flags mode
      · rw [Call.run, hr]
        exact .inl ⟨e, rfl, hu⟩
      · rw [Call.run, hr]
        exact .inr ⟨_, rfl, .inl ⟨o, i, hb, fun _ => rfl⟩⟩
  | openDirectory path =>
      obtain ⟨e, p', hr, hu⟩ | ⟨i, slot, p', hr, hs⟩ := h.openDirectory_outcome path
      · rw [Call.run, hr]
        exact .inl ⟨e, rfl, hu⟩
      · rw [Call.run, hr]
        exact .inr ⟨_, rfl, .inr ⟨i, slot, hs, fun _ => rfl⟩⟩
  | socket domain kind protocol =>
      obtain ⟨e, p', hr, hu⟩ | ⟨o, i, p', hr, hb⟩ := h.socket_outcome domain kind protocol
      · rw [Call.run, hr]
        exact .inl ⟨e, rfl, hu⟩
      · rw [Call.run, hr]
        exact .inr ⟨_, rfl, .inl ⟨o, i, hb, fun _ => rfl⟩⟩
  | accept fd =>
      obtain ⟨e, p', hr, hu⟩ | ⟨o, i, peer, p', hr, hb⟩ := h.accept_outcome fd
      · rw [Call.run, hr]
        exact .inl ⟨e, rfl, hu⟩
      · rw [Call.run, hr]
        exact .inr ⟨_, rfl, .inl ⟨o, i, hb, fun _ => rfl⟩⟩
  | _ => cases hc

/-- **All that a call can do** in a tidy context. -/
theorem effect (h : p.Tidy) (c : Call) : p.Effect c := by
  by_cases hplain : c.isPlain = true
  · exact .untouched (c.untouched_of_isPlain hplain p) fun _ => by
      cases c <;> first | rfl | cases hplain
  by_cases hacq : c.acquires = true
  · obtain ⟨e, he, hu⟩ | ⟨a, ha, ⟨o, i, hb, hstreams⟩ | ⟨i, slot, hs, hstreams⟩⟩ :=
      h.acquires_outcome hacq
    · refine .untouched hu fun _ => ?_
      rw [he]
      cases c <;> first | rfl | cases hacq
    · exact .binds o i hb fun open_ => by rw [ha, hstreams]
    · exact .opensStream i slot hs fun open_ => by rw [ha, hstreams]
  cases c with
  | setSocketPool i => exact .setSocketPool i rfl
  | closeDirectory d => exact .closeDirectory d rfl
  | close fd => exact .close fd rfl
  | closeAll => exact .closeAll rfl
  | openPath | openDirectory | socket | accept => exact absurd rfl hacq
  | _ => exact absurd rfl hplain

/-- **Every call** keeps the world tidy. -/
theorem run (h : p.Tidy)
    (hc : ∀ i, c = .setSocketPool i → p.world.poolAlive (.sockets i) = true) :
    (c.run p).2.Tidy := by
  cases h.effect c with
  | untouched hu _ => exact h.untouched hu
  | binds o i hb _ => exact h.binds hb
  | opensStream i slot hs _ => exact h.opensStream hs
  | setSocketPool i hi => exact hi ▸ h.setSocketPool (hc i hi)
  | closeDirectory d hd => exact hd ▸ h.closeDirectory d
  | close fd hfd => exact hfd ▸ h.close fd
  | closeAll hall => exact hall ▸ h.closeAll

end Posix.Tidy

/-- Acquiring has nothing to do with the mount table and the device registry. -/
theorem Posix.mounts_registry_of_acquires [Embedder ε] {p : Posix ε} {c : Call}
    (hc : c.acquires = true) :
    (c.run p).2.mounts = p.mounts ∧ (c.run p).2.registry = p.registry := by
  cases c with
  | openPath path flags mode =>
      rw [Call.run, Posix.openPath, mounts_track, registry_track]
      split <;> exact ⟨rfl, rfl⟩
  | openDirectory path =>
      rw [Call.run, openDirectory, mounts_track, registry_track]
      split <;> exact ⟨rfl, rfl⟩
  | socket domain kind protocol =>
      rw [Call.run, socket, mounts_track, registry_track]
      exact ⟨rfl, rfl⟩
  | accept fd =>
      rw [Call.run, accept, mounts_track, registry_track]
      split <;> exact ⟨rfl, rfl⟩
  | _ => cases hc

/-! ## Histories -/

namespace Session

variable {s : Session ε}

/-- A new session is tidy. -/
theorem New.tidy (h : s.New) : s.posix.Tidy := by
  obtain ⟨c, w, hw, hp⟩ := h.exists_build
  rw [hp]
  have htidy : w.Tidy := by
    refine ⟨fun x p hx => ?_, fun p slot _ => hw.owner _, fun p slot o _ _ => hw.descriptor o⟩
    rw [hw.owner] at hx
    cases hx
  exact htidy.of_books (World.After.books (Posix.after_build c w))

variable [Embedder ε]

/-- **No orderly act** makes a session untidy. -/
theorem tidy_step (s : Session ε) (act : Act) (hact : act.Orderly s) (h : s.posix.Tidy) :
    (s.step act).posix.Tidy := by
  cases act with
  | call c =>
      refine Posix.Tidy.run h fun i hi => ?_
      subst hi
      exact hact
  | raw call =>
      change (call.handle s.posix).2.Tidy
      obtain ⟨e, -, -, hw⟩ | ⟨c, hc, -, hw⟩ := call.handle_cases s.posix
      · rw [Posix.Tidy, hw]
        exact h
      · have horderly := (Syscall.orderly_of_decode hc s).1
        have hrun : ({ s.posix with lastError := none } : Posix ε).Tidy := h
        rw [Posix.Tidy, hw]
        exact hrun.run (c := c) fun i hi => by subst hi; exact horderly
  | install fd o => exact World.Tidy.install h hact s.posix.table fd
  | dropPool p =>
      exact World.Tidy.congr h (fun q => s.posix.world.held_dropPool p q) rfl
        (fun _ => World.poolAlive_of_dropPool) fun _ => id
  | _ => exact hact.elim

/-- After every orderly history the world is tidy. -/
theorem New.tidy_run (hs : s.New) {acts : List Act} (h : s.Admits acts) :
    (s.run acts).posix.Tidy :=
  run_induction_of_admits (P := fun s => s.posix.Tidy) tidy_step hs.tidy h

/-- **A failed acquisition changes nothing.**  Whatever the reason, after every orderly history: the
descriptor table, the descriptors of the objects, the slots of the pools, the links to them, the
mount table with its root, and the registry are what they were. -/
theorem New.unchanged_of_refused (hs : s.New) {acts : List Act} (h : s.Admits acts) {c : Call}
    (hc : c.acquires = true) {e : Errno} (he : (c.run (s.run acts).posix).1 = .error e) :
    let p := (s.run acts).posix
    let p' := (c.run p).2
    p'.table = p.table ∧ p'.world.descriptor = p.world.descriptor ∧
      p'.world.pools = p.world.pools ∧ p'.world.owner = p.world.owner ∧
      p'.mounts = p.mounts ∧ p'.registry = p.registry := by
  intro p p'
  have htidy : p.Tidy := hs.tidy_run h
  have hu : p.Untouched p' := by
    obtain ⟨-, -, hu⟩ | ⟨a, ha, -⟩ := htidy.acquires_outcome hc
    · exact hu
    · rw [show (c.run p).1 = .error e from he] at ha
      cases ha
  have hother := Posix.mounts_registry_of_acquires (p := p) hc
  exact ⟨hu.table, World.descriptor_of_books hu.books, World.pools_of_books hu.books,
    World.owner_of_books hu.books, hother⟩

/-- A device that is open already is busy, and stays bound as it was. -/
theorem unchanged_of_refused_of_busy :
    let p := (usual.run [.call (.registerDevice ⟨0⟩),
      .call (.openPath "/dev/console" ⟨0⟩ 0)]).posix
    let again := p.openPath "/dev/console" ⟨0⟩ 0
    again.1 = .error .busy ∧ again.2.table = p.table ∧
      again.2.world.descriptor = p.world.descriptor := by
  intro p again
  have hbusy : again.1 = .error .busy := rfl
  have horderly : usual.Admits [.call (.registerDevice ⟨0⟩),
      .call (.openPath "/dev/console" ⟨0⟩ 0)] := ⟨trivial, trivial, trivial⟩
  have h := new_usual.unchanged_of_refused horderly (c := .openPath "/dev/console" ⟨0⟩ 0) rfl hbusy
  exact ⟨hbusy, h.1, h.2.1⟩

end Session

end PosixVfs
