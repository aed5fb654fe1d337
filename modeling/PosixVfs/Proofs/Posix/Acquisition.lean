import PosixVfs.Posix.Call
import PosixVfs.Proofs.Descriptor.Agreement
import PosixVfs.Proofs.Namespace.Opening
import PosixVfs.Proofs.Posix.Record
import PosixVfs.Proofs.Posix.Untouched

/-!
# Proofs/Posix/Acquisition — the calls that open and close, step by step

A call that opens something finds an object, asks it, and registers it.  `openObject_cases`,
`socket_cases` and `accept_cases` follow such a call up to the point where it hands over to
`IoId.register`, to `IoId.close` or to `World.giveBack`.  Closing everything is closing one object
after the other (`closeAll_induction_bound`).
-/

namespace PosixVfs.Posix

variable {ε : Type} (p : Posix ε)

/-- **A fresh socket** is the one on offer in the chosen pool. -/
theorem freshSocket_cases :
    (∃ w', p.freshSocket = (none, w') ∧ p.world.After [] p.world.books w') ∨
    ∃ i slot, p.world.Offers (.sockets i) slot ∧
      p.freshSocket = (some ⟨i, slot⟩, p.world.take (.sockets i) slot) := by
  rw [freshSocket]
  rcases hs : p.world.socketPool with _ | i
  · exact .inl ⟨_, rfl, .refl _⟩
  · simp only [World.acquireSocket]
    obtain ⟨-, hacq⟩ | ⟨slot, hfree, hacq⟩ := p.world.acquireLinked_cases (.sockets i)
    · exact .inl ⟨_, by rw [hacq]; rfl, (World.After.refl _).note rfl⟩
    · exact .inr ⟨i, slot, ⟨World.poolAlive_sockets hs, hfree⟩, by rw [hacq]; rfl⟩

variable [Embedder ε]

/-- **Finding what a path names**: nothing, a registered device that was asked, or what the file
system says that owns the path. -/
theorem openObject_cases (path : String) (flags : OpenFlags) (mode : Mode) :
    (p.registry.identify? p.world.catalog path = none ∧ ∃ e, p.resolve path = .error e ∧
      p.openObject path flags mode = (.error e, p.world)) ∨
    (∃ d answer w', p.registry.identify? p.world.catalog path = some d ∧
      p.openObject path flags mode = (answer.map fun _ => .device d, w') ∧
      p.world.After [⟨.opening (.device d) path flags mode, answer⟩] p.world.books w') ∨
    p.registry.identify? p.world.catalog path = none ∧ ∃ r, p.resolve path = .ok r ∧
      p.openObject path flags mode =
        ((r.fileSystem.openFile p.world r.path flags mode).1.map IoId.file,
          (r.fileSystem.openFile p.world r.path flags mode).2) := by
  rw [openObject]
  split
  next hempty =>
    obtain rfl := String.isEmpty_iff.mp hempty
    exact .inl ⟨rfl, _, rfl, rfl⟩
  split
  next d hd =>
    have h := World.After.refl p.world
    rcases ha : p.world.ask (.opening (.device d) path flags mode) with ⟨e | ⟨⟩, w₁⟩
    · exact .inr (.inl ⟨d, .error e, w₁, hd, rfl, h.ask ha⟩)
    · exact .inr (.inl ⟨d, .ok (), w₁, hd, rfl, h.ask ha⟩)
  next hnone =>
    rcases hr : p.resolve path with e | r
    · exact .inl ⟨hnone, e, rfl, rfl⟩
    · exact .inr (.inr ⟨hnone, r, rfl, rfl⟩)

/-- **Making a socket** finds none, or asks a fresh one; it is registered if it agrees and closed
if it refuses. -/
theorem socket_cases (domain kind protocol : Int32) :
    (∃ e w', p.socket domain kind protocol = track (p.inTable (.error e, p.table, w')) ∧
      p.world.After [] p.world.books w') ∨
    ∃ i slot w', p.world.Offers (.sockets i) slot ∧
      (p.world.After [⟨.create ⟨i, slot⟩ domain kind protocol, .ok ()⟩]
          (p.world.take (.sockets i) slot).books w' ∧
        p.socket domain kind protocol =
          track (p.inTable ((IoId.socket ⟨i, slot⟩).register p.table w')) ∨
      ∃ e, p.world.After [⟨.create ⟨i, slot⟩ domain kind protocol, .error e⟩]
          (p.world.take (.sockets i) slot).books w' ∧
        p.socket domain kind protocol = track (p.inTable
          (.error e, ((IoId.socket ⟨i, slot⟩).close p.table w').2.1,
            (((IoId.socket ⟨i, slot⟩).close p.table w').2.2.noteFailure
              ((IoId.socket ⟨i, slot⟩).close p.table w').1 .socketCloseFailed)))) := by
  rw [socket]
  obtain ⟨w', hf, h⟩ | ⟨i, slot, hoffer, hf⟩ := p.freshSocket_cases
  · rw [hf]
    exact .inl ⟨_, w', rfl, h⟩
  · rw [hf]
    refine .inr ⟨i, slot, ?_⟩
    rcases ha : (p.world.take (.sockets i) slot).ask (.create ⟨i, slot⟩ domain kind protocol)
      with ⟨e | ⟨⟩, w₁⟩
    · exact ⟨w₁, hoffer, .inr ⟨e, (p.world.after_take _ _).ask ha, by simp only [ha]⟩⟩
    · exact ⟨w₁, hoffer, .inl ⟨(p.world.after_take _ _).ask ha, by simp only [ha]⟩⟩

/-- **Accepting** finds no listener or no fresh socket, or asks the listener; the fresh socket is
registered if it agrees and goes back if it refuses. -/
theorem accept_cases (fd : Fd) :
    (∃ e w', p.accept fd = track (p.inTable (.error e, p.table, w')) ∧
      p.world.After [] p.world.books w') ∨
    ∃ listener i slot w', p.world.Offers (.sockets i) slot ∧
      ((∃ peer, p.world.After [⟨.accept listener ⟨i, slot⟩, .ok peer⟩]
          (p.world.take (.sockets i) slot).books w' ∧
        p.accept fd = track (p.inTable
          (((IoId.socket ⟨i, slot⟩).register p.table w').1.map (·, peer),
            ((IoId.socket ⟨i, slot⟩).register p.table w').2))) ∨
      ∃ e, p.world.After [⟨.accept listener ⟨i, slot⟩, .error e⟩]
          (p.world.take (.sockets i) slot).books w' ∧
        p.accept fd = track (p.inTable
          (.error e, p.table, (w'.giveBack (.io (.socket ⟨i, slot⟩))).2))) := by
  rw [accept]
  rcases hl : p.socketAt fd with e | listener
  · exact .inl ⟨e, p.world, rfl, .refl _⟩
  · obtain ⟨w', hf, h⟩ | ⟨i, slot, hoffer, hf⟩ := p.freshSocket_cases
    · simp only [hf]
      exact .inl ⟨_, w', rfl, h⟩
    · simp only [hf]
      refine .inr ⟨listener, i, slot, ?_⟩
      rcases ha : (p.world.take (.sockets i) slot).ask (.accept listener ⟨i, slot⟩)
        with ⟨e | peer, w₁⟩
      · exact ⟨w₁, hoffer, .inr ⟨e, (p.world.after_take _ _).ask ha, rfl⟩⟩
      · exact ⟨w₁, hoffer, .inl ⟨peer, (p.world.after_take _ _).ask ha, rfl⟩⟩

/-- A path that was opened led to an object that was registered. -/
theorem exists_register_of_openPath {path : String} {flags : OpenFlags} {mode : Mode} {fd : Fd}
    (h : (p.openPath path flags mode).1 = .ok fd) :
    ∃ o w, (IoId.register o p.table w).1 = .ok fd ∧
      p.openPath path flags mode = track (p.inTable (o.register p.table w)) := by
  rw [openPath, fst_track] at h
  rw [openPath]
  rcases ho : p.openObject path flags mode with ⟨e | o, w⟩
  · rw [ho] at h
    cases h
  · rw [ho] at h
    exact ⟨o, w, h, rfl⟩

/-- A socket that was made was registered. -/
theorem exists_register_of_socket {domain kind protocol : Int32} {fd : Fd}
    (h : (p.socket domain kind protocol).1 = .ok fd) :
    ∃ o w, (IoId.register o p.table w).1 = .ok fd ∧
      p.socket domain kind protocol = track (p.inTable (o.register p.table w)) := by
  obtain ⟨e, w', hs, -⟩ | ⟨i, slot, w', -, ⟨-, hs⟩ | ⟨e, -, hs⟩⟩ :=
    p.socket_cases domain kind protocol
  · rw [hs] at h
    cases h
  · rw [hs, fst_track] at h
    exact ⟨_, w', h, hs⟩
  · rw [hs] at h
    cases h

/-- A connection that was accepted was registered. -/
theorem exists_register_of_accept {listening fd : Fd} {peer : Option Address}
    (h : (p.accept listening).1 = .ok (fd, peer)) :
    ∃ o w, (IoId.register o p.table w).1 = .ok fd ∧
      p.accept listening = track (p.inTable
        ((o.register p.table w).1.map (·, peer), (o.register p.table w).2)) := by
  obtain ⟨e, w', hs, -⟩ | ⟨listener, i, slot, w', -, ⟨peer', -, hs⟩ | ⟨e, -, hs⟩⟩ :=
    p.accept_cases listening
  · rw [hs] at h
    cases h
  · rw [hs, fst_track] at h
    rcases hr : ((IoId.socket ⟨i, slot⟩).register p.table w').1 with e | fd'
    · rw [inTable, hr] at h
      cases h
    · rw [inTable, hr] at h
      cases h
      exact ⟨_, w', hr, hs⟩
  · rw [hs] at h
    cases h

/-- **Closing everything**, by induction on the objects that are still to be closed. -/
theorem closeAll_induction_bound {P : List IoId → Table → World ε → Prop}
    (hstep : ∀ o rest t w, P (o :: rest) t w → P rest (closeOne (t, w) o).1 (closeOne (t, w) o).2)
    (h : P (p.table.bound.map Prod.snd) p.table p.world) :
    P [] p.closeAll.2.table p.closeAll.2.world := by
  have hfold : ∀ (objects : List IoId) (s : Table × World ε), P objects s.1 s.2 →
      P [] (objects.foldl closeOne s).1 (objects.foldl closeOne s).2 := by
    intro objects
    induction objects with
    | nil => exact fun _ hs => hs
    | cons o objects ih => exact fun s hs => ih (closeOne s o) (hstep o objects s.1 s.2 hs)
  exact hfold _ (p.table, p.world) h

/-- **What closing one object preserves**, closing all of them preserves. -/
theorem closeAll_induction {P : Table → World ε → Prop}
    (hstep : ∀ t w o, P t w → P (closeOne (t, w) o).1 (closeOne (t, w) o).2)
    (h : P p.table p.world) : P p.closeAll.2.table p.closeAll.2.world :=
  p.closeAll_induction_bound (P := fun _ => P) (fun o _ t w => hstep t w o) h

end PosixVfs.Posix
