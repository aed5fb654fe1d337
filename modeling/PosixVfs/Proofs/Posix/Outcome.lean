import PosixVfs.Proofs.Descriptor.Tidy
import PosixVfs.Proofs.Posix.Acquisition

/-!
# Proofs/Posix/Outcome — a call that opens succeeds completely or changes nothing

In a tidy world, a call that opens something has two outcomes.  Either it found an object that nobody
used, opened it and made it used (`Posix.Binds` for descriptors), or it failed and the context is
`Untouched`: whatever it had taken, opened or bound on the way was undone.
-/

namespace PosixVfs.Posix

variable {ε : Type}

/-- The world of the context is tidy. -/
def Tidy (p : Posix ε) : Prop := p.world.Tidy

/-- An object was found in `p`, and is open and bound to the lowest free slot `i` in `p'`. -/
structure Binds (p : Posix ε) (o : IoId) (i : Nat) (p' : Posix ε) : Prop where
  unbound : p.world.descriptor o = none
  free : p.table.firstFree? = some i
  table : p'.table = p.table.set i (some o)
  after : ∃ w₁ events, p.world.Finds o w₁ ∧
    p.world.After events (w₁.setDescriptor o (some (Fd.ofIndex i))).books p'.world ∧
      ∀ x, surplus events x = if x = .io o then 1 else 0

/-- The directory in slot `slot` of pool `i` was taken in `p`, and a stream on it is open in
`p'`. -/
structure Streams (p : Posix ε) (i slot : Nat) (p' : Posix ε) : Prop where
  offers : p.world.Offers (.directories i) slot
  uses : p.world.catalog.uses (.directories i) = true
  table : p'.table = p.table
  after : ∃ events, p.world.After events (p.world.take (.directories i) slot).books p'.world ∧
    ∀ x, surplus events x = if x = .directory ⟨i, slot⟩ then 1 else 0

variable [Embedder ε] {p : Posix ε}

/-- Registering an object that was found and opened binds it, or leaves no trace. -/
theorem Tidy.register_outcome (h : p.Tidy) {o : IoId} {w₁ w' : World ε}
    (hf : p.world.Finds o w₁) {events : List Event} (ha : p.world.After events w₁.books w')
    (hs : ∀ x, surplus events x = if x = .io o then 1 else 0) {α : Type} (f : Fd → α) :
    let r := track (p.inTable
      ((o.register p.table w').1.map f, (o.register p.table w').2))
    (∃ e p', r = (.error e, p') ∧ p.Untouched p') ∨
      ∃ i p', r = (.ok (f (Fd.ofIndex i)), p') ∧ p.Binds o i p' := by
  intro r
  obtain ⟨i, w'', ho, hi, hr, hb⟩ | ⟨e, answer, w'', hr, hb⟩ := h.register_found hf ha
  · refine .inr ⟨i, r.2, ?_, ho, hi, ?_, w₁, events, hf, ?_, hs⟩
    · simp only [r, hr]
      rfl
    · simp only [r, hr, table_track]
      rfl
    · simp only [r, hr]
      exact hb
  · refine .inl ⟨e, r.2, ?_, ?_⟩
    · simp only [r, hr]
      rfl
    · simp only [r, hr]
      exact .track ⟨rfl, _, hb, surplus_append_closing hs answer⟩

/-- Finding what a path names finds an object that agrees to open, or leaves no trace. -/
theorem Tidy.openObject_outcome (h : p.Tidy) (path : String) (flags : OpenFlags)
    (mode : Mode) :
    (∃ e w', p.openObject path flags mode = (.error e, w') ∧ p.world.Restores w') ∨
    ∃ o w₁ events w', p.world.Finds o w₁ ∧ p.openObject path flags mode = (.ok o, w') ∧
      p.world.After events w₁.books w' ∧
      ∀ x, surplus events x = if x = .io o then 1 else 0 := by
  obtain ⟨-, e, -, ho⟩ | ⟨d, e | ⟨⟩, w', -, ho, ha⟩ | ⟨-, r, -, ho⟩ :=
    p.openObject_cases path flags mode
  · exact .inl ⟨e, _, ho, .refl _⟩
  · exact .inl ⟨e, w', ho, _, ha, surplus_of_quiet rfl rfl⟩
  · exact .inr ⟨_, _, _, w', .unpooled (p.world.not_pooled_device d), ho, ha,
      surplus_of_opens rfl rfl⟩
  · obtain ⟨e, w', -, hf, ha⟩ | ⟨i, slot, w', -, offer, ⟨hf, ha⟩ | ⟨e, hf, ha⟩⟩ :=
      r.fileSystem.openFile_cases p.world r.path flags mode
    · rw [hf] at ho
      exact .inl ⟨e, w', ho, .of_after ha⟩
    · rw [hf] at ho
      exact .inr ⟨_, _, _, w', .taken offer rfl, ho, ha, surplus_of_opens rfl rfl⟩
    · rw [hf] at ho
      rw [h.books_giveBack_of_finds (.taken offer rfl) rfl] at ha
      exact .inl ⟨e, w', ho, _, ha, surplus_of_quiet rfl rfl⟩

/-- **Opening a path** binds what it names, or leaves no trace. -/
theorem Tidy.openPath_outcome (h : p.Tidy) (path : String) (flags : OpenFlags) (mode : Mode) :
    (∃ e p', p.openPath path flags mode = (.error e, p') ∧ p.Untouched p') ∨
      ∃ o i p', p.openPath path flags mode = (.ok (Fd.ofIndex i), p') ∧ p.Binds o i p' := by
  rw [openPath]
  obtain ⟨e, w', ho, hrestores⟩ | ⟨o, w₁, events, w', hf, ho, ha, hs⟩ :=
    h.openObject_outcome path flags mode
  · rw [ho]
    have hu : p.Untouched { p with world := w' } := ⟨rfl, hrestores⟩
    exact .inl (hu.refused e)
  · rw [ho]
    obtain ⟨e, p', hr, hu⟩ | ⟨i, p', hr, hb⟩ := h.register_outcome hf ha hs id
    · rw [Except.map_id] at hr
      exact .inl ⟨e, p', hr, hu⟩
    · rw [Except.map_id] at hr
      exact .inr ⟨o, i, p', hr, hb⟩

/-- **Making a socket** binds a fresh one, or leaves no trace. -/
theorem Tidy.socket_outcome (h : p.Tidy) (domain kind protocol : Int32) :
    (∃ e p', p.socket domain kind protocol = (.error e, p') ∧ p.Untouched p') ∨
      ∃ o i p', p.socket domain kind protocol = (.ok (Fd.ofIndex i), p') ∧ p.Binds o i p' := by
  obtain ⟨e, w', hs, ha⟩ | ⟨i, slot, w', offer, ⟨ha, hs⟩ | ⟨e, ha, hs⟩⟩ :=
    p.socket_cases domain kind protocol
  · rw [hs]
    refine .inl (Untouched.refused ?_ e)
    exact ⟨rfl, .of_after ha⟩
  · rw [hs]
    obtain ⟨e, p', hr, hu⟩ | ⟨i, p', hr, hb⟩ :=
      h.register_outcome (.taken offer rfl) ha (surplus_of_opens rfl rfl) id
    · rw [Except.map_id] at hr
      exact .inl ⟨e, p', hr, hu⟩
    · rw [Except.map_id] at hr
      exact .inr ⟨_, i, p', hr, hb⟩
  · rw [hs]
    refine .inl (Untouched.refused ?_ e)
    have hnone : w'.descriptor (.socket ⟨i, slot⟩) = none := by
      rw [World.descriptor_of_books ha.books]
      exact h.descriptor_of_offers offer rfl
    obtain ⟨answer, w'', hc, hb⟩ := IoId.close_of_unbound (t := p.table) hnone
    rw [h.books_giveBack_of_finds (.taken offer rfl) ha.books] at hb
    rw [hc]
    exact ⟨rfl, _, (ha.trans hb).noteFailure answer fun _ => rfl,
      surplus_append_closing (surplus_of_opens rfl rfl) answer⟩

/-- **Accepting** binds a fresh socket, or leaves no trace. -/
theorem Tidy.accept_outcome (h : p.Tidy) (fd : Fd) :
    (∃ e p', p.accept fd = (.error e, p') ∧ p.Untouched p') ∨
      ∃ o i peer p', p.accept fd = (.ok (Fd.ofIndex i, peer), p') ∧ p.Binds o i p' := by
  obtain ⟨e, w', hs, ha⟩ | ⟨listener, i, slot, w', offer, ⟨peer, ha, hs⟩ | ⟨e, ha, hs⟩⟩ :=
    p.accept_cases fd
  · rw [hs]
    refine .inl (Untouched.refused ?_ e)
    exact ⟨rfl, .of_after ha⟩
  · rw [hs]
    obtain ⟨e, p', hr, hu⟩ | ⟨i, p', hr, hb⟩ :=
      h.register_outcome (.taken offer rfl) ha (surplus_of_opens rfl rfl) (·, peer)
    · exact .inl ⟨e, p', hr, hu⟩
    · exact .inr ⟨_, i, peer, p', hr, hb⟩
  · rw [hs]
    refine .inl (Untouched.refused ?_ e)
    have hb := ha.giveBack (.io (.socket ⟨i, slot⟩))
    rw [h.books_giveBack_of_finds (.taken offer rfl) rfl] at hb
    exact ⟨rfl, _, hb, surplus_of_quiet rfl rfl⟩

/-- **Opening a directory** opens a stream on a fresh one, or leaves no trace. -/
theorem Tidy.openDirectory_outcome (h : p.Tidy) (path : String) :
    (∃ e p', p.openDirectory path = (.error e, p') ∧ p.Untouched p') ∨
      ∃ i slot p', p.openDirectory path = (.ok ⟨i, slot⟩, p') ∧ p.Streams i slot p' := by
  rw [openDirectory]
  rcases p.resolve path with e | r
  · exact .inl (Untouched.refused (.refl p) e)
  · obtain ⟨e, w', -, ho, ha⟩ | ⟨i, slot, w', hpool, offer, ⟨ho, ha⟩ | ⟨e, ho, ha⟩⟩ :=
      r.fileSystem.openDirectory_cases p.world r.path
    · simp only [ho]
      refine .inl (Untouched.refused ?_ e)
      exact ⟨rfl, .of_after ha⟩
    · simp only [ho]
      have huses := World.uses_provision (p := .directories i) (.inr (by rw [hpool]; rfl))
      exact .inr ⟨i, slot, _, rfl, offer, huses, rfl, _, ha, surplus_of_opens rfl rfl⟩
    · simp only [ho]
      have hb := World.books_giveBack_take rfl offer (h.unattached _ _ (.of_offers offer))
      rw [show ObjectId.directory ⟨i, slot⟩ = (PoolId.directories i).member slot from rfl, hb] at ha
      refine .inl (Untouched.refused ?_ e)
      exact ⟨rfl, _, ha, surplus_of_quiet rfl rfl⟩

end PosixVfs.Posix
