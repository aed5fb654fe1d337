import PosixVfs.Proofs.Descriptor.Settlement
import PosixVfs.Proofs.Session.Balance

/-!
# Proofs/Session/Evenness — whatever is opened is closed, and no more than once

In a history of calls (`Session.Performs`) nothing is bound by hand, and a stream is closed only
while it is open.  Along such a history the accounts stay settled (`Session.settled_step`).  So at
every point of it an object was opened once more than it was closed while it is in use, and as often
as it was closed while it is not (`Session.New.openings_balanced`).
-/

namespace PosixVfs

variable {ε : Type}

/-! ## Calling -/

/-- **Acts of calling.**  A call is one if sockets are to come from a pool that is alive, and if a
stream that is closed is open; nothing is done by hand but the dropping of pools. -/
def Act.Calls (s : Session ε) : Act → Prop
  | call (.setSocketPool i) => s.posix.world.poolAlive (.sockets i) = true
  | call (.closeDirectory d) => d ∈ s.streams
  | call _ | raw _ | dropPool _ => True
  | _ => False

/-- Raw calls close no streams. -/
theorem Syscall.calls_of_decode {s : Syscall} {c : Call} (h : s.decode = .ok c) (t : Session ε) :
    (Act.call c).Calls t := by
  obtain ⟨horderly, hstreams⟩ := orderly_of_decode h t
  cases c with
  | closeDirectory d =>
      have hnil := hstreams (.ok ()) [d]
      rw [Call.streams, List.erase_cons_head] at hnil
      cases hnil
  | setSocketPool i => exact horderly
  | _ => trivial

/-! ## What calls do to settled accounts -/

/-- Table and world keep settled accounts, with these streams open. -/
def Posix.Settled (p : Posix ε) (streams : List DirectoryId) : Prop :=
  p.table.Settled p.world streams

namespace Posix.Settled

variable {p p' : Posix ε} {streams : List DirectoryId}

theorem accounted (h : p.Settled streams) : p.Accounted streams := h.toAccounted

theorem untouched (h : p.Settled streams) (hu : p.Untouched p') : p'.Settled streams := by
  rw [Settled, hu.table]
  exact Table.Settled.restores h hu.restores

theorem binds (h : p.Settled streams) {o : IoId} {i : Nat} (hb : p.Binds o i p') :
    p'.Settled streams := by
  obtain ⟨w₁, events, hf, ha, hs⟩ := hb.after
  obtain ⟨-, hlt, hfree, -⟩ := Table.firstFree?_eq_some_iff.mp hb.free
  have hi := Fd.index?_ofIndex h.sound.agrees.capacity_le hlt
  rw [Settled, hb.table]
  exact Table.Settled.bind h hf hi hfree hb.unbound ha hs

theorem opensStream (h : p.Settled streams) {i slot : Nat} (hs : p.Streams i slot p') :
    p'.Settled (⟨i, slot⟩ :: streams) := by
  obtain ⟨events, ha, hsurplus⟩ := hs.after
  rw [Settled, hs.table]
  exact Table.Settled.openStream h hs.offers hs.uses ha hsurplus

theorem track {α : Type} {r : Except Errno α × Posix ε} (h : r.2.Settled streams) :
    (Posix.track r).2.Settled streams :=
  h.untouched (.track (.refl r.2))

/-- Sockets are to come from a pool that is alive. -/
theorem setSocketPool (h : p.Settled streams) {i : Nat}
    (ha : p.world.poolAlive (.sockets i) = true) : (p.setSocketPool i).Settled streams :=
  ⟨h.accounted.setSocketPool ha, ⟨h.sound.agrees.congr rfl, h.sound.strays⟩,
    ⟨h.even.one, h.even.zero⟩, h.holds.congr rfl fun _ => Iff.rfl⟩

/-- A pool that its maker let go of may die. -/
theorem dropPool (h : p.Settled streams) (q : PoolId) :
    p.table.Settled (p.world.dropPool q) streams := by
  refine ⟨h.accounted.dropPool q, ⟨h.sound.agrees.congr rfl, h.sound.strays⟩,
    ⟨h.even.one, h.even.zero⟩, h.holds.congr rfl fun d => ?_⟩
  rw [Pool.isHeld, p.world.held_dropPool, Pool.isHeld]

variable [Embedder ε]

/-- **Closing a descriptor** closes an object that is bound. -/
theorem close (h : p.Settled streams) (fd : Fd) : (p.close fd).2.Settled streams := by
  refine .track ?_
  rw [object]
  rcases ho : p.table.io? fd with _ | o
  · exact h
  · refine Table.Settled.close h ?_
    rw [(h.sound.agrees.io?_iff fd o).mp ho]
    rfl

/-- **Closing everything** closes each bound object once: those that are still to be closed are
bound, and none of them is the one that is closed now. -/
theorem closeAll (h : p.Settled streams) : p.closeAll.2.Settled streams := by
  refine (p.closeAll_induction_bound
    (P := fun objects t w => t.Settled w streams ∧ objects.Nodup ∧
      ∀ o ∈ objects, (w.descriptor o).isSome) (fun o rest t w => ?_)
    ⟨h, h.sound.agrees.nodup_bound, fun o => h.sound.agrees.isSome_of_mem_bound⟩).1
  rintro ⟨ht, hnodup, hbound⟩
  obtain ⟨hnot, hrest⟩ := List.nodup_cons.mp hnodup
  have hr : (o.close t w).2.2.Restores (closeOne (t, w) o).2 :=
    (World.Restores.refl _).noteFailure _ fun _ => rfl
  refine ⟨(ht.close (hbound o List.mem_cons_self)).restores hr, hrest, fun o' ho' => ?_⟩
  obtain ⟨events, ha, -⟩ := hr
  have hne : o' ≠ o := fun e => hnot (e ▸ ho')
  rw [World.descriptor_of_books ha.books, IoId.descriptor_close o ht.sound.agrees,
    assign_of_ne _ _ _ hne]
  exact hbound o' (List.mem_cons_of_mem o ho')

/-- **Closing a stream** that is open. -/
theorem closeDirectory (h : p.Settled streams) {d : DirectoryId} (hd : d ∈ streams) :
    (p.closeDirectory d).2.Settled (streams.erase d) := by
  refine .track ?_
  have ha := ((World.After.refl p.world).ask (q := .closeDirectory d) rfl).giveBack (.directory d)
  exact Table.Settled.closeStream h hd ha (surplus_of_closes rfl rfl)

/-- **Every call** keeps the accounts settled. -/
theorem run (h : p.Settled streams) {c : Call} (hc : (Act.call c).Calls ⟨p, streams⟩) :
    (c.run p).2.Settled (c.streams (c.run p).1 streams) := by
  cases h.accounted.tidy.effect c with
  | untouched hu hstreams =>
      rw [hstreams]
      exact h.untouched hu
  | binds o i hb hstreams =>
      rw [hstreams]
      exact h.binds hb
  | opensStream i slot hs hstreams =>
      rw [hstreams]
      exact h.opensStream hs
  | setSocketPool i hi =>
      subst hi
      exact h.setSocketPool hc
  | closeDirectory d hd =>
      subst hd
      exact h.closeDirectory hc
  | close fd hfd =>
      subst hfd
      exact h.close fd
  | closeAll hall =>
      subst hall
      exact h.closeAll

end Posix.Settled

/-! ## Histories of calls -/

namespace Session

variable {s : Session ε}

/-- Table and world keep settled accounts for the streams that are open. -/
def Settled (s : Session ε) : Prop := s.posix.Settled s.streams

/-- In a new session nothing is in use, and nothing was opened or closed. -/
theorem New.settled (h : s.New) (hcap : s.posix.table.capacity ≤ Fd.count) : s.Settled := by
  obtain ⟨c, w, hw, hp⟩ := h.exists_build
  have htrace : s.posix.world.trace = [] := by
    rw [hp, (Posix.after_build c w).trace, hw.trace]
    rfl
  have hb : s.posix.world.books = w.books := by
    rw [hp, (Posix.after_build c w).books]
  refine ⟨h.accounted, h.sound hcap, ⟨fun x hx => ?_, fun x _ => by rw [htrace, surplus_nil]⟩, ?_, ?_⟩
  · rw [World.inUse_congr (World.descriptor_of_books hb), h.streams] at hx
    rcases x with o | d | k | k
    · rw [World.InUse, hw.descriptor] at hx
      cases hx
    · cases hx
    all_goals exact hx.elim
  · intro d
    rw [World.pools_of_books hb, hw.isHeld, h.streams]
    simp
  · intro d hd
    rw [h.streams] at hd
    exact absurd hd List.not_mem_nil

variable [Embedder ε]

/-- The session goes through acts of calling, each in the session that it meets. -/
def Performs : Session ε → List Act → Prop
  | _, [] => True
  | s, act :: acts => act.Calls s ∧ (s.step act).Performs acts

/-- Opening files is calling. -/
theorem performs_crowd (s : Session Script) (k : Nat) : s.Performs (crowd k) := by
  have hopen : ∀ s : Session Script, s.Performs (List.replicate k openFile) := by
    induction k with
    | zero => exact fun _ => trivial
    | succ k ih => exact fun s => ⟨trivial, ih (s.step openFile)⟩
  exact ⟨trivial, hopen _⟩

/-- **No act of calling** leaves anything unsettled. -/
theorem settled_step (s : Session ε) (act : Act) (hact : act.Calls s) (h : s.Settled) :
    (s.step act).Settled := by
  cases act with
  | call c => exact Posix.Settled.run h hact
  | raw call =>
      change (call.handle s.posix).2.Settled s.streams
      obtain ⟨e, -, ht, hw⟩ | ⟨c, hc, ht, hw⟩ := call.handle_cases s.posix
      · rw [Posix.Settled, ht, hw]
        exact h
      · have hrun : ({ s.posix with lastError := none } : Posix ε).Settled s.streams := h
        have hrun := hrun.run (Syscall.calls_of_decode hc _)
        rw [(Syscall.orderly_of_decode hc s).2] at hrun
        rw [Posix.Settled, ht, hw]
        exact hrun
  | dropPool p => exact Posix.Settled.dropPool h p
  | _ => exact hact.elim

/-- What every act of calling preserves, every history of calls preserves. -/
theorem run_induction_of_performs {P : Session ε → Prop}
    (hstep : ∀ s act, act.Calls s → P s → P (s.step act)) {s : Session ε} (hs : P s)
    {acts : List Act} (h : s.Performs acts) : P (s.run acts) := by
  induction acts generalizing s with
  | nil => exact hs
  | cons act acts ih => exact ih (hstep s act h.1 hs) h.2

/-- After every history of calls the accounts are settled. -/
theorem New.settled_run (hs : s.New) (hcap : s.posix.table.capacity ≤ Fd.count) {acts : List Act}
    (h : s.Performs acts) : (s.run acts).Settled :=
  run_induction_of_performs (P := Settled) settled_step (hs.settled hcap) h

/-- **Whatever is opened is closed, and no more than once.**  At every point of a history of calls
of a session whose table has no more slots than there are descriptors, whatever the hooks answer: a
file, device or socket that is bound to a descriptor was opened once more than it was asked to
close, and one that is not bound as often.  The same holds of a directory whose slot is held, and of
one whose slot is free. -/
theorem New.openings_balanced (hs : s.New) (hcap : s.posix.table.capacity ≤ Fd.count)
    {acts : List Act} (h : s.Performs acts) :
    let p := (s.run acts).posix
    (∀ o, (∃ fd, p.table.io? fd = some o) →
      p.world.openings (.io o) = p.world.closings (.io o) + 1) ∧
    (∀ o, (¬ ∃ fd, p.table.io? fd = some o) →
      p.world.openings (.io o) = p.world.closings (.io o)) ∧
    (∀ d : DirectoryId, (p.world.pools (.directories d.pool)).isHeld d.slot = true →
      p.world.openings (.directory d) = p.world.closings (.directory d) + 1) ∧
    ∀ d : DirectoryId, (p.world.pools (.directories d.pool)).isHeld d.slot = false →
      p.world.openings (.directory d) = p.world.closings (.directory d) := by
  intro p
  obtain ⟨-, hsound, heven, hholds⟩ := hs.settled_run hcap h
  have hbound : ∀ o, (∃ fd, p.table.io? fd = some o) ↔
      p.world.InUse (s.run acts).streams (.io o) := by
    intro o
    rw [World.InUse, Option.isSome_iff_exists]
    exact exists_congr fun fd => hsound.agrees.io?_iff fd o
  have hheld : ∀ d : DirectoryId, (p.world.pools (.directories d.pool)).isHeld d.slot = true ↔
      p.world.InUse (s.run acts).streams (.directory d) := hholds.isHeld_iff
  refine ⟨fun o ho => ?_, fun o ho => ?_, fun d hd => ?_, fun d hd => ?_⟩
  · exact heven.openings_of_inUse ((hbound o).mp ho)
  · exact heven.openings_of_not_inUse fun huse => ho ((hbound o).mpr huse)
  · exact heven.openings_of_inUse ((hheld d).mp hd)
  · refine heven.openings_of_not_inUse fun huse => ?_
    rw [(hheld d).mpr huse] at hd
    cases hd

/-- A device that was opened a second time while it was bound was closed for that, and is still
bound; a directory that was read was closed, and its slot is free. -/
theorem openings_balanced_of_reopen :
    let s := usual.run [.call (.registerDevice ⟨0⟩), .call (.setRoot ⟨0⟩ none ⟨0⟩),
      .call (.openPath "/dev/console" ⟨0⟩ 0), .call (.openPath "/dev/console" ⟨0⟩ 0),
      .call (.openDirectory "/b"), .call (.closeDirectory ⟨0, 0⟩)]
    s.posix.world.openings (.io (.device ⟨0⟩)) = 2 ∧
      s.posix.world.openings (.io (.device ⟨0⟩)) =
        s.posix.world.closings (.io (.device ⟨0⟩)) + 1 ∧
      s.posix.world.openings (.directory ⟨0, 0⟩) = s.posix.world.closings (.directory ⟨0, 0⟩) := by
  intro s
  have hperforms : usual.Performs [.call (.registerDevice ⟨0⟩), .call (.setRoot ⟨0⟩ none ⟨0⟩),
      .call (.openPath "/dev/console" ⟨0⟩ 0), .call (.openPath "/dev/console" ⟨0⟩ 0),
      .call (.openDirectory "/b"), .call (.closeDirectory ⟨0, 0⟩)] := by
    refine ⟨trivial, trivial, trivial, trivial, trivial, ?_, trivial⟩
    change _ ∈ Session.streams _
    decide +kernel
  obtain ⟨hbound, -, -, hfree⟩ := new_usual.openings_balanced (by decide) hperforms
  refine ⟨by decide +kernel, hbound _ ⟨3, by decide +kernel⟩, hfree _ (by decide +kernel)⟩

/-- **With one slot more than there are descriptors** a file may be open without one.  When all
slots are filled, the last file was opened once and never closed, but is bound to no descriptor. -/
theorem open_without_descriptor :
    let s := roomy (Fd.count + 1)
    let p := (s.run (crowd (Fd.count - 2))).posix
    let o := file (Fd.count - 3)
    s.New ∧ s.Performs (crowd (Fd.count - 2)) ∧ p.world.openings (.io o) = 1 ∧
      p.world.closings (.io o) = 0 ∧ ¬ ∃ fd, p.table.io? fd = some o := by
  intro s p o
  have h : Crowded (Fd.count + 1) (Fd.count - 2) p := crowded_run (by decide)
  exact ⟨new_roomy (by decide), performs_crowd s _, (h.openings _).trans (if_pos (by decide)),
    h.closings _, fun ⟨fd, hfd⟩ => h.io?_ne (by decide) fd hfd⟩

end Session

end PosixVfs
