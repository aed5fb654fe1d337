import Mathlib.Logic.ExistsUnique
import PosixVfs.Proofs.Session.Agreement
import PosixVfs.Proofs.Session.Crowding
import PosixVfs.Proofs.Session.Refusal

/-!
# Proofs/Session/Balance — no slot is leaked, and none is freed early

Along an orderly history the accounts stay in order (`Session.accounted_step`).  So a slot of a pool
that is alive is held exactly while its file or socket is bound to one descriptor, or while one
stream on its directory is open (`Session.New.slots_balanced`), as long as every slot of the table has
a descriptor (`Session.slot_held_without_descriptor`).
-/

namespace PosixVfs

variable {ε : Type}

/-- Table and world keep the accounts, with these streams open. -/
def Posix.Accounted (p : Posix ε) (streams : List DirectoryId) : Prop :=
  p.table.Accounted p.world streams

namespace Posix.Accounted

variable {p p' : Posix ε} {streams : List DirectoryId}

theorem tidy (h : p.Accounted streams) : p.Tidy := Table.Accounted.tidy h

theorem untouched (h : p.Accounted streams) (hu : p.Untouched p') : p'.Accounted streams := by
  obtain ⟨events, ha, -⟩ := hu.restores
  rw [Accounted, hu.table]
  exact Table.Accounted.of_books h ha.books

theorem binds (h : p.Accounted streams) {o : IoId} {i : Nat} (hb : p.Binds o i p') :
    p'.Accounted streams := by
  obtain ⟨w₁, events, hf, ha, -⟩ := hb.after
  obtain ⟨-, hlt, -⟩ := Table.firstFree?_eq_some_iff.mp hb.free
  rw [Accounted, hb.table]
  exact Table.Accounted.bind h hf hlt (fun _ => Fd.eq_ofIndex_of_index?) hb.unbound ha

theorem opensStream (h : p.Accounted streams) {i slot : Nat} (hs : p.Streams i slot p') :
    p'.Accounted (⟨i, slot⟩ :: streams) := by
  obtain ⟨events, ha, -⟩ := hs.after
  rw [Accounted, hs.table]
  exact Table.Accounted.openStream h hs.offers ha

theorem track {α : Type} {r : Except Errno α × Posix ε} (h : r.2.Accounted streams) :
    (Posix.track r).2.Accounted streams :=
  h.untouched (.track (.refl r.2))

/-- Pools may die, as long as nothing else changes. -/
theorem of_alive (h : p.Accounted streams) {w : World ε}
    (hheld : ∀ q, (w.pools q).held = (p.world.pools q).held) (howner : w.owner = p.world.owner)
    (hd : w.descriptor = p.world.descriptor)
    (halive : ∀ q, w.poolAlive q = true → p.world.poolAlive q = true) :
    p.table.Accounted w streams where
  truthful := h.truthful.congr hd
  nodup := h.nodup
  ledger := h.ledger.congr hheld howner halive fun _ _ _ => World.inUse_congr hd _

/-- Sockets are to come from a pool that is alive. -/
theorem setSocketPool (h : p.Accounted streams) {i : Nat}
    (ha : p.world.poolAlive (.sockets i) = true) : (p.setSocketPool i).Accounted streams :=
  h.of_alive (fun _ => rfl) rfl rfl fun _ => World.poolAlive_of_socketPool ha

/-- A pool that its maker let go of may die. -/
theorem dropPool (h : p.Accounted streams) (q : PoolId) :
    p.table.Accounted (p.world.dropPool q) streams :=
  h.of_alive (p.world.held_dropPool q) rfl rfl fun _ => World.poolAlive_of_dropPool

/-- Objects that lie in no pool are installed by hand. -/
theorem install (h : p.Accounted streams) {o : IoId} (ho : ¬ p.world.Pooled (.io o)) (fd : Fd) :
    (p.table.install p.world fd o).2.1.Accounted (p.table.install p.world fd o).2.2 streams := by
  obtain ⟨e, hi⟩ | ⟨i, hi, -, hd, hi'⟩ := p.table.install_cases p.world o fd
  · rw [hi]
    exact h
  · rw [hi']
    exact Table.Accounted.bind h (.unpooled ho) (Fd.lt_of_index? hi)
      (fun _ hi' => Fd.index?_inj hi' hi) hd ((World.After.refl _).setDescriptor o _)

variable [Embedder ε]

theorem close (h : p.Accounted streams) (fd : Fd) : (p.close fd).2.Accounted streams := by
  refine .track ?_
  rw [object]
  rcases ho : p.table.io? fd with _ | o
  · exact h
  · exact Table.Accounted.close_of_io? h ho

theorem closeAll (h : p.Accounted streams) : p.closeAll.2.Accounted streams :=
  p.accounted_closeAll h

theorem closeDirectory (h : p.Accounted streams) (d : DirectoryId) :
    (p.closeDirectory d).2.Accounted (streams.erase d) := by
  refine .track ?_
  exact Table.Accounted.closeStream h d (((World.After.refl _).ask rfl).giveBack _)

/-- **Every call** keeps the accounts. -/
theorem run (h : p.Accounted streams) {c : Call}
    (hc : ∀ i, c = .setSocketPool i → p.world.poolAlive (.sockets i) = true) :
    (c.run p).2.Accounted (c.streams (c.run p).1 streams) := by
  cases h.tidy.effect c with
  | untouched hu hstreams =>
      rw [hstreams]
      exact h.untouched hu
  | binds o i hb hstreams =>
      rw [hstreams]
      exact h.binds hb
  | opensStream i slot hs hstreams =>
      rw [hstreams]
      exact h.opensStream hs
  | setSocketPool i hi => exact hi ▸ h.setSocketPool (hc i hi)
  | closeDirectory d hd => exact hd ▸ h.closeDirectory d
  | close fd hfd => exact hfd ▸ h.close fd
  | closeAll hall => exact hall ▸ h.closeAll

end Posix.Accounted

/-! ## Histories -/

namespace Session

variable {s : Session ε}

/-- Table and world keep the accounts for the streams that are open. -/
def Accounted (s : Session ε) : Prop := s.posix.Accounted s.streams

theorem New.accounted (h : s.New) : s.Accounted := by
  obtain ⟨c, w, hw, hp⟩ := h.exists_build
  have hledger : w.Ledger (w.InUse []) := by
    refine ⟨fun x p hx => ?_, fun p slot _ => ?_, fun p slot _ => ?_⟩
    · rw [hw.owner] at hx
      cases hx
    · rw [hw.owner]
      refine iff_of_false (by simp) fun huse => ?_
      rcases hx : p.member slot with o | d | k | k <;> rw [hx] at huse
      · rw [World.InUse, hw.descriptor] at huse
        cases huse
      · cases huse
      all_goals exact huse
    · rw [hw.owner, hw.isHeld]
      simp
  have htruthful : s.posix.table.Truthful s.posix.world := by
    rw [hp]
    exact .new _ _
  refine ⟨htruthful, by rw [h.streams]; exact .nil, ?_⟩
  rw [h.streams, hp]
  exact hledger.of_books (World.After.books (Posix.after_build c w)) fun x _ =>
    World.inUse_congr rfl x

variable [Embedder ε]

/-- **No orderly act** brings the accounts into disorder. -/
theorem accounted_step (s : Session ε) (act : Act) (hact : act.Orderly s) (h : s.Accounted) :
    (s.step act).Accounted := by
  cases act with
  | call c =>
      refine Posix.Accounted.run h fun i hi => ?_
      subst hi
      exact hact
  | raw call =>
      obtain ⟨e, -, ht, hw⟩ | ⟨c, hc, ht, hw⟩ := call.handle_cases s.posix
      · change (call.handle s.posix).2.Accounted s.streams
        rw [Posix.Accounted, ht, hw]
        exact h
      · obtain ⟨horderly, hstreams⟩ := Syscall.orderly_of_decode hc s
        have hrun : ({ s.posix with lastError := none } : Posix ε).Accounted s.streams := h
        have hrun := hrun.run (c := c) fun i hi => by subst hi; exact horderly
        rw [hstreams] at hrun
        change (call.handle s.posix).2.Accounted s.streams
        rw [Posix.Accounted, ht, hw]
        exact hrun
  | install fd o => exact Posix.Accounted.install h hact fd
  | dropPool p => exact Posix.Accounted.dropPool h p
  | _ => exact hact.elim

/-- After every orderly history the accounts are in order. -/
theorem New.accounted_run (hs : s.New) {acts : List Act} (h : s.Admits acts) :
    (s.run acts).Accounted :=
  run_induction_of_admits (P := Accounted) accounted_step hs.accounted h

/-- **No slot is leaked and none is freed early.**  After every orderly history of a session whose
table has no more slots than there are descriptors, and for every slot of a pool that is alive: the
slot is held exactly if its object is attached to a pool; a file or socket is then bound to one
descriptor, and a directory is then read by one open stream. -/
theorem New.slots_balanced (hs : s.New) (hcap : s.posix.table.capacity ≤ Fd.count) {acts : List Act}
    (h : s.Admits acts) :
    let p := (s.run acts).posix
    ∀ pool slot, p.world.poolAlive pool = true → slot < (p.world.pools pool).capacity →
      ((p.world.pools pool).isHeld slot = true ↔ (p.world.owner (pool.member slot)).isSome) ∧
      (∀ o, pool.member slot = .io o →
        ((p.world.pools pool).isHeld slot = true ↔ ∃! fd, p.table.io? fd = some o)) ∧
      ∀ d, pool.member slot = .directory d →
        ((p.world.pools pool).isHeld slot = true ↔ (s.run acts).streams.count d = 1) := by
  intro p pool slot halive hlt
  obtain ⟨-, hnodup, hledger⟩ := hs.accounted_run h
  have hagrees : p.table.Agrees p.world := (hs.sound_run hcap acts).agrees
  have hheld := hledger.held_iff pool slot halive
  have huse := hledger.attached_iff pool slot hlt
  refine ⟨?_, fun o ho => ?_, fun d hd => ?_⟩
  · rw [hheld]
    refine ⟨fun ho => by rw [ho]; rfl, fun ho => ?_⟩
    obtain ⟨q, hq⟩ := Option.isSome_iff_exists.mp ho
    rw [hq, hledger.owner_eq hq]
  · rw [hheld, huse, ho]
    change (p.world.descriptor o).isSome ↔ _
    rw [Option.isSome_iff_exists]
    constructor
    · rintro ⟨fd, hfd⟩
      refine ⟨fd, (hagrees.io?_iff fd o).mpr hfd, fun fd' hfd' => ?_⟩
      rw [(hagrees.io?_iff fd' o).mp hfd'] at hfd
      exact Option.some.inj hfd
    · rintro ⟨fd, hfd, -⟩
      exact ⟨fd, (hagrees.io?_iff fd o).mp hfd⟩
  · rw [hheld, huse, hd]
    change d ∈ (s.run acts).streams ↔ _
    rw [hnodup.count]
    simp

/-- A file, a directory and a socket hold a slot each, and the socket holds it still when sockets
come from another pool. -/
theorem slots_balanced_of_open :
    let s := usual.run [.call (.setRoot ⟨0⟩ none ⟨0⟩), .call (.openPath "/a" ⟨0⟩ 0),
      .call (.openDirectory "/b"), .call (.setSocketPool 0), .call (.socket 2 1 0),
      .call (.setSocketPool 1)]
    (∃! fd, s.posix.table.io? fd = some (.file ⟨0, 0⟩)) ∧ s.streams.count ⟨0, 0⟩ = 1 ∧
      ∃! fd, s.posix.table.io? fd = some (.socket ⟨0, 0⟩) := by
  intro s
  have horderly : usual.Admits [.call (.setRoot ⟨0⟩ none ⟨0⟩), .call (.openPath "/a" ⟨0⟩ 0),
      .call (.openDirectory "/b"), .call (.setSocketPool 0), .call (.socket 2 1 0),
      .call (.setSocketPool 1)] := by
    refine ⟨trivial, trivial, trivial, ?_, trivial, ?_, trivial⟩
    all_goals
      change World.poolAlive _ _ = true
      decide +kernel
  have h := new_usual.slots_balanced (by decide) horderly
  refine ⟨?_, ?_, ?_⟩
  · exact ((h (.files 0) 0 (by decide +kernel) (by decide +kernel)).2.1 _ rfl).mp
      (by decide +kernel)
  · exact ((h (.directories 0) 0 (by decide +kernel) (by decide +kernel)).2.2 _ rfl).mp
      (by decide +kernel)
  · exact ((h (.sockets 0) 0 (by decide +kernel) (by decide +kernel)).2.1 _ rfl).mp
      (by decide +kernel)

/-- **With one slot more than there are descriptors** a slot may be held without one.  When all
slots are filled, the last file that was opened holds its slot of the pool, and is in the last slot
of the table.  But the number that it has is negative, and no descriptor finds it. -/
theorem slot_held_without_descriptor :
    let s := roomy (Fd.count + 1)
    let p := (s.run (crowd (Fd.count - 2))).posix
    let last := Fd.count - 3
    s.New ∧ s.Admits (crowd (Fd.count - 2)) ∧ p.world.poolAlive (.files 0) = true ∧
      last < (p.world.pools (.files 0)).capacity ∧ (PoolId.files 0).member last = .io (file last) ∧
      (p.world.pools (.files 0)).isHeld last = true ∧
      p.table.object? (last + 3) = some (file last) ∧
      p.world.descriptor (file last) = some (-2147483648) ∧
      ¬ ∃ fd, p.table.io? fd = some (file last) := by
  intro s p last
  have h : Crowded (Fd.count + 1) (Fd.count - 2) p := crowded_run (by decide)
  have hlast : last < Fd.count - 2 := by decide
  have hnumber : Fd.ofIndex (last + 3) = -2147483648 := by decide
  refine ⟨new_roomy (by decide), admits_crowd s _, h.poolAlive, ?_, rfl, ?_, h.object?_file hlast,
    ?_, fun ⟨fd, hfd⟩ => h.io?_ne (by decide) fd hfd⟩
  · rw [h.slots]
    decide
  · rw [h.isHeld, decide_eq_true hlast]
  · rw [h.descriptor, if_pos hlast, hnumber]

end Session

end PosixVfs
