import PosixVfs.Proofs.Descriptor.Closing
import PosixVfs.Proofs.Posix.Isolation
import PosixVfs.Proofs.Posix.LastError
import PosixVfs.Proofs.Session.Balance

/-!
# Proofs/Session/Closing — closing always completes and touches nothing else

After every orderly history, closing a descriptor or a directory stream asks the object behind it
once, lets it retire whatever it answers, and changes nothing else
(`Session.New.closing_completes`).  Closing everything comes to the same as closing the bound
descriptors one by one (`Session.New.closeAll_closes_each`).
-/

namespace PosixVfs

variable {ε : Type} [Embedder ε]

/-! ## One call -/

namespace Posix

variable {p : Posix ε} {streams : List DirectoryId} {fd : Fd} {o : IoId}

/-- Recording how a call ended asks nothing. -/
theorem asked_track {α : Type} {w : World ε} {events : List Event} {r : Except Errno α × Posix ε}
    (h : w.Asked events r.2.world) : w.Asked events (track r).2.world := by
  rcases r with ⟨e | a, p⟩
  · exact h.note _
  · exact h

/-- Closing a descriptor closes the object that it is bound to. -/
theorem close_of_io? (h : p.table.io? fd = some o) :
    p.close fd = track (p.inTable (o.close p.table p.world)) := by
  rw [close, object_of_io? h]

/-- Closing a descriptor that is not bound is refused. -/
theorem close_unbound (h : p.table.io? fd = none) :
    p.EndsBy [] (.error .badFileDescriptor) (p.close fd) := by
  rw [close, object_of_io?_none h]
  exact p.endsBy_refused _

/-- Closing has nothing to do with the mount table and the device registry. -/
theorem mounts_registry_close (p : Posix ε) (fd : Fd) :
    (p.close fd).2.mounts = p.mounts ∧ (p.close fd).2.registry = p.registry := by
  rw [close, mounts_track, registry_track]
  split <;> exact ⟨rfl, rfl⟩

namespace Accounted

variable (h : p.Accounted streams)

include h

/-- **Closing a descriptor** asks the object once, has its answer for a result, unbinds the
descriptor and lets the object retire. -/
theorem asked_close (hio : p.table.io? fd = some o) :
    (p.world.retired [.io o]).Asked [⟨.closing o, (p.close fd).1⟩] (p.close fd).2.world := by
  obtain ⟨i, -, -, hasked⟩ := IoId.close_bound h hio
  rw [close_of_io? hio, fst_track]
  exact asked_track hasked

/-- The slot of the descriptor is empty afterwards, and all others are as they were. -/
theorem table_close (hio : p.table.io? fd = some o) :
    ∃ i, fd.index? p.table.capacity = some i ∧ (p.close fd).2.table = p.table.set i none := by
  obtain ⟨i, hi, ht, -⟩ := IoId.close_bound h hio
  rw [close_of_io? hio, table_track]
  exact ⟨i, hi, ht⟩

theorem closes (hio : p.table.io? fd = some o) :
    p.table.Closes p.world [(fd, o)] (p.close fd).2.table (p.close fd).2.world := by
  have hone : p.table.Closes p.world [(fd, o)] (o.close p.table p.world).2.1
      (o.close p.table p.world).2.2 := .of_close h hio
  refine ⟨?_, ?_, _, ?_, h.asked_close hio⟩
  · rw [close_of_io? hio, table_track]
    exact hone.capacity
  · rw [close_of_io? hio, table_track]
    exact hone.io?
  · rfl

/-- **Closing a stream** asks the directory once, has its answer for a result, and lets the
directory retire. -/
theorem asked_closeDirectory (d : DirectoryId) :
    (p.world.retired [.directory d]).Asked [⟨.closeDirectory d, (p.closeDirectory d).1⟩]
      (p.closeDirectory d).2.world := by
  rcases ha : p.world.ask (.closeDirectory d) with ⟨answer, w₁⟩
  have h₁ : p.table.Accounted w₁ streams :=
    Table.Accounted.of_books h ((World.After.refl p.world).ask ha).books
  have hback := h₁.ledger.asked_giveBack (x := .directory d) nofun
  rw [Posix.closeDirectory, fst_track, DirectoryId.close, ha]
  exact asked_track (((World.Asked.ask ha).retired _).trans hback)

/-- **Closing some descriptors one by one** closes what is bound to them. -/
theorem closes_after {bindings : List (Fd × IoId)}
    (hbound : ∀ b ∈ bindings, p.table.io? b.1 = some b.2)
    (hnodup : (bindings.map Prod.fst).Nodup) :
    p.table.Closes p.world bindings (p.after (bindings.map fun b => .close b.1)).table
      (p.after (bindings.map fun b => .close b.1)).world := by
  rw [after, List.foldl_map]
  exact Table.Closes.foldl Posix.table Posix.world
    (fun s b hs hb => ⟨Accounted.closes hs hb, Accounted.close hs b.1⟩) h hbound hnodup

/-- **Closing everything** closes all that is bound. -/
theorem closes_closeAll (hcap : p.table.capacity ≤ Fd.count) :
    p.table.Closes p.world p.table.bound p.closeAll.2.table p.closeAll.2.world := by
  have hone (s : Table × World ε) (b : Fd × IoId) (hs : s.1.Accounted s.2 streams)
      (hb : s.1.io? b.1 = some b.2) : s.1.Closes s.2 [b] (closeOne s b.2).1 (closeOne s b.2).2 ∧
        (closeOne s b.2).1.Accounted (closeOne s b.2).2 streams :=
    ⟨(Table.Closes.of_close hs hb).noteFailure _ _,
      (hs.close_of_io? hb).of_books ((World.After.refl _).noteFailure _ fun _ => rfl).books⟩
  have hfold := Table.Closes.foldl Prod.fst Prod.snd hone (s := (p.table, p.world)) h
    (fun b hb => (Table.mem_bound_iff hcap).mp hb) (Table.nodup_map_fst_bound hcap)
  rw [← List.foldl_map] at hfold
  exact hfold

end Accounted

/-- Closing some descriptors has nothing to do with the mount table and the device registry. -/
theorem mounts_registry_after_close (p : Posix ε) (fds : List Fd) :
    (p.after (fds.map .close)).mounts = p.mounts ∧
      (p.after (fds.map .close)).registry = p.registry := by
  rw [after, List.foldl_map]
  refine List.foldlRecOn fds _
    (motive := fun q : Posix ε => q.mounts = p.mounts ∧ q.registry = p.registry) ⟨rfl, rfl⟩
    fun q hq fd _ => ?_
  obtain ⟨hmounts, hregistry⟩ := q.mounts_registry_close fd
  exact ⟨hmounts.trans hq.1, hregistry.trans hq.2⟩

/-- **Closing everything** comes to the same as closing the bound descriptors one by one, but for
the error that is recorded and for the log. -/
theorem Accounted.closeAll_eq_after (h : p.Accounted streams)
    (hcap : p.table.capacity ≤ Fd.count) :
    let q := p.after (p.table.bound.map fun b => .close b.1)
    p.closeAll.2 =
      { q with lastError := none, world := { q.world with log := p.closeAll.2.world.log } } := by
  intro q
  have hall := h.closes_closeAll hcap
  have heach : p.table.Closes p.world p.table.bound q.table q.world :=
    h.closes_after (fun b => (Table.mem_bound_iff hcap).mp) (Table.nodup_map_fst_bound hcap)
  obtain ⟨events, hhooks, hasked⟩ := hall.asked
  obtain ⟨events', hhooks', hasked'⟩ := heach.asked
  have hworld := hasked'.eq_of_hooks hasked (hhooks'.trans hhooks.symm)
  obtain ⟨hmounts, hregistry⟩ : q.mounts = p.mounts ∧ q.registry = p.registry := by
    have hafter := p.mounts_registry_after_close (p.table.bound.map Prod.fst)
    rwa [List.map_map] at hafter
  calc p.closeAll.2
      = { p with table := p.closeAll.2.table, lastError := none, world := p.closeAll.2.world } := rfl
    _ = { q with lastError := none, world := { q.world with log := p.closeAll.2.world.log } } := by
      rw [hmounts, hregistry, heach.eq_new hcap, hall.eq_new hcap, ← hworld]

end Posix

/-! ## Histories -/

namespace Session

variable {s : Session ε}

/-- **Closing always completes, and touches nothing else.**  After every orderly history, whatever
was opened, closed, mounted, unmounted or dropped in it, and however many slots the table has:
closing a descriptor that is bound asks the object to close, and nothing else, and its answer is the
result.  Whatever this is, the slot of the descriptor is empty then and all others are as before, so
every other descriptor is bound as it was; the object has retired, and its slot is free if the pool
is alive.  No other object has lost anything, and mount points and devices are as before.  Closing
the descriptor again is refused and asks nothing, as long as nothing else is bound to it.  So it is
with a directory stream, but for the descriptor. -/
theorem New.closing_completes (hs : s.New) {acts : List Act} (h : s.Admits acts) :
    let t := s.run acts
    let p := t.posix
    (∀ fd o, p.table.io? fd = some o →
      let p' := (p.close fd).2
      (p.world.retired [.io o]).Asked [⟨.closing o, (p.close fd).1⟩] p'.world ∧
      (∃ i, fd.index? p.table.capacity = some i ∧ p'.table = p.table.set i none) ∧
      (∀ fd', p'.table.io? fd' = if fd' = fd then none else p.table.io? fd') ∧
      p.world.Frees (.io o) p'.world ∧
      p'.mounts = p.mounts ∧ p'.registry = p.registry ∧
      ∀ later : List Act,
        let q := (t.run (.call (.close fd) :: later)).posix
        q.table.io? fd = none → q.EndsBy [] (.error .badFileDescriptor) (q.close fd)) ∧
    ∀ d ∈ t.streams,
      let p' := (p.closeDirectory d).2
      (p.world.retired [.directory d]).Asked [⟨.closeDirectory d, (p.closeDirectory d).1⟩]
        p'.world ∧
      p'.table = p.table ∧
      p.world.Frees (.directory d) p'.world ∧
      p'.mounts = p.mounts ∧ p'.registry = p.registry := by
  intro t p
  have haccounted : p.Accounted t.streams := hs.accounted_run h
  refine ⟨fun fd o hio => ?_, fun d hd => ?_⟩
  · have hasked := haccounted.asked_close hio
    have hcloses := haccounted.closes hio
    have huse : p.world.InUse t.streams (.io o) := by
      change (p.world.descriptor o).isSome
      rw [haccounted.truthful fd o hio]
      rfl
    obtain ⟨hmounts, hregistry⟩ := p.mounts_registry_close fd
    refine ⟨hasked, haccounted.table_close hio, fun fd' => ?_,
      haccounted.ledger.frees hasked (List.mem_singleton_self _) huse, hmounts, hregistry,
      fun later => Posix.close_unbound⟩
    rw [hcloses.io?]
    simp only [List.map_cons, List.map_nil, List.mem_singleton]
  · have hasked := haccounted.asked_closeDirectory d
    refine ⟨hasked, ?_, haccounted.ledger.frees hasked (List.mem_singleton_self _) hd, ?_, ?_⟩
    · rw [Posix.closeDirectory, Posix.table_track]
      rfl
    · rw [Posix.closeDirectory, Posix.mounts_track]
      rfl
    · rw [Posix.closeDirectory, Posix.registry_track]
      rfl

/-- A file whose file system was unmounted and a socket whose pool was replaced go back to where
they came from. -/
theorem closing_completes_of_replaced :
    let t := usual.run [.call (.mount ⟨0⟩ "/m/" none ⟨0⟩), .call (.openPath "/m/a" ⟨0⟩ 0),
      .call (.openDirectory "/m/b"), .call (.umount "/m/" ⟨0⟩), .call (.setSocketPool 0),
      .call (.socket 2 1 0), .call (.setSocketPool 1)]
    let p := t.posix
    p.table.io? 3 = some (.file ⟨0, 0⟩) ∧ p.table.io? 4 = some (.socket ⟨0, 0⟩) ∧
      ⟨0, 0⟩ ∈ t.streams ∧
      ((p.close 3).2.world.pools (.files 0)).isHeld 0 = false ∧
      (p.close 3).2.table.io? 4 = some (.socket ⟨0, 0⟩) ∧
      ((p.close 4).2.world.pools (.sockets 0)).isHeld 0 = false ∧
      ((p.closeDirectory ⟨0, 0⟩).2.world.pools (.directories 0)).isHeld 0 = false := by
  intro t p
  have horderly : usual.Admits [.call (.mount ⟨0⟩ "/m/" none ⟨0⟩), .call (.openPath "/m/a" ⟨0⟩ 0),
      .call (.openDirectory "/m/b"), .call (.umount "/m/" ⟨0⟩), .call (.setSocketPool 0),
      .call (.socket 2 1 0), .call (.setSocketPool 1)] := by
    refine ⟨trivial, trivial, trivial, trivial, ?_, trivial, ?_, trivial⟩
    all_goals
      change World.poolAlive _ _ = true
      decide +kernel
  obtain ⟨hclose, hcloseDirectory⟩ := new_usual.closing_completes horderly
  have hfile : p.table.io? 3 = some (.file ⟨0, 0⟩) := by decide +kernel
  have hsocket : p.table.io? 4 = some (.socket ⟨0, 0⟩) := by decide +kernel
  have hstream : ⟨0, 0⟩ ∈ t.streams := by decide +kernel
  obtain ⟨-, -, hio, hfreesFile, -⟩ := hclose 3 _ hfile
  obtain ⟨-, -, -, hfreesSocket, -⟩ := hclose 4 _ hsocket
  obtain ⟨-, -, hfreesStream, -⟩ := hcloseDirectory _ hstream
  refine ⟨hfile, hsocket, hstream, ?_, ?_, ?_, ?_⟩
  · exact (hfreesFile (.files 0) 0 (by decide +kernel) (by decide +kernel) rfl).2
  · rw [hio, if_neg (by decide)]
    exact hsocket
  · exact (hfreesSocket (.sockets 0) 0 (by decide +kernel) (by decide +kernel) rfl).2
  · exact (hfreesStream (.directories 0) 0 (by decide +kernel) (by decide +kernel) rfl).2

/-- **Closing everything is closing the bound descriptors one by one.**  After every orderly history
of a session whose table has no more slots than there are descriptors, the list of what is bound has
every bound descriptor once, in ascending order, and no object twice.  Closing everything leaves the
context as it would be if they were closed by calls in this order, except that no error is recorded
and the log may differ.  Each object is asked to close, once and in this order, whatever the others
answer, and nothing else is asked.  The table is empty then, no object has a descriptor, and the
slots of the objects that were bound are free, while open streams keep theirs.  The result is how
many descriptors were bound. -/
theorem New.closeAll_closes_each (hs : s.New) (hcap : s.posix.table.capacity ≤ Fd.count)
    {acts : List Act} (h : s.Admits acts) :
    let t := s.run acts
    let p := t.posix
    let bindings := p.table.bound
    let q := p.after (bindings.map fun b => .close b.1)
    let p' := p.closeAll.2
    (bindings.map Prod.fst).Pairwise (· < ·) ∧
      (∀ fd o, (fd, o) ∈ bindings ↔ p.table.io? fd = some o) ∧ (bindings.map Prod.snd).Nodup ∧
    p' = { q with lastError := none, world := { q.world with log := p'.world.log } } ∧
    (∃ events, events.map Event.hook = bindings.map (fun b => .closing b.2) ∧
      (p.world.retired (bindings.map fun b => .io b.2)).Asked events p'.world) ∧
    p'.table = .new p.table.capacity ∧ (∀ o, p'.world.descriptor o = none) ∧
    (∀ b ∈ bindings, p.world.Frees (.io b.2) p'.world) ∧
    (∀ d ∈ t.streams, ∀ pool slot, p.world.poolAlive pool = true →
      slot < (p.world.pools pool).capacity → .directory d = pool.member slot →
        (p'.world.pools pool).isHeld slot = true) ∧
    p.closeAll.1 = p.table.inUse ∧ p'.lastError = none := by
  intro t p bindings q p'
  have haccounted : p.Accounted t.streams := hs.accounted_run h
  have hsound : p.Sound := hs.sound_run hcap acts
  have hagrees := hsound.agrees
  have hcap := hagrees.capacity_le
  have hall : p.table.Closes p.world bindings p'.table p'.world := haccounted.closes_closeAll hcap
  have htable : p'.table = .new p.table.capacity := hall.eq_new hcap
  obtain ⟨events, hhooks, hasked⟩ := hall.asked
  refine ⟨Table.pairwise_bound hcap, fun fd o => Table.mem_bound_iff hcap, hagrees.nodup_bound,
    haccounted.closeAll_eq_after hcap, ⟨events, hhooks, hasked⟩, htable, fun o => ?_, fun b hb => ?_,
    fun d hd pool slot ha hlt hslot => ?_, ?_, rfl⟩
  · -- no descriptor is found in an empty table
    have hagrees' : p'.table.Agrees p'.world := hsound.closeAll.agrees
    rw [Option.eq_none_iff_forall_ne_some]
    intro fd hfd
    rw [← hagrees'.io?_iff, htable, Table.io?_new] at hfd
    cases hfd
  · refine haccounted.ledger.frees hasked ?_ ?_
    · exact List.mem_map_of_mem (f := fun b => ObjectId.io b.2) hb
    · exact hagrees.isSome_of_mem_bound (List.mem_map_of_mem (f := Prod.snd) hb)
  · have hnot : pool.member slot ∉ bindings.map fun b => ObjectId.io b.2 := by
      rw [← hslot, List.mem_map]
      rintro ⟨b, -, hb⟩
      cases hb
    exact haccounted.ledger.isHeld_of_not_mem hasked hnot (hslot ▸ hd) ha hlt
  · change (p.table.bound.map Prod.snd).length = _
    rw [List.length_map, Table.length_bound]

/-- Closing everything where the first object and the second one refuse to close, and a stream is
open. -/
theorem closeAll_closes_each_of_failing :
    let script := (({} : Script).enqueue (.io (.device ⟨0⟩)) "close"
        [{ error := some .fault }]).enqueue (.io (.file ⟨0, 0⟩)) "close" [{ error := some .busy }]
    let t := (scripted script).run [.install 1 (.device ⟨0⟩), .call (.setRoot ⟨0⟩ none ⟨0⟩),
      .call (.openPath "/a" ⟨0⟩ 0), .call (.openDirectory "/b"), .call (.setSocketPool 0),
      .call (.socket 2 1 0)]
    let p := t.posix
    p.table.bound = [(1, .device ⟨0⟩), (3, .file ⟨0, 0⟩), (4, .socket ⟨0, 0⟩)] ∧
      (p.close 1).1 = .error .fault ∧ (p.close 3).1 = .error .busy ∧
      p.closeAll.2.table = .new p.table.capacity ∧
      (p.closeAll.2.world.pools (.files 0)).isHeld 0 = false ∧
      (p.closeAll.2.world.pools (.sockets 0)).isHeld 0 = false ∧
      (p.closeAll.2.world.pools (.directories 0)).isHeld 0 = true ∧
      p.closeAll.1 = p.table.inUse ∧ p.table.inUse = 3 := by
  have horderly : (scripted ((({} : Script).enqueue (.io (.device ⟨0⟩)) "close"
        [{ error := some .fault }]).enqueue (.io (.file ⟨0, 0⟩)) "close"
        [{ error := some .busy }])).Admits [.install 1 (.device ⟨0⟩), .call (.setRoot ⟨0⟩ none ⟨0⟩),
      .call (.openPath "/a" ⟨0⟩ 0), .call (.openDirectory "/b"), .call (.setSocketPool 0),
      .call (.socket 2 1 0)] := by
    refine ⟨World.not_pooled_device _ _, trivial, trivial, trivial, ?_, trivial, trivial⟩
    change World.poolAlive _ _ = true
    decide +kernel
  obtain ⟨-, hmem, -, -, -, htable, -, hfrees, hkeeps, hcount, -⟩ :=
    (new_scripted _).closeAll_closes_each (capacity_scripted_le _) horderly
  have hfile := (hmem 3 (.file ⟨0, 0⟩)).mpr (by decide +kernel)
  have hsocket := (hmem 4 (.socket ⟨0, 0⟩)).mpr (by decide +kernel)
  refine ⟨by decide +kernel, by decide +kernel, by decide +kernel, htable, ?_, ?_, ?_, hcount,
    by decide +kernel⟩
  · exact (hfrees _ hfile (.files 0) 0 (by decide +kernel) (by decide +kernel) rfl).2
  · exact (hfrees _ hsocket (.sockets 0) 0 (by decide +kernel) (by decide +kernel) rfl).2
  · exact hkeeps ⟨0, 0⟩ (by decide +kernel) (.directories 0) 0 (by decide +kernel)
      (by decide +kernel) rfl

/-- **With one slot more than there are descriptors** closing everything need not empty the table.
When all slots are filled, the last file stays in its slot, since no descriptor stands for that. -/
theorem slot_filled_after_closeAll :
    let s := roomy (Fd.count + 1)
    let p := (s.run (crowd (Fd.count - 2))).posix
    let last := Fd.count - 3
    s.New ∧ s.Admits (crowd (Fd.count - 2)) ∧ p.table.object? (last + 3) = some (file last) ∧
      p.closeAll.2.table.object? (last + 3) = some (file last) ∧
      p.closeAll.2.table ≠ .new p.table.capacity := by
  intro s p last
  have h : Crowded (Fd.count + 1) (Fd.count - 2) p := crowded_run (by decide)
  have hlast : p.table.object? (last + 3) = some (file last) := h.object?_file (by decide)
  have hkept := (p.object?_closeAll_of_count_le (i := last + 3) (by decide)).trans hlast
  refine ⟨new_roomy (by decide), admits_crowd s _, hlast, hkept, fun hnew => ?_⟩
  rw [hnew, Table.object?_new] at hkept
  cases hkept

end Session

end PosixVfs
