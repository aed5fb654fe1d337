import PosixVfs.Proofs.Descriptor.BindingMap
import PosixVfs.Proofs.Posix.Convention

/-!
# Proofs/Posix/Numbering — which descriptor comes next

Every call that hands out a descriptor hands out the least one from 3 on that is free at that moment
(`Posix.HandsOut`), since all of them bind what they opened by `IoId.register`.  That the table
behind it is an injective bounded map with exactly this rule is `Table.refines_bindings_history`.
-/

namespace PosixVfs

variable {ε : Type}

namespace Posix

/-- In `p` the least spare descriptor was `fd`, and in `p'` an object is bound to it. -/
structure HandsOut (p : Posix ε) (fd : Fd) (p' : Posix ε) : Prop where
  least : IsLeast (p.table.bindings.spare p.table.capacity) fd
  bound : ∃ o, p'.table.bindings = p.table.bindings.insert fd o ∧ p'.world.descriptor o = some fd

variable {p : Posix ε} {w : World ε} {fd : Fd}

/-- Recording how the call ended makes no difference. -/
theorem HandsOut.track {p' : Posix ε} (h : p.HandsOut fd p') {α : Type} (r : Except Errno α) :
    p.HandsOut fd (Posix.track (r, p')).2 := by
  cases r <;> exact ⟨h.least, h.bound⟩

variable [Embedder ε]

/-- An object that is registered gets the least spare descriptor. -/
theorem handsOut_register (hcap : p.table.capacity ≤ Fd.count) {o : IoId}
    (h : (o.register p.table w).1 = .ok fd) :
    p.HandsOut fd (p.inTable (o.register p.table w)).2 := by
  obtain ⟨i, w', -, hi, hr, ha⟩ | ⟨answer, w', ⟨_, -, hr, -⟩ | ⟨-, -, hr, -⟩⟩ :=
    o.register_cases (t := p.table) (w := w)
  · rw [hr] at h ⊢
    obtain rfl := Except.ok.inj h
    have hlt := (Table.firstFree?_eq_some_iff.mp hi).2.1
    refine ⟨Table.isLeast_spare_of_firstFree? hcap hi, o,
      Table.bindings_set_some hcap (Fd.index?_ofIndex hcap hlt) o, ?_⟩
    rw [inTable, World.descriptor_of_books ha.books]
    exact assign_self ..
  · rw [hr] at h
    cases h
  · rw [hr] at h
    cases h

/-- **A path that is opened** gets the least spare descriptor. -/
theorem handsOut_openPath (hcap : p.table.capacity ≤ Fd.count) {path : String} {flags : OpenFlags}
    {mode : Mode} (h : (p.openPath path flags mode).1 = .ok fd) :
    p.HandsOut fd (p.openPath path flags mode).2 := by
  obtain ⟨o, w, hr, heq⟩ := p.exists_register_of_openPath h
  rw [heq]
  exact (handsOut_register hcap hr).track _

/-- **A socket that is made** gets the least spare descriptor. -/
theorem handsOut_socket (hcap : p.table.capacity ≤ Fd.count) {domain kind protocol : Int32}
    (h : (p.socket domain kind protocol).1 = .ok fd) :
    p.HandsOut fd (p.socket domain kind protocol).2 := by
  obtain ⟨o, w, hr, heq⟩ := p.exists_register_of_socket h
  rw [heq]
  exact (handsOut_register hcap hr).track _

/-- **A connection that is accepted** gets the least spare descriptor. -/
theorem handsOut_accept (hcap : p.table.capacity ≤ Fd.count) {listening : Fd}
    {peer : Option Address} (h : (p.accept listening).1 = .ok (fd, peer)) :
    p.HandsOut fd (p.accept listening).2 := by
  obtain ⟨o, w, hr, heq⟩ := p.exists_register_of_accept h
  rw [heq]
  exact (handsOut_register hcap hr).track _

end Posix

namespace Table

/-- **A table is an injective bounded map that hands out the least spare descriptor.**  In a world in
which nothing is bound yet it starts out empty.  After every history of a table of `n` descriptors,
of which there are no more than 2³¹, the table is a map from `0 … n - 1` to objects in which no
object occurs twice, and an object's own record of its descriptor is this map read backwards.  Every
act that the map refuses fails with the error that the map says, and changes nothing but the log;
every other one succeeds and does to the map what it is granted.  What is found at a descriptor,
whether it is bound, how many are and which are, in ascending order, is read off the map.  And in
every context, what is opened, made or accepted gets the least spare descriptor. -/
theorem refines_bindings_history [Embedder ε] (n : Nat) (hn : n ≤ Fd.count) (w₀ : World ε)
    (hw : ∀ o, w₀.descriptor o = none) (acts : List TableAct) :
    let t := (history n w₀ acts).1
    let m := t.bindings
    (new n).bindings = ∅ ∧
    (∀ fd ∈ m, 0 ≤ fd.toInt ∧ fd.toInt < n) ∧
    (∀ fd fd' o, m.lookup fd = some o → m.lookup fd' = some o → fd = fd') ∧
    (∀ fd o, m.lookup fd = some o ↔ (history n w₀ acts).2.descriptor o = some fd) ∧
    (∀ (act : TableAct) (w : World ε), w.descriptor = (history n w₀ acts).2.descriptor →
      (∀ e, m.refusal? n act = some e → ∃ log, act.run t w = (.error e, t, { w with log })) ∧
      (m.refusal? n act = none → ∃ value t' w',
        act.run t w = (.ok value, t', w') ∧ m.Grants n act value t'.bindings)) ∧
    (∀ fd, t.io? fd = m.lookup fd ∧ (t.isValid fd = true ↔ fd ∈ m)) ∧
    t.inUse = m.keys.card ∧
    (t.bound.map Prod.fst).Pairwise (· < ·) ∧
    (∀ fd o, (fd, o) ∈ t.bound ↔ m.lookup fd = some o) ∧
    ∀ p : Posix ε, p.table.capacity ≤ Fd.count →
      (∀ path flags mode fd, (p.openPath path flags mode).1 = .ok fd →
        p.HandsOut fd (p.openPath path flags mode).2) ∧
      (∀ domain kind protocol fd, (p.socket domain kind protocol).1 = .ok fd →
        p.HandsOut fd (p.socket domain kind protocol).2) ∧
      ∀ listening fd peer, (p.accept listening).1 = .ok (fd, peer) →
        p.HandsOut fd (p.accept listening).2 := by
  intro t m
  obtain ⟨h, hcap⟩ : t.Agrees (history n w₀ acts).2 ∧ t.capacity = n := agrees_history hn hw acts
  have hcount : t.capacity ≤ Fd.count := h.capacity_le
  refine ⟨bindings_new n, fun fd hfd => ?_, fun fd fd' o hfd hfd' => ?_,
    fun fd o => h.lookup_bindings_iff, fun act w hd => ?_, fun fd => ⟨?_, ?_⟩, ?_,
    pairwise_bound hcount, fun fd o => ?_, fun p hp => ⟨?_, ?_, ?_⟩⟩
  · rw [← hcap]
    exact toInt_lt_of_mem_bindings hcount hfd
  · rw [h.lookup_bindings_iff] at hfd hfd'
    exact Option.some.inj (hfd.symm.trans hfd')
  · rw [← hcap]
    obtain ⟨e, log, he, hr⟩ | ⟨hnone, value, t', w', hr, hgrants, -, -⟩ :=
      act.run_outcome (h.congr hd)
    · rw [he]
      refine ⟨fun e' heq => ?_, nofun⟩
      obtain rfl := Option.some.inj heq
      exact ⟨log, hr⟩
    · rw [hnone]
      exact ⟨nofun, fun _ => ⟨value, t', w', hr, hgrants⟩⟩
  · exact (lookup_bindings hcount fd).symm
  · exact (mem_bindings_iff hcount).symm
  · exact (card_keys_bindings hcount).symm
  · rw [mem_bound_iff hcount, lookup_bindings hcount]
  · exact fun _ _ _ _ => Posix.handsOut_openPath hp
  · exact fun _ _ _ _ => Posix.handsOut_socket hp
  · exact fun _ _ _ => Posix.handsOut_accept hp

/-- A descriptor that was freed is below one that is still bound, so it is the next to be handed
out. -/
theorem alloc_reuses_freed :
    let w : World Script := { embedder := {} }
    let s := history 5 w [.alloc (.device ⟨0⟩), .alloc (.file ⟨0, 0⟩), .free 3]
    5 ≤ Fd.count ∧ (∀ o, w.descriptor o = none) ∧ IsLeast (s.1.bindings.spare 5) 3 ∧
      ∃ t' w', s.1.alloc s.2 (.socket ⟨0, 0⟩) = (.ok 3, t', w') ∧
        t'.bindings = s.1.bindings.insert 3 (.socket ⟨0, 0⟩) := by
  intro w s
  have hn : 5 ≤ Fd.count := by decide
  have hw : ∀ o, w.descriptor o = none := fun _ => rfl
  obtain ⟨-, -, -, -, hact, -⟩ := refines_bindings_history 5 hn w hw
    [.alloc (.device ⟨0⟩), .alloc (.file ⟨0, 0⟩), .free 3]
  obtain ⟨-, hgranted⟩ := hact (.alloc (.socket ⟨0, 0⟩)) s.2 rfl
  obtain ⟨fd, t', w', hr, hleast, hinsert⟩ := hgranted (by decide +kernel)
  have hfd : (s.1.alloc s.2 (.socket ⟨0, 0⟩)).1 = .ok 3 := by decide +kernel
  obtain rfl : fd = 3 := Except.ok.inj ((congrArg Prod.fst hr).symm.trans hfd)
  exact ⟨hn, hw, hleast, t', w', hr, hinsert⟩

end Table

end PosixVfs
