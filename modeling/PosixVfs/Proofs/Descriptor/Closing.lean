import PosixVfs.Proofs.Descriptor.Accounting
import PosixVfs.Proofs.Descriptor.BindingMap
import PosixVfs.Proofs.World.Retirement

/-!
# Proofs/Descriptor/Closing — closing descriptors one after the other

To close a bound object is to ask it, to empty its slot of the table, and to let it retire
(`IoId.close_bound`).  `Table.Closes` says the same of any number of bindings.  A loop whose body
closes one binding closes all that it goes through (`Table.Closes.foldl`): a list of bindings stays
right while the bindings in front of it are closed, since no descriptor is listed twice and closing
one unbinds no other.
-/

namespace PosixVfs

variable {ε : Type}

/-! ## One binding -/

namespace IoId

variable {t : Table} {w : World ε} {fd : Fd} {o : IoId}

/-- **Closing a bound object** asks it to close, and its answer is the result.  The slot that it is
found in is empty afterwards, and the object has retired. -/
theorem close_bound [Embedder ε] {streams : List DirectoryId} (h : t.Accounted w streams)
    (hio : t.io? fd = some o) : ∃ i, fd.index? t.capacity = some i ∧
      (o.close t w).2.1 = t.set i none ∧
      (w.retired [.io o]).Asked [⟨.closing o, (o.close t w).1⟩] (o.close t w).2.2 := by
  rcases ha : w.ask (.closing o) with ⟨answer, w₁⟩
  have h₁ : t.Accounted w₁ streams := h.of_books ((World.After.refl w).ask ha).books
  obtain ⟨i, hi, hu⟩ := o.unbind_bound h₁.truthful hio
  have hclose : o.close t w = (answer, t.set i none,
      (((w₁.setDescriptor o none).note (.freed fd)).giveBack (.io o)).2) := by
    simp only [close, ha, hu]
  have hledger : ((w₁.setDescriptor o none).note (.freed fd)).Ledger (w₁.InUse streams) :=
    (h₁.ledger.setDescriptor o none).of_books rfl fun _ _ => Iff.rfl
  have hback : (w₁.retired [.io o]).Asked []
      (((w₁.setDescriptor o none).note (.freed fd)).giveBack (.io o)).2 := by
    obtain ⟨hgives, hrest⟩ := hledger.asked_giveBack (x := .io o) fun o' ho' => by
      cases ho'
      exact assign_self ..
    rw [← World.retired_setDescriptor]
    exact ⟨hgives, hrest⟩
  rw [hclose]
  exact ⟨i, hi, rfl, ((World.Asked.ask ha).retired _).trans hback⟩

end IoId

/-! ## Any number of bindings -/

namespace Table

/-- A table in which nothing is found is a new one. -/
theorem eq_new_of_io? {t : Table} (hcap : t.capacity ≤ Fd.count) (h : ∀ fd, t.io? fd = none) :
    t = new t.capacity := by
  have hslots : t.slots = List.replicate t.capacity none := by
    refine List.eq_replicate_iff.mpr ⟨rfl, fun x hx => ?_⟩
    obtain ⟨i, hi⟩ := List.mem_iff_getElem?.mp hx
    rcases x with _ | o
    · rfl
    · have ho : t.object? i = some o := Option.join_eq_some_iff.mpr hi
      have hfd := Fd.index?_ofIndex hcap (lt_capacity_of_object? ho)
      rw [← io?_of_index? hfd, h] at ho
      cases ho
  rw [new, ← hslots]

variable [Embedder ε]

/-- `t'` and `w'` are what has become of `t` and `w` when these bindings were **closed**.  The
objects were asked to close, each of them once and in this order, and nothing else was asked; their
descriptors are unbound, they have retired, and nothing else has changed. -/
structure Closes (t : Table) (w : World ε) (bindings : List (Fd × IoId)) (t' : Table)
    (w' : World ε) : Prop where
  capacity : t'.capacity = t.capacity
  io? : ∀ fd, t'.io? fd = if fd ∈ bindings.map Prod.fst then none else t.io? fd
  asked : ∃ events, events.map Event.hook = bindings.map (fun b => .closing b.2) ∧
    (w.retired (bindings.map fun b => .io b.2)).Asked events w'

namespace Closes

variable {t t' t'' : Table} {w w' w'' : World ε} {streams : List DirectoryId}
  {bindings bindings' : List (Fd × IoId)}

theorem refl (t : Table) (w : World ε) : t.Closes w [] t w where
  capacity := rfl
  io? _ := (if_neg List.not_mem_nil).symm
  asked := ⟨[], rfl, by rw [List.map_nil, World.retired_nil]; exact .refl w⟩

theorem trans (h : t.Closes w bindings t' w') (h' : t'.Closes w' bindings' t'' w'') :
    t.Closes w (bindings ++ bindings') t'' w'' where
  capacity := h'.capacity.trans h.capacity
  io? fd := by
    rw [h'.io?, h.io?, ← ite_or, List.map_append]
    exact if_congr (or_comm.trans List.mem_append.symm) rfl rfl
  asked := by
    obtain ⟨events, hhooks, hasked⟩ := h.asked
    obtain ⟨events', hhooks', hasked'⟩ := h'.asked
    refine ⟨events ++ events', by rw [List.map_append, hhooks, hhooks', List.map_append], ?_⟩
    rw [List.map_append, ← World.retired_retired]
    exact (hasked.retired _).trans hasked'

/-- Closing an object that is found under a descriptor closes this binding. -/
theorem of_close (h : t.Accounted w streams) {b : Fd × IoId} (hb : t.io? b.1 = some b.2) :
    t.Closes w [b] (b.2.close t w).2.1 (b.2.close t w).2.2 := by
  obtain ⟨i, hi, ht, hasked⟩ := IoId.close_bound h hb
  rw [ht]
  refine ⟨capacity_set t i none, fun fd => ?_, _, rfl, hasked⟩
  rw [io?_set hi]
  simp only [List.map_cons, List.map_nil, List.mem_singleton]

/-- What is only asked or logged behind it makes no difference. -/
theorem noteFailure (h : t.Closes w bindings t' w') {α : Type} (r : Except Errno α)
    (record : Errno → LogRecord) : t.Closes w bindings t' (w'.noteFailure r record) where
  capacity := h.capacity
  io? := h.io?
  asked := by
    obtain ⟨events, hhooks, hasked⟩ := h.asked
    exact ⟨events, hhooks, hasked.noteFailure r record⟩

/-- **A loop that closes bindings.**  If the body of a loop closes the binding that it is given, the
loop closes all that it is given, provided that they were bound before the first of them. -/
theorem foldl {σ : Type} (table : σ → Table) (world : σ → World ε) {step : σ → Fd × IoId → σ}
    (hstep : ∀ s b, (table s).Accounted (world s) streams → (table s).io? b.1 = some b.2 →
      (table s).Closes (world s) [b] (table (step s b)) (world (step s b)) ∧
        (table (step s b)).Accounted (world (step s b)) streams)
    {s : σ} (h : (table s).Accounted (world s) streams)
    (hbound : ∀ b ∈ bindings, (table s).io? b.1 = some b.2)
    (hnodup : (bindings.map Prod.fst).Nodup) :
    (table s).Closes (world s) bindings (table (bindings.foldl step s))
      (world (bindings.foldl step s)) := by
  induction bindings generalizing s with
  | nil => exact refl _ _
  | cons b rest ih =>
      rw [List.map_cons, List.nodup_cons] at hnodup
      rw [List.forall_mem_cons] at hbound
      obtain ⟨hone, hnext⟩ := hstep s b h hbound.1
      -- the bindings behind `b` are still there, since they have other descriptors
      have hrest : ∀ b' ∈ rest, (table (step s b)).io? b'.1 = some b'.2 := by
        intro b' hb'
        have hne : b'.1 ∉ [b].map Prod.fst := by
          rw [List.map_singleton, List.mem_singleton]
          exact fun heq => hnodup.1 (heq ▸ List.mem_map_of_mem hb')
        rw [hone.io?, if_neg hne]
        exact hbound.2 b' hb'
      exact hone.trans (ih hnext hrest hnodup.2)

/-- A table is empty when all that was bound in it is closed. -/
theorem eq_new (h : t.Closes w t.bound t' w') (hcap : t.capacity ≤ Fd.count) :
    t' = new t.capacity := by
  rw [← h.capacity]
  refine eq_new_of_io? (h.capacity ▸ hcap) fun fd => ?_
  rw [h.io?]
  split
  · rfl
  · next hnot =>
      rw [Option.eq_none_iff_forall_ne_some]
      intro o ho
      exact hnot (List.mem_map_of_mem (f := Prod.fst) ((mem_bound_iff hcap).mpr ho))

end Closes

end Table

end PosixVfs
