import PosixVfs.Descriptor.Binding
import PosixVfs.Proofs.Descriptor.Lookup
import PosixVfs.Proofs.World.Slots

/-!
# Proofs/Descriptor/Agreement — table and objects agree on every binding

A binding is kept twice, in a slot of the table and on the object.  `Table.Agrees` says that the two
are the same relation between descriptors and objects.  Everything that changes bindings goes
through two lemmas, `Agrees.bind` and `Agrees.unbind`; `alloc_cases`, `register_cases` and
`close_cases` say all that an operation on a table can do.

A table with more slots than there are descriptors cannot agree with its objects.  One half of the
relation holds there too: an object that a descriptor finds has that descriptor (`Table.Truthful`).
This half is enough to unbind what a descriptor finds (`IoId.unbind_bound`).
-/

namespace PosixVfs

variable {ε : Type}

namespace Table

/-- **Truth.**  An object that a descriptor finds has that descriptor. -/
def Truthful (t : Table) (w : World ε) : Prop :=
  ∀ fd o, t.io? fd = some o → w.descriptor o = some fd

namespace Truthful

variable {t : Table} {w w' : World ε} {fd : Fd} {i : Nat} {o : IoId}

theorem congr (h : t.Truthful w) (hd : w'.descriptor = w.descriptor) : t.Truthful w' :=
  fun fd o hio => (congrFun hd o).trans (h fd o hio)

theorem new (n : Nat) (w : World ε) : (Table.new n).Truthful w := by
  intro fd o hio
  rw [io?_new] at hio
  cases hio

/-- **Binding** an object without a descriptor, if no other descriptor stands for the slot. -/
theorem bind (h : t.Truthful w) (hi : i < t.capacity)
    (hfd : ∀ fd', fd'.index? t.capacity = some i → fd' = fd) (ho : w.descriptor o = none) :
    (t.set i (some o)).Truthful (w.setDescriptor o (some fd)) := by
  intro fd' o' hio
  obtain ⟨j, hj, ho'⟩ := io?_eq_some_iff.mp hio
  rw [capacity_set] at hj
  rw [object?_set hi] at ho'
  change assign w.descriptor o (some fd) o' = some fd'
  split at ho'
  · next heq =>
      obtain rfl := Option.some.inj ho'
      rw [assign_self, hfd fd' (heq ▸ hj)]
  · have hd := h fd' o' (io?_eq_some_iff.mpr ⟨j, hj, ho'⟩)
    have hne : o' ≠ o := fun heq => by rw [heq, ho] at hd; cases hd
    rw [assign_of_ne _ _ _ hne, hd]

end Truthful

/-- **Agreement.**  A descriptor finds an object exactly if the object has that descriptor. -/
structure Agrees (t : Table) (w : World ε) : Prop where
  capacity_le : t.capacity ≤ Fd.count
  io?_iff : ∀ fd o, t.io? fd = some o ↔ w.descriptor o = some fd

namespace Agrees

variable {t : Table} {w w' : World ε} {fd : Fd} {i : Nat} {o : IoId}

theorem truthful (h : t.Agrees w) : t.Truthful w := fun fd o => (h.io?_iff fd o).mp

theorem congr (h : t.Agrees w) (hd : w'.descriptor = w.descriptor) : t.Agrees w' :=
  ⟨h.capacity_le, fun fd o => by rw [hd]; exact h.io?_iff fd o⟩

/-- Nothing is bound in a new table. -/
theorem new {n : Nat} (hn : n ≤ Fd.count) (hw : ∀ o, w.descriptor o = none) :
    (Table.new n).Agrees w := by
  refine ⟨Nat.le_trans (Nat.le_of_eq (capacity_new n)) hn, fun fd o => ?_⟩
  rw [io?_new, hw]
  simp

/-- An object is found in one slot at most. -/
theorem object?_inj (h : t.Agrees w) {j : Nat} (hi : t.object? i = some o)
    (hj : t.object? j = some o) : i = j := by
  have hi' := Fd.index?_ofIndex h.capacity_le (lt_capacity_of_object? hi)
  have hj' := Fd.index?_ofIndex h.capacity_le (lt_capacity_of_object? hj)
  have di := (h.io?_iff _ o).mp ((io?_of_index? hi').trans hi)
  have dj := (h.io?_iff _ o).mp ((io?_of_index? hj').trans hj)
  rw [di, Option.some.injEq] at dj
  rw [dj, hj', Option.some.injEq] at hi'
  exact hi'.symm

/-- The bound objects are listed once each. -/
theorem nodup_bound (h : t.Agrees w) : (t.bound.map Prod.snd).Nodup := by
  rw [map_snd_bound, ← List.map_id (t.slots.filterMap id)]
  refine Slots.nodup_map_filterMap id fun i j a b hi hj hab => ?_
  obtain rfl : a = b := hab
  exact h.object?_inj hi hj

/-- The bound objects have a descriptor. -/
theorem isSome_of_mem_bound (h : t.Agrees w) (ho : o ∈ t.bound.map Prod.snd) :
    (w.descriptor o).isSome := by
  rw [map_snd_bound] at ho
  obtain ⟨i, hi⟩ := Slots.mem_filterMap_iff.mp ho
  have hfd := Fd.index?_ofIndex h.capacity_le (lt_capacity_of_object? hi)
  rw [(h.io?_iff _ o).mp ((io?_of_index? hfd).trans hi)]
  rfl

/-- **Binding** an object without a descriptor to an empty slot keeps the agreement. -/
theorem bind (h : t.Agrees w) (hi : fd.index? t.capacity = some i) (hfree : t.object? i = none)
    (ho : w.descriptor o = none) : (t.set i (some o)).Agrees (w.setDescriptor o (some fd)) := by
  refine ⟨Nat.le_trans (Nat.le_of_eq (capacity_set t i _)) h.capacity_le, fun fd' o' => ?_⟩
  rw [io?_set hi]
  change _ ↔ assign w.descriptor o (some fd) o' = some fd'
  by_cases hfd : fd' = fd
  · subst hfd
    rw [if_pos rfl]
    by_cases hoo : o' = o
    · subst hoo
      simp
    · rw [assign_of_ne _ _ _ hoo, ← h.io?_iff, io?_of_index? hi, hfree]
      simp [Ne.symm hoo]
  · rw [if_neg hfd, h.io?_iff]
    by_cases hoo : o' = o
    · subst hoo
      simp [ho, Ne.symm hfd]
    · rw [assign_of_ne _ _ _ hoo]

/-- **Unbinding** a slot together with its object keeps the agreement. -/
theorem unbind (h : t.Agrees w) (hi : fd.index? t.capacity = some i)
    (ho : t.object? i = some o) : (t.set i none).Agrees (w.setDescriptor o none) := by
  refine ⟨Nat.le_trans (Nat.le_of_eq (capacity_set t i _)) h.capacity_le, fun fd' o' => ?_⟩
  have hfd := (h.io?_iff fd o).mp ((io?_of_index? hi).trans ho)
  rw [io?_set hi]
  change _ ↔ assign w.descriptor o none o' = some fd'
  by_cases hoo : o' = o
  · subst hoo
    have hne : (if fd' = fd then none else t.io? fd') ≠ some o' := by
      split
      case isTrue => simp
      case isFalse hne =>
        rw [Ne, h.io?_iff, hfd, Option.some.injEq]
        exact fun e => hne e.symm
    simp [hne]
  · rw [assign_of_ne _ _ _ hoo, ← h.io?_iff]
    split
    case isTrue e =>
      subst e
      rw [io?_of_index? hi, ho]
      simp [Ne.symm hoo]
    case isFalse => rfl

end Agrees

end Table

/-! ## All that an operation can do -/

namespace Table

variable (t : Table) (w : World ε) (o : IoId)

/-- **Allocating** fails on an object that has a descriptor, fails on a full table, or binds the
lowest free slot. -/
theorem alloc_cases :
    (∃ fd, w.descriptor o = some fd ∧
      t.alloc w o = (.error .busy, t, w.note (.alreadyBound fd))) ∨
    (w.descriptor o = none ∧ t.firstFree? = none ∧
      t.alloc w o = (.error .tooManyOpenFiles, t, w)) ∨
    ∃ i, w.descriptor o = none ∧ t.firstFree? = some i ∧
      t.alloc w o = (.ok (Fd.ofIndex i), t.set i (some o),
        (w.setDescriptor o (some (Fd.ofIndex i))).note (.allocated (Fd.ofIndex i) o.kind)) := by
  rw [alloc]
  rcases hd : w.descriptor o with _ | fd
  · rcases hf : t.firstFree? with _ | i
    · exact .inr (.inl ⟨rfl, rfl, rfl⟩)
    · exact .inr (.inr ⟨i, rfl, rfl, rfl⟩)
  · exact .inl ⟨fd, rfl, rfl⟩

/-- **Installing** changes nothing, or binds the slot of the descriptor. -/
theorem install_cases (fd : Fd) :
    (∃ e, t.install w fd o = (.error e, t, w)) ∨
    ∃ i, fd.index? t.capacity = some i ∧ t.object? i = none ∧ w.descriptor o = none ∧
      t.install w fd o = (.ok (), t.set i (some o), w.setDescriptor o (some fd)) := by
  rw [install]
  rcases hi : fd.index? t.capacity with _ | i
  · exact .inl ⟨_, rfl⟩
  · by_cases hb : (t.object? i).isSome || (w.descriptor o).isSome
    · exact .inl ⟨.busy, if_pos hb⟩
    · rw [Bool.or_eq_true, not_or, Option.not_isSome_iff_eq_none,
        Option.not_isSome_iff_eq_none] at hb
      exact .inr ⟨i, rfl, hb.1, hb.2, by simp [hb.1, hb.2]⟩

/-- **Freeing** changes nothing, or unbinds the slot of the descriptor and its object. -/
theorem free_cases (fd : Fd) :
    (t.io? fd = none ∧ t.free w fd = (.error .badFileDescriptor, t, w)) ∨
    ∃ i o, fd.index? t.capacity = some i ∧ t.object? i = some o ∧
      t.free w fd = (.ok (), t.set i none, (w.setDescriptor o none).note (.freed fd)) := by
  rw [free, io?]
  rcases hi : fd.index? t.capacity with _ | i
  · exact .inl ⟨rfl, rfl⟩
  · rcases ho : t.object? i with _ | o
    · exact .inl ⟨ho, by simp only [ho]⟩
    · exact .inr ⟨i, o, rfl, ho, by simp only [ho]⟩

end Table

namespace IoId

variable {t : Table} {w : World ε} (o : IoId)

/-- **Unbinding** an object of any table does nothing if it has no descriptor, leaves a record if
nothing is found under its descriptor, and empties the slot if something is found there. -/
theorem unbind_outcome (t : Table) (w : World ε) :
    (w.descriptor o = none ∧ o.unbind t w = (t, w)) ∨
    ∃ fd, w.descriptor o = some fd ∧
      ((t.io? fd = none ∧
        o.unbind t w = (t, (w.note (.notBoundInTable fd)).setDescriptor o none)) ∨
      ∃ i o', fd.index? t.capacity = some i ∧ t.object? i = some o' ∧ o.unbind t w =
        (t.set i none, ((w.setDescriptor o' none).note (.freed fd)).setDescriptor o none)) := by
  rw [unbind]
  rcases hd : w.descriptor o with _ | fd
  · exact .inl ⟨rfl, rfl⟩
  · obtain ⟨hnone, hfree⟩ | ⟨i, o', hi, ho', hfree⟩ := t.free_cases w fd
    · exact .inr ⟨fd, rfl, .inl ⟨hnone, by simp only [hfree, World.noteFailure]⟩⟩
    · exact .inr ⟨fd, rfl, .inr ⟨i, o', hi, ho', by simp only [hfree, World.noteFailure]⟩⟩

/-- Unbinding a bound object empties the slot that it is found in. -/
theorem unbind_bound {fd : Fd} (h : t.Truthful w) (hio : t.io? fd = some o) :
    ∃ i, fd.index? t.capacity = some i ∧
      o.unbind t w = (t.set i none, (w.setDescriptor o none).note (.freed fd)) := by
  have hd := h fd o hio
  obtain ⟨hnone, -⟩ | ⟨fd', hd', hu⟩ := o.unbind_outcome t w
  · rw [hd] at hnone
    cases hnone
  · obtain rfl : fd = fd' := Option.some.inj (hd.symm.trans hd')
    obtain ⟨hnone, -⟩ | ⟨i, o', hi, ho', hu⟩ := hu
    · rw [hio] at hnone
      cases hnone
    · obtain rfl : o = o' := Option.some.inj (hio.symm.trans ((Table.io?_of_index? hi).trans ho'))
      refine ⟨i, hi, ?_⟩
      rw [hu]
      simp only [World.setDescriptor, World.note, assign_assign]

/-- **Unbinding** an object frees the slot that its descriptor stands for. -/
theorem unbind_cases (h : t.Agrees w) :
    (w.descriptor o = none ∧ o.unbind t w = (t, w)) ∨
    ∃ fd i w', w.descriptor o = some fd ∧ fd.index? t.capacity = some i ∧ t.object? i = some o ∧
      o.unbind t w = (t.set i none, w') ∧ w.After [] (w.setDescriptor o none).books w' := by
  rcases hd : w.descriptor o with _ | fd
  · rw [unbind, hd]
    exact .inl ⟨rfl, rfl⟩
  · have hio := (h.io?_iff fd o).mpr hd
    obtain ⟨i, hi, hu⟩ := o.unbind_bound h.truthful hio
    exact .inr ⟨fd, i, _, rfl, hi, (Table.io?_of_index? hi).symm.trans hio, hu,
      ((World.After.refl w).setDescriptor o none).note rfl⟩

variable [Embedder ε]

/-- **Closing** asks the object, and then unbinds it and gives it back whatever the answer. -/
theorem close_cases (h : t.Agrees w) : ∃ answer w',
    w.After [⟨.closing o, answer⟩] ((w.setDescriptor o none).giveBack (.io o)).2.books w' ∧
    ((w.descriptor o = none ∧ o.close t w = (answer, t, w')) ∨
      ∃ fd i, w.descriptor o = some fd ∧ fd.index? t.capacity = some i ∧
        t.object? i = some o ∧ o.close t w = (answer, t.set i none, w')) := by
  rcases ha : w.ask (.closing o) with ⟨answer, w₁⟩
  have h₁ := (World.After.refl w).ask ha
  have hd₁ := World.descriptor_of_books h₁.books
  rw [close, ha]
  obtain ⟨hd, hu⟩ | ⟨fd, i, w₂, hd, hi, ho, hu, h₂⟩ := o.unbind_cases (h.congr hd₁)
  · rw [hd₁] at hd
    refine ⟨answer, (w₁.giveBack (.io o)).2, ?_, .inl ⟨hd, by simp only [hu]⟩⟩
    rw [← World.books_setDescriptor_of_none hd] at h₁
    exact h₁.giveBack _
  · rw [hd₁] at hd
    refine ⟨answer, (w₂.giveBack (.io o)).2, ?_, .inr ⟨fd, i, hd, hi, ho, by simp only [hu]⟩⟩
    have hb := (h₁.setDescriptor o none).books
    rw [hb] at h₂
    exact (h₁.trans h₂).giveBack _

/-- Closing an object is one event, after which it has no descriptor and is back in its pool. -/
theorem after_close (h : t.Agrees w) : ∃ answer, w.After [⟨.closing o, answer⟩]
    ((w.setDescriptor o none).giveBack (.io o)).2.books (o.close t w).2.2 := by
  obtain ⟨answer, w', ha, ⟨-, hc⟩ | ⟨fd, i, -, -, -, hc⟩⟩ := o.close_cases h
  · exact ⟨answer, by rw [hc]; exact ha⟩
  · exact ⟨answer, by rw [hc]; exact ha⟩

/-- Closing an object takes its descriptor, and no other. -/
theorem descriptor_close (h : t.Agrees w) :
    (o.close t w).2.2.descriptor = assign w.descriptor o none := by
  obtain ⟨answer, ha⟩ := o.after_close h
  rw [World.descriptor_of_books ha.books, World.descriptor_giveBack]
  rfl

/-- **Registering** binds the lowest free slot, or closes the object.  An object that the table has
no room for also goes back to its pool. -/
theorem register_cases :
    (∃ i w', w.descriptor o = none ∧ t.firstFree? = some i ∧
      o.register t w = (.ok (Fd.ofIndex i), t.set i (some o), w') ∧
      w.After [] (w.setDescriptor o (some (Fd.ofIndex i))).books w') ∨
    ∃ answer w', (∃ fd, w.descriptor o = some fd ∧ o.register t w = (.error .busy, t, w') ∧
        w.After [⟨.closing o, answer⟩] w.books w') ∨
      (w.descriptor o = none ∧ t.firstFree? = none ∧
        o.register t w = (.error .tooManyOpenFiles, t, w') ∧
        w.After [⟨.closing o, answer⟩] (w.giveBack (.io o)).2.books w') := by
  rw [register]
  obtain ⟨fd, hd, ha⟩ | ⟨hd, hf, ha⟩ | ⟨i, hd, hf, ha⟩ := t.alloc_cases w o
  · rw [ha]
    rcases hask : ((w.note (.alreadyBound fd)).note (.rollback o.kind .busy)).ask (.closing o)
      with ⟨answer, w₁⟩
    refine .inr ⟨answer, w₁.noteFailure answer .rollbackCloseFailed,
      .inl ⟨fd, hd, by simp only [hask, if_true], ?_⟩⟩
    have h₁ := (((World.After.refl w).note (r := .alreadyBound fd) rfl).note
      (r := .rollback o.kind .busy) rfl).ask hask
    exact h₁.noteFailure answer fun _ => rfl
  · rw [ha]
    rcases hask : (w.note (.rollback o.kind .tooManyOpenFiles)).ask (.closing o)
      with ⟨answer, w₁⟩
    refine .inr ⟨answer, (((w₁.noteFailure answer .rollbackCloseFailed).setDescriptor o none).giveBack
      (.io o)).2, .inr ⟨hd, hf, by simp [hask], ?_⟩⟩
    have h₁ := ((World.After.refl w).note (r := .rollback o.kind .tooManyOpenFiles) rfl).ask hask
    have h₂ := (h₁.noteFailure answer (f := .rollbackCloseFailed) fun _ => rfl).setDescriptor
      o none
    rw [World.books_setDescriptor_of_none hd] at h₂
    exact h₂.giveBack _
  · rw [ha]
    refine .inl ⟨i, _, hd, hf, rfl, ?_⟩
    exact ((World.After.refl w).setDescriptor o _).note rfl

/-- An object that is registered has the descriptor of the lowest free slot. -/
theorem firstFree?_of_register {fd : Fd} (h : (o.register t w).1 = .ok fd) :
    ∃ i, t.firstFree? = some i ∧ fd = Fd.ofIndex i := by
  obtain ⟨i, w', -, hi, hr, -⟩ | ⟨answer, w', ⟨_, -, hr, -⟩ | ⟨-, -, hr, -⟩⟩ :=
    o.register_cases (t := t) (w := w)
  · rw [hr] at h
    exact ⟨i, hi, (Except.ok.inj h).symm⟩
  · rw [hr] at h
    cases h
  · rw [hr] at h
    cases h

end IoId

end PosixVfs
