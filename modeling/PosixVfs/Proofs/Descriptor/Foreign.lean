import Mathlib.Logic.Basic
import PosixVfs.Proofs.Descriptor.Agreement
import PosixVfs.Scripted.Script

/-!
# Proofs/Descriptor/Foreign — closing an object in a table that it need not be bound in

Closing an object empties the slot that has the number of its descriptor, whichever table the object
has that number from, and unbinds what is found there (`IoId.close_outcome`).  In the table that the
object is bound in this is the object itself.  In another table it is nothing, or an object that has
the same number there, and then closing the one unbinds the other
(`IoId.close_unbinds_object_of_same_number`).  So closing spares all other objects exactly if no other
has that number in the table (`IoId.close_spares_iff`).  In any case the table stays truthful
(`Table.Truthful.close`).
-/

namespace PosixVfs

variable {ε : Type}

/-! ## What closing does -/

namespace IoId

/-- The slot of `t` that has the number of the descriptor of `o`, wherever `o` has it from. -/
def slotIn? (o : IoId) (t : Table) (w : World ε) : Option Nat :=
  (w.descriptor o).bind (·.index? t.capacity)

/-- The object that has the number of `o` in `t`. -/
def foundIn? (o : IoId) (t : Table) (w : World ε) : Option IoId :=
  (o.slotIn? t w).bind t.object?

section Close

variable [Embedder ε] (o : IoId) (t : Table) (w : World ε)

/-- **Closing** finds nothing under the number of the object, or empties the slot that has this
number and unbinds the object that is found there. -/
theorem close_outcome :
    (o.foundIn? t w = none ∧ (o.close t w).2.1 = t ∧
      (o.close t w).2.2.descriptor = assign w.descriptor o none) ∨
    ∃ i o', o.slotIn? t w = some i ∧ t.object? i = some o' ∧ (o.close t w).2.1 = t.set i none ∧
      (o.close t w).2.2.descriptor = assign (assign w.descriptor o' none) o none := by
  rcases ha : w.ask (.closing o) with ⟨answer, w₁⟩
  have hd₁ : w₁.descriptor = w.descriptor := by
    obtain ⟨e, rfl⟩ := World.exists_of_ask ha
    rfl
  have htable : (o.close t w).2.1 = (o.unbind t w₁).1 := by
    rw [close, ha]
  have hworld : (o.close t w).2.2.descriptor = (o.unbind t w₁).2.descriptor := by
    rw [close, ha]
    exact World.descriptor_giveBack _ _
  rw [htable, hworld, foundIn?, slotIn?, ← hd₁]
  obtain ⟨hd, hu⟩ | ⟨fd, hd, ⟨hnone, hu⟩ | ⟨i, o', hi, ho', hu⟩⟩ := o.unbind_outcome t w₁
  · have hsame : assign w₁.descriptor o none = w₁.descriptor := by rw [← hd, assign_eq_self]
    rw [hd, hu, hsame]
    exact .inl ⟨rfl, rfl, rfl⟩
  · rw [hd, hu]
    exact .inl ⟨hnone, rfl, rfl⟩
  · rw [hd, hu]
    exact .inr ⟨i, o', hi, ho', rfl, rfl⟩

/-- The slot that has the number of the object is empty afterwards, and all others are as they were. -/
theorem object?_close (i : Nat) : (o.close t w).2.1.object? i =
    if o.slotIn? t w = some i then none else t.object? i := by
  obtain ⟨hnone, ht, -⟩ | ⟨j, o₁, hj, ho₁, ht, -⟩ := o.close_outcome t w
  · rw [ht]
    split
    next hslot => rwa [foundIn?, hslot] at hnone
    · rfl
  · rw [ht, Table.object?_set (Table.lt_capacity_of_object? ho₁), hj]
    exact if_congr (eq_comm.trans Option.some_inj.symm) rfl rfl

/-- The object has no descriptor afterwards, nor has one that was found under its number. -/
theorem descriptor_close_apply (o' : IoId) : (o.close t w).2.2.descriptor o' =
    if o' = o ∨ o.foundIn? t w = some o' then none else w.descriptor o' := by
  obtain ⟨hnone, -, hw⟩ | ⟨j, o₁, hj, ho₁, -, hw⟩ := o.close_outcome t w
  · rw [hw, hnone]
    simp only [assign, reduceCtorEq, or_false]
  · have hfound : o.foundIn? t w = some o₁ := by rw [foundIn?, hj, Option.bind_some, ho₁]
    rw [hw, hfound, assign, assign, ite_or]
    exact if_congr Iff.rfl rfl (if_congr (eq_comm.trans Option.some_inj.symm) rfl rfl)

/-- The number of slots stays. -/
theorem capacity_close : (o.close t w).2.1.capacity = t.capacity := by
  obtain ⟨-, ht, -⟩ | ⟨i, -, -, -, ht, -⟩ := o.close_outcome t w
  · rw [ht]
  · rw [ht, Table.capacity_set]

/-- An object that finds nobody else under its number is unbound and goes back to its pool, and nothing
else in the books changes. -/
theorem books_close (hfound : ∀ o', o.foundIn? t w = some o' → o' = o) :
    (o.close t w).2.2.books = ((w.setDescriptor o none).giveBack (.io o)).2.books := by
  rcases ha : w.ask (.closing o) with ⟨answer, w₁⟩
  have hb₁ : w₁.books = w.books := ((World.After.refl w).ask ha).books
  have hunbind : (o.unbind t w₁).2.books = (w.setDescriptor o none).books := by
    rw [← World.books_setDescriptor_congr hb₁]
    obtain ⟨hd, hu⟩ | ⟨fd, hd, ⟨-, hu⟩ | ⟨i, o', hi, ho', hu⟩⟩ := o.unbind_outcome t w₁
    · rw [hu, World.books_setDescriptor_of_none hd]
    · rw [hu]
      rfl
    · have hslot : o.slotIn? t w = some i := by
        rw [slotIn?, ← World.descriptor_of_books hb₁, hd, Option.bind_some, hi]
      obtain rfl : o' = o := hfound o' (by rw [foundIn?, hslot, Option.bind_some, ho'])
      rw [hu]
      simp only [World.setDescriptor, World.note, assign_assign]
      rfl
  rw [close, ha]
  exact ((World.After.of_books hunbind).giveBack (.io o)).books

end Close

end IoId

/-- Under the number of an object that a descriptor finds, this object is found. -/
theorem Table.Truthful.foundIn?_eq {t : Table} {w : World ε} (h : t.Truthful w) {fd : Fd} {o : IoId}
    (hio : t.io? fd = some o) : o.foundIn? t w = some o := by
  rw [IoId.foundIn?, IoId.slotIn?, h fd o hio, Option.bind_some]
  exact hio

/-- **No closing** makes a descriptor find an object that has another one or none, whatever it empties
and unbinds. -/
theorem Table.Truthful.close [Embedder ε] {t : Table} {w : World ε} (h : t.Truthful w) (o : IoId) :
    (o.close t w).2.1.Truthful (o.close t w).2.2 := by
  intro fd o' hio
  obtain ⟨j, hj, ho'⟩ := Table.io?_eq_some_iff.mp hio
  rw [o.capacity_close] at hj
  rw [o.object?_close] at ho'
  split at ho'
  · cases ho'
  · next hslot =>
      have hd := h fd o' (Table.io?_eq_some_iff.mpr ⟨j, hj, ho'⟩)
      rw [o.descriptor_close_apply, if_neg, hd]
      rintro (rfl | hfound)
      · exact hslot (by rw [IoId.slotIn?, hd, Option.bind_some, hj])
      · -- what is found under the number of `o` has the descriptor of `o`
        obtain ⟨i, hi, ho⟩ := Option.bind_eq_some_iff.mp hfound
        obtain ⟨fd', -, hi'⟩ := Option.bind_eq_some_iff.mp hi
        have hd' := h fd' o' (Table.io?_eq_some_iff.mpr ⟨i, hi', ho⟩)
        obtain rfl : fd = fd' := Option.some.inj (hd.symm.trans hd')
        exact hslot (hi.trans (hi'.symm.trans hj))

/-! ## Whom closing spares -/

namespace IoId

/-- From `t` and `w` to `t'` and `w'`, whatever is bound in the table and is not `o` stays in its slot
and keeps its descriptor, and if `o` is not bound in the table, nothing in it changes. -/
structure Spares (o : IoId) (t : Table) (w : World ε) (t' : Table) (w' : World ε) : Prop where
  others : ∀ i o', t.object? i = some o' → o' ≠ o →
    t'.object? i = some o' ∧ w'.descriptor o' = w.descriptor o'
  unchanged : (∀ i, t.object? i ≠ some o) → t' = t

/-- **Whom a closing spares.**  For every table and every object, however the number of the object and
the table are related, closing the object in the table leaves all other objects of the table bound as
they are, and the table as it is if the object is not in it, exactly if no other object has the number
of this one there.  In any case the slot with this number is empty afterwards, and the object that was
in it has no descriptor, and neither has the object that was closed; all other slots and descriptors
stay as they are. -/
theorem close_spares_iff [Embedder ε] (o : IoId) (t : Table) (w : World ε) :
    let t' := (o.close t w).2.1
    let w' := (o.close t w).2.2
    (o.Spares t w t' w' ↔ ∀ o', o.foundIn? t w = some o' → o' = o) ∧
      t'.capacity = t.capacity ∧
      (∀ i, t'.object? i = if o.slotIn? t w = some i then none else t.object? i) ∧
      ∀ o', w'.descriptor o' =
        if o' = o ∨ o.foundIn? t w = some o' then none else w.descriptor o' := by
  intro t' w'
  refine ⟨⟨fun h o' hfound => ?_, fun h => ⟨fun i o' hi hne => ?_, fun hnone => ?_⟩⟩,
    o.capacity_close t w, o.object?_close t w, o.descriptor_close_apply t w⟩
  · obtain ⟨i, hi, ho'⟩ := Option.bind_eq_some_iff.mp hfound
    refine Decidable.byContradiction fun hne => ?_
    have hkept := (h.others i o' ho' hne).1
    rw [o.object?_close t w, if_pos hi] at hkept
    cases hkept
  · have hslot : o.slotIn? t w ≠ some i := fun hslot =>
      hne (h o' (by rw [foundIn?, hslot, Option.bind_some, hi]))
    have hfound : ¬ (o' = o ∨ o.foundIn? t w = some o') := fun hor => hne (hor.elim id (h o'))
    rw [o.object?_close t w, o.descriptor_close_apply t w, if_neg hslot, if_neg hfound]
    exact ⟨hi, rfl⟩
  · obtain ⟨-, ht, -⟩ | ⟨i, o', hi, ho', -, -⟩ := o.close_outcome t w
    · exact ht
    · -- what is found under the number of the object is the object, which is nowhere in the table
      have hfound : o' = o := h o' (by rw [foundIn?, hi, Option.bind_some, ho'])
      exact absurd (hfound ▸ ho') (hnone i)

/-- **Closing one object may unbind another.**  Two objects have the same number in two tables.  The
first of them is not in the second table, but when it is closed there, that table loses the second
object, and the second object its descriptor. -/
theorem close_unbinds_object_of_same_number :
    let w : World Script := { embedder := {} }
    let first : IoId := .device ⟨0⟩
    let second : IoId := .device ⟨1⟩
    let (answer₁, t₁, w₁) := (Table.new 5).alloc w first
    let (answer₂, t₂, w₂) := (Table.new 5).alloc w₁ second
    let (answer, t, w) := first.close t₂ w₂
    answer₁.toOption = some 3 ∧ answer₂.toOption = some 3 ∧ t₁.bound = [(3, first)] ∧
      t₂.bound = [(3, second)] ∧ w₂.descriptor second = some 3 ∧
      answer.isOk = true ∧ t.bound = [] ∧ w.descriptor second = none := by
  decide +kernel

end IoId

end PosixVfs
