import PosixVfs.Descriptor.Table
import PosixVfs.Proofs.Slots

/-!
# Proofs/Descriptor/Lookup — slots, descriptors, and the objects found there

A descriptor stands for a slot, and every slot has a descriptor as long as there are at most
`Fd.count` of them (`Fd.index?_ofIndex`); those above have none (`Fd.lt_count_of_index?`).  Replacing
the content of a slot changes what is found under its own descriptor and nothing else
(`Table.io?_set`).
-/

namespace PosixVfs

/-! ## Descriptors and slots -/

namespace Fd

variable {fd fd' : Fd} {i capacity : Nat}

/-- How many descriptors stand for a slot: those of the 32-bit words that are not negative, 2³¹ of
them. -/
def count : Nat := 2147483648

theorem index?_eq_some_iff :
    fd.index? capacity = some i ↔ 0 ≤ fd.toInt ∧ fd.toInt.toNat = i ∧ i < capacity := by
  rw [index?]
  split
  case isTrue h =>
    rw [Option.some.injEq]
    exact ⟨fun e => ⟨h.1, e, e ▸ h.2⟩, fun e => e.2.1⟩
  case isFalse h =>
    refine ⟨fun e => absurd e (by simp), fun ⟨h0, hi, hlt⟩ => absurd ⟨h0, ?_⟩ h⟩
    rw [hi]
    exact hlt

theorem lt_of_index? (h : fd.index? capacity = some i) : i < capacity :=
  (index?_eq_some_iff.mp h).2.2

/-- Different descriptors stand for different slots. -/
theorem index?_inj (h : fd.index? capacity = some i) (h' : fd'.index? capacity = some i) :
    fd = fd' := by
  obtain ⟨h0, hi, -⟩ := index?_eq_some_iff.mp h
  obtain ⟨h0', hi', -⟩ := index?_eq_some_iff.mp h'
  exact Int32.toInt_inj.mp (by omega)

/-- The slots that descriptors stand for are the lowest ones. -/
theorem lt_count_of_index? (h : fd.index? capacity = some i) : i < count := by
  obtain ⟨h0, hi, -⟩ := index?_eq_some_iff.mp h
  have hlt : fd.toInt < count := Int32.toInt_lt fd
  omega

/-- A descriptor is known by the number of its slot. -/
theorem eq_ofIndex_of_index? (h : fd.index? capacity = some i) : fd = ofIndex i := by
  obtain ⟨h0, hi, -⟩ := index?_eq_some_iff.mp h
  have hint : (ofIndex i).toInt = i := Int32.toInt_ofNat_of_lt (lt_count_of_index? h)
  exact Int32.toInt_inj.mp (by omega)

/-- A slot has a descriptor, as long as there are not too many below it. -/
theorem index?_ofIndex_of_lt (hcount : i < count) (hi : i < capacity) :
    (ofIndex i).index? capacity = some i := by
  have hint : (ofIndex i).toInt = i := Int32.toInt_ofNat_of_lt hcount
  exact index?_eq_some_iff.mpr ⟨by omega, by omega, hi⟩

/-- **Every slot has a descriptor**, as long as there are no more of them than of descriptors. -/
theorem index?_ofIndex (hcap : capacity ≤ count) (hi : i < capacity) :
    (ofIndex i).index? capacity = some i :=
  index?_ofIndex_of_lt (Nat.lt_of_lt_of_le hi hcap) hi

end Fd

namespace Table

variable {t : Table} {i j : Nat} {o : IoId} {fd : Fd}

@[simp] theorem capacity_set (t : Table) (i : Nat) (x : Option IoId) :
    (t.set i x).capacity = t.capacity := by
  simp [capacity, set]

@[simp] theorem capacity_new (n : Nat) : (new n).capacity = n := by simp [capacity, new]

theorem lt_capacity_of_object? (h : t.object? i = some o) : i < t.capacity :=
  Slots.lt_of_join h

theorem object?_set (hi : i < t.capacity) (x : Option IoId) (j : Nat) :
    (t.set i x).object? j = if j = i then x else t.object? j :=
  Slots.join_set hi x j

theorem io?_of_index? (h : fd.index? t.capacity = some i) : t.io? fd = t.object? i := by
  rw [io?, h, Option.bind_some]

theorem io?_eq_some_iff :
    t.io? fd = some o ↔ ∃ i, fd.index? t.capacity = some i ∧ t.object? i = some o := by
  rw [io?, Option.bind_eq_some_iff]

/-- Replacing the content of a slot changes the object of its descriptor only. -/
theorem io?_set (h : fd.index? t.capacity = some i) (x : Option IoId) (fd' : Fd) :
    (t.set i x).io? fd' = if fd' = fd then x else t.io? fd' := by
  rw [io?, capacity_set]
  rcases h' : fd'.index? t.capacity with _ | j
  · have hne : fd' ≠ fd := fun e => by rw [e, h] at h'; cases h'
    rw [if_neg hne, io?, h']
    rfl
  · rw [Option.bind_some, object?_set (Fd.lt_of_index? h), io?_of_index? h']
    by_cases hj : j = i
    · subst hj
      rw [if_pos rfl, if_pos (Fd.index?_inj h' h)]
    · have hne : fd' ≠ fd := fun e => by rw [e, h] at h'; exact hj (Option.some.inj h').symm
      rw [if_neg hj, if_neg hne]

theorem object?_new (n i : Nat) : (new n).object? i = none := by
  rw [object?, new, List.getElem?_replicate]
  split <;> rfl

theorem io?_new (n : Nat) (fd : Fd) : (new n).io? fd = none := by
  rw [io?]
  rcases fd.index? (new n).capacity with _ | i
  · rfl
  · exact object?_new n i

/-- The bound objects are the contents of the slots. -/
theorem map_snd_bound (t : Table) : t.bound.map Prod.snd = t.slots.filterMap id := by
  calc t.bound.map Prod.snd
      = t.slots.zipIdx.filterMap (id ∘ Prod.fst) := by
        rw [bound, List.map_filterMap]
        congr 1
        funext ⟨slot, i⟩
        simp [Function.comp_def]
    _ = (t.slots.zipIdx.map Prod.fst).filterMap id := List.filterMap_map.symm
    _ = t.slots.filterMap id := by rw [List.zipIdx_map_fst]

/-- The lowest free slot is above those of the standard streams, and all slots between are bound. -/
theorem firstFree?_eq_some_iff : t.firstFree? = some i ↔
    reservedDescriptors ≤ i ∧ i < t.capacity ∧ t.object? i = none ∧
      ∀ j, reservedDescriptors ≤ j → j < i → (t.object? j).isSome := by
  have hget : ∀ k, (t.slots.drop reservedDescriptors)[k]?.join =
      t.object? (k + reservedDescriptors) := by
    intro k
    rw [List.getElem?_drop, Nat.add_comm]
    rfl
  have hlen : (t.slots.drop reservedDescriptors).length = t.capacity - reservedDescriptors := by
    simp [capacity]
  rw [firstFree?, Option.map_eq_some_iff]
  constructor
  · rintro ⟨k, hk, rfl⟩
    obtain ⟨hlt, hfree, hbelow⟩ := Slots.findIdx?_isNone_iff.mp hk
    refine ⟨by omega, by omega, (hget k).symm.trans hfree, fun j hj hji => ?_⟩
    have hj' := hbelow (j - reservedDescriptors) (by omega)
    rwa [hget, Nat.sub_add_cancel hj] at hj'
  · rintro ⟨hres, hlt, hfree, hbelow⟩
    refine ⟨i - reservedDescriptors, Slots.findIdx?_isNone_iff.mpr
      ⟨by omega, ?_, fun j hj => ?_⟩, Nat.sub_add_cancel hres⟩
    · rw [hget, Nat.sub_add_cancel hres]
      exact hfree
    · rw [hget]
      exact hbelow (j + reservedDescriptors) (by omega) (by omega)

end Table

end PosixVfs
