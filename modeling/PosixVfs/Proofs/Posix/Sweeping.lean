import PosixVfs.Proofs.Descriptor.Accounting
import PosixVfs.Proofs.Posix.Acquisition

/-!
# Proofs/Posix/Sweeping — closing everything goes through the slots

Closing everything closes what the slots contain, from the lowest on.  While it goes, the slots that it
has passed are empty, as far as descriptors stand for them, and those that are still to come contain
what they did at the start (`Posix.Sweep`).  So an object is found under its own number or not at all
when its turn comes, and the accounts are kept (`Posix.accounted_closeAll`).  A slot that no
descriptor stands for is never emptied (`Posix.object?_closeAll_of_count_le`).
-/

namespace PosixVfs

variable {ε : Type}

/-- **Closing goes through the slots** and has come to slot `n`: those from there on contain
`contents`, and those below are empty. -/
structure Posix.Sweep (n : Nat) (contents : List (Option IoId)) (streams : List DirectoryId)
    (s : Table × World ε) : Prop where
  accounted : s.1.Accounted s.2 streams
  passed : ∀ i < n, i < Fd.count → s.1.object? i = none
  ahead : ∀ j, n + j < Fd.count → s.1.object? (n + j) = contents[j]?.join

namespace Posix.Sweep

variable {n : Nat} {contents : List (Option IoId)} {streams : List DirectoryId} {s : Table × World ε}
  {o : IoId}

/-- What the next slot contains, if a descriptor stands for it. -/
theorem next {content : Option IoId} (h : Sweep n (content :: contents) streams s)
    (hn : n < Fd.count) : s.1.object? n = content :=
  h.ahead 0 hn

theorem later {content : Option IoId} (h : Sweep n (content :: contents) streams s) (j : Nat)
    (hj : n + 1 + j < Fd.count) : s.1.object? (n + 1 + j) = contents[j]?.join := by
  rw [Nat.add_assoc, Nat.add_comm 1 j] at hj ⊢
  exact h.ahead (j + 1) hj

/-- The number of the next object is that of its slot, if a descriptor stands for it. -/
theorem slotIn?_next (h : Sweep n (some o :: contents) streams s) (hn : n < Fd.count) :
    o.slotIn? s.1 s.2 = some n := by
  have hi := Fd.index?_ofIndex_of_lt hn (Table.lt_capacity_of_object? (h.next hn))
  have hd := h.accounted.truthful _ o ((Table.io?_of_index? hi).trans (h.next hn))
  rw [IoId.slotIn?, hd, Option.bind_some, hi]

/-- Nobody but the next object is found under its number. -/
theorem eq_of_foundIn? (h : Sweep n (some o :: contents) streams s) {o' : IoId}
    (hfound : o.foundIn? s.1 s.2 = some o') : o' = o := by
  obtain ⟨i, hi, ho'⟩ := Option.bind_eq_some_iff.mp hfound
  obtain ⟨fd, -, hfd⟩ := Option.bind_eq_some_iff.mp hi
  have hcount := Fd.lt_count_of_index? hfd
  obtain hlt | hle := Nat.lt_or_ge i n
  · rw [h.passed i hlt hcount] at ho'
    cases ho'
  · have hn : n < Fd.count := Nat.lt_of_le_of_lt hle hcount
    obtain rfl : n = i := Option.some.inj ((h.slotIn?_next hn).symm.trans hi)
    exact Option.some.inj (ho'.symm.trans (h.next hn))

/-- An empty slot is passed. -/
theorem skip (h : Sweep n (none :: contents) streams s) : Sweep (n + 1) contents streams s where
  accounted := h.accounted
  passed i hi hcount := by
    obtain hlt | rfl := Nat.lt_succ_iff_lt_or_eq.mp hi
    · exact h.passed i hlt hcount
    · exact h.next hcount
  ahead := h.later

variable [Embedder ε]

/-- **The next object is closed**, and its slot is passed. -/
theorem close (h : Sweep n (some o :: contents) streams s) :
    Sweep (n + 1) contents streams (closeOne s o) := by
  have hobject : ∀ i, (closeOne s o).1.object? i =
      if o.slotIn? s.1 s.2 = some i then none else s.1.object? i := o.object?_close s.1 s.2
  refine ⟨?_, fun i hi hcount => ?_, fun j hj => ?_⟩
  · have hclose := h.accounted.close fun _ => h.eq_of_foundIn?
    exact hclose.of_books ((World.After.refl _).noteFailure _ fun _ => rfl).books
  · rw [hobject]
    split
    · rfl
    · next hne =>
        obtain hlt | rfl := Nat.lt_succ_iff_lt_or_eq.mp hi
        · exact h.passed i hlt hcount
        · exact absurd (h.slotIn?_next hcount) hne
  · have hn : n < Fd.count := by omega
    have hne : ¬ some n = some (n + 1 + j) := fun heq => by
      have := Option.some.inj heq
      omega
    rw [hobject, h.slotIn?_next hn, if_neg hne]
    exact h.later j hj

/-- Going through all slots keeps the accounts. -/
theorem foldl (h : Sweep n contents streams s) :
    ((contents.filterMap id).foldl closeOne s).1.Accounted
      ((contents.filterMap id).foldl closeOne s).2 streams := by
  induction contents generalizing n s with
  | nil => exact h.accounted
  | cons content contents ih =>
      rcases content with _ | o
      · exact ih h.skip
      · exact ih h.close

end Posix.Sweep

namespace Posix

variable [Embedder ε] (p : Posix ε)

/-- **Closing everything** keeps the accounts, however many slots the table has. -/
theorem accounted_closeAll {streams : List DirectoryId} (h : p.table.Accounted p.world streams) :
    p.closeAll.2.table.Accounted p.closeAll.2.world streams := by
  have hsweep : Sweep 0 p.table.slots streams (p.table, p.world) := by
    refine ⟨h, fun i hi => absurd hi (Nat.not_lt_zero i), fun j _ => ?_⟩
    rw [Nat.zero_add]
    rfl
  have hfold := hsweep.foldl
  rw [← Table.map_snd_bound] at hfold
  exact hfold

/-- **A slot without a descriptor** is not emptied by closing everything. -/
theorem object?_closeAll_of_count_le {i : Nat} (hi : Fd.count ≤ i) :
    p.closeAll.2.table.object? i = p.table.object? i := by
  refine p.closeAll_induction (P := fun t _ => t.object? i = p.table.object? i) (fun t w o h => ?_) rfl
  have hslot : o.slotIn? t w ≠ some i := by
    intro hslot
    obtain ⟨fd, -, hfd⟩ := Option.bind_eq_some_iff.mp hslot
    exact absurd (Fd.lt_count_of_index? hfd) (Nat.not_lt.mpr hi)
  exact ((o.object?_close t w i).trans (if_neg hslot)).trans h

end Posix

end PosixVfs
