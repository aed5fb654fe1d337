import PosixVfs.Proofs.World.Tidy

/-!
# Proofs/World/Ledger — every slot is accounted for

Suppose we know of every object whether somebody uses it.  A world keeps the **ledger** if an object
is attached to the pool it lies in exactly while it is in use, and if the slots of the pools that are
alive are held by the attached objects and no others.  Taking enters an object into the ledger, and
giving back crosses it out (`Ledger.take`, `Ledger.giveBack`).
-/

namespace PosixVfs.World

variable {ε : Type}

/-- **The ledger** of a world whose objects are in use as `inUse` says. -/
structure Ledger (w : World ε) (inUse : ObjectId → Prop) : Prop where
  /-- An object is attached to no pool but the one it lies in. -/
  home : ∀ x p, w.owner x = some p → ∃ slot, slot < (w.pools p).capacity ∧ x = p.member slot
  /-- It is attached exactly while it is in use. -/
  attached_iff : ∀ p slot, slot < (w.pools p).capacity →
    (w.owner (p.member slot) = some p ↔ inUse (p.member slot))
  /-- Slots are held by the attached objects, as long as the pool is alive. -/
  held_iff : ∀ p slot, w.poolAlive p = true →
    ((w.pools p).isHeld slot = true ↔ w.owner (p.member slot) = some p)

namespace Ledger

variable {w w' : World ε} {inUse inUse' : ObjectId → Prop} {p : PoolId} {slot : Nat}

/-- An object that is attached at all is attached to the pool it lies in. -/
theorem owner_eq (h : w.Ledger inUse) {q : PoolId} (ho : w.owner (p.member slot) = some q) :
    q = p := by
  obtain ⟨i, -, hi⟩ := h.home _ q ho
  exact (PoolId.member_inj hi).1.symm

/-- Nothing is attached to a vacant slot. -/
theorem owner_of_vacant (h : w.Ledger inUse) (hv : w.Vacant p slot) :
    w.owner (p.member slot) = none := by
  rw [Option.eq_none_iff_forall_ne_some]
  intro q ho
  obtain rfl := h.owner_eq ho
  have hheld := (h.held_iff q slot hv.alive).mpr ho
  rw [hv.isHeld] at hheld
  cases hheld

/-- Nobody uses the object in a vacant slot. -/
theorem not_inUse_of_vacant (h : w.Ledger inUse) (hv : w.Vacant p slot) :
    ¬ inUse (p.member slot) := by
  rw [← h.attached_iff p slot hv.lt, h.owner_of_vacant hv]
  intro e
  cases e

/-- The ledger depends on slots and owners only, and on the objects that lie in pools. -/
theorem congr (h : w.Ledger inUse) (hheld : ∀ p, (w'.pools p).held = (w.pools p).held)
    (howner : w'.owner = w.owner) (halive : ∀ p, w'.poolAlive p = true → w.poolAlive p = true)
    (huse : ∀ p slot, slot < (w.pools p).capacity →
      (inUse' (p.member slot) ↔ inUse (p.member slot))) : w'.Ledger inUse' := by
  have hcap : ∀ p, (w'.pools p).capacity = (w.pools p).capacity := fun p =>
    congrArg List.length (hheld p)
  refine ⟨fun x p hx => ?_, fun p slot hlt => ?_, fun p slot ha => ?_⟩
  · rw [howner] at hx
    rw [hcap]
    exact h.home x p hx
  · rw [hcap] at hlt
    rw [howner, h.attached_iff p slot hlt, huse p slot hlt]
  · rw [howner, Pool.isHeld, hheld]
    exact h.held_iff p slot (halive p ha)

/-- The ledger is read off the books. -/
theorem of_books (h : w.Ledger inUse) (hb : w'.books = w.books)
    (huse : ∀ x, w.Pooled x → (inUse' x ↔ inUse x)) : w'.Ledger inUse' :=
  h.congr (fun p => by rw [pools_of_books hb]) (owner_of_books hb)
    (fun p => by rw [poolAlive_of_books hb]; exact id) fun p slot hlt => huse _ ⟨p, slot, hlt, rfl⟩

/-- Descriptors are not in the ledger. -/
theorem setDescriptor (h : w.Ledger inUse) (o : IoId) (fd : Option Fd) :
    (w.setDescriptor o fd).Ledger inUse :=
  h.congr (fun _ => rfl) rfl (fun _ => id) fun _ _ _ => Iff.rfl

/-- **Taking** enters the object on offer. -/
theorem take (h : w.Ledger inUse) (ho : w.Offers p slot) :
    (w.take p slot).Ledger fun x => x = p.member slot ∨ inUse x := by
  have hattached : ∀ q i, (w.take p slot).owner (q.member i) = some q ↔
      q.member i = p.member slot ∨ w.owner (q.member i) = some q := by
    intro q i
    rw [owner_take]
    by_cases hx : q.member i = p.member slot
    · obtain ⟨rfl, rfl⟩ := PoolId.member_inj hx
      simp
    · rw [assign_of_ne _ _ _ hx]
      simp [hx]
  refine ⟨fun x q hx => ?_, fun q i hi => ?_, fun q i ha => ?_⟩
  · simp only [owner_take, capacity_take] at hx ⊢
    by_cases hxp : x = p.member slot
    · rw [hxp, assign_self, Option.some.injEq] at hx
      rw [← hx]
      exact ⟨slot, ho.lt, hxp⟩
    · rw [assign_of_ne _ _ _ hxp] at hx
      exact h.home x q hx
  · rw [capacity_take] at hi
    rw [hattached, h.attached_iff q i hi]
  · rw [poolAlive_take] at ha
    rw [hattached, ho.isHeld_take, h.held_iff q i ha, or_comm]

/-- **Giving back** crosses the object out. -/
theorem giveBack (h : w.Ledger inUse) (x : ObjectId) :
    (w.giveBack x).2.Ledger fun y => inUse y ∧ y ≠ x := by
  have hattached : ∀ q y, (w.giveBack x).2.owner y = some q ↔ w.owner y = some q ∧ y ≠ x := by
    intro q y
    rw [owner_giveBack]
    by_cases hy : y = x
    · rw [hy, assign_self]
      simp
    · rw [assign_of_ne _ _ _ hy]
      simp [hy]
  refine ⟨fun y q hy => ?_, fun q i hi => ?_, fun q i ha => ?_⟩
  · rw [capacity_giveBack]
    exact h.home y q ((hattached q y).mp hy).1
  · rw [capacity_giveBack] at hi
    rw [hattached, h.attached_iff q i hi]
  · rw [poolAlive_giveBack] at ha
    rw [hattached, isHeld_giveBack, h.held_iff q i ha]
    constructor
    · rintro ⟨ho, hnot⟩
      exact ⟨ho, fun e => hnot ⟨e ▸ ho, ha, e.symm⟩⟩
    · rintro ⟨ho, hne⟩
      exact ⟨ho, fun ⟨_, _, e⟩ => hne e.symm⟩

end Ledger

end PosixVfs.World
