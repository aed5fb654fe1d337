import PosixVfs.Proofs.World.Slots

/-!
# Proofs/World/Tidy — nobody has anything to do with the object in a free slot

In a **tidy** world an object that is taken from its pool comes as if it were new: while its slot was
free it was neither attached nor bound.  This is what makes undoing exact — an object that was found
and is given back leaves no trace in the books (`Tidy.books_giveBack_of_finds`).
-/

namespace PosixVfs.World

variable {ε : Type}

/-- An object lies in a slot of some pool. -/
def Pooled (w : World ε) (x : ObjectId) : Prop :=
  ∃ p slot, slot < (w.pools p).capacity ∧ x = p.member slot

/-- Devices lie in no pool. -/
theorem not_pooled_device (w : World ε) (d : DeviceId) : ¬ w.Pooled (.io (.device d)) := by
  rintro ⟨p, slot, -, hx⟩
  cases p <;> cases hx

/-- The world in which an object is about to be bound: one that lies in no pool is just there, any
other was taken from its pool. -/
inductive Finds (w : World ε) : IoId → World ε → Prop
  | unpooled {o : IoId} (h : ¬ w.Pooled (.io o)) : Finds w o w
  | taken {p : PoolId} {slot : Nat} {o : IoId} (offer : w.Offers p slot)
      (member : p.member slot = .io o) : Finds w o (w.take p slot)

theorem Finds.descriptor {w w₁ : World ε} {o : IoId} (h : w.Finds o w₁) :
    w₁.descriptor = w.descriptor := by
  cases h with
  | unpooled _ => rfl
  | taken _ _ => rfl

theorem Finds.descriptor_setDescriptor {w w₁ : World ε} {o : IoId} (h : w.Finds o w₁)
    (fd : Option Fd) : (w₁.setDescriptor o fd).descriptor = (w.setDescriptor o fd).descriptor := by
  change assign w₁.descriptor o fd = assign w.descriptor o fd
  rw [h.descriptor]

/-! ## Vacant slots -/

/-- A slot is vacant if it is free, and its pool is alive. -/
structure Vacant (w : World ε) (p : PoolId) (slot : Nat) : Prop where
  alive : w.poolAlive p = true
  lt : slot < (w.pools p).capacity
  isHeld : (w.pools p).isHeld slot = false

namespace Vacant

variable {w : World ε} {p q : PoolId} {slot i : Nat} {x : ObjectId}

/-- The slot on offer is vacant. -/
theorem of_offers (h : w.Offers p slot) : w.Vacant p slot := ⟨h.alive, h.lt, h.isHeld⟩

/-- What is vacant after a taking was vacant before, and was not taken. -/
theorem of_take (ho : w.Offers p slot) (h : (w.take p slot).Vacant q i) :
    w.Vacant q i ∧ q.member i ≠ p.member slot := by
  obtain ⟨ha, hlt, hfree⟩ := h
  rw [poolAlive_take] at ha
  rw [capacity_take] at hlt
  rw [← Bool.not_eq_true, ho.isHeld_take, not_or, Bool.not_eq_true] at hfree
  exact ⟨⟨ha, hlt, hfree.1⟩, hfree.2⟩

/-- What is vacant after a giving back was vacant before, or is the slot that was given back. -/
theorem of_giveBack (h : (w.giveBack x).2.Vacant q i) : w.Vacant q i ∨ q.member i = x := by
  obtain ⟨ha, hlt, hfree⟩ := h
  rw [poolAlive_giveBack] at ha
  rw [capacity_giveBack] at hlt
  rw [← Bool.not_eq_true, isHeld_giveBack] at hfree
  by_cases hheld : (w.pools q).isHeld i = true
  · have hback := Decidable.not_not.mp fun hnot => hfree ⟨hheld, hnot⟩
    exact .inr hback.2.2.symm
  · exact .inl ⟨ha, hlt, Bool.eq_false_iff.mpr hheld⟩

end Vacant

/-! ## Tidy worlds -/

/-- **Tidiness.**  The object in a vacant slot is neither attached to a pool nor bound to a
descriptor, and only objects that lie in pools are attached at all. -/
structure Tidy (w : World ε) : Prop where
  pooled : ∀ x p, w.owner x = some p → w.Pooled x
  unattached : ∀ p slot, w.Vacant p slot → w.owner (p.member slot) = none
  unbound : ∀ p slot o, w.Vacant p slot → p.member slot = .io o → w.descriptor o = none

namespace Tidy

variable {w w₁ w' : World ε} {p : PoolId} {slot : Nat} {o : IoId}

/-- An object in no pool is not attached. -/
theorem owner_of_not_pooled (h : w.Tidy) {x : ObjectId} (hx : ¬ w.Pooled x) : w.owner x = none := by
  rw [Option.eq_none_iff_forall_ne_some]
  intro p ho
  exact hx (h.pooled x p ho)

/-- An object on offer is not bound. -/
theorem descriptor_of_offers (h : w.Tidy) (ho : w.Offers p slot) (hm : p.member slot = .io o) :
    w.descriptor o = none :=
  h.unbound p slot o (.of_offers ho) hm

/-- **An object that was found** can be returned without a trace. -/
theorem books_giveBack_of_finds (h : w.Tidy) (hf : w.Finds o w₁) (hw : w'.books = w₁.books) :
    (w'.giveBack (.io o)).2.books = w.books := by
  cases hf with
  | unpooled hx =>
      rw [((After.of_books hw).giveBack _).books]
      exact books_giveBack_of_owner_none (h.owner_of_not_pooled hx)
  | taken ho hm =>
      rw [← hm]
      exact books_giveBack_take hw ho (h.unattached _ _ (.of_offers ho))

/-- A world stays tidy as long as no slot is freed, no object attached and none bound. -/
theorem congr (h : w.Tidy) (hheld : ∀ p, (w'.pools p).held = (w.pools p).held)
    (howner : w'.owner = w.owner) (halive : ∀ p, w'.poolAlive p = true → w.poolAlive p = true)
    (hd : ∀ o, w.descriptor o = none → w'.descriptor o = none) : w'.Tidy := by
  have hcap : ∀ p, (w'.pools p).capacity = (w.pools p).capacity := fun p =>
    congrArg List.length (hheld p)
  have hvacant : ∀ p slot, w'.Vacant p slot → w.Vacant p slot := by
    rintro p slot ⟨ha, hlt, hfree⟩
    rw [hcap] at hlt
    rw [Pool.isHeld, hheld] at hfree
    exact ⟨halive p ha, hlt, hfree⟩
  refine ⟨fun x p hx => ?_, fun p slot hv => ?_, fun p slot o hv hm => ?_⟩
  · rw [howner] at hx
    obtain ⟨q, slot, hlt, hxq⟩ := h.pooled x p hx
    rw [← hcap] at hlt
    exact ⟨q, slot, hlt, hxq⟩
  · rw [howner]
    exact h.unattached p slot (hvacant p slot hv)
  · exact hd o (h.unbound p slot o (hvacant p slot hv) hm)

/-- Tidiness is read off the books. -/
theorem of_books (h : w.Tidy) (hb : w'.books = w.books) : w'.Tidy :=
  h.congr (fun p => by rw [pools_of_books hb]) (owner_of_books hb)
    (fun p => by rw [poolAlive_of_books hb]; exact id)
    fun o => by rw [descriptor_of_books hb]; exact id

/-- Unbinding keeps a world tidy. -/
theorem setDescriptor_none (h : w.Tidy) (o : IoId) : (w.setDescriptor o none).Tidy := by
  refine h.congr (fun _ => rfl) rfl (fun _ => id) fun o' ho' => ?_
  change assign w.descriptor o none o' = none
  by_cases hoo : o' = o
  · rw [hoo, assign_self]
  · rw [assign_of_ne _ _ _ hoo, ho']

/-- Binding an object keeps a world tidy, as long as its slot is not vacant. -/
theorem bind (h : w.Tidy) (ho : ∀ p slot, w.Vacant p slot → p.member slot ≠ .io o)
    (fd : Option Fd) : (w.setDescriptor o fd).Tidy := by
  refine ⟨h.pooled, fun p slot hv => ?_, fun p slot o' hv hm => ?_⟩
  · exact h.unattached p slot ⟨hv.alive, hv.lt, hv.isHeld⟩
  · have hv' : w.Vacant p slot := ⟨hv.alive, hv.lt, hv.isHeld⟩
    have hne : o' ≠ o := fun e => ho p slot hv' (e ▸ hm)
    change assign w.descriptor o fd o' = none
    rw [assign_of_ne _ _ _ hne]
    exact h.unbound p slot o' hv' hm

/-- **Taking** keeps a world tidy. -/
theorem take (h : w.Tidy) (ho : w.Offers p slot) : (w.take p slot).Tidy := by
  refine ⟨fun x q hx => ?_, fun q i hv => ?_, fun q i o hv hm => ?_⟩
  · have hpooled : w.Pooled x := by
      rw [owner_take] at hx
      by_cases hxp : x = p.member slot
      · exact ⟨p, slot, ho.lt, hxp⟩
      · rw [assign_of_ne _ _ _ hxp] at hx
        exact h.pooled x q hx
    obtain ⟨q', i, hlt, hxi⟩ := hpooled
    rw [← w.capacity_take p slot] at hlt
    exact ⟨q', i, hlt, hxi⟩
  · obtain ⟨hv', hne⟩ := Vacant.of_take ho hv
    rw [owner_take, assign_of_ne _ _ _ hne]
    exact h.unattached q i hv'
  · exact h.unbound q i o (Vacant.of_take ho hv).1 hm

/-- **Giving back** an object that is not bound keeps a world tidy. -/
theorem giveBack (h : w.Tidy) {x : ObjectId} (hx : ∀ o, x = .io o → w.descriptor o = none) :
    (w.giveBack x).2.Tidy := by
  refine ⟨fun y q hy => ?_, fun q i hv => ?_, fun q i o hv hm => ?_⟩
  · rw [owner_giveBack] at hy
    by_cases hyx : y = x
    · rw [hyx, assign_self] at hy
      cases hy
    · rw [assign_of_ne _ _ _ hyx] at hy
      obtain ⟨q', i, hlt, hyi⟩ := h.pooled y q hy
      rw [← w.capacity_giveBack x] at hlt
      exact ⟨q', i, hlt, hyi⟩
  · rw [owner_giveBack]
    by_cases hix : q.member i = x
    · rw [hix, assign_self]
    · rw [assign_of_ne _ _ _ hix]
      exact h.unattached q i ((Vacant.of_giveBack hv).resolve_right hix)
  · rw [descriptor_giveBack]
    obtain hv' | hix := Vacant.of_giveBack hv
    · exact h.unbound q i o hv' hm
    · exact hx o (hix.symm.trans hm)

/-- **An object that was found** can be bound. -/
theorem finds (h : w.Tidy) (hf : w.Finds o w₁) (fd : Option Fd) :
    (w₁.setDescriptor o fd).Tidy := by
  cases hf with
  | unpooled hx => exact h.bind (fun p slot hv hm => hx ⟨p, slot, hv.lt, hm.symm⟩) fd
  | taken offer member =>
      refine (h.take offer).bind (fun q i hv => ?_) fd
      rw [← member]
      exact (Vacant.of_take offer hv).2

end Tidy

end PosixVfs.World
