import PosixVfs.Proofs.World.Books

/-!
# Proofs/World/Slots — taking a slot and giving its object back

`acquireLinked` either takes the lowest free slot (`World.take`) or finds none
(`acquireLinked_cases`).  `giveBack` returns an object to the pool it is attached to, if that is
alive and the slot is held (`giveBack_cases`).  The two are inverse: an object that was just taken
goes back without a trace in the books (`books_giveBack_take`).
-/

namespace PosixVfs

namespace Pool

variable {p : Pool} {slot : Nat}

/-- A held slot exists. -/
theorem lt_of_isHeld (h : p.isHeld slot = true) : slot < p.capacity := by
  rw [isHeld, beq_iff_eq] at h
  exact (List.getElem?_eq_some_iff.mp h).choose

theorem isHeld_eq_getElem (h : slot < p.held.length) : p.isHeld slot = p.held[slot] := by
  rw [isHeld, List.getElem?_eq_getElem h]
  cases p.held[slot] <;> rfl

/-- No slot of a new pool is held. -/
theorem isHeld_new (capacity slot : Nat) : (new capacity).isHeld slot = false := by
  rw [isHeld, new, List.getElem?_replicate]
  split <;> rfl

/-- The lowest free slot is a slot of the pool, it is free, and those below it are held. -/
theorem firstFree?_eq_some_iff : p.firstFree? = some slot ↔
    slot < p.capacity ∧ p.isHeld slot = false ∧ ∀ i < slot, p.isHeld i = true := by
  rw [firstFree?, List.findIdx?_eq_some_iff_getElem]
  constructor
  · rintro ⟨hlt, hfree, hbelow⟩
    refine ⟨hlt, ?_, fun i hi => ?_⟩
    · rw [isHeld_eq_getElem hlt]
      simpa using hfree
    · rw [isHeld_eq_getElem (Nat.lt_trans hi hlt)]
      simpa using hbelow i hi
  · rintro ⟨hlt, hfree, hbelow⟩
    refine ⟨hlt, ?_, fun i hi => ?_⟩
    · rw [isHeld_eq_getElem hlt] at hfree
      simpa using hfree
    · have hheld := hbelow i hi
      rw [isHeld_eq_getElem (Nat.lt_trans hi hlt)] at hheld
      simpa using hheld

@[simp] theorem capacity_hold (p : Pool) (slot : Nat) : (p.hold slot).capacity = p.capacity := by
  simp [hold, capacity]

@[simp] theorem capacity_free (p : Pool) (slot : Nat) : (p.free slot).capacity = p.capacity := by
  simp [free, capacity]

@[simp] theorem kept_hold (p : Pool) (slot : Nat) : (p.hold slot).kept = p.kept := rfl

@[simp] theorem kept_free (p : Pool) (slot : Nat) : (p.free slot).kept = p.kept := rfl

theorem isHeld_hold (hslot : slot < p.capacity) (i : Nat) :
    (p.hold slot).isHeld i = (i == slot || p.isHeld i) := by
  have hslot' : slot < p.held.length := hslot
  by_cases h : i = slot
  · subst h
    simp [isHeld, hold, hslot']
  · simp [isHeld, hold, h, Ne.symm h]

theorem isHeld_free (p : Pool) (slot i : Nat) :
    (p.free slot).isHeld i = (i != slot && p.isHeld i) := by
  by_cases h : i = slot
  · subst h
    by_cases hlt : i < p.held.length <;> simp [isHeld, free, hlt]
  · simp [isHeld, free, h, Ne.symm h]

/-- Holding the lowest free slot and freeing it again changes nothing. -/
theorem free_hold (h : p.firstFree? = some slot) : (p.hold slot).free slot = p := by
  obtain ⟨hlt, hfree, -⟩ := firstFree?_eq_some_iff.mp h
  rw [isHeld_eq_getElem hlt] at hfree
  have hset : p.held.set slot false = p.held := by
    rw [← hfree]
    exact List.set_getElem_self hlt
  rw [free, hold, List.set_set, hset]

end Pool

theorem PoolId.member_inj {p q : PoolId} {i j : Nat} (h : p.member i = q.member j) :
    p = q ∧ i = j := by
  cases p <;> cases q <;> simp_all [member]

theorem PoolId.slotOf?_member (p : PoolId) (slot : Nat) : p.slotOf? (p.member slot) = some slot :=
  slotOf?_eq_some.mpr rfl

namespace World

variable {ε : Type}

/-- A world with one more slot taken: the slot is held, and its object is attached to the pool. -/
def take (w : World ε) (p : PoolId) (slot : Nat) : World ε :=
  (w.setPool p ((w.pools p).hold slot)).setOwner (p.member slot) (some p)

/-! ## Taking -/

/-- **Acquiring** finds no free slot and leaves only a record, or holds the lowest one. -/
theorem acquire_cases (w : World ε) (p : PoolId) :
    ((w.pools p).firstFree? = none ∧
      w.acquire p = (none, w.note (.poolExhausted (w.pools p).capacity))) ∨
    ∃ slot, (w.pools p).firstFree? = some slot ∧
      w.acquire p = (some slot, w.setPool p ((w.pools p).hold slot)) := by
  rw [acquire]
  rcases h : (w.pools p).firstFree? with _ | slot
  · exact .inl ⟨rfl, rfl⟩
  · exact .inr ⟨slot, rfl, rfl⟩

/-- **Taking** finds no free slot and leaves only a record, or takes the lowest one. -/
theorem acquireLinked_cases (w : World ε) (p : PoolId) :
    ((w.pools p).firstFree? = none ∧
      w.acquireLinked p = (none, w.note (.poolExhausted (w.pools p).capacity))) ∨
    ∃ slot, (w.pools p).firstFree? = some slot ∧
      w.acquireLinked p = (some slot, w.take p slot) := by
  rw [acquireLinked]
  obtain ⟨h, ha⟩ | ⟨slot, h, ha⟩ := w.acquire_cases p
  · exact .inl ⟨h, by rw [ha]⟩
  · exact .inr ⟨slot, h, by rw [ha]; rfl⟩

theorem capacity_assign {pools : PoolId → Pool} {p : PoolId} {pool : Pool}
    (h : pool.capacity = (pools p).capacity) (q : PoolId) :
    (assign pools p pool q).capacity = (pools q).capacity := by
  by_cases hq : q = p
  · rw [hq, assign_self, h]
  · rw [assign_of_ne _ _ _ hq]

/-- A slot that was free is held now, and all others are as before. -/
theorem isHeld_assign_hold {pools : PoolId → Pool} {p : PoolId} {slot : Nat}
    (hlt : slot < (pools p).capacity) (q : PoolId) (i : Nat) :
    (assign pools p ((pools p).hold slot) q).isHeld i = true ↔
      (pools q).isHeld i = true ∨ q.member i = p.member slot := by
  by_cases hq : q = p
  · subst hq
    have hmem : q.member i = q.member slot ↔ i = slot :=
      ⟨fun h => (PoolId.member_inj h).2, fun h => by rw [h]⟩
    rw [assign_self, Pool.isHeld_hold hlt, hmem]
    simp [or_comm]
  · have hmem : q.member i ≠ p.member slot := fun h => hq (PoolId.member_inj h).1
    rw [assign_of_ne _ _ _ hq]
    simp [hmem]

/-- A slot is free now, and all others are as before. -/
theorem isHeld_assign_free (pools : PoolId → Pool) (p : PoolId) (slot : Nat) (q : PoolId) (i : Nat) :
    (assign pools p ((pools p).free slot) q).isHeld i = true ↔
      (pools q).isHeld i = true ∧ q.member i ≠ p.member slot := by
  by_cases hq : q = p
  · subst hq
    have hmem : q.member i = q.member slot ↔ i = slot :=
      ⟨fun h => (PoolId.member_inj h).2, fun h => by rw [h]⟩
    rw [assign_self, Pool.isHeld_free, Ne, hmem]
    simp [and_comm]
  · have hmem : q.member i ≠ p.member slot := fun h => hq (PoolId.member_inj h).1
    rw [assign_of_ne _ _ _ hq]
    simp [hmem]

section Take

variable (w : World ε) (p : PoolId) (slot : Nat)

@[simp] theorem owner_take : (w.take p slot).owner = assign w.owner (p.member slot) (some p) := rfl

@[simp] theorem pools_take :
    (w.take p slot).pools = assign w.pools p ((w.pools p).hold slot) := rfl

@[simp] theorem capacity_take (q : PoolId) :
    ((w.take p slot).pools q).capacity = (w.pools q).capacity :=
  capacity_assign (Pool.capacity_hold _ slot) q

theorem after_take : w.After [] (w.take p slot).books (w.take p slot) :=
  ((After.refl w).setPool _ _).setOwner _ _

/-- Holding slots does not decide whether a pool is alive. -/
@[simp] theorem poolAlive_take : (w.take p slot).poolAlive = w.poolAlive := by
  funext q
  by_cases h : q = p
  · subst h
    simp [poolAlive, take, setOwner, setPool]
  · simp [poolAlive, take, setOwner, setPool, assign_of_ne _ _ _ h]

end Take

/-! ## Giving back -/

/-- **Releasing** frees the slot that the address points into, or leaves at most a record if that is
not held. -/
theorem release_cases (w : World ε) (p : PoolId) (x : ObjectId) :
    (∃ log, (∀ slot, x = p.member slot → (w.pools p).isHeld slot = false) ∧
      w.release p x = (false, { w with log })) ∨
    ∃ slot, x = p.member slot ∧ (w.pools p).isHeld slot = true ∧
      w.release p x = (true, w.setPool p ((w.pools p).free slot)) := by
  rw [release]
  rcases hslot : (p.slotOf? x).filter (· < (w.pools p).capacity) with _ | slot
  · refine .inl ⟨w.log, fun slot hx => ?_, rfl⟩
    rw [hx, PoolId.slotOf?_member, Option.filter_eq_none_iff] at hslot
    have hlt : ¬ slot < (w.pools p).capacity := by simpa using hslot
    exact Bool.eq_false_iff.mpr fun hheld => hlt (Pool.lt_of_isHeld hheld)
  · obtain ⟨hmem, -⟩ := Option.filter_eq_some_iff.mp hslot
    have hx := PoolId.slotOf?_eq_some.mp hmem
    cases hheld : (w.pools p).isHeld slot with
    | true => exact .inr ⟨slot, hx, hheld, by simp only [hheld, if_true]⟩
    | false =>
        refine .inl ⟨(w.note (.slotAlreadyFree slot)).log, fun i hi => ?_,
          by simp only [hheld, Bool.false_eq_true, if_false]; rfl⟩
        rw [hx] at hi
        rw [← (PoolId.member_inj hi).2]
        exact hheld

@[simp] theorem descriptor_release (w : World ε) (p : PoolId) (x : ObjectId) :
    (w.release p x).2.descriptor = w.descriptor := by
  obtain ⟨log, -, hw⟩ | ⟨slot, -, -, hw⟩ := w.release_cases p x
  · rw [hw]
  · rw [hw]
    rfl

/-- **Releasing by a link** makes the object that has the link forget its owner, and frees the slot
that the address points into there, if the owner is alive and the slot is held. -/
theorem releaseLink_cases (w : World ε) (o x : ObjectId) :
    (∃ log, (∀ p slot, w.owner o = some p → w.poolAlive p = true → x = p.member slot →
        (w.pools p).isHeld slot = false) ∧
      w.releaseLink o x = (false, { w.setOwner o none with log })) ∨
    ∃ p slot, w.owner o = some p ∧ w.poolAlive p = true ∧ x = p.member slot ∧
      (w.pools p).isHeld slot = true ∧
      w.releaseLink o x = (true, (w.setOwner o none).setPool p ((w.pools p).free slot)) := by
  rw [releaseLink]
  rcases hfilter : (w.owner o).filter w.poolAlive with _ | p
  · refine .inl ⟨w.log, fun p slot ho ha _ => ?_, rfl⟩
    rw [ho, Option.filter_some, if_pos ha] at hfilter
    cases hfilter
  · obtain ⟨ho, ha⟩ := Option.filter_eq_some_iff.mp hfilter
    obtain ⟨log, hfree, hw⟩ | ⟨slot, hx, hheld, hw⟩ := (w.setOwner o none).release_cases p x
    · refine .inl ⟨log, fun q slot hq _ hx => ?_, hw⟩
      rw [ho, Option.some.injEq] at hq
      subst hq
      exact hfree slot hx
    · exact .inr ⟨p, slot, ho, ha, hx, hheld, hw⟩

/-- **Giving back** makes an object forget its owner, and frees its slot there if the owner is
alive and the slot is held. -/
theorem giveBack_cases (w : World ε) (x : ObjectId) :
    ((∀ p slot, w.owner x = some p → w.poolAlive p = true → x = p.member slot →
        (w.pools p).isHeld slot = false) ∧
      (w.giveBack x).2.books = (w.setOwner x none).books) ∨
    ∃ p slot, w.owner x = some p ∧ w.poolAlive p = true ∧ x = p.member slot ∧
      (w.giveBack x).2 = (w.setOwner x none).setPool p ((w.pools p).free slot) := by
  rw [giveBack]
  obtain ⟨log, hfree, hw⟩ | ⟨p, slot, ho, ha, hx, -, hw⟩ := w.releaseLink_cases x x
  · rw [hw]
    exact .inl ⟨hfree, rfl⟩
  · rw [hw]
    exact .inr ⟨p, slot, ho, ha, hx, rfl⟩

/-- Giving back an object that is not attached does not change the books. -/
theorem books_giveBack_of_owner_none {w : World ε} {x : ObjectId} (h : w.owner x = none) :
    (w.giveBack x).2.books = w.books := by
  obtain ⟨-, hb⟩ | ⟨p, slot, ho, -⟩ := w.giveBack_cases x
  · rw [hb, books_setOwner_of_none h]
  · rw [h] at ho
    cases ho

section GiveBack

variable (w : World ε) (x : ObjectId)

@[simp] theorem descriptor_giveBack : (w.giveBack x).2.descriptor = w.descriptor := by
  obtain ⟨-, hb⟩ | ⟨p, slot, -, -, -, hw⟩ := w.giveBack_cases x
  · rw [descriptor_of_books hb]
    rfl
  · rw [hw]
    rfl

@[simp] theorem catalog_giveBack : (w.giveBack x).2.catalog = w.catalog := by
  obtain ⟨-, hb⟩ | ⟨p, slot, -, -, -, hw⟩ := w.giveBack_cases x
  · rw [catalog_of_books hb]
    rfl
  · rw [hw]
    rfl

@[simp] theorem owner_giveBack : (w.giveBack x).2.owner = assign w.owner x none := by
  obtain ⟨-, hb⟩ | ⟨p, slot, -, -, -, hw⟩ := w.giveBack_cases x
  · exact owner_of_books hb
  · rw [hw]
    rfl

@[simp] theorem capacity_giveBack (q : PoolId) :
    ((w.giveBack x).2.pools q).capacity = (w.pools q).capacity := by
  obtain ⟨-, hb⟩ | ⟨p, slot, -, -, -, hw⟩ := w.giveBack_cases x
  · rw [pools_of_books hb]
    rfl
  · rw [hw]
    exact capacity_assign (Pool.capacity_free _ slot) q

@[simp] theorem poolAlive_giveBack : (w.giveBack x).2.poolAlive = w.poolAlive := by
  obtain ⟨-, hb⟩ | ⟨p, slot, -, -, -, hw⟩ := w.giveBack_cases x
  · rw [poolAlive_of_books hb]
    rfl
  · funext q
    rw [hw]
    by_cases hq : q = p
    · subst hq
      simp [poolAlive, setPool, setOwner]
    · simp [poolAlive, setPool, setOwner, assign_of_ne _ _ _ hq]

/-- A slot is held afterwards if it was held before, unless it is the one that was freed. -/
theorem isHeld_giveBack (q : PoolId) (slot : Nat) : ((w.giveBack x).2.pools q).isHeld slot = true ↔
    (w.pools q).isHeld slot = true ∧
      ¬ (w.owner x = some q ∧ w.poolAlive q = true ∧ x = q.member slot) := by
  obtain ⟨hfree, hb⟩ | ⟨p, i, ho, ha, hx, hw⟩ := w.giveBack_cases x
  · rw [pools_of_books hb]
    refine ⟨fun h => ⟨h, fun ⟨ho, ha, hx⟩ => ?_⟩, And.left⟩
    have hnot := hfree q slot ho ha hx
    rw [show (w.pools q).isHeld slot = true from h] at hnot
    cases hnot
  · rw [hw]
    change (assign w.pools p _ q).isHeld slot = true ↔ _
    rw [isHeld_assign_free, ho, hx]
    refine and_congr_right fun _ => not_congr ⟨fun h => ?_, fun h => h.2.2.symm⟩
    obtain ⟨rfl, rfl⟩ := PoolId.member_inj h
    exact ⟨rfl, ha, rfl⟩

end GiveBack

section After

variable {w w₁ w' : World ε} {events : List Event}

/-- Releasing calls no hook, and what it does to the books depends on the books alone. -/
theorem After.release (h : w.After events w₁.books w') (p : PoolId) (x : ObjectId) :
    w.After events (w₁.release p x).2.books (w'.release p x).2 := by
  rw [World.release, World.release, pools_of_books h.books]
  rcases (p.slotOf? x).filter (· < (w₁.pools p).capacity) with _ | slot
  · exact h
  · cases hheld : (w₁.pools p).isHeld slot with
    | false =>
        simp only [hheld, Bool.false_eq_true, if_false]
        exact h.note rfl
    | true =>
        simp only [hheld, if_true]
        exact h.setPool p ((w₁.pools p).free slot)

/-- Giving back calls no hook, and what it does to the books depends on the books alone. -/
theorem After.giveBack (h : w.After events w₁.books w') (x : ObjectId) :
    w.After events (w₁.giveBack x).2.books (w'.giveBack x).2 := by
  rw [World.giveBack, releaseLink, World.giveBack, releaseLink, owner_of_books h.books,
    poolAlive_of_books h.books]
  rcases (w₁.owner x).filter w₁.poolAlive with _ | p
  · exact h.setOwner x none
  · exact (h.setOwner x none).release p x

end After

/-! ## Pools that die -/

/-- When its maker lets go of a pool, no slot is freed. -/
theorem held_dropPool (w : World ε) (p q : PoolId) :
    ((w.dropPool p).pools q).held = (w.pools q).held := by
  change (assign w.pools p _ q).held = _
  by_cases hq : q = p
  · rw [hq, assign_self]
  · rw [assign_of_ne _ _ _ hq]

/-- When its maker lets go of a pool, none comes alive. -/
theorem poolAlive_of_dropPool {w : World ε} {p q : PoolId}
    (h : (w.dropPool p).poolAlive q = true) : w.poolAlive q = true := by
  have hkept : ((w.dropPool p).pools q).kept = true → (w.pools q).kept = true := by
    change (assign w.pools p _ q).kept = true → _
    by_cases hq : q = p
    · rw [hq, assign_self]
      intro e
      cases e
    · rw [assign_of_ne _ _ _ hq]
      exact id
  rw [poolAlive, Bool.or_eq_true, Bool.or_eq_true] at h ⊢
  exact h.imp_left (Or.imp_left hkept)

/-- When sockets are to come from a pool that is alive, none comes alive. -/
theorem poolAlive_of_socketPool {w : World ε} {i : Nat} (ha : w.poolAlive (.sockets i) = true)
    {q : PoolId} (h : ({ w with socketPool := some i } : World ε).poolAlive q = true) :
    w.poolAlive q = true := by
  by_cases hq : q = .sockets i
  · rw [hq]
    exact ha
  · have hne : (some i).map PoolId.sockets ≠ some q := fun e => hq (Option.some.inj e).symm
    rw [poolAlive, Bool.or_eq_true, Bool.or_eq_true, beq_iff_eq] at h ⊢
    exact .inl (h.resolve_right hne)

/-! ## Slots on offer -/

/-- The slot that would be taken next, of a pool that is alive. -/
structure Offers (w : World ε) (p : PoolId) (slot : Nat) : Prop where
  alive : w.poolAlive p = true
  free : (w.pools p).firstFree? = some slot

namespace Offers

variable {w : World ε} {p : PoolId} {slot : Nat}

theorem lt (h : w.Offers p slot) : slot < (w.pools p).capacity :=
  (Pool.firstFree?_eq_some_iff.mp h.free).1

theorem isHeld (h : w.Offers p slot) : (w.pools p).isHeld slot = false :=
  (Pool.firstFree?_eq_some_iff.mp h.free).2.1

/-- A slot is held after a taking if it was held before, or was the one on offer. -/
theorem isHeld_take (h : w.Offers p slot) (q : PoolId) (i : Nat) :
    ((w.take p slot).pools q).isHeld i = true ↔
      (w.pools q).isHeld i = true ∨ q.member i = p.member slot := by
  rw [pools_take]
  exact isHeld_assign_hold h.lt q i

end Offers

/-- **Taking and giving back are inverse**: an object that was free and not attached goes back
without a trace in the books, whatever happened outside them in between. -/
theorem books_giveBack_take {w w' : World ε} {p : PoolId} {slot : Nat}
    (hw : w'.books = (w.take p slot).books) (h : w.Offers p slot)
    (howner : w.owner (p.member slot) = none) :
    (w'.giveBack (p.member slot)).2.books = w.books := by
  have hheld : ((w.take p slot).pools p).isHeld slot = true := (h.isHeld_take p slot).mpr (.inr rfl)
  rw [((After.of_books hw).giveBack _).books]
  obtain ⟨hnot, -⟩ | ⟨q, i, -, -, hx, hgive⟩ := (w.take p slot).giveBack_cases (p.member slot)
  · rw [hnot p slot (by rw [owner_take, assign_self]) (by rw [poolAlive_take]; exact h.alive) rfl]
      at hheld
    cases hheld
  · obtain ⟨rfl, rfl⟩ := PoolId.member_inj hx
    rw [hgive]
    refine books_eq_iff.mpr ⟨rfl, ?_, ?_, rfl, rfl⟩
    · change assign (assign w.pools p ((w.pools p).hold slot)) p
        (((w.take p slot).pools p).free slot) = w.pools
      rw [pools_take, assign_self, Pool.free_hold h.free, assign_assign, assign_eq_self]
    · change assign (assign w.owner (p.member slot) (some p)) (p.member slot) none = w.owner
      rw [assign_assign, ← howner, assign_eq_self]

end World

end PosixVfs
