import Mathlib.Order.Bounds.Defs
import PosixVfs.Proofs.World.Slots

/-!
# Proofs/World/Holders — an object of a pool has at most one holder

Whoever acquires an object holds it until it is released, by its pool or through a link.
`PoolAct.run_cases` lists all that an act can do to the slots: nothing, or an object that nobody held
is acquired, or one that was held is released.  So the two alternate for every object, and the number
of held slots is the difference between them (`World.Tallies.run`).  A link that was released once,
and an object that nobody holds, release nothing until they are attached or acquired again
(`World.hands_out_once_history`).
-/

namespace PosixVfs

variable {ε : Type}

namespace Pool

variable {p : Pool} {slot : Nat}

/-- There is a free slot unless all are held. -/
theorem firstFree?_eq_none_iff : p.firstFree? = none ↔ ∀ i < p.capacity, p.isHeld i = true := by
  rw [firstFree?, List.findIdx?_eq_none_iff_findIdx_eq, List.findIdx_eq_length]
  constructor
  · intro h i hi
    rw [isHeld_eq_getElem hi]
    simpa using h _ (List.getElem_mem hi)
  · intro h b hb
    obtain ⟨i, hi, rfl⟩ := List.getElem_of_mem hb
    rw [← isHeld_eq_getElem hi, h i hi]
    rfl

theorem heldCount_le_capacity (p : Pool) : p.heldCount ≤ p.capacity := List.count_le_length

theorem available_add_heldCount (p : Pool) : p.available + p.heldCount = p.capacity :=
  Nat.sub_add_cancel p.heldCount_le_capacity

theorem heldCount_new (n : Nat) : (new n).heldCount = 0 := by
  rw [heldCount, new, List.count_replicate]
  rfl

/-- Holding a free slot makes one more held. -/
theorem heldCount_hold (hlt : slot < p.capacity) (hfree : p.isHeld slot = false) :
    (p.hold slot).heldCount = p.heldCount + 1 := by
  rw [isHeld_eq_getElem hlt] at hfree
  rw [heldCount, hold, List.count_set hlt, hfree]
  rfl

/-- Freeing a held slot makes one less held. -/
theorem heldCount_free (h : p.isHeld slot = true) : (p.free slot).heldCount + 1 = p.heldCount := by
  have hlt := lt_of_isHeld h
  rw [isHeld_eq_getElem hlt] at h
  have hpos : 0 < p.held.count true := List.count_pos_iff.mpr (h ▸ List.getElem_mem hlt)
  rw [heldCount, free, List.count_set hlt, h]
  exact Nat.sub_add_cancel hpos

end Pool

/-! ## Acts and what they do to slots -/

/-- One thing that is done to pools and links. -/
inductive PoolAct where
  | acquire (p : PoolId)
  | release (p : PoolId) (x : ObjectId)
  /-- The link of `o` is attached to a pool. -/
  | attach (o : ObjectId) (p : PoolId)
  /-- The object at `x` is released through the link of `o`. -/
  | releaseLink (o x : ObjectId)
  | drop (p : PoolId)

/-- An object changed hands. -/
inductive PoolEvent where
  | acquired (p : PoolId) (x : ObjectId)
  | released (p : PoolId) (x : ObjectId)
  deriving DecidableEq

namespace PoolEvent

/-- Something was acquired from the pool. -/
def isAcquiredFrom (p : PoolId) : PoolEvent → Bool
  | acquired q _ => q == p
  | released _ _ => false

/-- Something was released to the pool. -/
def isReleasedTo (p : PoolId) : PoolEvent → Bool
  | acquired _ _ => false
  | released q _ => q == p

variable (p q : PoolId) (x : ObjectId)

@[simp] theorem isAcquiredFrom_acquired : (acquired q x).isAcquiredFrom p = (q == p) := rfl

@[simp] theorem isAcquiredFrom_released : (released q x).isAcquiredFrom p = false := rfl

@[simp] theorem isReleasedTo_acquired : (acquired q x).isReleasedTo p = false := rfl

@[simp] theorem isReleasedTo_released : (released q x).isReleasedTo p = (q == p) := rfl

end PoolEvent

/-- Somebody holds the object. -/
def World.Holds (w : World ε) (x : ObjectId) : Prop :=
  ∃ p slot, x = p.member slot ∧ (w.pools p).isHeld slot = true

theorem World.holds_member_iff {w : World ε} {p : PoolId} {slot : Nat} :
    w.Holds (p.member slot) ↔ (w.pools p).isHeld slot = true := by
  constructor
  · rintro ⟨q, i, hx, hheld⟩
    obtain ⟨rfl, rfl⟩ := PoolId.member_inj hx
    exact hheld
  · exact fun h => ⟨p, slot, rfl, h⟩

namespace PoolAct

/-- The world after the act. -/
def run (w : World ε) : PoolAct → World ε
  | acquire p => (w.acquire p).2
  | release p x => (w.release p x).2
  | attach o p => w.setOwner o (some p)
  | releaseLink o x => (w.releaseLink o x).2
  | drop p => w.dropPool p

/-- What changes hands by the act, read off its answer. -/
def event? (w : World ε) : PoolAct → Option PoolEvent
  | acquire p => (w.acquire p).1.map fun slot => .acquired p (p.member slot)
  | release p x => if (w.release p x).1 then some (.released p x) else none
  | releaseLink o x => if (w.releaseLink o x).1 then (w.owner o).map (.released · x) else none
  | attach _ _ | drop _ => none

/-- **Every act** leaves the slots alone, or acquires an object that nobody held, or releases one
that was held. -/
theorem run_cases (w : World ε) (act : PoolAct) :
    (act.event? w = none ∧ ∀ q, ((act.run w).pools q).held = (w.pools q).held) ∨
    (∃ p slot, act = .acquire p ∧ act.event? w = some (.acquired p (p.member slot)) ∧
      (w.pools p).firstFree? = some slot ∧
      (act.run w).pools = assign w.pools p ((w.pools p).hold slot)) ∨
    ∃ p slot, act.event? w = some (.released p (p.member slot)) ∧
      (w.pools p).isHeld slot = true ∧
      (act.run w).pools = assign w.pools p ((w.pools p).free slot) := by
  cases act with
  | acquire p =>
      rw [run, event?]
      obtain ⟨-, ha⟩ | ⟨slot, hfree, ha⟩ := w.acquire_cases p
      · rw [ha]
        exact .inl ⟨rfl, fun _ => rfl⟩
      · rw [ha]
        exact .inr (.inl ⟨p, slot, rfl, rfl, hfree, rfl⟩)
  | release p x =>
      rw [run, event?]
      obtain ⟨log, -, hr⟩ | ⟨slot, rfl, hheld, hr⟩ := w.release_cases p x
      · rw [hr]
        exact .inl ⟨rfl, fun _ => rfl⟩
      · rw [hr]
        exact .inr (.inr ⟨p, slot, rfl, hheld, rfl⟩)
  | attach o p => exact .inl ⟨rfl, fun _ => rfl⟩
  | releaseLink o x =>
      rw [run, event?]
      obtain ⟨log, -, hr⟩ | ⟨p, slot, ho, -, rfl, hheld, hr⟩ := w.releaseLink_cases o x
      · rw [hr]
        exact .inl ⟨rfl, fun _ => rfl⟩
      · rw [hr, ho]
        exact .inr (.inr ⟨p, slot, rfl, hheld, rfl⟩)
  | drop p => exact .inl ⟨rfl, fun q => w.held_dropPool p q⟩

end PoolAct

/-! ## Tallies -/

namespace World

variable {w : World ε} {events : List PoolEvent}

/-- What is held is what was acquired and not released, for each pool and for each object. -/
structure Tallies (w : World ε) (events : List PoolEvent) : Prop where
  total : ∀ p, (w.pools p).heldCount + events.countP (·.isReleasedTo p) =
    events.countP (·.isAcquiredFrom p)
  each : ∀ p slot, events.count (.acquired p (p.member slot)) =
    events.count (.released p (p.member slot)) + if (w.pools p).isHeld slot then 1 else 0

namespace Tallies

/-- What leaves the slots alone keeps the tallies. -/
theorem congr (h : w.Tallies events) {w' : World ε}
    (hheld : ∀ q, (w'.pools q).held = (w.pools q).held) : w'.Tallies events where
  total p := by
    rw [Pool.heldCount, hheld]
    exact h.total p
  each p slot := by
    rw [Pool.isHeld, hheld]
    exact h.each p slot

/-- Acquiring an object that nobody held is entered as such. -/
theorem acquired (h : w.Tallies events) {w' : World ε} {p : PoolId} {slot : Nat}
    (hlt : slot < (w.pools p).capacity) (hfree : (w.pools p).isHeld slot = false)
    (hw : w'.pools = assign w.pools p ((w.pools p).hold slot)) :
    w'.Tallies (events ++ [.acquired p (p.member slot)]) where
  total q := by
    have hq := h.total q
    simp only [List.countP_append, List.countP_singleton, PoolEvent.isReleasedTo_acquired,
      PoolEvent.isAcquiredFrom_acquired, Bool.false_eq_true, if_false, beq_iff_eq, hw]
    by_cases heq : q = p
    · subst heq
      rw [assign_self, Pool.heldCount_hold hlt hfree, if_pos rfl]
      omega
    · rw [assign_of_ne _ _ _ heq, if_neg (Ne.symm heq)]
      omega
  each q i := by
    have hqi := h.each q i
    have hheld := isHeld_assign_hold hlt q i
    simp only [List.count_append, List.count_singleton, beq_iff_eq, reduceCtorEq, if_false, hw]
    by_cases heq : q.member i = p.member slot
    · obtain ⟨rfl, rfl⟩ := PoolId.member_inj heq
      rw [hfree, if_neg Bool.false_ne_true] at hqi
      rw [if_pos rfl, if_pos (hheld.mpr (.inr rfl))]
      omega
    · have hne : PoolEvent.acquired p (p.member slot) ≠ .acquired q (q.member i) := fun e =>
        heq (PoolEvent.acquired.inj e).2.symm
      rw [if_neg hne, Bool.eq_iff_iff.mpr (hheld.trans (or_iff_left heq))]
      omega

/-- Releasing an object that somebody held is entered as such. -/
theorem released (h : w.Tallies events) {w' : World ε} {p : PoolId} {slot : Nat}
    (hold : (w.pools p).isHeld slot = true)
    (hw : w'.pools = assign w.pools p ((w.pools p).free slot)) :
    w'.Tallies (events ++ [.released p (p.member slot)]) where
  total q := by
    have hq := h.total q
    simp only [List.countP_append, List.countP_singleton, PoolEvent.isReleasedTo_released,
      PoolEvent.isAcquiredFrom_released, Bool.false_eq_true, if_false, beq_iff_eq, hw]
    by_cases heq : q = p
    · subst heq
      have hcount := Pool.heldCount_free hold
      rw [assign_self, if_pos rfl]
      omega
    · rw [assign_of_ne _ _ _ heq, if_neg (Ne.symm heq)]
      omega
  each q i := by
    have hqi := h.each q i
    have hheld := isHeld_assign_free w.pools p slot q i
    simp only [List.count_append, List.count_singleton, beq_iff_eq, reduceCtorEq, if_false, hw]
    by_cases heq : q.member i = p.member slot
    · obtain ⟨rfl, rfl⟩ := PoolId.member_inj heq
      rw [hold, if_pos rfl] at hqi
      rw [if_pos rfl, if_neg fun h => (hheld.mp h).2 rfl]
      omega
    · have hne : PoolEvent.released p (p.member slot) ≠ .released q (q.member i) := fun e =>
        heq (PoolEvent.released.inj e).2.symm
      rw [if_neg hne, Bool.eq_iff_iff.mpr (hheld.trans (and_iff_left heq))]
      omega

/-- **Every act** keeps the tallies. -/
theorem run (h : w.Tallies events) (act : PoolAct) :
    (act.run w).Tallies (events ++ (act.event? w).toList) := by
  obtain ⟨he, hheld⟩ | ⟨p, slot, -, he, hfree, hw⟩ | ⟨p, slot, he, hold, hw⟩ := act.run_cases w
  · rw [he, Option.toList_none, List.append_nil]
    exact h.congr hheld
  · obtain ⟨hlt, hnot, -⟩ := Pool.firstFree?_eq_some_iff.mp hfree
    rw [he]
    exact h.acquired hlt hnot hw
  · rw [he]
    exact h.released hold hw

end Tallies

/-! ## Histories -/

/-- The world with pools of certain capacities, in which nothing is held yet. -/
def withPools (w : World ε) (capacity : PoolId → Nat) : World ε :=
  { w with pools := fun p => .new (capacity p) }

/-- The world after some acts. -/
def undergo (w : World ε) : List PoolAct → World ε
  | [] => w
  | act :: acts => (act.run w).undergo acts

/-- What changes hands by some acts. -/
def dealings (w : World ε) : List PoolAct → List PoolEvent
  | [] => []
  | act :: acts => (act.event? w).toList ++ (act.run w).dealings acts

theorem tallies_withPools (w : World ε) (capacity : PoolId → Nat) :
    (w.withPools capacity).Tallies [] where
  total p := Pool.heldCount_new (capacity p)
  each p slot := by
    have hfree : ((w.withPools capacity).pools p).isHeld slot = false := Pool.isHeld_new _ slot
    rw [hfree]
    rfl

/-- **Every history** keeps the tallies. -/
theorem Tallies.undergo (h : w.Tallies events) (acts : List PoolAct) :
    (w.undergo acts).Tallies (events ++ w.dealings acts) := by
  induction acts generalizing w events with
  | nil =>
      rw [dealings, List.append_nil]
      exact h
  | cons act acts ih =>
      rw [dealings, ← List.append_assoc]
      exact ih (h.run act)

/-- **What each act preserves**, all of them together preserve. -/
theorem undergo_induction {P : World ε → Prop} {acts : List PoolAct}
    (hstep : ∀ w, ∀ act ∈ acts, P w → P (act.run w)) (h : P w) : P (w.undergo acts) := by
  induction acts generalizing w with
  | nil => exact h
  | cons act acts ih =>
      rw [undergo]
      refine ih (fun w act hact => hstep w act (List.mem_cons_of_mem _ hact)) ?_
      exact hstep w act List.mem_cons_self h

/-- No act changes how many slots there are. -/
theorem capacity_undergo (w : World ε) (acts : List PoolAct) (p : PoolId) :
    ((w.undergo acts).pools p).capacity = (w.pools p).capacity := by
  refine undergo_induction (P := fun w' => (w'.pools p).capacity = (w.pools p).capacity)
    (fun w' act _ h => ?_) rfl
  rw [← h]
  obtain ⟨-, hheld⟩ | ⟨q, slot, -, -, -, hw⟩ | ⟨q, slot, -, -, hw⟩ := act.run_cases w'
  · rw [Pool.capacity, hheld, Pool.capacity]
  · rw [hw]
    exact capacity_assign (Pool.capacity_hold _ slot) p
  · rw [hw]
    exact capacity_assign (Pool.capacity_free _ slot) p

/-- **An object that nobody holds** is held by nobody until its pool is asked for one. -/
theorem not_holds_undergo {p : PoolId} {slot : Nat} (h : ¬ w.Holds (p.member slot))
    {acts : List PoolAct} (hacts : .acquire p ∉ acts) :
    ¬ (w.undergo acts).Holds (p.member slot) := by
  refine undergo_induction (P := fun w' => ¬ w'.Holds (p.member slot))
    (fun w' act hact hnot => ?_) h
  rw [holds_member_iff] at hnot ⊢
  obtain ⟨-, hheld⟩ | ⟨q, i, rfl, -, hfree, hw⟩ | ⟨q, i, -, -, hw⟩ := act.run_cases w'
  · rwa [Pool.isHeld, hheld]
  · have hlt := (Pool.firstFree?_eq_some_iff.mp hfree).1
    rw [hw, isHeld_assign_hold hlt, not_or]
    refine ⟨hnot, fun heq => hacts ?_⟩
    rwa [(PoolId.member_inj heq).1]
  · rw [hw, isHeld_assign_free]
    exact fun hheld => hnot hheld.1

/-- Releasing through a link detaches it. -/
theorem owner_releaseLink (w : World ε) (o x : ObjectId) :
    (w.releaseLink o x).2.owner = assign w.owner o none := by
  obtain ⟨log, -, hr⟩ | ⟨p, slot, -, -, -, -, hr⟩ := w.releaseLink_cases o x
  · rw [hr]
    rfl
  · rw [hr]
    rfl

/-- **A link that is not attached** stays so until it is attached. -/
theorem owner_undergo_eq_none {o : ObjectId} (h : w.owner o = none) {acts : List PoolAct}
    (hacts : ∀ p, .attach o p ∉ acts) : (w.undergo acts).owner o = none := by
  refine undergo_induction (P := fun w' => w'.owner o = none) (fun w' act hact hnone => ?_) h
  have hne {o' : ObjectId} {p : Option PoolId} (h : o = o' → p = none) :
      assign w'.owner o' p o = none := by
    by_cases heq : o = o'
    · rw [heq, assign_self, h heq]
    · rw [assign_of_ne _ _ _ heq, hnone]
  cases act with
  | acquire p =>
      rw [PoolAct.run]
      obtain ⟨-, ha⟩ | ⟨slot, -, ha⟩ := w'.acquire_cases p
      · rwa [ha]
      · rwa [ha]
  | release p x =>
      rw [PoolAct.run]
      obtain ⟨log, -, hr⟩ | ⟨slot, -, -, hr⟩ := w'.release_cases p x
      · rwa [hr]
      · rwa [hr]
  | attach o' p =>
      refine hne fun heq => absurd hact ?_
      rw [← heq]
      exact hacts p
  | releaseLink o' x =>
      rw [PoolAct.run, owner_releaseLink]
      exact hne fun _ => rfl
  | drop p => exact hnone

/-! ## What each act does to the holders -/

/-- Of the slots of a pool whose objects nobody holds, the lowest is the first that is free. -/
theorem isLeast_of_firstFree? {p : PoolId} {slot : Nat} (h : (w.pools p).firstFree? = some slot) :
    IsLeast {i | i < (w.pools p).capacity ∧ ¬ w.Holds (p.member i)} slot := by
  obtain ⟨hlt, hfree, hbelow⟩ := Pool.firstFree?_eq_some_iff.mp h
  refine ⟨⟨hlt, ?_⟩, fun i ⟨hi, hnot⟩ => ?_⟩
  · rw [holds_member_iff, hfree]
    exact Bool.false_ne_true
  · rw [holds_member_iff] at hnot
    exact Nat.le_of_not_lt fun hlt => hnot (hbelow i hlt)

theorem holds_setPool_hold {p : PoolId} {slot : Nat} (hlt : slot < (w.pools p).capacity)
    (x : ObjectId) : (w.setPool p ((w.pools p).hold slot)).Holds x ↔ w.Holds x ∨ x = p.member slot := by
  have hheld := isHeld_assign_hold hlt
  constructor
  · rintro ⟨q, i, rfl, hi⟩
    exact ((hheld q i).mp hi).imp_left fun hi => ⟨q, i, rfl, hi⟩
  · rintro (⟨q, i, rfl, hi⟩ | rfl)
    · exact ⟨q, i, rfl, (hheld q i).mpr (.inl hi)⟩
    · exact ⟨p, slot, rfl, (hheld p slot).mpr (.inr rfl)⟩

theorem holds_setPool_free (w : World ε) (p : PoolId) (slot : Nat) (x : ObjectId) :
    (w.setPool p ((w.pools p).free slot)).Holds x ↔ w.Holds x ∧ x ≠ p.member slot := by
  have hheld := isHeld_assign_free w.pools p slot
  constructor
  · rintro ⟨q, i, rfl, hi⟩
    exact ((hheld q i).mp hi).imp_left fun hi => ⟨q, i, rfl, hi⟩
  · rintro ⟨⟨q, i, rfl, hi⟩, hne⟩
    exact ⟨q, i, rfl, (hheld q i).mpr ⟨hi, hne⟩⟩

/-- **Acquiring** fails if all objects of the pool are held, and otherwise yields the one in the
lowest slot that nobody holds. -/
theorem acquire_outcome (w : World ε) (p : PoolId) :
    ((w.acquire p).1 = none ↔ ∀ i < (w.pools p).capacity, w.Holds (p.member i)) ∧
    ((w.acquire p).1 = none → ∃ log, (w.acquire p).2 = { w with log }) ∧
    ∀ slot, (w.acquire p).1 = some slot →
      IsLeast {i | i < (w.pools p).capacity ∧ ¬ w.Holds (p.member i)} slot ∧
      ∀ x, (w.acquire p).2.Holds x ↔ w.Holds x ∨ x = p.member slot := by
  simp only [holds_member_iff, ← Pool.firstFree?_eq_none_iff]
  obtain ⟨hfull, ha⟩ | ⟨slot, hfree, ha⟩ := w.acquire_cases p
  · rw [ha]
    exact ⟨iff_of_true rfl hfull, fun _ => ⟨_, rfl⟩, nofun⟩
  · have hlt := (Pool.firstFree?_eq_some_iff.mp hfree).1
    have hleast := isLeast_of_firstFree? hfree
    simp only [holds_member_iff] at hleast
    rw [ha, hfree]
    refine ⟨iff_of_false nofun nofun, nofun, fun slot' heq => ?_⟩
    obtain rfl := Option.some.inj heq
    exact ⟨hleast, holds_setPool_hold hlt⟩

/-- **Releasing** frees an object of the pool that is held, and does nothing otherwise. -/
theorem release_outcome (w : World ε) (p : PoolId) (x : ObjectId) :
    ((w.release p x).1 = true ↔ w.Holds x ∧ ∃ slot, x = p.member slot) ∧
    ((w.release p x).1 = false → ∃ log, (w.release p x).2 = { w with log }) ∧
    ((w.release p x).1 = true → ∀ y, (w.release p x).2.Holds y ↔ w.Holds y ∧ y ≠ x) := by
  obtain ⟨log, hnot, hr⟩ | ⟨slot, rfl, hheld, hr⟩ := w.release_cases p x
  · rw [hr]
    refine ⟨iff_of_false Bool.false_ne_true ?_, fun _ => ⟨log, rfl⟩, nofun⟩
    rintro ⟨hholds, slot, rfl⟩
    rw [holds_member_iff, hnot slot rfl] at hholds
    cases hholds
  · rw [hr]
    exact ⟨iff_of_true rfl ⟨holds_member_iff.mpr hheld, slot, rfl⟩, nofun,
      fun _ => w.holds_setPool_free p slot⟩

/-- **Releasing through a link** detaches it, and frees the object if it is held and one of the pool's,
and the pool is alive; otherwise it does nothing else. -/
theorem releaseLink_outcome (w : World ε) (o x : ObjectId) :
    ((w.releaseLink o x).1 = true ↔
      w.Holds x ∧ ∃ p slot, w.owner o = some p ∧ w.poolAlive p = true ∧ x = p.member slot) ∧
    ((w.releaseLink o x).1 = false → ∃ log, (w.releaseLink o x).2 = { w.setOwner o none with log }) ∧
    ((w.releaseLink o x).1 = true → (w.releaseLink o x).2.owner = assign w.owner o none ∧
      ∀ y, (w.releaseLink o x).2.Holds y ↔ w.Holds y ∧ y ≠ x) := by
  obtain ⟨log, hnot, hr⟩ | ⟨p, slot, ho, ha, rfl, hheld, hr⟩ := w.releaseLink_cases o x
  · rw [hr]
    refine ⟨iff_of_false Bool.false_ne_true ?_, fun _ => ⟨log, rfl⟩, nofun⟩
    rintro ⟨hholds, p, slot, ho, ha, rfl⟩
    rw [holds_member_iff, hnot p slot ho ha rfl] at hholds
    cases hholds
  · rw [hr]
    exact ⟨iff_of_true rfl ⟨holds_member_iff.mpr hheld, p, slot, ho, ha, rfl⟩, nofun,
      fun _ => ⟨rfl, (w.setOwner o none).holds_setPool_free p slot⟩⟩

/-- **A pool hands each object out to one holder.**  The pools start with all slots free, and are
then used in any way: objects are acquired, released, attached to pools and released through their
links, and pools are dropped.  Afterwards as many slots are held as there were more acquisitions than
releases, and the others are available; each object was acquired as often as it was released, or once
more if it is held.  Different slots have different objects.  Acquiring, releasing and releasing
through a link do what `acquire_outcome`, `release_outcome` and `releaseLink_outcome` say.  So a link
that was used releases nothing before it is attached again, and an object that nobody holds is not
released in any way before its pool was asked for an object again. -/
theorem hands_out_once_history (w₀ : World ε) (capacity : PoolId → Nat) (acts : List PoolAct) :
    let w := (w₀.withPools capacity).undergo acts
    let events := (w₀.withPools capacity).dealings acts
    (∀ p, (w.pools p).capacity = capacity p ∧ (w.pools p).heldCount ≤ capacity p ∧
      (w.pools p).available + (w.pools p).heldCount = capacity p ∧
      (w.pools p).heldCount + events.countP (PoolEvent.isReleasedTo p) =
        events.countP (PoolEvent.isAcquiredFrom p)) ∧
    (∀ p slot, events.count (.acquired p (p.member slot)) =
      events.count (.released p (p.member slot)) + if (w.pools p).isHeld slot then 1 else 0) ∧
    (∀ (p q : PoolId) (i j : Nat), p.member i = q.member j → p = q ∧ i = j) ∧
    (∀ p, ((w.acquire p).1 = none ↔ ∀ i < capacity p, w.Holds (p.member i)) ∧
      ((w.acquire p).1 = none → ∃ log, (w.acquire p).2 = { w with log }) ∧
      ∀ slot, (w.acquire p).1 = some slot →
        IsLeast {i | i < capacity p ∧ ¬ w.Holds (p.member i)} slot ∧
        ∀ x, (w.acquire p).2.Holds x ↔ w.Holds x ∨ x = p.member slot) ∧
    (∀ p x, ((w.release p x).1 = true ↔ w.Holds x ∧ ∃ slot, x = p.member slot) ∧
      ((w.release p x).1 = false → ∃ log, (w.release p x).2 = { w with log }) ∧
      ((w.release p x).1 = true → ∀ y, (w.release p x).2.Holds y ↔ w.Holds y ∧ y ≠ x)) ∧
    (∀ o x, ((w.releaseLink o x).1 = true ↔
        w.Holds x ∧ ∃ p slot, w.owner o = some p ∧ w.poolAlive p = true ∧ x = p.member slot) ∧
      ((w.releaseLink o x).1 = false →
        ∃ log, (w.releaseLink o x).2 = { w.setOwner o none with log }) ∧
      ((w.releaseLink o x).1 = true → (w.releaseLink o x).2.owner = assign w.owner o none ∧
        ∀ y, (w.releaseLink o x).2.Holds y ↔ w.Holds y ∧ y ≠ x)) ∧
    (∀ (o x : ObjectId) (later : List PoolAct), (∀ p, .attach o p ∉ later) →
      let w' := (w.releaseLink o x).2.undergo later
      ∀ y, (w'.releaseLink o y).1 = false) ∧
    ∀ (p : PoolId) (slot : Nat) (later : List PoolAct), ¬ w.Holds (p.member slot) →
      .acquire p ∉ later →
      let w' := w.undergo later
      ¬ w'.Holds (p.member slot) ∧ (∀ q, (w'.release q (p.member slot)).1 = false) ∧
        ∀ o, (w'.releaseLink o (p.member slot)).1 = false := by
  intro w events
  have hcap (p : PoolId) : (w.pools p).capacity = capacity p :=
    ((w₀.withPools capacity).capacity_undergo acts p).trans List.length_replicate
  have htallies : w.Tallies events := (tallies_withPools w₀ capacity).undergo acts
  refine ⟨fun p => ⟨hcap p, ?_, ?_, htallies.total p⟩, htallies.each, fun _ _ _ _ => PoolId.member_inj,
    fun p => ?_, w.release_outcome, w.releaseLink_outcome, fun o x later hlater => ?_,
    fun p slot later hfree hlater => ?_⟩
  · rw [← hcap]
    exact (w.pools p).heldCount_le_capacity
  · rw [← hcap]
    exact (w.pools p).available_add_heldCount
  · rw [← hcap]
    exact w.acquire_outcome p
  · intro w' y
    have hdetached : (w.releaseLink o x).2.owner o = none := by
      rw [owner_releaseLink, assign_self]
    have hnone : w'.owner o = none := owner_undergo_eq_none hdetached hlater
    rw [releaseLink, hnone]
    rfl
  · intro w'
    have hnot : ¬ w'.Holds (p.member slot) := not_holds_undergo hfree hlater
    refine ⟨hnot, fun q => ?_, fun o => ?_⟩
    · rw [Bool.eq_false_iff]
      exact fun h => hnot ((w'.release_outcome q _).1.mp h).1
    · rw [Bool.eq_false_iff]
      exact fun h => hnot ((w'.releaseLink_outcome o _).1.mp h).1

end World

end PosixVfs
