import Mathlib.Logic.Basic
import PosixVfs.Proofs.World.Asking
import PosixVfs.Proofs.World.Ledger

/-!
# Proofs/World/Retirement — objects that nobody uses any more

An object **retires** when it gives up its descriptor, its link to a pool and its slot there.
`World.retired` is a world in which some objects have retired and nothing else has happened.  While
the ledger is kept, giving an object back is to let it retire (`Ledger.asked_giveBack`).  An embedder
that is asked the same hooks gives the same answers, so two worlds that come from one by asking are
told apart by their logs at most (`Asked.eq_of_hooks`).
-/

namespace PosixVfs

/-! ## Pools that give up slots -/

/-- The pool after it has freed every slot that is not in `keep`. -/
def Pool.keeping (p : Pool) (keep : Nat → Bool) : Pool :=
  { p with held := p.held.mapIdx fun slot held => held && keep slot }

namespace Pool

variable {p q : Pool}

/-- A pool is known by its slots, and by whether it is kept. -/
theorem eq_of_isHeld (hcap : p.capacity = q.capacity) (hkept : p.kept = q.kept)
    (h : ∀ slot, p.isHeld slot = q.isHeld slot) : p = q := by
  have hheld : p.held = q.held := by
    refine List.ext_getElem hcap fun slot hp hq => ?_
    rw [← isHeld_eq_getElem hp, ← isHeld_eq_getElem hq, h]
  cases p
  cases q
  simp_all

variable (p) (keep : Nat → Bool)

@[simp] theorem capacity_keeping : (p.keeping keep).capacity = p.capacity := by
  simp [keeping, capacity]

@[simp] theorem kept_keeping : (p.keeping keep).kept = p.kept := rfl

@[simp] theorem isHeld_keeping (slot : Nat) :
    (p.keeping keep).isHeld slot = (p.isHeld slot && keep slot) := by
  rw [isHeld, isHeld, keeping, List.getElem?_mapIdx]
  rcases p.held[slot]? with _ | held
  · rfl
  · cases held <;> cases keep slot <;> rfl

theorem keeping_keeping (keep' : Nat → Bool) :
    (p.keeping keep).keeping keep' = p.keeping fun slot => keep slot && keep' slot :=
  eq_of_isHeld (by simp) rfl fun slot => by simp [Bool.and_assoc]

/-- A pool that keeps all slots that are held stays as it is. -/
theorem keeping_eq_self (h : ∀ slot, p.isHeld slot = true → keep slot = true) :
    p.keeping keep = p := by
  refine eq_of_isHeld (by simp) rfl fun slot => ?_
  rw [isHeld_keeping]
  cases hheld : p.isHeld slot with
  | false => rfl
  | true => rw [h slot hheld]; rfl

/-- A pool that keeps all slots but one frees that one. -/
theorem keeping_eq_free {slot : Nat} (h : ∀ i, keep i = (i != slot)) :
    p.keeping keep = p.free slot :=
  eq_of_isHeld (by simp) rfl fun i => by rw [isHeld_keeping, isHeld_free, h, Bool.and_comm]

end Pool

variable {ε : Type}

namespace World

/-! ## Worlds in which objects have retired -/

/-- The world in which the objects `xs` have **retired**: none of them has a descriptor or an owner,
and none holds a slot of a pool that is alive. -/
def retired (w : World ε) (xs : List ObjectId) : World ε :=
  { w with
    descriptor := fun o => if .io o ∈ xs then none else w.descriptor o
    owner := fun x => if x ∈ xs then none else w.owner x
    pools := fun p =>
      if w.poolAlive p then (w.pools p).keeping fun slot => p.member slot ∉ xs
      else w.pools p }

/-- Two worlds that are the same but for what objects hold, and there too. -/
theorem eq_of_holdings {w w' : World ε}
    (hrest : w' = { w with pools := w'.pools, owner := w'.owner, descriptor := w'.descriptor })
    (hpools : w'.pools = w.pools) (howner : w'.owner = w.owner)
    (hdescriptor : w'.descriptor = w.descriptor) : w' = w := by
  rw [hrest, hpools, howner, hdescriptor]

section Retired

variable (w : World ε) (xs ys : List ObjectId)

theorem descriptor_retired (o : IoId) :
    (w.retired xs).descriptor o = if .io o ∈ xs then none else w.descriptor o := rfl

theorem owner_retired (x : ObjectId) :
    (w.retired xs).owner x = if x ∈ xs then none else w.owner x := rfl

theorem pools_retired_of_alive {p : PoolId} (ha : w.poolAlive p = true) :
    (w.retired xs).pools p = (w.pools p).keeping fun slot => p.member slot ∉ xs :=
  if_pos ha

theorem pools_retired_of_not_alive {p : PoolId} (ha : ¬ w.poolAlive p = true) :
    (w.retired xs).pools p = w.pools p :=
  if_neg ha

/-- Objects may retire, but pools stay alive. -/
@[simp] theorem poolAlive_retired : (w.retired xs).poolAlive = w.poolAlive := by
  funext p
  have hkept : ((w.retired xs).pools p).kept = (w.pools p).kept := by
    by_cases ha : w.poolAlive p = true
    · rw [pools_retired_of_alive w xs ha, Pool.kept_keeping]
    · rw [pools_retired_of_not_alive w xs ha]
  rw [poolAlive, poolAlive, hkept]
  rfl

/-- In a pool that is alive, the slots of the other objects stay held. -/
theorem isHeld_retired {p : PoolId} (ha : w.poolAlive p = true) (slot : Nat) :
    ((w.retired xs).pools p).isHeld slot = true ↔
      (w.pools p).isHeld slot = true ∧ p.member slot ∉ xs := by
  rw [pools_retired_of_alive w xs ha, Pool.isHeld_keeping, Bool.and_eq_true, decide_eq_true_iff]

@[simp] theorem retired_nil : w.retired [] = w := by
  refine eq_of_holdings rfl (funext fun p => ?_) (funext fun x => ?_) (funext fun o => ?_)
  · by_cases ha : w.poolAlive p = true
    · rw [pools_retired_of_alive w [] ha]
      exact Pool.keeping_eq_self _ _ fun _ _ => by simp
    · exact pools_retired_of_not_alive w [] ha
  · rw [owner_retired, if_neg List.not_mem_nil]
  · rw [descriptor_retired, if_neg List.not_mem_nil]

/-- Retiring one after the other is retiring together. -/
theorem retired_retired : (w.retired xs).retired ys = w.retired (xs ++ ys) := by
  refine eq_of_holdings rfl (funext fun p => ?_) (funext fun x => ?_) (funext fun o => ?_)
  · by_cases ha : w.poolAlive p = true
    · have ha' : (w.retired xs).poolAlive p = true := by rw [poolAlive_retired, ha]
      rw [pools_retired_of_alive _ ys ha', pools_retired_of_alive w xs ha,
        pools_retired_of_alive w _ ha, Pool.keeping_keeping]
      simp [List.mem_append, not_or]
    · have ha' : ¬ (w.retired xs).poolAlive p = true := by rwa [poolAlive_retired]
      rw [pools_retired_of_not_alive _ ys ha', pools_retired_of_not_alive w xs ha,
        pools_retired_of_not_alive w _ ha]
  · rw [owner_retired, owner_retired, owner_retired, ← ite_or]
    exact if_congr (or_comm.trans List.mem_append.symm) rfl rfl
  · rw [descriptor_retired, descriptor_retired, descriptor_retired, ← ite_or]
    exact if_congr (or_comm.trans List.mem_append.symm) rfl rfl

/-- An object that retires may have given up its descriptor before. -/
theorem retired_setDescriptor (o : IoId) :
    (w.setDescriptor o none).retired [.io o] = w.retired [.io o] := by
  refine eq_of_holdings rfl rfl rfl (funext fun o' => ?_)
  simp only [descriptor_retired, List.mem_singleton, ObjectId.io.injEq]
  split
  · rfl
  · next hne => exact assign_of_ne _ _ _ hne

/-- An object that holds no slot frees none. -/
theorem pools_retired_of_not_held {x : ObjectId}
    (h : ∀ p slot, w.poolAlive p = true → (w.pools p).isHeld slot = true → p.member slot ≠ x) :
    (w.retired [x]).pools = w.pools := by
  funext p
  by_cases ha : w.poolAlive p = true
  · rw [pools_retired_of_alive w _ ha]
    refine Pool.keeping_eq_self _ _ fun slot hheld => ?_
    rw [decide_eq_true_iff, List.mem_singleton]
    exact h p slot ha hheld
  · exact pools_retired_of_not_alive w _ ha

/-- An object in a pool that is alive frees its own slot. -/
theorem pools_retired_member {p : PoolId} (ha : w.poolAlive p = true) (slot : Nat) :
    (w.retired [p.member slot]).pools = assign w.pools p ((w.pools p).free slot) := by
  funext q
  by_cases hq : q = p
  · subst hq
    rw [pools_retired_of_alive w _ ha, assign_self]
    refine Pool.keeping_eq_free _ _ fun i => ?_
    rw [Bool.eq_iff_iff, decide_eq_true_iff, List.mem_singleton, bne_iff_ne]
    exact not_congr ⟨fun heq => (PoolId.member_inj heq).2, fun heq => by rw [heq]⟩
  · rw [assign_of_ne _ _ _ hq]
    by_cases ha' : w.poolAlive q = true
    · rw [pools_retired_of_alive w _ ha']
      refine Pool.keeping_eq_self _ _ fun i _ => ?_
      rw [decide_eq_true_iff, List.mem_singleton]
      exact fun heq => hq (PoolId.member_inj heq).1
    · exact pools_retired_of_not_alive w _ ha'

end Retired

/-- **Giving back** an object that has no descriptor is to let it retire. -/
theorem Ledger.asked_giveBack [Embedder ε] {w : World ε} {inUse : ObjectId → Prop}
    (h : w.Ledger inUse) {x : ObjectId} (hx : ∀ o, x = .io o → w.descriptor o = none) :
    (w.retired [x]).Asked [] (w.giveBack x).2 := by
  have howner : (w.retired [x]).owner = assign w.owner x none := by
    funext y
    simp only [owner_retired, List.mem_singleton]
    rfl
  have hdescriptor : (w.retired [x]).descriptor = w.descriptor := by
    funext o
    simp only [descriptor_retired, List.mem_singleton]
    split
    · next heq => exact (hx o heq.symm).symm
    · rfl
  rw [World.giveBack]
  obtain ⟨log, hfree, hr⟩ | ⟨p, slot, ho, ha, rfl, -, hr⟩ := w.releaseLink_cases x x
  · have hpools : (w.retired [x]).pools = w.pools := by
      refine w.pools_retired_of_not_held fun p slot ha hheld heq => ?_
      have hnot := hfree p slot (heq ▸ (h.held_iff p slot ha).mp hheld) ha heq.symm
      rw [hheld] at hnot
      cases hnot
    have hw : w.retired [x] = w.setOwner x none := eq_of_holdings rfl hpools howner hdescriptor
    rw [hr, hw]
    exact ⟨rfl, by simp⟩
  · have hw : w.retired [p.member slot] =
        (w.setOwner (p.member slot) none).setPool p ((w.pools p).free slot) :=
      eq_of_holdings rfl (w.pools_retired_member ha slot) howner hdescriptor
    rw [hr, hw]
    exact .refl _

/-- If the object lies in a pool that is alive in `w`, its slot is held there, and free in `w'`. -/
def Frees (w : World ε) (x : ObjectId) (w' : World ε) : Prop :=
  ∀ p slot, w.poolAlive p = true → slot < (w.pools p).capacity → x = p.member slot →
    (w.pools p).isHeld slot = true ∧ (w'.pools p).isHeld slot = false

/-! ## Asking in a world in which objects have retired -/

section Asked

variable [Embedder ε] {w w' : World ε} {events : List Event} {xs : List ObjectId}

/-- Asking before others retire is asking afterwards. -/
theorem Asked.retired (h : w.Asked events w') (xs : List ObjectId) :
    (w.retired xs).Asked events (w'.retired xs) where
  gives := h.gives
  rest := by
    rw [h.rest]
    rfl

/-- **An object that retires** while it is in use frees its slot. -/
theorem Ledger.frees {inUse : ObjectId → Prop} (h : w.Ledger inUse)
    (hw : (w.retired xs).Asked events w') {x : ObjectId} (hx : x ∈ xs) (huse : inUse x) :
    w.Frees x w' := by
  rintro p slot ha hlt rfl
  refine ⟨(h.held_iff p slot ha).mpr ((h.attached_iff p slot hlt).mpr huse), ?_⟩
  rw [congrArg World.pools hw.rest, Bool.eq_false_iff, Ne, isHeld_retired w xs ha]
  exact fun hheld => hheld.2 hx

/-- **An object that does not retire** while it is in use keeps its slot. -/
theorem Ledger.isHeld_of_not_mem {inUse : ObjectId → Prop} (h : w.Ledger inUse)
    (hw : (w.retired xs).Asked events w') {p : PoolId} {slot : Nat} (hx : p.member slot ∉ xs)
    (huse : inUse (p.member slot)) (ha : w.poolAlive p = true)
    (hlt : slot < (w.pools p).capacity) : (w'.pools p).isHeld slot = true := by
  rw [congrArg World.pools hw.rest]
  refine (isHeld_retired w xs ha slot).mpr ⟨?_, hx⟩
  exact (h.held_iff p slot ha).mpr ((h.attached_iff p slot hlt).mpr huse)

end Asked

end World

/-- An embedder that is asked the same hooks gives the same answers. -/
theorem Embedder.Gives.unique [Embedder ε] {e e' e'' : ε} {events events' : List Event}
    (h : Gives e events e') (h' : Gives e events' e'')
    (hhooks : events.map Event.hook = events'.map Event.hook) : events' = events ∧ e'' = e' := by
  induction events generalizing e events' with
  | nil =>
      obtain rfl := List.map_eq_nil_iff.mp hhooks.symm
      exact ⟨rfl, h'.trans h.symm⟩
  | cons event rest ih =>
      rcases events' with _ | ⟨event', rest'⟩
      · cases hhooks
      · obtain ⟨hhook, hrest⟩ := List.cons.inj hhooks
        rcases event with ⟨hook, reply⟩
        rcases event' with ⟨hook', reply'⟩
        obtain rfl : hook = hook' := hhook
        obtain rfl : reply = reply' := h.1.symm.trans h'.1
        obtain ⟨rfl, rfl⟩ := ih h.2 h'.2 hrest
        exact ⟨rfl, rfl⟩

/-- Who asks the same hooks comes to the same world, but for the log. -/
theorem World.Asked.eq_of_hooks [Embedder ε] {w w' w'' : World ε} {events events' : List Event}
    (h : w.Asked events w') (h' : w.Asked events' w'')
    (hhooks : events.map Event.hook = events'.map Event.hook) :
    w'' = { w' with log := w''.log } := by
  obtain ⟨rfl, hembedder⟩ := h.gives.unique h'.gives hhooks
  rw [h'.rest, h.rest, hembedder]

end PosixVfs
