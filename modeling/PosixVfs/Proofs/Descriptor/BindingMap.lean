import Mathlib.Data.Finmap
import Mathlib.Order.Bounds.Defs
import PosixVfs.Proofs.Descriptor.Agreement

/-!
# Proofs/Descriptor/BindingMap — a table is an injective bounded map

Seen from outside, a table is a finite map from descriptors to objects (`Table.bindings`), in which
no object occurs twice.  `BindingMap.refusal?` says from the map alone which acts are refused, and
why; `BindingMap.Grants` says what becomes of the map by any other.  An object's own record of its
descriptor, by which `alloc` and `install` decide whether it is taken, is the map read backwards
(`Table.Agrees.run_outcome`).
-/

namespace PosixVfs

/-- Descriptors, and the object that each is bound to. -/
abbrev BindingMap := Finmap fun _ : Fd => IoId

/-- One thing that is done to a table. -/
inductive TableAct where
  | alloc (o : IoId)
  | install (fd : Fd) (o : IoId)
  | free (fd : Fd)

/-- What an act succeeds with. -/
abbrev TableAct.Value : TableAct → Type
  | alloc _ => Fd
  | _ => Unit

namespace BindingMap

variable (m : BindingMap) (n : Nat)

/-- The object is bound to some descriptor. -/
def Holds (o : IoId) : Prop := ∃ fd ∈ m.keys, m.lookup fd = some o

/-- All descriptors from 3 on are bound, if there are `n` altogether. -/
def Full : Prop := ∀ i < n, 3 ≤ i → Fd.ofIndex i ∈ m

/-- The descriptors from 3 on that are free, if there are `n` altogether. -/
def spare : Set Fd := {fd | 3 ≤ fd.toInt ∧ fd.toInt < n ∧ fd ∉ m}

instance (o : IoId) : Decidable (m.Holds o) :=
  inferInstanceAs (Decidable (∃ fd ∈ m.keys, m.lookup fd = some o))

instance : Decidable (m.Full n) :=
  inferInstanceAs (Decidable (∀ i < n, 3 ≤ i → Fd.ofIndex i ∈ m))

/-- Why a map of `n` descriptors refuses an act, if it does. -/
def refusal? : TableAct → Option Errno
  | .alloc o =>
      if m.Holds o then some .busy
      else if m.Full n then some .tooManyOpenFiles
      else none
  | .install fd o =>
      if ¬ (0 ≤ fd.toInt ∧ fd.toInt < n) then some .badFileDescriptor
      else if fd ∈ m ∨ m.Holds o then some .busy
      else none
  | .free fd =>
      if fd ∉ m ∨ ¬ (0 ≤ fd.toInt ∧ fd.toInt < n) then some .badFileDescriptor
      else none

/-- An act that is not refused answers `value` and leaves the map `m'`. -/
def Grants : (act : TableAct) → act.Value → BindingMap → Prop
  | .alloc o, fd, m' => IsLeast (m.spare n) fd ∧ m' = m.insert fd o
  | .install fd o, _, m' => m' = m.insert fd o
  | .free fd, _, m' => m' = m.erase fd

end BindingMap

/-- A descriptor that stands for no slot is negative or too large. -/
theorem Fd.index?_eq_none_iff {fd : Fd} {capacity : Nat} :
    fd.index? capacity = none ↔ ¬ (0 ≤ fd.toInt ∧ fd.toInt < capacity) := by
  rw [index?, ite_eq_right_iff]
  have hlt : 0 ≤ fd.toInt → (fd.toInt.toNat < capacity ↔ fd.toInt < capacity) := by omega
  rw [← and_congr_right hlt]
  exact ⟨fun h hfd => Option.some_ne_none _ (h hfd), fun h hfd => absurd hfd h⟩

namespace Table

variable {t : Table} {fd : Fd} {i : Nat} {o : IoId}

/-! ## What is listed as bound -/

theorem mem_bound_iff (hcap : t.capacity ≤ Fd.count) : (fd, o) ∈ t.bound ↔ t.io? fd = some o := by
  rw [bound, List.mem_filterMap, io?_eq_some_iff]
  constructor
  · rintro ⟨⟨slot, i⟩, hi, hslot⟩
    rw [List.mem_zipIdx_iff_getElem?] at hi
    obtain ⟨o, rfl, heq⟩ := Option.map_eq_some_iff.mp hslot
    cases heq
    have ho : t.object? i = some o := Option.join_eq_some_iff.mpr hi
    exact ⟨i, Fd.index?_ofIndex hcap (lt_capacity_of_object? ho), ho⟩
  · rintro ⟨i, hi, ho⟩
    refine ⟨(some o, i), List.mem_zipIdx_iff_getElem?.mpr (Option.join_eq_some_iff.mp ho), ?_⟩
    have hfd : Fd.ofIndex i = fd := Fd.index?_inj (Fd.index?_ofIndex hcap (Fd.lt_of_index? hi)) hi
    exact congrArg (fun fd => some (fd, o)) hfd

/-- **The list is in ascending order.** -/
theorem pairwise_bound (hcap : t.capacity ≤ Fd.count) : (t.bound.map Prod.fst).Pairwise (· < ·) := by
  rw [bound, List.map_filterMap, List.pairwise_filterMap, List.pairwise_iff_getElem]
  intro i j hi hj hij fd hfd fd' hfd'
  rw [List.length_zipIdx] at hi hj
  have hint {k : Nat} (hk : k < t.capacity) : (Fd.ofIndex k).toInt = k :=
    Int32.toInt_ofNat_of_lt (Nat.lt_of_lt_of_le hk hcap)
  have hslot : ∀ (k : Nat) (x : Option IoId) (fd : Fd),
      (x.map fun o => (Fd.ofIndex (0 + k), o)).map Prod.fst = some fd → fd = Fd.ofIndex k := by
    rintro k (_ | o) fd h
    · cases h
    · rw [Nat.zero_add] at h
      exact (Option.some.inj h).symm
  rw [List.getElem_zipIdx] at hfd hfd'
  rw [hslot i _ fd hfd, hslot j _ fd' hfd', Int32.lt_iff_toInt_lt, hint hi, hint hj]
  omega

theorem nodup_map_fst_bound (hcap : t.capacity ≤ Fd.count) : (t.bound.map Prod.fst).Nodup := by
  refine (pairwise_bound hcap).imp fun hlt heq => ?_
  rw [heq, Int32.lt_iff_toInt_lt] at hlt
  exact Int.lt_irrefl _ hlt

/-- There are as many on the list as bound slots. -/
theorem length_bound (t : Table) : t.bound.length = t.inUse := by
  rw [← List.length_map Prod.snd, map_snd_bound, List.length_filterMap_eq_countP, inUse]
  congr 1

/-! ## The map -/

/-- The bindings of a table. -/
def bindings (t : Table) : BindingMap :=
  (t.bound.map fun b => (⟨b.1, b.2⟩ : Σ _ : Fd, IoId)).toFinmap

/-- What a descriptor is mapped to is what is found there. -/
theorem lookup_bindings (hcap : t.capacity ≤ Fd.count) (fd : Fd) :
    t.bindings.lookup fd = t.io? fd := by
  have hkeys : (t.bound.map fun b => (⟨b.1, b.2⟩ : Σ _ : Fd, IoId)).NodupKeys := by
    rw [List.NodupKeys, List.keys, List.map_map]
    exact nodup_map_fst_bound hcap
  refine Option.ext fun o => ?_
  rw [bindings, Finmap.dlookup_list_toFinmap, ← Option.mem_def, List.mem_dlookup_iff hkeys,
    List.mem_map, ← mem_bound_iff hcap]
  constructor
  · rintro ⟨b, hb, heq⟩
    cases heq
    exact hb
  · exact fun hb => ⟨(fd, o), hb, rfl⟩

theorem mem_bindings_iff (hcap : t.capacity ≤ Fd.count) : fd ∈ t.bindings ↔ (t.io? fd).isSome := by
  rw [← Finmap.lookup_isSome, lookup_bindings hcap]

/-- There are as many keys as bound slots. -/
theorem card_keys_bindings (hcap : t.capacity ≤ Fd.count) : t.bindings.keys.card = t.inUse := by
  have hkeys : t.bindings.keys = (t.bound.map Prod.fst).toFinset := by
    ext fd
    rw [Finmap.mem_keys, mem_bindings_iff hcap, List.mem_toFinset, List.mem_map,
      Option.isSome_iff_exists]
    simp only [← mem_bound_iff hcap]
    exact ⟨fun ⟨o, h⟩ => ⟨(fd, o), h, rfl⟩, fun ⟨b, h, hfd⟩ => ⟨b.2, hfd ▸ h⟩⟩
  rw [hkeys, List.toFinset_card_of_nodup (nodup_map_fst_bound hcap), List.length_map, length_bound]

theorem bindings_new (n : Nat) : (new n).bindings = ∅ := by
  have hnil : (new n).bound = [] := by
    rw [← List.length_eq_zero_iff, length_bound]
    simp [inUse, new]
  rw [bindings, hnil]
  rfl

/-- The keys of the map stand for slots. -/
theorem toInt_lt_of_mem_bindings (hcap : t.capacity ≤ Fd.count) (h : fd ∈ t.bindings) :
    0 ≤ fd.toInt ∧ fd.toInt < t.capacity := by
  rw [mem_bindings_iff hcap, Option.isSome_iff_exists] at h
  obtain ⟨o, ho⟩ := h
  obtain ⟨i, hi, -⟩ := io?_eq_some_iff.mp ho
  have := Fd.index?_eq_some_iff.mp hi
  omega

/-- **Filling a slot** inserts an entry. -/
theorem bindings_set_some (hcap : t.capacity ≤ Fd.count) (hi : fd.index? t.capacity = some i)
    (o : IoId) : (t.set i (some o)).bindings = t.bindings.insert fd o := by
  have hcap' : (t.set i (some o)).capacity ≤ Fd.count := by rwa [capacity_set]
  refine Finmap.ext_lookup fun fd' => ?_
  rw [lookup_bindings hcap', io?_set hi]
  split
  · next heq => rw [heq, Finmap.lookup_insert]
  · next hne => rw [Finmap.lookup_insert_of_ne _ hne, lookup_bindings hcap]

/-- **Emptying a slot** erases an entry. -/
theorem bindings_set_none (hcap : t.capacity ≤ Fd.count) (hi : fd.index? t.capacity = some i) :
    (t.set i none).bindings = t.bindings.erase fd := by
  have hcap' : (t.set i none).capacity ≤ Fd.count := by rwa [capacity_set]
  refine Finmap.ext_lookup fun fd' => ?_
  rw [lookup_bindings hcap', io?_set hi]
  split
  · next heq => rw [heq, Finmap.lookup_erase]
  · next hne => rw [Finmap.lookup_erase_ne hne, lookup_bindings hcap]

/-- The key of a slot is in the map if the slot is bound. -/
theorem ofIndex_mem_bindings_iff (hcap : t.capacity ≤ Fd.count) (hi : i < t.capacity) :
    Fd.ofIndex i ∈ t.bindings ↔ (t.object? i).isSome := by
  rw [mem_bindings_iff hcap, io?_of_index? (Fd.index?_ofIndex hcap hi)]

/-- The map is full when no slot above those of the standard streams is free. -/
theorem firstFree?_eq_none_iff_full (hcap : t.capacity ≤ Fd.count) :
    t.firstFree? = none ↔ t.bindings.Full t.capacity := by
  constructor
  · -- of the slots that are free, the lowest would have been found
    intro hnone
    by_contra hfull
    have hfree : ∃ i, reservedDescriptors ≤ i ∧ i < t.capacity ∧ t.object? i = none := by
      rw [BindingMap.Full] at hfull
      push Not at hfull
      obtain ⟨i, hlt, hres, hnot⟩ := hfull
      rw [ofIndex_mem_bindings_iff hcap hlt, Option.not_isSome_iff_eq_none] at hnot
      exact ⟨i, hres, hlt, hnot⟩
    obtain ⟨hres, hlt, hempty⟩ := Nat.find_spec hfree
    have hfound : t.firstFree? = some (Nat.find hfree) := by
      refine firstFree?_eq_some_iff.mpr ⟨hres, hlt, hempty, fun j hj hji => ?_⟩
      rw [← Option.ne_none_iff_isSome]
      exact fun hnot => Nat.find_min hfree hji ⟨hj, Nat.lt_trans hji hlt, hnot⟩
    rw [hnone] at hfound
    cases hfound
  · intro hfull
    rcases hfirst : t.firstFree? with _ | i
    · rfl
    · obtain ⟨hres, hlt, hempty, -⟩ := firstFree?_eq_some_iff.mp hfirst
      have hmem := (ofIndex_mem_bindings_iff hcap hlt).mp (hfull i hlt hres)
      rw [hempty] at hmem
      cases hmem

/-- **The lowest free slot** is that of the least spare descriptor. -/
theorem isLeast_spare_of_firstFree? (hcap : t.capacity ≤ Fd.count) (h : t.firstFree? = some i) :
    IsLeast (t.bindings.spare t.capacity) (Fd.ofIndex i) := by
  obtain ⟨hres, hlt, hfree, hbelow⟩ := firstFree?_eq_some_iff.mp h
  have hthree : 3 ≤ i := hres
  obtain ⟨h0, hi, -⟩ := Fd.index?_eq_some_iff.mp (Fd.index?_ofIndex hcap hlt)
  refine ⟨⟨by omega, by omega, ?_⟩, fun fd ⟨hfd, hfd', hnot⟩ => ?_⟩
  · rw [ofIndex_mem_bindings_iff hcap hlt, hfree]
    exact Bool.false_ne_true
  · -- a smaller one stands for a slot below, which is bound
    by_contra hle
    rw [Int32.le_iff_toInt_le] at hle
    have hindex : fd.index? t.capacity = some fd.toInt.toNat :=
      Fd.index?_eq_some_iff.mpr ⟨by omega, rfl, by omega⟩
    refine hnot ((mem_bindings_iff hcap).mpr ?_)
    rw [io?_of_index? hindex]
    exact hbelow fd.toInt.toNat (by rw [reservedDescriptors]; omega) (by omega)

/-! ## Every act on the map -/

namespace Agrees

variable {ε : Type} {w : World ε} (h : t.Agrees w)

include h

theorem lookup_bindings_iff : t.bindings.lookup fd = some o ↔ w.descriptor o = some fd := by
  rw [lookup_bindings h.capacity_le, h.io?_iff]

/-- An object is in the map if it has a descriptor. -/
theorem holds_bindings_iff : t.bindings.Holds o ↔ (w.descriptor o).isSome := by
  rw [Option.isSome_iff_exists]
  constructor
  · rintro ⟨fd, -, hlookup⟩
    exact ⟨fd, h.lookup_bindings_iff.mp hlookup⟩
  · rintro ⟨fd, hfd⟩
    have hlookup := h.lookup_bindings_iff.mpr hfd
    exact ⟨fd, Finmap.mem_keys.mpr (Finmap.mem_of_lookup_eq_some hlookup), hlookup⟩

end Agrees

end Table

namespace TableAct

variable {ε : Type} {t : Table} {w : World ε}

/-- Do it. -/
def run (act : TableAct) (t : Table) (w : World ε) : Except Errno act.Value × Table × World ε :=
  match act with
  | alloc o => t.alloc w o
  | install fd o => t.install w fd o
  | free fd => t.free w fd

/-- **Every act** that the map refuses changes nothing but the log; every other one does to the map
what it is granted, and table and objects agree as before. -/
theorem run_outcome (h : t.Agrees w) (act : TableAct) :
    (∃ e log, t.bindings.refusal? t.capacity act = some e ∧
      act.run t w = (.error e, t, { w with log })) ∨
    t.bindings.refusal? t.capacity act = none ∧ ∃ value t' w',
      act.run t w = (.ok value, t', w') ∧
      t.bindings.Grants t.capacity act value t'.bindings ∧ t'.capacity = t.capacity ∧
      t'.Agrees w' := by
  have hcap := h.capacity_le
  cases act with
  | alloc o =>
      rw [run, BindingMap.refusal?]
      simp only [h.holds_bindings_iff, ← Table.firstFree?_eq_none_iff_full hcap]
      obtain ⟨fd, hd, ha⟩ | ⟨hd, hfull, ha⟩ | ⟨i, hd, hi, ha⟩ := t.alloc_cases w o
      · rw [ha, hd]
        exact .inl ⟨.busy, _, rfl, rfl⟩
      · rw [ha, hd, hfull]
        exact .inl ⟨.tooManyOpenFiles, _, rfl, rfl⟩
      · obtain ⟨-, hlt, hempty, -⟩ := Table.firstFree?_eq_some_iff.mp hi
        have hindex := Fd.index?_ofIndex hcap hlt
        rw [ha, hd, hi]
        exact .inr ⟨rfl, _, _, _, rfl,
          ⟨Table.isLeast_spare_of_firstFree? hcap hi, Table.bindings_set_some hcap hindex o⟩,
          t.capacity_set i _, (h.bind hindex hempty hd).congr rfl⟩
  | install fd o =>
      rw [run, BindingMap.refusal?, Table.install]
      simp only [h.holds_bindings_iff, ← Fd.index?_eq_none_iff, Table.mem_bindings_iff hcap]
      rcases hi : fd.index? t.capacity with _ | i
      · exact .inl ⟨_, w.log, rfl, rfl⟩
      · simp only [Table.io?_of_index? hi, Bool.or_eq_true, reduceCtorEq, if_false]
        split
        · exact .inl ⟨_, w.log, rfl, rfl⟩
        · next hfree =>
            rw [not_or, Option.not_isSome_iff_eq_none, Option.not_isSome_iff_eq_none] at hfree
            exact .inr ⟨rfl, _, _, _, rfl, Table.bindings_set_some hcap hi o, t.capacity_set i _,
              h.bind hi hfree.1 hfree.2⟩
  | free fd =>
      rw [run, BindingMap.refusal?]
      simp only [← Fd.index?_eq_none_iff, Table.mem_bindings_iff hcap, Option.not_isSome_iff_eq_none]
      obtain ⟨hio, hf⟩ | ⟨i, o, hi, ho, hf⟩ := t.free_cases w fd
      · rw [hf, if_pos (.inl hio)]
        exact .inl ⟨_, w.log, rfl, rfl⟩
      · rw [hf, Table.io?_of_index? hi, ho, hi]
        exact .inr ⟨rfl, _, _, _, rfl, Table.bindings_set_none hcap hi, t.capacity_set i _,
          (h.unbind hi ho).congr rfl⟩

end TableAct

/-! ## Histories -/

namespace Table

variable {ε : Type}

/-- The table and the world after an act. -/
def step (s : Table × World ε) (act : TableAct) : Table × World ε := (act.run s.1 s.2).2

/-- A table of `n` descriptors that was empty when the world was `w`, and the world, after some
acts. -/
def history (n : Nat) (w : World ε) (acts : List TableAct) : Table × World ε :=
  acts.foldl step (.new n, w)

/-- **No act** changes the number of descriptors, or makes table and objects disagree. -/
theorem agrees_step {s : Table × World ε} (h : s.1.Agrees s.2) (act : TableAct) :
    (step s act).1.Agrees (step s act).2 ∧ (step s act).1.capacity = s.1.capacity := by
  rw [step]
  obtain ⟨e, log, -, hr⟩ | ⟨-, value, t', w', hr, -, hcap, hagrees⟩ := act.run_outcome h
  · rw [hr]
    exact ⟨h.congr rfl, rfl⟩
  · rw [hr]
    exact ⟨hagrees, hcap⟩

/-- Table and objects agree after every history, if nothing was bound before. -/
theorem agrees_history {n : Nat} (hn : n ≤ Fd.count) {w : World ε}
    (hw : ∀ o, w.descriptor o = none) (acts : List TableAct) :
    (history n w acts).1.Agrees (history n w acts).2 ∧ (history n w acts).1.capacity = n := by
  have hnew : (new n).Agrees w ∧ (new n).capacity = n := ⟨.new hn hw, capacity_new n⟩
  refine List.foldlRecOn acts step
    (motive := fun s : Table × World ε => s.1.Agrees s.2 ∧ s.1.capacity = n) hnew
    fun s hs act _ => ?_
  obtain ⟨hagrees, hcap⟩ := agrees_step hs.1 act
  exact ⟨hagrees, hcap.trans hs.2⟩

end Table

end PosixVfs
