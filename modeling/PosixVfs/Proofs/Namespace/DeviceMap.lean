import PosixVfs.Namespace.Registry
import PosixVfs.Proofs.SlotMap
import PosixVfs.Proofs.Text.Cutting

/-!
# Proofs/Namespace/DeviceMap — a registry is a bounded map from names to devices

Seen from outside, a registry is a finite map from names to devices (`Registry.names`), and of the
slots only their number matters.  `DeviceMap.refusal?` says from the map alone which devices are
refused, and why.  Any other registering inserts one entry, removing a name erases one, and a path
means the device under its name (`Registry.refines_names_history`).
-/

namespace PosixVfs

/-- Names, and the device that is registered under each. -/
abbrev DeviceMap := Finmap fun _ : String => DeviceId

namespace DeviceMap

/-- The device is registered under some name. -/
def Holds (m : DeviceMap) (d : DeviceId) : Prop := ∃ name ∈ m.keys, m.lookup name = some d

instance (m : DeviceMap) (d : DeviceId) : Decidable (m.Holds d) :=
  inferInstanceAs (Decidable (∃ name ∈ m.keys, m.lookup name = some d))

/-- Why a map with room for `bound` devices refuses to take `d` under a name, if it does.  The name
is looked at first, then whether device or name are taken, then whether there is room. -/
def refusal? (m : DeviceMap) (bound : Nat) (name : String) (d : DeviceId) : Option Errno :=
  if Text.size name < 1 ∨ 32 < Text.size name then some .invalidArgument
  else if m.Holds d ∨ name ∈ m then some .busy
  else if m.keys.card = bound then some .noSpace
  else none

end DeviceMap

namespace Registry

variable {r : Registry} {c : Catalog} {slot i : Nat} {d other : DeviceId} {name path : String}

/-! ## Looking at slots -/

theorem mem_devices_iff : d ∈ r.devices ↔ ∃ i, r.device? i = some d := Slots.mem_filterMap_iff

theorem device?_set (h : slot < r.capacity) (x : Option DeviceId) (i : Nat) :
    (r.set slot x).device? i = if i = slot then x else r.device? i :=
  Slots.join_set h x i

theorem lt_of_device? (h : r.device? i = some d) : i < r.capacity := Slots.lt_of_join h

theorem capacity_set (r : Registry) (slot : Nat) (x : Option DeviceId) :
    (r.set slot x).capacity = r.capacity := List.length_set

/-- The lowest empty slot exists and is empty. -/
theorem of_firstFree? (h : r.firstFree? = some slot) :
    slot < r.capacity ∧ r.device? slot = none := by
  obtain ⟨hlt, hempty, -⟩ := Slots.findIdx?_isNone_iff.mp h
  exact ⟨hlt, hempty⟩

/-! ## The slots as a map -/

/-- The registered devices under their names. -/
def names (r : Registry) (c : Catalog) : DeviceMap :=
  Slots.toMap (fun d => (c.device d).name) id r.slots

theorem mem_names_iff : name ∈ r.names c ↔ ∃ i d, r.device? i = some d ∧ (c.device d).name = name :=
  Slots.mem_toMap_iff

/-- A name is found if it is a key. -/
theorem position?_eq_none_iff : r.position? c name = none ↔ name ∉ r.names c := by
  rw [position?, Slots.findIdx?_any_eq_none_iff, mem_names_iff]
  push Not
  refine forall_congr' fun i => forall_congr' fun d => imp_congr_right fun _ => ?_
  rw [beq_eq_false_iff_ne]

/-- A name is found in the slot of the device with this name. -/
theorem of_position? (h : r.position? c name = some slot) :
    ∃ d, r.device? slot = some d ∧ (c.device d).name = name := by
  obtain ⟨d, hd, hname⟩ := Slots.exists_of_findIdx?_any h
  exact ⟨d, hd, beq_iff_eq.mp hname⟩

/-- What is registered has a proper name, and no two devices have the same. -/
structure Named (r : Registry) (c : Catalog) : Prop where
  distinct : Slots.Distinct (fun d => (c.device d).name) r.slots
  size : ∀ i d, r.device? i = some d →
    1 ≤ Text.size (c.device d).name ∧ Text.size (c.device d).name ≤ 32

/-- `r'` is `r` with `d` in a slot that was empty. -/
structure Enters (r : Registry) (c : Catalog) (d : DeviceId) (r' : Registry) : Prop where
  names : r'.names c = (r.names c).insert (c.device d).name d
  capacity : r'.capacity = r.capacity
  slots : ∃ slot < r.capacity, r.device? slot = none ∧
    ∀ i, r'.device? i = if i = slot then some d else r.device? i

/-- `r'` is `r` without `d`, whose slot is empty now. -/
structure Leaves (r : Registry) (c : Catalog) (d : DeviceId) (r' : Registry) : Prop where
  names : r'.names c = (r.names c).erase (c.device d).name
  capacity : r'.capacity = r.capacity
  slots : ∃ slot, r.device? slot = some d ∧
    ∀ i, r'.device? i = if i = slot then none else r.device? i

namespace Named

theorem new (n : Nat) (c : Catalog) : (Registry.new n).Named c where
  distinct := .replicate_none n
  size i d hd := by
    rw [device?, Registry.new, List.getElem?_replicate] at hd
    split at hd <;> cases hd

variable (h : r.Named c)

include h

theorem lookup_names_iff : (r.names c).lookup name = some d ↔
    d ∈ r.devices ∧ (c.device d).name = name := by
  rw [names, h.distinct.lookup_toMap_iff, mem_devices_iff]
  constructor
  · rintro ⟨i, d, hi, hname, rfl⟩
    exact ⟨⟨i, hi⟩, hname⟩
  · rintro ⟨⟨i, hi⟩, hname⟩
    exact ⟨i, d, hi, hname, rfl⟩

/-- A device is in the map if it is in a slot. -/
theorem holds_names_iff : (r.names c).Holds d ↔ d ∈ r.devices := by
  constructor
  · rintro ⟨name, -, hlookup⟩
    exact (h.lookup_names_iff.mp hlookup).1
  · intro hd
    have hlookup := h.lookup_names_iff.mpr ⟨hd, rfl⟩
    exact ⟨_, Finmap.mem_keys.mpr (Finmap.mem_of_lookup_eq_some hlookup), hlookup⟩

/-- The device or its name is taken if a registered device is it or has its name. -/
theorem any_devices_iff : (r.devices.any fun other => other == d || (c.device other).name == name) =
    true ↔ (r.names c).Holds d ∨ name ∈ r.names c := by
  rw [h.holds_names_iff, mem_names_iff, List.any_eq_true]
  simp only [Bool.or_eq_true, beq_iff_eq, mem_devices_iff]
  constructor
  · rintro ⟨other, ⟨i, hi⟩, rfl | hname⟩
    · exact .inl ⟨i, hi⟩
    · exact .inr ⟨i, other, hi, hname⟩
  · rintro (⟨i, hi⟩ | ⟨i, other, hi, hname⟩)
    · exact ⟨d, ⟨i, hi⟩, .inl rfl⟩
    · exact ⟨other, ⟨i, hi⟩, .inr hname⟩

/-- The map is full when the slots are. -/
theorem firstFree?_eq_none_iff_card :
    r.firstFree? = none ↔ (r.names c).keys.card = r.capacity :=
  h.distinct.findIdx?_isNone_eq_none_iff_card

/-- **Filling an empty slot** with a device of a new and proper name enters it. -/
theorem enters (hsize : 1 ≤ Text.size (c.device d).name ∧ Text.size (c.device d).name ≤ 32)
    (hnew : (c.device d).name ∉ r.names c) (hfree : r.firstFree? = some slot) :
    (r.set slot (some d)).Named c ∧ r.Enters c d (r.set slot (some d)) := by
  obtain ⟨hlt, hempty⟩ := of_firstFree? hfree
  refine ⟨⟨h.distinct.set_some hlt fun j b hb heq => hnew (mem_names_iff.mpr ⟨j, b, hb, heq⟩),
    fun i other hi => ?_⟩, h.distinct.toMap_set_some hlt hempty hnew, capacity_set r slot _,
    slot, hlt, hempty, device?_set hlt _⟩
  rw [device?_set hlt] at hi
  split at hi
  · rwa [← Option.some.inj hi]
  · exact h.size i other hi

/-- **Emptying a slot** takes its device out. -/
theorem leaves (hd : r.device? slot = some d) :
    (r.set slot none).Named c ∧ r.Leaves c d (r.set slot none) := by
  have hlt := lt_of_device? hd
  refine ⟨⟨h.distinct.set_none hlt, fun i other hi => ?_⟩, h.distinct.toMap_set_none hd,
    capacity_set r slot _, slot, hd, device?_set hlt _⟩
  rw [device?_set hlt] at hi
  split at hi
  · cases hi
  · exact h.size i other hi

end Named

/-! ## Registering and removing on the map -/

section Outcomes

variable {ε : Type} {w : World ε}

/-- **Registering** is refused for what the map says about device and name, and changes nothing
then; otherwise the device is entered. -/
theorem Named.register_outcome (h : r.Named w.catalog) (d : DeviceId) :
    (∃ e, (r.names w.catalog).refusal? r.capacity (w.catalog.device d).name d = some e ∧
      r.register w d = (.error e, r, w)) ∨
    (r.names w.catalog).refusal? r.capacity (w.catalog.device d).name d = none ∧
      ∃ r', r.register w d = (.ok (), r', w.note (.deviceRegistered (w.catalog.device d).name)) ∧
        r'.Named w.catalog ∧ r.Enters w.catalog d r' := by
  have hsize : (Text.size (w.catalog.device d).name = 0 ||
      Text.size (w.catalog.device d).name > maxDeviceName) = true ↔
      Text.size (w.catalog.device d).name < 1 ∨ 32 < Text.size (w.catalog.device d).name := by
    simp [maxDeviceName]
  rw [register, DeviceMap.refusal?]
  simp only [hsize, h.any_devices_iff, ← h.firstFree?_eq_none_iff_card]
  split
  · exact .inl ⟨_, rfl, rfl⟩
  · next hproper =>
      split
      · exact .inl ⟨_, rfl, rfl⟩
      · next hnew =>
          rcases hfree : r.firstFree? with _ | slot
          · exact .inl ⟨_, rfl, rfl⟩
          · rw [not_or] at hnew
            have henters := h.enters (d := d) (by omega) hnew.2 hfree
            exact .inr ⟨rfl, _, rfl, henters⟩

/-- **Removing** is refused for a name that is no key, and changes nothing then; otherwise the device
under the name is taken out. -/
theorem Named.unregister_outcome (h : r.Named w.catalog) (name : String) :
    (name ∉ r.names w.catalog ∧ r.unregister w name = (.error .noSuchEntity, r, w)) ∨
    ∃ d r', (r.names w.catalog).lookup name = some d ∧
      r.unregister w name = (.ok d, r', w.note (.deviceUnregistered name)) ∧
      r'.Named w.catalog ∧ r.Leaves w.catalog d r' := by
  rw [unregister]
  rcases hpos : r.position? w.catalog name with _ | slot
  · exact .inl ⟨position?_eq_none_iff.mp hpos, rfl⟩
  · obtain ⟨d, hd, hname⟩ := of_position? hpos
    have hlookup := h.lookup_names_iff.mpr ⟨mem_devices_iff.mpr ⟨slot, hd⟩, hname⟩
    simp only [hd]
    exact .inr ⟨d, _, hlookup, rfl, h.leaves hd⟩

end Outcomes

/-! ## What a path means -/

/-- **The lowest slot** whose device accepts the rest of the path. -/
theorem identify?_eq_some_iff_slot : r.identify? c path = some d ↔
    ∃ name slot, path = deviceDirectory ++ name ∧ r.device? slot = some d ∧
      (c.device d).accepts name = true ∧
      ∀ i < slot, ∀ other, r.device? i = some other → (c.device other).accepts name = false := by
  rw [identify?, Option.bind_eq_some_iff]
  simp only [Text.after?_eq_some_iff, devices, Slots.find?_filterMap_eq_some_iff]
  constructor
  · rintro ⟨name, hpath, slot, hd⟩
    exact ⟨name, slot, hpath, hd⟩
  · rintro ⟨name, slot, hpath, hd⟩
    exact ⟨name, hpath, slot, hd⟩

/-- **Devices that go by their names alone** are found by looking up the rest of the path, wherever
they are kept. -/
theorem Named.identify?_eq_some_iff_lookup (h : r.Named c)
    (hdefault : ∀ d ∈ r.devices, ∀ other, (c.device d).accepts other = ((c.device d).name == other)) :
    r.identify? c path = some d ↔
      ∃ name, path = deviceDirectory ++ name ∧ (r.names c).lookup name = some d := by
  have haccepts {i : Nat} {d : DeviceId} (hd : r.device? i = some d) (name : String) :
      (c.device d).accepts name = ((c.device d).name == name) :=
    hdefault d (mem_devices_iff.mpr ⟨i, hd⟩) name
  rw [identify?_eq_some_iff_slot]
  constructor
  · rintro ⟨name, slot, hpath, hd, hname, -⟩
    rw [haccepts hd, beq_iff_eq] at hname
    exact ⟨name, hpath, h.lookup_names_iff.mpr ⟨mem_devices_iff.mpr ⟨slot, hd⟩, hname⟩⟩
  · rintro ⟨name, hpath, hlookup⟩
    obtain ⟨hd, hname⟩ := h.lookup_names_iff.mp hlookup
    obtain ⟨slot, hd⟩ := mem_devices_iff.mp hd
    refine ⟨name, slot, hpath, hd, ?_, fun i hi other hother => ?_⟩
    · rw [haccepts hd, hname, beq_self_eq_true]
    · rw [haccepts hother, beq_eq_false_iff_ne]
      exact fun heq => Nat.ne_of_lt hi (h.distinct i slot other d hother hd (heq.trans hname.symm))

end Registry

/-! ## Histories -/

/-- One thing that is done to a registry. -/
inductive RegistryAct where
  | register (d : DeviceId)
  | unregister (name : String)

namespace Registry

variable {ε : Type}

/-- The registry and the world after an act. -/
def step (s : Registry × World ε) : RegistryAct → Registry × World ε
  | .register d => (s.1.register s.2 d).2
  | .unregister name => (s.1.unregister s.2 name).2

/-- A registry of `n` slots that was empty when the world was `w`, and the world, after some acts. -/
def history (n : Nat) (w : World ε) (acts : List RegistryAct) : Registry × World ε :=
  acts.foldl step (.new n, w)

/-- **No act** changes the number of slots or the devices, or lets names get mixed up. -/
theorem named_step {s : Registry × World ε} (h : s.1.Named s.2.catalog) (act : RegistryAct) :
    (step s act).1.Named s.2.catalog ∧ (step s act).1.capacity = s.1.capacity ∧
      (step s act).2.catalog = s.2.catalog := by
  cases act with
  | register d =>
      obtain ⟨e, -, hr⟩ | ⟨-, r', hr, hnamed, henters⟩ := h.register_outcome d
      · rw [step, hr]
        exact ⟨h, rfl, rfl⟩
      · rw [step, hr]
        exact ⟨hnamed, henters.capacity, rfl⟩
  | unregister name =>
      obtain ⟨-, hr⟩ | ⟨d, r', -, hr, hnamed, hleaves⟩ := h.unregister_outcome name
      · rw [step, hr]
        exact ⟨h, rfl, rfl⟩
      · rw [step, hr]
        exact ⟨hnamed, hleaves.capacity, rfl⟩

/-- What is registered has a proper name of its own, after every history. -/
theorem named_history (n : Nat) (w : World ε) (acts : List RegistryAct) :
    (history n w acts).1.Named w.catalog ∧ (history n w acts).1.capacity = n := by
  -- the names are those of the catalog, so it has to stay the same
  have hnew : (new n).Named w.catalog ∧ (new n).capacity = n ∧ w.catalog = w.catalog :=
    ⟨.new n w.catalog, List.length_replicate, rfl⟩
  have hall : (history n w acts).1.Named w.catalog ∧ (history n w acts).1.capacity = n ∧
      (history n w acts).2.catalog = w.catalog := by
    refine List.foldlRecOn acts step (motive := fun s : Registry × World ε =>
      s.1.Named w.catalog ∧ s.1.capacity = n ∧ s.2.catalog = w.catalog) hnew fun s hs act _ => ?_
    obtain ⟨hnamed, hcap, hcat⟩ := hs
    rw [← hcat] at hnamed ⊢
    obtain ⟨hnamed', hcap', hcat'⟩ := named_step hnamed act
    exact ⟨hnamed', hcap'.trans hcap, hcat'⟩
  exact ⟨hall.1, hall.2.1⟩

/-- **A registry is a bounded map from names to devices.**  It starts out empty, and after every
history of a registry with `n` slots the slots hold different devices with different names of 1 to
32 bytes, so the registry is a map.  Registering is refused for what the map says about device and
name, and changes nothing then; otherwise exactly this device is entered.  Removing is refused for a
name that is no key, and changes nothing then; otherwise exactly the device under this name is
removed and handed over.  Where all registered devices go by their names alone, a path means the
device under its name, wherever that is kept; in general it means the device in the lowest slot that
accepts it. -/
theorem refines_names_history (n : Nat) (w₀ : World ε) (acts : List RegistryAct) :
    let r := (history n w₀ acts).1
    let c := w₀.catalog
    (new n).names c = ∅ ∧
    (∀ i j d d', r.device? i = some d → r.device? j = some d' →
      d = d' ∨ (c.device d).name = (c.device d').name → i = j) ∧
    (∀ d ∈ r.devices, 1 ≤ Text.size (c.device d).name ∧ Text.size (c.device d).name ≤ 32) ∧
    (∀ name d, (r.names c).lookup name = some d ↔ d ∈ r.devices ∧ (c.device d).name = name) ∧
    (∀ (w : World ε) (d : DeviceId), w.catalog = c →
      (∀ e, (r.names c).refusal? n (c.device d).name d = some e →
        r.register w d = (.error e, r, w)) ∧
      ((r.names c).refusal? n (c.device d).name d = none → ∃ r',
        r.register w d = (.ok (), r', w.note (.deviceRegistered (c.device d).name)) ∧
          r.Enters c d r')) ∧
    (∀ (w : World ε) (name : String), w.catalog = c →
      (r.unregister w name = (.error .noSuchEntity, r, w) ↔ name ∉ r.names c) ∧
      ∀ d, (r.names c).lookup name = some d → ∃ r',
        r.unregister w name = (.ok d, r', w.note (.deviceUnregistered name)) ∧
          r.Leaves c d r') ∧
    ((∀ d ∈ r.devices, ∀ other, (c.device d).accepts other = ((c.device d).name == other)) →
      ∀ path d, r.identify? c path = some d ↔
        ∃ name, path = "/dev/" ++ name ∧ (r.names c).lookup name = some d) ∧
    ∀ path d, r.identify? c path = some d ↔
      ∃ name slot, path = "/dev/" ++ name ∧ r.device? slot = some d ∧
        (c.device d).accepts name = true ∧
        ∀ i < slot, ∀ other, r.device? i = some other → (c.device other).accepts name = false := by
  intro r c
  obtain ⟨h, hcap⟩ : r.Named c ∧ r.capacity = n := named_history n w₀ acts
  refine ⟨Slots.toMap_replicate_none n, fun i j d d' hi hj heq => ?_, fun d hd => ?_,
    fun name d => h.lookup_names_iff, fun w d hw => ?_, fun w name hw => ?_,
    fun hdefault path d => h.identify?_eq_some_iff_lookup hdefault,
    fun path d => identify?_eq_some_iff_slot⟩
  · exact h.distinct i j d d' hi hj (heq.elim (congrArg fun d => (c.device d).name) id)
  · obtain ⟨i, hi⟩ := mem_devices_iff.mp hd
    exact h.size i d hi
  · rw [← hw] at h ⊢
    rw [← hcap]
    obtain ⟨e, he, hr⟩ | ⟨hnone, r', hr, -, henters⟩ := h.register_outcome d
    · rw [he]
      refine ⟨fun e' heq => ?_, nofun⟩
      rwa [← Option.some.inj heq]
    · rw [hnone]
      exact ⟨nofun, fun _ => ⟨r', hr, henters⟩⟩
  · rw [← hw] at h ⊢
    obtain ⟨hnot, hr⟩ | ⟨d, r', hlookup, hr, -, hleaves⟩ := h.unregister_outcome name
    · exact ⟨iff_of_true hr hnot, fun d hd => absurd (Finmap.mem_of_lookup_eq_some hd) hnot⟩
    · refine ⟨iff_of_false ?_ (not_not_intro (Finmap.mem_of_lookup_eq_some hlookup)),
        fun d' hd' => ?_⟩
      · rw [hr]
        exact nofun
      · obtain rfl := Option.some.inj (hlookup.symm.trans hd')
        exact ⟨r', hr, hleaves⟩

end Registry

end PosixVfs
