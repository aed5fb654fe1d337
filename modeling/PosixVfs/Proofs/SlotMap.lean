import Mathlib.Data.Finmap
import PosixVfs.Proofs.Slots

/-!
# Proofs/SlotMap — slots whose contents have keys are a finite map with holes

Mount points have a path and devices have a name, and no two that are kept have the same.  So their
slots are a finite map (`Slots.toMap`), in which it makes no difference where a content is kept.
Filling an empty slot inserts an entry (`Slots.Distinct.toMap_set_some`), and emptying a slot erases
one (`Slots.Distinct.toMap_set_none`).
-/

namespace PosixVfs.Slots

variable {α κ β : Type} {key : α → κ} {value : α → β} {l : List (Option α)} {i : Nat} {a : α}
  {k : κ} {v : β}

/-- There is an empty slot unless there are as many contents as slots. -/
theorem findIdx?_isNone_eq_none_iff :
    l.findIdx? Option.isNone = none ↔ (l.filterMap id).length = l.length := by
  rw [List.findIdx?_eq_none_iff, List.length_filterMap_eq_countP, List.countP_eq_length]
  simp [Option.isSome_iff_ne_none]

/-! ## The map -/

variable [DecidableEq κ]

/-- The contents of the slots as a map, with the key and the value that are read off each. -/
def toMap (key : α → κ) (value : α → β) (l : List (Option α)) : Finmap fun _ : κ => β :=
  ((l.filterMap id).map fun a => (⟨key a, value a⟩ : Σ _ : κ, β)).toFinmap

/-- The keys of the map are those of the contents. -/
theorem mem_toMap_iff :
    k ∈ toMap key value l ↔ ∃ (i : Nat) (a : α), l[i]?.join = some a ∧ key a = k := by
  simp only [toMap, Finmap.mem_list_toFinmap, List.mem_map, mem_filterMap_iff]
  constructor
  · rintro ⟨v, a, ⟨i, hi⟩, heq⟩
    exact ⟨i, a, hi, congrArg Sigma.fst heq⟩
  · rintro ⟨i, a, hi, rfl⟩
    exact ⟨value a, a, ⟨i, hi⟩, rfl⟩

/-- Empty slots are the empty map. -/
theorem toMap_replicate_none (n : Nat) : toMap key value (List.replicate n none) = ∅ := by
  have hnil : (List.replicate n (none : Option α)).filterMap id = [] := by simp
  rw [toMap, hnil]
  rfl

namespace Distinct

/-- What a key is mapped to is the value of the content with this key. -/
theorem lookup_toMap_iff (h : Distinct key l) : (toMap key value l).lookup k = some v ↔
    ∃ (i : Nat) (a : α), l[i]?.join = some a ∧ key a = k ∧ value a = v := by
  have hkeys : ((l.filterMap id).map fun a => (⟨key a, value a⟩ : Σ _ : κ, β)).NodupKeys := by
    rw [List.NodupKeys, List.keys, List.map_map]
    exact nodup_map_filterMap _ h
  rw [toMap, Finmap.dlookup_list_toFinmap, ← Option.mem_def, List.mem_dlookup_iff hkeys,
    List.mem_map]
  simp only [mem_filterMap_iff]
  constructor
  · rintro ⟨a, ⟨i, hi⟩, heq⟩
    cases heq
    exact ⟨i, a, hi, rfl, rfl⟩
  · rintro ⟨i, a, hi, rfl, rfl⟩
    exact ⟨a, ⟨i, hi⟩, rfl⟩

/-- There are as many keys as contents. -/
theorem card_keys_toMap (h : Distinct key l) :
    (toMap key value l).keys.card = (l.filterMap id).length := by
  have hkeys : (toMap key value l).keys = ((l.filterMap id).map key).toFinset := by
    ext k
    rw [Finmap.mem_keys, mem_toMap_iff, List.mem_toFinset, List.mem_map]
    simp only [mem_filterMap_iff]
    exact ⟨fun ⟨i, a, hi, ha⟩ => ⟨a, ⟨i, hi⟩, ha⟩, fun ⟨a, ⟨i, hi⟩, ha⟩ => ⟨i, a, hi, ha⟩⟩
  rw [hkeys, List.toFinset_card_of_nodup (nodup_map_filterMap _ h), List.length_map]

/-- There is an empty slot unless there are as many keys as slots. -/
theorem findIdx?_isNone_eq_none_iff_card (h : Distinct key l) :
    l.findIdx? Option.isNone = none ↔ (toMap key value l).keys.card = l.length := by
  rw [findIdx?_isNone_eq_none_iff, h.card_keys_toMap]

/-- Another content in a slot makes no difference to a key that is neither that of the old one nor
that of the new one. -/
theorem lookup_toMap_set {x : Option α} (h : Distinct key l) (h' : Distinct key (l.set i x))
    (hlt : i < l.length) (hold : ∀ a, l[i]?.join = some a → key a ≠ k)
    (hnew : ∀ a, x = some a → key a ≠ k) :
    (toMap key value (l.set i x)).lookup k = (toMap key value l).lookup k := by
  refine Option.ext fun v => ?_
  rw [h'.lookup_toMap_iff, h.lookup_toMap_iff]
  refine exists_congr fun j => exists_congr fun a => and_congr_left fun ha => ?_
  rw [join_set hlt]
  split
  · next hj =>
      subst hj
      exact iff_of_false (fun e => hnew a e ha.1) fun e => hold a e ha.1
  · rfl

/-- **Filling an empty slot** inserts an entry. -/
theorem toMap_set_some (h : Distinct key l) (hlt : i < l.length) (hempty : l[i]?.join = none)
    (hnew : key a ∉ toMap key value l) :
    toMap key value (l.set i (some a)) = (toMap key value l).insert (key a) (value a) := by
  have h' : Distinct key (l.set i (some a)) := h.set_some hlt fun j b hb heq =>
    hnew (mem_toMap_iff.mpr ⟨j, b, hb, heq⟩)
  refine Finmap.ext_lookup fun q => ?_
  by_cases hq : q = key a
  · subst hq
    rw [Finmap.lookup_insert, h'.lookup_toMap_iff]
    exact ⟨i, a, by rw [join_set hlt, if_pos rfl], rfl, rfl⟩
  · rw [Finmap.lookup_insert_of_ne _ hq]
    refine h.lookup_toMap_set h' hlt (fun b hb => ?_) fun b hb heq => hq ?_
    · rw [hempty] at hb
      cases hb
    · rw [← heq, Option.some.inj hb]

/-- **Emptying a slot** erases an entry. -/
theorem toMap_set_none (h : Distinct key l) (ha : l[i]?.join = some a) :
    toMap key value (l.set i none) = (toMap key value l).erase (key a) := by
  have hlt := lt_of_join ha
  have h' := h.set_none hlt
  refine Finmap.ext_lookup fun q => ?_
  by_cases hq : q = key a
  · subst hq
    rw [Finmap.lookup_erase, Finmap.lookup_eq_none, mem_toMap_iff]
    rintro ⟨j, b, hb, hkey⟩
    rw [join_set hlt] at hb
    split at hb
    · cases hb
    · next hne => exact hne (h j i b a hb ha hkey)
  · rw [Finmap.lookup_erase_ne hq]
    refine h.lookup_toMap_set h' hlt (fun b hb heq => hq ?_) nofun
    rw [← heq, Option.some.inj (ha.symm.trans hb)]

end Distinct

end PosixVfs.Slots
