import Mathlib.Data.List.Basic

/-!
# Proofs/Slots — lists of slots of which some are empty

Descriptors, mount points and devices are kept in lists of slots.  The content of slot `i` of `l` is
`l[i]?.join`: there is none in an empty slot and none behind the end.  Replacing, searching and
listing are described through the contents (`Slots.join_set`, `Slots.findIdx?_isNone_iff`,
`Slots.mem_filterMap_iff`, `Slots.find?_filterMap_eq_some_iff`).  Where the contents of different
slots have different keys, they still do after filling a slot with a new key and after emptying one
(`Slots.Distinct`); where they have not, listing the keys without repetitions goes by the lowest slot
of each (`Slots.pairwise_findIdx_eraseDups`).
-/

namespace PosixVfs.Slots

variable {α : Type} {l : List (Option α)} {i : Nat} {a : α} {q : α → Bool}

theorem lt_of_join (h : l[i]?.join = some a) : i < l.length := by
  rw [Option.join_eq_some_iff] at h
  exact (List.getElem?_eq_some_iff.mp h).choose

theorem join_getElem? (h : i < l.length) : l[i]?.join = l[i] := by
  rw [List.getElem?_eq_getElem h, Option.join_some]

/-- Replacing the content of a slot. -/
theorem join_set (h : i < l.length) (x : Option α) (j : Nat) :
    (l.set i x)[j]?.join = if j = i then x else l[j]?.join := by
  by_cases hj : j = i
  · subst hj
    simp [h]
  · simp [hj, Ne.symm hj]

/-- What is listed is what the slots contain. -/
theorem mem_filterMap_iff : a ∈ l.filterMap id ↔ ∃ i : Nat, l[i]?.join = some a := by
  rw [List.mem_filterMap]
  constructor
  · rintro ⟨x, hx, hxa⟩
    obtain ⟨i, hi⟩ := List.mem_iff_getElem?.mp hx
    exact ⟨i, by rw [hi]; exact hxa⟩
  · rintro ⟨i, hi⟩
    rw [Option.join_eq_some_iff] at hi
    exact ⟨some a, List.mem_of_getElem? hi, rfl⟩

/-- What is listed is listed once, if the contents of different slots differ; also if they are
looked at through `f`. -/
theorem nodup_map_filterMap {β : Type} (f : α → β) (h : ∀ (i j : Nat) a b, l[i]?.join = some a →
    l[j]?.join = some b → f a = f b → i = j) : ((l.filterMap id).map f).Nodup := by
  rw [List.map_filterMap, List.nodup_iff_pairwise_ne, List.pairwise_filterMap,
    List.pairwise_iff_getElem]
  intro i j hi hj hij x hx y hy hxy
  obtain ⟨a, ha, rfl⟩ := Option.map_eq_some_iff.mp hx
  obtain ⟨b, hb, rfl⟩ := Option.map_eq_some_iff.mp hy
  exact Nat.ne_of_lt hij (h i j a b ((join_getElem? hi).trans ha) ((join_getElem? hj).trans hb) hxy)

/-- The lowest empty slot. -/
theorem findIdx?_isNone_iff : l.findIdx? Option.isNone = some i ↔
    i < l.length ∧ l[i]?.join = none ∧ ∀ j < i, (l[j]?.join).isSome := by
  rw [List.findIdx?_eq_some_iff_getElem]
  constructor
  · rintro ⟨hlt, hempty, hbelow⟩
    refine ⟨hlt, ?_, fun j hj => ?_⟩
    · rw [join_getElem? hlt]
      simpa using hempty
    · have hj' := hbelow j hj
      rw [join_getElem? (Nat.lt_trans hj hlt)]
      simpa [Option.isSome_iff_ne_none] using hj'
  · rintro ⟨hlt, hempty, hbelow⟩
    refine ⟨hlt, ?_, fun j hj => ?_⟩
    · rw [join_getElem? hlt] at hempty
      rw [hempty]
      rfl
    · have hj' := hbelow j hj
      rw [join_getElem? (Nat.lt_trans hj hlt)] at hj'
      simpa [Option.isSome_iff_ne_none] using hj'

/-- A search that finds a slot finds one whose content is wanted. -/
theorem exists_of_findIdx?_any (h : l.findIdx? (·.any q) = some i) :
    ∃ a, l[i]?.join = some a ∧ q a = true := by
  obtain ⟨hlt, hq, -⟩ := List.findIdx?_eq_some_iff_getElem.mp h
  obtain ⟨a, ha, hqa⟩ := (Option.any_eq_true q l[i]).mp hq
  exact ⟨a, (join_getElem? hlt).trans ha, hqa⟩

/-- A search finds nothing if no content is wanted. -/
theorem findIdx?_any_eq_none_iff :
    l.findIdx? (·.any q) = none ↔ ∀ (i : Nat) a, l[i]?.join = some a → q a = false := by
  rw [List.findIdx?_eq_none_iff]
  constructor
  · intro h i a ha
    rw [Option.join_eq_some_iff] at ha
    exact h (some a) (List.mem_of_getElem? ha)
  · intro h x hx
    rw [Option.any_eq_false]
    rintro a rfl
    obtain ⟨i, hi⟩ := List.mem_iff_getElem?.mp hx
    exact h i a (by rw [hi]; rfl)

/-- The first content that is wanted is the one in the lowest slot. -/
theorem find?_filterMap_eq_some_iff : (l.filterMap id).find? q = some a ↔
    ∃ i : Nat, l[i]?.join = some a ∧ q a = true ∧
      ∀ j < i, ∀ b, l[j]?.join = some b → q b = false := by
  rw [List.find?_filterMap, Option.bind_eq_some_iff]
  simp only [List.find?_eq_some_iff_getElem, id_eq]
  constructor
  · rintro ⟨x, ⟨hx, i, hi, rfl, hbelow⟩, ha⟩
    refine ⟨i, (join_getElem? hi).trans ha, ?_, fun j hj b hb => ?_⟩
    · rwa [ha] at hx
    · rw [join_getElem? (Nat.lt_trans hj hi)] at hb
      have hj' := hbelow j hj
      rw [hb] at hj'
      simpa using hj'
  · rintro ⟨i, hi, ha, hbelow⟩
    have hlt := lt_of_join hi
    rw [join_getElem? hlt] at hi
    refine ⟨some a, ⟨ha, i, hlt, hi, fun j hj => ?_⟩, rfl⟩
    rcases hb : l[j] with _ | b
    · rfl
    · have hb' := hbelow j hj b ((join_getElem? (Nat.lt_trans hj hlt)).trans hb)
      simpa using hb'

/-! ## Different contents, different keys -/

variable {κ : Type} {key : α → κ}

/-- The contents of different slots have different keys. -/
def Distinct (key : α → κ) (l : List (Option α)) : Prop :=
  ∀ (i j : Nat) a b, l[i]?.join = some a → l[j]?.join = some b → key a = key b → i = j

namespace Distinct

theorem replicate_none (n : Nat) : Distinct key (List.replicate n none) := by
  intro i j a b ha
  rw [List.getElem?_replicate] at ha
  split at ha <;> cases ha

/-- Filling a slot with a content whose key is new. -/
theorem set_some (h : Distinct key l) (hlt : i < l.length)
    (hnew : ∀ (j : Nat) b, l[j]?.join = some b → key b ≠ key a) :
    Distinct key (l.set i (some a)) := by
  intro j j' b b' hb hb' heq
  rw [join_set hlt] at hb hb'
  split at hb <;> split at hb'
  · next hj hj' => rw [hj, hj']
  · obtain rfl := Option.some.inj hb
    exact absurd heq.symm (hnew j' b' hb')
  · obtain rfl := Option.some.inj hb'
    exact absurd heq (hnew j b hb)
  · exact h j j' b b' hb hb' heq

/-- Emptying a slot. -/
theorem set_none (h : Distinct key l) (hlt : i < l.length) : Distinct key (l.set i none) := by
  have hold : ∀ (j : Nat) b, (l.set i none)[j]?.join = some b → l[j]?.join = some b := by
    intro j b hb
    rw [join_set hlt] at hb
    split at hb
    · cases hb
    · exact hb
  exact fun j j' b b' hb hb' => h j j' b b' (hold j b hb) (hold j' b' hb')

end Distinct

/-! ## Listing keys without repetitions -/

variable [DecidableEq κ]

/-- What is left of a list is in the same order. -/
theorem idxOf_lt_of_filter {q : κ → Bool} {l : List κ} {a b : κ} (ha : q a = true)
    (hb : q b = true) (h : (l.filter q).idxOf a < (l.filter q).idxOf b) :
    l.idxOf a < l.idxOf b := by
  induction l with
  | nil => exact h
  | cons x l ih =>
      by_cases hx : q x = true
      · rw [List.filter_cons_of_pos hx] at h
        by_cases hxb : x = b
        · rw [hxb, List.idxOf_cons_self] at h
          exact absurd h (Nat.not_lt_zero _)
        · rw [List.idxOf_cons_ne _ hxb] at h ⊢
          by_cases hxa : x = a
          · rw [hxa, List.idxOf_cons_self]
            exact Nat.succ_pos _
          · rw [List.idxOf_cons_ne _ hxa] at h ⊢
            exact Nat.succ_lt_succ (ih (Nat.lt_of_succ_lt_succ h))
      · have hxa : x ≠ a := fun e => hx (e ▸ ha)
        have hxb : x ≠ b := fun e => hx (e ▸ hb)
        rw [List.filter_cons_of_neg hx] at h
        rw [List.idxOf_cons_ne _ hxa, List.idxOf_cons_ne _ hxb]
        exact Nat.succ_lt_succ (ih h)

/-- **Without its repetitions** a list is in the order in which its members occur first. -/
theorem pairwise_idxOf_eraseDups (l : List κ) :
    l.eraseDups.Pairwise fun a b => l.idxOf a < l.idxOf b := by
  rcases l with _ | ⟨a, l⟩
  · exact .nil
  · rw [List.eraseDups_cons]
    have hother : ∀ b ∈ (l.filter fun b => !b == a).eraseDups, (!b == a) = true := fun b hb =>
      (List.mem_filter.mp (List.mem_eraseDups.mp hb)).2
    have hne : ∀ b ∈ (l.filter fun b => !b == a).eraseDups, a ≠ b := fun b hb e => by
      simpa [e] using hother b hb
    refine List.pairwise_cons.mpr ⟨fun b hb => ?_, ?_⟩
    · rw [List.idxOf_cons_self, List.idxOf_cons_ne _ (hne b hb)]
      exact Nat.succ_pos _
    · refine (pairwise_idxOf_eraseDups (l.filter fun b => !b == a)).imp_of_mem
        fun {b c} hb hc hbc => ?_
      rw [List.idxOf_cons_ne _ (hne b hb), List.idxOf_cons_ne _ (hne c hc)]
      refine Nat.succ_lt_succ (idxOf_lt_of_filter (q := fun b => !b == a) ?_ ?_ hbc)
      · exact hother b hb
      · exact hother c hc
termination_by l.length
decreasing_by
  have := List.length_filter_le (fun b => !b == a) l
  simp only [List.length_cons]
  omega

/-- What comes first when the slots are gone through, and something else at the end, has the lower
place. -/
theorem findIdx_lt_of_idxOf_lt {last : Option κ} {x y : κ}
    (hy : y ∈ (l.filterMap id).map key ++ last.toList)
    (h : ((l.filterMap id).map key ++ last.toList).idxOf x <
      ((l.filterMap id).map key ++ last.toList).idxOf y) :
    (l.findIdx (·.any (key · == x))) < l.findIdx (·.any (key · == y)) := by
  induction l with
  | nil =>
      -- only what is at the end is left, and nothing comes before it
      obtain rfl : last = some y := Option.mem_toList.mp hy
      simp at h
  | cons slot l ih =>
      rw [List.findIdx_cons, List.findIdx_cons]
      rcases slot with _ | a
      · have := ih hy h
        simpa using this
      · have hcons : ((some a :: l).filterMap id).map key ++ last.toList =
            key a :: ((l.filterMap id).map key ++ last.toList) := rfl
        rw [hcons] at h hy
        rw [Option.any_some, Option.any_some]
        by_cases hay : key a = y
        · rw [hay, List.idxOf_cons_self] at h
          exact absurd h (Nat.not_lt_zero _)
        · rw [beq_false_of_ne hay, cond_false]
          by_cases hax : key a = x
          · rw [beq_iff_eq.mpr hax, cond_true]
            exact Nat.succ_pos _
          · rw [List.idxOf_cons_ne _ hax, List.idxOf_cons_ne _ hay] at h
            rw [beq_false_of_ne hax, cond_false]
            have hrest := (List.mem_cons.mp hy).resolve_left (Ne.symm hay)
            exact Nat.succ_lt_succ (ih hrest (Nat.lt_of_succ_lt_succ h))

/-- **The keys in the slots**, listed without repetitions and with one more at the end, are in the
order of the lowest slots that they occur in. -/
theorem pairwise_findIdx_eraseDups (key : α → κ) (l : List (Option α)) (last : Option κ) :
    ((l.filterMap id).map key ++ last.toList).eraseDups.Pairwise fun x y =>
      l.findIdx (·.any (key · == x)) < l.findIdx (·.any (key · == y)) :=
  (pairwise_idxOf_eraseDups _).imp_of_mem fun _ hy =>
    findIdx_lt_of_idxOf_lt (List.mem_eraseDups.mp hy)

end PosixVfs.Slots
