import PosixVfs.Proofs.Posix.Sweeping
import PosixVfs.Proofs.Session.Run

/-!
# Proofs/Session/Crowding — a table with more slots than there are descriptors

The capacity of a descriptor table is not limited, but the number of descriptors is.  A session that
opens one file after the other (`Session.crowd`) fills the slots of its table in order
(`Session.crowded_run`), and goes on beyond the last one that a descriptor stands for.  The files that
come to lie there are in use, but no descriptor finds them (`Session.Crowded.io?_ne`).
-/

namespace PosixVfs

/-- A fresh world with `n` slots in every pool.  All objects answer by default, and a file system
takes its files from there. -/
def World.roomy (n : Nat) : World Script where
  embedder := { isBare := fun _ => true }
  catalog := { fileSystems := [⟨some 0, none⟩] }
  pools := fun _ => .new n

/-- A bare embedder answers by default, and nothing happens to it. -/
theorem World.ask_of_isBare {w : World Script} (h : w.embedder.isBare = fun _ => true) (q : Hook) :
    w.ask q = (q.default, { w with trace := w.trace ++ [⟨q, q.default⟩] }) := by
  have hanswer : Embedder.answer q w.embedder = (q.default, w.embedder) := by
    change Script.answer q w.embedder = _
    unfold Script.answer
    rw [h]
    exact if_pos rfl
  rw [ask, hanswer]

namespace Session

/-- A new session with `n` slots in its table. -/
def roomy (n : Nat) : Session Script :=
  ⟨.build { descriptors := n, mounts := 1, devices := 0 } (.roomy n), []⟩

theorem new_roomy {n : Nat} (hn : 3 < n) : (roomy n).New where
  built := by
    refine ⟨{ descriptors := n, mounts := 1, devices := 0 }, .roomy n,
      ⟨fun _ => Pool.isHeld_new n, fun _ => rfl, fun _ => rfl, rfl, rfl, rfl⟩, ?_⟩
    have hcheck : Capacities.check { descriptors := n, mounts := 1, devices := 0 } = .ok () :=
      (if_neg (Nat.not_le.mpr hn)).trans (if_neg Nat.one_ne_zero)
    rw [Posix.new, hcheck]
    rfl
  streams := rfl

/-- Opening a file. -/
def openFile : Act := .call (.openPath "/a" ⟨0⟩ 0)

/-- Opening `k` files, on a file system that becomes the root. -/
def crowd (k : Nat) : List Act := .call (.setRoot ⟨0⟩ none ⟨0⟩) :: List.replicate k openFile

/-- The file in slot `j` of the pool. -/
def file (j : Nat) : IoId := .file ⟨0, j⟩

/-- What this file is asked when it is opened. -/
def opening (j : Nat) : Hook := .opening (file j) "/a" ⟨0⟩ 0

/-- Opening a file is counted for this file, and for no other. -/
theorem openings_ask_opening {w : World Script} (h : w.embedder.isBare = fun _ => true)
    (k j : Nat) : (w.ask (opening k)).2.openings (.io (file j)) =
      w.openings (.io (file j)) + if k = j then 1 else 0 := by
  have hopens : Event.opens (.io (file j)) ⟨opening k, .ok ()⟩ = true ↔ k = j := by
    change (some (ObjectId.io (file k)) == some (.io (file j))) = true ↔ _
    simp [file]
  rw [World.ask_of_isBare h, ← if_congr hopens rfl rfl, ← List.countP_singleton]
  exact List.countP_append

/-- Opening a file closes nothing. -/
theorem closings_ask_opening {w : World Script} (h : w.embedder.isBare = fun _ => true) (k : Nat)
    (x : ObjectId) : (w.ask (opening k)).2.closings x = w.closings x := by
  rw [World.ask_of_isBare h]
  exact List.countP_append

/-- **A crowd** of `k` files in a table of `n` slots: the slots above those of the standard streams
contain the first `k` files of the pool, each of which was opened once and never closed, and all
others are empty. -/
structure Crowded (n k : Nat) (p : Posix Script) : Prop where
  capacity : p.table.capacity = n
  object? : ∀ i, p.table.object? i = if 3 ≤ i ∧ i < k + 3 then some (file (i - 3)) else none
  descriptor : ∀ j, p.world.descriptor (file j) = if j < k then some (.ofIndex (j + 3)) else none
  slots : (p.world.pools (.files 0)).capacity = n
  isHeld : ∀ j, (p.world.pools (.files 0)).isHeld j = decide (j < k)
  openings : ∀ j, p.world.openings (.io (file j)) = if j < k then 1 else 0
  closings : ∀ x, p.world.closings x = 0
  catalog : p.world.catalog = (World.roomy n).catalog
  isBare : p.world.embedder.isBare = fun _ => true
  mounts : p.mounts = { MountTable.new 1 with root := some ⟨0⟩ }
  registry : p.registry = .new 0

namespace Crowded

variable {n k : Nat} {p : Posix Script}

theorem isBare_take (h : Crowded n k p) :
    (p.world.take (.files 0) k).embedder.isBare = fun _ => true :=
  h.isBare

/-- The next file is the lowest one that is free. -/
theorem firstFree?_pool (h : Crowded n k p) (hk : k < n) :
    (p.world.pools (.files 0)).firstFree? = some k := by
  refine Pool.firstFree?_eq_some_iff.mpr ⟨h.slots.symm ▸ hk, ?_, fun i hi => ?_⟩
  · rw [h.isHeld, decide_eq_false (Nat.lt_irrefl k)]
  · rw [h.isHeld, decide_eq_true hi]

/-- The next slot is the lowest one that is empty. -/
theorem firstFree?_table (h : Crowded n k p) (hk : k + 3 < n) :
    p.table.firstFree? = some (k + 3) := by
  refine Table.firstFree?_eq_some_iff.mpr
    ⟨Nat.le_add_left 3 k, h.capacity.symm ▸ hk, ?_, fun j hj hlt => ?_⟩
  · rw [h.object?, if_neg fun hand => Nat.lt_irrefl _ hand.2]
  · rw [h.object?, if_pos ⟨hj, hlt⟩]
    rfl

/-- The path leads to the next file of the pool. -/
theorem openObject_eq (h : Crowded n k p) (hk : k < n) :
    p.openObject "/a" ⟨0⟩ 0 =
      (.ok (file k), ((p.world.take (.files 0) k).ask (opening k)).2) := by
  have hacquire : p.world.acquireFile 0 = (some ⟨0, k⟩, p.world.take (.files 0) k) := by
    obtain ⟨hnone, -⟩ | ⟨slot, hslot, ha⟩ := p.world.acquireLinked_cases (.files 0)
    · rw [h.firstFree?_pool hk] at hnone
      cases hnone
    · obtain rfl : k = slot := Option.some.inj ((h.firstFree?_pool hk).symm.trans hslot)
      rw [World.acquireFile, ha]
      rfl
  have hask : (p.world.take (.files 0) k).ask (.opening (.file ⟨0, k⟩) "/a" ⟨0⟩ 0) =
      (.ok (), ((p.world.take (.files 0) k).ask (opening k)).2) := by
    change (p.world.take (.files 0) k).ask (opening k) = _
    rw [World.ask_of_isBare h.isBare_take]
    rfl
  have hprovision : (p.world.catalog.provision ⟨0⟩).files = some 0 := by rw [h.catalog]; rfl
  have hfile : FileSystemId.openFile ⟨0⟩ p.world "/a" ⟨0⟩ 0 = (.ok ⟨0, k⟩,
      ((p.world.take (.files 0) k).ask (opening k)).2) := by
    rw [FileSystemId.openFile, hprovision]
    simp only [hacquire, hask]
  have hdevice : p.registry.identify? p.world.catalog "/a" = none := by rw [h.registry]; rfl
  have hresolve : p.resolve "/a" = .ok ⟨⟨0⟩, "/a", none⟩ := by
    rw [Posix.resolve, h.mounts]
    rfl
  rw [Posix.openObject, if_neg (by decide), hdevice]
  simp only [hresolve, hfile]
  rfl

/-- **Opening one more file** takes the next one of the pool and binds it to the next slot. -/
theorem openPath_eq (h : Crowded n k p) (hk : k + 3 < n) :
    p.openPath "/a" ⟨0⟩ 0 = (.ok (.ofIndex (k + 3)),
      { p with
        table := p.table.set (k + 3) (some (file k))
        lastError := none
        world := (((p.world.take (.files 0) k).ask (opening k)).2.setDescriptor (file k)
          (some (.ofIndex (k + 3)))).note (.allocated (.ofIndex (k + 3)) .file) }) := by
  have hunbound : ((p.world.take (.files 0) k).ask (opening k)).2.descriptor (file k) = none :=
    (h.descriptor k).trans (if_neg (Nat.lt_irrefl k))
  rw [Posix.openPath, h.openObject_eq (by omega)]
  simp only [IoId.register, Table.alloc, hunbound, h.firstFree?_table hk]
  rfl

/-- **One more file** makes the crowd larger by one. -/
theorem openPath (h : Crowded n k p) (hk : k + 3 < n) :
    Crowded n (k + 1) (p.openPath "/a" ⟨0⟩ 0).2 := by
  have hslot : k + 3 < p.table.capacity := h.capacity.symm ▸ hk
  have hpool : k < (p.world.pools (.files 0)).capacity := by
    rw [h.slots]
    omega
  rw [h.openPath_eq hk]
  constructor
  case capacity => exact (Table.capacity_set _ _ _).trans h.capacity
  case object? =>
    intro i
    change (p.table.set (k + 3) (some (file k))).object? i = _
    rw [Table.object?_set hslot, h.object?]
    by_cases hi : i = k + 3
    · subst hi
      simp
    · rw [if_neg hi]
      refine if_congr ?_ rfl rfl
      omega
  case descriptor =>
    intro j
    change assign p.world.descriptor (file k) (some (.ofIndex (k + 3))) (file j) = _
    by_cases hj : j = k
    · rw [hj, assign_self, if_pos (Nat.lt_succ_self k)]
    · have hne : file j ≠ file k := fun heq => hj (by simpa [file] using heq)
      rw [assign_of_ne _ _ _ hne, h.descriptor]
      refine if_congr ?_ rfl rfl
      omega
  case slots => exact (World.capacity_take _ _ _ _).trans h.slots
  case isHeld =>
    intro j
    change ((p.world.take (.files 0) k).pools (.files 0)).isHeld j = _
    rw [World.pools_take, assign_self, Pool.isHeld_hold hpool, h.isHeld]
    rw [Bool.eq_iff_iff, Bool.or_eq_true, beq_iff_eq, decide_eq_true_iff, decide_eq_true_iff]
    omega
  case openings =>
    intro j
    change ((p.world.take (.files 0) k).ask (opening k)).2.openings (.io (file j)) = _
    rw [openings_ask_opening h.isBare_take]
    change p.world.openings (.io (file j)) + _ = _
    rw [h.openings]
    split <;> split <;> split <;> omega
  case closings =>
    intro x
    change ((p.world.take (.files 0) k).ask (opening k)).2.closings x = _
    rw [closings_ask_opening h.isBare_take]
    exact h.closings x
  case catalog => exact h.catalog
  case isBare =>
    have hembedder := congrArg (·.2.embedder) (World.ask_of_isBare h.isBare_take (opening k))
    exact (congrArg Script.isBare hembedder).trans h.isBare_take
  case mounts => exact h.mounts
  case registry => exact h.registry

/-- The file in slot `j` of the pool is in slot `j + 3` of the table. -/
theorem object?_file (h : Crowded n k p) {j : Nat} (hj : j < k) :
    p.table.object? (j + 3) = some (file j) :=
  (h.object? (j + 3)).trans (if_pos ⟨Nat.le_add_left 3 j, Nat.add_lt_add_right hj 3⟩)

/-- **Beyond the descriptors** a file is in its slot, but no descriptor finds it. -/
theorem io?_ne (h : Crowded n k p) {j : Nat} (hj : Fd.count ≤ j + 3) (fd : Fd) :
    p.table.io? fd ≠ some (file j) := by
  intro hio
  obtain ⟨i, hi, ho⟩ := Table.io?_eq_some_iff.mp hio
  have hcount := Fd.lt_count_of_index? hi
  rw [h.object?] at ho
  split at ho
  · have hslot : i - 3 = j := by simpa [file] using ho
    omega
  · cases ho

/-- The pool of the files is alive. -/
theorem poolAlive (h : Crowded n k p) : p.world.poolAlive (.files 0) = true :=
  World.poolAlive_of_uses (by rw [h.catalog]; rfl)

end Crowded

/-- Before the first file there is only a root. -/
theorem crowded_setRoot (n : Nat) : Crowded n 0 ((roomy n).posix.setRoot ⟨0⟩ none ⟨0⟩).2 where
  capacity := Table.capacity_new n
  object? i := by
    rw [if_neg fun hand => by omega]
    exact Table.object?_new n i
  descriptor _ := rfl
  slots := List.length_replicate
  isHeld j := (Pool.isHeld_new n j).trans (decide_eq_false (Nat.not_lt_zero j)).symm
  openings _ := rfl
  closings _ := rfl
  catalog := rfl
  isBare := rfl
  mounts := rfl
  registry := rfl

/-- **Opening one file after the other** fills the slots of the table and of the pool in order, as
long as there are any. -/
theorem crowded_run {n k : Nat} (hk : k + 3 ≤ n) : Crowded n k ((roomy n).run (crowd k)).posix := by
  induction k with
  | zero => exact crowded_setRoot n
  | succ k ih =>
      have hrun : (roomy n).run (crowd (k + 1)) = ((roomy n).run (crowd k)).step openFile := by
        rw [crowd, List.replicate_succ', ← List.cons_append, ← crowd]
        exact List.foldl_append
      rw [hrun]
      exact (ih (by omega)).openPath (by omega)

/-- Opening files is orderly. -/
theorem admits_crowd (s : Session Script) (k : Nat) : s.Admits (crowd k) := by
  have hopen : ∀ s : Session Script, s.Admits (List.replicate k openFile) := by
    induction k with
    | zero => exact fun _ => trivial
    | succ k ih => exact fun s => ⟨trivial, ih (s.step openFile)⟩
  exact ⟨trivial, hopen _⟩

end Session

end PosixVfs
