import PosixVfs.Namespace.Opening
import PosixVfs.Proofs.World.Slots

/-!
# Proofs/Namespace/Opening — all that an opening on a file system can do

A file system takes an object from its pool and asks it.  `openFile_cases` and `openDirectory_cases`
list the outcomes: there was nothing to take (`World.Lacks`), an object was taken and agreed, or it
was taken, refused and given back.
-/

namespace PosixVfs

variable {ε : Type}

namespace World

variable {w : World ε}

/-! ## Pools in use are alive -/

section PoolAlive

variable {p : PoolId} {s : FileSystemId} {i : Nat}

theorem poolAlive_of_uses (h : w.catalog.uses p = true) : w.poolAlive p = true := by
  rw [poolAlive, h, Bool.or_true, Bool.true_or]

/-- A file system that takes objects is listed. -/
theorem provision_mem {c : Catalog} (h : c.provision s ≠ default) :
    c.provision s ∈ c.fileSystems := by
  rw [Catalog.provision, List.getD_eq_getElem?_getD] at h ⊢
  rcases hs : c.fileSystems[s.index]? with _ | q
  · rw [hs] at h; exact absurd rfl h
  · exact List.mem_of_getElem? hs

/-- The pools that a file system takes objects from are in use. -/
theorem uses_provision (h : (w.catalog.provision s).files.map PoolId.files = some p ∨
    (w.catalog.provision s).directories.map PoolId.directories = some p) :
    w.catalog.uses p = true := by
  have hmem : w.catalog.provision s ∈ w.catalog.fileSystems :=
    provision_mem fun hd => by rw [hd] at h; rcases h with h | h <;> cases h
  exact List.any_eq_true.mpr ⟨_, hmem, by simpa using h⟩

theorem poolAlive_sockets (h : w.socketPool = some i) : w.poolAlive (.sockets i) = true := by
  rw [poolAlive, h, Option.map_some, beq_self_eq_true, Bool.or_true]

end PoolAlive

end World

/-! ## The outcomes of an opening -/

/-- There is no object to take from the pool: there is no pool, or none of its slots is free. -/
def World.Lacks (w : World ε) (pool : Option PoolId) (e : Errno) : Prop :=
  pool = none ∧ e = .notSupported ∨
    ∃ p, pool = some p ∧ (w.pools p).firstFree? = none ∧ e = .tooManyOpenFiles

namespace FileSystemId

variable [Embedder ε] (s : FileSystemId) (w : World ε) (path : String)

/-- **Opening a file** takes none, or takes the one on offer in the pool that the file system uses;
a file that refuses goes back. -/
theorem openFile_cases (flags : OpenFlags) (mode : Mode) :
    (∃ e w', w.Lacks ((w.catalog.provision s).files.map .files) e ∧
      s.openFile w path flags mode = (.error e, w') ∧ w.After [] w.books w') ∨
    ∃ i slot w', (w.catalog.provision s).files = some i ∧ w.Offers (.files i) slot ∧
      (s.openFile w path flags mode = (.ok ⟨i, slot⟩, w') ∧
        w.After [⟨.opening (.file ⟨i, slot⟩) path flags mode, .ok ()⟩]
          (w.take (.files i) slot).books w' ∨
      ∃ e, s.openFile w path flags mode = (.error e, w') ∧
        w.After [⟨.opening (.file ⟨i, slot⟩) path flags mode, .error e⟩]
          ((w.take (.files i) slot).giveBack (.io (.file ⟨i, slot⟩))).2.books w') := by
  rw [openFile]
  rcases hp : (w.catalog.provision s).files with _ | i
  · exact .inl ⟨_, _, .inl ⟨rfl, rfl⟩, rfl, .refl w⟩
  · simp only [World.acquireFile]
    obtain ⟨hfull, hacq⟩ | ⟨slot, hfree, hacq⟩ := w.acquireLinked_cases (.files i)
    · rw [hacq]
      exact .inl ⟨_, _, .inr ⟨_, rfl, hfull, rfl⟩, rfl, ((World.After.refl w).note rfl).note rfl⟩
    · refine .inr ⟨i, slot, ?_⟩
      have hoffer : w.Offers (.files i) slot :=
        ⟨World.poolAlive_of_uses (World.uses_provision (.inl (by rw [hp]; rfl))), hfree⟩
      rw [hacq]
      rcases ha : (w.take (.files i) slot).ask (.opening (.file ⟨i, slot⟩) path flags mode)
        with ⟨e | ⟨⟩, w₁⟩
      · exact ⟨_, rfl, hoffer, .inr ⟨e, by simp only [Option.map_some, ha],
          ((w.after_take _ _).ask ha).giveBack _⟩⟩
      · exact ⟨_, rfl, hoffer, .inl
          ⟨by simp only [Option.map_some, ha], (w.after_take _ _).ask ha⟩⟩

/-- **Opening a directory** takes none, or takes the one on offer in the pool that the file system
uses; a directory that refuses goes back. -/
theorem openDirectory_cases :
    (∃ e w', w.Lacks ((w.catalog.provision s).directories.map .directories) e ∧
      s.openDirectory w path = (.error e, w') ∧ w.After [] w.books w') ∨
    ∃ i slot w', (w.catalog.provision s).directories = some i ∧ w.Offers (.directories i) slot ∧
      (s.openDirectory w path = (.ok ⟨i, slot⟩, w') ∧
        w.After [⟨.openDirectory ⟨i, slot⟩ path, .ok ()⟩]
          (w.take (.directories i) slot).books w' ∨
      ∃ e, s.openDirectory w path = (.error e, w') ∧
        w.After [⟨.openDirectory ⟨i, slot⟩ path, .error e⟩]
          ((w.take (.directories i) slot).giveBack (.directory ⟨i, slot⟩)).2.books w') := by
  rw [openDirectory]
  rcases hp : (w.catalog.provision s).directories with _ | i
  · exact .inl ⟨_, _, .inl ⟨rfl, rfl⟩, rfl, .refl w⟩
  · simp only [World.acquireDirectory]
    obtain ⟨hfull, hacq⟩ | ⟨slot, hfree, hacq⟩ := w.acquireLinked_cases (.directories i)
    · rw [hacq]
      exact .inl ⟨_, _, .inr ⟨_, rfl, hfull, rfl⟩, rfl, ((World.After.refl w).note rfl).note rfl⟩
    · refine .inr ⟨i, slot, ?_⟩
      have hoffer : w.Offers (.directories i) slot :=
        ⟨World.poolAlive_of_uses (World.uses_provision (.inr (by rw [hp]; rfl))), hfree⟩
      rw [hacq]
      rcases ha : (w.take (.directories i) slot).ask (.openDirectory ⟨i, slot⟩ path)
        with ⟨e | ⟨⟩, w₁⟩
      · exact ⟨_, rfl, hoffer, .inr ⟨e, by simp only [Option.map_some, ha],
          ((w.after_take _ _).ask ha).giveBack _⟩⟩
      · exact ⟨_, rfl, hoffer, .inl
          ⟨by simp only [Option.map_some, ha], (w.after_take _ _).ask ha⟩⟩

end FileSystemId

end PosixVfs
