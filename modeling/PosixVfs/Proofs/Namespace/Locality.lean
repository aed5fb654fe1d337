import PosixVfs.Proofs.Namespace.Attachment
import PosixVfs.Proofs.Namespace.Resolution

/-!
# Proofs/Namespace/Locality — where a path leads depends on what is mounted, and only nearby

Two tables are `Alike` if the same file systems are mounted on the same paths and the root is the
same; how they came to be so, and which slots are used, does not matter.  Tables that are alike lead
every path to the same place (`Recorded.identify?_congr`).  A mount point only concerns the paths
below it that are not below a longer one (`Recorded.identify?_of_enters_far`,
`Recorded.identify?_of_enters_near`), and when it goes, everything is as it was before
(`identify?_local_history`).
-/

namespace PosixVfs.MountTable

variable {t t' : MountTable} {acts acts' : List MountAct} {m : Mount} {path p : String}
  {s : FileSystemId}

/-! ## Tables that are alike -/

/-- The file system is mounted on the path. -/
def Mounts (t : MountTable) (path : String) (s : FileSystemId) : Prop :=
  ∃ m ∈ t.mounts, m.path.text = path ∧ m.fileSystem = s

/-- The same file systems are mounted on the same paths, and the root is the same. -/
structure Alike (t t' : MountTable) : Prop where
  mounts : ∀ path s, t.Mounts path s ↔ t'.Mounts path s
  root : t.root = t'.root

namespace Recorded

variable (h : t.Recorded acts) (h' : t'.Recorded acts')

section

include h

theorem lookup_entries_iff_mounts : t.entries.lookup path = some s ↔ t.Mounts path s := by
  rw [h.lookup_entries_iff, Mounts]
  simp only [mem_mounts_iff]
  exact ⟨fun ⟨i, m, hi, hm⟩ => ⟨m, ⟨i, hi⟩, hm⟩, fun ⟨m, ⟨i, hi⟩, hm⟩ => ⟨i, m, hi, hm⟩⟩

theorem length_eq_size (hm : m ∈ t.mounts) : m.path.length = Text.size m.path.text := by
  obtain ⟨front, hf⟩ := h.exists_fronted hm
  rw [hf.length, hf.text, Text.size_append]
  rfl

theorem mem_mounts_iff_text :
    m ∈ t.mounts ↔ t.Mounts m.path.text m.fileSystem ∧ m.path = .ofString m.path.text := by
  refine ⟨fun hm => ⟨⟨m, hm, rfl, rfl⟩, (h.wellFormed_text hm).2⟩, ?_⟩
  rintro ⟨⟨m', hm', htext, hs⟩, hpath⟩
  obtain rfl : m' = m := by
    rw [Mount.mk.injEq, (h.wellFormed_text hm').2, htext, ← hpath]
    exact ⟨rfl, hs⟩
  exact hm'

/-- **The owner of a path** is the mount point that covers it and is the longest of those that
do. -/
theorem owner?_eq_some_iff : t.owner? p = some m ↔ m ∈ t.mounts ∧ m.covers p = true ∧
    ∀ m' ∈ t.mounts, m'.covers p = true → m'.path.length ≤ m.path.length := by
  refine ⟨of_owner?, fun ⟨hm, hc, hmax⟩ => ?_⟩
  rcases ho : t.owner? p with _ | m₁
  · rw [owner?_eq_none_iff.mp ho m hm] at hc
    cases hc
  · obtain ⟨hm₁, hc₁, hmax₁⟩ := of_owner? ho
    rw [h.eq_of_covers hm₁ hm hc₁ hc (Nat.le_antisymm (hmax m₁ hm₁ hc₁) (hmax₁ m hm hc))]

end

include h h'

/-- Tables are alike if they are the same map, with the same root. -/
theorem alike_iff : t.Alike t' ↔ t.entries = t'.entries ∧ t.root = t'.root := by
  refine ⟨fun ha => ⟨Finmap.ext_lookup fun path => Option.ext fun s => ?_, ha.root⟩,
    fun ⟨he, hr⟩ => ⟨fun path s => ?_, hr⟩⟩
  · rw [h.lookup_entries_iff_mounts, h'.lookup_entries_iff_mounts, ha.mounts]
  · rw [← h.lookup_entries_iff_mounts, he, h'.lookup_entries_iff_mounts]

/-- **Tables that are alike** lead every path to the same place. -/
theorem identify?_congr (ha : t.Alike t') (p : String) (secondary : Option String) :
    t.identify? p secondary = t'.identify? p secondary := by
  have hmem : ∀ m, m ∈ t.mounts ↔ m ∈ t'.mounts := by
    intro m
    rw [h.mem_mounts_iff_text, h'.mem_mounts_iff_text, ha.mounts]
  have howner : t.owner? p = t'.owner? p := by
    refine Option.ext fun m => ?_
    simp only [h.owner?_eq_some_iff, h'.owner?_eq_some_iff, hmem]
  rw [identify?, identify?, howner, ha.root]

end Recorded

/-! ## One more mount point -/

theorem Enters.mem_mounts_iff (h : t.Enters path s t') :
    m ∈ t'.mounts ↔ m = ⟨.ofString path, s⟩ ∨ m ∈ t.mounts := by
  obtain ⟨slot, -, hempty, hslots⟩ := h.slots
  simp only [MountTable.mem_mounts_iff, hslots]
  constructor
  · rintro ⟨i, hi⟩
    split at hi
    · exact .inl (Option.some.inj hi).symm
    · exact .inr ⟨i, hi⟩
  · rintro (rfl | ⟨i, hi⟩)
    · exact ⟨slot, if_pos rfl⟩
    · refine ⟨i, ?_⟩
      rw [if_neg, hi]
      rintro rfl
      rw [hempty] at hi
      cases hi

/-- A new mount point covers what begins with its path, and is as long as that. -/
theorem covers_ofString (hsize : Text.size path ≤ maxMountPath) (s : FileSystemId) (p : String) :
    (Mount.mk (.ofString path) s).covers p = Text.startsWith p path ∧
      (Mount.mk (.ofString path) s).path.length = Text.size path := by
  rw [Mount.covers, FixedText.text_ofString hsize]
  exact ⟨rfl, FixedText.length_ofString hsize⟩

namespace Recorded

variable (h : t.Recorded acts) (h' : t'.Recorded acts') (henters : t.Enters path s t')
  (hsize : Text.size path ≤ maxMountPath)

include h h' henters hsize

/-- **Far from a new mount point** nothing changes: for paths that are not below it, and for those
that are below a longer one as well. -/
theorem identify?_of_enters_far (secondary : Option String)
    (hfar : Text.startsWith p path = false ∨
      ∃ m ∈ t.mounts, m.covers p = true ∧ Text.size path < Text.size m.path.text) :
    t'.identify? p secondary = t.identify? p secondary := by
  obtain ⟨hcovers, hlength⟩ := covers_ofString hsize s p
  have hbeaten : Text.startsWith p path = true →
      ∃ m ∈ t.mounts, m.covers p = true ∧ Text.size path < m.path.length := by
    intro hc
    obtain hnot | ⟨m, hm, hcm, hlt⟩ := hfar
    · rw [hc] at hnot
      cases hnot
    · exact ⟨m, hm, hcm, h.length_eq_size hm ▸ hlt⟩
  have howner : t'.owner? p = t.owner? p := by
    refine Option.ext fun m => ?_
    rw [h.owner?_eq_some_iff, h'.owner?_eq_some_iff]
    simp only [henters.mem_mounts_iff]
    constructor
    · rintro ⟨rfl | hm, hc, hmax⟩
      · rw [hcovers] at hc
        obtain ⟨m₁, hm₁, hc₁, hlt⟩ := hbeaten hc
        have hle := hmax m₁ (.inr hm₁) hc₁
        omega
      · exact ⟨hm, hc, fun m' hm' => hmax m' (.inr hm')⟩
    · rintro ⟨hm, hc, hmax⟩
      refine ⟨.inr hm, hc, ?_⟩
      rintro m' (rfl | hm') hc'
      · rw [hcovers] at hc'
        obtain ⟨m₁, hm₁, hc₁, hlt⟩ := hbeaten hc'
        have hle := hmax m₁ hm₁ hc₁
        omega
      · exact hmax m' hm' hc'
  rw [identify?, identify?, howner, henters.root]

/-- **Near a new mount point** every path leads to what is mounted there. -/
theorem identify?_of_enters_near (secondary : Option String)
    (hnear : Text.startsWith p path = true)
    (hlongest : ∀ m ∈ t.mounts, m.covers p = true → Text.size m.path.text ≤ Text.size path) :
    ∃ r, t'.identify? p secondary = some r ∧ r.fileSystem = s := by
  obtain ⟨hcovers, hlength⟩ := covers_ofString hsize s p
  have howner : t'.owner? p = some ⟨.ofString path, s⟩ := by
    rw [h'.owner?_eq_some_iff]
    refine ⟨henters.mem_mounts_iff.mpr (.inl rfl), hcovers.trans hnear, fun m hm hc => ?_⟩
    obtain rfl | hm := henters.mem_mounts_iff.mp hm
    · exact Nat.le_refl _
    · rw [hlength, h.length_eq_size hm]
      exact hlongest m hm hc
  rw [identify?, howner]
  exact ⟨_, rfl, rfl⟩

end Recorded

/-- **When a mount point goes again**, the table is like the one before it came, if all else that
was done in between was undone. -/
theorem Enters.alike_of_leaves {t₁ t₂ t₃ : MountTable} {acts₁ acts₂ acts₃ : List MountAct}
    (henters : t.Enters path s t₁) (hnew : path ∉ t.entries) (hleaves : t₂.Leaves path t₃)
    (hundone : t₂.Alike t₁) (h : t.Recorded acts) (h₁ : t₁.Recorded acts₁)
    (h₂ : t₂.Recorded acts₂) (h₃ : t₃.Recorded acts₃) : t₃.Alike t := by
  obtain ⟨hentries, hroot⟩ := (h₂.alike_iff h₁).mp hundone
  refine (h₃.alike_iff h).mpr ⟨?_, ?_⟩
  · rw [hleaves.entries, hentries, henters.entries]
    refine Finmap.ext_lookup fun q => ?_
    by_cases hq : q = path
    · rw [hq, Finmap.lookup_erase, Finmap.lookup_eq_none.mpr hnew]
    · rw [Finmap.lookup_erase_ne hq, Finmap.lookup_insert_of_ne _ hq]
  · rw [hleaves.root, hroot, henters.root]

/-! ## After every history -/

section

variable {ε : Type} [Embedder ε] {r : MountTable × World ε}

/-- A mounting that succeeds enters a new path, and one that fits. -/
theorem Recorded.enters_of_answer {disk : Option DiskId} {flags : MountFlags}
    (h : r.1.Recorded acts)
    (hok : MountAct.answer r (.mount s path disk flags) = .ok ()) :
    path ∉ r.1.entries ∧ Text.size path ≤ maxMountPath ∧
      r.1.Enters path s (step r (.mount s path disk flags)).1 := by
  rw [MountAct.answer] at hok
  rw [step]
  obtain ⟨e, w', hr⟩ | ⟨slot, w', hwf, hpos, hfree, hr⟩ := r.1.mount_cases r.2 s path disk flags
  · rw [hr] at hok
    cases hok
  · rw [hr]
    have hnew := position?_eq_none_iff_notMem.mp hpos
    exact ⟨hnew, size_le_of_wellFormed hwf, h.enters hwf hnew hfree s⟩

/-- An unmounting of a path that is mounted succeeds and takes it out. -/
theorem Recorded.leaves_of_mem (h : r.1.Recorded acts) (flags : MountFlags)
    (hmem : path ∈ r.1.entries) :
    MountAct.answer r (.umount path flags) = .ok () ∧
      r.1.Leaves path (step r (.umount path flags)).1 := by
  rw [MountAct.answer, step]
  obtain ⟨hnot, -⟩ | ⟨_, _, _, t', w', -, hr, -, hleaves⟩ := h.umount_outcome r.2 path flags
  · exact absurd hmem hnot
  · rw [hr]
    exact ⟨rfl, hleaves⟩

end

variable {ε ε' : Type} [Embedder ε] [Embedder ε']

/-- **Resolution is local.**  Two histories of any tables that come to the same mounts and the same
root, in whatever order and in whatever slots, lead every path to the same place.  When a file system
is mounted on `m`, every path that is not below `m`, or is below a longer mount path, leads where it
led before, and every other path below `m` leads to that file system.  When `m` is unmounted again,
at once or after other acts of which nothing is left, every path leads where it led before. -/
theorem identify?_local_history (n n' : Nat) (w : World ε) (w' : World ε')
    (acts acts' : List MountAct) :
    let t := (history n w acts).1
    let t' := (history n' w' acts').1
    (t.Alike t' → ∀ p secondary, t.identify? p secondary = t'.identify? p secondary) ∧
    ∀ (s : FileSystemId) (m : String) (disk : Option DiskId) (flags : MountFlags),
      MountAct.answer (history n w acts) (.mount s m disk flags) = .ok () →
      let mounted := acts ++ [.mount s m disk flags]
      let t₁ := (history n w mounted).1
      (∀ p secondary, (Text.startsWith p m = false ∨
          ∃ m' ∈ t.mounts, m'.covers p = true ∧ Text.size m < Text.size m'.path.text) →
        t₁.identify? p secondary = t.identify? p secondary) ∧
      (∀ p secondary, Text.startsWith p m = true →
        (∀ m' ∈ t.mounts, m'.covers p = true → Text.size m'.path.text ≤ Text.size m) →
        ∃ r, t₁.identify? p secondary = some r ∧ r.fileSystem = s) ∧
      ∀ between flags', (history n w (mounted ++ between)).1.Alike t₁ →
        let unmounted := mounted ++ between ++ [.umount m flags']
        MountAct.answer (history n w (mounted ++ between)) (.umount m flags') = .ok () ∧
        ∀ p secondary,
          (history n w unmounted).1.identify? p secondary = t.identify? p secondary := by
  intro t t'
  have h : t.Recorded acts := recorded_history n w acts
  refine ⟨h.identify?_congr (recorded_history n' w' acts'), ?_⟩
  intro s m disk flags hok mounted t₁
  have h₁ : t₁.Recorded mounted := recorded_history n w mounted
  obtain ⟨hnew, hsize, henters⟩ := h.enters_of_answer hok
  rw [← history_append_singleton] at henters
  refine ⟨fun p secondary => h.identify?_of_enters_far h₁ henters hsize secondary,
    fun p secondary => h.identify?_of_enters_near h₁ henters hsize secondary, ?_⟩
  intro between flags' hundone unmounted
  have h₂ := recorded_history n w (mounted ++ between)
  have h₃ : (history n w unmounted).1.Recorded unmounted := recorded_history n w unmounted
  have hmem : m ∈ (history n w (mounted ++ between)).1.entries := by
    rw [((h₂.alike_iff h₁).mp hundone).1, henters.entries, Finmap.mem_insert]
    exact .inl rfl
  obtain ⟨hanswer, hleaves⟩ := h₂.leaves_of_mem flags' hmem
  rw [← history_append_singleton] at hleaves
  exact ⟨hanswer,
    h₃.identify?_congr h (henters.alike_of_leaves hnew hleaves hundone h h₁ h₂ h₃)⟩

/-- The same mounts in other slots, since the slot of one that went is used again. -/
example :
    let w : World Script := { embedder := {} }
    let a := MountAct.mount ⟨0⟩ "/a/" none ⟨0⟩
    let b := MountAct.mount ⟨1⟩ "/a/b/" none ⟨0⟩
    let t := (history 2 w [a, b]).1
    let t' := (history 2 w [.mount ⟨2⟩ "/c/" none ⟨0⟩, a, .umount "/c/" ⟨0⟩, b]).1
    t.slots ≠ t'.slots ∧ t.identify? "/a/b/c" none = t'.identify? "/a/b/c" none := by
  decide +kernel

end PosixVfs.MountTable
