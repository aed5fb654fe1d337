import PosixVfs.Proofs.Namespace.History
import PosixVfs.Scripted.Script

/-!
# Proofs/Namespace/Resolution — the longest mount path wins, and is stripped exactly

In a table with a history, the mount paths that a path begins with all differ in length, so the
longest is one of a kind (`Recorded.eq_of_covers`).  A mount path is some front with a separator
behind it; a path below it is the same front with a path that has a leading separator behind it, and
that is what the file system sees (`Mount.covers_iff`, `Mount.strip_append`).
-/

namespace PosixVfs

/-! ## Below a mount point -/

namespace Mount

variable {m : Mount} {front path : String}

/-- The path of a mount point is `front` and a separator. -/
structure Fronted (m : Mount) (front : String) : Prop where
  text : m.path.text = front ++ "/"
  length : m.path.length = Text.size front + 1
  decode : Text.decode (m.path.bytes.take m.path.length) = some m.path.text

/-- A well-formed mount path ends with a separator. -/
theorem exists_fronted (h : MountTable.wellFormed path = true) (hm : m.path = .ofString path) :
    ∃ front, m.Fronted front := by
  have hsize := MountTable.size_le_of_wellFormed h
  rw [MountTable.wellFormed, Bool.and_eq_true] at h
  obtain ⟨front, rfl⟩ := Text.endsWith_iff.mp h.2
  refine ⟨front, ?_, ?_, ?_⟩
  · rw [hm, FixedText.text_ofString hsize]
  · rw [hm, FixedText.length_ofString hsize, Text.size_append]
    rfl
  · rw [hm, FixedText.text_ofString hsize, (FixedText.holds_ofString hsize).decode]

namespace Fronted

variable (h : m.Fronted front)

include h

/-- A mount point covers the paths that go on after its separator. -/
theorem covers_iff : m.covers path = true ↔ ∃ rest, path = front ++ ("/" ++ rest) := by
  rw [covers, h.text, Text.startsWith_iff]
  simp only [String.append_assoc]

/-- **What is stripped** is the front without its separator. -/
theorem strip_append (rest : String) : m.strip (front ++ ("/" ++ rest)) = "/" ++ rest := by
  rw [strip, h.length, Nat.add_sub_cancel, Text.dropBytes_append]

/-- Two mount points of one length that cover one path have one path. -/
theorem text_eq {m' : Mount} {front' : String} (h' : m'.Fronted front')
    (hc : m.covers path = true) (hc' : m'.covers path = true)
    (hlen : m.path.length = m'.path.length) : m.path.text = m'.path.text := by
  obtain ⟨rest, hp⟩ := h.covers_iff.mp hc
  obtain ⟨rest', hp'⟩ := h'.covers_iff.mp hc'
  rw [h.length, h'.length, Nat.add_right_cancel_iff] at hlen
  rw [hp'] at hp
  have hbytes := congrArg Text.bytes hp
  rw [Text.bytes_append, Text.bytes_append] at hbytes
  obtain ⟨hfront, -⟩ := List.append_inj hbytes hlen.symm
  rw [h.text, h'.text, Text.bytes_inj hfront]

/-- Below a mount point, the cut is in bounds, on a character boundary, and leaves a text. -/
theorem cut_of_covers (hc : m.covers path = true) :
    m.path.length - 1 ≤ Text.size path ∧
      Text.isBoundary (Text.bytes path) (m.path.length - 1) = true ∧
      Text.decode ((Text.bytes path).drop (m.path.length - 1)) = some (m.strip path) := by
  obtain ⟨rest, rfl⟩ := h.covers_iff.mp hc
  rw [h.strip_append, h.length, Nat.add_sub_cancel]
  refine ⟨?_, Text.isBoundary_iff.mpr ⟨front, _, rfl, rfl⟩, Text.decode_drop_append front _⟩
  rw [Text.size_append]
  exact Nat.le_add_right _ _

end Fronted

end Mount

/-! ## The longest match -/

namespace MountTable

variable {t : MountTable} {m m' : Mount} {path : String} {acts : List MountAct}

theorem owner?_eq_none_iff : t.owner? path = none ↔ ∀ m ∈ t.mounts, m.covers path = false := by
  rw [owner?, ← Option.not_isSome_iff_eq_none, List.isSome_maxOn?_iff, Decidable.not_not,
    List.filter_eq_nil_iff]
  simp only [Bool.not_eq_true]

/-- The owner of a path covers it, and nothing that covers it is longer. -/
theorem of_owner? (h : t.owner? path = some m) : m ∈ t.mounts ∧ m.covers path = true ∧
    ∀ m' ∈ t.mounts, m'.covers path = true → m'.path.length ≤ m.path.length := by
  rw [owner?] at h
  obtain ⟨hmem, hc⟩ := List.mem_filter.mp (List.maxOn?_mem h)
  refine ⟨hmem, hc, fun m' hm' hc' => ?_⟩
  have hmem' : m' ∈ t.mounts.filter (·.covers path) := List.mem_filter.mpr ⟨hm', hc'⟩
  have hle := List.le_apply_get_maxOn?_of_mem (f := (·.path.length)) hmem'
  rwa [Option.get_of_eq_some _ h] at hle

/-- **A path leads** to its owner, or as it is to the root. -/
theorem identify?_eq_some_iff {secondary : Option String} {r : Resolved} :
    t.identify? path secondary = some r ↔
      (∃ m, t.owner? path = some m ∧
        r = ⟨m.fileSystem, m.strip path, secondary.map m.stripSecondary⟩) ∨
      t.owner? path = none ∧ ∃ s, t.root = some s ∧ r = ⟨s, path, secondary⟩ := by
  rw [identify?]
  rcases t.owner? path with _ | m
  · simp only [Option.map_eq_some_iff, reduceCtorEq, false_and, exists_false, true_and, false_or,
      eq_comm (b := r)]
  · simp [eq_comm]

namespace Recorded

variable (h : t.Recorded acts)

include h

/-- A mount point is given by its text, which is a well-formed mount path. -/
theorem wellFormed_text (hm : m ∈ t.mounts) :
    wellFormed m.path.text = true ∧ m.path = .ofString m.path.text := by
  obtain ⟨i, hi⟩ := mem_mounts_iff.mp hm
  obtain ⟨path, -, -, -, hwf, hpath⟩ := h.mounted i m hi
  rw [hpath, FixedText.text_ofString (size_le_of_wellFormed hwf)]
  exact ⟨hwf, rfl⟩

theorem exists_fronted (hm : m ∈ t.mounts) : ∃ front, m.Fronted front := by
  obtain ⟨hwf, hpath⟩ := h.wellFormed_text hm
  exact Mount.exists_fronted hwf hpath

/-- **Mount points that cover one path differ in length.** -/
theorem eq_of_covers (hm : m ∈ t.mounts) (hm' : m' ∈ t.mounts) (hc : m.covers path = true)
    (hc' : m'.covers path = true) (hlen : m.path.length = m'.path.length) : m = m' := by
  obtain ⟨front, hf⟩ := h.exists_fronted hm
  obtain ⟨front', hf'⟩ := h.exists_fronted hm'
  obtain ⟨i, hi⟩ := mem_mounts_iff.mp hm
  obtain ⟨j, hj⟩ := mem_mounts_iff.mp hm'
  rw [h.distinct i j m m' hi hj (hf.text_eq hf' hc hc' hlen), hj] at hi
  exact (Option.some.inj hi).symm

end Recorded

variable {ε : Type} [Embedder ε]

/-- **The longest match.**  After every history of a mount table, and for every path: if some mount
path is in front of it, then the path goes to the file system of the longest such, which is one of a
kind, and what is left begins with a separator and is exactly what is behind the front; if there is
none, the root gets the path as it is; and it leads nowhere only if there is none and no root was
ever set.  Every cut is in bounds and on a character boundary, and every mount path is read back as
the text that was mounted. -/
theorem identify?_history (n : Nat) (w : World ε) (acts : List MountAct) :
    let t := (history n w acts).1
    (∀ path secondary m₀, m₀ ∈ t.mounts → m₀.covers path = true →
      ∃ m r front, m ∈ t.mounts ∧ m.covers path = true ∧
        (∀ m' ∈ t.mounts, m'.covers path = true → m' ≠ m → m'.path.length < m.path.length) ∧
        t.identify? path secondary = some r ∧ r.fileSystem = m.fileSystem ∧
        m.path.text = front ++ "/" ∧ path = front ++ r.path ∧
        Text.startsWith r.path "/" = true) ∧
    (∀ path secondary, (∀ m ∈ t.mounts, m.covers path = false) →
      t.identify? path secondary = t.root.map fun s => ⟨s, path, secondary⟩) ∧
    (∀ path secondary, t.identify? path secondary = none ↔
      (∀ m ∈ t.mounts, m.covers path = false) ∧ ∀ act ∈ acts, act.isSetRoot = false) ∧
    (∀ m ∈ t.mounts, 1 ≤ m.path.length ∧ ∀ path, m.covers path = true →
      m.path.length - 1 ≤ Text.size path ∧
      Text.isBoundary (Text.bytes path) (m.path.length - 1) = true ∧
      Text.decode ((Text.bytes path).drop (m.path.length - 1)) = some (m.strip path)) ∧
    ∀ m ∈ t.mounts, Text.decode (m.path.bytes.take m.path.length) = some m.path.text ∧
      ∃ disk flags, .mount m.fileSystem m.path.text disk flags ∈ acts := by
  intro t
  have h : t.Recorded acts := recorded_history n w acts
  refine ⟨?_, ?_, ?_, ?_, ?_⟩
  · intro path secondary m₀ hm₀ hc₀
    rcases ho : t.owner? path with _ | m
    · rw [owner?_eq_none_iff.mp ho m₀ hm₀] at hc₀
      cases hc₀
    · obtain ⟨hm, hc, hmax⟩ := of_owner? ho
      obtain ⟨front, hf⟩ := h.exists_fronted hm
      obtain ⟨rest, rfl⟩ := hf.covers_iff.mp hc
      refine ⟨m, _, front, hm, hc, fun m' hm' hc' hne => ?_, by rw [identify?, ho], rfl, hf.text, ?_,
        ?_⟩
      · exact Nat.lt_of_le_of_ne (hmax m' hm' hc') fun e => hne (h.eq_of_covers hm' hm hc' hc e)
      · rw [hf.strip_append]
      · rw [hf.strip_append, Text.startsWith_iff]
        exact ⟨rest, rfl⟩
  · intro path secondary hnone
    rw [identify?, owner?_eq_none_iff.mpr hnone]
  · intro path secondary
    rw [← owner?_eq_none_iff, ← h.root, identify?]
    rcases t.owner? path with _ | m
    · simp
    · simp
  · intro m hm
    obtain ⟨front, hf⟩ := h.exists_fronted hm
    rw [hf.length]
    refine ⟨Nat.le_add_left 1 _, fun path hc => ?_⟩
    rw [← hf.length]
    exact hf.cut_of_covers hc
  · intro m hm
    obtain ⟨front, hf⟩ := h.exists_fronted hm
    obtain ⟨i, hi⟩ := mem_mounts_iff.mp hm
    obtain ⟨path, disk, flags, hmem, hwf, hpath⟩ := h.mounted i m hi
    refine ⟨hf.decode, disk, flags, ?_⟩
    rw [hpath, FixedText.text_ofString (size_le_of_wellFormed hwf)]
    exact hmem

/-- The inner of two nested mount points wins. -/
example :
    let w : World Script := { embedder := {} }
    let t := (history 2 w [.mount ⟨0⟩ "/a/" none ⟨0⟩, .mount ⟨1⟩ "/a/b/" none ⟨0⟩]).1
    t.identify? "/a/b/c" none = some ⟨⟨1⟩, "/c", none⟩ := by decide +kernel

end MountTable

end PosixVfs
