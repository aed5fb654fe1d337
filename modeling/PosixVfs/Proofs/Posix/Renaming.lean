import PosixVfs.Proofs.Namespace.Locality
import PosixVfs.Proofs.Posix.Ownership
import PosixVfs.Proofs.Posix.Reach

/-!
# Proofs/Posix/Renaming — how a file system sees the target of a renaming

A path that comes along is stripped if it begins with the path of the mount point that owns the
first one (`Mount.stripSecondary`).  It does so if that mount point owns it too, and then it is
seen as it would be by itself; and it does so if it is owned by a mount point below that one
(`Mount.Below`), and then it is cut in the same place, although it belongs elsewhere.  In all other
cases it is seen as it is (`MountTable.Accompanies`).  This is how the mount table gives it after
every history, and how it is told to the file system that is to rename
(`MountTable.secondary_history`).
-/

namespace PosixVfs

/-- A mount point somewhere below another one. -/
structure Mount.Below (inner outer : Mount) : Prop where
  ne : inner ≠ outer
  startsWith : Text.startsWith inner.path.text outer.path.text = true

namespace MountTable

variable {t : MountTable} {acts : List MountAct} {m m' : Mount} {path s seen : String}
  {r : Resolved}

/-! ## A path that comes along -/

/-- **How a path is seen that comes along with another**: as it would be by itself, if both have
the same owner; as it is, if they have not; and if its owner is below the other's, cut where the
other is cut. -/
structure Accompanies (t : MountTable) (path s seen : String) : Prop where
  together : t.owner? s = t.owner? path →
    ∃ alone, t.identify? s none = some alone ∧ alone.path = seen
  apart : t.owner? s ≠ t.owner? path →
    (∀ outer inner, t.owner? path = some outer → t.owner? s = some inner → ¬ inner.Below outer) →
      seen = s
  below : ∀ outer inner, t.owner? path = some outer → t.owner? s = some inner →
    inner.Below outer → ∃ front, outer.path.text = front ++ "/" ∧ s = front ++ seen

/-- A mount point covers what a mount point below it owns. -/
theorem covers_of_below (ho : t.owner? s = some m') (hbelow : m'.Below m) : m.covers s = true :=
  Text.startsWith_trans (of_owner? ho).2.1 hbelow.startsWith

namespace Recorded

variable (h : t.Recorded acts)

include h

/-- A mount point that covers a path it does not own has the owner below it. -/
theorem exists_below_of_covers (hm : m ∈ t.mounts) (hc : m.covers s = true)
    (hne : t.owner? s ≠ some m) : ∃ inner, t.owner? s = some inner ∧ inner.Below m := by
  rcases ho : t.owner? s with _ | inner
  · rw [owner?_eq_none_iff.mp ho m hm] at hc
    cases hc
  · obtain ⟨hinner, hcinner, hmax⟩ := of_owner? ho
    have hsize : Text.size m.path.text ≤ Text.size inner.path.text := by
      rw [← h.length_eq_size hm, ← h.length_eq_size hinner]
      exact hmax m hm hc
    refine ⟨inner, rfl, ?_, Text.startsWith_of_size_le hc hcinner hsize⟩
    rintro rfl
    exact hne ho

/-- **What the mount table gives** for a path that comes along. -/
theorem accompanies_identify? (hr : t.identify? path (some s) = some r) :
    ∃ seen, r.secondary = some seen ∧ t.Accompanies path s seen := by
  obtain ⟨m, ho, rfl⟩ | ⟨ho, root, hroot, rfl⟩ := identify?_eq_some_iff.mp hr
  · obtain ⟨hm, -, -⟩ := of_owner? ho
    refine ⟨m.stripSecondary s, rfl, fun hs => ?_, fun hs hnot => ?_,
      fun outer inner hout hin hb => ?_⟩
    · rw [ho] at hs
      rw [Mount.stripSecondary, if_pos (of_owner? hs).2.1]
      exact ⟨_, identify?_eq_some_iff.mpr (.inl ⟨m, hs, rfl⟩), rfl⟩
    · rw [ho] at hs
      rw [Mount.stripSecondary, if_neg]
      intro hc
      obtain ⟨inner, hin, hb⟩ := h.exists_below_of_covers hm hc hs
      exact hnot m inner ho hin hb
    · obtain rfl : m = outer := Option.some.inj (ho.symm.trans hout)
      have hc : m.covers s = true := covers_of_below hin hb
      obtain ⟨front, hf⟩ := h.exists_fronted hm
      rw [Mount.stripSecondary, if_pos hc]
      obtain ⟨rest, rfl⟩ := hf.covers_iff.mp hc
      rw [hf.strip_append]
      exact ⟨front, hf.text, rfl⟩
  · refine ⟨s, rfl, fun hs => ?_, fun _ _ => rfl, fun outer _ houter => ?_⟩
    · exact ⟨_, identify?_eq_some_iff.mpr (.inr ⟨hs.trans ho, root, hroot, rfl⟩), rfl⟩
    · rw [ho] at houter
      cases houter

end Recorded

/-- A path of another file system that comes along is seen as it is, unless its owner is below the
other's. -/
theorem Accompanies.eq_of_ne {r' : Resolved} (h : t.Accompanies path s seen)
    (hr : t.identify? path none = some r) (hr' : t.identify? s none = some r')
    (hne : r'.fileSystem ≠ r.fileSystem)
    (hnot : ∀ outer inner, t.owner? path = some outer → t.owner? s = some inner →
      ¬ inner.Below outer) : seen = s := by
  refine h.apart (fun ho => hne ?_) hnot
  obtain ⟨m, hm, rfl⟩ | ⟨hnone, root, hroot, rfl⟩ := identify?_eq_some_iff.mp hr
  · obtain ⟨m', hm', rfl⟩ | ⟨hnone, -⟩ := identify?_eq_some_iff.mp hr'
    · obtain rfl : m' = m := Option.some.inj (hm'.symm.trans (ho.trans hm))
      rfl
    · rw [ho, hm] at hnone
      cases hnone
  · obtain ⟨m', hm', -⟩ | ⟨-, root', hroot', rfl⟩ := identify?_eq_some_iff.mp hr'
    · rw [ho, hnone] at hm'
      cases hm'
    · exact Option.some.inj (hroot'.symm.trans hroot)

end MountTable

/-! ## Renaming -/

namespace Posix

variable {ε : Type} [Embedder ε] {p : Posix ε} {path target : String} {r : Resolved}

/-- **Renaming** is one question to the owner of the path, which sees the target as the mount table
gives it. -/
theorem Reachable.asks_rename (h : p.Reachable) (hpath : path ≠ "") (htarget : target ≠ "")
    (hr : p.mounts.identify? path none = some r) : ∃ seen answer,
    (p.rename path target).2.world.trace =
        p.world.trace ++ [⟨.rename r.fileSystem r.path seen, answer⟩] ∧
      (p.rename path target).1 = answer ∧ p.mounts.Accompanies path target seen := by
  obtain ⟨acts, hm⟩ := h.recorded
  obtain ⟨events, htrace, hserved⟩ := served_of_owned hpath (.rename target htarget) hr
  generalize hanswer : ((Call.rename path target).run p).1 = answer at hserved
  cases hserved with
  | rename path target target' ht =>
      obtain ⟨seen, hseen, haccompanies⟩ := hm.accompanies_identify? ht
      obtain rfl := Option.some.inj hseen
      exact ⟨target', answer, htrace, hanswer, haccompanies⟩

end Posix

namespace MountTable

/-- **What becomes of the second path.**  After every history of a mount table, and for any two
paths: if the same mount point owns both, or the root does, the second one is given as it is by
itself; otherwise it is given as it is, unless it is owned by a mount point below the first one's.
In that case it is cut where the first one is cut, although it belongs elsewhere.  Renaming puts the
second path to the owner of the first in just this way, so it is given as it is if it lives on
another file system, with the same exception. -/
theorem secondary_history {ε : Type} [Embedder ε] (n : Nat) (w : World ε) (acts : List MountAct) :
    let t := (history n w acts).1
    (∀ path s r, t.identify? path (some s) = some r →
      ∃ seen, r.secondary = some seen ∧ t.Accompanies path s seen) ∧
    ∀ p : Posix ε, p.Reachable → ∀ path target, path ≠ "" → target ≠ "" →
      ∀ r, p.mounts.identify? path none = some r → ∃ seen answer,
        (p.rename path target).2.world.trace =
            p.world.trace ++ [⟨.rename r.fileSystem r.path seen, answer⟩] ∧
          (p.rename path target).1 = answer ∧ p.mounts.Accompanies path target seen ∧
          ∀ r', p.mounts.identify? target none = some r' → r'.fileSystem ≠ r.fileSystem →
            (∀ outer inner, p.mounts.owner? path = some outer →
              p.mounts.owner? target = some inner → ¬ inner.Below outer) → seen = target := by
  intro t
  have h : t.Recorded acts := recorded_history n w acts
  refine ⟨fun path s r hr => h.accompanies_identify? hr, ?_⟩
  intro p hp path target hpath htarget r hr
  obtain ⟨seen, answer, htrace, hanswer, haccompanies⟩ := hp.asks_rename hpath htarget hr
  exact ⟨seen, answer, htrace, hanswer, haccompanies,
    fun r' hr' hne hnot => haccompanies.eq_of_ne hr hr' hne hnot⟩

/-- **A target below a nested mount point** loses the front that belongs to the outer one, whose
file system takes what is left for a path of its own. -/
theorem secondary_cut_of_nested :
    let w : World Script := { embedder := {} }
    let t := (history 2 w [.mount ⟨0⟩ "/a/" none ⟨0⟩, .mount ⟨1⟩ "/a/b/" none ⟨0⟩]).1
    let p := (((Posix.build {} w).mount ⟨0⟩ "/a/" none ⟨0⟩).2.mount ⟨1⟩ "/a/b/" none ⟨0⟩).2
    t.identify? "/a/b/y" none = some ⟨⟨1⟩, "/y", none⟩ ∧
      t.identify? "/a/x" (some "/a/b/y") = some ⟨⟨0⟩, "/x", some "/b/y"⟩ ∧
      p.mounts.slots.take 2 = t.slots ∧
      ((p.rename "/a/x" "/a/b/y").2.world.trace.drop p.world.trace.length).map (·.hook) =
        [.rename ⟨0⟩ "/x" "/b/y"] := by
  decide +kernel

end MountTable

end PosixVfs
