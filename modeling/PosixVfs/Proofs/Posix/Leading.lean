import Mathlib.Data.List.Forall2
import PosixVfs.Proofs.Namespace.Resolution
import PosixVfs.Proofs.Posix.Ownership
import PosixVfs.Proofs.Posix.Reach

/-!
# Proofs/Posix/Leading — which paths an object sees with a leading separator

What is stripped off a path goes up to the separator at the end of a mount path, which stays.  And
mount paths begin with a separator, so what they strip had one from the start.  All other paths are
seen as they are.  So stripping neither takes a leading separator away nor puts one there
(`SeenAs`): the paths that an object sees have one if the paths that the call names have one
(`Posix.Reachable.leading_kept`), and otherwise not (`Posix.leading_missing`).
-/

namespace PosixVfs

variable {ε : Type}

/-! ## Paths before and after stripping -/

/-- A path is seen as what is behind some front of it, with a leading separator exactly if it has
one itself; and if it has none, then the front is empty. -/
structure SeenAs (path seen : String) : Prop where
  behind : ∃ front, path = front ++ seen
  leading : Text.startsWith seen "/" = Text.startsWith path "/"
  whole : Text.startsWith path "/" = false → seen = path

/-- A path may be seen as it is. -/
theorem SeenAs.refl (path : String) : SeenAs path path := ⟨⟨"", rfl⟩, rfl, fun _ => rfl⟩

/-- Paths with a leading separator are seen with one. -/
theorem SeenAs.startsWith {named seen : List String} (h : List.Forall₂ SeenAs named seen)
    (hnamed : ∀ path ∈ named, Text.startsWith path "/" = true) :
    ∀ path ∈ seen, Text.startsWith path "/" = true := by
  induction h with
  | nil => exact hnamed
  | cons hseen _ ih =>
      rw [List.forall_mem_cons] at hnamed ⊢
      exact ⟨hseen.leading.trans hnamed.1, ih hnamed.2⟩

namespace MountTable.Recorded

variable {t : MountTable} {acts : List MountAct} {m : Mount} {path : String}
  {secondary : Option String} {r : Resolved} (h : t.Recorded acts)

include h

/-- Mount paths have a leading separator. -/
theorem startsWith_slash (hm : m ∈ t.mounts) : Text.startsWith m.path.text "/" = true := by
  have hwf := (h.wellFormed_text hm).1
  rw [wellFormed, Bool.and_eq_true, Bool.and_eq_true] at hwf
  exact hwf.1.2

theorem seenAs_strip (hm : m ∈ t.mounts) (hc : m.covers path = true) :
    SeenAs path (m.strip path) := by
  have hpath : Text.startsWith path "/" = true := Text.startsWith_trans hc (h.startsWith_slash hm)
  obtain ⟨front, hf⟩ := h.exists_fronted hm
  obtain ⟨rest, rfl⟩ := hf.covers_iff.mp hc
  have hseen : Text.startsWith ("/" ++ rest) "/" = true := Text.startsWith_iff.mpr ⟨rest, rfl⟩
  rw [hf.strip_append]
  exact ⟨⟨front, rfl⟩, hseen.trans hpath.symm, fun hnot => absurd hpath (Bool.eq_false_iff.mp hnot)⟩

theorem seenAs_stripSecondary (hm : m ∈ t.mounts) : SeenAs path (m.stripSecondary path) := by
  rw [Mount.stripSecondary]
  split
  case isTrue hc => exact h.seenAs_strip hm hc
  case isFalse => exact .refl path

/-- **What the mount table gives** for a path, and for one that comes along. -/
theorem seenAs_identify? (hr : t.identify? path secondary = some r) :
    SeenAs path r.path ∧ ∀ target seen, secondary = some target → r.secondary = some seen →
      SeenAs target seen := by
  obtain ⟨m, ho, rfl⟩ | ⟨-, s, -, rfl⟩ := identify?_eq_some_iff.mp hr
  · obtain ⟨hm, hc, -⟩ := of_owner? ho
    refine ⟨h.seenAs_strip hm hc, ?_⟩
    rintro target seen rfl hseen
    obtain rfl := Option.some.inj hseen
    exact h.seenAs_stripSecondary hm
  · refine ⟨.refl path, ?_⟩
    rintro target seen rfl hseen
    obtain rfl := Option.some.inj hseen
    exact .refl target

end MountTable.Recorded

/-! ## The paths that a call names, and those that an object is told -/

/-- The paths that the object is told, if it is told any. -/
def Hook.paths : Hook → List String
  | opening _ seen _ _ | openDirectory _ seen | path _ seen _ => [seen]
  | rename _ seen target => [seen, target]
  | _ => []

namespace Call

/-- The paths that the call names to have something done to them. -/
def paths : Call → List String
  | openPath path _ _ | openDirectory path | onPath path _ => [path]
  | rename path target => [path, target]
  | _ => []

/-- Every object that is told paths at all is told those that the call names, one for one, as they
are to be seen. -/
def Tells (c : Call) (events : List Event) : Prop :=
  ∀ event ∈ events, event.hook.paths = [] ∨ List.Forall₂ SeenAs c.paths event.hook.paths

variable {c : Call} {p : Posix ε} {r : Resolved} {events : List Event}

theorem tells_nil (c : Call) : c.Tells [] := fun _ hmem => absurd hmem List.not_mem_nil

theorem tells_singleton {event : Event} (h : List.Forall₂ SeenAs c.paths event.hook.paths) :
    c.Tells [event] := by
  intro event' hmem
  obtain rfl := List.mem_singleton.mp hmem
  exact .inr h

/-- An object that is opened is told the path once. -/
theorem tells_of_opening {o : IoId} {path seen : String} {flags flags' : OpenFlags}
    {mode mode' : Mode} {result : Except Errno Fd}
    (h : Opening o seen flags' mode' events result) (hseen : SeenAs path seen) :
    (openPath path flags mode).Tells events := by
  have htold : List.Forall₂ SeenAs [path] [seen] := .cons hseen .nil
  cases h with
  | refused | bound => exact tells_singleton htold
  | rolledBack e answer he =>
      intro event hmem
      obtain rfl | hmem := List.mem_cons.mp hmem
      · exact .inr htold
      · obtain rfl := List.mem_singleton.mp hmem
        exact .inl rfl

/-- **The owner of a path** is told what the mount table gives. -/
theorem Served.tells {path : String} {acts : List MountAct} {result : Except Errno c.Value}
    (h : Served p r c events result) (hm : p.mounts.Recorded acts) (hpath : c.path? = some path)
    (hr : p.mounts.identify? path none = some r) : c.Tells events := by
  have hseen : SeenAs path r.path := (hm.seenAs_identify? hr).1
  cases h with
  | noFile | noDirectory => exact tells_nil _
  | openFile path' flags mode i slot hpool hoffer events result hopening =>
      obtain rfl := Option.some.inj hpath
      exact tells_of_opening hopening hseen
  | openDirectory | onPath =>
      obtain rfl := Option.some.inj hpath
      exact tells_singleton (.cons hseen .nil)
  | rename path' target target' ht =>
      obtain rfl := Option.some.inj hpath
      have htarget : SeenAs target target' := (hm.seenAs_identify? ht).2 target target' rfl rfl
      exact tells_singleton (.cons hseen (.cons htarget .nil))

/-- Who is told paths with a leading separator sees them with one. -/
theorem Tells.startsWith (h : c.Tells events)
    (hc : ∀ named ∈ c.paths, Text.startsWith named "/" = true) :
    ∀ event ∈ events, ∀ seen ∈ event.hook.paths, Text.startsWith seen "/" = true := by
  intro event hevent
  obtain hnone | htold := h event hevent
  · rw [hnone]
    exact fun _ hseen => absurd hseen List.not_mem_nil
  · exact SeenAs.startsWith htold hc

end Call

namespace Posix

variable [Embedder ε] {p : Posix ε}

/-- A call that ends before anyone is asked tells nobody anything. -/
theorem EndsBy.exists_tells {c : Call} {result : Except Errno c.Value}
    (h : p.EndsBy [] result (c.run p)) : ∃ events,
    (c.run p).2.world.trace = p.world.trace ++ events ∧ c.Tells events :=
  ⟨[], h.2.world.trace, c.tells_nil⟩

/-- An empty target names nothing. -/
theorem endsBy_rename_empty (p : Posix ε) (path : String) :
    p.EndsBy [] (.error .noSuchEntity) ((Call.rename path "").run p) := by
  have hresolve : p.resolve path (some "") = .error .noSuchEntity :=
    if_pos (Bool.or_eq_true_iff.mpr (.inr rfl))
  rw [Call.run, rename, hresolve]
  exact p.endsBy_refused _

/-- A call that a path has to do with tells what the mount table gives for it. -/
theorem exists_tells_of_concerns {c : Call} {path : String} {acts : List MountAct}
    (hm : p.mounts.Recorded acts) (hc : c.path? = some path) (hpath : path ≠ "")
    (hconcerns : c.Concerns p path) : ∃ events,
    (c.run p).2.world.trace = p.world.trace ++ events ∧ c.Tells events := by
  rcases hr : p.mounts.identify? path none with _ | r
  · exact (endsBy_of_unowned hpath hconcerns hr).exists_tells
  · obtain ⟨events, htrace, hserved⟩ := served_of_owned hpath hconcerns hr
    exact ⟨events, htrace, hserved.tells hm hc hr⟩

/-- **Every call that names a path** tells it as it is to be seen. -/
theorem exists_tells {c : Call} {path : String} {acts : List MountAct}
    (hm : p.mounts.Recorded acts) (hc : c.path? = some path) : ∃ events,
    (c.run p).2.world.trace = p.world.trace ++ events ∧ c.Tells events := by
  by_cases hpath : path = ""
  · exact (endsBy_of_empty (hpath ▸ hc)).exists_tells
  cases c with
  | openPath path' flags mode =>
      obtain rfl := Option.some.inj hc
      by_cases hignores : p.registry.Ignores p.world.catalog path'
      · exact exists_tells_of_concerns hm hc hpath (.openPath flags mode hignores)
      · -- A device sees the whole path.
        obtain ⟨d, hd⟩ := Registry.exists_leads hignores
        obtain ⟨events, htrace, hopening⟩ := opening_of_leads hd flags mode
        exact ⟨events, htrace, Call.tells_of_opening hopening (.refl path')⟩
  | openDirectory path' =>
      obtain rfl := Option.some.inj hc
      exact exists_tells_of_concerns hm hc hpath .openDirectory
  | onPath path' op =>
      obtain rfl := Option.some.inj hc
      exact exists_tells_of_concerns hm hc hpath (.onPath op)
  | rename path' target =>
      obtain rfl := Option.some.inj hc
      by_cases htarget : target = ""
      · rw [htarget]
        exact (p.endsBy_rename_empty path').exists_tells
      · exact exists_tells_of_concerns hm hc hpath (.rename target htarget)
  | _ => cases hc

/-- **A leading separator is kept, and none is made up.**  In every context that can be reached, and
for every call that names paths: whoever is asked is told no path, or as many as the call names,
each of them what is behind some front of the path that was named, with a leading separator exactly
if that has one, and as it was named if not.  So if all paths that the call names have a leading
separator, then so have all that anyone is told. -/
theorem Reachable.leading_kept (h : p.Reachable) (c : Call) (path : String)
    (hc : c.path? = some path) : ∃ events,
    (c.run p).2.world.trace = p.world.trace ++ events ∧
      (∀ event ∈ events, event.hook.paths = [] ∨
        List.Forall₂ SeenAs c.paths event.hook.paths) ∧
      ((∀ named ∈ c.paths, Text.startsWith named "/" = true) →
        ∀ event ∈ events, ∀ seen ∈ event.hook.paths, Text.startsWith seen "/" = true) := by
  obtain ⟨acts, hm⟩ := h.recorded
  obtain ⟨events, htrace, htells⟩ := exists_tells hm hc
  exact ⟨events, htrace, htells, htells.startsWith⟩

/-- A file that is renamed out of its mount point. -/
theorem leading_kept_of_rename :
    let p := ((build {} .usual).mount ⟨0⟩ "/a/" none ⟨0⟩).2
    ∃ events, (p.rename "/a/x" "/b/y").2.world.trace = p.world.trace ++ events ∧
      ∀ event ∈ events, ∀ seen ∈ event.hook.paths, Text.startsWith seen "/" = true := by
  intro p
  have hp : p.Reachable := (Reachable.built {} .usual).called (.mount ⟨0⟩ "/a/" none ⟨0⟩)
  obtain ⟨events, htrace, -, hleading⟩ := hp.leading_kept (.rename "/a/x" "/b/y") "/a/x" rfl
  exact ⟨events, htrace, hleading (by decide)⟩

/-- **Paths without a leading separator** are let through: the root is told them as they are named,
and so is every other file system, as the target of a renaming. -/
theorem leading_missing :
    let p := (((build {} .usual).setRoot ⟨0⟩ none ⟨0⟩).2.mount ⟨0⟩ "/a/" none ⟨0⟩).2
    let told (c : Call) := ((c.run p).2.world.trace.drop p.world.trace.length).map (·.hook)
    p.Reachable ∧ Text.startsWith "x" "/" = false ∧
      told (.openPath "x" ⟨0⟩ 0) = [.opening (.file ⟨0, 0⟩) "x" ⟨0⟩ 0] ∧
      told (.openDirectory "x") = [.openDirectory ⟨0, 0⟩ "x"] ∧
      told (.onPath "x" .stat) = [.path ⟨0⟩ "x" .stat] ∧
      told (.rename "/a/y" "x") = [.rename ⟨0⟩ "/y" "x"] :=
  ⟨((Reachable.built {} .usual).called (.setRoot ⟨0⟩ none ⟨0⟩)).called (.mount ⟨0⟩ "/a/" none ⟨0⟩),
    by decide +kernel⟩

end Posix

end PosixVfs
