import PosixVfs.Proofs.Descriptor.Agreement
import PosixVfs.Proofs.Posix.Acquisition
import PosixVfs.Proofs.Posix.Asking
import PosixVfs.Proofs.Text.Cutting

/-!
# Proofs/Posix/Ownership — all path calls agree on who owns a path

An empty path names nothing.  A path that leads to a registered device is opened there, and seen
whole.  In all other cases, and by all other calls, it is the owner in the mount table that is
asked, about the path that the mount table gives; or nobody is, if there is no owner
(`Posix.path_owned`).
-/

namespace PosixVfs

variable {ε : Type}

/-! ## Where a path leads -/

namespace Registry

variable {r : Registry} {c : Catalog} {path : String} {d : DeviceId}

/-- The path is in the device directory, and `d` is the first registered device that accepts the
rest of it. -/
def Leads (r : Registry) (c : Catalog) (path : String) (d : DeviceId) : Prop :=
  ∃ name before after, path = deviceDirectory ++ name ∧ r.devices = before ++ d :: after ∧
    (c.device d).accepts name = true ∧ ∀ other ∈ before, (c.device other).accepts name = false

/-- No registered device accepts the path. -/
def Ignores (r : Registry) (c : Catalog) (path : String) : Prop :=
  ∀ name, path = deviceDirectory ++ name → ∀ d ∈ r.devices, (c.device d).accepts name = false

theorem identify?_eq_some_iff : r.identify? c path = some d ↔ r.Leads c path d := by
  simp only [identify?, Option.bind_eq_some_iff, Text.after?_eq_some_iff,
    List.find?_eq_some_iff_append, Bool.not_eq_true']
  constructor
  · rintro ⟨name, hpath, haccepts, before, after, hdevices, hbefore⟩
    exact ⟨name, before, after, hpath, hdevices, haccepts, hbefore⟩
  · rintro ⟨name, before, after, hpath, hdevices, haccepts, hbefore⟩
    exact ⟨name, hpath, haccepts, before, after, hdevices, hbefore⟩

theorem identify?_eq_none_iff : r.identify? c path = none ↔ r.Ignores c path := by
  simp only [identify?, Option.bind_eq_none_iff, Text.after?_eq_some_iff, List.find?_eq_none,
    Bool.not_eq_true, Ignores]

/-- A path that some device accepts leads to one. -/
theorem exists_leads (h : ¬ r.Ignores c path) : ∃ d, r.Leads c path d := by
  rw [← identify?_eq_none_iff] at h
  obtain ⟨d, hd⟩ := Option.ne_none_iff_exists'.mp h
  exact ⟨d, identify?_eq_some_iff.mp hd⟩

end Registry

/-- A second path makes no difference to where the first one leads. -/
theorem MountTable.exists_identify?_secondary (t : MountTable) (path target : String) : ∃ target',
    t.identify? path (some target) =
      (t.identify? path none).map fun r => { r with secondary := some target' } := by
  rw [identify?, identify?]
  rcases t.owner? path with _ | m
  · exact ⟨target, by rw [Option.map_map]; rfl⟩
  · exact ⟨m.stripSecondary target, rfl⟩

namespace Posix

variable {p : Posix ε} {path : String} {secondary : Option String}

theorem resolve_of_ne_empty (h : path ≠ "") (hs : secondary ≠ some "") :
    p.resolve path secondary =
      (p.mounts.identify? path secondary).elim (.error .badFileDescriptor) .ok := by
  have hpath : path.isEmpty = false := Bool.eq_false_iff.mpr fun e => h (String.isEmpty_iff.mp e)
  have hsecondary : secondary.any String.isEmpty = false := by
    rw [Option.any_eq_false]
    rintro target rfl
    exact Bool.eq_false_iff.mpr fun e => hs (congrArg some (String.isEmpty_iff.mp e))
  rw [resolve, hpath, hsecondary]
  cases p.mounts.identify? path secondary <;> rfl

theorem resolve_single (h : path ≠ "") : p.resolve path =
    (p.mounts.identify? path none).elim (.error .badFileDescriptor) .ok :=
  resolve_of_ne_empty h nofun

theorem resolve_pair {target : String} (h : path ≠ "") (ht : target ≠ "") :
    p.resolve path (some target) =
      (p.mounts.identify? path (some target)).elim (.error .badFileDescriptor) .ok :=
  resolve_of_ne_empty h fun e => ht (Option.some.inj e)

end Posix

/-! ## What opening asks -/

/-- Opening an object: it refuses; it agrees and is bound to a descriptor; or it agrees, cannot be
bound and is closed. -/
inductive Opening (o : IoId) (path : String) (flags : OpenFlags) (mode : Mode) :
    List Event → Except Errno Fd → Prop
  | refused (e : Errno) :
      Opening o path flags mode [⟨.opening o path flags mode, .error e⟩] (.error e)
  | bound (fd : Fd) : Opening o path flags mode [⟨.opening o path flags mode, .ok ()⟩] (.ok fd)
  | rolledBack (e : Errno) (answer : Except Errno Unit) (he : e = .busy ∨ e = .tooManyOpenFiles) :
      Opening o path flags mode [⟨.opening o path flags mode, .ok ()⟩, ⟨.closing o, answer⟩]
        (.error e)

theorem Opening.subject {o : IoId} {path : String} {flags : OpenFlags} {mode : Mode}
    {events : List Event} {result : Except Errno Fd} (h : Opening o path flags mode events result) :
    ∀ event ∈ events, event.hook.subject = .io o := by
  cases h <;> simp [Hook.subject]

namespace Posix

variable [Embedder ε] {p : Posix ε} {path : String} {flags : OpenFlags} {mode : Mode}
  {w : World ε}

/-- A path that no device accepts names what its owner in the mount table says. -/
theorem openObject_of_ignores (h : p.registry.Ignores p.world.catalog path) (flags : OpenFlags)
    (mode : Mode) :
    (∃ e, p.resolve path = .error e ∧ p.openObject path flags mode = (.error e, p.world)) ∨
    ∃ r, p.resolve path = .ok r ∧ p.openObject path flags mode =
      ((r.fileSystem.openFile p.world r.path flags mode).1.map IoId.file,
        (r.fileSystem.openFile p.world r.path flags mode).2) := by
  obtain ⟨-, hrefused⟩ | ⟨d, answer, w, hd, -, -⟩ | ⟨-, hfound⟩ :=
    p.openObject_cases path flags mode
  · exact .inl hrefused
  · rw [Registry.identify?_eq_none_iff.mpr h] at hd
    cases hd
  · exact .inr hfound

/-- What names nothing is not bound. -/
theorem openPath_of_error {e : Errno} (h : p.openObject path flags mode = (.error e, w)) :
    p.openPath path flags mode = track (.error e, { p with world := w }) := by
  rw [openPath, h]

/-- An object that agreed to open is bound, or closed again. -/
theorem opening_of_ok {o : IoId} {seen : String} {b : Books}
    (h : p.openObject path flags mode = (.ok o, w))
    (ha : p.world.After [⟨.opening o seen flags mode, .ok ()⟩] b w) : ∃ events,
    (p.openPath path flags mode).2.world.trace = p.world.trace ++ events ∧
      Opening o seen flags mode events (p.openPath path flags mode).1 := by
  rw [openPath, h]
  simp only [trace_track, fst_track]
  obtain ⟨i, w', -, -, hr, hw⟩ | ⟨answer, w', ⟨_, -, hr, hw⟩ | ⟨-, -, hr, hw⟩⟩ :=
    o.register_cases (t := p.table) (w := w)
  · rw [hr]
    exact ⟨_, (ha.trans hw).trace, .bound _⟩
  · rw [hr]
    exact ⟨_, (ha.trans hw).trace, .rolledBack _ answer (.inl rfl)⟩
  · rw [hr]
    exact ⟨_, (ha.trans hw).trace, .rolledBack _ answer (.inr rfl)⟩

end Posix

/-! ## Calls that name a path -/

/-- The file system itself, or an object of a pool that it takes files or directories from. -/
inductive FileSystemId.Owns (s : FileSystemId) (c : Catalog) : ObjectId → Prop
  | self : Owns s c (.fileSystem s)
  | file (i slot : Nat) (h : (c.provision s).files = some i) : Owns s c (.io (.file ⟨i, slot⟩))
  | directory (i slot : Nat) (h : (c.provision s).directories = some i) :
      Owns s c (.directory ⟨i, slot⟩)

namespace Call

/-- The path that the call names, or the first one if it names two. -/
def path? : Call → Option String
  | openPath path _ _ | openDirectory path | onPath path _ | rename path _ => some path
  | _ => none

/-- The call is one for the owner of the path in the mount table: it names the path, and neither
opens a device there nor renames it to nothing. -/
inductive Concerns (p : Posix ε) (path : String) : Call → Prop
  | openPath (flags : OpenFlags) (mode : Mode) (h : p.registry.Ignores p.world.catalog path) :
      Concerns p path (.openPath path flags mode)
  | openDirectory : Concerns p path (.openDirectory path)
  | onPath (op : PathOp) : Concerns p path (.onPath path op)
  | rename (target : String) (h : target ≠ "") : Concerns p path (.rename path target)

/-- **The call is served where `r` says**: what the file system is asked, or an object of its pools,
about the path within it; and what comes of it. -/
inductive Served (p : Posix ε) (r : Resolved) :
    (c : Call) → List Event → Except Errno c.Value → Prop
  | noFile (path : String) (flags : OpenFlags) (mode : Mode) (e : Errno)
      (h : p.world.Lacks ((p.world.catalog.provision r.fileSystem).files.map .files) e) :
      Served p r (.openPath path flags mode) [] (.error e)
  | openFile (path : String) (flags : OpenFlags) (mode : Mode) (i slot : Nat)
      (hpool : (p.world.catalog.provision r.fileSystem).files = some i)
      (hoffer : p.world.Offers (.files i) slot) (events : List Event) (result : Except Errno Fd)
      (h : Opening (.file ⟨i, slot⟩) r.path flags mode events result) :
      Served p r (.openPath path flags mode) events result
  | noDirectory (path : String) (e : Errno)
      (h : p.world.Lacks
        ((p.world.catalog.provision r.fileSystem).directories.map .directories) e) :
      Served p r (.openDirectory path) [] (.error e)
  | openDirectory (path : String) (i slot : Nat)
      (hpool : (p.world.catalog.provision r.fileSystem).directories = some i)
      (hoffer : p.world.Offers (.directories i) slot) (answer : Except Errno Unit) :
      Served p r (.openDirectory path) [⟨.openDirectory ⟨i, slot⟩ r.path, answer⟩]
        (answer.map fun () => ⟨i, slot⟩)
  | onPath (path : String) (op : PathOp) (answer : Except Errno op.Value) :
      Served p r (.onPath path op) [⟨.path r.fileSystem r.path op, answer⟩] answer
  | rename (path target target' : String)
      (h : p.mounts.identify? path (some target) = some { r with secondary := some target' })
      (answer : Except Errno Unit) :
      Served p r (.rename path target) [⟨.rename r.fileSystem r.path target', answer⟩] answer

/-- Nobody is asked but the file system and its objects. -/
theorem Served.owned {p : Posix ε} {r : Resolved} {c : Call} {events : List Event}
    {result : Except Errno c.Value} (h : Served p r c events result) :
    ∀ event ∈ events, r.fileSystem.Owns p.world.catalog event.hook.subject := by
  cases h with
  | noFile | noDirectory => exact fun _ hmem => absurd hmem List.not_mem_nil
  | openFile path flags mode i slot hpool hoffer events result h =>
      intro event hmem
      rw [h.subject event hmem]
      exact .file i slot hpool
  | openDirectory path i slot hpool =>
      intro event hmem
      obtain rfl := List.mem_singleton.mp hmem
      exact .directory i slot hpool
  | onPath | rename =>
      intro event hmem
      obtain rfl := List.mem_singleton.mp hmem
      exact .self

end Call

namespace Posix

variable [Embedder ε] {p : Posix ε} {path : String}

/-- **An empty path** names nothing. -/
theorem endsBy_of_empty {c : Call} (hc : c.path? = some "") :
    p.EndsBy [] (.error .noSuchEntity) (c.run p) := by
  cases c with
  | openPath | openDirectory | onPath | rename =>
      obtain rfl := Option.some.inj hc
      exact p.endsBy_refused _
  | _ => cases hc

/-- **A device** is asked to open the whole path, and nobody else is asked. -/
theorem opening_of_leads {d : DeviceId} (h : p.registry.Leads p.world.catalog path d)
    (flags : OpenFlags) (mode : Mode) : ∃ events,
    (p.openPath path flags mode).2.world.trace = p.world.trace ++ events ∧
      Opening (.device d) path flags mode events (p.openPath path flags mode).1 := by
  have hd := Registry.identify?_eq_some_iff.mpr h
  obtain ⟨hnone, -⟩ | ⟨d', answer, w, hd', ho, ha⟩ | ⟨hnone, -⟩ :=
    p.openObject_cases path flags mode
  · rw [hd] at hnone
    cases hnone
  · obtain rfl : d = d' := Option.some.inj (hd.symm.trans hd')
    cases answer with
    | ok => exact opening_of_ok ho ha
    | error e =>
        rw [openPath_of_error ho]
        exact ⟨_, ha.trace, .refused e⟩
  · rw [hd] at hnone
    cases hnone

/-- **A path without an owner** is a bad descriptor. -/
theorem endsBy_of_unowned {c : Call} (hpath : path ≠ "") (hc : c.Concerns p path)
    (h : p.mounts.identify? path none = none) :
    p.EndsBy [] (.error .badFileDescriptor) (c.run p) := by
  have hresolve : p.resolve path = .error .badFileDescriptor := by
    rw [resolve_single hpath, h]
    rfl
  cases hc with
  | openPath flags mode hignores =>
      obtain ⟨e, he, ho⟩ | ⟨r, hr, -⟩ := openObject_of_ignores hignores flags mode
      · obtain rfl := Except.error.inj (he.symm.trans hresolve)
        rw [Call.run, openPath_of_error ho]
        exact p.endsBy_refused _
      · rw [hresolve] at hr
        cases hr
  | openDirectory =>
      rw [Call.run, openDirectory, hresolve]
      exact p.endsBy_refused _
  | onPath op =>
      rw [Call.run, onPath, hresolve]
      exact p.endsBy_refused _
  | rename target htarget =>
      obtain ⟨target', ht⟩ := p.mounts.exists_identify?_secondary path target
      have hresolve' : p.resolve path (some target) = .error .badFileDescriptor := by
        rw [resolve_pair hpath htarget, ht, h]
        rfl
      rw [Call.run, rename, hresolve']
      exact p.endsBy_refused _

/-- **A path with an owner** is served there. -/
theorem served_of_owned {c : Call} {r : Resolved} (hpath : path ≠ "") (hc : c.Concerns p path)
    (h : p.mounts.identify? path none = some r) : ∃ events,
    (c.run p).2.world.trace = p.world.trace ++ events ∧ Call.Served p r c events (c.run p).1 := by
  have hresolve : p.resolve path = .ok r := by
    rw [resolve_single hpath, h]
    rfl
  cases hc with
  | openPath flags mode hignores =>
      rw [Call.run]
      obtain ⟨e, he, -⟩ | ⟨r', hr', ho⟩ := openObject_of_ignores hignores flags mode
      · rw [hresolve] at he
        cases he
      · obtain rfl := Except.ok.inj (hr'.symm.trans hresolve)
        obtain ⟨e, w, hlacks, hf, ha⟩ | ⟨i, slot, w, hpool, hoffer, ⟨hf, ha⟩ | ⟨e, hf, ha⟩⟩ :=
          r'.fileSystem.openFile_cases p.world r'.path flags mode
        · rw [hf] at ho
          rw [openPath_of_error ho]
          exact ⟨[], ha.trace, .noFile path flags mode e hlacks⟩
        · rw [hf] at ho
          obtain ⟨events, ht, hopening⟩ := opening_of_ok ho ha
          exact ⟨events, ht, .openFile path flags mode i slot hpool hoffer events _ hopening⟩
        · rw [hf] at ho
          rw [openPath_of_error ho]
          exact ⟨_, ha.trace, .openFile path flags mode i slot hpool hoffer _ _ (.refused e)⟩
  | openDirectory =>
      rw [Call.run, openDirectory, hresolve]
      simp only [trace_track, fst_track]
      obtain ⟨e, w, hlacks, hf, ha⟩ | ⟨i, slot, w, hpool, hoffer, ⟨hf, ha⟩ | ⟨e, hf, ha⟩⟩ :=
        r.fileSystem.openDirectory_cases p.world r.path
      · rw [hf]
        exact ⟨_, ha.trace, .noDirectory path e hlacks⟩
      · rw [hf]
        exact ⟨_, ha.trace, .openDirectory path i slot hpool hoffer (.ok ())⟩
      · rw [hf]
        exact ⟨_, ha.trace, .openDirectory path i slot hpool hoffer (.error e)⟩
  | onPath op =>
      rw [Call.run, onPath, hresolve]
      simp only [trace_track, fst_track]
      exact ⟨_, rfl, .onPath path op _⟩
  | rename target htarget =>
      obtain ⟨target', ht⟩ := p.mounts.exists_identify?_secondary path target
      rw [h, Option.map_some] at ht
      have hresolve' : p.resolve path (some target) = .ok { r with secondary := some target' } := by
        rw [resolve_pair hpath htarget, ht]
        rfl
      rw [Call.run, rename, hresolve']
      simp only [trace_track, fst_track]
      exact ⟨_, rfl, .rename path target target' ht _⟩

/-- **All path calls agree on who owns a path.**  If the path is empty, every call that names it
finds no such entity, and nobody is asked.  If some device accepts it, opening asks the first one
that does, once, about the whole path, and then at most to close again; no mount point is looked at.
In all other cases of opening, and for every other call, it is the mount table that decides, in the
same way for all of them: without an owner the call fails with a bad descriptor and nobody is asked;
with one, the owner serves the call, seeing the path that the mount table gives, and nobody is asked
but this file system and the objects of its pools. -/
theorem path_owned (p : Posix ε) (path : String) :
    (path = "" → ∀ c : Call, c.path? = some path →
      p.EndsBy [] (.error .noSuchEntity) (c.run p)) ∧
    (¬ p.registry.Ignores p.world.catalog path → ∃ d, p.registry.Leads p.world.catalog path d ∧
      ∀ flags mode, ∃ events,
        (p.openPath path flags mode).2.world.trace = p.world.trace ++ events ∧
          Opening (.device d) path flags mode events (p.openPath path flags mode).1) ∧
    (path ≠ "" → ∀ c : Call, c.Concerns p path →
      (p.mounts.identify? path none = none →
        p.EndsBy [] (.error .badFileDescriptor) (c.run p)) ∧
      ∀ r, p.mounts.identify? path none = some r → ∃ events,
        (c.run p).2.world.trace = p.world.trace ++ events ∧
          Call.Served p r c events (c.run p).1 ∧
          ∀ event ∈ events, r.fileSystem.Owns p.world.catalog event.hook.subject) := by
  refine ⟨?_, fun h => ?_, fun hpath c hc => ⟨endsBy_of_unowned hpath hc, fun r hr => ?_⟩⟩
  · rintro rfl c hc
    exact endsBy_of_empty hc
  · obtain ⟨d, hd⟩ := Registry.exists_leads h
    exact ⟨d, hd, fun flags mode => opening_of_leads hd flags mode⟩
  · obtain ⟨events, ht, hserved⟩ := served_of_owned hpath hc hr
    exact ⟨events, ht, hserved, hserved.owned⟩

end Posix

end PosixVfs
