import PosixVfs.Posix.Syscall
import PosixVfs.Proofs.Descriptor.Lookup
import PosixVfs.Proofs.World.Tidy
import PosixVfs.Scripted.Script

/-!
# Proofs/Session/Run — the histories of a context

A `Session` is a context together with the directory streams that its user has open.  Its history is
a list of `Act`s: calls, and things done behind the back of the context to its descriptor table, to
an object or to a pool.  `Session.Admits` singles out the orderly histories, in which nobody handles
bindings or slots but the context itself.
-/

namespace PosixVfs

variable {ε : Type}

/-- A context, and the streams that were opened and not closed yet. -/
structure Session (ε : Type) where
  posix : Posix ε
  streams : List DirectoryId := []

/-- One thing that is done to a session. -/
inductive Act where
  | call (c : Call)
  | raw (s : Syscall)
  /-- Bind, install or free by hand, past the calls. -/
  | alloc (o : IoId)
  | install (fd : Fd) (o : IoId)
  | free (fd : Fd)
  /-- Register, close or give back an object by hand. -/
  | register (o : IoId)
  | close (o : IoId)
  | giveBack (x : ObjectId)
  /-- Take a slot or release one by hand. -/
  | acquire (p : PoolId)
  | acquireLinked (p : PoolId)
  | release (p : PoolId) (x : ObjectId)
  /-- The maker of a pool lets go of it. -/
  | dropPool (p : PoolId)

/-- The open streams after a call that ended in `r`. -/
def Call.streams : (c : Call) → (r : Except Errno c.Value) → List DirectoryId → List DirectoryId
  | openDirectory _, .ok d, open_ => d :: open_
  | closeDirectory d, _, open_ => open_.erase d
  | _, _, open_ => open_

/-- The calls that acquire something: a descriptor, or a directory stream. -/
def Call.acquires : Call → Bool
  | openPath _ _ _ | openDirectory _ | socket _ _ _ | accept _ => true
  | _ => false

/-- **A fresh world**: no slot is held, no object is attached or bound, and nothing was written. -/
structure World.Fresh (w : World ε) : Prop where
  isHeld : ∀ p slot, (w.pools p).isHeld slot = false
  owner : ∀ x, w.owner x = none
  descriptor : ∀ o, w.descriptor o = none
  socketPool : w.socketPool = none
  trace : w.trace = []
  log : w.log = []

/-- **A new session**: a new context over a fresh world, and no stream. -/
structure Session.New (s : Session ε) : Prop where
  built : ∃ c w, World.Fresh w ∧ Posix.new c w = .ok s.posix
  streams : s.streams = []

theorem Session.New.exists_build {s : Session ε} (h : s.New) :
    ∃ c w, World.Fresh w ∧ s.posix = Posix.build c w := by
  obtain ⟨c, w, hw, hp⟩ := h.built
  rw [Posix.new] at hp
  rcases hc : c.check with e | u
  · rw [hc] at hp
    cases hp
  · rw [hc] at hp
    exact ⟨c, w, hw, (Except.ok.inj hp).symm⟩

/-- **Orderly acts.**  Any call is one, as long as sockets are to come from a pool that is alive.  By
hand there is only the installing of objects that lie in no pool, and the dropping of pools. -/
def Act.Orderly (s : Session ε) : Act → Prop
  | call (.setSocketPool i) => s.posix.world.poolAlive (.sockets i) = true
  | call _ | raw _ | dropPool _ => True
  | install _ o => ¬ s.posix.world.Pooled (.io o)
  | _ => False

namespace Session

/-- The session after something was done to the descriptor table and the world. -/
def inTable (s : Session ε) (r : Table × World ε) : Session ε :=
  { s with posix := { s.posix with table := r.1, world := r.2 } }

variable [Embedder ε]

/-- The session after an act. -/
def step (s : Session ε) : Act → Session ε
  | .call c => ⟨(c.run s.posix).2, c.streams (c.run s.posix).1 s.streams⟩
  | .raw call => { s with posix := (call.handle s.posix).2 }
  | .alloc o => s.inTable (s.posix.table.alloc s.posix.world o).2
  | .install fd o => s.inTable (s.posix.table.install s.posix.world fd o).2
  | .free fd => s.inTable (s.posix.table.free s.posix.world fd).2
  | .register o => s.inTable (o.register s.posix.table s.posix.world).2
  | .close o => s.inTable (o.close s.posix.table s.posix.world).2
  | .giveBack x => s.inTable (s.posix.table, (s.posix.world.giveBack x).2)
  | .acquire p => s.inTable (s.posix.table, (s.posix.world.acquire p).2)
  | .acquireLinked p => s.inTable (s.posix.table, (s.posix.world.acquireLinked p).2)
  | .release p x => s.inTable (s.posix.table, (s.posix.world.release p x).2)
  | .dropPool p => s.inTable (s.posix.table, s.posix.world.dropPool p)

/-- The session after a list of acts. -/
def run (s : Session ε) (acts : List Act) : Session ε := acts.foldl step s

/-- **Orderly histories.**  Each act is orderly in the session that it meets. -/
def Admits : Session ε → List Act → Prop
  | _, [] => True
  | s, act :: acts => act.Orderly s ∧ (s.step act).Admits acts

/-- What every act preserves, every history preserves. -/
theorem run_induction {P : Session ε → Prop} (hstep : ∀ s act, P s → P (s.step act))
    {s : Session ε} (hs : P s) (acts : List Act) : P (s.run acts) := by
  induction acts generalizing s with
  | nil => exact hs
  | cons act acts ih => exact ih (hstep s act hs)

/-- What every orderly act preserves, every orderly history preserves. -/
theorem run_induction_of_admits {P : Session ε → Prop}
    (hstep : ∀ s act, act.Orderly s → P s → P (s.step act)) {s : Session ε} (hs : P s)
    {acts : List Act} (h : s.Admits acts) : P (s.run acts) := by
  induction acts generalizing s with
  | nil => exact hs
  | cons act acts ih => exact ih (hstep s act h.1 hs) h.2

end Session

/-! ## A session to look at -/

/-- A fresh world with an obliging embedder, two slots in every pool, and a file system that takes
its files and directories from there. -/
def World.usual : World Script where
  embedder := {}
  catalog := { devices := [{ name := "console" }], fileSystems := [⟨some 0, some 0⟩] }
  pools := fun _ => .new 2

theorem World.fresh_usual : World.usual.Fresh :=
  ⟨fun _ slot => Pool.isHeld_new 2 slot, fun _ => rfl, fun _ => rfl, rfl, rfl, rfl⟩

/-- A new session of the usual capacities. -/
def Session.usual : Session Script := ⟨.build {} .usual, []⟩

theorem Session.new_usual : Session.usual.New := ⟨⟨{}, .usual, World.fresh_usual, rfl⟩, rfl⟩

/-- A session as usual, with another script. -/
def Session.scripted (script : Script) : Session Script :=
  ⟨.build {} { World.usual with embedder := script }, []⟩

theorem Session.new_scripted (script : Script) : (scripted script).New where
  built := ⟨{}, { World.usual with embedder := script },
    ⟨World.fresh_usual.isHeld, fun _ => rfl, fun _ => rfl, rfl, rfl, rfl⟩, rfl⟩
  streams := rfl

theorem Session.capacity_scripted_le (script : Script) :
    (scripted script).posix.table.capacity ≤ Fd.count := by
  rw [scripted, Posix.build, Table.capacity_new]
  decide

/-! ## Raw calls -/

namespace Syscall

/-- Raw calls know no directory streams and do not choose the pool of sockets. -/
theorem orderly_of_decode {s : Syscall} {c : Call} (h : s.decode = .ok c) (t : Session ε) :
    (Act.call c).Orderly t ∧ ∀ r open_, c.streams r open_ = open_ := by
  have hbind {α : Type} {x : Except Errno α} {f : α → Call}
      (h : (do return f (← x)) = Except.ok c) : ∃ a, f a = c := by
    rcases x with e | a
    · cases h
    · exact ⟨a, Except.ok.inj h⟩
  cases s with
  | rename path target =>
      obtain ⟨_, h⟩ : ∃ a : String, (do return Call.rename a (← deref target)) = Except.ok c := by
        rcases path with _ | a
        · cases h
        · exact ⟨a, h⟩
      obtain ⟨_, rfl⟩ := hbind h
      exact ⟨trivial, fun _ _ => rfl⟩
  | openPath | read | write | writev | lseek | chmod | truncate | unlink | mkdir | rmdir | umount
  | shutdown =>
      obtain ⟨_, rfl⟩ := hbind h
      exact ⟨trivial, fun _ _ => rfl⟩
  | _ =>
      obtain rfl := Except.ok.inj h
      exact ⟨trivial, fun _ _ => rfl⟩

variable [Embedder ε]

/-- **A raw call** leaves table and world alone, or does to them what the call does that it stands
for. -/
theorem handle_cases (s : Syscall) (p : Posix ε) :
    (∃ e, s.decode = .error e ∧ (s.handle p).2.table = p.table ∧
      (s.handle p).2.world = p.world) ∨
    ∃ c, s.decode = .ok c ∧
      (s.handle p).2.table = (c.run { p with lastError := none }).2.table ∧
      (s.handle p).2.world = (c.run { p with lastError := none }).2.world := by
  rw [handle]
  rcases hd : s.decode with e | c
  · exact .inl ⟨e, rfl, rfl, rfl⟩
  · refine .inr ⟨c, rfl, ?_⟩
    rcases hr : c.run { p with lastError := none } with ⟨e | value, p'⟩
    · simp only [hr]
      split <;> exact ⟨rfl, rfl⟩
    · simp only [hr]
      exact ⟨trivial, trivial⟩

end Syscall

end PosixVfs
