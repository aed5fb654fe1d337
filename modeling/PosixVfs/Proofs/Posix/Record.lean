import PosixVfs.Posix.Call

/-!
# Proofs/Posix/Record — the error of the last call is written and never read

Every call but the choosing of a pool for sockets ends by recording how it ended
(`Call.lastError_run`), and none of them looks at what was recorded before
(`Call.run_setLastError`).  So a call on a context that has just forgotten its last error ends as
it would have on the context itself.
-/

namespace PosixVfs

variable {ε : Type} {α : Type}

/-- The error of a failure. -/
def Errno.of? : Except Errno α → Option Errno
  | .ok _ => none
  | .error e => some e

namespace Posix

/-- The context with another error of the last call. -/
def setLastError (p : Posix ε) (e : Option Errno) : Posix ε := { p with lastError := e }

/-- Recording the error that is recorded already changes nothing. -/
theorem setLastError_eq_self {p : Posix ε} {e : Option Errno} (h : p.lastError = e) :
    p.setLastError e = p := by
  rw [← h]
  rfl

section Track

variable (r : Except Errno α × Posix ε)

@[simp] theorem fst_track : (track r).1 = r.1 := by
  rcases r with ⟨_ | _, p⟩ <;> rfl

theorem lastError_track : (track r).2.lastError = Errno.of? r.1 := by
  rcases r with ⟨_ | _, p⟩ <;> rfl

theorem trace_track : (track r).2.world.trace = r.2.world.trace := by
  rcases r with ⟨_ | _, p⟩ <;> rfl

end Track

/-- Recording overwrites what was recorded before. -/
theorem track_congr {r r' : Except Errno α × Posix ε} (h : r'.1 = r.1) {e : Option Errno}
    (hp : r'.2 = r.2.setLastError e) : track r' = track r := by
  rcases r with ⟨a, p⟩
  obtain rfl : r' = (a, p.setLastError e) := Prod.ext h hp
  cases a <;> rfl

end Posix

namespace Call

variable [Embedder ε] {c : Call}

/-- The one call that records nothing. -/
def isSilent : Call → Bool
  | setSocketPool _ => true
  | _ => false

/-- **Every call records how it ended.** -/
theorem lastError_run (hc : c.isSilent = false) (p : Posix ε) :
    (c.run p).2.lastError = Errno.of? (c.run p).1 := by
  have htrack {α : Type} (r : Except Errno α × Posix ε) :
      (Posix.track r).2.lastError = Errno.of? (Posix.track r).1 := by
    rw [Posix.lastError_track, Posix.fst_track]
  cases c with
  | setSocketPool pool => cases hc
  | sync | closeAll => rfl
  | _ => exact htrack _

/-- **No call reads what was recorded.** -/
theorem run_setLastError (hc : c.isSilent = false) (p : Posix ε) (e : Option Errno) :
    c.run (p.setLastError e) = c.run p := by
  have hobject (fd : Fd) : (p.setLastError e).object fd = p.object fd := rfl
  have hsocket (fd : Fd) : (p.setLastError e).socketAt fd = p.socketAt fd := rfl
  have hresolve (path : String) (secondary : Option String) :
      (p.setLastError e).resolve path secondary = p.resolve path secondary := rfl
  cases c with
  | setSocketPool pool => cases hc
  | sync | closeAll => rfl
  | setRoot | mount | umount | registerDevice | readDirectory | rewindDirectory
  | closeDirectory | socket => exact Posix.track_congr rfl (e := e) rfl
  | openPath path flags mode =>
      have hopen : (p.setLastError e).openObject path flags mode = p.openObject path flags mode :=
        rfl
      rw [run, run, Posix.openPath, Posix.openPath, hopen]
      rcases p.openObject path flags mode with ⟨_ | o, w⟩ <;>
        exact Posix.track_congr rfl (e := e) rfl
  | openDirectory path =>
      rw [run, run, Posix.openDirectory, Posix.openDirectory, hresolve]
      rcases p.resolve path with _ | r <;> exact Posix.track_congr rfl (e := e) rfl
  | onPath path op =>
      rw [run, run, Posix.onPath, Posix.onPath, hresolve]
      rcases p.resolve path with _ | r <;> exact Posix.track_congr rfl (e := e) rfl
  | rename path target =>
      rw [run, run, Posix.rename, Posix.rename, hresolve]
      rcases p.resolve path (some target) with _ | r <;> exact Posix.track_congr rfl (e := e) rfl
  | close fd =>
      rw [run, run, Posix.close, Posix.close, hobject]
      rcases p.object fd with _ | o <;> exact Posix.track_congr rfl (e := e) rfl
  | onDescriptor fd op =>
      rw [run, run, Posix.onDescriptor, Posix.onDescriptor, hobject]
      rcases p.object fd with _ | o
      · exact Posix.track_congr rfl (e := e) rfl
      · dsimp only
        split <;> exact Posix.track_congr rfl (e := e) rfl
  | accept fd =>
      rw [run, run, Posix.accept, Posix.accept, hsocket]
      rcases p.socketAt fd with _ | s <;> exact Posix.track_congr rfl (e := e) rfl
  | onSocket fd op =>
      rw [run, run, Posix.onSocket, Posix.onSocket, hsocket]
      rcases p.socketAt fd with _ | s <;> exact Posix.track_congr rfl (e := e) rfl

end Call

end PosixVfs
