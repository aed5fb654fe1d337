import PosixVfs.Proofs.Descriptor.Agreement
import PosixVfs.Proofs.Namespace.History
import PosixVfs.Proofs.Posix.Record
import PosixVfs.Scripted.Script

/-!
# Proofs/Posix/LastError — the last error is that of the last call, and of no hook

Every call records its own outcome, and syncing and closing everything record a success
(`Posix.lastError_of_last_call`).  What the hooks answered on the way makes no difference to it:
unmounting succeeds even if the file system refuses, and where an opening has to be undone
(`Posix.Undoes`), the error is that for which it is undone, whatever the closing hook answers then.
-/

namespace PosixVfs

variable {ε : Type}

/-! ## One question and one answer -/

theorem World.trace_noteFailure {α : Type} (w : World ε) (r : Except Errno α)
    (record : Errno → LogRecord) : (w.noteFailure r record).trace = w.trace := by
  cases r <;> rfl

theorem World.trace_giveBack (w : World ε) (x : ObjectId) : (w.giveBack x).2.trace = w.trace := by
  obtain ⟨log, -, hr⟩ | ⟨p, slot, -, -, -, -, hr⟩ := w.releaseLink_cases x x
  · rw [giveBack, hr]
    rfl
  · rw [giveBack, hr]
    rfl

namespace IoId

variable (o : IoId) (t : Table) (w : World ε)

theorem trace_unbind : (o.unbind t w).2.trace = w.trace := by
  rw [unbind]
  rcases w.descriptor o with _ | fd
  · rfl
  · obtain ⟨-, hf⟩ | ⟨i, o', -, -, hf⟩ := t.free_cases w fd
    · simp only [hf]
      rfl
    · simp only [hf]
      rfl

variable [Embedder ε]

/-- **Closing** asks the closing hook and nothing else, and has its answer for a result. -/
theorem trace_close :
    (o.close t w).2.2.trace = w.trace ++ [⟨.closing o, (o.close t w).1⟩] := by
  rcases ha : w.ask (.closing o) with ⟨answer, w₁⟩
  obtain ⟨e, rfl⟩ := World.exists_of_ask ha
  rw [close, ha]
  simp only [World.trace_giveBack, trace_unbind]

/-- **An object that the table refuses** is closed, and the error is that of the table. -/
theorem register_of_alloc_error {e : Errno} (h : (t.alloc w o).1 = .error e) :
    (o.register t w).1 = .error e ∧
      ∃ answer, (o.register t w).2.2.trace = w.trace ++ [⟨.closing o, answer⟩] := by
  obtain ⟨i, w', hd, hi, hr, -⟩ | ⟨answer, w', ⟨fd, hd, hr, ha⟩ | ⟨hd, hi, hr, ha⟩⟩ :=
    o.register_cases (t := t) (w := w)
  · rw [Table.alloc, hd, hi] at h
    cases h
  · rw [Table.alloc, hd] at h
    cases h
    rw [hr]
    exact ⟨rfl, answer, ha.trace⟩
  · rw [Table.alloc, hd, hi] at h
    cases h
    rw [hr]
    exact ⟨rfl, answer, ha.trace⟩

end IoId

namespace Posix

variable [Embedder ε]

/-! ## Openings that are undone -/

/-- A call on `p` has opened or made `o`, in the world `w`, and has to undo this because of `e`. -/
inductive Undoes (p : Posix ε) : Call → IoId → Errno → World ε → Prop
  /-- A path was opened, and the table refuses the object. -/
  | openPath {path : String} {flags : OpenFlags} {mode : Mode} {o : IoId} {w : World ε} {e : Errno}
      (opened : p.openObject path flags mode = (.ok o, w))
      (refused : (p.table.alloc w o).1 = .error e) : Undoes p (.openPath path flags mode) o e w
  /-- A socket was taken, and refuses to be made. -/
  | create {domain kind protocol : Int32} {s : SocketId} {w₁ w : World ε} {e : Errno}
      (fresh : p.freshSocket = (some s, w₁))
      (refused : w₁.ask (.create s domain kind protocol) = (.error e, w)) :
      Undoes p (.socket domain kind protocol) (.socket s) e w
  /-- A socket was made, and the table refuses it. -/
  | socket {domain kind protocol : Int32} {s : SocketId} {w₁ w : World ε} {e : Errno}
      (fresh : p.freshSocket = (some s, w₁))
      (made : w₁.ask (.create s domain kind protocol) = (.ok (), w))
      (refused : (p.table.alloc w (.socket s)).1 = .error e) :
      Undoes p (.socket domain kind protocol) (.socket s) e w
  /-- A connection was accepted, and the table refuses it. -/
  | accept {fd : Fd} {listener s : SocketId} {peer : Option Address} {w₁ w : World ε} {e : Errno}
      (listening : p.socketAt fd = .ok listener) (fresh : p.freshSocket = (some s, w₁))
      (accepted : w₁.ask (.accept listener s) = (.ok peer, w))
      (refused : (p.table.alloc w (.socket s)).1 = .error e) :
      Undoes p (.accept fd) (.socket s) e w

/-- **An opening that is undone** closes the object, and fails with the error for which it is undone. -/
theorem Undoes.run {p : Posix ε} {c : Call} {o : IoId} {e : Errno} {w : World ε}
    (h : p.Undoes c o e w) : (c.run p).1 = .error e ∧
      ∃ answer, (c.run p).2.world.trace = w.trace ++ [⟨.closing o, answer⟩] := by
  cases h with
  | openPath opened refused =>
      obtain ⟨he, answer, htrace⟩ := IoId.register_of_alloc_error _ _ _ refused
      rw [Call.run, Posix.openPath, opened, fst_track, trace_track]
      exact ⟨he, answer, htrace⟩
  | @create _ _ _ s _ _ _ fresh refused =>
      rw [Call.run, Posix.socket, fresh, fst_track, trace_track]
      simp only [refused]
      refine ⟨rfl, ((IoId.socket s).close p.table w).1, ?_⟩
      rw [inTable, World.trace_noteFailure, IoId.trace_close]
  | socket fresh made refused =>
      obtain ⟨he, answer, htrace⟩ := IoId.register_of_alloc_error _ _ _ refused
      rw [Call.run, Posix.socket, fresh, fst_track, trace_track]
      simp only [made]
      exact ⟨he, answer, htrace⟩
  | accept listening fresh accepted refused =>
      obtain ⟨he, answer, htrace⟩ := IoId.register_of_alloc_error _ _ _ refused
      rw [Call.run, Posix.accept, listening, fst_track, trace_track]
      simp only [fresh, accepted, inTable, he]
      exact ⟨rfl, answer, htrace⟩

/-! ## One call after the other -/

/-- The context after some calls. -/
def after (p : Posix ε) (calls : List Call) : Posix ε := calls.foldl (fun p c => (c.run p).2) p

/-- Calls that record nothing leave what is recorded. -/
theorem lastError_after_silent (p : Posix ε) {calls : List Call}
    (h : ∀ c ∈ calls, c.isSilent = true) : (p.after calls).lastError = p.lastError := by
  induction calls generalizing p with
  | nil => rfl
  | cons c calls ih =>
      rw [List.forall_mem_cons] at h
      have hlast : (c.run p).2.lastError = p.lastError := by
        obtain ⟨hc, -⟩ := h
        cases c with
        | setSocketPool pool => rfl
        | _ => cases hc
      exact (ih (c.run p).2 h.2).trans hlast

/-- **After any calls**, what is recorded is how the last one ended that records anything. -/
theorem lastError_after (p : Posix ε) (before : List Call) {c : Call} {later : List Call}
    (hc : c.isSilent = false) (hlater : ∀ c' ∈ later, c'.isSilent = true) :
    (p.after (before ++ c :: later)).lastError = Errno.of? (c.run (p.after before)).1 := by
  have hsplit : p.after (before ++ c :: later) = (c.run (p.after before)).2.after later := by
    rw [after, List.foldl_append, List.foldl_cons]
    rfl
  rw [hsplit, lastError_after_silent _ hlater, c.lastError_run hc]

/-- **The last error is that of the last call.**  Whatever was recorded before, and whatever the
hooks answer: a call that fails has recorded its error, and the errno value is the code of this; a
call that succeeds has recorded that there was none, and the errno value is 0.  Only the choice of a
pool for sockets records nothing, so what is recorded stays until there is another call.  Unmounting
what is mounted is a success, no matter what the file system answers to being synced and told.  A
call that undoes an opening fails with the error for which it is undone, no matter what the closing
hook answers.  And after syncing everything or closing everything no error is recorded. -/
theorem lastError_of_last_call (p : Posix ε) :
    (∀ c : Call, c.isSilent = false →
      (∀ e, (c.run p).1 = .error e →
        (c.run p).2.lastError = some e ∧ (c.run p).2.errno = e.code) ∧
      ∀ value, (c.run p).1 = .ok value →
        (c.run p).2.lastError = none ∧ (c.run p).2.errno = 0) ∧
    (∀ (before later : List Call) (c : Call), c.isSilent = false →
      (∀ c' ∈ later, c'.isSilent = true) →
      (p.after (before ++ c :: later)).lastError = Errno.of? (c.run (p.after before)).1) ∧
    (∀ (path : String) (flags : MountFlags), (p.mounts.position? path).isSome →
      (p.umount path flags).1 = .ok () ∧ (p.umount path flags).2.lastError = none ∧
      ∃ (s : FileSystemId) (synced told : Except Errno Unit), (p.umount path flags).2.world.trace =
        p.world.trace ++ [⟨.sync s (p.world.disk s), synced⟩,
          ⟨.unmount s (p.world.disk s) flags, told⟩]) ∧
    (∀ c o e w, p.Undoes c o e w → (c.run p).1 = .error e ∧ (c.run p).2.lastError = some e ∧
      ∃ answer, (c.run p).2.world.trace = w.trace ++ [⟨.closing o, answer⟩]) ∧
    (p.sync.lastError = none ∧ p.sync.errno = 0) ∧
    p.closeAll.2.lastError = none ∧ p.closeAll.2.errno = 0 := by
  have hrun (c : Call) (hc : c.isSilent = false) := c.lastError_run hc p
  refine ⟨fun c hc => ⟨fun e he => ?_, fun value hv => ?_⟩,
    fun before later c => p.lastError_after before, fun path flags hmounted => ?_,
    fun c o e w h => ?_, ⟨rfl, rfl⟩, rfl, rfl⟩
  · have hlast := hrun c hc
    rw [he] at hlast
    exact ⟨hlast, by rw [errno, hlast]; rfl⟩
  · have hlast := hrun c hc
    rw [hv] at hlast
    exact ⟨hlast, by rw [errno, hlast]; rfl⟩
  · obtain ⟨hnone, -⟩ | ⟨slot, m, w', -, -, -, hr, synced, told, hasked⟩ :=
      p.mounts.umount_cases p.world path flags
    · rw [hnone] at hmounted
      cases hmounted
    · rw [umount, fst_track, lastError_track, trace_track, hr]
      exact ⟨rfl, rfl, m.fileSystem, synced, told, hasked.trace⟩
  · obtain ⟨he, hanswer⟩ := h.run
    have hsilent : c.isSilent = false := by cases h <;> rfl
    have hlast := hrun c hsilent
    rw [he] at hlast
    exact ⟨he, hlast, hanswer⟩

/-- A socket that refuses to be made, and then to be closed. -/
example :
    let script := (({} : Script).enqueue (.io (.socket ⟨0, 0⟩)) "socket"
        [{ error := some .notSupported }]).enqueue (.io (.socket ⟨0, 0⟩)) "close"
        [{ error := some .fault }]
    let p : Posix Script :=
      { table := .new 4, mounts := .new 1, registry := .new 1, lastError := some .busy
        world := { embedder := script, pools := fun _ => .new 1, socketPool := some 0 } }
    (p.socket 2 1 0).2.lastError = some .notSupported ∧
      (p.socket 2 1 0).2.world.log.head? = some (.socketCloseFailed .fault) := by
  decide +kernel

end Posix

end PosixVfs
