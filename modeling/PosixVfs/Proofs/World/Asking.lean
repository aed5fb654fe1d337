import PosixVfs.Proofs.World.Books

/-!
# Proofs/World/Asking — a world that was asked something and is otherwise as it was

The trace of a world says which hooks were called; that the embedder really went through them, from
the state it was in, is `Embedder.Gives`.  `World.Asked` says that this is all that happened to a
world: the embedder has answered, the answers are in the trace, something may have been written to
the log, and every other part is the same.
-/

namespace PosixVfs

variable {ε : Type} [Embedder ε]

/-- An embedder in state `e` that is asked these hooks in order gives these answers, and ends in
state `e'`. -/
def Embedder.Gives (e : ε) : List Event → ε → Prop
  | [], e' => e' = e
  | event :: rest, e' =>
      (answer event.hook e).1 = event.reply ∧ Gives (answer event.hook e).2 rest e'

namespace Embedder.Gives

theorem append {e e' e'' : ε} {events events' : List Event} (h : Gives e events e')
    (h' : Gives e' events' e'') : Gives e (events ++ events') e'' := by
  induction events generalizing e with
  | nil =>
      obtain rfl : e' = e := h
      exact h'
  | cons event rest ih => exact ⟨h.1, ih h.2⟩

end Embedder.Gives

namespace World

/-- The hooks in `events` were called, with these answers, and something may have been logged; all
else is in `w'` as it is in `w`. -/
structure Asked (w : World ε) (events : List Event) (w' : World ε) : Prop where
  gives : Embedder.Gives w.embedder events w'.embedder
  rest : w' = { w with
    embedder := w'.embedder, trace := w.trace ++ events, log := w'.log }

namespace Asked

variable {w w' w'' : World ε} {events events' : List Event}

theorem refl (w : World ε) : w.Asked [] w where
  gives := rfl
  rest := by rw [List.append_nil]

theorem trace (h : w.Asked events w') : w'.trace = w.trace ++ events :=
  congrArg World.trace h.rest

theorem disk (h : w.Asked events w') : w'.disk = w.disk := by
  rw [h.rest]

/-- Asking and then moving a disk is moving it and then asking. -/
theorem setDisk (h : w.Asked events w') (s : FileSystemId) (k : Option DiskId) :
    (w.setDisk s k).Asked events (w'.setDisk s k) where
  gives := h.gives
  rest := by
    rw [h.rest]
    rfl

theorem trans (h : w.Asked events w') (h' : w'.Asked events' w'') :
    w.Asked (events ++ events') w'' where
  gives := h.gives.append h'.gives
  rest := by
    rw [h'.rest, h.rest]
    simp only [List.append_assoc]

/-- **Asking a hook** is asking nothing else. -/
theorem ask {q : Hook} {r : q.Reply} (h : w.ask q = (r, w')) : w.Asked [⟨q, r⟩] w' := by
  obtain ⟨rfl, rfl⟩ := Prod.mk.inj h
  exact ⟨⟨rfl, rfl⟩, rfl⟩

theorem note (h : w.Asked events w') (r : LogRecord) : w.Asked events (w'.note r) where
  gives := h.gives
  rest := by
    rw [World.note, h.rest]

/-- Noting that something failed asks nothing. -/
theorem noteFailure (h : w.Asked events w') {α : Type} (r : Except Errno α)
    (record : Errno → LogRecord) : w.Asked events (w'.noteFailure r record) := by
  rcases r with e | a
  · exact h.note _
  · exact h

end Asked

end World

end PosixVfs
