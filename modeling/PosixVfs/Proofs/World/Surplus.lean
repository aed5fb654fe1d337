import PosixVfs.Proofs.World.Books

/-!
# Proofs/World/Surplus — what was opened and not closed

The trace says of every object how often it was opened (`World.openings`) and how often it was asked
to close (`World.closings`).  The `surplus` is the difference, and it adds up over a trace.  A world
is **even** with a use of objects if what is in use was opened once more than it was closed, and
everything else as often: what comes into use is opened (`Even.enter`), what goes out of use is
closed (`Even.leave`), and whatever else happens opens and closes in equal measure
(`World.Restores`).
-/

namespace PosixVfs

variable {ε : Type}

namespace Hook

/-- The object that is open after this answer, if there is one.  A file, a device or a directory
opens by agreeing to it, and so does the connection that a listener agrees to accept; a socket that
is to be created counts as open whatever it answers. -/
def opens? : (h : Hook) → h.Reply → Option ObjectId
  | opening (.socket _) _ _ _, _ => none
  | opening o _ _ _, .ok _ => some (.io o)
  | create s _ _ _, _ => some (.io (.socket s))
  | accept _ connection, .ok _ => some (.io (.socket connection))
  | openDirectory d _, .ok _ => some (.directory d)
  | _, _ => none

/-- The object that is asked to close.  It is closed whatever it answers. -/
def closes? : Hook → Option ObjectId
  | closing o => some (.io o)
  | closeDirectory d => some (.directory d)
  | _ => none

/-- The hook neither opens nor closes. -/
def isQuiet : Hook → Bool
  | opening _ _ _ _ | create _ _ _ _ | accept _ _ | openDirectory _ _ | closing _
  | closeDirectory _ => false
  | _ => true

theorem opens?_of_isQuiet {h : Hook} (hq : h.isQuiet = true) (r : h.Reply) : h.opens? r = none := by
  cases h <;> first | rfl | cases hq

theorem closes?_of_isQuiet {h : Hook} (hq : h.isQuiet = true) : h.closes? = none := by
  cases h <;> first | rfl | cases hq

end Hook

/-- The event opens the object. -/
def Event.opens (x : ObjectId) (e : Event) : Bool := e.hook.opens? e.reply == some x

/-- The event closes the object. -/
def Event.closes (x : ObjectId) (e : Event) : Bool := e.hook.closes? == some x

/-- How often an object was opened in these events, less how often it was closed. -/
def surplus (events : List Event) (x : ObjectId) : Int :=
  events.countP (Event.opens x) - events.countP (Event.closes x)

section Surplus

variable {x y : ObjectId}

@[simp] theorem surplus_nil (x : ObjectId) : surplus [] x = 0 := rfl

theorem surplus_append (events events' : List Event) (x : ObjectId) :
    surplus (events ++ events') x = surplus events x + surplus events' x := by
  simp only [surplus, List.countP_append]
  omega

theorem surplus_singleton (e : Event) (x : ObjectId) :
    surplus [e] x = (if e.hook.opens? e.reply = some x then 1 else 0) -
      if e.hook.closes? = some x then 1 else 0 := by
  simp only [surplus, List.countP_singleton, Event.opens, Event.closes, beq_iff_eq]
  split <;> split <;> rfl

/-- What opens `y` and closes nothing. -/
theorem surplus_of_opens {e : Event} (ho : e.hook.opens? e.reply = some y)
    (hc : e.hook.closes? = none) (x : ObjectId) : surplus [e] x = if x = y then 1 else 0 := by
  simp [surplus_singleton, ho, hc, eq_comm]

/-- What closes `y` and opens nothing. -/
theorem surplus_of_closes {e : Event} (ho : e.hook.opens? e.reply = none)
    (hc : e.hook.closes? = some y) (x : ObjectId) : surplus [e] x = -if x = y then 1 else 0 := by
  simp [surplus_singleton, ho, hc, eq_comm]

/-- What was opened and is closed again. -/
theorem surplus_append_closing {events : List Event} {o : IoId}
    (h : ∀ x, surplus events x = if x = .io o then 1 else 0) (answer : Except Errno Unit)
    (x : ObjectId) : surplus (events ++ [⟨.closing o, answer⟩]) x = 0 := by
  rw [surplus_append, h, surplus_of_closes rfl rfl, Int.add_right_neg]

/-- What neither opens nor closes. -/
theorem surplus_of_quiet {e : Event} (ho : e.hook.opens? e.reply = none)
    (hc : e.hook.closes? = none) (x : ObjectId) : surplus [e] x = 0 := by
  simp [surplus_singleton, ho, hc]

end Surplus

namespace World

/-- How often an object was opened. -/
def openings (w : World ε) (x : ObjectId) : Nat := w.trace.countP (Event.opens x)

/-- How often an object was asked to close. -/
def closings (w : World ε) (x : ObjectId) : Nat := w.trace.countP (Event.closes x)

/-! ## Nothing is left open -/

/-- The books of `w'` are those of `w`, and in between nothing was opened that was not closed. -/
def Restores (w w' : World ε) : Prop :=
  ∃ events, w.After events w.books w' ∧ ∀ x, surplus events x = 0

namespace Restores

variable {w w' w'' : World ε}

theorem refl (w : World ε) : w.Restores w := ⟨[], .refl w, surplus_nil⟩

theorem of_after (h : w.After [] w.books w') : w.Restores w' := ⟨[], h, surplus_nil⟩

theorem note (h : w.Restores w') {r : LogRecord} (hr : r.isStray = false) :
    w.Restores (w'.note r) :=
  h.imp fun _ h => h.imp_left fun ha => ha.note hr

theorem noteFailure {α : Type} (h : w.Restores w') (r : Except Errno α) {f : Errno → LogRecord}
    (hf : ∀ e, (f e).isStray = false) : w.Restores (w'.noteFailure r f) :=
  h.imp fun _ h => h.imp_left fun ha => ha.noteFailure r hf

theorem setDisk (h : w.Restores w') (s : FileSystemId) (k : Option DiskId) :
    w.Restores (w'.setDisk s k) :=
  h.imp fun _ h => h.imp_left fun ha => ha.setDisk s k

theorem setEntry (h : w.Restores w') (d : DirectoryId) (e : Entry) :
    w.Restores (w'.setEntry d e) :=
  h.imp fun _ h => h.imp_left fun ha => ha.setEntry d e

/-- Asking opens and closes nothing, unless it is about that. -/
theorem ask [Embedder ε] (h : w.Restores w') {q : Hook} {r : q.Reply} (hq : q.isQuiet = true)
    (ha : w'.ask q = (r, w'')) : w.Restores w'' := by
  obtain ⟨events, hafter, hsurplus⟩ := h
  refine ⟨_, hafter.ask ha, fun x => ?_⟩
  rw [surplus_append, hsurplus,
    surplus_of_quiet (Hook.opens?_of_isQuiet hq r) (Hook.closes?_of_isQuiet hq), Int.add_zero]

end Restores

/-! ## Even worlds -/

/-- **Evenness.**  What is in use was opened once more than it was closed, everything else as
often. -/
structure Even (w : World ε) (inUse : ObjectId → Prop) : Prop where
  one : ∀ x, inUse x → surplus w.trace x = 1
  zero : ∀ x, ¬ inUse x → surplus w.trace x = 0

namespace Even

variable {w w' : World ε} {inUse inUse' : ObjectId → Prop} {events : List Event} {b : Books}
  {y : ObjectId}

theorem openings_of_inUse (h : w.Even inUse) {x : ObjectId} (hx : inUse x) :
    w.openings x = w.closings x + 1 := by
  have hone := h.one x hx
  rw [surplus] at hone
  rw [openings, closings]
  omega

theorem openings_of_not_inUse (h : w.Even inUse) {x : ObjectId} (hx : ¬ inUse x) :
    w.openings x = w.closings x := by
  have hzero := h.zero x hx
  rw [surplus] at hzero
  rw [openings, closings]
  omega

/-- What opens and closes in equal measure. -/
theorem after (h : w.Even inUse) (ha : w.After events b w') (hs : ∀ x, surplus events x = 0)
    (huse : ∀ x, inUse' x ↔ inUse x) : w'.Even inUse' := by
  refine ⟨fun x hx => ?_, fun x hx => ?_⟩
  · rw [ha.trace, surplus_append, hs, Int.add_zero]
    exact h.one x ((huse x).mp hx)
  · rw [ha.trace, surplus_append, hs, Int.add_zero]
    exact h.zero x fun hold => hx ((huse x).mpr hold)

/-- **Coming into use** is being opened. -/
theorem enter (h : w.Even inUse) (ha : w.After events b w')
    (hs : ∀ x, surplus events x = if x = y then 1 else 0) (hy : ¬ inUse y)
    (huse : ∀ x, inUse' x ↔ x = y ∨ inUse x) : w'.Even inUse' := by
  refine ⟨fun x hx => ?_, fun x hx => ?_⟩
  · rw [ha.trace, surplus_append, hs]
    obtain rfl | hold := (huse x).mp hx
    · rw [h.zero x hy, if_pos rfl, Int.zero_add]
    · have hne : x ≠ y := fun e => hy (e ▸ hold)
      rw [h.one x hold, if_neg hne, Int.add_zero]
  · rw [huse, not_or] at hx
    rw [ha.trace, surplus_append, hs, h.zero x hx.2, if_neg hx.1, Int.add_zero]

/-- **Going out of use** is being closed. -/
theorem leave (h : w.Even inUse) (ha : w.After events b w')
    (hs : ∀ x, surplus events x = -if x = y then 1 else 0) (hy : inUse y)
    (huse : ∀ x, inUse' x ↔ inUse x ∧ x ≠ y) : w'.Even inUse' := by
  refine ⟨fun x hx => ?_, fun x hx => ?_⟩
  · obtain ⟨hold, hne⟩ := (huse x).mp hx
    rw [ha.trace, surplus_append, hs, h.one x hold, if_neg hne]
    rfl
  · rw [ha.trace, surplus_append, hs]
    by_cases hxy : x = y
    · rw [hxy, h.one y hy, if_pos rfl]
      rfl
    · have hold : ¬ inUse x := fun hold => hx ((huse x).mpr ⟨hold, hxy⟩)
      rw [h.zero x hold, if_neg hxy]
      rfl

end Even

end World

end PosixVfs
