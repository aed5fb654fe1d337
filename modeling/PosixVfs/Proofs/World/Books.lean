import PosixVfs.World.Slots

/-!
# Proofs/World/Books — who holds what, and how a world moves on

The **books** of a world say who holds what: which slots are held, which pool each object goes back
to, which descriptor each object has.  Asking an embedder or writing a record never changes them.
`World.After` follows a world through a function of the library: which hooks were called, and what
has become of the books.  It is built up by one lemma for each thing a function can do, so a
function's own lemma is the list of what the function does.
-/

namespace PosixVfs

/-- The last of two replacements at the same place counts. -/
theorem assign_assign {α β : Type} [DecidableEq α] (f : α → β) (a : α) (b c : β) :
    assign (assign f a b) a c = assign f a c := by
  funext x
  by_cases h : x = a <;> simp [assign, h]

/-- Who holds what: a world without its embedder, its records, its entries and its disks. -/
structure Books where
  catalog : Catalog
  pools : PoolId → Pool
  owner : ObjectId → Option PoolId
  descriptor : IoId → Option Fd
  socketPool : Option Nat

/-- A record of a closing that did not find its descriptor bound in the table. -/
def LogRecord.isStray : LogRecord → Bool
  | notBoundInTable _ => true
  | _ => false

namespace World

variable {ε : Type}

/-- The books of a world. -/
def books (w : World ε) : Books := ⟨w.catalog, w.pools, w.owner, w.descriptor, w.socketPool⟩

/-- How many closings did not find their descriptor bound in the table. -/
def strays (w : World ε) : Nat := w.log.countP LogRecord.isStray

/-- The disk that a file system was given last counts. -/
theorem setDisk_setDisk (w : World ε) (s : FileSystemId) (k k' : Option DiskId) :
    (w.setDisk s k).setDisk s k' = w.setDisk s k' := by
  rw [setDisk, setDisk, setDisk, assign_assign]

section Projections

variable {w w' : World ε}

@[simp] theorem descriptor_books (w : World ε) : w.books.descriptor = w.descriptor := rfl

theorem books_eq_iff : w'.books = w.books ↔ w'.catalog = w.catalog ∧ w'.pools = w.pools ∧
    w'.owner = w.owner ∧ w'.descriptor = w.descriptor ∧ w'.socketPool = w.socketPool := by
  rw [books, books, Books.mk.injEq]

theorem catalog_of_books (h : w'.books = w.books) : w'.catalog = w.catalog :=
  congrArg Books.catalog h

theorem pools_of_books (h : w'.books = w.books) : w'.pools = w.pools := congrArg Books.pools h

theorem owner_of_books (h : w'.books = w.books) : w'.owner = w.owner := congrArg Books.owner h

theorem descriptor_of_books (h : w'.books = w.books) : w'.descriptor = w.descriptor :=
  congrArg Books.descriptor h

theorem socketPool_of_books (h : w'.books = w.books) : w'.socketPool = w.socketPool :=
  congrArg Books.socketPool h

/-- Which pools are alive is read off the books. -/
theorem poolAlive_of_books (h : w'.books = w.books) : w'.poolAlive = w.poolAlive := by
  funext p
  rw [poolAlive, poolAlive, pools_of_books h, catalog_of_books h, socketPool_of_books h]

theorem books_setDescriptor_congr (h : w'.books = w.books) (o : IoId) (fd : Option Fd) :
    (w'.setDescriptor o fd).books = (w.setDescriptor o fd).books := by
  obtain ⟨hc, hp, ho, hd, hs⟩ := books_eq_iff.mp h
  simp [books, setDescriptor, hc, hp, ho, hd, hs]

theorem books_setPool_congr (h : w'.books = w.books) (p : PoolId) (pool : Pool) :
    (w'.setPool p pool).books = (w.setPool p pool).books := by
  obtain ⟨hc, hp, ho, hd, hs⟩ := books_eq_iff.mp h
  simp [books, setPool, hc, hp, ho, hd, hs]

theorem books_setOwner_congr (h : w'.books = w.books) (x : ObjectId) (p : Option PoolId) :
    (w'.setOwner x p).books = (w.setOwner x p).books := by
  obtain ⟨hc, hp, ho, hd, hs⟩ := books_eq_iff.mp h
  simp [books, setOwner, hc, hp, ho, hd, hs]

/-- Telling an object again that it has no descriptor changes nothing. -/
theorem books_setDescriptor_of_none {o : IoId} (h : w.descriptor o = none) :
    (w.setDescriptor o none).books = w.books := by
  refine books_eq_iff.mpr ⟨rfl, rfl, rfl, ?_, rfl⟩
  change assign w.descriptor o none = w.descriptor
  rw [← h, assign_eq_self]

/-- Telling an object again that it has no owner changes nothing. -/
theorem books_setOwner_of_none {x : ObjectId} (h : w.owner x = none) :
    (w.setOwner x none).books = w.books := by
  refine books_eq_iff.mpr ⟨rfl, rfl, ?_, rfl, rfl⟩
  change assign w.owner x none = w.owner
  rw [← h, assign_eq_self]

end Projections

/-! ## How a world moves on -/

/-- `w'` is what has become of `w`: the hooks in `events` were called with these answers, the books
are now `b`, and no closing went astray. -/
structure After (w : World ε) (events : List Event) (b : Books) (w' : World ε) : Prop where
  books : w'.books = b
  trace : w'.trace = w.trace ++ events
  strays : w'.strays = w.strays

theorem strays_note (w : World ε) {r : LogRecord} (h : r.isStray = false) :
    (w.note r).strays = w.strays := by
  simp [strays, note, h]

/-- Asking leaves a world as it was, but for the embedder's own state and one more event. -/
theorem exists_of_ask [Embedder ε] {w w' : World ε} {q : Hook} {r : q.Reply}
    (h : w.ask q = (r, w')) :
    ∃ e, w' = { w with embedder := e, trace := w.trace ++ [⟨q, r⟩] } := by
  obtain ⟨rfl, rfl⟩ := Prod.mk.inj h
  exact ⟨_, rfl⟩

namespace After

variable {w w₁ w' w'' : World ε} {events : List Event} {b : Books}

theorem refl (w : World ε) : w.After [] w.books w :=
  ⟨rfl, (List.append_nil _).symm, rfl⟩

theorem of_books (h : w'.books = b) : w'.After [] b w' := h ▸ refl w'

theorem trans {events' : List Event} {b' : Books} (h : w.After events b w')
    (h' : w'.After events' b' w'') : w.After (events ++ events') b' w'' where
  books := h'.books
  trace := by rw [h'.trace, h.trace, List.append_assoc]
  strays := h'.strays.trans h.strays

/-- A record of anything but a stray closing. -/
theorem note (h : w.After events b w') {r : LogRecord} (hr : r.isStray = false) :
    w.After events b (w'.note r) :=
  ⟨h.books, h.trace, (strays_note w' hr).trans h.strays⟩

theorem noteFailure {α : Type} (h : w.After events b w') (r : Except Errno α)
    {f : Errno → LogRecord} (hf : ∀ e, (f e).isStray = false) :
    w.After events b (w'.noteFailure r f) := by
  rcases r with e | a
  · exact h.note (hf e)
  · exact h

/-- **Asking an embedder** adds an event and leaves the books alone. -/
theorem ask [Embedder ε] (h : w.After events b w') {q : Hook} {r : q.Reply}
    (ha : w'.ask q = (r, w'')) : w.After (events ++ [⟨q, r⟩]) b w'' := by
  obtain ⟨e, rfl⟩ := exists_of_ask ha
  exact ⟨h.books, by simp [h.trace], h.strays⟩

theorem setDescriptor (h : w.After events w₁.books w') (o : IoId) (fd : Option Fd) :
    w.After events (w₁.setDescriptor o fd).books (w'.setDescriptor o fd) :=
  ⟨books_setDescriptor_congr h.books o fd, h.trace, h.strays⟩

theorem setDisk (h : w.After events b w') (s : FileSystemId) (k : Option DiskId) :
    w.After events b (w'.setDisk s k) := ⟨h.books, h.trace, h.strays⟩

theorem setEntry (h : w.After events b w') (d : DirectoryId) (e : Entry) :
    w.After events b (w'.setEntry d e) := ⟨h.books, h.trace, h.strays⟩

theorem setPool (h : w.After events w₁.books w') (p : PoolId) (pool : Pool) :
    w.After events (w₁.setPool p pool).books (w'.setPool p pool) :=
  ⟨books_setPool_congr h.books p pool, h.trace, h.strays⟩

theorem setOwner (h : w.After events w₁.books w') (x : ObjectId) (p : Option PoolId) :
    w.After events (w₁.setOwner x p).books (w'.setOwner x p) :=
  ⟨books_setOwner_congr h.books x p, h.trace, h.strays⟩

end After

end World

end PosixVfs
