import PosixVfs.Proofs.Descriptor.Foreign
import PosixVfs.Proofs.World.Ledger
import PosixVfs.Stream.Handle

/-!
# Proofs/Descriptor/Accounting — bindings and open streams hold the slots

A file or socket is in use while it has a descriptor, a directory while a stream on it is open
(`World.InUse`).  `Table.Accounted` says that the table is truthful and that the ledger is kept for
this use.  `Accounted.bind` and `Accounted.openStream` are the ways in, `Accounted.close` and
`Accounted.closeStream` the ways out.  None of this asks how many slots the table has: an object in a
slot that no descriptor stands for is in use as well, and holds its own slot.
-/

namespace PosixVfs

variable {ε : Type}

namespace World

/-- Somebody uses the object: it has a descriptor, or a stream on it is open. -/
def InUse (w : World ε) (streams : List DirectoryId) : ObjectId → Prop
  | .io o => (w.descriptor o).isSome
  | .directory d => d ∈ streams
  | _ => False

section InUse

variable {w w' : World ε} {streams : List DirectoryId}

theorem inUse_congr (h : w'.descriptor = w.descriptor) (x : ObjectId) :
    w'.InUse streams x ↔ w.InUse streams x := by
  cases x with
  | io o => rw [InUse, InUse, h]
  | _ => rfl

theorem inUse_setDescriptor_some (o : IoId) (fd : Fd) (x : ObjectId) :
    (w.setDescriptor o (some fd)).InUse streams x ↔ x = .io o ∨ w.InUse streams x := by
  rcases x with o' | d | s | k
  · change (assign w.descriptor o (some fd) o').isSome ↔ _
    by_cases h : o' = o
    · subst h
      simp
    · rw [assign_of_ne _ _ _ h]
      simp [h, InUse]
  all_goals simp [InUse]

theorem inUse_setDescriptor_none (o : IoId) (x : ObjectId) :
    (w.setDescriptor o none).InUse streams x ↔ w.InUse streams x ∧ x ≠ .io o := by
  rcases x with o' | d | s | k
  · change (assign w.descriptor o none o').isSome ↔ _
    by_cases h : o' = o
    · subst h
      simp
    · rw [assign_of_ne _ _ _ h]
      simp [h, InUse]
  all_goals simp [InUse]

theorem inUse_cons (d : DirectoryId) (x : ObjectId) :
    w.InUse (d :: streams) x ↔ x = .directory d ∨ w.InUse streams x := by
  rcases x with o' | d' | s | k <;> simp [InUse]

theorem inUse_erase (hnodup : streams.Nodup) (d : DirectoryId) (x : ObjectId) :
    w.InUse (streams.erase d) x ↔ w.InUse streams x ∧ x ≠ .directory d := by
  rcases x with o' | d' | s | k
  case directory =>
    change d' ∈ streams.erase d ↔ d' ∈ streams ∧ _
    rw [hnodup.mem_erase_iff, and_comm, Ne, Ne, ObjectId.directory.injEq]
  all_goals simp [InUse]

/-! ### What comes into use, and what goes out of it -/

variable {w₁ : World ε} {o : IoId} {events : List Event}

/-- An object that was found and bound comes into use. -/
theorem inUse_bind {fd : Fd} (hf : w.Finds o w₁)
    (ha : w.After events (w₁.setDescriptor o (some fd)).books w') (x : ObjectId) :
    w'.InUse streams x ↔ x = .io o ∨ w.InUse streams x := by
  have hd : w'.descriptor = (w.setDescriptor o (some fd)).descriptor :=
    (descriptor_of_books ha.books).trans (hf.descriptor_setDescriptor _)
  rw [inUse_congr hd, inUse_setDescriptor_some]

/-- A directory with a new stream on it comes into use. -/
theorem inUse_openStream {i slot : Nat}
    (ha : w.After events (w.take (.directories i) slot).books w') (x : ObjectId) :
    w'.InUse (⟨i, slot⟩ :: streams) x ↔ x = .directory ⟨i, slot⟩ ∨ w.InUse streams x := by
  rw [inUse_cons, inUse_congr (descriptor_of_books ha.books)]
  exact Iff.rfl

/-- An object that was closed goes out of use. -/
theorem inUse_close
    (hb : w'.books = ((w.setDescriptor o none).giveBack (.io o)).2.books) (x : ObjectId) :
    w'.InUse streams x ↔ w.InUse streams x ∧ x ≠ .io o := by
  have hd : w'.descriptor = (w.setDescriptor o none).descriptor :=
    (descriptor_of_books hb).trans (descriptor_giveBack _ _)
  rw [inUse_congr hd, inUse_setDescriptor_none]

/-- A directory whose stream was closed goes out of use. -/
theorem inUse_closeStream (hnodup : streams.Nodup) {d : DirectoryId}
    (ha : w.After events (w.giveBack (.directory d)).2.books w') (x : ObjectId) :
    w'.InUse (streams.erase d) x ↔ w.InUse streams x ∧ x ≠ .directory d := by
  have hd : w'.descriptor = w.descriptor :=
    (descriptor_of_books ha.books).trans (descriptor_giveBack _ _)
  rw [inUse_erase hnodup, inUse_congr hd]

end InUse

end World

namespace Table

/-- **Accounting.**  The table is truthful, and slots are held by what is bound or read from. -/
structure Accounted (t : Table) (w : World ε) (streams : List DirectoryId) : Prop where
  truthful : t.Truthful w
  nodup : streams.Nodup
  ledger : w.Ledger (w.InUse streams)

namespace Accounted

variable {t : Table} {w w₁ w' : World ε} {streams : List DirectoryId}

/-- What leaves the books alone keeps the accounts. -/
theorem of_books (h : t.Accounted w streams) (hb : w'.books = w.books) : t.Accounted w' streams where
  truthful := h.truthful.congr (World.descriptor_of_books hb)
  nodup := h.nodup
  ledger := h.ledger.of_books hb fun x _ => World.inUse_congr (World.descriptor_of_books hb) x

/-- A world whose slots are accounted for is tidy. -/
theorem tidy (h : t.Accounted w streams) : w.Tidy where
  pooled x p hx := ⟨p, h.ledger.home x p hx⟩
  unattached p slot hv := h.ledger.owner_of_vacant hv
  unbound p slot o hv hm := by
    have hnot := h.ledger.not_inUse_of_vacant hv
    rw [hm] at hnot
    exact Option.not_isSome_iff_eq_none.mp hnot

/-! ## Ways in -/

/-- **Binding** an object that was found enters it into the accounts. -/
theorem bind (h : t.Accounted w streams) {o : IoId} {fd : Fd} {i : Nat} (hf : w.Finds o w₁)
    (hi : i < t.capacity) (hfd : ∀ fd', fd'.index? t.capacity = some i → fd' = fd)
    (ho : w.descriptor o = none) {events : List Event}
    (ha : w.After events (w₁.setDescriptor o (some fd)).books w') :
    (t.set i (some o)).Accounted w' streams := by
  have hd : w'.descriptor = (w.setDescriptor o (some fd)).descriptor :=
    (World.descriptor_of_books ha.books).trans (hf.descriptor_setDescriptor _)
  refine ⟨(h.truthful.bind hi hfd ho).congr hd, h.nodup, ?_⟩
  have huse : ∀ x, w'.InUse streams x ↔ x = .io o ∨ w.InUse streams x := World.inUse_bind hf ha
  cases hf with
  | unpooled hx =>
      refine (h.ledger.setDescriptor o _).of_books ha.books fun x hpooled => ?_
      rw [huse]
      exact or_iff_right fun e => hx (e ▸ hpooled)
  | taken offer member =>
      refine ((h.ledger.take offer).setDescriptor o _).of_books ha.books fun x _ => ?_
      rw [huse, member]

/-- **Opening a stream** enters the directory into the accounts. -/
theorem openStream (h : t.Accounted w streams) {i slot : Nat} (ho : w.Offers (.directories i) slot)
    {events : List Event} (ha : w.After events (w.take (.directories i) slot).books w') :
    t.Accounted w' (⟨i, slot⟩ :: streams) := by
  have hnot := h.ledger.not_inUse_of_vacant (.of_offers ho)
  have hd : w'.descriptor = w.descriptor := (World.descriptor_of_books ha.books).trans rfl
  refine ⟨h.truthful.congr hd, List.nodup_cons.mpr ⟨hnot, h.nodup⟩, ?_⟩
  exact (h.ledger.take ho).of_books ha.books fun x _ => World.inUse_openStream ha x

/-! ## Ways out -/

/-- **Closing** crosses the object out of the accounts, if nobody else is found under its number. -/
theorem close [Embedder ε] (h : t.Accounted w streams) {o : IoId}
    (hfound : ∀ o', o.foundIn? t w = some o' → o' = o) :
    (o.close t w).2.1.Accounted (o.close t w).2.2 streams := by
  have hb := o.books_close t w hfound
  refine ⟨h.truthful.close o, h.nodup, ?_⟩
  exact ((h.ledger.setDescriptor o none).giveBack (.io o)).of_books hb
    fun x _ => World.inUse_close hb x

/-- An object that a descriptor finds is the one that is found under its number. -/
theorem close_of_io? [Embedder ε] (h : t.Accounted w streams) {fd : Fd} {o : IoId}
    (hio : t.io? fd = some o) : (o.close t w).2.1.Accounted (o.close t w).2.2 streams :=
  h.close fun _ hfound => Option.some.inj (hfound.symm.trans (h.truthful.foundIn?_eq hio))

/-- **Closing a stream** crosses the directory out of the accounts. -/
theorem closeStream (h : t.Accounted w streams) (d : DirectoryId) {events : List Event}
    (ha : w.After events (w.giveBack (.directory d)).2.books w') :
    t.Accounted w' (streams.erase d) := by
  have hd : w'.descriptor = w.descriptor :=
    (World.descriptor_of_books ha.books).trans (World.descriptor_giveBack _ _)
  refine ⟨h.truthful.congr hd, h.nodup.erase d, ?_⟩
  exact (h.ledger.giveBack (.directory d)).of_books ha.books
    fun x _ => World.inUse_closeStream h.nodup ha x

end Accounted

end Table

end PosixVfs
