import PosixVfs.Proofs.Descriptor.Accounting
import PosixVfs.Proofs.Descriptor.Sound
import PosixVfs.Proofs.World.Surplus

/-!
# Proofs/Descriptor/Settlement — what is in use is open, and nothing else

The accounts say what is in use.  They are **settled** (`Table.Settled`) if in addition table and
objects agree and the hooks are even with it: an object in use was opened once more than it was
closed.  Directories need no
account of which pools are alive: the slots that are held are those of the open streams
(`World.HoldsStreams`), since a stream comes from a pool that a file system uses, and such a pool
never dies.
-/

namespace PosixVfs

variable {ε : Type}

/-! ## Slots of directories -/

/-- **A slot of a directory is held** exactly if a stream on it is open; and a stream comes from a
pool that a file system uses. -/
structure World.HoldsStreams (w : World ε) (streams : List DirectoryId) : Prop where
  isHeld_iff : ∀ d : DirectoryId,
    (w.pools (.directories d.pool)).isHeld d.slot = true ↔ d ∈ streams
  uses : ∀ d ∈ streams, w.catalog.uses (.directories d.pool) = true

namespace World.HoldsStreams

variable {w w₁ w' : World ε} {streams : List DirectoryId} {o : IoId}

/-- What does not hold or free directories leaves them with the streams. -/
theorem congr (h : w.HoldsStreams streams) (hcatalog : w'.catalog = w.catalog)
    (hheld : ∀ d : DirectoryId, (w'.pools (.directories d.pool)).isHeld d.slot = true ↔
      (w.pools (.directories d.pool)).isHeld d.slot = true) : w'.HoldsStreams streams :=
  ⟨fun d => (hheld d).trans (h.isHeld_iff d), fun d hd => hcatalog ▸ h.uses d hd⟩

theorem of_books (h : w.HoldsStreams streams) (hb : w'.books = w.books) :
    w'.HoldsStreams streams :=
  h.congr (catalog_of_books hb) fun d => by rw [pools_of_books hb]

/-- Finding something that can be bound takes no directory. -/
theorem finds (h : w.HoldsStreams streams) (hf : w.Finds o w₁) : w₁.HoldsStreams streams := by
  cases hf with
  | unpooled _ => exact h
  | taken offer member =>
      refine h.congr rfl fun d => ?_
      rw [offer.isHeld_take, member]
      exact or_iff_left nofun

/-- Giving back a file or a socket frees no directory. -/
theorem giveBack (h : w.HoldsStreams streams) (o : IoId) :
    (w.giveBack (.io o)).2.HoldsStreams streams := by
  refine h.congr (w.catalog_giveBack _) fun d => ?_
  rw [isHeld_giveBack]
  exact and_iff_left nofun

/-- **Opening a stream** holds its directory. -/
theorem openStream (h : w.HoldsStreams streams) {i slot : Nat}
    (ho : w.Offers (.directories i) slot) (hu : w.catalog.uses (.directories i) = true) :
    (w.take (.directories i) slot).HoldsStreams (⟨i, slot⟩ :: streams) := by
  refine ⟨fun d => ?_, fun d hd => ?_⟩
  · rw [ho.isHeld_take, h.isHeld_iff, List.mem_cons, or_comm]
    exact or_congr_left ⟨fun e => ObjectId.directory.inj e, by rintro rfl; rfl⟩
  · obtain rfl | hd := List.mem_cons.mp hd
    · exact hu
    · exact h.uses d hd

/-- **Closing a stream** frees its directory. -/
theorem closeStream (h : w.HoldsStreams streams) (hnodup : streams.Nodup) {d : DirectoryId}
    (howner : w.owner (.directory d) = some (.directories d.pool)) (hd : d ∈ streams) :
    (w.giveBack (.directory d)).2.HoldsStreams (streams.erase d) := by
  have halive : w.poolAlive (.directories d.pool) = true := poolAlive_of_uses (h.uses d hd)
  refine ⟨fun d' => ?_, fun d' hd' => ?_⟩
  · rw [isHeld_giveBack, h.isHeld_iff, hnodup.mem_erase_iff, and_comm]
    refine and_congr_left fun _ => not_congr ⟨fun ⟨_, _, e⟩ => ?_, ?_⟩
    · exact (ObjectId.directory.inj e).symm
    · rintro rfl
      exact ⟨howner, halive, rfl⟩
  · rw [catalog_giveBack]
    exact h.uses d' (List.mem_of_mem_erase hd')

end World.HoldsStreams

/-! ## Settled accounts -/

namespace Table

/-- **Settled accounts.**  What is bound or read from holds its slot, and is open; nothing else
is. -/
structure Settled (t : Table) (w : World ε) (streams : List DirectoryId) : Prop
    extends t.Accounted w streams where
  sound : t.Sound w
  even : w.Even (w.InUse streams)
  holds : w.HoldsStreams streams

namespace Settled

variable {t : Table} {w w₁ w' : World ε} {streams : List DirectoryId} {events : List Event}

/-- What leaves the books alone, and nothing open. -/
theorem restores (h : t.Settled w streams) (hr : w.Restores w') : t.Settled w' streams := by
  obtain ⟨events, ha, hs⟩ := hr
  refine ⟨h.toAccounted.of_books ha.books, h.sound.after ha rfl, h.even.after ha hs fun x => ?_,
    h.holds.of_books ha.books⟩
  exact World.inUse_congr (World.descriptor_of_books ha.books) x

/-- **Binding** an object that was found and opened. -/
theorem bind (h : t.Settled w streams) {o : IoId} {fd : Fd} {i : Nat} (hf : w.Finds o w₁)
    (hi : fd.index? t.capacity = some i) (hfree : t.object? i = none) (ho : w.descriptor o = none)
    (ha : w.After events (w₁.setDescriptor o (some fd)).books w')
    (hs : ∀ x, surplus events x = if x = .io o then 1 else 0) :
    (t.set i (some o)).Settled w' streams := by
  have hfd : ∀ fd', fd'.index? t.capacity = some i → fd' = fd := fun _ hi' => Fd.index?_inj hi' hi
  refine ⟨h.toAccounted.bind hf (Fd.lt_of_index? hi) hfd ho ha,
    h.sound.bind hi hfree ho ha (hf.descriptor_setDescriptor _), ?_, ?_⟩
  · refine h.even.enter ha hs (fun huse => ?_) (World.inUse_bind hf ha)
    rw [World.InUse, ho] at huse
    cases huse
  · have hholds : (w₁.setDescriptor o (some fd)).HoldsStreams streams :=
      (h.holds.finds hf).congr rfl fun _ => Iff.rfl
    exact hholds.of_books ha.books

/-- **Opening a stream** on a directory that was taken and opened. -/
theorem openStream (h : t.Settled w streams) {i slot : Nat} (ho : w.Offers (.directories i) slot)
    (hu : w.catalog.uses (.directories i) = true)
    (ha : w.After events (w.take (.directories i) slot).books w')
    (hs : ∀ x, surplus events x = if x = .directory ⟨i, slot⟩ then 1 else 0) :
    t.Settled w' (⟨i, slot⟩ :: streams) := by
  refine ⟨h.toAccounted.openStream ho ha, h.sound.after ha rfl, ?_,
    (h.holds.openStream ho hu).of_books ha.books⟩
  exact h.even.enter ha hs (h.ledger.not_inUse_of_vacant (.of_offers ho))
    (World.inUse_openStream ha)

/-- **Closing** an object that is bound. -/
theorem close [Embedder ε] (h : t.Settled w streams) {o : IoId} (ho : (w.descriptor o).isSome) :
    (o.close t w).2.1.Settled (o.close t w).2.2 streams := by
  obtain ⟨answer, ha⟩ := o.after_close h.sound.agrees
  obtain ⟨fd, hfd⟩ := Option.isSome_iff_exists.mp ho
  have hio := (h.sound.agrees.io?_iff fd o).mpr hfd
  have hholds : (w.setDescriptor o none).HoldsStreams streams :=
    h.holds.congr rfl fun _ => Iff.rfl
  refine ⟨h.toAccounted.close_of_io? hio, h.sound.close o, ?_, (hholds.giveBack o).of_books ha.books⟩
  exact h.even.leave ha (surplus_of_closes rfl rfl) ho (World.inUse_close ha.books)

/-- **Closing a stream** that is open. -/
theorem closeStream (h : t.Settled w streams) {d : DirectoryId} (hd : d ∈ streams)
    (ha : w.After events (w.giveBack (.directory d)).2.books w')
    (hs : ∀ x, surplus events x = -if x = .directory d then 1 else 0) :
    t.Settled w' (streams.erase d) := by
  have hlt := Pool.lt_of_isHeld ((h.holds.isHeld_iff d).mpr hd)
  have howner := (h.ledger.attached_iff (.directories d.pool) d.slot hlt).mpr hd
  refine ⟨h.toAccounted.closeStream d ha, h.sound.after ha (World.descriptor_giveBack _ _), ?_, ?_⟩
  · exact h.even.leave ha hs hd (World.inUse_closeStream h.nodup ha)
  · exact (h.holds.closeStream h.nodup howner hd).of_books ha.books

end Settled

end Table

end PosixVfs
