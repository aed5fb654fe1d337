import PosixVfs.Proofs.Posix.Isolation
import PosixVfs.Scripted.Script

/-!
# Proofs/Posix/Acceptance — what a writing of several buffers reports

An object without a hook for several buffers is asked to write each of them, and may take only the
front of one (`Event.accepted`).  It is then asked for the next one all the same.  The number that
is reported at the end is that of all bytes taken (`IoId.length_accepted`).  They are a front of
all the bytes that were to be written if nothing was taken after a buffer that was not taken whole
(`IoId.accepted_eq_take`), and they need not be one otherwise (`Posix.writev_leaves_gap`).
-/

namespace PosixVfs

variable {ε : Type}

/-! ## Bytes that are taken -/

namespace Event

/-- The bytes that the object took of those that it was asked to write: as many from the front as it
reported. -/
def accepted : Event → Bytes
  | ⟨.io _ (.write data), .ok n⟩ => data.take n.toNat
  | _ => []

/-- No more bytes were reported than were to be written. -/
def isHonest : Event → Bool
  | ⟨.io _ (.write data), .ok n⟩ => n.toNat ≤ data.length
  | _ => true

/-- Fewer bytes were taken than were to be written. -/
def isShort : Event → Bool
  | ⟨.io _ (.write data), .ok n⟩ => n.toNat < data.length
  | _ => false

theorem accepted_write (o : IoId) (data : Bytes) (n : UInt64) :
    accepted ⟨.io o (.write data), .ok n⟩ = data.take n.toNat := rfl

/-- What is reported honestly is what is taken. -/
theorem length_accepted_write (o : IoId) (data : Bytes) {n : UInt64}
    (h : isHonest ⟨.io o (.write data), .ok n⟩ = true) :
    (accepted ⟨.io o (.write data), .ok n⟩).length = n.toNat :=
  List.length_take_of_le (of_decide_eq_true h)

end Event

namespace IoId

variable {o : IoId} {buffers : List Bytes} {counts : List UInt64}

theorem writes_cons (o : IoId) (data : Bytes) (rest : List Bytes) (n : UInt64)
    (counts : List UInt64) :
    o.writes (data :: rest) (n :: counts) =
      ⟨.io o (.write data), .ok n⟩ :: o.writes rest counts := rfl

/-- **The number of bytes taken** is the sum of the counts, as a word. -/
theorem length_accepted (hlen : counts.length = buffers.length)
    (h : ∀ event ∈ o.writes buffers counts, event.isHonest = true) :
    ((o.writes buffers counts).flatMap Event.accepted).length % UInt64.size =
      (counts.foldr (· + ·) 0).toNat := by
  induction buffers generalizing counts with
  | nil =>
      obtain rfl := List.length_eq_zero_iff.mp hlen
      rfl
  | cons data rest ih =>
      obtain ⟨n, counts, rfl⟩ := List.exists_cons_of_length_eq_add_one hlen
      rw [writes_cons, List.forall_mem_cons] at h
      rw [writes_cons, List.flatMap_cons, List.length_append,
        Event.length_accepted_write o data h.1, List.foldr_cons, UInt64.toNat_add,
        ← ih (Nat.succ.inj hlen) h.2, Nat.add_mod_mod]

/-- No more bytes are taken than there are. -/
theorem length_accepted_le (hlen : counts.length = buffers.length) :
    ((o.writes buffers counts).flatMap Event.accepted).length ≤ buffers.flatten.length := by
  induction buffers generalizing counts with
  | nil =>
      obtain rfl := List.length_eq_zero_iff.mp hlen
      exact Nat.le_refl 0
  | cons data rest ih =>
      obtain ⟨n, counts, rfl⟩ := List.exists_cons_of_length_eq_add_one hlen
      rw [writes_cons, List.flatMap_cons, Event.accepted_write, List.length_append,
        List.flatten_cons, List.length_append]
      exact Nat.add_le_add (List.length_take_le' _ data) (ih (Nat.succ.inj hlen))

/-- **The bytes taken are a front** of those that were to be written, if nothing was taken any more
after a buffer that was not taken whole. -/
theorem accepted_eq_take (hlen : counts.length = buffers.length)
    (h : (o.writes buffers counts).Pairwise fun before event =>
      before.isShort = true → event.accepted = []) :
    (o.writes buffers counts).flatMap Event.accepted =
      buffers.flatten.take ((o.writes buffers counts).flatMap Event.accepted).length := by
  induction buffers generalizing counts with
  | nil =>
      obtain rfl := List.length_eq_zero_iff.mp hlen
      rfl
  | cons data rest ih =>
      obtain ⟨n, counts, rfl⟩ := List.exists_cons_of_length_eq_add_one hlen
      rw [writes_cons, List.pairwise_cons] at h
      rw [writes_cons, List.flatMap_cons, Event.accepted_write, List.flatten_cons]
      by_cases hshort : n.toNat < data.length
      · -- Nothing is taken of the other buffers, so all that is taken is the front of this one.
        have hnil : (o.writes rest counts).flatMap Event.accepted = [] :=
          List.flatMap_eq_nil_iff.mpr fun event hevent => h.1 event hevent (decide_eq_true hshort)
        have hlength : (data.take n.toNat).length = n.toNat :=
          List.length_take_of_le (Nat.le_of_lt hshort)
        rw [hnil, List.append_nil, hlength, List.take_append_of_le_length (Nat.le_of_lt hshort)]
      · have hwhole : data.take n.toNat = data := List.take_of_length_le (Nat.not_lt.mp hshort)
        have hrest := ih (Nat.succ.inj hlen) h.2
        rw [hwhole, List.length_append, List.take_length_add_append, ← hrest]

end IoId

/-! ## What is reported -/

namespace Posix

variable [Embedder ε]

/-- **What a writing of several buffers reports**, if the object has no hook for it and the call
succeeds: the object was asked once for each buffer, in order, and nothing else happened.  If it
never reported more than there was to write, then the result is the number of all bytes that it
took, as a word.  These bytes are the first ones of all that were to be written, unless something
was taken after a buffer that was not taken whole. -/
theorem writev_accepted (p : Posix ε) (fd : Fd) (o : IoId) (buffers : List Bytes) (n : UInt64)
    (h : p.table.io? fd = some o) (hg : p.world.catalog.gathers o = false)
    (hok : (p.onDescriptor fd (.writev buffers)).1 = .ok n) :
    ∃ counts : List UInt64, counts.length = buffers.length ∧
      let events := o.writes buffers counts
      let accepted := events.flatMap Event.accepted
      p.EndsBy events (.ok n) (p.onDescriptor fd (.writev buffers)) ∧
      ((∀ event ∈ events, event.isHonest = true) →
        n.toNat = accepted.length % UInt64.size ∧
        (buffers.flatten.length < UInt64.size → n.toNat = accepted.length) ∧
        ((events.Pairwise fun before event => before.isShort = true → event.accepted = []) →
          accepted = buffers.flatten.take accepted.length)) := by
  have hb : buffers ≠ [] := by
    rintro rfl
    rw [(onDescriptor_writev_nil h).1] at hok
    cases hok
  obtain ⟨events, result, hgathered, hends⟩ := onDescriptor_writev_of_not_gathers h hb hg
  obtain rfl : result = .ok n := hends.1.symm.trans hok
  generalize hresult : (Except.ok n : Except Errno UInt64) = result at hgathered
  cases hgathered with
  | upTo => cases hresult
  | all counts hlen =>
      obtain rfl := Except.ok.inj hresult
      refine ⟨counts, hlen, hends, fun hhonest => ?_⟩
      have hcount := IoId.length_accepted hlen hhonest
      refine ⟨hcount.symm, fun hsize => ?_, IoId.accepted_eq_take hlen⟩
      rw [← hcount]
      exact Nat.mod_eq_of_lt (Nat.lt_of_le_of_lt (IoId.length_accepted_le hlen) hsize)

/-- A device that takes all it is given. -/
theorem writev_accepted_of_device :
    let p : Posix Script :=
      { table := ⟨[none, none, none, some (.device ⟨0⟩)]⟩, mounts := .new 1, registry := .new 1
        world := { embedder := {} } }
    ∃ counts : List UInt64, counts.length = 3 ∧
      p.EndsBy ((IoId.device ⟨0⟩).writes [[97, 98], [], [99]] counts) (.ok 3)
        (p.onDescriptor 3 (.writev [[97, 98], [], [99]])) := by
  intro p
  obtain ⟨counts, hlen, hends, -⟩ :=
    p.writev_accepted 3 (.device ⟨0⟩) [[97, 98], [], [99]] 3 rfl rfl rfl
  exact ⟨counts, hlen, hends⟩

/-- **A gap.**  A device that takes one byte of the first buffer is asked for the second one all the
same, and takes it.  Three bytes are reported, but not the first three. -/
theorem writev_leaves_gap :
    let script := ({} : Script).enqueue (.io (.device ⟨0⟩)) "write"
      [{ value := some (.number 1) }]
    let p : Posix Script :=
      { table := ⟨[none, none, none, some (.device ⟨0⟩)]⟩, mounts := .new 1, registry := .new 1
        world := { embedder := script } }
    let buffers : List Bytes := [[97, 98], [99, 100]]
    let outcome := p.onDescriptor 3 (.writev buffers)
    outcome.1.toOption = some 3 ∧ (∀ event ∈ outcome.2.world.trace, event.isHonest = true) ∧
      outcome.2.world.trace.flatMap Event.accepted = [97, 99, 100] ∧
      buffers.flatten.take 3 = [97, 98, 99] := by
  decide +kernel

end Posix

end PosixVfs
