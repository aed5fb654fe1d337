import PosixVfs.Posix.Call
import PosixVfs.Proofs.Descriptor.Gathering
import PosixVfs.Proofs.Descriptor.Lookup
import PosixVfs.Proofs.Posix.Asking

/-!
# Proofs/Posix/Isolation — a call on a descriptor concerns the object bound to it

An operation on a descriptor is one question to the object that is bound to it, with what the caller
passed, and its result is the answer.  An object without a hook for several buffers is asked about
them one by one.  Whatever cannot be asked is refused before anything is.  Nothing else happens
(`Posix.descriptor_isolated`).
-/

namespace PosixVfs

/-- A descriptor is bound to what is in its slot. -/
theorem Table.io?_eq_some_iff_slot {t : Table} {fd : Fd} {o : IoId} :
    t.io? fd = some o ↔ 0 ≤ fd.toInt ∧ t.object? fd.toInt.toNat = some o := by
  rw [io?_eq_some_iff]
  constructor
  · rintro ⟨i, hi, ho⟩
    obtain ⟨h0, rfl, -⟩ := Fd.index?_eq_some_iff.mp hi
    exact ⟨h0, ho⟩
  · rintro ⟨h0, ho⟩
    exact ⟨_, Fd.index?_eq_some_iff.mpr ⟨h0, rfl, lt_capacity_of_object? ho⟩, ho⟩

namespace Posix

variable {ε : Type} {p : Posix ε} {fd : Fd} {o : IoId}

/-! ## Who is to be asked -/

theorem object_of_io? (h : p.table.io? fd = some o) : p.object fd = .ok o := by
  rw [object, h]

theorem object_of_io?_none (h : p.table.io? fd = none) :
    p.object fd = .error .badFileDescriptor := by
  rw [object, h]

theorem socketAt_of_io? {s : SocketId} (h : p.table.io? fd = some (.socket s)) :
    p.socketAt fd = .ok s := by
  rw [socketAt, object_of_io? h]

theorem socketAt_of_ne_socket (h : p.table.io? fd = some o) (hs : ∀ s, o ≠ .socket s) :
    p.socketAt fd = .error .notASocket := by
  rw [socketAt, object_of_io? h]
  cases o with
  | socket s => exact absurd rfl (hs s)
  | _ => rfl

theorem socketAt_of_io?_none (h : p.table.io? fd = none) :
    p.socketAt fd = .error .badFileDescriptor := by
  rw [socketAt, object_of_io?_none h]

variable [Embedder ε]

/-! ## Nothing is bound -/

theorem onDescriptor_unbound (h : p.table.io? fd = none) (op : IoOp) :
    p.EndsBy [] (.error .badFileDescriptor) (p.onDescriptor fd op) := by
  rw [onDescriptor, object_of_io?_none h]
  exact p.endsBy_refused _

theorem onSocket_refused {e : Errno} (h : p.socketAt fd = .error e) (op : SocketOp) :
    p.EndsBy [] (.error e) (p.onSocket fd op) := by
  rw [onSocket, h]
  exact p.endsBy_refused _

/-! ## An object is bound -/

section Bound

variable (h : p.table.io? fd = some o)

include h

theorem onDescriptor_writev_nil :
    p.EndsBy [] (.error .invalidArgument) (p.onDescriptor fd (.writev [])) := by
  rw [onDescriptor, object_of_io? h]
  exact p.endsBy_refused _

/-- Unless there is nothing to write, the operation is carried out on the bound object. -/
theorem onDescriptor_bound {op : IoOp} (hop : op ≠ .writev []) {events : List Event}
    (ha : p.world.Asked events (o.perform p.world op).2) :
    p.EndsBy events (o.perform p.world op).1 (p.onDescriptor fd op) := by
  rw [onDescriptor, object_of_io? h]
  simp only [if_neg hop]
  exact p.endsBy_inWorld ha _

/-- An operation that is no writing of several buffers is one question. -/
theorem onDescriptor_single {op : IoOp} (hop : ∀ buffers, op ≠ .writev buffers) :
    ∃ answer : Except Errno op.Value, p.EndsBy [⟨.io o op, answer⟩] answer
      (p.onDescriptor fd op) := by
  refine ⟨_, onDescriptor_bound h (hop []) ?_⟩
  cases op with
  | writev buffers => exact absurd rfl (hop buffers)
  | _ => exact .ask rfl

variable {buffers : List Bytes} (hb : buffers ≠ [])

include hb

theorem onDescriptor_writev_of_gathers (hg : p.world.catalog.gathers o = true) :
    ∃ answer : Except Errno UInt64, p.EndsBy [⟨.io o (.writev buffers), answer⟩] answer
      (p.onDescriptor fd (.writev buffers)) := by
  have hop : IoOp.writev buffers ≠ .writev [] := fun e => hb (IoOp.writev.inj e)
  refine ⟨_, onDescriptor_bound h hop ?_⟩
  rw [IoId.perform, if_pos hg]
  exact .ask rfl

theorem onDescriptor_writev_of_not_gathers (hg : p.world.catalog.gathers o = false) :
    ∃ events result, o.Gathered buffers events result ∧
      p.EndsBy events result (p.onDescriptor fd (.writev buffers)) := by
  have hop : IoOp.writev buffers ≠ .writev [] := fun e => hb (IoOp.writev.inj e)
  have hperform : o.perform p.world (.writev buffers) = o.gather p.world buffers := by
    rw [IoId.perform, hg]
    rfl
  obtain ⟨events, ha, hgathered⟩ := o.gathered p.world buffers
  rw [← hperform] at ha hgathered
  exact ⟨events, _, hgathered, onDescriptor_bound h hop ha⟩

end Bound

theorem onSocket_bound {s : SocketId} (h : p.table.io? fd = some (.socket s)) (op : SocketOp) :
    ∃ answer : Except Errno op.Value, p.EndsBy [⟨.socket s op, answer⟩] answer
      (p.onSocket fd op) := by
  rw [onSocket, socketAt_of_io? h]
  exact ⟨_, p.endsBy_inWorld (.ask rfl) _⟩

/-- **Calls on descriptors are isolated.**  On a descriptor that is negative, out of range or
unbound, every operation fails with a bad descriptor and nothing is asked.  On one that is bound to
`o`, an operation is one question to `o`, what was passed is what is asked, and the answer is the
result.  Writing no buffers is refused; writing several is one question too, if `o` has a hook for
it, and otherwise `o` is asked to write them in order up to the first failure.  An operation on a
socket is one question to the socket that `o` is, and refused if it is none.  But for the embedder's
answers, the log and the error of the last call, the context stays as it is. -/
theorem descriptor_isolated (p : Posix ε) (fd : Fd) :
    (fd.toInt < 0 ∨ p.table.capacity ≤ fd.toInt.toNat ∨ p.table.object? fd.toInt.toNat = none →
      (∀ op, p.EndsBy [] (.error .badFileDescriptor) (p.onDescriptor fd op)) ∧
      ∀ op, p.EndsBy [] (.error .badFileDescriptor) (p.onSocket fd op)) ∧
    ∀ o, 0 ≤ fd.toInt → p.table.object? fd.toInt.toNat = some o →
      (∀ op, (∀ buffers, op ≠ .writev buffers) → ∃ answer : Except Errno op.Value,
        p.EndsBy [⟨.io o op, answer⟩] answer (p.onDescriptor fd op)) ∧
      p.EndsBy [] (.error .invalidArgument) (p.onDescriptor fd (.writev [])) ∧
      (∀ buffers, buffers ≠ [] → p.world.catalog.gathers o = true →
        ∃ answer : Except Errno UInt64,
          p.EndsBy [⟨.io o (.writev buffers), answer⟩] answer
            (p.onDescriptor fd (.writev buffers))) ∧
      (∀ buffers, buffers ≠ [] → p.world.catalog.gathers o = false →
        ∃ events result, o.Gathered buffers events result ∧
          p.EndsBy events result (p.onDescriptor fd (.writev buffers))) ∧
      (∀ s op, o = .socket s → ∃ answer : Except Errno op.Value,
        p.EndsBy [⟨.socket s op, answer⟩] answer (p.onSocket fd op)) ∧
      ((∀ s, o ≠ .socket s) → ∀ op, p.EndsBy [] (.error .notASocket) (p.onSocket fd op)) := by
  refine ⟨fun hfd => ?_, fun o h0 ho => ?_⟩
  · have h : p.table.io? fd = none := by
      rw [Option.eq_none_iff_forall_ne_some]
      intro o ho
      obtain ⟨h0, hobject⟩ := Table.io?_eq_some_iff_slot.mp ho
      obtain hneg | hcap | hnone := hfd
      · omega
      · exact Nat.not_lt.mpr hcap (Table.lt_capacity_of_object? hobject)
      · rw [hobject] at hnone
        cases hnone
    exact ⟨onDescriptor_unbound h, onSocket_refused (socketAt_of_io?_none h)⟩
  · have h : p.table.io? fd = some o := Table.io?_eq_some_iff_slot.mpr ⟨h0, ho⟩
    refine ⟨fun op hop => onDescriptor_single h hop, onDescriptor_writev_nil h,
      fun buffers hb hg => onDescriptor_writev_of_gathers h hb hg,
      fun buffers hb hg => onDescriptor_writev_of_not_gathers h hb hg, ?_, fun hs => ?_⟩
    · rintro s op rfl
      exact onSocket_bound h op
    · exact onSocket_refused (socketAt_of_ne_socket h hs)

end Posix

end PosixVfs
