import PosixVfs.World.Slots

/-!
# Descriptor/Table — which object each descriptor is bound to

A table has a fixed number of slots, and the descriptor is the slot's number.  A binding is kept
twice, in the slot and on the object, so that an object knows its descriptor.  The descriptors of
the standard streams are bound by `install` only; `alloc` hands out the lowest free one above them.
-/

namespace PosixVfs

/-- For each descriptor the object bound to it. -/
structure Table where
  slots : List (Option IoId)
  deriving DecidableEq, Repr

namespace Table

/-- A table of `capacity` free descriptors. -/
def new (capacity : Nat) : Table := ⟨List.replicate capacity none⟩

/-- How many descriptors there are. -/
def capacity (t : Table) : Nat := t.slots.length

/-- The object in a slot. -/
def object? (t : Table) (i : Nat) : Option IoId := t.slots[i]?.join

/-- The object bound to `fd`. -/
def io? (t : Table) (fd : Fd) : Option IoId := (fd.index? t.capacity).bind t.object?

/-- `fd` is bound to an object. -/
def isValid (t : Table) (fd : Fd) : Bool := (t.io? fd).isSome

/-- The bound descriptors in ascending order, each with its object. -/
def bound (t : Table) : List (Fd × IoId) :=
  t.slots.zipIdx.filterMap fun (slot, i) => slot.map fun o => (Fd.ofIndex i, o)

/-- How many descriptors are bound. -/
def inUse (t : Table) : Nat := t.slots.countP Option.isSome

/-- The lowest free slot above those of the standard streams. -/
def firstFree? (t : Table) : Option Nat :=
  ((t.slots.drop reservedDescriptors).findIdx? Option.isNone).map (· + reservedDescriptors)

/-- The table with another content in a slot. -/
def set (t : Table) (i : Nat) (o : Option IoId) : Table := ⟨t.slots.set i o⟩

/-- The text of a table: a line for each bound descriptor. -/
def describe (t : Table) : String :=
  "FileDescriptorTable[\n"
    ++ String.join (t.bound.map fun (fd, o) => s!"  {fd} -> {o.kind.label}\n") ++ "]"

variable {ε : Type}

/-- Bind an object to the lowest free descriptor, unless it is bound already. -/
def alloc (t : Table) (w : World ε) (o : IoId) : Except Errno Fd × Table × World ε :=
  match w.descriptor o with
  | some fd => (.error .busy, t, w.note (.alreadyBound fd))
  | none =>
      match t.firstFree? with
      | none => (.error .tooManyOpenFiles, t, w)
      | some i =>
          let fd := Fd.ofIndex i
          (.ok fd, t.set i (some o), (w.setDescriptor o (some fd)).note (.allocated fd o.kind))

/-- Bind an object to a descriptor of the caller's choice, if both are free. -/
def install (t : Table) (w : World ε) (fd : Fd) (o : IoId) : Except Errno Unit × Table × World ε :=
  match fd.index? t.capacity with
  | none => (.error .badFileDescriptor, t, w)
  | some i =>
      if (t.object? i).isSome || (w.descriptor o).isSome then (.error .busy, t, w)
      else (.ok (), t.set i (some o), w.setDescriptor o (some fd))

/-- Unbind a descriptor; the object that was bound to it no longer has one. -/
def free (t : Table) (w : World ε) (fd : Fd) : Except Errno Unit × Table × World ε :=
  match fd.index? t.capacity with
  | none => (.error .badFileDescriptor, t, w)
  | some i =>
      match t.object? i with
      | none => (.error .badFileDescriptor, t, w)
      | some o => (.ok (), t.set i none, (w.setDescriptor o none).note (.freed fd))

end Table

end PosixVfs
