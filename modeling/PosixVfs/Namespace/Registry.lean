import PosixVfs.World.Basic

/-!
# Namespace/Registry — the registered devices

A path under the device directory is offered to the registered devices before any file system.  The
rest of the path means the device in the lowest slot that accepts it.
-/

namespace PosixVfs

/-- The registered devices, in slots of which some are empty. -/
structure Registry where
  slots : List (Option DeviceId)
  deriving DecidableEq, Repr

namespace Registry

/-- A registry with room for `capacity` devices. -/
def new (capacity : Nat) : Registry := ⟨List.replicate capacity none⟩

/-- How many devices can be registered. -/
def capacity (r : Registry) : Nat := r.slots.length

/-- The registered devices in the order of their slots. -/
def devices (r : Registry) : List DeviceId := r.slots.filterMap id

/-- The device in a slot. -/
def device? (r : Registry) (slot : Nat) : Option DeviceId := r.slots[slot]?.join

/-- The slot of the device with this name. -/
def position? (r : Registry) (c : Catalog) (name : String) : Option Nat :=
  r.slots.findIdx? fun slot => slot.any fun d => (c.device d).name == name

/-- The lowest empty slot. -/
def firstFree? (r : Registry) : Option Nat := r.slots.findIdx? Option.isNone

/-- The registry with another content in a slot. -/
def set (r : Registry) (slot : Nat) (d : Option DeviceId) : Registry := ⟨r.slots.set slot d⟩

/-- The device that `path` means. -/
def identify? (r : Registry) (c : Catalog) (path : String) : Option DeviceId :=
  (Text.after? path deviceDirectory).bind fun name =>
    r.devices.find? fun d => (c.device d).accepts name

variable {ε : Type}

/-- Register a device under its own name.  Names have 1 to `maxDeviceName` bytes, and neither a
device nor a name is registered twice. -/
def register (r : Registry) (w : World ε) (d : DeviceId) : Except Errno Unit × Registry × World ε :=
  let name := (w.catalog.device d).name
  if Text.size name = 0 || Text.size name > maxDeviceName then (.error .invalidArgument, r, w)
  else if r.devices.any fun other => other == d || (w.catalog.device other).name == name then
    (.error .busy, r, w)
  else
    match r.firstFree? with
    | none => (.error .noSpace, r, w)
    | some slot => (.ok (), r.set slot (some d), w.note (.deviceRegistered name))

/-- Remove the device with this name. -/
def unregister (r : Registry) (w : World ε) (name : String) :
    Except Errno DeviceId × Registry × World ε :=
  match r.position? w.catalog name with
  | none => (.error .noSuchEntity, r, w)
  | some slot =>
      match r.device? slot with
      | none => (.error .noSuchEntity, r, w)
      | some d => (.ok d, r.set slot none, w.note (.deviceUnregistered name))

end Registry

end PosixVfs
