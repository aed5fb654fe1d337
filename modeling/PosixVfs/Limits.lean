/-!
# Limits — fixed limits, and the capacities of a context

Limits hold for every context.  Capacities are chosen when a context is built; `Capacities.check`
refuses those that leave no descriptor besides the standard streams, or no mount point.
-/

namespace PosixVfs

/-- The directory under which devices are named. -/
def deviceDirectory : String := "/dev/"

/-- Descriptors below this one belong to the standard streams and are never handed out. -/
def reservedDescriptors : Nat := 3

/-- The longest mount path in bytes, both separators included. -/
def maxMountPath : Nat := 64

/-- The longest device name in bytes. -/
def maxDeviceName : Nat := 32

/-- The longest name of a directory entry in bytes. -/
def maxEntryName : Nat := 256

/-- How many descriptors, mount points and devices a context has room for. -/
structure Capacities where
  descriptors : Nat := 10
  mounts : Nat := 4
  devices : Nat := 8
  deriving DecidableEq, Repr

/-- Why capacities are refused. -/
inductive CapacityError where
  | tooFewDescriptors (descriptors : Nat)
  | noMountPoints
  deriving DecidableEq, Repr

namespace CapacityError

/-- The name of the reason. -/
def label : CapacityError → String
  | tooFewDescriptors _ => "TooFewDescriptors"
  | noMountPoints => "NoMountPoints"

/-- The text of the reason. -/
def message : CapacityError → String
  | tooFewDescriptors descriptors =>
      s!"Descriptor table needs more than {reservedDescriptors} slots, got {descriptors}"
  | noMountPoints => "Mount table needs at least one slot"

end CapacityError

/-- A context needs a descriptor besides the standard streams, and a mount point. -/
def Capacities.check (c : Capacities) : Except CapacityError Unit :=
  if c.descriptors ≤ reservedDescriptors then .error (.tooFewDescriptors c.descriptors)
  else if c.mounts = 0 then .error .noMountPoints
  else .ok ()

end PosixVfs
