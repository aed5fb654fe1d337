import PosixVfs.World.Basic

/-!
# Namespace/MountTable — which file system owns a path

A mount path starts and ends with a separator.  A path belongs to the longest mount path that its
bytes begin with, and the file system sees it without that front but with the separator at its end:
mounted on `/a/`, it sees `/a/b` as `/b`.  All other paths belong to the root, as they are.  The
separator at the end of a mount path is what keeps `/a/` from owning `/ab`.
-/

namespace PosixVfs

/-- A file system and the path it is mounted on. -/
structure Mount where
  path : FixedText maxMountPath
  fileSystem : FileSystemId
  deriving DecidableEq

/-- The mount points, in slots of which some are empty, and the root. -/
structure MountTable where
  slots : List (Option Mount)
  root : Option FileSystemId := none
  deriving DecidableEq

/-- Where a path leads: the file system, the path within it, and a second path that came along. -/
structure Resolved where
  fileSystem : FileSystemId
  path : String
  secondary : Option String
  deriving DecidableEq, Repr

namespace Mount

/-- The path begins with the mount path. -/
def covers (m : Mount) (path : String) : Bool := Text.startsWith path m.path.text

/-- A path under the mount point as the file system sees it. -/
def strip (m : Mount) (path : String) : String := Text.dropBytes path (m.path.length - 1)

/-- A second path is stripped if it begins with the mount path too. -/
def stripSecondary (m : Mount) (path : String) : String :=
  if m.covers path then m.strip path else path

end Mount

namespace MountTable

/-- A table of `capacity` empty slots and no root. -/
def new (capacity : Nat) : MountTable := { slots := List.replicate capacity none }

/-- How many file systems can be mounted besides the root. -/
def capacity (t : MountTable) : Nat := t.slots.length

/-- The mount points in the order of their slots. -/
def mounts (t : MountTable) : List Mount := t.slots.filterMap id

/-- How many file systems are mounted besides the root. -/
def mounted (t : MountTable) : Nat := t.mounts.length

/-- The mount point in a slot. -/
def mount? (t : MountTable) (slot : Nat) : Option Mount := t.slots[slot]?.join

/-- The slot of the mount point with exactly this path. -/
def position? (t : MountTable) (path : String) : Option Nat :=
  t.slots.findIdx? fun slot => slot.any (·.path.text == path)

/-- The lowest empty slot. -/
def firstFree? (t : MountTable) : Option Nat := t.slots.findIdx? Option.isNone

/-- The table with another content in a slot. -/
def set (t : MountTable) (slot : Nat) (m : Option Mount) : MountTable :=
  { t with slots := t.slots.set slot m }

/-- Mount paths fit their buffer, and start and end with a separator. -/
def wellFormed (path : String) : Bool :=
  Text.size path ≤ maxMountPath && Text.startsWith path "/" && Text.endsWith path "/"

/-- **Longest match.**  The longest of the mount paths that the path begins with. -/
def owner? (t : MountTable) (path : String) : Option Mount :=
  (t.mounts.filter (·.covers path)).maxOn? (·.path.length)

/-- Where `path` leads.  A `secondary` path that comes along is stripped as `path` is if it lies
under the same mount point, and otherwise left alone. -/
def identify? (t : MountTable) (path : String) (secondary : Option String) : Option Resolved :=
  match t.owner? path with
  | some m => some ⟨m.fileSystem, m.strip path, secondary.map m.stripSecondary⟩
  | none => t.root.map fun s => ⟨s, path, secondary⟩

/-- The file systems in use, by slot and the root last, each where it occurs first. -/
def fileSystems (t : MountTable) : List FileSystemId :=
  (t.mounts.map Mount.fileSystem ++ t.root.toList).eraseDups

/-- The text of a table: a line for each mount point. -/
def describe (t : MountTable) : String :=
  "MountManager[\n" ++ String.join (t.mounts.map fun m => s!"  {m.path.text}\n") ++ "]"

end MountTable

end PosixVfs
