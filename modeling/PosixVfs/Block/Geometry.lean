import PosixVfs.Errno

/-!
# Block/Geometry — the blocks of a device, and which transfers stay on it

A transfer of `len` bytes from block `start` on is let through when `len` is a whole number of
blocks and the last block lies on the device.  A device that does not know how many blocks it has
lets every whole number of blocks through.
-/

namespace PosixVfs

/-- The size of a block in bytes, and the number of blocks; 0 blocks stand for an unknown number. -/
structure Geometry where
  blockSize : UInt64 := 512
  blockCount : UInt64 := 0
  deriving DecidableEq, Repr, Inhabited

/-- The sum of two words, held at the greatest word instead of wrapping round. -/
def saturatingAdd (a b : UInt64) : UInt64 :=
  if a.toNat + b.toNat < UInt64.size then a + b else .ofNat (UInt64.size - 1)

namespace Geometry

/-- **The check before every transfer**: alignment comes first, then the range. -/
def check (g : Geometry) (start len : UInt64) : Except DiskError Unit := do
  if g.blockSize == 0 || len % g.blockSize != 0 then
    throw (.misaligned len g.blockSize)
  if g.blockCount != 0 && saturatingAdd start (len / g.blockSize) > g.blockCount then
    throw (.outOfRange start g.blockCount)

end Geometry

end PosixVfs
