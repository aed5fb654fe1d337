import PosixVfs.Block.Transfer
import PosixVfs.Proofs.World.Asking
import PosixVfs.Scripted.Script

/-!
# Proofs/Block/Range — which transfers reach the disk

A transfer is meant to reach the disk if it is a whole number of blocks (`Geometry.Aligned`) that
all lie on the device (`Geometry.Contains`, where the blocks are counted without bound).  The check
adds in words, and holds the sum at the greatest word.  A device of fewer blocks than that is too
small for any sum that was held, so there the check is right (`saturatingAdd_le_iff`); a device of
that many blocks is large enough for all of them, so there every whole number of blocks is let
through (`Geometry.check_passes_beyond_end`).  What the check refuses never reaches the disk
(`FileSystemId.transfer_reaches_disk_iff`).
-/

namespace PosixVfs

/-! ## Sums that are held at the greatest word -/

theorem toNat_eq_zero_iff {n : UInt64} : n.toNat = 0 ↔ n = 0 := UInt64.toNat_inj (b := 0)

theorem toNat_saturatingAdd (a b : UInt64) :
    (saturatingAdd a b).toNat = min (a.toNat + b.toNat) (UInt64.size - 1) := by
  rw [saturatingAdd]
  split
  case isTrue h =>
    rw [UInt64.toNat_add, Nat.mod_eq_of_lt h]
    omega
  case isFalse h =>
    rw [UInt64.toNat_ofNat_of_lt' (by decide)]
    omega

/-- **Only the greatest word is taken in**: it is no less than any sum that is held there, and every
other word compares with what is held as with the sum itself. -/
theorem saturatingAdd_le_iff {a b c : UInt64} :
    saturatingAdd a b ≤ c ↔ a.toNat + b.toNat ≤ c.toNat ∨ c.toNat = UInt64.size - 1 := by
  have hlt : c.toNat < UInt64.size := c.toNat_lt
  rw [UInt64.le_iff_toNat_le, toNat_saturatingAdd]
  omega

namespace Geometry

variable {g : Geometry} {start len : UInt64}

/-! ## What the check compares -/

/-- `len` bytes are a whole number of blocks. -/
def Aligned (g : Geometry) (len : Nat) : Prop :=
  g.blockSize.toNat ≠ 0 ∧ g.blockSize.toNat ∣ len

/-- The blocks that `len` bytes from block `start` on take up are blocks of the device.  A device
that does not know how many blocks it has is taken to have them all. -/
def Contains (g : Geometry) (start : UInt64) (len : Nat) : Prop :=
  g.blockCount.toNat = 0 ∨ start.toNat + len / g.blockSize.toNat ≤ g.blockCount.toNat

/-- The device has as many blocks as a word can say. -/
def IsLargest (g : Geometry) : Prop := g.blockCount.toNat = UInt64.size - 1

/-- The transfer passes the check. -/
def LetsThrough (g : Geometry) (start : UInt64) (len : Nat) : Prop :=
  g.Aligned len ∧ (g.Contains start len ∨ g.IsLargest)

instance (g : Geometry) (len : Nat) : Decidable (g.Aligned len) :=
  inferInstanceAs (Decidable (_ ∧ _))

instance (g : Geometry) (start : UInt64) (len : Nat) : Decidable (g.Contains start len) :=
  inferInstanceAs (Decidable (_ ∨ _))

instance (g : Geometry) : Decidable g.IsLargest := inferInstanceAs (Decidable (_ = _))

instance (g : Geometry) (start : UInt64) (len : Nat) : Decidable (g.LetsThrough start len) :=
  inferInstanceAs (Decidable (_ ∧ _))

theorem not_aligned_iff :
    ¬ g.Aligned len.toNat ↔ g.blockSize = 0 ∨ len % g.blockSize ≠ 0 := by
  rw [Aligned, Nat.dvd_iff_mod_eq_zero, ← UInt64.toNat_mod, Ne, toNat_eq_zero_iff,
    toNat_eq_zero_iff, Decidable.not_and_iff_or_not, Decidable.not_not]

/-- Blocks beyond the end are found, unless the device is as large as can be. -/
theorem lt_saturatingAdd_iff :
    g.blockCount ≠ 0 ∧ g.blockCount < saturatingAdd start (len / g.blockSize) ↔
      ¬ (g.Contains start len.toNat ∨ g.IsLargest) := by
  rw [← UInt64.not_le, saturatingAdd_le_iff, UInt64.toNat_div, Contains, IsLargest,
    toNat_eq_zero_iff]
  simp only [not_or, and_assoc, ne_eq]

/-- **The check** looks for alignment first, and then for the range. -/
theorem check_cases (g : Geometry) (start len : UInt64) :
    (¬ g.Aligned len.toNat ∧ g.check start len = .error (.misaligned len g.blockSize)) ∨
    (g.LetsThrough start len.toNat ∧ g.check start len = .ok ()) ∨
    (g.Aligned len.toNat ∧ ¬ (g.Contains start len.toNat ∨ g.IsLargest) ∧
      g.check start len = .error (.outOfRange start g.blockCount)) := by
  simp only [check, Bool.or_eq_true, Bool.and_eq_true, beq_iff_eq, bne_iff_ne, decide_eq_true_eq,
    ← not_aligned_iff, lt_saturatingAdd_iff]
  by_cases haligned : g.Aligned len.toNat
  · rw [if_neg (not_not_intro haligned)]
    by_cases hrange : g.Contains start len.toNat ∨ g.IsLargest
    · rw [if_neg (not_not_intro hrange)]
      exact .inr (.inl ⟨⟨haligned, hrange⟩, rfl⟩)
    · rw [if_pos hrange]
      exact .inr (.inr ⟨haligned, hrange, rfl⟩)
  · rw [if_pos haligned]
    exact .inl ⟨haligned, rfl⟩

theorem check_eq_misaligned_iff :
    g.check start len = .error (.misaligned len g.blockSize) ↔ ¬ g.Aligned len.toNat := by
  obtain ⟨h, hc⟩ | ⟨h, hc⟩ | ⟨h, -, hc⟩ := g.check_cases start len <;> rw [hc]
  · exact iff_of_true rfl h
  · exact iff_of_false nofun (not_not_intro h.1)
  · exact iff_of_false nofun (not_not_intro h)

theorem check_eq_ok_iff : g.check start len = .ok () ↔ g.LetsThrough start len.toNat := by
  obtain ⟨h, hc⟩ | ⟨h, hc⟩ | ⟨-, h, hc⟩ := g.check_cases start len <;> rw [hc]
  · exact iff_of_false nofun fun hg => h hg.1
  · exact iff_of_true rfl h
  · exact iff_of_false nofun fun hg => h hg.2

theorem check_eq_outOfRange_iff : g.check start len = .error (.outOfRange start g.blockCount) ↔
    g.Aligned len.toNat ∧ ¬ g.Contains start len.toNat ∧ ¬ g.IsLargest := by
  rw [← not_or]
  obtain ⟨h, hc⟩ | ⟨h, hc⟩ | ⟨h, h', hc⟩ := g.check_cases start len <;> rw [hc]
  · exact iff_of_false nofun fun hg => h hg.1
  · exact iff_of_false nofun fun hg => hg.2 h.2
  · exact iff_of_true rfl ⟨h, h'⟩

/-- What the check refuses, it refuses as an invalid argument. -/
theorem toErrno_of_check {e : DiskError} (h : g.check start len = .error e) :
    e.toErrno = .invalidArgument := by
  obtain ⟨-, hc⟩ | ⟨-, hc⟩ | ⟨-, -, hc⟩ := g.check_cases start len <;> rw [hc] at h <;> cases h
  · rfl
  · rfl

end Geometry

/-! ## What reaches the disk -/

namespace FileSystemId

variable {ε α : Type} {s : FileSystemId} {w : World ε} {k : DiskId} {start : UInt64} {len : Nat}

section

variable (h : w.disk s = some k) (hlen : len < UInt64.size)
  (request : DiskId → World ε → Except DiskError α × World ε)

include h hlen

/-- A transfer that passes the check is a request to the disk, and nothing else. -/
theorem transfer_of_letsThrough (hg : (w.catalog.geometry k).LetsThrough start len) :
    s.transfer w start len request =
      ((request k w).1.mapError DiskError.toErrno, (request k w).2) := by
  have hcheck : k.checkTransfer w start (.ofNat len) = .ok () := by
    rw [DiskId.checkTransfer, Geometry.check_eq_ok_iff, UInt64.toNat_ofNat_of_lt' hlen]
    exact hg
  rw [transfer, h]
  simp only [hcheck]

/-- A transfer that does not pass is an invalid argument, and nothing else. -/
theorem transfer_of_not_letsThrough (hg : ¬ (w.catalog.geometry k).LetsThrough start len) :
    s.transfer w start len request = (.error .invalidArgument, w) := by
  rw [transfer, h]
  rcases hcheck : k.checkTransfer w start (.ofNat len) with e | ⟨⟩
  · simp only [hcheck, Geometry.toErrno_of_check hcheck]
  · rw [DiskId.checkTransfer, Geometry.check_eq_ok_iff, UInt64.toNat_ofNat_of_lt' hlen] at hcheck
    exact absurd hcheck hg

end

/-- **Which transfers reach the disk.**  The check reports a misalignment exactly if the blocks have
no size or the length is no whole number of blocks.  It passes all other transfers that stay on the
device, counted without bound, and all others at all to a device of 2⁶⁴ − 1 blocks; the rest are out
of range.  Accordingly, a file system with a disk puts a transfer to it as it is, once, and reports
what the disk answers, if it passes; and if not, it reports an invalid argument and does nothing. -/
theorem transfer_reaches_disk_iff [Embedder ε] :
    (∀ (g : Geometry) (start len : UInt64),
      (g.check start len = .error (.misaligned len g.blockSize) ↔ ¬ g.Aligned len.toNat) ∧
      (g.check start len = .ok () ↔
        g.Aligned len.toNat ∧ (g.Contains start len.toNat ∨ g.IsLargest)) ∧
      (g.check start len = .error (.outOfRange start g.blockCount) ↔
        g.Aligned len.toNat ∧ ¬ g.Contains start len.toNat ∧ ¬ g.IsLargest)) ∧
    ∀ (s : FileSystemId) (w : World ε) (k : DiskId), w.disk s = some k →
      let g := w.catalog.geometry k
      (∀ start len, len < UInt64.size →
        (g.LetsThrough start len → ∃ answer : Except DiskError Filled,
          w.Asked [⟨.readBlocks k start len, answer⟩] (s.readBlocks w start len).2 ∧
            (s.readBlocks w start len).1 = answer.mapError DiskError.toErrno) ∧
        (¬ g.LetsThrough start len → s.readBlocks w start len = (.error .invalidArgument, w))) ∧
      ∀ (start : UInt64) (data : Bytes), data.length < UInt64.size →
        (g.LetsThrough start data.length → ∃ answer : Except DiskError UInt64,
          w.Asked [⟨.writeBlocks k start data, answer⟩] (s.writeBlocks w start data).2 ∧
            (s.writeBlocks w start data).1 = answer.mapError DiskError.toErrno) ∧
        (¬ g.LetsThrough start data.length →
          s.writeBlocks w start data = (.error .invalidArgument, w)) := by
  refine ⟨fun g start len => ⟨Geometry.check_eq_misaligned_iff, Geometry.check_eq_ok_iff,
    Geometry.check_eq_outOfRange_iff⟩, ?_⟩
  intro s w k h g
  refine ⟨fun start len hlen => ⟨fun hg => ?_, transfer_of_not_letsThrough h hlen _⟩,
    fun start data hlen => ⟨fun hg => ?_, transfer_of_not_letsThrough h hlen _⟩⟩
  · rw [readBlocks, transfer_of_letsThrough h hlen _ hg]
    exact ⟨_, .ask rfl, rfl⟩
  · rw [writeBlocks, transfer_of_letsThrough h hlen _ hg]
    exact ⟨_, .ask rfl, rfl⟩

end FileSystemId

/-- On a device of 2⁶⁴ − 1 blocks, which end before block 2⁶⁴ − 1, a block that lies there passes
the check, and the disk is asked for it. -/
theorem Geometry.check_passes_beyond_end :
    let g : Geometry := { blockCount := 18446744073709551615 }
    let w : World Script :=
      { embedder := {}, catalog := { disks := [g] }, disk := fun _ => some ⟨0⟩ }
    g.Aligned 512 ∧ ¬ g.Contains 18446744073709551615 512 ∧
      (g.check 18446744073709551615 512).isOk = true ∧
      (FileSystemId.readBlocks ⟨0⟩ w 18446744073709551615 512).2.trace.map Event.hook =
        [.readBlocks ⟨0⟩ 18446744073709551615 512] := by
  decide +kernel

end PosixVfs
