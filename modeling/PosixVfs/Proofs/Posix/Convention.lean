import PosixVfs.Proofs.Posix.Acquisition
import PosixVfs.Proofs.Posix.Raw
import PosixVfs.Scripted.Script

/-!
# Proofs/Posix/Convention — what a C program can tell from the number it gets

A C program takes a negative number for a failure, and looks at the errno value to learn which.  It
is right about a call that succeeded exactly if the number of the value is not negative and fits into
a word (`Call.Fits`), and right about one that failed exactly if the error has a code other than 0
(`Syscall.sign_tells_outcome`).  Nothing else is looked at before the number is handed out, so an
object that answers with a huge count, a negative offset or an error without a code misleads the
program (`Syscall.sign_misleads`).
-/

namespace PosixVfs

variable {ε : Type}

/-- Only an error of the implementation's own can be without a code. -/
theorem Errno.code_eq_zero_iff {e : Errno} : e.code = 0 ↔ e = .other 0 := by
  cases e with
  | other n =>
      rw [other.injEq]
      rfl
  | _ => exact iff_of_false (by decide) nofun

theorem Posix.errno_ne_zero_iff {p : Posix ε} {e : Errno} (h : p.lastError = some e) :
    p.errno ≠ 0 ↔ e ≠ .other 0 := by
  rw [errno, h, Option.elim_some, Ne, Errno.code_eq_zero_iff]

/-! ## Numbers that fit -/

namespace Call

/-- The number of the value is one that C programs count as a success: it is not negative, and below
2⁶³. -/
def Fits (c : Call) (value : c.Value) : Prop :=
  0 ≤ c.number value ∧ c.number value < 9223372036854775808

/-- The number is a signed or an unsigned word. -/
def WordSized (n : Int) : Prop := -9223372036854775808 ≤ n ∧ n < 18446744073709551616

/-- Counts are unsigned words, and all other numbers are signed ones. -/
theorem wordSized_number (c : Call) (value : c.Value) : WordSized (c.number value) := by
  have hcount (n : UInt64) : WordSized n.toNat := by
    have hlt := n.toNat_lt
    exact ⟨by omega, by omega⟩
  have hword (n : Int32) : WordSized n.toInt := by
    have hle := n.le_toInt
    have hlt := n.toInt_lt
    exact ⟨by omega, by omega⟩
  have hlong (n : Int64) : WordSized n.toInt := by
    have hle := n.le_toInt
    have hlt := n.toInt_lt
    exact ⟨by omega, by omega⟩
  have hanswer (answer : Bool) : WordSized (if answer then 1 else 0) := by
    cases answer <;> exact ⟨by decide, by decide⟩
  have hzero : WordSized 0 := ⟨by decide, by decide⟩
  cases c with
  | openPath | socket => exact hword value
  | onDescriptor fd op =>
      cases op with
      | read => exact hcount value.count
      | write | writev => exact hcount value
      | ioctl | fcntl => exact hword value
      | lseek => exact hlong value
      | isatty => exact hanswer value
      | _ => exact hzero
  | onSocket fd op =>
      cases op with
      | sockatmark => exact hanswer value
      | _ => exact hzero
  | _ => exact hzero

/-- **The sign of the word** is right about the numbers that fit, and about no others. -/
theorem word_nonneg_iff (c : Call) (value : c.Value) : 0 ≤ c.word value ↔ c.Fits value := by
  obtain ⟨hle, hlt⟩ := c.wordSized_number value
  have hsize : (Int64.size : Int) = 18446744073709551616 := rfl
  rw [Int64.le_iff_toInt_le, toInt_word, Fits, Int.bmod_def, hsize]
  change 0 ≤ _ ↔ _
  split <;> omega

end Call

/-! ## Descriptors that are handed out -/

namespace Posix

variable [Embedder ε] {p : Posix ε} {fd : Fd}

/-- **A path that is opened** gets the descriptor of the lowest free slot. -/
theorem firstFree?_of_openPath {path : String} {flags : OpenFlags} {mode : Mode}
    (h : (p.openPath path flags mode).1 = .ok fd) :
    ∃ i, p.table.firstFree? = some i ∧ fd = Fd.ofIndex i := by
  obtain ⟨o, w, hr, -⟩ := p.exists_register_of_openPath h
  exact o.firstFree?_of_register hr

/-- **A socket that is made** gets the descriptor of the lowest free slot. -/
theorem firstFree?_of_socket {domain kind protocol : Int32}
    (h : (p.socket domain kind protocol).1 = .ok fd) :
    ∃ i, p.table.firstFree? = some i ∧ fd = Fd.ofIndex i := by
  obtain ⟨o, w, hr, -⟩ := p.exists_register_of_socket h
  exact o.firstFree?_of_register hr

end Posix

/-- The descriptor of a slot is not negative, if there are no more slots than descriptors. -/
theorem Fd.toInt_nonneg_of_firstFree? {t : Table} {i : Nat} (h : t.firstFree? = some i)
    (hcap : t.capacity ≤ count) : 0 ≤ (ofIndex i).toInt := by
  obtain ⟨-, hlt, -⟩ := Table.firstFree?_eq_some_iff.mp h
  exact (index?_eq_some_iff.mp (index?_ofIndex hcap hlt)).1

namespace Call

variable [Embedder ε] {p : Posix ε}

/-- **Whose number it is.**  In a table without more slots than descriptors, only an operation on a
descriptor can succeed with a number that does not fit. -/
theorem exists_onDescriptor_of_not_fits {c : Call} {value : c.Value}
    (hv : (c.run p).1 = .ok value) (hcap : p.table.capacity ≤ Fd.count) (hfits : ¬ c.Fits value) :
    ∃ fd op, c = .onDescriptor fd op := by
  have hfd (fd : Fd) (h : ∃ i, p.table.firstFree? = some i ∧ fd = Fd.ofIndex i) :
      0 ≤ fd.toInt ∧ fd.toInt < 9223372036854775808 := by
    obtain ⟨i, hi, rfl⟩ := h
    have hlt := (Fd.ofIndex i).toInt_lt
    exact ⟨Fd.toInt_nonneg_of_firstFree? hi hcap, by omega⟩
  have hzero : 0 ≤ (0 : Int) ∧ (0 : Int) < 9223372036854775808 := by decide
  cases c with
  | onDescriptor fd op => exact ⟨fd, op, rfl⟩
  | openPath => exact absurd (hfd value (Posix.firstFree?_of_openPath hv)) hfits
  | socket => exact absurd (hfd value (Posix.firstFree?_of_socket hv)) hfits
  | onSocket fd op =>
      cases op with
      | sockatmark =>
          have hanswer : 0 ≤ (if value then 1 else 0 : Int) ∧
              (if value then 1 else 0 : Int) < 9223372036854775808 := by
            cases value <;> decide
          exact absurd hanswer hfits
      | _ => exact absurd hzero hfits
  | _ => exact absurd hzero hfits

end Call

namespace Syscall

variable [Embedder ε]

/-- A flaw is reported with a code. -/
theorem ne_other_of_flaw? {s : Syscall} {e : Errno} (h : s.flaw? = some e) : e ≠ .other 0 := by
  rw [flaw?] at h
  split at h
  · cases h
    decide
  · split at h
    · cases h
      decide
    · cases h

/-- **What the number tells.**  Flawed arguments are reported by −1 and a code.  For any other raw
call, the number of a success is not negative exactly if the value fits; if there are no more slots
than descriptors, it can fail to fit only because an object answered so to an operation on its
descriptor.  A failure is reported by −1, with a code other than 0 exactly if the error has one; only
if a failed call was to tell whether something is a terminal, and it is none, it is reported by 0,
with a code all the same. -/
theorem sign_tells_outcome (s : Syscall) (p : Posix ε) :
    (∀ e, s.flaw? = some e → (s.handle p).1.word = -1 ∧ (s.handle p).2.errno ≠ 0) ∧
    ∀ c : Call, c.raw? = some s →
      (∀ value, (c.run p).1 = .ok value →
        (0 ≤ (s.handle p).1.word ↔ c.Fits value) ∧ (s.handle p).2.errno = 0 ∧
        (p.table.capacity ≤ Fd.count → ¬ c.Fits value → ∃ fd op, c = .onDescriptor fd op)) ∧
      ∀ e, (c.run p).1 = .error e → ((s.handle p).2.errno ≠ 0 ↔ e ≠ .other 0) ∧
        ((∃ fd, c = .onDescriptor fd .isatty) ∧ e = .notATerminal → (s.handle p).1.word = 0) ∧
        (¬ ((∃ fd, c = .onDescriptor fd .isatty) ∧ e = .notATerminal) →
          (s.handle p).1.word = -1) := by
  refine ⟨fun e he => ?_, fun c hc => ⟨fun value hv => ?_, fun e he => ?_⟩⟩
  · rw [(s.handle_simulates p).1 e he]
    exact ⟨rfl, (Posix.errno_ne_zero_iff rfl).mpr (ne_other_of_flaw? he)⟩
  · obtain ⟨hstate, hreturn⟩ := handle_of_decode (decode_eq_ok_iff.mpr hc) p
    have hlast := c.lastError_run (isSilent_of_raw? hc) p
    rw [hv] at hlast hreturn
    refine ⟨?_, ?_, fun hcap hfits => Call.exists_onDescriptor_of_not_fits hv hcap hfits⟩
    · rw [hreturn]
      exact c.word_nonneg_iff value
    · rw [hstate, Posix.errno, hlast]
      rfl
  · obtain ⟨hlast, hzero, hminus⟩ := ((s.handle_simulates p).2.2 c hc).2.2 e he
    exact ⟨Posix.errno_ne_zero_iff hlast, hzero, hminus⟩

/-- A program that goes by the sign is wrong about a reading that reports 2⁶⁴ − 1 bytes and about a
control operation that answers −7; and errno says that all is well after a writing that failed with
an error of number 0. -/
theorem sign_misleads :
    let script := ((({} : Script).enqueue (.io (.device ⟨0⟩)) "read"
        [{ value := some (.number (-1)) }]).enqueue (.io (.device ⟨0⟩)) "ioctl"
        [{ value := some (.number (-7)) }]).enqueue (.io (.device ⟨0⟩)) "write"
        [{ error := some (.other 0) }]
    let p : Posix Script :=
      { table := ⟨[none, none, none, some (.device ⟨0⟩)]⟩, mounts := .new 1, registry := .new 1
        world := { embedder := script } }
    (((Call.onDescriptor 3 (.read 4)).run p).1.isOk = true ∧
      ((read 3 (some 4)).handle p).1.word = -1 ∧ ((read 3 (some 4)).handle p).2.errno = 0) ∧
    (((Call.onDescriptor 3 (.ioctl 1 none)).run p).1.isOk = true ∧
      ((ioctl 3 1 none).handle p).1.word = -7) ∧
    ((Call.onDescriptor 3 (.write [97])).run p).1.isOk = false ∧
      ((write 3 (some [97])).handle p).1.word = -1 ∧
      ((write 3 (some [97])).handle p).2.errno = 0 := by
  decide +kernel

end Syscall

end PosixVfs
