import PosixVfs.Posix.Syscall
import PosixVfs.Proofs.Posix.Record

/-!
# Proofs/Posix/Raw — a raw call does what the call does that it stands for

Going the other way, `Call.raw?` puts a call into the form in which a C program makes it.  Decoding
is its inverse (`Syscall.decode_eq_ok_iff`), so no argument is changed on the way, and what is not
of that form has a `Syscall.flaw?`.  `Syscall.handle_simulates` says what this comes to: a flaw is
reported and nothing happens; any other raw call does exactly what its call does.  What a call that
reads leaves in the caller's buffer is `Syscall.buffer_handle`.
-/

namespace PosixVfs

/-! ## Numbers that stand for something -/

/-- The number of an origin. -/
def Whence.number : Whence → Int32
  | set => 0
  | current => 1
  | «end» => 2

/-- The number of a choice of directions. -/
def Direction.number : Direction → Int32
  | read => 0
  | write => 1
  | both => 2

theorem Whence.decode_eq_error_iff {n : Int32} {e : Errno} :
    decode n = .error e ↔ e = .invalidArgument ∧ n ≠ 0 ∧ n ≠ 1 ∧ n ≠ 2 := by
  grind [decode]

theorem Whence.decode_eq_ok_iff {n : Int32} {whence : Whence} :
    decode n = .ok whence ↔ n = whence.number := by
  cases whence <;> grind [decode, number]

theorem Direction.decode_eq_error_iff {n : Int32} {e : Errno} :
    decode n = .error e ↔ e = .invalidArgument ∧ n ≠ 0 ∧ n ≠ 1 ∧ n ≠ 2 := by
  grind [decode]

theorem Direction.decode_eq_ok_iff {n : Int32} {how : Direction} :
    decode n = .ok how ↔ n = how.number := by
  cases how <;> grind [decode, number]

/-! ## The raw form of a call -/

/-- The form in which a C program makes the call, if it can make it. -/
def Call.raw? : Call → Option Syscall
  | openPath path flags mode => some (.openPath (some path) flags.bits.toInt32 mode)
  | close fd => some (.close fd)
  | onDescriptor fd op => match op with
    | .read len => some (.read fd (some len))
    | .write data => some (.write fd (some data))
    | .writev buffers => some (.writev fd (some buffers))
    | .lseek offset whence => some (.lseek fd offset whence.number)
    | .ioctl request arg => some (.ioctl fd request arg)
    | .fcntl command arg => some (.fcntl fd command arg)
    | .isatty => some (.isatty fd)
    | .ftruncate length => some (.ftruncate fd length)
    | .fsync => some (.fsync fd)
    | .fstat => none
  | onPath path op => match op with
    | .chmod mode => some (.chmod (some path) mode)
    | .truncate length => some (.truncate (some path) length)
    | .unlink => some (.unlink (some path))
    | .mkdir mode => some (.mkdir (some path) mode)
    | .rmdir => some (.rmdir (some path))
    | .stat | .utime _ => none
  | rename path target => some (.rename (some path) (some target))
  | umount path flags => some (.umount (some path) flags.bits)
  | sync => some .sync
  | socket domain kind protocol => some (.socket domain kind protocol)
  | onSocket fd op => match op with
    | .listen backlog => some (.listen fd backlog)
    | .shutdown how => some (.shutdown fd how.number)
    | .sockatmark => some (.sockatmark fd)
    | _ => none
  | _ => none

namespace Syscall

/-- A pointer is null. -/
def hasNull : Syscall → Bool
  | openPath path _ _ | chmod path _ | truncate path _ | unlink path | mkdir path _ | rmdir path
  | umount path _ => path.isNone
  | rename path target => path.isNone || target.isNone
  | read _ len => len.isNone
  | write _ data => data.isNone
  | writev _ buffers => buffers.isNone
  | _ => false

/-- A number is out of the range of those that stand for something. -/
def hasUnknown : Syscall → Bool
  | lseek _ _ n | shutdown _ n => n != 0 && n != 1 && n != 2
  | _ => false

/-- What is wrong with the arguments. -/
def flaw? (s : Syscall) : Option Errno :=
  if s.hasNull then some .fault else if s.hasUnknown then some .invalidArgument else none

/-- **Decoding** finds the call whose raw form this is. -/
theorem decode_eq_ok_iff {s : Syscall} {c : Call} : s.decode = .ok c ↔ c.raw? = some s := by
  constructor
  · intro h
    cases s with
    | openPath p | read _ p | write _ p | writev _ p | chmod p | truncate p | unlink p | mkdir p
    | rmdir p | umount p =>
        rcases p with _ | a
        · cases h
        · obtain rfl := Except.ok.inj h
          rfl
    | rename path target =>
        rcases path with _ | path
        · cases h
        rcases target with _ | target
        · cases h
        · obtain rfl := Except.ok.inj h
          rfl
    | lseek fd offset n =>
        rcases hn : Whence.decode n with e | whence
        · rw [decode, hn] at h
          cases h
        · rw [decode, hn] at h
          obtain rfl := Except.ok.inj h
          rw [Whence.decode_eq_ok_iff.mp hn]
          rfl
    | shutdown fd n =>
        rcases hn : Direction.decode n with e | how
        · rw [decode, hn] at h
          cases h
        · rw [decode, hn] at h
          obtain rfl := Except.ok.inj h
          rw [Direction.decode_eq_ok_iff.mp hn]
          rfl
    | _ =>
        obtain rfl := Except.ok.inj h
        rfl
  · intro h
    cases c with
    | onDescriptor fd op =>
        cases op with
        | lseek offset whence =>
            obtain rfl := Option.some.inj h
            rw [decode, Whence.decode_eq_ok_iff.mpr rfl]
            rfl
        | fstat => cases h
        | _ =>
            obtain rfl := Option.some.inj h
            rfl
    | onSocket fd op =>
        cases op with
        | shutdown how =>
            obtain rfl := Option.some.inj h
            rw [decode, Direction.decode_eq_ok_iff.mpr rfl]
            rfl
        | listen | sockatmark =>
            obtain rfl := Option.some.inj h
            rfl
        | _ => cases h
    | onPath path op =>
        cases op with
        | stat | utime => cases h
        | _ =>
            obtain rfl := Option.some.inj h
            rfl
    | openPath | close | rename | umount | sync | socket =>
        obtain rfl := Option.some.inj h
        rfl
    | _ => cases h

/-- **Decoding fails** on flawed arguments and on no others. -/
theorem decode_eq_error_iff {s : Syscall} {e : Errno} : s.decode = .error e ↔ s.flaw? = some e := by
  have hflaw {e₀ : Errno} (hd : s.decode = .error e₀) (hf : s.flaw? = some e₀) :
      s.decode = .error e ↔ s.flaw? = some e := by
    rw [hd, hf, Except.error.injEq, Option.some.injEq]
  have hfine {c : Call} (hd : s.decode = .ok c) (hf : s.flaw? = none) :
      s.decode = .error e ↔ s.flaw? = some e := by
    rw [hd, hf]
    exact iff_of_false nofun nofun
  cases s with
  | openPath p | read _ p | write _ p | writev _ p | chmod p | truncate p | unlink p | mkdir p
  | rmdir p | umount p =>
      rcases p with _ | a
      · exact hflaw rfl rfl
      · exact hfine rfl rfl
  | rename path target =>
      rcases path with _ | path
      · exact hflaw rfl rfl
      rcases target with _ | target
      · exact hflaw rfl rfl
      · exact hfine rfl rfl
  | lseek fd offset n =>
      rcases hn : Whence.decode n with e₀ | whence
      · obtain ⟨rfl, h0, h1, h2⟩ := Whence.decode_eq_error_iff.mp hn
        exact hflaw (by rw [decode, hn]; rfl) (by simp [flaw?, hasNull, hasUnknown, h0, h1, h2])
      · obtain rfl := Whence.decode_eq_ok_iff.mp hn
        exact hfine (by rw [decode, hn]; rfl) (by cases whence <;> rfl)
  | shutdown fd n =>
      rcases hn : Direction.decode n with e₀ | how
      · obtain ⟨rfl, h0, h1, h2⟩ := Direction.decode_eq_error_iff.mp hn
        exact hflaw (by rw [decode, hn]; rfl) (by simp [flaw?, hasNull, hasUnknown, h0, h1, h2])
      · obtain rfl := Direction.decode_eq_ok_iff.mp hn
        exact hfine (by rw [decode, hn]; rfl) (by cases how <;> rfl)
  | _ => exact hfine rfl rfl

end Syscall

/-! ## The number that comes back -/

/-- The number that the value of a call amounts to: 0 for none, 0 or 1 for a no or yes. -/
def Call.number : (c : Call) → c.Value → Int
  | openPath _ _ _, fd | socket _ _ _, fd => fd.toInt
  | onDescriptor _ (.read _), filled => filled.count.toNat
  | onDescriptor _ (.write _), n | onDescriptor _ (.writev _), n => n.toNat
  | onDescriptor _ (.ioctl _ _), value | onDescriptor _ (.fcntl _ _), value => value.toInt
  | onDescriptor _ (.lseek _ _), offset => offset.toInt
  | onDescriptor _ .isatty, answer | onSocket _ .sockatmark, answer => if answer then 1 else 0
  | _, _ => 0

/-- **Two's complement.**  The word for a value is the value's number, modulo the size of a word. -/
theorem Call.toInt_word (c : Call) (value : c.Value) :
    (c.word value).toInt = (c.number value).bmod Int64.size := by
  have hcount (n : UInt64) : n.toInt64.toInt = (n.toNat : Int).bmod Int64.size :=
    n.toBitVec.toInt_eq_toNat_bmod
  have hword (n : Int32) : n.toInt64.toInt = n.toInt.bmod Int64.size := by
    rw [Int32.toInt_toInt64]
    exact n.toInt_bmod_18446744073709551616.symm
  have hzero : (0 : Int64).toInt = (0 : Int).bmod Int64.size := by decide
  have hanswer (answer : Bool) : (if answer then 1 else 0 : Int64).toInt =
      (if answer then 1 else 0 : Int).bmod Int64.size := by
    cases answer <;> decide
  cases c with
  | openPath | socket => exact hword value
  | onDescriptor fd op =>
      cases op with
      | read => exact hcount value.count
      | write | writev => exact hcount value
      | ioctl | fcntl => exact hword value
      | lseek => exact (Int64.toInt_bmod_size value).symm
      | isatty => exact hanswer value
      | _ => exact hzero
  | onSocket fd op =>
      cases op with
      | sockatmark => exact hanswer value
      | _ => exact hzero
  | _ => exact hzero

/-! ## The buffer that comes back -/

/-- What is in a buffer of zeros after it was written to from the front. -/
theorem Bytes.getElem?_overlay (data : Bytes) (len i : Nat) :
    (data.overlay len)[i]? = if i < len then some (data[i]?.getD 0) else none := by
  rw [Bytes.overlay, List.getElem?_append, List.length_take, List.getElem?_take,
    List.getElem?_replicate]
  by_cases hdata : i < data.length
  · rw [List.getElem?_eq_getElem hdata]
    grind
  · rw [List.getElem?_eq_none (Nat.not_lt.mp hdata)]
    grind

/-- A call that does not read leaves nothing in a buffer. -/
theorem Call.buffer_eq_nil {c : Call} (h : ∀ fd len, c ≠ .onDescriptor fd (.read len))
    (value : c.Value) : c.buffer value = [] := by
  unfold buffer
  split
  next fd len filled => exact absurd rfl (h fd len)
  next => rfl

/-! ## What a raw call does -/

namespace Syscall

variable {ε : Type} [Embedder ε]

/-- Only calls that record how they end have a raw form. -/
theorem isSilent_of_raw? {c : Call} {s : Syscall} (h : c.raw? = some s) : c.isSilent = false := by
  cases c with
  | setSocketPool pool => cases h
  | _ => rfl

theorem forgives_iff {c : Call} {e : Errno} :
    c.forgives e = true ↔ (∃ fd, c = .onDescriptor fd .isatty) ∧ e = .notATerminal := by
  constructor
  · intro h
    unfold Call.forgives at h
    split at h
    next fd => exact ⟨⟨fd, rfl⟩, rfl⟩
    next => cases h
  · rintro ⟨⟨fd, rfl⟩, rfl⟩
    rfl

/-- What handling comes to once the arguments are decoded. -/
theorem handle_of_decode {s : Syscall} {c : Call} (h : s.decode = .ok c) (p : Posix ε) :
    (s.handle p).2 = (c.run p).2 ∧
      (s.handle p).1 = match (c.run p).1 with
        | .ok value => ⟨c.word value, c.buffer value⟩
        | .error e => ⟨if c.forgives e then 0 else -1, s.blank⟩ := by
  have hloud := isSilent_of_raw? (decode_eq_ok_iff.mp h)
  have hrun : c.run { p with lastError := none } = c.run p := c.run_setLastError hloud p none
  have hlast := c.lastError_run hloud p
  rw [handle, h]
  simp only [hrun]
  rcases hr : c.run p with ⟨e | value, p'⟩
  · rw [hr] at hlast
    have hsame : { p' with lastError := some e } = p' := Posix.setLastError_eq_self hlast
    by_cases hf : c.forgives e = true
    · simp only [if_pos hf]
      exact ⟨trivial, trivial⟩
    · simp only [if_neg hf]
      exact ⟨hsame, trivial⟩
  · exact ⟨rfl, rfl⟩

/-- **A raw call** with flawed arguments fails with the flaw and does nothing.  Any other does what
the call does whose raw form it is, and ends in the same state.  It returns the number of the value
as a word, or −1 for a failure, which is then the last error; only if a failed call was to tell
whether something is a terminal, and it is none, 0 is returned. -/
theorem handle_simulates (s : Syscall) (p : Posix ε) :
    (∀ e, s.flaw? = some e → s.handle p = (⟨-1, s.blank⟩, { p with lastError := some e })) ∧
    (s.flaw? = none → ∃ c : Call, c.raw? = some s) ∧
    ∀ c : Call, c.raw? = some s →
      (s.handle p).2 = (c.run p).2 ∧
      (∀ value, (c.run p).1 = .ok value → (s.handle p).2.lastError = none ∧
        (s.handle p).1.word.toInt = (c.number value).bmod Int64.size) ∧
      ∀ e, (c.run p).1 = .error e → (s.handle p).2.lastError = some e ∧
        ((∃ fd, c = .onDescriptor fd .isatty) ∧ e = .notATerminal → (s.handle p).1.word = 0) ∧
        (¬ ((∃ fd, c = .onDescriptor fd .isatty) ∧ e = .notATerminal) →
          (s.handle p).1.word = -1) := by
  refine ⟨fun e he => ?_, fun hnone => ?_, fun c hc => ?_⟩
  · rw [handle, decode_eq_error_iff.mpr he]
  · rcases hd : s.decode with e | c
    · rw [decode_eq_error_iff.mp hd] at hnone
      cases hnone
    · exact ⟨c, decode_eq_ok_iff.mp hd⟩
  · obtain ⟨hstate, hreturn⟩ := handle_of_decode (decode_eq_ok_iff.mpr hc) p
    have hlast := c.lastError_run (isSilent_of_raw? hc) p
    refine ⟨hstate, fun value hv => ?_, fun e he => ?_⟩
    · rw [hv] at hlast hreturn
      rw [hstate, hlast, hreturn]
      exact ⟨rfl, c.toInt_word value⟩
    · rw [he] at hlast hreturn
      rw [hstate, hlast, hreturn, ← forgives_iff]
      exact ⟨rfl, fun hf => if_pos hf, fun hf => if_neg hf⟩

/-- **What a raw call leaves in the caller's buffer.**  Only a call that reads has one, and leaves
as many bytes there as it has room for.  In front are those that the object has put there, as far as
there is room for them, whatever count it reports, and the others are zero, as all of them are if the
call fails. -/
theorem buffer_handle (s : Syscall) (p : Posix ε) :
    ((∀ fd len, s ≠ .read fd (some len)) → (s.handle p).1.buffer = []) ∧
    ∀ fd len, s = .read fd (some len) →
      (∀ e, (p.onDescriptor fd (.read len)).1 = .error e →
        (s.handle p).1.buffer = List.replicate len 0) ∧
      ∀ filled : Filled, (p.onDescriptor fd (.read len)).1 = .ok filled → ∀ i : Nat,
        (s.handle p).1.buffer[i]? = if i < len then some (filled.data[i]?.getD 0) else none := by
  constructor
  · intro hs
    have hblank : s.blank = [] := by
      unfold blank
      split
      next fd len => exact absurd rfl (hs fd len)
      next => rfl
    rcases hd : s.decode with e | c
    · rw [handle, hd]
      exact hblank
    · have hread : ∀ fd len, c ≠ .onDescriptor fd (.read len) := by
        rintro fd len rfl
        exact hs fd len (Option.some.inj (decode_eq_ok_iff.mp hd)).symm
      rw [(handle_of_decode hd p).2]
      split
      · exact Call.buffer_eq_nil hread _
      · exact hblank
  · rintro fd len rfl
    have hreturn := (handle_of_decode (s := .read fd (some len)) rfl p).2
    refine ⟨fun e he => ?_, fun filled hf i => ?_⟩
    · rw [hreturn, show (Call.run (.onDescriptor fd (.read len)) p).1 = .error e from he]
      rfl
    · rw [hreturn, show (Call.run (.onDescriptor fd (.read len)) p).1 = .ok filled from hf]
      exact Bytes.getElem?_overlay _ _ _

end Syscall

end PosixVfs
