/-!
# Errno — the errors a call can fail with

Every error stands for one errno value (`Errno.code`) and has one text (`Errno.message`).  A block
device fails in its own vocabulary, `DiskError`; `DiskError.toErrno` folds it into errno values, so
that a misdirected transfer becomes an invalid argument and a hardware failure an I/O error.
-/

namespace PosixVfs

/-- The error of a failed call. -/
inductive Errno where
  | fault
  | noSuchEntity
  | badFileDescriptor
  | busy
  | tooManyOpenFiles
  | processLimit
  | notSupported
  | notATerminal
  | invalidArgument
  | noSpace
  | notASocket
  /-- An error of the implementation's own, given by its number. -/
  | other (code : Int32)
  deriving DecidableEq, Repr

namespace Errno

/-- The errno value a caller sees. -/
def code : Errno → Int32
  | fault => 14
  | noSuchEntity => 2
  | badFileDescriptor => 9
  | busy => 16
  | tooManyOpenFiles => 23
  | processLimit => 24
  | notSupported => 38
  | notATerminal => 25
  | invalidArgument => 22
  | noSpace => 28
  | notASocket => 88
  | other code => code

/-- The text of an error, as log messages show it. -/
def message : Errno → String
  | fault => "Bad address"
  | noSuchEntity => "No such file or directory"
  | badFileDescriptor => "Bad file descriptor"
  | busy => "Device or resource busy"
  | tooManyOpenFiles => "Too many open files in system"
  | processLimit => "Too many open files"
  | notSupported => "Function not implemented"
  | notATerminal => "Not a terminal"
  | invalidArgument => "Invalid argument"
  | noSpace => "No space left on device"
  | notASocket => "Not a socket"
  | other code => s!"I/O error (errno {code})"

/-- The name of the error's kind, with the number of an implementation's own error. -/
def label : Errno → String
  | fault => "Fault"
  | noSuchEntity => "NoSuchEntity"
  | badFileDescriptor => "BadFileDescriptor"
  | busy => "Busy"
  | tooManyOpenFiles => "TooManyOpenFiles"
  | processLimit => "ProcessLimit"
  | notSupported => "NotSupported"
  | notATerminal => "NotATerminal"
  | invalidArgument => "InvalidArgument"
  | noSpace => "NoSpace"
  | notASocket => "NotASocket"
  | other code => s!"Other({code})"

/-- The errors with a kind of their own: all but `other`. -/
def named : List Errno :=
  [fault, noSuchEntity, badFileDescriptor, busy, tooManyOpenFiles, processLimit, notSupported,
    notATerminal, invalidArgument, noSpace, notASocket]

/-- The error whose label is `name`, among those with a kind of their own. -/
def ofLabel? (name : String) : Option Errno :=
  named.find? fun e => e.label == name

end Errno

/-- The error of a block device. -/
inductive DiskError where
  /-- The device has no such operation. -/
  | notSupported
  /-- A transfer from `block` on leaves a device of `count` blocks. -/
  | outOfRange (block count : UInt64)
  /-- `len` bytes are no whole number of blocks of `blockSize` bytes. -/
  | misaligned (len blockSize : UInt64)
  /-- The device itself failed, in its own numbering. -/
  | hardware (code : Int32)
  deriving DecidableEq, Repr

namespace DiskError

/-- The text of an error. -/
def message : DiskError → String
  | notSupported => "Operation not supported by this device"
  | outOfRange block count => s!"Block {block} out of range (device has {count} blocks)"
  | misaligned len size => s!"Buffer length {len} is not a multiple of the block size {size}"
  | hardware code => s!"Hardware error: {code}"

/-- The kind of the error with its fields. -/
def describe : DiskError → String
  | notSupported => "NotSupported"
  | outOfRange block count =>
      "OutOfRange \x7b block: " ++ toString block ++ ", count: " ++ toString count ++ " \x7d"
  | misaligned len size =>
      "Misaligned \x7b len: " ++ toString len ++ ", block_size: " ++ toString size ++ " \x7d"
  | hardware code => s!"HardwareError({code})"

/-- What a file system reports when its device fails: a transfer the device rejects is an invalid
argument, and a hardware failure of whatever number is errno 5. -/
def toErrno : DiskError → Errno
  | notSupported => .notSupported
  | outOfRange _ _ => .invalidArgument
  | misaligned _ _ => .invalidArgument
  | hardware _ => .other 5

end DiskError

end PosixVfs
