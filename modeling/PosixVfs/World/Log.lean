import PosixVfs.Errno
import PosixVfs.Object.Identity
import PosixVfs.Flags

/-!
# World/Log — what is worth a line in the log

A log record says what happened; `LogRecord.level` and `LogRecord.message` say how urgent that is
and how it reads.
-/

namespace PosixVfs

/-- The levels of urgency. -/
inductive LogLevel where
  | error
  | warn
  | info
  | debug
  | trace
  deriving DecidableEq, Repr

/-- The name of the level. -/
def LogLevel.label : LogLevel → String
  | error => "ERROR"
  | warn => "WARN"
  | info => "INFO"
  | debug => "DEBUG"
  | trace => "TRACE"

/-- Something that happened. -/
inductive LogRecord where
  | contextBuilt (descriptors mounts devices : Nat)
  | tableBuilt (capacity : Nat)
  | poolExhausted (capacity : Nat)
  | slotAlreadyFree (slot : Nat)
  | alreadyBound (fd : Fd)
  | allocated (fd : Fd) (kind : IoKind)
  | freed (fd : Fd)
  | rollback (kind : IoKind) (cause : Errno)
  | rollbackCloseFailed (cause : Errno)
  | notBoundInTable (fd : Fd)
  | closeFailed (kind : IoKind) (cause : Errno)
  | socketCloseFailed (cause : Errno)
  | rootSet (flags : MountFlags)
  | alreadyMounted (path : String)
  | mounted (path : String) (flags : MountFlags)
  | unmounted (path : String)
  | unmountSyncFailed (path : String) (cause : Errno)
  | unmountFailed (path : String) (cause : Errno)
  | syncFailed (cause : Errno)
  | deviceRegistered (name : String)
  | deviceUnregistered (name : String)
  | noFileObject (path : String)
  | noDirectoryObject (path : String)
  | callFailed (cause : Errno)
  deriving DecidableEq

namespace LogRecord

/-- How urgent a record is. -/
def level : LogRecord → LogLevel
  | contextBuilt _ _ _ | rootSet _ | mounted _ _ | unmounted _ => .info
  | slotAlreadyFree _ | notBoundInTable _ | closeFailed _ _ | unmountSyncFailed _ _
  | unmountFailed _ _ | syncFailed _ => .warn
  | callFailed _ => .trace
  | _ => .debug

/-- How a record reads. -/
def message : LogRecord → String
  | contextBuilt descriptors mounts devices =>
      s!"posix io: {descriptors} descriptors, {mounts} mount points, {devices} devices"
  | tableBuilt capacity => s!"descriptor table: {capacity} slots"
  | poolExhausted capacity => s!"pool exhausted ({capacity} slots)"
  | slotAlreadyFree slot => s!"pool slot {slot} released while free"
  | alreadyBound fd => s!"object already bound to descriptor {fd}"
  | allocated fd kind => s!"allocated descriptor {fd} ({kind.label})"
  | freed fd => s!"freed descriptor {fd}"
  | rollback kind cause => s!"rolling back open of {kind.label}: {cause.message}"
  | rollbackCloseFailed cause => s!"close hook failed during rollback: {cause.message}"
  | notBoundInTable fd => s!"descriptor {fd} was not bound in the table"
  | closeFailed kind cause => s!"close of {kind.label} failed: {cause.message}"
  | socketCloseFailed cause => s!"close of unusable socket failed: {cause.message}"
  | rootSet flags => s!"root filesystem set (flags {Text.hex flags.bits.toNat})"
  | alreadyMounted path => s!"{path} is already mounted"
  | mounted path flags => s!"mounted {path} (flags {Text.hex flags.bits.toNat})"
  | unmounted path => s!"unmounted {path}"
  | unmountSyncFailed path cause => s!"sync of {path} failed: {cause.message}"
  | unmountFailed path cause => s!"unmount of {path} failed: {cause.message}"
  | syncFailed cause => s!"sync failed: {cause.message}"
  | deviceRegistered name => s!"registered device {deviceDirectory}{name}"
  | deviceUnregistered name => s!"unregistered device {deviceDirectory}{name}"
  | noFileObject path => s!"no free file object for {path}"
  | noDirectoryObject path => s!"no free directory object for {path}"
  | callFailed cause => s!"call failed: {cause.message} (errno {cause.code})"

end LogRecord

end PosixVfs
