import PosixVfs.Block.Transfer
import PosixVfs.Posix.Syscall
import PosixVfs.Scripted.Script
import PosixVfs.Proofs.Namespace.Resolution
import PosixVfs.Proofs.Namespace.Attachment
import PosixVfs.Proofs.Posix.Raw
import PosixVfs.Proofs.Session.Agreement
import PosixVfs.Proofs.Session.Refusal
import PosixVfs.Proofs.Session.Balance
import PosixVfs.Proofs.Session.Evenness
import PosixVfs.Proofs.Posix.Convention
import PosixVfs.Proofs.Namespace.Locality
import PosixVfs.Proofs.Posix.Isolation
import PosixVfs.Proofs.Posix.Ownership
import PosixVfs.Proofs.Namespace.DeviceMap
import PosixVfs.Proofs.Posix.Numbering
import PosixVfs.Proofs.World.Holders
import PosixVfs.Proofs.Posix.LastError
import PosixVfs.Proofs.Block.Range
import PosixVfs.Proofs.Posix.Reach
import PosixVfs.Proofs.Posix.Leading
import PosixVfs.Proofs.Posix.Renaming
import PosixVfs.Proofs.Posix.Acceptance
import PosixVfs.Proofs.Descriptor.Closing
import PosixVfs.Proofs.Posix.Syncing
import PosixVfs.Proofs.Session.Closing
import PosixVfs.Proofs.Stream.Entries
import PosixVfs.Proofs.Stream.Latest
import PosixVfs.Proofs.Text.Fitting
import PosixVfs.Proofs.Text.Rewriting
import PosixVfs.Proofs.Stream.Naming
import PosixVfs.Proofs.Descriptor.Foreign
import PosixVfs.Proofs.Stream.Comparing
