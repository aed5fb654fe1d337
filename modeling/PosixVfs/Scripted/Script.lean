import PosixVfs.Scripted.Item
import PosixVfs.World.Basic

/-!
# Scripted/Script — an embedder that answers from a script

A `Script` has a queue of prepared answers for each object and hook, and keeps a journal of what it
was asked.  Bare objects take no part: they answer every hook by its default and are not in the
journal.  A directory also has a list of entries, which it goes through when nothing is prepared.
-/

namespace PosixVfs

/-- The name of a hook among those of its object. -/
def Hook.name : Hook → String
  | opening _ _ _ _ | openDirectory _ _ => "open"
  | closing _ | closeDirectory _ => "close"
  | io _ op => match op with
    | .read _ => "read"
    | .write _ => "write"
    | .writev _ => "writev"
    | .ioctl _ _ => "ioctl"
    | .fcntl _ _ => "fcntl"
    | .lseek _ _ => "lseek"
    | .isatty => "isatty"
    | .fstat => "fstat"
    | .ftruncate _ => "ftruncate"
    | .fsync => "fsync"
  | create _ _ _ _ => "socket"
  | accept _ _ => "accept"
  | socket _ op => match op with
    | .bind _ => "bind"
    | .connect _ => "connect"
    | .listen _ => "listen"
    | .getpeername => "getpeername"
    | .getsockname => "getsockname"
    | .getsockopt _ _ _ => "getsockopt"
    | .setsockopt _ _ _ => "setsockopt"
    | .recv _ _ => "recv"
    | .recvfrom _ _ => "recvfrom"
    | .recvmsg _ _ => "recvmsg"
    | .send _ _ => "send"
    | .sendto _ _ _ => "sendto"
    | .sendmsg _ _ => "sendmsg"
    | .shutdown _ => "shutdown"
    | .sockatmark => "sockatmark"
  | readDirectory _ _ => "read"
  | rewindDirectory _ => "rewind"
  | mount _ _ _ => "mount"
  | unmount _ _ _ => "unmount"
  | sync _ _ => "sync"
  | path _ _ op => match op with
    | .chmod _ => "chmod"
    | .stat => "stat"
    | .truncate _ => "truncate"
    | .unlink => "unlink"
    | .utime _ => "utime"
    | .mkdir _ => "mkdir"
    | .rmdir => "rmdir"
  | rename _ _ _ => "rename"
  | readBlocks _ _ _ => "read_blocks"
  | writeBlocks _ _ _ => "write_blocks"
  | flush _ => "flush"

/-- Prepared answers, and a journal of the hooks that were called. -/
structure Script where
  isBare : ObjectId → Bool := fun _ => false
  queue : ObjectId × String → List Scripted.Item := fun _ => []
  /-- The entries of a directory. -/
  entries : DirectoryId → List Scripted.Item := fun _ => []
  /-- How many of its entries a directory has been through. -/
  position : DirectoryId → Nat := fun _ => 0
  journal : List Hook := []

namespace Script

/-- Prepare answers to a hook, after those that are prepared already. -/
def enqueue (s : Script) (o : ObjectId) (hook : String) (items : List Scripted.Item) : Script :=
  { s with queue := assign s.queue (o, hook) (s.queue (o, hook) ++ items) }

/-- Replace the entries of a directory; it goes on where it was. -/
def setEntries (s : Script) (d : DirectoryId) (items : List Scripted.Item) : Script :=
  { s with entries := assign s.entries d items }

/-- Send a directory to its entry number `n`. -/
def setPosition (s : Script) (d : DirectoryId) (n : Nat) : Script :=
  { s with position := assign s.position d n }

/-- Enter a hook into the journal, and take the answer prepared for it. -/
def next (s : Script) (h : Hook) : Option Scripted.Item × Script :=
  let key := (h.subject, h.name)
  ((s.queue key).head?,
    { s with journal := s.journal ++ [h], queue := assign s.queue key (s.queue key).tail })

/-- The answer of an object without a memory of its own. -/
def plain (h : Hook) (s : Script) : h.Reply × Script :=
  if s.isBare h.subject then (h.default, s)
  else
    let (item, s) := s.next h
    ((item.getD {}).reply h, s)

/-- A socket that accepts without being told how lets the connection connect to the usual peer. -/
def accept (s : Script) (listener connection : SocketId) :
    Except Errno (Option Address) × Script :=
  match s.next (.accept listener connection) with
  | (some item, s) => (item.reply (.accept listener connection), s)
  | (none, s) =>
      let (connected, s) := plain (.socket connection (.connect Scripted.usualPeer)) s
      (connected.map fun () => some Scripted.usualPeer, s)

/-- A directory that is read without being told how produces the next of its entries. -/
def readEntry (s : Script) (d : DirectoryId) (before : Entry) : ReadStep × Script :=
  match s.next (.readDirectory d before) with
  | (some item, s) => (item.readStep, s)
  | (none, s) =>
      let item := (s.entries d)[s.position d]?.getD { value := some (.number 0) }
      (item.readStep, s.setPosition d (s.position d + 1))

/-- Opening a directory starts it from its first entry, and rewinding does if it succeeds. -/
def restart (s : Script) (d : DirectoryId) (always : Bool) (answer : Except Errno Unit) : Script :=
  if always || answer.toBool then s.setPosition d 0 else s

/-- The answer to a hook. -/
def answer (h : Hook) (s : Script) : h.Reply × Script :=
  if s.isBare h.subject then (h.default, s)
  else
    match h with
    | .accept listener connection => s.accept listener connection
    | .readDirectory d before => s.readEntry d before
    | .openDirectory d path =>
        let (reply, s) := plain (.openDirectory d path) s
        (reply, s.restart d true reply)
    | .rewindDirectory d =>
        let (reply, s) := plain (.rewindDirectory d) s
        (reply, s.restart d false reply)
    | h => plain h s

instance : Embedder Script := ⟨answer⟩

end Script

end PosixVfs
