import PosixVfs.Object.Hook

/-!
# Scripted/Item — one prepared answer

An `Item` says how a hook ends: with an error, or with a value.  What it leaves open is filled in as
an obliging object would: reading fills the buffer, writing takes all there is, and a control
operation answers 0.
-/

namespace PosixVfs.Scripted

/-- The value of a prepared answer. -/
inductive Value where
  | number (n : Int64)
  | stat (s : FileStat)
  deriving DecidableEq

namespace Value

/-- The value as a number; a file status is none. -/
def toWord : Value → Int64
  | number n => n
  | stat _ => 0

/-- The value as a count: the word with the same bits. -/
def toCount (v : Value) : UInt64 := v.toWord.toUInt64

/-- The value as a yes, unless it is 0. -/
def toBool (v : Value) : Bool := v.toWord != 0

/-- The value as a file status; a number is none. -/
def toStat : Value → FileStat
  | number _ => {}
  | stat s => s

end Value

/-- A prepared answer. -/
structure Item where
  error : Option Errno := none
  /-- The error of a block device. -/
  diskError : Option DiskError := none
  value : Option Value := none
  address : Option Address := none
  /-- The name of a directory entry. -/
  name : Option String := none
  /-- The inode number of a directory entry. -/
  ino : Option UInt64 := none
  /-- The flags of a received message. -/
  flags : Option MessageFlags := none
  deriving DecidableEq

namespace Item

/-- The answer of an item: its error, else its value, else `usual`. -/
def settle {α : Type} (item : Item) (usual : α) (read : Value → α) : Except Errno α :=
  match item.error with
  | some e => .error e
  | none => .ok (item.value.elim usual read)

/-- The answer of an item to a disk. -/
def settleDisk {α : Type} (item : Item) (usual : α) (read : Value → α) : Except DiskError α :=
  match item.diskError with
  | some e => .error e
  | none => .ok (item.value.elim usual read)

/-- The answer that carries no value. -/
def acknowledge (item : Item) : Except Errno Unit := item.settle () fun _ => ()

/-- A count of bytes, by default all of them. -/
def count (item : Item) (len : Nat) : Except Errno UInt64 := item.settle (.ofNat len) Value.toCount

end Item

/-- The length of several buffers together. -/
def total (lens : List Nat) : Nat := lens.foldl Nat.add 0

/-- A buffer of `len` bytes filled with the letter x, as far as `count` goes. -/
def fill (len : Nat) (count : UInt64) : Filled := ⟨count, List.replicate (min count.toNat len) 0x78⟩

/-- The address of a peer that nothing was said about. -/
def usualPeer : Address := ⟨"127.0.0.1:4242"⟩

/-- The address of a socket that nothing was said about. -/
def usualName : Address := ⟨"0.0.0.0:0"⟩

/-- What a directory does with an entry item: it sets what the item says, and goes on unless the
item has another value. -/
def Item.readStep (item : Item) : ReadStep where
  edits := (item.name.map Entry.Edit.setName).toList ++ (item.ino.map Entry.Edit.setIno).toList
  more := item.settle true Value.toBool

/-- The answer to an operation on a descriptor. -/
def Item.io (item : Item) : (op : IoOp) → Except Errno op.Value
  | .read len => (item.count len).map (fill len)
  | .write data => item.count data.length
  | .writev buffers => item.count (total (buffers.map List.length))
  | .ioctl _ _ | .fcntl _ _ => item.settle 0 fun v => v.toWord.toInt32
  | .lseek offset _ => item.settle offset Value.toWord
  | .isatty => item.settle false Value.toBool
  | .fstat => item.settle {} Value.toStat
  | .ftruncate _ | .fsync => item.acknowledge

/-- The answer to an operation on a socket. -/
def Item.socket (item : Item) : (op : SocketOp) → Except Errno op.Value
  | .bind _ | .connect _ | .listen _ | .setsockopt _ _ _ | .shutdown _ => item.acknowledge
  | .getpeername => item.acknowledge.map fun () => item.address.getD usualPeer
  | .getsockname => item.acknowledge.map fun () => item.address.getD usualName
  | .getsockopt _ _ len | .recv len _ => (item.count len).map (fill len)
  | .recvfrom len _ => (item.count len).map fun n => (fill len n, item.address)
  | .recvmsg message _ => (item.count (total message.lens)).map fun n =>
      { count := n
        data := (fill (total message.lens) n).data
        name := item.address <|> message.name
        flags := item.flags.getD message.flags }
  | .send data _ | .sendto data _ _ => item.count data.length
  | .sendmsg message _ => item.count (total (message.buffers.map List.length))
  | .sockatmark => item.settle false Value.toBool

/-- The answer to an operation on a path. -/
def Item.path (item : Item) : (op : PathOp) → Except Errno op.Value
  | .stat => item.settle {} Value.toStat
  | .chmod _ | .truncate _ | .unlink | .utime _ | .mkdir _ | .rmdir => item.acknowledge

/-- The answer to a hook. -/
def Item.reply (item : Item) : (h : Hook) → h.Reply
  | .io _ op => item.io op
  | .accept _ _ => item.acknowledge.map fun () => item.address
  | .socket _ op => item.socket op
  | .readDirectory _ _ => item.readStep
  | .path _ _ op => item.path op
  | .readBlocks _ _ len => (item.settleDisk (.ofNat len) Value.toCount).map (fill len)
  | .writeBlocks _ _ data => item.settleDisk (.ofNat data.length) Value.toCount
  | .flush _ => item.settleDisk () fun _ => ()
  | .opening _ _ _ _ | .closing _ | .create _ _ _ _ | .openDirectory _ _ | .rewindDirectory _
  | .closeDirectory _ | .mount _ _ _ | .unmount _ _ _ | .sync _ _ | .rename _ _ _ => item.acknowledge

end PosixVfs.Scripted
