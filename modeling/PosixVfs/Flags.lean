import PosixVfs.Text.Hexadecimal

/-!
# Flags — flag words for opening, mounting and messages

A flag word is any 32-bit word.  Some bits have a name, which depends on the kind of word
(`FlagKind.named`); the others are kept as they are and reach the embedder's hooks.  Complement and
truncation are relative to the named bits (`Flags.all`).
-/

namespace PosixVfs

/-- What a flag word is for. -/
inductive FlagKind where
  | opening
  | mounting
  | message
  deriving DecidableEq, Repr

namespace FlagKind

/-- The name of the kind. -/
def title : FlagKind → String
  | opening => "OpenFlags"
  | mounting => "MountFlags"
  | message => "MsgFlags"

/-- The named flags of a kind, each a single bit.  Reading only is the absence of bits when a file
is opened, so it has no name there. -/
def named : FlagKind → List (String × UInt32)
  | opening =>
      [("WRONLY", 0x1), ("RDWR", 0x2), ("APPEND", 0x8), ("CREAT", 0x200), ("TRUNC", 0x400),
        ("EXCL", 0x800), ("NONBLOCK", 0x4000)]
  | mounting => [("RDONLY", 0x1), ("FORCE", 0x2), ("SYNCHRONOUS", 0x10)]
  | message =>
      [("OOB", 0x1), ("PEEK", 0x2), ("DONTROUTE", 0x4), ("TRUNC", 0x10), ("DONTWAIT", 0x40),
        ("WAITALL", 0x100), ("NOSIGNAL", 0x4000)]

end FlagKind

/-- A flag word of kind `k`. -/
structure Flags (k : FlagKind) where
  bits : UInt32
  deriving DecidableEq, Repr

/-- How a file is opened. -/
abbrev OpenFlags := Flags .opening
/-- How a file system is mounted or unmounted. -/
abbrev MountFlags := Flags .mounting
/-- How a message is sent or received. -/
abbrev MessageFlags := Flags .message

namespace Flags

variable {k : FlagKind}

/-- Every named bit of the kind. -/
def all : Flags k := ⟨k.named.foldl (fun bits flag => bits ||| flag.2) 0⟩

/-- No bit is set. -/
def isEmpty (x : Flags k) : Bool := x.bits == 0

/-- Every bit of `y` is set in `x`. -/
def contains (x y : Flags k) : Bool := x.bits &&& y.bits == y.bits

/-- Some bit is set in both. -/
def intersects (x y : Flags k) : Bool := x.bits &&& y.bits != 0

/-- Every named bit is set. -/
def isAll (x : Flags k) : Bool := x.contains all

/-- The bits of either. -/
def union (x y : Flags k) : Flags k := ⟨x.bits ||| y.bits⟩

/-- The bits of both. -/
def inter (x y : Flags k) : Flags k := ⟨x.bits &&& y.bits⟩

/-- The bits of `x` that `y` lacks. -/
def diff (x y : Flags k) : Flags k := ⟨x.bits &&& ~~~y.bits⟩

/-- The bits of exactly one. -/
def symmDiff (x y : Flags k) : Flags k := ⟨x.bits ^^^ y.bits⟩

/-- The named bits of `x`. -/
def truncate (x : Flags k) : Flags k := x.inter all

/-- The named bits that `x` lacks. -/
def compl (x : Flags k) : Flags k := ⟨~~~x.bits &&& (all : Flags k).bits⟩

/-- `x` itself, provided that all its bits have names. -/
def known? (x : Flags k) : Option (Flags k) := if x.truncate = x then some x else none

/-- The names of the flags set in `x`, in the order of the kind. -/
def names (x : Flags k) : List String :=
  (k.named.filter fun flag => x.contains ⟨flag.2⟩).map Prod.fst

/-- **The text of a flag word**: its kind, then its names and last the bits without a name as one
hexadecimal number; a word without bits is `0x0`. -/
def describe (x : Flags k) : String :=
  let unnamed := x.diff all
  let parts := x.names ++ if unnamed.isEmpty then [] else [Text.hex unnamed.bits.toNat]
  k.title ++ "(" ++ (if parts.isEmpty then "0x0" else " | ".intercalate parts) ++ ")"

end Flags

end PosixVfs
