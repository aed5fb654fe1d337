import PosixVfs.Limits
import PosixVfs.Text.Fixed
import PosixVfs.Text.Quoted

/-!
# Stream/Entry — one entry of a directory stream

An entry is an inode number and a name in a buffer of `maxEntryName` bytes.  Equality is equality of
the whole buffer, so two entries that show the same name may differ in what a longer name left
behind it.  `Entry.Edit` lists what the embedder may do to an entry while it reads: it may change a
part of it, or put another one in its place (`Entry.Origin`).
-/

namespace PosixVfs

/-- An entry of a directory stream. -/
structure Entry where
  ino : UInt64
  buffer : FixedText maxEntryName
  deriving DecidableEq

namespace Entry

/-- The entry with inode number 0 and no name. -/
def blank : Entry := ⟨0, .empty⟩

instance : Inhabited Entry := ⟨blank⟩

/-- The name in the buffer. -/
def name (e : Entry) : String := e.buffer.text

/-- Put `name` into the buffer, cut to whole characters if it is too long. -/
def setName (e : Entry) (name : String) : Entry := { e with buffer := e.buffer.write name }

/-- A fresh entry. -/
def new (ino : UInt64) (name : String) : Entry := setName { blank with ino } name

/-- The text of an entry: its inode number and its quoted name. -/
def describe (e : Entry) : String :=
  "DirEntry \x7b ino: " ++ toString e.ino ++ ", name: " ++ Text.quote e.name ++ " \x7d"

/-- How an entry is made: blank, or with an inode number and a name. -/
inductive Origin where
  | blank
  | new (ino : UInt64) (name : String)
  deriving DecidableEq

/-- The entry that is made. -/
def Origin.entry : Origin → Entry
  | blank => .blank
  | new ino name => .new ino name

/-- One change to an entry. -/
inductive Edit where
  | setIno (ino : UInt64)
  | setName (name : String)
  /-- Put an entry that is made so in its place; of the old one nothing is left. -/
  | replace (o : Origin)
  deriving DecidableEq

/-- The entry after one change. -/
def edit (e : Entry) : Edit → Entry
  | .setIno ino => { e with ino }
  | .setName name => e.setName name
  | .replace o => o.entry

/-- The entry after some changes, first to last. -/
def edits (e : Entry) (changes : List Edit) : Entry := changes.foldl edit e

end Entry

end PosixVfs
