import PosixVfs.Proofs.Text.Rewriting
import PosixVfs.Stream.Entry

/-!
# Proofs/Stream/Naming — an entry shows the last name it was given, as far as it fits

However an entry was made (`Entry.Origin`) and whatever names were put into it since, the bytes of its
buffer are those of a zeroed buffer to which these names were written in order
(`Entry.buffer_edits_entry`); where another entry was put in its place, they are the names of this one.
So it shows the longest front of the last name that has room, and all that was written before makes no
difference to that (`Entry.Origin.shows_last_name`).
-/

namespace PosixVfs.Entry

namespace Origin

/-- The inode number that the entry is made with. -/
def ino : Origin → UInt64
  | blank => 0
  | new ino _ => ino

/-- The names that are put into the entry when it is made. -/
def names : Origin → List String
  | blank => []
  | new _ name => [name]

/-- An entry is made by writing its names to a zeroed buffer. -/
theorem buffer_entry (o : Origin) : o.entry.buffer = o.names.foldl .write .empty := by
  cases o with
  | blank => rfl
  | new ino name => rfl

end Origin

/-- The names in the buffer after a change: one more, the same, or those of the entry that was put in
its place. -/
def Edit.put (names : List String) : Edit → List String
  | setIno _ => names
  | setName name => names ++ [name]
  | replace o => o.names

/-- The names that were put into the buffer of an entry that was made so and then changed, first to
last. -/
def written (o : Origin) (changes : List Edit) : List String :=
  changes.foldl Edit.put o.names

/-- One change keeps the account of the names in the buffer. -/
theorem buffer_edit {e : Entry} {names : List String} (h : e.buffer = names.foldl .write .empty)
    (change : Edit) : (e.edit change).buffer = (change.put names).foldl .write .empty := by
  cases change with
  | setIno ino => exact h
  | setName name =>
      rw [Edit.put, List.foldl_append, ← h]
      rfl
  | replace o => exact o.buffer_entry

/-- **The buffer of an entry** is one to which its names were written, and nothing else. -/
theorem buffer_edits_entry (o : Origin) (changes : List Edit) :
    (o.entry.edits changes).buffer = (written o changes).foldl .write .empty := by
  have hedits : ∀ (e : Entry) (names : List String), e.buffer = names.foldl .write .empty →
      (e.edits changes).buffer = (changes.foldl Edit.put names).foldl .write .empty := by
    induction changes with
    | nil => exact fun e names h => h
    | cons change changes ih => exact fun e names h => ih _ _ (buffer_edit h change)
  exact hedits o.entry o.names o.buffer_entry

/-- Giving names to an entry is changing it. -/
theorem foldl_setName (e : Entry) (names : List String) :
    names.foldl setName e = e.edits (names.map .setName) := by
  rw [edits, List.foldl_map]
  rfl

theorem written_map_setName (o : Origin) (names : List String) :
    written o (names.map .setName) = o.names ++ names := by
  have happend : ∀ before : List String,
      (names.map Edit.setName).foldl Edit.put before = before ++ names := by
    induction names with
    | nil => exact fun before => (List.append_nil before).symm
    | cons name names ih => exact fun before => (ih _).trans (List.append_cons before name names).symm
  exact happend o.names

theorem ino_foldl_setName (e : Entry) (names : List String) :
    (names.foldl setName e).ino = e.ino := by
  induction names generalizing e with
  | nil => rfl
  | cons name names ih => exact ih (e.setName name)

/-- **An entry shows the last name** that it was given, cut to the longest front that has room, which
is determined by that name alone.  A name of at most 256 bytes is shown whole, and of a longer one at
least 253 bytes are.  The inode number is the one that the entry was made with.  What is in front of
the buffer is always text, and the search for the place to cut always finds one. -/
theorem Origin.shows_last_name (o : Origin) (names : List String) :
    let e := names.foldl setName o.entry
    let last := ((o.names ++ names).getLast?).getD ""
    e.ino = o.ino ∧
      (∀ front, Text.IsLongestFront maxEntryName last front ↔ front = e.name) ∧
      (Text.size last ≤ maxEntryName → e.name = last) ∧
      (maxEntryName < Text.size last → 253 ≤ Text.size e.name) ∧
      Text.decode (e.buffer.bytes.take e.buffer.length) = some e.name ∧
      Text.walkBack? (Text.bytes last) (min (Text.size last) maxEntryName) =
        some e.buffer.length := by
  intro e last
  have hino : e.ino = o.ino := by
    rw [ino_foldl_setName]
    cases o with
    | blank => rfl
    | new ino name => rfl
  have hholds : e.buffer.Holds (FixedText.kept maxEntryName last) := by
    have hbuffer : e.buffer = (o.names ++ names).foldl .write .empty := by
      rw [← written_map_setName, ← buffer_edits_entry, ← foldl_setName]
    rw [hbuffer]
    exact FixedText.holds_foldl_write _
  have hname : e.name = FixedText.kept maxEntryName last := hholds.text
  have hfront : Text.IsLongestFront maxEntryName last e.name := by
    rw [hname]
    exact FixedText.isLongestFront_kept _ _
  refine ⟨hino, fun front => ⟨fun h => h.unique hfront, fun h => h ▸ hfront⟩,
    hfront.eq_of_size_le, fun hlong => ?_, ?_, ?_⟩
  · have hroom := hfront.lt_size_add_four hlong
    rw [maxEntryName] at hroom
    omega
  · rw [hname]
    exact hholds.decode
  · rw [Text.walkBack?_eq, hholds.length, FixedText.size_kept]
    rfl

end PosixVfs.Entry
