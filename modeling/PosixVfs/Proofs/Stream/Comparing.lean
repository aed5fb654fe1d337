import PosixVfs.Proofs.Stream.Latest
import PosixVfs.Proofs.Stream.Naming

/-!
# Proofs/Stream/Comparing — which entries are equal

An entry shows an inode number and a name, but equality also sees what longer names have left behind
the name in the buffer.  So two entries are equal exactly if they show the same and the same was left
behind, which depends on all names that they have had (`Entry.eq_iff_of_written`).  An entry that a
stream returns has had the names of all entries that were read from the directory before, since each
is made out of the one before it (`Posix.entry_after_edits`), back to the last that the directory put
in the place of another.  It equals a fresh entry that shows the
same if nothing but zeros was left behind its name, and only then
(`Posix.entries_equal_iff_of_history`).
-/

namespace PosixVfs

/-! ## Entries that were named again and again -/

namespace Entry

/-- Changes made one after the other are made at once. -/
theorem edits_append (e : Entry) (changes changes' : List Edit) :
    e.edits (changes ++ changes') = (e.edits changes).edits changes' :=
  List.foldl_append

/-- **Two entries are equal** exactly if they show the same inode number and the same name, and the
names that they have had left the same behind it. -/
theorem eq_iff_of_written (o o' : Origin) (changes changes' : List Edit) :
    let e := o.entry.edits changes
    let e' := o'.entry.edits changes'
    e = e' ↔ e.ino = e'.ino ∧ e.name = e'.name ∧
      ∀ i, Text.size e.name ≤ i → i < maxEntryName →
        FixedText.lastByte maxEntryName (written o changes) i =
          FixedText.lastByte maxEntryName (written o' changes') i := by
  intro e e'
  have hext : e = e' ↔ e.ino = e'.ino ∧ e.buffer = e'.buffer := by
    rcases e with ⟨ino, buffer⟩
    rcases e' with ⟨ino', buffer'⟩
    rw [mk.injEq]
  have hbuffer := FixedText.eq_iff_of_foldl_write (buffer_edits_entry o changes)
    (buffer_edits_entry o' changes')
  rw [hext]
  exact and_congr_right fun _ => hbuffer

/-- **An entry equals a fresh one** that shows the same exactly if the names that it has had left
nothing but zeros behind the last of them. -/
theorem eq_new_iff_of_written {e : Entry} {o : Origin} {changes : List Edit}
    (he : e = o.entry.edits changes) :
    e = .new e.ino e.name ↔ ∀ i, Text.size e.name ≤ i → i < maxEntryName →
      FixedText.lastByte maxEntryName (written o changes) i = 0 := by
  have hfits : Text.size e.name ≤ maxEntryName := by
    have hbuffer : e.buffer = (written o changes).foldl .write .empty := by
      rw [he, buffer_edits_entry]
    rw [name, hbuffer, (FixedText.holds_foldl_write _).text]
    exact (FixedText.isLongestFront_kept _ _).size_le
  have hname : (Entry.new e.ino e.name).name = e.name := FixedText.text_ofString hfits
  have hiff := eq_iff_of_written o (.new e.ino e.name) changes []
  rw [← he] at hiff
  change e = .new e.ino e.name ↔ e.ino = e.ino ∧ e.name = (Entry.new e.ino e.name).name ∧ _ at hiff
  rw [hiff, hname, eq_self_iff_true, eq_self_iff_true, true_and, true_and]
  refine forall_congr' fun i => forall_congr' fun hi => forall_congr' fun _ => ?_
  have hzero : FixedText.lastByte maxEntryName (written (.new e.ino e.name) []) i = 0 := by
    refine FixedText.lastByte_eq_zero fun s hs => ?_
    obtain rfl : s = e.name := List.mem_singleton.mp hs
    rw [FixedText.kept_of_size_le hfits]
    exact hi
  rw [hzero]

end Entry

/-! ## Entries that a stream returns -/

/-- The changes of the entry that the directory keeps: all that it made, unless it failed. -/
def Reading.keptEdits (r : Reading) : List Entry.Edit :=
  match r.step.more with
  | .ok _ => r.step.edits
  | .error _ => []

theorem Reading.getD_kept? (r : Reading) : r.kept?.getD r.before = r.before.edits r.keptEdits := by
  rw [kept?, keptEdits]
  rcases r.step.more with e | more
  · rfl
  · rfl

namespace Posix

variable {ε : Type} [Embedder ε]

/-- **What a directory keeps** is what it had, with the changes of all readings that did not fail. -/
theorem entry_after_edits (d : DirectoryId) (p : Posix ε) (calls : List Call) :
    (p.after calls).world.entry d =
      (p.world.entry d).edits ((p.readings d calls).flatMap Reading.keptEdits) := by
  induction calls generalizing p with
  | nil => rfl
  | cons c calls ih =>
      have hcall : (c.run p).2.world.entry d =
          (p.world.entry d).edits ((c.reading? d p).toList.flatMap Reading.keptEdits) := by
        rw [c.entry_run_reading]
        rcases hr : c.reading? d p with _ | r
        · rfl
        · rw [← Call.before_of_reading? hr, Option.bind_some, r.getD_kept?, Option.toList_some,
            List.flatMap_singleton]
      rw [readings, List.flatMap_append, Entry.edits_append, ← hcall]
      exact ih (c.run p).2

/-- **The entry that a reading returns** is what the directory had, with the changes of all readings
that did not fail and of this one. -/
theorem entry_of_readDirectory {d : DirectoryId} {p : Posix ε} {calls : List Call} {e : Entry}
    (h : ((p.after calls).readDirectory d).1 = .ok (some e)) :
    e = (p.world.entry d).edits ((p.readings d calls).flatMap Reading.keptEdits ++
      (d.reading (p.after calls).world).step.edits) := by
  rw [readDirectory, fst_track] at h
  have hresult : (d.reading (p.after calls).world).result = .ok (some e) :=
    (d.read_reading (p.after calls).world).1.symm.trans h
  rw [Entry.edits_append, ← entry_after_edits]
  change e = (d.reading (p.after calls).world).entry
  rw [Reading.result] at hresult
  rcases hmore : (d.reading (p.after calls).world).step.more with e' | more
  · rw [hmore] at hresult
    cases hresult
  · rw [hmore] at hresult
    cases more with
    | false => cases hresult
    | true => exact (Option.some.inj (Except.ok.inj hresult)).symm

/-- **Which entries are equal.**  However two entries were made, and whatever names and inode
numbers were put into them since, or entries in their places, they are equal exactly if they show the
same inode number and the same name, and behind it, at each place of the buffer, the last name that
was long enough to reach it has put the same byte.  This is so for the entries that a stream returns
too: if the directory was not read from before, such an entry is a blank one with the changes of all
readings that did not fail, up to the one that returns it.  So it equals a fresh entry that shows the
same exactly if only zeros were left behind its name, as they are if no name that was put into it is
longer. -/
theorem entries_equal_iff_of_history :
    (∀ (o o' : Entry.Origin) (changes changes' : List Entry.Edit),
      let e := o.entry.edits changes
      let e' := o'.entry.edits changes'
      e = e' ↔ e.ino = e'.ino ∧ e.name = e'.name ∧
        ∀ i, Text.size e.name ≤ i → i < maxEntryName →
          FixedText.lastByte maxEntryName (Entry.written o changes) i =
            FixedText.lastByte maxEntryName (Entry.written o' changes') i) ∧
    ∀ (p : Posix ε) (d : DirectoryId) (calls : List Call) (e : Entry),
      p.world.entry d = .blank → ((p.after calls).readDirectory d).1 = .ok (some e) →
        let changes := (p.readings d calls).flatMap Reading.keptEdits ++
          (d.reading (p.after calls).world).step.edits
        let names := Entry.written .blank changes
        e = Entry.blank.edits changes ∧
          (e = .new e.ino e.name ↔ ∀ i, Text.size e.name ≤ i → i < maxEntryName →
            FixedText.lastByte maxEntryName names i = 0) ∧
          ((∀ s ∈ names, Text.size (FixedText.kept maxEntryName s) ≤ Text.size e.name) →
            e = .new e.ino e.name) := by
  refine ⟨Entry.eq_iff_of_written, fun p d calls e hblank hread => ?_⟩
  intro changes names
  have he : e = Entry.Origin.blank.entry.edits changes := by
    have hedits := entry_of_readDirectory hread
    rwa [hblank] at hedits
  have hfresh : e = .new e.ino e.name ↔ ∀ i, Text.size e.name ≤ i → i < maxEntryName →
      FixedText.lastByte maxEntryName names i = 0 := Entry.eq_new_iff_of_written he
  refine ⟨he, hfresh, fun hlongest => hfresh.mpr fun i hi _ => ?_⟩
  exact FixedText.lastByte_eq_zero fun s hs => Nat.le_trans (hlongest s hs) hi

/-- **Two entries that show the same may differ.**  A stream that returns an entry with the name `abc`
and then one with the name `a` returns the second with the rest of the first behind its name.  It
shows what a fresh entry shows, but is not equal to it. -/
theorem entry_differs_by_left_over :
    let script := ({} : Script).setEntries ⟨0, 0⟩
      [{ name := some "abc", ino := some 7 }, { name := some "a", ino := some 7 }]
    let p := ((Session.scripted script).posix.setRoot ⟨0⟩ none ⟨0⟩).2
    let p₁ := (p.openDirectory "/d").2
    let p₂ := (p₁.readDirectory ⟨0, 0⟩).2
    let e := (Entry.new 7 "abc").setName "a"
    (p.openDirectory "/d").1 = .ok ⟨0, 0⟩ ∧
      (p₁.readDirectory ⟨0, 0⟩).1 = .ok (some (.new 7 "abc")) ∧
      (p₂.readDirectory ⟨0, 0⟩).1 = .ok (some e) ∧
      e.ino = (Entry.new 7 "a").ino ∧ e.name = (Entry.new 7 "a").name ∧ e ≠ .new 7 "a" := by
  decide +kernel

end Posix

end PosixVfs
