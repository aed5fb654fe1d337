import PosixVfs.Proofs.Session.Run
import PosixVfs.Proofs.Stream.Entries

/-!
# Proofs/Stream/Latest — which entry a directory stream shows

A `Reading` that does not fail is kept by the directory, also if it came to the end of the stream and
produced nothing.  So a stream shows the entry of its last reading that did not fail, and as long as
there is none, what the streams before it left in the same slot (`Posix.entry_of_readings`).  That
this is the last entry it produced is true as long as directories leave the entry alone at the end of
the stream, and their slots are fresh; otherwise it is not (`Posix.entry_not_produced`).
-/

namespace PosixVfs

variable {ε : Type} [Embedder ε]

/-! ## Readings -/

/-- A reading of a directory: the entry that it was given, and what it did. -/
structure Reading where
  before : Entry
  step : ReadStep

namespace Reading

variable (r : Reading)

/-- What the directory made of the entry. -/
def entry : Entry := r.before.edits r.step.edits

/-- What the reader is told: one more entry, the end of the stream, or a failure. -/
def result : Except Errno (Option Entry) :=
  r.step.more.map fun more => if more then some r.entry else none

/-- The entry that the reader is told, if there is one. -/
def produced? : Option Entry := r.result.toOption.join

/-- The entry that the directory keeps, if the reading does not fail. -/
def kept? : Option Entry := r.step.more.toOption.map fun _ => r.entry

/-- The directory leaves the entry alone when it says that the stream is at its end. -/
def LeavesAtEnd : Prop := r.step.more = .ok false → r.entry = r.before

/-- A directory that leaves the entry alone at the end keeps what it has produced. -/
theorem LeavesAtEnd.getD_eq {r : Reading} (h : r.LeavesAtEnd) :
    r.kept?.getD r.before = r.produced?.getD r.before := by
  rw [kept?, produced?, result]
  rcases hmore : r.step.more with e | more
  · rfl
  · cases more with
    | false => exact h hmore
    | true => rfl

end Reading

namespace DirectoryId

variable (d : DirectoryId) (w : World ε)

/-- What it comes to if the directory is read now. -/
def reading : Reading := ⟨w.entry d, (w.ask (.readDirectory d (w.entry d))).1⟩

/-- **Reading** a directory asks it once, tells the reader what it did, and keeps the entry unless it
failed. -/
theorem read_reading : (d.read w).1 = (d.reading w).result ∧
    (d.read w).2.trace =
      w.trace ++ [⟨.readDirectory d (d.reading w).before, (d.reading w).step⟩] ∧
    (d.read w).2.entry = assign w.entry d ((d.reading w).kept?.getD (w.entry d)) := by
  rw [read]
  rcases ha : w.ask (.readDirectory d (w.entry d)) with ⟨⟨changes, e | more⟩, w₁⟩
  · have hr : d.reading w = ⟨w.entry d, changes, .error e⟩ := by rw [reading, ha]
    simp only [hr]
    refine ⟨rfl, (World.Asked.ask ha).trace, ?_⟩
    exact (World.entry_of_ask ha).trans (assign_eq_self ..).symm
  · have hr : d.reading w = ⟨w.entry d, changes, .ok more⟩ := by rw [reading, ha]
    simp only [hr]
    refine ⟨rfl, (World.Asked.ask ha).trace, ?_⟩
    change assign w₁.entry d _ = _
    rw [World.entry_of_ask ha]
    rfl

end DirectoryId

/-! ## Histories -/

/-- The reading of `d` that a call is, if it is one. -/
def Call.reading? (d : DirectoryId) (p : Posix ε) : Call → Option Reading
  | readDirectory d' => if d' = d then some (d.reading p.world) else none
  | _ => none

/-- A directory is given the entry that it has kept. -/
theorem Call.before_of_reading? {c : Call} {d : DirectoryId} {p : Posix ε} {r : Reading}
    (h : c.reading? d p = some r) : r.before = p.world.entry d := by
  cases c with
  | readDirectory d' =>
      rw [reading?] at h
      split at h
      · rw [← Option.some.inj h]
        rfl
      · cases h
  | _ => cases h

/-- What becomes of the entry of `d` by a call. -/
theorem Call.entry_run_reading (c : Call) (d : DirectoryId) (p : Posix ε) :
    (c.run p).2.world.entry d =
      ((c.reading? d p).bind Reading.kept?).getD (p.world.entry d) := by
  by_cases hc : ∃ d', c = .readDirectory d'
  · obtain ⟨d', rfl⟩ := hc
    rw [reading?, run, Posix.readDirectory, Posix.entry_track]
    change (d'.read p.world).2.entry d = _
    rw [(d'.read_reading p.world).2.2]
    by_cases hd : d' = d
    · rw [hd, assign_self, if_pos rfl, Option.bind_some]
    · rw [assign_of_ne _ _ _ (Ne.symm hd), if_neg hd]
      rfl
  · have hnone : c.reading? d p = none := by
      cases c with
      | readDirectory d' => exact absurd ⟨d', rfl⟩ hc
      | _ => rfl
    rw [c.entry_run (fun d' hd' => hc ⟨d', hd'⟩), hnone]
    rfl

namespace Posix

/-- The readings of `d` in the course of some calls. -/
def readings (d : DirectoryId) : Posix ε → List Call → List Reading
  | _, [] => []
  | p, c :: calls => (c.reading? d p).toList ++ readings d (c.run p).2 calls

/-- The last of a list that goes on is the last of what follows, if there is one. -/
theorem getLast?_filterMap_append {f : Reading → Option Entry} (first : Option Reading)
    (rest : List Reading) (e : Entry) :
    ((first.toList ++ rest).filterMap f).getLast?.getD e =
      (rest.filterMap f).getLast?.getD ((first.bind f).getD e) := by
  rcases first with _ | r
  · rfl
  · rw [Option.toList_some, List.singleton_append, List.filterMap_cons, Option.bind_some]
    rcases f r with _ | a
    · rfl
    · rw [List.getLast?_cons]
      rfl

/-- **What a directory keeps** is its last reading that did not fail, whatever else was called. -/
theorem entry_after (d : DirectoryId) (p : Posix ε) (calls : List Call) :
    (p.after calls).world.entry d =
      ((p.readings d calls).filterMap Reading.kept?).getLast?.getD (p.world.entry d) := by
  induction calls generalizing p with
  | nil => rfl
  | cons c calls ih =>
      rw [readings, getLast?_filterMap_append, ← c.entry_run_reading]
      exact ih (c.run p).2

/-- **If the entry is left alone at the end of the stream**, what a directory keeps is the last entry
that it has produced. -/
theorem entry_after_of_leavesAtEnd (d : DirectoryId) (p : Posix ε) (calls : List Call)
    (h : ∀ r ∈ p.readings d calls, r.LeavesAtEnd) :
    (p.after calls).world.entry d =
      ((p.readings d calls).filterMap Reading.produced?).getLast?.getD (p.world.entry d) := by
  induction calls generalizing p with
  | nil => rfl
  | cons c calls ih =>
      have hkept : ((c.reading? d p).bind Reading.kept?).getD (p.world.entry d) =
          ((c.reading? d p).bind Reading.produced?).getD (p.world.entry d) := by
        rcases hr : c.reading? d p with _ | r
        · rfl
        · have hmem : r ∈ p.readings d (c :: calls) := by
            rw [readings, hr]
            exact List.mem_cons_self
          rw [← Call.before_of_reading? hr]
          exact (h r hmem).getD_eq
      rw [readings, getLast?_filterMap_append, ← hkept, ← c.entry_run_reading]
      exact ih (c.run p).2 fun r hr => h r (List.mem_append_right _ hr)

/-- **The entry that a stream shows.**  When a directory was opened, and after any calls, the stream
on it shows the entry that the last reading of it since then has kept, which is what the directory
made of the entry it was given, if it did not fail.  As long as there is no such reading, it shows
what the directory had kept before it was opened.  If the directory leaves the entry alone whenever it
says that the stream is at its end, then this is the last entry that was produced since the opening.
And every reading asks the directory once, hands it the entry that is shown, and tells the reader what
it did. -/
theorem entry_of_readings {p p₁ : Posix ε} {path : String} {d : DirectoryId}
    (h : p.openDirectory path = (.ok d, p₁)) (calls : List Call) :
    let q := p₁.after calls
    let readings := p₁.readings d calls
    q.world.entry d =
      ((readings.filterMap Reading.kept?).getLast?).getD (p.world.entry d) ∧
    ((∀ r ∈ readings, r.LeavesAtEnd) → q.world.entry d =
      ((readings.filterMap Reading.produced?).getLast?).getD (p.world.entry d)) ∧
    (d.reading q.world).before = q.world.entry d ∧
    (q.readDirectory d).1 = (d.reading q.world).result ∧
    (q.readDirectory d).2.world.trace = q.world.trace ++
      [⟨.readDirectory d (d.reading q.world).before, (d.reading q.world).step⟩] := by
  intro q readings
  have hopen : p₁.world.entry = p.world.entry := by
    have hrun := Call.entry_run (c := .openDirectory path) nofun p
    rwa [Call.run, h] at hrun
  obtain ⟨hresult, htrace, -⟩ := d.read_reading q.world
  refine ⟨?_, fun hend => ?_, rfl, ?_, ?_⟩
  · rw [← hopen]
    exact entry_after d p₁ calls
  · rw [← hopen]
    exact entry_after_of_leavesAtEnd d p₁ calls hend
  · rw [readDirectory, fst_track]
    exact hresult
  · rw [readDirectory, trace_track]
    exact htrace

/-- A stream that shows the first of its entries while the second is still to come. -/
theorem entry_of_readings_of_first :
    let script := ({} : Script).setEntries ⟨0, 0⟩
      [{ name := some "a", ino := some 7 }, { name := some "b", ino := some 9 }]
    let p := ((Session.scripted script).posix.setRoot ⟨0⟩ none ⟨0⟩).2
    let p₁ := (p.openDirectory "/d").2
    let q := p₁.after [.readDirectory ⟨0, 0⟩, .rewindDirectory ⟨0, 0⟩]
    p.openDirectory "/d" = (.ok ⟨0, 0⟩, p₁) ∧
      q.world.entry ⟨0, 0⟩ = Entry.new 7 "a" := by
  intro script p p₁ q
  have hopen : p.openDirectory "/d" = (.ok ⟨0, 0⟩, p₁) := Prod.ext (by decide +kernel) rfl
  obtain ⟨hkept, -⟩ := entry_of_readings hopen [.readDirectory ⟨0, 0⟩, .rewindDirectory ⟨0, 0⟩]
  refine ⟨hopen, ?_⟩
  rw [show q = p₁.after [.readDirectory ⟨0, 0⟩, .rewindDirectory ⟨0, 0⟩] from rfl, hkept]
  decide +kernel

/-- **A stream may show an entry that it has not produced.**  An entry that came with the end of the
stream is shown in place of the last one before it.  And a stream on a directory that was read before
shows the last entry of that time from the start, although nothing was read from it. -/
theorem entry_not_produced :
    let script := ({} : Script).setEntries ⟨0, 0⟩
      [{ name := some "a", ino := some 7 },
        { name := some "b", ino := some 9, value := some (.number 0) }]
    let p := ((Session.scripted script).posix.setRoot ⟨0⟩ none ⟨0⟩).2
    let p₁ := (p.openDirectory "/d").2
    let reads := [Call.readDirectory ⟨0, 0⟩, .readDirectory ⟨0, 0⟩]
    let q := p₁.after reads
    let p₂ := ((p₁.after [.readDirectory ⟨0, 0⟩]).closeDirectory ⟨0, 0⟩).2
    (p.openDirectory "/d").1 = .ok ⟨0, 0⟩ ∧ p.world.entry ⟨0, 0⟩ = .blank ∧
      (p₁.readings ⟨0, 0⟩ reads).map Reading.result = [.ok (some (.new 7 "a")), .ok none] ∧
      q.world.entry ⟨0, 0⟩ = .new 9 "b" ∧ Entry.new 9 "b" ≠ .new 7 "a" ∧
      (p₂.openDirectory "/d").1 = .ok ⟨0, 0⟩ ∧
      (p₂.openDirectory "/d").2.world.entry ⟨0, 0⟩ = .new 7 "a" ∧ Entry.new 7 "a" ≠ .blank := by
  decide +kernel

end Posix

end PosixVfs
