import PosixVfs.Proofs.Descriptor.Agreement
import PosixVfs.Proofs.World.Tidy

/-!
# Proofs/Descriptor/Tidy — binding and closing in a tidy world

None of this asks whether table and objects agree.  An object that was found is bound by
`IoId.register`, or the books are what they were before it was found (`Tidy.register_found`); and
closing an object leaves a tidy world tidy, whatever its descriptor stands for.
-/

namespace PosixVfs

variable {ε : Type} {t : Table} {w w₁ w' : World ε} {o : IoId}

/-- Closing an object that is not bound asks it and gives it back. -/
theorem IoId.close_of_unbound [Embedder ε] (hd : w.descriptor o = none) : ∃ answer w',
    o.close t w = (answer, t, w') ∧
      w.After [⟨.closing o, answer⟩] (w.giveBack (.io o)).2.books w' := by
  rcases ha : w.ask (.closing o) with ⟨answer, w₁⟩
  have h₁ := (World.After.refl w).ask ha
  have hd₁ : w₁.descriptor o = none := by rw [World.descriptor_of_books h₁.books, hd]
  have hunbind : o.unbind t w₁ = (t, w₁) := by rw [unbind, hd₁]
  refine ⟨answer, (w₁.giveBack (.io o)).2, ?_, h₁.giveBack _⟩
  rw [close, ha]
  simp only [hunbind]

namespace World.Tidy

/-- Unbinding an object takes its descriptor from it, and perhaps that of another. -/
theorem unbind (h : w.Tidy) (t : Table) (o : IoId) :
    (o.unbind t w).2.Tidy ∧ (o.unbind t w).2.descriptor o = none := by
  rw [IoId.unbind]
  rcases hd : w.descriptor o with _ | fd
  · exact ⟨h, hd⟩
  · obtain ⟨-, hfree⟩ | ⟨i, o', -, -, hfree⟩ := t.free_cases w fd
    · simp only [hfree]
      refine ⟨setDescriptor_none ?_ o, assign_self ..⟩
      exact h.of_books rfl
    · simp only [hfree]
      refine ⟨setDescriptor_none ?_ o, assign_self ..⟩
      exact (h.setDescriptor_none o').of_books rfl

/-- Objects that lie in no pool are installed by hand. -/
theorem install (h : w.Tidy) (ho : ¬ w.Pooled (.io o)) (t : Table) (fd : Fd) :
    (t.install w fd o).2.2.Tidy := by
  obtain ⟨e, hi⟩ | ⟨i, -, -, -, hi⟩ := t.install_cases w o fd
  · rw [hi]
    exact h
  · rw [hi]
    exact h.finds (.unpooled ho) _

variable [Embedder ε]

/-- **An object that was found** and agreed to open is bound to the lowest free descriptor; if there
is none, the books are as before. -/
theorem register_found (h : w.Tidy) (hf : w.Finds o w₁) {events : List Event}
    (ha : w.After events w₁.books w') :
    (∃ i w'', w.descriptor o = none ∧ t.firstFree? = some i ∧
      o.register t w' = (.ok (Fd.ofIndex i), t.set i (some o), w'') ∧
      w.After events (w₁.setDescriptor o (some (Fd.ofIndex i))).books w'') ∨
    ∃ e answer w'', o.register t w' = (.error e, t, w'') ∧
      w.After (events ++ [⟨.closing o, answer⟩]) w.books w'' := by
  have hd : w'.descriptor o = w.descriptor o := by
    rw [descriptor_of_books ha.books, hf.descriptor]
  obtain ⟨i, w'', ho, hi, hr, hb⟩ | ⟨answer, w'', ⟨fd, ho, hr, hb⟩ | ⟨-, -, hr, hb⟩⟩ :=
    IoId.register_cases (t := t) (w := w') o
  · rw [books_setDescriptor_congr ha.books] at hb
    rw [← List.append_nil events]
    exact .inl ⟨i, w'', hd ▸ ho, hi, hr, ha.trans hb⟩
  · -- only an object that lies in no pool can be bound already, and that was just there
    refine .inr ⟨_, answer, w'', hr, ?_⟩
    have hbooks : w'.books = w.books := by
      cases hf with
      | unpooled _ => exact ha.books
      | taken offer member =>
          rw [hd, h.descriptor_of_offers offer member] at ho
          cases ho
    rw [hbooks] at hb
    exact ha.trans hb
  · refine .inr ⟨_, answer, w'', hr, ?_⟩
    rw [h.books_giveBack_of_finds hf ha.books] at hb
    exact ha.trans hb

/-- **Closing** keeps a world tidy. -/
theorem close (h : w.Tidy) (t : Table) (o : IoId) : (o.close t w).2.2.Tidy := by
  rcases ha : w.ask (.closing o) with ⟨answer, w₁⟩
  have h₁ : w₁.Tidy := h.of_books ((World.After.refl w).ask ha).books
  obtain ⟨h₂, hnone⟩ := h₁.unbind t o
  rw [IoId.close, ha]
  exact h₂.giveBack fun o' ho' => by rw [← ObjectId.io.inj ho', hnone]

end World.Tidy

end PosixVfs
