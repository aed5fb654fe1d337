import PosixVfs.Text.Fixed

/-!
# Proofs/Text/Cutting — cutting texts where their bytes say so

A text whose bytes begin with those of another text *is* that text with something behind it
(`exists_append_of_startsWith`), and likewise at its end.  So cutting off a text that is there never
splits a character.
-/

namespace PosixVfs

namespace Text

variable {s front back : String} {n : Nat}

@[simp] theorem bytes_append (s s' : String) : bytes (s ++ s') = bytes s ++ bytes s' := by
  simp [bytes]

@[simp] theorem size_append (s s' : String) : size (s ++ s') = size s + size s' := by
  simp [size]

/-- A text is its bytes. -/
theorem bytes_inj {s s' : String} (h : bytes s = bytes s') : s = s' := by
  have hd := decode_bytes s
  rw [h, decode_bytes] at hd
  exact (Option.some.inj hd).symm

theorem size_eq_utf8ByteSize (s : String) : size s = s.utf8ByteSize := by
  rw [size, bytes, Array.length_toList]
  rfl

/-- A valid position cuts a text in two. -/
theorem exists_append_of_isValid (h : String.Pos.Raw.IsValid s ⟨n⟩) :
    ∃ s₁ s₂, s = s₁ ++ s₂ ∧ size s₁ = n := by
  obtain ⟨s₁, s₂, hs, hn⟩ := String.Pos.Raw.isValid_iff_exists_append.mp h
  refine ⟨s₁, s₂, hs, ?_⟩
  rw [size_eq_utf8ByteSize]
  exact (congrArg String.Pos.Raw.byteIdx hn).symm

theorem toByteArray_eq_append {s : String} {head tail : Bytes}
    (h : bytes s = head ++ tail) :
    s.toByteArray = (⟨head.toArray⟩ : ByteArray) ++ (⟨tail.toArray⟩ : ByteArray) := by
  apply ByteArray.ext
  apply Array.ext'
  simpa [bytes] using h

theorem toByteArray_of_bytes (s : String) : (⟨(bytes s).toArray⟩ : ByteArray) = s.toByteArray := by
  rw [bytes, Array.toArray_toList]

/-- **A front that is there can be cut off**: what is left is a text again. -/
theorem exists_append_of_bytes {tail : Bytes} (h : bytes s = bytes front ++ tail) :
    ∃ rest, s = front ++ rest ∧ bytes rest = tail := by
  have hvalid : String.Pos.Raw.IsValid s ⟨size front⟩ := by
    rw [String.Pos.Raw.isValid_iff_isValidUTF8_extract_zero]
    have hs := toByteArray_eq_append h
    rw [toByteArray_of_bytes] at hs
    refine ⟨?_, ?_⟩
    · rw [String.Pos.Raw.le_iff]
      change size front ≤ s.utf8ByteSize
      rw [← size_eq_utf8ByteSize, size, size, h, List.length_append]
      omega
    · change (s.toByteArray.extract 0 (size front)).IsValidUTF8
      rw [hs, ByteArray.extract_append_eq_left (size_eq_utf8ByteSize front)]
      exact front.isValidUTF8
  obtain ⟨s₁, rest, hs, hsize⟩ := exists_append_of_isValid hvalid
  rw [hs, bytes_append] at h
  obtain ⟨hfront, hrest⟩ := List.append_inj h hsize
  rw [bytes_inj hfront] at hs
  exact ⟨rest, hs, hrest⟩

/-- **A back that is there can be cut off**: what is left is a text again. -/
theorem exists_append_of_bytes_right {head : Bytes} (h : bytes s = head ++ bytes back) :
    ∃ rest, s = rest ++ back ∧ bytes rest = head := by
  have hvalid : String.Pos.Raw.IsValid s ⟨head.length⟩ := by
    rw [String.Pos.Raw.isValid_iff_isValidUTF8_extract_utf8ByteSize]
    have hs := toByteArray_eq_append h
    have hsize : s.utf8ByteSize = head.length + size back := by
      rw [← size_eq_utf8ByteSize, size, size, h, List.length_append]
    rw [toByteArray_of_bytes] at hs
    refine ⟨?_, ?_⟩
    · rw [String.Pos.Raw.le_iff]
      change head.length ≤ s.utf8ByteSize
      omega
    · change (s.toByteArray.extract head.length s.utf8ByteSize).IsValidUTF8
      have hhead : head.length = (⟨head.toArray⟩ : ByteArray).size := rfl
      have hend : s.utf8ByteSize = (⟨head.toArray⟩ : ByteArray).size + back.toByteArray.size := by
        rw [hsize, size_eq_utf8ByteSize]
        rfl
      rw [hs, ByteArray.extract_append_eq_right hhead hend]
      exact back.isValidUTF8
  obtain ⟨rest, s₂, hs, hsize⟩ := exists_append_of_isValid hvalid
  rw [hs, bytes_append] at h
  obtain ⟨hrest, hback⟩ := List.append_inj h hsize
  rw [bytes_inj hback] at hs
  exact ⟨rest, hs, hrest⟩

/-- **A text begins with another** if it is that text with something behind it. -/
theorem startsWith_iff : startsWith s front = true ↔ ∃ rest, s = front ++ rest := by
  rw [startsWith, List.isPrefixOf_iff_prefix]
  constructor
  · rintro ⟨tail, h⟩
    obtain ⟨rest, hs, -⟩ := exists_append_of_bytes h.symm
    exact ⟨rest, hs⟩
  · rintro ⟨rest, rfl⟩
    rw [bytes_append]
    exact List.prefix_append _ _

/-- What is at the front of a front is at the front. -/
theorem startsWith_trans {front' : String} (h : startsWith s front = true)
    (h' : startsWith front front' = true) : startsWith s front' = true := by
  rw [startsWith, List.isPrefixOf_iff_prefix] at h h' ⊢
  exact h'.trans h

/-- Of two fronts of one text, the shorter is a front of the longer. -/
theorem startsWith_of_size_le {front' : String} (h : startsWith s front = true)
    (h' : startsWith s front' = true) (hsize : size front ≤ size front') :
    startsWith front' front = true := by
  rw [startsWith, List.isPrefixOf_iff_prefix] at h h' ⊢
  exact List.prefix_of_prefix_length_le h h' hsize

/-- **A text ends with another** if it is that text with something before it. -/
theorem endsWith_iff : endsWith s back = true ↔ ∃ rest, s = rest ++ back := by
  rw [endsWith, List.isSuffixOf_iff_suffix]
  constructor
  · rintro ⟨head, h⟩
    obtain ⟨rest, hs, -⟩ := exists_append_of_bytes_right h.symm
    exact ⟨rest, hs⟩
  · rintro ⟨rest, rfl⟩
    rw [bytes_append]
    exact List.suffix_append _ _

theorem decode_drop_append (front rest : String) :
    decode ((bytes (front ++ rest)).drop (size front)) = some rest := by
  rw [bytes_append, size, List.drop_left, decode_bytes]

/-- Dropping a front leaves the rest. -/
theorem dropBytes_append (front rest : String) : dropBytes (front ++ rest) (size front) = rest := by
  rw [dropBytes, decode_drop_append]
  rfl

/-- What comes after a front is there if the text begins with the front. -/
theorem after?_eq_some_iff {rest : String} : after? s front = some rest ↔ s = front ++ rest := by
  rw [after?]
  split
  case isTrue h =>
    obtain ⟨rest', rfl⟩ := startsWith_iff.mp h
    rw [dropBytes_append, Option.some.injEq]
    exact ⟨congrArg (front ++ ·), fun e => bytes_inj <| by
      have hbytes := congrArg bytes e
      rwa [bytes_append, bytes_append, List.append_cancel_left_eq] at hbytes⟩
  case isFalse h => exact iff_of_false nofun fun e => h (startsWith_iff.mpr ⟨rest, e⟩)

end Text

end PosixVfs
