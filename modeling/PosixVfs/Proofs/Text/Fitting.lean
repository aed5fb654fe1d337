import PosixVfs.Proofs.Text.Cutting

/-!
# Proofs/Text/Fitting — the longest front of a text that a buffer has room for

A byte of a text begins a character or goes on with one, so the boundaries that are seen in the bytes
are the places where the text can be cut in two (`Text.isBoundary_iff`).  The walk back from a limit
therefore ends at the last of them, and it always finds one (`Text.walkBack?_eq`).  So what a
`FixedText` keeps of a text is its longest front that fits (`FixedText.isLongestFront_kept`), whatever
was in the buffer before (`FixedText.holds_write`).
-/

namespace PosixVfs

namespace Text

variable {s front : String} {n : Nat}

/-! ## Bytes of characters -/

/-- A byte that begins a character does not go on with one. -/
theorem isContinuation_of_isUTF8FirstByte {b : UInt8} (h : b.IsUTF8FirstByte) :
    isContinuation b = false := by
  rw [isContinuation, beq_eq_false_iff_ne]
  intro hb
  -- the two bits that mark a continuation, as far as another mask shows them
  have hmask {m v : UInt8} (hv : b &&& m = v) : v &&& 0xC0 = 0x80 &&& m := by
    rw [← hv, ← hb, UInt8.and_assoc, UInt8.and_comm m, UInt8.and_assoc]
  rcases h with h | h | h | h <;> exact absurd (hmask h) (by decide)

theorem isContinuation_or (x : UInt8) : isContinuation (x &&& 0x3f ||| 0x80) = true := by
  rw [isContinuation, beq_iff_eq]
  apply UInt8.eq_of_toBitVec_eq
  simp [BitVec.and_or_distrib_right, BitVec.and_assoc]

/-- Behind its first byte, a character has only bytes that go on with it. -/
theorem isContinuation_of_mem_tail {c : Char} {b : UInt8}
    (h : b ∈ (String.utf8EncodeChar c).tail) : isContinuation b = true := by
  obtain hc | hc | hc | hc := Char.utf8Size_eq c
  · rw [String.utf8EncodeChar_eq_singleton hc] at h
    cases h
  · rw [String.utf8EncodeChar_eq_cons_cons hc] at h
    simp only [List.tail_cons, List.mem_cons, List.not_mem_nil, or_false] at h
    rw [h]
    exact isContinuation_or _
  · rw [String.utf8EncodeChar_eq_cons_cons_cons hc] at h
    simp only [List.tail_cons, List.mem_cons, List.not_mem_nil, or_false] at h
    rcases h with rfl | rfl <;> exact isContinuation_or _
  · rw [String.utf8EncodeChar_eq_cons_cons_cons_cons hc] at h
    simp only [List.tail_cons, List.mem_cons, List.not_mem_nil, or_false] at h
    rcases h with rfl | rfl | rfl <;> exact isContinuation_or _

/-- The bytes of a text are those of its characters. -/
theorem bytes_eq_flatMap (s : String) : bytes s = s.toList.flatMap String.utf8EncodeChar := by
  obtain ⟨l, rfl⟩ := s.exists_eq_ofList
  rw [bytes, String.toByteArray_ofList, String.toList_ofList, List.utf8Encode,
    List.toList_data_toByteArray]

/-- **A byte of a text** that does not go on with a character begins one. -/
theorem isUTF8FirstByte_of_mem_bytes {b : UInt8} (h : b ∈ bytes s)
    (hb : isContinuation b = false) : b.IsUTF8FirstByte := by
  rw [bytes_eq_flatMap, List.mem_flatMap] at h
  obtain ⟨c, -, hmem⟩ := h
  obtain ⟨i, hi, rfl⟩ := List.mem_iff_getElem.mp hmem
  rw [UInt8.isUTF8FirstByte_getElem_utf8EncodeChar]
  cases i with
  | zero => rfl
  | succ i =>
      have htail : (String.utf8EncodeChar c)[i + 1] ∈ (String.utf8EncodeChar c).tail := by
        rw [← List.getElem_tail (by rw [List.length_tail]; omega)]
        exact List.getElem_mem _
      rw [isContinuation_of_mem_tail htail] at hb
      cases hb

/-! ## Boundaries -/

/-- The beginning of a text is a boundary. -/
theorem isBoundary_zero (b : Bytes) : isBoundary b 0 = true := rfl

/-- The end of a text is a boundary. -/
theorem isBoundary_length (b : Bytes) : isBoundary b b.length = true := by
  rw [isBoundary, beq_self_eq_true, Bool.or_true, Bool.true_or]

theorem getElem?_bytes (p : String.Pos.Raw) (h : p < s.rawEndPos) :
    (bytes s)[p.byteIdx]? = some (s.getUTF8Byte p h) := by
  have hlt : p.byteIdx < s.toByteArray.size := h
  rw [bytes, Array.getElem?_toList, Array.getElem?_eq_getElem hlt]
  rfl

theorem rawEndPos_eq (s : String) : s.rawEndPos = ⟨size s⟩ :=
  String.Pos.Raw.ext (size_eq_utf8ByteSize s).symm

/-- **The boundaries** seen in the bytes are the positions that a text has. -/
theorem isBoundary_iff_isValid :
    isBoundary (bytes s) n = true ↔ String.Pos.Raw.IsValid s ⟨n⟩ := by
  constructor
  · intro h
    rw [isBoundary, Bool.or_eq_true, Bool.or_eq_true, beq_iff_eq, beq_iff_eq, Option.any_eq_true] at h
    obtain (rfl | rfl) | ⟨b, hb, hfirst⟩ := h
    · exact String.Pos.Raw.isValid_zero
    · rw [← size, ← rawEndPos_eq]
      exact String.Pos.Raw.isValid_rawEndPos
    · have hlt : (⟨n⟩ : String.Pos.Raw) < s.rawEndPos := by
        rw [rawEndPos_eq]
        exact (List.getElem?_eq_some_iff.mp hb).choose
      have hmem : b ∈ bytes s := List.mem_of_getElem? hb
      rw [getElem?_bytes ⟨n⟩ hlt, Option.some.injEq] at hb
      refine String.Pos.Raw.isValid_iff_isUTF8FirstByte.mpr (.inr ⟨hlt, ?_⟩)
      rw [hb]
      exact isUTF8FirstByte_of_mem_bytes hmem ((Bool.not_eq_true' _).mp hfirst)
  · intro h
    obtain hend | ⟨hlt, hfirst⟩ := String.Pos.Raw.isValid_iff_isUTF8FirstByte.mp h
    · rw [rawEndPos_eq, String.Pos.Raw.mk.injEq] at hend
      rw [hend]
      exact isBoundary_length _
    · rw [isBoundary, getElem?_bytes ⟨n⟩ hlt, Option.any_some,
        isContinuation_of_isUTF8FirstByte hfirst, Bool.not_false, Bool.or_true]

/-- **A boundary** is a place where the text can be cut in two. -/
theorem isBoundary_iff :
    isBoundary (bytes s) n = true ↔ ∃ front rest, s = front ++ rest ∧ size front = n := by
  rw [isBoundary_iff_isValid]
  constructor
  · exact exists_append_of_isValid
  · rintro ⟨front, rest, rfl, rfl⟩
    exact String.Pos.Raw.isValid_iff_exists_append.mpr ⟨front, rest, rfl, (rawEndPos_eq front).symm⟩

/-! ## Walking back to a boundary -/

/-- The walk ends at a boundary. -/
theorem isBoundary_boundaryAtMost (b : Bytes) (n : Nat) :
    isBoundary b (boundaryAtMost b n) = true := by
  induction n with
  | zero => exact isBoundary_zero b
  | succ n ih =>
      rw [boundaryAtMost]
      split
      · assumption
      · exact ih

/-- The walk passes no boundary. -/
theorem le_boundaryAtMost {b : Bytes} {m : Nat} (hm : isBoundary b m = true) (hle : m ≤ n) :
    m ≤ boundaryAtMost b n := by
  induction n with
  | zero => exact hle
  | succ n ih =>
      rw [boundaryAtMost]
      split
      · exact hle
      next hnot =>
        have hne : m ≠ n + 1 := fun e => hnot (e ▸ hm)
        exact ih (by omega)

/-- The walk back to a boundary with the test that comes before every step.  It fails where there is
no step to take, at the beginning. -/
def walkBack? (b : Bytes) : Nat → Option Nat
  | 0 => if isBoundary b 0 then some 0 else none
  | n + 1 => if isBoundary b (n + 1) then some (n + 1) else walkBack? b n

/-- **The walk never fails**, since it stops at the beginning at the latest. -/
theorem walkBack?_eq (b : Bytes) (n : Nat) : walkBack? b n = some (boundaryAtMost b n) := by
  induction n with
  | zero => rfl
  | succ n ih =>
      rw [walkBack?, boundaryAtMost, ih]
      split <;> rfl

/-! ## The longest front that fits -/

/-- `front` is the longest front of `s` that has at most `n` bytes. -/
structure IsLongestFront (n : Nat) (s front : String) : Prop where
  exists_append : ∃ rest, s = front ++ rest
  size_le : size front ≤ n
  size_max : ∀ front' rest', s = front' ++ rest' → size front' ≤ n → size front' ≤ size front

namespace IsLongestFront

/-- Two texts that are as long and are fronts of the same text are the same. -/
theorem unique {front' : String} (h : IsLongestFront n s front)
    (h' : IsLongestFront n s front') : front = front' := by
  obtain ⟨rest, hs⟩ := h.exists_append
  obtain ⟨rest', hs'⟩ := h'.exists_append
  have hsize : size front = size front' :=
    Nat.le_antisymm (h'.size_max _ _ hs h.size_le) (h.size_max _ _ hs' h'.size_le)
  have hbytes := congrArg bytes (hs.symm.trans hs')
  rw [bytes_append, bytes_append] at hbytes
  exact bytes_inj (List.append_inj hbytes hsize).1

/-- A text that fits is its own longest front. -/
theorem eq_of_size_le (h : IsLongestFront n s front) (hs : size s ≤ n) : front = s :=
  h.unique ⟨⟨"", String.append_empty.symm⟩, hs, fun front' rest' e _ => by
    rw [e, size_append]
    exact Nat.le_add_right _ _⟩

/-- A text that does not fit leaves less than a character's room. -/
theorem lt_size_add_four (h : IsLongestFront n s front) (hs : n < size s) : n < size front + 4 := by
  obtain ⟨rest, hrest⟩ := h.exists_append
  obtain ⟨chars, rfl⟩ := rest.exists_eq_ofList
  cases chars with
  | nil =>
      have hle := h.size_le
      rw [hrest, String.ofList_nil, String.append_empty] at hs
      omega
  | cons c chars =>
      -- the front with one more character is a front too, so it does not fit
      have hs' : s = (front ++ String.ofList [c]) ++ String.ofList chars := by
        rw [hrest, String.append_assoc, ← String.ofList_append, List.singleton_append]
      have hsize : size (front ++ String.ofList [c]) = size front + c.utf8Size := by
        rw [size_append, size_eq_utf8ByteSize (String.ofList [c]), ← String.singleton_eq_ofList,
          String.utf8ByteSize_singleton]
      have hmax := h.size_max _ _ hs'
      have hfour := c.utf8Size_le_four
      have hpos := c.utf8Size_pos
      omega

end IsLongestFront

end Text

/-! ## What a buffer keeps -/

namespace FixedText

variable {n : Nat} {s : String}

/-- What a buffer of `n` bytes keeps of `s`. -/
def kept (n : Nat) (s : String) : String :=
  (Text.decode ((Text.bytes s).take (fitting n s))).getD ""

/-- The text is cut where it can be cut. -/
theorem bytes_kept (n : Nat) (s : String) :
    Text.bytes (kept n s) = (Text.bytes s).take (fitting n s) := by
  have hcut : Text.isBoundary (Text.bytes s) (fitting n s) = true :=
    Text.isBoundary_boundaryAtMost _ _
  obtain ⟨front, rest, hs, hsize⟩ := Text.isBoundary_iff.mp hcut
  have htake : (Text.bytes s).take (fitting n s) = Text.bytes front := by
    rw [← hsize, hs, Text.bytes_append, Text.size, List.take_left]
  rw [kept, htake, Text.decode_bytes]
  rfl

theorem size_kept (n : Nat) (s : String) : Text.size (kept n s) = fitting n s := by
  have hle := fitting_le n s
  rw [Text.size, Nat.le_min] at hle
  rw [Text.size, bytes_kept, List.length_take, Nat.min_eq_left hle.1]

/-- **A buffer keeps the longest front** that it has room for. -/
theorem isLongestFront_kept (n : Nat) (s : String) : Text.IsLongestFront n s (kept n s) where
  exists_append := by
    have hbytes : Text.bytes s = Text.bytes (kept n s) ++ (Text.bytes s).drop (fitting n s) := by
      rw [bytes_kept, List.take_append_drop]
    obtain ⟨rest, hs, -⟩ := Text.exists_append_of_bytes hbytes
    exact ⟨rest, hs⟩
  size_le := by
    rw [size_kept]
    exact Nat.le_trans (fitting_le n s) (Nat.min_le_right _ _)
  size_max front' rest' hs hsize := by
    rw [size_kept]
    refine Text.le_boundaryAtMost (Text.isBoundary_iff.mpr ⟨front', rest', hs, rfl⟩) ?_
    rw [Nat.le_min]
    refine ⟨?_, hsize⟩
    rw [hs, Text.size_append]
    exact Nat.le_add_right _ _

/-- The text in front of the buffer is `s`. -/
def Holds (t : FixedText n) (s : String) : Prop := t.bytes.take t.length = Text.bytes s

namespace Holds

variable {t : FixedText n}

/-- What is in front of the buffer can be read. -/
theorem decode (h : t.Holds s) : Text.decode (t.bytes.take t.length) = some s := by
  rw [h, Text.decode_bytes]

theorem text (h : t.Holds s) : t.text = s := by
  rw [FixedText.text, h.decode]
  rfl

theorem length (h : t.Holds s) : t.length = Text.size s := by
  rw [Text.size, ← h, List.length_take, t.length_bytes, Nat.min_eq_left t.length_le]

end Holds

theorem holds_empty : (empty : FixedText n).Holds "" := rfl

/-- **What is written is held**, as far as there is room, whatever the buffer held before. -/
theorem holds_write (t : FixedText n) (s : String) : (t.write s).Holds (kept n s) := by
  rw [Holds, bytes_kept]
  have hlen : ((Text.bytes s).take (fitting n s)).length = fitting n s := by
    rw [← bytes_kept, ← Text.size, size_kept]
  exact List.take_left' hlen

/-- A text that fits is kept whole. -/
theorem kept_of_size_le (h : Text.size s ≤ n) : kept n s = s :=
  (isLongestFront_kept n s).eq_of_size_le h

/-- **A text that fits** is held as it was written. -/
theorem holds_ofString (h : Text.size s ≤ n) : (ofString s : FixedText n).Holds s := by
  have hwrite := holds_write (empty : FixedText n) s
  rwa [kept_of_size_le h] at hwrite

theorem length_ofString (h : Text.size s ≤ n) : (ofString s : FixedText n).length = Text.size s :=
  (holds_ofString h).length

/-- **A text that fits is read back** as it was written. -/
theorem text_ofString (h : Text.size s ≤ n) : (ofString s : FixedText n).text = s :=
  (holds_ofString h).text

end FixedText

end PosixVfs
