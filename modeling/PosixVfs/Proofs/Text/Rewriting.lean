import PosixVfs.Proofs.Text.Fitting

/-!
# Proofs/Text/Rewriting — a buffer that is written again and again

The text in front of a buffer is the last one that was written to it, as far as there is room
(`FixedText.holds_foldl_write`).  Behind it stands what earlier and longer texts have left there: at
each place the byte that was written there last (`FixedText.lastByte`).  Equality sees both, so two
buffers are equal exactly if their texts are and the same was left behind them
(`FixedText.eq_iff_of_foldl_write`).
-/

namespace PosixVfs.FixedText

variable {n : Nat}

/-- Writing replaces the bytes that the text takes, and no others. -/
theorem getElem?_bytes_write (t : FixedText n) (s : String) (i : Nat) :
    (t.write s).bytes[i]? = ((Text.bytes (kept n s))[i]?).or t.bytes[i]? := by
  have hlen : ((Text.bytes s).take (fitting n s)).length = fitting n s := by
    rw [← bytes_kept, ← Text.size, size_kept]
  rw [bytes_kept]
  change ((Text.bytes s).take (fitting n s) ++ t.bytes.drop (fitting n s))[i]? = _
  by_cases hi : i < fitting n s
  · rw [List.getElem?_append_left (by omega)]
    have hsome : i < ((Text.bytes s).take (fitting n s)).length := by omega
    rw [List.getElem?_eq_getElem hsome, Option.some_or]
  · have hle : fitting n s ≤ i := Nat.le_of_not_lt hi
    rw [List.getElem?_append_right (by omega), hlen, List.getElem?_drop, Nat.add_sub_cancel' hle,
      List.getElem?_eq_none (l := (Text.bytes s).take (fitting n s)) (by omega), Option.none_or]

/-- The byte that the last text to reach place `i` has put there; 0 if none has. -/
def lastByte (n : Nat) (texts : List String) (i : Nat) : UInt8 :=
  ((texts.filterMap fun s => (Text.bytes (kept n s))[i]?).getLast?).getD 0

/-- **At each place** stands what was written there last. -/
theorem getElem?_bytes_foldl_write (t : FixedText n) (texts : List String) (i : Nat) :
    (texts.foldl write t).bytes[i]? =
      ((texts.filterMap fun s => (Text.bytes (kept n s))[i]?).getLast?).or t.bytes[i]? := by
  induction texts generalizing t with
  | nil => rfl
  | cons s texts ih =>
      rw [List.foldl_cons, ih, getElem?_bytes_write, List.filterMap_cons]
      rcases (Text.bytes (kept n s))[i]? with _ | b
      · rw [Option.none_or]
      · rw [Option.some_or, List.getLast?_cons, Option.some_or]
        exact Option.or_some

/-- A buffer that was zeroed at first has a zero where nothing was written. -/
theorem getElem?_bytes_foldl_write_empty (texts : List String) {i : Nat} (hi : i < n) :
    (texts.foldl write (empty : FixedText n)).bytes[i]? = some (lastByte n texts i) := by
  have hzero : (empty : FixedText n).bytes[i]? = some 0 := by
    rw [empty, List.getElem?_replicate, if_pos hi]
  rw [getElem?_bytes_foldl_write, hzero, Option.or_some, lastByte]

/-- **The text in front** is the last one that was written. -/
theorem holds_foldl_write (texts : List String) :
    (texts.foldl write (empty : FixedText n)).Holds (kept n (texts.getLast?.getD "")) := by
  obtain rfl | ⟨earlier, s, rfl⟩ := texts.eq_nil_or_concat
  · rw [List.getLast?_nil, Option.getD_none, kept_of_size_le (Nat.zero_le n)]
    exact holds_empty
  · rw [List.concat_eq_append, List.foldl_append, List.getLast?_append]
    exact holds_write _ s

/-- Two buffers are equal if they hold the same text and have the same behind it. -/
theorem Holds.eq_iff {t t' : FixedText n} {s s' : String} (h : t.Holds s) (h' : t'.Holds s') :
    t = t' ↔ s = s' ∧ ∀ i, Text.size s ≤ i → i < n → t.bytes[i]? = t'.bytes[i]? := by
  constructor
  · rintro rfl
    exact ⟨Text.bytes_inj (h.symm.trans h'), fun _ _ _ => rfl⟩
  · rintro ⟨rfl, hrest⟩
    have hlength : t.length = t'.length := h.length.trans h'.length.symm
    have hbytes : t.bytes = t'.bytes := by
      refine List.ext_getElem? fun i => ?_
      by_cases hi : i < Text.size s
      · have hi' : i < t.length := h.length ▸ hi
        rw [← List.getElem?_take_of_lt hi', h, ← h', List.getElem?_take_of_lt (hlength ▸ hi')]
      · by_cases hn : i < n
        · exact hrest i (by omega) hn
        · rw [List.getElem?_eq_none (by rw [t.length_bytes]; omega),
            List.getElem?_eq_none (by rw [t'.length_bytes]; omega)]
    cases t
    cases t'
    rw [mk.injEq]
    exact ⟨hbytes, hlength⟩

/-- **Two buffers are equal** exactly if they show the same text, and the same was left behind it. -/
theorem eq_iff_of_foldl_write {t t' : FixedText n} {texts texts' : List String}
    (h : t = texts.foldl write empty) (h' : t' = texts'.foldl write empty) :
    t = t' ↔ t.text = t'.text ∧
      ∀ i, Text.size t.text ≤ i → i < n → lastByte n texts i = lastByte n texts' i := by
  have hholds : t.Holds t.text := by
    rw [h, (holds_foldl_write texts).text]
    exact holds_foldl_write texts
  have hholds' : t'.Holds t'.text := by
    rw [h', (holds_foldl_write texts').text]
    exact holds_foldl_write texts'
  rw [hholds.eq_iff hholds']
  refine and_congr_right fun _ => forall_congr' fun i => forall_congr' fun _ =>
    forall_congr' fun hi => ?_
  rw [h, h', getElem?_bytes_foldl_write_empty texts hi,
    getElem?_bytes_foldl_write_empty texts' hi, Option.some.injEq]

/-- Where no text reaches, nothing is left. -/
theorem lastByte_eq_zero {texts : List String} {i : Nat}
    (h : ∀ s ∈ texts, Text.size (kept n s) ≤ i) : lastByte n texts i = 0 := by
  have hnil : (texts.filterMap fun s => (Text.bytes (kept n s))[i]?) = [] :=
    List.filterMap_eq_nil_iff.mpr fun s hs => List.getElem?_eq_none (h s hs)
  rw [lastByte, hnil]
  rfl

end PosixVfs.FixedText
