import TenderClient.Text.Utf8
/-!
# Cutting a text at a character boundary

A text is cut to a number of bytes by stepping a byte offset down from the limit until it
falls on a character boundary, and keeping the bytes before it (`truncateAtCharBoundary`).
Offset 0 is a boundary, so the steps end; they end at the greatest boundary at or below the
limit (`boundaryAtOrBelow_le`, `le_boundaryAtOrBelow`). The boundaries of a text are the
byte sizes of its prefixes of whole characters, and the bytes before a boundary are such a
prefix (`extract_startPos_of_take`).

The cut text is therefore the longest prefix of whole characters that fits in the limit
(`truncateAtCharBoundary_longest`). Such a prefix is the text itself when the text fits
(`IsLongestPrefixWithin.eq_self`); otherwise the character after it does not fit, and no
character has more than four bytes, so it falls short of the limit by less than four bytes
(`IsLongestPrefixWithin.lt_add_four`).
-/

set_option autoImplicit false

namespace TenderClient.Text

/-- `r` is the longest prefix of whole characters of `s` whose UTF-8 form has at most `limit`
bytes: it is such a prefix, and every other one is a prefix of it. -/
def IsLongestPrefixWithin (limit : Nat) (s r : String) : Prop :=
  r.toList <+: s.toList ∧ r.utf8ByteSize ≤ limit ∧
    ∀ p : List Char, p <+: s.toList → (String.ofList p).utf8ByteSize ≤ limit → p <+: r.toList

/-! ## Byte sizes of prefixes -/

/-- Of two prefixes of one list, the one with no more bytes is a prefix of the other. -/
theorem prefix_of_utf8ByteSize_le {l p q : List Char} (hp : p <+: l) (hq : q <+: l)
    (h : (String.ofList p).utf8ByteSize ≤ (String.ofList q).utf8ByteSize) : p <+: q := by
  rcases List.prefix_or_prefix_of_prefix hp hq with hpq | hqp
  · exact hpq
  · -- then `p` is `q` and a rest of no bytes, and a character has at least one byte
    obtain ⟨t, rfl⟩ := hqp
    have ht : String.ofList t = "" := by
      rw [String.ofList_append, String.utf8ByteSize_append] at h
      exact String.utf8ByteSize_eq_zero_iff.mp (by omega)
    exact ⟨[], by rw [String.ofList_eq_empty_iff.mp ht, List.append_nil, List.append_nil]⟩

/-- One more character adds its own bytes. -/
theorem utf8ByteSize_append_singleton (l : List Char) (c : Char) :
    (String.ofList (l ++ [c])).utf8ByteSize = (String.ofList l).utf8ByteSize + c.utf8Size := by
  rw [String.ofList_append, String.utf8ByteSize_append, ← String.singleton_eq_ofList,
    String.utf8ByteSize_singleton]

/-! ## The search for a boundary -/

/-- The search never goes above the offset it starts from. -/
theorem boundaryAtOrBelow_le (s : String) (cut : Nat) :
    (boundaryAtOrBelow s cut).offset.byteIdx ≤ cut := by
  induction cut with
  | zero =>
    rw [boundaryAtOrBelow]
    split <;> simp
  | succ below ih =>
    rw [boundaryAtOrBelow]
    split
    · exact Nat.le_refl _
    · exact Nat.le_succ_of_le ih

/-- The search passes no boundary on its way down: it stops at or above every boundary
below the offset it starts from. -/
theorem le_boundaryAtOrBelow {s : String} {p : String.Pos.Raw} (hp : p.IsValid s) {cut : Nat}
    (hle : p.byteIdx ≤ cut) : p.byteIdx ≤ (boundaryAtOrBelow s cut).offset.byteIdx := by
  induction cut with
  | zero =>
    -- offset 0 is a boundary, so the search stops at once
    have hzero : (⟨0⟩ : String.Pos.Raw).IsValid s := String.Pos.Raw.isValid_zero
    rw [boundaryAtOrBelow, dif_pos hzero]
    exact hle
  | succ below ih =>
    rw [boundaryAtOrBelow]
    split
    · exact hle
    · rename_i hcut
      -- the offset is no boundary, so the boundary `p` lies below it
      have hne : p.byteIdx ≠ below + 1 := fun h => hcut (by
        have hp' : p = ⟨below + 1⟩ := String.Pos.Raw.ext h
        rwa [← hp'])
      exact ih (by omega)

/-- The bytes of a text before the boundary that ends its first `k` characters are those
characters. -/
theorem extract_startPos_of_take {s : String} {p : s.Pos} {k : Nat}
    (hk : p.offset.byteIdx = (String.ofList (s.toList.take k)).utf8ByteSize) :
    s.extract s.startPos p = String.ofList (s.toList.take k) := by
  have hs : s.toByteArray = (String.ofList (s.toList.take k)).toByteArray ++
      (String.ofList (s.toList.drop k)).toByteArray := by
    rw [← String.toByteArray_append, ← String.ofList_append, List.take_append_drop,
      String.ofList_toList]
  apply String.toByteArray_inj.mp
  rw [String.toByteArray_extract, String.offset_startPos, hs]
  exact ByteArray.extract_append_eq_left hk

/-! ## The cut -/

/-- A text cut at a character boundary is its longest prefix of whole characters within the
limit. -/
theorem truncateAtCharBoundary_longest (limit : Nat) (s : String) :
    IsLongestPrefixWithin limit s (truncateAtCharBoundary limit s) := by
  unfold truncateAtCharBoundary
  split
  · rename_i hfits
    exact ⟨List.prefix_refl _, hfits, fun p hp _ => hp⟩
  · -- the search stops at a boundary, the end of some first `k` characters
    obtain ⟨k, hk⟩ :=
      String.Pos.Raw.isValid_iff_exists_take_toList.mp (boundaryAtOrBelow s limit).isValid
    rw [extract_startPos_of_take hk]
    refine ⟨?_, hk ▸ boundaryAtOrBelow_le s limit, fun p hp hpl => ?_⟩
    · rw [String.toList_ofList]
      exact List.take_prefix k _
    -- a prefix within the limit ends on a boundary the search did not pass
    have hpb : (⟨(String.ofList p).utf8ByteSize⟩ : String.Pos.Raw).IsValid s :=
      String.Pos.Raw.isValid_iff_exists_take_toList.mpr
        ⟨p.length, by rw [← List.prefix_iff_eq_take.mp hp]⟩
    have hle := le_boundaryAtOrBelow hpb hpl
    rw [hk] at hle
    rw [String.toList_ofList]
    exact prefix_of_utf8ByteSize_le hp (List.take_prefix k _) hle

namespace IsLongestPrefixWithin

variable {limit : Nat} {s r : String}

/-- A text that fits is its own longest prefix within the limit. -/
theorem eq_self (h : IsLongestPrefixWithin limit s r) (hs : s.utf8ByteSize ≤ limit) : r = s := by
  obtain ⟨hr, -, hlong⟩ := h
  have hsr : s.toList <+: r.toList :=
    hlong s.toList (List.prefix_refl _) (by rwa [String.ofList_toList])
  exact String.toList_inj.mp (hr.eq_of_length (Nat.le_antisymm hr.length_le hsr.length_le))

/-- A longest prefix of a text that does not fit falls short of the limit by less than four
bytes: the character after it would not fit, and it has at most four bytes. -/
theorem lt_add_four (h : IsLongestPrefixWithin limit s r) (hs : limit < s.utf8ByteSize) :
    limit < r.utf8ByteSize + 4 := by
  obtain ⟨⟨rest, hrest⟩, hr, hlong⟩ := h
  cases rest with
  | nil =>
    -- the prefix would be the whole text, which does not fit
    rw [List.append_nil, String.toList_inj] at hrest
    rw [hrest] at hr
    omega
  | cons c rest =>
    have hnext : r.toList ++ [c] <+: s.toList := ⟨rest, by rw [← hrest]; simp⟩
    have hsize := utf8ByteSize_append_singleton r.toList c
    rw [String.ofList_toList] at hsize
    have hfour := c.utf8Size_le_four
    -- were the limit four bytes or more above, the next character would fit
    refine Nat.lt_of_not_le fun hfar => ?_
    have hlen := (hlong _ hnext (by omega)).length_le
    rw [List.length_append, List.length_singleton] at hlen
    omega

end IsLongestPrefixWithin

example : truncateAtCharBoundary 5 "ab😀cd" = "ab" := by decide

end TenderClient.Text
