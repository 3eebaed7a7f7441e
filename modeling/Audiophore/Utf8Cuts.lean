import Mathlib.Data.List.Infix

/-!
# Cutting UTF-8 text at a byte count

A text is a list of characters, each of one to four bytes. Cut after a number of bytes
and filled up with zeros, it still reads as whole characters exactly when the cut falls
between two of them, since no byte of a longer character is zero.
-/

namespace Utf8Cuts

/-- The bytes of a text. -/
def encoding (chars : List Char) : List UInt8 := chars.flatMap String.utf8EncodeChar

@[simp] theorem encoding_nil : encoding [] = [] := rfl

@[simp] theorem encoding_cons (c : Char) (chars : List Char) :
    encoding (c :: chars) = String.utf8EncodeChar c ++ encoding chars := rfl

theorem encoding_append (chars chars' : List Char) :
    encoding (chars ++ chars') = encoding chars ++ encoding chars' :=
  List.flatMap_append

theorem toList_loop (bytes : ByteArray) (i : Nat) (acc : List UInt8) :
    ByteArray.toList.loop bytes i acc = acc.reverse ++ bytes.data.toList.drop i := by
  fun_induction ByteArray.toList.loop bytes i acc with
  | case1 i acc hlt ih =>
    have hi : i < bytes.data.toList.length := by simpa using hlt
    have hget : bytes.get! i = bytes.data.toList[i] := by simp [ByteArray.get!, hlt]
    rw [ih, List.drop_eq_getElem_cons hi, hget]
    simp
  | case2 i acc hge =>
    have hend : bytes.data.toList.length ≤ i := by simpa using hge
    rw [List.drop_eq_nil_of_le hend, List.append_nil]

/-- The bytes of a string are the encoding of its characters. -/
theorem toList_toUTF8 (text : String) : text.toUTF8.toList = encoding text.toList := by
  rw [String.toUTF8_eq_toByteArray, ← String.utf8Encode_toList, ByteArray.toList, toList_loop,
    List.utf8Encode, List.toList_data_toByteArray]
  rfl

theorem length_encoding (text : String) : (encoding text.toList).length = text.utf8ByteSize := by
  rw [encoding, ← List.size_toByteArray]
  exact congrArg ByteArray.size String.utf8Encode_toList

/-- A byte count at which a character ends. -/
def Boundary (chars : List Char) (n : Nat) : Prop :=
  ∃ kept, kept <+: chars ∧ (encoding kept).length = n

theorem boundary_zero (chars : List Char) : Boundary chars 0 := ⟨[], List.nil_prefix, rfl⟩

theorem boundary_cons {c : Char} {chars : List Char} {n : Nat} (h : Boundary chars n) :
    Boundary (c :: chars) ((String.utf8EncodeChar c).length + n) := by
  obtain ⟨kept, hkept, hlen⟩ := h
  refine ⟨c :: kept, List.cons_prefix_cons.mpr ⟨rfl, hkept⟩, ?_⟩
  rw [encoding_cons, List.length_append, hlen]

/-- A byte that carries a marker is not zero. -/
theorem marked_ne_zero (x : Nat) {m marker : Nat} (hm : 0 < m) (hmarker : 0 < marker)
    (hfit : m + marker ≤ 256) : UInt8.ofNat (x % m + marker) ≠ 0 := by
  have hmod : x % m < m := Nat.mod_lt x hm
  intro h
  have hnat := congrArg UInt8.toNat h
  rw [UInt8.toNat_ofNat', Nat.mod_eq_of_lt (by omega)] at hnat
  change x % m + marker = 0 at hnat
  omega

/-- A character of more than one byte has no zero byte. -/
theorem utf8EncodeChar_ne_zero {c : Char} (h : 1 < (String.utf8EncodeChar c).length) :
    ∀ b ∈ String.utf8EncodeChar c, b ≠ 0 := by
  unfold String.utf8EncodeChar at h ⊢
  dsimp only at h ⊢
  by_cases h1 : c.val.toNat ≤ 0x7f
  · rw [if_pos h1] at h
    exact absurd h (Nat.lt_irrefl 1)
  · rw [if_neg h1]
    intro b hb
    split at hb
    · simp only [List.mem_cons, List.not_mem_nil, or_false] at hb
      rcases hb with rfl | rfl <;> exact marked_ne_zero _ (by decide) (by decide) (by decide)
    · split at hb
      · simp only [List.mem_cons, List.not_mem_nil, or_false] at hb
        rcases hb with rfl | rfl | rfl <;>
          exact marked_ne_zero _ (by decide) (by decide) (by decide)
      · simp only [List.mem_cons, List.not_mem_nil, or_false] at hb
        rcases hb with rfl | rfl | rfl | rfl <;>
          exact marked_ne_zero _ (by decide) (by decide) (by decide)

/-- Between two characters, or in the middle of one that has no zero byte. -/
theorem boundary_or_inside (chars : List Char) {n : Nat} (hn : n ≤ (encoding chars).length) :
    Boundary chars n ∨ ∃ k b b', n = k + 1 ∧
      (encoding chars)[k]? = some b ∧ b ≠ 0 ∧ (encoding chars)[k + 1]? = some b' ∧ b' ≠ 0 := by
  induction chars generalizing n with
  | nil =>
    obtain rfl : n = 0 := Nat.le_zero.mp hn
    exact .inl (boundary_zero [])
  | cons c chars ih =>
    rw [encoding_cons, List.length_append] at hn
    by_cases hinside : n < (String.utf8EncodeChar c).length
    · cases n with
      | zero => exact .inl (boundary_zero _)
      | succ k =>
        have hk : k < (String.utf8EncodeChar c).length := by omega
        have hne := utf8EncodeChar_ne_zero (c := c) (by omega)
        refine .inr ⟨k, _, _, rfl, ?_, hne _ (List.getElem_mem hk), ?_,
          hne _ (List.getElem_mem hinside)⟩
        · rw [encoding_cons, List.getElem?_append_left hk, List.getElem?_eq_getElem hk]
        · rw [encoding_cons, List.getElem?_append_left hinside, List.getElem?_eq_getElem hinside]
    · obtain ⟨j, rfl⟩ := Nat.exists_eq_add_of_le (not_lt.mp hinside)
      have hj : j ≤ (encoding chars).length := by omega
      have hskip : ∀ i, (encoding (c :: chars))[(String.utf8EncodeChar c).length + i]? =
          (encoding chars)[i]? := by
        intro i
        rw [encoding_cons, List.getElem?_append_right (Nat.le_add_right _ _),
          Nat.add_sub_cancel_left]
      rcases ih hj with hboundary | ⟨k, b, b', rfl, hb, hne, hb', hne'⟩
      · exact .inl (boundary_cons hboundary)
      · exact .inr ⟨_, b, b', rfl, (hskip k).trans hb, hne, (hskip (k + 1)).trans hb', hne'⟩

/-- A field that starts with whole characters, all of them if they take at most `limit`
bytes, and holds zeros from there on, at least one. -/
def Holds (chars : List Char) (limit : Nat) (field : List UInt8) : Prop :=
  ∃ kept zeros, kept <+: chars ∧ 0 < zeros ∧
    field = encoding kept ++ List.replicate zeros 0 ∧
    ((encoding chars).length ≤ limit → kept = chars)

/-- What a cut at `limit` bytes, filled up to `width`, holds. -/
theorem holds_cut_iff (chars : List Char) {limit width : Nat} (hwidth : limit < width) :
    Holds chars limit ((encoding chars).take limit ++
        List.replicate (width - min (encoding chars).length limit) 0) ↔
      (encoding chars).length ≤ limit ∨ Boundary chars limit := by
  have hfill : 0 < width - min (encoding chars).length limit := by omega
  constructor
  · rintro ⟨kept, zeros, hkept, hzeros, hfield, -⟩
    by_cases hshort : (encoding chars).length ≤ limit
    · exact .inl hshort
    · have hlong : limit ≤ (encoding chars).length := le_of_lt (not_le.mp hshort)
      rcases boundary_or_inside chars hlong with hboundary | ⟨k, b, b', rfl, hb, hne, hb', hne'⟩
      · exact .inr hboundary
      · obtain ⟨rest, rfl⟩ := hkept
        have htake : ((encoding (kept ++ rest)).take (k + 1)).length = k + 1 :=
          List.length_take_of_le hlong
        -- the field shows byte `k` of the text, and a zero behind it
        have hlast : (encoding kept ++ List.replicate zeros 0)[k]? = some b := by
          rw [← hfield, List.getElem?_append_left (by omega),
            List.getElem?_take_of_lt (Nat.lt_succ_self k), hb]
        have hzero : (encoding kept ++ List.replicate zeros 0)[k + 1]? = some 0 := by
          rw [← hfield, List.getElem?_append_right (by omega), htake, Nat.sub_self,
            List.getElem?_replicate_of_lt hfill]
        have hge : k < (encoding kept).length := by
          by_contra hlt
          rw [List.getElem?_append_right (not_lt.mp hlt), List.getElem?_replicate] at hlast
          split at hlast
          · exact hne (Option.some.inj hlast).symm
          · cases hlast
        have hle : (encoding kept).length ≤ k + 1 := by
          by_contra hgt
          rw [encoding_append, List.getElem?_append_left (not_le.mp hgt)] at hb'
          rw [List.getElem?_append_left (not_le.mp hgt), hb'] at hzero
          exact hne' (Option.some.inj hzero)
        exact .inr ⟨kept, List.prefix_append kept rest, by omega⟩
  · intro h
    by_cases hshort : (encoding chars).length ≤ limit
    · refine ⟨chars, _, List.prefix_rfl, hfill, ?_, fun _ => rfl⟩
      rw [List.take_of_length_le hshort]
    · obtain ⟨kept, ⟨rest, rfl⟩, rfl⟩ := h.resolve_left hshort
      refine ⟨kept, _, List.prefix_append kept rest, hfill, ?_, fun hle => absurd hle hshort⟩
      rw [encoding_append, List.take_left']
      rfl

end Utf8Cuts
