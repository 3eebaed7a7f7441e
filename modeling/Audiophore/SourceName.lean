import Audiophore.SacnReceiver
import Audiophore.Utf8Cuts

/-!
# The source name on the wire

A name is copied into its field byte by byte, and at most 63 bytes of it. What a receiver
reads there is text only when the cut does not go through a character.
-/

namespace SourceName

open RustExec ByteFields SacnPacket SacnReceiver Utf8Cuts

theorem sourceName_of_withCid {cid : Uuid} {name : String} {b : PacketBuilder}
    (h : withCid cid name = .ok b) :
    b.sourceName.toList = (encoding name.toList).take 63 ++
      List.replicate (64 - min (encoding name.toList).length 63) 0 := by
  have hlen : min (encoding name.toList).length (sourceNameLen - 1) ≤
      (encoding name.toList).length := Nat.min_le_left _ _
  obtain ⟨field, hcopy, hfield⟩ := copyToPrefix_ok (List.Vector.replicate sourceNameLen (0 : UInt8))
    (List.length_take_of_le hlen) (show _ ≤ sourceNameLen from
      le_trans (Nat.min_le_right _ _) (Nat.sub_le _ _))
  have hbuilder : withCid cid name = .ok { cid := cid, sourceName := field, scratch := [] } := by
    simp only [withCid, toList_toUTF8, slicePrefix_ok hlen, ok_bind, hcopy]
    rfl
  obtain rfl := Except.ok.inj (hbuilder.symm.trans h)
  have htake : (encoding name.toList).take (min (encoding name.toList).length 63) =
      (encoding name.toList).take 63 := by
    rw [Nat.min_comm, ← List.take_eq_take_min]
  have hfill : ∀ k, (List.Vector.replicate sourceNameLen (0 : UInt8)).val.drop k =
      List.replicate (64 - k) 0 := fun k => List.drop_replicate
  change field.val = _
  rw [hfield, hfill]
  exact congrArg (· ++ _) htake

/-- Whatever was encoded before, the field of a packet reads as a leading part of the name,
the whole name if it fits, exactly when the name takes at most 63 bytes or has a character
that ends with byte 63. -/
theorem name_field_iff {cid : Uuid} {name : String} {b : PacketBuilder}
    (hb : withCid cid name = .ok b) (scratch : List UInt8) {univ : UInt16}
    {sequence priority : UInt8} {slots packet : List UInt8} {b' : PacketBuilder}
    (h : encode { b with scratch := scratch } univ sequence priority slots =
      .ok (b', .ok packet)) :
    ∃ field, slice packet 44 64 = some field ∧
      (Holds name.toList 63 field ↔ name.utf8ByteSize ≤ 63 ∨ Boundary name.toList 63) := by
  by_cases hencodable : Encodable univ priority slots
  · rw [encode_ok { b with scratch := scratch } sequence hencodable] at h
    cases h
    obtain ⟨-, -, -, -, -, -, -, hslice, -⟩ :=
      fields_of_dataPacket { b with scratch := scratch } univ sequence priority slots
    refine ⟨b.sourceName.toList, hslice, ?_⟩
    rw [sourceName_of_withCid hb, ← length_encoding]
    exact holds_cut_iff name.toList (by decide)
  · obtain ⟨e, he⟩ := encode_err { b with scratch := scratch } sequence hencodable
    rw [he] at h
    cases h

theorem name_field_iff_default :
    ∃ b b' packet field, withCid (List.Vector.replicate 16 0) "audiophore" = .ok b ∧
      encode { b with scratch := [] } 1 0 100 [] = .ok (b', .ok packet) ∧
      slice packet 44 64 = some field ∧ Holds "audiophore".toList 63 field := by
  obtain ⟨b, hb, -⟩ := withCid_ok (List.Vector.replicate 16 0) "audiophore"
  have hempty : Encodable 1 100 [] := (encodable_iff _ _ _).mpr (by decide)
  have hencode := encode_ok { b with scratch := [] } 0 hempty
  obtain ⟨field, hslice, hiff⟩ := name_field_iff hb [] hencode
  exact ⟨b, _, _, field, hb, hencode, hslice, hiff.mpr (.inl (by decide))⟩

/-- Sixty-two bytes and a character of two. -/
def cutName : String := String.ofList (List.replicate 62 'a' ++ ['é'])

/-- Byte 63 falls into the last character, and its first byte stays behind. -/
theorem cutName_loses_its_end :
    ∃ b b' packet field, withCid (List.Vector.replicate 16 0) cutName = .ok b ∧
      encode b 1 0 100 [] = .ok (b', .ok packet) ∧
      slice packet 44 64 = some field ∧ field[62]? = some 0xc3 ∧
      ¬Holds cutName.toList 63 field := by
  obtain ⟨b, hb, -⟩ := withCid_ok (List.Vector.replicate 16 0) cutName
  have hempty : Encodable 1 100 [] := (encodable_iff _ _ _).mpr (by decide)
  have hencode := encode_ok b 0 hempty
  obtain ⟨-, -, -, -, -, -, -, hslice, -⟩ := fields_of_dataPacket b 1 0 100 []
  have hname : cutName.toList = List.replicate 62 'a' ++ ['é'] := String.toList_ofList
  refine ⟨b, _, _, _, hb, hencode, hslice, ?_, ?_⟩
  · rw [sourceName_of_withCid hb, hname]
    decide
  · rw [sourceName_of_withCid hb, holds_cut_iff _ (by decide), hname]
    rintro (hshort | ⟨kept, hkept, hlen⟩)
    · exact absurd hshort (by decide)
    · have hcuts : ∀ k < 64,
          (encoding ((List.replicate 62 'a' ++ ['é']).take k)).length ≠ 63 := by decide +kernel
      rw [List.prefix_iff_eq_take.mp hkept, List.take_eq_take_min] at hlen
      exact hcuts _ (Nat.lt_succ_of_le (Nat.min_le_right _ _)) hlen

end SourceName
