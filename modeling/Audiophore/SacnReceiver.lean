import Audiophore.SacnPacket

/-!
# An E1.31 receiver

The receiver knows the packet format and nothing of the encoder. It finds the ends
of the three nested PDUs in their flags+length fields and the number of slots in
the property value count. What it reads back is what the encoder was given,
whatever was encoded with the same builder before.
-/

namespace SacnReceiver

open AudiophoreCore RustExec ByteFields SacnPacket

/-- A flags+length field: the four flag bits and the offset just past the PDU. -/
structure PduHeader where
  flags : Nat
  stop : Nat
  deriving DecidableEq

structure Received where
  root : PduHeader
  framing : PduHeader
  dmp : PduHeader
  cid : List UInt8
  sourceName : List UInt8
  priority : Nat
  sequence : Nat
  univ : Nat
  slots : List UInt8
  deriving DecidableEq

/-- The PDU that starts at `off`, if it ends within the packet. -/
def pduAt (p : List UInt8) (off : Nat) : Option PduHeader := do
  let value := ofBe (← slice p off 2)
  let stop := off + value % 0x1000
  guard (stop ≤ p.length)
  pure { flags := value / 0x1000, stop := stop }

/-- The big-endian number in `len` bytes at `off`. -/
def numberAt (p : List UInt8) (off len : Nat) : Option Nat := (slice p off len).map ofBe

def decode (p : List UInt8) : Option Received := do
  guard (numberAt p 0 2 = some 0x0010)
  guard (slice p 4 12 = some [0x41, 0x53, 0x43, 0x2d, 0x45, 0x31, 0x2e, 0x31, 0x37, 0, 0, 0])
  let root ← pduAt p 16
  guard (numberAt p 18 4 = some 4)
  let cid ← slice p 22 16
  let framing ← pduAt p 38
  guard (numberAt p 40 4 = some 2)
  let sourceName ← slice p 44 64
  let priority ← numberAt p 108 1
  let sequence ← numberAt p 111 1
  let univ ← numberAt p 113 2
  let dmp ← pduAt p 115
  guard (numberAt p 117 1 = some 2)
  let count ← numberAt p 123 2
  -- the start code is the first property value; the slots follow it
  guard (1 ≤ count ∧ 125 + count ≤ dmp.stop)
  let slots ← slice p 126 (count - 1)
  pure { root, framing, dmp, cid, sourceName, priority, sequence, univ, slots }

theorem ofBe_flagsLen {len : Nat} (h : len < 0x1000) : ofBe (flagsLen len) = 0x7000 + len := by
  have hmask : len % 2 ^ 16 &&& 0x0fff = len := by
    rw [Nat.mod_eq_of_lt (by omega), Nat.and_two_pow_sub_one_eq_mod len 12,
      Nat.mod_eq_of_lt (by omega)]
  rw [flagsLen, ofBe_be16, pduFlags, UInt16.toNat_or, UInt16.toNat_and, UInt16.toNat_ofNat']
  change 0x7000 ||| (len % 2 ^ 16 &&& 0x0fff) = 0x7000 + len
  rw [hmask, Nat.two_pow_add_eq_or_of_lt (i := 12) (by omega) 7]

section Fields

variable (self : PacketBuilder) (univ : UInt16) (sequence priority : UInt8) (slots : List UInt8)

/-- The fields a receiver reads, by offset. -/
theorem fields_of_dataPacket :
    let p := dataPacket self univ sequence priority slots
    slice p 0 2 = some (be16 preambleSize) ∧
    slice p 4 12 = some acnPacketIdentifier ∧
    slice p 16 2 = some (flagsLen (110 + slots.length)) ∧
    slice p 18 4 = some (be32 vectorRootE131Data) ∧
    slice p 22 16 = some self.cid.toList ∧
    slice p 38 2 = some (flagsLen (88 + slots.length)) ∧
    slice p 40 4 = some (be32 vectorE131DataPacket) ∧
    slice p 44 64 = some self.sourceName.toList ∧
    slice p 108 1 = some [priority] ∧
    slice p 111 1 = some [sequence] ∧
    slice p 113 2 = some (be16 univ) ∧
    slice p 115 2 = some (flagsLen (11 + slots.length)) ∧
    slice p 117 1 = some [vectorDmpSetProperty] ∧
    slice p 123 2 = some (be16 (1 + UInt16.ofNat slots.length)) ∧
    slice p 126 slots.length = some slots := by
  have hcid : self.cid.toList.length = 16 := self.cid.toList_length
  have hname : self.sourceName.toList.length = 64 := self.sourceName.toList_length
  have hacn : acnPacketIdentifier.length = 12 := rfl
  simp only [dataPacket, rootLayer, framingLayer, dmpLayer, List.append_assoc]
  refine ⟨?_, ?_, ?_, ?_, ?_, ?_, ?_, ?_, ?_, ?_, ?_, ?_, ?_, ?_, ?_⟩ <;>
  simp only [slice_skip, slice_head, slice_self, length_be16, length_be32, length_flagsLen,
    List.length_singleton, hcid, hname, hacn, Nat.reduceLeDiff, Nat.reduceSub, le_refl,
    Nat.sub_self]

/-- What a receiver should make of the packet. -/
def readBack : Received where
  root := { flags := 7, stop := (dataPacket self univ sequence priority slots).length }
  framing := { flags := 7, stop := (dataPacket self univ sequence priority slots).length }
  dmp := { flags := 7, stop := (dataPacket self univ sequence priority slots).length }
  cid := self.cid.toList
  sourceName := self.sourceName.toList
  priority := priority.toNat
  sequence := sequence.toNat
  univ := univ.toNat
  slots := slots

/-- Every packet of the encoder is accepted, and read back as it was meant. -/
theorem decode_dataPacket (hs : slots.length ≤ maxSlotsPerUniverse) :
    decode (dataPacket self univ sequence priority slots) =
      some (readBack self univ sequence priority slots) := by
  let p := dataPacket self univ sequence priority slots
  have hs' : slots.length ≤ 512 := hs
  have hlen : p.length = 126 + slots.length := length_dataPacket ..
  have hpdu : ∀ off len, len < 0x1000 → off + len = 126 + slots.length →
      slice p off 2 = some (flagsLen len) →
      pduAt p off = some { flags := 7, stop := p.length } := by
    intro off len hlt hoff hslice
    have hflags : (0x7000 + len) / 0x1000 = 7 := by omega
    have hstop : off + (0x7000 + len) % 0x1000 = p.length := by omega
    simp [pduAt, hslice, ofBe_flagsLen hlt, hflags, hstop]
  have hcount : (1 + UInt16.ofNat slots.length).toNat = 1 + slots.length := by
    rw [UInt16.toNat_add, UInt16.toNat_ofNat']
    change (1 + slots.length % 2 ^ 16) % 2 ^ 16 = 1 + slots.length
    omega
  obtain ⟨hpre, hacn, hroot, hrootVector, hcid, hframing, hframingVector, hname, hpriority,
    hsequence, huniv, hdmp, hdmpVector, hvalues, hslots⟩ :=
    fields_of_dataPacket self univ sequence priority slots
  have hrootPdu := hpdu 16 _ (by omega) (by omega) hroot
  have hframingPdu := hpdu 38 _ (by omega) (by omega) hframing
  have hdmpPdu := hpdu 115 _ (by omega) (by omega) hdmp
  have hfit : 125 + (1 + slots.length) ≤ p.length := by omega
  simp only [acnPacketIdentifier] at hacn
  simp [decode, numberAt, readBack, p, hpre, hacn, hrootPdu, hrootVector, hcid, hframingPdu,
    hframingVector, hname, hpriority, hsequence, huniv, hdmpPdu, hdmpVector, hvalues, hcount,
    hfit, hslots, preambleSize, vectorRootE131Data, vectorE131DataPacket, vectorDmpSetProperty]

end Fields

structure EncodeCall where
  univ : UInt16
  sequence : UInt8
  priority : UInt8
  slots : List UInt8

/-- Earlier calls on a builder, whatever came of them. -/
def encodeAll (b : PacketBuilder) : List EncodeCall → Exec PacketBuilder
  | [] => pure b
  | call :: calls => do
      let (b', _) ← encode b call.univ call.sequence call.priority call.slots
      encodeAll b' calls

/-- A call reads the CID and the source name of its builder, and writes neither. -/
theorem encode_total (self : PacketBuilder) (univ : UInt16) (sequence priority : UInt8)
    (slots : List UInt8) :
    ∃ b out, encode self univ sequence priority slots = .ok (b, out) ∧
      b.cid = self.cid ∧ b.sourceName = self.sourceName := by
  by_cases h : Encodable univ priority slots
  · exact ⟨_, _, encode_ok self sequence h, rfl, rfl⟩
  · obtain ⟨e, he⟩ := encode_err self sequence h
    exact ⟨_, _, he, rfl, rfl⟩

theorem encodeAll_total (calls : List EncodeCall) (self : PacketBuilder) :
    ∃ b, encodeAll self calls = .ok b ∧ b.cid = self.cid ∧ b.sourceName = self.sourceName := by
  induction calls generalizing self with
  | nil => exact ⟨self, rfl, rfl, rfl⟩
  | cons call calls ih =>
    obtain ⟨b, out, hb, hcid, hname⟩ :=
      encode_total self call.univ call.sequence call.priority call.slots
    obtain ⟨b', hb', hcid', hname'⟩ := ih b
    refine ⟨b', ?_, hcid'.trans hcid, hname'.trans hname⟩
    simp only [encodeAll, hb, ok_bind, hb']

/-- Decoding an accepted call's packet gives back the call, and the packet is the one a
fresh builder would have produced. -/
theorem encode_round_trip (cid : Uuid) (sourceName : String) (calls : List EncodeCall)
    (univ : UInt16) (sequence priority : UInt8) (slots : List UInt8) :
    ∃ fresh used used' out, withCid cid sourceName = .ok fresh ∧
      encodeAll fresh calls = .ok used ∧
      encode used univ sequence priority slots = .ok (used', out) ∧
      ((∃ e, out = .error e) ↔
        ¬(1 ≤ univ.toNat ∧ univ.toNat ≤ 63999) ∨ 200 < priority.toNat ∨ 512 < slots.length) ∧
      ∀ p, out = .ok p →
        (∃ fresh', encode fresh univ sequence priority slots = .ok (fresh', .ok p)) ∧
        decode p = some {
          root := { flags := 7, stop := p.length }
          framing := { flags := 7, stop := p.length }
          dmp := { flags := 7, stop := p.length }
          cid := cid.toList
          sourceName := fresh.sourceName.toList
          priority := priority.toNat
          sequence := sequence.toNat
          univ := univ.toNat
          slots := slots } := by
  obtain ⟨fresh, hfresh, hfreshCid⟩ := withCid_ok cid sourceName
  obtain ⟨used, hused, husedCid, husedName⟩ := encodeAll_total calls fresh
  by_cases h : Encodable univ priority slots
  · have hsame : dataPacket used univ sequence priority slots =
        dataPacket fresh univ sequence priority slots := by
      rw [dataPacket, dataPacket, husedCid, husedName]
    refine ⟨fresh, used, _, _, hfresh, hused, encode_ok used sequence h, ?_, ?_⟩
    · constructor
      · rintro ⟨e, he⟩
        cases he
      · intro hbad
        exact absurd ((encodable_iff univ priority slots).mp h) (by omega)
    · rintro p hp
      obtain rfl := Except.ok.inj hp
      rw [hsame]
      refine ⟨⟨_, encode_ok fresh sequence h⟩, ?_⟩
      rw [← hfreshCid]
      exact decode_dataPacket fresh univ sequence priority slots h.2.2
  · obtain ⟨e, he⟩ := encode_err used sequence h
    refine ⟨fresh, used, used, .error e, hfresh, hused, he, ?_, ?_⟩
    · have hbad := mt (encodable_iff univ priority slots).mpr h
      constructor
      · intro _
        omega
      · intro _
        exact ⟨e, rfl⟩
    · intro p hp
      cases hp

/-! ## Multicast groups -/

/-- `multicast_v4`: the address of the group that a universe is sent to. -/
def multicastV4 (univ : UInt16) : Option (List.Vector UInt8 4) :=
  if legalUniverse univ then
    let hi := (univ >>> 8).toUInt8
    let lo := (univ &&& 0xff).toUInt8
    some ⟨[239, 255, hi, lo], rfl⟩
  else none

theorem multicastV4_eq {univ : UInt16} (h : legalUniverse univ = true) :
    (multicastV4 univ).map List.Vector.toList = some ([239, 255] ++ be16 univ) := by
  have hhi : (univ >>> 8).toUInt8 = UInt8.ofNat (univ.toNat / 256) := by
    apply UInt8.toNat.inj
    simp only [UInt16.toNat_toUInt8, UInt16.toNat_shiftRight, UInt8.toNat_ofNat']
    rw [Nat.shiftRight_eq_div_pow]
    rfl
  have hlo : (univ &&& 0xff).toUInt8 = UInt8.ofNat univ.toNat := by
    apply UInt8.toNat.inj
    simp only [UInt16.toNat_toUInt8, UInt16.toNat_and, UInt8.toNat_ofNat']
    rw [show (0xff : UInt16).toNat = 2 ^ 8 - 1 from rfl, Nat.and_two_pow_sub_one_eq_mod,
      Nat.mod_mod]
  simp only [multicastV4, h, if_true, hhi, hlo, be16]
  rfl

/-- The group of a packet stands in the packet: its last two bytes are the universe field.
Universes that cannot be encoded have no group. -/
theorem group_of_encoded (self : PacketBuilder) (univ : UInt16) (sequence priority : UInt8)
    (slots : List UInt8) :
    (multicastV4 univ = none → ¬Encodable univ priority slots) ∧
      ∀ self' p, encode self univ sequence priority slots = .ok (self', .ok p) →
        ∃ group, multicastV4 univ = some group ∧
          some (group.toList.drop 2) = slice p 113 2 := by
  constructor
  · rintro hnone ⟨hlegal, -⟩
    rw [multicastV4, if_pos hlegal] at hnone
    cases hnone
  · intro self' p hp
    by_cases h : Encodable univ priority slots
    · rw [encode_ok self sequence h] at hp
      simp only [Except.ok.injEq, Prod.mk.injEq] at hp
      obtain ⟨-, rfl⟩ := hp
      obtain ⟨group, hgroup, hbytes⟩ := Option.map_eq_some_iff.mp (multicastV4_eq h.1)
      refine ⟨group, hgroup, ?_⟩
      rw [(fields_of_dataPacket self univ sequence priority slots).2.2.2.2.2.2.2.2.2.2.1, hbytes]
      rfl
    · obtain ⟨e, he⟩ := encode_err self sequence h
      rw [he] at hp
      cases hp

end SacnReceiver
