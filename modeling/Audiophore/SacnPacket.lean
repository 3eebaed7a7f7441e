import Audiophore.Core
import Audiophore.RustExec
import Audiophore.ByteFields

/-!
# The E1.31 packet builder

`audiophore-adapter-sacn/src/packet.rs`. A data packet is written field by field
into a scratch buffer that is reused from call to call; the three flags+length
fields are written as zero and patched once the size is known. Every operation
that could panic is executed as such.
-/

namespace SacnPacket

open ExtendedFloat AudiophoreCore RustExec ByteFields

def sacnPort : UInt16 := 5568
def defaultPriority : UInt8 := 100
def maxSlotsPerUniverse : Nat := 512
def maxRgbPixelsPerUniverse : Nat := maxSlotsPerUniverse / 3

/-- The text `ASC-E1.17`, padded with zeros to twelve bytes. -/
def acnPacketIdentifier : List UInt8 :=
  [0x41, 0x53, 0x43, 0x2d, 0x45, 0x31, 0x2e, 0x31, 0x37, 0, 0, 0]

def preambleSize : UInt16 := 0x0010
def postambleSize : UInt16 := 0x0000
def vectorRootE131Data : UInt32 := 0x00000004
def vectorE131DataPacket : UInt32 := 0x00000002
def vectorDmpSetProperty : UInt8 := 0x02
def dmpAddressDataType : UInt8 := 0xa1
def dmpFirstPropertyAddr : UInt16 := 0x0000
def dmpAddressIncrement : UInt16 := 0x0001
def dmxStartCode : UInt8 := 0x00
def pduFlags : UInt16 := 0x7000
def sourceNameLen : Nat := 64
def rootFlagsLenOffset : Nat := 16
def framingFlagsLenOffset : Nat := 38
def dmpFlagsLenOffset : Nat := 115

abbrev Uuid := List.Vector UInt8 16

structure PacketBuilder where
  cid : Uuid
  sourceName : List.Vector UInt8 sourceNameLen
  scratch : List UInt8
  deriving DecidableEq

inductive PackError where
  | invalidUniverse (univ : UInt16)
  | invalidPriority (priority : UInt8)
  | tooManySlots (count : Nat)
  deriving DecidableEq

def PackError.text : PackError → String
  | invalidUniverse u => s!"invalid universe {u}; must be in 1..=63_999"
  | invalidPriority p => s!"invalid priority {p}; must be in 0..=200"
  | tooManySlots n => s!"too many slots: {n}; max is 512"

/-- `(1..=63_999).contains(&universe)`. -/
def legalUniverse (u : UInt16) : Bool := 1 ≤ u && u ≤ 63999

def withCid (cid : Uuid) (sourceName : String) : Exec PacketBuilder := do
  let name : List.Vector UInt8 sourceNameLen := List.Vector.replicate sourceNameLen 0
  let bytes := sourceName.toUTF8.toList
  let copyLen := min bytes.length (sourceNameLen - 1)
  let src ← slicePrefix bytes copyLen
  let name ← copyToPrefix name copyLen src
  pure { cid := cid, sourceName := name, scratch := [] }

def writeFlagsLen (buf : List UInt8) (offset : Nat) (length : UInt16) : Exec (List UInt8) := do
  let value := pduFlags ||| (length &&& 0x0fff)
  let buf ← setIndex buf offset (UInt8.ofNat (value.toNat / 256))
  setIndex buf (offset + 1) (UInt8.ofNat value.toNat)

def encode (self : PacketBuilder) (univ : UInt16) (sequence priority : UInt8)
    (slots : List UInt8) : Exec (PacketBuilder × Except PackError (List UInt8)) := do
  if !legalUniverse univ then
    return (self, .error (.invalidUniverse univ))
  if priority > 200 then
    return (self, .error (.invalidPriority priority))
  if slots.length > maxSlotsPerUniverse then
    return (self, .error (.tooManySlots slots.length))
  -- the scratch buffer is cleared: nothing of it survives
  let buf := self.scratch.take 0
  -- root layer
  let buf := buf ++ be16 preambleSize
  let buf := buf ++ be16 postambleSize
  let buf := buf ++ acnPacketIdentifier
  let buf := buf ++ be16 0
  let buf := buf ++ be32 vectorRootE131Data
  let buf := buf ++ self.cid.toList
  -- framing layer
  let buf := buf ++ be16 0
  let buf := buf ++ be32 vectorE131DataPacket
  let buf := buf ++ self.sourceName.toList
  let buf := buf ++ [priority]
  let buf := buf ++ be16 0
  let buf := buf ++ [sequence]
  let buf := buf ++ [0]
  let buf := buf ++ be16 univ
  -- DMP layer
  let propertyValueCount ← checkedAddU16 1 (UInt16.ofNat slots.length)
  let buf := buf ++ be16 0
  let buf := buf ++ [vectorDmpSetProperty]
  let buf := buf ++ [dmpAddressDataType]
  let buf := buf ++ be16 dmpFirstPropertyAddr
  let buf := buf ++ be16 dmpAddressIncrement
  let buf := buf ++ be16 propertyValueCount
  let buf := buf ++ [dmxStartCode]
  let buf := buf ++ slots
  let totalLen := buf.length
  let rootLen ← checkedSub totalLen rootFlagsLenOffset
  let framingLen ← checkedSub totalLen framingFlagsLenOffset
  let dmpLen ← checkedSub totalLen dmpFlagsLenOffset
  let buf ← writeFlagsLen buf rootFlagsLenOffset (UInt16.ofNat rootLen)
  let buf ← writeFlagsLen buf framingFlagsLenOffset (UInt16.ofNat framingLen)
  let buf ← writeFlagsLen buf dmpFlagsLenOffset (UInt16.ofNat dmpLen)
  return ({ self with scratch := buf }, .ok buf)

/-- Linear to 8-bit with a power curve; the input is clamped, a NaN counts as `0`. -/
def gammaEncode (A : F32Arith) (linear : F32) : UInt8 :=
  let x := if linear.isNan then .fin 0 else linear.clamp (.fin 0) (.fin 1)
  let encoded := A.mul (A.powf x (A.div (A.lit 1) (A.lit (11 / 5)))) (A.lit 255)
  encoded.roundHalfAway.toU8

/-- The arguments `encode` accepts. -/
def Encodable (univ : UInt16) (priority : UInt8) (slots : List UInt8) : Prop :=
  legalUniverse univ = true ∧ priority ≤ 200 ∧ slots.length ≤ maxSlotsPerUniverse

theorem legalUniverse_iff (u : UInt16) :
    legalUniverse u = true ↔ 1 ≤ u.toNat ∧ u.toNat ≤ 63999 := by
  simp only [legalUniverse, Bool.and_eq_true, decide_eq_true_eq, UInt16.le_iff_toNat_le]
  rfl

theorem encodable_iff (univ : UInt16) (priority : UInt8) (slots : List UInt8) :
    Encodable univ priority slots ↔
      (1 ≤ univ.toNat ∧ univ.toNat ≤ 63999) ∧ priority.toNat ≤ 200 ∧ slots.length ≤ 512 := by
  simp only [Encodable, legalUniverse_iff, UInt8.le_iff_toNat_le, maxSlotsPerUniverse]
  rfl

/-- A flags+length field with the flags `0x7`. -/
def flagsLen (len : Nat) : List UInt8 := be16 (pduFlags ||| (UInt16.ofNat len &&& 0x0fff))

/-- The three layers, each with its length field in place, for `n` slot bytes. -/
def rootLayer (cid : Uuid) (n : Nat) : List UInt8 :=
  be16 preambleSize ++ (be16 postambleSize ++ (acnPacketIdentifier ++
    (flagsLen (110 + n) ++ (be32 vectorRootE131Data ++ cid.toList))))

def framingLayer (sourceName : List.Vector UInt8 sourceNameLen) (univ : UInt16)
    (sequence priority : UInt8) (n : Nat) : List UInt8 :=
  flagsLen (88 + n) ++ (be32 vectorE131DataPacket ++ (sourceName.toList ++
    ([priority] ++ (be16 0 ++ ([sequence] ++ ([0] ++ be16 univ))))))

def dmpLayer (slots : List UInt8) : List UInt8 :=
  flagsLen (11 + slots.length) ++ ([vectorDmpSetProperty] ++ ([dmpAddressDataType] ++
    (be16 dmpFirstPropertyAddr ++ (be16 dmpAddressIncrement ++
      (be16 (1 + UInt16.ofNat slots.length) ++ ([dmxStartCode] ++ slots))))))

def dataPacket (self : PacketBuilder) (univ : UInt16) (sequence priority : UInt8)
    (slots : List UInt8) : List UInt8 :=
  rootLayer self.cid slots.length ++
    (framingLayer self.sourceName univ sequence priority slots.length ++ dmpLayer slots)

@[simp] theorem length_flagsLen (len : Nat) : (flagsLen len).length = 2 := length_be16 _

theorem length_rootLayer (cid : Uuid) (n : Nat) : (rootLayer cid n).length = 38 := by
  have hcid : cid.toList.length = 16 := cid.toList_length
  simp only [rootLayer, List.length_append, length_be16, length_be32, length_flagsLen, hcid]
  rfl

theorem length_framingLayer (sourceName : List.Vector UInt8 sourceNameLen) (univ : UInt16)
    (sequence priority : UInt8) (n : Nat) :
    (framingLayer sourceName univ sequence priority n).length = 77 := by
  have hname : sourceName.toList.length = 64 := sourceName.toList_length
  simp only [framingLayer, List.length_append, length_be16, length_be32, length_flagsLen, hname,
    List.length_singleton]

theorem length_dmpLayer (slots : List UInt8) :
    (dmpLayer slots).length = 11 + slots.length := by
  simp only [dmpLayer, List.length_append, length_be16, length_flagsLen, List.length_singleton]
  omega

theorem length_dataPacket (self : PacketBuilder) (univ : UInt16) (sequence priority : UInt8)
    (slots : List UInt8) :
    (dataPacket self univ sequence priority slots).length = 126 + slots.length := by
  simp only [dataPacket, List.length_append, length_rootLayer, length_framingLayer,
    length_dmpLayer]
  omega

/-- Patching a two-byte field leaves everything around it alone. -/
theorem writeFlagsLen_mid (pre post : List UInt8) (x : UInt16) (len offset : Nat)
    (hoff : offset = pre.length) :
    writeFlagsLen (pre ++ (be16 x ++ post)) offset (UInt16.ofNat len) =
      .ok (pre ++ (flagsLen len ++ post)) := by
  subst hoff
  simp only [writeFlagsLen, be16, List.cons_append, List.nil_append]
  rw [setIndex_ok _ (by simp), ok_bind, setIndex_ok _ (by simp), set_set_mid]
  rfl

/-- Measuring a buffer with three zeroed length fields and patching them. The
positions of the fields are the hard-coded offsets. -/
theorem patch_lengths {β : Type} (pre mid₁ mid₂ post : List UInt8) (hpre : pre.length = 16)
    (hmid₁ : mid₁.length = 20) (hmid₂ : mid₂.length = 75) (finish : List UInt8 → Exec β) :
    (do
      let raw := pre ++ (be16 0 ++ (mid₁ ++ (be16 0 ++ (mid₂ ++ (be16 0 ++ post)))))
      let rootLen ← checkedSub raw.length rootFlagsLenOffset
      let framingLen ← checkedSub raw.length framingFlagsLenOffset
      let dmpLen ← checkedSub raw.length dmpFlagsLenOffset
      let buf ← writeFlagsLen raw rootFlagsLenOffset (UInt16.ofNat rootLen)
      let buf ← writeFlagsLen buf framingFlagsLenOffset (UInt16.ofNat framingLen)
      let buf ← writeFlagsLen buf dmpFlagsLenOffset (UInt16.ofNat dmpLen)
      finish buf) =
    finish (pre ++ (flagsLen (101 + post.length) ++ (mid₁ ++ (flagsLen (79 + post.length) ++
      (mid₂ ++ (flagsLen (2 + post.length) ++ post)))))) := by
  have hlen : (pre ++ (be16 0 ++ (mid₁ ++ (be16 0 ++ (mid₂ ++ (be16 0 ++ post)))))).length =
      117 + post.length := by
    simp only [List.length_append, length_be16, hpre, hmid₁, hmid₂]
    omega
  have hroot := writeFlagsLen_mid pre
    (mid₁ ++ (be16 0 ++ (mid₂ ++ (be16 0 ++ post)))) 0 (101 + post.length) 16 hpre.symm
  have hframing := writeFlagsLen_mid (pre ++ (flagsLen (101 + post.length) ++ mid₁))
    (mid₂ ++ (be16 0 ++ post)) 0 (79 + post.length) 38 (by
      simp only [List.length_append, length_flagsLen, hpre, hmid₁])
  have hdmp := writeFlagsLen_mid
    (pre ++ (flagsLen (101 + post.length) ++ (mid₁ ++ (flagsLen (79 + post.length) ++ mid₂))))
    post 0 (2 + post.length) 115 (by
      simp only [List.length_append, length_flagsLen, hpre, hmid₁, hmid₂])
  simp only [List.append_assoc] at hframing hdmp
  simp only [hlen, rootFlagsLenOffset, framingFlagsLenOffset, dmpFlagsLenOffset]
  rw [checkedSub_ok (by omega), checkedSub_ok (by omega), checkedSub_ok (by omega)]
  simp only [ok_bind, show 117 + post.length - 16 = 101 + post.length by omega,
    show 117 + post.length - 38 = 79 + post.length by omega,
    show 117 + post.length - 115 = 2 + post.length by omega, hroot, hframing, hdmp]

/-- Accepted arguments yield the packet and nothing else of the old buffer. -/
theorem encode_ok (self : PacketBuilder) {univ : UInt16} (sequence : UInt8) {priority : UInt8}
    {slots : List UInt8} (h : Encodable univ priority slots) :
    encode self univ sequence priority slots =
      .ok ({ self with scratch := dataPacket self univ sequence priority slots },
        .ok (dataPacket self univ sequence priority slots)) := by
  obtain ⟨hu, hp, hs⟩ := h
  have hs' : slots.length ≤ 512 := hs
  have hcid : self.cid.toList.length = 16 := self.cid.toList_length
  have hname : self.sourceName.toList.length = 64 := self.sourceName.toList_length
  have hcount : (1 : UInt16).toNat + (UInt16.ofNat slots.length).toNat < 2 ^ 16 := by
    rw [UInt16.toNat_ofNat', Nat.mod_eq_of_lt (by omega)]
    change 1 + slots.length < 2 ^ 16
    omega
  have hpatch := patch_lengths (β := PacketBuilder × Except PackError (List UInt8))
    (be16 preambleSize ++ (be16 postambleSize ++ acnPacketIdentifier))
    (be32 vectorRootE131Data ++ self.cid.toList)
    (be32 vectorE131DataPacket ++ (self.sourceName.toList ++ ([priority] ++ (be16 0 ++
      ([sequence] ++ ([0] ++ be16 univ))))))
    ([vectorDmpSetProperty] ++ ([dmpAddressDataType] ++ (be16 dmpFirstPropertyAddr ++
      (be16 dmpAddressIncrement ++ (be16 (1 + UInt16.ofNat slots.length) ++
        ([dmxStartCode] ++ slots))))))
    rfl
    (by simp only [List.length_append, length_be32, hcid])
    (by simp only [List.length_append, length_be32, length_be16, hname, List.length_singleton])
    (fun buf => pure ({ self with scratch := buf }, .ok buf))
  unfold encode
  rw [if_neg (by simp [hu]), if_neg (by simpa using hp), if_neg (by simpa using hs),
    checkedAddU16_ok hcount]
  simp only [ok_bind, List.take_zero, List.nil_append, List.append_assoc] at hpatch ⊢
  have hpost : 1 + (1 + (2 + (2 + (2 + (1 + slots.length))))) = 9 + slots.length := by omega
  rw [hpatch]
  simp only [dataPacket, rootLayer, framingLayer, dmpLayer, List.append_assoc,
    List.length_append, length_be16, List.length_singleton, hpost,
    show 101 + (9 + slots.length) = 110 + slots.length by omega,
    show 79 + (9 + slots.length) = 88 + slots.length by omega,
    show 2 + (9 + slots.length) = 11 + slots.length by omega]
  rfl

/-- Rejected arguments leave the builder as it was. -/
theorem encode_err (self : PacketBuilder) {univ : UInt16} (sequence : UInt8) {priority : UInt8}
    {slots : List UInt8} (h : ¬Encodable univ priority slots) :
    ∃ e, encode self univ sequence priority slots = .ok (self, .error e) := by
  unfold encode
  by_cases hu : legalUniverse univ = true
  · by_cases hp : priority ≤ 200
    · have hs : ¬slots.length ≤ maxSlotsPerUniverse := fun hs => h ⟨hu, hp, hs⟩
      rw [if_neg (by simp [hu]), if_neg (by simpa using hp), if_pos (by simpa using hs)]
      exact ⟨_, rfl⟩
    · rw [if_neg (by simp [hu]), if_pos (by simpa using hp)]
      exact ⟨_, rfl⟩
  · rw [if_pos (by simpa using hu)]
    exact ⟨_, rfl⟩

/-- The copy of the source name stays in bounds for every string; the CID is kept. -/
theorem withCid_ok (cid : Uuid) (sourceName : String) :
    ∃ b, withCid cid sourceName = .ok b ∧ b.cid = cid := by
  have hlen : ∀ bytes : List UInt8, min bytes.length (sourceNameLen - 1) ≤ bytes.length :=
    fun bytes => Nat.min_le_left _ _
  have hfit : min sourceName.toUTF8.toList.length (sourceNameLen - 1) ≤ sourceNameLen :=
    le_trans (Nat.min_le_right _ _) (Nat.sub_le _ _)
  obtain ⟨name, hname, -⟩ := copyToPrefix_ok (List.Vector.replicate sourceNameLen (0 : UInt8))
    (List.length_take_of_le (hlen sourceName.toUTF8.toList)) hfit
  refine ⟨{ cid := cid, sourceName := name, scratch := [] }, ?_, rfl⟩
  simp only [withCid, slicePrefix_ok (hlen _), ok_bind, hname]
  rfl

end SacnPacket
