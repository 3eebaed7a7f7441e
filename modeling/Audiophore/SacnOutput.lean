import Audiophore.AdapterCore
import Audiophore.ListChunks
import Audiophore.SacnPacket

/-!
# The sACN adapter

`audiophore-adapter-sacn/src/adapter.rs`: pixels are cut into one slot buffer per
universe, and each buffer is encoded and sent in the order of the universe list. The
answers of the operating system are arguments: what `bind` returned, and what the
`i`-th send of a call returned. Datagrams that left the host are part of a result.
-/

namespace SacnOutput

open AudiophoreCore RustExec ListChunks AdapterCore SacnPacket

/-- 44 Hz, in nanoseconds. -/
def defaultNativeRate : Duration := 22727000
def maxUniverses : Nat := 64

inductive IpAddr where
  | v4 (octets : List.Vector UInt8 4)
  | v6 (octets : List.Vector UInt8 16)
  deriving DecidableEq

structure SocketAddr where
  ip : IpAddr
  port : UInt16
  deriving DecidableEq

/-- An open socket, known by the port the system picked for it. -/
structure UdpSocket where
  localPort : UInt16
  deriving DecidableEq

structure Datagram where
  target : SocketAddr
  bytes : List UInt8
  deriving DecidableEq

structure SacnAdapter where
  name : String
  capabilities : List Capability
  zones : List Zone
  nativeRate : Duration
  target : SocketAddr
  universes : List UInt16
  priority : UInt8
  builder : PacketBuilder
  socket : Option UdpSocket
  sequence : UInt8
  deriving DecidableEq

def SacnAdapter.nextSequence (self : SacnAdapter) : UInt8 := self.sequence

/-- What the sends of one call return, in order. -/
abbrev SendOutcomes := Nat → Except IoError Unit

/-! ## Partitioning -/

/-- The inner loop: three encoded bytes are pushed for each pixel. -/
def encodeChunk (A : F32Arith) (chunk : List Rgb) : List UInt8 :=
  chunk.foldl (fun slots px =>
    let slots := slots ++ [gammaEncode A px.r]
    let slots := slots ++ [gammaEncode A px.g]
    slots ++ [gammaEncode A px.b]) []

/-- `partition_rgb`. The product that bounds the pixels is exact: a saturated one
would still exceed the length of every slice. -/
def partitionRgb (A : F32Arith) (pixels : List Rgb) (universeCount : Nat) :
    Exec (List (List UInt8)) := do
  if universeCount = 0 then
    return []
  let chunkPixels := maxRgbPixelsPerUniverse
  let take := min pixels.length (universeCount * chunkPixels)
  let kept ← slicePrefix pixels take
  let pieces ← chunks chunkPixels kept
  return padTo universeCount (pieces.map (encodeChunk A))

/-- What the adapter would send for `pixels` in one tick, exposed for tests. -/
def SacnAdapter.partitionPixels (A : F32Arith) (self : SacnAdapter) (pixels : List Rgb) :
    Exec (List (List UInt8)) := partitionRgb A pixels self.universes.length

/-! ## Sending -/

/-- The loop of `send_slots`. It is left by the first error, after which the packets
already sent stay sent. -/
def sendLoop (target : SocketAddr) (sequence priority : UInt8) :
    PacketBuilder → SendOutcomes → List (UInt16 × List UInt8) →
      Exec (PacketBuilder × List Datagram × Except AdapterError Unit)
  | builder, _, [] => pure (builder, [], .ok ())
  | builder, send, (univ, slots) :: rest => do
    let (builder, encoded) ← encode builder univ sequence priority slots
    match encoded with
    | .error e => pure (builder, [], .error (.protocol e.text))
    | .ok packet =>
      match send 0 with
      | .error e => pure (builder, [], .error (.io e))
      | .ok () => do
        let (builder, sent, outcome) ←
          sendLoop target sequence priority builder (fun i => send (i + 1)) rest
        pure (builder, { target := target, bytes := packet } :: sent, outcome)

def SacnAdapter.sendSlots (self : SacnAdapter) (slotUniverses : List (List UInt8))
    (send : SendOutcomes) : Exec (SacnAdapter × List Datagram × Except AdapterError Unit) := do
  if slotUniverses.length ≠ self.universes.length then
    return (self, [], .error (.protocol
      s!"slot universe count {slotUniverses.length} != adapter universe count {self.universes.length}"))
  match self.socket with
  | none => return (self, [], .error (.connect "socket not open; call connect()"))
  | some _ =>
    let (builder, sent, outcome) ← sendLoop self.target self.sequence self.priority self.builder
      send (self.universes.zip slotUniverses)
    match outcome with
    | .error e => return ({ self with builder := builder }, sent, .error e)
    | .ok () =>
      return ({ self with builder := builder, sequence := self.sequence + 1 }, sent, .ok ())

/-! ## The adapter calls -/

def SacnAdapter.connect (self : SacnAdapter) (bind : Except IoError UdpSocket) :
    SacnAdapter × Except AdapterError Unit :=
  match bind with
  | .error e => (self, .error (.io e))
  | .ok socket => ({ self with socket := some socket }, .ok ())

/-- The pixels of a payload, if it has any to give. -/
def pixelsOf : ZonePayload → Option (List Rgb)
  | .pixels px => some px
  | _ => none

/-- The first pixel payload met on the way through the zones. -/
def firstPixels (frame : ResolvedFrame) (order : IterOrder) : Option (List Rgb) :=
  (frame.zones.values order).findSome? pixelsOf

def SacnAdapter.render (A : F32Arith) (self : SacnAdapter) (frame : ResolvedFrame)
    (order : IterOrder) (send : SendOutcomes) :
    Exec (SacnAdapter × List Datagram × Except AdapterError Unit) := do
  match firstPixels frame order with
  | none => return (self, [], .ok ())
  | some pixels =>
    let slotUniverses ← partitionRgb A pixels self.universes.length
    self.sendSlots slotUniverses send

def SacnAdapter.disconnect (self : SacnAdapter) : SacnAdapter × Except AdapterError Unit :=
  ({ self with socket := none }, .ok ())

/-! ## Building an adapter -/

structure SacnAdapterBuilder where
  name : String
  targetHost : IpAddr
  targetPort : UInt16
  universes : List UInt16
  priority : UInt8
  nativeRate : Duration
  sourceName : String
  cid : Option Uuid
  zones : List Zone
  capabilities : List Capability

def SacnAdapterBuilder.new (name : String) (targetHost : IpAddr) : SacnAdapterBuilder where
  name := name
  targetHost := targetHost
  targetPort := sacnPort
  universes := [1]
  priority := defaultPriority
  nativeRate := defaultNativeRate
  sourceName := "audiophore"
  cid := none
  zones := []
  capabilities := [.rgb, .pixelStrip]

namespace SacnAdapterBuilder

def setUniverses (self : SacnAdapterBuilder) (universes : List UInt16) : SacnAdapterBuilder :=
  { self with universes := universes }

def setTargetPort (self : SacnAdapterBuilder) (port : UInt16) : SacnAdapterBuilder :=
  { self with targetPort := port }

def setPriority (self : SacnAdapterBuilder) (priority : UInt8) : SacnAdapterBuilder :=
  { self with priority := priority }

def setNativeRate (self : SacnAdapterBuilder) (rate : Duration) : SacnAdapterBuilder :=
  { self with nativeRate := rate }

def setSourceName (self : SacnAdapterBuilder) (name : String) : SacnAdapterBuilder :=
  { self with sourceName := name }

def setCid (self : SacnAdapterBuilder) (cid : Uuid) : SacnAdapterBuilder :=
  { self with cid := some cid }

def setZones (self : SacnAdapterBuilder) (zones : List Zone) : SacnAdapterBuilder :=
  { self with zones := zones }

def setCapabilities (self : SacnAdapterBuilder) (caps : List Capability) : SacnAdapterBuilder :=
  { self with capabilities := caps }

end SacnAdapterBuilder

/-- The first universe outside the legal range. -/
def firstIllegal (universes : List UInt16) : Option UInt16 :=
  universes.find? fun u => !legalUniverse u

/-- Validation, in the order of the source. `freshCid` is the identifier generated
for an adapter that has none configured. -/
def SacnAdapterBuilder.build (self : SacnAdapterBuilder) (freshCid : Uuid) :
    Exec (Except AdapterError SacnAdapter) := do
  if self.universes.isEmpty then
    return .error (.protocol "universe list must not be empty")
  if self.universes.length > maxUniverses then
    return .error (.protocol
      s!"too many universes ({self.universes.length}); max is {maxUniverses}")
  if let some u := firstIllegal self.universes then
    return .error (.protocol s!"universe {u} out of range 1..=63_999")
  if self.priority > 200 then
    return .error (.protocol s!"priority {self.priority} out of range 0..=200")
  let builder ← match self.cid with
    | some cid => withCid cid self.sourceName
    | none => withCid freshCid self.sourceName
  return .ok {
    name := self.name
    capabilities := self.capabilities
    zones := self.zones
    nativeRate := self.nativeRate
    target := { ip := self.targetHost, port := self.targetPort }
    universes := self.universes
    priority := self.priority
    builder := builder
    socket := none
    sequence := 0 }

end SacnOutput
