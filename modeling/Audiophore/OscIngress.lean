import Audiophore.FrameBuilder

/-!
# OSC ingress

`audiophore-audio/src/lib.rs`: a datagram is decoded by `rosc`, and every message
of the packet, however deep in nested bundles, is dispatched by its address.
The decoder is a parameter. Logging is left out.
-/

namespace OscIngress

open ExtendedFloat AudiophoreCore FrameBuilder

structure OscTime where
  seconds : UInt32
  fractional : UInt32

structure OscColor where
  red : UInt8
  green : UInt8
  blue : UInt8
  alpha : UInt8

structure OscMidiMessage where
  port : UInt8
  status : UInt8
  data1 : UInt8
  data2 : UInt8

inductive OscType where
  | int (v : Int32)
  | float (v : F32)
  | string (s : String)
  | blob (bytes : List UInt8)
  | time (t : OscTime)
  | long (v : Int64)
  | double (v : F64)
  | char (c : Char)
  | color (c : OscColor)
  | midi (m : OscMidiMessage)
  | bool (v : Bool)
  | array (content : List OscType)
  | nil
  | inf

structure OscMessage where
  addr : String
  args : List OscType

inductive OscPacket where
  | message (msg : OscMessage)
  | bundle (timetag : OscTime) (content : List OscPacket)

/-- `addr.starts_with(pattern)`. -/
def startsWith (addr pattern : String) : Bool := pattern.toList.isPrefixOf addr.toList

variable (A : F32Arith)

/-- The first argument as an `f32`, if it is a number of a supported type. -/
def firstFloat (msg : OscMessage) : Option F32 :=
  match msg.args.head? with
  | some (.float v) => some v
  | some (.double v) => some (A.narrow v)
  | some (.int v) => some (A.round (v.toInt : ℚ))
  | _ => none

def withFloat (msg : OscMessage) (builder : AudioFrameBuilder)
    (setter : AudioFrameBuilder → F32 → AudioFrameBuilder) : AudioFrameBuilder :=
  match firstFloat A msg with
  | some v => setter builder v
  | none => builder

def withUnit (msg : OscMessage) (builder : AudioFrameBuilder)
    (setter : AudioFrameBuilder → F32 → AudioFrameBuilder) : AudioFrameBuilder :=
  withFloat A msg builder setter

/-- The dispatch table, its arms in the order of the source. -/
def applyMessage (builder : AudioFrameBuilder) (msg : OscMessage) : AudioFrameBuilder :=
  match msg.addr with
  | "/audio/level/all" => withUnit A msg builder (·.setLevel .whole)
  | "/audio/level/bass" => withUnit A msg builder (·.setLevel .bass)
  | "/audio/level/mid" => withUnit A msg builder (·.setLevel .mid)
  | "/audio/level/midhigh" => withUnit A msg builder (·.setLevel .midHigh)
  | "/audio/level/high" => withUnit A msg builder (·.setLevel .high)
  | "/audio/level/raw" => builder
  | "/audio/hits/all" => withUnit A msg builder (·.setHit .whole)
  | "/audio/hits/bass" => withUnit A msg builder (·.setHit .bass)
  | "/audio/hits/mid" => withUnit A msg builder (·.setHit .mid)
  | "/audio/hits/midhigh" => withUnit A msg builder (·.setHit .midHigh)
  | "/audio/hits/high" => withUnit A msg builder (·.setHit .high)
  | "/audio/presence/all" => withUnit A msg builder (·.setPresence .whole)
  | "/audio/presence/bass" => withUnit A msg builder (·.setPresence .bass)
  | "/audio/presence/mid" => withUnit A msg builder (·.setPresence .mid)
  | "/audio/presence/midhigh" => withUnit A msg builder (·.setPresence .midHigh)
  | "/audio/presence/high" => withUnit A msg builder (·.setPresence .high)
  | "/audio/beat/onbeat" => withUnit A msg builder (·.setOnBeat)
  | "/audio/beat/randomonbeat" | "/audio/beat/beattime" => builder
  | "/audio/bpm/bpm" => withFloat A msg builder (·.setBpm)
  | "/audio/bpm/bpmconfidence" => withUnit A msg builder (·.setBpmConfidence)
  | addr =>
    if startsWith addr "/audio/bpm/" then builder
    else match addr with
    | "/audio/energy/intensity" => withUnit A msg builder (·.setIntensity)
    | addr =>
      if startsWith addr "/audio/time/" then builder
      else builder

mutual
/-- Messages are applied in the order of the packet, bundles depth first. -/
def applyPacket : AudioFrameBuilder → OscPacket → AudioFrameBuilder
  | builder, .message msg => applyMessage A builder msg
  | builder, .bundle _ content => applyContent builder content

def applyContent : AudioFrameBuilder → List OscPacket → AudioFrameBuilder
  | builder, [] => builder
  | builder, inner :: rest => applyContent (applyPacket builder inner) rest
end

inductive IngressError where
  | io (err : String)
  | decode (err : String)
  deriving DecidableEq

/-- `rosc::decoder::decode_udp`: the packet, or why the bytes were rejected. -/
abbrev Decoder := List UInt8 → Except String OscPacket

variable (decodeUdp : Decoder)

def dispatchPacket (bytes : List UInt8) (builder : AudioFrameBuilder) :
    AudioFrameBuilder × Except IngressError Unit :=
  match decodeUdp bytes with
  | .error e => (builder, .error (.decode e))
  | .ok packet => (applyPacket A builder packet, .ok ())

/-- What `recv_from` yields on the listener's socket. -/
abbrev Arrival := Except String (List UInt8)

/-- One call of `Listener::recv`. -/
def recv (builder : AudioFrameBuilder) (arrival : Arrival) :
    AudioFrameBuilder × Except IngressError AudioFrame :=
  match arrival with
  | .error e => (builder, .error (.io e))
  | .ok bytes =>
    match decodeUdp bytes with
    | .error e => (builder, .error (.decode e))
    | .ok packet =>
      let (frame, builder) := (applyPacket A builder packet).snapshot
      (builder, .ok frame)

/-- The fields that OSC messages feed. -/
inductive OscField where
  | level (band : Band)
  | hit (band : Band)
  | presence (band : Band)
  | onBeat
  | bpm
  | bpmConfidence
  | intensity
  deriving DecidableEq

def bandSegment : Band → String
  | .whole => "all"
  | .bass => "bass"
  | .mid => "mid"
  | .midHigh => "midhigh"
  | .high => "high"

namespace OscField

def addr : OscField → String
  | level band => "/audio/level/" ++ bandSegment band
  | hit band => "/audio/hits/" ++ bandSegment band
  | presence band => "/audio/presence/" ++ bandSegment band
  | onBeat => "/audio/beat/onbeat"
  | bpm => "/audio/bpm/bpm"
  | bpmConfidence => "/audio/bpm/bpmconfidence"
  | intensity => "/audio/energy/intensity"

def set (f : OscField) (b : AudioFrameBuilder) (v : F32) : AudioFrameBuilder :=
  match f with
  | level band => b.setLevel band v
  | hit band => b.setHit band v
  | presence band => b.setPresence band v
  | onBeat => b.setOnBeat v
  | bpm => b.setBpm v
  | bpmConfidence => b.setBpmConfidence v
  | intensity => b.setIntensity v

def clamp (f : OscField) (v : F32) : F32 :=
  match f with
  | bpm => clampWithLog v bpmMin bpmMax
  | _ => clampUnit v

end OscField

def bands : List Band := [.whole, .bass, .mid, .midHigh, .high]

def oscFields : List OscField :=
  bands.map .level ++ bands.map .hit ++ bands.map .presence ++
    [.onBeat, .bpm, .bpmConfidence, .intensity]

theorem mem_oscFields (f : OscField) : f ∈ oscFields := by
  cases f with
  | level band => cases band <;> decide
  | hit band => cases band <;> decide
  | presence band => cases band <;> decide
  | onBeat | bpm | bpmConfidence | intensity => decide

/-- The field an address feeds. -/
def fieldAt (addr : String) : Option OscField := oscFields.find? (fun f => f.addr = addr)

theorem addr_injective {f g : OscField} (h : f.addr = g.addr) : f = g := by
  have hnodup : (oscFields.map OscField.addr).Nodup := by decide
  exact List.inj_on_of_nodup_map hnodup (mem_oscFields f) (mem_oscFields g) h

theorem fieldAt_eq_some_iff (addr : String) (f : OscField) :
    fieldAt addr = some f ↔ f.addr = addr := by
  constructor
  · intro h
    simpa using List.find?_some h
  · rintro rfl
    cases h : fieldAt f.addr with
    | none =>
      have := List.find?_eq_none.mp h f (mem_oscFields f)
      simp at this
    | some g =>
      have hg : g.addr = f.addr := by simpa using List.find?_some h
      rw [addr_injective hg]

theorem applyMessage_field (b : AudioFrameBuilder) (f : OscField) (args : List OscType) :
    applyMessage A b ⟨f.addr, args⟩ =
      match firstFloat A ⟨f.addr, args⟩ with
      | some v => f.set b v
      | none => b := by
  cases f with
  | level band => cases band <;> rfl
  | hit band => cases band <;> rfl
  | presence band => cases band <;> rfl
  | onBeat => rfl
  | bpm => rfl
  | bpmConfidence => rfl
  | intensity =>
    have hguard : ¬ startsWith "/audio/energy/intensity" "/audio/bpm/" = true := by decide
    exact (if_neg hguard).trans rfl

/-- An address that feeds no field is ignored, whichever arm it falls into. -/
theorem applyMessage_other (b : AudioFrameBuilder) (msg : OscMessage)
    (h : fieldAt msg.addr = none) : applyMessage A b msg = b := by
  unfold applyMessage
  split
  case h_22 =>
    split
    · rfl
    · split
      · rename_i heq
        exact absurd (heq ▸ h) (by decide)
      · split <;> rfl
  all_goals first
    | rfl
    | rename_i heq
      exact absurd (heq ▸ h) (by decide)

/-- What one message does: it sets the field its address names, if any, to its
first argument, if that is a number. -/
theorem applyMessage_eq (b : AudioFrameBuilder) (msg : OscMessage) :
    applyMessage A b msg =
      match fieldAt msg.addr, firstFloat A msg with
      | some f, some v => f.set b v
      | _, _ => b := by
  cases h : fieldAt msg.addr with
  | none => exact applyMessage_other A b msg h
  | some f =>
    obtain ⟨addr, args⟩ := msg
    obtain rfl := (fieldAt_eq_some_iff addr f).mp h
    rw [applyMessage_field]
    cases firstFloat A ⟨f.addr, args⟩ <;> rfl

mutual
/-- The messages of a packet, depth first and left to right. -/
def messages : OscPacket → List OscMessage
  | .message msg => [msg]
  | .bundle _ content => contentMessages content

def contentMessages : List OscPacket → List OscMessage
  | [] => []
  | inner :: rest => messages inner ++ contentMessages rest
end

mutual
theorem applyPacket_eq_foldl (b : AudioFrameBuilder) (packet : OscPacket) :
    applyPacket A b packet = (messages packet).foldl (applyMessage A) b := by
  cases packet with
  | message msg => rfl
  | bundle timetag content => exact applyContent_eq_foldl b content

theorem applyContent_eq_foldl (b : AudioFrameBuilder) (content : List OscPacket) :
    applyContent A b content = (contentMessages content).foldl (applyMessage A) b := by
  cases content with
  | nil => rfl
  | cons inner rest =>
    rw [applyContent, contentMessages, List.foldl_append, applyPacket_eq_foldl b inner,
      applyContent_eq_foldl _ rest]
end

end OscIngress
