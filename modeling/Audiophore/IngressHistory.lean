import Audiophore.OscRegisters

/-!
# What the ingress knows about its history

Two views of whole runs: the listener's frames hold, field by field, the last
well-formed value received, and no mixture of setters, snapshots and datagrams
drives a field out of its range.
-/

namespace IngressHistory

open AudiophoreCore FrameBuilder OscIngress OscRegisters

variable (A : F32Arith) (decodeUdp : Decoder)

/-- Successive calls of `recv`: the builder left behind and what each call returned. -/
def listen : AudioFrameBuilder → List Arrival →
    AudioFrameBuilder × List (Except IngressError AudioFrame)
  | builder, [] => (builder, [])
  | builder, arrival :: rest =>
    let (builder, outcome) := recv A decodeUdp builder arrival
    let (builder, outcomes) := listen builder rest
    (builder, outcome :: outcomes)

def returnedFrames (outcomes : List (Except IngressError AudioFrame)) : List AudioFrame :=
  outcomes.filterMap Except.toOption

/-- The packet an arrival carries, if it arrived and could be decoded. -/
def packetOf (arrival : Arrival) : Option OscPacket :=
  arrival.toOption.bind fun bytes => (decodeUdp bytes).toOption

def decodedPackets (arrivals : List Arrival) : List OscPacket :=
  arrivals.filterMap (packetOf decodeUdp)

/-- All messages of all decodable datagrams, in order. -/
def received (arrivals : List Arrival) : List OscMessage :=
  (decodedPackets decodeUdp arrivals).flatMap messages

/-- A datagram that cannot be decoded changes nothing and returns no frame. -/
theorem recv_undecodable {arrival : Arrival} (h : packetOf decodeUdp arrival = none)
    (b : AudioFrameBuilder) :
    (recv A decodeUdp b arrival).1 = b ∧ (recv A decodeUdp b arrival).2.toOption = none := by
  cases arrival with
  | error e => exact ⟨rfl, rfl⟩
  | ok bytes =>
    cases hd : decodeUdp bytes with
    | error e => simp [recv, hd, Except.toOption]
    | ok packet => simp [packetOf, Except.toOption, hd] at h

/-- A decodable datagram applies all its messages and returns a snapshot. -/
theorem recv_decodable {arrival : Arrival} {packet : OscPacket}
    (h : packetOf decodeUdp arrival = some packet) (b : AudioFrameBuilder) :
    (recv A decodeUdp b arrival).1 = (messages packet).foldl (applyMessage A) b ∧
    (recv A decodeUdp b arrival).2 =
      .ok ((messages packet).foldl (applyMessage A) b).snapshot.1 := by
  cases arrival with
  | error e => cases h
  | ok bytes =>
    cases hd : decodeUdp bytes with
    | error e => simp [packetOf, Except.toOption, hd] at h
    | ok packet' =>
      obtain rfl : packet' = packet := by simpa [packetOf, Except.toOption, hd] using h
      simp [recv, hd, applyPacket_eq_foldl, AudioFrameBuilder.snapshot]

theorem listen_snoc (b : AudioFrameBuilder) (arrivals : List Arrival) (arrival : Arrival) :
    listen A decodeUdp b (arrivals ++ [arrival]) =
      ((recv A decodeUdp (listen A decodeUdp b arrivals).1 arrival).1,
        (listen A decodeUdp b arrivals).2 ++
          [(recv A decodeUdp (listen A decodeUdp b arrivals).1 arrival).2]) := by
  induction arrivals generalizing b with
  | nil => rfl
  | cons first rest ih =>
    have hrest := ih (recv A decodeUdp b first).1
    simp only [List.cons_append, listen, hrest]

theorem listen_builder (b : AudioFrameBuilder) (arrivals : List Arrival) :
    (listen A decodeUdp b arrivals).1 =
      (received decodeUdp arrivals).foldl (applyMessage A) b := by
  induction arrivals generalizing b with
  | nil => rfl
  | cons arrival rest ih =>
    change (listen A decodeUdp (recv A decodeUdp b arrival).1 rest).1 = _
    rw [ih]
    cases h : packetOf decodeUdp arrival with
    | none =>
      rw [(recv_undecodable A decodeUdp h b).1]
      simp [received, decodedPackets, h]
    | some packet =>
      rw [(recv_decodable A decodeUdp h b).1]
      simp [received, decodedPackets, h, List.foldl_append]

/-- The `k`-th frame is the snapshot after the first `k + 1` decodable datagrams. -/
theorem returnedFrames_listen (b : AudioFrameBuilder) (arrivals : List Arrival) (k : Nat) :
    (returnedFrames (listen A decodeUdp b arrivals).2)[k]? =
      (decodedPackets decodeUdp arrivals)[k]?.map fun _ =>
        ((((decodedPackets decodeUdp arrivals).take (k + 1)).flatMap messages).foldl
          (applyMessage A) b).snapshot.1 := by
  induction arrivals generalizing b k with
  | nil => rfl
  | cons arrival rest ih =>
    change (returnedFrames ((recv A decodeUdp b arrival).2 ::
      (listen A decodeUdp (recv A decodeUdp b arrival).1 rest).2))[k]? = _
    cases h : packetOf decodeUdp arrival with
    | none =>
      obtain ⟨hb, hnone⟩ := recv_undecodable A decodeUdp h b
      have hrest := ih b k
      simp only [returnedFrames, decodedPackets, List.filterMap_cons, hnone, h, hb] at hrest ⊢
      exact hrest
    | some packet =>
      obtain ⟨hb, hok⟩ := recv_decodable A decodeUdp h b
      simp only [returnedFrames, decodedPackets, List.filterMap_cons, hok, h, hb, Except.toOption]
      cases k with
      | zero => simp
      | succ k =>
        have hrest := ih ((messages packet).foldl (applyMessage A) b) k
        simp only [returnedFrames, decodedPackets] at hrest
        simp only [List.getElem?_cons_succ, List.take_succ_cons, List.flatMap_cons,
          List.foldl_append]
        exact hrest

theorem length_returnedFrames (b : AudioFrameBuilder) (arrivals : List Arrival) :
    (returnedFrames (listen A decodeUdp b arrivals).2).length =
      (decodedPackets decodeUdp arrivals).length := by
  have hsame : ∀ k, (returnedFrames (listen A decodeUdp b arrivals).2).length ≤ k ↔
      (decodedPackets decodeUdp arrivals).length ≤ k := by
    intro k
    rw [← List.getElem?_eq_none_iff, ← List.getElem?_eq_none_iff, returnedFrames_listen,
      Option.map_eq_none_iff]
  have hle := hsame (decodedPackets decodeUdp arrivals).length
  have hge := hsame (returnedFrames (listen A decodeUdp b arrivals).2).length
  omega

def OscType.isNumber : OscType → Bool
  | .float _ | .double _ | .int _ => true
  | _ => false

/-- A message a field listens to: its exact address, with a number in front. -/
def wellFormedFor (f : OscField) (msg : OscMessage) : Bool :=
  msg.addr = f.addr && msg.args.head?.any OscType.isNumber

def lastWellFormed (f : OscField) (msgs : List OscMessage) : Option OscMessage :=
  (msgs.filter (wellFormedFor f)).getLast?

/-- The value a field has after `msgs`: the last well-formed one, clamped, or
the initial value. -/
def lastValue (f : OscField) (msgs : List OscMessage) : F32 :=
  match (lastWellFormed f msgs).bind (firstFloat A) with
  | some v => f.clamp v
  | none => initialValue f

theorem firstFloat_isSome (msg : OscMessage) :
    (firstFloat A msg).isSome = msg.args.head?.any OscType.isNumber := by
  unfold firstFloat
  cases msg.args.head? with
  | none => rfl
  | some arg => cases arg <;> rfl

theorem wellFormedFor_eq (f : OscField) (msg : OscMessage) :
    wellFormedFor f msg = (decide (msg.addr = f.addr) && (firstFloat A msg).isSome) := by
  rw [firstFloat_isSome, wellFormedFor]

/-- The writes to a field's register are its well-formed messages. -/
theorem writes_to_field (f : OscField) (msg : OscMessage) :
    (((registers A).writes msg).bind fun w => if w.1 = f then some w.2 else none) =
      if wellFormedFor f msg then (firstFloat A msg).map f.clamp else none := by
  rw [wellFormedFor_eq A]
  simp only [registers]
  by_cases hf : msg.addr = f.addr
  · rw [(fieldAt_eq_some_iff msg.addr f).mpr hf.symm]
    cases firstFloat A msg with
    | none => simp
    | some v => simp [hf]
  · cases hg : fieldAt msg.addr with
    | none => simp [hf]
    | some g =>
      have hne : g ≠ f := by
        rintro rfl
        exact hf ((fieldAt_eq_some_iff msg.addr g).mp hg).symm
      cases firstFloat A msg <;> simp [hf, hne]

theorem latest_eq_lastWellFormed (f : OscField) (msgs : List OscMessage) :
    (registers A).latest f msgs = ((lastWellFormed f msgs).bind (firstFloat A)).map f.clamp := by
  induction msgs using List.reverseRecOn with
  | nil => rfl
  | append_singleton msgs msg ih =>
    have hone : (registers A).writesTo f [msg] =
        ((if wellFormedFor f msg then (firstFloat A msg).map f.clamp else none)).toList := by
      rw [← writes_to_field]
      simp only [LastWriter.RegisterFile.writesTo, List.filterMap_cons, List.filterMap_nil]
      split <;> simp_all
    rw [LastWriter.RegisterFile.latest, LastWriter.RegisterFile.writesTo_append, hone,
      lastWellFormed, List.filter_append]
    by_cases hw : wellFormedFor f msg = true
    · obtain ⟨v, hv⟩ : ∃ v, firstFloat A msg = some v := by
        rw [← Option.isSome_iff_exists, firstFloat_isSome]
        simp only [wellFormedFor, Bool.and_eq_true] at hw
        exact hw.2
      simp [hw, hv]
    · simpa [hw, LastWriter.RegisterFile.latest, lastWellFormed] using ih

/-- Over a whole history a fresh builder's field is the last well-formed value. -/
theorem fieldValue_history (f : OscField) (msgs : List OscMessage) :
    fieldValue f (msgs.foldl (applyMessage A) .new).snapshot.1 = lastValue A f msgs := by
  have h : fieldValue f (msgs.foldl (applyMessage A) .new).snapshot.1 =
      ((registers A).latest f msgs).getD (initialValue f) := (registers A).get_run .new msgs f
  rw [h, latest_eq_lastWellFormed, lastValue]
  cases (lastWellFormed f msgs).bind (firstFloat A) <;> rfl

theorem unfed_history (msgs : List OscMessage) :
    unfed (msgs.foldl (applyMessage A) .new) = unfed .new :=
  unfed_foldl A .new msgs

/-- Only the order among messages of one address matters to the builder. -/
theorem foldl_eq_of_same_order (b : AudioFrameBuilder) {msgs msgs' : List OscMessage}
    (same : ∀ addr, msgs.filter (fun m => m.addr = addr) = msgs'.filter (fun m => m.addr = addr)) :
    msgs.foldl (applyMessage A) b = msgs'.foldl (applyMessage A) b := by
  have hunfed := (unfed_foldl A b msgs).trans (unfed_foldl A b msgs').symm
  simp only [unfed, Prod.mk.injEq] at hunfed
  refine builder_ext ?_ hunfed.1 hunfed.2.1 hunfed.2.2
  intro f
  refine (registers A).get_run_of_same_keys OscMessage.addr b (k := f.addr) ?_ (same f.addr)
  intro msg w hw hwf
  simp only [registers, Option.bind_eq_some_iff, Option.map_eq_some_iff] at hw
  obtain ⟨g, hg, v, _, rfl⟩ := hw
  rw [← hwf]
  exact ((fieldAt_eq_some_iff msg.addr g).mp hg).symm

/-- Every frame the listener returns holds the last well-formed value of each
field over all decodable datagrams so far; how the messages were grouped into
packets, and how messages of different addresses were interleaved, is lost. -/
theorem listener_last_writer_wins :
    (∀ (arrivals : List Arrival) (k : Nat), k < (decodedPackets decodeUdp arrivals).length →
      ∃ frame, (returnedFrames (listen A decodeUdp .new arrivals).2)[k]? = some frame ∧
        (∀ f, fieldValue f frame =
          lastValue A f (((decodedPackets decodeUdp arrivals).take (k + 1)).flatMap messages)) ∧
        frame.t = AudioFrameBuilder.new.t ∧ frame.beatPhase = AudioFrameBuilder.new.beatPhase ∧
        frame.fade = AudioFrameBuilder.new.fade) ∧
    (∀ arrivals arrivals' : List Arrival,
      (∀ addr, (received decodeUdp arrivals).filter (fun m => m.addr = addr) =
        (received decodeUdp arrivals').filter (fun m => m.addr = addr)) →
      (listen A decodeUdp .new arrivals).1 = (listen A decodeUdp .new arrivals').1) := by
  constructor
  · intro arrivals k hk
    refine ⟨_, by rw [returnedFrames_listen, List.getElem?_eq_getElem hk]; rfl, ?_⟩
    refine ⟨fun f => fieldValue_history A f _, ?_⟩
    have hunfed := unfed_history A
      (((decodedPackets decodeUdp arrivals).take (k + 1)).flatMap messages)
    simp only [unfed, Prod.mk.injEq] at hunfed
    exact hunfed
  · intro arrivals arrivals' same
    rw [listen_builder, listen_builder]
    exact foldl_eq_of_same_order A .new same

/-! ## Ranges over arbitrary runs -/

/-- The public operations of a builder, and a datagram dispatched into it. -/
inductive BuilderOp where
  | setT (t : F64)
  | setBpm (v : F32)
  | setBpmConfidence (v : F32)
  | setBeatPhase (v : F32)
  | setOnBeat (v : F32)
  | setLevel (band : Band) (v : F32)
  | setHit (band : Band) (v : F32)
  | setPresence (band : Band) (v : F32)
  | setIntensity (v : F32)
  | setFade (v : F32)
  | snapshot
  | dispatch (bytes : List UInt8)

/-- The builder after one operation, and the frame if it was a snapshot. -/
def applyOp (b : AudioFrameBuilder) : BuilderOp → AudioFrameBuilder × Option AudioFrame
  | .setT t => (b.setT t, none)
  | .setBpm v => (b.setBpm v, none)
  | .setBpmConfidence v => (b.setBpmConfidence v, none)
  | .setBeatPhase v => (b.setBeatPhase v, none)
  | .setOnBeat v => (b.setOnBeat v, none)
  | .setLevel band v => (b.setLevel band v, none)
  | .setHit band v => (b.setHit band v, none)
  | .setPresence band v => (b.setPresence band v, none)
  | .setIntensity v => (b.setIntensity v, none)
  | .setFade v => (b.setFade v, none)
  | .snapshot => (b.snapshot.2, some b.snapshot.1)
  | .dispatch bytes => ((dispatchPacket A decodeUdp bytes b).1, none)

/-- The builder after a run, and every frame snapshotted on the way. -/
def runOps : AudioFrameBuilder → List BuilderOp → AudioFrameBuilder × List AudioFrame
  | b, [] => (b, [])
  | b, op :: rest =>
    let (b, frame) := applyOp A decodeUdp b op
    let (b, frames) := runOps b rest
    (b, frame.toList ++ frames)

theorem set_safe {b : AudioFrameBuilder} (h : b.Safe) (f : OscField) (v : F32) :
    (f.set b v).Safe := by
  cases f with
  | level band => exact AudioFrameBuilder.setLevel_safe h band v
  | hit band => exact AudioFrameBuilder.setHit_safe h band v
  | presence band => exact AudioFrameBuilder.setPresence_safe h band v
  | onBeat => exact AudioFrameBuilder.setOnBeat_safe h v
  | bpm => exact AudioFrameBuilder.setBpm_safe h v
  | bpmConfidence => exact AudioFrameBuilder.setBpmConfidence_safe h v
  | intensity => exact AudioFrameBuilder.setIntensity_safe h v

theorem applyMessage_safe {b : AudioFrameBuilder} (h : b.Safe) (msg : OscMessage) :
    (applyMessage A b msg).Safe := by
  rw [applyMessage_eq]
  split
  · exact set_safe h _ _
  · exact h

theorem foldl_safe {b : AudioFrameBuilder} (h : b.Safe) (msgs : List OscMessage) :
    (msgs.foldl (applyMessage A) b).Safe := by
  induction msgs generalizing b with
  | nil => exact h
  | cons msg rest ih => exact ih (applyMessage_safe A h msg)

theorem dispatchPacket_safe {b : AudioFrameBuilder} (h : b.Safe) (bytes : List UInt8) :
    (dispatchPacket A decodeUdp bytes b).1.Safe := by
  unfold dispatchPacket
  split
  · exact h
  · rw [applyPacket_eq_foldl]
    exact foldl_safe A h _

theorem applyOp_safe {b : AudioFrameBuilder} (h : b.Safe) (op : BuilderOp) :
    (applyOp A decodeUdp b op).1.Safe := by
  cases op with
  | setT t => exact AudioFrameBuilder.setT_safe h t
  | setBpm v => exact AudioFrameBuilder.setBpm_safe h v
  | setBpmConfidence v => exact AudioFrameBuilder.setBpmConfidence_safe h v
  | setBeatPhase v => exact AudioFrameBuilder.setBeatPhase_safe h v
  | setOnBeat v => exact AudioFrameBuilder.setOnBeat_safe h v
  | setLevel band v => exact AudioFrameBuilder.setLevel_safe h band v
  | setHit band v => exact AudioFrameBuilder.setHit_safe h band v
  | setPresence band v => exact AudioFrameBuilder.setPresence_safe h band v
  | setIntensity v => exact AudioFrameBuilder.setIntensity_safe h v
  | setFade v => exact AudioFrameBuilder.setFade_safe h v
  | snapshot => exact h
  | dispatch bytes => exact dispatchPacket_safe A decodeUdp h bytes

theorem applyOp_frame {b : AudioFrameBuilder} (h : b.Safe) {op : BuilderOp} {frame : AudioFrame}
    (hframe : (applyOp A decodeUdp b op).2 = some frame) : InRange frame := by
  cases op with
  | snapshot =>
    obtain rfl := Option.some.inj hframe
    exact h
  | _ => cases hframe

theorem runOps_safe {b : AudioFrameBuilder} (h : b.Safe) (ops : List BuilderOp) :
    (runOps A decodeUdp b ops).1.Safe ∧ ∀ frame ∈ (runOps A decodeUdp b ops).2, InRange frame := by
  induction ops generalizing b with
  | nil => exact ⟨h, by simp [runOps]⟩
  | cons op rest ih =>
    obtain ⟨hb, hframes⟩ := ih (applyOp_safe A decodeUdp h op)
    refine ⟨hb, ?_⟩
    intro frame hmem
    simp only [runOps, List.mem_append, Option.mem_toList] at hmem
    rcases hmem with hnow | hlater
    · exact applyOp_frame A decodeUdp h hnow
    · exact hframes frame hlater

/-- Whatever is set, dispatched and snapshotted, every frame stays in range, and
a snapshot leaves the builder as it was. -/
theorem snapshots_in_range (ops : List BuilderOp) :
    (∀ frame ∈ (runOps A decodeUdp .new ops).2, InRange frame) ∧
    InRange (runOps A decodeUdp .new ops).1.snapshot.1 ∧
    (runOps A decodeUdp .new ops).1.snapshot.2 = (runOps A decodeUdp .new ops).1 := by
  obtain ⟨hb, hframes⟩ := runOps_safe A decodeUdp AudioFrameBuilder.new_safe ops
  exact ⟨hframes, hb, rfl⟩

end IngressHistory
