import Audiophore.Brightness
import Audiophore.PipelineScreens

/-!
# The messages that drive the strip

Five addresses reach the wire: three band levels, the intensity and the beat. All other
messages of all datagrams could be left out or be replaced, and not one byte sent would
change.
-/

namespace DrivingMessages

open ExtendedFloat AudiophoreCore FrameBuilder RustExec MappingM1 OscIngress IngressHistory
open SacnPacket SacnOutput SacnRender AdapterGuarantees StepRuns EngineBus EngineRuns RunPipeline
open PipelineRuns PipelineOutput PipelineProjections Brightness Screens ReceiverScreens
open PipelineScreens

/-- The fields that the mapping reads. -/
def driving : List OscField := [.level .bass, .level .mid, .level .high, .intensity, .onBeat]

/-- A message that sets one of them. -/
def drives (msg : OscMessage) : Bool := driving.any fun f => wellFormedFor f msg

/-- What the mapping reads of a builder's snapshot. -/
def driveOf (b : AudioFrameBuilder) : F64 × F32 × F32 × F32 × F32 × F32 :=
  (b.t, b.levels.bass, b.levels.mid, b.levels.high, b.intensity, b.onBeat)

variable (timer : Timer) (A : F32Arith)

theorem mapM1_of_drive {b b' : AudioFrameBuilder} (same : driveOf b = driveOf b')
    (zones : List Zone) (tick : UInt64) :
    mapM1 A b.snapshot.1 zones tick = mapM1 A b'.snapshot.1 zones tick := by
  simp only [driveOf, Prod.mk.injEq] at same
  obtain ⟨ht, hbass, hmid, hhigh, hintensity, hbeat⟩ := same
  simp only [mapM1, buildStripPixels, AudioFrameBuilder.snapshot, ht, hbass, hmid, hhigh,
    hintensity, hbeat]

/-! ## The builder -/

/-- Setting any other field leaves the drive alone. -/
theorem driveOf_set {f : OscField} (h : f ∉ driving) (b : AudioFrameBuilder) (v : F32) :
    driveOf (f.set b v) = driveOf b := by
  cases f with
  | level band =>
    cases band with
    | whole | midHigh => rfl
    | bass | mid | high => exact absurd (by decide) h
  | intensity | onBeat => exact absurd (by decide) h
  | _ => rfl

/-- A set value does not depend on the fields that are not read. -/
theorem driveOf_set_congr (f : OscField) {b b' : AudioFrameBuilder}
    (same : driveOf b = driveOf b') (v : F32) : driveOf (f.set b v) = driveOf (f.set b' v) := by
  by_cases hf : f ∈ driving
  · simp only [driveOf, Prod.mk.injEq] at same
    obtain ⟨ht, hbass, hmid, hhigh, hintensity, hbeat⟩ := same
    simp only [driving, List.mem_cons, List.not_mem_nil, or_false] at hf
    rcases hf with rfl | rfl | rfl | rfl | rfl <;>
      simp only [driveOf, OscField.set, AudioFrameBuilder.setLevel,
        AudioFrameBuilder.setIntensity, AudioFrameBuilder.setOnBeat, setBand, ht, hbass, hmid,
        hhigh, hintensity, hbeat]
  · rw [driveOf_set hf, driveOf_set hf, same]

theorem driveOf_applyMessage {msg : OscMessage} (h : drives msg = false)
    (b : AudioFrameBuilder) : driveOf (applyMessage A b msg) = driveOf b := by
  rw [applyMessage_eq]
  split
  · rename_i f v hfield hfloat
    refine driveOf_set ?_ b v
    intro hf
    have hwell : wellFormedFor f msg = true := by
      rw [wellFormedFor_eq A, hfloat, ((fieldAt_eq_some_iff msg.addr f).mp hfield)]
      simp
    exact absurd (List.any_eq_true.mpr ⟨f, hf, hwell⟩) (by simpa [drives] using h)
  · rfl

theorem driveOf_applyMessage_congr {b b' : AudioFrameBuilder} (same : driveOf b = driveOf b')
    (msg : OscMessage) : driveOf (applyMessage A b msg) = driveOf (applyMessage A b' msg) := by
  rw [applyMessage_eq, applyMessage_eq]
  split
  · exact driveOf_set_congr _ same _
  · exact same

/-- Only the driving messages count. -/
theorem driveOf_foldl {msgs msgs' : List OscMessage} {b b' : AudioFrameBuilder}
    (same : driveOf b = driveOf b') (hmsgs : msgs.filter drives = msgs'.filter drives) :
    driveOf (msgs.foldl (applyMessage A) b) = driveOf (msgs'.foldl (applyMessage A) b') := by
  have hfilter : ∀ (msgs : List OscMessage) {b b' : AudioFrameBuilder}, driveOf b = driveOf b' →
      driveOf (msgs.foldl (applyMessage A) b) =
        driveOf ((msgs.filter drives).foldl (applyMessage A) b') := by
    intro msgs
    induction msgs with
    | nil => exact fun same => same
    | cons msg msgs ih =>
      intro b b' same
      cases hdrives : drives msg with
      | false =>
        rw [List.filter_cons_of_neg (by simp [hdrives])]
        exact ih ((driveOf_applyMessage A hdrives b).trans same)
      | true =>
        rw [List.filter_cons_of_pos hdrives]
        exact ih (driveOf_applyMessage_congr A same msg)
  rw [hfilter msgs same, hmsgs, ← hfilter msgs' rfl]

/-! ## The pipeline -/

/-- Two events that drive the strip alike: datagrams may differ in everything but the driving
messages, and both be malformed. -/
inductive SameDrive (decodeUdp : Decoder) : PipelineEvent → PipelineEvent → Prop where
  | other {e} : PipelineEvent.arrived e = none → SameDrive decodeUdp e e
  | malformed {arrival arrival'} : packetOf decodeUdp arrival = none →
      packetOf decodeUdp arrival' = none →
      SameDrive decodeUdp (.arrival arrival) (.arrival arrival')
  | heard {arrival arrival' packet packet'} : packetOf decodeUdp arrival = some packet →
      packetOf decodeUdp arrival' = some packet' →
      (messages packet).filter drives = (messages packet').filter drives →
      SameDrive decodeUdp (.arrival arrival) (.arrival arrival')

/-- Two pipelines that only differ in what nobody reads. -/
structure Alike (p q : Pipeline) : Prop where
  main_eq : p.main = q.main
  engine_eq : p.engine = q.engine
  drive_eq : driveOf p.builder = driveOf q.builder

variable {timer A} {decodeUdp : Decoder} {args : RunArgs}

theorem produce_error (engine : Engine fun _ : Unit => Host)
    {outcome : Except IngressError AudioFrame} (h : outcome.toOption = none) :
    produce (setupOf timer A args) engine outcome = engine := by
  cases outcome with
  | error e => rfl
  | ok frame => cases h

theorem Alike.arrival {p q p' : Pipeline} {arrival arrival' : Arrival} (h : Alike p q)
    (same : SameDrive decodeUdp (.arrival arrival) (.arrival arrival'))
    (hstep : pipelineStep timer A decodeUdp args p (.arrival arrival) = some p') :
    ∃ q', pipelineStep timer A decodeUdp args q (.arrival arrival') = some q' ∧ Alike p' q' := by
  obtain ⟨main, builder, engine⟩ := q
  obtain ⟨rfl, rfl, hdrive⟩ := h
  cases steps_of_pipelineStep hstep with
  | received hmain =>
    refine ⟨{ main := p.main, builder := (recv A decodeUdp builder arrival').1,
              engine := produce (setupOf timer A args) p.engine
                (recv A decodeUdp builder arrival').2 },
      by rw [hmain]; rfl, rfl, ?_, ?_⟩
    · cases same with
      | other hnone => cases hnone
      | malformed hnone hnone' =>
        rw [produce_error _ (recv_undecodable A decodeUdp hnone p.builder).2,
          produce_error _ (recv_undecodable A decodeUdp hnone' builder).2]
      | heard hpacket hpacket' hmsgs =>
        have hframe := mapM1_of_drive (setupOf timer A args).arith (driveOf_foldl A hdrive hmsgs)
          (setupOf timer A args).zones p.engine.tick
        rw [(recv_decodable A decodeUdp hpacket p.builder).2,
          (recv_decodable A decodeUdp hpacket' builder).2]
        simp only [produce, hframe]
    · cases same with
      | other hnone => cases hnone
      | malformed hnone hnone' =>
        rw [(recv_undecodable A decodeUdp hnone p.builder).1,
          (recv_undecodable A decodeUdp hnone' builder).1]
        exact hdrive
      | heard hpacket hpacket' hmsgs =>
        rw [(recv_decodable A decodeUdp hpacket p.builder).1,
          (recv_decodable A decodeUdp hpacket' builder).1]
        exact driveOf_foldl A hdrive hmsgs

theorem Alike.step {p q p' : Pipeline} {e e' : PipelineEvent} (h : Alike p q)
    (same : SameDrive decodeUdp e e') (hstep : pipelineStep timer A decodeUdp args p e = some p') :
    ∃ q', pipelineStep timer A decodeUdp args q e' = some q' ∧ Alike p' q' := by
  cases same with
  | malformed hnone hnone' => exact h.arrival (.malformed hnone hnone') hstep
  | heard hpacket hpacket' hmsgs => exact h.arrival (.heard hpacket hpacket' hmsgs) hstep
  | other hother =>
    obtain ⟨main, builder, engine⟩ := q
    obtain ⟨rfl, rfl, hdrive⟩ := h
    cases steps_of_pipelineStep hstep with
    | bindFailed hmain | addrFailed hmain | listening hmain | stopped hmain
    | unstoppable hmain =>
      refine ⟨_, by rw [hmain]; rfl, ?_⟩
      exact ⟨rfl, rfl, hdrive⟩
    | received hmain => cases hother
    | @resumed event engine hrunning hevent hengine =>
      refine ⟨{ main := p.main, builder := builder, engine := engine }, ?_, rfl, rfl, hdrive⟩
      obtain ⟨main, builder', engine'⟩ := p
      cases main with
      | returned result => exact absurd rfl (hrunning result)
      | _ => cases event <;> first | exact absurd rfl hevent | simp [pipelineStep, hengine]

/-- Messages that leave the intensity and the beat at zero. -/
def Idle (A : F32Arith) (msgs : List OscMessage) : Prop :=
  ∀ f ∈ [OscField.intensity, .onBeat], ∀ msg ∈ msgs, wellFormedFor f msg = true →
    (firstFloat A msg).map f.clamp = some (.fin 0)

theorem lastValue_of_idle {msgs : List OscMessage} (idle : Idle A msgs) {f : OscField}
    (hf : f ∈ [OscField.intensity, .onBeat]) : lastValue A f msgs = .fin 0 := by
  rw [lastValue]
  cases hlast : lastWellFormed f msgs with
  | none =>
    simp only [List.mem_cons, List.not_mem_nil, or_false] at hf
    rcases hf with rfl | rfl <;> rfl
  | some msg =>
    obtain ⟨hmem, hwell⟩ := List.mem_filter.mp (List.mem_of_getLast? hlast)
    obtain ⟨v, hv, hzero⟩ := Option.map_eq_some_iff.mp (idle f hf msg hmem hwell)
    simp only [Option.bind_some, hv, hzero]

theorem lastValue_level (band : Band) (msgs : List OscMessage) :
    InUnit (lastValue A (.level band) msgs) := by
  rw [lastValue]
  split
  · exact clampUnit_inUnit _
  · cases band <;> exact ⟨0, rfl, le_rfl, zero_le_one⟩

/-- Without intensity and beat a level makes no light. -/
theorem channel_dark (hA : A.Rounding) {level : F32} (hlevel : InUnit level) :
    channel A level (.fin 0) (.fin 0) = .fin 0 := by
  obtain ⟨x, rfl, -⟩ := hlevel
  have hzero : A.round 0 = .fin 0 := by simpa using hA.nat 0 (by decide)
  obtain ⟨y, hy, -⟩ : (A.lit (3 / 10)).Within 0 1 := hA.unit (by norm_num) (by norm_num)
  have hclamp : clamp01 (.fin 0) = .fin 0 :=
    Flt.clamp_of_within ⟨0, rfl, le_rfl, zero_le_one⟩
  simp only [channel, hy, Arithmetic.mul, mul_zero, hzero, Arithmetic.add, add_zero, hclamp]

theorem gammaEncode_dark (hA : A.Rounding) (hpow : A.powf (.fin 0) (gammaExponent A) = .fin 0) :
    gammaEncode A (.fin 0) = 0 := by
  have hzero : A.round 0 = .fin 0 := by simpa using hA.nat 0 (by decide)
  have h255 : A.lit 255 = .fin 255 := by simpa [Arithmetic.lit] using hA.nat 255 le_rfl
  have hhalf : ⌊(0 : ℚ) + 1 / 2⌋ = 0 := by norm_num [Int.floor_eq_iff]
  rw [gammaEncode_of_within ⟨0, rfl, le_rfl, zero_le_one⟩, hpow, h255, Arithmetic.mul, zero_mul,
    hzero, Flt.toU8_roundHalfAway le_rfl, hhalf]
  rfl

theorem stripBytes_dark (hA : A.Rounding) (hpow : A.powf (.fin 0) (gammaExponent A) = .fin 0)
    {msgs : List OscMessage} (idle : Idle A msgs) : stripBytes A msgs = [0, 0, 0] := by
  have hlevel := fun band => channel_dark hA (lastValue_level (A := A) band msgs)
  simp only [stripBytes, lastValue_of_idle idle (f := .intensity) (by simp),
    lastValue_of_idle idle (f := .onBeat) (by simp), hlevel, gammaEncode_dark hA hpow]

/-- As long as no sender raises the intensity or the beat, the levels light nothing: in every
run, whatever else arrives and whatever sends fail, every slot of every packet is zero. -/
theorem dark_until_driven (hA : A.Rounding)
    (hpow : A.powf (.fin 0) (gammaExponent A) = .fin 0) {A64 : Arithmetic ℚ} {freshCid : Uuid}
    {start p : Pipeline} (started : startPipeline A64 args freshCid = .ok (.ok start))
    {es : List PipelineEvent} (run : exec (pipelineStep timer A decodeUdp args) start es = some p)
    (idle : Idle A (received decodeUdp (arrivals es))) :
    ∀ packet ∈ packetsOf (p.engine.tasks ()).adapter.wire.flatten, ∀ b ∈ packet.block, b = 0 := by
  obtain ⟨calls, heards, h⟩ := exists_tape started run
  intro packet hpacket b hb
  obtain ⟨heard, hheard, hbyte⟩ := h.slot hpacket hb
  obtain ⟨later, hlater⟩ := isPrefix_of_heardAtTicks decodeUdp hheard
  have hidle : Idle A (heard.flatMap messages) := by
    intro f hf msg hmsg
    refine idle f hf msg ?_
    rw [received, ← List.nil_append (decodedPackets _ _), ← hlater, List.flatMap_append]
    exact List.mem_append_left _ hmsg
  rw [stripBytes_dark hA hpow hidle] at hbyte
  simpa using hbyte

/-- A sender that only turns the bass up. -/
def levelDecoder : Decoder := fun _ =>
  .ok (.message ⟨"/audio/level/bass", [.float (.fin 1)]⟩)

theorem dark_until_driven_level : ∃ start p,
    startPipeline (.exact ℚ) stripArgs zeroCid = .ok (.ok start) ∧
      exec (pipelineStep clock64 (.exact ℚ) levelDecoder stripArgs) start shortRun = some p ∧
      ∀ packet ∈ packetsOf (p.engine.tasks ()).adapter.wire.flatten, ∀ b ∈ packet.block, b = 0 := by
  obtain ⟨start, p, started, run⟩ : ∃ start p,
      startPipeline (.exact ℚ) stripArgs zeroCid = .ok (.ok start) ∧
        exec (pipelineStep clock64 (.exact ℚ) levelDecoder stripArgs) start shortRun = some p :=
    exists_run (by decide +kernel)
  have idle : Idle (.exact ℚ) (received levelDecoder (arrivals shortRun)) := by
    have hreceived : received levelDecoder (arrivals shortRun) =
        [⟨"/audio/level/bass", [.float (.fin 1)]⟩] := rfl
    rw [hreceived]
    intro f hf msg hmsg hwell
    obtain rfl := List.mem_singleton.mp hmsg
    simp only [List.mem_cons, List.not_mem_nil, or_false] at hf
    rcases hf with rfl | rfl <;> exact absurd hwell (by decide +kernel)
  exact ⟨start, p, started, run,
    dark_until_driven (Arithmetic.rounding_of_exact (.exact ℚ) rfl) rfl started run idle⟩

end DrivingMessages
