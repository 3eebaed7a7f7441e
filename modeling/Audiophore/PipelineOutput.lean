import Audiophore.PipelineRuns

/-!
# What the strip shows

Every render tick of `audiophore run` fills the strip with one colour. The colour is a
function of the last well-formed values received before the tick, whatever else arrived
and however the ticks and the datagrams were interleaved.
-/

namespace PipelineOutput

open ExtendedFloat AudiophoreCore FrameBuilder RustExec ListChunks AdapterCore MappingM1
open OscIngress OscRegisters IngressHistory SacnPacket SacnReceiver SacnOutput SacnRender
open AdapterGuarantees CliUniverses SnapshotRegister StepRuns EngineBus EngineRuns
open RunPipeline PipelineRuns

variable (timer : Timer) (A : F32Arith)

/-! ## The colour of the strip -/

/-- The bytes of every pixel, from the messages received. -/
def stripBytes (msgs : List OscMessage) : List UInt8 :=
  let encoded := fun band => gammaEncode A (channel A (lastValue A (.level band) msgs)
    (lastValue A .intensity msgs) (lastValue A .onBeat msgs))
  [encoded .bass, encoded .mid, encoded .high]

/-- The listener's frame after `heard`. -/
def audioHeard (heard : List OscPacket) : AudioFrame :=
  ((heard.flatMap messages).foldl (applyMessage A) .new).snapshot.1

theorem flatMap_buildStripPixels (heard : List OscPacket) (count : Nat) :
    (buildStripPixels A (audioHeard A heard) count).flatMap (pixelBytes A) =
      (List.replicate count (stripBytes A (heard.flatMap messages))).flatten := by
  have hrange : InRange (audioHeard A heard) :=
    foldl_safe A AudioFrameBuilder.new_safe (heard.flatMap messages)
  have hvalue := fun f => fieldValue_history A f (heard.flatMap messages)
  have hbass : (audioHeard A heard).levels.bass = _ := hvalue (.level .bass)
  have hmid : (audioHeard A heard).levels.mid = _ := hvalue (.level .mid)
  have hhigh : (audioHeard A heard).levels.high = _ := hvalue (.level .high)
  have hbeat : (audioHeard A heard).onBeat = _ := hvalue .onBeat
  have hintensity : (audioHeard A heard).intensity = _ := hvalue .intensity
  rw [buildStripPixels_of_within A hrange.intensity hrange.onBeat, List.flatMap_replicate,
    hbass, hmid, hhigh, hbeat, hintensity]
  rfl

/-! ## The frame of a tick -/

/-- What the bus holds once `heard` has been decoded. -/
def frameHeard (args : RunArgs) : List OscPacket → ResolvedFrame
  | [] => .default
  | packet :: later =>
    mapM1 A (audioHeard A (packet :: later)) (zonesOf args) (UInt64.ofNat later.length)

theorem firstPixels_default (order : IterOrder) : firstPixels .default order = none := by
  have hentries : order.arrange [] = [] := List.perm_nil.mp (order.perm [])
  change ((order.arrange []).map Sigma.snd).findSome? pixelsOf = none
  rw [hentries]
  rfl

theorem firstPixels_mapM1 (args : RunArgs) (audio : AudioFrame) (tick : UInt64)
    (order : IterOrder) :
    firstPixels (mapM1 A audio (zonesOf args) tick) order =
      some (buildStripPixels A audio args.pixels.toNat) := by
  rw [firstPixels, zonesOf, values_mapM1_strip]
  rfl

variable {timer A}

/-- The register holds the frame of the packets decoded so far. -/
theorem valueAfter_published {decodeUdp : Decoder} {args : RunArgs} {heard : List OscPacket}
    {arrivals : List Arrival} (h : heard <+: decodedPackets decodeUdp arrivals) :
    valueAfter .default (publishedFrames (setupOf timer A args)
      (returnedFrames (listen A decodeUdp .new arrivals).2)) heard.length =
        frameHeard A args heard := by
  cases heard with
  | nil => rfl
  | cons packet later =>
    have htake := List.prefix_iff_eq_take.mp h
    have hlt : later.length < (decodedPackets decodeUdp arrivals).length := h.length_le
    have hframe : (returnedFrames (listen A decodeUdp .new arrivals).2)[later.length]? =
        some (audioHeard A (packet :: later)) := by
      rw [returnedFrames_listen, List.getElem?_eq_getElem hlt, ← List.length_cons, ← htake]
      rfl
    simp only [List.length_cons, valueAfter, List.getD_eq_getElem?_getD, publishedFrames,
      List.getElem?_mapIdx, hframe, Option.map_some, Option.getD_some]
    rfl

variable {decodeUdp : Decoder} {args : RunArgs} {a₀ : SacnAdapter} {es : List PipelineEvent}
  {fs : List (EngineEvent fun _ : Unit => Answers)} {p : Pipeline}

/-- The `j`-th render that returned was given the frame of what its tick had heard. -/
theorem frame_of_tick (h : History timer A decodeUdp args a₀ es fs p) {j : Nat}
    {frame : Read ResolvedFrame} (hframe : (completed (p.engine.tasks ()))[j]? = some frame) :
    ∃ heard, (heardAtTicks decodeUdp [] es)[j]? = some heard ∧
      frame.value = frameHeard A args heard := by
  have hconsistent := h.engine.consistent ()
  obtain ⟨later, hlater⟩ := hconsistent.held.isPrefix
  have hrender : (renders (p.engine.tasks ()).calls)[j]? = some frame := by
    rw [← hlater, List.getElem?_append_left (List.getElem?_eq_some_iff.mp hframe).1]
    exact hframe
  have hseen : ((heardAtTicks decodeUdp [] es).map List.length)[j]? = some frame.seen := by
    rw [← h.seen_eq, ← h.engine.seen_eq (), List.getElem?_map, hrender]
    rfl
  rw [List.getElem?_map, Option.map_eq_some_iff] at hseen
  obtain ⟨heard, hheard, hlength⟩ := hseen
  have hprefix : heard <+: decodedPackets decodeUdp (arrivals es) :=
    isPrefix_of_heardAtTicks decodeUdp (List.mem_of_getElem? hheard)
  refine ⟨heard, hheard, ?_⟩
  rw [hconsistent.observed.current frame (List.mem_of_getElem? hrender), h.engine.published_eq,
    h.frames_eq, ← hlength]
  exact valueAfter_published hprefix

/-! ## The packets of a tick -/

/-- What a receiver reads from the packets of one render. -/
theorem read_packets {a : SacnAdapter} (h : Acceptable a.universes a.priority)
    (pixels : List Rgb) : ∃ received : List Received,
      (packets A a pixels).map (fun d => decode d.bytes) = received.map some ∧
      received.map Received.univ = a.universes.map UInt16.toNat ∧
      (∀ r ∈ received, r.sequence = a.sequence.toNat) ∧
      received.flatMap Received.slots =
        (pixels.take (a.universes.length * maxRgbPixelsPerUniverse)).flatMap (pixelBytes A) := by
  have hlength : a.universes.length = (slotBuffers A pixels a.universes.length).length :=
    (length_slotBuffers A pixels a.universes.length).symm
  refine ⟨(a.universes.zip (slotBuffers A pixels a.universes.length)).map fun pair =>
    readBack a.builder pair.1 a.sequence a.priority pair.2, ?_, ?_, ?_, ?_⟩
  · rw [packets, List.map_map, List.map_map]
    refine List.map_congr_left fun pair hpair => ?_
    exact decode_dataPacket a.builder pair.1 a.sequence a.priority pair.2
      (encodable_pairs A h pixels hpair).2.2
  · rw [List.map_map]
    calc _ = ((a.universes.zip (slotBuffers A pixels a.universes.length)).map Prod.fst).map
          UInt16.toNat := by
          rw [List.map_map]
          rfl
      _ = _ := by rw [List.map_fst_zip hlength.le]
  · intro r hr
    obtain ⟨pair, -, rfl⟩ := List.mem_map.mp hr
    rfl
  · rw [List.flatMap_map, ← flatten_slotBuffers]
    calc _ = ((a.universes.zip (slotBuffers A pixels a.universes.length)).map
          Prod.snd).flatten := by
          rw [← List.flatMap_def]
          rfl
      _ = _ := by rw [List.map_snd_zip hlength.ge]

/-- What a tick that had heard `heard` puts on the wire, after `earlier` ticks that sent
something. -/
structure TickShows (A : F32Arith) (args : RunArgs) (heard : List OscPacket) (earlier : Nat)
    (batch : List Datagram) : Prop where
  dark : heard = [] → batch = []
  lit : heard ≠ [] → ∃ received : List Received,
    batch.map (fun d => decode d.bytes) = received.map some ∧
    received.map Received.univ = (List.range (universeCount args.pixels.toNat)).map
      (fun i => args.startUniverse.toNat + i) ∧
    (∀ r ∈ received, r.sequence = earlier % 256) ∧
    received.flatMap Received.slots =
      (List.replicate args.pixels.toNat (stripBytes A (heard.flatMap messages))).flatten

theorem tickShows_of_batch {rate : Duration} {freshCid : Uuid} {heard : List OscPacket}
    {earlier : Nat} {batch : List Datagram}
    (built : (adapterBuilder args rate).build freshCid = .ok (.ok a₀))
    (h : Batch A a₀ (frameHeard A args heard) earlier batch) :
    TickShows A args heard earlier batch := by
  obtain ⟨haccept, huniverses, -⟩ := built_spec built
  have hlist : Acceptable (universesFor args.pixels args.startUniverse) defaultPriority :=
    acceptable_of_build built
  have hunivs : a₀.universes = universesFor args.pixels args.startUniverse := huniverses
  cases heard with
  | nil =>
    constructor
    · intro _
      exact h.dark firstPixels_default
    · intro hne
      exact absurd rfl hne
  | cons packet later =>
    constructor
    · intro hnil
      cases hnil
    intro _
    have hbatch := h.lit _ (firstPixels_mapM1 A args _ _)
    obtain ⟨received, hdecode, huniv, hsequence, hslots⟩ := read_packets (A := A)
      (a := { a₀ with sequence := UInt8.ofNat earlier }) haccept
      (buildStripPixels A (audioHeard A (packet :: later)) args.pixels.toNat)
    refine ⟨received, ?_, ?_, ?_, ?_⟩
    · rw [hbatch]
      exact hdecode
    · rw [huniv, hunivs]
      exact toNat_universesFor hlist
    · intro r hr
      rw [hsequence r hr]
      exact UInt8.toNat_ofNat'
    · have hcount : (buildStripPixels A (audioHeard A (packet :: later))
          args.pixels.toNat).length = args.pixels.toNat := List.length_replicate
      have htight := (universeCount_tight args.pixels.toNat).2
      have hmax : maxRgbPixelsPerUniverse = 170 := rfl
      rw [hslots, ← flatMap_buildStripPixels, List.take_of_length_le]
      rw [hcount, hunivs, length_universesFor, hmax]
      omega

/-! ## The whole run -/

/-- In every interleaving of datagrams and render ticks without a failing send, each
render tick shows the last well-formed values of what was heard before it. -/
theorem ticks_show_last_values (A : F32Arith) (A64 : Arithmetic ℚ) (decodeUdp : Decoder)
    {args : RunArgs} {rate : Duration} {freshCid : Uuid} {adapter : SacnAdapter}
    (paced : renderRate A64 args = .ok rate)
    (built : (adapterBuilder args rate).build freshCid = .ok (.ok adapter)) :
    ∃ start, startPipeline A64 args freshCid = .ok (.ok start) ∧
      ∀ es p, exec (pipelineStep timer A decodeUdp args) start es = some p →
        (∀ env, .task (.rendered env) ∈ es → ∀ i, env.send i = .ok ()) →
        let wire := (p.engine.tasks ()).adapter.wire
        wire.length = es.countP PipelineEvent.isRendered ∧
        ∀ j batch, wire[j]? = some batch →
          ∃ heard, (heardAtTicks decodeUdp [] es)[j]? = some heard ∧
            TickShows A args heard (sendingTicks (wire.take j)) batch := by
  refine ⟨_, by simp only [startPipeline, paced, built, ok_bind]; rfl, ?_⟩
  intro es p run succeed wire
  obtain ⟨haccept, -⟩ := built_spec built
  obtain ⟨fs, h⟩ := history_of_run haccept (history_start .binding built) run succeed
  constructor
  · rw [h.task.shown.length_eq, List.length_map]
    exact h.length_eq
  · intro j batch hbatch
    have hj : j < (completed (p.engine.tasks ())).length := by
      have hlt : j < wire.length := (List.getElem?_eq_some_iff.mp hbatch).1
      rwa [h.task.shown.length_eq, List.length_map] at hlt
    have hframe := List.getElem?_eq_getElem hj
    obtain ⟨heard, hheard, hvalue⟩ := frame_of_tick h hframe
    refine ⟨heard, hheard, tickShows_of_batch built ?_⟩
    refine h.task.shown.batches j _ batch ?_ hbatch
    rw [List.getElem?_map, hframe, Option.map_some, hvalue]

/-- Two pixels at one tick a second. -/
def stripArgs : RunArgs where
  oscPort := 9000
  oscBind := .v4 ⟨[0, 0, 0, 0], rfl⟩
  sacnHost := loopbackBuilder.targetHost
  sacnPort := 5568
  pixels := 2
  startUniverse := 7
  zoneId := "strip"
  fps := 1

/-- Every datagram is one bundle that turns the bass up. -/
def bassDecoder : Decoder := fun _ => .ok (.bundle ⟨0, 1⟩
  [.message ⟨"/audio/level/bass", [.float (.fin 1)]⟩,
    .message ⟨"/audio/energy/intensity", [.int 1]⟩])

def calmAnswers : Answers := ⟨.ok ⟨40000⟩, .asStored, fun _ => .ok ()⟩

def shortRun : List PipelineEvent :=
  [.bound (.ok ()) (.ok ⟨.v4 ⟨[0, 0, 0, 0], rfl⟩, 9000⟩), .task .start, .arrival (.ok []),
    .task (.connected calmAnswers), .task .tick, .task (.rendered calmAnswers)]

theorem ticks_show_last_values_strip :
    ∃ start p, startPipeline (.exact ℚ) stripArgs zeroCid = .ok (.ok start) ∧
      exec (pipelineStep clock64 (.exact ℚ) bassDecoder stripArgs) start shortRun = some p ∧
      ∃ batch heard, (p.engine.tasks ()).adapter.wire[0]? = some batch ∧
        (heardAtTicks bassDecoder [] shortRun)[0]? = some heard ∧
        TickShows (.exact ℚ) stripArgs heard 0 batch := by
  have rounds : ∀ x : ℚ, 0 ≤ x → x ≤ 1 → ((Arithmetic.exact ℚ).round x).Within 0 1 := by
    intro x hlow hhigh
    exact ⟨x, rfl, hlow, hhigh⟩
  obtain ⟨rate, paced⟩ := renderRate_ok rounds stripArgs
  have haccept : Acceptable (adapterBuilder stripArgs rate).universes
      (adapterBuilder stripArgs rate).priority :=
    (acceptable_universesFor_iff 2 7).mpr (by decide)
  obtain ⟨adapter, built, -⟩ := build_accepts haccept zeroCid
  obtain ⟨start, started, shows⟩ :=
    ticks_show_last_values (.exact ℚ) (.exact ℚ) bassDecoder paced built
  have ran : ((startPipeline (.exact ℚ) stripArgs zeroCid).toOption.bind Except.toOption).any
      (fun start =>
        (exec (pipelineStep clock64 (.exact ℚ) bassDecoder stripArgs) start shortRun).isSome) =
        true := by decide +kernel
  rw [started] at ran
  obtain ⟨p, run⟩ := Option.isSome_iff_exists.mp (show _ = true from ran)
  obtain ⟨hlength, hticks⟩ := shows shortRun p run (by simp [shortRun, calmAnswers])
  have hrendered : 0 < (p.engine.tasks ()).adapter.wire.length := by
    rw [hlength]
    decide
  obtain ⟨heard, hheard, hshows⟩ := hticks 0 _ (List.getElem?_eq_getElem hrendered)
  exact ⟨start, p, started, run, _, heard, List.getElem?_eq_getElem hrendered, hheard, hshows⟩

end PipelineOutput
