import Audiophore.PipelineProjections
import Audiophore.ReceiverScreens
import Audiophore.TaskCalls

/-!
# What the strip shows, whatever is lost

The pipeline end to end, when any send may fail. A controller of either kind shows old
colours, never wrong ones: in each universe one colour that the strip was given at some render
tick. On a lenient controller, which takes every packet, the colours get no newer along the
strip.
-/

namespace PipelineScreens

open ExtendedFloat AudiophoreCore RustExec AdapterCore MappingM1 OscIngress IngressHistory
open SacnPacket SacnOutput SacnRender AdapterRuns AdapterGuarantees CliUniverses
open SnapshotRegister StepRuns EngineBus EngineRuns Screens ReceiverScreens RunPipeline
open PipelineRuns PipelineOutput PipelineProjections TaskCalls

variable {timer : Timer} {A : F32Arith} {decodeUdp : Decoder} {args : RunArgs}

/-! ## The frames of the renders -/

variable {host : Host} {es : List PipelineEvent} {p : Pipeline}
  {fs : List (EngineEvent fun _ : Unit => Answers)}

/-- The packets decoded before each of the renders that have returned. -/
def heardByRenders (decodeUdp : Decoder) (es : List PipelineEvent) (p : Pipeline) :
    List (List OscPacket) :=
  (heardAtTicks decodeUdp [] es).take (completed (p.engine.tasks ())).length

theorem frames_of_renders (h : Underlying timer A decodeUdp args host es p fs) :
    (completed (p.engine.tasks ())).map Read.value =
      (heardByRenders decodeUdp es p).map (frameHeard A args) := by
  have hinv := inv_of_run h.run
  have hconsistent := hinv.consistent ()
  have hseen : (renders (p.engine.tasks ()).calls).map Read.seen =
      (heardAtTicks decodeUdp [] es).map List.length := (hinv.seen_eq ()).trans h.ticks_eq
  have htake := List.prefix_iff_eq_take.mp hconsistent.held.isPrefix
  have hcompleted : (completed (p.engine.tasks ())).map Read.seen =
      (heardByRenders decodeUdp es p).map List.length := by
    rw [htake, List.map_take, hseen, heardByRenders, List.map_take]
  have hvalues : (completed (p.engine.tasks ())).map Read.value =
      ((completed (p.engine.tasks ())).map Read.seen).map
        (valueAfter .default p.engine.published) := by
    rw [List.map_map]
    refine List.map_congr_left fun r hr => ?_
    exact hconsistent.observed.current r (hconsistent.held.isPrefix.subset hr)
  rw [hvalues, hcompleted, List.map_map]
  refine List.map_congr_left fun heard hheard => ?_
  have hprefix := isPrefix_of_heardAtTicks decodeUdp (List.mem_of_mem_take hheard)
  rw [Function.comp_apply, hinv.published_eq, h.okFrames_eq]
  exact valueAfter_published hprefix

/-- What has been heard only grows. -/
theorem heardAtTicks_grow (packets : List OscPacket) (es : List PipelineEvent) :
    (heardAtTicks decodeUdp packets es).Pairwise (· <+: ·) ∧
      ∀ heard ∈ heardAtTicks decodeUdp packets es, packets <+: heard := by
  induction es generalizing packets with
  | nil => exact ⟨List.Pairwise.nil, by simp [heardAtTicks]⟩
  | cons e es ih =>
    obtain ⟨hgrow, hlater⟩ := ih (packets ++ decodedPackets decodeUdp (arrivals [e]))
    have hfrom : ∀ heard ∈ heardAtTicks decodeUdp
        (packets ++ decodedPackets decodeUdp (arrivals [e])) es, packets <+: heard :=
      fun heard hheard => (List.prefix_append _ _).trans (hlater heard hheard)
    rw [heardAtTicks]
    split
    · exact ⟨List.pairwise_cons.mpr ⟨hfrom, hgrow⟩,
        List.forall_mem_cons.mpr ⟨List.prefix_rfl, hfrom⟩⟩
    · exact ⟨hgrow, hfrom⟩

/-! ## The shots of the renders -/

/-- The pixels of a render's frame. -/
def payloadOf : AdapterCall → Option (List Rgb)
  | .render frame order _ => firstPixels frame order
  | _ => none

/-- Shots are renders with pixels, some of them left out. -/
theorem shots_sublist (n : Nat) (isOpen : Bool) (calls : List AdapterCall) :
    ((shots n isOpen calls).map Shot.pixels).Sublist (calls.filterMap payloadOf) := by
  induction calls generalizing isOpen with
  | nil => exact List.Sublist.refl _
  | cons c calls ih =>
    have hfirst : ((shotOf n isOpen c).toList.map Shot.pixels).Sublist
        ([c].filterMap payloadOf) := by
      cases c with
      | connect bind => exact List.nil_sublist _
      | disconnect => exact List.nil_sublist _
      | render frame order send =>
        rw [shotOf]
        split
        · cases hpixels : firstPixels frame order <;> simp [payloadOf, hpixels]
        · exact List.nil_sublist _
    have hcons : (c :: calls).filterMap payloadOf =
        [c].filterMap payloadOf ++ calls.filterMap payloadOf := by
      rw [← List.filterMap_append, List.singleton_append]
    rw [shots, List.map_append, hcons]
    exact hfirst.append (ih _)

/-- The payload of each render, from its frame alone. -/
theorem payloads_of_calls {calls : List Call} {envs : List Answers}
    (hlength : calls.length = envs.length) {payload : ResolvedFrame → Option (List Rgb)}
    (same : ∀ frame ∈ (renders calls).map Read.value, ∀ order,
      firstPixels frame order = payload frame) :
    ((calls.zip envs).map fun c => callWith c.2 c.1).filterMap payloadOf =
      ((renders calls).map Read.value).filterMap payload := by
  induction calls generalizing envs with
  | nil => rfl
  | cons c calls ih =>
    cases envs with
    | nil => cases hlength
    | cons env envs =>
      have hrest := ih (Nat.succ.inj hlength)
      cases c with
      | connect | disconnect => exact hrest same
      | render frame =>
        have hsame : ∀ f ∈ frame.value :: (renders calls).map Read.value,
            ∀ order, firstPixels f order = payload f := same
        rw [List.forall_mem_cons] at hsame
        have hhead : payloadOf (callWith env (.render frame)) = payload frame.value :=
          hsame.1 env.order
        have hcons : renders (.render frame :: calls) = frame :: renders calls := rfl
        rw [hcons, List.zip_cons_cons, List.map_cons, List.map_cons, List.filterMap_cons,
          List.filterMap_cons, hhead, hrest hsame.2]

/-- The pixels that the strip is given once `heard` has been decoded. -/
def stripHeard (A : F32Arith) (args : RunArgs) (heard : List OscPacket) : List Rgb :=
  buildStripPixels A (audioHeard A heard) args.pixels.toNat

theorem firstPixels_frameHeard (heard : List OscPacket) (order : IterOrder) :
    firstPixels (frameHeard A args heard) order =
      if heard.isEmpty then none else some (stripHeard A args heard) := by
  cases heard with
  | nil => exact firstPixels_default order
  | cons packet later => exact firstPixels_mapM1 A args _ _ order

/-- The shots of the pipeline are strips as they were at some ticks, in the order of the
ticks. -/
theorem shots_of_pipeline (h : Underlying timer A decodeUdp args host es p fs) {envs : List Answers}
    (hlength : (p.engine.tasks ()).returned.length = envs.length) (n : Nat) (isOpen : Bool) :
    ∃ heards : List (List OscPacket),
      heards.Sublist (heardAtTicks decodeUdp [] es) ∧ (∀ heard ∈ heards, heard ≠ []) ∧
      (shots n isOpen (callsOf (p.engine.tasks ()) envs)).map Shot.pixels =
        heards.map (stripHeard A args) := by
  have hframes := frames_of_renders h
  have hpayloads : (callsOf (p.engine.tasks ()) envs).filterMap payloadOf =
      ((completed (p.engine.tasks ())).map Read.value).filterMap
        fun frame => firstPixels frame .asStored := by
    refine payloads_of_calls (by rw [List.length_map, hlength]) ?_
    change ∀ frame ∈ (completed (p.engine.tasks ())).map Read.value, _
    rw [hframes, List.forall_mem_map]
    intro heard _ order
    rw [firstPixels_frameHeard, firstPixels_frameHeard]
  have hlit : (heardByRenders decodeUdp es p).filterMap
      ((fun frame => firstPixels frame .asStored) ∘ frameHeard A args) =
      ((heardByRenders decodeUdp es p).filter fun heard => !heard.isEmpty).map
        (stripHeard A args) := by
    rw [← List.filterMap_eq_map, List.filterMap_filter]
    refine List.filterMap_congr fun heard _ => ?_
    rw [Function.comp_apply, firstPixels_frameHeard]
    cases heard <;> rfl
  have hsublist := shots_sublist n isOpen (callsOf (p.engine.tasks ()) envs)
  rw [hpayloads, hframes, List.filterMap_map, hlit, List.sublist_map_iff] at hsublist
  obtain ⟨heards, hheards, heq⟩ := hsublist
  refine ⟨heards, ?_, ?_, heq⟩
  · exact hheards.trans (List.filter_sublist.trans (List.take_sublist _ _))
  · intro heard hmem
    simpa using (List.mem_filter.mp (hheards.subset hmem)).2

/-! ## One colour in each universe -/

/-- Slot `o` of universe number `i`, as a strip sets it that has the colour of `heard`. -/
def stripSlot (A : F32Arith) (args : RunArgs) (heard : List OscPacket) (i o : Nat) :
    Option UInt8 :=
  if heard ≠ [] ∧ o < 3 * min 170 (args.pixels.toNat - 170 * i)
  then (stripBytes A (heard.flatMap messages))[o % 3]? else none

theorem pixelBytes_heard (heard : List OscPacket) :
    pixelBytes A (stripColour A (audioHeard A heard)) = stripBytes A (heard.flatMap messages) := by
  have hone := flatMap_buildStripPixels A heard 1
  rw [buildStripPixels_eq] at hone
  simpa using hone

theorem slotAt_stripHeard {heard : List OscPacket} (hheard : heard ≠ []) (i o : Nat) :
    slotAt A (stripHeard A args heard) i o = stripSlot A args heard i o := by
  rw [slotAt, stripSlot, stripHeard, buildStripPixels_eq, List.getElem?_replicate]
  by_cases ho : o < 3 * min 170 (args.pixels.toNat - 170 * i)
  · have hslot : o < 510 := by omega
    have hpixel : 170 * i + o / 3 < args.pixels.toNat := by omega
    rw [if_pos hslot, if_pos hpixel, if_pos ⟨hheard, ho⟩, Option.bind_some,
      pixelBytes_heard]
  · have hnot : ¬(heard ≠ [] ∧ o < 3 * min 170 (args.pixels.toNat - 170 * i)) := fun h => ho h.2
    rw [if_neg hnot]
    split
    · have hbeyond : ¬170 * i + o / 3 < args.pixels.toNat := by omega
      rw [if_neg hbeyond]
      rfl
    · rfl

/-- The adapter task of a pipeline makes the calls of its script, under the answers that the
events bring. -/
theorem performed_of_underlying {adapter : SacnAdapter}
    (haccept : Acceptable adapter.universes adapter.priority)
    (h : Underlying timer A decodeUdp args ⟨adapter, []⟩ es p fs) :
    ∃ envs, Performed A adapter (p.engine.tasks ()) envs := by
  refine task_of_run (P := fun _ t => ∃ envs, Performed A adapter t envs)
    ⟨[], performed_spawn⟩ ?_ h.run
  rintro events t event t' bus published ⟨envs, hperformed⟩ moves
  exact ⟨_, hperformed.step haccept moves⟩

/-! ## The wire of a whole run -/

/-- The universes of the strip. -/
def stripUniverses (args : RunArgs) : List UInt16 := universesFor args.pixels args.startUniverse

/-- The wire carries the rounds of some calls, and their pixels are strips of the past. -/
structure Tape (A : F32Arith) (decodeUdp : Decoder) (args : RunArgs) (es : List PipelineEvent)
    (p : Pipeline) (calls : List AdapterCall) (heards : List (List OscPacket)) : Prop where
  acceptable : Acceptable (stripUniverses args) defaultPriority
  packets_eq : packetsOf (p.engine.tasks ()).adapter.wire.flatten =
    log ((stripUniverses args).map UInt16.toNat) 256 0
      (rounds A (stripUniverses args).length false calls)
  ticks : heards.Sublist (heardAtTicks decodeUdp [] es)
  lit : ∀ heard ∈ heards, heard ≠ []
  pixels_eq : (shots (stripUniverses args).length false calls).map Shot.pixels =
    heards.map (stripHeard A args)

theorem exists_tape {A64 : Arithmetic ℚ} {freshCid : Uuid} {start : Pipeline}
    (started : startPipeline A64 args freshCid = .ok (.ok start))
    (run : exec (pipelineStep timer A decodeUdp args) start es = some p) :
    ∃ calls heards, Tape A decodeUdp args es p calls heards := by
  obtain ⟨rate, adapter, -, built, rfl⟩ := start_eq started
  obtain ⟨fs, h⟩ := underlying_of_run run
  obtain ⟨haccept, -⟩ := built_spec built
  obtain ⟨envs, hperformed⟩ := performed_of_underlying haccept h
  obtain ⟨reports, hcalls, -, hwire⟩ := hperformed.calls
  obtain ⟨a, reports', hrun, -, -, -, hpackets⟩ :=
    packets_of_run A built (callsOf (p.engine.tasks ()) envs)
  obtain ⟨-, rfl⟩ := Prod.mk.inj (Except.ok.inj (hcalls.symm.trans hrun))
  obtain ⟨heards, hticks, hlit, hpixels⟩ :=
    shots_of_pipeline h hperformed.length_eq (stripUniverses args).length false
  exact ⟨_, heards, acceptable_of_build built, hwire ▸ hpackets, hticks, hlit, hpixels⟩

section Tape
variable {calls : List AdapterCall} {heards : List (List OscPacket)}

theorem Tape.numbers (h : Tape A decodeUdp args es p calls heards) :
    (stripUniverses args).map UInt16.toNat =
      (List.range (universeCount args.pixels.toNat)).map (fun i => args.startUniverse.toNat + i) :=
  toNat_universesFor h.acceptable

theorem Tape.distinct (h : Tape A decodeUdp args es p calls heards) :
    (stripUniverses args).Nodup := by
  refine List.Nodup.of_map UInt16.toNat ?_
  rw [h.numbers]
  exact List.nodup_range.map fun _ _ heq => Nat.add_left_cancel heq

theorem Tape.universe (h : Tape A decodeUdp args es p calls heards) {i : Nat}
    (hi : i < universeCount args.pixels.toNat) :
    ∃ u, (stripUniverses args)[i]? = some u ∧ u.toNat = args.startUniverse.toNat + i := by
  have hnumber : ((stripUniverses args).map UInt16.toNat)[i]? =
      some (args.startUniverse.toNat + i) := by
    rw [h.numbers, List.getElem?_map, List.getElem?_range hi]
    rfl
  rw [List.getElem?_map, Option.map_eq_some_iff] at hnumber
  exact hnumber

theorem Tape.same_size (h : Tape A decodeUdp args es p calls heards) :
    ∀ shot ∈ shots (stripUniverses args).length false calls,
      shot.pixels.length = args.pixels.toNat := by
  intro shot hshot
  have hmem := List.mem_map_of_mem (f := Shot.pixels) hshot
  rw [h.pixels_eq] at hmem
  obtain ⟨heard, -, hheard⟩ := List.mem_map.mp hmem
  rw [← hheard]
  exact List.length_replicate

/-- The renders that reach a universe last get no newer along the strip. -/
theorem Tape.grow (h : Tape A decodeUdp args es p calls heards) {i j : Nat} (hij : i ≤ j) :
    let rs := rounds A (stripUniverses args).length false calls
    valueAfter [] heards (age j rs) <+: valueAfter [] heards (age i rs) := by
  refine valueAfter_grow (r := (· <+: ·)) (fun _ => List.prefix_rfl) (fun _ _ => List.nil_prefix)
    ((heardAtTicks_grow [] es).1.sublist h.ticks) (age_antitone hij _) ?_
  have hlength := congrArg List.length h.pixels_eq
  rw [List.length_map, List.length_map] at hlength
  rw [← hlength]
  refine (age_le_length i _).trans_eq ?_
  rw [rounds, List.length_map]

/-- Universe number `i` shows what had been heard for some render that reached it, which is the
last one on a lenient controller. -/
theorem Tape.shows (h : Tape A decodeUdp args es p calls heards) {i : Nat}
    (hi : i < universeCount args.pixels.toNat) (strict : Bool) (s : Screen Nat UInt8) :
    ∃ k, (strict = false → k = age i (rounds A (stripUniverses args).length false calls)) ∧
      (valueAfter [] heards k = [] ∨ valueAfter [] heards k ∈ heardAtTicks decodeUdp [] es) ∧
      ∀ o, (s.hearAll strict (packetsOf (p.engine.tasks ()).adapter.wire.flatten)).cell
          (args.startUniverse.toNat + i) o =
        (stripSlot A args (valueAfter [] heards k) i o).getD
          (s.cell (args.startUniverse.toNat + i) o) := by
  obtain ⟨u, hu, hnumber⟩ := h.universe hi
  rw [← hnumber, h.packets_eq]
  obtain ⟨k, hage, hshows⟩ := exists_shown_shot A h.distinct hu h.same_size strict s
  refine ⟨k, hage, ?_⟩
  rcases hshows with ⟨rfl, hsame⟩ | ⟨m, shot, rfl, hshot, -, hcell⟩
  · rw [hsame]
    exact ⟨.inl rfl, fun o => rfl⟩
  · have hpixels := congrArg (·[m]?) h.pixels_eq
    simp only [List.getElem?_map, hshot, Option.map_some] at hpixels
    obtain ⟨heard, hheard, hstrip⟩ := Option.map_eq_some_iff.mp hpixels.symm
    have hmem := List.mem_of_getElem? hheard
    have hshown : valueAfter [] heards (m + 1) = heard := by
      simp [valueAfter, hheard]
    rw [hshown]
    refine ⟨.inr (h.ticks.subset hmem), fun o => ?_⟩
    rw [hcell, ← hstrip, slotAt_stripHeard (h.lit heard hmem)]

/-- Every slot on the wire is a byte of a colour of the past. -/
theorem Tape.slot (h : Tape A decodeUdp args es p calls heards) {packet : Packet Nat UInt8}
    (hpacket : packet ∈ packetsOf (p.engine.tasks ()).adapter.wire.flatten) {b : UInt8}
    (hb : b ∈ packet.block) :
    ∃ heard ∈ heardAtTicks decodeUdp [] es, b ∈ stripBytes A (heard.flatMap messages) := by
  rw [h.packets_eq] at hpacket
  obtain ⟨r, hr, hblock⟩ := block_of_mem_log hpacket
  obtain ⟨shot, hshot, rfl⟩ := List.mem_map.mp hr
  have hpixels := List.mem_map_of_mem (f := Shot.pixels) hshot
  rw [h.pixels_eq] at hpixels
  obtain ⟨heard, hheard, hstrip⟩ := List.mem_map.mp hpixels
  obtain ⟨px, hpx, hbyte⟩ := pixel_of_mem_slotBuffers A hblock hb
  rw [← hstrip, stripHeard, buildStripPixels_eq] at hpx
  rw [List.eq_of_mem_replicate hpx, pixelBytes_heard] at hbyte
  exact ⟨heard, h.ticks.subset hheard, hbyte⟩

end Tape

/-- A controller that showed `s` and shows `t`: in each universe of the strip one colour, that
of what had been heard at one of `ticks` (or nothing yet), and in other universes nothing new.
On a lenient controller what had been heard for universe `j` is a beginning of what had been
heard for an earlier one. -/
structure ShowsPast (A : F32Arith) (args : RunArgs) (ticks : List (List OscPacket))
    (strict : Bool) (s t : Screen Nat UInt8) : Prop where
  colours : ∃ shown : Nat → List OscPacket,
    (strict = false → ∀ i j, i ≤ j → shown j <+: shown i) ∧
    ∀ i < universeCount args.pixels.toNat, (shown i = [] ∨ shown i ∈ ticks) ∧
      ∀ o, t.cell (args.startUniverse.toNat + i) o =
        (stripSlot A args (shown i) i o).getD (s.cell (args.startUniverse.toNat + i) o)
  untouched : ∀ v, v < args.startUniverse.toNat ∨
    args.startUniverse.toNat + universeCount args.pixels.toNat ≤ v → t.cell v = s.cell v

theorem Tape.showsPast {calls : List AdapterCall} {heards : List (List OscPacket)}
    (h : Tape A decodeUdp args es p calls heards) (strict : Bool) (s : Screen Nat UInt8) :
    ShowsPast A args (heardAtTicks decodeUdp [] es) strict s
      (s.hearAll strict (packetsOf (p.engine.tasks ()).adapter.wire.flatten)) := by
  have hshown : ∀ i, ∃ k,
      (strict = false → k = age i (rounds A (stripUniverses args).length false calls)) ∧
      (i < universeCount args.pixels.toNat →
        (valueAfter [] heards k = [] ∨ valueAfter [] heards k ∈ heardAtTicks decodeUdp [] es) ∧
        ∀ o, (s.hearAll strict (packetsOf (p.engine.tasks ()).adapter.wire.flatten)).cell
            (args.startUniverse.toNat + i) o =
          (stripSlot A args (valueAfter [] heards k) i o).getD
            (s.cell (args.startUniverse.toNat + i) o)) := by
    intro i
    by_cases hi : i < universeCount args.pixels.toNat
    · obtain ⟨k, hage, hshows⟩ := h.shows hi strict s
      exact ⟨k, hage, fun _ => hshows⟩
    · exact ⟨_, fun _ => rfl, fun hlt => absurd hlt hi⟩
  choose shown hage hshows using hshown
  refine ⟨⟨fun i => valueAfter [] heards (shown i), ?_, hshows⟩, ?_⟩
  · intro hlenient i j hij
    simp only [hage i hlenient, hage j hlenient]
    exact h.grow hij
  · intro v hv
    rw [h.packets_eq]
    refine (agree_hearAll_log fun hmem => ?_).2
    rw [h.numbers, List.mem_map] at hmem
    obtain ⟨i, hi, hnumber⟩ := hmem
    rw [List.mem_range] at hi
    omega

/-- Whatever sends fail, a controller of either kind shows in each universe one colour that the
strip had at some render tick, and nothing else. On a lenient controller the colours get no
newer along the strip. -/
theorem strip_shows_past_colours (A : F32Arith) {A64 : Arithmetic ℚ} {freshCid : Uuid}
    {start : Pipeline} (started : startPipeline A64 args freshCid = .ok (.ok start))
    (run : exec (pipelineStep timer A decodeUdp args) start es = some p) (strict : Bool)
    (s : Screen Nat UInt8) :
    ShowsPast A args (heardAtTicks decodeUdp [] es) strict s
      (s.hearAll strict (packetsOf (p.engine.tasks ()).adapter.wire.flatten)) := by
  obtain ⟨calls, heards, h⟩ := exists_tape started run
  exact h.showsPast strict s

/-- A run in which the second render is cut short after the first of its two universes. -/
def tornArgs : RunArgs := { stripArgs with pixels := 171 }

def tornRun : List PipelineEvent :=
  let torn : Answers :=
    ⟨.ok ⟨40000⟩, .asStored, fun i => if i = 0 then .ok () else .error "unreachable"⟩
  shortRun ++ [.arrival (.ok [1]), .task .tick, .task (.rendered torn)]

/-- Universe 8 is the second one of the strip. -/
theorem strip_shows_past_colours_torn : ∃ start p,
    startPipeline (.exact ℚ) tornArgs zeroCid = .ok (.ok start) ∧
      exec (pipelineStep clock64 (.exact ℚ) bassDecoder tornArgs) start tornRun = some p ∧
      ∀ strict, ∃ shown : Nat → List OscPacket, (strict = false → shown 1 <+: shown 0) ∧
        (shown 1 = [] ∨ shown 1 ∈ heardAtTicks bassDecoder [] tornRun) ∧
        ∀ o, (blankScreen.hearAll strict
            (packetsOf (p.engine.tasks ()).adapter.wire.flatten)).cell 8 o =
          (stripSlot (.exact ℚ) tornArgs (shown 1) 1 o).getD 9 := by
  obtain ⟨start, p, started, run⟩ : ∃ start p,
      startPipeline (.exact ℚ) tornArgs zeroCid = .ok (.ok start) ∧
        exec (pipelineStep clock64 (.exact ℚ) bassDecoder tornArgs) start tornRun = some p :=
    exists_run (by decide +kernel)
  refine ⟨start, p, started, run, fun strict => ?_⟩
  obtain ⟨shown, hgrow, hslots⟩ :=
    (strip_shows_past_colours (.exact ℚ) started run strict blankScreen).colours
  exact ⟨shown, fun hlenient => hgrow hlenient 0 1 (by decide), hslots 1 (by decide)⟩

end PipelineScreens
