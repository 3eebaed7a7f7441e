import Audiophore.PipelineScreens

/-!
# Complete renders repair the strip

Failing sends leave old colours behind, but nothing that lasts. On a controller that takes
every packet a render whose sends all go through sets every universe to the colour that was
current at its tick, whatever was lost before. A controller that discards repeated sequence
numbers may miss that one, and then shows the next.
-/

namespace Recovery

open ExtendedFloat AudiophoreCore RustExec AdapterCore OscIngress IngressHistory SacnPacket
open SacnOutput SacnRender SlotLayout AdapterRuns AdapterGuarantees CliUniverses SnapshotRegister
open StepRuns EngineBus EngineRuns Screens ReceiverScreens RunPipeline PipelineRuns PipelineOutput
open Shutdown PipelineProjections TaskCalls PipelineScreens

variable {timer : Timer} {A : F32Arith} {decodeUdp : Decoder} {args : RunArgs}

/-- A task that is as its adapter was built, and has a socket whenever it waits or renders. -/
structure Ready (a₀ : SacnAdapter) (t : AdapterTask Host) : Prop where
  settings_eq : settings t.adapter.adapter = settings a₀
  connected : t.pc = .waiting ∨ (∃ frame, t.pc = .rendering frame) →
    t.adapter.adapter.socket.isSome = true

theorem Ready.step {a₀ : SacnAdapter} {t t' : AdapterTask Host} {event : TaskEvent Answers}
    {policy : RenderErrorPolicy} {bus : Bus} {published : Nat} (h : Ready a₀ t)
    (h₀ : Acceptable a₀.universes a₀.priority)
    (moves : Moves timer (sacnOutput A) policy bus published t event t') : Ready a₀ t' := by
  have haccept := acceptable_of_settings h.settings_eq h₀
  refine ⟨(settings_of_moves haccept moves).trans h.settings_eq, ?_⟩
  cases moves with
  | ticked hpc => exact fun _ => h.connected (.inl hpc)
  | @connected env a hpc hcall =>
    obtain ⟨a', report, effect, rfl, hok⟩ := connect_effect haccept hcall
    exact fun _ => socket_of_connect effect hok
  | @rendered env a outcome frame hpc hcall hgo =>
    obtain ⟨a', report, effect, hrender⟩ := render_effect haccept frame.value env
    obtain ⟨rfl, -⟩ := Prod.mk.inj (Except.ok.inj (hcall.symm.trans hrender))
    exact fun _ => effect.socket_eq.trans (h.connected (.inr ⟨frame, hpc⟩))
  | _ => rintro (h | ⟨frame, h⟩) <;> cases h

theorem ready_of_pipeline {a₀ : SacnAdapter} (h₀ : Acceptable a₀.universes a₀.priority)
    {es : List PipelineEvent} {p : Pipeline} {fs : List (EngineEvent fun _ : Unit => Answers)}
    (h : Underlying timer A decodeUdp args ⟨a₀, []⟩ es p fs) : Ready a₀ (p.engine.tasks ()) := by
  refine task_of_run (P := fun _ t => Ready a₀ t) ⟨rfl, ?_⟩ ?_ h.run
  · rintro (h | ⟨frame, h⟩) <;> cases h
  · exact fun _ _ _ _ _ _ hready moves => hready.step h₀ moves

/-! ## The render that returns -/

section Render
variable {es : List PipelineEvent} {p : Pipeline}
  {fs : List (EngineEvent fun _ : Unit => Answers)} {host : Host}

/-- A render in flight was given what had been heard at the last tick. -/
theorem frame_in_flight (h : Underlying timer A decodeUdp args host es p fs)
    {frame : Read ResolvedFrame} (hpc : (p.engine.tasks ()).pc = .rendering frame) :
    ∃ heard, (heardAtTicks decodeUdp [] es).getLast? = some heard ∧
      frame.value = frameHeard A args heard := by
  have hinv := inv_of_run h.run
  have hconsistent := hinv.consistent ()
  have hheld : renders (p.engine.tasks ()).calls = completed (p.engine.tasks ()) ++ [frame] := by
    have hheld := hconsistent.held
    rwa [Held, hpc] at hheld
  have hlast : ((heardAtTicks decodeUdp [] es).map List.length).getLast? = some frame.seen := by
    rw [← h.ticks_eq, ← hinv.seen_eq (), hheld, List.map_append, List.map_singleton,
      List.getLast?_concat]
  rw [List.getLast?_map, Option.map_eq_some_iff] at hlast
  obtain ⟨heard, hheard, hseen⟩ := hlast
  refine ⟨heard, hheard, ?_⟩
  have hmem : frame ∈ renders (p.engine.tasks ()).calls := by simp [hheld]
  have hcurrent := hconsistent.observed.current frame hmem
  have hprefix := isPrefix_of_heardAtTicks decodeUdp (List.mem_of_getLast? hheard)
  rw [hcurrent, ← hseen, hinv.published_eq, h.okFrames_eq]
  exact valueAfter_published hprefix

/-- The render returns, and its packets are added to the wire. The task goes on. -/
theorem rendered_of_step {a₀ : SacnAdapter} (h₀ : Acceptable a₀.universes a₀.priority)
    (ready : Ready a₀ (p.engine.tasks ())) {env : Answers} {p' : Pipeline}
    (hstep : pipelineStep timer A decodeUdp args p (.task (.rendered env)) = some p') :
    ∃ frame a report, (p.engine.tasks ()).pc = .rendering frame ∧
      Effect A (p.engine.tasks ()).adapter.adapter (.render frame.value env.order env.send) a
        report ∧
      (p'.engine.tasks ()).pc = .waiting ∧
      (p'.engine.tasks ()).adapter = ⟨a, (p.engine.tasks ()).adapter.wire ++ [report.sent]⟩ := by
  have haccept := acceptable_of_settings ready.settings_eq h₀
  cases steps_of_pipelineStep hstep with
  | resumed hmain hevent hengine =>
    obtain ⟨t, ht, rfl⟩ := Option.map_eq_some_iff.mp hengine
    simp only [Function.update_self]
    have moves := moves_of_runAdapter ht
    generalize p.engine.tasks () = task at ready haccept moves
    cases moves with
    | @rendered env a outcome frame hpc hcall hgo =>
      obtain ⟨a', report, effect, hrender⟩ := render_effect haccept frame.value env
      obtain ⟨rfl, -⟩ := Prod.mk.inj (Except.ok.inj (hcall.symm.trans hrender))
      exact ⟨frame, a', report, hpc, effect, rfl, rfl⟩
    | @renderStopped env a e frame hpc hcall hstop => cases hstop
    | @renderPanicked env panic frame hpc hcall =>
      obtain ⟨a', report, -, hrender⟩ := render_effect haccept frame.value env
      have hclash := hcall.symm.trans hrender
      cases hclash

/-- A render that has returned: what had been heard at its tick, the adapter it found, and
what it added to the wire. -/
structure Returned (A : F32Arith) (decodeUdp : Decoder) (args : RunArgs) (es : List PipelineEvent)
    (env : Answers) (p p' : Pipeline) (heard : List OscPacket) (a : SacnAdapter)
    (report : Report) : Prop where
  heard_eq : (heardAtTicks decodeUdp [] es).getLast? = some heard
  universes_eq : (p.engine.tasks ()).adapter.adapter.universes = stripUniverses args
  acceptable : Acceptable (p.engine.tasks ()).adapter.adapter.universes
    (p.engine.tasks ()).adapter.adapter.priority
  connected : (p.engine.tasks ()).adapter.adapter.socket.isSome = true
  effect : Effect A (p.engine.tasks ()).adapter.adapter
    (.render (frameHeard A args heard) env.order env.send) a report
  adapter_eq : (p'.engine.tasks ()).adapter =
    ⟨a, (p.engine.tasks ()).adapter.wire ++ [report.sent]⟩
  waiting : (p'.engine.tasks ()).pc = .waiting

theorem returned_of_step {A64 : Arithmetic ℚ} {freshCid : Uuid} {start p p' : Pipeline}
    (started : startPipeline A64 args freshCid = .ok (.ok start))
    (run : exec (pipelineStep timer A decodeUdp args) start es = some p) {env : Answers}
    (hstep : pipelineStep timer A decodeUdp args p (.task (.rendered env)) = some p') :
    ∃ heard a report, Returned A decodeUdp args es env p p' heard a report := by
  obtain ⟨rate, adapter, -, built, rfl⟩ := start_eq started
  obtain ⟨haccept, huniverses, -⟩ := built_spec built
  obtain ⟨fs, underlying⟩ := underlying_of_run run
  have ready := ready_of_pipeline haccept underlying
  obtain ⟨frame, a, report, hpc, effect, hwaiting, hadapter⟩ :=
    rendered_of_step haccept ready hstep
  obtain ⟨heard, hheard, hframe⟩ := frame_in_flight underlying hpc
  exact ⟨heard, a, report, hheard, (universes_of_settings ready.settings_eq).1.trans huniverses,
    acceptable_of_settings ready.settings_eq haccept, ready.connected (.inr ⟨frame, hpc⟩),
    hframe ▸ effect, hadapter, hwaiting⟩

end Render

/-! ## Recovery -/

/-- Once nothing has been heard, nothing is shown. -/
theorem stripSlot_nil (i o : Nat) : stripSlot A args [] i o = none := if_neg (by simp)

/-- Which slots of a universe are lit does not depend on the colour. -/
theorem stripSlot_isSome_iff (heard : List OscPacket) (i o : Nat) :
    (stripSlot A args heard i o).isSome = true ↔
      heard ≠ [] ∧ o < 3 * min 170 (args.pixels.toNat - 170 * i) := by
  rw [stripSlot]
  split
  · rename_i hlit
    refine iff_of_true ?_ hlit
    have hbyte : o % 3 < (stripBytes A (heard.flatMap messages)).length :=
      Nat.mod_lt o (by decide : 0 < 3)
    rw [List.getElem?_eq_getElem hbyte]
    rfl
  · rename_i hdark
    exact iff_of_false (by simp) hdark

/-- The last tick had heard the most. -/
theorem prefix_of_last {es : List PipelineEvent} {heard last : List OscPacket}
    (hlast : (heardAtTicks decodeUdp [] es).getLast? = some last)
    (hheard : heard ∈ heardAtTicks decodeUdp [] es) : heard <+: last := by
  obtain ⟨before, hsplit⟩ := List.getLast?_eq_some_iff.mp hlast
  have hgrow : (heardAtTicks decodeUdp [] es).Pairwise (· <+: ·) := (heardAtTicks_grow [] es).1
  rw [hsplit] at hgrow hheard
  rcases List.mem_append.mp hheard with hbefore | hlater
  · exact (List.pairwise_append.mp hgrow).2.2 heard hbefore last List.mem_cons_self
  · obtain rfl := List.mem_singleton.mp hlater
    exact List.prefix_rfl

/-- A slot that the strip does not cover is never set, on either kind of controller. -/
theorem cell_unlit {es : List PipelineEvent} {p : Pipeline} {calls : List AdapterCall}
    {heards : List (List OscPacket)} (h : Tape A decodeUdp args es p calls heards)
    {last : List OscPacket} (hlast : (heardAtTicks decodeUdp [] es).getLast? = some last) {i : Nat}
    (hi : i < universeCount args.pixels.toNat) {o : Nat} (hdark : stripSlot A args last i o = none)
    (strict : Bool) (s : Screen Nat UInt8) :
    (s.hearAll strict (packetsOf (p.engine.tasks ()).adapter.wire.flatten)).cell
        (args.startUniverse.toNat + i) o = s.cell (args.startUniverse.toNat + i) o := by
  obtain ⟨k, -, hshown, hcell⟩ := h.shows hi strict s
  rw [hcell]
  cases hslot : stripSlot A args (valueAfter [] heards k) i o with
  | none => rfl
  | some b =>
    have hlit := (stripSlot_isSome_iff (A := A) _ i o).mp (by rw [hslot]; rfl)
    have hprefix := prefix_of_last hlast (hshown.resolve_left hlit.1)
    have hnonempty : last ≠ [] := fun h => hlit.1 (List.prefix_nil.mp (h ▸ hprefix))
    have hsome := (stripSlot_isSome_iff (A := A) last i o).mpr ⟨hnonempty, hlit.2⟩
    rw [hdark] at hsome
    cases hsome

/-- A render whose sends all go through sets the whole strip of a lenient controller to the
colour that was current at its tick. What was lost before does not show any more, in any
universe. The slots beyond the strip are as they were, on either kind of controller. -/
theorem complete_render_recovers (A : F32Arith) {A64 : Arithmetic ℚ} {freshCid : Uuid}
    {start p : Pipeline} {es : List PipelineEvent} {env : Answers}
    (started : startPipeline A64 args freshCid = .ok (.ok start))
    (run : exec (pipelineStep timer A decodeUdp args) start (es ++ [.task (.rendered env)]) =
      some p)
    (succeed : ∀ i, env.send i = .ok ()) (s : Screen Nat UInt8) :
    let sent := packetsOf (p.engine.tasks ()).adapter.wire.flatten
    ∃ heard, (heardAtTicks decodeUdp [] es).getLast? = some heard ∧
      ∀ i < universeCount args.pixels.toNat, ∀ o,
        (s.hearAll false sent).cell (args.startUniverse.toNat + i) o =
          (stripSlot A args heard i o).getD (s.cell (args.startUniverse.toNat + i) o) ∧
        (stripSlot A args heard i o = none → ∀ strict,
          (s.hearAll strict sent).cell (args.startUniverse.toNat + i) o =
            s.cell (args.startUniverse.toNat + i) o) := by
  intro sent
  obtain ⟨q, hq, hstep⟩ := exec_snoc.mp run
  obtain ⟨calls, heards, tape⟩ := exists_tape started hq
  obtain ⟨calls', heards', tape'⟩ := exists_tape started run
  obtain ⟨heard, a, report, returned⟩ := returned_of_step started hq hstep
  have hheard' : (heardAtTicks decodeUdp [] (es ++ [.task (.rendered env)])).getLast? =
      some heard := by
    rw [heardAtTicks_append]
    simpa [heardAtTicks, PipelineEvent.isTick, TaskEvent.isTick] using returned.heard_eq
  refine ⟨heard, returned.heard_eq, fun i hi o =>
    ⟨?_, fun hdark strict => cell_unlit tape' hheard' hi hdark strict s⟩⟩
  have hsent := packetsOf_sent A returned.effect
  simp only [shotOf, returned.connected, if_true, firstPixels_frameHeard,
    returned.universes_eq] at hsent
  simp only [sent]
  rw [returned.adapter_eq, List.flatten_append, packetsOf_append, hearAll_append,
    List.flatten_singleton, hsent]
  by_cases hnone : heard = []
  · subst hnone
    rw [stripSlot_nil]
    exact cell_unlit tape returned.heard_eq hi (stripSlot_nil i o) false s
  · obtain ⟨u, hu, hnumber⟩ := tape.universe hi
    obtain ⟨hi', -⟩ := List.getElem?_eq_some_iff.mp hu
    have hempty : heard.isEmpty = false := by simpa using hnone
    have hbefore := fun hdark => cell_unlit (o := o) tape returned.heard_eq hi hdark false s
    rw [hempty]
    simp only [Bool.false_eq_true, if_false, Option.map_some, delivered_of_ok succeed]
    rw [← hnumber] at hbefore ⊢
    have hagree := agree_hearAll_packets
      (r := Shot.round A (stripUniverses args).length ⟨stripHeard A args heard, _⟩)
      (nodup_numbers tape.distinct) (getElem?_numbers hu) (by simp [Shot.round])
      (show i < (stripUniverses args).length from hi')
      (getElem?_slotBuffers A hi') false
      (q.engine.tasks ()).adapter.adapter.sequence.toNat
      (s.hearAll false (packetsOf (q.engine.tasks ()).adapter.wire.flatten))
    rw [hagree.2, Screen.hear, if_neg (by simp)]
    have hslot := getElem?_slotBuffers_slotAt A (stripHeard A args heard) hi' o
    rw [slotAt_stripHeard hnone, getElem?_slotBuffers A hi', Option.bind_some] at hslot
    simp only [Screen.draw, Function.update_self, List.getD_eq_getElem?_getD, hslot]
    cases hcolour : stripSlot A args heard i o with
    | some b => rfl
    | none => exact hbefore hcolour

/-- The runs of these examples end with a red strip. -/
theorem red_of_last {es : List PipelineEvent} {heard : List OscPacket}
    (hheard : (heardAtTicks bassDecoder [] es).getLast? = some heard)
    (red : ((heardAtTicks bassDecoder [] es).getLast?.bind
      fun heard => stripSlot (.exact ℚ) tornArgs heard 1 0) = some 255) :
    stripSlot (.exact ℚ) tornArgs heard 1 0 = some 255 := by
  rwa [hheard, Option.bind_some] at red

/-- One more render after the one that tore the strip. Its second universe, number 8, is red
like the first. -/
theorem complete_render_recovers_torn : ∃ start p,
    startPipeline (.exact ℚ) tornArgs zeroCid = .ok (.ok start) ∧
      exec (pipelineStep clock64 (.exact ℚ) bassDecoder tornArgs) start
        ((tornRun ++ [.task .tick]) ++ [.task (.rendered calmAnswers)]) = some p ∧
      (blankScreen.hearAll false
        (packetsOf (p.engine.tasks ()).adapter.wire.flatten)).cell 8 0 = 255 := by
  obtain ⟨start, p, started, run⟩ : ∃ start p,
      startPipeline (.exact ℚ) tornArgs zeroCid = .ok (.ok start) ∧
        exec (pipelineStep clock64 (.exact ℚ) bassDecoder tornArgs) start
          ((tornRun ++ [.task .tick]) ++ [.task (.rendered calmAnswers)]) = some p :=
    exists_run (by decide +kernel)
  obtain ⟨heard, hheard, hslots⟩ :=
    complete_render_recovers (.exact ℚ) started run (fun _ => rfl) blankScreen
  refine ⟨start, p, started, run, (hslots 1 (by decide) 0).1.trans ?_⟩
  rw [red_of_last hheard (by decide +kernel)]
  rfl

/-! ## Two complete renders in a row -/

/-- A task whose adapter stays as it is until the next render returns. -/
structure Resting (host : Host) (t : AdapterTask Host) : Prop where
  adapter_eq : t.adapter = host
  between : t.pc ≠ .spawned ∧ t.pc ≠ .connecting ∧ t.pc ≠ .disconnecting

theorem Resting.move {host : Host} {t t' : AdapterTask Host} {event : TaskEvent Answers}
    {policy : RenderErrorPolicy} {bus : Bus} {published : Nat} (h : Resting host t)
    (moves : Moves timer (sacnOutput A) policy bus published t event t')
    (quiet : ∀ env, event ≠ .rendered env) : Resting host t' := by
  cases moves with
  | intervalPanicked hpc | started hpc => exact absurd hpc h.between.1
  | connectPanicked hpc | connectFailed hpc | connected hpc => exact absurd hpc h.between.2.1
  | disconnectPanicked hpc | disconnected hpc => exact absurd hpc h.between.2.2
  | renderPanicked hpc | rendered hpc | renderStopped hpc => exact absurd rfl (quiet _)
  | tickPanicked hpc | ticked hpc | aborted hpc => exact ⟨h.adapter_eq, by simp⟩

theorem Resting.step {host : Host} {p p' : Pipeline} {e : PipelineEvent}
    (h : Resting host (p.engine.tasks ())) (quiet : ∀ env, e ≠ .task (.rendered env))
    (hstep : pipelineStep timer A decodeUdp args p e = some p') :
    Resting host (p'.engine.tasks ()) := by
  cases steps_of_pipelineStep hstep with
  | bindFailed | addrFailed | listening | unstoppable => exact h
  | stopped =>
    rcases abortTask_tasks timer A args p.engine with htask | htask <;> rw [htask]
    · exact h
    · exact ⟨h.adapter_eq, by simp⟩
  | received =>
    rw [tasks_produce]
    exact h
  | resumed hrunning hevent hengine =>
    obtain ⟨t, ht, rfl⟩ := Option.map_eq_some_iff.mp hengine
    simp only [Function.update_self]
    exact h.move (moves_of_runAdapter ht) fun env hrendered => quiet env (by rw [hrendered])

theorem resting_of_run {host : Host} {p q : Pipeline} {es : List PipelineEvent}
    (h : Resting host (p.engine.tasks ())) (quiet : ∀ env, .task (.rendered env) ∉ es)
    (run : exec (pipelineStep timer A decodeUdp args) p es = some q) :
    Resting host (q.engine.tasks ()) := by
  revert quiet
  refine exec_invariant (P := fun es q => (∀ env, .task (.rendered env) ∉ es) →
    Resting host (q.engine.tasks ())) (fun _ => h) ?_ run
  intro es q e q' _ ih hstep quiet
  have hbefore := ih fun env hmem => quiet env (List.mem_append_left _ hmem)
  exact hbefore.step (fun env he => quiet env (by simp [he])) hstep

/-- The last two datagram lists of a run that ends with two complete renders: those of the
colours at their ticks, with numbers one apart. -/
theorem complete_renders_on_wire (A : F32Arith) {A64 : Arithmetic ℚ} {freshCid : Uuid}
    {start p : Pipeline} {es mid : List PipelineEvent} {env env' : Answers}
    (started : startPipeline A64 args freshCid = .ok (.ok start))
    (run : exec (pipelineStep timer A decodeUdp args) start
      (es ++ [.task (.rendered env)] ++ mid ++ [.task (.rendered env')]) = some p)
    (quiet : ∀ env, .task (.rendered env) ∉ mid)
    (lit : (heardAtTicks decodeUdp [] es).getLast? ≠ some [])
    (succeed : ∀ i, env.send i = .ok ()) (succeed' : ∀ i, env'.send i = .ok ()) :
    ∃ first heard before sent sent' full, first ≠ [] ∧ heard ≠ [] ∧
      (heardAtTicks decodeUdp [] (es ++ [.task (.rendered env)] ++ mid)).getLast? = some heard ∧
      (p.engine.tasks ()).adapter.wire = before ++ [sent, sent'] ∧
      packetsOf sent = (completeRound A (stripUniverses args).length
        (stripHeard A args first)).packets ((stripUniverses args).map UInt16.toNat) (full % 256) ∧
      packetsOf sent' = (completeRound A (stripUniverses args).length
        (stripHeard A args heard)).packets ((stripUniverses args).map UInt16.toNat)
          ((full + 1) % 256) := by
  obtain ⟨q₃, hq₃, hstep'⟩ := exec_snoc.mp run
  obtain ⟨q₂, hq₂, hmid⟩ := Option.bind_eq_some_iff.mp ((exec_append _ _ _).symm.trans hq₃)
  obtain ⟨q₁, hq₁, hstep⟩ := exec_snoc.mp hq₂
  obtain ⟨first, a, report, returned⟩ := returned_of_step started hq₁ hstep
  obtain ⟨heard, a', report', returned'⟩ := returned_of_step started hq₃ hstep'
  -- the second render finds the adapter as the first one has left it
  have hrest := (resting_of_run ⟨returned.adapter_eq, by simp [returned.waiting]⟩ quiet
    hmid).adapter_eq
  have effect' := returned'.effect
  rw [hrest] at effect'
  have hlit : first ≠ [] := fun hnil => lit (hnil ▸ returned.heard_eq)
  have hlit' : heard ≠ [] := by
    have hmem : first ∈ heardAtTicks decodeUdp [] (es ++ [.task (.rendered env)] ++ mid) := by
      rw [List.append_assoc, heardAtTicks_append]
      exact List.mem_append_left _ (List.mem_of_getLast? returned.heard_eq)
    exact fun hnil => hlit (List.prefix_nil.mp (hnil ▸ prefix_of_last returned'.heard_eq hmem))
  have hpixels : ∀ (heard : List OscPacket) order, heard ≠ [] →
      firstPixels (frameHeard A args heard) order = some (stripHeard A args heard) := by
    intro heard order hne
    rw [firstPixels_frameHeard, if_neg (by simpa using hne)]
  have hcounted : Counted (q₁.engine.tasks ()).adapter.adapter.sequence.toNat
      (q₁.engine.tasks ()).adapter.adapter :=
    ⟨returned.acceptable, (Nat.mod_eq_of_lt (UInt8.toNat_lt _)).symm⟩
  obtain ⟨hcounted', hsent⟩ := packets_of_complete_render A hcounted returned.connected
    (hpixels first _ hlit) succeed returned.effect
  obtain ⟨-, hsent'⟩ := packets_of_complete_render A hcounted'
    (returned.effect.socket_eq.trans returned.connected) (hpixels heard _ hlit') succeed' effect'
  rw [(universes_of_settings returned.effect.settings_eq).1, returned.universes_eq] at hsent'
  rw [returned.universes_eq] at hsent
  refine ⟨first, heard, (q₁.engine.tasks ()).adapter.wire, report.sent, report'.sent, _, hlit,
    hlit', returned'.heard_eq, ?_, hsent, hsent'⟩
  rw [returned'.adapter_eq, hrest, List.append_assoc]
  rfl

/-- Two renders in a row whose sends all go through set the whole strip to the colour that was
current at the tick of the second one, on a controller of either kind, whatever it has shown,
seen and missed before them, if something had been decoded before the tick of the first one.
The slots beyond the strip are as they were. -/
theorem two_complete_renders_recover (A : F32Arith) {A64 : Arithmetic ℚ} {freshCid : Uuid}
    {start p : Pipeline} {es mid : List PipelineEvent} {env env' : Answers}
    (started : startPipeline A64 args freshCid = .ok (.ok start))
    (run : exec (pipelineStep timer A decodeUdp args) start
      (es ++ [.task (.rendered env)] ++ mid ++ [.task (.rendered env')]) = some p)
    (quiet : ∀ env, .task (.rendered env) ∉ mid)
    (lit : (heardAtTicks decodeUdp [] es).getLast? ≠ some [])
    (succeed : ∀ i, env.send i = .ok ()) (succeed' : ∀ i, env'.send i = .ok ()) :
    ∃ heard before sent sent',
      (heardAtTicks decodeUdp [] (es ++ [.task (.rendered env)] ++ mid)).getLast? = some heard ∧
      (p.engine.tasks ()).adapter.wire = before ++ [sent, sent'] ∧
      ∀ (strict : Bool) (s : Screen Nat UInt8), ∀ i < universeCount args.pixels.toNat, ∀ o,
        ((s.hearAll strict (packetsOf sent)).hearAll strict (packetsOf sent')).cell
            (args.startUniverse.toNat + i) o =
          (stripSlot A args heard i o).getD (s.cell (args.startUniverse.toNat + i) o) := by
  obtain ⟨calls, heards, tape⟩ := exists_tape started run
  obtain ⟨first, heard, before, sent, sent', full, hlit, hlit', hheard, hwire, hsent, hsent'⟩ :=
    complete_renders_on_wire A started run quiet lit succeed succeed'
  refine ⟨heard, before, sent, sent', hheard, hwire, fun strict s i hi o => ?_⟩
  obtain ⟨u, hu, hnumber⟩ := tape.universe hi
  rw [hsent, hsent', ← hnumber, shown_after_two_renders A tape.distinct hu,
    slotAt_stripHeard hlit']
  cases hcolour : stripSlot A args heard i o with
  | some b => rfl
  | none =>
    have hdark : slotAt A (stripHeard A args first) i o = none := by
      rw [slotAt_stripHeard hlit, ← Option.not_isSome_iff_eq_none, stripSlot_isSome_iff]
      rintro ⟨-, ho⟩
      have hsome := (stripSlot_isSome_iff (A := A) heard i o).mpr ⟨hlit', ho⟩
      rw [hcolour] at hsome
      cases hsome
    exact untouched_by_complete_render A tape.distinct hu full hdark strict s

/-- Two more renders after the one that tore the strip. -/
def twiceMore : List PipelineEvent :=
  (tornRun ++ [.task .tick]) ++ [.task (.rendered calmAnswers)] ++ [.task .tick] ++
    [.task (.rendered calmAnswers)]

theorem two_complete_renders_recover_torn : ∃ start p before sent sent',
    startPipeline (.exact ℚ) tornArgs zeroCid = .ok (.ok start) ∧
      exec (pipelineStep clock64 (.exact ℚ) bassDecoder tornArgs) start twiceMore = some p ∧
      (p.engine.tasks ()).adapter.wire = before ++ [sent, sent'] ∧
      ∀ (strict : Bool) (s : Screen Nat UInt8),
        ((s.hearAll strict (packetsOf sent)).hearAll strict (packetsOf sent')).cell 8 0 = 255 := by
  obtain ⟨start, p, started, run⟩ : ∃ start p,
      startPipeline (.exact ℚ) tornArgs zeroCid = .ok (.ok start) ∧
        exec (pipelineStep clock64 (.exact ℚ) bassDecoder tornArgs) start twiceMore = some p :=
    exists_run (by decide +kernel)
  have lit : (heardAtTicks bassDecoder [] (tornRun ++ [.task .tick])).getLast? ≠ some [] := by
    intro hnil
    have hlit : (heardAtTicks bassDecoder [] (tornRun ++ [.task .tick])).getLast?.any
        List.isEmpty = false := by decide +kernel
    rw [hnil] at hlit
    cases hlit
  obtain ⟨heard, before, sent, sent', hheard, hwire, hslots⟩ :=
    two_complete_renders_recover (.exact ℚ) started run (by simp) lit (fun _ => rfl) fun _ => rfl
  refine ⟨start, p, before, sent, sent', started, run, hwire, fun strict s => ?_⟩
  refine (hslots strict s 1 (by decide) 0).trans ?_
  rw [red_of_last hheard (by decide +kernel)]
  rfl

end Recovery
