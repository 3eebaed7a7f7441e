import Audiophore.AdapterLifecycle
import Audiophore.PipelineRuns

/-!
# Panics of a built adapter

Every operation on the way from a configuration to the wire has a precondition, and each
follows from what `build` has checked, but for one: the period of the render loop. The timer
needs one that is not zero, and that it can add to a reading of the clock.
-/

namespace PanicFreedom

open AudiophoreCore RustExec AdapterCore SacnPacket SacnOutput SacnRender AdapterRuns
open AdapterGuarantees StepRuns EngineBus EngineRuns AdapterLifecycle RunPipeline PipelineRuns

/-- No configuration makes the builder itself panic. -/
theorem build_total (config : SacnAdapterBuilder) (freshCid : Uuid) :
    ∃ result, config.build freshCid = .ok result := by
  by_cases h : Acceptable config.universes config.priority
  · obtain ⟨adapter, built, -⟩ := build_accepts h freshCid
    exact ⟨_, built⟩
  · obtain ⟨e, he⟩ := build_rejects h freshCid
    exact ⟨_, he⟩

variable {timer : Timer} {A : F32Arith}

theorem connect_total {host : Host}
    (h : Acceptable host.adapter.universes host.adapter.priority) (env : Answers) :
    ∃ result, (sacnOutput A).connect host env = .ok result := by
  obtain ⟨a, report, hperform, -⟩ := perform_effect A h (.connect env.bind)
  exact ⟨_, by simp only [sacnOutput, hperform, ok_bind]; rfl⟩

theorem disconnect_total {host : Host}
    (h : Acceptable host.adapter.universes host.adapter.priority) (env : Answers) :
    ∃ result, (sacnOutput A).disconnect host env = .ok result := by
  obtain ⟨a, report, hperform, -⟩ := perform_effect A h .disconnect
  exact ⟨_, by simp only [sacnOutput, hperform, ok_bind]; rfl⟩

/-- A task that is as its adapter was built, ticks at its rate, and has not panicked. -/
structure Sound (a₀ : SacnAdapter) (t : AdapterTask Host) : Prop where
  settings_eq : settings t.adapter.adapter = settings a₀
  paced : t.pc ≠ .spawned → t.pc.isFinal = false → t.period = a₀.nativeRate
  no_panic : ∀ panic, t.pc ≠ .panicked panic

variable {a₀ : SacnAdapter} {policy : RenderErrorPolicy}

theorem sound_spawn (a₀ : SacnAdapter) : Sound a₀ (.spawn ⟨a₀, []⟩) :=
  ⟨rfl, fun h => absurd rfl h, by simp [AdapterTask.spawn]⟩

theorem Sound.step {t t' : AdapterTask Host} {event : TaskEvent Answers} {bus : Bus}
    {published : Nat} (h : Sound a₀ t) (h₀ : Acceptable a₀.universes a₀.priority)
    (rate : a₀.nativeRate ≠ 0)
    (timely : ∀ now, event = .overdue now → now + a₀.nativeRate ≤ timer.latest)
    (moves : Moves timer (sacnOutput A) policy bus published t event t') : Sound a₀ t' := by
  have haccept := acceptable_of_settings h.settings_eq h₀
  have hsettings := (settings_of_moves haccept moves).trans h.settings_eq
  have hrate : (sacnOutput A).nativeRate t.adapter = a₀.nativeRate := by
    change (settings t.adapter.adapter).nativeRate = (settings a₀).nativeRate
    rw [h.settings_eq]
  have hpaced : ∀ {pc}, t.pc = pc → pc ≠ .spawned → pc.isFinal = false →
      t.period = a₀.nativeRate := by
    rintro pc rfl
    exact h.paced
  cases moves with
  | intervalPanicked hpc hinterval =>
    rw [hrate, (timer.interval_ok _).mpr rate] at hinterval
    cases hinterval
  | tickPanicked hpc hdelay =>
    rw [hpaced hpc (by simp) rfl, (timer.delay_ok _ _).mpr (timely _ rfl)] at hdelay
    cases hdelay
  | @connectPanicked env p hpc hcall =>
    obtain ⟨result, hok⟩ := connect_total (A := A) haccept env
    rw [hok] at hcall
    cases hcall
  | @renderPanicked env p frame hpc hcall =>
    obtain ⟨a, report, -, hok⟩ := render_effect (A := A) haccept frame.value env
    rw [hok] at hcall
    cases hcall
  | @disconnectPanicked env p hpc hcall =>
    obtain ⟨result, hok⟩ := disconnect_total (A := A) haccept env
    rw [hok] at hcall
    cases hcall
  | started hpc hinterval => exact ⟨hsettings, fun _ _ => hrate, by simp⟩
  | connected hpc | ticked hpc | rendered hpc | renderStopped hpc =>
    exact ⟨hsettings, fun _ _ => hpaced hpc (by simp) rfl, by simp⟩
  | connectFailed hpc | disconnected hpc | aborted hpc =>
    exact ⟨hsettings, (fun _ hlive => by cases hlive), by simp⟩

theorem sound_of_run (h₀ : Acceptable a₀.universes a₀.priority) (rate : a₀.nativeRate ≠ 0)
    {ms : List (Moment Answers)} {t : AdapterTask Host}
    (timely : ∀ m ∈ ms, ∀ now, m.event = .overdue now → now + a₀.nativeRate ≤ timer.latest)
    (run : exec (taskStep timer (sacnOutput A) policy) (.spawn ⟨a₀, []⟩) ms = some t) :
    Sound a₀ t := by
  revert timely
  refine exec_invariant (P := fun ms t =>
    (∀ m ∈ ms, ∀ now, m.event = .overdue now → now + a₀.nativeRate ≤ timer.latest) →
      Sound a₀ t) (fun _ => sound_spawn a₀) ?_ run
  intro ms t m t' _ ih hstep timely
  have hbefore := ih fun m' hm' => timely m' (List.mem_append_left _ hm')
  exact hbefore.step h₀ rate (timely m (by simp)) (moves_of_runAdapter hstep)

/-- The first event of a loop on an empty bus. -/
def firstMoment : Moment Answers := ⟨.empty, 0, .start⟩

/-- A period of zero stops the loop before it has connected. -/
theorem zeroRate_panics {a : SacnAdapter} (hzero : a.nativeRate = 0) :
    ∃ t panic, exec (taskStep timer (sacnOutput A) policy) (.spawn ⟨a, []⟩) [firstMoment] =
      some t ∧ t.pc = .panicked panic := by
  cases hinterval : timer.interval a.nativeRate with
  | ok u => exact absurd hzero ((timer.interval_ok _).mp hinterval)
  | error panic =>
    have hrate : timer.interval ((sacnOutput A).nativeRate ⟨a, []⟩) = .error panic := hinterval
    refine ⟨{ AdapterTask.spawn (⟨a, []⟩ : Host) with pc := .panicked panic }, panic, ?_, rfl⟩
    simp only [exec, taskStep, firstMoment, runAdapter, AdapterTask.spawn, hrate,
      Option.bind_some]

theorem overdue_panics {σ ε : Type} {output : OutputAdapter σ ε} {bus : Bus} {published : Nat}
    {t : AdapterTask σ} (hpc : t.pc = .waiting) {now : Instant} {panic : Panic}
    (hdelay : timer.delay t.period now = .error panic) :
    runAdapter timer output policy bus published t (.overdue now) =
      some { t with pc := .panicked panic } := by
  simp only [runAdapter, hpc, hdelay]

/-- A loop on an empty bus that has just connected. -/
def connectedMoments : List (Moment Answers) :=
  [firstMoment, ⟨.empty, 0, .connected ⟨.ok ⟨40000⟩, .asStored, fun _ => .ok ()⟩⟩]

/-- Its first tick comes late, when the clock reads `now`. -/
def lateMoments (now : Instant) : List (Moment Answers) :=
  connectedMoments ++ [⟨.empty, 0, .overdue now⟩]

/-- A period that the timer cannot add to the clock stops the loop at a late tick. -/
theorem lateTick_panics {a : SacnAdapter} (rate : a.nativeRate ≠ 0) {now : Instant}
    (beyond : timer.latest < now + a.nativeRate) :
    ∃ t panic, exec (taskStep timer (sacnOutput A) policy) (.spawn ⟨a, []⟩) (lateMoments now) =
      some t ∧ t.pc = .panicked panic := by
  have hinterval : timer.interval ((sacnOutput A).nativeRate ⟨a, []⟩) = .ok () :=
    (timer.interval_ok _).mpr rate
  cases hdelay : timer.delay a.nativeRate now with
  | ok u => exact absurd ((timer.delay_ok _ _).mp hdelay) (not_le.mpr beyond)
  | error panic =>
    have hconnected : exec (taskStep timer (sacnOutput A) policy) (.spawn ⟨a, []⟩)
        connectedMoments = some ⟨⟨{ a with socket := some ⟨40000⟩ }, []⟩, a.nativeRate, .waiting,
          [.connect], [(.connect, .ok ())]⟩ := by
      simp only [exec, taskStep, connectedMoments, firstMoment, runAdapter, AdapterTask.spawn,
        hinterval, Option.bind_some]
      rfl
    exact ⟨_, panic, exec_snoc.mpr ⟨_, hconnected, overdue_panics rfl hdelay⟩, rfl⟩

/-- Building never panics. A loop around what was built never does, in any run in which the
clock reads `horizon` at most, if and only if the configured period is not zero and can be
added to `horizon`. -/
theorem panic_free_iff (timer : Timer) (A : F32Arith) (config : SacnAdapterBuilder)
    (freshCid : Uuid) (horizon : Instant) :
    ∃ result, config.build freshCid = .ok result ∧ ∀ adapter, result = .ok adapter →
      ((∀ policy ms t, (∀ m ∈ ms, ∀ now, m.event = .overdue now → now ≤ horizon) →
          exec (taskStep timer (sacnOutput A) policy) (.spawn ⟨adapter, []⟩) ms = some t →
          ∀ panic, t.pc ≠ .panicked panic) ↔
        config.nativeRate ≠ 0 ∧ horizon + config.nativeRate ≤ timer.latest) := by
  obtain ⟨result, hbuild⟩ := build_total config freshCid
  refine ⟨result, hbuild, ?_⟩
  rintro adapter rfl
  obtain ⟨haccept, -, -, -, -, -, hrate⟩ := built_spec hbuild
  rw [← hrate]
  constructor
  · intro safe
    have rate : adapter.nativeRate ≠ 0 := by
      intro hzero
      obtain ⟨t, panic, run, hpc⟩ := zeroRate_panics hzero
      exact safe .logAndContinue _ t (by simp [firstMoment]) run panic hpc
    refine ⟨rate, not_lt.mp fun beyond => ?_⟩
    obtain ⟨t, panic, run, hpc⟩ := lateTick_panics rate beyond
    exact safe .logAndContinue _ t (by simp [lateMoments, connectedMoments, firstMoment]) run panic
      hpc
  · rintro ⟨rate, room⟩ policy ms t readings run
    refine (sound_of_run haccept rate (fun m hm now hevent => ?_) run).no_panic
    exact (Nat.add_le_add_right (readings m hm now hevent) _).trans room

/-- A configuration that `build` accepts and the render loop does not. -/
def stillBuilder : SacnAdapterBuilder := loopbackBuilder.setNativeRate 0

theorem stillBuilder_panics : ∃ adapter, stillBuilder.build zeroCid = .ok (.ok adapter) ∧
    ∃ t panic, exec (taskStep clock64 (sacnOutput (.exact ℚ)) .logAndContinue)
      (.spawn ⟨adapter, []⟩) [firstMoment] = some t ∧ t.pc = .panicked panic := by
  have haccept : Acceptable stillBuilder.universes stillBuilder.priority := loopback_acceptable
  obtain ⟨adapter, built, -, -, -, -, -, hrate⟩ := build_accepts haccept zeroCid
  exact ⟨adapter, built, zeroRate_panics hrate⟩

end PanicFreedom
