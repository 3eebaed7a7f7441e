import Audiophore.PipelineProjections
import Audiophore.PanicFreedom

/-!
# The pipeline never panics

No command line makes `audiophore run` panic. The frame rate that `clap` lets through always
gives a period that the timer accepts, of a second at most, and the checks of the adapter
builder are the only ones that can refuse to start.
-/

namespace PipelineSafety

open ExtendedFloat AudiophoreCore RustExec AdapterCore OscIngress SacnPacket SacnOutput SacnRender
open AdapterGuarantees CliUniverses StepRuns EngineBus EngineRuns RunPipeline PipelineRuns
open PipelineOutput TaskIsolation PipelineProjections PanicFreedom

/-- `f64` rounding that loses less than half of the time of a frame, at the frame rates that
can be asked for. -/
def Careful (A64 : Arithmetic ℚ) : Prop :=
  ∀ x : ℚ, 1 / 65535 ≤ x → x ≤ 1 → (A64.round x).Within (x / 2) 1

variable {A64 : Arithmetic ℚ}

/-! ## The period of the render loop -/

theorem floor_le_roundHalfEven (x : ℚ) : ⌊x⌋.toNat ≤ roundHalfEven x := by
  rw [roundHalfEven]
  apply Int.toNat_le_toNat
  split
  · exact le_rfl
  · split
    · omega
    · split <;> omega

theorem roundHalfEven_le {x : ℚ} {n : Nat} (h : x ≤ n) : roundHalfEven x ≤ n := by
  have hfloor : ⌊x⌋ ≤ n := by exact_mod_cast Int.floor_le_floor h
  rw [roundHalfEven, Int.toNat_le]
  by_cases hlast : ⌊x⌋ = n
  · have hrest : x - ⌊x⌋ < 1 / 2 := by
      have heq : (⌊x⌋ : ℚ) = n := by exact_mod_cast hlast
      rw [heq]
      linarith
    simp only [hrest, ↓reduceIte]
    exact hfloor
  · split
    · exact hfloor
    · split
      · omega
      · split <;> omega

/-- Between one and 65535 frames in a second leave some nanoseconds for each of them, and a
second at most. -/
theorem renderRate_bounds (careful : Careful A64) (args : RunArgs) :
    ∃ rate, renderRate A64 args = .ok rate ∧ rate ≠ 0 ∧ rate ≤ 10 ^ 9 := by
  have hfps : (1 : ℚ) ≤ (max args.fps.toNat 1 : Nat) := by
    exact_mod_cast Nat.le_max_right args.fps.toNat 1
  have hmax : ((max args.fps.toNat 1 : Nat) : ℚ) ≤ 65535 := by
    have hlt := args.fps.toNat_lt
    exact_mod_cast (by omega : max args.fps.toNat 1 ≤ 65535)
  have hpos : (0 : ℚ) < (max args.fps.toNat 1 : Nat) := lt_of_lt_of_le one_pos hfps
  obtain ⟨secs, hsecs, hlow, hhigh⟩ := careful (1 / (max args.fps.toNat 1 : Nat))
    (one_div_le_one_div_of_le hpos hmax) (div_le_one_of_le₀ hfps hpos.le)
  have hleast : (1 : ℚ) / 65535 / 2 ≤ secs := by
    refine le_trans ?_ hlow
    gcongr
  have hdiv : A64.div (.fin 1) (.fin (max args.fps.toNat 1 : Nat)) = .fin secs := by
    simp only [Arithmetic.div, hpos.ne', ↓reduceIte]
    exact hsecs
  have hvalid : ¬(secs < 0 ∨ 2 ^ 64 ≤ secs) := by
    rintro (hneg | hbig)
    · linarith
    · linarith
  refine ⟨_, by rw [renderRate, hdiv, durationFromSecs, if_neg hvalid]; rfl, ?_, ?_⟩
  swap
  · refine roundHalfEven_le ?_
    push_cast
    linarith
  have hfloor : (1 : ℤ) ≤ ⌊secs * 10 ^ 9⌋ := by
    rw [Int.le_floor]
    push_cast
    linarith
  have hround := floor_le_roundHalfEven (secs * 10 ^ 9)
  have hleast : 1 ≤ roundHalfEven (secs * 10 ^ 9) := by omega
  exact Nat.one_le_iff_ne_zero.mp hleast

/-! ## The adapter task -/

variable {timer : Timer} {A : F32Arith} {decodeUdp : Decoder} {args : RunArgs}

theorem sound_of_pipeline {a₀ : SacnAdapter} (h₀ : Acceptable a₀.universes a₀.priority)
    (rate : a₀.nativeRate ≠ 0) {main : Main} {es : List PipelineEvent} {p : Pipeline}
    (timely : ∀ now, .task (.overdue now) ∈ es → now + a₀.nativeRate ≤ timer.latest)
    (run : exec (pipelineStep timer A decodeUdp args)
      { main := main, builder := .new, engine := Engine.start fun _ => ⟨a₀, []⟩ } es = some p) :
    Sound a₀ (p.engine.tasks ()) := by
  obtain ⟨fs, h⟩ := underlying_of_run run
  have hevents : ∀ now, .overdue now ∈ eventsOf () fs → now + a₀.nativeRate ≤ timer.latest := by
    intro now hnow
    have htask : .overdue now ∈ taskEvents es := by
      rcases h.ended with heq | heq <;> simpa [heq] using hnow
    obtain ⟨e, he, htaskOf⟩ := List.mem_filterMap.mp htask
    cases e with
    | task event =>
      obtain rfl := Option.some.inj htaskOf
      exact timely now he
    | _ => cases htaskOf
  revert hevents
  refine task_of_run (P := fun events t =>
    (∀ now, .overdue now ∈ events → now + a₀.nativeRate ≤ timer.latest) → Sound a₀ t)
    (fun _ => sound_spawn a₀) ?_ h.run
  intro events t event t' bus published ih moves hevents
  have hbefore := ih fun now hnow => hevents now (List.mem_append_left _ hnow)
  exact hbefore.step h₀ rate (fun now hnow => hevents now (by simp [hnow])) moves

/-- For every command line: starting does not panic, it succeeds exactly when the universes of
the strip fit, and otherwise the builder says why; and in no run does the adapter task
panic, while the clock is a second or more from the last `Instant`. -/
theorem run_never_panics (careful : Careful A64) (timer : Timer) (A : F32Arith) (args : RunArgs)
    (freshCid : Uuid) :
    ∃ result, startPipeline A64 args freshCid = .ok result ∧
      ((∃ start, result = .ok start) ↔ universeCount args.pixels.toNat ≤ 64 ∧
        1 ≤ args.startUniverse.toNat ∧
        args.startUniverse.toNat + universeCount args.pixels.toNat - 1 ≤ 63999) ∧
      (∀ e, result = .error e → ∃ reason, e = .buildingAdapter reason) ∧
      ∀ start, result = .ok start → ∀ decodeUdp es p,
        (∀ now, .task (.overdue now) ∈ es → now + 10 ^ 9 ≤ timer.latest) →
        exec (pipelineStep timer A decodeUdp args) start es = some p →
        ∀ panic, (p.engine.tasks ()).pc ≠ .panicked panic := by
  obtain ⟨rate, paced, hrate, hsecond⟩ := renderRate_bounds careful args
  have hlist : Acceptable (adapterBuilder args rate).universes (adapterBuilder args rate).priority ↔
      universeCount args.pixels.toNat ≤ 64 ∧ 1 ≤ args.startUniverse.toNat ∧
        args.startUniverse.toNat + universeCount args.pixels.toNat - 1 ≤ 63999 :=
    acceptable_universesFor_iff args.pixels args.startUniverse
  rw [← hlist]
  by_cases haccept :
    Acceptable (adapterBuilder args rate).universes (adapterBuilder args rate).priority
  · obtain ⟨adapter, built, -⟩ := build_accepts haccept freshCid
    obtain ⟨h₀, -, -, -, -, -, hsame⟩ := built_spec built
    have hnative : adapter.nativeRate = rate := hsame
    refine ⟨_, by simp only [startPipeline, paced, built, ok_bind]; rfl, ?_, ?_, ?_⟩
    · exact iff_of_true ⟨_, rfl⟩ haccept
    · intro e he
      cases he
    · intro start hstart decodeUdp es p readings run
      obtain rfl := Except.ok.inj hstart
      refine (sound_of_pipeline h₀ (hnative ▸ hrate) (fun now hnow => ?_) run).no_panic
      rw [hnative]
      exact (Nat.add_le_add_left hsecond now).trans (readings now hnow)
  · obtain ⟨reason, refused⟩ := build_rejects haccept freshCid
    refine ⟨_, by simp only [startPipeline, paced, refused, ok_bind]; rfl, ?_, ?_, ?_⟩
    · refine iff_of_false ?_ haccept
      rintro ⟨start, hstart⟩
      cases hstart
    · intro e he
      exact ⟨reason, (Except.error.inj he).symm⟩
    · intro start hstart
      cases hstart

/-- As many frames in a second as can be asked for. -/
def hastyArgs : RunArgs := { stripArgs with fps := 65535 }

/-- The clock of 64 bits has room for all but the last second. -/
theorem run_never_panics_hasty : ∃ start,
    startPipeline (.exact ℚ) hastyArgs zeroCid = .ok (.ok start) ∧ ∀ es p,
      (∀ now, .task (.overdue now) ∈ es → now ≤ 2 ^ 64 - 1 - 10 ^ 9) →
      exec (pipelineStep clock64 (.exact ℚ) bassDecoder hastyArgs) start es = some p →
      ∀ panic, (p.engine.tasks ()).pc ≠ .panicked panic := by
  have careful : Careful (.exact ℚ) := by
    intro x hlow hhigh
    have hpos : 0 ≤ x := le_trans (by norm_num) hlow
    exact ⟨x, rfl, by linarith, hhigh⟩
  obtain ⟨result, started, hstarts, -, safe⟩ :=
    run_never_panics careful clock64 (.exact ℚ) hastyArgs zeroCid
  obtain ⟨start, rfl⟩ := hstarts.mpr (by decide)
  refine ⟨start, started, fun es p readings run => ?_⟩
  refine safe start rfl bassDecoder es p (fun now hnow => ?_) run
  exact (Nat.add_le_add_right (readings now hnow) _).trans (by decide)

end PipelineSafety
