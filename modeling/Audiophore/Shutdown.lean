import Audiophore.AdapterLifecycle
import Audiophore.PipelineOutput

/-!
# Stopping the pipeline

`audiophore run` ends on ctrl-c by aborting the adapter task. The only way from the
render loop to `disconnect` is a failed render under the other policy, so a connected adapter
has its socket still open when the task is dropped, and the drop is what closes it.
-/

namespace Shutdown

open ExtendedFloat AudiophoreCore RustExec AdapterCore OscIngress SacnPacket SacnOutput SacnRender
open AdapterRuns AdapterGuarantees StepRuns EngineBus EngineRuns AdapterLifecycle RunPipeline
open PipelineRuns PipelineOutput

/-- The adapter task on its way, its socket open from the connect on. -/
structure Open (a₀ : SacnAdapter) (t : AdapterTask Host) : Prop where
  stage : Stage .logAndContinue t.pc t.calls t.returned
  settings_eq : settings t.adapter.adapter = settings a₀
  socket : (.connect, .ok ()) ∈ t.returned → t.adapter.adapter.socket.isSome = true

variable {timer : Timer} {A : F32Arith} {a₀ : SacnAdapter}

theorem open_spawn : Open a₀ (.spawn { adapter := a₀, wire := [] }) where
  stage := .spawned
  settings_eq := rfl
  socket := by intro h; cases h

/-- No move of the task closes the socket. -/
theorem Open.step {t t' : AdapterTask Host} {event : TaskEvent Answers} {bus : Bus}
    {published : Nat} (h : Open a₀ t) (h₀ : Acceptable a₀.universes a₀.priority)
    (moves : Moves timer (sacnOutput A) .logAndContinue bus published t event t') : Open a₀ t' := by
  have haccept := acceptable_of_settings h.settings_eq h₀
  have hstage := h.stage.step moves
  have hsettings := (settings_of_moves haccept moves).trans h.settings_eq
  cases moves with
  | intervalPanicked hpc | tickPanicked hpc | started hpc | connectPanicked hpc hcall | ticked hpc
  | renderPanicked hpc hcall | disconnectPanicked hpc hcall | aborted hpc =>
    exact ⟨hstage, hsettings, h.socket⟩
  | @connectFailed env a e hpc hcall =>
    refine ⟨hstage, hsettings, ?_⟩
    intro hmem
    obtain ⟨e', hreturned⟩ := hstage.refused_of_finished
    rw [hreturned] at hmem
    simp at hmem
  | @connected env a hpc hcall =>
    obtain ⟨a', report, effect, rfl, hok⟩ := connect_effect haccept hcall
    exact ⟨hstage, hsettings, fun _ => socket_of_connect effect hok⟩
  | @rendered env a outcome frame hpc hcall hgo =>
    obtain ⟨a', report, effect, hrender⟩ := render_effect haccept frame.value env
    obtain ⟨rfl, -⟩ := Prod.mk.inj (Except.ok.inj (hcall.symm.trans hrender))
    refine ⟨hstage, hsettings, ?_⟩
    intro hmem
    have hconnected : (.connect, .ok ()) ∈ t.returned := by simpa using hmem
    exact effect.socket_eq.trans (h.socket hconnected)
  | renderStopped hpc hcall hstop => cases hstop
  | disconnected hpc hcall => exact absurd hpc h.stage.not_disconnecting

/-! ## Runs of the pipeline -/

variable {decodeUdp : Decoder} {args : RunArgs} {p p' : Pipeline} {e : PipelineEvent}

/-- The adapter task, and that it is over once the main task has returned `Ok`. -/
structure Live (a₀ : SacnAdapter) (p : Pipeline) : Prop where
  task : Open a₀ (p.engine.tasks ())
  ended : p.main = .returned (.ok ()) → (p.engine.tasks ()).pc.isFinal = true

theorem tasks_produce (engine : Engine fun _ : Unit => Host)
    (outcome : Except IngressError AudioFrame) :
    (produce (setupOf timer A args) engine outcome).tasks = engine.tasks := by
  cases outcome <;> rfl

/-- Aborting ends the task, if it is not over already. -/
theorem Live.stopped (h : Live a₀ p) (h₀ : Acceptable a₀.universes a₀.priority) (main : Main) :
    Live a₀ { p with main := main, engine := abortTask timer A args p.engine } := by
  cases hstep : engineStep (setupOf timer A args) p.engine (.task () .abort) with
  | none =>
    have hsame : abortTask timer A args p.engine = p.engine := by
      rw [abortTask, hstep, Option.getD_none]
    have hfinal : (p.engine.tasks ()).pc.isFinal = true := by
      by_contra hlive
      simp [engineStep, runAdapter, hlive] at hstep
    rw [hsame]
    exact ⟨h.task, fun _ => hfinal⟩
  | some engine =>
    have habort : abortTask timer A args p.engine = engine := by
      rw [abortTask, hstep, Option.getD_some]
    obtain ⟨t, ht, rfl⟩ := Option.map_eq_some_iff.mp hstep
    have moves := moves_of_runAdapter ht
    rw [habort]
    constructor
    · simp only [Function.update_self]
      exact h.task.step h₀ moves
    · intro _
      simp only [Function.update_self]
      cases moves with
      | aborted hpc => rfl

theorem Live.step (h : Live a₀ p) (h₀ : Acceptable a₀.universes a₀.priority)
    (hstep : pipelineStep timer A decodeUdp args p e = some p') : Live a₀ p' := by
  cases steps_of_pipelineStep hstep with
  | bindFailed hmain => exact ⟨h.task, by simp⟩
  | addrFailed hmain => exact ⟨h.task, by simp⟩
  | listening hmain => exact ⟨h.task, by simp⟩
  | unstoppable hmain => exact ⟨h.task, by simp⟩
  | stopped hmain => exact h.stopped h₀ _
  | received hmain =>
    constructor
    · rw [tasks_produce]
      exact h.task
    · rw [tasks_produce]
      exact h.ended
  | resumed hmain hevent hengine =>
    obtain ⟨t, ht, rfl⟩ := Option.map_eq_some_iff.mp hengine
    constructor
    · simp only [Function.update_self]
      exact h.task.step h₀ (moves_of_runAdapter ht)
    · intro hreturned
      exact absurd hreturned (hmain _)

theorem live_of_run {start : Pipeline} (h₀ : Acceptable a₀.universes a₀.priority)
    (hstart : Live a₀ start) {es : List PipelineEvent}
    (run : exec (pipelineStep timer A decodeUdp args) start es = some p) : Live a₀ p :=
  exec_invariant (P := fun _ p => Live a₀ p) hstart (fun _ _ _ _ _ h hstep => h.step h₀ hstep) run

/-- A pipeline that starts has built its adapter and is not yet receiving. -/
theorem live_start {A64 : Arithmetic ℚ} {freshCid : Uuid} {start : Pipeline}
    (started : startPipeline A64 args freshCid = .ok (.ok start)) :
    ∃ a₀, Acceptable a₀.universes a₀.priority ∧ Live a₀ start := by
  unfold startPipeline at started
  cases hrate : renderRate A64 args with
  | error panic =>
    rw [hrate] at started
    cases started
  | ok rate =>
    rw [hrate, ok_bind] at started
    cases hbuild : (adapterBuilder args rate).build freshCid with
    | error panic =>
      rw [hbuild] at started
      cases started
    | ok built =>
      rw [hbuild, ok_bind] at started
      cases built with
      | error e => cases started
      | ok adapter =>
        cases started
        obtain ⟨haccept, -⟩ := built_spec hbuild
        refine ⟨adapter, haccept, open_spawn, ?_⟩
        intro hreturned
        cases hreturned

/-- No run that ends by ctrl-c has called `disconnect`: the task is over, and an adapter that
was connected has its socket open when the task is dropped. -/
theorem disconnect_never_called {A64 : Arithmetic ℚ} {freshCid : Uuid} {start : Pipeline}
    (started : startPipeline A64 args freshCid = .ok (.ok start)) {es : List PipelineEvent}
    (run : exec (pipelineStep timer A decodeUdp args) start es = some p)
    (connected : (.connect, .ok ()) ∈ (p.engine.tasks ()).returned)
    (ended : p.main = .returned (.ok ())) :
    .disconnect ∉ (p.engine.tasks ()).calls ∧ (p.engine.tasks ()).pc.isFinal = true ∧
      (p.engine.tasks ()).adapter.adapter.socket.isSome = true := by
  obtain ⟨a₀, h₀, hstart⟩ := live_start started
  have h := live_of_run h₀ hstart run
  exact ⟨h.task.stage.no_disconnect, h.ended ended, h.task.socket connected⟩

/-- A short run, and then ctrl-c. -/
def stoppedRun : List PipelineEvent := shortRun ++ [.ctrlC (.ok ())]

def Pipeline.endedConnected (p : Pipeline) : Bool :=
  (match p.main with
    | .returned (.ok ()) => true
    | _ => false) &&
  (p.engine.tasks ()).returned.any fun r =>
    match r with
    | (.connect, .ok ()) => true
    | _ => false

theorem Pipeline.endedConnected_iff (p : Pipeline) : Pipeline.endedConnected p = true ↔
    p.main = .returned (.ok ()) ∧ (.connect, .ok ()) ∈ (p.engine.tasks ()).returned := by
  rw [Pipeline.endedConnected, Bool.and_eq_true, List.any_eq_true]
  constructor
  · rintro ⟨hmain, ⟨c, outcome⟩, hmem, hr⟩
    constructor
    · split at hmain
      · assumption
      · cases hmain
    · split at hr
      · rename_i heq
        rwa [heq] at hmem
      · cases hr
  · rintro ⟨hmain, hmem⟩
    rw [hmain]
    exact ⟨rfl, _, hmem, rfl⟩

theorem stoppedRun_ends : ∃ start p,
    startPipeline (.exact ℚ) stripArgs zeroCid = .ok (.ok start) ∧
      exec (pipelineStep clock64 (.exact ℚ) bassDecoder stripArgs) start stoppedRun = some p ∧
      p.main = .returned (.ok ()) ∧ (.connect, .ok ()) ∈ (p.engine.tasks ()).returned := by
  have ran : ((startPipeline (.exact ℚ) stripArgs zeroCid).toOption.bind Except.toOption).any
      (fun start =>
        (exec (pipelineStep clock64 (.exact ℚ) bassDecoder stripArgs) start stoppedRun).any
        Pipeline.endedConnected) = true := by decide +kernel
  obtain ⟨start, hstart, hrun⟩ := (Option.any_eq_true _ _).mp ran
  obtain ⟨p, run, hends⟩ := (Option.any_eq_true _ _).mp hrun
  refine ⟨start, p, ?_, run, (Pipeline.endedConnected_iff p).mp hends⟩
  generalize startPipeline (.exact ℚ) stripArgs zeroCid = started at hstart
  cases started with
  | error panic => cases hstart
  | ok result =>
    cases result with
    | error e => cases hstart
    | ok start' =>
      cases hstart
      rfl

theorem disconnect_never_called_stopped : ∃ start p,
    startPipeline (.exact ℚ) stripArgs zeroCid = .ok (.ok start) ∧
      exec (pipelineStep clock64 (.exact ℚ) bassDecoder stripArgs) start stoppedRun = some p ∧
      p.main = .returned (.ok ()) ∧ .disconnect ∉ (p.engine.tasks ()).calls := by
  obtain ⟨start, p, started, run, ended, connected⟩ := stoppedRun_ends
  exact ⟨start, p, started, run, ended,
    (disconnect_never_called started run connected ended).1⟩

/-- A connected adapter is left behind without a disconnect. -/
theorem stoppedRun_leaves_adapter_connected : ∃ start p,
    startPipeline (.exact ℚ) stripArgs zeroCid = .ok (.ok start) ∧
      exec (pipelineStep clock64 (.exact ℚ) bassDecoder stripArgs) start stoppedRun = some p ∧
      (.connect, .ok ()) ∈ (p.engine.tasks ()).returned ∧ p.main = .returned (.ok ()) ∧
      .disconnect ∉ (p.engine.tasks ()).calls := by
  obtain ⟨start, p, started, run, ended, connected⟩ := stoppedRun_ends
  obtain ⟨a₀, h₀, hstart⟩ := live_start started
  have h := live_of_run h₀ hstart run
  exact ⟨start, p, started, run, connected, ended, h.task.stage.no_disconnect⟩

end Shutdown
