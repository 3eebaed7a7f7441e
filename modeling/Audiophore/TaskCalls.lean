import Audiophore.PanicFreedom

/-!
# A render loop as a run of its adapter

What `run_adapter` does to the sACN adapter is what its calls do, one after the other, each
with the answers that the operating system gave during it. What holds of every run of the
adapter holds under the loop.
-/

namespace TaskCalls

open ExtendedFloat AudiophoreCore RustExec AdapterCore SacnPacket SacnOutput SacnRender AdapterRuns
open AdapterGuarantees StepRuns EngineBus EngineRuns AdapterLifecycle RunPipeline PipelineRuns
open PanicFreedom

variable {timer : Timer} {A : F32Arith}

/-- A call of the loop, with the answers it got. -/
def callWith (env : Answers) : Call → AdapterCall
  | .connect => .connect env.bind
  | .render frame => .render frame.value env.order env.send
  | .disconnect => .disconnect

/-- The calls of a task that have returned, with the answers they got. -/
def callsOf (t : AdapterTask Host) (envs : List Answers) : List AdapterCall :=
  (answeredCalls t envs).map fun c => callWith c.2 c.1

/-! ## Calls through the trait -/

/-- What a call through the trait amounts to. -/
structure Performs (A : F32Arith) (host : Host) (c : AdapterCall) (host' : Host)
    (report : Report) : Prop where
  perform_eq : perform A host.adapter c = .ok (host'.adapter, report)
  wire_eq : host'.wire.flatten = host.wire.flatten ++ report.sent

section Trait
variable {host host' : Host} {env : Answers} {outcome : Except AdapterError Unit}

theorem connect_performs (hcall : (sacnOutput A).connect host env = .ok (host', outcome)) :
    ∃ report, Performs A host (.connect env.bind) host' report ∧ report.outcome = outcome := by
  obtain ⟨rfl, rfl⟩ := Prod.mk.inj (Except.ok.inj hcall)
  exact ⟨_, ⟨rfl, (List.append_nil _).symm⟩, rfl⟩

theorem disconnect_performs (hcall : (sacnOutput A).disconnect host env = .ok (host', outcome)) :
    ∃ report, Performs A host .disconnect host' report ∧ report.outcome = outcome := by
  obtain ⟨rfl, rfl⟩ := Prod.mk.inj (Except.ok.inj hcall)
  exact ⟨_, ⟨rfl, (List.append_nil _).symm⟩, rfl⟩

theorem render_performs {frame : ResolvedFrame}
    (hcall : (sacnOutput A).render host frame env = .ok (host', outcome)) :
    ∃ report, Performs A host (.render frame env.order env.send) host' report ∧
      report.outcome = outcome := by
  simp only [sacnOutput] at hcall
  cases hperform : perform A host.adapter (.render frame env.order env.send) with
  | error panic =>
    rw [hperform] at hcall
    cases hcall
  | ok result =>
    rw [hperform, ok_bind] at hcall
    obtain ⟨rfl, rfl⟩ := Prod.mk.inj (Except.ok.inj hcall)
    exact ⟨result.2, ⟨hperform, by simp⟩, rfl⟩

end Trait

/-- One call through the trait is one direct call. -/
theorem invoke_performs {host host' : Host} {c : Call × Answers}
    {outcome : Except AdapterError Unit}
    (hcall : invoke (sacnOutput A) host c = .ok (host', outcome)) :
    ∃ report, Performs A host (callWith c.2 c.1) host' report ∧ report.outcome = outcome := by
  obtain ⟨call, env⟩ := c
  cases call with
  | connect => exact connect_performs hcall
  | render frame => exact render_performs hcall
  | disconnect => exact disconnect_performs hcall

/-- Calls through the trait are direct calls, with the same results and the same datagrams. -/
theorem invokeAll_performs {calls : List (Call × Answers)} {host host' : Host}
    {outcomes : List (Except AdapterError Unit)}
    (run : invokeAll (sacnOutput A) host calls = .ok (host', outcomes)) :
    ∃ reports, runCalls A host.adapter (calls.map fun c => callWith c.2 c.1) =
        .ok (host'.adapter, reports) ∧
      outcomes = reports.map Report.outcome ∧
      host'.wire.flatten = host.wire.flatten ++ reports.flatMap Report.sent := by
  induction calls generalizing host outcomes with
  | nil =>
    obtain ⟨rfl, rfl⟩ := Prod.mk.inj (Except.ok.inj run)
    exact ⟨[], rfl, rfl, (List.append_nil _).symm⟩
  | cons c calls ih =>
    rw [invokeAll] at run
    cases hfirst : invoke (sacnOutput A) host c with
    | error p =>
      rw [hfirst] at run
      cases run
    | ok mid =>
      obtain ⟨mid, outcome⟩ := mid
      simp only [hfirst, ok_bind] at run
      cases hrest : invokeAll (sacnOutput A) mid calls with
      | error p =>
        rw [hrest] at run
        cases run
      | ok rest =>
        simp only [hrest, ok_bind] at run
        obtain ⟨rfl, rfl⟩ := Prod.mk.inj (Except.ok.inj run)
        obtain ⟨report, performs, rfl⟩ := invoke_performs hfirst
        obtain ⟨reports, hreports, houtcomes, hwire⟩ := ih hrest
        refine ⟨report :: reports, ?_, ?_, ?_⟩
        · simp only [List.map_cons, runCalls, performs.perform_eq, ok_bind, hreports]
          rfl
        · rw [List.map_cons, houtcomes]
        · rw [hwire, performs.wire_eq, List.flatMap_cons, List.append_assoc]

/-! ## The calls of a loop -/

/-- The task is as its adapter was built, and each answer so far has ended a call. -/
structure Performed (A : F32Arith) (a₀ : SacnAdapter) (t : AdapterTask Host)
    (envs : List Answers) : Prop where
  settings_eq : settings t.adapter.adapter = settings a₀
  replayed : Replayed (sacnOutput A) ⟨a₀, []⟩ envs t
  length_eq : t.returned.length = envs.length

variable {a₀ : SacnAdapter} {t t' : AdapterTask Host} {envs : List Answers}

theorem performed_spawn : Performed A a₀ (.spawn ⟨a₀, []⟩) [] :=
  ⟨rfl, replayed_spawn _ _, rfl⟩

/-- No call of a built adapter panics, so every answer ends one. -/
theorem Performed.step (h : Performed A a₀ t envs)
    (h₀ : Acceptable a₀.universes a₀.priority) {policy : RenderErrorPolicy} {bus : Bus}
    {published : Nat} {event : TaskEvent Answers}
    (moves : Moves timer (sacnOutput A) policy bus published t event t') :
    Performed A a₀ t' (envs ++ (TaskEvent.answers event).toList) := by
  have haccept := acceptable_of_settings h.settings_eq h₀
  refine ⟨(settings_of_moves haccept moves).trans h.settings_eq, h.replayed.step moves, ?_⟩
  have hlength := h.length_eq
  cases moves with
  | intervalPanicked hpc | tickPanicked hpc | started hpc | ticked hpc | aborted hpc =>
    simpa [TaskEvent.answers] using hlength
  | @connectPanicked env p hpc hcall =>
    obtain ⟨result, hok⟩ := connect_total (A := A) haccept env
    rw [hok] at hcall
    cases hcall
  | @renderPanicked env p frame hpc hcall =>
    obtain ⟨a, report, -, hok⟩ := render_effect (A := A) haccept frame.value env
    rw [hok] at hcall
    cases hcall
  | @disconnectPanicked env p hpc hcall =>
    obtain ⟨result, hok⟩ := disconnect_total (A := A) haccept env
    rw [hok] at hcall
    cases hcall
  | connectFailed hpc | connected hpc | rendered hpc | renderStopped hpc | disconnected hpc =>
    simp [TaskEvent.answers, hlength]

/-- The adapter has made the calls that have returned, and they are all that is on the wire. -/
theorem Performed.calls (h : Performed A a₀ t envs) :
    ∃ reports, runCalls A a₀ (callsOf t envs) = .ok (t.adapter.adapter, reports) ∧
      t.returned.map Prod.snd = reports.map Report.outcome ∧
      t.adapter.wire.flatten = reports.flatMap Report.sent :=
  invokeAll_performs h.replayed.replay

end TaskCalls
