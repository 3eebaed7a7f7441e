import Audiophore.Shutdown
import Audiophore.TaskIsolation

/-!
# What the parts of a pipeline see of one another

What the main task and the adapter task do together is a run of the engine, with one loop.
Neither sees a datagram that cannot be decoded.
-/

namespace PipelineProjections

open ExtendedFloat AudiophoreCore FrameBuilder RustExec OscIngress IngressHistory SacnPacket
open SacnOutput SacnRender AdapterGuarantees StepRuns EngineBus EngineRuns TaskIsolation
open RunPipeline PipelineRuns PipelineOutput Shutdown

variable {timer : Timer} {A : F32Arith} {decodeUdp : Decoder} {args : RunArgs}

/-- A pipeline that starts has built its adapter, and nothing has run yet. -/
theorem start_eq {A64 : Arithmetic ℚ} {freshCid : Uuid} {start : Pipeline}
    (started : startPipeline A64 args freshCid = .ok (.ok start)) :
    ∃ rate adapter, renderRate A64 args = .ok rate ∧
      (adapterBuilder args rate).build freshCid = .ok (.ok adapter) ∧
      start = { main := .binding, builder := .new,
                engine := Engine.start fun _ => { adapter := adapter, wire := [] } } := by
  unfold startPipeline at started
  cases hrate : renderRate A64 args with
  | error panic =>
    rw [hrate] at started
    cases started
  | ok rate =>
    rw [hrate, ok_bind] at started
    cases hbuild : (adapterBuilder args rate).build freshCid with
    | error panic =>
      rw [hbuild] at started
      cases started
    | ok built =>
      rw [hbuild, ok_bind] at started
      cases built with
      | error e => cases started
      | ok adapter =>
        cases started
        exact ⟨rate, adapter, rfl, hbuild, rfl⟩

/-! ## The engine under a pipeline -/

def PipelineEvent.ofTask : PipelineEvent → Option (TaskEvent Answers)
  | .task event => some event
  | _ => none

/-- The events of the adapter task, but for its abortion. -/
def taskEvents (es : List PipelineEvent) : List (TaskEvent Answers) :=
  es.filterMap PipelineEvent.ofTask

/-- A run of the engine that does what the pipeline has done so far. -/
structure Underlying (timer : Timer) (A : F32Arith) (decodeUdp : Decoder) (args : RunArgs)
    (host : Host)
    (es : List PipelineEvent) (p : Pipeline)
    (fs : List (EngineEvent fun _ : Unit => Answers)) : Prop where
  builder_eq : p.builder = (listen A decodeUdp .new (arrivals es)).1
  run : exec (engineStep (setupOf timer A args)) (Engine.start fun _ => host) fs = some p.engine
  receives_eq : receives fs = (listen A decodeUdp .new (arrivals es)).2
  ticks_eq : seenAt () 0 fs = (heardAtTicks decodeUdp [] es).map List.length
  running : (∀ result, p.main ≠ .returned result) → eventsOf () fs = taskEvents es
  ended : eventsOf () fs = taskEvents es ∨ eventsOf () fs = taskEvents es ++ [.abort]

variable {host : Host} {es : List PipelineEvent} {p : Pipeline}
  {fs : List (EngineEvent fun _ : Unit => Answers)}

theorem Underlying.okFrames_eq (h : Underlying timer A decodeUdp args host es p fs) :
    okFrames fs = returnedFrames (listen A decodeUdp .new (arrivals es)).2 := by
  rw [okFrames_eq_receives, h.receives_eq]
  rfl

theorem eventsOf_snoc (fs : List (EngineEvent fun _ : Unit => Answers))
    (e : EngineEvent fun _ : Unit => Answers) :
    eventsOf () (fs ++ [e]) = eventsOf () fs ++ eventsOf () [e] := by
  simp [eventsOf, Components.ownEvents]

/-- An event of the main task alone is no event of the engine. -/
theorem Underlying.main (h : Underlying timer A decodeUdp args host es p fs) {e : PipelineEvent}
    (harrived : PipelineEvent.arrived e = none) (htick : PipelineEvent.isTick e = false)
    (htask : PipelineEvent.ofTask e = none) (hmain : ∀ result, p.main ≠ .returned result)
    (main : Main) :
    Underlying timer A decodeUdp args host (es ++ [e]) { p with main := main } fs := by
  have harrivals : arrivals (es ++ [e]) = arrivals es := by simp [arrivals, harrived]
  have htasks : taskEvents (es ++ [e]) = taskEvents es := by simp [taskEvents, htask]
  refine ⟨?_, h.run, ?_, ?_, fun _ => ?_, .inl ?_⟩
  · rw [harrivals]
    exact h.builder_eq
  · rw [harrivals]
    exact h.receives_eq
  · rw [heardAtTicks_append, h.ticks_eq]
    simp [heardAtTicks, htick]
  · rw [htasks]
    exact h.running hmain
  · rw [htasks]
    exact h.running hmain

theorem Underlying.received (h : Underlying timer A decodeUdp args host es p fs)
    (hmain : ∀ result, p.main ≠ .returned result) (arrival : Arrival) :
    Underlying timer A decodeUdp args host (es ++ [.arrival arrival])
      { p with
        builder := (recv A decodeUdp p.builder arrival).1
        engine := produce (setupOf timer A args) p.engine (recv A decodeUdp p.builder arrival).2 }
      (fs ++ [.recv (recv A decodeUdp p.builder arrival).2]) := by
  have harrivals : arrivals (es ++ [.arrival arrival]) = arrivals es ++ [arrival] :=
    arrivals_append es [.arrival arrival]
  have hsnoc := listen_snoc A decodeUdp .new (arrivals es) arrival
  rw [← h.builder_eq] at hsnoc
  have hevents : eventsOf () (fs ++ [.recv (recv A decodeUdp p.builder arrival).2]) =
      taskEvents (es ++ [.arrival arrival]) := by
    rw [eventsOf_snoc, h.running hmain, taskEvents, taskEvents, List.filterMap_append]
    rfl
  refine ⟨?_, exec_snoc.mpr ⟨p.engine, h.run, rfl⟩, ?_, ?_, fun _ => hevents, .inl hevents⟩
  · rw [harrivals, hsnoc]
  · rw [harrivals, hsnoc, receives, List.filterMap_append, ← receives, h.receives_eq]
    rfl
  · rw [heardAtTicks_append, seenAt_append, h.ticks_eq]
    simp [heardAtTicks, seenAt, EngineEvent.isTickOf, PipelineEvent.isTick]

/-- An event that moves the adapter task, by itself or because the main task aborts it. -/
theorem Underlying.moved (h : Underlying timer A decodeUdp args host es p fs) {e : PipelineEvent}
    {event : TaskEvent Answers} {engine : Engine fun _ : Unit => Host}
    (harrived : PipelineEvent.arrived e = none)
    (htick : PipelineEvent.isTick e = TaskEvent.isTick event)
    (hstep : engineStep (setupOf timer A args) p.engine (.task () event) = some engine)
    {main : Main}
    (running : (∀ result, main ≠ .returned result) →
      taskEvents es ++ [event] = taskEvents (es ++ [e]))
    (ended : taskEvents es ++ [event] = taskEvents (es ++ [e]) ∨
      taskEvents es ++ [event] = taskEvents (es ++ [e]) ++ [.abort])
    (hmain : ∀ result, p.main ≠ .returned result) :
    Underlying timer A decodeUdp args host (es ++ [e]) { p with main := main, engine := engine }
      (fs ++ [.task () event]) := by
  have harrivals : arrivals (es ++ [e]) = arrivals es := by simp [arrivals, harrived]
  have hdecoded : (okFrames fs).length = (decodedPackets decodeUdp (arrivals es)).length := by
    rw [h.okFrames_eq, length_returnedFrames]
  have hevents : eventsOf () (fs ++ [.task () event]) = taskEvents es ++ [event] := by
    rw [eventsOf_snoc, h.running hmain]
    simp [eventsOf, eventOf]
    rfl
  refine ⟨?_, exec_snoc.mpr ⟨p.engine, h.run, hstep⟩, ?_, ?_, ?_, ?_⟩
  · rw [harrivals]
    exact h.builder_eq
  · rw [harrivals, receives, List.filterMap_append, ← receives, h.receives_eq]
    exact List.append_nil _
  · rw [heardAtTicks_append, seenAt_append, h.ticks_eq, hdecoded]
    cases hticked : TaskEvent.isTick event <;>
      simp [heardAtTicks, seenAt, EngineEvent.isTickOf, htick, hticked]
  · rw [hevents]
    exact running
  · rw [hevents]
    exact ended

theorem Underlying.step (h : Underlying timer A decodeUdp args host es p fs) {e : PipelineEvent}
    {p' : Pipeline} (hstep : pipelineStep timer A decodeUdp args p e = some p') :
    ∃ fs', Underlying timer A decodeUdp args host (es ++ [e]) p' fs' := by
  cases steps_of_pipelineStep hstep with
  | bindFailed hp | addrFailed hp | listening hp | unstoppable hp =>
    exact ⟨fs, h.main rfl rfl rfl (by simp [hp]) _⟩
  | received hp => exact ⟨_, h.received (by simp [hp]) _⟩
  | @resumed event engine hrunning hevent hengine =>
    have htasks : taskEvents es ++ [event] = taskEvents (es ++ [.task event]) := by
      simp [taskEvents, PipelineEvent.ofTask]
    exact ⟨_, h.moved rfl rfl hengine (fun _ => htasks) (.inl htasks) hrunning⟩
  | @stopped hp =>
    cases habort : engineStep (setupOf timer A args) p.engine (.task () .abort) with
    | none =>
      -- the task had ended by itself
      rw [abortTask, habort, Option.getD_none]
      exact ⟨fs, h.main rfl rfl rfl (by simp [hp]) _⟩
    | some engine =>
      rw [abortTask, habort, Option.getD_some]
      have htasks : taskEvents (es ++ [.ctrlC (.ok ())]) = taskEvents es := by
        simp [taskEvents, PipelineEvent.ofTask]
      refine ⟨_, h.moved rfl rfl habort ?_ (.inr ?_) (by simp [hp])⟩
      · intro hreturned
        exact absurd rfl (hreturned _)
      · rw [htasks]

theorem underlying_of_run {main : Main}
    (run : exec (pipelineStep timer A decodeUdp args)
      { main := main, builder := .new, engine := Engine.start fun _ => host } es = some p) :
    ∃ fs, Underlying timer A decodeUdp args host es p fs := by
  refine exec_invariant (P := fun es p => ∃ fs, Underlying timer A decodeUdp args host es p fs)
    ⟨[], rfl, rfl, rfl, rfl, fun _ => rfl, .inl rfl⟩ ?_ run
  rintro es s e s' - ⟨fs, h⟩ hstep
  exact h.step hstep

/-- What every move of the adapter task keeps holds of it at every point of a run. -/
theorem task_of_run {P : List (TaskEvent Answers) → AdapterTask Host → Prop}
    (spawned : P [] (.spawn host))
    (kept : ∀ events t event t' bus published, P events t →
      Moves timer (sacnOutput A) .logAndContinue bus published t event t' →
      P (events ++ [event]) t')
    {engine : Engine fun _ : Unit => Host}
    (run : exec (engineStep (setupOf timer A args)) (Engine.start fun _ => host) fs = some engine) :
    P (eventsOf () fs) (engine.tasks ()) := by
  refine exec_invariant (P := fun fs engine => P (eventsOf () fs) (engine.tasks ())) spawned ?_ run
  intro fs engine e engine' _ h hstep
  rw [eventsOf_snoc]
  cases e with
  | recv outcome =>
    obtain rfl := Option.some.inj hstep
    have hnone : eventsOf () [(.recv outcome : EngineEvent fun _ : Unit => Answers)] = [] := rfl
    rw [tasks_produce, hnone, List.append_nil]
    exact h
  | task i event =>
    obtain ⟨t, ht, rfl⟩ := Option.map_eq_some_iff.mp hstep
    simp only [Function.update_self]
    exact kept _ _ _ _ _ _ h (moves_of_runAdapter ht)

/-- `audiophore run` is the engine with one loop: a producer that receives what the listener
returns, and a loop that sees what had been decoded before its ticks. -/
theorem pipeline_runs_the_engine {A64 : Arithmetic ℚ} {freshCid : Uuid} {start : Pipeline}
    (started : startPipeline A64 args freshCid = .ok (.ok start))
    (run : exec (pipelineStep timer A decodeUdp args) start es = some p) :
    ∃ adapter fs,
      exec (engineStep (setupOf timer A args)) (Engine.start fun _ => ⟨adapter, []⟩) fs =
        some p.engine ∧
      receives fs = (listen A decodeUdp .new (arrivals es)).2 ∧
      p.builder = (listen A decodeUdp .new (arrivals es)).1 ∧
      (eventsOf () fs = taskEvents es ∨ eventsOf () fs = taskEvents es ++ [.abort]) ∧
      seenAt () 0 fs = (heardAtTicks decodeUdp [] es).map List.length := by
  obtain ⟨rate, adapter, -, -, rfl⟩ := start_eq started
  obtain ⟨fs, h⟩ := underlying_of_run run
  exact ⟨adapter, fs, h.run, h.receives_eq, h.builder_eq, h.ended, h.ticks_eq⟩

theorem exists_start {args : RunArgs} {q : Pipeline → Bool}
    (ran : ((startPipeline (.exact ℚ) args zeroCid).toOption.bind Except.toOption).any q = true) :
    ∃ start, startPipeline (.exact ℚ) args zeroCid = .ok (.ok start) ∧ q start = true := by
  obtain ⟨start, hstart, hq⟩ := (Option.any_eq_true _ _).mp ran
  refine ⟨start, ?_, hq⟩
  generalize startPipeline (.exact ℚ) args zeroCid = started at hstart
  cases started with
  | error panic => cases hstart
  | ok result =>
    cases result with
    | error e => cases hstart
    | ok start' =>
      cases hstart
      rfl

theorem exists_run {args : RunArgs} {decodeUdp : Decoder} {es : List PipelineEvent}
    (ran : ((startPipeline (.exact ℚ) args zeroCid).toOption.bind Except.toOption).any
      (fun start => (exec (pipelineStep clock64 (.exact ℚ) decodeUdp args) start es).isSome) =
        true) :
    ∃ start p, startPipeline (.exact ℚ) args zeroCid = .ok (.ok start) ∧
      exec (pipelineStep clock64 (.exact ℚ) decodeUdp args) start es = some p := by
  obtain ⟨start, started, hrun⟩ := exists_start ran
  obtain ⟨p, run⟩ := Option.isSome_iff_exists.mp hrun
  exact ⟨start, p, started, run⟩

/-- A short run, with a failed receive on the way, and then ctrl-c. -/
def noisyRun : List PipelineEvent :=
  [.bound (.ok ()) (.ok ⟨stripArgs.oscBind, 9000⟩), .task .start,
    .arrival (.error "interrupted"), .arrival (.ok []), .task (.connected calmAnswers),
    .task .tick, .task (.rendered calmAnswers), .ctrlC (.ok ())]

theorem noisyRun_runs : ∃ start p,
    startPipeline (.exact ℚ) stripArgs zeroCid = .ok (.ok start) ∧
      exec (pipelineStep clock64 (.exact ℚ) bassDecoder stripArgs) start noisyRun = some p :=
  exists_run (by decide +kernel)

theorem pipeline_runs_the_engine_noisy : ∃ start p,
    startPipeline (.exact ℚ) stripArgs zeroCid = .ok (.ok start) ∧
      exec (pipelineStep clock64 (.exact ℚ) bassDecoder stripArgs) start noisyRun = some p ∧
      ∃ adapter fs, exec (engineStep (setupOf clock64 (.exact ℚ) stripArgs))
        (Engine.start fun _ => ⟨adapter, []⟩) fs = some p.engine := by
  obtain ⟨start, p, started, run⟩ := noisyRun_runs
  obtain ⟨adapter, fs, hrun, -⟩ := pipeline_runs_the_engine started run
  exact ⟨start, p, started, run, adapter, fs, hrun⟩

/-! ## What the adapter task leaves alone -/

theorem sharedOf_of_task {engine engine' : Engine fun _ : Unit => Host}
    {event : TaskEvent Answers}
    (hstep : engineStep (setupOf timer A args) engine (.task () event) = some engine') :
    sharedOf engine' = sharedOf engine := by
  obtain ⟨t, -, rfl⟩ := Option.map_eq_some_iff.mp hstep
  rfl

theorem sharedOf_abortTask (engine : Engine fun _ : Unit => Host) :
    sharedOf (abortTask timer A args engine) = sharedOf engine := by
  rw [abortTask]
  cases hstep : engineStep (setupOf timer A args) engine (.task () .abort) with
  | none => rfl
  | some engine' => exact sharedOf_of_task hstep

/-- An abortion drops the task where it is. -/
theorem abortTask_tasks (timer : Timer) (A : F32Arith) (args : RunArgs)
    (engine : Engine fun _ : Unit => Host) :
    (abortTask timer A args engine).tasks () = engine.tasks () ∨
      (abortTask timer A args engine).tasks () = { engine.tasks () with pc := .cancelled } := by
  rw [abortTask]
  cases hstep : engineStep (setupOf timer A args) engine (.task () .abort) with
  | none => exact .inl rfl
  | some engine' =>
    obtain ⟨t, ht, rfl⟩ := Option.map_eq_some_iff.mp hstep
    cases moves_of_runAdapter ht with
    | aborted hpc => exact .inr (by simp)

/-! ## Datagrams that cannot be decoded -/

/-- Anything but a datagram that is rejected or a receive that fails. -/
def PipelineEvent.isWellFormed (decodeUdp : Decoder) : PipelineEvent → Bool
  | .arrival arrival => (packetOf decodeUdp arrival).isSome
  | _ => true

theorem pipelineStep_undecodable {arrival : Arrival} (h : packetOf decodeUdp arrival = none)
    {p' : Pipeline} (hstep : pipelineStep timer A decodeUdp args p (.arrival arrival) = some p') :
    p' = p := by
  obtain ⟨hbuilder, hnone⟩ := recv_undecodable A decodeUdp h p.builder
  cases steps_of_pipelineStep hstep with
  | received hmain =>
    cases houtcome : (recv A decodeUdp p.builder arrival).2 with
    | ok frame =>
      rw [houtcome] at hnone
      cases hnone
    | error e => simp [hbuilder, produce]

/-- Malformed traffic leaves no trace: without it the same run ends in the same state, down
to every datagram sent and every counter. -/
theorem malformed_datagrams_leave_no_trace {start : Pipeline}
    (run : exec (pipelineStep timer A decodeUdp args) start es = some p) :
    exec (pipelineStep timer A decodeUdp args) start
      (es.filter (PipelineEvent.isWellFormed decodeUdp)) = some p := by
  have hidden : ∀ p e p', PipelineEvent.isWellFormed decodeUdp e = false →
      pipelineStep timer A decodeUdp args p e = some p' → id p' = id p := by
    intro p e p' hbad hstep
    cases e with
    | arrival arrival =>
      have hundecodable : packetOf decodeUdp arrival = none := by
        simpa [PipelineEvent.isWellFormed] using hbad
      exact pipelineStep_undecodable hundecodable hstep
    | _ => cases hbad
  have shown : ∀ p q e p', PipelineEvent.isWellFormed decodeUdp e = true → id p = id q →
      pipelineStep timer A decodeUdp args p e = some p' →
      ∃ q', pipelineStep timer A decodeUdp args q e = some q' ∧ id p' = id q' := by
    rintro p q e p' - rfl hstep
    exact ⟨p', hstep, rfl⟩
  obtain ⟨q, hrun, rfl⟩ := exec_filter hidden shown rfl run
  exact hrun

theorem malformed_datagrams_leave_no_trace_noisy : ∃ start p,
    exec (pipelineStep clock64 (.exact ℚ) bassDecoder stripArgs) start noisyRun = some p ∧
      exec (pipelineStep clock64 (.exact ℚ) bassDecoder stripArgs) start stoppedRun = some p := by
  obtain ⟨start, p, -, run⟩ := noisyRun_runs
  exact ⟨start, p, run, malformed_datagrams_leave_no_trace run⟩

end PipelineProjections
