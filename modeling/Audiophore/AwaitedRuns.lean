import Audiophore.AwaitedLoop
import Audiophore.PipelineScreens

/-!
# The pipeline at every await point

Datagrams arrive between the sends of a render, and ctrl-c drops it there. This is
`audiophore run` with an event for each of these points. It comes to the same as the
pipeline that renders in one event.
-/

namespace AwaitedRuns

open ExtendedFloat AudiophoreCore FrameBuilder RustExec AdapterCore OscIngress IngressHistory
open SacnPacket SacnOutput SacnRender AdapterRuns AdapterGuarantees StepRuns EngineBus EngineRuns
open TaskIsolation RunPipeline PipelineRuns PipelineOutput Shutdown PipelineProjections AwaitedSends
open AwaitedLoop Screens ReceiverScreens CliUniverses PipelineScreens

/-! ## The pipeline -/

structure AwaitedPipeline where
  main : Main
  builder : AudioFrameBuilder
  shared : Shared
  task : AwaitedTask

/-- The pipeline as it starts. -/
def awaited (p : Pipeline) : AwaitedPipeline :=
  { main := p.main, builder := p.builder, shared := sharedOf p.engine,
    task := .spawn (p.engine.tasks ()).adapter.adapter }

inductive AwaitedPipelineEvent where
  | bound (outcome : Except IngressError Unit) (localAddr : Except IngressError SocketAddr)
  | ctrlC (outcome : Except IoError Unit)
  | arrival (arrival : Arrival)
  | task (event : AwaitEvent)

section Pipeline
variable (timer : Timer) (A : F32Arith) (decodeUdp : Decoder) (args : RunArgs)

/-- `adapter_task.abort()`, which drops a render at the send it rests at. -/
def abortAwaited (shared : Shared) (task : AwaitedTask) : AwaitedTask :=
  (runAwaited timer A .logAndContinue shared.bus shared.published.length task .abort).getD task

def awaitedStep (p : AwaitedPipeline) : AwaitedPipelineEvent → Option AwaitedPipeline
  | .bound outcome localAddr =>
    match p.main, outcome, localAddr with
    | .binding, .error e, _ =>
      some { p with main := .returned (.error (.bindingListener ⟨args.oscBind, args.oscPort⟩ e)) }
    | .binding, .ok (), .error e => some { p with main := .returned (.error (.queryingAddr e)) }
    | .binding, .ok (), .ok _ => some { p with main := .receiving }
    | _, _, _ => none
  | .ctrlC outcome =>
    match p.main, outcome with
    | .receiving, .ok () =>
      some { p with main := .returned (.ok ()), task := abortAwaited timer A p.shared p.task }
    | .receiving, .error e => some { p with main := .returned (.error (.installingCtrlC e)) }
    | _, _ => none
  | .arrival arrival =>
    match p.main with
    | .receiving =>
      let (builder, outcome) := recv A decodeUdp p.builder arrival
      some { p with builder := builder,
                    shared := updateShared (setupOf timer A args) p.shared outcome }
    | _ => none
  | .task event =>
    match p.main, event with
    | .returned _, _ => none
    | _, .abort => none
    | _, event =>
      (runAwaited timer A .logAndContinue p.shared.bus p.shared.published.length p.task event).map
        fun task => { p with task := task }

end Pipeline

/-- The events that both levels have: those of the main task, and the ticks. -/
def AwaitedPipelineEvent.landmark : AwaitedPipelineEvent → Option PipelineEvent
  | .bound outcome localAddr => some (.bound outcome localAddr)
  | .ctrlC outcome => some (.ctrlC outcome)
  | .arrival a => some (.arrival a)
  | .task (.tick _) => some (.task .tick)
  | .task _ => none

def PipelineEvent.landmark : PipelineEvent → Option PipelineEvent
  | .task .tick => some (.task .tick)
  | .task _ => none
  | e => some e

/-- What a pipeline is and has done, but for the point at which the adapter task rests. -/
structure View where
  main : Main
  builder : AudioFrameBuilder
  shared : Shared
  calls : List Call
  adapter : SacnAdapter
  wire : List Datagram

def AwaitedPipeline.view (f : AwaitedPipeline) : View :=
  ⟨f.main, f.builder, f.shared, f.task.calls, cleared f.task.adapter, f.task.wire⟩

def Pipeline.view (p : Pipeline) : View :=
  ⟨p.main, p.builder, sharedOf p.engine, (p.engine.tasks ()).calls,
    cleared (p.engine.tasks ()).adapter.adapter, (p.engine.tasks ()).adapter.wire.flatten⟩

section Refinement
variable {timer : Timer} {A : F32Arith} {decodeUdp : Decoder} {args : RunArgs}

/-- What the adapter task does by itself leaves the rest of the pipeline alone. -/
theorem exec_tasks {p : Pipeline} (hmain : ∀ result, p.main ≠ .returned result)
    {es : List (TaskEvent Answers)} (habort : ∀ e ∈ es, e ≠ .abort) {t : AdapterTask Host}
    (run : exec
      (runAdapter timer (sacnOutput A) .logAndContinue p.engine.bus p.engine.published.length)
      (p.engine.tasks ()) es = some t) :
    exec (pipelineStep timer A decodeUdp args) p (es.map .task) =
      some { p with engine := { p.engine with tasks := fun _ => t } } := by
  induction es generalizing p with
  | nil =>
    obtain rfl := Option.some.inj run
    rfl
  | cons e es ih =>
    obtain ⟨mid, hstep, hrest⟩ := Option.bind_eq_some_iff.mp run
    rw [List.forall_mem_cons] at habort
    have hnext : pipelineStep timer A decodeUdp args p (.task e) =
        some { p with engine := { p.engine with tasks := fun _ => mid } } := by
      have hengine : engineStep (setupOf timer A args) p.engine (.task () e) =
          some { p.engine with tasks := fun _ => mid } := by
        have htasks : Function.update p.engine.tasks () mid = fun _ => mid := by
          funext i
          exact Function.update_self _ _ _
        simp only [engineStep, setupOf, hstep, Option.map_some, htasks]
      obtain ⟨main, builder, engine⟩ := p
      cases main with
      | returned result => exact absurd rfl (hmain result)
      | binding | receiving =>
        cases e with
        | abort => exact absurd rfl habort.1
        | _ => simp only [pipelineStep, hengine, Option.map_some]
    rw [List.map_cons, exec, hnext, Option.bind_some]
    exact ih hmain habort.2 hrest

theorem landmarks_tasks (es : List (TaskEvent Answers)) :
    (es.map PipelineEvent.task).filterMap PipelineEvent.landmark =
      (es.filter TaskEvent.isTick).map PipelineEvent.task := by
  rw [List.filterMap_map, ← List.filterMap_eq_map, List.filterMap_filter]
  refine List.filterMap_congr fun e _ => ?_
  cases e <;> rfl

theorem abortAwaited_same (timer : Timer) (A : F32Arith) (shared : Shared) (task : AwaitedTask) :
    (abortAwaited timer A shared task).calls = task.calls ∧
      (abortAwaited timer A shared task).adapter = task.adapter ∧
      (abortAwaited timer A shared task).wire = task.wire := by
  simp only [abortAwaited, runAwaited]
  cases task.point.isFinal <;> exact ⟨rfl, rfl, rfl⟩

theorem main_of_view {f : AwaitedPipeline} {p : Pipeline} (h : Pipeline.view p = f.view) :
    p.main = f.main := congrArg View.main h

theorem view_returned {f : AwaitedPipeline} {p : Pipeline} (h : Pipeline.view p = f.view)
    (main : Main) :
    Pipeline.view { p with main := main } = AwaitedPipeline.view { f with main := main } :=
  congrArg (fun v : View => { v with main := main }) h

/-- The views after the main task has stopped the adapter task. -/
theorem view_aborted (args : RunArgs) {f : AwaitedPipeline} {p : Pipeline}
    (h : Pipeline.view p = f.view) (main : Main) :
    Pipeline.view { p with main := main, engine := abortTask timer A args p.engine } =
      AwaitedPipeline.view
        { f with main := main, task := abortAwaited timer A f.shared f.task } := by
  obtain ⟨hcalls, hadapter, hwire⟩ := abortAwaited_same timer A f.shared f.task
  have hsame : ((abortTask timer A args p.engine).tasks ()).calls = (p.engine.tasks ()).calls ∧
      ((abortTask timer A args p.engine).tasks ()).adapter = (p.engine.tasks ()).adapter := by
    rcases abortTask_tasks timer A args p.engine with htask | htask <;> rw [htask] <;>
      exact ⟨rfl, rfl⟩
  obtain ⟨hcalls', hadapter'⟩ := hsame
  simp only [Pipeline.view, AwaitedPipeline.view, hcalls, hadapter, hwire, hcalls', hadapter',
    sharedOf_abortTask] at h ⊢
  exact congrArg (fun v : View => { v with main := main }) h

/-- While the main task runs the levels are in step. When it has returned they agree. -/
inductive Mirrors (A : F32Arith) (a₀ : SacnAdapter) : AwaitedPipeline → Pipeline → Prop where
  | running {f p} : (∀ result, f.main ≠ .returned result) → p.main = f.main →
      p.builder = f.builder → sharedOf p.engine = f.shared →
      settings (p.engine.tasks ()).adapter.adapter = settings a₀ →
      Matches A f.task (p.engine.tasks ()) → Mirrors A a₀ f p
  | ended {f p result} : f.main = .returned result → Pipeline.view p = f.view → Mirrors A a₀ f p

variable {a₀ : SacnAdapter} {f f' : AwaitedPipeline} {p : Pipeline}

/-- Whatever point the finer level is at, the coarser one can get to where they agree. -/
theorem Mirrors.settle (decodeUdp : Decoder) (args : RunArgs) (h : Mirrors A a₀ f p) :
    ∃ es p', exec (pipelineStep timer A decodeUdp args) p es = some p' ∧
      es.filterMap PipelineEvent.landmark = [] ∧ Pipeline.view p' = f.view := by
  cases h with
  | ended hmain hview => exact ⟨[], p, rfl, rfl, hview⟩
  | running hrunning hmain hbuilder hshared hsettings hmatches =>
    obtain ⟨es, t, hrun, hticks, habort, hcalls, hadapter, hwire⟩ := hmatches.settle
    refine ⟨es.map .task, _, exec_tasks (by rwa [hmain]) habort hrun, ?_, ?_⟩
    · rw [landmarks_tasks, hticks]
      rfl
    · simp only [Pipeline.view, AwaitedPipeline.view, hmain, hbuilder, ← hshared, hcalls, hadapter,
        hwire]
      rfl

/-- An event that ends the main task ends it at both levels. -/
theorem Mirrors.ends (h : Mirrors A a₀ f p) {e : PipelineEvent}
    {result : Except PipelineError Unit} (hmain : f'.main = .returned result)
    (hlandmark : PipelineEvent.landmark e = some e)
    (hlast : ∀ q, Pipeline.view q = f.view →
      ∃ q', pipelineStep timer A decodeUdp args q e = some q' ∧ Pipeline.view q' = f'.view) :
    ∃ es p', exec (pipelineStep timer A decodeUdp args) p es = some p' ∧
      es.filterMap PipelineEvent.landmark = [e] ∧ Mirrors A a₀ f' p' := by
  obtain ⟨es, q, hrun, hmarks, hview⟩ := h.settle decodeUdp args
  obtain ⟨q', hstep, hview'⟩ := hlast q hview
  refine ⟨es ++ [e], q', exec_snoc.mpr ⟨q, hrun, hstep⟩, ?_, .ended hmain hview'⟩
  rw [List.filterMap_append, hmarks, List.filterMap_cons, hlandmark]
  rfl

theorem Mirrors.step (h : Mirrors A a₀ f p) (h₀ : Acceptable a₀.universes a₀.priority)
    {e : AwaitedPipelineEvent} (hstep : awaitedStep timer A decodeUdp args f e = some f') :
    ∃ es p', exec (pipelineStep timer A decodeUdp args) p es = some p' ∧
      es.filterMap PipelineEvent.landmark = (AwaitedPipelineEvent.landmark e).toList ∧
      Mirrors A a₀ f' p' := by
  obtain ⟨main, builder, shared, task⟩ := f
  cases e with
  | bound outcome localAddr =>
    cases main with
    | receiving | returned _ => cases hstep
    | binding =>
      cases outcome with
      | error e =>
        obtain rfl := Option.some.inj hstep
        exact h.ends rfl rfl fun q hq =>
          ⟨_, by simp only [pipelineStep, main_of_view hq], view_returned hq _⟩
      | ok u =>
        cases localAddr with
        | error e =>
          obtain rfl := Option.some.inj hstep
          exact h.ends rfl rfl fun q hq =>
          ⟨_, by simp only [pipelineStep, main_of_view hq], view_returned hq _⟩
        | ok addr =>
          obtain rfl := Option.some.inj hstep
          cases h with
          | ended hmain hview => cases hmain
          | running hrunning hmain hbuilder hshared hsettings hmatches =>
            refine ⟨[.bound (.ok u) (.ok addr)], { p with main := .receiving }, ?_, rfl,
              .running (by simp) rfl hbuilder hshared hsettings hmatches⟩
            simp only [exec, pipelineStep, hmain, Option.bind_some]
  | ctrlC outcome =>
    cases main with
    | binding | returned _ => cases outcome <;> cases hstep
    | receiving =>
      cases outcome with
      | error e =>
        obtain rfl := Option.some.inj hstep
        exact h.ends rfl rfl fun q hq =>
          ⟨_, by simp only [pipelineStep, main_of_view hq], view_returned hq _⟩
      | ok u =>
        obtain rfl := Option.some.inj hstep
        exact h.ends rfl rfl fun q hq =>
          ⟨_, by simp only [pipelineStep, main_of_view hq], view_aborted args hq _⟩
  | arrival a =>
    cases main with
    | binding | returned _ => cases hstep
    | receiving =>
      simp only [awaitedStep, Option.some.injEq] at hstep
      subst hstep
      cases h with
      | ended hmain hview => cases hmain
      | running hrunning hmain hbuilder hshared hsettings hmatches =>
        subst hbuilder hshared
        refine ⟨[.arrival a], { p with
          builder := (recv A decodeUdp p.builder a).1
          engine := produce (setupOf timer A args) p.engine (recv A decodeUdp p.builder a).2 },
          by simp only [exec, pipelineStep, hmain, Option.bind_some], rfl,
          .running (by simp) hmain rfl (sharedOf_produce _ _ _) ?_ ?_⟩
        · rw [tasks_produce]
          exact hsettings
        · rw [tasks_produce]
          exact hmatches
  | task event =>
    cases h with
    | ended hmain hview =>
      obtain rfl : main = _ := hmain
      cases hstep
    | running hrunning hmain hbuilder hshared hsettings hmatches =>
      subst hbuilder hshared
      have hmoved : event ≠ .abort ∧ ∃ task', runAwaited timer A .logAndContinue p.engine.bus
          p.engine.published.length task event = some task' ∧
          f' = ⟨main, p.builder, sharedOf p.engine, task'⟩ := by
        simp only [awaitedStep] at hstep
        cases main with
        | returned result => exact absurd rfl (hrunning result)
        | binding | receiving =>
          cases event with
          | abort => cases hstep
          | _ =>
            obtain ⟨task', htask, heq⟩ := Option.map_eq_some_iff.mp hstep
            exact ⟨by simp, task', htask, heq.symm⟩
      obtain ⟨hevent, task', htask, rfl⟩ := hmoved
      have haccept := acceptable_of_settings hsettings h₀
      obtain ⟨es, t, hrun, hticks, habort, hmatches'⟩ := hmatches.step haccept hevent htask
      refine ⟨es.map .task, _, exec_tasks (by rwa [hmain]) habort hrun, ?_,
        .running hrunning hmain rfl rfl ?_ hmatches'⟩
      · rw [landmarks_tasks, hticks]
        cases event <;> rfl
      · exact (settings_of_exec haccept hrun).trans hsettings

/-- Every run with awaits inside the renders, dropped or not, is a run of the pipeline with
the same events of the main task and the same ticks. -/
theorem await_points_refine {A64 : Arithmetic ℚ} {freshCid : Uuid} {start : Pipeline}
    (started : startPipeline A64 args freshCid = .ok (.ok start)) {es : List AwaitedPipelineEvent}
    (run : exec (awaitedStep timer A decodeUdp args) (awaited start) es = some f) :
    ∃ es' p, exec (pipelineStep timer A decodeUdp args) start es' = some p ∧
      es'.filterMap PipelineEvent.landmark = es.filterMap AwaitedPipelineEvent.landmark ∧
      Pipeline.view p = f.view := by
  obtain ⟨rate, adapter, -, built, rfl⟩ := start_eq started
  obtain ⟨haccept, -⟩ := built_spec built
  have hspawn : Matches A (.spawn adapter) (.spawn ⟨adapter, []⟩) :=
    @Matches.resting A adapter 0 .spawned [] [] [] rfl
  obtain ⟨es', p, hrun, hmarks, hmirrors⟩ := exec_simulates (R := Mirrors A adapter)
    (fun _ _ _ _ h hstep => h.step haccept hstep)
    (.running (by simp [awaited]) rfl rfl rfl rfl hspawn) run
  obtain ⟨more, p', hmore, hmarks', hview⟩ := hmirrors.settle decodeUdp args
  refine ⟨es' ++ more, p', by rw [exec_append, hrun, Option.bind_some, hmore], ?_, hview⟩
  rw [List.filterMap_append, hmarks, hmarks', List.append_nil]

/-! ## No run is lost -/

/-- What the adapter task does by itself leaves the rest of the pipeline alone. -/
theorem exec_awaited_tasks {f : AwaitedPipeline} (hmain : ∀ result, f.main ≠ .returned result)
    {es : List AwaitEvent} (habort : ∀ e ∈ es, e ≠ .abort) {task : AwaitedTask}
    (run : exec (runAwaited timer A .logAndContinue f.shared.bus f.shared.published.length)
      f.task es =
      some task) :
    exec (awaitedStep timer A decodeUdp args) f (es.map .task) = some { f with task := task } := by
  induction es generalizing f with
  | nil =>
    obtain rfl := Option.some.inj run
    rfl
  | cons e es ih =>
    obtain ⟨mid, hstep, hrest⟩ := Option.bind_eq_some_iff.mp run
    rw [List.forall_mem_cons] at habort
    have hnext : awaitedStep timer A decodeUdp args f (.task e) = some { f with task := mid } := by
      obtain ⟨main, builder, shared, task⟩ := f
      cases main with
      | returned result => exact absurd rfl (hmain result)
      | binding | receiving =>
        cases e with
        | abort => exact absurd rfl habort.1
        | _ => simp only [awaitedStep, hstep, Option.map_some]
    rw [List.map_cons, exec, hnext, Option.bind_some]
    exact ih (f := { f with task := mid }) hmain habort.2 hrest

theorem landmarks_awaited (es : List AwaitEvent) :
    (es.map AwaitedPipelineEvent.task).filterMap AwaitedPipelineEvent.landmark =
      (es.flatMap AwaitEvent.ticks).map PipelineEvent.task := by
  induction es with
  | nil => rfl
  | cons e es ih =>
    cases e with
    | tick order => exact congrArg (PipelineEvent.task .tick :: ·) ih
    | _ => exact ih

/-- While the main task runs the finer level is ahead. When it has returned they agree. -/
inductive Leads (A : F32Arith) (a₀ : SacnAdapter) (order : IterOrder) :
    Pipeline → AwaitedPipeline → Prop where
  | running {p : Pipeline} {f : AwaitedPipeline} :
      (∀ result, p.main ≠ .returned result) → f.main = p.main →
      f.builder = p.builder → f.shared = sharedOf p.engine →
      settings (p.engine.tasks ()).adapter.adapter = settings a₀ →
      Ahead A order (p.engine.tasks ()) f.task → Leads A a₀ order p f
  | ended {p : Pipeline} {f : AwaitedPipeline} {result} :
      p.main = .returned result → Pipeline.view p = f.view → Leads A a₀ order p f

theorem Leads.view_eq {order : IterOrder} (h : Leads A a₀ order p f)
    (h₀ : Acceptable a₀.universes a₀.priority) : Pipeline.view p = f.view := by
  cases h with
  | ended hmain hview => exact hview
  | running hrunning hmain hbuilder hshared hsettings hahead =>
    obtain ⟨hcalls, hadapter, hwire⟩ := hahead.view_eq (acceptable_of_settings hsettings h₀)
    simp only [Pipeline.view, AwaitedPipeline.view, hmain, hbuilder, hshared, hcalls, hadapter,
      hwire]

def PipelineEvent.orderBefore (order : IterOrder) : PipelineEvent → IterOrder
  | .task event => TaskEvent.orderBefore order event
  | _ => order

theorem Leads.step {p' : Pipeline} {e : PipelineEvent} {order : IterOrder}
    (h : Leads A a₀ (PipelineEvent.orderBefore order e) p f)
    (h₀ : Acceptable a₀.universes a₀.priority)
    (hstep : pipelineStep timer A decodeUdp args p e = some p') :
    ∃ es f', exec (awaitedStep timer A decodeUdp args) f es = some f' ∧
      es.filterMap AwaitedPipelineEvent.landmark = (PipelineEvent.landmark e).toList ∧
      Leads A a₀ order p' f' := by
  have hview := h.view_eq h₀
  have hfine := main_of_view hview
  cases steps_of_pipelineStep hstep with
  | @bindFailed e addr hp =>
    refine ⟨[.bound (.error e) addr], _, ?_, rfl, .ended rfl (view_returned hview _)⟩
    simp only [exec, awaitedStep, ← hfine, hp, Option.bind_some]
  | @addrFailed e hp =>
    refine ⟨[.bound (.ok ()) (.error e)], _, ?_, rfl, .ended rfl (view_returned hview _)⟩
    simp only [exec, awaitedStep, ← hfine, hp, Option.bind_some]
  | @unstoppable e hp =>
    refine ⟨[.ctrlC (.error e)], _, ?_, rfl, .ended rfl (view_returned hview _)⟩
    simp only [exec, awaitedStep, ← hfine, hp, Option.bind_some]
  | stopped hp =>
    refine ⟨[.ctrlC (.ok ())], _, ?_, rfl, .ended rfl (view_aborted args hview _)⟩
    simp only [exec, awaitedStep, ← hfine, hp, Option.bind_some]
  | @listening addr hp =>
    cases h with
    | ended hmain hview =>
      rw [hp] at hmain
      cases hmain
    | running hrunning hmain hbuilder hshared hsettings hahead =>
      refine ⟨[.bound (.ok ()) (.ok addr)], { f with main := .receiving }, ?_, rfl,
        .running (by simp) rfl hbuilder hshared hsettings hahead⟩
      simp only [exec, awaitedStep, ← hfine, hp, Option.bind_some]
  | @received a hp =>
    cases h with
    | ended hmain hview =>
      rw [hp] at hmain
      cases hmain
    | running hrunning hmain hbuilder hshared hsettings hahead =>
      obtain ⟨main, builder, shared, task⟩ := f
      subst hmain hbuilder hshared
      refine ⟨[.arrival a], ⟨p.main, (recv A decodeUdp p.builder a).1,
        updateShared (setupOf timer A args) (sharedOf p.engine) (recv A decodeUdp p.builder a).2,
        task⟩,
        by simp only [exec, awaitedStep, hp, Option.bind_some], rfl,
        .running hrunning rfl rfl (sharedOf_produce _ _ _).symm ?_ ?_⟩
      · rw [tasks_produce]
        exact hsettings
      · rw [tasks_produce]
        exact hahead
  | @resumed event engine hrunning hevent hengine =>
    obtain ⟨t, hmove, rfl⟩ := Option.map_eq_some_iff.mp hengine
    cases h with
    | ended hmain hview => exact absurd hmain (hrunning _)
    | running hrunning hmain hbuilder hshared hsettings hahead =>
      obtain ⟨main, builder, shared, task⟩ := f
      subst hmain hbuilder hshared
      have haccept := acceptable_of_settings hsettings h₀
      obtain ⟨es, task', hrun, hticks, habort, hahead'⟩ :=
        hahead.step haccept (moves_of_runAdapter hmove) hevent
      refine ⟨es.map .task, _, exec_awaited_tasks hrunning habort hrun, ?_,
        .running hrunning rfl rfl rfl ?_ ?_⟩
      · rw [landmarks_awaited, hticks]
        cases event <;> rfl
      · simp only [Function.update_self]
        exact (settings_of_moves haccept (moves_of_runAdapter hmove)).trans hsettings
      · simp only [Function.update_self]
        exact hahead'

theorem leads_of_run {p₀ : Pipeline} {f₀ : AwaitedPipeline}
    (start : ∀ order, Leads A a₀ order p₀ f₀) (h₀ : Acceptable a₀.universes a₀.priority)
    {es : List PipelineEvent} (run : exec (pipelineStep timer A decodeUdp args) p₀ es = some p)
    (order : IterOrder) :
    ∃ es' f, exec (awaitedStep timer A decodeUdp args) f₀ es' = some f ∧
      es'.filterMap AwaitedPipelineEvent.landmark = es.filterMap PipelineEvent.landmark ∧
      Leads A a₀ order p f := by
  refine exec_invariant (P := fun es p => ∀ order, ∃ es' f,
    exec (awaitedStep timer A decodeUdp args) f₀ es' = some f ∧
    es'.filterMap AwaitedPipelineEvent.landmark = es.filterMap PipelineEvent.landmark ∧
    Leads A a₀ order p f) ?_ ?_ run order
  · exact fun order => ⟨[], f₀, rfl, rfl, start order⟩
  · intro es p e p' _ hbefore hstep order
    obtain ⟨es', f, hrun, hmarks, hleads⟩ := hbefore (PipelineEvent.orderBefore order e)
    obtain ⟨more, f', hmore, hmarks', hleads'⟩ := hleads.step h₀ hstep
    refine ⟨es' ++ more, f', by rw [exec_append, hrun, Option.bind_some, hmore], ?_, hleads'⟩
    rw [List.filterMap_append, List.filterMap_append, hmarks, hmarks']
    cases hmark : PipelineEvent.landmark e <;> simp [hmark]

/-- The pipeline with its awaits inside the renders, dropped there or not, and the pipeline
that renders in one event come to the same views by way of the same events of the main task
and the same ticks. -/
theorem same_views_iff {A64 : Arithmetic ℚ} {freshCid : Uuid} {start : Pipeline}
    (started : startPipeline A64 args freshCid = .ok (.ok start)) (landmarks : List PipelineEvent)
    (v : View) :
    (∃ es f, exec (awaitedStep timer A decodeUdp args) (awaited start) es = some f ∧
        es.filterMap AwaitedPipelineEvent.landmark = landmarks ∧ f.view = v) ↔
      ∃ es p, exec (pipelineStep timer A decodeUdp args) start es = some p ∧
        es.filterMap PipelineEvent.landmark = landmarks ∧ Pipeline.view p = v := by
  constructor
  · rintro ⟨es, f, run, rfl, rfl⟩
    exact await_points_refine started run
  · rintro ⟨es, p, run, rfl, rfl⟩
    obtain ⟨rate, adapter, -, built, rfl⟩ := start_eq started
    obtain ⟨haccept, -⟩ := built_spec built
    have hspawn : ∀ order, Ahead A order (.spawn ⟨adapter, []⟩) (.spawn adapter) :=
      fun order => @Ahead.resting A order adapter 0 .spawned .spawned [] [] [] rfl
    have hstart : ∀ order, Leads A adapter order
        ⟨.binding, .new, Engine.start fun _ => ⟨adapter, []⟩⟩
        (awaited ⟨.binding, .new, Engine.start fun _ => ⟨adapter, []⟩⟩) :=
      fun order => .running (by simp) rfl rfl rfl rfl (hspawn order)
    obtain ⟨es', f, hrun, hmarks, hleads⟩ := leads_of_run hstart haccept run .asStored
    exact ⟨es', f, hrun, hmarks, (hleads.view_eq haccept).symm⟩

/-- A run in which ctrl-c comes between the sends to the two universes of a strip. -/
def droppedRun : List AwaitedPipelineEvent :=
  [.bound (.ok ()) (.ok ⟨stripArgs.oscBind, 9000⟩), .task .start, .arrival (.ok []),
    .task (.connected (.ok ⟨40000⟩)), .task (.tick .asStored), .task (.sent (.ok ())),
    .arrival (.ok [1]), .ctrlC (.ok ())]

theorem droppedRun_runs : ∃ start f,
    startPipeline (.exact ℚ) tornArgs zeroCid = .ok (.ok start) ∧
      exec (awaitedStep clock64 (.exact ℚ) bassDecoder tornArgs) (awaited start) droppedRun =
        some f := by
  have ran : ((startPipeline (.exact ℚ) tornArgs zeroCid).toOption.bind Except.toOption).any
      (fun start => (exec (awaitedStep clock64 (.exact ℚ) bassDecoder tornArgs) (awaited start)
        droppedRun).isSome) = true := by decide +kernel
  obtain ⟨start, started, hrun⟩ := exists_start ran
  obtain ⟨f, run⟩ := Option.isSome_iff_exists.mp hrun
  exact ⟨start, f, started, run⟩

theorem same_views_iff_dropped : ∃ start f p es,
    startPipeline (.exact ℚ) tornArgs zeroCid = .ok (.ok start) ∧
      exec (awaitedStep clock64 (.exact ℚ) bassDecoder tornArgs) (awaited start) droppedRun =
        some f ∧
      exec (pipelineStep clock64 (.exact ℚ) bassDecoder tornArgs) start es = some p ∧
      Pipeline.view p = f.view := by
  obtain ⟨start, f, started, run⟩ := droppedRun_runs
  obtain ⟨es, p, hrun, -, hview⟩ := (same_views_iff started _ _).mp ⟨_, f, run, rfl, rfl⟩
  exact ⟨start, f, p, es, started, run, hrun, hview⟩

/-! ## The strip at every instant -/

theorem heardAtTicks_landmarks (before : List OscPacket) (es : List PipelineEvent) :
    heardAtTicks decodeUdp before (es.filterMap PipelineEvent.landmark) =
      heardAtTicks decodeUdp before es := by
  induction es generalizing before with
  | nil => rfl
  | cons e es ih =>
    cases e with
    | task event =>
      have hquiet : before ++ decodedPackets decodeUdp (arrivals [.task event]) = before :=
        List.append_nil before
      cases event with
      | tick => exact congrArg (before :: ·) (ih _)
      | _ => exact (ih before).trans (congrArg (heardAtTicks decodeUdp · es) hquiet).symm
    | _ => exact ih _

/-- What had been decoded before each tick. -/
def heardSoFar (decodeUdp : Decoder) (es : List AwaitedPipelineEvent) : List (List OscPacket) :=
  heardAtTicks decodeUdp [] (es.filterMap AwaitedPipelineEvent.landmark)

/-- Between any two sends, and when ctrl-c has dropped a render halfway, each universe of a
controller of either kind shows one colour that the strip had at some tick. On a lenient one no
universe shows a newer colour than those before it. -/
theorem every_instant_shows_past_colours (A : F32Arith) {A64 : Arithmetic ℚ} {freshCid : Uuid}
    {start : Pipeline} (started : startPipeline A64 args freshCid = .ok (.ok start))
    {es : List AwaitedPipelineEvent}
    (run : exec (awaitedStep timer A decodeUdp args) (awaited start) es = some f)
    (strict : Bool) (s : Screen Nat UInt8) :
    ShowsPast A args (heardSoFar decodeUdp es) strict s
      (s.hearAll strict (packetsOf f.task.wire)) := by
  obtain ⟨es', p, hrun, hmarks, hview⟩ := await_points_refine started run
  have hwire : (p.engine.tasks ()).adapter.wire.flatten = f.task.wire := congrArg View.wire hview
  have hheard : heardAtTicks decodeUdp [] es' = heardSoFar decodeUdp es := by
    rw [heardSoFar, ← hmarks, heardAtTicks_landmarks]
  obtain ⟨calls, heards, tape⟩ := exists_tape started hrun
  rw [← hwire, ← hheard]
  exact tape.showsPast strict s

/-- The same run of the strip: the second universe, number 8, has not been reached. -/
theorem every_instant_shows_past_colours_dropped : ∃ start f,
    startPipeline (.exact ℚ) tornArgs zeroCid = .ok (.ok start) ∧
      exec (awaitedStep clock64 (.exact ℚ) bassDecoder tornArgs) (awaited start) droppedRun =
        some f ∧
      ∀ strict, ∃ shown : Nat → List OscPacket, (strict = false → shown 1 <+: shown 0) ∧
        (shown 1 = [] ∨ shown 1 ∈ heardSoFar bassDecoder droppedRun) ∧
        ∀ o, (blankScreen.hearAll strict (packetsOf f.task.wire)).cell 8 o =
          (stripSlot (.exact ℚ) tornArgs (shown 1) 1 o).getD 9 := by
  obtain ⟨start, f, started, run⟩ := droppedRun_runs
  refine ⟨start, f, started, run, fun strict => ?_⟩
  obtain ⟨shown, hgrow, hslots⟩ :=
    (every_instant_shows_past_colours (.exact ℚ) started run strict blankScreen).colours
  exact ⟨shown, fun hlenient => hgrow hlenient 0 1 (by decide), hslots 1 (by decide)⟩

end Refinement

end AwaitedRuns
