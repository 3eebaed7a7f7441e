import Audiophore.AwaitedSends
import Audiophore.PipelineRuns

/-!
# The render loop at every await point

`run_adapter` around the sACN adapter, with an event for each send of a render. Whatever the
bus holds meanwhile, it does what the loop does whose renders are one event.
-/

namespace AwaitedLoop

open ExtendedFloat AudiophoreCore RustExec AdapterCore SacnPacket SacnOutput SacnRender AdapterRuns
open SnapshotRegister StepRuns EngineBus EngineRuns RunPipeline PipelineRuns AwaitedSends

/-! ## The render loop -/

/-- The await points of `run_adapter`, those of its renders included, and how it ended. -/
inductive AwaitPoint where
  | spawned
  | connecting
  | waiting
  | sending (frame : Read ResolvedFrame) (packet : List UInt8) (rest : List (UInt16 × List UInt8))
  | finished
  | panicked (p : Panic)
  | cancelled

def AwaitPoint.isFinal : AwaitPoint → Bool
  | .finished | .panicked _ | .cancelled => true
  | _ => false

/-- A running `run_adapter`, with all that it has put on the wire. The calls are history. -/
structure AwaitedTask where
  adapter : SacnAdapter
  period : Duration
  point : AwaitPoint
  wire : List Datagram
  calls : List Call

def AwaitedTask.spawn (adapter : SacnAdapter) : AwaitedTask :=
  { adapter := adapter, period := 0, point := .spawned, wire := [], calls := [] }

inductive AwaitEvent where
  | start
  | connected (bind : Except IoError UdpSocket)
  | tick (order : IterOrder)
  | overdue (now : Instant)
  | sent (answer : Except IoError Unit)
  | abort

section RunAdapter
variable (timer : Timer) (A : F32Arith) (policy : RenderErrorPolicy)

/-- From where a render has got to, up to where the task rests next. A disconnect has no
await of its own. -/
def goOn (task : AwaitedTask) (frame : Read ResolvedFrame) : SendPoint → AwaitedTask
  | .sending packet rest => { task with point := .sending frame packet rest }
  | .returned outcome =>
    match outcome, policy with
    | .ok (), _ | .error _, .logAndContinue => { task with point := .waiting }
    | .error _, .logAndStop => { task with
        adapter := task.adapter.disconnect.1
        point := .finished
        calls := task.calls ++ [Call.disconnect] }

/-- `run_adapter` around the sACN adapter. -/
def runAwaited (bus : Bus) (published : Nat) (task : AwaitedTask) :
    AwaitEvent → Option AwaitedTask
  | .start =>
    match task.point with
    | .spawned =>
      let rate := task.adapter.nativeRate
      match timer.interval rate with
      | .error p => some { task with point := .panicked p }
      | .ok () => some { task with
          period := rate
          point := .connecting
          calls := task.calls ++ [.connect] }
    | _ => none
  | .connected bind =>
    match task.point with
    | .connecting =>
      let (adapter, outcome) := task.adapter.connect bind
      some { task with
        adapter := adapter
        point := match outcome with
          | .error _ => .finished
          | .ok () => .waiting }
    | _ => none
  | .tick order =>
    match task.point with
    | .waiting =>
      let frame : Read ResolvedFrame := { seen := published, value := bus.snapshot }
      let task := { task with calls := task.calls ++ [Call.render frame] }
      match startRender A task.adapter frame.value order with
      | .error p => some { task with point := .panicked p }
      | .ok (adapter, reached) => some (goOn policy { task with adapter := adapter } frame reached)
    | _ => none
  | .overdue now =>
    match task.point with
    | .waiting =>
      match timer.delay task.period now with
      | .error p => some { task with point := .panicked p }
      | .ok () => none
    | _ => none
  | .sent answer =>
    match task.point with
    | .sending frame packet rest =>
      match resume task.adapter packet rest answer with
      | .error p => some { task with point := .panicked p }
      | .ok (adapter, more, reached) =>
        some (goOn policy { task with adapter := adapter, wire := task.wire ++ more } frame reached)
    | _ => none
  | .abort => if task.point.isFinal then none else some { task with point := .cancelled }

end RunAdapter

/-- Where the task is if a render is one event. -/
def AwaitPoint.pc : AwaitPoint → Pc
  | .spawned => .spawned
  | .connecting => .connecting
  | .waiting => .waiting
  | .sending frame _ _ => .rendering frame
  | .finished => .finished
  | .panicked p => .panicked p
  | .cancelled => .cancelled

def AwaitPoint.isSending : AwaitPoint → Bool
  | .sending _ _ _ => true
  | _ => false

/-- The same loop at both levels. In the middle of a render the coarser one has the render
still before it, with the answers that were given so far. -/
inductive Matches (A : F32Arith) : AwaitedTask → AdapterTask Host → Prop where
  | resting {adapter period point wire calls returned} : AwaitPoint.isSending point = false →
      Matches A ⟨adapter, period, point, wire.flatten, calls⟩
        ⟨⟨adapter, wire⟩, period, point.pc, calls, returned⟩
  | midway {before now period frame order answers sent packet rest wire calls returned} :
      Reached A before frame.value order answers now sent (.sending packet rest) →
      Matches A ⟨now, period, .sending frame packet rest, wire.flatten ++ sent, calls⟩
        ⟨⟨before, wire⟩, period, .rendering frame, calls, returned⟩

section Tasks
variable {timer : Timer} {A : F32Arith} {policy : RenderErrorPolicy} {bus : Bus} {published : Nat}

/-- The coarser loop gets from `t` to where `f` is, with the ticks `ticks`. -/
def Follows (timer : Timer) (A : F32Arith) (policy : RenderErrorPolicy) (bus : Bus)
    (published : Nat) (t : AdapterTask Host) (ticks : List (TaskEvent Answers)) (f : AwaitedTask) :
    Prop :=
  ∃ es t', exec (runAdapter timer (sacnOutput A) policy bus published) t es = some t' ∧
    es.filter TaskEvent.isTick = ticks ∧ (∀ e ∈ es, e ≠ .abort) ∧ Matches A f t'

/-- A render that returns is one event of the coarser loop, and one that rests is none. -/
theorem follows_of_reached {before now : SacnAdapter} {frame : Read ResolvedFrame}
    {order : IterOrder} {answers : List (Except IoError Unit)} {sent : List Datagram}
    {reached : SendPoint} (h : Reached A before frame.value order answers now sent reached)
    (timer : Timer) (policy : RenderErrorPolicy) (bus : Bus) (published : Nat)
    (wire : List (List Datagram)) (period : Duration) (calls : List Call)
    (returned : List (Call × Except AdapterError Unit)) (point : AwaitPoint) :
    Follows timer A policy bus published
      ⟨⟨before, wire⟩, period, .rendering frame, calls, returned⟩ []
      (goOn policy ⟨now, period, point, wire.flatten ++ sent, calls⟩ frame reached) := by
  cases reached with
  | sending packet rest => exact ⟨[], _, rfl, rfl, by simp, .midway h⟩
  | returned outcome =>
    let env : Answers := ⟨.error "", order, answered answers fun _ => .ok ()⟩
    have hcall : (sacnOutput A).render ⟨before, wire⟩ frame.value env =
        .ok (⟨now, wire ++ [sent]⟩, outcome) := by
      simp only [sacnOutput, env, perform_render A (h.returned fun _ => .ok ()), ok_bind]
      rfl
    have hwire : wire.flatten ++ sent = (wire ++ [sent]).flatten := by simp
    rw [hwire]
    cases outcome with
    | ok u =>
      refine ⟨[.rendered env], _, by simp only [exec, runAdapter, hcall]; rfl, rfl, by simp, ?_⟩
      exact .resting rfl
    | error e =>
      cases policy with
      | logAndContinue =>
        refine ⟨[.rendered env], _, by simp only [exec, runAdapter, hcall]; rfl, rfl, by simp, ?_⟩
        exact .resting rfl
      | logAndStop =>
        refine ⟨[.rendered env, .disconnected env], _, by simp only [exec, runAdapter, hcall]; rfl,
          rfl, by simp, ?_⟩
        exact .resting rfl

/-- The ticks of the event, as the coarser loop has them. -/
def AwaitEvent.ticks : AwaitEvent → List (TaskEvent Answers)
  | .tick _ => [.tick]
  | _ => []

theorem Matches.step {f f' : AwaitedTask} {t : AdapterTask Host} (h : Matches A f t)
    (haccept : Acceptable t.adapter.adapter.universes t.adapter.adapter.priority)
    {e : AwaitEvent} (hevent : e ≠ .abort)
    (hstep : runAwaited timer A policy bus published f e = some f') :
    Follows timer A policy bus published t (AwaitEvent.ticks e) f' := by
  cases h with
  | @resting adapter period point wire calls returned hpoint =>
    cases e with
    | abort => exact absurd rfl hevent
    | start =>
      cases point with
      | spawned =>
        simp only [runAwaited] at hstep
        cases hinterval : timer.interval adapter.nativeRate with
        | error panic =>
          rw [hinterval] at hstep
          obtain rfl := Option.some.inj hstep
          have hcoarse : timer.interval ((sacnOutput A).nativeRate ⟨adapter, wire⟩) =
              .error panic := hinterval
          exact ⟨[.start], _, by simp only [exec, runAdapter, AwaitPoint.pc, hcoarse]; rfl, rfl,
            by simp, .resting rfl⟩
        | ok u =>
          rw [hinterval] at hstep
          obtain rfl := Option.some.inj hstep
          have hcoarse : timer.interval ((sacnOutput A).nativeRate ⟨adapter, wire⟩) = .ok u :=
            hinterval
          exact ⟨[.start], _, by simp only [exec, runAdapter, AwaitPoint.pc, hcoarse]; rfl, rfl,
            by simp, .resting rfl⟩
      | sending frame packet rest => cases hpoint
      | _ => cases hstep
    | connected bind =>
      cases point with
      | connecting =>
        obtain rfl := Option.some.inj hstep
        refine ⟨[.connected ⟨bind, .asStored, fun _ => .ok ()⟩], _, rfl, rfl, by simp, ?_⟩
        cases bind <;> exact .resting rfl
      | sending frame packet rest => cases hpoint
      | _ => cases hstep
    | tick order =>
      cases point with
      | waiting =>
        simp only [runAwaited] at hstep
        cases hstart : startRender A adapter bus.snapshot order with
        | error panic =>
          obtain ⟨result, hrender⟩ :=
            render_total (A := A) haccept bus.snapshot order fun _ => .ok ()
          rw [render_eq, hstart] at hrender
          cases hrender
        | ok reached =>
          rw [hstart] at hstep
          obtain rfl := Option.some.inj hstep
          have hreached : Reached A adapter (Read.value ⟨published, bus.snapshot⟩) order [] _ []
              _ := Reached.start hstart
          obtain ⟨es, t', hrun, hticks, habort, hmatches⟩ := follows_of_reached hreached timer
            policy bus published wire period (calls ++ [Call.render ⟨published, bus.snapshot⟩])
            returned .waiting
          rw [List.append_nil] at hmatches
          refine ⟨.tick :: es, t', hrun, ?_, ?_, hmatches⟩
          · rw [List.filter_cons_of_pos rfl, hticks]
            rfl
          · exact List.forall_mem_cons.mpr ⟨by simp, habort⟩
      | sending frame packet rest => cases hpoint
      | _ => cases hstep
    | overdue now =>
      cases point with
      | waiting =>
        simp only [runAwaited] at hstep
        cases hdelay : timer.delay period now with
        | error panic =>
          rw [hdelay] at hstep
          obtain rfl := Option.some.inj hstep
          exact ⟨[.overdue now], _, by simp only [exec, runAdapter, AwaitPoint.pc, hdelay]; rfl,
            rfl, by simp, .resting rfl⟩
        | ok u =>
          rw [hdelay] at hstep
          cases hstep
      | sending frame packet rest => cases hpoint
      | _ => cases hstep
    | sent answer =>
      cases point with
      | sending frame packet rest => cases hpoint
      | _ => cases hstep
  | @midway before now period frame order answers sent packet rest wire calls returned hreached =>
    cases e with
    | abort => exact absurd rfl hevent
    | sent answer =>
      simp only [runAwaited] at hstep
      cases hresume : resume now packet rest answer with
      | error panic =>
        obtain ⟨result, hrender⟩ := render_total (A := A) haccept frame.value order
          (answered answers (answered [answer] fun _ => .ok ()))
        rw [hreached, finish_resume, hresume] at hrender
        cases hrender
      | ok reached =>
        rw [hresume] at hstep
        obtain rfl := Option.some.inj hstep
        have hnext := follows_of_reached (hreached.resume hresume) timer policy bus published wire
          period calls returned (.sending frame packet rest)
        rw [← List.append_assoc] at hnext
        exact hnext
    | _ => cases hstep

/-- A loop that is dropped in the middle of a render has done what it does if the send fails
that it rests at. -/
theorem Matches.settle {f : AwaitedTask} {t : AdapterTask Host} (h : Matches A f t) :
    ∃ es t', exec (runAdapter timer (sacnOutput A) .logAndContinue bus published) t es = some t' ∧
      es.filter TaskEvent.isTick = [] ∧ (∀ e ∈ es, e ≠ .abort) ∧
      t'.calls = f.calls ∧ t'.adapter.adapter = f.adapter ∧ t'.adapter.wire.flatten = f.wire := by
  cases h with
  | resting hpoint => exact ⟨[], _, rfl, rfl, by simp, rfl, rfl, rfl⟩
  | @midway before now period frame order answers sent packet rest wire calls returned hreached =>
    let env : Answers := ⟨.error "", order, answered answers fun _ => .error ""⟩
    have hcall : (sacnOutput A).render ⟨before, wire⟩ frame.value env =
        .ok (⟨now, wire ++ [sent]⟩, .error (.io "")) := by
      simp only [sacnOutput, env, perform_render A (hreached.dropped ""), ok_bind]
      rfl
    exact ⟨[.rendered env], _, by simp only [exec, runAdapter, hcall]; rfl, rfl, by simp, rfl, rfl,
      by simp⟩

theorem settings_of_exec {t t' : AdapterTask Host} {es : List (TaskEvent Answers)}
    (haccept : Acceptable t.adapter.adapter.universes t.adapter.adapter.priority)
    (run : exec (runAdapter timer (sacnOutput A) policy bus published) t es = some t') :
    settings t'.adapter.adapter = settings t.adapter.adapter := by
  refine exec_invariant (P := fun _ t' => settings t'.adapter.adapter = settings t.adapter.adapter)
    rfl ?_ run
  intro _ mid e last _ hmid hstep
  exact (settings_of_moves (acceptable_of_settings hmid haccept) (moves_of_runAdapter hstep)).trans
    hmid

/-! ## The finer loop ahead -/

/-- A render that returns does so after some answers, one for each send. -/
theorem exists_answers {policy : RenderErrorPolicy} {bus : Bus} {published : Nat}
    {self last : SacnAdapter} {send : SendOutcomes} {sent wire : List Datagram}
    {outcome : Except AdapterError Unit} {period : Duration} {calls : List Call}
    {frame : Read ResolvedFrame} {reached : SendPoint}
    (h : finish self send reached = .ok (last, sent, outcome)) :
    ∃ answers : List (Except IoError Unit), exec (runAwaited timer A policy bus published)
        (goOn policy ⟨self, period, .waiting, wire, calls⟩ frame reached) (answers.map .sent) =
      some (goOn policy ⟨last, period, .waiting, wire ++ sent, calls⟩ frame
        (.returned outcome)) := by
  cases reached with
  | returned outcome' =>
    cases h
    exact ⟨[], by rw [List.append_nil]; rfl⟩
  | sending packet rest =>
    -- on the pairs still to come
    induction hn : rest.length using Nat.strong_induction_on
      generalizing self send sent wire packet rest with
    | _ n ih =>
      have hsend : send = answered [send 0] fun i => send (i + 1) := by
        funext i
        cases i <;> rfl
      rw [hsend, finish_resume] at h
      cases hresume : resume self packet rest (send 0) with
      | error panic =>
        rw [hresume] at h
        cases h
      | ok result =>
        obtain ⟨next, more, reached⟩ := result
        rw [hresume, ok_bind] at h
        have hstep : exec (runAwaited timer A policy bus published)
            (goOn policy ⟨self, period, .waiting, wire, calls⟩ frame (.sending packet rest))
            [.sent (send 0)] =
            some (goOn policy ⟨next, period, .waiting, wire ++ more, calls⟩ frame reached) := by
          simp only [exec, goOn, runAwaited, hresume, Option.bind_some]
        cases hfinish : finish next (fun i => send (i + 1)) reached with
        | error panic =>
          simp only [hfinish] at h
          cases h
        | ok result =>
          obtain ⟨last', sent', outcome'⟩ := result
          simp only [hfinish] at h
          cases h
          rw [← List.append_assoc]
          cases reached with
          | returned outcome =>
            cases hfinish
            exact ⟨[send 0], by rw [List.append_nil]; exact hstep⟩
          | sending packet' rest' =>
            obtain ⟨answers, hrun⟩ := ih _ (hn ▸ resume_rest hresume) _ _ hfinish rfl
            refine ⟨send 0 :: answers, ?_⟩
            rw [List.map_cons, ← List.singleton_append, exec_append, hstep, Option.bind_some]
            exact hrun

/-- The finer point, if the task is not in the middle of a call that the finer loop makes
without a rest. -/
def Pc.point : Pc → Option AwaitPoint
  | .spawned => some .spawned
  | .connecting => some .connecting
  | .waiting => some .waiting
  | .finished => some .finished
  | .panicked p => some (.panicked p)
  | .cancelled => some .cancelled
  | .rendering _ | .disconnecting => none

/-- The finer loop has begun the render that the coarser one has before it, and found the
entries of the frame in the order `order`. -/
inductive Ahead (A : F32Arith) (order : IterOrder) : AdapterTask Host → AwaitedTask → Prop where
  | resting {adapter period pc point wire calls returned} : Pc.point pc = some point →
      Ahead A order ⟨⟨adapter, wire⟩, period, pc, calls, returned⟩
        ⟨adapter, period, point, wire.flatten, calls⟩
  | rendering {adapter wire period frame calls returned now reached} :
      startRender A adapter frame.value order = .ok (now, reached) →
      Ahead A order ⟨⟨adapter, wire⟩, period, .rendering frame, calls, returned⟩
        (goOn .logAndContinue ⟨now, period, .waiting, wire.flatten, calls⟩ frame reached)

theorem Ahead.view_eq {order : IterOrder} {t : AdapterTask Host} {f : AwaitedTask}
    (h : Ahead A order t f)
    (haccept : Acceptable t.adapter.adapter.universes t.adapter.adapter.priority) :
    f.calls = t.calls ∧ cleared f.adapter = cleared t.adapter.adapter ∧
      f.wire = t.adapter.wire.flatten := by
  cases h with
  | resting hpoint => exact ⟨rfl, rfl, rfl⟩
  | @rendering adapter wire period frame calls returned now reached hstart =>
    have hcleared := cleared_startRender haccept hstart
    cases reached with
    | sending packet rest => exact ⟨rfl, hcleared, rfl⟩
    | returned outcome => cases outcome <;> exact ⟨rfl, hcleared, rfl⟩

/-- The finer loop gets from `f` to where it is ahead of `t`, with the ticks `ticks`. -/
def Precedes (timer : Timer) (A : F32Arith) (bus : Bus) (published : Nat) (f : AwaitedTask)
    (ticks : List (TaskEvent Answers)) (order : IterOrder) (t : AdapterTask Host) : Prop :=
  ∃ es f', exec (runAwaited timer A .logAndContinue bus published) f es = some f' ∧
    es.flatMap AwaitEvent.ticks = ticks ∧ (∀ e ∈ es, e ≠ .abort) ∧ Ahead A order t f'

/-- The order of the entries that the finer loop has found before the event, if after it
that is to be `order`. -/
def TaskEvent.orderBefore (order : IterOrder) : TaskEvent Answers → IterOrder
  | .rendered env => env.order
  | _ => order

theorem Ahead.step {t t' : AdapterTask Host} {f : AwaitedTask} {bus : Bus} {published : Nat}
    {event : TaskEvent Answers} {order : IterOrder}
    (h : Ahead A (TaskEvent.orderBefore order event) t f)
    (haccept : Acceptable t.adapter.adapter.universes t.adapter.adapter.priority)
    (moves : Moves timer (sacnOutput A) .logAndContinue bus published t event t')
    (hevent : event ≠ .abort) :
    Precedes timer A bus published f ([event].filter TaskEvent.isTick) order t' := by
  obtain ⟨⟨adapter, wire⟩, period, pc, calls, returned⟩ := t
  cases moves with
  | @intervalPanicked panic hpc hinterval =>
    obtain rfl : pc = .spawned := hpc
    obtain hpoint | hstart := h
    obtain rfl := Option.some.inj hpoint
    change timer.interval adapter.nativeRate = .error panic at hinterval
    exact ⟨[.start], _, by simp only [exec, runAwaited, hinterval]; rfl, rfl, by simp, .resting rfl⟩
  | started hpc hinterval =>
    obtain rfl : pc = .spawned := hpc
    obtain hpoint | hstart := h
    obtain rfl := Option.some.inj hpoint
    change timer.interval adapter.nativeRate = .ok () at hinterval
    exact ⟨[.start], _, by simp only [exec, runAwaited, hinterval]; rfl, rfl, by simp, .resting rfl⟩
  | @tickPanicked now panic hpc hdelay =>
    obtain rfl : pc = .waiting := hpc
    obtain hpoint | hstart := h
    obtain rfl := Option.some.inj hpoint
    change timer.delay period now = .error panic at hdelay
    exact ⟨[.overdue now], _, by simp only [exec, runAwaited, hdelay]; rfl, rfl, by simp,
      .resting rfl⟩
  | @connectPanicked env p hpc hcall =>
    cases hcall
  | @connectFailed env a e hpc hcall =>
    obtain rfl : pc = .connecting := hpc
    obtain hpoint | hstart := h
    obtain rfl := Option.some.inj hpoint
    obtain ⟨bind, entries, send⟩ := env
    cases bind with
    | ok socket => cases hcall
    | error e =>
      cases hcall
      exact ⟨[.connected (.error e)], _, rfl, rfl, by simp, .resting rfl⟩
  | @connected env a hpc hcall =>
    obtain rfl : pc = .connecting := hpc
    obtain hpoint | hstart := h
    obtain rfl := Option.some.inj hpoint
    obtain ⟨bind, entries, send⟩ := env
    cases bind with
    | error e => cases hcall
    | ok socket =>
      cases hcall
      exact ⟨[.connected (.ok socket)], _, rfl, rfl, by simp, .resting rfl⟩
  | ticked hpc =>
    obtain rfl : pc = .waiting := hpc
    obtain hpoint | hstart := h
    obtain rfl := Option.some.inj hpoint
    obtain ⟨result, hrender⟩ := render_total (A := A) haccept bus.snapshot order fun _ => .ok ()
    rw [render_eq] at hrender
    cases hstart : startRender A adapter bus.snapshot order with
    | error panic =>
      rw [hstart] at hrender
      cases hrender
    | ok begun =>
      refine ⟨[.tick order], _, by simp only [exec, runAwaited, hstart]; rfl, rfl, by simp, ?_⟩
      exact .rendering hstart
  | @renderPanicked env p frame hpc hcall =>
    obtain ⟨a, report, -, hrender⟩ := render_effect (A := A) haccept frame.value env
    rw [hrender] at hcall
    cases hcall
  | @rendered env a outcome frame hpc hcall hgo =>
    obtain rfl : pc = .rendering frame := hpc
    obtain hpoint | @⟨_, _, _, _, _, _, now, reached, hstart⟩ := h
    · cases hpoint
    · change startRender A adapter frame.value env.order = .ok (now, reached) at hstart
      obtain ⟨⟨last, sent, outcome'⟩, hrender⟩ :=
        render_total (A := A) haccept frame.value env.order env.send
      have hfinish := hrender
      rw [render_eq, hstart, ok_bind] at hfinish
      simp only [sacnOutput, perform_render A hrender, ok_bind] at hcall
      cases hcall
      obtain ⟨answers, hrun⟩ := exists_answers (A := A) hfinish
      refine ⟨answers.map .sent, _, hrun, ?_, by simp, ?_⟩
      · rw [List.flatMap_map]
        exact List.flatMap_eq_nil_iff.mpr fun _ _ => rfl
      · have hwire : wire.flatten ++ sent = (wire ++ [sent]).flatten := by simp
        rw [hwire]
        cases outcome <;> exact .resting rfl
  | renderStopped hpc hcall hstop => cases hstop
  | disconnectPanicked hpc hcall =>
    cases hcall
  | disconnected hpc hcall =>
    obtain rfl : pc = .disconnecting := hpc
    obtain hpoint | hstart := h
    cases hpoint
  | aborted hpc => exact absurd rfl hevent

end Tasks

end AwaitedLoop
