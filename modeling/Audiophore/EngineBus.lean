import Audiophore.AdapterCore
import Audiophore.MappingM1
import Audiophore.OscIngress
import Audiophore.SnapshotRegister
import Audiophore.StepRuns

/-!
# The bus, the render loops and the producer

`audiophore-engine/src/lib.rs` and the receive loop of `run_pipeline`. A task runs
from one await point to the next without interruption, so these pieces are the
events: a call of the adapter is one event when it is made and another when it
returns. An aborted task runs no further event.
-/

namespace EngineBus

open AudiophoreCore RustExec AdapterCore MappingM1 OscIngress SnapshotRegister

/-! ## The bus -/

/-- An atomic register that holds the latest frame. -/
structure Bus where
  current : ResolvedFrame

def Bus.new (initial : ResolvedFrame) : Bus := { current := initial }

def Bus.empty : Bus := Bus.new .default

def Bus.publish (_self : Bus) (frame : ResolvedFrame) : Bus := { current := frame }

def Bus.snapshot (self : Bus) : ResolvedFrame := self.current

inductive RenderErrorPolicy where
  | logAndContinue
  | logAndStop
  deriving DecidableEq

/-! ## The timer -/

/-- `tokio::time` as documented. `interval` panics on a period of zero. Under
`MissedTickBehavior::Delay` a tick that comes late, when the clock reads `now`, sets the next
one to `now + period`, and `Instant` panics when it cannot hold the sum. -/
structure Timer where
  latest : Instant
  interval : Duration → Exec Unit
  delay : Duration → Instant → Exec Unit
  interval_ok : ∀ period, interval period = .ok () ↔ period ≠ 0
  delay_ok : ∀ period now, delay period now = .ok () ↔ now + period ≤ latest

def Timer.upTo (latest : Instant) : Timer where
  latest := latest
  interval period := if period = 0 then throw .zeroInterval else pure ()
  delay period now := if now + period ≤ latest then pure () else throw .instantOverflow
  interval_ok period := by
    by_cases h : period = 0
    · simp [h, throw, throwThe, MonadExceptOf.throw]
    · simp [h, pure, Except.pure]
  delay_ok period now := by
    by_cases h : now + period ≤ latest
    · simp [h, pure, Except.pure]
    · simp [h, throw, throwThe, MonadExceptOf.throw]

/-- A clock of 64 bits. -/
def clock64 : Timer := .upTo (2 ^ 64 - 1)

/-! ## One render loop -/

/-- A call of the adapter. A render carries the snapshot it was given and, as history,
how many frames had been published when it was taken. -/
inductive Call where
  | connect
  | render (frame : Read ResolvedFrame)
  | disconnect
  deriving DecidableEq

/-- The await point a task rests at, or how it ended. -/
inductive Pc where
  | spawned
  | connecting
  | waiting
  | rendering (frame : Read ResolvedFrame)
  | disconnecting
  | finished
  | panicked (p : Panic)
  | cancelled
  deriving DecidableEq

def Pc.isFinal : Pc → Bool
  | .finished | .panicked _ | .cancelled => true
  | _ => false

/-- A running `run_adapter`, with the period of its interval once that is made. The calls
made and the calls returned are history. -/
structure AdapterTask (σ : Type) where
  adapter : σ
  period : Duration
  pc : Pc
  calls : List Call
  returned : List (Call × Except AdapterError Unit)

def AdapterTask.spawn {σ : Type} (adapter : σ) : AdapterTask σ :=
  { adapter := adapter, period := 0, pc := .spawned, calls := [], returned := [] }

/-- What resumes a task, with the answers its adapter got from the environment. A tick
returns, be it late or not, unless it is `overdue`: then the clock reads `now`, and the timer
has no next tick. -/
inductive TaskEvent (ε : Type) where
  | start
  | connected (env : ε)
  | tick
  | overdue (now : Instant)
  | rendered (env : ε)
  | disconnected (env : ε)
  | abort

section RunAdapter
variable {σ ε : Type} (timer : Timer) (output : OutputAdapter σ ε) (policy : RenderErrorPolicy)

/-- `run_adapter`, one event at a time. `published` counts the frames on the bus so far. -/
def runAdapter (bus : Bus) (published : Nat) (task : AdapterTask σ) :
    TaskEvent ε → Option (AdapterTask σ)
  | .start =>
    match task.pc with
    | .spawned =>
      let rate := output.nativeRate task.adapter
      match timer.interval rate with
      | .error p => some { task with pc := .panicked p }
      | .ok () => some { task with
          period := rate
          pc := .connecting
          calls := task.calls ++ [.connect] }
    | _ => none
  | .connected env =>
    match task.pc with
    | .connecting =>
      match output.connect task.adapter env with
      | .error p => some { task with pc := .panicked p }
      | .ok (adapter, outcome) => some { task with
          adapter := adapter
          pc := match outcome with
            | .error _ => .finished
            | .ok () => .waiting
          returned := task.returned ++ [(.connect, outcome)] }
    | _ => none
  | .tick =>
    match task.pc with
    | .waiting =>
      let frame : Read ResolvedFrame := { seen := published, value := bus.snapshot }
      some { task with pc := .rendering frame, calls := task.calls ++ [.render frame] }
    | _ => none
  | .overdue now =>
    match task.pc with
    | .waiting =>
      match timer.delay task.period now with
      | .error p => some { task with pc := .panicked p }
      | .ok () => none
    | _ => none
  | .rendered env =>
    match task.pc with
    | .rendering frame =>
      match output.render task.adapter frame.value env with
      | .error p => some { task with pc := .panicked p }
      | .ok (adapter, outcome) =>
        let task := { task with
          adapter := adapter
          returned := task.returned ++ [(Call.render frame, outcome)] }
        match outcome, policy with
        | .ok (), _ | .error _, .logAndContinue => some { task with pc := .waiting }
        | .error _, .logAndStop =>
          some { task with pc := .disconnecting, calls := task.calls ++ [Call.disconnect] }
    | _ => none
  | .disconnected env =>
    match task.pc with
    | .disconnecting =>
      match output.disconnect task.adapter env with
      | .error p => some { task with pc := .panicked p }
      | .ok (adapter, outcome) => some { task with
          adapter := adapter
          pc := .finished
          returned := task.returned ++ [(.disconnect, outcome)] }
    | _ => none
  | .abort => if task.pc.isFinal then none else some { task with pc := .cancelled }

end RunAdapter

/-! ## The producer and its tasks -/

section Engine
variable {ι : Type} [DecidableEq ι] {σ ε : ι → Type}

/-- The fixed parts of a running engine. -/
structure Setup (ι : Type) (σ ε : ι → Type) where
  arith : F32Arith
  timer : Timer
  zones : List Zone
  outputs : ∀ i, OutputAdapter (σ i) (ε i)
  policy : ι → RenderErrorPolicy

/-- The producer's tick counter, the bus and the tasks; the published frames are history. -/
structure Engine (σ : ι → Type) where
  bus : Bus
  tick : UInt64
  tasks : ∀ i, AdapterTask (σ i)
  published : List ResolvedFrame

def Engine.start (adapters : ∀ i, σ i) : Engine σ where
  bus := .empty
  tick := 0
  tasks := fun i => .spawn (adapters i)
  published := []

inductive EngineEvent (ε : ι → Type) where
  | recv (outcome : Except IngressError AudioFrame)
  | task (i : ι) (event : TaskEvent (ε i))

/-- The producer's reaction to what `recv` returned. -/
def produce (setup : Setup ι σ ε) (engine : Engine σ) :
    Except IngressError AudioFrame → Engine σ
  | .ok frame =>
    let resolved := mapM1 setup.arith frame setup.zones engine.tick
    { engine with
      bus := engine.bus.publish resolved
      tick := engine.tick + 1
      published := engine.published ++ [resolved] }
  | .error _ => engine

def engineStep (setup : Setup ι σ ε) (engine : Engine σ) : EngineEvent ε → Option (Engine σ)
  | .recv outcome => some (produce setup engine outcome)
  | .task i event =>
    (runAdapter setup.timer (setup.outputs i) (setup.policy i) engine.bus
      engine.published.length (engine.tasks i) event).map fun task =>
        { engine with tasks := Function.update engine.tasks i task }

end Engine

end EngineBus
