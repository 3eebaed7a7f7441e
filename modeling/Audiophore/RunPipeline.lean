import Audiophore.AdapterRuns
import Audiophore.CliUniverses
import Audiophore.EngineBus
import Audiophore.IngressHistory

/-!
# The `run` command

`run_pipeline` in `audiophore-cli/src/main.rs`: one strip, one sACN adapter rendering in
the background, and the receive loop on the main task until ctrl-c.
-/

namespace RunPipeline

open ExtendedFloat AudiophoreCore FrameBuilder RustExec AdapterCore OscIngress SacnPacket
open SacnOutput AdapterRuns CliUniverses EngineBus

/-! ## The adapter behind the trait -/

/-- The adapter together with what each of its renders put on the wire. -/
structure Host where
  adapter : SacnAdapter
  wire : List (List Datagram)

/-- The answers of the operating system during one call. -/
structure Answers where
  bind : Except IoError UdpSocket
  order : IterOrder
  send : SendOutcomes

/-- The adapter trait as implemented for the sACN adapter. -/
def sacnOutput (A : F32Arith) : OutputAdapter Host Answers where
  nativeRate := fun host => host.adapter.nativeRate
  connect := fun host env => do
    let (adapter, report) ← perform A host.adapter (.connect env.bind)
    pure ({ host with adapter := adapter }, report.outcome)
  render := fun host frame env => do
    let (adapter, report) ← perform A host.adapter (.render frame env.order env.send)
    pure ({ adapter := adapter, wire := host.wire ++ [report.sent] }, report.outcome)
  disconnect := fun host _ => do
    let (adapter, report) ← perform A host.adapter .disconnect
    pure ({ host with adapter := adapter }, report.outcome)

/-! ## Start-up -/

structure RunArgs where
  oscPort : UInt16
  oscBind : IpAddr
  sacnHost : IpAddr
  sacnPort : UInt16
  pixels : UInt32
  startUniverse : UInt16
  zoneId : String
  fps : UInt16

/-- The nearest natural number, ties to even. -/
def roundHalfEven (x : ℚ) : Nat :=
  let below := ⌊x⌋
  let rest := x - below
  (if rest < 1 / 2 then below
    else if 1 / 2 < rest then below + 1
    else if below % 2 = 0 then below else below + 1).toNat

/-- `Duration::from_secs_f64`, in nanoseconds. -/
def durationFromSecs : F64 → Exec Duration
  | .fin secs =>
    if secs < 0 ∨ 2 ^ 64 ≤ secs then throw .invalidDuration
    else pure (roundHalfEven (secs * 10 ^ 9))
  | _ => throw .invalidDuration

/-- The period of the render loop; `A64` is the `f64` arithmetic. -/
def renderRate (A64 : Arithmetic ℚ) (args : RunArgs) : Exec Duration :=
  durationFromSecs (A64.div (.fin 1) (.fin (max args.fps.toNat 1 : Nat)))

/-- Arithmetic that keeps fractions of a second in range never panics here. -/
theorem renderRate_ok {A64 : Arithmetic ℚ}
    (rounds : ∀ x : ℚ, 0 ≤ x → x ≤ 1 → (A64.round x).Within 0 1) (args : RunArgs) :
    ∃ rate, renderRate A64 args = .ok rate := by
  have hfps : (1 : ℚ) ≤ (max args.fps.toNat 1 : Nat) := by
    exact_mod_cast Nat.le_max_right args.fps.toNat 1
  have hpos : (0 : ℚ) < (max args.fps.toNat 1 : Nat) := lt_of_lt_of_le one_pos hfps
  obtain ⟨secs, hsecs, hlow, hhigh⟩ := rounds (1 / (max args.fps.toNat 1 : Nat))
    (div_nonneg zero_le_one hpos.le) (div_le_one_of_le₀ hfps hpos.le)
  have hdiv : A64.div (.fin 1) (.fin (max args.fps.toNat 1 : Nat)) = .fin secs := by
    simp only [Arithmetic.div, hpos.ne', ↓reduceIte]
    exact hsecs
  have hvalid : ¬(secs < 0 ∨ 2 ^ 64 ≤ secs) := by
    rintro (hneg | hbig)
    · exact not_lt.mpr hlow hneg
    · linarith
  exact ⟨_, by rw [renderRate, hdiv, durationFromSecs, if_neg hvalid]; rfl⟩

def zonesOf (args : RunArgs) : List Zone :=
  [{ id := ⟨args.zoneId⟩, kind := .pixelStrip, size := .strip args.pixels }]

def adapterBuilder (args : RunArgs) (rate : Duration) : SacnAdapterBuilder :=
  (SacnAdapterBuilder.new "sacn" args.sacnHost)
    |>.setTargetPort args.sacnPort
    |>.setUniverses (universesFor args.pixels args.startUniverse)
    |>.setZones (zonesOf args)
    |>.setNativeRate rate
    |>.setSourceName "audiophore"

/-- The error of a run, by what was being done. -/
inductive PipelineError where
  | buildingAdapter (error : AdapterError)
  | bindingListener (addr : SocketAddr) (error : IngressError)
  | queryingAddr (error : IngressError)
  | installingCtrlC (error : IoError)

/-- Where the main task is. -/
inductive Main where
  | binding
  | receiving
  | returned (result : Except PipelineError Unit)

structure Pipeline where
  main : Main
  builder : AudioFrameBuilder
  engine : Engine fun _ : Unit => Host

def setupOf (timer : Timer) (A : F32Arith) (args : RunArgs) :
    Setup Unit (fun _ => Host) (fun _ => Answers) where
  arith := A
  timer := timer
  zones := zonesOf args
  outputs := fun _ => sacnOutput A
  policy := fun _ => .logAndContinue

/-- Up to the point where the adapter task is spawned. -/
def startPipeline (A64 : Arithmetic ℚ) (args : RunArgs) (freshCid : Uuid) :
    Exec (Except PipelineError Pipeline) := do
  let rate ← renderRate A64 args
  match ← (adapterBuilder args rate).build freshCid with
  | .error e => return .error (.buildingAdapter e)
  | .ok adapter => return .ok {
      main := .binding
      builder := .new
      engine := Engine.start fun _ => { adapter := adapter, wire := [] } }

/-! ## Running -/

inductive PipelineEvent where
  | bound (outcome : Except IngressError Unit) (localAddr : Except IngressError SocketAddr)
  | ctrlC (outcome : Except IoError Unit)
  | arrival (arrival : Arrival)
  | task (event : TaskEvent Answers)

/-- `adapter_task.abort()`. -/
def abortTask (timer : Timer) (A : F32Arith) (args : RunArgs)
    (engine : Engine fun _ : Unit => Host) : Engine fun _ : Unit => Host :=
  (engineStep (setupOf timer A args) engine (.task () .abort)).getD engine

/-- One event of the main task or of the adapter task. Nothing runs after the main
task has returned, and only the main task aborts the other. -/
def pipelineStep (timer : Timer) (A : F32Arith) (decodeUdp : Decoder) (args : RunArgs)
    (p : Pipeline) : PipelineEvent → Option Pipeline
  | .bound outcome localAddr =>
    match p.main, outcome, localAddr with
    | .binding, .error e, _ =>
      some { p with main := .returned (.error (.bindingListener ⟨args.oscBind, args.oscPort⟩ e)) }
    | .binding, .ok (), .error e => some { p with main := .returned (.error (.queryingAddr e)) }
    | .binding, .ok (), .ok _ => some { p with main := .receiving }
    | _, _, _ => none
  | .ctrlC outcome =>
    match p.main, outcome with
    | .receiving, .ok () =>
      some { p with main := .returned (.ok ()), engine := abortTask timer A args p.engine }
    | .receiving, .error e => some { p with main := .returned (.error (.installingCtrlC e)) }
    | _, _ => none
  | .arrival arrival =>
    match p.main with
    | .receiving =>
      let (builder, outcome) := recv A decodeUdp p.builder arrival
      some { p with builder := builder, engine := produce (setupOf timer A args) p.engine outcome }
    | _ => none
  | .task event =>
    match p.main, event with
    | .returned _, _ => none
    | _, .abort => none
    | _, event => (engineStep (setupOf timer A args) p.engine (.task () event)).map fun engine =>
        { p with engine := engine }

end RunPipeline
