import Audiophore.AdapterGuarantees
import Audiophore.EngineRuns
import Audiophore.RunPipeline

/-!
# The pipeline end to end

What each render tick of `audiophore run` puts on the wire is a function of the OSC
messages decoded before the tick and of the number of earlier ticks that sent anything.
-/

namespace PipelineRuns

open ExtendedFloat AudiophoreCore FrameBuilder RustExec AdapterCore MappingM1 OscIngress
open OscRegisters IngressHistory SacnPacket SacnReceiver SacnOutput SacnRender AdapterRuns
open AdapterGuarantees CliUniverses SnapshotRegister StepRuns EngineBus EngineRuns RunPipeline

variable (timer : Timer) (A : F32Arith)

/-! ## The adapter task -/

/-- The renders that sent anything. -/
def sendingTicks (wire : List (List Datagram)) : Nat := wire.countP fun batch => !batch.isEmpty

theorem sendingTicks_snoc (wire : List (List Datagram)) (batch : List Datagram) :
    sendingTicks (wire ++ [batch]) = sendingTicks wire + if batch.length = 0 then 0 else 1 := by
  rw [sendingTicks, List.countP_append, List.countP_singleton]
  cases batch <;> rfl

/-- What a render of `frame` sends, after `earlier` renders that sent something. -/
structure Batch (a₀ : SacnAdapter) (frame : ResolvedFrame) (earlier : Nat)
    (batch : List Datagram) : Prop where
  dark : (∀ order, firstPixels frame order = none) → batch = []
  lit : ∀ pixels, (∀ order, firstPixels frame order = some pixels) →
    batch = packets A { a₀ with sequence := UInt8.ofNat earlier } pixels

/-- A host that has rendered `frames`, and nothing else, since `a₀` was built. -/
structure Shown (a₀ : SacnAdapter) (host : Host) (frames : List ResolvedFrame) : Prop where
  settings_eq : settings host.adapter = settings a₀
  sequence_eq : host.adapter.sequence = UInt8.ofNat (sendingTicks host.wire)
  length_eq : host.wire.length = frames.length
  batches : ∀ j frame batch, frames[j]? = some frame → host.wire[j]? = some batch →
    Batch A a₀ frame (sendingTicks (host.wire.take j)) batch

variable {timer A}
variable {a₀ : SacnAdapter} {host : Host} {frames : List ResolvedFrame}

theorem Shown.acceptable (h : Shown A a₀ host frames)
    (h₀ : Acceptable a₀.universes a₀.priority) :
    Acceptable host.adapter.universes host.adapter.priority :=
  acceptable_of_settings h.settings_eq h₀

/-- Packets depend on the settings and the counter alone. -/
theorem packets_of_settings {a : SacnAdapter} (hsettings : settings a = settings a₀)
    (pixels : List Rgb) :
    packets A a pixels = packets A { a₀ with sequence := a.sequence } pixels := by
  have hleft : packets A a pixels =
      packets A { settings a with sequence := a.sequence } pixels := rfl
  rw [hleft, hsettings]
  rfl

/-- Connecting and disconnecting show nothing. -/
theorem Shown.idle (h : Shown A a₀ host frames) {c : AdapterCall} {a : SacnAdapter}
    {report : Report} (h₀ : Acceptable a₀.universes a₀.priority) (hc : isRender c = false)
    (effect : Effect A host.adapter c a report) :
    Shown A a₀ { host with adapter := a } frames := by
  have hpos := List.length_pos_iff.mpr (h.acceptable h₀).nonempty
  have hserved : served host.adapter.universes.length host.adapter.socket.isSome c ≠
      host.adapter.universes.length := by
    cases c with
    | render frame order send => cases hc
    | _ => exact hpos.ne
  have hsequence := effect.sequence_eq
  rw [if_neg hserved] at hsequence
  exact ⟨effect.settings_eq.trans h.settings_eq, hsequence.trans h.sequence_eq, h.length_eq,
    h.batches⟩

/-- The render sends all it has planned, stamped with the counter. -/
theorem Shown.batch (h : Shown A a₀ host frames) (connected : host.adapter.socket.isSome = true)
    {frame : ResolvedFrame} {order : IterOrder} {send : SendOutcomes}
    (succeed : ∀ i, send i = .ok ()) {a : SacnAdapter} {report : Report}
    (effect : Effect A host.adapter (.render frame order send) a report) :
    Batch A a₀ frame (sendingTicks host.wire) report.sent := by
  constructor
  · intro hdark
    rw [effect.sent_eq, planned, hdark order]
    exact List.take_nil
  · intro pixels hlit
    rw [effect.sent_all A connected (hlit order) succeed, packets_of_settings h.settings_eq,
      h.sequence_eq]

/-- The counter moves when something was sent. -/
theorem Shown.sequence_render (h : Shown A a₀ host frames)
    (h₀ : Acceptable a₀.universes a₀.priority) {frame : ResolvedFrame} {order : IterOrder}
    {send : SendOutcomes} (succeed : ∀ i, send i = .ok ()) {a : SacnAdapter} {report : Report}
    (effect : Effect A host.adapter (.render frame order send) a report) :
    a.sequence = UInt8.ofNat (sendingTicks (host.wire ++ [report.sent])) := by
  have hpos := List.length_pos_iff.mpr (h.acceptable h₀).nonempty
  rw [sendingTicks_snoc, effect.length_sent, effect.sequence_eq, h.sequence_eq]
  rcases served_of_succeed host.adapter.universes.length host.adapter.socket.isSome frame order
    succeed with hzero | hall
  · rw [if_neg (by omega), if_pos hzero]
    rfl
  · rw [if_pos hall, if_neg (by omega), UInt8.ofNat_add]
    rfl

/-- A render whose sends succeed shows one more frame. -/
theorem Shown.render (h : Shown A a₀ host frames) (h₀ : Acceptable a₀.universes a₀.priority)
    (connected : host.adapter.socket.isSome = true) {frame : ResolvedFrame} {order : IterOrder}
    {send : SendOutcomes} (succeed : ∀ i, send i = .ok ()) {a : SacnAdapter} {report : Report}
    (effect : Effect A host.adapter (.render frame order send) a report) :
    Shown A a₀ { adapter := a, wire := host.wire ++ [report.sent] } (frames ++ [frame]) := by
  constructor
  · exact effect.settings_eq.trans h.settings_eq
  · exact h.sequence_render h₀ succeed effect
  · simp [h.length_eq]
  · intro j frame' batch hframe hwire
    by_cases hj : j < host.wire.length
    · rw [List.getElem?_append_left (by rwa [← h.length_eq])] at hframe
      rw [List.getElem?_append_left hj] at hwire
      rw [List.take_append_of_le_length (Nat.le_of_lt hj)]
      exact h.batches j frame' batch hframe hwire
    · obtain rfl : j = host.wire.length := by
        have hlt := (List.getElem?_eq_some_iff.mp hwire).1
        rw [List.length_append, List.length_singleton] at hlt
        omega
      rw [h.length_eq, List.getElem?_concat_length] at hframe
      rw [List.getElem?_concat_length] at hwire
      obtain rfl := Option.some.inj hframe
      obtain rfl := Option.some.inj hwire
      rw [List.take_left]
      exact h.batch connected succeed effect

/-- The invariant of the adapter task: it has shown what its returned renders were
given, and it only renders with an open socket. -/
structure TaskShown (A : F32Arith) (a₀ : SacnAdapter) (t : AdapterTask Host) : Prop where
  shown : Shown A a₀ t.adapter ((completed t).map Read.value)
  connected : t.pc = .waiting ∨ (∃ frame, t.pc = .rendering frame) →
    t.adapter.adapter.socket.isSome = true

/-- No send made during the event fails. -/
def EventSucceeds : TaskEvent Answers → Prop
  | .rendered env => ∀ i, env.send i = .ok ()
  | _ => True

theorem taskShown_spawn (hfresh : a₀.sequence = 0) :
    TaskShown A a₀ (AdapterTask.spawn { adapter := a₀, wire := [] }) := by
  refine ⟨⟨rfl, hfresh, rfl, ?_⟩, ?_⟩
  · intro j frame batch hframe
    cases hframe
  · rintro (h | ⟨frame, h⟩) <;> cases h

/-- A connect through the trait is a connect of the adapter. -/
theorem connect_effect (h : Acceptable host.adapter.universes host.adapter.priority)
    {env : Answers} {host' : Host} {outcome : Except AdapterError Unit}
    (hcall : (sacnOutput A).connect host env = .ok (host', outcome)) :
    ∃ a report, Effect A host.adapter (.connect env.bind) a report ∧
      host' = { host with adapter := a } ∧ outcome = report.outcome := by
  obtain ⟨a, report, hperform, effect⟩ := perform_effect A h (.connect env.bind)
  simp only [sacnOutput, hperform, ok_bind] at hcall
  obtain ⟨rfl, rfl⟩ := Prod.mk.inj (Except.ok.inj hcall)
  exact ⟨a, report, effect, rfl, rfl⟩

/-- A connect that returned `Ok` leaves the socket open. -/
theorem socket_of_connect {a a' : SacnAdapter} {bind : Except IoError UdpSocket} {report : Report}
    (effect : Effect A a (.connect bind) a' report) (hok : .ok () = report.outcome) :
    a'.socket.isSome = true := by
  rw [effect.outcome_eq] at hok
  rw [effect.socket_eq]
  cases hbind : bind with
  | error e => simp [hbind, result] at hok
  | ok socket => rfl

/-- A render through the trait never panics, and its packets are added to the wire. -/
theorem render_effect (h : Acceptable host.adapter.universes host.adapter.priority)
    (frame : ResolvedFrame) (env : Answers) :
    ∃ a report, Effect A host.adapter (.render frame env.order env.send) a report ∧
      (sacnOutput A).render host frame env =
        .ok ({ adapter := a, wire := host.wire ++ [report.sent] }, report.outcome) := by
  obtain ⟨a, report, hperform, effect⟩ := perform_effect A h (.render frame env.order env.send)
  refine ⟨a, report, effect, ?_⟩
  simp only [sacnOutput, hperform, ok_bind]
  rfl

theorem disconnect_effect (h : Acceptable host.adapter.universes host.adapter.priority)
    {env : Answers} {host' : Host} {outcome : Except AdapterError Unit}
    (hcall : (sacnOutput A).disconnect host env = .ok (host', outcome)) :
    ∃ a report, Effect A host.adapter .disconnect a report ∧
      host' = { host with adapter := a } ∧ outcome = report.outcome := by
  obtain ⟨a, report, hperform, effect⟩ := perform_effect A h .disconnect
  simp only [sacnOutput, hperform, ok_bind] at hcall
  obtain ⟨rfl, rfl⟩ := Prod.mk.inj (Except.ok.inj hcall)
  exact ⟨a, report, effect, rfl, rfl⟩

/-- Nothing that an adapter task does changes how its adapter was built. -/
theorem settings_of_moves {t t' : AdapterTask Host} {event : TaskEvent Answers}
    {policy : RenderErrorPolicy} {bus : Bus} {published : Nat}
    (h : Acceptable t.adapter.adapter.universes t.adapter.adapter.priority)
    (moves : Moves timer (sacnOutput A) policy bus published t event t') :
    settings t'.adapter.adapter = settings t.adapter.adapter := by
  cases moves with
  | intervalPanicked hpc | tickPanicked hpc | started hpc | connectPanicked hpc hcall | ticked hpc
  | renderPanicked hpc hcall | disconnectPanicked hpc hcall | aborted hpc => rfl
  | connectFailed hpc hcall | connected hpc hcall =>
    obtain ⟨a', report, effect, rfl, -⟩ := connect_effect h hcall
    exact effect.settings_eq
  | @rendered env a outcome frame hpc hcall hgo =>
    obtain ⟨a', report, effect, hrender⟩ := render_effect h frame.value env
    obtain ⟨rfl, -⟩ := Prod.mk.inj (Except.ok.inj (hcall.symm.trans hrender))
    exact effect.settings_eq
  | @renderStopped env a e frame hpc hcall hstop =>
    obtain ⟨a', report, effect, hrender⟩ := render_effect h frame.value env
    obtain ⟨rfl, -⟩ := Prod.mk.inj (Except.ok.inj (hcall.symm.trans hrender))
    exact effect.settings_eq
  | disconnected hpc hcall =>
    obtain ⟨a', report, effect, rfl, -⟩ := disconnect_effect h hcall
    exact effect.settings_eq

theorem completed_snoc (t : AdapterTask Host) (host : Host) (pc : Pc) (calls : List Call) (c : Call)
    (outcome : Except AdapterError Unit) :
    (completed { t with
        adapter := host
        pc := pc
        calls := calls
        returned := t.returned ++ [(c, outcome)] }).map Read.value =
      (completed t).map Read.value ++ (renders [c]).map Read.value := by
  simp [completed]

theorem TaskShown.step {t t' : AdapterTask Host} {event : TaskEvent Answers}
    {policy : RenderErrorPolicy} {bus : Bus} {published : Nat} (h : TaskShown A a₀ t)
    (h₀ : Acceptable a₀.universes a₀.priority) (succeed : EventSucceeds event)
    (moves : Moves timer (sacnOutput A) policy bus published t event t') : TaskShown A a₀ t' := by
  have haccept := h.shown.acceptable h₀
  cases moves with
  | intervalPanicked hpc | tickPanicked hpc | started hpc | connectPanicked hpc hcall
  | renderPanicked hpc hcall | disconnectPanicked hpc hcall | aborted hpc =>
    exact ⟨h.shown, by rintro (h | ⟨frame, h⟩) <;> cases h⟩
  | ticked hpc => exact ⟨h.shown, fun _ => h.connected (.inl hpc)⟩
  | @connectFailed env a e hpc hcall =>
    obtain ⟨a', report, effect, rfl, -⟩ := connect_effect haccept hcall
    refine ⟨?_, by rintro (h | ⟨frame, h⟩) <;> cases h⟩
    rw [completed_snoc, renders_connect, List.map_nil, List.append_nil]
    exact h.shown.idle h₀ rfl effect
  | @connected env a hpc hcall =>
    obtain ⟨a', report, effect, rfl, hok⟩ := connect_effect haccept hcall
    constructor
    · rw [completed_snoc, renders_connect, List.map_nil, List.append_nil]
      exact h.shown.idle h₀ rfl effect
    · intro _
      exact socket_of_connect effect hok
  | @rendered env a outcome frame hpc hcall hgo =>
    have hopen := h.connected (.inr ⟨frame, hpc⟩)
    obtain ⟨a', report, effect, hrender⟩ := render_effect haccept frame.value env
    obtain ⟨rfl, -⟩ := Prod.mk.inj (Except.ok.inj (hcall.symm.trans hrender))
    refine ⟨?_, fun _ => effect.socket_eq.trans hopen⟩
    rw [completed_snoc, renders_render]
    exact h.shown.render h₀ hopen succeed effect
  | @renderStopped env a e frame hpc hcall hstop =>
    have hopen := h.connected (.inr ⟨frame, hpc⟩)
    obtain ⟨a', report, effect, hrender⟩ := render_effect haccept frame.value env
    obtain ⟨rfl, -⟩ := Prod.mk.inj (Except.ok.inj (hcall.symm.trans hrender))
    refine ⟨?_, by rintro (h | ⟨frame, h⟩) <;> cases h⟩
    rw [completed_snoc, renders_render]
    exact h.shown.render h₀ hopen succeed effect
  | @disconnected env a outcome hpc hcall =>
    obtain ⟨a', report, effect, rfl, -⟩ := disconnect_effect haccept hcall
    refine ⟨?_, by rintro (h | ⟨frame, h⟩) <;> cases h⟩
    rw [completed_snoc, renders_disconnect, List.map_nil, List.append_nil]
    exact h.shown.idle h₀ rfl effect

def TaskEvent.isRendered : TaskEvent Answers → Bool
  | .rendered _ => true
  | _ => false

/-- A render never panics, so each one that is answered returns. -/
theorem TaskShown.length_completed {t t' : AdapterTask Host} {event : TaskEvent Answers}
    {policy : RenderErrorPolicy} {bus : Bus} {published : Nat} (h : TaskShown A a₀ t)
    (h₀ : Acceptable a₀.universes a₀.priority)
    (moves : Moves timer (sacnOutput A) policy bus published t event t') :
    (completed t').length =
      (completed t).length + if TaskEvent.isRendered event then 1 else 0 := by
  cases moves with
  | @renderPanicked env p frame hpc hcall =>
    obtain ⟨a, report, -, hrender⟩ := render_effect (h.shown.acceptable h₀) frame.value env
    rw [hrender] at hcall
    cases hcall
  | _ => simp [completed, TaskEvent.isRendered]

/-! ## The pipeline's steps -/

section Steps
variable (timer A) (decodeUdp : Decoder) (args : RunArgs)

/-- All steps of a pipeline, each with its guard. -/
inductive Steps (p : Pipeline) : PipelineEvent → Pipeline → Prop where
  | bindFailed {e localAddr} : p.main = .binding → Steps p (.bound (.error e) localAddr)
      { p with main := .returned (.error (.bindingListener ⟨args.oscBind, args.oscPort⟩ e)) }
  | addrFailed {e} : p.main = .binding → Steps p (.bound (.ok ()) (.error e))
      { p with main := .returned (.error (.queryingAddr e)) }
  | listening {addr} : p.main = .binding →
      Steps p (.bound (.ok ()) (.ok addr)) { p with main := .receiving }
  | stopped : p.main = .receiving → Steps p (.ctrlC (.ok ()))
      { p with main := .returned (.ok ()), engine := abortTask timer A args p.engine }
  | unstoppable {e} : p.main = .receiving → Steps p (.ctrlC (.error e))
      { p with main := .returned (.error (.installingCtrlC e)) }
  | received {arrival} : p.main = .receiving → Steps p (.arrival arrival) { p with
      builder := (recv A decodeUdp p.builder arrival).1
      engine := produce (setupOf timer A args) p.engine (recv A decodeUdp p.builder arrival).2 }
  | resumed {event engine} : (∀ result, p.main ≠ .returned result) → event ≠ .abort →
      engineStep (setupOf timer A args) p.engine (.task () event) = some engine →
      Steps p (.task event) { p with engine := engine }

variable {timer A decodeUdp args}

theorem steps_of_pipelineStep {p p' : Pipeline} {e : PipelineEvent}
    (h : pipelineStep timer A decodeUdp args p e = some p') :
    Steps timer A decodeUdp args p e p' := by
  obtain ⟨main, builder, engine⟩ := p
  cases e with
  | bound outcome localAddr =>
    cases main <;> cases outcome <;> cases localAddr <;>
      simp only [pipelineStep, Option.some.injEq, reduceCtorEq] at h <;> subst h
    · exact .bindFailed rfl
    · exact .bindFailed rfl
    · exact .addrFailed rfl
    · exact .listening rfl
  | ctrlC outcome =>
    cases main <;> cases outcome <;>
      simp only [pipelineStep, Option.some.injEq, reduceCtorEq] at h <;> subst h
    · exact .unstoppable rfl
    · exact .stopped rfl
  | arrival arrival =>
    cases main with
    | receiving =>
      obtain rfl := Option.some.inj h
      exact .received rfl
    | _ => cases h
  | task event =>
    have running : (∀ result, main ≠ .returned result) ∧ event ≠ .abort := by
      constructor
      · rintro result rfl
        cases h
      · rintro rfl
        cases main <;> cases h
    have hstep : (engineStep (setupOf timer A args) engine (.task () event)).map
        (fun engine => (⟨main, builder, engine⟩ : Pipeline)) = some p' := by
      cases main with
      | returned result => exact absurd rfl (running.1 result)
      | _ =>
        cases event with
        | abort => exact absurd rfl running.2
        | _ => exact h
    obtain ⟨engine', hengine, rfl⟩ := Option.map_eq_some_iff.mp hstep
    exact .resumed running.1 running.2 hengine

end Steps

/-! ## What the ticks had heard -/

section History
variable (decodeUdp : Decoder)

def PipelineEvent.arrived : PipelineEvent → Option Arrival
  | .arrival arrival => some arrival
  | _ => none

def PipelineEvent.isTick : PipelineEvent → Bool
  | .task event => TaskEvent.isTick event
  | _ => false

def PipelineEvent.isRendered : PipelineEvent → Bool
  | .task event => TaskEvent.isRendered event
  | _ => false

/-- The datagrams of a run, in order. -/
def arrivals (es : List PipelineEvent) : List Arrival := es.filterMap PipelineEvent.arrived

/-- For each render tick of a run, the packets decoded before it, `packets` of them before
the run. -/
def heardAtTicks (packets : List OscPacket) : List PipelineEvent → List (List OscPacket)
  | [] => []
  | e :: es => (if PipelineEvent.isTick e then [packets] else []) ++
      heardAtTicks (packets ++ decodedPackets decodeUdp (arrivals [e])) es

theorem arrivals_append (es fs : List PipelineEvent) :
    arrivals (es ++ fs) = arrivals es ++ arrivals fs := List.filterMap_append

theorem decodedPackets_append (as bs : List Arrival) :
    decodedPackets decodeUdp (as ++ bs) =
      decodedPackets decodeUdp as ++ decodedPackets decodeUdp bs := List.filterMap_append

theorem heardAtTicks_append (packets : List OscPacket) (es fs : List PipelineEvent) :
    heardAtTicks decodeUdp packets (es ++ fs) = heardAtTicks decodeUdp packets es ++
      heardAtTicks decodeUdp (packets ++ decodedPackets decodeUdp (arrivals es)) fs := by
  induction es generalizing packets with
  | nil => simp [heardAtTicks, arrivals, decodedPackets]
  | cons e es ih =>
    have hcons : arrivals (e :: es) = arrivals [e] ++ arrivals es := arrivals_append [e] es
    rw [List.cons_append, heardAtTicks, heardAtTicks, ih, hcons, decodedPackets_append,
      List.append_assoc, List.append_assoc]

/-- What a tick had heard is a beginning of what is heard in the end. -/
theorem isPrefix_of_heardAtTicks {packets heard : List OscPacket} {es : List PipelineEvent}
    (h : heard ∈ heardAtTicks decodeUdp packets es) :
    heard <+: packets ++ decodedPackets decodeUdp (arrivals es) := by
  induction es generalizing packets with
  | nil => cases h
  | cons e es ih =>
    have hcons : arrivals (e :: es) = arrivals [e] ++ arrivals es := arrivals_append [e] es
    rw [hcons, decodedPackets_append, ← List.append_assoc]
    rcases List.mem_append.mp h with hnow | hlater
    · have hheard : heard = packets := by
        split at hnow
        · exact List.mem_singleton.mp hnow
        · cases hnow
      rw [hheard, List.append_assoc]
      exact List.prefix_append _ _
    · exact ih hlater

end History

/-! ## The invariant of a run -/

section Run
variable (timer A) (decodeUdp : Decoder) (args : RunArgs) (a₀ : SacnAdapter)

/-- How far a run has got: `fs` is what its engine has been through. -/
structure History (es : List PipelineEvent) (fs : List (EngineEvent fun _ : Unit => Answers))
    (p : Pipeline) : Prop where
  builder_eq : p.builder = (listen A decodeUdp .new (arrivals es)).1
  engine : Inv (setupOf timer A args) (fun _ => ⟨a₀, []⟩) fs p.engine
  frames_eq : okFrames fs = returnedFrames (listen A decodeUdp .new (arrivals es)).2
  seen_eq : seenAt () 0 fs = (heardAtTicks decodeUdp [] es).map List.length
  task : TaskShown A a₀ (p.engine.tasks ())
  length_eq : (completed (p.engine.tasks ())).length = es.countP PipelineEvent.isRendered

variable {timer A decodeUdp args a₀} {es : List PipelineEvent}
  {fs : List (EngineEvent fun _ : Unit => Answers)} {p : Pipeline}

theorem History.decoded (h : History timer A decodeUdp args a₀ es fs p) :
    (okFrames fs).length = (decodedPackets decodeUdp (arrivals es)).length := by
  rw [h.frames_eq, length_returnedFrames]

/-- A history does not tell apart events that carry no datagram, tick or answered render. -/
theorem History.relabel {es' : List PipelineEvent} (h : History timer A decodeUdp args a₀ es' fs p)
    (harrivals : arrivals es = arrivals es')
    (hheard : heardAtTicks decodeUdp [] es = heardAtTicks decodeUdp [] es')
    (hrendered : es.countP PipelineEvent.isRendered = es'.countP PipelineEvent.isRendered)
    (main : Main) : History timer A decodeUdp args a₀ es fs { p with main := main } := by
  refine ⟨?_, h.engine, ?_, ?_, h.task, ?_⟩
  · rw [harrivals]
    exact h.builder_eq
  · rw [harrivals]
    exact h.frames_eq
  · rw [hheard]
    exact h.seen_eq
  · rw [hrendered]
    exact h.length_eq

theorem History.main (h : History timer A decodeUdp args a₀ es fs p) {e : PipelineEvent}
    (harrived : PipelineEvent.arrived e = none) (htick : PipelineEvent.isTick e = false)
    (hrendered : PipelineEvent.isRendered e = false) (main : Main) :
    History timer A decodeUdp args a₀ (es ++ [e]) fs { p with main := main } := by
  apply h.relabel
  · simp [arrivals, harrived]
  · rw [heardAtTicks_append]
    simp [heardAtTicks, htick]
  · simp [hrendered]

theorem History.received (h : History timer A decodeUdp args a₀ es fs p) (arrival : Arrival) :
    History timer A decodeUdp args a₀ (es ++ [.arrival arrival])
      (fs ++ [.recv (recv A decodeUdp p.builder arrival).2]) { p with
        builder := (recv A decodeUdp p.builder arrival).1
        engine := produce (setupOf timer A args) p.engine
          (recv A decodeUdp p.builder arrival).2 } := by
  have harrivals : arrivals (es ++ [.arrival arrival]) = arrivals es ++ [arrival] :=
    arrivals_append es [.arrival arrival]
  have htasks : (produce (setupOf timer A args) p.engine
      (recv A decodeUdp p.builder arrival).2).tasks = p.engine.tasks := by
    unfold produce
    split <;> rfl
  have hsnoc := listen_snoc A decodeUdp .new (arrivals es) arrival
  rw [← h.builder_eq] at hsnoc
  refine ⟨?_, h.engine.produce _, ?_, ?_, ?_, ?_⟩
  · rw [harrivals, hsnoc]
  · rw [harrivals, hsnoc, okFrames_append, h.frames_eq, returnedFrames, returnedFrames,
      List.filterMap_append]
    cases (recv A decodeUdp p.builder arrival).2 <;> rfl
  · rw [heardAtTicks_append, seenAt_append, h.seen_eq]
    simp [heardAtTicks, seenAt, EngineEvent.isTickOf, PipelineEvent.isTick]
  · rw [htasks]
    exact h.task
  · rw [htasks, h.length_eq]
    simp [PipelineEvent.isRendered]

theorem History.moved (h : History timer A decodeUdp args a₀ es fs p)
    (h₀ : Acceptable a₀.universes a₀.priority) {event : TaskEvent Answers}
    {engine : Engine fun _ : Unit => Host} (succeed : EventSucceeds event)
    (hstep : engineStep (setupOf timer A args) p.engine (.task () event) = some engine) :
    History timer A decodeUdp args a₀ (es ++ [.task event]) (fs ++ [.task () event])
      { p with engine := engine } := by
  obtain ⟨t, ht, rfl⟩ := Option.map_eq_some_iff.mp hstep
  have moves := moves_of_runAdapter ht
  have harrivals : arrivals (es ++ [.task event]) = arrivals es := by
    rw [arrivals_append]
    exact List.append_nil _
  refine ⟨?_, h.engine.move moves, ?_, ?_, ?_, ?_⟩
  · rw [harrivals]
    exact h.builder_eq
  · rw [harrivals, okFrames_append, okFrames_task, List.append_nil]
    exact h.frames_eq
  · rw [heardAtTicks_append, seenAt_append, h.seen_eq, h.decoded, List.map_append]
    cases event <;>
      simp [heardAtTicks, seenAt, EngineEvent.isTickOf, PipelineEvent.isTick, TaskEvent.isTick]
  · simp only [Function.update_self]
    exact h.task.step h₀ succeed moves
  · simp only [Function.update_self]
    rw [h.task.length_completed h₀ moves, h.length_eq]
    rw [List.countP_append, List.countP_singleton]
    rfl

/-- Stopping the task is no event of its own. -/
theorem History.stopped (h : History timer A decodeUdp args a₀ es fs p)
    (h₀ : Acceptable a₀.universes a₀.priority) (outcome : Except IoError Unit) (main : Main) :
    ∃ fs', History timer A decodeUdp args a₀ (es ++ [.ctrlC outcome]) fs'
      { p with main := main, engine := abortTask timer A args p.engine } := by
  cases hstep : engineStep (setupOf timer A args) p.engine (.task () .abort) with
  | none =>
    have hsame : abortTask timer A args p.engine = p.engine := by
      rw [abortTask, hstep, Option.getD_none]
    rw [hsame]
    exact ⟨fs, h.main rfl rfl rfl main⟩
  | some engine =>
    have habort : abortTask timer A args p.engine = engine := by
      rw [abortTask, hstep, Option.getD_some]
    have hmoved : History timer A decodeUdp args a₀ (es ++ [.task .abort]) (fs ++ [.task () .abort])
        { p with engine := engine } := h.moved h₀ trivial hstep
    rw [habort]
    refine ⟨_, hmoved.relabel ?_ ?_ ?_ main⟩
    · rw [arrivals_append, arrivals_append]
      rfl
    · rw [heardAtTicks_append, heardAtTicks_append]
      rfl
    · rw [List.countP_append, List.countP_append]
      rfl

theorem History.step (h : History timer A decodeUdp args a₀ es fs p)
    (h₀ : Acceptable a₀.universes a₀.priority) {e : PipelineEvent} {p' : Pipeline}
    (succeed : ∀ env, e = .task (.rendered env) → ∀ i, env.send i = .ok ())
    (hstep : pipelineStep timer A decodeUdp args p e = some p') :
    ∃ fs', History timer A decodeUdp args a₀ (es ++ [e]) fs' p' := by
  cases steps_of_pipelineStep hstep with
  | bindFailed hmain => exact ⟨fs, h.main rfl rfl rfl _⟩
  | addrFailed hmain => exact ⟨fs, h.main rfl rfl rfl _⟩
  | listening hmain => exact ⟨fs, h.main rfl rfl rfl _⟩
  | unstoppable hmain => exact ⟨fs, h.main rfl rfl rfl _⟩
  | stopped hmain => exact h.stopped h₀ _ _
  | received hmain => exact ⟨_, h.received _⟩
  | @resumed event engine hmain hevent hengine =>
    have hsucceed : EventSucceeds event := by
      cases event with
      | rendered env => exact succeed env rfl
      | _ => trivial
    exact ⟨_, h.moved h₀ hsucceed hengine⟩

theorem history_start {rate : Duration} {freshCid : Uuid} (main : Main)
    (built : (adapterBuilder args rate).build freshCid = .ok (.ok a₀)) :
    History timer A decodeUdp args a₀ [] [] {
      main := main
      builder := .new
      engine := Engine.start fun _ => { adapter := a₀, wire := [] } } := by
  obtain ⟨-, -, -, -, hsequence, -⟩ := built_spec built
  exact ⟨rfl, inv_start _ _, rfl, rfl, taskShown_spawn hsequence, rfl⟩

/-- Every run without a failing send has a history. -/
theorem history_of_run {start : Pipeline} (h₀ : Acceptable a₀.universes a₀.priority)
    (hstart : History timer A decodeUdp args a₀ [] [] start)
    (run : exec (pipelineStep timer A decodeUdp args) start es = some p)
    (succeed : ∀ env, .task (.rendered env) ∈ es → ∀ i, env.send i = .ok ()) :
    ∃ fs, History timer A decodeUdp args a₀ es fs p := by
  revert succeed
  apply exec_invariant (P := fun es p =>
    (∀ env, .task (.rendered env) ∈ es → ∀ i, env.send i = .ok ()) →
      ∃ fs, History timer A decodeUdp args a₀ es fs p) ?_ ?_ run
  · intro _
    exact ⟨[], hstart⟩
  · intro es s e s' _ ih hstep succeed
    obtain ⟨fs, h⟩ := ih fun env henv => succeed env (List.mem_append_left _ henv)
    apply h.step h₀ _ hstep
    rintro env rfl
    exact succeed env (by simp)

end Run

end PipelineRuns
