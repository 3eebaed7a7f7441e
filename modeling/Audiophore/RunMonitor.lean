import Audiophore.FixedPoint
import Audiophore.MonitorDump
import Audiophore.RunPipeline
import Audiophore.StepRuns

/-!
# The `monitor` command

`run_monitor` in `audiophore-cli/src/main.rs`: one line on the standard output for each
datagram that can be decoded, and with `--raw` its messages before it, until ctrl-c. The
text is part of the state. `init_tracing` sends the log lines to the same standard output,
so they are in the text too, as events of their own.
-/

namespace RunMonitor

open ExtendedFloat AudiophoreCore FrameBuilder AdapterCore OscIngress OscRegisters IngressHistory
open SacnOutput TextRecords MonitorDump StepRuns

/-! ## The listener, with what it decoded -/

/-- What `recv_from` yields, with the sender. -/
abbrev Datagram := Except String (List UInt8 × SocketAddr)

section Listener
variable (A : F32Arith) (decodeUdp : Decoder)

/-- One call of `Listener::recv_with_packet`. -/
def recvWithPacket (builder : AudioFrameBuilder) (datagram : Datagram) :
    AudioFrameBuilder × Except IngressError (AudioFrame × OscPacket × SocketAddr) :=
  match datagram with
  | .error e => (builder, .error (.io e))
  | .ok (bytes, peer) =>
    match decodeUdp bytes with
    | .error e => (builder, .error (.decode e))
    | .ok packet =>
      let (frame, builder) := (applyPacket A builder packet).snapshot
      (builder, .ok (frame, packet, peer))

def arrivalOf (datagram : Datagram) : Arrival := datagram.map Prod.fst

/-- `recv` drops the packet and the sender. -/
theorem recv_arrivalOf (b : AudioFrameBuilder) (datagram : Datagram) :
    recv A decodeUdp b (arrivalOf datagram) =
      ((recvWithPacket A decodeUdp b datagram).1,
        (recvWithPacket A decodeUdp b datagram).2.map (·.1)) := by
  cases datagram with
  | error e => rfl
  | ok received =>
    obtain ⟨bytes, peer⟩ := received
    change recv A decodeUdp b (.ok bytes) = _
    simp only [recv, recvWithPacket]
    cases decodeUdp bytes <;> rfl

/-- The packet comes back as it was decoded. -/
theorem packet_recvWithPacket (b : AudioFrameBuilder) (datagram : Datagram) :
    (recvWithPacket A decodeUdp b datagram).2.toOption.map (·.2.1) =
      packetOf decodeUdp (arrivalOf datagram) := by
  cases datagram with
  | error e => rfl
  | ok received =>
    obtain ⟨bytes, peer⟩ := received
    change _ = (decodeUdp bytes).toOption
    simp only [recvWithPacket]
    cases decodeUdp bytes <;> rfl

end Listener

/-! ## Frame lines -/

/-- A float with a fixed number of digits after the point, `{:.d}`. `Flt` has one zero and
`f32` has two: `minus` tells whether a zero is the negative one. -/
def fmtFixed (d : Nat) (minus : Bool) : Flt ℚ → String
  | .nan => "NaN"
  | .negInf => "-inf"
  | .posInf => "inf"
  | .fin x =>
    String.ofList (FixedPoint.writeSigned d (decide (x < 0) || (minus && decide (x = 0)))
      (RunPipeline.roundHalfEven (|x| * 10 ^ d)))

/-- Which zeros of a frame are negative. No message sets the time, the phase or the fade, and
these do not start as one. -/
structure ZeroSigns where
  bpm : Bool
  onBeat : Bool
  bass : Bool
  mid : Bool
  high : Bool
  intensity : Bool

def formatFrame (signs : ZeroSigns) (f : AudioFrame) : String :=
  fmtFixed 4 false f.t ++ "\t" ++ fmtFixed 2 signs.bpm f.bpm ++ "\t" ++
    fmtFixed 4 false f.beatPhase ++ "\t" ++ fmtFixed 4 signs.onBeat f.onBeat ++ "\t" ++
    fmtFixed 4 signs.bass f.levels.bass ++ "\t" ++ fmtFixed 4 signs.mid f.levels.mid ++ "\t" ++
    fmtFixed 4 signs.high f.levels.high ++ "\t" ++ fmtFixed 4 signs.intensity f.intensity ++
    "\t" ++ fmtFixed 4 false f.fade

/-! ## Running -/

structure MonitorArgs where
  oscPort : UInt16
  bind : IpAddr
  raw : Bool

/-- The error of a run, by what was being done. -/
inductive MonitorError where
  | bindingListener (addr : SocketAddr) (error : IngressError)
  | queryingAddr (error : IngressError)
  | installingCtrlC (error : IoError)

inductive Main where
  | binding
  | receiving
  | returned (result : Except MonitorError Unit)

/-- The task, its listener and what it has printed. -/
structure Monitor where
  main : Main
  builder : AudioFrameBuilder
  out : String

def startMonitor : Monitor := ⟨.binding, .new, ""⟩

/-- A zero can have either sign in the frame that follows a datagram. A log line can come at
any time: which are written is up to `RUST_LOG`, and the text holds the time of day. -/
inductive MonitorEvent where
  | bound (outcome : Except IngressError Unit) (localAddr : Except IngressError SocketAddr)
  | ctrlC (outcome : Except IoError Unit)
  | datagram (datagram : Datagram) (signs : ZeroSigns)
  | log (line : String)

def boundLine (d : Display) (bound : SocketAddr) : String :=
  "# audiophore monitor — bound to " ++ d.socketAddr bound

/-- In the source the backslashes are escaped. -/
def columnsLine : String :=
  "# columns: t\\tbpm\\tbeat_phase\\ton_beat\\tlevels.bass\\tlevels.mid\\tlevels.high" ++
    "\\tintensity\\tfade"

variable (A : F32Arith) (decodeUdp : Decoder) (d : Display) (args : MonitorArgs)

/-- What the loop prints for one datagram. -/
def report (signs : ZeroSigns) (received : AudioFrame × OscPacket × SocketAddr) : String :=
  let (frame, packet, peer) := received
  (if args.raw then walkForRaw d peer packet else "") ++ println (formatFrame signs frame)

def monitorStep (m : Monitor) : MonitorEvent → Option Monitor
  | .bound outcome localAddr =>
    match m.main, outcome, localAddr with
    | .binding, .error e, _ =>
      some { m with main := .returned (.error (.bindingListener ⟨args.bind, args.oscPort⟩ e)) }
    | .binding, .ok (), .error e => some { m with main := .returned (.error (.queryingAddr e)) }
    | .binding, .ok (), .ok bound =>
      some { m with main := .receiving,
                    out := m.out ++ println (boundLine d bound) ++ println columnsLine }
    | _, _, _ => none
  | .ctrlC outcome =>
    match m.main, outcome with
    | .receiving, .ok () => some { m with main := .returned (.ok ()) }
    | .receiving, .error e => some { m with main := .returned (.error (.installingCtrlC e)) }
    | _, _ => none
  | .datagram datagram signs =>
    match m.main with
    | .receiving =>
      let (builder, outcome) := recvWithPacket A decodeUdp m.builder datagram
      match outcome with
      | .ok received =>
        some { m with builder := builder, out := m.out ++ report d args signs received }
      | .error _ => some { m with builder := builder }
    | _ => none
  | .log line => some { m with out := m.out ++ println line }

/-! ## The text as a table -/

def boundRows (bound : SocketAddr) : List (List (List Char)) :=
  [[(boundLine d bound).toList], [columnsLine.toList]]

/-- The columns of a frame line. -/
def frameCells (signs : ZeroSigns) (f : AudioFrame) : List (List Char) :=
  [(fmtFixed 4 false f.t).toList, (fmtFixed 2 signs.bpm f.bpm).toList,
    (fmtFixed 4 false f.beatPhase).toList, (fmtFixed 4 signs.onBeat f.onBeat).toList,
    (fmtFixed 4 signs.bass f.levels.bass).toList, (fmtFixed 4 signs.mid f.levels.mid).toList,
    (fmtFixed 4 signs.high f.levels.high).toList, (fmtFixed 4 signs.intensity f.intensity).toList,
    (fmtFixed 4 false f.fade).toList]

def reportRows (signs : ZeroSigns) (received : AudioFrame × OscPacket × SocketAddr) :
    List (List (List Char)) :=
  (if args.raw then (messages received.2.1).map (record d received.2.2) else []) ++
    [frameCells signs received.1]

theorem toList_formatFrame (signs : ZeroSigns) (f : AudioFrame) :
    (formatFrame signs f).toList = ['\t'].intercalate (frameCells signs f) := by
  have htab : "\t".toList = ['\t'] := rfl
  unfold formatFrame
  simp only [frameCells, String.toList_append, htab, List.intercalate_cons_cons,
    List.intercalate_singleton, List.append_assoc]

theorem toList_report (signs : ZeroSigns) (received : AudioFrame × OscPacket × SocketAddr) :
    (report d args signs received).toList = write '\n' '\t' (reportRows d args signs received) := by
  obtain ⟨frame, packet, peer⟩ := received
  have hraw : (if args.raw then walkForRaw d peer packet else "").toList =
      write '\n' '\t' (if args.raw then (messages packet).map (record d peer) else []) := by
    split
    · exact toList_walkForRaw d peer packet
    · simp [write, unlines]
  have hframe : (println (formatFrame signs frame)).toList =
      write '\n' '\t' [frameCells signs frame] := by
    simp [println, toList_formatFrame, write, unlines]
  rw [reportRows, write_append, report, String.toList_append, hraw, hframe]

theorem toList_line (line : String) :
    (println line).toList = write '\n' '\t' [[line.toList]] := by
  simp [println, write, unlines]

theorem toList_boundText (bound : SocketAddr) :
    (println (boundLine d bound) ++ println columnsLine).toList =
      write '\n' '\t' (boundRows d bound) := by
  rw [String.toList_append, toList_line, toList_line, ← write_append]
  rfl

/-- A float shows neither a newline nor a tab. -/
theorem plain_fmtFixed (n : Nat) (minus : Bool) (v : Flt ℚ) : Plain (fmtFixed n minus v) := by
  cases v with
  | nan => exact show Plain "NaN" by decide
  | negInf => exact show Plain "-inf" by decide
  | posInf => exact show Plain "inf" by decide
  | fin x =>
    rw [Plain, fmtFixed, String.toList_ofList]
    exact ⟨fun h => absurd (FixedPoint.mem_writeSigned h) (by decide),
      fun h => absurd (FixedPoint.mem_writeSigned h) (by decide)⟩

theorem clean_frameCells (signs : ZeroSigns) (f : AudioFrame) :
    ∀ cell ∈ frameCells signs f, Clean '\n' '\t' cell := by
  simp only [frameCells, List.forall_mem_cons]
  exact ⟨plain_fmtFixed _ _ _, plain_fmtFixed _ _ _, plain_fmtFixed _ _ _, plain_fmtFixed _ _ _,
    plain_fmtFixed _ _ _, plain_fmtFixed _ _ _, plain_fmtFixed _ _ _, plain_fmtFixed _ _ _,
    plain_fmtFixed _ _ _, by simp⟩

/-! ## Runs -/

/-- The address that was announced, if binding went through. -/
def boundAddrs (es : List MonitorEvent) : List SocketAddr :=
  es.filterMap fun
    | .bound (.ok ()) (.ok bound) => some bound
    | _ => none

def arrivalsOf (es : List MonitorEvent) : List Arrival :=
  es.filterMap fun
    | .datagram datagram _ => some (arrivalOf datagram)
    | _ => none

def logLines (es : List MonitorEvent) : List String :=
  es.filterMap fun
    | .log line => some line
    | _ => none

def MonitorEvent.isLog : MonitorEvent → Bool
  | .log _ => true
  | _ => false

def MonitorEvent.isDatagram : MonitorEvent → Bool
  | .datagram _ _ => true
  | _ => false

/-- The messages of all datagrams that could be decoded. -/
def receivedMessages (decodeUdp : Decoder) (es : List MonitorEvent) : List OscMessage :=
  received decodeUdp (arrivalsOf es)

/-- The builder after an event. -/
def advance (b : AudioFrameBuilder) : MonitorEvent → AudioFrameBuilder
  | .datagram datagram _ => (recvWithPacket A decodeUdp b datagram).1
  | _ => b

/-- The records that an event is meant to print. -/
def eventRows (b : AudioFrameBuilder) : MonitorEvent → List (List (List Char))
  | .bound (.ok ()) (.ok bound) => boundRows d bound
  | .datagram datagram signs =>
    (recvWithPacket A decodeUdp b datagram).2.toOption.toList.flatMap (reportRows d args signs)
  | .log line => [[line.toList]]
  | _ => []

def transcriptFrom (b : AudioFrameBuilder) : List MonitorEvent → List (List (List Char))
  | [] => []
  | event :: es => eventRows A decodeUdp d args b event ++
      transcriptFrom (advance A decodeUdp b event) es

/-- The records that a run is meant to print. -/
def transcript (es : List MonitorEvent) : List (List (List Char)) :=
  transcriptFrom A decodeUdp d args .new es

section Runs
variable {A decodeUdp d args} {es : List MonitorEvent} {m m' : Monitor}

/-- Binding comes first, and once; only log lines can come before it. -/
def MainMoves (main main' : Main) : MonitorEvent → Prop
  | .log _ => main' = main
  | .bound _ _ => main = .binding ∧ main' ≠ .binding
  | .ctrlC _ => main ≠ .binding ∧ main' ≠ .binding
  | .datagram _ _ => main ≠ .binding ∧ main' ≠ .binding

/-- What a step does: it prints the records of its event. -/
structure Stepped (A : F32Arith) (decodeUdp : Decoder) (d : Display) (args : MonitorArgs)
    (m m' : Monitor) (event : MonitorEvent) : Prop where
  main : MainMoves m.main m'.main event
  builder : m'.builder = advance A decodeUdp m.builder event
  out : m'.out.toList =
    m.out.toList ++ write '\n' '\t' (eventRows A decodeUdp d args m.builder event)

theorem stepped {event : MonitorEvent}
    (step : monitorStep A decodeUdp d args m event = some m') :
    Stepped A decodeUdp d args m m' event := by
  have hnothing : m.out.toList = m.out.toList ++ write '\n' '\t' [] := by simp [write, unlines]
  cases event with
  | log line =>
    obtain rfl := Option.some.inj step
    refine ⟨rfl, rfl, ?_⟩
    change (m.out ++ println line).toList = _
    rw [String.toList_append, toList_line]
    rfl
  | ctrlC outcome =>
    simp only [monitorStep] at step
    split at step
    · rename_i hmain
      obtain rfl := Option.some.inj step
      exact ⟨⟨by simp [hmain], by simp⟩, rfl, hnothing⟩
    · rename_i hmain
      obtain rfl := Option.some.inj step
      exact ⟨⟨by simp [hmain], by simp⟩, rfl, hnothing⟩
    · cases step
  | bound outcome localAddr =>
    simp only [monitorStep] at step
    split at step
    · rename_i hmain
      obtain rfl := Option.some.inj step
      exact ⟨⟨hmain, by simp⟩, rfl, hnothing⟩
    · rename_i hmain
      obtain rfl := Option.some.inj step
      exact ⟨⟨hmain, by simp⟩, rfl, hnothing⟩
    · rename_i bound hmain
      obtain rfl := Option.some.inj step
      refine ⟨⟨hmain, by simp⟩, rfl, ?_⟩
      change (m.out ++ println (boundLine d bound) ++ println columnsLine).toList = _
      rw [String.append_assoc, String.toList_append, toList_boundText]
      rfl
    · cases step
  | datagram datagram signs =>
    simp only [monitorStep] at step
    split at step
    · rename_i hmain
      split at step
      · rename_i received hrecv
        obtain rfl := Option.some.inj step
        refine ⟨⟨by simp [hmain], by simp [hmain]⟩, rfl, ?_⟩
        change (m.out ++ report d args signs received).toList = _
        rw [String.toList_append, toList_report, eventRows, hrecv]
        simp [Except.toOption]
      · rename_i e hrecv
        obtain rfl := Option.some.inj step
        refine ⟨⟨by simp [hmain], by simp [hmain]⟩, rfl, ?_⟩
        rw [eventRows, hrecv]
        exact hnothing
    · cases step

theorem run_prints (run : exec (monitorStep A decodeUdp d args) m es = some m') :
    m'.out.toList =
      m.out.toList ++ write '\n' '\t' (transcriptFrom A decodeUdp d args m.builder es) := by
  induction es generalizing m with
  | nil =>
    obtain rfl := Option.some.inj run
    simp [transcriptFrom, write, unlines]
  | cons event es ih =>
    obtain ⟨mid, hstep, hrest⟩ := Option.bind_eq_some_iff.mp run
    have hstepped := stepped hstep
    rw [ih hrest, hstepped.out, hstepped.builder, transcriptFrom, write_append, List.append_assoc]

theorem out_of_run (run : exec (monitorStep A decodeUdp d args) startMonitor es = some m) :
    m.out.toList = write '\n' '\t' (transcript A decodeUdp d args es) := run_prints run

/-- Apart from the log lines a run prints the header, and then the datagrams. -/
theorem header_first (b : AudioFrameBuilder)
    (run : exec (monitorStep A decodeUdp d args) m es = some m') :
    (boundAddrs es).length ≤ 1 ∧ (m.main ≠ .binding → boundAddrs es = []) ∧
      transcriptFrom A decodeUdp d args b (es.filter (!·.isLog)) =
        (boundAddrs es).flatMap (boundRows d) ++
          transcriptFrom A decodeUdp d args b (es.filter (·.isDatagram)) := by
  induction es generalizing m b with
  | nil => exact ⟨Nat.zero_le _, fun _ => rfl, rfl⟩
  | cons event es ih =>
    obtain ⟨mid, hstep, hrest⟩ := Option.bind_eq_some_iff.mp run
    have hmain := (stepped hstep).main
    cases event with
    | log line =>
      obtain ⟨hlength, hnone, hrows⟩ := ih b hrest
      exact ⟨hlength, fun h => hnone (hmain.trans_ne h), hrows⟩
    | ctrlC outcome =>
      obtain ⟨hlength, hnone, hrows⟩ := ih b hrest
      exact ⟨hlength, fun _ => hnone hmain.2, hrows⟩
    | datagram datagram signs =>
      obtain ⟨-, hnone, hrows⟩ := ih (advance A decodeUdp b (.datagram datagram signs)) hrest
      rw [hnone hmain.2] at hrows
      have hcons : boundAddrs (.datagram datagram signs :: es) = [] := hnone hmain.2
      rw [hcons]
      exact ⟨Nat.zero_le _, fun _ => rfl, congrArg (eventRows A decodeUdp d args b _ ++ ·) hrows⟩
    | bound outcome localAddr =>
      obtain ⟨-, hnone, hrows⟩ := ih b hrest
      rw [hnone hmain.2] at hrows
      have hcons : boundAddrs (.bound outcome localAddr :: es) =
          boundAddrs [.bound outcome localAddr] := by
        rw [← List.singleton_append, boundAddrs, List.filterMap_append]
        exact (congrArg _ (hnone hmain.2)).trans (List.append_nil _)
      have hheader : eventRows A decodeUdp d args b (.bound outcome localAddr) =
          (boundAddrs [.bound outcome localAddr]).flatMap (boundRows d) := by
        cases outcome with
        | error e => rfl
        | ok _ => cases localAddr <;> simp [eventRows, boundAddrs]
      rw [hcons, ← hheader]
      exact ⟨List.length_filterMap_le _ _, fun h => absurd hmain.1 h,
        congrArg (eventRows A decodeUdp d args b _ ++ ·) hrows⟩

/-- Neither a log line nor, if they are printed, a message shows a newline or a tab. -/
structure PlainRun (decodeUdp : Decoder) (args : MonitorArgs) (es : List MonitorEvent) : Prop where
  log : ∀ line ∈ logLines es, Plain line
  raw : args.raw = true → ∀ msg ∈ receivedMessages decodeUdp es, PlainMessage msg

theorem plainRun_cons_iff (event : MonitorEvent) :
    PlainRun decodeUdp args (event :: es) ↔
      PlainRun decodeUdp args [event] ∧ PlainRun decodeUdp args es := by
  have hlog : logLines (event :: es) = logLines [event] ++ logLines es := by
    rw [← List.singleton_append, logLines, List.filterMap_append]
    rfl
  have hreceived : receivedMessages decodeUdp (event :: es) =
      receivedMessages decodeUdp [event] ++ receivedMessages decodeUdp es := by
    rw [← List.singleton_append]
    simp only [receivedMessages, received, decodedPackets, arrivalsOf, List.filterMap_append,
      List.flatMap_append]
  constructor
  · rintro ⟨log, raw⟩
    rw [hlog, List.forall_mem_append] at log
    rw [hreceived] at raw
    exact ⟨⟨log.1, fun h => (List.forall_mem_append.mp (raw h)).1⟩,
      ⟨log.2, fun h => (List.forall_mem_append.mp (raw h)).2⟩⟩
  · rintro ⟨⟨log, raw⟩, log', raw'⟩
    refine ⟨?_, fun h => ?_⟩
    · rw [hlog]
      exact List.forall_mem_append.mpr ⟨log, log'⟩
    · rw [hreceived]
      exact List.forall_mem_append.mpr ⟨raw h, raw' h⟩

theorem clean_boundRows (plain : d.Plain) (bound : SocketAddr) :
    ∀ row ∈ boundRows d bound, ∀ cell ∈ row, Clean '\n' '\t' cell := by
  have hbound : Plain (boundLine d bound) :=
    (plain_append _ _).mpr ⟨by decide, plain.socketAddr bound⟩
  have hcolumns : Plain columnsLine := by decide
  simpa [boundRows] using ⟨hbound, hcolumns⟩

theorem clean_reportRows_iff (plain : d.Plain) (signs : ZeroSigns)
    (r : AudioFrame × OscPacket × SocketAddr) :
    (∀ row ∈ reportRows d args signs r, ∀ cell ∈ row, Clean '\n' '\t' cell) ↔
      (args.raw = true → ∀ msg ∈ messages r.2.1, PlainMessage msg) := by
  have hframe : ∀ row ∈ [frameCells signs r.1], ∀ cell ∈ row, Clean '\n' '\t' cell := by
    simpa using clean_frameCells signs r.1
  rw [reportRows, List.forall_mem_append, and_iff_left hframe]
  split
  · rename_i hraw
    simp [hraw, clean_record_iff plain]
  · rename_i hraw
    simp [hraw]

theorem plainRun_quiet {event : MonitorEvent} (hlog : logLines [event] = [])
    (hreceived : receivedMessages decodeUdp [event] = []) : PlainRun decodeUdp args [event] := by
  constructor
  · simp [hlog]
  · simp [hreceived]

theorem clean_eventRows_iff (plain : d.Plain) (b : AudioFrameBuilder) (event : MonitorEvent) :
    (∀ row ∈ eventRows A decodeUdp d args b event, ∀ cell ∈ row, Clean '\n' '\t' cell) ↔
      PlainRun decodeUdp args [event] := by
  cases event with
  | log line =>
    have hline : eventRows A decodeUdp d args b (.log line) = [[line.toList]] := rfl
    rw [hline]
    constructor
    · intro h
      refine ⟨by simpa [logLines] using h, ?_⟩
      intro _ msg hmsg
      cases hmsg
    · intro h
      simpa using h.log line (by simp [logLines])
  | ctrlC outcome =>
    refine iff_of_true ?_ (plainRun_quiet rfl rfl)
    intro row hrow
    cases hrow
  | bound outcome localAddr =>
    refine iff_of_true ?_ (plainRun_quiet rfl rfl)
    intro row hrow
    unfold eventRows at hrow
    split at hrow
    · exact clean_boundRows plain _ row hrow
    · cases ‹_ = _›
    · cases ‹_ = _›
    · cases hrow
  | datagram datagram signs =>
    have hplain : PlainRun decodeUdp args [.datagram datagram signs] ↔ (args.raw = true →
        ∀ msg ∈ received decodeUdp [arrivalOf datagram], PlainMessage msg) :=
      ⟨fun h => h.raw, fun h => ⟨by simp [logLines], h⟩⟩
    have hpacket := packet_recvWithPacket A decodeUdp b datagram
    rw [hplain]
    simp only [received, decodedPackets, List.filterMap_cons, List.filterMap_nil, ← hpacket]
    simp only [eventRows]
    cases (recvWithPacket A decodeUdp b datagram).2 with
    | error e => simp [Except.toOption]
    | ok r => simpa [Except.toOption] using clean_reportRows_iff plain signs r

theorem clean_transcriptFrom_iff (plain : d.Plain) (b : AudioFrameBuilder) :
    (∀ row ∈ transcriptFrom A decodeUdp d args b es, ∀ cell ∈ row, Clean '\n' '\t' cell) ↔
      PlainRun decodeUdp args es := by
  induction es generalizing b with
  | nil => exact iff_of_true (fun row hrow => by cases hrow) ⟨by simp [logLines], by
      simp [receivedMessages, received, decodedPackets, arrivalsOf]⟩
  | cons event es ih =>
    rw [transcriptFrom, List.forall_mem_append, plainRun_cons_iff, clean_eventRows_iff plain, ih]

theorem width_eventRows (b : AudioFrameBuilder) (event : MonitorEvent) :
    ∀ row ∈ eventRows A decodeUdp d args b event,
      row.length = 1 ∨ row.length = 4 ∨ row.length = 9 := by
  intro row hrow
  unfold eventRows at hrow
  split at hrow
  · simp only [boundRows, List.mem_cons, List.not_mem_nil, or_false] at hrow
    rcases hrow with rfl | rfl <;> exact .inl rfl
  · obtain ⟨r, -, hrow⟩ := List.mem_flatMap.mp hrow
    rcases List.mem_append.mp hrow with hrow | hrow
    · split at hrow
      · obtain ⟨msg, -, rfl⟩ := List.mem_map.mp hrow
        exact .inr (.inl rfl)
      · cases hrow
    · obtain rfl := List.mem_singleton.mp hrow
      exact .inr (.inr rfl)
  · obtain rfl := List.mem_singleton.mp hrow
    exact .inl rfl
  · cases hrow

theorem width_transcriptFrom (b : AudioFrameBuilder) :
    ∀ row ∈ transcriptFrom A decodeUdp d args b es,
      row.length = 1 ∨ row.length = 4 ∨ row.length = 9 := by
  induction es generalizing b with
  | nil =>
    intro row hrow
    cases hrow
  | cons event es ih =>
    rw [transcriptFrom, List.forall_mem_append]
    exact ⟨width_eventRows b event, ih _⟩

/-- What anyone reads in a text: its lines, cut at the tabs. -/
def readTable (text : String) : List (List (List Char)) :=
  (lines '\n' text.toList).map (·.splitOn '\t')

theorem readTable_iff (plain : d.Plain)
    (run : exec (monitorStep A decodeUdp d args) startMonitor es = some m) :
    readTable m.out = transcript A decodeUdp d args es ↔ PlainRun decodeUdp args es := by
  have nonempty : ∀ row ∈ transcript A decodeUdp d args es, row ≠ [] := by
    rintro row hrow rfl
    exact absurd (width_transcriptFrom _ _ hrow) (by decide)
  rw [readTable, out_of_run run, ← clean_transcriptFrom_iff plain]
  exact read_write_iff (by decide) nonempty

/-- At any moment of any run the text on the standard output is the table it is meant to be:
the two lines of the header, then for each datagram its messages, if asked for, and its frame,
and log lines anywhere. The only thing that can break it is a newline or a tab, in a log line
or in a message of a `--raw` dump. -/
theorem monitor_prints_its_transcript_iff (plain : d.Plain)
    (run : exec (monitorStep A decodeUdp d args) startMonitor es = some m) :
    Terminated '\n' m.out.toList ∧
      (readTable m.out = transcript A decodeUdp d args es ↔ PlainRun decodeUdp args es) ∧
      (boundAddrs es).length ≤ 1 ∧
      transcript A decodeUdp d args (es.filter (!·.isLog)) =
        (boundAddrs es).flatMap (boundRows d) ++
          transcript A decodeUdp d args (es.filter (·.isDatagram)) := by
  obtain ⟨hlength, -, hrows⟩ := header_first .new run
  refine ⟨?_, readTable_iff plain run, hlength, hrows⟩
  rw [out_of_run run]
  exact terminated_write _

/-- A tempo in one datagram, and three levels in a bundle in another. -/
def levelsDecoder : Decoder := fun bytes =>
  match bytes with
  | [_] => .ok (.message ⟨"/audio/bpm/bpm", [.float (.fin 120)]⟩)
  | [_, _] => .ok (.bundle ⟨0, 1⟩ [.message ⟨"/audio/level/bass", [.float (.fin (1 / 3))]⟩,
      .message ⟨"/audio/level/mid", [.int 7]⟩, .message ⟨"/audio/level/high", [.double (.fin 0)]⟩])
  | _ => .error "eof"

def rawArgs : MonitorArgs := { oscPort := 9000, bind := samplePeer.ip, raw := true }

def noMinus : ZeroSigns := ⟨false, false, false, false, false, false⟩

/-- Both of them, with a failed receive and an empty datagram in between and the log lines of
the default filter. The last level is a negative zero. -/
def noisyRun : List MonitorEvent :=
  [.log "INFO audiophore monitor listening", .bound (.ok ()) (.ok samplePeer),
    .datagram (.ok ([1], samplePeer)) noMinus, .datagram (.error "connection refused") noMinus,
    .log "WARN skipped malformed OSC datagram", .datagram (.ok ([], samplePeer)) noMinus,
    .log "WARN skipped malformed OSC datagram",
    .datagram (.ok ([1, 2], samplePeer)) { noMinus with high := true }, .ctrlC (.ok ()),
    .log "INFO shutdown requested; exiting"]

theorem noisyRun_plain : PlainRun levelsDecoder rawArgs noisyRun := by
  refine ⟨?_, fun _ => ?_⟩
  · change ∀ line ∈ [_, _, _, _], Plain line
    simp only [List.forall_mem_cons]
    exact ⟨by decide, by decide, by decide, by decide, by simp⟩
  · change ∀ msg ∈ [_, _, _, _], PlainMessage msg
    have hsingle : ∀ addr arg, Plain addr → PlainArg arg → PlainMessage ⟨addr, [arg]⟩ :=
      fun _ _ haddr harg => ⟨haddr, by simpa using harg⟩
    simp only [List.forall_mem_cons]
    exact ⟨hsingle _ _ (by decide) trivial, hsingle _ _ (by decide) trivial,
      hsingle _ _ (by decide) trivial, hsingle _ _ (by decide) trivial, by simp⟩

theorem monitor_prints_its_transcript_iff_noisy : sampleDisplay.Plain ∧ ∃ m,
    exec (monitorStep (Arithmetic.exact ℚ) levelsDecoder sampleDisplay rawArgs) startMonitor
      noisyRun = some m ∧
    readTable m.out =
      transcript (Arithmetic.exact ℚ) levelsDecoder sampleDisplay rawArgs noisyRun :=
  ⟨sampleDisplay_plain, _, rfl,
    (monitor_prints_its_transcript_iff sampleDisplay_plain rfl).2.1.mpr noisyRun_plain⟩

/-! ## Numbers -/

theorem abs_roundHalfEven_sub_le {y : ℚ} (hy : 0 ≤ y) :
    |(RunPipeline.roundHalfEven y : ℚ) - y| ≤ 1 / 2 := by
  have hfloor : 0 ≤ ⌊y⌋ := Int.floor_nonneg.mpr hy
  have hlow := Int.floor_le y
  have hhigh := Int.lt_floor_add_one y
  have hcast : ∀ k : Int, 0 ≤ k → ((k.toNat : Nat) : ℚ) = (k : ℚ) := by
    intro k hk
    exact_mod_cast Int.toNat_of_nonneg hk
  have hdown : |(⌊y⌋.toNat : ℚ) - y| ≤ 1 / 2 ↔ y - ⌊y⌋ ≤ 1 / 2 := by
    rw [hcast _ hfloor, abs_sub_comm, abs_of_nonneg (by linarith)]
  have hup : |((⌊y⌋ + 1).toNat : ℚ) - y| ≤ 1 / 2 ↔ 1 / 2 ≤ y - ⌊y⌋ := by
    rw [hcast _ (by omega), abs_of_nonneg (by push_cast; linarith)]
    push_cast
    constructor <;> intro h <;> linarith
  rw [RunPipeline.roundHalfEven]
  split
  · exact hdown.mpr (by linarith)
  · split
    · exact hup.mpr (by linarith)
    · split
      · exact hdown.mpr (by linarith)
      · exact hup.mpr (by linarith)

/-- A text with `n` digits after the point that stands for a number within half a unit of
the last digit. -/
def Shows (n : Nat) (text : List Char) (v : Flt ℚ) : Prop :=
  ∃ x k, v = .fin x ∧ FixedPoint.readSigned n text = some k ∧ |(k : ℚ) - x * 10 ^ n| ≤ 1 / 2

theorem shows_fmtFixed {n : Nat} (hn : 0 < n) (minus : Bool) {lo hi : ℚ} {v : Flt ℚ}
    (h : v.Within lo hi) : Shows n (fmtFixed n minus v).toList v := by
  obtain ⟨x, rfl, -⟩ := h
  have hround := abs_roundHalfEven_sub_le (y := |x| * 10 ^ n) (by positivity)
  have hread : FixedPoint.readSigned n (fmtFixed n minus (.fin x)).toList =
      some (if (decide (x < 0) || (minus && decide (x = 0))) = true
        then -(RunPipeline.roundHalfEven (|x| * 10 ^ n) : Int)
        else RunPipeline.roundHalfEven (|x| * 10 ^ n)) := by
    rw [fmtFixed, String.toList_ofList, FixedPoint.readSigned_writeSigned hn]
  refine ⟨x, _, rfl, hread, ?_⟩
  split
  · -- with a sign, the negative zero too
    rename_i hsign
    have hx : x ≤ 0 := by
      simp only [Bool.or_eq_true, Bool.and_eq_true, decide_eq_true_eq] at hsign
      rcases hsign with hx | ⟨-, hx⟩
      · exact hx.le
      · exact hx.le
    rw [abs_of_nonpos hx] at hround ⊢
    rw [← abs_neg]
    convert hround using 2
    push_cast
    ring
  · rename_i hsign
    have hx : ¬x < 0 := by
      intro hx
      simp [hx] at hsign
    rw [abs_of_nonneg (not_lt.mp hx)] at hround ⊢
    exact hround

/-! ## Frame lines -/

/-- The lines with nine columns. -/
def frameLines (text : String) : List (List (List Char)) :=
  (readTable text).filter fun row => row.length = 9

theorem frames_of_reportRows (signs : ZeroSigns) (r : AudioFrame × OscPacket × SocketAddr) :
    (reportRows d args signs r).filter (fun row => row.length = 9) = [frameCells signs r.1] := by
  have hraw : (if args.raw then (messages r.2.1).map (record d r.2.2) else []).filter
      (fun row => row.length = 9) = [] := by
    split <;> simp [record]
  rw [reportRows, List.filter_append, hraw]
  rfl

/-- The rows with nine columns are the frames that the listener returned, some zeros with a
sign. -/
theorem frames_of_transcriptFrom (b : AudioFrameBuilder) :
    List.Forall₂ (fun row frame => ∃ signs, row = frameCells signs frame)
      ((transcriptFrom A decodeUdp d args b es).filter fun row => row.length = 9)
      (returnedFrames (listen A decodeUdp b (arrivalsOf es)).2) := by
  induction es generalizing b with
  | nil => exact .nil
  | cons event es ih =>
    rw [transcriptFrom, List.filter_append]
    cases event with
    | log line => exact ih b
    | ctrlC outcome => exact ih b
    | bound outcome localAddr =>
      have hnone : (eventRows A decodeUdp d args b (.bound outcome localAddr)).filter
          (fun row => row.length = 9) = [] := by
        cases outcome with
        | error e => rfl
        | ok _ => cases localAddr <;> rfl
      rw [hnone]
      exact ih b
    | datagram datagram signs =>
      have hrecv := recv_arrivalOf A decodeUdp b datagram
      have hrest := ih (recvWithPacket A decodeUdp b datagram).1
      change List.Forall₂ _ _ (returnedFrames ((recv A decodeUdp b (arrivalOf datagram)).2 ::
        (listen A decodeUdp (recv A decodeUdp b (arrivalOf datagram)).1 (arrivalsOf es)).2))
      rw [hrecv, eventRows, advance]
      cases houtcome : (recvWithPacket A decodeUdp b datagram).2 with
      | error e =>
        simpa [Except.toOption, Except.map, returnedFrames, List.filterMap_cons] using hrest
      | ok r =>
        simp only [Except.toOption, Except.map, returnedFrames, Option.toList_some,
          List.flatMap_cons, List.flatMap_nil, List.append_nil, List.filterMap_cons,
          frames_of_reportRows, List.singleton_append]
        exact .cons ⟨signs, rfl⟩ hrest

/-- The columns of a frame in its range, whose time, phase and fade nobody has set. -/
theorem frameCells_of_unfed (signs : ZeroSigns) {b : AudioFrameBuilder}
    (hunfed : unfed b = unfed .new) :
    frameCells signs b.snapshot.1 =
      ["0.0000".toList, (fmtFixed 2 signs.bpm b.bpm).toList, "0.0000".toList,
        (fmtFixed 4 signs.onBeat b.onBeat).toList, (fmtFixed 4 signs.bass b.levels.bass).toList,
        (fmtFixed 4 signs.mid b.levels.mid).toList, (fmtFixed 4 signs.high b.levels.high).toList,
        (fmtFixed 4 signs.intensity b.intensity).toList, "1.0000".toList] := by
  simp only [unfed, Prod.mk.injEq] at hunfed
  have hzero : (fmtFixed 4 false (.fin 0)).toList = "0.0000".toList := by decide +kernel
  have hone : (fmtFixed 4 false (.fin 1)).toList = "1.0000".toList := by decide +kernel
  simp only [frameCells, AudioFrameBuilder.snapshot, hunfed, AudioFrameBuilder.new, hzero, hone]

/-- What a frame line shows after the messages `heard`. -/
def FrameLine (A : F32Arith) (heard : List OscMessage) (row : List (List Char)) : Prop :=
  ∃ bpm beat bass mid high intensity,
    row = ["0.0000".toList, bpm, "0.0000".toList, beat, bass, mid, high, intensity,
      "1.0000".toList] ∧
    Shows 2 bpm (lastValue A .bpm heard) ∧ Shows 4 beat (lastValue A .onBeat heard) ∧
    Shows 4 bass (lastValue A (.level .bass) heard) ∧
    Shows 4 mid (lastValue A (.level .mid) heard) ∧
    Shows 4 high (lastValue A (.level .high) heard) ∧
    Shows 4 intensity (lastValue A .intensity heard)

theorem frameLine_history (signs : ZeroSigns) (heard : List OscMessage) :
    FrameLine A heard (frameCells signs (heard.foldl (applyMessage A) .new).snapshot.1) := by
  have hsafe : InRange (heard.foldl (applyMessage A) .new).snapshot.1 :=
    foldl_safe A AudioFrameBuilder.new_safe heard
  refine ⟨_, _, _, _, _, _, frameCells_of_unfed signs (unfed_history A heard), ?_⟩
  simp only [← fieldValue_history]
  exact ⟨shows_fmtFixed (by decide) _ hsafe.bpm, shows_fmtFixed (by decide) _ hsafe.onBeat,
    shows_fmtFixed (by decide) _ hsafe.levels.bass, shows_fmtFixed (by decide) _ hsafe.levels.mid,
    shows_fmtFixed (by decide) _ hsafe.levels.high, shows_fmtFixed (by decide) _ hsafe.intensity⟩

/-- As long as log lines and, with `--raw`, messages are plain, the lines with nine columns are
one for each datagram that could be decoded, and the line shows, to the last digit, the last
well-formed value that each address had received by then. -/
theorem frame_lines_show_last_values (plain : d.Plain)
    (run : exec (monitorStep A decodeUdp d args) startMonitor es = some m)
    (hplain : PlainRun decodeUdp args es) :
    (frameLines m.out).length = (decodedPackets decodeUdp (arrivalsOf es)).length ∧
    ∀ k row, (frameLines m.out)[k]? = some row →
      FrameLine A (((decodedPackets decodeUdp (arrivalsOf es)).take (k + 1)).flatMap messages)
        row := by
  have hframes : List.Forall₂ _ ((transcript A decodeUdp d args es).filter _) _ :=
    frames_of_transcriptFrom .new
  rw [frameLines, (readTable_iff plain run).mpr hplain]
  refine ⟨hframes.length_eq.trans (length_returnedFrames ..), fun k row hrow => ?_⟩
  obtain ⟨hk, hget⟩ := List.getElem?_eq_some_iff.mp hrow
  obtain ⟨signs, hsigns⟩ := (List.forall₂_iff_get.mp hframes).2 k hk (hframes.length_eq ▸ hk)
  have hreturned := returnedFrames_listen A decodeUdp .new (arrivalsOf es) k
  rw [List.getElem?_eq_getElem (hframes.length_eq ▸ hk)] at hreturned
  obtain ⟨packet, -, hframe⟩ := Option.map_eq_some_iff.mp hreturned.symm
  have hrow : row = frameCells signs _ := hget.symm.trans hsigns
  rw [hrow, List.get_eq_getElem, ← hframe]
  exact frameLine_history signs _

theorem frame_lines_show_last_values_noisy : sampleDisplay.Plain ∧ ∃ m,
    exec (monitorStep (Arithmetic.exact ℚ) levelsDecoder sampleDisplay rawArgs) startMonitor
      noisyRun = some m ∧ (frameLines m.out).length = 2 ∧
    ∀ row, (frameLines m.out)[1]? = some row →
      FrameLine (Arithmetic.exact ℚ) (receivedMessages levelsDecoder noisyRun) row := by
  have hrun : exec (monitorStep (Arithmetic.exact ℚ) levelsDecoder sampleDisplay rawArgs)
      startMonitor noisyRun = some _ := rfl
  have hshown := frame_lines_show_last_values sampleDisplay_plain hrun noisyRun_plain
  exact ⟨sampleDisplay_plain, _, hrun, hshown.1, hshown.2 1⟩

end Runs
end RunMonitor
