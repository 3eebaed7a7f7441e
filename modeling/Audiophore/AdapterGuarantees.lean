import Audiophore.AdapterRuns

/-!
# What holds of every built adapter

Renders never fail for protocol reasons, the counter counts the complete renders, and
a universe sees a fresh sequence number with every packet unless a render that was cut
short is followed by another.
-/

namespace AdapterGuarantees

open ExtendedFloat AudiophoreCore RustExec AdapterCore SacnPacket SacnReceiver SacnOutput
open SacnRender AdapterRuns RoundCounter StepRuns

variable (A : F32Arith)

/-- A configuration to evaluate on: one universe, everything else by default. -/
def loopbackBuilder : SacnAdapterBuilder :=
  SacnAdapterBuilder.new "sacn" (.v4 ⟨[127, 0, 0, 1], rfl⟩)

def twoUniverseBuilder : SacnAdapterBuilder := { loopbackBuilder with universes := [1, 2] }

def zeroCid : Uuid := List.Vector.replicate 16 0

/-- A strip of one grey. -/
def greyPixels (count : Nat) (level : F32) : List Rgb := List.replicate count ⟨level, level, level⟩

def greyFrame (count : Nat) (level : F32) : ResolvedFrame :=
  { ResolvedFrame.default with
    zones := AList.insert ⟨"strip"⟩ (.pixels (greyPixels count level)) ∅ }

/-- The second send fails. -/
def secondFails : SendOutcomes := fun i => if i = 1 then .error "unreachable" else .ok ()

/-- A black strip reaches both universes, the white one after it the first universe only. -/
def tornCalls : List AdapterCall :=
  [.connect (.ok ⟨40000⟩),
    .render (greyFrame 171 (.fin 0)) .asStored (fun _ => .ok ()),
    .render (greyFrame 171 (.fin 1)) .asStored secondFails]

theorem counted_of_built {config : SacnAdapterBuilder} {freshCid : Uuid} {adapter : SacnAdapter}
    (built : config.build freshCid = .ok (.ok adapter)) : Counted 0 adapter := by
  obtain ⟨haccept, -, -, -, hsequence, -⟩ := built_spec built
  exact ⟨haccept, by rw [hsequence]; rfl⟩

/-! ## Renders do not fail for protocol reasons -/

/-- What a render in state `a` comes to. -/
structure RenderOutcome (a : SacnAdapter) (frame : ResolvedFrame) (send : SendOutcomes)
    (report : Report) : Prop where
  no_protocol : ∀ text, report.outcome ≠ .error (.protocol text)
  without_pixels : ¬HasPixels frame → report.outcome = .ok () ∧ report.sent = []
  without_socket : HasPixels frame → a.socket = none →
    (∃ text, report.outcome = .error (.connect text)) ∧ report.sent = []
  in_order : ∀ i (h : i < report.sent.length), ∃ r, decode report.sent[i].bytes = some r ∧
    a.universes[i]?.map UInt16.toNat = some r.univ ∧
    r.slots.length ≤ 510 ∧ r.slots.length % 3 = 0
  until_failure : HasPixels frame → a.socket.isSome = true →
    report.sent.length = delivered send a.universes.length ∧
    ((report.sent.length = a.universes.length ∧ report.outcome = .ok ()) ∨
      (report.sent.length < a.universes.length ∧
        ∃ e, send report.sent.length = .error e ∧ report.outcome = .error (.io e)))

/-- The `i`-th planned packet goes to the `i`-th universe. -/
theorem decode_packets {a : SacnAdapter} (h : Acceptable a.universes a.priority)
    (pixels : List Rgb) {i : Nat} (hi : i < (packets A a pixels).length) :
    ∃ r, decode (packets A a pixels)[i].bytes = some r ∧
      a.universes[i]?.map UInt16.toNat = some r.univ ∧ r.sequence = a.sequence.toNat ∧
      some r.slots = (slotBuffers A pixels a.universes.length)[i]? := by
  have hn : i < a.universes.length := by simpa using hi
  have hb : i < (slotBuffers A pixels a.universes.length).length := by simpa using hn
  have hpair : (a.universes[i], (slotBuffers A pixels a.universes.length)[i]) ∈
      a.universes.zip (slotBuffers A pixels a.universes.length) := by
    rw [← List.getElem_zip (h := by simpa using hn)]
    exact List.getElem_mem _
  have hslots := (encodable_pairs A h pixels hpair).2.2
  refine ⟨readBack a.builder a.universes[i] a.sequence a.priority
    (slotBuffers A pixels a.universes.length)[i], ?_, ?_, rfl, ?_⟩
  · simp only [packets, List.getElem_map, List.getElem_zip, datagram]
    exact decode_dataPacket a.builder _ a.sequence a.priority _ hslots
  · rw [List.getElem?_eq_getElem hn]
    rfl
  · rw [List.getElem?_eq_getElem hb]
    rfl

theorem renderOutcome_of_effect {a a' : SacnAdapter} {frame : ResolvedFrame} {order : IterOrder}
    {send : SendOutcomes} {report : Report} (h : Acceptable a.universes a.priority)
    (effect : Effect A a (.render frame order send) a' report) :
    RenderOutcome a frame send report := by
  have hlen := effect.length_sent
  have houtcome := effect.outcome_eq
  have hpx := firstPixels_isSome_iff frame order
  have hpos := List.length_pos_iff.mpr h.nonempty
  constructor
  · intro text
    rw [houtcome]
    exact result_ne_protocol _ _ _ text
  · intro hnone
    have hfirst : firstPixels frame order = none := by
      rw [← Option.not_isSome_iff_eq_none, hpx]
      exact hnone
    simp only [served, result, hfirst, Option.isSome_none, Option.isNone_none] at hlen houtcome
    exact ⟨by simpa using houtcome, List.length_eq_zero_iff.mp (by simpa using hlen)⟩
  · intro hsome hsocket
    obtain ⟨pixels, hfirst⟩ := Option.isSome_iff_exists.mp (hpx.mpr hsome)
    simp only [served, result, hfirst, hsocket, Option.isSome_none] at hlen houtcome
    exact ⟨⟨_, by simpa using houtcome⟩, List.length_eq_zero_iff.mp (by simpa using hlen)⟩
  · intro i hi
    cases hfirst : firstPixels frame order with
    | none =>
      have hzero : report.sent.length = 0 := hlen.trans (by simp [served, hfirst])
      omega
    | some pixels =>
      have hsent := effect.sent_eq
      simp only [planned, hfirst, Option.map_some, Option.getD_some] at hsent
      have hi' : i < (packets A a pixels).length := by
        rw [hsent, List.length_take] at hi
        omega
      obtain ⟨r, hdecode, huniv, -, hslots⟩ := decode_packets A h pixels hi'
      have hmem : r.slots ∈ slotBuffers A pixels a.universes.length :=
        List.mem_of_getElem? hslots.symm
      refine ⟨r, ?_, huniv, length_of_mem_slotBuffers A hmem⟩
      simp only [hsent, List.getElem_take]
      exact hdecode
  · intro hsome hsocket
    obtain ⟨pixels, hfirst⟩ := Option.isSome_iff_exists.mp (hpx.mpr hsome)
    simp only [served, result, hfirst, hsocket, Option.isSome_some, Option.isNone_some, and_self,
      Bool.false_eq_true, ↓reduceIte] at hlen houtcome
    rw [hlen]
    refine ⟨rfl, ?_⟩
    rcases sendResult_eq send a.universes.length with ⟨hd, hr⟩ | ⟨hd, e, he, hr⟩
    · exact .inl ⟨hd, houtcome.trans hr⟩
    · exact .inr ⟨hd, e, he, houtcome.trans hr⟩

/-- In every state a built adapter can get into, a render ends as its frame, its socket
and its sends say, and never with a protocol error. -/
theorem render_never_protocol {config : SacnAdapterBuilder} {freshCid : Uuid}
    {adapter : SacnAdapter} (built : config.build freshCid = .ok (.ok adapter))
    (calls : List AdapterCall) (frame : ResolvedFrame) (order : IterOrder) (send : SendOutcomes) :
    ∃ a reports a' report, runCalls A adapter calls = .ok (a, reports) ∧
      a.universes = config.universes ∧
      perform A a (.render frame order send) = .ok (a', report) ∧
      RenderOutcome a frame send report := by
  obtain ⟨-, huniverses, -⟩ := built_spec built
  obtain ⟨a, reports, hrun, hsettings, -, hcounted, -⟩ :=
    runCalls_log A calls (counted_of_built built) 0
  obtain ⟨a', report, hperform, effect⟩ :=
    perform_effect A hcounted.acceptable (.render frame order send)
  exact ⟨a, reports, a', report, hrun, (universes_of_settings hsettings).1.trans huniverses,
    hperform, renderOutcome_of_effect A hcounted.acceptable effect⟩

theorem loopback_acceptable : Acceptable loopbackBuilder.universes loopbackBuilder.priority :=
  ⟨by decide, by decide, List.all_eq_true.mp (by decide), by decide⟩

theorem twoUniverse_acceptable :
    Acceptable twoUniverseBuilder.universes twoUniverseBuilder.priority :=
  ⟨by decide, by decide, List.all_eq_true.mp (by decide), by decide⟩

/-- After a torn strip a third render: its second send fails, and the error is that of the
send. -/
theorem render_never_protocol_torn :
    ∃ adapter, twoUniverseBuilder.build zeroCid = .ok (.ok adapter) ∧
      ∃ a reports a' report, runCalls (.exact ℚ) adapter tornCalls = .ok (a, reports) ∧
        perform (.exact ℚ) a (.render (greyFrame 171 (.fin 1)) .asStored secondFails) =
          .ok (a', report) ∧
        RenderOutcome a (greyFrame 171 (.fin 1)) secondFails report ∧
        report.sent.length = 1 ∧ report.outcome = .error (.io "unreachable") := by
  obtain ⟨adapter, built, -, -, hnone, -⟩ := build_accepts twoUniverse_acceptable zeroCid
  obtain ⟨a, reports, a', report, hrun, huniverses, hperform, houtcome⟩ := render_never_protocol
    (.exact ℚ) built tornCalls (greyFrame 171 (.fin 1)) .asStored secondFails
  obtain ⟨a₁, reports₁, hrun', -, hsocket, -⟩ :=
    runCalls_log (.exact ℚ) tornCalls (counted_of_built built) 0
  obtain ⟨rfl, rfl⟩ := Prod.mk.inj (Except.ok.inj (hrun.symm.trans hrun'))
  have lit : HasPixels (greyFrame 171 (.fin 1)) := (firstPixels_isSome_iff _ .asStored).mp rfl
  obtain ⟨hlength, hend⟩ := houtcome.until_failure lit (by rw [hsocket, hnone]; rfl)
  rw [huniverses] at hlength hend
  have hsent : report.sent.length = 1 := hlength.trans (by decide)
  refine ⟨adapter, built, a, reports, a', report, hrun, hperform, houtcome, hsent, ?_⟩
  rcases hend with ⟨hall, -⟩ | ⟨-, e, he, herror⟩
  · rw [hsent] at hall
    cases hall
  · rw [hsent] at he
    cases he
    exact herror

/-! ## The sequence counter -/

/-- A connect that succeeded. -/
def Connected : AdapterCall → Prop
  | .connect (.ok _) => True
  | _ => False

def Disconnected : AdapterCall → Prop
  | .disconnect => True
  | _ => False

/-- No send of the call fails. -/
def SendsSucceed : AdapterCall → Prop
  | .render _ _ send => ∀ i, send i = .ok ()
  | _ => True

theorem socket_since (calls : List AdapterCall) :
    calls.foldl socketAfter false = true ↔ Since Connected Disconnected calls := by
  induction calls using List.reverseRecOn with
  | nil => simp [not_since_nil]
  | append_singleton calls c ih =>
    rw [List.foldl_append, since_snoc, ← ih]
    cases c with
    | connect bind => cases bind <;> simp [socketAfter, Connected, Disconnected]
    | render frame order send => simp [socketAfter, Connected, Disconnected]
    | disconnect => simp [socketAfter, Connected, Disconnected]

/-- Without failing sends a render is complete or sends nothing. -/
theorem servedCounts_complete {n : Nat} {calls : List AdapterCall}
    (succeed : ∀ c ∈ calls, SendsSucceed c) (isOpen : Bool) :
    ∀ d ∈ servedCounts n isOpen calls, d = 0 ∨ n ≤ d := by
  induction calls generalizing isOpen with
  | nil => simp [servedCounts]
  | cons c calls ih =>
    intro d hd
    rcases List.mem_append.mp hd with hd | hd
    · cases c with
      | render frame order send =>
        have hok : ∀ i, send i = .ok () := succeed _ (List.mem_cons_self ..)
        have hd' : d = served n isOpen (.render frame order send) := by simpa [isRender] using hd
        rw [hd']
        exact (served_of_succeed n isOpen frame order hok).imp_right Eq.ge
      | _ => simp [isRender] at hd
    · exact ih (fun c hc => succeed c (List.mem_cons_of_mem _ hc)) _ d hd

/-- Every packet of a call carries the counter as it stood before the call. -/
theorem sequence_of_sent {a a' : SacnAdapter} {c : AdapterCall} {report : Report}
    (h : Acceptable a.universes a.priority) (effect : Effect A a c a' report) {d : Datagram}
    (hd : d ∈ report.sent) : ∃ r, decode d.bytes = some r ∧ r.sequence = a.sequence.toNat := by
  rw [effect.sent_eq] at hd
  have hplanned := List.mem_of_mem_take hd
  cases c with
  | render frame order send =>
    cases hfirst : firstPixels frame order with
    | none => simp [planned, hfirst] at hplanned
    | some pixels =>
      simp only [planned, hfirst, Option.map_some, Option.getD_some] at hplanned
      obtain ⟨i, hi, rfl⟩ := List.getElem_of_mem hplanned
      obtain ⟨r, hdecode, -, hsequence, -⟩ := decode_packets A h pixels hi
      exact ⟨r, hdecode, hsequence⟩
  | _ => cases hplanned

/-- How the counter moves with one call. -/
structure CounterStep (a : SacnAdapter) (c : AdapterCall) (a' : SacnAdapter) (report : Report) :
    Prop where
  stamped : ∀ d ∈ report.sent,
    ∃ r, decode d.bytes = some r ∧ r.sequence = a.nextSequence.toNat
  advances : report.complete a.universes.length = true → a'.nextSequence = a.nextSequence + 1
  otherwise : isRender c = false ∨ report.sent = [] ∨ (∃ e, report.outcome = .error e) →
    a'.nextSequence = a.nextSequence

theorem counterStep_of_effect {a a' : SacnAdapter} {c : AdapterCall} {report : Report}
    (h : Acceptable a.universes a.priority) (effect : Effect A a c a' report) :
    CounterStep a c a' report := by
  have hlen := effect.length_sent
  have hpos := List.length_pos_iff.mpr h.nonempty
  have hstep := effect.sequence_eq
  constructor
  · intro d hd
    exact sequence_of_sent A h effect hd
  · intro hcomplete
    have hserved : report.sent.length = a.universes.length := by
      simpa [Report.complete] using hcomplete
    rw [if_pos (hlen.symm.trans hserved)] at hstep
    exact hstep
  · intro hidle
    have hserved : served a.universes.length a.socket.isSome c ≠ a.universes.length := by
      intro hserved
      rcases hidle with hcall | hsent | ⟨e, he⟩
      · cases c with
        | render frame order send => cases hcall
        | _ => exact hpos.ne hserved
      · rw [hsent] at hlen
        exact hpos.ne (hlen.trans hserved)
      · rw [effect.outcome_eq, result_of_served hpos hserved] at he
        cases he
    rw [if_neg hserved] at hstep
    exact hstep

/-- At every point of a run the counter is the number of complete renders, and the
socket is open if a connect succeeded since the last disconnect. -/
theorem sequence_counts_complete_renders {config : SacnAdapterBuilder} {freshCid : Uuid}
    {adapter : SacnAdapter} (built : config.build freshCid = .ok (.ok adapter))
    (calls : List AdapterCall) :
    ∃ a reports, runCalls A adapter calls = .ok (a, reports) ∧
      a.universes = config.universes ∧
      a.nextSequence.toNat =
        reports.countP (Report.complete config.universes.length) % 256 ∧
      (a.socket.isSome = true ↔ Since Connected Disconnected calls) ∧
      (∀ c, ∃ a' report, perform A a c = .ok (a', report) ∧ CounterStep a c a' report) ∧
      (config.universes.Nodup → (∀ c ∈ calls, SendsSucceed c) → ∀ u ∈ config.universes,
        ((deliveries 0 calls reports).filter (fun x => x.channel = u.toNat)).map Delivery.stamp =
          (List.range (reports.countP (Report.complete config.universes.length))).map
            (fun i => i % 256)) := by
  obtain ⟨-, huniverses, -, hnone, -⟩ := built_spec built
  obtain ⟨a, reports, hrun, hsettings, hsocket, hcounted, hcomplete, hlog⟩ :=
    runCalls_log A calls (counted_of_built built) 0
  rw [huniverses, hnone] at hcounted hcomplete hlog
  rw [hnone] at hsocket
  refine ⟨a, reports, hrun, (universes_of_settings hsettings).1.trans huniverses, ?_, ?_, ?_, ?_⟩
  · rw [hcomplete, SacnAdapter.nextSequence, hcounted.sequence_eq, Nat.zero_add]
  · rw [hsocket]
    exact socket_since calls
  · intro c
    obtain ⟨a', report, hperform, effect⟩ := perform_effect A hcounted.acceptable c
    exact ⟨a', report, hperform, counterStep_of_effect A hcounted.acceptable effect⟩
  · intro distinct succeed u hu
    have hchannels : (config.universes.map UInt16.toNat).Nodup :=
      distinct.map fun _ _ h => UInt16.toNat_inj.mp h
    have hcounts := servedCounts_complete (n := config.universes.length) succeed false
    have hlength : (config.universes.map UInt16.toNat).length = config.universes.length :=
      List.length_map _
    rw [hlog, hcomplete, ← hlength]
    rw [← hlength] at hcounts
    exact stamps_of_complete hchannels 256 _ hcounts (List.mem_map_of_mem hu)

/-- A complete render, one without pixels, one that is cut short, and another complete one on
a new socket. -/
def busyCalls : List AdapterCall :=
  [.connect (.ok ⟨40000⟩),
    .render (greyFrame 171 (.fin 0)) .asStored (fun _ => .ok ()),
    .render .default .asStored (fun _ => .ok ()),
    .render (greyFrame 171 (.fin 1)) .asStored secondFails,
    .disconnect, .connect (.ok ⟨40001⟩),
    .render (greyFrame 171 (.fin 1)) .asStored (fun _ => .ok ())]

theorem sequence_counts_complete_renders_busy :
    ∃ adapter, twoUniverseBuilder.build zeroCid = .ok (.ok adapter) ∧
      ∃ a reports, runCalls (.exact ℚ) adapter busyCalls = .ok (a, reports) ∧
        reports.countP (Report.complete 2) = 2 ∧ a.nextSequence.toNat = 2 ∧
        a.socket.isSome = true := by
  obtain ⟨adapter, built, huniverses, -, hnone, -⟩ := build_accepts twoUniverse_acceptable zeroCid
  obtain ⟨a, reports, hrun, -, hsequence, hsocket, -⟩ :=
    sequence_counts_complete_renders (.exact ℚ) built busyCalls
  obtain ⟨a₁, reports₁, hrun', -, -, -, hcomplete, -⟩ :=
    runCalls_log (.exact ℚ) busyCalls (counted_of_built built) 0
  obtain ⟨rfl, rfl⟩ := Prod.mk.inj (Except.ok.inj (hrun.symm.trans hrun'))
  rw [huniverses, hnone] at hcomplete
  have hcount : reports.countP (Report.complete 2) = 2 := hcomplete.trans (by decide)
  refine ⟨adapter, built, a, reports, hrun, hcount, ?_, ?_⟩
  · rw [hsequence]
    change reports.countP (Report.complete 2) % 256 = 2
    rw [hcount]
  · rw [hsocket, ← socket_since]
    rfl

/-! ## Freshness on the wire -/

/-- A universe never sees the same sequence number twice in a row, less than 256 renders
apart, exactly when no render that was cut short midway is followed within that span
by a render that sends anything. -/
theorem fresh_iff_no_retry {config : SacnAdapterBuilder} {freshCid : Uuid}
    {adapter : SacnAdapter} (built : config.build freshCid = .ok (.ok adapter))
    (distinct : config.universes.Nodup) (calls : List AdapterCall) :
    ∃ a reports, runCalls A adapter calls = .ok (a, reports) ∧
      (Fresh 256 (deliveries 0 calls reports) ↔
        NoRetry config.universes.length 256
          (servedCounts config.universes.length false calls)) := by
  obtain ⟨haccept, huniverses, -, hnone, -⟩ := built_spec built
  obtain ⟨a, reports, hrun, -, -, -, -, hlog⟩ := runCalls_log A calls (counted_of_built built) 0
  rw [huniverses, hnone] at hlog
  have hchannels : (config.universes.map UInt16.toNat).Nodup :=
    distinct.map fun _ _ h => UInt16.toNat_inj.mp h
  have hnonempty : config.universes.map UInt16.toNat ≠ [] := by
    rw [← huniverses]
    simpa using haccept.nonempty
  refine ⟨a, reports, hrun, ?_⟩
  rw [hlog, fresh_log_iff hchannels 256 0 _ hnonempty (by decide), List.length_map]
  rfl

def onePixelFrame : ResolvedFrame :=
  { ResolvedFrame.default with
    zones := AList.insert ⟨"strip"⟩ (.pixels [⟨.fin 0, .fin 0, .fin 0⟩]) ∅ }

/-- The second send of the first render fails; the next render succeeds. -/
def cutShort : List AdapterCall :=
  [.connect (.ok ⟨40000⟩),
    .render onePixelFrame .asStored (fun i => if i = 0 then .ok () else .error "unreachable"),
    .render onePixelFrame .asStored (fun _ => .ok ())]

/-- A render that is cut short does no harm as the last one of a run, and does before another
one. -/
theorem fresh_iff_no_retry_two_universes :
    ∃ adapter, twoUniverseBuilder.build zeroCid = .ok (.ok adapter) ∧
      (∃ a reports, runCalls (.exact ℚ) adapter tornCalls = .ok (a, reports) ∧
        Fresh 256 (deliveries 0 tornCalls reports)) ∧
      ∃ a reports, runCalls (.exact ℚ) adapter cutShort = .ok (a, reports) ∧
        ¬Fresh 256 (deliveries 0 cutShort reports) := by
  obtain ⟨adapter, built, -⟩ := build_accepts twoUniverse_acceptable zeroCid
  obtain ⟨a, reports, hrun, htorn⟩ := fresh_iff_no_retry (.exact ℚ) built (by decide) tornCalls
  obtain ⟨a', reports', hrun', hcut⟩ := fresh_iff_no_retry (.exact ℚ) built (by decide) cutShort
  refine ⟨adapter, built, ⟨a, reports, hrun, htorn.mpr ?_⟩, a', reports', hrun', fun hfresh => ?_⟩
  · have hcounts : servedCounts 2 false tornCalls = [2, 1] := by decide
    intro r r' d d' hlater _ hd hd' _ hshort
    change (servedCounts 2 false tornCalls)[r]? = some d at hd
    change (servedCounts 2 false tornCalls)[r']? = some d' at hd'
    rw [hcounts] at hd hd'
    rcases r with _ | r
    · cases hd
      exact absurd hshort (by decide)
    · obtain ⟨hlt, -⟩ := List.getElem?_eq_some_iff.mp hd'
      simp only [List.length_cons, List.length_nil] at hlt
      omega
  · exact absurd (hcut.mp hfresh 0 1 1 2 (by decide) (by decide) rfl rfl (by decide) (by decide))
      (by decide)

/-- Universe 1 gets sequence number 0 twice in a row. -/
theorem cutShort_repeats_sequence :
    ∃ adapter, twoUniverseBuilder.build zeroCid = .ok (.ok adapter) ∧
      twoUniverseBuilder.universes.Nodup ∧
      ∃ a reports, runCalls (.exact ℚ) adapter cutShort = .ok (a, reports) ∧
        deliveries 0 cutShort reports = [⟨0, 1, 0⟩, ⟨1, 1, 0⟩, ⟨1, 2, 0⟩] ∧
        ¬Fresh 256 (deliveries 0 cutShort reports) := by
  obtain ⟨adapter, built, huniverses, -, hnone, -⟩ := build_accepts twoUniverse_acceptable zeroCid
  obtain ⟨a, reports, hrun, -, -, -, -, hlog⟩ :=
    runCalls_log (.exact ℚ) cutShort (counted_of_built built) 0
  rw [huniverses, hnone] at hlog
  have hwire : deliveries 0 cutShort reports = [⟨0, 1, 0⟩, ⟨1, 1, 0⟩, ⟨1, 2, 0⟩] := by
    rw [hlog]
    decide
  refine ⟨adapter, built, by decide, a, reports, hrun, hwire, fun hfresh => ?_⟩
  rw [hwire] at hfresh
  exact hfresh [] ⟨0, 1, 0⟩ [] ⟨1, 1, 0⟩ [⟨1, 2, 0⟩] rfl rfl (by simp) (by decide) rfl

end AdapterGuarantees
