import Audiophore.RoundCounter
import Audiophore.SacnReceiver
import Audiophore.SacnRender
import Audiophore.StepRuns

/-!
# Runs of a built adapter

The calls of the adapter trait in any order and with any answers of the operating
system. On the wire a run is a log of rounds, one for each render: the universes
are the channels, served in list order until a send fails.
-/

namespace AdapterRuns

open AudiophoreCore RustExec AdapterCore SacnPacket SacnReceiver SacnOutput SacnRender
open RoundCounter StepRuns

variable (A : F32Arith)

inductive AdapterCall where
  | connect (bind : Except IoError UdpSocket)
  | render (frame : ResolvedFrame) (order : IterOrder) (send : SendOutcomes)
  | disconnect

/-- What a call put on the wire and what it returned. -/
structure Report where
  sent : List Datagram
  outcome : Except AdapterError Unit

def perform (self : SacnAdapter) : AdapterCall → Exec (SacnAdapter × Report)
  | .connect bind =>
    let (self, outcome) := self.connect bind
    pure (self, { sent := [], outcome := outcome })
  | .render frame order send => do
    let (self, sent, outcome) ← self.render A frame order send
    pure (self, { sent := sent, outcome := outcome })
  | .disconnect =>
    let (self, outcome) := self.disconnect
    pure (self, { sent := [], outcome := outcome })

def runCalls : SacnAdapter → List AdapterCall → Exec (SacnAdapter × List Report)
  | self, [] => pure (self, [])
  | self, c :: calls => do
    let (self, report) ← perform A self c
    let (self, reports) ← runCalls self calls
    pure (self, report :: reports)

/-! ## What a call does, from its arguments alone -/

def socketAfter (isOpen : Bool) : AdapterCall → Bool
  | .connect (.ok _) => true
  | .connect (.error _) => isOpen
  | .render _ _ _ => isOpen
  | .disconnect => false

/-- How many packets a call sends to `n` universes. -/
def served (n : Nat) (isOpen : Bool) : AdapterCall → Nat
  | .render frame order send =>
    if isOpen = true ∧ (firstPixels frame order).isSome = true then delivered send n else 0
  | _ => 0

theorem served_le (n : Nat) (isOpen : Bool) (c : AdapterCall) : served n isOpen c ≤ n := by
  cases c with
  | render frame order send =>
    rw [served]
    split
    · exact delivered_le send n
    · exact Nat.zero_le n
  | _ => exact Nat.zero_le n

/-- Without failing sends a render serves every universe or none. -/
theorem served_of_succeed (n : Nat) (isOpen : Bool) (frame : ResolvedFrame) (order : IterOrder)
    {send : SendOutcomes} (succeed : ∀ i, send i = .ok ()) :
    served n isOpen (.render frame order send) = 0 ∨
      served n isOpen (.render frame order send) = n := by
  rw [served]
  split
  · exact .inr (delivered_of_ok succeed n)
  · exact .inl rfl

/-- The packets a call would send if nothing stopped it. -/
def planned (self : SacnAdapter) : AdapterCall → List Datagram
  | .render frame order _ => ((firstPixels frame order).map (packets A self)).getD []
  | _ => []

/-- What a call returns. -/
def result (n : Nat) (isOpen : Bool) : AdapterCall → Except AdapterError Unit
  | .connect (.ok _) => .ok ()
  | .connect (.error e) => .error (.io e)
  | .render frame order send =>
    if (firstPixels frame order).isNone = true then .ok ()
    else if isOpen = true then sendResult send n
    else .error (.connect "socket not open; call connect()")
  | .disconnect => .ok ()

theorem result_ne_protocol (n : Nat) (isOpen : Bool) (c : AdapterCall) (text : String) :
    result n isOpen c ≠ .error (.protocol text) := by
  cases c with
  | connect bind => cases bind <;> simp [result]
  | disconnect => simp [result]
  | render frame order send =>
    rw [result]
    split
    · simp
    · split
      · rcases sendResult_eq send n with ⟨-, hr⟩ | ⟨-, e, -, hr⟩ <;> simp [hr]
      · simp

/-- Serving every universe is a success. -/
theorem result_of_served {n : Nat} (hpos : 0 < n) {isOpen : Bool} {c : AdapterCall}
    (h : served n isOpen c = n) : result n isOpen c = .ok () := by
  cases c with
  | render frame order send =>
    rw [served] at h
    split at h
    · rename_i hboth
      have hnone : ¬(firstPixels frame order).isNone = true := by
        rw [← Option.not_isSome, hboth.2]
        decide
      rw [result, if_neg hnone, if_pos hboth.1]
      rcases sendResult_eq send n with ⟨-, hr⟩ | ⟨hd, -⟩
      · exact hr
      · omega
    · omega
  | _ => exact absurd h hpos.ne

/-- What a call preserves, and what it changes. -/
structure Effect (pre : SacnAdapter) (c : AdapterCall) (post : SacnAdapter) (report : Report) :
    Prop where
  settings_eq : settings post = settings pre
  socket_eq : post.socket.isSome = socketAfter pre.socket.isSome c
  sequence_eq : post.sequence =
    if served pre.universes.length pre.socket.isSome c = pre.universes.length
    then pre.sequence + 1 else pre.sequence
  sent_eq : report.sent =
    (planned A pre c).take (served pre.universes.length pre.socket.isSome c)
  outcome_eq : report.outcome = result pre.universes.length pre.socket.isSome c

theorem perform_render {self self' : SacnAdapter} {frame : ResolvedFrame} {order : IterOrder}
    {send : SendOutcomes} {sent : List Datagram} {outcome : Except AdapterError Unit}
    (h : self.render A frame order send = .ok (self', sent, outcome)) :
    perform A self (.render frame order send) =
      .ok (self', { sent := sent, outcome := outcome }) := by
  simp only [perform, h, ok_bind]
  rfl

theorem perform_effect {self : SacnAdapter} (h : Acceptable self.universes self.priority)
    (c : AdapterCall) :
    ∃ self' report, perform A self c = .ok (self', report) ∧ Effect A self c self' report := by
  have hpos : 0 ≠ self.universes.length := (List.length_pos_iff.mpr h.nonempty).ne
  cases c with
  | connect bind =>
    refine ⟨_, _, rfl, ?_⟩
    cases bind with
    | error e => exact ⟨rfl, rfl, (if_neg hpos).symm, rfl, rfl⟩
    | ok socket => exact ⟨rfl, rfl, (if_neg hpos).symm, rfl, rfl⟩
  | disconnect => exact ⟨_, _, rfl, rfl, rfl, (if_neg hpos).symm, rfl, rfl⟩
  | render frame order send =>
    cases hpx : firstPixels frame order with
    | none =>
      refine ⟨_, _, perform_render A (render_without_pixels A self send hpx), rfl, rfl, ?_, ?_, ?_⟩
      · simp [served, hpx, hpos]
      · simp [planned, hpx]
      · simp [result, hpx]
    | some pixels =>
      cases hsocket : self.socket with
      | none =>
        refine ⟨_, _, perform_render A (render_without_socket A self send hpx hsocket),
          rfl, ?_, ?_, ?_, ?_⟩
        · simp [socketAfter]
        · simp [served, hsocket, hpos]
        · simp [served, hsocket]
        · simp [result, hpx, hsocket]
      | some socket =>
        obtain ⟨scratch, hrender⟩ := render_connected A h send hpx (by simp [hsocket])
        refine ⟨_, _, perform_render A hrender, rfl, ?_, ?_, ?_, ?_⟩
        · simp [socketAfter]
        · simp [served, hsocket, hpx]
        · simp [served, planned, hsocket, hpx]
        · simp [result, hpx, hsocket]

/-- As many datagrams leave the host as the arguments allow. -/
theorem Effect.length_sent {pre post : SacnAdapter} {c : AdapterCall} {report : Report}
    (effect : Effect A pre c post report) :
    report.sent.length = served pre.universes.length pre.socket.isSome c := by
  have hle := served_le pre.universes.length pre.socket.isSome c
  rw [effect.sent_eq, List.length_take]
  cases c with
  | render frame order send =>
    cases hpx : firstPixels frame order with
    | none => simp [served, planned, hpx]
    | some pixels => simpa [planned, hpx] using hle
  | _ => rfl

/-- With pixels, an open socket and no failing send, all planned packets are sent. -/
theorem Effect.sent_all {pre post : SacnAdapter} {frame : ResolvedFrame} {order : IterOrder}
    {send : SendOutcomes} {report : Report}
    (effect : Effect A pre (.render frame order send) post report)
    (connected : pre.socket.isSome = true) {pixels : List Rgb}
    (payload : firstPixels frame order = some pixels) (succeed : ∀ i, send i = .ok ()) :
    report.sent = packets A pre pixels := by
  have hserved : served pre.universes.length pre.socket.isSome (.render frame order send) =
      pre.universes.length := by
    rw [served, if_pos ⟨connected, by simp [payload]⟩]
    exact delivered_of_ok succeed _
  rw [effect.sent_eq, hserved, planned, payload, Option.map_some, Option.getD_some]
  exact List.take_of_length_le (length_packets A pre pixels).le

/-! ## Whole runs -/

/-- What the wire shows of a datagram sent in render `round`. -/
def delivery (round : Nat) (d : Datagram) : Option (Delivery Nat) :=
  (decode d.bytes).map fun r => { round := round, channel := r.univ, stamp := r.sequence }

def isRender : AdapterCall → Bool
  | .render _ _ _ => true
  | _ => false

def roundAfter (round : Nat) (c : AdapterCall) : Nat := if isRender c then round + 1 else round

/-- The packets of a run as a receiver sees them, each with the render it belongs to. -/
def deliveries : Nat → List AdapterCall → List Report → List (Delivery Nat)
  | round, c :: calls, report :: reports =>
    report.sent.filterMap (delivery round) ++ deliveries (roundAfter round c) calls reports
  | _, _, _ => []

/-- How many packets each render of a run sends. -/
def servedCounts (n : Nat) : Bool → List AdapterCall → List Nat
  | _, [] => []
  | isOpen, c :: calls =>
    (if isRender c then [served n isOpen c] else []) ++ servedCounts n (socketAfter isOpen c) calls

/-- A planned packet decodes to its universe, with the counter as it stands. -/
theorem filterMap_delivery_packets {self : SacnAdapter}
    (h : Acceptable self.universes self.priority) (round k : Nat) (pixels : List Rgb) :
    ((packets A self pixels).take k).filterMap (delivery round) =
      ((self.universes.map UInt16.toNat).take k).map
        (fun u => { round := round, channel := u, stamp := self.sequence.toNat }) := by
  have hdecode : ∀ pair ∈ self.universes.zip (slotBuffers A pixels self.universes.length),
      delivery round (datagram self.target self.builder self.sequence self.priority pair) =
        some { round := round, channel := pair.1.toNat, stamp := self.sequence.toNat } := by
    intro pair hpair
    have hslots := (encodable_pairs A h pixels hpair).2.2
    simp only [delivery, datagram, decode_dataPacket self.builder pair.1 self.sequence
      self.priority pair.2 hslots, Option.map_some, readBack]
  have huniverses : (self.universes.zip (slotBuffers A pixels self.universes.length)).map
      Prod.fst = self.universes := List.map_fst_zip (by simp)
  rw [packets, ← List.map_take, List.filterMap_map]
  generalize self.universes.zip (slotBuffers A pixels self.universes.length) = pairs at *
  calc (pairs.take k).filterMap (delivery round ∘
        datagram self.target self.builder self.sequence self.priority)
      = (pairs.take k).filterMap (fun pair =>
          some { round := round, channel := pair.1.toNat, stamp := self.sequence.toNat }) :=
        List.filterMap_congr fun pair hpair => hdecode pair (List.mem_of_mem_take hpair)
    _ = (pairs.take k).map (fun pair =>
          { round := round, channel := pair.1.toNat, stamp := self.sequence.toNat }) :=
        congrFun List.filterMap_eq_map' _
    _ = _ := by
      rw [← huniverses]
      simp only [List.map_map, List.map_take, Function.comp_def]

/-- The deliveries of one call: a round if it is a render, nothing otherwise. -/
theorem filterMap_delivery_sent {self self' : SacnAdapter} {c : AdapterCall} {report : Report}
    (h : Acceptable self.universes self.priority) (effect : Effect A self c self' report)
    (round : Nat) :
    report.sent.filterMap (delivery round) =
      ((self.universes.map UInt16.toNat).take
        (served self.universes.length self.socket.isSome c)).map
        (fun u => { round := round, channel := u, stamp := self.sequence.toNat }) := by
  rw [effect.sent_eq]
  cases c with
  | connect bind => rfl
  | disconnect => rfl
  | render frame order send =>
    cases hpx : firstPixels frame order with
    | none => simp [served, planned, hpx]
    | some pixels =>
      simp only [planned, hpx, Option.map_some, Option.getD_some]
      exact filterMap_delivery_packets A h round _ pixels

/-- The invariant of a run: the counter is the number of full rounds. -/
structure Counted (full : Nat) (a : SacnAdapter) : Prop where
  acceptable : Acceptable a.universes a.priority
  sequence_eq : a.sequence.toNat = full % 256

theorem counted_succ {full : Nat} {s : UInt8} (h : s.toNat = full % 256) :
    (s + 1).toNat = (full + 1) % 256 := by
  rw [UInt8.toNat_add, h]
  change (full % 256 + 1) % 256 = (full + 1) % 256
  omega

theorem universes_of_settings {a b : SacnAdapter} (h : settings a = settings b) :
    a.universes = b.universes ∧ a.priority = b.priority := by
  have hu : (settings a).universes = (settings b).universes := by rw [h]
  have hp : (settings a).priority = (settings b).priority := by rw [h]
  exact ⟨hu, hp⟩

/-- What was built stays acceptable. -/
theorem acceptable_of_settings {a b : SacnAdapter} (h : settings a = settings b)
    (haccept : Acceptable b.universes b.priority) : Acceptable a.universes a.priority := by
  obtain ⟨hu, hp⟩ := universes_of_settings h
  rw [hu, hp]
  exact haccept

theorem Effect.counted {self self' : SacnAdapter} {c : AdapterCall} {report : Report}
    {full : Nat} (h : Counted full self) (effect : Effect A self c self' report) :
    Counted (if served self.universes.length self.socket.isSome c = self.universes.length
      then full + 1 else full) self' := by
  refine ⟨acceptable_of_settings effect.settings_eq h.acceptable, ?_⟩
  rw [effect.sequence_eq]
  split
  · exact counted_succ h.sequence_eq
  · exact h.sequence_eq

/-- A call prefixed to a run is one more round if it is a render, and none otherwise. -/
theorem log_servedCounts_cons {channels : List Nat} {n : Nat} (hn : channels.length = n)
    (hpos : 0 < n) (isOpen : Bool) (c : AdapterCall) (calls : List AdapterCall)
    (round full : Nat) :
    full + fullRounds n (servedCounts n isOpen (c :: calls)) =
      (if served n isOpen c = n then full + 1 else full) +
        fullRounds n (servedCounts n (socketAfter isOpen c) calls) ∧
    log channels 256 round full (servedCounts n isOpen (c :: calls)) =
      (channels.take (served n isOpen c)).map
        (fun u => { round := round, channel := u, stamp := full % 256 }) ++
      log channels 256 (roundAfter round c) (if served n isOpen c = n then full + 1 else full)
        (servedCounts n (socketAfter isOpen c) calls) := by
  have hle := served_le n isOpen c
  have hfull : n ≤ served n isOpen c ↔ served n isOpen c = n := by omega
  cases c with
  | render frame order send =>
    have hcounts : servedCounts n isOpen (.render frame order send :: calls) =
        served n isOpen (.render frame order send) ::
          servedCounts n (socketAfter isOpen (.render frame order send)) calls := rfl
    have hround : roundAfter round (.render frame order send) = round + 1 := rfl
    rw [hcounts, add_fullRounds_cons, log, hn, hround]
    simp only [hfull, and_self]
  | _ => simp [servedCounts, isRender, served, roundAfter, hpos.ne]

/-- All packets of a render to `n` universes left the host. -/
def Report.complete (n : Nat) (report : Report) : Bool := report.sent.length = n

/-- Every run goes through, and on the wire it is the log of its rounds. -/
theorem runCalls_log (calls : List AdapterCall) {self : SacnAdapter} {full : Nat}
    (h : Counted full self) (round : Nat) :
    ∃ self' reports, runCalls A self calls = .ok (self', reports) ∧
      settings self' = settings self ∧
      self'.socket.isSome = calls.foldl socketAfter self.socket.isSome ∧
      Counted (full + fullRounds self.universes.length
        (servedCounts self.universes.length self.socket.isSome calls)) self' ∧
      reports.countP (Report.complete self.universes.length) = fullRounds self.universes.length
        (servedCounts self.universes.length self.socket.isSome calls) ∧
      deliveries round calls reports = log (self.universes.map UInt16.toNat) 256 round full
        (servedCounts self.universes.length self.socket.isSome calls) := by
  induction calls generalizing self full round with
  | nil => exact ⟨self, [], rfl, rfl, rfl, h, rfl, rfl⟩
  | cons c calls ih =>
    obtain ⟨mid, report, hperform, effect⟩ := perform_effect A h.acceptable c
    obtain ⟨self', reports, hrun, hsettings, hsocket, hcounted, hcomplete, hlog⟩ :=
      ih (effect.counted A h) (roundAfter round c)
    obtain ⟨hu, -⟩ := universes_of_settings effect.settings_eq
    rw [hu, effect.socket_eq] at hcounted hcomplete hlog
    have hlength : (self.universes.map UInt16.toNat).length = self.universes.length :=
      List.length_map _
    obtain ⟨hcount, hcons⟩ := log_servedCounts_cons hlength
      (List.length_pos_iff.mpr h.acceptable.nonempty) self.socket.isSome c calls round full
    refine ⟨self', report :: reports, ?_, hsettings.trans effect.settings_eq, ?_, ?_, ?_, ?_⟩
    · simp only [runCalls, hperform, ok_bind, hrun]
      rfl
    · rw [hsocket, effect.socket_eq]
      rfl
    · rw [hcount]
      exact hcounted
    · rw [List.countP_cons, hcomplete, Report.complete, effect.length_sent]
      by_cases hfull : served self.universes.length self.socket.isSome c = self.universes.length
      · rw [if_pos hfull] at hcount
        simp only [hfull, decide_true, ↓reduceIte]
        omega
      · rw [if_neg hfull] at hcount
        simp only [hfull, decide_false, Bool.false_eq_true, ↓reduceIte]
        omega
    · rw [hcons, deliveries, filterMap_delivery_sent A h.acceptable effect, h.sequence_eq, hlog]

end AdapterRuns
