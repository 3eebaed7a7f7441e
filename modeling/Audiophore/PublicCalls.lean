import Audiophore.ReceiverScreens
import Audiophore.SendSlots

/-!
# Runs of every public call

`send_slots` is public, and a caller may mix it with the calls of the trait. A mixed run is
a log of rounds like any other: a call whose buffers are counted and whose socket is open
sends the buffers before the first one that is too long or fails to be sent.
-/

namespace PublicCalls

open AudiophoreCore RustExec AdapterCore SacnPacket SacnReceiver SacnOutput SacnRender
open AdapterRuns AdapterGuarantees ReceiverScreens StepRuns Screens

variable (A : F32Arith)

inductive PublicCall where
  | trait (c : AdapterCall)
  | sendSlots (buffers : List (List UInt8)) (send : SendOutcomes)

def performPublic (self : SacnAdapter) : PublicCall → Exec (SacnAdapter × Report)
  | .trait c => perform A self c
  | .sendSlots buffers send => do
    let (self, sent, outcome) ← self.sendSlots buffers send
    pure (self, { sent := sent, outcome := outcome })

def runPublic : SacnAdapter → List PublicCall → Exec (SacnAdapter × List Report)
  | self, [] => pure (self, [])
  | self, c :: calls => do
    let (self, report) ← performPublic A self c
    let (self, reports) ← runPublic self calls
    pure (self, report :: reports)

/-! ## What a call does, from its arguments alone -/

/-- How many of the buffers leave the host. -/
def leaving : SendOutcomes → List (List UInt8) → Nat
  | _, [] => 0
  | send, slots :: rest =>
    if slots.length ≤ 512 then
      match send 0 with
      | .error _ => 0
      | .ok () => leaving (fun i => send (i + 1)) rest + 1
    else 0

/-- What is returned: the buffer that did not leave is too long, or its send failed. -/
inductive SlotsOutcome (send : SendOutcomes) (buffers : List (List UInt8)) :
    Except AdapterError Unit → Prop where
  | complete : leaving send buffers = buffers.length → SlotsOutcome send buffers (.ok ())
  | tooLong {slots : List UInt8} {text : String} :
      buffers[leaving send buffers]? = some slots → 512 < slots.length →
      SlotsOutcome send buffers (.error (.protocol text))
  | failed {slots : List UInt8} {e : IoError} :
      buffers[leaving send buffers]? = some slots → slots.length ≤ 512 →
      send (leaving send buffers) = .error e → SlotsOutcome send buffers (.error (.io e))

theorem leaving_le (send : SendOutcomes) (buffers : List (List UInt8)) :
    leaving send buffers ≤ buffers.length := by
  induction buffers generalizing send with
  | nil => exact le_rfl
  | cons slots rest ih =>
    rw [leaving]
    split
    · split
      · exact Nat.zero_le _
      · exact Nat.succ_le_succ (ih _)
    · exact Nat.zero_le _

/-- An error leaves a buffer behind. -/
theorem SlotsOutcome.ok_iff {send : SendOutcomes} {buffers : List (List UInt8)}
    {outcome : Except AdapterError Unit} (h : SlotsOutcome send buffers outcome) :
    outcome = .ok () ↔ leaving send buffers = buffers.length := by
  cases h with
  | complete hall => exact iff_of_true rfl hall
  | tooLong hleft =>
    obtain ⟨hlt, -⟩ := List.getElem?_eq_some_iff.mp hleft
    exact iff_of_false nofun hlt.ne
  | failed hleft =>
    obtain ⟨hlt, -⟩ := List.getElem?_eq_some_iff.mp hleft
    exact iff_of_false nofun hlt.ne

/-- One more buffer that left, in front. -/
theorem SlotsOutcome.cons {send : SendOutcomes} {slots : List UInt8} {rest : List (List UInt8)}
    (hfits : slots.length ≤ 512) (hsend : send 0 = .ok ()) {outcome : Except AdapterError Unit}
    (h : SlotsOutcome (fun i => send (i + 1)) rest outcome) :
    SlotsOutcome send (slots :: rest) outcome := by
  have hleaving : leaving send (slots :: rest) = leaving (fun i => send (i + 1)) rest + 1 := by
    simp [leaving, hfits, hsend]
  cases h with
  | complete hall => exact .complete (by rw [hleaving, hall]; rfl)
  | tooLong hleft hlong => exact .tooLong (by rw [hleaving]; exact hleft) hlong
  | failed hleft hshort he =>
    exact .failed (by rw [hleaving]; exact hleft) hshort (by rw [hleaving]; exact he)

/-- With universes in order the loop stops at nothing but a long buffer or a failed send. -/
theorem sendLoop_leaving (target : SocketAddr) (sequence : UInt8) {priority : UInt8}
    (hpriority : priority ≤ 200) {pairs : List (UInt16 × List UInt8)}
    (legal : ∀ pair ∈ pairs, legalUniverse pair.1 = true) (builder : PacketBuilder)
    (send : SendOutcomes) :
    ∃ scratch outcome, sendLoop target sequence priority builder send pairs =
        .ok ({ builder with scratch := scratch },
          (pairs.map (datagram target builder sequence priority)).take
            (leaving send (pairs.map Prod.snd)), outcome) ∧
      SlotsOutcome send (pairs.map Prod.snd) outcome := by
  induction pairs generalizing builder send with
  | nil => exact ⟨builder.scratch, .ok (), rfl, .complete rfl⟩
  | cons pair rest ih =>
    obtain ⟨univ, slots⟩ := pair
    have hlegal : legalUniverse univ = true := legal (univ, slots) List.mem_cons_self
    have hrest : ∀ pair ∈ rest, legalUniverse pair.1 = true :=
      fun pair hp => legal pair (List.mem_cons_of_mem _ hp)
    by_cases hfits : slots.length ≤ 512
    · have hencodable : Encodable univ priority slots := ⟨hlegal, hpriority, hfits⟩
      have hhead := encode_ok builder sequence hencodable
      cases hsend : send 0 with
      | error e =>
        refine ⟨dataPacket builder univ sequence priority slots, .error (.io e), ?_, ?_⟩
        · simp only [sendLoop, hhead, ok_bind, hsend, List.map_cons, leaving, if_pos hfits,
            List.take_zero]
          rfl
        · have hleaving : leaving send (slots :: rest.map Prod.snd) = 0 := by
            simp [leaving, hfits, hsend]
          exact .failed (by rw [List.map_cons, hleaving]; rfl) hfits
            (by rw [List.map_cons, hleaving]; exact hsend)
      | ok u =>
        obtain ⟨scratch, outcome, hloop, houtcome⟩ := ih hrest
          { builder with scratch := dataPacket builder univ sequence priority slots }
          (fun i => send (i + 1))
        refine ⟨scratch, outcome, ?_, houtcome.cons hfits hsend⟩
        simp only [sendLoop, hhead, ok_bind, hsend, hloop, List.map_cons, leaving, if_pos hfits,
          List.take_succ_cons]
        rfl
    · have hbad : ¬Encodable univ priority slots := fun h => hfits h.2.2
      obtain ⟨e, he⟩ := encode_err builder sequence hbad
      have hleaving : leaving send (slots :: rest.map Prod.snd) = 0 := by simp [leaving, hfits]
      refine ⟨builder.scratch, .error (.protocol e.text), ?_, ?_⟩
      · simp only [sendLoop, he, ok_bind, List.map_cons, hleaving, List.take_zero]
        rfl
      · exact .tooLong (by rw [List.map_cons, hleaving]; rfl) (not_le.mp hfits)

/-! ## One call -/

/-- The buffers that a call sets out to send to `n` universes, and how many of them leave. -/
def roundOf (n : Nat) (isOpen : Bool) : PublicCall → Option (Round UInt8)
  | .trait c => (shotOf n isOpen c).map (Shot.round A n)
  | .sendSlots buffers send =>
    if buffers.length = n ∧ isOpen = true then
      some { count := leaving send buffers, blocks := buffers }
    else none

def socketAfterPublic (isOpen : Bool) : PublicCall → Bool
  | .trait c => socketAfter isOpen c
  | .sendSlots _ _ => isOpen

/-- What a call preserves, what it changes and what a receiver sees of it. -/
structure PublicEffect (pre : SacnAdapter) (c : PublicCall) (post : SacnAdapter)
    (report : Report) : Prop where
  settings_eq : settings post = settings pre
  socket_eq : post.socket.isSome = socketAfterPublic pre.socket.isSome c
  sequence_eq : post.sequence =
    if (roundOf A pre.universes.length pre.socket.isSome c).any
      (pre.universes.length ≤ ·.count) = true then pre.sequence + 1 else pre.sequence
  packets_eq : packetsOf report.sent =
    match roundOf A pre.universes.length pre.socket.isSome c with
    | none => []
    | some r => r.packets (pre.universes.map UInt16.toNat) pre.sequence.toNat

theorem fits_of_leaving {send : SendOutcomes} {buffers : List (List UInt8)} :
    ∀ slots ∈ buffers.take (leaving send buffers), slots.length ≤ 512 := by
  induction buffers generalizing send with
  | nil => simp
  | cons slots rest ih =>
    by_cases hfits : slots.length ≤ 512
    · cases hsend : send 0 with
      | error e => simp [leaving, hfits, hsend]
      | ok u =>
        simp only [leaving, if_pos hfits, hsend, List.take_succ_cons, List.forall_mem_cons]
        exact ⟨hfits, ih⟩
    · simp [leaving, hfits]

/-- With an open socket and as many buffers as universes everything hangs on the loop. -/
theorem sendSlots_counted {self : SacnAdapter} (h : Acceptable self.universes self.priority)
    (hopen : self.socket.isSome = true) {buffers : List (List UInt8)}
    (hcount : buffers.length = self.universes.length) (send : SendOutcomes) :
    ∃ scratch outcome, self.sendSlots buffers send =
        .ok ({ self with
            builder := { self.builder with scratch := scratch }
            sequence := if self.universes.length ≤ leaving send buffers
              then self.sequence + 1 else self.sequence },
          ((self.universes.zip buffers).map
            (datagram self.target self.builder self.sequence self.priority)).take
              (leaving send buffers), outcome) ∧
      SlotsOutcome send buffers outcome := by
  obtain ⟨socket, hsocket⟩ := Option.isSome_iff_exists.mp hopen
  have legal : ∀ pair ∈ self.universes.zip buffers, legalUniverse pair.1 = true :=
    fun pair hpair => h.legal _ (List.of_mem_zip hpair).1
  obtain ⟨scratch, outcome, hloop, houtcome⟩ := sendLoop_leaving self.target self.sequence
    h.priority_le legal self.builder send
  rw [List.map_snd_zip hcount.le] at hloop houtcome
  refine ⟨scratch, outcome, ?_, houtcome⟩
  have hall := houtcome.ok_iff
  have hle := leaving_le send buffers
  simp only [SacnAdapter.sendSlots, hsocket, hcount, ne_eq, not_true_eq_false, ↓reduceIte, hloop,
    ok_bind]
  cases outcome with
  | ok u =>
    rw [if_pos (by have := hall.mp rfl; omega)]
    rfl
  | error e =>
    rw [if_neg]
    · rfl
    · intro hfull
      cases hall.mpr (by omega)

theorem sendSlots_miscounted (self : SacnAdapter) {buffers : List (List UInt8)}
    (hcount : buffers.length ≠ self.universes.length) (send : SendOutcomes) :
    ∃ text, self.sendSlots buffers send = .ok (self, [], .error (.protocol text)) := by
  rw [SacnAdapter.sendSlots, if_pos hcount]
  exact ⟨_, rfl⟩

theorem sendSlots_closed {self : SacnAdapter} (hclosed : self.socket = none)
    {buffers : List (List UInt8)} (hcount : buffers.length = self.universes.length)
    (send : SendOutcomes) :
    self.sendSlots buffers send =
      .ok (self, [], .error (.connect "socket not open; call connect()")) := by
  rw [SacnAdapter.sendSlots, if_neg (not_not.mpr hcount), hclosed]
  rfl

theorem performPublic_of_sendSlots {self self' : SacnAdapter} {buffers : List (List UInt8)}
    {send : SendOutcomes} {sent : List Datagram} {outcome : Except AdapterError Unit}
    (h : self.sendSlots buffers send = .ok (self', sent, outcome)) :
    performPublic A self (.sendSlots buffers send) =
      .ok (self', { sent := sent, outcome := outcome }) := by
  simp only [performPublic, h, ok_bind]
  rfl

theorem performPublic_effect {self : SacnAdapter} (h : Acceptable self.universes self.priority)
    (c : PublicCall) :
    ∃ self' report, performPublic A self c = .ok (self', report) ∧
      PublicEffect A self c self' report := by
  have hpos := List.length_pos_iff.mpr h.nonempty
  cases c with
  | trait c =>
    obtain ⟨self', report, hperform, effect⟩ := perform_effect A h c
    refine ⟨self', report, hperform, effect.settings_eq, effect.socket_eq, ?_, ?_⟩
    · rw [effect.sequence_eq]
      refine if_congr ((served_eq_iff hpos self.socket.isSome c).trans ?_) rfl rfl
      simp [roundOf, Option.any_eq_true, Shot.round]
    · rw [packetsOf_sent A effect]
      cases hshot : shotOf self.universes.length self.socket.isSome c <;> simp [roundOf, hshot]
  | sendSlots buffers send =>
    by_cases hcount : buffers.length = self.universes.length
    · cases hsocket : self.socket with
      | none =>
        refine ⟨_, _, performPublic_of_sendSlots A (sendSlots_closed hsocket hcount send), rfl, ?_,
          ?_, ?_⟩
        · simp [socketAfterPublic]
        · simp [roundOf, hsocket]
        · simp [roundOf, hsocket, packetsOf]
      | some socket =>
        obtain ⟨scratch, outcome, hsend, -⟩ :=
          sendSlots_counted h (by simp [hsocket]) hcount send
        refine ⟨_, _, performPublic_of_sendSlots A hsend, rfl, ?_, ?_, ?_⟩
        · simp [socketAfterPublic]
        · simp [roundOf, hsocket, hcount]
        · simp only [roundOf, hsocket, hcount, Option.isSome_some, and_self, ↓reduceIte]
          exact packetsOf_datagrams self fits_of_leaving
    · obtain ⟨text, hsend⟩ := sendSlots_miscounted self hcount send
      refine ⟨_, _, performPublic_of_sendSlots A hsend, rfl, rfl, ?_, ?_⟩
      · simp [roundOf, hcount]
      · simp [roundOf, hcount, packetsOf]

/-! ## Whole runs -/

/-- The rounds of a run. -/
def publicRounds (n : Nat) : Bool → List PublicCall → List (Round UInt8)
  | _, [] => []
  | isOpen, c :: calls =>
    (roundOf A n isOpen c).toList ++ publicRounds n (socketAfterPublic isOpen c) calls

theorem PublicEffect.counted {self self' : SacnAdapter} {c : PublicCall} {report : Report}
    {full : Nat} (h : Counted full self) (effect : PublicEffect A self c self' report) :
    Counted (full + fullRounds self.universes.length
      (roundOf A self.universes.length self.socket.isSome c).toList) self' := by
  refine ⟨acceptable_of_settings effect.settings_eq h.acceptable, ?_⟩
  rw [effect.sequence_eq]
  cases roundOf A self.universes.length self.socket.isSome c with
  | none => exact h.sequence_eq
  | some r =>
    by_cases hfull : self.universes.length ≤ r.count
    · simpa [fullRounds, hfull] using counted_succ h.sequence_eq
    · simpa [fullRounds, hfull] using h.sequence_eq

theorem runPublic_packets (calls : List PublicCall) {a : SacnAdapter} {full : Nat}
    (h : Counted full a) :
    ∃ a' reports, runPublic A a calls = .ok (a', reports) ∧
      settings a' = settings a ∧
      a'.socket.isSome = calls.foldl socketAfterPublic a.socket.isSome ∧
      Counted (full + fullRounds a.universes.length
        (publicRounds A a.universes.length a.socket.isSome calls)) a' ∧
      packetsOf (reports.flatMap Report.sent) = log (a.universes.map UInt16.toNat) 256 full
        (publicRounds A a.universes.length a.socket.isSome calls) := by
  induction calls generalizing a full with
  | nil => exact ⟨a, [], rfl, rfl, rfl, h, rfl⟩
  | cons c calls ih =>
    obtain ⟨mid, report, hperform, effect⟩ := performPublic_effect A h.acceptable c
    obtain ⟨a', reports, hrun, hsettings, hsocket, hcounted, hpackets⟩ := ih (effect.counted A h)
    obtain ⟨hu, -⟩ := universes_of_settings effect.settings_eq
    rw [hu, effect.socket_eq] at hcounted hpackets
    refine ⟨a', report :: reports, ?_, hsettings.trans effect.settings_eq, ?_, ?_, ?_⟩
    · simp only [runPublic, hperform, ok_bind, hrun]
      rfl
    · rw [hsocket, effect.socket_eq]
      rfl
    · rw [publicRounds, fullRounds, List.countP_append, ← Nat.add_assoc]
      exact hcounted
    · rw [List.flatMap_cons, packetsOf_append, hpackets, publicRounds, log_append, List.length_map,
        effect.packets_eq]
      congr 1
      cases roundOf A a.universes.length a.socket.isSome c with
      | none => rfl
      | some r => simp [log, h.sequence_eq]

theorem complete_publicRounds {universes : List UInt16} (isOpen : Bool)
    (calls : List PublicCall) :
    Complete (universes.map UInt16.toNat) (publicRounds A universes.length isOpen calls) := by
  induction calls generalizing isOpen with
  | nil => exact List.forall_mem_nil _
  | cons c calls ih =>
    refine List.forall_mem_append.mpr ⟨fun r hr => ?_, ih _⟩
    rw [Option.mem_toList] at hr
    cases c with
    | trait c =>
      obtain ⟨shot, -, rfl⟩ := Option.map_eq_some_iff.mp hr
      simp [Shot.round]
    | sendSlots buffers send =>
      simp only [roundOf, Option.ite_none_right_eq_some, Option.some.injEq] at hr
      obtain ⟨⟨hcount, -⟩, rfl⟩ := hr
      simpa using hcount

section Built
variable {config : SacnAdapterBuilder} {freshCid : Uuid} {adapter : SacnAdapter}

theorem rounds_of_public_run (built : config.build freshCid = .ok (.ok adapter))
    (calls : List PublicCall) :
    ∃ a reports, runPublic A adapter calls = .ok (a, reports) ∧
      a.universes = config.universes ∧
      a.socket.isSome = calls.foldl socketAfterPublic false ∧
      Counted (fullRounds config.universes.length
        (publicRounds A config.universes.length false calls)) a ∧
      packetsOf (reports.flatMap Report.sent) = log (config.universes.map UInt16.toNat) 256 0
        (publicRounds A config.universes.length false calls) := by
  obtain ⟨-, huniverses, -, hnone, -⟩ := built_spec built
  obtain ⟨a, reports, hrun, hsettings, hsocket, hcounted, hpackets⟩ :=
    runPublic_packets A calls (counted_of_built built)
  have hclosed : adapter.socket.isSome = false := by rw [hnone]; rfl
  rw [huniverses, hclosed] at hcounted hpackets
  rw [Nat.zero_add] at hcounted
  rw [hclosed] at hsocket
  exact ⟨a, reports, hrun, (universes_of_settings hsettings).1.trans huniverses, hsocket, hcounted,
    hpackets⟩

/-- However renders and `send_slots` are mixed, and whatever buffers are handed in, no call
panics, and the counter counts the calls that reached every universe. A slot of a lenient
receiver shows the last buffer that reached its universe and was long enough to set it, a slot
of a strict one shows some such buffer or what it showed before. -/
theorem screen_shows_last_buffers (built : config.build freshCid = .ok (.ok adapter))
    (distinct : config.universes.Nodup) (calls : List PublicCall) (s : Screen Nat UInt8) :
    ∃ a reports, runPublic A adapter calls = .ok (a, reports) ∧
      let rs := publicRounds A config.universes.length false calls
      let sent := packetsOf (reports.flatMap Report.sent)
      a.nextSequence.toNat = fullRounds config.universes.length rs % 256 ∧
      (∀ i u, config.universes[i]? = some u → ∀ o,
        (s.hearAll false sent).cell u.toNat o =
          ((rs.filterMap (Round.drawn i o)).getLast?).getD (s.cell u.toNat o) ∧
        ((s.hearAll true sent).cell u.toNat o = s.cell u.toNat o ∨
          ∃ r ∈ rs, r.drawn i o = some ((s.hearAll true sent).cell u.toNat o))) ∧
      ∀ strict v, v ∉ config.universes.map UInt16.toNat →
        (s.hearAll strict sent).cell v = s.cell v := by
  obtain ⟨a, reports, hrun, -, -, hcounted, hpackets⟩ := rounds_of_public_run A built calls
  refine ⟨a, reports, hrun, ?_⟩
  rw [hpackets]
  refine ⟨hcounted.sequence_eq, ?_, fun strict v hv => (agree_hearAll_log hv).2⟩
  intro i u hu o
  have hnumber := getElem?_numbers hu
  have complete : Complete (config.universes.map UInt16.toNat)
      (publicRounds A config.universes.length false calls) := complete_publicRounds A false calls
  exact ⟨cell_log (nodup_numbers distinct) hnumber 256 0 complete s o,
    cell_of_some_round (nodup_numbers distinct) hnumber true 256 0 complete s o⟩

/-- A render, and a call whose second buffer is too long. -/
def mixedCalls : List PublicCall :=
  [.trait (.connect (.ok ⟨40000⟩)),
    .trait (.render onePixelFrame .asStored fun _ => .ok ()),
    .sendSlots SendSlots.overfull fun _ => .ok ()]

theorem screen_shows_last_buffers_mixed :
    ∃ adapter, twoUniverseBuilder.build zeroCid = .ok (.ok adapter) ∧
      ∃ a reports, runPublic (.exact ℚ) adapter mixedCalls = .ok (a, reports) ∧
        a.nextSequence.toNat = 1 ∧
        (blankScreen.hearAll false (packetsOf (reports.flatMap Report.sent))).cell 1 0 = 255 := by
  obtain ⟨adapter, built, -⟩ := build_accepts twoUniverse_acceptable zeroCid
  obtain ⟨a, reports, hrun, hsequence, hcell, -⟩ :=
    screen_shows_last_buffers (.exact ℚ) built (by decide) mixedCalls blankScreen
  have hfull : fullRounds twoUniverseBuilder.universes.length
      (publicRounds (.exact ℚ) twoUniverseBuilder.universes.length false mixedCalls) % 256 = 1 := by
    decide +kernel
  have hlast : ((publicRounds (.exact ℚ) twoUniverseBuilder.universes.length false
      mixedCalls).filterMap (Round.drawn 0 0)).getLast? = some 255 := by decide +kernel
  obtain ⟨hshown, -⟩ := hcell 0 1 rfl 0
  rw [hlast] at hshown
  rw [hfull] at hsequence
  exact ⟨adapter, built, a, reports, hrun, hsequence, hshown⟩

/-- What `send_slots` does after any run. Only a call that reaches every universe succeeds
and moves the counter. Otherwise nothing is sent, or the buffers before the first one that
is too long or whose send fails, and the error says which it was. -/
theorem send_slots_after_any_run (built : config.build freshCid = .ok (.ok adapter))
    (calls : List PublicCall) (buffers : List (List UInt8)) (send : SendOutcomes) :
    ∃ a reports a' report, runPublic A adapter calls = .ok (a, reports) ∧
      performPublic A a (.sendSlots buffers send) = .ok (a', report) ∧
      if buffers.length ≠ config.universes.length then
        a' = a ∧ report.sent = [] ∧ ∃ text, report.outcome = .error (.protocol text)
      else if calls.foldl socketAfterPublic false = false then
        a' = a ∧ report.sent = [] ∧
          report.outcome = .error (.connect "socket not open; call connect()")
      else
        packetsOf report.sent = Round.packets (config.universes.map UInt16.toNat)
          a.nextSequence.toNat { count := leaving send buffers, blocks := buffers } ∧
        SlotsOutcome send buffers report.outcome ∧
        a'.nextSequence = if report.outcome = .ok () then a.nextSequence + 1
          else a.nextSequence := by
  obtain ⟨a, reports, hrun, huniverses, hsocket, hcounted, -⟩ := rounds_of_public_run A built calls
  rw [← hsocket]
  rw [← huniverses]
  by_cases hcount : buffers.length = a.universes.length
  · cases hopen : a.socket with
    | none =>
      refine ⟨a, reports, _, _, hrun,
        performPublic_of_sendSlots A (sendSlots_closed hopen hcount send), ?_⟩
      rw [if_neg (not_not.mpr hcount), if_pos (by simp)]
      exact ⟨rfl, rfl, rfl⟩
    | some socket =>
      obtain ⟨scratch, outcome, hsend, houtcome⟩ :=
        sendSlots_counted hcounted.acceptable (by simp [hopen]) hcount send
      refine ⟨a, reports, _, _, hrun, performPublic_of_sendSlots A hsend, ?_⟩
      rw [if_neg (not_not.mpr hcount), if_neg (by simp)]
      refine ⟨packetsOf_datagrams a fits_of_leaving, houtcome, ?_⟩
      have hle := leaving_le send buffers
      refine if_congr ?_ rfl rfl
      rw [houtcome.ok_iff]
      omega
  · obtain ⟨text, hsend⟩ := sendSlots_miscounted a hcount send
    refine ⟨a, reports, _, _, hrun, performPublic_of_sendSlots A hsend, ?_⟩
    rw [if_pos hcount]
    exact ⟨rfl, rfl, text, rfl⟩

theorem send_slots_after_any_run_mixed :
    ∃ adapter, twoUniverseBuilder.build zeroCid = .ok (.ok adapter) ∧
      ∃ a reports a' report, runPublic (.exact ℚ) adapter mixedCalls = .ok (a, reports) ∧
        performPublic (.exact ℚ) a (.sendSlots SendSlots.overfull fun _ => .ok ()) =
          .ok (a', report) ∧
        SlotsOutcome (fun _ => .ok ()) SendSlots.overfull report.outcome := by
  obtain ⟨adapter, built, -⟩ := build_accepts twoUniverse_acceptable zeroCid
  obtain ⟨a, reports, a', report, hrun, hperform, hcontract⟩ := send_slots_after_any_run (.exact ℚ)
    built mixedCalls SendSlots.overfull fun _ => .ok ()
  rw [if_neg (by decide +kernel), if_neg (by decide)] at hcontract
  exact ⟨adapter, built, a, reports, a', report, hrun, hperform, hcontract.2.1⟩

end Built
end PublicCalls
