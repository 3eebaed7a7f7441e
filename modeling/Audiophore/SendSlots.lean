import Audiophore.AdapterGuarantees

/-!
# Slot buffers that do not fit

Buffers handed to `send_slots` by a caller may have any number and any lengths. The
count is checked before anything is sent, the lengths one at a time: a call that ends
with a protocol error has sent the buffers before the first one that is too long.
-/

namespace SendSlots

open AudiophoreCore RustExec AdapterCore SacnPacket SacnOutput SacnRender AdapterRuns
open AdapterGuarantees

/-- A buffer that one packet can carry. -/
def fits (pair : UInt16 × List UInt8) : Bool := pair.2.length ≤ maxSlotsPerUniverse

/-- Left by a protocol error, the loop has sent every pair before the first unfit one. -/
theorem sendLoop_protocol (target : SocketAddr) (sequence : UInt8) {priority : UInt8}
    (hpriority : priority ≤ 200) {pairs : List (UInt16 × List UInt8)}
    (legal : ∀ pair ∈ pairs, legalUniverse pair.1 = true) {builder builder' : PacketBuilder}
    {send : SendOutcomes} {sent : List Datagram} {text : String}
    (h : sendLoop target sequence priority builder send pairs =
      .ok (builder', sent, .error (.protocol text))) :
    (∃ pair ∈ pairs, fits pair = false) ∧
      sent = (pairs.takeWhile fits).map (datagram target builder sequence priority) := by
  induction pairs generalizing builder send sent with
  | nil =>
    cases h
  | cons pair rest ih =>
    obtain ⟨univ, slots⟩ := pair
    have hlegal : legalUniverse univ = true := legal (univ, slots) (List.mem_cons_self ..)
    have hrest : ∀ pair ∈ rest, legalUniverse pair.1 = true :=
      fun pair hp => legal pair (List.mem_cons_of_mem _ hp)
    by_cases hfits : fits (univ, slots) = true
    · have hslots : Encodable univ priority slots :=
        ⟨hlegal, hpriority, by simpa [fits] using hfits⟩
      simp only [sendLoop, encode_ok builder sequence hslots, ok_bind] at h
      cases hsend : send 0 with
      | error e =>
        rw [hsend] at h
        cases h
      | ok u =>
        simp only [hsend] at h
        cases hloop : sendLoop target sequence priority
            { builder with scratch := dataPacket builder univ sequence priority slots }
            (fun i => send (i + 1)) rest with
        | error panic =>
          rw [hloop] at h
          cases h
        | ok result =>
          obtain ⟨after, sentRest, outcome⟩ := result
          rw [hloop] at h
          cases h
          obtain ⟨⟨bad, hbad, hunfit⟩, hsent⟩ := ih hrest hloop
          constructor
          · exact ⟨bad, List.mem_cons_of_mem _ hbad, hunfit⟩
          · rw [List.takeWhile_cons_of_pos hfits, List.map_cons, hsent]
            rfl
    · have hunfit : fits (univ, slots) = false := by simpa using hfits
      have hslots : ¬Encodable univ priority slots := by
        rintro ⟨-, -, hslots⟩
        exact hfits (by simpa [fits] using hslots)
      obtain ⟨e, he⟩ := encode_err builder sequence hslots
      simp only [sendLoop, he, ok_bind] at h
      cases h
      constructor
      · exact ⟨(univ, slots), List.mem_cons_self .., hunfit⟩
      · rw [List.takeWhile_cons_of_neg (by simp [hunfit])]
        rfl

/-- A call that ends with a protocol error leaves the counter alone. It has sent nothing
when the number of buffers is wrong, and otherwise the buffers before the first one of
more than 512 bytes. -/
theorem protocol_error_sends_leading_buffers {config : SacnAdapterBuilder} {freshCid : Uuid}
    {adapter : SacnAdapter} (built : config.build freshCid = .ok (.ok adapter))
    {a a' : SacnAdapter} (same : settings a = settings adapter) {buffers : List (List UInt8)}
    {send : SendOutcomes} {sent : List Datagram} {text : String}
    (h : a.sendSlots buffers send = .ok (a', sent, .error (.protocol text))) :
    a'.nextSequence = a.nextSequence ∧
      (buffers.length ≠ a.universes.length → sent = []) ∧
      (buffers.length = a.universes.length →
        (∃ slots ∈ buffers, 512 < slots.length) ∧
        sent = ((a.universes.zip buffers).takeWhile fun pair => pair.2.length ≤ 512).map
          (datagram a.target a.builder a.sequence a.priority)) := by
  have haccept := acceptable_of_settings same (built_spec built).1
  unfold SacnAdapter.sendSlots at h
  by_cases hcount : buffers.length = a.universes.length
  · rw [if_neg (not_not.mpr hcount)] at h
    cases hsocket : a.socket with
    | none =>
      rw [hsocket] at h
      cases h
    | some socket =>
      simp only [hsocket] at h
      cases hloop : sendLoop a.target a.sequence a.priority a.builder send
          (a.universes.zip buffers) with
      | error panic =>
        rw [hloop] at h
        cases h
      | ok result =>
        obtain ⟨builder, sentLoop, outcome⟩ := result
        rw [hloop] at h
        cases outcome with
        | ok u => cases h
        | error e =>
          cases h
          have legal : ∀ pair ∈ a.universes.zip buffers, legalUniverse pair.1 = true :=
            fun pair hpair => haccept.legal _ (List.of_mem_zip hpair).1
          obtain ⟨⟨pair, hpair, hunfit⟩, hsent⟩ :=
            sendLoop_protocol a.target a.sequence haccept.priority_le legal hloop
          refine ⟨rfl, fun hne => absurd hcount hne, fun _ => ⟨⟨pair.2, ?_, ?_⟩, hsent⟩⟩
          · exact (List.of_mem_zip hpair).2
          · exact not_le.mp (of_decide_eq_false hunfit)
  · rw [if_pos hcount] at h
    cases h
    exact ⟨rfl, fun _ => rfl, fun heq => absurd heq hcount⟩

/-- A buffer for universe 1, and one byte too many for universe 2. -/
def overfull : List (List UInt8) := [[255], List.replicate 513 0]

theorem overfull_outcome {a : SacnAdapter} (universes : a.universes = [1, 2])
    (priority : a.priority = 100) (hsocket : a.socket.isSome = true) :
    ∃ a' text, a.sendSlots overfull (fun _ => .ok ()) =
      .ok (a', [datagram a.target a.builder a.sequence 100 (1, [255])],
        .error (.protocol text)) := by
  obtain ⟨socket, hsocket⟩ := Option.isSome_iff_exists.mp hsocket
  have hshort : Encodable 1 100 [255] := (encodable_iff _ _ _).mpr (by decide)
  have hfirst := encode_ok a.builder a.sequence hshort
  have hlong : ¬Encodable 2 100 (List.replicate 513 0) := by
    rintro ⟨-, -, hslots⟩
    rw [List.length_replicate] at hslots
    exact absurd hslots (by decide)
  obtain ⟨e, hsecond⟩ := encode_err ⟨a.builder.cid, a.builder.sourceName,
    dataPacket a.builder 1 a.sequence 100 [255]⟩ a.sequence hlong
  refine ⟨{ a with builder := ⟨a.builder.cid, a.builder.sourceName,
    dataPacket a.builder 1 a.sequence 100 [255]⟩ }, e.text, ?_⟩
  simp only [SacnAdapter.sendSlots, universes, priority, hsocket, overfull, List.zip_cons_cons,
    List.length_cons, List.length_nil, ne_eq, not_true_eq_false, if_false, sendLoop, hfirst,
    hsecond, ok_bind]
  rfl

theorem protocol_error_sends_leading_buffers_overfull :
    ∃ adapter, twoUniverseBuilder.build zeroCid = .ok (.ok adapter) ∧
      ∃ a' sent text, (adapter.connect (.ok ⟨40000⟩)).1.sendSlots overfull (fun _ => .ok ()) =
        .ok (a', sent, .error (.protocol text)) ∧ a'.nextSequence = adapter.nextSequence := by
  obtain ⟨adapter, built, huniverses, hpriority, -⟩ := build_accepts twoUniverse_acceptable zeroCid
  obtain ⟨a', text, h⟩ := overfull_outcome (a := (adapter.connect (.ok ⟨40000⟩)).1) huniverses
    hpriority rfl
  have same : settings (adapter.connect (.ok ⟨40000⟩)).1 = settings adapter := rfl
  exact ⟨adapter, built, a', _, text, h, (protocol_error_sends_leading_buffers built same h).1⟩

/-- The first buffer has left when the second is found too long. -/
theorem overfull_leaves_a_packet_behind :
    ∃ adapter, twoUniverseBuilder.build zeroCid = .ok (.ok adapter) ∧
      ∃ a' sent text, (adapter.connect (.ok ⟨40000⟩)).1.sendSlots overfull (fun _ => .ok ()) =
        .ok (a', sent, .error (.protocol text)) ∧ sent.length = 1 := by
  obtain ⟨adapter, built, huniverses, hpriority, -⟩ := build_accepts twoUniverse_acceptable zeroCid
  obtain ⟨a', text, h⟩ := overfull_outcome (a := (adapter.connect (.ok ⟨40000⟩)).1) huniverses
    hpriority rfl
  exact ⟨adapter, built, a', _, text, h, rfl⟩

end SendSlots
