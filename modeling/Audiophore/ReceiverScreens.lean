import Audiophore.Screens
import Audiophore.SlotLayout
import Audiophore.WireAddresses

/-!
# What a receiver shows

A receiver keeps 512 slots for each universe. A packet sets the first slots of its universe,
and a short one leaves the rest alone. Two kinds of receiver are looked at: a lenient one
takes every packet, and a strict one discards a packet that repeats the last sequence number
it saw on the universe. After any run of an adapter, with any failing sends, each universe of
a lenient receiver shows the last render that reached it, and each universe of a strict one
shows some render that reached it.
-/

namespace ReceiverScreens

open AudiophoreCore RustExec ListChunks AdapterCore SacnPacket SacnReceiver SacnOutput SacnRender
open SlotLayout AdapterRuns AdapterGuarantees WireAddresses StepRuns Screens

variable (A : F32Arith)

/-! ## From datagrams to packets -/

def packetOf (d : Datagram) : Option (Packet Nat UInt8) :=
  (decode d.bytes).map fun r => { channel := r.univ, stamp := r.sequence, block := r.slots }

/-- What a receiver makes of the datagrams. -/
def packetsOf (sent : List Datagram) : List (Packet Nat UInt8) := sent.filterMap packetOf

theorem packetsOf_append (ds es : List Datagram) :
    packetsOf (ds ++ es) = packetsOf ds ++ packetsOf es := List.filterMap_append

/-- A render that had pixels and a socket: how many of its packets left the host. -/
structure Shot where
  pixels : List Rgb
  count : Nat

/-- The shot as a round that serves `n` universes. -/
def Shot.round (n : Nat) (shot : Shot) : Round UInt8 :=
  { count := shot.count, blocks := slotBuffers A shot.pixels n }

def shotOf (n : Nat) (isOpen : Bool) : AdapterCall → Option Shot
  | .render frame order send =>
    if isOpen = true then
      (firstPixels frame order).map fun pixels => { pixels := pixels, count := delivered send n }
    else none
  | _ => none

/-- The shots of a run. -/
def shots (n : Nat) : Bool → List AdapterCall → List Shot
  | _, [] => []
  | isOpen, c :: calls => (shotOf n isOpen c).toList ++ shots n (socketAfter isOpen c) calls

/-- The rounds of a run. -/
def rounds (n : Nat) (isOpen : Bool) (calls : List AdapterCall) : List (Round UInt8) :=
  (shots n isOpen calls).map (Shot.round A n)

/-- The byte for slot `o` of universe number `i`: channel `o % 3` of a pixel. -/
def slotAt (pixels : List Rgb) (i o : Nat) : Option UInt8 :=
  if o < 510 then pixels[170 * i + o / 3]?.bind fun px => (pixelBytes A px)[o % 3]? else none

theorem getElem?_slotBuffers_slotAt (pixels : List Rgb) {n i : Nat} (hi : i < n) (o : Nat) :
    ((slotBuffers A pixels n)[i]?.bind fun block => block[o]?) = slotAt A pixels i o := by
  have hmax : maxRgbPixelsPerUniverse = 170 := rfl
  rw [getElem?_slotBuffers A hi, Option.bind_some, slotAt]
  split
  · rename_i ho
    have hj : o / 3 < maxRgbPixelsPerUniverse := by omega
    have hindex := getElem?_windowBytes A pixels i hj (Nat.mod_lt o (by decide : 0 < 3))
    rwa [Nat.div_add_mod, hmax] at hindex
  · rw [List.getElem?_eq_none_iff, length_flatMap_pixelBytes, length_window]
    omega

/-- A slot is a byte of some pixel. -/
theorem pixel_of_mem_slotBuffers {pixels : List Rgb} {n : Nat} {slots : List UInt8} {b : UInt8}
    (hslots : slots ∈ slotBuffers A pixels n) (hb : b ∈ slots) :
    ∃ px ∈ pixels, b ∈ pixelBytes A px := by
  have hmem : b ∈ (slotBuffers A pixels n).flatten := List.mem_flatten.mpr ⟨slots, hslots, hb⟩
  rw [flatten_slotBuffers] at hmem
  obtain ⟨px, hpx, hbyte⟩ := List.mem_flatMap.mp hmem
  exact ⟨px, List.mem_of_mem_take hpx, hbyte⟩

theorem drawn_round (shot : Shot) {n i : Nat} (hi : i < n) (o : Nat) :
    (shot.round A n).drawn i o = if i < shot.count then slotAt A shot.pixels i o else none := by
  rw [Round.drawn, ← getElem?_slotBuffers_slotAt A shot.pixels hi]
  rfl

theorem complete_rounds {n : Nat} {universes : List UInt16} (hn : universes.length = n)
    (isOpen : Bool) (calls : List AdapterCall) :
    Complete (universes.map UInt16.toNat) (rounds A n isOpen calls) := by
  intro r hr
  obtain ⟨shot, -, rfl⟩ := List.mem_map.mp hr
  simp [Shot.round, hn]

/-! ## The packets of a run -/

/-- Buffers that fit, as a receiver sees them. -/
theorem packetsOf_datagrams (a : SacnAdapter) {buffers : List (List UInt8)} {k : Nat}
    (fits : ∀ slots ∈ buffers.take k, slots.length ≤ 512) :
    packetsOf (((a.universes.zip buffers).map
        (datagram a.target a.builder a.sequence a.priority)).take k) =
      Round.packets (a.universes.map UInt16.toNat) a.sequence.toNat
        { count := k, blocks := buffers } := by
  have hpacket : ∀ pair ∈ (a.universes.zip buffers).take k,
      packetOf (datagram a.target a.builder a.sequence a.priority pair) =
        some { channel := pair.1.toNat, stamp := a.sequence.toNat, block := pair.2 } := by
    intro pair hpair
    rw [List.zip, List.take_zipWith] at hpair
    have hslots := fits _ (List.of_mem_zip hpair).2
    simp only [packetOf, datagram, decode_dataPacket a.builder pair.1 a.sequence a.priority pair.2
      hslots, Option.map_some, readBack]
  rw [packetsOf, ← List.map_take, List.filterMap_map, Round.packets, List.zip_map_left,
    List.map_map, ← List.map_take]
  calc _ = ((a.universes.zip buffers).take k).filterMap (fun pair => some
          { channel := pair.1.toNat, stamp := a.sequence.toNat, block := pair.2 }) :=
        List.filterMap_congr hpacket
    _ = ((a.universes.zip buffers).take k).map (fun pair =>
          { channel := pair.1.toNat, stamp := a.sequence.toNat, block := pair.2 }) :=
        congrFun List.filterMap_eq_map' _
    _ = _ := by rfl

theorem packetsOf_packets (a : SacnAdapter) (shot : Shot) :
    packetsOf ((packets A a shot.pixels).take shot.count) =
      (shot.round A a.universes.length).packets (a.universes.map UInt16.toNat)
        a.sequence.toNat := by
  refine packetsOf_datagrams a fun slots hslots => ?_
  have hle := (length_of_mem_slotBuffers A (List.mem_of_mem_take hslots)).1
  omega

/-- A call sends the packets of its shot, if it is one. -/
theorem packetsOf_sent {a a' : SacnAdapter} {c : AdapterCall} {report : Report}
    (effect : Effect A a c a' report) :
    packetsOf report.sent = match shotOf a.universes.length a.socket.isSome c with
      | none => []
      | some shot => (shot.round A a.universes.length).packets (a.universes.map UInt16.toNat)
          a.sequence.toNat := by
  rw [effect.sent_eq]
  cases c with
  | connect bind => rfl
  | disconnect => rfl
  | render frame order send =>
    cases hpixels : firstPixels frame order with
    | none => simp [served, planned, shotOf, hpixels, packetsOf]
    | some pixels =>
      cases hsocket : a.socket.isSome with
      | false => simp [served, shotOf, packetsOf]
      | true =>
        simp only [served, planned, shotOf, hpixels, Option.isSome_some, and_self, ↓reduceIte,
          Option.map_some, Option.getD_some]
        exact packetsOf_packets A a ⟨pixels, _⟩

/-- The counter moves on when the shot was full. -/
theorem served_eq_iff {n : Nat} (hpos : 0 < n) (isOpen : Bool) (c : AdapterCall) :
    served n isOpen c = n ↔ ∃ shot, shotOf n isOpen c = some shot ∧ n ≤ shot.count := by
  cases c with
  | connect bind => simp [served, shotOf, hpos.ne]
  | disconnect => simp [served, shotOf, hpos.ne]
  | render frame order send =>
    have hle := delivered_le send n
    cases hpixels : firstPixels frame order with
    | none => simp [served, shotOf, hpixels, hpos.ne]
    | some pixels =>
      cases isOpen with
      | false => simp [served, shotOf, hpos.ne]
      | true =>
        simp only [served, shotOf, hpixels, Option.isSome_some, and_self, ↓reduceIte,
          Option.map_some, Option.some.injEq, exists_eq_left']
        omega

theorem runCalls_packets (calls : List AdapterCall) {a : SacnAdapter} {full : Nat}
    (h : Counted full a) :
    ∃ a' reports, runCalls A a calls = .ok (a', reports) ∧
      settings a' = settings a ∧
      a'.socket.isSome = calls.foldl socketAfter a.socket.isSome ∧
      Counted (full + fullRounds a.universes.length
        (rounds A a.universes.length a.socket.isSome calls)) a' ∧
      packetsOf (reports.flatMap Report.sent) = log (a.universes.map UInt16.toNat) 256 full
        (rounds A a.universes.length a.socket.isSome calls) := by
  induction calls generalizing a full with
  | nil => exact ⟨a, [], rfl, rfl, rfl, h, rfl⟩
  | cons c calls ih =>
    obtain ⟨mid, report, hperform, effect⟩ := perform_effect A h.acceptable c
    obtain ⟨a', reports, hrun, hsettings, hsocket, hcounted, hpackets⟩ :=
      ih (effect.counted A h)
    obtain ⟨hu, -⟩ := universes_of_settings effect.settings_eq
    rw [hu, effect.socket_eq] at hcounted hpackets
    have hpos := List.length_pos_iff.mpr h.acceptable.nonempty
    have hsent := packetsOf_sent A effect
    have hfull := served_eq_iff hpos a.socket.isSome c
    refine ⟨a', report :: reports, ?_, hsettings.trans effect.settings_eq, ?_, ?_, ?_⟩
    · simp only [runCalls, hperform, ok_bind, hrun]
      rfl
    · rw [hsocket, effect.socket_eq]
      rfl
    · cases hshot : shotOf a.universes.length a.socket.isSome c with
      | none =>
        rw [if_neg (by simp [hfull, hshot])] at hcounted
        simpa [rounds, shots, hshot] using hcounted
      | some shot =>
        have hcount : full + fullRounds a.universes.length
            (rounds A a.universes.length a.socket.isSome (c :: calls)) =
            (if served a.universes.length a.socket.isSome c = a.universes.length
              then full + 1 else full) + fullRounds a.universes.length
              (rounds A a.universes.length (socketAfter a.socket.isSome c) calls) := by
          simp only [hfull, hshot, Option.some.injEq, exists_eq_left', rounds, shots,
            Option.toList_some, List.singleton_append, List.map_cons, fullRounds,
            List.countP_cons, Shot.round, decide_eq_true_eq]
          split <;> omega
        rw [hcount]
        exact hcounted
    · rw [List.flatMap_cons, packetsOf_append, hsent, hpackets]
      cases hshot : shotOf a.universes.length a.socket.isSome c with
      | none =>
        rw [if_neg (by simp [hfull, hshot])]
        simp [rounds, shots, hshot]
      | some shot =>
        simp only [rounds, shots, hshot, Option.toList_some, List.singleton_append, List.map_cons,
          log, h.sequence_eq, List.length_map, hfull, Option.some.injEq, exists_eq_left',
          Shot.round]

section Built
variable {config : SacnAdapterBuilder} {freshCid : Uuid} {adapter : SacnAdapter}

/-- The packets of a run, from the configuration and the calls alone. -/
theorem packets_of_run (built : config.build freshCid = .ok (.ok adapter))
    (calls : List AdapterCall) :
    ∃ a reports, runCalls A adapter calls = .ok (a, reports) ∧
      a.universes = config.universes ∧
      a.socket.isSome = calls.foldl socketAfter false ∧
      Counted (fullRounds config.universes.length
        (rounds A config.universes.length false calls)) a ∧
      packetsOf (reports.flatMap Report.sent) = log (config.universes.map UInt16.toNat) 256 0
        (rounds A config.universes.length false calls) := by
  obtain ⟨-, huniverses, -, hnone, -⟩ := built_spec built
  obtain ⟨a, reports, hrun, hsettings, hsocket, hcounted, hpackets⟩ :=
    runCalls_packets A calls (counted_of_built built)
  have hclosed : adapter.socket.isSome = false := by rw [hnone]; rfl
  rw [huniverses, hclosed] at hcounted hpackets
  rw [Nat.zero_add] at hcounted
  rw [hclosed] at hsocket
  exact ⟨a, reports, hrun, (universes_of_settings hsettings).1.trans huniverses, hsocket, hcounted,
    hpackets⟩

theorem nodup_numbers {universes : List UInt16} (distinct : universes.Nodup) :
    (universes.map UInt16.toNat).Nodup := distinct.map fun _ _ => UInt16.toNat.inj

theorem getElem?_numbers {universes : List UInt16} {i : Nat} {u : UInt16}
    (hu : universes[i]? = some u) : (universes.map UInt16.toNat)[i]? = some u.toNat := by
  rw [List.getElem?_map, hu, Option.map_some]

/-! ## The last render that reached a universe -/

/-- After any run of an adapter, whatever sends fail, a slot of a lenient receiver shows the
last render that reached its universe and was long enough to set it. Other universes are not
touched, on either kind of receiver. -/
theorem screen_shows_last_renders (built : config.build freshCid = .ok (.ok adapter))
    (distinct : config.universes.Nodup) (calls : List AdapterCall) (s : Screen Nat UInt8) :
    ∃ a reports, runCalls A adapter calls = .ok (a, reports) ∧
      let sent := packetsOf (reports.flatMap Report.sent)
      (∀ i u, config.universes[i]? = some u → ∀ o, (s.hearAll false sent).cell u.toNat o =
        (((shots config.universes.length false calls).filterMap fun shot =>
          if i < shot.count then slotAt A shot.pixels i o else none).getLast?).getD
            (s.cell u.toNat o)) ∧
      ∀ strict v, v ∉ config.universes.map UInt16.toNat →
        (s.hearAll strict sent).cell v = s.cell v := by
  obtain ⟨a, reports, hrun, -, -, -, hpackets⟩ := packets_of_run A built calls
  refine ⟨a, reports, hrun, ?_⟩
  rw [hpackets]
  refine ⟨?_, fun strict v hv => (agree_hearAll_log hv).2⟩
  intro i u hu o
  obtain ⟨hi, -⟩ := List.getElem?_eq_some_iff.mp hu
  rw [cell_log (nodup_numbers distinct) (getElem?_numbers hu) 256 0
    (complete_rounds A rfl false calls), rounds, List.filterMap_map]
  congr 3
  exact funext fun shot => drawn_round A shot hi o

theorem uniform_rounds {n i : Nat} (hi : i < n) {isOpen : Bool} {calls : List AdapterCall}
    {size : Nat} (same_size : ∀ shot ∈ shots n isOpen calls, shot.pixels.length = size) :
    Uniform i (rounds A n isOpen calls) := by
  refine ⟨3 * min maxRgbPixelsPerUniverse (size - maxRgbPixelsPerUniverse * i), ?_⟩
  intro r hr
  obtain ⟨shot, hshot, rfl⟩ := List.mem_map.mp hr
  refine ⟨_, getElem?_slotBuffers A hi, ?_⟩
  rw [length_flatMap_pixelBytes, length_window, same_size shot hshot]

/-- Universe number `i` shows shot `k` as a whole, counted from 1, or nothing new. -/
def ShowsShot (i k : Nat) (shots : List Shot) (before after : Nat → UInt8) : Prop :=
  (k = 0 ∧ after = before) ∨
    ∃ m shot, k = m + 1 ∧ shots[m]? = some shot ∧ i < shot.count ∧
      ∀ o, after o = (slotAt A shot.pixels i o).getD (before o)

/-- What universe number `i` shows: nothing new, or one render that reached it, which is the
last one on a lenient receiver. -/
theorem exists_shown_shot {universes : List UInt16} (distinct : universes.Nodup) {i : Nat}
    {u : UInt16} (hu : universes[i]? = some u) {isOpen : Bool} {calls : List AdapterCall}
    {size : Nat}
    (same_size : ∀ shot ∈ shots universes.length isOpen calls, shot.pixels.length = size)
    (strict : Bool) (s : Screen Nat UInt8) :
    let rs := rounds A universes.length isOpen calls
    ∃ k, (strict = false → k = age i rs) ∧
      ShowsShot A i k (shots universes.length isOpen calls) (s.cell u.toNat)
        ((s.hearAll strict (log (universes.map UInt16.toNat) 256 0 rs)).cell u.toNat) := by
  intro rs
  obtain ⟨hi, -⟩ := List.getElem?_eq_some_iff.mp hu
  obtain ⟨k, hshows, hage⟩ := exists_shown (nodup_numbers distinct) (getElem?_numbers hu) strict
    256 0 (complete_rounds A rfl isOpen calls) (uniform_rounds A hi same_size) s
  refine ⟨k, hage, ?_⟩
  cases hshows with
  | nothing hsame => exact .inl ⟨rfl, hsame⟩
  | @round m r hr hserved hcell =>
    simp only [rounds, List.getElem?_map, Option.map_eq_some_iff] at hr
    obtain ⟨shot, hshot, rfl⟩ := hr
    refine .inr ⟨m, shot, rfl, hshot, hserved, fun o => ?_⟩
    rw [hcell, ← getElem?_slotBuffers_slotAt A shot.pixels hi o]
    rfl

/-- A complete render, as a round that serves `n` universes. -/
def completeRound (n : Nat) (pixels : List Rgb) : Round UInt8 := Shot.round A n ⟨pixels, n⟩

/-- What a complete render of a connected adapter sends. -/
theorem packets_of_complete_render {a a' : SacnAdapter} {full : Nat} (h : Counted full a)
    (hopen : a.socket.isSome = true) {frame : ResolvedFrame} {order : IterOrder}
    {pixels : List Rgb} (payload : firstPixels frame order = some pixels) {send : SendOutcomes}
    (succeed : ∀ k, send k = .ok ()) {report : Report}
    (effect : Effect A a (.render frame order send) a' report) :
    Counted (full + 1) a' ∧
      packetsOf report.sent = (completeRound A a.universes.length pixels).packets
        (a.universes.map UInt16.toNat) (full % 256) := by
  have hserved : served a.universes.length a.socket.isSome (.render frame order send) =
      a.universes.length := by
    rw [served, if_pos ⟨hopen, by simp [payload]⟩]
    exact delivered_of_ok succeed _
  have hcounted := effect.counted A h
  rw [if_pos hserved] at hcounted
  have hsent := packetsOf_sent A effect
  simp only [shotOf, hopen, payload, ↓reduceIte, Option.map_some, delivered_of_ok succeed,
    h.sequence_eq] at hsent
  exact ⟨hcounted, hsent⟩

/-- Two complete renders in a row, with stamps that differ by one, show the second one. -/
theorem shown_after_two_renders {universes : List UInt16} (distinct : universes.Nodup) {i : Nat}
    {u : UInt16} (hu : universes[i]? = some u) (full : Nat) (pixels pixels' : List Rgb)
    (strict : Bool) (s : Screen Nat UInt8) (o : Nat) :
    ((s.hearAll strict ((completeRound A universes.length pixels).packets
        (universes.map UInt16.toNat) (full % 256))).hearAll strict
        ((completeRound A universes.length pixels').packets (universes.map UInt16.toNat)
          ((full + 1) % 256))).cell u.toNat o =
      (slotAt A pixels' i o).getD
        ((s.hearAll strict ((completeRound A universes.length pixels).packets
        (universes.map UInt16.toNat) (full % 256))).cell u.toNat o) := by
  obtain ⟨hi, -⟩ := List.getElem?_eq_some_iff.mp hu
  have hfits : ∀ px, (completeRound A universes.length px).blocks.length =
      (universes.map UInt16.toNat).length := by simp [completeRound, Shot.round]
  have hfull : ∀ px, (universes.map UInt16.toNat).length ≤
      (completeRound A universes.length px).count := by simp [completeRound, Shot.round]
  rw [shown_after_two_full_rounds (nodup_numbers distinct) (getElem?_numbers hu)
    (by decide : 1 < 256) full (hfits pixels) (hfits pixels') (hfull pixels) (hfull pixels'),
    ← getElem?_slotBuffers_slotAt A pixels' hi o]
  rfl

/-- A slot beyond the pixels is left as it is. -/
theorem untouched_by_complete_render {universes : List UInt16} (distinct : universes.Nodup)
    {i : Nat} {u : UInt16} (hu : universes[i]? = some u) (full : Nat) {pixels : List Rgb} {o : Nat}
    (hdark : slotAt A pixels i o = none) (strict : Bool) (s : Screen Nat UInt8) :
    (s.hearAll strict ((completeRound A universes.length pixels).packets
      (universes.map UInt16.toNat) (full % 256))).cell u.toNat o = s.cell u.toNat o := by
  obtain ⟨hi, -⟩ := List.getElem?_eq_some_iff.mp hu
  have complete : Complete (universes.map UInt16.toNat)
      [completeRound A universes.length pixels] := by
    simp [Complete, completeRound, Shot.round]
  have hshown := cell_of_some_round (nodup_numbers distinct) (getElem?_numbers hu) strict 256 full
    complete s o
  rw [log, log, List.append_nil] at hshown
  refine hshown.resolve_right ?_
  rintro ⟨r, hr, hdrawn⟩
  obtain rfl := List.mem_singleton.mp hr
  rw [completeRound, drawn_round A _ hi, hdark, ite_self] at hdrawn
  cases hdrawn

/-- The buffers that `partition_pixels` promises are those that leave the host, in order and
up to the first failing send. -/
theorem partitionPixels_is_sent (built : config.build freshCid = .ok (.ok adapter))
    {calls : List AdapterCall} (connected : Since Connected Disconnected calls)
    (frame : ResolvedFrame) (order : IterOrder) {pixels : List Rgb}
    (payload : firstPixels frame order = some pixels) (send : SendOutcomes) :
    ∃ a reports a' report buffers, runCalls A adapter calls = .ok (a, reports) ∧
      perform A a (.render frame order send) = .ok (a', report) ∧
      a.partitionPixels A pixels = .ok buffers ∧
      (packetsOf report.sent).map Packet.block =
        buffers.take (delivered send config.universes.length) := by
  obtain ⟨a, reports, hrun, huniverses, hsocket, hcounted, -⟩ := packets_of_run A built calls
  obtain ⟨a', report, hperform, effect⟩ :=
    perform_effect A hcounted.acceptable (.render frame order send)
  have hopen : a.socket.isSome = true := hsocket.trans ((socket_since calls).mpr connected)
  have hsent := packetsOf_sent A effect
  simp only [shotOf, hopen, payload, ↓reduceIte, Option.map_some] at hsent
  refine ⟨a, reports, a', report, _, hrun, hperform, partitionRgb_eq A pixels _, ?_⟩
  rw [hsent, Round.packets, List.map_take, List.map_map, huniverses]
  have hblocks : ((config.universes.map UInt16.toNat).zip
      (slotBuffers A pixels config.universes.length)).map Prod.snd =
        slotBuffers A pixels config.universes.length := List.map_snd_zip (by simp)
  exact congrArg (List.take _) hblocks

end Built

/-- A screen that has seen nothing yet. -/
def blankScreen : Screen Nat UInt8 := { seen := fun _ => none, cell := fun _ _ => 9 }

theorem connected_tornCalls : Since Connected Disconnected tornCalls :=
  ⟨[], _, _, rfl, trivial, by simp [Disconnected]⟩

/-- The first universe is white, the second one still black, and the third one as before. -/
theorem screen_shows_last_renders_torn :
    ∃ adapter, twoUniverseBuilder.build zeroCid = .ok (.ok adapter) ∧
      ∃ a reports, runCalls (.exact ℚ) adapter tornCalls = .ok (a, reports) ∧
        let t := blankScreen.hearAll false (packetsOf (reports.flatMap Report.sent))
        t.cell 1 0 = 255 ∧ t.cell 2 0 = 0 ∧ t.cell 3 0 = 9 := by
  obtain ⟨adapter, built, -⟩ := build_accepts twoUniverse_acceptable zeroCid
  obtain ⟨a, reports, hrun, hcell, hother⟩ :=
    screen_shows_last_renders (.exact ℚ) built (by decide) tornCalls blankScreen
  refine ⟨adapter, built, a, reports, hrun, (hcell 0 1 rfl 0).trans ?_,
    (hcell 1 2 rfl 0).trans ?_, congrFun (hother false 3 (by decide)) 0⟩
  · decide +kernel
  · decide +kernel

/-- Two buffers are promised for a strip of 171 pixels. The send of the second one fails. -/
theorem partitionPixels_is_sent_torn :
    ∃ adapter, twoUniverseBuilder.build zeroCid = .ok (.ok adapter) ∧
      ∃ a reports a' report buffers,
        runCalls (.exact ℚ) adapter tornCalls = .ok (a, reports) ∧
        perform (.exact ℚ) a (.render (greyFrame 171 (.fin 1)) .asStored secondFails) =
          .ok (a', report) ∧
        a.partitionPixels (.exact ℚ) (greyPixels 171 (.fin 1)) = .ok buffers ∧
        (packetsOf report.sent).map Packet.block = buffers.take 1 := by
  obtain ⟨adapter, built, -⟩ := build_accepts twoUniverse_acceptable zeroCid
  obtain ⟨a, reports, a', report, buffers, hrun, hperform, hbuffers, hsent⟩ :=
    partitionPixels_is_sent (.exact ℚ) built connected_tornCalls (greyFrame 171 (.fin 1)) .asStored
      rfl secondFails
  exact ⟨adapter, built, a, reports, a', report, buffers, hrun, hperform, hbuffers, hsent⟩

/-! ## Several sources on one wire -/

end ReceiverScreens
