import Audiophore.AdapterGuarantees

/-!
# Where the pixels of a render land

A receiver writes every slot it is sent to an address, a universe and an offset. The
writes of a render come in pixel order, three for each pixel. They hit different
addresses as long as the universes in use are different.
-/

namespace WireAddresses

open AudiophoreCore RustExec ListChunks AdapterCore SacnPacket SacnReceiver SacnOutput
open SacnRender AdapterRuns AdapterGuarantees StepRuns

variable (A : F32Arith)

structure SlotWrite where
  univ : Nat
  offset : Nat
  value : UInt8
  deriving DecidableEq

def SlotWrite.address (w : SlotWrite) : Nat × Nat := (w.univ, w.offset)

/-- The slots a datagram writes, in order. -/
def slotWrites (d : Datagram) : List SlotWrite :=
  match decode d.bytes with
  | some r => r.slots.mapIdx fun o value => { univ := r.univ, offset := o, value := value }
  | none => []

def wireWrites (sent : List Datagram) : List SlotWrite := sent.flatMap slotWrites

/-- The address that channel `c` of pixel `k` is written to. -/
def pixelAddress (sent : List Datagram) (k c : Nat) : Option (Nat × Nat) :=
  (wireWrites sent)[3 * k + c]?.map SlotWrite.address

/-- No address is written for two of the first `count` pixels. -/
def PixelsApart (sent : List Datagram) (count : Nat) : Prop :=
  ∀ k l, k < count → l < count → k ≠ l → ∀ c d, c < 3 → d < 3 →
    pixelAddress sent k c ≠ pixelAddress sent l d

theorem slotWrites_datagram {target : SocketAddr} {builder : PacketBuilder}
    {sequence priority : UInt8} {pair : UInt16 × List UInt8}
    (hslots : pair.2.length ≤ maxSlotsPerUniverse) :
    slotWrites (datagram target builder sequence priority pair) =
      pair.2.mapIdx fun o value => { univ := pair.1.toNat, offset := o, value := value } := by
  simp only [slotWrites, datagram, decode_dataPacket builder pair.1 sequence priority pair.2 hslots,
    readBack]

section Packets
variable {a : SacnAdapter} (h : Acceptable a.universes a.priority) (pixels : List Rgb)

/-- The `i`-th universe of the list. -/
def universeAt (universes : List UInt16) (i : Nat) : Nat := (universes.getD i 0).toNat

theorem pairs_eq_range :
    a.universes.zip (slotBuffers A pixels a.universes.length) =
      (List.range a.universes.length).map (fun i => (a.universes.getD i 0,
        (window maxRgbPixelsPerUniverse pixels i).flatMap (pixelBytes A))) := by
  apply List.ext_getElem
  · simp
  · intro i hi _
    have hi' : i < a.universes.length := by simpa using hi
    simp [slotBuffers, getElem_windows, hi']

include h in
theorem wireWrites_packets :
    wireWrites (packets A a pixels) =
      (List.range a.universes.length).flatMap fun i =>
        ((window maxRgbPixelsPerUniverse pixels i).flatMap (pixelBytes A)).mapIdx
          fun o value => { univ := universeAt a.universes i, offset := o, value := value } := by
  have hwrites : ∀ pair ∈ a.universes.zip (slotBuffers A pixels a.universes.length),
      slotWrites (datagram a.target a.builder a.sequence a.priority pair) =
        pair.2.mapIdx fun o value => { univ := pair.1.toNat, offset := o, value := value } :=
    fun pair hpair => slotWrites_datagram (encodable_pairs A h pixels hpair).2.2
  rw [wireWrites, packets, List.flatMap_map, List.flatMap_congr hwrites, pairs_eq_range,
    List.flatMap_map]
  rfl

include h in
/-- Read without their addresses, the writes are the bytes of the pixels that fit. -/
theorem values_wireWrites :
    (wireWrites (packets A a pixels)).map SlotWrite.value =
      (pixels.take (a.universes.length * maxRgbPixelsPerUniverse)).flatMap (pixelBytes A) := by
  have hvalues : ∀ (i : Nat) (bytes : List UInt8), (bytes.mapIdx fun o value =>
      ({ univ := i, offset := o, value := value } : SlotWrite)).map SlotWrite.value = bytes := by
    intro i bytes
    apply List.ext_getElem <;> simp
  rw [wireWrites_packets A h, ← flatten_windows, List.map_flatMap, windows, ← List.flatMap_def,
    List.flatMap_assoc]
  simp only [hvalues]

include h in
/-- Write `j` goes to offset `j % 510` of universe number `j / 510`. -/
theorem addresses_wireWrites :
    (wireWrites (packets A a pixels)).map SlotWrite.address =
      (List.range (min (3 * pixels.length) (a.universes.length * 510))).map
        (fun j => (universeAt a.universes (j / 510), j % 510)) := by
  have haddresses : ∀ (i : Nat) (bytes : List UInt8), (bytes.mapIdx fun o value =>
      ({ univ := i, offset := o, value := value } : SlotWrite)).map SlotWrite.address =
        (List.range bytes.length).map (fun o => (i, o)) := by
    intro i bytes
    apply List.ext_getElem <;> simp [SlotWrite.address]
  have hmax : maxRgbPixelsPerUniverse = 170 := rfl
  rw [wireWrites_packets A h, List.map_flatMap, ← flatMap_numbered (by decide : 0 < 510)]
  refine List.flatMap_congr fun i _ => ?_
  rw [haddresses, length_flatMap_pixelBytes, length_window, hmax,
    show 3 * min 170 (pixels.length - 170 * i) = min 510 (3 * pixels.length - 510 * i) by omega]

include h in
theorem pixelAddress_packets {k c : Nat} (hk : k < min pixels.length (170 * a.universes.length))
    (hc : c < 3) :
    pixelAddress (packets A a pixels) k c =
      some (universeAt a.universes (k / 170), (3 * k + c) % 510) := by
  have hlt : 3 * k + c < min (3 * pixels.length) (a.universes.length * 510) := by omega
  have hdiv : (3 * k + c) / 510 = k / 170 := by omega
  rw [pixelAddress, ← List.getElem?_map, addresses_wireWrites A h, List.getElem?_map,
    List.getElem?_range hlt, Option.map_some, hdiv]

include h in
/-- Pixels stay apart exactly when the universes that carry them are distinct. -/
theorem pixelsApart_iff :
    PixelsApart (packets A a pixels) (min pixels.length (170 * a.universes.length)) ↔
      (a.universes.take
        ((min pixels.length (170 * a.universes.length) + 169) / 170)).Nodup := by
  set count := min pixels.length (170 * a.universes.length) with hcount
  have hused : (count + 169) / 170 ≤ a.universes.length := by omega
  rw [List.nodup_iff_getElem?_ne_getElem?]
  constructor
  · -- two equal universes carry two pixels at offset 0
    intro apart i j hij hj hsame
    rw [List.length_take] at hj
    rw [List.getElem?_take_of_lt (by omega), List.getElem?_take_of_lt (by omega)] at hsame
    have hi := pixelAddress_packets A h pixels (k := 170 * i) (c := 0) (by omega) (by decide)
    have hj' := pixelAddress_packets A h pixels (k := 170 * j) (c := 0) (by omega) (by decide)
    have huniverse : universeAt a.universes i = universeAt a.universes j := by
      simp only [universeAt, List.getD_eq_getElem?_getD, hsame]
    refine apart (170 * i) (170 * j) (by omega) (by omega) (by omega) 0 0 (by decide) (by decide) ?_
    rw [hi, hj', Nat.mul_div_cancel_left _ (by decide), Nat.mul_div_cancel_left _ (by decide),
      huniverse]
    congr 2
    omega
  · intro distinct k l hk hl hkl c d hc hd hsame
    rw [pixelAddress_packets A h pixels hk hc, pixelAddress_packets A h pixels hl hd] at hsame
    simp only [Option.some.injEq, Prod.mk.injEq, universeAt, UInt16.toNat_inj] at hsame
    obtain ⟨huniverse, hoffset⟩ := hsame
    have hget : ∀ i, i < (count + 169) / 170 →
        (a.universes.take ((count + 169) / 170))[i]? = some (a.universes.getD i 0) := by
      intro i hi
      have hi' : i < a.universes.length := by omega
      simp [List.getElem?_take_of_lt hi, hi']
    have hkq : k / 170 < (count + 169) / 170 := by omega
    have hlq : l / 170 < (count + 169) / 170 := by omega
    have hlen : (a.universes.take ((count + 169) / 170)).length = (count + 169) / 170 :=
      List.length_take_of_le hused
    have hquot : (a.universes.take ((count + 169) / 170))[k / 170]? =
        (a.universes.take ((count + 169) / 170))[l / 170]? := by
      rw [hget _ hkq, hget _ hlq, huniverse]
    rcases lt_trichotomy (k / 170) (l / 170) with hlt | heq | hgt
    · exact distinct _ _ hlt (by omega) hquot
    · omega
    · exact distinct _ _ hgt (by omega) hquot.symm

end Packets

/-- A connected adapter whose sends succeed sends all it planned. -/
theorem render_all_sent {config : SacnAdapterBuilder} {freshCid : Uuid} {adapter : SacnAdapter}
    (built : config.build freshCid = .ok (.ok adapter)) {calls : List AdapterCall}
    (connected : Since Connected Disconnected calls) (frame : ResolvedFrame) (order : IterOrder)
    {pixels : List Rgb} (payload : firstPixels frame order = some pixels) (send : SendOutcomes)
    (succeed : ∀ i, send i = .ok ()) :
    ∃ a reports a' report, runCalls A adapter calls = .ok (a, reports) ∧
      perform A a (.render frame order send) = .ok (a', report) ∧
      Acceptable a.universes a.priority ∧ a.universes = config.universes ∧
      report.sent = packets A a pixels := by
  obtain ⟨-, huniverses, -, hnone, -⟩ := built_spec built
  obtain ⟨a, reports, hrun, hsettings, hsocket, hcounted, -⟩ :=
    runCalls_log A calls (counted_of_built built) 0
  obtain ⟨a', report, hperform, effect⟩ :=
    perform_effect A hcounted.acceptable (.render frame order send)
  refine ⟨a, reports, a', report, hrun, hperform, hcounted.acceptable,
    (universes_of_settings hsettings).1.trans huniverses, ?_⟩
  have hopen : a.socket.isSome = true := by
    rw [hsocket, hnone]
    exact (socket_since calls).mpr connected
  exact effect.sent_all A hopen payload succeed

/-- In a render whose sends all succeed the pixels of a payload are written in order,
and no two of them share an address exactly when the universes in use are distinct. -/
theorem pixels_apart_iff_distinct {config : SacnAdapterBuilder} {freshCid : Uuid}
    {adapter : SacnAdapter} (built : config.build freshCid = .ok (.ok adapter))
    {calls : List AdapterCall} (connected : Since Connected Disconnected calls)
    (frame : ResolvedFrame) (order : IterOrder) {pixels : List Rgb}
    (payload : firstPixels frame order = some pixels) (send : SendOutcomes)
    (succeed : ∀ i, send i = .ok ()) :
    ∃ a reports a' report, runCalls A adapter calls = .ok (a, reports) ∧
      perform A a (.render frame order send) = .ok (a', report) ∧
      (wireWrites report.sent).map SlotWrite.value =
        (pixels.take (170 * config.universes.length)).flatMap (pixelBytes A) ∧
      (PixelsApart report.sent (min pixels.length (170 * config.universes.length)) ↔
        (config.universes.take
          ((min pixels.length (170 * config.universes.length) + 169) / 170)).Nodup) := by
  obtain ⟨a, reports, a', report, hrun, hperform, haccept, hlist, hsent⟩ :=
    render_all_sent A built connected frame order payload send succeed
  refine ⟨a, reports, a', report, hrun, hperform, ?_, ?_⟩
  · rw [hsent, values_wireWrites A haccept, hlist, Nat.mul_comm 170]
    rfl
  · rw [hsent, ← hlist]
    exact pixelsApart_iff A haccept pixels

def loopbackCalls : List AdapterCall := [.connect (.ok ⟨40000⟩)]

theorem loopback_connected : Since Connected Disconnected loopbackCalls :=
  ⟨[], _, [], rfl, trivial, by simp⟩

/-- The last of 171 pixels is the first one of the second universe. -/
theorem pixels_apart_iff_distinct_two_universes :
    ∃ adapter, twoUniverseBuilder.build zeroCid = .ok (.ok adapter) ∧
      ∃ a reports a' report, runCalls (.exact ℚ) adapter loopbackCalls = .ok (a, reports) ∧
        perform (.exact ℚ) a (.render (greyFrame 171 (.fin 1)) .asStored fun _ => .ok ()) =
          .ok (a', report) ∧
        PixelsApart report.sent 171 := by
  obtain ⟨adapter, built, -⟩ := build_accepts twoUniverse_acceptable zeroCid
  obtain ⟨a, reports, a', report, hrun, hperform, -, hapart⟩ :=
    pixels_apart_iff_distinct (.exact ℚ) built loopback_connected (greyFrame 171 (.fin 1))
      .asStored rfl (fun _ => .ok ()) fun _ => rfl
  rw [greyPixels, List.length_replicate] at hapart
  exact ⟨adapter, built, a, reports, a', report, hrun, hperform, hapart.mpr (by decide)⟩

/-- A list that names one universe twice. -/
def repeatedBuilder : SacnAdapterBuilder := { loopbackBuilder with universes := [1, 1] }

/-- The last of 171 pixels overwrites the first. -/
theorem repeated_universe_overwrites :
    ∃ adapter, repeatedBuilder.build zeroCid = .ok (.ok adapter) ∧
      ∃ a reports a' report, runCalls (.exact ℚ) adapter loopbackCalls = .ok (a, reports) ∧
        perform (.exact ℚ) a (.render (greyFrame 171 (.fin 0)) .asStored fun _ => .ok ()) =
          .ok (a', report) ∧
        pixelAddress report.sent 0 0 = some (1, 0) ∧
        pixelAddress report.sent 170 0 = some (1, 0) ∧
        ¬PixelsApart report.sent 171 := by
  have hrepeated : Acceptable repeatedBuilder.universes repeatedBuilder.priority :=
    ⟨by decide, by decide, List.all_eq_true.mp (by decide), by decide⟩
  obtain ⟨adapter, built, -⟩ := build_accepts hrepeated zeroCid
  obtain ⟨a, reports, a', report, hrun, hperform, haccept, hlist, hsent⟩ :=
    render_all_sent (.exact ℚ) built loopback_connected (greyFrame 171 (.fin 0)) .asStored rfl
      (fun _ => .ok ()) fun _ => rfl
  have huniverses : a.universes = [1, 1] := hlist
  have haddress : ∀ k, k < 171 → k / 170 < 2 → pixelAddress report.sent k 0 =
      some (universeAt [1, 1] (k / 170), (3 * k + 0) % 510) := by
    intro k hk _
    rw [hsent, ← huniverses]
    refine pixelAddress_packets _ haccept _ ?_ (by decide)
    rw [huniverses, greyPixels, List.length_replicate]
    exact hk
  have hfirst := haddress 0 (by decide) (by decide)
  have hlast := haddress 170 (by decide) (by decide)
  refine ⟨adapter, built, a, reports, a', report, hrun, hperform, hfirst, hlast, ?_⟩
  intro hapart
  exact hapart 0 170 (by decide) (by decide) (by decide) 0 0 (by decide) (by decide)
    (hfirst.trans hlast.symm)

end WireAddresses
