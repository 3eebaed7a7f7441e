import Audiophore.SacnOutput

/-!
# What one call of the sACN adapter does

The slot buffers are the windows of the pixel list, the packets of a render are fixed
before the first of them is sent, and the first failing send decides how many leave
the host. An adapter that `build` accepted meets every precondition on the way.
-/

namespace SacnRender

open AudiophoreCore RustExec ListChunks AdapterCore SacnPacket SacnOutput

variable (A : F32Arith)

/-! ## Slot buffers -/

def pixelBytes (px : Rgb) : List UInt8 :=
  [gammaEncode A px.r, gammaEncode A px.g, gammaEncode A px.b]

/-- Buffer `i` holds the bytes of the `i`-th window of 170 pixels. -/
def slotBuffers (pixels : List Rgb) (n : Nat) : List (List UInt8) :=
  (windows maxRgbPixelsPerUniverse n pixels).map (·.flatMap (pixelBytes A))

theorem encodeChunk_eq (chunk : List Rgb) : encodeChunk A chunk = chunk.flatMap (pixelBytes A) := by
  have pushes : ∀ acc, chunk.foldl (fun slots px =>
      slots ++ [gammaEncode A px.r] ++ [gammaEncode A px.g] ++ [gammaEncode A px.b]) acc =
        acc ++ chunk.flatMap (pixelBytes A) := by
    induction chunk with
    | nil => simp
    | cons px chunk ih =>
      intro acc
      rw [List.foldl_cons, ih]
      simp [pixelBytes]
  exact pushes []

theorem partitionRgb_eq (pixels : List Rgb) (n : Nat) :
    partitionRgb A pixels n = .ok (slotBuffers A pixels n) := by
  by_cases hn : n = 0
  · subst hn
    rfl
  · have hk : 0 < maxRgbPixelsPerUniverse := by decide
    have htake : pixels.take (min pixels.length (n * maxRgbPixelsPerUniverse)) =
        pixels.take (n * maxRgbPixelsPerUniverse) := by
      rw [Nat.min_comm, ← List.take_eq_take_min]
    have hpad := padTo_map (encodeChunk A) rfl n (chunksFuel maxRgbPixelsPerUniverse
      (pixels.take (n * maxRgbPixelsPerUniverse)).length
      (pixels.take (n * maxRgbPixelsPerUniverse)))
    simp only [partitionRgb, if_neg hn, slicePrefix_ok (Nat.min_le_left _ _), ok_bind,
      htake, chunks_ok hk, hpad, padTo_chunksFuel hk]
    rw [funext (encodeChunk_eq A)]
    rfl

theorem length_flatMap_pixelBytes (pixels : List Rgb) :
    (pixels.flatMap (pixelBytes A)).length = 3 * pixels.length := by
  induction pixels with
  | nil => rfl
  | cons px pixels ih =>
    rw [List.flatMap_cons, List.length_append, ih, List.length_cons]
    simp only [pixelBytes, List.length_cons, List.length_nil]
    omega

@[simp] theorem length_slotBuffers (pixels : List Rgb) (n : Nat) :
    (slotBuffers A pixels n).length = n := by
  simp [slotBuffers]

/-- One after the other the buffers are the bytes of the pixels that fit. -/
theorem flatten_slotBuffers (pixels : List Rgb) (n : Nat) :
    (slotBuffers A pixels n).flatten =
      (pixels.take (n * maxRgbPixelsPerUniverse)).flatMap (pixelBytes A) := by
  rw [← flatten_windows, slotBuffers, ← List.flatMap_def, ← List.flatMap_id, List.flatMap_assoc]
  rfl

theorem length_getElem?_slotBuffers {pixels : List Rgb} {n i : Nat} (hi : i < n) :
    (slotBuffers A pixels n)[i]?.map List.length =
      some (3 * min maxRgbPixelsPerUniverse (pixels.length - maxRgbPixelsPerUniverse * i)) := by
  have hi' : i < (windows maxRgbPixelsPerUniverse n pixels).length := by simpa using hi
  rw [slotBuffers, List.getElem?_map, List.getElem?_eq_getElem hi', getElem_windows]
  simp only [Option.map_some, length_flatMap_pixelBytes, length_window]

/-- A buffer is never longer than the 510 slots that 170 pixels take. -/
theorem length_of_mem_slotBuffers {pixels : List Rgb} {n : Nat} {slots : List UInt8}
    (h : slots ∈ slotBuffers A pixels n) : slots.length ≤ 510 ∧ slots.length % 3 = 0 := by
  simp only [slotBuffers, windows, List.mem_map] at h
  obtain ⟨_, ⟨i, -, rfl⟩, rfl⟩ := h
  have hmax : maxRgbPixelsPerUniverse = 170 := rfl
  rw [length_flatMap_pixelBytes, length_window, hmax]
  omega

/-! ## Sends that may fail -/

/-- How many of `n` sends go through before the first failure. -/
def delivered : SendOutcomes → Nat → Nat
  | _, 0 => 0
  | send, n + 1 =>
    match send 0 with
    | .error _ => 0
    | .ok () => delivered (fun i => send (i + 1)) n + 1

/-- The result of `n` sends in a row. -/
def sendResult : SendOutcomes → Nat → Except AdapterError Unit
  | _, 0 => .ok ()
  | send, n + 1 =>
    match send 0 with
    | .error e => .error (.io e)
    | .ok () => sendResult (fun i => send (i + 1)) n

theorem delivered_le (send : SendOutcomes) (n : Nat) : delivered send n ≤ n := by
  induction n generalizing send with
  | zero => exact le_rfl
  | succ n ih =>
    rw [delivered]
    split
    · exact Nat.zero_le _
    · exact Nat.succ_le_succ (ih _)

/-- The result is the first failure, if there is one. -/
theorem sendResult_eq (send : SendOutcomes) (n : Nat) :
    (delivered send n = n ∧ sendResult send n = .ok ()) ∨
    (delivered send n < n ∧
      ∃ e, send (delivered send n) = .error e ∧ sendResult send n = .error (.io e)) := by
  induction n generalizing send with
  | zero => exact .inl ⟨rfl, rfl⟩
  | succ n ih =>
    cases h : send 0 with
    | error e =>
      refine .inr ⟨by simp [delivered, h], e, ?_, by simp [sendResult, h]⟩
      simp [delivered, h]
    | ok u =>
      rcases ih (fun i => send (i + 1)) with ⟨hd, hr⟩ | ⟨hd, e, he, hr⟩
      · exact .inl ⟨by simp [delivered, h, hd], by simpa [sendResult, h] using hr⟩
      · refine .inr ⟨by simpa [delivered, h] using hd, e, ?_, by simpa [sendResult, h] using hr⟩
        simpa [delivered, h] using he

/-- All sends before the first failure went through. -/
theorem delivered_of_ok {send : SendOutcomes} (ok : ∀ i, send i = .ok ()) (n : Nat) :
    delivered send n = n := by
  rcases sendResult_eq send n with ⟨hd, -⟩ | ⟨-, e, he, -⟩
  · exact hd
  · rw [ok] at he
    cases he

/-- The datagram one pair of universe and slots turns into. -/
def datagram (target : SocketAddr) (builder : PacketBuilder) (sequence priority : UInt8)
    (pair : UInt16 × List UInt8) : Datagram :=
  { target := target, bytes := dataPacket builder pair.1 sequence priority pair.2 }

theorem sendLoop_eq (target : SocketAddr) (sequence priority : UInt8)
    (pairs : List (UInt16 × List UInt8)) (builder : PacketBuilder) (send : SendOutcomes)
    (encodable : ∀ pair ∈ pairs, Encodable pair.1 priority pair.2) :
    ∃ scratch, sendLoop target sequence priority builder send pairs =
      .ok ({ builder with scratch := scratch },
        (pairs.map (datagram target builder sequence priority)).take (delivered send pairs.length),
        sendResult send pairs.length) := by
  induction pairs generalizing builder send with
  | nil => exact ⟨builder.scratch, rfl⟩
  | cons pair rest ih =>
    obtain ⟨univ, slots⟩ := pair
    have hhead := encode_ok builder sequence (encodable (univ, slots) (by simp))
    have hrest : ∀ pair ∈ rest, Encodable pair.1 priority pair.2 :=
      fun pair hp => encodable pair (List.mem_cons_of_mem _ hp)
    cases h : send 0 with
    | error e =>
      refine ⟨dataPacket builder univ sequence priority slots, ?_⟩
      simp only [sendLoop, hhead, ok_bind, h, List.length_cons, delivered, sendResult,
        List.take_zero]
      rfl
    | ok u =>
      obtain ⟨scratch, hloop⟩ := ih
        { builder with scratch := dataPacket builder univ sequence priority slots }
        (fun i => send (i + 1)) hrest
      refine ⟨scratch, ?_⟩
      simp only [sendLoop, hhead, ok_bind, h, hloop, List.length_cons, delivered, sendResult,
        List.map_cons, List.take_succ_cons]
      rfl

/-! ## One call -/

/-- What `build` checks. -/
structure Acceptable (universes : List UInt16) (priority : UInt8) : Prop where
  nonempty : universes ≠ []
  few : universes.length ≤ maxUniverses
  legal : ∀ u ∈ universes, legalUniverse u = true
  priority_le : priority ≤ 200

/-- The datagrams that a render of `pixels` sets out to send. -/
def packets (self : SacnAdapter) (pixels : List Rgb) : List Datagram :=
  (self.universes.zip (slotBuffers A pixels self.universes.length)).map
    (datagram self.target self.builder self.sequence self.priority)

/-- The adapter as it was built: what no call changes. -/
def settings (self : SacnAdapter) : SacnAdapter :=
  { self with builder := { self.builder with scratch := [] }, socket := none, sequence := 0 }

@[simp] theorem length_packets (self : SacnAdapter) (pixels : List Rgb) :
    (packets A self pixels).length = self.universes.length := by
  simp [packets]

theorem encodable_pairs {self : SacnAdapter} (h : Acceptable self.universes self.priority)
    (pixels : List Rgb) {pair : UInt16 × List UInt8}
    (hpair : pair ∈ self.universes.zip (slotBuffers A pixels self.universes.length)) :
    Encodable pair.1 self.priority pair.2 := by
  obtain ⟨hu, hs⟩ := List.of_mem_zip hpair
  obtain ⟨hlen, -⟩ := length_of_mem_slotBuffers A hs
  exact ⟨h.legal _ hu, h.priority_le, show _ ≤ 512 by omega⟩

theorem render_without_pixels (self : SacnAdapter) {frame : ResolvedFrame} {order : IterOrder}
    (send : SendOutcomes) (hpx : firstPixels frame order = none) :
    self.render A frame order send = .ok (self, [], .ok ()) := by
  simp only [SacnAdapter.render, hpx]
  rfl

theorem render_without_socket (self : SacnAdapter) {frame : ResolvedFrame} {order : IterOrder}
    (send : SendOutcomes) {pixels : List Rgb} (hpx : firstPixels frame order = some pixels)
    (hsocket : self.socket = none) :
    self.render A frame order send =
      .ok (self, [], .error (.connect "socket not open; call connect()")) := by
  simp only [SacnAdapter.render, hpx, partitionRgb_eq, ok_bind, SacnAdapter.sendSlots,
    length_slotBuffers, hsocket, ne_eq, not_true_eq_false, ↓reduceIte]
  rfl

/-- With pixels and an open socket everything hangs on the sends. -/
theorem render_connected {self : SacnAdapter} (h : Acceptable self.universes self.priority)
    {frame : ResolvedFrame} {order : IterOrder} (send : SendOutcomes) {pixels : List Rgb}
    (hpx : firstPixels frame order = some pixels) (hsocket : self.socket.isSome = true) :
    ∃ scratch, self.render A frame order send =
      .ok ({ self with
          builder := { self.builder with scratch := scratch }
          sequence := if delivered send self.universes.length = self.universes.length
            then self.sequence + 1 else self.sequence },
        (packets A self pixels).take (delivered send self.universes.length),
        sendResult send self.universes.length) := by
  obtain ⟨socket, hsocket⟩ := Option.isSome_iff_exists.mp hsocket
  have hzip : (self.universes.zip (slotBuffers A pixels self.universes.length)).length =
      self.universes.length := by simp
  obtain ⟨scratch, hloop⟩ := sendLoop_eq self.target self.sequence self.priority _ self.builder send
    (fun pair hpair => encodable_pairs A h pixels hpair)
  rw [hzip] at hloop
  refine ⟨scratch, ?_⟩
  simp only [SacnAdapter.render, hpx, partitionRgb_eq, ok_bind, SacnAdapter.sendSlots,
    length_slotBuffers, hsocket, hloop, ne_eq, not_true_eq_false, ↓reduceIte]
  rcases sendResult_eq send self.universes.length with ⟨hd, hr⟩ | ⟨hd, e, -, hr⟩
  · simp only [hr, hd, if_true]
    rfl
  · simp only [hr, if_neg (Nat.ne_of_lt hd)]
    rfl

theorem build_accepts {self : SacnAdapterBuilder} (h : Acceptable self.universes self.priority)
    (freshCid : Uuid) :
    ∃ adapter, self.build freshCid = .ok (.ok adapter) ∧
      adapter.universes = self.universes ∧ adapter.priority = self.priority ∧
      adapter.socket = none ∧ adapter.sequence = 0 ∧
      adapter.target = { ip := self.targetHost, port := self.targetPort } ∧
      adapter.nativeRate = self.nativeRate := by
  have hempty : self.universes.isEmpty = false := by simpa using h.nonempty
  have hlegal : firstIllegal self.universes = none := by
    simpa [firstIllegal] using h.legal
  obtain ⟨b, hb, -⟩ := withCid_ok (self.cid.getD freshCid) self.sourceName
  refine ⟨SacnAdapter.mk self.name self.capabilities self.zones self.nativeRate
    ⟨self.targetHost, self.targetPort⟩ self.universes self.priority b none 0, ?_,
    rfl, rfl, rfl, rfl, rfl, rfl⟩
  unfold SacnAdapterBuilder.build
  simp only [hempty, gt_iff_lt, not_lt.mpr h.few, UInt8.not_lt.mpr h.priority_le, hlegal,
    Bool.false_eq_true, ↓reduceIte]
  cases hcid : self.cid with
  | none =>
    simp only [hcid, Option.getD_none] at hb
    simp only [hb, ok_bind]
    rfl
  | some cid =>
    simp only [hcid, Option.getD_some] at hb
    simp only [hb, ok_bind]
    rfl

/-- Only configurations that pass every check are built. -/
theorem build_rejects {self : SacnAdapterBuilder} (h : ¬Acceptable self.universes self.priority)
    (freshCid : Uuid) : ∃ e, self.build freshCid = .ok (.error e) := by
  unfold SacnAdapterBuilder.build
  by_cases hempty : self.universes.isEmpty = true
  · rw [if_pos hempty]
    exact ⟨_, rfl⟩
  · rw [if_neg hempty]
    by_cases hmany : self.universes.length > maxUniverses
    · rw [if_pos hmany]
      exact ⟨_, rfl⟩
    · rw [if_neg hmany]
      cases hfirst : firstIllegal self.universes with
      | some u => exact ⟨_, rfl⟩
      | none =>
        have hpriority : self.priority > 200 := by
          refine UInt8.not_le.mp fun hle => h ⟨by simpa using hempty, not_lt.mp hmany, ?_, hle⟩
          simpa [firstIllegal] using hfirst
        simp only [hpriority, ↓reduceIte]
        exact ⟨_, rfl⟩

theorem acceptable_of_build {self : SacnAdapterBuilder} {freshCid : Uuid} {adapter : SacnAdapter}
    (h : self.build freshCid = .ok (.ok adapter)) : Acceptable self.universes self.priority := by
  by_contra hbad
  obtain ⟨e, he⟩ := build_rejects hbad freshCid
  rw [he] at h
  cases h

/-- A built adapter has its configuration, no socket, and a counter at zero. -/
theorem built_spec {self : SacnAdapterBuilder} {freshCid : Uuid} {adapter : SacnAdapter}
    (h : self.build freshCid = .ok (.ok adapter)) :
    Acceptable adapter.universes adapter.priority ∧
      adapter.universes = self.universes ∧ adapter.priority = self.priority ∧
      adapter.socket = none ∧ adapter.sequence = 0 ∧
      adapter.target = { ip := self.targetHost, port := self.targetPort } ∧
      adapter.nativeRate = self.nativeRate := by
  have haccept := acceptable_of_build h
  obtain ⟨adapter', hbuild, hspec⟩ := build_accepts haccept freshCid
  obtain rfl : adapter' = adapter := Except.ok.inj (Except.ok.inj (hbuild.symm.trans h))
  refine ⟨?_, hspec⟩
  rw [hspec.1, hspec.2.1]
  exact haccept

/-! ## Frames with pixels -/

def HasPixels (frame : ResolvedFrame) : Prop :=
  ∃ entry ∈ frame.zones.entries, ∃ pixels, entry.2 = .pixels pixels

/-- The search misses no payload, whatever the order of the entries. -/
theorem firstPixels_isSome_iff (frame : ResolvedFrame) (order : IterOrder) :
    (firstPixels frame order).isSome = true ↔ HasPixels frame := by
  have hmem : ∀ entry, entry ∈ order.arrange frame.zones.entries ↔ entry ∈ frame.zones.entries :=
    fun entry => (order.perm _).mem_iff
  have hpx : ∀ payload, (pixelsOf payload).isSome = true ↔ ∃ pixels, payload = .pixels pixels := by
    intro payload
    cases payload <;> simp [pixelsOf]
  simp only [firstPixels, ZoneMap.values, List.findSome?_isSome_iff, List.mem_map, hpx, HasPixels,
    ← hmem]
  constructor
  · rintro ⟨payload, ⟨entry, hentry, rfl⟩, hp⟩
    exact ⟨entry, hentry, hp⟩
  · rintro ⟨entry, hentry, hp⟩
    exact ⟨_, ⟨entry, hentry, rfl⟩, hp⟩

end SacnRender
