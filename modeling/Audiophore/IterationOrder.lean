import Audiophore.PipelineOutput
import Audiophore.SlotLayout
import Audiophore.ZoneCoverage

/-!
# Which payload a render shows

A render takes the first pixel payload that the iteration over the zones comes to. Any
payload can come first, so the packets are the same under every order exactly when all
pixel payloads of the frame encode to the same bytes.
-/

namespace IterationOrder

open ExtendedFloat AudiophoreCore RustExec ListChunks AdapterCore MappingM1 SacnPacket
open SacnReceiver SacnOutput SacnRender AdapterRuns AdapterGuarantees SlotLayout ZoneCoverage
open PipelineOutput

/-! ## The payload that comes first -/

/-- A pixel payload of the frame. -/
def IsPayload (frame : ResolvedFrame) (pixels : List Rgb) : Prop :=
  ∃ id, frame.zones.lookup id = some (.pixels pixels)

theorem isPayload_iff {frame : ResolvedFrame} {pixels : List Rgb} :
    IsPayload frame pixels ↔ ∃ entry ∈ frame.zones.entries, entry.2 = .pixels pixels := by
  constructor
  · rintro ⟨id, hlookup⟩
    exact ⟨⟨id, .pixels pixels⟩, AList.mem_lookup_iff.mp hlookup, rfl⟩
  · rintro ⟨⟨id, payload⟩, hentry, hpayload⟩
    obtain rfl : payload = .pixels pixels := hpayload
    exact ⟨id, AList.mem_lookup_iff.mpr hentry⟩

/-- The order that moves one entry to the front. -/
def frontOrder (entry : Sigma fun _ : ZoneId => ZonePayload) : IterOrder where
  arrange entries := if entry ∈ entries then entry :: entries.erase entry else entries
  perm entries := by
    split
    · rename_i hmem
      exact (List.perm_cons_erase hmem).symm
    · exact List.Perm.refl _

theorem firstPixels_frontOrder {frame : ResolvedFrame} {pixels : List Rgb}
    (h : IsPayload frame pixels) : ∃ order, firstPixels frame order = some pixels := by
  obtain ⟨entry, hentry, hpayload⟩ := isPayload_iff.mp h
  refine ⟨frontOrder entry, ?_⟩
  rw [firstPixels, ZoneMap.values, frontOrder]
  simp only [if_pos hentry, List.map_cons, List.findSome?_cons, hpayload, pixelsOf]

theorem pixelsOf_eq_some_iff {payload : ZonePayload} {pixels : List Rgb} :
    pixelsOf payload = some pixels ↔ payload = .pixels pixels := by
  cases payload <;> simp [pixelsOf]

/-- What comes first is a payload of the frame. -/
theorem isPayload_of_firstPixels {frame : ResolvedFrame} {order : IterOrder} {pixels : List Rgb}
    (h : firstPixels frame order = some pixels) : IsPayload frame pixels := by
  obtain ⟨payload, hmem, hpixels⟩ := List.exists_of_findSome?_eq_some h
  obtain ⟨entry, hentry, rfl⟩ := List.mem_map.mp hmem
  exact isPayload_iff.mpr
    ⟨entry, (order.perm _).mem_iff.mp hentry, pixelsOf_eq_some_iff.mp hpixels⟩

/-- Some payload comes first, if there is one. -/
theorem exists_firstPixels {frame : ResolvedFrame} (h : ∃ pixels, IsPayload frame pixels)
    (order : IterOrder) : ∃ pixels, firstPixels frame order = some pixels := by
  obtain ⟨pixels, hpixels⟩ := h
  obtain ⟨entry, hentry, hpayload⟩ := isPayload_iff.mp hpixels
  exact Option.isSome_iff_exists.mp
    ((firstPixels_isSome_iff frame order).mpr ⟨entry, hentry, pixels, hpayload⟩)

variable (A : F32Arith)

/-! ## The bytes of a payload -/

/-- The slot bytes of the pixels that `n` universes have room for. -/
def shownBytes (n : Nat) (pixels : List Rgb) : List UInt8 :=
  (pixels.take (n * maxRgbPixelsPerUniverse)).flatMap (pixelBytes A)

/-- The buffers are windows of those bytes. -/
theorem slotBuffers_eq_windows (pixels : List Rgb) (n : Nat) :
    slotBuffers A pixels n =
      windows (3 * maxRgbPixelsPerUniverse) n (shownBytes A n pixels) := by
  have hlen : ∀ px, (pixelBytes A px).length = 3 := fun _ => rfl
  rw [slotBuffers, windows, windows, List.map_map]
  apply List.map_congr_left
  intro i hi
  rw [Function.comp_apply, ← window_take (List.mem_range.mp hi), flatMap_window hlen]
  rfl

/-- Two payloads make the same packets when they have the same bytes to show. -/
theorem packets_eq_iff {a : SacnAdapter} (h : Acceptable a.universes a.priority)
    (pixels pixels' : List Rgb) :
    packets A a pixels = packets A a pixels' ↔
      shownBytes A a.universes.length pixels = shownBytes A a.universes.length pixels' := by
  constructor
  · intro hsame
    obtain ⟨received, hread, -, -, hslots⟩ := read_packets (A := A) h pixels
    obtain ⟨received', hread', -, -, hslots'⟩ := read_packets (A := A) h pixels'
    rw [hsame, hread'] at hread
    have hreceived : received' = received :=
      List.map_injective_iff.mpr (Option.some_injective _) hread
    rw [hreceived, hslots] at hslots'
    exact hslots'
  · intro hsame
    rw [packets, packets, slotBuffers_eq_windows, slotBuffers_eq_windows, hsame]

/-! ## Renders -/

/-- The packets that one render puts on the wire. -/
def onWire (a : SacnAdapter) (frame : ResolvedFrame) (order : IterOrder) (send : SendOutcomes) :
    Exec (List Datagram) :=
  (a.render A frame order send).map fun r => r.2.1

variable {A} {a : SacnAdapter} {frame : ResolvedFrame}

theorem onWire_without_pixels {order : IterOrder} (send : SendOutcomes)
    (h : firstPixels frame order = none) : onWire A a frame order send = .ok [] := by
  rw [onWire, render_without_pixels A a send h]
  rfl

theorem onWire_of_firstPixels (haccept : Acceptable a.universes a.priority)
    (connected : a.socket.isSome = true) {order : IterOrder} (send : SendOutcomes)
    {pixels : List Rgb} (h : firstPixels frame order = some pixels) :
    onWire A a frame order send =
      .ok ((packets A a pixels).take (delivered send a.universes.length)) := by
  obtain ⟨scratch, hrender⟩ := render_connected A haccept send h connected
  rw [onWire, hrender]
  rfl

variable (A) in
/-- All pixel payloads have the same bytes to show on `n` universes. -/
def PayloadsAgree (n : Nat) (frame : ResolvedFrame) : Prop :=
  ∀ pixels pixels', IsPayload frame pixels → IsPayload frame pixels' →
    shownBytes A n pixels = shownBytes A n pixels'

theorem shownBytes_replicate (n count : Nat) (px : Rgb) :
    shownBytes A n (List.replicate count px) =
      (List.replicate (min count (n * maxRgbPixelsPerUniverse)) px).flatMap (pixelBytes A) := by
  rw [shownBytes, List.take_replicate, Nat.min_comm]

/-- The strips of a mapped frame agree when as many pixels of each of them are shown. -/
theorem payloadsAgree_mapM1 (n : Nat) (audio : AudioFrame) (zones : List Zone) (tick : UInt64) :
    PayloadsAgree A n (mapM1 A audio zones tick) ↔
      ∀ id id' count count', (stripsOf id zones).getLast? = some count →
        (stripsOf id' zones).getLast? = some count' →
        min count.toNat (n * 170) = min count'.toNat (n * 170) := by
  constructor
  · intro hagree id id' count count' hlast hlast'
    have hbytes := hagree _ _ ⟨id, by rw [lookup_mapM1, hlast]; rfl⟩
      ⟨id', by rw [lookup_mapM1, hlast']; rfl⟩
    have hlength := congrArg List.length hbytes
    simp only [buildStripPixels_eq, shownBytes_replicate, length_flatMap_pixelBytes,
      List.length_replicate] at hlength
    exact Nat.eq_of_mul_eq_mul_left (by decide) hlength
  · rintro hcounts pixels pixels' ⟨id, hlookup⟩ ⟨id', hlookup'⟩
    rw [lookup_mapM1, Option.map_eq_some_iff] at hlookup hlookup'
    obtain ⟨count, hlast, hpixels⟩ := hlookup
    obtain ⟨count', hlast', hpixels'⟩ := hlookup'
    obtain rfl := ZonePayload.pixels.inj hpixels
    obtain rfl := ZonePayload.pixels.inj hpixels'
    have hmin : min count.toNat (n * maxRgbPixelsPerUniverse) =
        min count'.toNat (n * maxRgbPixelsPerUniverse) := hcounts id id' count count' hlast hlast'
    rw [buildStripPixels_eq, buildStripPixels_eq, shownBytes_replicate, shownBytes_replicate, hmin]

theorem onWire_without_payload (h : ¬∃ pixels, IsPayload frame pixels) (order : IterOrder)
    (send : SendOutcomes) : onWire A a frame order send = .ok [] := by
  apply onWire_without_pixels
  cases hfirst : firstPixels frame order with
  | none => rfl
  | some pixels => exact absurd ⟨pixels, isPayload_of_firstPixels hfirst⟩ h

theorem same_on_wire_iff (haccept : Acceptable a.universes a.priority)
    (connected : a.socket.isSome = true) (frame : ResolvedFrame) :
    (∀ order order' send, onWire A a frame order send = onWire A a frame order' send) ↔
      PayloadsAgree A a.universes.length frame := by
  constructor
  · intro horders pixels pixels' hpixels hpixels'
    obtain ⟨order, hfirst⟩ := firstPixels_frontOrder hpixels
    obtain ⟨order', hfirst'⟩ := firstPixels_frontOrder hpixels'
    have hwire := horders order order' fun _ => .ok ()
    rw [onWire_of_firstPixels haccept connected _ hfirst,
      onWire_of_firstPixels haccept connected _ hfirst', delivered_of_ok (fun _ => rfl)] at hwire
    have hpackets := Except.ok.inj hwire
    rw [List.take_of_length_le (length_packets A a pixels).le,
      List.take_of_length_le (length_packets A a pixels').le] at hpackets
    exact (packets_eq_iff A haccept pixels pixels').mp hpackets
  · intro hpayloads order order' send
    by_cases hsome : ∃ pixels, IsPayload frame pixels
    · obtain ⟨pixels, hfirst⟩ := exists_firstPixels hsome order
      obtain ⟨pixels', hfirst'⟩ := exists_firstPixels hsome order'
      have hpackets := (packets_eq_iff A haccept pixels pixels').mpr
        (hpayloads _ _ (isPayload_of_firstPixels hfirst) (isPayload_of_firstPixels hfirst'))
      rw [onWire_of_firstPixels haccept connected _ hfirst,
        onWire_of_firstPixels haccept connected _ hfirst', hpackets]
    · rw [onWire_without_payload hsome, onWire_without_payload hsome]

/-- A connected adapter shows the payload that the order puts first, and any payload can be
first. So the order shows on the wire, unless the payloads agree. -/
theorem render_shows_first_payload {config : SacnAdapterBuilder} {freshCid : Uuid}
    {adapter : SacnAdapter} (built : config.build freshCid = .ok (.ok adapter))
    (same : settings a = settings adapter) (connected : a.socket.isSome = true)
    (frame : ResolvedFrame) :
    ((¬∃ pixels, IsPayload frame pixels) →
      ∀ order send, onWire A a frame order send = .ok []) ∧
    ((∃ pixels, IsPayload frame pixels) → ∀ order, ∃ pixels, IsPayload frame pixels ∧
      ∀ send, onWire A a frame order send =
        .ok ((packets A a pixels).take (delivered send a.universes.length))) ∧
    (∀ pixels, IsPayload frame pixels → ∃ order, ∀ send, onWire A a frame order send =
      .ok ((packets A a pixels).take (delivered send a.universes.length))) ∧
    ((∀ order order' send, onWire A a frame order send = onWire A a frame order' send) ↔
      PayloadsAgree A a.universes.length frame) ∧
    (∀ audio zones tick, frame = mapM1 A audio zones tick →
      ((∀ order order' send, onWire A a frame order send = onWire A a frame order' send) ↔
        ∀ id id' count count', (stripsOf id zones).getLast? = some count →
          (stripsOf id' zones).getLast? = some count' →
          min count.toNat (a.universes.length * 170) =
            min count'.toNat (a.universes.length * 170))) := by
  have haccept := acceptable_of_settings same (built_spec built).1
  have hagree := same_on_wire_iff (A := A) haccept connected frame
  refine ⟨onWire_without_payload, ?_, ?_, hagree, ?_⟩
  · intro hsome order
    obtain ⟨pixels, hfirst⟩ := exists_firstPixels hsome order
    exact ⟨pixels, isPayload_of_firstPixels hfirst, fun send =>
      onWire_of_firstPixels haccept connected send hfirst⟩
  · intro pixels hpixels
    obtain ⟨order, hfirst⟩ := firstPixels_frontOrder hpixels
    exact ⟨order, fun send => onWire_of_firstPixels haccept connected send hfirst⟩
  · rintro audio zones tick rfl
    rw [hagree, payloadsAgree_mapM1]

/-- Two strips of different lengths. -/
def twoStrips : List Zone :=
  [⟨⟨"left"⟩, .pixelStrip, .strip 1⟩, ⟨⟨"right"⟩, .pixelStrip, .strip 2⟩]

def twoStripFrame : ResolvedFrame :=
  mapM1 (.exact ℚ) (bassFrame (.fin 1) (.fin 1)) twoStrips 0

def reversedOrder : IterOrder := ⟨List.reverse, List.reverse_perm⟩

/-- Two strips that both fill the one universe. -/
def longStrips : List Zone :=
  [⟨⟨"left"⟩, .pixelStrip, .strip 170⟩, ⟨⟨"right"⟩, .pixelStrip, .strip 200⟩]

def longStripFrame : ResolvedFrame :=
  mapM1 (.exact ℚ) (bassFrame (.fin 1) (.fin 1)) longStrips 0

/-- The order shows for strips of one and two pixels, and does not for the long ones. -/
theorem render_shows_first_payload_two_strips :
    ∃ adapter, loopbackBuilder.build zeroCid = .ok (.ok adapter) ∧
      (¬∀ order order' send,
        onWire (.exact ℚ) (adapter.connect (.ok ⟨40000⟩)).1 twoStripFrame order send =
          onWire (.exact ℚ) (adapter.connect (.ok ⟨40000⟩)).1 twoStripFrame order' send) ∧
      ∀ order order' send,
        onWire (.exact ℚ) (adapter.connect (.ok ⟨40000⟩)).1 longStripFrame order send =
          onWire (.exact ℚ) (adapter.connect (.ok ⟨40000⟩)).1 longStripFrame order' send := by
  obtain ⟨adapter, built, huniverses, -⟩ := build_accepts loopback_acceptable zeroCid
  have same : settings (adapter.connect (.ok ⟨40000⟩)).1 = settings adapter := rfl
  have hcount : (adapter.connect (.ok ⟨40000⟩)).1.universes.length = 1 :=
    congrArg List.length huniverses
  obtain ⟨-, -, -, -, hshort⟩ := render_shows_first_payload (A := .exact ℚ) built same rfl
    twoStripFrame
  obtain ⟨-, -, -, -, hlong⟩ := render_shows_first_payload (A := .exact ℚ) built same rfl
    longStripFrame
  rw [hcount] at hshort hlong
  refine ⟨adapter, built, fun hsame => ?_, (hlong _ longStrips 0 rfl).mpr ?_⟩
  · have hlengths := (hshort _ twoStrips 0 rfl).mp hsame ⟨"left"⟩ ⟨"right"⟩ 1 2 rfl rfl
    exact absurd hlengths (by decide)
  · have hfills : ∀ id count, (stripsOf id longStrips).getLast? = some count →
        min count.toNat (1 * 170) = 170 := by
      intro id count hlast
      obtain ⟨zone, hzone, -, -, hsize⟩ := mem_stripsOf_iff.mp (List.mem_of_getLast? hlast)
      rcases List.mem_pair.mp hzone with rfl | rfl <;> cases hsize <;> rfl
    intro id id' count count' hlast hlast'
    rw [hfills id count hlast, hfills id' count' hlast']

/-- One order shows the strip of one pixel, the other the strip of two. -/
theorem twoStrips_depend_on_order :
    ∃ adapter, loopbackBuilder.build zeroCid = .ok (.ok adapter) ∧
      onWire (.exact ℚ) (adapter.connect (.ok ⟨40000⟩)).1 twoStripFrame .asStored
          (fun _ => .ok ()) ≠
        onWire (.exact ℚ) (adapter.connect (.ok ⟨40000⟩)).1 twoStripFrame reversedOrder
          (fun _ => .ok ()) := by
  obtain ⟨adapter, built, huniverses, -⟩ := build_accepts loopback_acceptable zeroCid
  have haccept : Acceptable (adapter.connect (.ok ⟨40000⟩)).1.universes
      (adapter.connect (.ok ⟨40000⟩)).1.priority := (built_spec built).1
  have hstored : firstPixels twoStripFrame .asStored =
      some (buildStripPixels (.exact ℚ) (bassFrame (.fin 1) (.fin 1)) 2) := rfl
  have hreversed : firstPixels twoStripFrame reversedOrder =
      some (buildStripPixels (.exact ℚ) (bassFrame (.fin 1) (.fin 1)) 1) := rfl
  refine ⟨adapter, built, ?_⟩
  rw [onWire_of_firstPixels haccept rfl _ hstored, onWire_of_firstPixels haccept rfl _ hreversed,
    delivered_of_ok (fun _ => rfl)]
  intro hwire
  have hpackets := Except.ok.inj hwire
  rw [List.take_of_length_le (length_packets _ _ _).le,
    List.take_of_length_le (length_packets _ _ _).le, packets_eq_iff _ haccept] at hpackets
  have huniv : (adapter.connect (.ok ⟨40000⟩)).1.universes.length = 1 :=
    congrArg List.length huniverses
  rw [huniv, buildStripPixels_eq, buildStripPixels_eq, shownBytes_replicate,
    shownBytes_replicate] at hpackets
  have hlength := congrArg List.length hpackets
  rw [length_flatMap_pixelBytes, length_flatMap_pixelBytes] at hlength
  exact absurd hlength (by decide)

end IterationOrder
