import Audiophore.SacnRender

/-!
# The universe list of the command line

`universes_for` in `audiophore-cli/src/main.rs`. Its saturating arithmetic only shows
on lists that the adapter builder rejects.
-/

namespace CliUniverses

open AudiophoreCore RustExec ListChunks SacnPacket SacnOutput SacnRender

/-- `u32::try_from(n).unwrap_or(u32::MAX)`. -/
def toU32OrMax (n : Nat) : Nat := if n < 2 ^ 32 then n else 2 ^ 32 - 1

/-- `u16::try_from(i).unwrap_or(u16::MAX)`. -/
def toU16OrMax (i : Nat) : UInt16 := if i < 2 ^ 16 then UInt16.ofNat i else 65535

def saturatingAddU16 (a b : UInt16) : UInt16 :=
  if a.toNat + b.toNat < 2 ^ 16 then a + b else 65535

/-- `a.div_ceil(b)`. -/
def divCeil (a b : Nat) : Nat := if 0 < a % b then a / b + 1 else a / b

def universesFor (pixels : UInt32) (start : UInt16) : List UInt16 :=
  let per := toU32OrMax maxRgbPixelsPerUniverse
  let count := max (divCeil pixels.toNat per) 1
  (List.range count).map fun i => saturatingAddU16 start (toU16OrMax i)

/-- The number of universes a strip takes. -/
def universeCount (pixels : Nat) : Nat := max 1 ((pixels + 169) / 170)

theorem universeCount_tight (pixels : Nat) :
    170 * (universeCount pixels - 1) < max pixels 1 ∧
      max pixels 1 ≤ 170 * universeCount pixels := by
  unfold universeCount
  omega

theorem universesFor_eq (pixels : UInt32) (start : UInt16) :
    universesFor pixels start = (List.range (universeCount pixels.toNat)).map
      fun i => saturatingAddU16 start (toU16OrMax i) := by
  have hcount : max (divCeil pixels.toNat (toU32OrMax maxRgbPixelsPerUniverse)) 1 =
      universeCount pixels.toNat := by
    have hper : toU32OrMax maxRgbPixelsPerUniverse = 170 := by decide
    rw [hper]
    unfold divCeil universeCount
    split <;> omega
  rw [universesFor, hcount]

theorem length_universesFor (pixels : UInt32) (start : UInt16) :
    (universesFor pixels start).length = universeCount pixels.toNat := by
  simp [universesFor_eq]

/-- An entry stops growing at the largest `u16`. -/
theorem toNat_entry (start : UInt16) (i : Nat) :
    (saturatingAddU16 start (toU16OrMax i)).toNat = min (start.toNat + i) 65535 := by
  have hstart := start.toNat_lt
  have hi : (toU16OrMax i).toNat = min i 65535 := by
    unfold toU16OrMax
    split
    · rw [UInt16.toNat_ofNat']
      omega
    · change 65535 = min i 65535
      omega
  unfold saturatingAddU16
  split
  · rw [UInt16.toNat_add]
    omega
  · change 65535 = min (start.toNat + i) 65535
    omega

/-- The list is accepted when it fits, and only then. -/
theorem acceptable_universesFor_iff (pixels : UInt32) (start : UInt16) :
    Acceptable (universesFor pixels start) defaultPriority ↔
      universeCount pixels.toNat ≤ 64 ∧ 1 ≤ start.toNat ∧
        start.toNat + universeCount pixels.toNat - 1 ≤ 63999 := by
  have hpos : 1 ≤ universeCount pixels.toNat := Nat.le_max_left 1 _
  have hlegal : (∀ u ∈ universesFor pixels start, legalUniverse u = true) ↔
      ∀ i < universeCount pixels.toNat, 1 ≤ min (start.toNat + i) 65535 ∧
        min (start.toNat + i) 65535 ≤ 63999 := by
    simp only [universesFor_eq, List.forall_mem_map, List.mem_range, legalUniverse_iff, toNat_entry]
  constructor
  · rintro ⟨-, hfew, hall, -⟩
    rw [length_universesFor] at hfew
    have hfew' : universeCount pixels.toNat ≤ 64 := hfew
    have hfirst := hlegal.mp hall 0 hpos
    have hlast := hlegal.mp hall (universeCount pixels.toNat - 1) (by omega)
    omega
  · rintro ⟨hfew, hstart, hend⟩
    refine ⟨?_, ?_, hlegal.mpr fun i hi => by omega, by decide⟩
    · rw [← List.length_pos_iff, length_universesFor]
      exact hpos
    · rw [length_universesFor]
      exact hfew

/-- An accepted list counts up from the start without gap or repetition. -/
theorem toNat_universesFor {pixels : UInt32} {start : UInt16}
    (h : Acceptable (universesFor pixels start) defaultPriority) :
    (universesFor pixels start).map UInt16.toNat =
      (List.range (universeCount pixels.toNat)).map (fun i => start.toNat + i) := by
  obtain ⟨-, -, hend⟩ := (acceptable_universesFor_iff pixels start).mp h
  rw [universesFor_eq, List.map_map]
  refine List.map_congr_left fun i hi => ?_
  rw [List.mem_range] at hi
  rw [Function.comp_apply, toNat_entry]
  omega

/-- Partitioning a strip over its own universes drops no pixel and fills every universe
but the last. -/
theorem slotBuffers_universeCount (A : F32Arith) (pixels : List Rgb) :
    (slotBuffers A pixels (universeCount pixels.length)).flatten =
        pixels.flatMap (pixelBytes A) ∧
      ∀ i, i + 1 < universeCount pixels.length →
        (slotBuffers A pixels (universeCount pixels.length))[i]?.map List.length = some 510 := by
  have hmax : maxRgbPixelsPerUniverse = 170 := rfl
  obtain ⟨hlow, hhigh⟩ := universeCount_tight pixels.length
  constructor
  · rw [flatten_slotBuffers, List.take_of_length_le (by rw [hmax]; omega)]
  · intro i hi
    rw [length_getElem?_slotBuffers A (by omega), hmax]
    congr 1
    omega

/-- The derived list is accepted exactly when it stays inside the legal range and the
universe limit; then it is consecutive and as long as the strip needs. -/
theorem universesFor_sound_complete (A : F32Arith) (pixels : UInt32) (start : UInt16)
    (config : SacnAdapterBuilder) (freshCid : Uuid) :
    let n := universeCount pixels.toNat
    let configured := (config.setUniverses (universesFor pixels start)).setPriority defaultPriority
    ((∃ adapter, configured.build freshCid = .ok (.ok adapter)) ↔
      n ≤ 64 ∧ 1 ≤ start.toNat ∧ start.toNat + n - 1 ≤ 63999) ∧
    ∀ adapter, configured.build freshCid = .ok (.ok adapter) →
      adapter.universes = universesFor pixels start ∧
      (universesFor pixels start).map UInt16.toNat =
        (List.range n).map (fun i => start.toNat + i) ∧
      (universesFor pixels start).Pairwise (· < ·) ∧
      170 * (n - 1) < max pixels.toNat 1 ∧ max pixels.toNat 1 ≤ 170 * n ∧
      ∀ strip : List Rgb, strip.length = pixels.toNat →
        ∃ buffers, partitionRgb A strip adapter.universes.length = .ok buffers ∧
          buffers.flatten = strip.flatMap (pixelBytes A) ∧
          ∀ i, i + 1 < n → buffers[i]?.map List.length = some 510 := by
  intro n configured
  obtain ⟨hlow, hhigh⟩ := universeCount_tight pixels.toNat
  constructor
  · rw [← acceptable_universesFor_iff]
    constructor
    · rintro ⟨adapter, built⟩
      exact acceptable_of_build built
    · intro h
      have h' : Acceptable configured.universes configured.priority := h
      obtain ⟨adapter, built, -⟩ := build_accepts h' freshCid
      exact ⟨adapter, built⟩
  · intro adapter built
    have h : Acceptable (universesFor pixels start) defaultPriority := acceptable_of_build built
    obtain ⟨-, huniverses, -⟩ := built_spec built
    have hlist := toNat_universesFor h
    refine ⟨huniverses, hlist, ?_, hlow, hhigh, ?_⟩
    · have hincreasing : ((universesFor pixels start).map UInt16.toNat).Pairwise (· < ·) := by
        rw [hlist, List.pairwise_map]
        exact List.pairwise_lt_range.imp fun hij => by omega
      exact (List.pairwise_map.mp hincreasing).imp fun hlt => UInt16.lt_iff_toNat_lt.mpr hlt
    · intro strip hstrip
      have hn : adapter.universes.length = universeCount strip.length := by
        rw [huniverses, hstrip]
        exact length_universesFor pixels start
      rw [hn]
      refine ⟨_, partitionRgb_eq A strip _, ?_⟩
      obtain ⟨hflatten, hfull⟩ := slotBuffers_universeCount A strip
      refine ⟨hflatten, fun i hi => hfull i ?_⟩
      rw [hstrip]
      exact hi

end CliUniverses
