import Audiophore.SlotLayout
import Audiophore.ZoneCoverage

/-!
# Brightness of the mapped strips

Two audio frames side by side, from the band levels to the bytes of the slot buffers.
Every stage on the way keeps the order: the product with the intensity, the flash, the
clamp, the gamma curve and the rounding to a byte. A colour channel sees one level only.
-/

namespace Brightness

open ExtendedFloat AudiophoreCore ListChunks MappingM1 SacnPacket SacnOutput SacnRender
open ZoneCoverage SlotLayout

/-- The exponent of the gamma curve. -/
def gammaExponent (A : F32Arith) : F32 := A.div (A.lit 1) (A.lit (11 / 5))

/-- The power with that exponent is a monotone curve on the unit interval. -/
structure Curve (A : F32Arith) : Prop where
  unit : ∀ v : F32, v.Within 0 1 → (A.powf v (gammaExponent A)).Within 0 1
  mono : ∀ v w : F32, v.Within 0 1 → w.Within 0 1 → v ≤ w →
    A.powf v (gammaExponent A) ≤ A.powf w (gammaExponent A)

/-- The five values that the mapping reads lie between zero and one. -/
structure Moderate (audio : AudioFrame) : Prop where
  bass : audio.levels.bass.Within 0 1
  mid : audio.levels.mid.Within 0 1
  high : audio.levels.high.Within 0 1
  intensity : audio.intensity.Within 0 1
  onBeat : audio.onBeat.Within 0 1

structure Quieter (a b : AudioFrame) : Prop where
  bass : a.levels.bass ≤ b.levels.bass
  mid : a.levels.mid ≤ b.levels.mid
  high : a.levels.high ≤ b.levels.high
  intensity : a.intensity ≤ b.intensity
  onBeat : a.onBeat ≤ b.onBeat

/-- The drive that all channels share. -/
def SameDrive (a b : AudioFrame) : Prop := a.intensity = b.intensity ∧ a.onBeat = b.onBeat

variable {A : F32Arith}

/-! ## One channel -/

theorem gammaEncode_of_within {v : F32} (hv : v.Within 0 1) :
    gammaEncode A v = (A.mul (A.powf v (gammaExponent A)) (A.lit 255)).roundHalfAway.toU8 := by
  simp only [gammaEncode, hv.isNan, Bool.false_eq_true, if_false, Flt.clamp_of_within hv]
  rfl

theorem gammaEncode_mono (hA : A.Rounding) (hcurve : Curve A) {v w : F32} (hv : v.Within 0 1)
    (hw : w.Within 0 1) (hvw : v ≤ w) : gammaEncode A v ≤ gammaEncode A w := by
  have hpow := hcurve.mono v w hv hw hvw
  obtain ⟨x, hx, hx0, hx1⟩ := hcurve.unit v hv
  obtain ⟨y, hy, hy0, hy1⟩ := hcurve.unit w hw
  have h255 : A.lit 255 = .fin 255 := hA.nat 255 le_rfl
  have hscaled : ∀ z : ℚ, 0 ≤ z → z ≤ 1 → ∃ s : ℚ, A.mul (.fin z) (.fin 255) = .fin s ∧ 0 ≤ s := by
    intro z hz0 hz1
    obtain ⟨s, hs, hs0, -⟩ := hA.within (m := 0) (n := 255) (x := z * 255) (by decide) le_rfl
      (by simpa using hz0) (by simpa using hz1)
    exact ⟨s, hs, by simpa using hs0⟩
  obtain ⟨s, hs, hs0⟩ := hscaled x hx0 hx1
  obtain ⟨t, ht, -⟩ := hscaled y hy0 hy1
  have hmul : A.mul (.fin x) (.fin 255) ≤ A.mul (.fin y) (.fin 255) := by
    rw [hx, hy] at hpow
    exact hA.mul_mono (by norm_num) hy0 hpow le_rfl
  rw [gammaEncode_of_within hv, gammaEncode_of_within hw, hx, hy, h255, hs, ht]
  rw [hs, ht] at hmul
  exact Flt.toU8_roundHalfAway_mono hs0 hmul

/-- With everything in range a channel is in range and grows with what it is made of. -/
theorem channel_mono (hA : A.Rounding) {l i o l' i' o' : F32} (hl : l.Within 0 1)
    (hi : i.Within 0 1) (ho : o.Within 0 1) (hl' : l'.Within 0 1) (hi' : i'.Within 0 1)
    (ho' : o'.Within 0 1) (hll : l ≤ l') (hii : i ≤ i') (hoo : o ≤ o') :
    (channel A l i o).Within 0 1 ∧ (channel A l' i' o').Within 0 1 ∧
      channel A l i o ≤ channel A l' i' o' := by
  have hlit : (A.lit (3 / 10)).Within 0 1 := hA.unit (by norm_num) (by norm_num)
  have hproduct : A.mul l i ≤ A.mul l' i' := by
    obtain ⟨x, rfl, hx0, -⟩ := hl
    obtain ⟨y, rfl, hy0, -⟩ := hi
    obtain ⟨x', rfl, hx'0, -⟩ := hl'
    obtain ⟨y', rfl, -⟩ := hi'
    exact hA.mul_mono hy0 hx'0 hll hii
  have hboost : A.mul (A.lit (3 / 10)) o ≤ A.mul (A.lit (3 / 10)) o' := by
    obtain ⟨x, hx, hx0, -⟩ := hlit
    obtain ⟨y, rfl, hy0, -⟩ := ho
    obtain ⟨y', rfl, -⟩ := ho'
    rw [hx]
    exact hA.mul_mono hy0 hx0 le_rfl hoo
  have hsum : A.add (A.mul l i) (A.mul (A.lit (3 / 10)) o) ≤
      A.add (A.mul l' i') (A.mul (A.lit (3 / 10)) o') := by
    obtain ⟨p, hp, -⟩ := hA.mul_unit hl hi
    obtain ⟨q, hq, -⟩ := hA.mul_unit hlit ho
    obtain ⟨p', hp', -⟩ := hA.mul_unit hl' hi'
    obtain ⟨q', hq', -⟩ := hA.mul_unit hlit ho'
    rw [hp, hp'] at hproduct
    rw [hq, hq'] at hboost
    rw [hp, hq, hp', hq']
    exact hA.add_mono hproduct hboost
  obtain ⟨hleft, hright⟩ := Flt.isNan_of_le hsum
  exact ⟨Flt.clamp_within zero_le_one hleft, Flt.clamp_within zero_le_one hright,
    Flt.clamp_mono zero_le_one hsum⟩

theorem channelByte_mono (hA : A.Rounding) (hcurve : Curve A) {l i o l' i' o' : F32}
    (hl : l.Within 0 1) (hi : i.Within 0 1) (ho : o.Within 0 1) (hl' : l'.Within 0 1)
    (hi' : i'.Within 0 1) (ho' : o'.Within 0 1) (hll : l ≤ l') (hii : i ≤ i') (hoo : o ≤ o') :
    gammaEncode A (channel A l (clamp01 i) (clamp01 o)) ≤
      gammaEncode A (channel A l' (clamp01 i') (clamp01 o')) := by
  have hsame : ∀ {v : F32}, v.Within 0 1 → clamp01 v = v := Flt.clamp_of_within
  rw [hsame hi, hsame ho, hsame hi', hsame ho']
  obtain ⟨hv, hw, hvw⟩ := channel_mono hA hl hi ho hl' hi' ho' hll hii hoo
  exact gammaEncode_mono hA hcurve hv hw hvw

/-! ## One pixel -/

theorem pixelBytes_mono (hA : A.Rounding) (hcurve : Curve A) {a b : AudioFrame}
    (ha : Moderate a) (hb : Moderate b) (hab : Quieter a b) :
    List.Forall₂ (· ≤ ·) (pixelBytes A (stripColour A a)) (pixelBytes A (stripColour A b)) := by
  have hbyte := @channelByte_mono A hA hcurve
  constructor
  · exact hbyte ha.bass ha.intensity ha.onBeat hb.bass hb.intensity hb.onBeat hab.bass
      hab.intensity hab.onBeat
  constructor
  · exact hbyte ha.mid ha.intensity ha.onBeat hb.mid hb.intensity hb.onBeat hab.mid
      hab.intensity hab.onBeat
  constructor
  · exact hbyte ha.high ha.intensity ha.onBeat hb.high hb.intensity hb.onBeat hab.high
      hab.intensity hab.onBeat
  · exact .nil

/-- Offset `c` of a strip's pixel, for channel `c`. -/
theorem getElem?_stripBuffers (count n i j : Nat) {c : Nat} (hc : c < 3) (px : Rgb) :
    ((slotBuffers A (List.replicate count px) n)[i]?.bind fun buffer => buffer[3 * j + c]?) =
      if i < n ∧ j < min maxRgbPixelsPerUniverse (count - maxRgbPixelsPerUniverse * i)
        then (pixelBytes A px)[c]? else none := by
  have hlen : ∀ px, (pixelBytes A px).length = 3 := fun _ => rfl
  by_cases hi : i < n
  · rw [getElem?_slotBuffers A hi, Option.bind_some, getElem?_flatMap hlen _ _ hc, window,
      List.drop_replicate, List.take_replicate, List.getElem?_replicate]
    by_cases hj : j < min maxRgbPixelsPerUniverse (count - maxRgbPixelsPerUniverse * i)
    · rw [if_pos hj, if_pos ⟨hi, hj⟩]
      rfl
    · rw [if_neg hj, if_neg fun h => hj h.2]
      rfl
  · rw [if_neg fun h => hi h.1, List.getElem?_eq_none (by simpa using hi)]
    rfl

/-- Colours that agree in one channel give the same bytes at its offsets. -/
theorem stripBuffers_congr (count n : Nat) {c : Nat} (hc : c < 3) {px px' : Rgb}
    (h : (pixelBytes A px)[c]? = (pixelBytes A px')[c]?) (i j : Nat) :
    ((slotBuffers A (List.replicate count px) n)[i]?.bind fun buffer => buffer[3 * j + c]?) =
      (slotBuffers A (List.replicate count px') n)[i]?.bind fun buffer => buffer[3 * j + c]? := by
  rw [getElem?_stripBuffers count n i j hc, getElem?_stripBuffers count n i j hc, h]

/-- For every strip of every zone list, the buffers of the louder frame are nowhere
darker, frames that agree on the five values have the same buffers, and red, green and
blue each follow a single band. Exact arithmetic is one of the roundings meant. -/
theorem louder_never_darker (hA : A.Rounding) (hcurve : Curve A) (a b : AudioFrame)
    (zones : List Zone) (tick tick' : UInt64) (n : Nat) (zone : Zone) (hzone : zone ∈ zones)
    (hstrip : (stripCount zone).isSome = true) :
    ∃ pixels pixels' buffers buffers',
      (mapM1 A a zones tick).zones.lookup zone.id = some (.pixels pixels) ∧
      (mapM1 A b zones tick').zones.lookup zone.id = some (.pixels pixels') ∧
      partitionRgb A pixels n = .ok buffers ∧ partitionRgb A pixels' n = .ok buffers' ∧
      (Moderate a → Moderate b → Quieter a b →
        List.Forall₂ (List.Forall₂ (· ≤ ·)) buffers buffers') ∧
      (a.levels.bass = b.levels.bass → a.levels.mid = b.levels.mid →
        a.levels.high = b.levels.high → SameDrive a b → buffers = buffers') ∧
      (a.levels.bass = b.levels.bass → SameDrive a b → ∀ i j : Nat,
        (buffers[i]?.bind (·[3 * j]?)) = buffers'[i]?.bind (·[3 * j]?)) ∧
      (a.levels.mid = b.levels.mid → SameDrive a b → ∀ i j : Nat,
        (buffers[i]?.bind (·[3 * j + 1]?)) = buffers'[i]?.bind (·[3 * j + 1]?)) ∧
      (a.levels.high = b.levels.high → SameDrive a b → ∀ i j : Nat,
        (buffers[i]?.bind (·[3 * j + 2]?)) = buffers'[i]?.bind (·[3 * j + 2]?)) := by
  obtain ⟨count, hcount⟩ := exists_last_strip hzone hstrip
  have hlookup : ∀ audio tick, (mapM1 A audio zones tick).zones.lookup zone.id =
      some (.pixels (List.replicate count.toNat (stripColour A audio))) := by
    intro audio tick
    rw [lookup_mapM1, hcount]
    rfl
  refine ⟨_, _, _, _, hlookup a tick, hlookup b tick', partitionRgb_eq A _ n,
    partitionRgb_eq A _ n, ?_, ?_, ?_, ?_, ?_⟩
  · intro ha hb hab
    apply slotBuffers_rel
    have hpx := pixelBytes_mono hA hcurve ha hb hab
    exact List.forall₂_iff_get.mpr ⟨by simp, by simpa using fun _ _ => hpx⟩
  · rintro hbass hmid hhigh ⟨hint, hbeat⟩
    rw [stripColour, stripColour, hbass, hmid, hhigh, hint, hbeat]
  · rintro hband ⟨hint, hbeat⟩
    exact stripBuffers_congr count.toNat n (c := 0) (by decide)
      (by simp [pixelBytes, stripColour, hband, hint, hbeat])
  · rintro hband ⟨hint, hbeat⟩
    exact stripBuffers_congr count.toNat n (by decide)
      (by simp [pixelBytes, stripColour, hband, hint, hbeat])
  · rintro hband ⟨hint, hbeat⟩
    exact stripBuffers_congr count.toNat n (by decide)
      (by simp [pixelBytes, stripColour, hband, hint, hbeat])

/-- A quieter bass on two pixels. -/
theorem louder_never_darker_bass :
    ∃ pixels pixels' buffers buffers',
      (mapM1 (Arithmetic.exact ℚ) (bassFrame (.fin 0) (.fin 1)) [⟨⟨"strip"⟩, .pixelStrip, .strip 2⟩]
        0).zones.lookup ⟨"strip"⟩ = some (.pixels pixels) ∧
      (mapM1 (Arithmetic.exact ℚ) (bassFrame (.fin 1) (.fin 1)) [⟨⟨"strip"⟩, .pixelStrip, .strip 2⟩]
        0).zones.lookup ⟨"strip"⟩ = some (.pixels pixels') ∧
      partitionRgb (Arithmetic.exact ℚ) pixels 1 = .ok buffers ∧
      partitionRgb (Arithmetic.exact ℚ) pixels' 1 = .ok buffers' ∧
      List.Forall₂ (List.Forall₂ (· ≤ ·)) buffers buffers' := by
  have hcurve : Curve (Arithmetic.exact ℚ) := ⟨fun _ h => h, fun _ _ _ _ h => h⟩
  have hunit : ∀ x : ℚ, 0 ≤ x → x ≤ 1 → Flt.Within 0 1 (Flt.fin x) :=
    fun x h0 h1 => ⟨x, rfl, h0, h1⟩
  have hzero := hunit 0 le_rfl zero_le_one
  have hone := hunit 1 zero_le_one le_rfl
  obtain ⟨pixels, pixels', buffers, buffers', hpixels, hpixels', hbuffers, hbuffers', hle, -⟩ :=
    louder_never_darker ((Arithmetic.exact ℚ).rounding_of_exact rfl) hcurve
      (bassFrame (.fin 0) (.fin 1)) (bassFrame (.fin 1) (.fin 1))
      [⟨⟨"strip"⟩, .pixelStrip, .strip 2⟩] 0 0 1 ⟨⟨"strip"⟩, .pixelStrip, .strip 2⟩
      (List.mem_singleton_self _) rfl
  refine ⟨pixels, pixels', buffers, buffers', hpixels, hpixels', hbuffers, hbuffers', ?_⟩
  apply hle
  · exact ⟨hzero, hzero, hzero, hone, hzero⟩
  · exact ⟨hone, hzero, hzero, hone, hzero⟩
  · exact ⟨zero_le_one' ℚ, le_refl (0 : ℚ), le_refl (0 : ℚ), le_refl (1 : ℚ), le_refl (0 : ℚ)⟩

end Brightness
