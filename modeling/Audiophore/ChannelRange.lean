import Audiophore.ZoneCoverage

/-!
# The range of the emitted channels

The outer clamp bounds every number but lets a NaN through. A NaN comes in with a field
of the audio frame, or it is made on the way, as an infinite level times an intensity
of zero.
-/

namespace ChannelRange

open ExtendedFloat AudiophoreCore MappingM1 ZoneCoverage

/-- Every channel of every pixel is a number from zero to one. -/
def InRange (frame : ResolvedFrame) : Prop :=
  ∀ id pixels, frame.zones.lookup id = some (.pixels pixels) → ∀ px ∈ pixels,
    px.r.Within 0 1 ∧ px.g.Within 0 1 ∧ px.b.Within 0 1

/-- A level that the product with the intensity does not turn into a NaN. -/
def LevelOk (intensity level : F32) : Prop :=
  level.isNan = false ∧ (intensity ≤ .fin 0 → level.isFinite = true)

/-- The audio frames whose colour is a colour. -/
structure Presentable (audio : AudioFrame) : Prop where
  onBeat : audio.onBeat.isNan = false
  intensity : audio.intensity.isNan = false
  bass : LevelOk audio.intensity audio.levels.bass
  mid : LevelOk audio.intensity audio.levels.mid
  high : LevelOk audio.intensity audio.levels.high

theorem clamp01_nan {v : F32} (h : v.isNan = true) : clamp01 v = .nan := by
  cases v with
  | nan => rfl
  | negInf => cases h
  | fin x => cases h
  | posInf => cases h

/-- The clamped intensity is zero where the intensity is not positive. -/
theorem clamp01_eq_zero_iff {v : F32} (h : v.isNan = false) {i : ℚ} (hi : clamp01 v = .fin i) :
    i = 0 ↔ v ≤ .fin 0 := by
  cases v with
  | nan => cases h
  | negInf =>
    obtain rfl : 0 = i := Flt.fin.inj hi
    exact iff_of_true rfl trivial
  | posInf =>
    obtain rfl : 1 = i := Flt.fin.inj hi
    exact iff_of_false one_ne_zero id
  | fin x =>
    rw [clamp01, Flt.clamp_fin x 0 1 zero_le_one] at hi
    obtain rfl := Flt.fin.inj hi
    rw [Flt.fin_le_fin]
    constructor
    · intro hmax
      by_contra hx
      have hpos : 0 < min x 1 := lt_min (not_le.mp hx) one_pos
      exact absurd hmax (ne_of_gt (lt_of_lt_of_le hpos (le_max_right _ _)))
    · intro hx
      exact max_eq_left (le_trans (min_le_left _ _) hx)

variable {A : F32Arith}

/-- The flash is a number whenever the envelope is one. -/
theorem boost_within (h : A.Rounding) {v : F32} (hv : v.isNan = false) :
    (A.mul (A.lit (3 / 10)) (clamp01 v)).Within 0 1 :=
  h.mul_unit (h.unit (by norm_num) (by norm_num)) (Flt.clamp_within zero_le_one hv)

/-- One channel is in range exactly when no NaN enters it or arises in it. -/
theorem channel_within_iff (h : A.Rounding) (level intensity onBeat : F32) :
    (channel A level (clamp01 intensity) (clamp01 onBeat)).Within 0 1 ↔
      onBeat.isNan = false ∧ intensity.isNan = false ∧ LevelOk intensity level := by
  rw [channel, clamp01, Flt.clamp_within_iff zero_le_one]
  cases hbeat : onBeat.isNan with
  | true => simp [clamp01_nan hbeat, Flt.isNan]
  | false =>
    obtain ⟨b, hb, -⟩ := boost_within h hbeat
    rw [hb, h.add_fin_isNan]
    cases hint : intensity.isNan with
    | true => simp [clamp01_nan hint, Flt.isNan]
    | false =>
      obtain ⟨i, hi, -⟩ : Flt.Within 0 1 (clamp01 intensity) :=
        Flt.clamp_within zero_le_one hint
      rw [hi, h.mul_fin_isNan, clamp01_eq_zero_iff hint hi]
      simp [LevelOk]

theorem stripColour_within_iff (h : A.Rounding) (audio : AudioFrame) :
    ((stripColour A audio).r.Within 0 1 ∧ (stripColour A audio).g.Within 0 1 ∧
      (stripColour A audio).b.Within 0 1) ↔ Presentable audio := by
  simp only [stripColour, channel_within_iff h]
  constructor
  · rintro ⟨⟨hbeat, hint, hbass⟩, ⟨-, -, hmid⟩, ⟨-, -, hhigh⟩⟩
    exact ⟨hbeat, hint, hbass, hmid, hhigh⟩
  · rintro ⟨hbeat, hint, hbass, hmid, hhigh⟩
    exact ⟨⟨hbeat, hint, hbass⟩, ⟨hbeat, hint, hmid⟩, ⟨hbeat, hint, hhigh⟩⟩

/-- A mapped frame is in range when the audio frame is presentable, and otherwise only
when there is no pixel to show it. -/
theorem mapM1_inRange_iff (h : A.Rounding) (audio : AudioFrame) (zones : List Zone)
    (tick : UInt64) :
    InRange (mapM1 A audio zones tick) ↔
      ((∃ id count, (stripsOf id zones).getLast? = some count ∧ 0 < count) →
        Presentable audio) := by
  constructor
  · rintro hrange ⟨id, count, hlast, hpos⟩
    rw [← stripColour_within_iff h]
    apply hrange id (buildStripPixels A audio count.toNat)
    · rw [lookup_mapM1, hlast]
      rfl
    · rw [buildStripPixels_eq]
      exact List.mem_replicate.mpr ⟨Nat.ne_of_gt (UInt32.lt_iff_toNat_lt.mp hpos), rfl⟩
  · intro himp id pixels hlookup px hpx
    rw [lookup_mapM1, Option.map_eq_some_iff] at hlookup
    obtain ⟨count, hlast, hpixels⟩ := hlookup
    obtain rfl := ZonePayload.pixels.inj hpixels
    rw [buildStripPixels_eq, List.mem_replicate] at hpx
    obtain ⟨hcount, rfl⟩ := hpx
    have hpos : 0 < count := UInt32.lt_iff_toNat_lt.mpr (Nat.pos_of_ne_zero hcount)
    exact (stripColour_within_iff h audio).mpr (himp ⟨id, count, hlast, hpos⟩)

def onePixel : List Zone := [⟨⟨"strip"⟩, .pixelStrip, .strip 1⟩]

theorem mapM1_inRange_iff_silence :
    (Arithmetic.exact ℚ).Rounding ∧
      InRange (mapM1 (Arithmetic.exact ℚ) (bassFrame (.fin 7) (.fin 0)) onePixel 0) := by
  have hexact := (Arithmetic.exact ℚ).rounding_of_exact rfl
  refine ⟨hexact, (mapM1_inRange_iff hexact _ _ _).mpr ?_⟩
  intro _
  constructor
  all_goals simp [LevelOk, bassFrame, BandValues.default, Flt.isNan, Flt.isFinite]

/-- A NaN level, and an infinite one at intensity zero, are passed on as a NaN. -/
theorem nan_is_emitted :
    ¬ InRange (mapM1 (Arithmetic.exact ℚ) (bassFrame .nan (.fin 0)) onePixel 0) ∧
    ¬ InRange (mapM1 (Arithmetic.exact ℚ) (bassFrame .posInf (.fin 0)) onePixel 0) := by
  constructor
  · intro hrange
    obtain ⟨hred, -⟩ := hrange ⟨"strip"⟩ _ rfl _ (List.mem_singleton_self _)
    exact absurd hred.isNan (by decide +kernel)
  · intro hrange
    obtain ⟨hred, -⟩ := hrange ⟨"strip"⟩ _ rfl _ (List.mem_singleton_self _)
    exact absurd hred.isNan (by decide +kernel)

end ChannelRange
