import Audiophore.Core

/-!
# The frame accumulator

`audiophore-audio/src/frame.rs`: one builder keeps the last accepted value of
every field. Each setter stores a clamped value, a snapshot copies all fields
and changes none. Logging is left out.
-/

namespace FrameBuilder

open ExtendedFloat AudiophoreCore

def bpmMin : F32 := .fin 50
def bpmMax : F32 := .fin 220

inductive Band where
  | whole
  | bass
  | mid
  | midHigh
  | high
  deriving DecidableEq

structure AudioFrameBuilder where
  t : F64
  bpm : F32
  bpmConfidence : F32
  beatPhase : F32
  onBeat : F32
  levels : BandValues
  hits : BandValues
  presence : BandValues
  intensity : F32
  fade : F32
  deriving DecidableEq

/-- Clamp to `0..=1`, a NaN counting as `0`. -/
def clampUnit (v : F32) : F32 :=
  if v.isNan then .fin 0 else v.clamp (.fin 0) (.fin 1)

def clampWithLog (v lo hi : F32) : F32 :=
  if v.isNan then lo else v.clamp lo hi

def setBand (bands : BandValues) (band : Band) (v : F32) : BandValues :=
  let v := clampUnit v
  match band with
  | .whole => { bands with whole := v }
  | .bass => { bands with bass := v }
  | .mid => { bands with mid := v }
  | .midHigh => { bands with midHigh := v }
  | .high => { bands with high := v }

namespace AudioFrameBuilder

def new : AudioFrameBuilder where
  t := .fin 0
  bpm := .fin 120
  bpmConfidence := .fin 0
  beatPhase := .fin 0
  onBeat := .fin 0
  levels := .default
  hits := .default
  presence := .default
  intensity := .fin 0
  fade := .fin 1

variable (self : AudioFrameBuilder)

/-- A timestamp that is not finite or is negative is ignored. -/
def setT (t : F64) : AudioFrameBuilder :=
  if t.isFinite = true ∧ .fin 0 ≤ t then { self with t := t } else self

def setBpm (bpm : F32) : AudioFrameBuilder :=
  { self with bpm := clampWithLog bpm bpmMin bpmMax }

def setBpmConfidence (v : F32) : AudioFrameBuilder := { self with bpmConfidence := clampUnit v }

def setBeatPhase (v : F32) : AudioFrameBuilder := { self with beatPhase := clampUnit v }

def setOnBeat (v : F32) : AudioFrameBuilder := { self with onBeat := clampUnit v }

def setLevel (band : Band) (v : F32) : AudioFrameBuilder :=
  { self with levels := setBand self.levels band v }

def setHit (band : Band) (v : F32) : AudioFrameBuilder :=
  { self with hits := setBand self.hits band v }

def setPresence (band : Band) (v : F32) : AudioFrameBuilder :=
  { self with presence := setBand self.presence band v }

def setIntensity (v : F32) : AudioFrameBuilder := { self with intensity := clampUnit v }

def setFade (v : F32) : AudioFrameBuilder := { self with fade := clampUnit v }

/-- The frame handed out, and the builder left behind. -/
def snapshot : AudioFrame × AudioFrameBuilder :=
  ({ t := self.t, bpm := self.bpm, bpmConfidence := self.bpmConfidence,
     beatPhase := self.beatPhase, onBeat := self.onBeat, levels := self.levels,
     hits := self.hits, presence := self.presence, intensity := self.intensity,
     fade := self.fade }, self)

end AudioFrameBuilder

/-- A finite number of the unit interval. -/
def InUnit (v : F32) : Prop := v.Within 0 1

structure BandsInUnit (bands : BandValues) : Prop where
  whole : InUnit bands.whole
  bass : InUnit bands.bass
  mid : InUnit bands.mid
  midHigh : InUnit bands.midHigh
  high : InUnit bands.high

/-- The documented range of every field of a frame. -/
structure InRange (frame : AudioFrame) : Prop where
  t : frame.t.isFinite = true ∧ .fin 0 ≤ frame.t
  bpm : frame.bpm.Within 50 220
  bpmConfidence : InUnit frame.bpmConfidence
  beatPhase : InUnit frame.beatPhase
  onBeat : InUnit frame.onBeat
  levels : BandsInUnit frame.levels
  hits : BandsInUnit frame.hits
  presence : BandsInUnit frame.presence
  intensity : InUnit frame.intensity
  fade : InUnit frame.fade

/-- A builder none of whose fields can leave its range. -/
abbrev AudioFrameBuilder.Safe (b : AudioFrameBuilder) : Prop := InRange b.snapshot.1

theorem clampUnit_inUnit (v : F32) : InUnit (clampUnit v) := by
  unfold clampUnit
  split
  · exact ⟨0, rfl, le_rfl, zero_le_one⟩
  · rename_i hv
    exact Flt.clamp_within zero_le_one (by simpa using hv)

theorem clampWithLog_within {lo hi : ℚ} (h : lo ≤ hi) (v : F32) :
    (clampWithLog v (.fin lo) (.fin hi)).Within lo hi := by
  unfold clampWithLog
  split
  · exact ⟨lo, rfl, le_rfl, h⟩
  · rename_i hv
    exact Flt.clamp_within h (by simpa using hv)

theorem setBand_inUnit {bands : BandValues} (h : BandsInUnit bands) (band : Band) (v : F32) :
    BandsInUnit (setBand bands band v) := by
  have hv := clampUnit_inUnit v
  cases band with
  | whole => exact { h with whole := hv }
  | bass => exact { h with bass := hv }
  | mid => exact { h with mid := hv }
  | midHigh => exact { h with midHigh := hv }
  | high => exact { h with high := hv }

namespace AudioFrameBuilder
variable {b : AudioFrameBuilder}

theorem new_safe : new.Safe := by
  have zero : InUnit (.fin 0) := ⟨0, rfl, le_rfl, zero_le_one⟩
  have one : InUnit (.fin 1) := ⟨1, rfl, zero_le_one, le_rfl⟩
  have bands : BandsInUnit .default := ⟨zero, zero, zero, zero, zero⟩
  exact ⟨⟨rfl, le_refl (0 : ℚ)⟩, ⟨120, rfl, by norm_num, by norm_num⟩, zero, zero, zero, bands,
    bands, bands, zero, one⟩

theorem setT_safe (h : b.Safe) (t : F64) : (b.setT t).Safe := by
  unfold setT
  split
  · rename_i ht
    exact { h with t := ht }
  · exact h

theorem setBpm_safe (h : b.Safe) (v : F32) : (b.setBpm v).Safe :=
  { h with bpm := clampWithLog_within (by norm_num) v }

theorem setBpmConfidence_safe (h : b.Safe) (v : F32) : (b.setBpmConfidence v).Safe :=
  { h with bpmConfidence := clampUnit_inUnit v }

theorem setBeatPhase_safe (h : b.Safe) (v : F32) : (b.setBeatPhase v).Safe :=
  { h with beatPhase := clampUnit_inUnit v }

theorem setOnBeat_safe (h : b.Safe) (v : F32) : (b.setOnBeat v).Safe :=
  { h with onBeat := clampUnit_inUnit v }

theorem setLevel_safe (h : b.Safe) (band : Band) (v : F32) : (b.setLevel band v).Safe :=
  { h with levels := setBand_inUnit h.levels band v }

theorem setHit_safe (h : b.Safe) (band : Band) (v : F32) : (b.setHit band v).Safe :=
  { h with hits := setBand_inUnit h.hits band v }

theorem setPresence_safe (h : b.Safe) (band : Band) (v : F32) : (b.setPresence band v).Safe :=
  { h with presence := setBand_inUnit h.presence band v }

theorem setIntensity_safe (h : b.Safe) (v : F32) : (b.setIntensity v).Safe :=
  { h with intensity := clampUnit_inUnit v }

theorem setFade_safe (h : b.Safe) (v : F32) : (b.setFade v).Safe :=
  { h with fade := clampUnit_inUnit v }

end AudioFrameBuilder
end FrameBuilder
