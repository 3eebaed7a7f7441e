import Audiophore.Core

/-!
# The M1 mapping

`audiophore-engine/src/mapping.rs`: every pixel strip is filled with one colour,
computed from three band levels, the intensity and the beat envelope.
-/

namespace MappingM1

open ExtendedFloat AudiophoreCore

variable (A : F32Arith)

/-- `x.clamp(0.0, 1.0)`. -/
def clamp01 (x : F32) : F32 := x.clamp (.fin 0) (.fin 1)

def buildStripPixels (audio : AudioFrame) (count : Nat) : List Rgb :=
  let intensity := clamp01 audio.intensity
  let beatBoost := A.mul (A.lit (3 / 10)) (clamp01 audio.onBeat)
  let r := clamp01 (A.add (A.mul audio.levels.bass intensity) beatBoost)
  let g := clamp01 (A.add (A.mul audio.levels.mid intensity) beatBoost)
  let b := clamp01 (A.add (A.mul audio.levels.high intensity) beatBoost)
  List.replicate count { r := r, g := g, b := b }

def mapM1 (audio : AudioFrame) (zones : List Zone) (tick : UInt64) : ResolvedFrame :=
  let payloads : ZoneMap := zones.foldl (fun payloads zone =>
    match zone.kind, zone.size with
    | .pixelStrip, .strip count =>
      payloads.insert zone.id (.pixels (buildStripPixels A audio count.toNat))
    | _, _ => payloads) ∅
  { tick := tick, t := audio.t, zones := payloads }

@[simp] theorem mapM1_tick (audio : AudioFrame) (zones : List Zone) (tick : UInt64) :
    (mapM1 A audio zones tick).tick = tick := rfl

/-- One channel of the strip colour, for a level, an intensity and a beat envelope. -/
def channel (level intensity onBeat : F32) : F32 :=
  clamp01 (A.add (A.mul level intensity) (A.mul (A.lit (3 / 10)) onBeat))

/-- The colour of every pixel of every strip. -/
def stripColour (audio : AudioFrame) : Rgb where
  r := channel A audio.levels.bass (clamp01 audio.intensity) (clamp01 audio.onBeat)
  g := channel A audio.levels.mid (clamp01 audio.intensity) (clamp01 audio.onBeat)
  b := channel A audio.levels.high (clamp01 audio.intensity) (clamp01 audio.onBeat)

theorem buildStripPixels_eq (audio : AudioFrame) (count : Nat) :
    buildStripPixels A audio count = List.replicate count (stripColour A audio) := rfl

/-- With intensity and envelope in range the inner clamps do nothing. -/
theorem buildStripPixels_of_within {audio : AudioFrame}
    (hintensity : Flt.Within 0 1 audio.intensity) (hbeat : Flt.Within 0 1 audio.onBeat)
    (count : Nat) :
    buildStripPixels A audio count =
      List.replicate count {
        r := channel A audio.levels.bass audio.intensity audio.onBeat
        g := channel A audio.levels.mid audio.intensity audio.onBeat
        b := channel A audio.levels.high audio.intensity audio.onBeat } := by
  have hi : clamp01 audio.intensity = audio.intensity := Flt.clamp_of_within hintensity
  have hb : clamp01 audio.onBeat = audio.onBeat := Flt.clamp_of_within hbeat
  simp only [buildStripPixels, channel, hi, hb]

/-- A lone strip is the only entry of the result, whatever the iteration order. -/
theorem values_mapM1_strip (audio : AudioFrame) (id : ZoneId) (count : UInt32) (tick : UInt64)
    (order : IterOrder) :
    (mapM1 A audio [⟨id, .pixelStrip, .strip count⟩] tick).zones.values order =
      [.pixels (buildStripPixels A audio count.toNat)] := by
  have hentries : (mapM1 A audio [⟨id, .pixelStrip, .strip count⟩] tick).zones.entries =
      [⟨id, .pixels (buildStripPixels A audio count.toNat)⟩] := rfl
  rw [ZoneMap.values, hentries, List.perm_singleton.mp (order.perm _)]
  rfl

/-- A frame in which nothing but the bass sounds. -/
def bassFrame (bass intensity : F32) : AudioFrame where
  t := .fin 0
  bpm := .fin 120
  bpmConfidence := .fin 0
  beatPhase := .fin 0
  onBeat := .fin 0
  levels := { BandValues.default with bass := bass }
  hits := BandValues.default
  presence := BandValues.default
  intensity := intensity
  fade := .fin 0

end MappingM1
