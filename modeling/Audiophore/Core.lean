import Audiophore.ExtendedFloat
import Mathlib.Data.List.AList

/-!
# The shared vocabulary

The data of `audiophore-core`: audio frames, zones and resolved frames. Both
float widths are extended rationals. The zone table of a resolved frame is an
association list without repeated keys; the order of its entries carries no
meaning, and a consumer that iterates over the table meets them in an order the
environment chooses.
-/

namespace AudiophoreCore

open ExtendedFloat

abbrev F32 := Flt ℚ
abbrev F64 := Flt ℚ

/-- The `f32` arithmetic the program runs on. -/
abbrev F32Arith := Arithmetic ℚ

/-- One value for each band. -/
structure BandValues where
  whole : F32
  bass : F32
  mid : F32
  midHigh : F32
  high : F32
  deriving DecidableEq

def BandValues.default : BandValues := ⟨.fin 0, .fin 0, .fin 0, .fin 0, .fin 0⟩

/-- A snapshot of the audio analysis state. -/
structure AudioFrame where
  t : F64
  bpm : F32
  bpmConfidence : F32
  beatPhase : F32
  onBeat : F32
  levels : BandValues
  hits : BandValues
  presence : BandValues
  intensity : F32
  fade : F32
  deriving DecidableEq

/-- Linear colour. -/
structure Rgb where
  r : F32
  g : F32
  b : F32
  deriving DecidableEq

structure ZoneId where
  name : String
  deriving DecidableEq

inductive ZoneKind where
  | pixelStrip
  | pixelGrid
  | fixture
  | dmxUniverse
  | laserVector
  deriving DecidableEq

inductive ZoneSize where
  | strip (count : UInt32)
  | grid (w h : UInt32)
  | channels (count : UInt16)
  | single
  deriving DecidableEq

structure Zone where
  id : ZoneId
  kind : ZoneKind
  size : ZoneSize
  deriving DecidableEq

structure LaserPoint where
  x : Int16
  y : Int16
  r : UInt16
  g : UInt16
  b : UInt16
  blank : Bool
  deriving DecidableEq

inductive ZonePayload where
  | pixels (px : List Rgb)
  | channels (bytes : List UInt8)
  | fixture (color : Rgb) (intensity : F32)
  | laserPoints (points : List LaserPoint)
  deriving DecidableEq

/-- `HashMap<ZoneId, ZonePayload>`. -/
abbrev ZoneMap := AList (fun _ : ZoneId => ZonePayload)

/-- The mapping layer's output for one tick. -/
structure ResolvedFrame where
  tick : UInt64
  t : F64
  zones : ZoneMap
  deriving DecidableEq

def ResolvedFrame.default : ResolvedFrame := ⟨0, .fin 0, ∅⟩

/-- The order in which a hash map hands out its entries. -/
structure IterOrder where
  arrange : List (Sigma fun _ : ZoneId => ZonePayload) → List (Sigma fun _ : ZoneId => ZonePayload)
  perm : ∀ entries, (arrange entries).Perm entries

def IterOrder.asStored : IterOrder := ⟨id, fun _ => List.Perm.refl _⟩

/-- `frame.zones.values()`. -/
def ZoneMap.values (zones : ZoneMap) (order : IterOrder) : List ZonePayload :=
  (order.arrange zones.entries).map Sigma.snd

end AudiophoreCore
