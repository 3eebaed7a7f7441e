import Audiophore.Core
import Audiophore.RustExec

/-!
# The contract of an output adapter

`audiophore-adapter-core`. Each asynchronous call is a function of the adapter's
state and of what its environment answered during the call.
-/

namespace AdapterCore

open AudiophoreCore RustExec

universe u v

inductive Capability where
  | rgb
  | dimmer
  | strobe
  | pixelStrip
  | pixelGrid
  | dmxRaw
  | laserVector
  | highRate
  deriving DecidableEq

/-- The text of a `std::io::Error`. -/
abbrev IoError := String

inductive AdapterError where
  | connect (reason : String)
  | render (reason : String)
  | io (error : IoError)
  | protocol (reason : String)
  deriving DecidableEq

def AdapterError.text : AdapterError → String
  | connect r => s!"connect failed: {r}"
  | render r => s!"render failed: {r}"
  | io e => s!"io: {e}"
  | protocol r => s!"protocol: {r}"

/-- A period in nanoseconds. -/
abbrev Duration := Nat

/-- A reading of the monotonic clock, in nanoseconds. -/
abbrev Instant := Nat

/-- The part of the trait that the render loop calls, over adapter states `σ`. -/
structure OutputAdapter (σ : Type u) (ε : Type v) where
  nativeRate : σ → Duration
  connect : σ → ε → Exec (σ × Except AdapterError Unit)
  render : σ → ResolvedFrame → ε → Exec (σ × Except AdapterError Unit)
  disconnect : σ → ε → Exec (σ × Except AdapterError Unit)

end AdapterCore
