import Mathlib.Algebra.Order.Field.Basic
import Mathlib.Algebra.Order.Floor.Ring
import Mathlib.Data.Rat.Floor

/-!
# Floating-point numbers as extended ordered numbers

A float is a NaN, an infinity or a finite number of an ordered field. The two
zeros are one value. Every arithmetic result passes through a rounding
function, which may overflow to an infinity; nothing else about the format is
fixed, so a statement about every rounding function covers each binary format.
-/

namespace ExtendedFloat

universe u

inductive Flt (K : Type u) where
  | nan
  | negInf
  | fin (x : K)
  | posInf
  deriving DecidableEq

namespace Flt
variable {K : Type u}

def isNan : Flt K → Bool
  | nan => true
  | _ => false

def isFinite : Flt K → Bool
  | fin _ => true
  | _ => false

section Order
variable [LinearOrder K]

/-- IEEE `<`: a NaN is not comparable with anything. -/
def lt : Flt K → Flt K → Prop
  | negInf, fin _ => True
  | negInf, posInf => True
  | fin _, posInf => True
  | fin x, fin y => x < y
  | _, _ => False

/-- IEEE `<=`: false on a NaN, even against itself. -/
def le : Flt K → Flt K → Prop
  | negInf, negInf => True
  | posInf, posInf => True
  | negInf, fin _ => True
  | negInf, posInf => True
  | fin _, posInf => True
  | fin x, fin y => x ≤ y
  | _, _ => False

instance : LT (Flt K) := ⟨lt⟩
instance : LE (Flt K) := ⟨le⟩

instance decidableLt (a b : Flt K) : Decidable (a < b) :=
  match a, b with
  | fin x, fin y => inferInstanceAs (Decidable (x < y))
  | negInf, fin _ | negInf, posInf | fin _, posInf => isTrue trivial
  | nan, _ | posInf, _ | negInf, nan | negInf, negInf | fin _, nan | fin _, negInf =>
    isFalse id

instance decidableLe (a b : Flt K) : Decidable (a ≤ b) :=
  match a, b with
  | fin x, fin y => inferInstanceAs (Decidable (x ≤ y))
  | negInf, fin _ | negInf, posInf | fin _, posInf | negInf, negInf | posInf, posInf =>
    isTrue trivial
  | nan, _ | posInf, nan | posInf, negInf | posInf, fin _ | negInf, nan | fin _, nan
  | fin _, negInf => isFalse id

@[simp] theorem fin_lt_fin (x y : K) : (fin x : Flt K) < fin y ↔ x < y := Iff.rfl
@[simp] theorem fin_le_fin (x y : K) : (fin x : Flt K) ≤ fin y ↔ x ≤ y := Iff.rfl
@[simp] theorem nan_lt (a : Flt K) : ¬ (nan : Flt K) < a := id
@[simp] theorem negInf_lt_fin (y : K) : (negInf : Flt K) < fin y := trivial
@[simp] theorem fin_lt_posInf (x : K) : (fin x : Flt K) < posInf := trivial
@[simp] theorem posInf_lt (a : Flt K) : ¬ (posInf : Flt K) < a := by cases a <;> exact id
@[simp] theorem lt_negInf (a : Flt K) : ¬ a < (negInf : Flt K) := by cases a <;> exact id
@[simp] theorem lt_nan (a : Flt K) : ¬ a < (nan : Flt K) := by cases a <;> exact id

/-- The clamp of the Rust standard library for bounds `lo <= hi`: two
comparisons in this order, so that a NaN passes through unchanged. -/
def clamp (v lo hi : Flt K) : Flt K :=
  let v := if v < lo then lo else v
  if hi < v then hi else v

/-- A number of the closed interval, neither infinite nor a NaN. -/
def Within (lo hi : K) (v : Flt K) : Prop := ∃ x, v = fin x ∧ lo ≤ x ∧ x ≤ hi

@[simp] theorem clamp_nan (lo hi : Flt K) : clamp nan lo hi = nan := by
  simp [clamp]

theorem clamp_fin (x lo hi : K) (h : lo ≤ hi) :
    clamp (fin x) (fin lo) (fin hi) = fin (max lo (min x hi)) := by
  by_cases hlo : x < lo
  · have hx : min x hi = x := min_eq_left (le_of_lt (lt_of_lt_of_le hlo h))
    simp [clamp, hlo, not_lt.mpr h, hx, max_eq_left (le_of_lt hlo)]
  · by_cases hhi : hi < x
    · simp [clamp, hlo, hhi, min_eq_right (le_of_lt hhi), max_eq_right h]
    · simp [clamp, hlo, hhi, min_eq_left (not_lt.mp hhi), max_eq_right (not_lt.mp hlo)]

/-- Clamping anything but a NaN lands in the interval. -/
theorem clamp_within {v : Flt K} {lo hi : K} (h : lo ≤ hi) (hv : v.isNan = false) :
    Within lo hi (clamp v (fin lo) (fin hi)) := by
  cases v with
  | nan => cases hv
  | negInf => exact ⟨lo, by simp [clamp, not_lt.mpr h], le_rfl, h⟩
  | posInf => exact ⟨hi, by simp [clamp], h, le_rfl⟩
  | fin x =>
    exact ⟨max lo (min x hi), clamp_fin x lo hi h, le_max_left _ _,
      max_le h (min_le_right _ _)⟩

theorem Within.isNan {lo hi : K} {v : Flt K} (h : Within lo hi v) : v.isNan = false := by
  obtain ⟨x, rfl, -⟩ := h
  rfl

/-- Only a NaN escapes a clamp. -/
theorem clamp_within_iff {v : Flt K} {lo hi : K} (h : lo ≤ hi) :
    Within lo hi (clamp v (fin lo) (fin hi)) ↔ v.isNan = false := by
  constructor
  · intro hclamp
    cases v with
    | nan => exact absurd hclamp.isNan (by simp [isNan])
    | negInf => rfl
    | fin x => rfl
    | posInf => rfl
  · exact clamp_within h

theorem isNan_of_le {v w : Flt K} (h : v ≤ w) : v.isNan = false ∧ w.isNan = false := by
  cases v with
  | nan => exact h.elim
  | negInf => cases w <;> first | exact h.elim | exact ⟨rfl, rfl⟩
  | fin x => cases w <;> first | exact h.elim | exact ⟨rfl, rfl⟩
  | posInf => cases w <;> first | exact h.elim | exact ⟨rfl, rfl⟩

/-- Clamping keeps the order. -/
theorem clamp_mono {v w : Flt K} {lo hi : K} (h : lo ≤ hi) (hvw : v ≤ w) :
    clamp v (fin lo) (fin hi) ≤ clamp w (fin lo) (fin hi) := by
  obtain ⟨hv, hw⟩ := isNan_of_le hvw
  obtain ⟨a, ha, hloa, hahi⟩ := clamp_within h hv
  obtain ⟨b, hb, hlob, hbhi⟩ := clamp_within h hw
  cases v with
  | nan => cases hv
  | negInf =>
    have hbot : clamp negInf (fin lo) (fin hi) = fin lo := by simp [clamp, not_lt.mpr h]
    rw [hbot, hb]
    exact hlob
  | posInf =>
    cases w with
    | posInf => rw [ha]; exact le_refl a
    | nan => exact hvw.elim
    | negInf => exact hvw.elim
    | fin y => exact hvw.elim
  | fin x =>
    cases w with
    | nan => cases hw
    | negInf => exact hvw.elim
    | posInf =>
      have htop : clamp posInf (fin lo) (fin hi) = fin hi := by simp [clamp]
      rw [htop, ha]
      exact hahi
    | fin y =>
      rw [clamp_fin x lo hi h, clamp_fin y lo hi h, fin_le_fin]
      exact max_le_max le_rfl (min_le_min hvw le_rfl)

/-- A value already in the interval is left alone. -/
theorem clamp_of_within {v : Flt K} {lo hi : K} (h : Within lo hi v) :
    clamp v (fin lo) (fin hi) = v := by
  obtain ⟨x, rfl, hlo, hhi⟩ := h
  simp [clamp, not_lt.mpr hlo, not_lt.mpr hhi]

end Order

section Integral
variable [Field K] [LinearOrder K] [FloorRing K]

/-- Round to the nearest integer, halves away from zero. -/
def roundHalfAway : Flt K → Flt K
  | fin x => fin (if 0 ≤ x then (⌊x + 1 / 2⌋ : K) else -(⌊-x + 1 / 2⌋ : K))
  | nan => nan
  | negInf => negInf
  | posInf => posInf

/-- The saturating float-to-byte cast: truncates, and sends a NaN to `0`. -/
def toU8 : Flt K → UInt8
  | nan | negInf => 0
  | posInf => 255
  | fin x => UInt8.ofNat (min ⌊x⌋.toNat 255)

variable [IsStrictOrderedRing K]

/-- From zero on, halves go up. -/
theorem toU8_roundHalfAway {x : K} (hx : 0 ≤ x) :
    (roundHalfAway (fin x)).toU8 = UInt8.ofNat (min ⌊x + 1 / 2⌋.toNat 255) := by
  simp only [roundHalfAway, if_pos hx, toU8, Int.floor_intCast]

theorem toU8_roundHalfAway_mono {x y : K} (hx : 0 ≤ x) (hxy : x ≤ y) :
    (roundHalfAway (fin x)).toU8 ≤ (roundHalfAway (fin y)).toU8 := by
  have hfloor : ⌊x + 1 / 2⌋ ≤ ⌊y + 1 / 2⌋ := Int.floor_le_floor (add_le_add hxy le_rfl)
  have hbyte : ∀ n : ℕ, (UInt8.ofNat (min n 255)).toNat = min n 255 := by
    intro n
    rw [UInt8.toNat_ofNat']
    exact Nat.mod_eq_of_lt (by omega)
  rw [toU8_roundHalfAway hx, toU8_roundHalfAway (le_trans hx hxy), UInt8.le_iff_toNat_le, hbyte,
    hbyte]
  exact min_le_min (Int.toNat_le_toNat hfloor) le_rfl

end Integral
end Flt

/-- What a format and its library leave open: how an exact result is rounded,
and the power function. -/
structure Arithmetic (K : Type u) where
  round : K → Flt K
  powf : Flt K → Flt K → Flt K

namespace Arithmetic
open Flt

/-- Arithmetic without rounding, and the first power of everything. -/
def exact (K : Type u) : Arithmetic K := { round := fin, powf := fun x _ => x }

variable {K : Type u} [Field K] [LinearOrder K] (A : Arithmetic K)

/-- A literal of the source denotes the rounding of the number written. -/
def lit (x : K) : Flt K := A.round x

/-- The infinity whose sign is the sign of `x`; zero times an infinity and zero
over zero have no value. -/
def signedInf (x : K) : Flt K :=
  if 0 < x then posInf else if x < 0 then negInf else nan

def mul : Flt K → Flt K → Flt K
  | nan, _ | _, nan => nan
  | fin x, fin y => A.round (x * y)
  | posInf, fin y => signedInf y
  | fin x, posInf => signedInf x
  | negInf, fin y => signedInf (-y)
  | fin x, negInf => signedInf (-x)
  | posInf, posInf | negInf, negInf => posInf
  | posInf, negInf | negInf, posInf => negInf

def add : Flt K → Flt K → Flt K
  | nan, _ | _, nan => nan
  | fin x, fin y => A.round (x + y)
  | posInf, negInf | negInf, posInf => nan
  | posInf, _ | _, posInf => posInf
  | negInf, _ | _, negInf => negInf

/-- A zero divisor counts as the positive zero. -/
def div : Flt K → Flt K → Flt K
  | nan, _ | _, nan => nan
  | fin x, fin y => if y = 0 then signedInf x else A.round (x / y)
  | fin _, posInf | fin _, negInf => fin 0
  | posInf, fin y => if 0 ≤ y then posInf else negInf
  | negInf, fin y => if 0 ≤ y then negInf else posInf
  | posInf, posInf | posInf, negInf | negInf, posInf | negInf, negInf => nan

/-- Conversion from a wider format: specials are kept, finite values rounded. -/
def narrow : Flt K → Flt K
  | fin x => A.round x
  | nan => nan
  | negInf => negInf
  | posInf => posInf

@[simp] theorem mul_nan (v : Flt K) : A.mul v nan = nan := by cases v <;> rfl
@[simp] theorem nan_mul (v : Flt K) : A.mul nan v = nan := by cases v <;> rfl
omit [LinearOrder K] in
@[simp] theorem add_nan (v : Flt K) : A.add v nan = nan := by cases v <;> rfl
omit [LinearOrder K] in
@[simp] theorem nan_add (v : Flt K) : A.add nan v = nan := by cases v <;> rfl

theorem signedInf_isNan (x : K) : (signedInf x).isNan = false ↔ x ≠ 0 := by
  rcases lt_trichotomy x 0 with hlt | rfl | hgt
  · simp [signedInf, hlt, not_lt.mpr hlt.le, hlt.ne, isNan]
  · simp [signedInf, isNan]
  · simp [signedInf, hgt, hgt.ne', isNan]

/-- What every binary format promises of its rounding: it keeps the order, and it keeps
the integers of a byte. -/
structure Rounding : Prop where
  mono : ∀ {x y : K}, x ≤ y → A.round x ≤ A.round y
  nat : ∀ n : ℕ, n ≤ 255 → A.round n = fin (n : K)

/-- Exact arithmetic rounds in this sense, whatever its power function. -/
theorem rounding_of_exact (h : A.round = fin) : A.Rounding where
  mono hxy := by rw [h]; exact hxy
  nat n _ := by rw [h]

section Rounding
variable {A} (h : A.Rounding)
include h

theorem Rounding.not_nan (x : K) : (A.round x).isNan = false := by
  have hself := h.mono (le_refl x)
  cases hx : A.round x with
  | nan =>
    rw [hx] at hself
    exact hself.elim
  | negInf => rfl
  | fin y => rfl
  | posInf => rfl

/-- What lies between two of these integers is rounded to a number between them. -/
theorem Rounding.within {m n : ℕ} {x : K} (hm : m ≤ 255) (hn : n ≤ 255) (hlo : (m : K) ≤ x)
    (hhi : x ≤ (n : K)) : Within (m : K) n (A.round x) := by
  have hlow := h.mono hlo
  have hhigh := h.mono hhi
  rw [h.nat m hm] at hlow
  rw [h.nat n hn] at hhigh
  cases hx : A.round x with
  | nan => rw [hx] at hlow; exact hlow.elim
  | negInf => rw [hx] at hlow; exact hlow.elim
  | posInf => rw [hx] at hhigh; exact hhigh.elim
  | fin y =>
    rw [hx] at hlow hhigh
    exact ⟨y, rfl, hlow, hhigh⟩

theorem Rounding.unit {x : K} (hlo : 0 ≤ x) (hhi : x ≤ 1) : Within 0 1 (A.round x) := by
  have hx := h.within (m := 0) (n := 1) (by decide) (by decide) (by simpa using hlo)
    (by simpa using hhi)
  simpa using hx

/-- A finite summand makes no NaN. -/
theorem Rounding.add_fin_isNan (v : Flt K) (y : K) :
    (A.add v (fin y)).isNan = false ↔ v.isNan = false := by
  cases v with
  | nan => rfl
  | negInf => rfl
  | posInf => rfl
  | fin x => exact iff_of_true (h.not_nan _) rfl

/-- A finite factor makes a NaN from nothing but an infinity, when it is zero. -/
theorem Rounding.mul_fin_isNan (v : Flt K) (y : K) :
    (A.mul v (fin y)).isNan = false ↔ v.isNan = false ∧ (y = 0 → v.isFinite = true) := by
  cases v with
  | nan => simp [isNan]
  | negInf =>
    change (signedInf (-y)).isNan = false ↔ _
    rw [signedInf_isNan]
    simp [isNan, isFinite]
  | posInf =>
    change (signedInf y).isNan = false ↔ _
    rw [signedInf_isNan]
    simp [isNan, isFinite]
  | fin x =>
    exact iff_of_true (h.not_nan _) ⟨rfl, fun _ => rfl⟩

section Products
variable [IsStrictOrderedRing K]

/-- Products and sums of numbers from zero on grow with their operands. -/
theorem Rounding.mul_mono {x y x' y' : K} (hy : 0 ≤ y) (hx' : 0 ≤ x') (hx : x ≤ x')
    (hyy : y ≤ y') : A.mul (fin x) (fin y) ≤ A.mul (fin x') (fin y') :=
  h.mono (mul_le_mul hx hyy hy hx')

theorem Rounding.add_mono {x y x' y' : K} (hx : x ≤ x') (hyy : y ≤ y') :
    A.add (fin x) (fin y) ≤ A.add (fin x') (fin y') :=
  h.mono (add_le_add hx hyy)

/-- The unit interval is closed under products. -/
theorem Rounding.mul_unit {v w : Flt K} (hv : Within 0 1 v) (hw : Within 0 1 w) :
    Within 0 1 (A.mul v w) := by
  obtain ⟨x, rfl, hx0, hx1⟩ := hv
  obtain ⟨y, rfl, hy0, hy1⟩ := hw
  exact h.unit (mul_nonneg hx0 hy0) (mul_le_one₀ hx1 hy0 hy1)

end Products
end Rounding

end Arithmetic
end ExtendedFloat
