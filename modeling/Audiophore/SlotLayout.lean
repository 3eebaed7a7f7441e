import Audiophore.SacnRender
import Mathlib.Data.List.Forall2

/-!
# Where a pixel sits in the slot buffers

Cutting a pixel list into universes places every pixel that fits at one position, keeps
the order and drops nothing but what lies beyond the last universe.
-/

namespace SlotLayout

open AudiophoreCore ListChunks SacnPacket SacnOutput SacnRender

variable (A : F32Arith)

theorem getElem?_slotBuffers {pixels : List Rgb} {n i : Nat} (hi : i < n) :
    (slotBuffers A pixels n)[i]? =
      some ((window maxRgbPixelsPerUniverse pixels i).flatMap (pixelBytes A)) := by
  have hi' : i < (windows maxRgbPixelsPerUniverse n pixels).length := by simpa using hi
  rw [slotBuffers, List.getElem?_map, List.getElem?_eq_getElem hi', getElem_windows]
  rfl

/-- A window is what lies between two positions of the list. -/
theorem window_eq_slice {α : Type} (k : Nat) (xs : List α) (i : Nat) :
    window k xs i = (xs.take (min (k * (i + 1)) xs.length)).drop (k * i) := by
  rw [← List.take_eq_take_min, List.drop_take, Nat.mul_succ, Nat.add_sub_cancel_left]
  rfl

/-- Channel `c` of pixel `j` of a window. -/
theorem getElem?_windowBytes (pixels : List Rgb) (i : Nat) {j c : Nat}
    (hj : j < maxRgbPixelsPerUniverse) (hc : c < 3) :
    ((window maxRgbPixelsPerUniverse pixels i).flatMap (pixelBytes A))[3 * j + c]? =
      pixels[maxRgbPixelsPerUniverse * i + j]?.bind fun px => (pixelBytes A px)[c]? := by
  have hlen : ∀ px, (pixelBytes A px).length = 3 := fun _ => rfl
  rw [getElem?_flatMap hlen _ _ hc, window, List.getElem?_take_of_lt hj, List.getElem?_drop]

/-- Two pixel lists related pixel by pixel have buffers related byte by byte. -/
theorem slotBuffers_rel {S : UInt8 → UInt8 → Prop} {pixels pixels' : List Rgb}
    (h : List.Forall₂ (fun px px' => List.Forall₂ S (pixelBytes A px) (pixelBytes A px'))
      pixels pixels') (n : Nat) :
    List.Forall₂ (List.Forall₂ S) (slotBuffers A pixels n) (slotBuffers A pixels' n) := by
  rw [slotBuffers, slotBuffers, windows, windows, List.map_map, List.map_map,
    List.forall₂_map_left_iff, List.forall₂_map_right_iff, List.forall₂_same]
  intro i _
  have hwindow := List.forall₂_take maxRgbPixelsPerUniverse
    (List.forall₂_drop (maxRgbPixelsPerUniverse * i) h)
  exact List.rel_flatMap hwindow fun _ _ hpx => hpx

/-- The buffers hold the bytes of the first `170 * n` pixels, each pixel once, in order
and at the position its index names. -/
theorem partitionRgb_layout (pixels : List Rgb) (n : Nat) :
    ∃ buffers, partitionRgb A pixels n = .ok buffers ∧
      buffers.length = n ∧
      (∀ i < n, buffers[i]? = some
        (((pixels.take (min (170 * (i + 1)) pixels.length)).drop (170 * i)).flatMap
          (pixelBytes A))) ∧
      (∀ i < n, pixels.length ≤ 170 * i → buffers[i]? = some []) ∧
      buffers.flatten = (pixels.take (min pixels.length (170 * n))).flatMap (pixelBytes A) ∧
      (∀ k < min pixels.length (170 * n), ∀ c < 3,
        (buffers[k / 170]?.bind fun buffer => buffer[3 * (k % 170) + c]?) =
          pixels[k]?.bind fun px => (pixelBytes A px)[c]?) := by
  refine ⟨slotBuffers A pixels n, partitionRgb_eq A pixels n, length_slotBuffers A pixels n,
    ?_, ?_, ?_, ?_⟩
  · intro i hi
    rw [getElem?_slotBuffers A hi, window_eq_slice]
    rfl
  · intro i hi hempty
    have hwindow : window maxRgbPixelsPerUniverse pixels i = [] := window_eq_nil hempty
    rw [getElem?_slotBuffers A hi, hwindow]
    rfl
  · rw [flatten_slotBuffers, Nat.mul_comm, Nat.min_comm, ← List.take_eq_take_min]
    rfl
  · intro k hk c hc
    have hbuffer : k / 170 < n := by omega
    have hoffset : k % 170 < maxRgbPixelsPerUniverse := Nat.mod_lt k (by decide)
    have hindex : maxRgbPixelsPerUniverse * (k / 170) + k % 170 = k := Nat.div_add_mod k 170
    rw [getElem?_slotBuffers A hbuffer, Option.bind_some,
      getElem?_windowBytes A pixels _ hoffset hc,
      hindex]

end SlotLayout
