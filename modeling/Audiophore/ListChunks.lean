import Audiophore.RustExec
import Mathlib.Data.List.Range

/-!
# Splitting a list into pieces of one size

`chunks` is the iterator of the Rust standard library and `padTo` fills a list
of pieces up to a count. Together they place element `i` in piece `i / k`, and
they are inverse to concatenation.
-/

namespace ListChunks

open RustExec

universe u
variable {α : Type u}

/-- Pieces of `k` items, the last one shorter when `k` does not divide the
length. The fuel is the length of the list. -/
def chunksFuel (k : Nat) : Nat → List α → List (List α)
  | 0, _ => []
  | fuel + 1, xs => if xs = [] then [] else xs.take k :: chunksFuel k fuel (xs.drop k)

def chunks (k : Nat) (xs : List α) : Exec (List (List α)) :=
  if k = 0 then throw .zeroChunkSize else pure (chunksFuel k xs.length xs)

/-- Append empty pieces until there are `n`. -/
def padTo (n : Nat) (pieces : List (List α)) : List (List α) :=
  pieces ++ List.replicate (n - pieces.length) []

/-- Padding commutes with whatever turns an empty piece into an empty buffer. -/
theorem padTo_map {β : Type*} (f : List α → List β) (hnil : f [] = []) (n : Nat)
    (pieces : List (List α)) : padTo n (pieces.map f) = (padTo n pieces).map f := by
  simp only [padTo, List.map_append, List.map_replicate, List.length_map, hnil]

/-- The `i`-th window of `k` items, shorter or empty past the end. -/
def window (k : Nat) (xs : List α) (i : Nat) : List α := (xs.drop (k * i)).take k

def windows (k n : Nat) (xs : List α) : List (List α) := (List.range n).map (window k xs)

theorem chunks_ok {k : Nat} (hk : 0 < k) (xs : List α) :
    chunks k xs = .ok (chunksFuel k xs.length xs) := by
  simp only [chunks, if_neg (show ¬ k = 0 by omega)]
  rfl

@[simp] theorem length_windows (k n : Nat) (xs : List α) : (windows k n xs).length = n := by
  simp [windows]

theorem getElem_windows {k n : Nat} {xs : List α} {i : Nat} (h : i < (windows k n xs).length) :
    (windows k n xs)[i] = window k xs i := by
  simp [windows]

theorem length_window (k : Nat) (xs : List α) (i : Nat) :
    (window k xs i).length = min k (xs.length - k * i) := by
  simp [window]

theorem window_zero (k : Nat) (xs : List α) : window k xs 0 = xs.take k := by
  simp [window]

theorem window_succ (k : Nat) (xs : List α) (i : Nat) :
    window k xs (i + 1) = window k (xs.drop k) i := by
  simp only [window, List.drop_drop, Nat.mul_succ]
  congr 2
  omega

theorem window_eq_nil {k : Nat} {xs : List α} {i : Nat} (h : xs.length ≤ k * i) :
    window k xs i = [] := by
  simp [window, List.drop_eq_nil_of_le h]

/-- Items beyond the last whole window asked for do not matter. -/
theorem window_take {k n : Nat} {xs : List α} {i : Nat} (hi : i < n) :
    window k (xs.take (n * k)) i = window k xs i := by
  have hmul : k * i + k ≤ n * k := by
    calc k * i + k = k * (i + 1) := (Nat.mul_succ k i).symm
      _ ≤ k * n := Nat.mul_le_mul_left k hi
      _ = n * k := Nat.mul_comm k n
  simp only [window, List.drop_take, List.take_take]
  congr 1
  omega

/-- The number of pieces is the ceiling of the quotient. -/
theorem chunksFuel_eq {k : Nat} (hk : 0 < k) (fuel : Nat) (xs : List α)
    (enough : xs.length ≤ fuel) :
    chunksFuel k fuel xs = windows k ((xs.length + k - 1) / k) xs := by
  induction fuel generalizing xs with
  | zero =>
    have hnil : xs = [] := List.length_eq_zero_iff.mp (by omega)
    subst hnil
    simp [chunksFuel, windows, Nat.div_eq_of_lt (show k - 1 < k by omega)]
  | succ fuel ih =>
    by_cases hnil : xs = []
    · subst hnil
      simp [chunksFuel, windows, Nat.div_eq_of_lt (show k - 1 < k by omega)]
    · have hpos : 0 < xs.length := List.length_pos_iff.mpr hnil
      have hcount : (xs.length + k - 1) / k = ((xs.drop k).length + k - 1) / k + 1 := by
        by_cases hle : k ≤ xs.length
        · have hsum : xs.length + k - 1 = (xs.length - k + k - 1) + k := by omega
          rw [List.length_drop, hsum, Nat.add_div_right _ hk]
        · have hone : xs.length + k - 1 = (xs.length - 1) + k := by omega
          rw [List.length_drop, hone, Nat.add_div_right _ hk,
            Nat.div_eq_of_lt (show xs.length - 1 < k by omega),
            Nat.div_eq_of_lt (show xs.length - k + k - 1 < k by omega)]
      rw [chunksFuel, if_neg hnil, ih (xs.drop k) (by rw [List.length_drop]; omega), hcount]
      simp only [windows, List.range_succ_eq_map, List.map_cons, List.map_map, window_zero]
      congr 1
      exact List.map_congr_left (fun i _ => (window_succ k xs i).symm)

/-- Chunking the first `n * k` items and padding gives exactly the first `n`
windows, whether the list is short, exact or too long. -/
theorem padTo_chunksFuel {k : Nat} (hk : 0 < k) (n : Nat) (xs : List α) :
    padTo n (chunksFuel k (xs.take (n * k)).length (xs.take (n * k))) = windows k n xs := by
  rw [chunksFuel_eq hk _ _ le_rfl]
  have hcount : ((xs.take (n * k)).length + k - 1) / k ≤ n := by
    have hlen : (xs.take (n * k)).length ≤ n * k := List.length_take_le _ _
    have hlt : ((xs.take (n * k)).length + k - 1) / k < n + 1 := by
      apply (Nat.div_lt_iff_lt_mul hk).mpr
      rw [Nat.add_mul]
      omega
    omega
  apply List.ext_getElem
  · simp only [padTo, List.length_append, List.length_replicate, length_windows]
    omega
  · intro i hi hi'
    have hin : i < n := by simpa using hi'
    rw [getElem_windows]
    by_cases hlt : i < ((xs.take (n * k)).length + k - 1) / k
    · simp only [padTo]
      rw [List.getElem_append_left (by simpa using hlt), getElem_windows, window_take hin]
    · simp only [padTo]
      rw [List.getElem_append_right (by simpa using hlt), List.getElem_replicate]
      have hcover : (xs.take (n * k)).length ≤ k * i := by
        have hdiv := (Nat.div_lt_iff_lt_mul hk).mp
          (show ((xs.take (n * k)).length + k - 1) / k < i + 1 by omega)
        rw [Nat.add_mul, Nat.mul_comm i k] at hdiv
        omega
      rw [← window_take hin, window_eq_nil hcover]

theorem windows_succ (k n : Nat) (xs : List α) :
    windows k (n + 1) xs = xs.take k :: windows k n (xs.drop k) := by
  simp only [windows, List.range_succ_eq_map, List.map_cons, List.map_map, window_zero]
  congr 1
  exact List.map_congr_left (fun i _ => window_succ k xs i)

/-- Nothing is lost, repeated or reordered. -/
theorem flatten_windows (k n : Nat) (xs : List α) :
    (windows k n xs).flatten = xs.take (n * k) := by
  induction n generalizing xs with
  | zero => simp [windows]
  | succ n ih =>
    rw [windows_succ, List.flatten_cons, ih, Nat.add_mul, Nat.one_mul, Nat.add_comm (n * k) k,
      ← List.take_add]

/-- Where every item contributes `m` entries, entry `c` of item `k` sits at `m * k + c`. -/
theorem getElem?_flatMap {β : Type*} {f : α → List β} {m : Nat} (hlen : ∀ a, (f a).length = m)
    (xs : List α) (k : Nat) {c : Nat} (hc : c < m) :
    (xs.flatMap f)[m * k + c]? = xs[k]?.bind fun a => (f a)[c]? := by
  induction xs generalizing k with
  | nil => rfl
  | cons a xs ih =>
    rw [List.flatMap_cons]
    cases k with
    | zero =>
      have hin : m * 0 + c < (f a).length := by simpa [hlen] using hc
      rw [List.getElem?_append_left hin]
      simp
    | succ k =>
      have hskip : m * (k + 1) + c = (f a).length + (m * k + c) := by
        rw [hlen, Nat.mul_succ]
        omega
      rw [hskip, List.getElem?_append_right (Nat.le_add_right _ _), Nat.add_sub_cancel_left, ih]
      rfl

theorem flatMap_drop {β : Type*} {f : α → List β} {m : Nat} (hlen : ∀ a, (f a).length = m)
    (xs : List α) (j : Nat) : (xs.drop j).flatMap f = (xs.flatMap f).drop (m * j) := by
  induction j generalizing xs with
  | zero => rfl
  | succ j ih =>
    cases xs with
    | nil => simp
    | cons a xs =>
      have hskip : m * (j + 1) = (f a).length + m * j := by
        rw [hlen, Nat.mul_succ, Nat.add_comm]
      rw [List.drop_succ_cons, ih, List.flatMap_cons, hskip, List.drop_length_add_append]

theorem flatMap_take {β : Type*} {f : α → List β} {m : Nat} (hlen : ∀ a, (f a).length = m)
    (xs : List α) (j : Nat) : (xs.take j).flatMap f = (xs.flatMap f).take (m * j) := by
  induction j generalizing xs with
  | zero => simp
  | succ j ih =>
    cases xs with
    | nil => simp
    | cons a xs =>
      have hkeep : m * (j + 1) = (f a).length + m * j := by
        rw [hlen, Nat.mul_succ, Nat.add_comm]
      rw [List.take_succ_cons, List.flatMap_cons, ih, List.flatMap_cons, hkeep,
        List.take_length_add_append]

/-- A window of the items is a window of their entries. -/
theorem flatMap_window {β : Type*} {f : α → List β} {m : Nat} (hlen : ∀ a, (f a).length = m)
    (k : Nat) (xs : List α) (i : Nat) :
    (window k xs i).flatMap f = window (m * k) (xs.flatMap f) i := by
  rw [window, flatMap_take hlen, flatMap_drop hlen, window, Nat.mul_assoc]

theorem window_range {k n i : Nat} :
    window k (List.range n) i = (List.range (min k (n - k * i))).map (fun o => k * i + o) := by
  apply List.ext_getElem
  · simp [length_window]
  · intro o h _
    simp [window]

/-- Numbering the items of every window from zero gives item `j` of the list the
number `j % k` in window `j / k`. -/
theorem flatMap_numbered {β : Type*} {k : Nat} (hk : 0 < k) (n len : Nat) (tag : Nat → β) :
    (List.range n).flatMap (fun i =>
      (List.range (min k (len - k * i))).map (fun o => (tag i, o))) =
      (List.range (min len (n * k))).map (fun j => (tag (j / k), j % k)) := by
  have hwindow : ∀ i, (List.range (min k (len - k * i))).map (fun o => (tag i, o)) =
      (window k (List.range len) i).map (fun j => (tag (j / k), j % k)) := by
    intro i
    rw [window_range, List.map_map]
    refine List.map_congr_left fun o ho => ?_
    have hlt : o < k := by
      rw [List.mem_range] at ho
      omega
    simp only [Function.comp_apply, Nat.mul_add_div hk, Nat.div_eq_of_lt hlt, Nat.add_zero,
      Nat.mul_add_mod, Nat.mod_eq_of_lt hlt]
  calc (List.range n).flatMap (fun i =>
        (List.range (min k (len - k * i))).map (fun o => (tag i, o)))
      = (List.range n).flatMap (fun i =>
          (window k (List.range len) i).map (fun j => (tag (j / k), j % k))) := by
        simp only [hwindow]
    _ = ((windows k n (List.range len)).flatten).map (fun j => (tag (j / k), j % k)) := by
        rw [windows, ← List.flatMap_def, List.map_flatMap]
    _ = _ := by
        rw [flatten_windows, List.take_range, Nat.min_comm]

end ListChunks
