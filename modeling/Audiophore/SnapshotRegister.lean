import Mathlib.Data.List.Basic

/-!
# A register with one writer and many readers

The writer appends to a log, and a reader gets the newest entry, or the initial value
while the log is empty. What a reader has seen never goes backwards. The values it has
seen are in order as far as the writes it has seen are.
-/

namespace SnapshotRegister

universe u
variable {α : Type u}

/-- The content of the register after `n` writes. -/
def valueAfter (initial : α) (log : List α) : Nat → α
  | 0 => initial
  | n + 1 => log.getD n initial

/-- While the writes only grow, so does the content. -/
theorem valueAfter_grow {initial : α} {log : List α} {r : α → α → Prop} (refl : ∀ v, r v v)
    (first : ∀ v ∈ log, r initial v) (grow : log.Pairwise r) {m n : Nat} (hmn : m ≤ n)
    (hn : n ≤ log.length) : r (valueAfter initial log m) (valueAfter initial log n) := by
  cases n with
  | zero =>
    obtain rfl := Nat.le_zero.mp hmn
    exact refl _
  | succ n =>
    have hlast : valueAfter initial log (n + 1) = log[n] := by
      simp [valueAfter, Nat.lt_of_succ_le hn]
    rw [hlast]
    cases m with
    | zero => exact first _ (List.getElem_mem _)
    | succ m =>
      have hm : m < log.length := by omega
      have hthis : valueAfter initial log (m + 1) = log[m] := by simp [valueAfter, hm]
      rw [hthis]
      rcases Nat.eq_or_lt_of_le (Nat.le_of_succ_le_succ hmn) with rfl | hlt
      · exact refl _
      · exact List.pairwise_iff_getElem.mp grow m n hm hn hlt

/-- A value read, and the number of writes before the read. -/
structure Read (α : Type u) where
  seen : Nat
  value : α
  deriving DecidableEq

theorem valueAfter_append {initial : α} {log : List α} (v : α) {n : Nat} (h : n ≤ log.length) :
    valueAfter initial (log ++ [v]) n = valueAfter initial log n := by
  cases n with
  | zero => rfl
  | succ n =>
    have hn : n < log.length := h
    simp [valueAfter, List.getElem?_append_left hn]

theorem valueAfter_length_append (initial : α) (log : List α) (v : α) :
    valueAfter initial (log ++ [v]) (log.length + 1) = v := by
  simp [valueAfter]

/-- The reads of one reader, oldest first. -/
structure Observed (initial : α) (log : List α) (reads : List (Read α)) : Prop where
  bounded : ∀ r ∈ reads, r.seen ≤ log.length
  current : ∀ r ∈ reads, r.value = valueAfter initial log r.seen
  ordered : reads.Pairwise fun r r' => r.seen ≤ r'.seen

theorem observed_nil (initial : α) (log : List α) : Observed initial log [] := by
  constructor <;> simp

variable {initial : α} {log : List α} {reads : List (Read α)}

/-- A write takes nothing back from a reader. -/
theorem Observed.write (h : Observed initial log reads) (v : α) :
    Observed initial (log ++ [v]) reads := by
  constructor
  · intro r hr
    have hbound := h.bounded r hr
    simp only [List.length_append, List.length_singleton]
    omega
  · intro r hr
    rw [valueAfter_append v (h.bounded r hr)]
    exact h.current r hr
  · exact h.ordered

/-- A new read sees at least as much as all reads before it. -/
theorem Observed.read (h : Observed initial log reads) :
    Observed initial log (reads ++ [⟨log.length, valueAfter initial log log.length⟩]) := by
  constructor
  · intro r hr
    rcases List.mem_append.mp hr with hr | hr
    · exact h.bounded r hr
    · obtain rfl := List.mem_singleton.mp hr
      exact Nat.le_refl _
  · intro r hr
    rcases List.mem_append.mp hr with hr | hr
    · exact h.current r hr
    · obtain rfl := List.mem_singleton.mp hr
      rfl
  · refine List.pairwise_append.mpr ⟨h.ordered, List.pairwise_singleton _ _, ?_⟩
    intro r hr r' hr'
    obtain rfl := List.mem_singleton.mp hr'
    exact h.bounded r hr

section Stamps
variable (stamp : α → Nat) (hinitial : stamp initial = 0)
  (hlog : ∀ n (h : n < log.length), stamp log[n] = n)

include hinitial hlog in
/-- The initial value shares its stamp with the first write. -/
theorem stamp_valueAfter {n : Nat} (h : n ≤ log.length) :
    stamp (valueAfter initial log n) = n - 1 := by
  cases n with
  | zero => exact hinitial
  | succ n =>
    have hn : n < log.length := h
    simp [valueAfter, hn, hlog n hn]

include hinitial hlog in
theorem Observed.stamps_ordered (h : Observed initial log reads) :
    reads.Pairwise fun r r' => stamp r.value ≤ stamp r'.value := by
  refine (List.Pairwise.and_mem.mp h.ordered).imp ?_
  rintro r r' ⟨hr, hr', hle⟩
  rw [h.current r hr, h.current r' hr', stamp_valueAfter stamp hinitial hlog (h.bounded r hr),
    stamp_valueAfter stamp hinitial hlog (h.bounded r' hr')]
  omega

include hinitial hlog in
/-- Once something was written, the stamp identifies the value. -/
theorem Observed.eq_of_stamp (h : Observed initial log reads) {r r' : Read α} (hr : r ∈ reads)
    (hr' : r' ∈ reads) (hpos : 0 < r.seen) (hpos' : 0 < r'.seen)
    (hstamp : stamp r.value = stamp r'.value) : r.value = r'.value := by
  have hseen : r.seen = r'.seen := by
    rw [h.current r hr, h.current r' hr', stamp_valueAfter stamp hinitial hlog (h.bounded r hr),
      stamp_valueAfter stamp hinitial hlog (h.bounded r' hr')] at hstamp
    omega
  rw [h.current r hr, h.current r' hr', hseen]

end Stamps

/-! ## The writes that are read -/

/-- What an event does to the register. -/
inductive Access (α : Type u) where
  | write (v : α)
  | read
  | skip

/-- What the reads return, the register holding `v` at first. -/
def readings (v : α) : List (Access α) → List α
  | [] => []
  | .write w :: es => readings w es
  | .read :: es => v :: readings v es
  | .skip :: es => readings v es

def written : List (Access α) → List α
  | [] => []
  | .write w :: es => w :: written es
  | .read :: es => written es
  | .skip :: es => written es

/-- A read comes before the next write. -/
def readNext : List (Access α) → Bool
  | [] => false
  | .write _ :: _ => false
  | .read :: _ => true
  | .skip :: es => readNext es

/-- The written values that a read returns, oldest first. -/
def shown : List (Access α) → List α
  | [] => []
  | .write w :: es => if readNext es then w :: shown es else shown es
  | .read :: es => shown es
  | .skip :: es => shown es

theorem shown_sublist_written (es : List (Access α)) : (shown es).Sublist (written es) := by
  induction es with
  | nil => exact List.Sublist.refl _
  | cons e es ih =>
    cases e with
    | write w =>
      unfold shown written
      split
      · exact ih.cons_cons w
      · exact ih.cons w
    | read => exact ih
    | skip => exact ih

theorem mem_readings_iff {v w : α} {es : List (Access α)} :
    w ∈ readings v es ↔ w ∈ shown (.write v :: es) := by
  induction es generalizing v with
  | nil => rfl
  | cons e es ih =>
    cases e with
    | write x => exact ih
    | read =>
      rw [readings, List.mem_cons, ih]
      simp only [shown, readNext]
      split <;> simp
    | skip => exact ih

section Order
variable {r : α → α → Prop} {v : α} {es : List (Access α)}

theorem shown_write_pairwise_iff (below : ∀ w ∈ shown es, r v w) :
    (shown (.write v :: es)).Pairwise r ↔ (shown es).Pairwise r := by
  rw [shown]
  split
  · rw [List.pairwise_cons, and_iff_right below]
  · rfl

/-- The reads come in order exactly when the writes they return do: reading a value again
adds nothing. -/
theorem readings_pairwise_iff (refl : ∀ w ∈ v :: written es, r w w) :
    (readings v es).Pairwise r ↔ (shown (.write v :: es)).Pairwise r := by
  induction es generalizing v with
  | nil => exact Iff.rfl
  | cons e es ih =>
    cases e with
    | write w => exact ih fun x hx => refl x (List.mem_cons_of_mem _ hx)
    | read =>
      have hv : r v v := refl v (List.mem_cons_self ..)
      have hfirst : (∀ w ∈ readings v es, r v w) ↔ ∀ w ∈ shown es, r v w := by
        simp only [mem_readings_iff, shown]
        split
        · rw [List.forall_mem_cons, and_iff_right hv]
        · rfl
      have hshown : shown (.write v :: .read :: es) = v :: shown es := rfl
      rw [readings, hshown, List.pairwise_cons, List.pairwise_cons, hfirst, ih refl]
      exact and_congr_right shown_write_pairwise_iff
    | skip => exact ih refl

end Order

end SnapshotRegister
