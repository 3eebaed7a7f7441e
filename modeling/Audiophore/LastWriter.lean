import Mathlib.Data.List.Induction

/-!
# Registers that remember the last write

Events are folded into a state that is read through named registers. An event
writes at most one register, so a register holds the last value written to it,
and two event sequences that agree register by register leave the same values.
-/

namespace LastWriter

universe u v w x
variable {σ : Type u} {ε : Type v} {ι : Type w} {ν : Type x} [DecidableEq ι]

/-- A state with registers, and what one event does to each of them. -/
structure RegisterFile (σ : Type u) (ε : Type v) (ι : Type w) (ν : Type x) [DecidableEq ι] where
  get : σ → ι → ν
  apply : σ → ε → σ
  writes : ε → Option (ι × ν)
  get_apply : ∀ s e i, get (apply s e) i =
    match writes e with
    | none => get s i
    | some w => if w.1 = i then w.2 else get s i

namespace RegisterFile
variable (R : RegisterFile σ ε ι ν)

def run (s : σ) (es : List ε) : σ := es.foldl R.apply s

/-- The values written to one register, oldest first. -/
def writesTo (i : ι) (es : List ε) : List ν :=
  es.filterMap fun e => (R.writes e).bind fun w => if w.1 = i then some w.2 else none

def latest (i : ι) (es : List ε) : Option ν := (R.writesTo i es).getLast?

theorem writesTo_append (i : ι) (es fs : List ε) :
    R.writesTo i (es ++ fs) = R.writesTo i es ++ R.writesTo i fs :=
  List.filterMap_append

/-- A register holds the last value written to it, or its initial value. -/
theorem get_run (s : σ) (es : List ε) (i : ι) :
    R.get (R.run s es) i = (R.latest i es).getD (R.get s i) := by
  induction es using List.reverseRecOn with
  | nil => rfl
  | append_singleton es e ih =>
    have hrun : R.run s (es ++ [e]) = R.apply (R.run s es) e := by simp [run]
    rw [hrun, R.get_apply, latest, writesTo_append]
    cases hw : R.writes e with
    | none => simpa [writesTo, hw, latest] using ih
    | some w =>
      by_cases hi : w.1 = i
      · simp [writesTo, hw, hi]
      · simpa [writesTo, hw, hi, latest] using ih

theorem get_run_congr (s : σ) {es fs : List ε} {i : ι}
    (h : R.writesTo i es = R.writesTo i fs) : R.get (R.run s es) i = R.get (R.run s fs) i := by
  rw [get_run, get_run, latest, latest, h]

section Keyed
variable {κ : Type*} [DecidableEq κ] (key : ε → κ)

/-- Events with another key never reach the register. -/
theorem writesTo_filter {i : ι} {k : κ}
    (own : ∀ e w, R.writes e = some w → w.1 = i → key e = k) (es : List ε) :
    R.writesTo i (es.filter (fun e => key e = k)) = R.writesTo i es := by
  induction es with
  | nil => rfl
  | cons e es ih =>
    by_cases hk : key e = k
    · rw [List.filter_cons_of_pos (by simpa using hk)]
      simp only [writesTo, List.filterMap_cons] at ih ⊢
      rw [ih]
    · have hnone : (R.writes e).bind (fun w => if w.1 = i then some w.2 else none) = none := by
        cases hw : R.writes e with
        | none => rfl
        | some w =>
          have hne : w.1 ≠ i := fun hi => hk (own e w hw hi)
          simp [hne]
      rw [List.filter_cons_of_neg (by simpa using hk)]
      simp only [writesTo, List.filterMap_cons, hnone] at ih ⊢
      exact ih

/-- Only the order among events of one key matters. -/
theorem get_run_of_same_keys (s : σ) {es fs : List ε} {i : ι} {k : κ}
    (own : ∀ e w, R.writes e = some w → w.1 = i → key e = k)
    (same : es.filter (fun e => key e = k) = fs.filter (fun e => key e = k)) :
    R.get (R.run s es) i = R.get (R.run s fs) i := by
  apply R.get_run_congr
  rw [← R.writesTo_filter key own es, ← R.writesTo_filter key own fs, same]

end Keyed
end RegisterFile
end LastWriter
