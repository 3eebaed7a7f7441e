import Audiophore.StepRuns

/-!
# Components around a shared state

Shared events change a shared state. Every other event moves one component, which may look
at the shared state and cannot change it. A run therefore falls apart into the shared
events and one run for each component, and which events of different components come first
does not matter.
-/

namespace Components

open StepRuns

universe u v w x y
variable {γ : Type u} {ε₀ : Type v} {ι : Type w} {τ : ι → Type x} {ε : ι → Type y}

/-- A component looks at the shared state only at some of its events. -/
structure System (γ : Type u) (ε₀ : Type v) {ι : Type w} (τ : ι → Type x) (ε : ι → Type y) where
  update : γ → ε₀ → γ
  step : ∀ i, γ → τ i → ε i → Option (τ i)
  looks : ∀ i, ε i → Bool
  blind : ∀ i g g' t e, looks i e = false → step i g t e = step i g' t e

inductive Event (ε₀ : Type v) (ε : ι → Type y) where
  | shared (e : ε₀)
  | own (i : ι) (e : ε i)

def Event.sharedPart : Event ε₀ ε → Option ε₀
  | .shared e => some e
  | .own _ _ => none

def sharedEvents (es : List (Event ε₀ ε)) : List ε₀ := es.filterMap Event.sharedPart

namespace System
variable (S : System γ ε₀ τ ε)

/-- Component `i` by itself. It consumes a glimpse of the shared state wherever it looks,
and the others are not told from `g₀`. -/
def drive (g₀ : γ) (i : ι) (t : τ i) : List (ε i) → List γ → Option (τ i)
  | [], _ => some t
  | e :: es, glimpses =>
    if S.looks i e then
      match glimpses with
      | [] => none
      | g :: glimpses => (S.step i g t e).bind fun t' => drive g₀ i t' es glimpses
    else (S.step i g₀ t e).bind fun t' => drive g₀ i t' es glimpses

variable [DecidableEq ι]

def next (s : γ × ∀ i, τ i) : Event ε₀ ε → Option (γ × ∀ i, τ i)
  | .shared e => some (S.update s.1 e, s.2)
  | .own i e => (S.step i s.1 (s.2 i) e).map fun t => (s.1, Function.update s.2 i t)

def looksOf (i : ι) : Event ε₀ ε → Bool
  | .shared _ => false
  | .own j e => decide (j = i) && S.looks j e

/-- What component `i` sees of the shared state, `g` at first. -/
def glimpses (i : ι) (g : γ) : List (Event ε₀ ε) → List γ
  | [] => []
  | .shared e :: es => glimpses i (S.update g e) es
  | .own j e :: es =>
    if S.looksOf i (.own j e : Event ε₀ ε) then g :: glimpses i g es else glimpses i g es

end System

section Own
variable [DecidableEq ι]

def ownOf (i : ι) : Event ε₀ ε → Option (ε i)
  | .shared _ => none
  | .own j e => if h : j = i then some (h ▸ e) else none

def ownEvents (i : ι) (es : List (Event ε₀ ε)) : List (ε i) := es.filterMap (ownOf i)

@[simp] theorem ownEvents_shared (i : ι) (e : ε₀) (es : List (Event ε₀ ε)) :
    ownEvents i (.shared e :: es) = ownEvents i es := rfl

@[simp] theorem ownEvents_self (i : ι) (e : ε i) (es : List (Event ε₀ ε)) :
    ownEvents i (.own i e :: es) = e :: ownEvents i es := by
  simp [ownEvents, ownOf]

theorem ownEvents_other {i j : ι} (h : j ≠ i) (e : ε j) (es : List (Event ε₀ ε)) :
    ownEvents i (.own j e :: es) = ownEvents i es := by
  simp [ownEvents, ownOf, h]

variable (S : System γ ε₀ τ ε)

theorem glimpses_other {i j : ι} (h : j ≠ i) (g : γ) (e : ε j) (es : List (Event ε₀ ε)) :
    S.glimpses i g (.own j e :: es) = S.glimpses i g es := by
  simp [System.glimpses, System.looksOf, h]

/-- One event of a component, the others aside. -/
theorem drive_own (g₀ : γ) (i : ι) (g : γ) (t : τ i) (e : ε i) (es : List (Event ε₀ ε)) :
    S.drive g₀ i t (ownEvents i (.own i e :: es)) (S.glimpses i g (.own i e :: es)) =
      (S.step i g t e).bind fun t' =>
        S.drive g₀ i t' (ownEvents i es) (S.glimpses i g es) := by
  cases hlooks : S.looks i e with
  | true => simp [System.drive, System.glimpses, System.looksOf, hlooks]
  | false =>
    simp [System.drive, System.glimpses, System.looksOf, hlooks, S.blind i g₀ g t e hlooks]

/-- A run is the shared events and, for each component, a run of its own. -/
theorem exec_next_iff (g₀ : γ) {s s' : γ × ∀ i, τ i} {es : List (Event ε₀ ε)} :
    exec S.next s es = some s' ↔
      (sharedEvents es).foldl S.update s.1 = s'.1 ∧
        ∀ i, S.drive g₀ i (s.2 i) (ownEvents i es) (S.glimpses i s.1 es) = some (s'.2 i) := by
  induction es generalizing s with
  | nil =>
    obtain ⟨g, c⟩ := s
    obtain ⟨g', c'⟩ := s'
    simp [exec, sharedEvents, ownEvents, System.drive, funext_iff]
  | cons e es ih =>
    cases e with
    | shared e => exact ih
    | own j e =>
      have hshared : sharedEvents (.own j e :: es) = sharedEvents es := rfl
      have hrest : ∀ i, i ≠ j → ∀ t : τ i,
          S.drive g₀ i t (ownEvents i (.own j e :: es)) (S.glimpses i s.1 (.own j e :: es)) =
            S.drive g₀ i t (ownEvents i es) (S.glimpses i s.1 es) := by
        intro i hi t
        rw [ownEvents_other hi.symm, glimpses_other S hi.symm]
      rw [hshared]
      cases hstep : S.step j s.1 (s.2 j) e with
      | none =>
        simp only [exec, System.next, hstep, Option.map_none, Option.bind_none, reduceCtorEq,
          false_iff, not_and, not_forall]
        intro _
        refine ⟨j, ?_⟩
        rw [drive_own, hstep]
        exact Option.some_ne_none _ ∘ Eq.symm
      | some t =>
        simp only [exec, System.next, hstep, Option.map_some, Option.bind_some, ih]
        refine and_congr_right fun _ => forall_congr' fun i => ?_
        by_cases hi : i = j
        · subst hi
          rw [Function.update_self, drive_own, hstep, Option.bind_some]
        · rw [Function.update_of_ne hi, hrest i hi]

end Own

end Components
