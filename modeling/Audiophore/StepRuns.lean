import Mathlib.Data.List.Forall2
import Mathlib.Data.List.Induction

/-!
# Runs of a partial step function

An event may be impossible in a state. A run feeds a list of events one after
the other and is undefined as soon as one of them is impossible. `Since` speaks
about the past of a run.
-/

namespace StepRuns

universe u v
variable {σ : Type u} {ε : Type v}

def exec (step : σ → ε → Option σ) (s : σ) : List ε → Option σ
  | [] => some s
  | e :: es => (step s e).bind fun s' => exec step s' es

variable {step : σ → ε → Option σ}

theorem exec_append (s : σ) (es fs : List ε) :
    exec step s (es ++ fs) = (exec step s es).bind fun s' => exec step s' fs := by
  induction es generalizing s with
  | nil => rfl
  | cons e es ih =>
    cases h : step s e with
    | none => simp [exec, h]
    | some s' => simpa [exec, h] using ih s'

theorem exec_snoc {s s' : σ} {es : List ε} {e : ε} :
    exec step s (es ++ [e]) = some s' ↔ ∃ t, exec step s es = some t ∧ step t e = some s' := by
  rw [exec_append, Option.bind_eq_some_iff]
  simp [exec]

/-- A property of a run's events and final state holds of every run when it
holds of the empty run and each further event preserves it. -/
theorem exec_invariant {P : List ε → σ → Prop} {s₀ : σ} (start : P [] s₀)
    (preserved : ∀ es s e s', exec step s₀ es = some s → P es s → step s e = some s' →
      P (es ++ [e]) s') {es : List ε} {s : σ} (run : exec step s₀ es = some s) : P es s := by
  induction es using List.reverseRecOn generalizing s with
  | nil =>
    obtain rfl := Option.some.inj run
    exact start
  | append_singleton es e ih =>
    obtain ⟨t, ht, he⟩ := exec_snoc.mp run
    exact preserved es t e s ht (ih ht) he

section Views
universe w x
variable {τ : Type w} {ε' : Type x}

/-- Steps that correspond one to one have runs that do. -/
theorem exec_map {step' : τ → ε' → Option τ} (view : σ → τ) (label : ε → ε')
    (commutes : ∀ s e, step' (view s) (label e) = (step s e).map view) (s : σ) (es : List ε) :
    exec step' (view s) (es.map label) = (exec step s es).map view := by
  induction es generalizing s with
  | nil => rfl
  | cons e es ih =>
    rw [List.map_cons, exec, exec, commutes]
    cases step s e with
    | none => rfl
    | some s' => exact ih s'

/-- Hidden events do not show in the view, and the others can do without them. So the run
without the hidden events goes through, and it ends in the same view. -/
theorem exec_filter {view : σ → τ} {visible : ε → Bool}
    (hidden : ∀ s e s', visible e = false → step s e = some s' → view s' = view s)
    (shown : ∀ s t e s', visible e = true → view s = view t → step s e = some s' →
      ∃ t', step t e = some t' ∧ view s' = view t')
    {es : List ε} {s t s' : σ} (same : view s = view t) (run : exec step s es = some s') :
    ∃ t', exec step t (es.filter visible) = some t' ∧ view s' = view t' := by
  induction es generalizing s t with
  | nil =>
    obtain rfl := Option.some.inj run
    exact ⟨t, rfl, same⟩
  | cons e es ih =>
    obtain ⟨mid, hstep, hrest⟩ := Option.bind_eq_some_iff.mp run
    cases hvisible : visible e with
    | false =>
      rw [List.filter_cons_of_neg (by simp [hvisible])]
      exact ih ((hidden s e mid hvisible hstep).trans same) hrest
    | true =>
      rw [List.filter_cons_of_pos hvisible]
      obtain ⟨mid', hstep', hmid⟩ := shown s t e mid hvisible same hstep
      obtain ⟨t', hrun, hview⟩ := ih hmid hrest
      exact ⟨t', by rw [exec, hstep', Option.bind_some, hrun], hview⟩

/-- Where every step is matched by a run with the same visible events, every run is. -/
theorem exec_simulates {κ : Type*} {step' : τ → ε' → Option τ} {R : σ → τ → Prop}
    {visible : ε → Option κ} {visible' : ε' → Option κ}
    (simulates : ∀ s t e s', R s t → step s e = some s' → ∃ es' t', exec step' t es' = some t' ∧
      es'.filterMap visible' = (visible e).toList ∧ R s' t')
    {es : List ε} {s s' : σ} {t : τ} (start : R s t) (run : exec step s es = some s') :
    ∃ es' t', exec step' t es' = some t' ∧
      es'.filterMap visible' = es.filterMap visible ∧ R s' t' := by
  induction es generalizing s t with
  | nil =>
    obtain rfl := Option.some.inj run
    exact ⟨[], t, rfl, rfl, start⟩
  | cons e es ih =>
    obtain ⟨mid, hstep, hrest⟩ := Option.bind_eq_some_iff.mp run
    obtain ⟨first, t', hfirst, hseen, hmid⟩ := simulates _ _ _ _ start hstep
    obtain ⟨later, t'', hlater, hseen', hend⟩ := ih hmid hrest
    refine ⟨first ++ later, t'', by rw [exec_append, hfirst, Option.bind_some, hlater], ?_, hend⟩
    rw [List.filterMap_append, hseen, hseen']
    cases hvisible : visible e <;> simp [hvisible]

end Views

/-- Some event was a `P`, and no event after it a `Q`. -/
def Since (P Q : ε → Prop) (es : List ε) : Prop :=
  ∃ pre e post, es = pre ++ e :: post ∧ P e ∧ ∀ f ∈ post, ¬ Q f

theorem not_since_nil (P Q : ε → Prop) : ¬ Since P Q [] := by
  rintro ⟨pre, e, post, h, -⟩
  cases pre <;> cases h

theorem since_snoc {P Q : ε → Prop} {es : List ε} {e : ε} :
    Since P Q (es ++ [e]) ↔ P e ∨ ¬ Q e ∧ Since P Q es := by
  constructor
  · rintro ⟨pre, f, post, h, hP, hQ⟩
    rcases List.eq_nil_or_concat post with rfl | ⟨post, g, rfl⟩
    · obtain ⟨-, rfl⟩ := List.append_singleton_inj.mp h
      exact .inl hP
    · rw [List.concat_eq_append, ← List.cons_append, ← List.append_assoc] at h
      obtain ⟨rfl, rfl⟩ := List.append_singleton_inj.mp h
      exact .inr ⟨hQ _ (by simp), pre, f, post, rfl, hP, fun x hx => hQ x (by simp [hx])⟩
  · rintro (hP | ⟨hQ, pre, f, post, rfl, hP, hpost⟩)
    · exact ⟨es, e, [], rfl, hP, by simp⟩
    · refine ⟨pre, f, post ++ [e], by simp, hP, ?_⟩
      intro x hx
      rcases List.mem_append.mp hx with hx | hx
      · exact hpost x hx
      · obtain rfl := List.mem_singleton.mp hx
        exact hQ

end StepRuns
