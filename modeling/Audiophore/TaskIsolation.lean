import Audiophore.Components
import Audiophore.EngineRuns

/-!
# What a run of the engine depends on

The loops are components around the bus. How their events are mixed with the receives and
with one another matters at one kind of event only, the ticks, where a loop looks at what has
been published.
-/

namespace TaskIsolation

open AudiophoreCore MappingM1 OscIngress SnapshotRegister StepRuns Components EngineBus EngineRuns

section Loops
variable {ι : Type} {σ ε : ι → Type}

/-- What the loops find when they look up, and what the producer counts. -/
structure Shared where
  bus : Bus
  tick : UInt64
  published : List ResolvedFrame

def sharedOf (engine : Engine σ) : Shared := ⟨engine.bus, engine.tick, engine.published⟩

variable (setup : Setup ι σ ε)

def updateShared (shared : Shared) : Except IngressError AudioFrame → Shared
  | .ok frame =>
    let resolved := mapM1 setup.arith frame setup.zones shared.tick
    { bus := shared.bus.publish resolved
      tick := shared.tick + 1
      published := shared.published ++ [resolved] }
  | .error _ => shared

theorem sharedOf_produce (engine : Engine σ) (outcome : Except IngressError AudioFrame) :
    sharedOf (produce setup engine outcome) = updateShared setup (sharedOf engine) outcome := by
  cases outcome <;> rfl

/-- The render loops around what the producer keeps. Only a tick looks at it. -/
def loops : System Shared (Except IngressError AudioFrame)
    (fun i => AdapterTask (σ i)) (fun i => TaskEvent (ε i)) where
  update := updateShared setup
  step i shared :=
    runAdapter setup.timer (setup.outputs i) (setup.policy i) shared.bus shared.published.length
  looks _ := TaskEvent.isTick
  blind := by
    intro i g g' t e h
    cases e with
    | tick => cases h
    | _ => rfl

def eventOf : EngineEvent ε → Event (Except IngressError AudioFrame) (fun i => TaskEvent (ε i))
  | .recv outcome => .shared outcome
  | .task i event => .own i event

def stateOf (engine : Engine σ) : Shared × ∀ i, AdapterTask (σ i) :=
  (sharedOf engine, engine.tasks)

theorem stateOf_injective : Function.Injective (stateOf (σ := σ)) := by
  rintro ⟨bus, tick, tasks, published⟩ ⟨bus', tick', tasks', published'⟩ h
  simpa [stateOf, sharedOf, and_assoc, and_left_comm, and_comm] using h

/-! ## The projections of a run -/

def EngineEvent.outcome : EngineEvent ε → Option (Except IngressError AudioFrame)
  | .recv outcome => some outcome
  | .task _ _ => none

/-- What `recv` returned, call by call. -/
def receives (es : List (EngineEvent ε)) : List (Except IngressError AudioFrame) :=
  es.filterMap EngineEvent.outcome

theorem okFrames_eq_receives (es : List (EngineEvent ε)) :
    okFrames es = (receives es).filterMap Except.toOption := by
  rw [okFrames, receives, List.filterMap_filterMap]
  refine List.filterMap_congr fun e _ => ?_
  cases e with
  | recv outcome => cases outcome <;> rfl
  | task i event => rfl

theorem sharedEvents_map (es : List (EngineEvent ε)) :
    sharedEvents (es.map eventOf) = receives es := by
  rw [sharedEvents, receives, List.filterMap_map]
  refine List.filterMap_congr fun e _ => ?_
  cases e <;> rfl

def sharedAfter (shared : Shared) (frames : List AudioFrame) : Shared :=
  frames.foldl (fun shared frame => updateShared setup shared (.ok frame)) shared

theorem foldl_updateShared (shared : Shared) (outcomes : List (Except IngressError AudioFrame)) :
    outcomes.foldl (updateShared setup) shared =
      sharedAfter setup shared (outcomes.filterMap Except.toOption) := by
  induction outcomes generalizing shared with
  | nil => rfl
  | cons outcome outcomes ih =>
    cases outcome with
    | ok frame => exact ih _
    | error e => exact ih _

variable [DecidableEq ι]

/-- The events of loop `i`, in order. -/
def eventsOf (i : ι) (es : List (EngineEvent ε)) : List (TaskEvent (ε i)) :=
  ownEvents i (es.map eventOf)

theorem exec_engine_iff {s s' : Engine σ} {es : List (EngineEvent ε)} :
    exec (engineStep setup) s es = some s' ↔
      exec (loops setup).next (stateOf s) (es.map eventOf) = some (stateOf s') := by
  have commutes : ∀ (s : Engine σ) e, (loops setup).next (stateOf s) (eventOf e) =
      (engineStep setup s e).map stateOf := by
    intro s e
    cases e with
    | recv outcome =>
      simp only [System.next, eventOf, engineStep, Option.map_some, stateOf, sharedOf_produce]
      cases outcome <;> rfl
    | task i event =>
      simp only [System.next, eventOf, engineStep, Option.map_map]
      rfl
  rw [exec_map stateOf eventOf commutes]
  exact ((Option.map_injective stateOf_injective).eq_iff (b := some s')).symm

/-! ## What a loop gets to see -/

/-- A loop sees what had been published by the time of its ticks, and nothing else. -/
theorem glimpses_eq_seenAt (i : ι) (shared : Shared) (before : List AudioFrame)
    (es : List (EngineEvent ε)) :
    (loops setup).glimpses i (sharedAfter setup shared before) (es.map eventOf) =
      (seenAt i before.length es).map fun n =>
        sharedAfter setup shared ((before ++ okFrames es).take n) := by
  induction es generalizing before with
  | nil => rfl
  | cons e es ih =>
    cases e with
    | recv outcome =>
      cases outcome with
      | ok frame =>
        have hafter : updateShared setup (sharedAfter setup shared before) (.ok frame) =
            sharedAfter setup shared (before ++ [frame]) := by simp [sharedAfter]
        have hrest := ih (before ++ [frame])
        rw [List.length_append, List.length_singleton, List.append_assoc] at hrest
        simp only [List.map_cons, eventOf, System.glimpses, loops] at hrest ⊢
        rw [hafter]
        exact hrest
      | error e => exact ih before
    | task j event =>
      have hframes : okFrames (.task j event :: es) = okFrames es := rfl
      have hlooks : (loops setup).looksOf i (.own j event) =
          EngineEvent.isTickOf i (.task j event) := rfl
      simp only [List.map_cons, eventOf, System.glimpses, seenAt, hlooks, hframes,
        EngineEvent.okFrame, Option.isSome_none, Bool.false_eq_true, ↓reduceIte, ih]
      split
      · rw [List.singleton_append, List.map_cons, List.take_left]
      · rw [List.nil_append]

theorem glimpses_start (i : ι) (shared : Shared) (es : List (EngineEvent ε)) :
    (loops setup).glimpses i shared (es.map eventOf) =
      (seenAt i 0 es).map fun n => sharedAfter setup shared ((okFrames es).take n) :=
  glimpses_eq_seenAt setup i shared [] es

/-- A run is the frames published and, for each loop, its events and what it sees at its
ticks. -/
theorem exec_start_iff {adapters : ∀ i, σ i} {s : Engine σ} {es : List (EngineEvent ε)} :
    exec (engineStep setup) (Engine.start adapters) es = some s ↔
      sharedAfter setup ⟨.empty, 0, []⟩ (okFrames es) = sharedOf s ∧
        ∀ i, (loops setup).drive ⟨.empty, 0, []⟩ i (.spawn (adapters i)) (eventsOf i es)
          ((seenAt i 0 es).map fun n =>
            sharedAfter setup ⟨.empty, 0, []⟩ ((okFrames es).take n)) = some (s.tasks i) := by
  have hshared : (sharedEvents (es.map eventOf)).foldl (loops setup).update
      (stateOf (Engine.start adapters)).1 = sharedAfter setup ⟨.empty, 0, []⟩ (okFrames es) := by
    rw [sharedEvents_map, okFrames_eq_receives]
    exact foldl_updateShared setup _ _
  rw [exec_engine_iff, exec_next_iff (loops setup) ⟨.empty, 0, []⟩, hshared]
  simp only [glimpses_start]
  rfl

variable {adapters : ∀ i, σ i} {s : Engine σ} {es fs : List (EngineEvent ε)}

/-- Where a loop's events fall between the receives and the events of other loops does not
matter, but for how many receives had succeeded before each of its ticks. -/
theorem run_of_same_views
    (run : exec (engineStep setup) (Engine.start adapters) es = some s)
    (same_receives : receives fs = receives es)
    (same_events : ∀ i, eventsOf i fs = eventsOf i es)
    (same_seen : ∀ i, seenAt i 0 fs = seenAt i 0 es) :
    exec (engineStep setup) (Engine.start adapters) fs = some s := by
  rw [exec_start_iff] at run ⊢
  have hframes : okFrames fs = okFrames es := by
    rw [okFrames_eq_receives, same_receives, ← okFrames_eq_receives]
  simp only [hframes, same_events, same_seen]
  exact run

end Loops

/-- The events of `quietEvents` in another order. -/
def shuffledEvents : List (EngineEvent fun _ : Bool => Unit) :=
  [.task false .start, .task true .start, .task true (.connected ()), .task true .tick,
    .recv (.ok FrameBuilder.AudioFrameBuilder.new.snapshot.1), .recv (.error (.decode "short")),
    .task false (.connected ()), .task false .tick, .task false (.rendered ()),
    .recv (.ok FrameBuilder.AudioFrameBuilder.new.snapshot.1), .task true (.rendered ())]

theorem run_of_same_views_shuffled :
    ∃ s, exec (engineStep quietSetup) (Engine.start fun _ => []) quietEvents = some s ∧
      exec (engineStep quietSetup) (Engine.start fun _ => []) shuffledEvents = some s := by
  have ran : (exec (engineStep quietSetup) (Engine.start fun _ => []) quietEvents).isSome = true :=
    rfl
  obtain ⟨s, run⟩ := Option.isSome_iff_exists.mp ran
  refine ⟨s, run, run_of_same_views quietSetup run rfl ?_ ?_⟩
  · intro i
    cases i <;> rfl
  · intro i
    cases i <;> rfl

end TaskIsolation
