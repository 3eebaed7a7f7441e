import Audiophore.EngineRuns

/-!
# The lifecycle of an adapter

A render loop by itself, for any adapter. The bus is whatever it is at each event, the
adapter answers as it likes, and the loop may be dropped at any await point. What it has
called so far is the beginning of one script.
-/

namespace AdapterLifecycle

open AudiophoreCore RustExec AdapterCore SnapshotRegister StepRuns EngineBus EngineRuns

abbrev Outcome := Except AdapterError Unit

/-- A render whose outcome keeps the loop going. -/
def GoesOn (policy : RenderErrorPolicy) (r : Call × Outcome) : Prop :=
  (∃ frame, r.1 = .render frame) ∧ (r.2 = .ok () ∨ policy = .logAndContinue)

/-- The calls of one lifetime, with their outcomes. -/
inductive Script (policy : RenderErrorPolicy) : List (Call × Outcome) → Prop where
  | refused (e) : Script policy [(.connect, .error e)]
  | served (body) : (∀ r ∈ body, GoesOn policy r) → Script policy ((.connect, .ok ()) :: body)
  | stopped (body frame e outcome) : policy = .logAndStop → (∀ r ∈ body, GoesOn policy r) →
      Script policy ((.connect, .ok ()) ::
        (body ++ [(.render frame, .error e), (.disconnect, outcome)]))

/-- How far a task has come, by the point it rests at. -/
inductive Stage (policy : RenderErrorPolicy) :
    Pc → List Call → List (Call × Outcome) → Prop where
  | spawned : Stage policy .spawned [] []
  | connecting : Stage policy .connecting [.connect] []
  | refused {e} : Stage policy .finished [.connect] [(.connect, .error e)]
  | waiting {body} : (∀ r ∈ body, GoesOn policy r) →
      Stage policy .waiting (.connect :: body.map Prod.fst) ((.connect, .ok ()) :: body)
  | rendering {body frame} : (∀ r ∈ body, GoesOn policy r) →
      Stage policy (.rendering frame) (.connect :: (body.map Prod.fst ++ [.render frame]))
        ((.connect, .ok ()) :: body)
  | disconnecting {body frame e} : policy = .logAndStop → (∀ r ∈ body, GoesOn policy r) →
      Stage policy .disconnecting
        (.connect :: (body.map Prod.fst ++ [.render frame, .disconnect]))
        ((.connect, .ok ()) :: (body ++ [(.render frame, .error e)]))
  | stopped {body frame e outcome} : policy = .logAndStop → (∀ r ∈ body, GoesOn policy r) →
      Stage policy .finished
        (.connect :: (body.map Prod.fst ++ [.render frame, .disconnect]))
        ((.connect, .ok ()) :: (body ++ [(.render frame, .error e), (.disconnect, outcome)]))
  | dropped {pc pc' calls returned} : pc'.isFinal = true → pc' ≠ .finished →
      Stage policy pc calls returned → Stage policy pc' calls returned

theorem goesOn_snoc {policy : RenderErrorPolicy} {body : List (Call × Outcome)}
    {r : Call × Outcome} (hbody : ∀ r ∈ body, GoesOn policy r) (hr : GoesOn policy r) :
    ∀ r' ∈ body ++ [r], GoesOn policy r' := by
  intro r' hr'
  rcases List.mem_append.mp hr' with hr' | hr'
  · exact hbody r' hr'
  · rw [List.mem_singleton.mp hr']
    exact hr

section Moves
variable {σ ε : Type} {timer : Timer} {output : OutputAdapter σ ε} {policy : RenderErrorPolicy}
  {bus : Bus} {published : Nat} {t t' : AdapterTask σ} {event : TaskEvent ε}

theorem Stage.step (h : Stage policy t.pc t.calls t.returned)
    (moves : Moves timer output policy bus published t event t') :
    Stage policy t'.pc t'.calls t'.returned := by
  obtain ⟨adapter, period, pc, calls, returned⟩ := t
  cases moves with
  | intervalPanicked hpc hinterval | connectPanicked hpc hcall | tickPanicked hpc hdelay
  | renderPanicked hpc hcall | disconnectPanicked hpc hcall | aborted hpc =>
    exact .dropped rfl (by simp) h
  | started hpc hinterval =>
    obtain rfl : pc = .spawned := hpc
    cases h with
    | spawned => exact .connecting
    | dropped hfinal => cases hfinal
  | connectFailed hpc hcall =>
    obtain rfl : pc = .connecting := hpc
    cases h with
    | connecting => exact .refused
    | dropped hfinal => cases hfinal
  | connected hpc hcall =>
    obtain rfl : pc = .connecting := hpc
    cases h with
    | connecting => exact @Stage.waiting policy [] (by simp)
    | dropped hfinal => cases hfinal
  | ticked hpc =>
    obtain rfl : pc = .waiting := hpc
    cases h with
    | waiting hbody => exact .rendering hbody
    | dropped hfinal => cases hfinal
  | @rendered env a outcome frame hpc hcall hgo =>
    obtain rfl : pc = .rendering frame := hpc
    cases h with
    | @rendering body _ hbody =>
      have hlast : GoesOn policy (.render frame, outcome) := ⟨⟨frame, rfl⟩, hgo⟩
      simpa using Stage.waiting (goesOn_snoc hbody hlast)
    | dropped hfinal => cases hfinal
  | @renderStopped env a e frame hpc hcall hstop =>
    obtain rfl : pc = .rendering frame := hpc
    cases h with
    | @rendering body _ hbody =>
      simpa using @Stage.disconnecting policy body frame e hstop hbody
    | dropped hfinal => cases hfinal
  | @disconnected env a outcome hpc hcall =>
    obtain rfl : pc = .disconnecting := hpc
    cases h with
    | @disconnecting body frame e hstop hbody =>
      simpa using @Stage.stopped policy body frame e outcome hstop hbody
    | dropped hfinal => cases hfinal

end Moves

/-! ## What a stage says of the calls -/

section Calls
variable {policy : RenderErrorPolicy} {pc : Pc} {calls : List Call}
  {returned : List (Call × Outcome)}

theorem Stage.script (h : Stage policy pc calls returned) :
    ∃ script, Script policy script ∧ returned <+: script ∧ calls <+: script.map Prod.fst ∧
      calls.length ≤ returned.length + 1 := by
  induction h with
  | spawned =>
    exact ⟨_, .served [] (by simp), List.nil_prefix, List.nil_prefix, Nat.zero_le _⟩
  | connecting =>
    exact ⟨_, .served [] (by simp), List.nil_prefix, List.prefix_rfl, le_rfl⟩
  | @refused e =>
    exact ⟨_, .refused e, List.prefix_rfl, List.prefix_rfl, by simp⟩
  | @waiting body hbody =>
    exact ⟨_, .served body hbody, List.prefix_rfl, List.prefix_rfl, by simp⟩
  | @rendering body frame hbody =>
    have hlast : GoesOn policy (.render frame, .ok ()) := ⟨⟨frame, rfl⟩, .inl rfl⟩
    exact ⟨_, .served _ (goesOn_snoc hbody hlast), by simp, by simp, by simp⟩
  | @disconnecting body frame e hstop hbody =>
    exact ⟨_, .stopped body frame e (.ok ()) hstop hbody, by simp, by simp, by simp⟩
  | @stopped body frame e outcome hstop hbody =>
    exact ⟨_, .stopped body frame e outcome hstop hbody, List.prefix_rfl, by simp, by simp⟩
  | dropped hfinal hne h ih => exact ih

/-- A loop that has come to its end has been through a whole script. -/
theorem Stage.of_finished (h : Stage policy .finished calls returned) : Script policy returned := by
  cases h with
  | refused => exact .refused _
  | stopped hstop hbody => exact .stopped _ _ _ _ hstop hbody
  | dropped hfinal hne => exact absurd rfl hne

theorem frames_of_goesOn {body : List (Call × Outcome)} (h : ∀ r ∈ body, GoesOn policy r) :
    ∃ frames : List (Read ResolvedFrame), body.map Prod.fst = frames.map Call.render := by
  induction body with
  | nil => exact ⟨[], rfl⟩
  | cons r body ih =>
    obtain ⟨frames, hframes⟩ := ih fun r hr => h r (List.mem_cons_of_mem _ hr)
    obtain ⟨⟨frame, hframe⟩, -⟩ := h r (List.mem_cons_self ..)
    exact ⟨frame :: frames, by rw [List.map_cons, List.map_cons, hframes, hframe]⟩

/-- Connect, renders, and a disconnect at most. -/
theorem Stage.calls_eq (h : Stage policy pc calls returned) :
    calls = [] ∨ ∃ (frames : List (Read ResolvedFrame)) (tail : List Call),
      calls = .connect :: (frames.map Call.render ++ tail) ∧
        (tail = [] ∨ policy = .logAndStop ∧ tail = [.disconnect]) := by
  induction h with
  | spawned => exact .inl rfl
  | connecting => exact .inr ⟨[], [], rfl, .inl rfl⟩
  | refused => exact .inr ⟨[], [], rfl, .inl rfl⟩
  | waiting hbody =>
    obtain ⟨frames, hframes⟩ := frames_of_goesOn hbody
    exact .inr ⟨frames, [], by rw [hframes, List.append_nil], .inl rfl⟩
  | @rendering body frame hbody =>
    obtain ⟨frames, hframes⟩ := frames_of_goesOn hbody
    exact .inr ⟨frames ++ [frame], [], by simp [hframes], .inl rfl⟩
  | @disconnecting body frame e hstop hbody =>
    obtain ⟨frames, hframes⟩ := frames_of_goesOn hbody
    exact .inr ⟨frames ++ [frame], [.disconnect], by simp [hframes], .inr ⟨hstop, rfl⟩⟩
  | @stopped body frame e outcome hstop hbody =>
    obtain ⟨frames, hframes⟩ := frames_of_goesOn hbody
    exact .inr ⟨frames ++ [frame], [.disconnect], by simp [hframes], .inr ⟨hstop, rfl⟩⟩
  | dropped hfinal hne h ih => exact ih

theorem Stage.connect_once (h : Stage policy pc calls returned) : .connect ∉ calls.tail := by
  rcases h.calls_eq with rfl | ⟨frames, tail, rfl, rfl | ⟨-, rfl⟩⟩ <;> simp

theorem Stage.disconnect_last (h : Stage policy pc calls returned) :
    .disconnect ∉ calls.dropLast := by
  rcases h.calls_eq with rfl | ⟨frames, tail, rfl, rfl | ⟨-, rfl⟩⟩
  · simp
  · intro hmem
    have hmem' := List.dropLast_subset _ hmem
    simp at hmem'
  · rw [← List.cons_append, List.dropLast_concat]
    simp

theorem Stage.no_disconnect (h : Stage .logAndContinue pc calls returned) :
    .disconnect ∉ calls := by
  rcases h.calls_eq with rfl | ⟨frames, tail, rfl, rfl | ⟨hpolicy, -⟩⟩
  · simp
  · simp
  · cases hpolicy

/-- Nothing but a failed connect ends a loop that ignores failed renders. -/
theorem Stage.refused_of_finished (h : Stage .logAndContinue .finished calls returned) :
    ∃ e, returned = [(.connect, .error e)] := by
  cases h with
  | refused => exact ⟨_, rfl⟩
  | stopped hstop hbody => cases hstop
  | dropped hfinal hne => exact absurd rfl hne

theorem Stage.not_disconnecting (h : Stage .logAndContinue pc calls returned) :
    pc ≠ .disconnecting := by
  rintro rfl
  cases h with
  | disconnecting hstop hbody => cases hstop
  | dropped hfinal => cases hfinal

/-- A failed connect is the only call. -/
theorem Stage.connect_failed (h : Stage policy pc calls returned) {e : AdapterError}
    (hfailed : (.connect, .error e) ∈ returned) : calls = [.connect] := by
  have hnot : ∀ {body : List (Call × Outcome)}, (∀ r ∈ body, GoesOn policy r) →
      ∀ outcome, (.connect, outcome) ∉ body := by
    intro body hbody outcome hmem
    obtain ⟨⟨frame, hframe⟩, -⟩ := hbody _ hmem
    cases hframe
  induction h with
  | spawned => cases hfailed
  | connecting => cases hfailed
  | refused => rfl
  | waiting hbody => simp [hnot hbody] at hfailed
  | rendering hbody => simp [hnot hbody] at hfailed
  | disconnecting hstop hbody => simp [hnot hbody] at hfailed
  | stopped hstop hbody => simp [hnot hbody] at hfailed
  | dropped hfinal hne h ih => exact ih hfailed

/-- Under the stopping policy the disconnect comes right behind a failed render. -/
theorem Stage.render_failed (h : Stage .logAndStop pc calls returned)
    {frame : Read ResolvedFrame} {e : AdapterError}
    (hfailed : (.render frame, .error e) ∈ returned) :
    ∃ before, calls = before ++ [.render frame, .disconnect] := by
  have hnot : ∀ {body : List (Call × Outcome)}, (∀ r ∈ body, GoesOn .logAndStop r) →
      (.render frame, .error e) ∉ body := by
    intro body hbody hmem
    obtain ⟨-, hok | hpolicy⟩ := hbody _ hmem
    · cases hok
    · cases hpolicy
  induction h with
  | spawned => cases hfailed
  | connecting => cases hfailed
  | refused => simp at hfailed
  | waiting hbody => simp [hnot hbody] at hfailed
  | rendering hbody => simp [hnot hbody] at hfailed
  | @disconnecting body _ _ hstop hbody =>
    simp [hnot hbody] at hfailed
    obtain ⟨rfl, -⟩ := hfailed
    exact ⟨.connect :: body.map Prod.fst, by simp⟩
  | @stopped body _ _ _ hstop hbody =>
    simp [hnot hbody] at hfailed
    obtain ⟨rfl, -⟩ := hfailed
    exact ⟨.connect :: body.map Prod.fst, by simp⟩
  | dropped hfinal hne h ih => exact ih hfailed

end Calls

/-! ## Runs of one loop -/

section Runs
variable {σ ε : Type}

/-- An event of the loop, and the bus it finds. -/
structure Moment (ε : Type) where
  bus : Bus
  published : Nat
  event : TaskEvent ε

def taskStep (timer : Timer) (output : OutputAdapter σ ε) (policy : RenderErrorPolicy)
    (t : AdapterTask σ) (m : Moment ε) : Option (AdapterTask σ) :=
  runAdapter timer output policy m.bus m.published t m.event

/-- What the environment answered to the calls, in order. -/
def answersOf (ms : List (Moment ε)) : List ε :=
  ms.filterMap fun m => TaskEvent.answers m.event

theorem answersOf_snoc (ms : List (Moment ε)) (m : Moment ε) :
    answersOf (ms ++ [m]) = answersOf ms ++ (TaskEvent.answers m.event).toList := by
  rw [answersOf, List.filterMap_append, ← answersOf]
  cases h : TaskEvent.answers m.event <;> simp [h]

/-- What the bus held, if the event is a tick. -/
def Moment.snapshot (m : Moment ε) : List (Read ResolvedFrame) :=
  if TaskEvent.isTick m.event then [⟨m.published, m.bus.snapshot⟩] else []

def Started (ms : List (Moment ε)) : Prop := ∃ m ∈ ms, m.event = .start

/-- What is true of a loop at every point of a run. -/
structure Running (output : OutputAdapter σ ε) (policy : RenderErrorPolicy) (a : σ)
    (ms : List (Moment ε)) (t : AdapterTask σ) : Prop where
  stage : Stage policy t.pc t.calls t.returned
  snapshots : renders t.calls = ms.flatMap Moment.snapshot
  fresh : t.pc = .spawned → t.adapter = a
  started : Started ms → t.calls.head? = some .connect
  replayed : Replayed output a (answersOf ms) t

variable {timer : Timer} {output : OutputAdapter σ ε} {policy : RenderErrorPolicy} {a : σ}
  {ms : List (Moment ε)} {t t' : AdapterTask σ}

theorem running_spawn : Running output policy a [] (.spawn a) where
  stage := .spawned
  snapshots := rfl
  fresh := fun _ => rfl
  started := by rintro ⟨m, hm, -⟩; cases hm
  replayed := replayed_spawn output a

theorem Moves.calls_prefix {bus : Bus} {published : Nat} {event : TaskEvent ε}
    (moves : Moves timer output policy bus published t event t') : t.calls <+: t'.calls := by
  cases moves <;> simp

theorem Moves.not_spawned {bus : Bus} {published : Nat} {event : TaskEvent ε}
    (moves : Moves timer output policy bus published t event t') : t'.pc ≠ .spawned := by
  cases moves <;> simp

/-- A period that is not zero lets the first event connect. -/
theorem Moves.connects {bus : Bus} {published : Nat}
    (moves : Moves timer output policy bus published t .start t')
    (stage : Stage policy t.pc t.calls t.returned) (rate : output.nativeRate t.adapter ≠ 0) :
    t'.calls.head? = some .connect := by
  cases moves with
  | intervalPanicked hpc hinterval =>
    rw [(timer.interval_ok _).mpr rate] at hinterval
    cases hinterval
  | started hpc hinterval =>
    rw [hpc] at stage
    rcases stage.calls_eq with hnil | ⟨frames, tail, hcalls, -⟩
    · simp [hnil]
    · simp [hcalls]

theorem Running.step (h : Running output policy a ms t) (rate : output.nativeRate a ≠ 0)
    {m : Moment ε} (hstep : taskStep timer output policy t m = some t') :
    Running output policy a (ms ++ [m]) t' := by
  have moves := moves_of_runAdapter hstep
  constructor
  · exact h.stage.step moves
  · rw [moves.renders_eq, h.snapshots, List.flatMap_append, List.flatMap_singleton]
    rfl
  · intro hspawned
    exact absurd hspawned (Moves.not_spawned moves)
  · rintro ⟨m', hm', hstart⟩
    by_cases hnow : m.event = .start
    · rw [hnow] at moves
      have hpc : t.pc = .spawned := by
        cases moves <;> assumption
      apply Moves.connects moves h.stage
      rw [h.fresh hpc]
      exact rate
    · have hbefore : m' ∈ ms := by
        rcases List.mem_append.mp hm' with hm' | hm'
        · exact hm'
        · rw [List.mem_singleton.mp hm'] at hstart
          exact absurd hstart hnow
      obtain ⟨later, hlater⟩ := Moves.calls_prefix moves
      rw [← hlater, List.head?_append, h.started ⟨m', hbefore, hstart⟩]
      rfl
  · rw [answersOf_snoc]
    exact h.replayed.step moves

theorem running_of_run (rate : output.nativeRate a ≠ 0)
    (run : exec (taskStep timer output policy) (.spawn a) ms = some t) :
    Running output policy a ms t :=
  exec_invariant running_spawn (fun _ _ _ _ _ h hstep => h.step rate hstep) run

/-- The protocol between a render loop and its adapter. What is recorded of the calls is what
the adapter has been through: by themselves they bring it where it is, with these outcomes. -/
structure Lifecycle (output : OutputAdapter σ ε) (policy : RenderErrorPolicy) (a : σ)
    (ms : List (Moment ε)) (t : AdapterTask σ) : Prop where
  script : ∃ script, Script policy script ∧ t.returned <+: script ∧
    t.calls <+: script.map Prod.fst ∧ t.calls.length ≤ t.returned.length + 1
  finished : t.pc = .finished → Script policy t.returned
  connects : Started ms → t.calls.head? = some .connect
  connect_once : .connect ∉ t.calls.tail
  connect_failed : ∀ e, (.connect, .error e) ∈ t.returned → t.calls = [.connect]
  stops : policy = .logAndStop → ∀ frame e, (.render frame, .error e) ∈ t.returned →
    ∃ before, t.calls = before ++ [.render frame, .disconnect]
  goes_on : policy = .logAndContinue → .disconnect ∉ t.calls ∧
    (t.pc = .finished → ∃ e, t.returned = [(.connect, .error e)])
  disconnect_last : .disconnect ∉ t.calls.dropLast
  snapshots : renders t.calls = ms.flatMap Moment.snapshot
  replay : invokeAll output a (answeredCalls t (answersOf ms)) =
    .ok (t.adapter, t.returned.map Prod.snd)

/-- Whatever the adapter answers, whatever the bus holds and wherever the loop is dropped,
the calls so far are the beginning of a script, and each render has the frame of its tick. -/
theorem adapter_lifecycle (rate : output.nativeRate a ≠ 0)
    (run : exec (taskStep timer output policy) (.spawn a) ms = some t) :
    Lifecycle output policy a ms t := by
  have h := running_of_run rate run
  constructor
  · exact h.stage.script
  · intro hpc
    have hstage := h.stage
    rw [hpc] at hstage
    exact hstage.of_finished
  · exact h.started
  · exact h.stage.connect_once
  · intro e hfailed
    exact h.stage.connect_failed hfailed
  · rintro rfl frame e hfailed
    exact h.stage.render_failed hfailed
  · rintro rfl
    refine ⟨h.stage.no_disconnect, ?_⟩
    intro hpc
    have hstage := h.stage
    rw [hpc] at hstage
    exact hstage.refused_of_finished
  · exact h.stage.disconnect_last
  · exact h.snapshots
  · exact h.replayed.replay

end Runs

/-- An adapter that remembers the frames it was given and answers as it is told. -/
def moodyOutput : OutputAdapter (List ResolvedFrame) Outcome where
  nativeRate := fun _ => 1
  connect := fun given outcome => pure (given, outcome)
  render := fun given frame outcome => pure (given ++ [frame], outcome)
  disconnect := fun given outcome => pure (given, outcome)

/-- A frame that differs from the one on an empty bus. -/
def laterFrame : ResolvedFrame := { ResolvedFrame.default with tick := 1 }

/-- The bus gets a frame after the first tick, and the render of that frame fails. -/
def moodyMoments : List (Moment Outcome) :=
  [⟨.empty, 0, .start⟩, ⟨.empty, 0, .connected (.ok ())⟩, ⟨.empty, 0, .tick⟩,
    ⟨.new laterFrame, 1, .rendered (.ok ())⟩, ⟨.new laterFrame, 1, .tick⟩,
    ⟨.new laterFrame, 1, .rendered (.error (.io "unreachable"))⟩,
    ⟨.new laterFrame, 1, .disconnected (.ok ())⟩]

/-- The adapter has seen both frames, and the failure is followed by the disconnect. -/
theorem adapter_lifecycle_moody :
    moodyOutput.nativeRate [] ≠ 0 ∧
      ∃ t, exec (taskStep clock64 moodyOutput .logAndStop) (.spawn []) moodyMoments = some t ∧
        Lifecycle moodyOutput .logAndStop [] moodyMoments t ∧
        t.calls = [.connect, .render ⟨0, .default⟩, .render ⟨1, laterFrame⟩, .disconnect] ∧
        t.adapter = [.default, laterFrame] := by
  have rate : moodyOutput.nativeRate [] ≠ 0 := by decide
  have run : exec (taskStep clock64 moodyOutput .logAndStop) (.spawn []) moodyMoments = some _ :=
    rfl
  have h := adapter_lifecycle rate run
  exact ⟨rate, _, run, h, rfl, (Prod.mk.inj (Except.ok.inj h.replay)).1.symm⟩

end AdapterLifecycle
