import Audiophore.EngineBus

/-!
# Interleavings of the producer and its render loops

Every interleaving keeps one invariant: the bus holds the last published frame, the
`k`-th published frame carries tick `k`, and each loop has rendered what the bus held at
the ticks of the loop.
-/

namespace EngineRuns

open AudiophoreCore RustExec AdapterCore MappingM1 OscIngress SnapshotRegister StepRuns EngineBus

/-! ## What a task can do -/

section Moves
variable {σ ε : Type} (timer : Timer) (output : OutputAdapter σ ε) (policy : RenderErrorPolicy)
variable (bus : Bus) (published : Nat)

/-- All transitions of a task, each with its guard. -/
inductive Moves (t : AdapterTask σ) : TaskEvent ε → AdapterTask σ → Prop where
  | intervalPanicked {p} : t.pc = .spawned →
      timer.interval (output.nativeRate t.adapter) = .error p →
      Moves t .start { t with pc := .panicked p }
  | started : t.pc = .spawned → timer.interval (output.nativeRate t.adapter) = .ok () →
      Moves t .start { t with
        period := output.nativeRate t.adapter
        pc := .connecting
        calls := t.calls ++ [.connect] }
  | connectPanicked {env p} : t.pc = .connecting → output.connect t.adapter env = .error p →
      Moves t (.connected env) { t with pc := .panicked p }
  | connectFailed {env a e} : t.pc = .connecting →
      output.connect t.adapter env = .ok (a, .error e) →
      Moves t (.connected env)
        { t with adapter := a, pc := .finished, returned := t.returned ++ [(.connect, .error e)] }
  | connected {env a} : t.pc = .connecting → output.connect t.adapter env = .ok (a, .ok ()) →
      Moves t (.connected env)
        { t with adapter := a, pc := .waiting, returned := t.returned ++ [(.connect, .ok ())] }
  | ticked : t.pc = .waiting →
      Moves t .tick { t with
        pc := .rendering ⟨published, bus.snapshot⟩
        calls := t.calls ++ [.render ⟨published, bus.snapshot⟩] }
  | tickPanicked {now p} : t.pc = .waiting → timer.delay t.period now = .error p →
      Moves t (.overdue now) { t with pc := .panicked p }
  | renderPanicked {env p frame} : t.pc = .rendering frame →
      output.render t.adapter frame.value env = .error p →
      Moves t (.rendered env) { t with pc := .panicked p }
  | rendered {env a outcome frame} : t.pc = .rendering frame →
      output.render t.adapter frame.value env = .ok (a, outcome) →
      outcome = .ok () ∨ policy = .logAndContinue →
      Moves t (.rendered env)
        { t with adapter := a, pc := .waiting,
                 returned := t.returned ++ [(.render frame, outcome)] }
  | renderStopped {env a e frame} : t.pc = .rendering frame →
      output.render t.adapter frame.value env = .ok (a, .error e) → policy = .logAndStop →
      Moves t (.rendered env) { t with
        adapter := a
        pc := .disconnecting
        calls := t.calls ++ [.disconnect]
        returned := t.returned ++ [(.render frame, .error e)] }
  | disconnectPanicked {env p} : t.pc = .disconnecting →
      output.disconnect t.adapter env = .error p →
      Moves t (.disconnected env) { t with pc := .panicked p }
  | disconnected {env a outcome} : t.pc = .disconnecting →
      output.disconnect t.adapter env = .ok (a, outcome) →
      Moves t (.disconnected env)
        { t with adapter := a, pc := .finished, returned := t.returned ++ [(.disconnect, outcome)] }
  | aborted : t.pc.isFinal = false → Moves t .abort { t with pc := .cancelled }

variable {timer output policy bus published}

theorem moves_of_runAdapter {t t' : AdapterTask σ} {event : TaskEvent ε}
    (h : runAdapter timer output policy bus published t event = some t') :
    Moves timer output policy bus published t event t' := by
  cases event with
  | start =>
    simp only [runAdapter] at h
    split at h
    · rename_i hpc
      cases hinterval : timer.interval (output.nativeRate t.adapter) with
      | error p =>
        simp only [hinterval] at h
        obtain rfl := Option.some.inj h
        exact .intervalPanicked hpc hinterval
      | ok u =>
        simp only [hinterval] at h
        obtain rfl := Option.some.inj h
        exact .started hpc hinterval
    · cases h
  | connected env =>
    simp only [runAdapter] at h
    split at h
    · rename_i hpc
      cases hcall : output.connect t.adapter env with
      | error p =>
        simp only [hcall] at h
        obtain rfl := Option.some.inj h
        exact .connectPanicked hpc hcall
      | ok r =>
        obtain ⟨a, outcome⟩ := r
        simp only [hcall] at h
        obtain rfl := Option.some.inj h
        cases outcome with
        | error e => exact .connectFailed hpc hcall
        | ok u => exact .connected hpc hcall
    · cases h
  | tick =>
    simp only [runAdapter] at h
    split at h
    · rename_i hpc
      obtain rfl := Option.some.inj h
      exact .ticked hpc
    · cases h
  | overdue now =>
    simp only [runAdapter] at h
    split at h
    · rename_i hpc
      cases hdelay : timer.delay t.period now with
      | error p =>
        simp only [hdelay] at h
        obtain rfl := Option.some.inj h
        exact .tickPanicked hpc hdelay
      | ok u =>
        simp only [hdelay] at h
        cases h
    · cases h
  | rendered env =>
    simp only [runAdapter] at h
    split at h
    · rename_i frame hpc
      cases hcall : output.render t.adapter frame.value env with
      | error p =>
        simp only [hcall] at h
        obtain rfl := Option.some.inj h
        exact .renderPanicked hpc hcall
      | ok r =>
        obtain ⟨a, outcome⟩ := r
        simp only [hcall] at h
        cases outcome with
        | ok u =>
          obtain rfl := Option.some.inj h
          exact .rendered hpc hcall (.inl rfl)
        | error e =>
          cases policy with
          | logAndContinue =>
            obtain rfl := Option.some.inj h
            exact .rendered hpc hcall (.inr rfl)
          | logAndStop =>
            obtain rfl := Option.some.inj h
            exact .renderStopped hpc hcall rfl
    · cases h
  | disconnected env =>
    simp only [runAdapter] at h
    split at h
    · rename_i hpc
      cases hcall : output.disconnect t.adapter env with
      | error p =>
        simp only [hcall] at h
        obtain rfl := Option.some.inj h
        exact .disconnectPanicked hpc hcall
      | ok r =>
        obtain ⟨a, outcome⟩ := r
        simp only [hcall] at h
        obtain rfl := Option.some.inj h
        exact .disconnected hpc hcall
    · cases h
  | abort =>
    simp only [runAdapter] at h
    split at h
    · cases h
    · rename_i hfinal
      obtain rfl := Option.some.inj h
      exact .aborted (by simpa using hfinal)

end Moves

/-! ## What a task has rendered -/

def Call.snapshot : Call → Option (Read ResolvedFrame)
  | .render frame => some frame
  | _ => none

/-- The snapshots given to the renders among `calls`, oldest first. -/
def renders (calls : List Call) : List (Read ResolvedFrame) := calls.filterMap Call.snapshot

@[simp] theorem renders_append (calls calls' : List Call) :
    renders (calls ++ calls') = renders calls ++ renders calls' := List.filterMap_append ..

@[simp] theorem renders_connect : renders [.connect] = [] := rfl
@[simp] theorem renders_disconnect : renders [.disconnect] = [] := rfl
@[simp] theorem renders_render (frame : Read ResolvedFrame) :
    renders [.render frame] = [frame] := rfl
@[simp] theorem renders_nil : renders [] = [] := rfl

section Tasks
variable {σ ε : Type}

/-- The snapshots of the renders that returned. -/
def completed (t : AdapterTask σ) : List (Read ResolvedFrame) := renders (t.returned.map Prod.fst)

/-- Every render was given a snapshot, and was still given that snapshot when it
returned; only the last one may not have returned. -/
def Held (t : AdapterTask σ) : Prop :=
  match t.pc with
  | .rendering frame => renders t.calls = completed t ++ [frame]
  | .panicked _ | .cancelled => completed t <+: renders t.calls
  | _ => renders t.calls = completed t

structure Consistent (log : List ResolvedFrame) (t : AdapterTask σ) : Prop where
  observed : Observed .default log (renders t.calls)
  held : Held t

theorem consistent_spawn (log : List ResolvedFrame) (a : σ) :
    Consistent log (AdapterTask.spawn a) := ⟨observed_nil _ _, rfl⟩

theorem Held.isPrefix {t : AdapterTask σ} (h : Held t) : completed t <+: renders t.calls := by
  unfold Held at h
  split at h
  · exact ⟨_, h.symm⟩
  · exact h
  · exact h
  · exact ⟨[], by rw [h, List.append_nil]⟩

variable {timer : Timer} {output : OutputAdapter σ ε} {policy : RenderErrorPolicy} {bus : Bus}
  {log : List ResolvedFrame} {t t' : AdapterTask σ} {event : TaskEvent ε}

def TaskEvent.isTick : TaskEvent ε → Bool
  | .tick => true
  | _ => false

/-- Only a tick takes a snapshot, and it takes the current one. -/
theorem Moves.renders_eq {published : Nat}
    (h : Moves timer output policy bus published t event t') :
    renders t'.calls =
      renders t.calls ++ if TaskEvent.isTick event then [⟨published, bus.snapshot⟩] else [] := by
  cases h <;> simp [TaskEvent.isTick]

theorem Moves.held (h : Moves timer output policy bus log.length t event t') (held : Held t) :
    Held t' := by
  cases h with
  | renderPanicked hpc hcall => exact held.isPrefix
  | intervalPanicked hpc hinterval => exact held.isPrefix
  | tickPanicked hpc hdelay => exact held.isPrefix
  | connectPanicked hpc hcall => exact held.isPrefix
  | disconnectPanicked hpc hcall => exact held.isPrefix
  | aborted hpc => exact held.isPrefix
  | started hpc hinterval | connectFailed hpc hcall | connected hpc hcall | ticked hpc
  | rendered hpc hcall hgo | renderStopped hpc hcall hstop | disconnected hpc hcall =>
    simp only [Held, hpc] at held ⊢
    simpa [completed] using held

theorem Consistent.step (h : Consistent log t)
    (current : bus.current = valueAfter .default log log.length)
    (moves : Moves timer output policy bus log.length t event t') : Consistent log t' := by
  refine ⟨?_, moves.held h.held⟩
  rw [moves.renders_eq, Bus.snapshot, current]
  split
  · exact h.observed.read
  · rw [List.append_nil]
    exact h.observed

end Tasks

/-! ## What a task has had its adapter do -/

section Calls
variable {σ ε : Type}

/-- A call of the adapter by itself, and what its environment answers during it. -/
def invoke (output : OutputAdapter σ ε) (a : σ) :
    Call × ε → Exec (σ × Except AdapterError Unit)
  | (.connect, env) => output.connect a env
  | (.render frame, env) => output.render a frame.value env
  | (.disconnect, env) => output.disconnect a env

def invokeAll (output : OutputAdapter σ ε) (a : σ) :
    List (Call × ε) → Exec (σ × List (Except AdapterError Unit))
  | [] => pure (a, [])
  | c :: calls => do
    let (a, outcome) ← invoke output a c
    let (a, outcomes) ← invokeAll output a calls
    pure (a, outcome :: outcomes)

theorem invokeAll_snoc {output : OutputAdapter σ ε} {a a' a'' : σ} {calls : List (Call × ε)}
    {c : Call × ε} {outcomes : List (Except AdapterError Unit)} {outcome : Except AdapterError Unit}
    (run : invokeAll output a calls = .ok (a', outcomes))
    (last : invoke output a' c = .ok (a'', outcome)) :
    invokeAll output a (calls ++ [c]) = .ok (a'', outcomes ++ [outcome]) := by
  induction calls generalizing a outcomes with
  | nil =>
    obtain ⟨rfl, rfl⟩ := Prod.mk.inj (Except.ok.inj run)
    simp only [List.nil_append, invokeAll, last, ok_bind]
    rfl
  | cons first calls ih =>
    rw [invokeAll] at run
    cases hfirst : invoke output a first with
    | error p =>
      rw [hfirst] at run
      cases run
    | ok mid =>
      obtain ⟨mid, head⟩ := mid
      simp only [hfirst, ok_bind] at run
      cases hrest : invokeAll output mid calls with
      | error p =>
        rw [hrest] at run
        cases run
      | ok rest =>
        simp only [hrest, ok_bind] at run
        obtain ⟨rfl, rfl⟩ := Prod.mk.inj (Except.ok.inj run)
        simp only [List.cons_append, invokeAll, hfirst, ok_bind, ih hrest]
        rfl

/-- What the environment answered, if the event ends a call. -/
def TaskEvent.answers : TaskEvent ε → Option ε
  | .connected env | .rendered env | .disconnected env => some env
  | _ => none

/-- The calls that have returned, each with the answers it got. A call that panics has an
answer, the last one, and does not return. -/
def answeredCalls (t : AdapterTask σ) (answers : List ε) : List (Call × ε) :=
  (t.returned.map Prod.fst).zip answers

/-- The adapter is where its calls bring it, and the outcomes are theirs. -/
structure Replayed (output : OutputAdapter σ ε) (a : σ) (answers : List ε) (t : AdapterTask σ) :
    Prop where
  replay : invokeAll output a (answeredCalls t answers) =
    .ok (t.adapter, t.returned.map Prod.snd)
  answered : (∀ p, t.pc ≠ .panicked p) → t.returned.length = answers.length

variable {timer : Timer} {output : OutputAdapter σ ε} {policy : RenderErrorPolicy} {bus : Bus}
  {published : Nat} {a : σ} {answers : List ε} {t t' : AdapterTask σ} {event : TaskEvent ε}

theorem replayed_spawn (output : OutputAdapter σ ε) (a : σ) : Replayed output a [] (.spawn a) :=
  ⟨rfl, fun _ => rfl⟩

/-- A call that returns is one more call of the adapter by itself. -/
theorem Replayed.returned (h : Replayed output a answers t) (live : ∀ p, t.pc ≠ .panicked p)
    {c : Call} {env : ε} {a' : σ} {outcome : Except AdapterError Unit}
    (hcall : invoke output t.adapter (c, env) = .ok (a', outcome)) (pc : Pc) (calls : List Call) :
    Replayed output a (answers ++ [env])
      ⟨a', t.period, pc, calls, t.returned ++ [(c, outcome)]⟩ := by
  have hlength := h.answered live
  refine ⟨?_, fun _ => by simp [hlength]⟩
  have hcalls : answeredCalls ⟨a', t.period, pc, calls, t.returned ++ [(c, outcome)]⟩
      (answers ++ [env]) = answeredCalls t answers ++ [(c, env)] := by
    simp [answeredCalls, List.zip_append, hlength]
  rw [hcalls, List.map_append]
  exact invokeAll_snoc h.replay hcall

/-- A panic leaves the adapter as it was, and so does the answer that came before it. -/
theorem Replayed.panicked (h : Replayed output a answers t) (live : ∀ p, t.pc ≠ .panicked p)
    (p : Panic) (extra : List ε) :
    Replayed output a (answers ++ extra) { t with pc := .panicked p } := by
  refine ⟨?_, fun hlive => absurd rfl (hlive p)⟩
  have hcalls : answeredCalls { t with pc := .panicked p } (answers ++ extra) =
      answeredCalls t answers := by
    have hlength : (t.returned.map Prod.fst).length = answers.length := by
      rw [List.length_map, h.answered live]
    have hzip : (t.returned.map Prod.fst ++ []).zip (answers ++ extra) = _ :=
      List.zip_append hlength
    rwa [List.append_nil, List.zip_nil_left, List.append_nil] at hzip
  rw [hcalls]
  exact h.replay

theorem Replayed.step (h : Replayed output a answers t)
    (moves : Moves timer output policy bus published t event t') :
    Replayed output a (answers ++ (TaskEvent.answers event).toList) t' := by
  have live : ∀ {pc}, t.pc = pc → (∀ p, pc ≠ .panicked p) → ∀ p, t.pc ≠ .panicked p :=
    fun hpc hne p hp => hne p (hpc.symm.trans hp)
  cases moves with
  | intervalPanicked hpc | connectPanicked hpc | tickPanicked hpc | renderPanicked hpc
  | disconnectPanicked hpc => exact h.panicked (live hpc (by simp)) _ _
  | started hpc | ticked hpc =>
    simp only [TaskEvent.answers, Option.toList_none, List.append_nil]
    exact ⟨h.replay, fun _ => h.answered (live hpc (by simp))⟩
  | connectFailed hpc hcall | connected hpc hcall =>
    exact h.returned (live hpc (by simp)) (c := .connect) hcall _ _
  | @rendered env a outcome frame hpc hcall hgo =>
    exact h.returned (live hpc (by simp)) (c := .render frame) hcall _ _
  | @renderStopped env a e frame hpc hcall hstop =>
    exact h.returned (live hpc (by simp)) (c := .render frame) hcall _ _
  | disconnected hpc hcall =>
    exact h.returned (live hpc (by simp)) (c := .disconnect) hcall _ _
  | aborted hfinal =>
    simp only [TaskEvent.answers, Option.toList_none, List.append_nil]
    refine ⟨h.replay, fun _ => h.answered fun p hp => ?_⟩
    rw [hp] at hfinal
    cases hfinal

end Calls

/-! ## The whole engine -/

section Engine
variable {ι : Type} {σ ε : ι → Type}

def EngineEvent.okFrame : EngineEvent ε → Option AudioFrame
  | .recv (.ok frame) => some frame
  | _ => none

/-- The frames of the successful receives, in order. -/
def okFrames (es : List (EngineEvent ε)) : List AudioFrame := es.filterMap EngineEvent.okFrame

@[simp] theorem okFrames_append (es fs : List (EngineEvent ε)) :
    okFrames (es ++ fs) = okFrames es ++ okFrames fs := List.filterMap_append ..

@[simp] theorem okFrames_ok (frame : AudioFrame) :
    okFrames [(.recv (.ok frame) : EngineEvent ε)] = [frame] := rfl

@[simp] theorem okFrames_error (e : IngressError) :
    okFrames [(.recv (.error e) : EngineEvent ε)] = [] := rfl

@[simp] theorem okFrames_task (i : ι) (event : TaskEvent (ε i)) :
    okFrames [(.task i event : EngineEvent ε)] = [] := rfl

/-- The frames that the producer publishes for a run. -/
def publishedFrames (setup : Setup ι σ ε) (frames : List AudioFrame) : List ResolvedFrame :=
  frames.mapIdx fun k frame => mapM1 setup.arith frame setup.zones (UInt64.ofNat k)

theorem publishedFrames_snoc (setup : Setup ι σ ε) (frames : List AudioFrame) (frame : AudioFrame) :
    publishedFrames setup (frames ++ [frame]) = publishedFrames setup frames ++
      [mapM1 setup.arith frame setup.zones (UInt64.ofNat frames.length)] := by
  simp [publishedFrames, List.mapIdx_append]

/-- While the counter does not wrap, a frame's position is its tick. -/
theorem tick_publishedFrames (setup : Setup ι σ ε) {frames : List AudioFrame}
    (few : frames.length < 2 ^ 64) {k : Nat}
    (hk : k < (publishedFrames setup frames).length) :
    (publishedFrames setup frames)[k].tick.toNat = k := by
  have hk' : k < frames.length := by simpa [publishedFrames] using hk
  simp only [publishedFrames, List.getElem_mapIdx, mapM1_tick, UInt64.toNat_ofNat']
  omega

variable [DecidableEq ι]

def EngineEvent.isTickOf (i : ι) : EngineEvent ε → Bool
  | .task j event => decide (j = i) && TaskEvent.isTick event
  | _ => false

/-- What the environment answered to the calls of loop `i`, in order. -/
def EngineEvent.answerTo (i : ι) : EngineEvent ε → Option (ε i)
  | .task j event => if h : j = i then h ▸ TaskEvent.answers event else none
  | .recv _ => none

def answersTo (i : ι) (es : List (EngineEvent ε)) : List (ε i) :=
  es.filterMap (EngineEvent.answerTo i)

theorem answersTo_snoc (i : ι) (es : List (EngineEvent ε)) (e : EngineEvent ε) :
    answersTo i (es ++ [e]) = answersTo i es ++ (EngineEvent.answerTo i e).toList := by
  rw [answersTo, List.filterMap_append, ← answersTo]
  cases h : EngineEvent.answerTo i e <;> simp [h]

/-- For each tick of loop `i`, how many receives had succeeded before it, starting from `n`. -/
def seenAt (i : ι) (n : Nat) : List (EngineEvent ε) → List Nat
  | [] => []
  | e :: es => (if EngineEvent.isTickOf i e then [n] else []) ++
      seenAt i (if (EngineEvent.okFrame e).isSome then n + 1 else n) es

theorem seenAt_append (i : ι) (n : Nat) (es fs : List (EngineEvent ε)) :
    seenAt i n (es ++ fs) = seenAt i n es ++ seenAt i (n + (okFrames es).length) fs := by
  induction es generalizing n with
  | nil => rfl
  | cons e es ih =>
    have hcount : (if (EngineEvent.okFrame e).isSome then n + 1 else n) + (okFrames es).length =
        n + (okFrames (e :: es)).length := by
      cases h : EngineEvent.okFrame e with
      | none => simp [okFrames, h]
      | some frame =>
        simp [okFrames, List.filterMap_cons_some h]
        omega
    rw [List.cons_append, seenAt, seenAt, ih, List.append_assoc, hcount]

structure Inv (setup : Setup ι σ ε) (adapters : ∀ i, σ i) (es : List (EngineEvent ε))
    (s : Engine σ) : Prop where
  published_eq : s.published = publishedFrames setup (okFrames es)
  tick_eq : s.tick = UInt64.ofNat s.published.length
  bus_eq : s.bus.current = valueAfter .default s.published s.published.length
  consistent : ∀ i, Consistent s.published (s.tasks i)
  seen_eq : ∀ i, (renders (s.tasks i).calls).map Read.seen = seenAt i 0 es
  replayed : ∀ i, Replayed (setup.outputs i) (adapters i) (answersTo i es) (s.tasks i)

theorem inv_start (setup : Setup ι σ ε) (adapters : ∀ i, σ i) :
    Inv setup adapters [] (Engine.start adapters) :=
  ⟨rfl, rfl, rfl, fun _ => consistent_spawn _ _, fun _ => rfl, fun _ => replayed_spawn _ _⟩

variable {setup : Setup ι σ ε} {adapters : ∀ i, σ i} {es : List (EngineEvent ε)} {s s' : Engine σ}

theorem Inv.length_published (h : Inv setup adapters es s) :
    s.published.length = (okFrames es).length := by
  rw [h.published_eq, publishedFrames, List.length_mapIdx]

/-- A successful receive publishes, a failed one does nothing. -/
theorem Inv.produce (h : Inv setup adapters es s) (outcome : Except IngressError AudioFrame) :
    Inv setup adapters (es ++ [.recv outcome]) (EngineBus.produce setup s outcome) := by
  have hseen : ∀ i, (renders (s.tasks i).calls).map Read.seen =
      seenAt i 0 (es ++ [.recv outcome]) := by
    intro i
    rw [seenAt_append, h.seen_eq i]
    simp [seenAt, EngineEvent.isTickOf]
  have hreplayed : ∀ i, Replayed (setup.outputs i) (adapters i)
      (answersTo i (es ++ [.recv outcome])) (s.tasks i) := by
    intro i
    rw [answersTo_snoc, EngineEvent.answerTo, Option.toList_none, List.append_nil]
    exact h.replayed i
  cases outcome with
  | error e =>
    refine ⟨?_, h.tick_eq, h.bus_eq, h.consistent, hseen, hreplayed⟩
    rw [okFrames_append, okFrames_error, List.append_nil]
    exact h.published_eq
  | ok frame =>
    have hpublished : (EngineBus.produce setup s (.ok frame)).published =
        s.published ++ [mapM1 setup.arith frame setup.zones s.tick] := rfl
    constructor
    · rw [hpublished, okFrames_append, okFrames_ok, publishedFrames_snoc, h.tick_eq,
        h.length_published, h.published_eq]
    · rw [hpublished, List.length_append, List.length_singleton, UInt64.ofNat_add, ← h.tick_eq]
      rfl
    · rw [hpublished, List.length_append, List.length_singleton, valueAfter_length_append]
      rfl
    · intro i
      exact ⟨(h.consistent i).observed.write _, (h.consistent i).held⟩
    · exact hseen
    · exact hreplayed

theorem Inv.move (h : Inv setup adapters es s) {i : ι} {event : TaskEvent (ε i)}
    {t : AdapterTask (σ i)}
    (moves : Moves setup.timer (setup.outputs i) (setup.policy i) s.bus s.published.length
      (s.tasks i) event t) :
    Inv setup adapters (es ++ [.task i event]) { s with tasks := Function.update s.tasks i t } := by
  constructor
  · rw [okFrames_append, okFrames_task, List.append_nil]
    exact h.published_eq
  · exact h.tick_eq
  · exact h.bus_eq
  · intro j
    by_cases hj : j = i
    · subst hj
      simpa using (h.consistent j).step h.bus_eq moves
    · simpa [hj] using h.consistent j
  · intro j
    rw [seenAt_append, ← h.seen_eq j, Nat.zero_add, ← h.length_published]
    by_cases hj : j = i
    · subst hj
      simp only [Function.update_self, moves.renders_eq, List.map_append]
      cases event <;> simp [seenAt, EngineEvent.isTickOf, TaskEvent.isTick]
    · simp [seenAt, EngineEvent.isTickOf, hj, Ne.symm hj]
  · intro j
    rw [answersTo_snoc]
    by_cases hj : i = j
    · subst hj
      simpa [EngineEvent.answerTo] using (h.replayed i).step moves
    · simpa [EngineEvent.answerTo, hj, Ne.symm hj] using h.replayed j

theorem Inv.step (h : Inv setup adapters es s) {e : EngineEvent ε}
    (hstep : engineStep setup s e = some s') :
    Inv setup adapters (es ++ [e]) s' := by
  cases e with
  | recv outcome =>
    obtain rfl := Option.some.inj hstep
    exact h.produce outcome
  | task i event =>
    obtain ⟨t, ht, rfl⟩ := Option.map_eq_some_iff.mp hstep
    exact h.move (moves_of_runAdapter ht)

theorem inv_of_run (run : exec (engineStep setup) (Engine.start adapters) es = some s) :
    Inv setup adapters es s :=
  exec_invariant (inv_start setup adapters) (fun _ _ _ _ _ h hstep => h.step hstep) run

/-- Whatever the interleaving: the `k`-th successful receive publishes its frame with
tick `k`, and each loop renders, tick by tick, the frame that was published last, never
going back. The adapter of a loop has got these frames and no others. -/
theorem loops_render_latest_frames
    (run : exec (engineStep setup) (Engine.start adapters) es = some s)
    (few : (okFrames es).length < 2 ^ 64) :
    s.published = publishedFrames setup (okFrames es) ∧
    (∀ k (hk : k < s.published.length), s.published[k].tick.toNat = k) ∧
    ∀ i, let shown := renders (s.tasks i).calls
      shown.map Read.seen = seenAt i 0 es ∧
      (∀ r ∈ shown, r.value = valueAfter .default s.published r.seen) ∧
      completed (s.tasks i) <+: shown ∧
      (shown.Pairwise fun r r' => r.value.tick ≤ r'.value.tick) ∧
      (∀ r ∈ shown, ∀ r' ∈ shown, 0 < r.seen → 0 < r'.seen →
        r.value.tick = r'.value.tick → r.value = r'.value) ∧
      invokeAll (setup.outputs i) (adapters i) (answeredCalls (s.tasks i) (answersTo i es)) =
        .ok ((s.tasks i).adapter, (s.tasks i).returned.map Prod.snd) := by
  have h := inv_of_run run
  have hticks : ∀ k (hk : k < s.published.length), s.published[k].tick.toNat = k := by
    intro k hk
    simp only [h.published_eq]
    exact tick_publishedFrames setup few _
  refine ⟨h.published_eq, hticks, fun i => ?_⟩
  have hobserved := (h.consistent i).observed
  refine ⟨h.seen_eq i, hobserved.current, (h.consistent i).held.isPrefix, ?_, ?_,
    (h.replayed i).replay⟩
  · have hordered := hobserved.stamps_ordered (fun frame => frame.tick.toNat) rfl hticks
    exact hordered.imp fun hle => UInt64.le_iff_toNat_le.mpr hle
  · intro r hr r' hr' hpos hpos' hsame
    have hstamp : r.value.tick.toNat = r'.value.tick.toNat := by rw [hsame]
    exact hobserved.eq_of_stamp (fun frame => frame.tick.toNat) rfl hticks hr hr'
      hpos hpos' hstamp

end Engine

/-- An adapter that remembers the frames it was given. -/
def quietOutput : OutputAdapter (List ResolvedFrame) Unit where
  nativeRate := fun _ => 1
  connect := fun given _ => pure (given, .ok ())
  render := fun given frame _ => pure (given ++ [frame], .ok ())
  disconnect := fun given _ => pure (given, .ok ())

def quietSetup : Setup Bool (fun _ => List ResolvedFrame) (fun _ => Unit) where
  arith := .exact ℚ
  timer := clock64
  zones := []
  outputs := fun _ => quietOutput
  policy := fun _ => .logAndContinue

/-- One loop renders before the first frame, the other across the second. -/
def quietEvents : List (EngineEvent fun _ : Bool => Unit) :=
  [.task true .start, .task true (.connected ()), .task true .tick,
    .recv (.ok FrameBuilder.AudioFrameBuilder.new.snapshot.1), .task true (.rendered ()),
    .task false .start, .task false (.connected ()), .task false .tick,
    .recv (.error (.decode "short")),
    .recv (.ok FrameBuilder.AudioFrameBuilder.new.snapshot.1), .task false (.rendered ())]

/-- Two frames go out; the first loop got none of them, the other one the first. -/
theorem loops_render_latest_frames_quiet :
    ∃ s, exec (engineStep quietSetup) (Engine.start fun _ => []) quietEvents = some s ∧
      s.published.map ResolvedFrame.tick = [0, 1] ∧
      (renders (s.tasks true).calls).map Read.seen = [0] ∧
      (renders (s.tasks false).calls).map Read.seen = [1] ∧
      (s.tasks true).adapter = [.default] ∧
      (s.tasks false).adapter =
        [mapM1 (.exact ℚ) FrameBuilder.AudioFrameBuilder.new.snapshot.1 [] 0] := by
  have run : exec (engineStep quietSetup) (Engine.start fun _ => []) quietEvents = some _ := rfl
  obtain ⟨hpublished, -, hloops⟩ := loops_render_latest_frames run (by decide)
  obtain ⟨hfirst, -, -, -, -, hgiven⟩ := hloops true
  obtain ⟨hsecond, -, -, -, -, hgiven'⟩ := hloops false
  refine ⟨_, run, ?_, hfirst, hsecond, ?_, ?_⟩
  · rw [hpublished]
    rfl
  · exact (Prod.mk.inj (Except.ok.inj hgiven)).1.symm
  · exact (Prod.mk.inj (Except.ok.inj hgiven')).1.symm

end EngineRuns
