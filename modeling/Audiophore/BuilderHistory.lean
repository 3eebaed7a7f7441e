import Audiophore.FrameClock

/-!
# Setters and datagrams alike

Whether a value comes from a setter or from a message of a datagram makes no difference to
the builder: every operation is a few writes to its fields, and each field of a snapshot is
the last value that was stored in it.
-/

namespace BuilderHistory

open ExtendedFloat AudiophoreCore FrameBuilder OscIngress OscRegisters IngressHistory FrameClock

/-- Every field of a frame, whether or not a message feeds it. -/
inductive FrameField where
  | t
  | beatPhase
  | fade
  | fed (f : OscField)
  deriving DecidableEq

def valueIn (frame : AudioFrame) : FrameField → Flt ℚ
  | .t => frame.t
  | .beatPhase => frame.beatPhase
  | .fade => frame.fade
  | .fed f => fieldValue f frame

/-- A value on its way to a field. -/
structure Write where
  field : FrameField
  value : Flt ℚ

def Write.apply (b : AudioFrameBuilder) (w : Write) : AudioFrameBuilder :=
  match w.field with
  | .t => b.setT w.value
  | .beatPhase => b.setBeatPhase w.value
  | .fade => b.setFade w.value
  | .fed f => f.set b w.value

/-- What a write stores: a timestamp that is accepted, and otherwise the clamped value. -/
def Write.stored (w : Write) : Option (Flt ℚ) :=
  match w.field with
  | .t => if accepted w.value then some w.value else none
  | .beatPhase | .fade => some (clampUnit w.value)
  | .fed f => some (f.clamp w.value)

section Operations
variable (A : F32Arith) (decodeUdp : Decoder)

def writeOf (msg : OscMessage) : Option Write :=
  (fieldAt msg.addr).bind fun f => (firstFloat A msg).map fun v => ⟨.fed f, v⟩

def messagesIn (bytes : List UInt8) : List OscMessage :=
  (decodeUdp bytes).toOption.toList.flatMap messages

/-- The writes of an operation, in order. -/
def writesOf : BuilderOp → List Write
  | .setT t => [⟨.t, t⟩]
  | .setBpm v => [⟨.fed .bpm, v⟩]
  | .setBpmConfidence v => [⟨.fed .bpmConfidence, v⟩]
  | .setBeatPhase v => [⟨.beatPhase, v⟩]
  | .setOnBeat v => [⟨.fed .onBeat, v⟩]
  | .setLevel band v => [⟨.fed (.level band), v⟩]
  | .setHit band v => [⟨.fed (.hit band), v⟩]
  | .setPresence band v => [⟨.fed (.presence band), v⟩]
  | .setIntensity v => [⟨.fed .intensity, v⟩]
  | .setFade v => [⟨.fade, v⟩]
  | .snapshot => []
  | .dispatch bytes => (messagesIn decodeUdp bytes).filterMap (writeOf A)

/-- A message writes what its arm of the dispatch table sets. -/
theorem foldl_messages (b : AudioFrameBuilder) (msgs : List OscMessage) :
    msgs.foldl (applyMessage A) b = (msgs.filterMap (writeOf A)).foldl Write.apply b := by
  induction msgs generalizing b with
  | nil => rfl
  | cons msg msgs ih =>
    rw [List.foldl_cons, ih, applyMessage_eq, List.filterMap_cons, writeOf]
    cases fieldAt msg.addr with
    | none => rfl
    | some f => cases firstFloat A msg <;> rfl

theorem applyOp_writes (b : AudioFrameBuilder) (op : BuilderOp) :
    (applyOp A decodeUdp b op).1 = (writesOf A decodeUdp op).foldl Write.apply b := by
  cases op with
  | dispatch bytes =>
    rw [writesOf, ← foldl_messages, applyOp, dispatchPacket, messagesIn]
    cases decodeUdp bytes with
    | error e => rfl
    | ok packet =>
      change applyPacket A b packet = ([packet].flatMap messages).foldl (applyMessage A) b
      rw [List.flatMap_singleton, applyPacket_eq_foldl]
  | _ => rfl

/-- A run is its writes. -/
theorem runOps_writes (b : AudioFrameBuilder) (ops : List BuilderOp) :
    (runOps A decodeUdp b ops).1 = (ops.flatMap (writesOf A decodeUdp)).foldl Write.apply b := by
  induction ops generalizing b with
  | nil => rfl
  | cons op rest ih =>
    rw [List.flatMap_cons, List.foldl_append, ← applyOp_writes, ← ih]
    rfl

end Operations

/-- The fields as registers. -/
def frameRegisters : LastWriter.RegisterFile AudioFrameBuilder Write FrameField (Flt ℚ) where
  get b := valueIn b.snapshot.1
  apply := Write.apply
  writes w := w.stored.map fun v => (w.field, v)
  get_apply := by
    rintro b ⟨field, v⟩ other
    cases field with
    | t =>
      simp only [Write.apply, Write.stored]
      by_cases hv : accepted v = true
      · rw [setT_of_accepted b hv, if_pos hv]
        cases other <;> rfl
      · rw [setT_of_not_accepted b hv, if_neg hv]
        rfl
    | beatPhase => cases other <;> rfl
    | fade => cases other <;> rfl
    | fed f =>
      have hunfed := unfed_set f b v
      simp only [unfed, Prod.mk.injEq] at hunfed
      cases other with
      | t => exact hunfed.1
      | beatPhase => exact hunfed.2.1
      | fade => exact hunfed.2.2
      | fed g =>
        refine (fieldValue_set f g b v).trans ?_
        simp [Write.stored, valueIn]

/-- What the writes store in a field, oldest first. -/
def storedIn (field : FrameField) (ws : List Write) : List (Flt ℚ) :=
  ws.filterMap fun w => if w.field = field then w.stored else none

theorem storedIn_eq (field : FrameField) (ws : List Write) :
    frameRegisters.writesTo field ws = storedIn field ws := by
  refine List.filterMap_congr fun w _ => ?_
  simp only [frameRegisters]
  cases w.stored with
  | none => simp
  | some v => simp

section Operations
variable (A : F32Arith) (decodeUdp : Decoder)

/-- After any mixture of setters, datagrams and snapshots each field of the next frame is the
last value stored in it, or its initial value. So two mixtures that store the same values in
each field leave the same builder, whichever way the values came and however the fields
took turns. -/
theorem snapshot_shows_last_stored :
    (∀ ops field, valueIn (runOps A decodeUdp .new ops).1.snapshot.1 field =
      ((storedIn field (ops.flatMap (writesOf A decodeUdp))).getLast?).getD
        (valueIn AudioFrameBuilder.new.snapshot.1 field)) ∧
    ∀ ops ops', (∀ field, storedIn field (ops.flatMap (writesOf A decodeUdp)) =
        storedIn field (ops'.flatMap (writesOf A decodeUdp))) →
      (runOps A decodeUdp .new ops).1 = (runOps A decodeUdp .new ops').1 := by
  constructor
  · intro ops field
    rw [runOps_writes, ← storedIn_eq]
    exact frameRegisters.get_run .new _ field
  · intro ops ops' same
    have hfield : ∀ field, valueIn (runOps A decodeUdp .new ops).1.snapshot.1 field =
        valueIn (runOps A decodeUdp .new ops').1.snapshot.1 field := by
      intro field
      rw [runOps_writes, runOps_writes]
      refine frameRegisters.get_run_congr (i := field) .new ?_
      rw [storedIn_eq, storedIn_eq, same]
    exact builder_ext (fun f => hfield (.fed f)) (hfield .t) (hfield .beatPhase) (hfield .fade)

end Operations
end BuilderHistory
