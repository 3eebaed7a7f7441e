import Audiophore.OscIngress
import Audiophore.LastWriter

/-!
# The builder as a register file

Each OSC-fed field of the builder is a register of its own address. A message
writes at most one of them, and the three fields without an address are never
written.
-/

namespace OscRegisters

open AudiophoreCore FrameBuilder OscIngress

variable (A : F32Arith)

def bandOf (bands : BandValues) : Band → F32
  | .whole => bands.whole
  | .bass => bands.bass
  | .mid => bands.mid
  | .midHigh => bands.midHigh
  | .high => bands.high

def fieldValue (f : OscField) (frame : AudioFrame) : F32 :=
  match f with
  | .level band => bandOf frame.levels band
  | .hit band => bandOf frame.hits band
  | .presence band => bandOf frame.presence band
  | .onBeat => frame.onBeat
  | .bpm => frame.bpm
  | .bpmConfidence => frame.bpmConfidence
  | .intensity => frame.intensity

/-- The value a fresh builder holds. -/
def initialValue (f : OscField) : F32 := fieldValue f AudioFrameBuilder.new.snapshot.1

theorem bandOf_setBand (bands : BandValues) (band other : Band) (v : F32) :
    bandOf (setBand bands band v) other =
      if band = other then clampUnit v else bandOf bands other := by
  cases band <;> cases other <;> rfl

/-- Setting a field clamps the value and touches no other field. -/
theorem fieldValue_set (f g : OscField) (b : AudioFrameBuilder) (v : F32) :
    fieldValue g (f.set b v).snapshot.1 =
      if f = g then f.clamp v else fieldValue g b.snapshot.1 := by
  by_cases hfg : f = g
  · subst hfg
    rw [if_pos rfl]
    cases f with
    | level band => exact (bandOf_setBand b.levels band band v).trans (if_pos rfl)
    | hit band => exact (bandOf_setBand b.hits band band v).trans (if_pos rfl)
    | presence band => exact (bandOf_setBand b.presence band band v).trans (if_pos rfl)
    | onBeat | bpm | bpmConfidence | intensity => rfl
  · rw [if_neg hfg]
    cases f with
    | level band =>
      cases g with
      | level other =>
        have hne : band ≠ other := fun h => hfg (congrArg OscField.level h)
        exact (bandOf_setBand b.levels band other v).trans (if_neg hne)
      | _ => rfl
    | hit band =>
      cases g with
      | hit other =>
        have hne : band ≠ other := fun h => hfg (congrArg OscField.hit h)
        exact (bandOf_setBand b.hits band other v).trans (if_neg hne)
      | _ => rfl
    | presence band =>
      cases g with
      | presence other =>
        have hne : band ≠ other := fun h => hfg (congrArg OscField.presence h)
        exact (bandOf_setBand b.presence band other v).trans (if_neg hne)
      | _ => rfl
    | onBeat => cases g <;> first | rfl | exact absurd rfl hfg
    | bpm => cases g <;> first | rfl | exact absurd rfl hfg
    | bpmConfidence => cases g <;> first | rfl | exact absurd rfl hfg
    | intensity => cases g <;> first | rfl | exact absurd rfl hfg

/-- A builder is determined by its fields. -/
theorem builder_ext {b c : AudioFrameBuilder}
    (fields : ∀ f, fieldValue f b.snapshot.1 = fieldValue f c.snapshot.1)
    (ht : b.t = c.t) (hphase : b.beatPhase = c.beatPhase) (hfade : b.fade = c.fade) : b = c := by
  have hbands : ∀ x y : BandValues, (∀ band, bandOf x band = bandOf y band) → x = y := by
    intro x y h
    obtain ⟨x1, x2, x3, x4, x5⟩ := x
    obtain ⟨y1, y2, y3, y4, y5⟩ := y
    simp only [BandValues.mk.injEq]
    exact ⟨h .whole, h .bass, h .mid, h .midHigh, h .high⟩
  have hlevels := hbands b.levels c.levels (fun band => fields (.level band))
  have hhits := hbands b.hits c.hits (fun band => fields (.hit band))
  have hpresence := hbands b.presence c.presence (fun band => fields (.presence band))
  have hbeat : b.onBeat = c.onBeat := fields .onBeat
  have hbpm : b.bpm = c.bpm := fields .bpm
  have hconf : b.bpmConfidence = c.bpmConfidence := fields .bpmConfidence
  have hint : b.intensity = c.intensity := fields .intensity
  cases b
  cases c
  simp_all

/-- The fields no message reaches. -/
def unfed (b : AudioFrameBuilder) : F64 × F32 × F32 := (b.t, b.beatPhase, b.fade)

theorem unfed_set (f : OscField) (b : AudioFrameBuilder) (v : F32) :
    unfed (f.set b v) = unfed b := by
  cases f <;> rfl

theorem unfed_applyMessage (b : AudioFrameBuilder) (msg : OscMessage) :
    unfed (applyMessage A b msg) = unfed b := by
  rw [applyMessage_eq]
  split
  · exact unfed_set _ b _
  · rfl

theorem unfed_foldl (b : AudioFrameBuilder) (msgs : List OscMessage) :
    unfed (msgs.foldl (applyMessage A) b) = unfed b := by
  induction msgs generalizing b with
  | nil => rfl
  | cons msg rest ih => exact (ih _).trans (unfed_applyMessage A b msg)

/-- The builder as a register file: one register for each fed field. -/
def registers : LastWriter.RegisterFile AudioFrameBuilder OscMessage OscField F32 where
  get b f := fieldValue f b.snapshot.1
  apply := applyMessage A
  writes msg := (fieldAt msg.addr).bind fun f => (firstFloat A msg).map fun v => (f, f.clamp v)
  get_apply := by
    intro b msg g
    rw [applyMessage_eq]
    cases hf : fieldAt msg.addr with
    | none => rfl
    | some f =>
      cases hv : firstFloat A msg with
      | none => rfl
      | some v => exact fieldValue_set f g b v

end OscRegisters
