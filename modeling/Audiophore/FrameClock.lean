import Audiophore.IngressHistory
import Audiophore.SnapshotRegister

/-!
# The timestamps of the frames

`set_t` takes over every timestamp that is finite and not negative, whatever it took over
before. Snapshots are in order of time as far as the timestamps they show were set in order.
-/

namespace FrameClock

open ExtendedFloat AudiophoreCore FrameBuilder OscIngress OscRegisters IngressHistory
open SnapshotRegister

variable (A : F32Arith) (decodeUdp : Decoder)

/-- The check of `set_t`. -/
def accepted (t : F64) : Bool := t.isFinite && decide (.fin 0 ≤ t)

/-- What an operation does to the timestamp of the builder. -/
def clockAccess : BuilderOp → Access F64
  | .setT t => if accepted t then .write t else .skip
  | .snapshot => .read
  | _ => .skip

/-- The timestamps that were taken over and snapshotted before the next one was taken over,
oldest first. -/
def shownTimes (ops : List BuilderOp) : List F64 := shown (ops.map clockAccess)

/-- Every timestamp that was taken over. -/
def acceptedTimes (ops : List BuilderOp) : List F64 := written (ops.map clockAccess)

theorem setT_of_accepted (b : AudioFrameBuilder) {t : F64} (h : accepted t = true) :
    b.setT t = { b with t := t } := by
  simp only [accepted, Bool.and_eq_true, decide_eq_true_eq] at h
  exact if_pos h

theorem setT_of_not_accepted (b : AudioFrameBuilder) {t : F64} (h : ¬accepted t = true) :
    b.setT t = b := by
  simp only [accepted, Bool.and_eq_true, decide_eq_true_eq] at h
  exact if_neg h

/-- A datagram leaves the timestamp alone. -/
theorem dispatchPacket_t (b : AudioFrameBuilder) (bytes : List UInt8) :
    (dispatchPacket A decodeUdp bytes b).1.t = b.t := by
  unfold dispatchPacket
  split
  · rfl
  · rw [applyPacket_eq_foldl]
    exact congrArg Prod.fst (unfed_foldl A b _)

/-- One operation is one access to the timestamp. -/
theorem readings_applyOp (b : AudioFrameBuilder) (op : BuilderOp) (es : List (Access F64)) :
    readings b.t (clockAccess op :: es) =
      (applyOp A decodeUdp b op).2.toList.map (·.t) ++
        readings (applyOp A decodeUdp b op).1.t es := by
  cases op with
  | setT t =>
    rw [applyOp, clockAccess]
    by_cases ht : accepted t = true
    · rw [if_pos ht, setT_of_accepted b ht, readings]
      rfl
    · rw [if_neg ht, setT_of_not_accepted b ht, readings]
      rfl
  | dispatch bytes =>
    rw [applyOp, dispatchPacket_t]
    rfl
  | _ => rfl

/-- The timestamps of a run's frames are what the reads of one register return. -/
theorem times_runOps (b : AudioFrameBuilder) (ops : List BuilderOp) :
    (runOps A decodeUdp b ops).2.map (·.t) = readings b.t (ops.map clockAccess) := by
  induction ops generalizing b with
  | nil => rfl
  | cons op rest ih =>
    rw [List.map_cons, readings_applyOp A decodeUdp, ← ih, ← List.map_append]
    rfl

theorem accepted_of_mem {ops : List BuilderOp} {t : F64} (h : t ∈ acceptedTimes ops) :
    accepted t = true := by
  induction ops with
  | nil => cases h
  | cons op rest ih =>
    cases op with
    | setT u =>
      rw [acceptedTimes, List.map_cons, clockAccess] at h
      by_cases hu : accepted u = true
      · rw [if_pos hu, written] at h
        rcases List.mem_cons.mp h with rfl | h
        · exact hu
        · exact ih h
      · rw [if_neg hu] at h
        exact ih h
    | _ => exact ih h

theorem zero_le_of_accepted {t : F64} (h : accepted t = true) : .fin 0 ≤ t :=
  of_decide_eq_true (Bool.and_eq_true_iff.mp h).2

theorem new_accepted : accepted AudioFrameBuilder.new.t = true := by decide

theorem le_self_of_accepted {t : F64} (h : accepted t = true) : t ≤ t := by
  cases t with
  | fin x => exact le_refl x
  | nan => cases h
  | negInf => cases h
  | posInf => cases h

/-- From any builder, frames are in order of time exactly when the timestamps they show are. -/
theorem frames_ordered_iff {b : AudioFrameBuilder} (hb : accepted b.t = true)
    (ops : List BuilderOp) :
    ((runOps A decodeUdp b ops).2.Pairwise fun earlier later => earlier.t ≤ later.t) ↔
      (shown (.write b.t :: ops.map clockAccess)).Pairwise (· ≤ ·) := by
  have hrefl : ∀ t ∈ b.t :: acceptedTimes ops, t ≤ t := by
    rw [List.forall_mem_cons]
    exact ⟨le_self_of_accepted hb, fun t ht => le_self_of_accepted (accepted_of_mem ht)⟩
  rw [← readings_pairwise_iff hrefl, ← times_runOps A decodeUdp, List.pairwise_map]

/-- Over a whole run, no frame is older than a frame before it exactly when the timestamps
that were snapshotted had been set in order. -/
theorem timestamps_ordered_iff (ops : List BuilderOp) :
    ((runOps A decodeUdp .new ops).2.Pairwise fun earlier later => earlier.t ≤ later.t) ↔
      (shownTimes ops).Pairwise (· ≤ ·) := by
  rw [frames_ordered_iff A decodeUdp new_accepted]
  refine shown_write_pairwise_iff fun t ht => ?_
  exact zero_le_of_accepted (accepted_of_mem ((shown_sublist_written _).subset ht))

/-- Two snapshots, and a clock that was set back between them. -/
def steppedBack : List BuilderOp := [.setT (.fin 2), .snapshot, .setT (.fin 1), .snapshot]

theorem steppedBack_reverses_time :
    ∃ frames, (runOps (.exact ℚ) (fun _ => .error "") .new steppedBack).2 = frames ∧
      frames.map (·.t) = [.fin 2, .fin 1] ∧
      ¬frames.Pairwise fun earlier later => earlier.t ≤ later.t := by
  have htimes : (runOps (.exact ℚ) (fun _ => .error "") .new steppedBack).2.map (·.t) =
      [.fin 2, .fin 1] := by decide
  refine ⟨_, rfl, htimes, ?_⟩
  rw [← List.pairwise_map (R := (· ≤ ·)), htimes]
  decide

/-- A caller whose clock never steps back gets frames in order of time. -/
theorem timestamps_ordered_of_clock {ops : List BuilderOp}
    (clock : (acceptedTimes ops).Pairwise (· ≤ ·)) :
    (runOps A decodeUdp .new ops).2.Pairwise fun earlier later => earlier.t ≤ later.t := by
  rw [frames_ordered_iff A decodeUdp new_accepted]
  refine List.Pairwise.sublist (shown_sublist_written _) (List.pairwise_cons.mpr ⟨?_, clock⟩)
  exact fun t ht => zero_le_of_accepted (accepted_of_mem ht)

end FrameClock
