import Audiophore.AdapterRuns

/-!
# A render with its awaits

A render rests at each of its sends, and whoever holds it may drop it there. Resumed with
the same answers to its end it is the render that is made in one call.
-/

namespace AwaitedSends

open ExtendedFloat AudiophoreCore RustExec AdapterCore SacnPacket SacnOutput SacnRender AdapterRuns

/-! ## One render -/

/-- Where a `send_slots` rests, or what it has returned. -/
inductive SendPoint where
  | sending (packet : List UInt8) (rest : List (UInt16 × List UInt8))
  | returned (outcome : Except AdapterError Unit)

/-- The loop of `send_slots`, up to its next send. -/
def loopToSend (self : SacnAdapter) :
    List (UInt16 × List UInt8) → Exec (SacnAdapter × SendPoint)
  | [] => pure ({ self with sequence := self.sequence + 1 }, .returned (.ok ()))
  | (univ, slots) :: rest => do
    let (builder, encoded) ← encode self.builder univ self.sequence self.priority slots
    match encoded with
    | .error e => pure ({ self with builder := builder }, .returned (.error (.protocol e.text)))
    | .ok packet => pure ({ self with builder := builder }, .sending packet rest)

def startSlots (self : SacnAdapter) (slotUniverses : List (List UInt8)) :
    Exec (SacnAdapter × SendPoint) := do
  if slotUniverses.length ≠ self.universes.length then
    return (self, .returned (.error (.protocol
      s!"slot universe count {slotUniverses.length} != adapter universe count {self.universes.length}")))
  match self.socket with
  | none => return (self, .returned (.error (.connect "socket not open; call connect()")))
  | some _ => loopToSend self (self.universes.zip slotUniverses)

def startRender (A : F32Arith) (self : SacnAdapter) (frame : ResolvedFrame) (order : IterOrder) :
    Exec (SacnAdapter × SendPoint) := do
  match firstPixels frame order with
  | none => return (self, .returned (.ok ()))
  | some pixels =>
    let slotUniverses ← partitionRgb A pixels self.universes.length
    startSlots self slotUniverses

/-- The send has been answered. -/
def resume (self : SacnAdapter) (packet : List UInt8) (rest : List (UInt16 × List UInt8)) :
    Except IoError Unit → Exec (SacnAdapter × List Datagram × SendPoint)
  | .error e => pure (self, [], .returned (.error (.io e)))
  | .ok () => do
    let (next, point) ← loopToSend self rest
    pure (next, [{ target := self.target, bytes := packet }], point)

/-! ## The render in one go -/

/-- The answers so far, and then those of `send`. -/
def answered : List (Except IoError Unit) → SendOutcomes → SendOutcomes
  | [], send => send
  | answer :: answers, send => fun i =>
    match i with
    | 0 => answer
    | i + 1 => answered answers send i

theorem answered_append (answers more : List (Except IoError Unit)) (send : SendOutcomes) :
    answered (answers ++ more) send = answered answers (answered more send) := by
  induction answers with
  | nil => rfl
  | cons answer answers ih => rw [List.cons_append, answered, ih, answered]

/-- What the loop does from `pairs` on, with the counter that closes it. -/
def sendPairs (self : SacnAdapter) (pairs : List (UInt16 × List UInt8)) (send : SendOutcomes) :
    Exec (SacnAdapter × List Datagram × Except AdapterError Unit) := do
  let (builder, sent, outcome) ← sendLoop self.target self.sequence self.priority self.builder
    send pairs
  match outcome with
  | .error e => return ({ self with builder := builder }, sent, .error e)
  | .ok () => return ({ self with builder := builder, sequence := self.sequence + 1 }, sent, .ok ())

/-- What comes after a point, if the sends are answered by `send`. -/
def finish (self : SacnAdapter) (send : SendOutcomes) :
    SendPoint → Exec (SacnAdapter × List Datagram × Except AdapterError Unit)
  | .returned outcome => pure (self, [], outcome)
  | .sending packet rest =>
    match send 0 with
    | .error e => pure (self, [], .error (.io e))
    | .ok () => do
      let (self', sent, outcome) ← sendPairs self rest fun i => send (i + 1)
      pure (self', { target := self.target, bytes := packet } :: sent, outcome)

theorem sendPairs_eq (self : SacnAdapter) (pairs : List (UInt16 × List UInt8))
    (send : SendOutcomes) :
    sendPairs self pairs send =
      loopToSend self pairs >>= fun reached => finish reached.1 send reached.2 := by
  cases pairs with
  | nil => rfl
  | cons pair rest =>
    obtain ⟨univ, slots⟩ := pair
    simp only [sendPairs, sendLoop, loopToSend]
    cases encode self.builder univ self.sequence self.priority slots with
    | error panic => rfl
    | ok encoded =>
      obtain ⟨builder, encoded⟩ := encoded
      cases encoded with
      | error e => rfl
      | ok packet =>
        simp only [ok_bind, finish]
        cases send 0 with
        | error e => rfl
        | ok u =>
          simp only [pure_bind, sendPairs]
          cases sendLoop self.target self.sequence self.priority builder (fun i => send (i + 1))
            rest with
          | error panic => rfl
          | ok result =>
            obtain ⟨builder, sent, outcome⟩ := result
            cases outcome <;> rfl

theorem sendSlots_eq (self : SacnAdapter) (slotUniverses : List (List UInt8))
    (send : SendOutcomes) :
    self.sendSlots slotUniverses send =
      startSlots self slotUniverses >>= fun reached => finish reached.1 send reached.2 := by
  obtain ⟨name, capabilities, zones, nativeRate, target, universes, priority, builder, socket,
    sequence⟩ := self
  unfold SacnAdapter.sendSlots startSlots
  by_cases hlength : slotUniverses.length ≠ universes.length
  · rw [if_pos hlength, if_pos hlength]
    rfl
  · rw [if_neg hlength, if_neg hlength]
    cases socket with
    | none => rfl
    | some socket => exact sendPairs_eq _ _ send

/-- A render in one event is the render with its awaits, taken to its end. -/
theorem render_eq (A : F32Arith) (self : SacnAdapter) (frame : ResolvedFrame) (order : IterOrder)
    (send : SendOutcomes) :
    self.render A frame order send =
      startRender A self frame order >>= fun reached => finish reached.1 send reached.2 := by
  unfold SacnAdapter.render startRender
  cases firstPixels frame order with
  | none => rfl
  | some pixels =>
    simp only
    cases partitionRgb A pixels self.universes.length with
    | error panic => rfl
    | ok slotUniverses => exact sendSlots_eq self slotUniverses send

theorem finish_resume (self : SacnAdapter) (packet : List UInt8) (rest : List (UInt16 × List UInt8))
    (answer : Except IoError Unit) (send : SendOutcomes) :
    finish self (answered [answer] send) (.sending packet rest) =
      resume self packet rest answer >>= fun (next, sent, point) =>
        (finish next send point).map fun (last, more, outcome) =>
          (last, sent ++ more, outcome) := by
  cases answer with
  | error e => rfl
  | ok u =>
    have hfinish : finish self (answered [.ok u] send) (.sending packet rest) =
        sendPairs self rest send >>= fun (last, more, outcome) =>
          pure (last, { target := self.target, bytes := packet } :: more, outcome) := rfl
    have hresume : resume self packet rest (.ok u) =
        loopToSend self rest >>= fun (next, point) =>
          pure (next, [{ target := self.target, bytes := packet }], point) := rfl
    rw [hfinish, hresume, sendPairs_eq]
    cases loopToSend self rest with
    | error panic => rfl
    | ok reached =>
      simp only [ok_bind, pure_bind]
      cases finish reached.1 send reached.2 <;> rfl

/-- The render of `frame` has sent `sent` and rests at `point`, after `answers`. -/
def Reached (A : F32Arith) (self : SacnAdapter) (frame : ResolvedFrame) (order : IterOrder)
    (answers : List (Except IoError Unit)) (now : SacnAdapter) (sent : List Datagram)
    (point : SendPoint) : Prop :=
  ∀ send, self.render A frame order (answered answers send) =
    (finish now send point).map fun (last, more, outcome) => (last, sent ++ more, outcome)

section Reached
variable {A : F32Arith} {self now next : SacnAdapter} {frame : ResolvedFrame} {order : IterOrder}
  {answers : List (Except IoError Unit)} {sent more : List Datagram} {point : SendPoint}
  {packet : List UInt8} {rest : List (UInt16 × List UInt8)}

theorem Reached.start (h : startRender A self frame order = .ok (now, point)) :
    Reached A self frame order [] now [] point := by
  intro send
  rw [answered, render_eq, h, ok_bind]
  simp only [List.nil_append]
  cases finish now send point <;> rfl

theorem Reached.resume (h : Reached A self frame order answers now sent (.sending packet rest))
    {answer : Except IoError Unit}
    (hresume : resume now packet rest answer = .ok (next, more, point)) :
    Reached A self frame order (answers ++ [answer]) next (sent ++ more) point := by
  intro send
  rw [answered_append, h, finish_resume, hresume, ok_bind]
  simp only [List.append_assoc]
  cases finish next send point <;> rfl

theorem Reached.returned {outcome : Except AdapterError Unit}
    (h : Reached A self frame order answers now sent (.returned outcome)) (send : SendOutcomes) :
    self.render A frame order (answered answers send) = .ok (now, sent, outcome) := by
  rw [h, finish]
  simp [Except.map, pure, Except.pure]

/-- A render that is dropped at a send has done what it does if the send fails. -/
theorem Reached.dropped (h : Reached A self frame order answers now sent (.sending packet rest))
    (e : IoError) :
    self.render A frame order (answered answers fun _ => .error e) =
      .ok (now, sent, .error (.io e)) := by
  rw [h, finish]
  simp [Except.map, pure, Except.pure]

end Reached

/-! ## How far a render gets -/

theorem loopToSend_rest {self next : SacnAdapter} {pairs : List (UInt16 × List UInt8)}
    {packet : List UInt8} {rest : List (UInt16 × List UInt8)}
    (h : loopToSend self pairs = .ok (next, .sending packet rest)) :
    ∃ pair, pairs = pair :: rest := by
  cases pairs with
  | nil => cases h
  | cons pair later =>
    obtain ⟨univ, slots⟩ := pair
    rw [loopToSend] at h
    cases hencode : encode self.builder univ self.sequence self.priority slots with
    | error panic =>
      rw [hencode] at h
      cases h
    | ok encoded =>
      obtain ⟨builder, encoded⟩ := encoded
      rw [hencode, ok_bind] at h
      cases encoded with
      | error e => cases h
      | ok packet' =>
        cases h
        exact ⟨_, rfl⟩

theorem resume_rest {self next : SacnAdapter} {packet packet' : List UInt8}
    {rest rest' : List (UInt16 × List UInt8)} {answer : Except IoError Unit} {more : List Datagram}
    (h : resume self packet rest answer = .ok (next, more, .sending packet' rest')) :
    rest'.length < rest.length := by
  cases answer with
  | error e => cases h
  | ok u =>
    rw [resume] at h
    cases hloop : loopToSend self rest with
    | error panic =>
      rw [hloop] at h
      cases h
    | ok reached =>
      obtain ⟨next', point⟩ := reached
      rw [hloop, ok_bind] at h
      cases h
      obtain ⟨pair, rfl⟩ := loopToSend_rest hloop
      exact Nat.lt_succ_self _

/-- The adapter but for the buffer in which the last packet was put together. -/
def cleared (a : SacnAdapter) : SacnAdapter :=
  { a with builder := { a.builder with scratch := [] } }

variable {A : F32Arith}

/-- Up to its first send a render only fills the buffer. -/
theorem cleared_startRender {self now : SacnAdapter} {frame : ResolvedFrame} {order : IterOrder}
    {reached : SendPoint} (h : Acceptable self.universes self.priority)
    (hstart : startRender A self frame order = .ok (now, reached)) :
    cleared now = cleared self := by
  unfold startRender at hstart
  cases hpixels : firstPixels frame order with
  | none =>
    rw [hpixels] at hstart
    cases hstart
    rfl
  | some pixels =>
    have hlength : ¬(slotBuffers A pixels self.universes.length).length ≠
        self.universes.length := by simp
    simp only [hpixels, partitionRgb_eq, ok_bind, startSlots, if_neg hlength] at hstart
    cases hsocket : self.socket with
    | none =>
      rw [hsocket] at hstart
      cases hstart
      rfl
    | some socket =>
      rw [hsocket] at hstart
      simp only at hstart
      cases hpairs : self.universes.zip (slotBuffers A pixels self.universes.length) with
      | nil =>
        have hcount : (self.universes.zip (slotBuffers A pixels self.universes.length)).length =
            self.universes.length := by simp
        rw [hpairs] at hcount
        exact absurd (List.length_eq_zero_iff.mp hcount.symm) h.nonempty
      | cons pair rest =>
        obtain ⟨univ, slots⟩ := pair
        have hencode := encode_ok self.builder self.sequence
          (encodable_pairs A h pixels (hpairs ▸ List.mem_cons_self))
        simp only [hpairs, loopToSend, hencode, ok_bind] at hstart
        cases hstart
        rfl

theorem render_total {self : SacnAdapter} (h : Acceptable self.universes self.priority)
    (frame : ResolvedFrame) (order : IterOrder) (send : SendOutcomes) :
    ∃ result, self.render A frame order send = .ok result := by
  obtain ⟨next, report, hperform, -⟩ := perform_effect A h (.render frame order send)
  cases hrender : self.render A frame order send with
  | ok result => exact ⟨result, rfl⟩
  | error panic =>
    rw [perform, hrender] at hperform
    cases hperform

end AwaitedSends
