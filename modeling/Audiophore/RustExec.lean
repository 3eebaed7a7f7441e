import Mathlib.Data.Vector.Basic

/-!
# Operations that can stop a Rust program

A computation either yields a value or panics, and says at which kind of
operation. Overflow checks count as panics, as they do in a debug build: where
no panic is reachable, a release build computes the same values.
-/

namespace RustExec

universe u
variable {α : Type u}

inductive Panic where
  | indexOutOfBounds
  | lengthMismatch
  | addOverflow
  | subOverflow
  | zeroChunkSize
  | zeroInterval
  | instantOverflow
  | invalidDuration
  deriving DecidableEq

abbrev Exec := Except Panic

/-- `a - b` on an unsigned type. -/
def checkedSub (a b : Nat) : Exec Nat :=
  if b ≤ a then pure (a - b) else throw .subOverflow

/-- `a + b` on `u16`. -/
def checkedAddU16 (a b : UInt16) : Exec UInt16 :=
  if a.toNat + b.toNat < 2 ^ 16 then pure (a + b) else throw .addOverflow

/-- `&xs[..n]`. -/
def slicePrefix (xs : List α) (n : Nat) : Exec (List α) :=
  if n ≤ xs.length then pure (xs.take n) else throw .indexOutOfBounds

/-- `xs[i] = x`. -/
def setIndex (xs : List α) (i : Nat) (x : α) : Exec (List α) :=
  if i < xs.length then pure (xs.set i x) else throw .indexOutOfBounds

/-- `dst[..n].copy_from_slice(src)` on a fixed-size array. -/
def copyToPrefix {k : Nat} (dst : List.Vector α k) (n : Nat) (src : List α) :
    Exec (List.Vector α k) :=
  if h : src.length = n ∧ n ≤ k then
    pure ⟨src ++ dst.val.drop n, by
      have hd := dst.property
      simp only [List.length_append, List.length_drop, hd]
      omega⟩
  else if n ≤ k then throw .lengthMismatch
  else throw .indexOutOfBounds

@[simp] theorem ok_bind {β : Type u} (a : α) (f : α → Exec β) :
    (Except.ok a >>= f) = f a := rfl

theorem checkedSub_ok {a b : Nat} (h : b ≤ a) : checkedSub a b = .ok (a - b) := if_pos h

theorem checkedAddU16_ok {a b : UInt16} (h : a.toNat + b.toNat < 2 ^ 16) :
    checkedAddU16 a b = .ok (a + b) := if_pos h

theorem slicePrefix_ok {xs : List α} {n : Nat} (h : n ≤ xs.length) :
    slicePrefix xs n = .ok (xs.take n) := if_pos h

theorem setIndex_ok {xs : List α} {i : Nat} (x : α) (h : i < xs.length) :
    setIndex xs i x = .ok (xs.set i x) := if_pos h

theorem copyToPrefix_ok {k n : Nat} (dst : List.Vector α k) {src : List α}
    (hn : src.length = n) (hk : n ≤ k) :
    ∃ out, copyToPrefix dst n src = .ok out ∧ out.val = src ++ dst.val.drop n := by
  have h : src.length = n ∧ n ≤ k := ⟨hn, hk⟩
  refine ⟨_, dif_pos h, rfl⟩

end RustExec
