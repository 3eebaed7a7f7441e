import Mathlib.Algebra.Order.Group.Nat
import Mathlib.Data.List.Basic

/-!
# Decimal texts with a fixed number of digits after the point

`write d n` is the text of the number `n / 10 ^ d`, with or without a sign in front. It
reads back as `n`.
-/

namespace FixedPoint

/-! ## Texts -/

/-- At least `d` digits, with zeros in front. -/
def digits (d n : Nat) : List Char :=
  List.replicate (d - (Nat.toDigits 10 n).length) '0' ++ Nat.toDigits 10 n

def write (d n : Nat) : List Char :=
  Nat.toDigits 10 (n / 10 ^ d) ++ '.' :: digits d (n % 10 ^ d)

/-- The number that a text stands for, if it has some digits, a point and `d` digits. -/
def read (d : Nat) (text : List Char) : Option Nat :=
  match text.splitOn '.' with
  | [whole, part] =>
    if whole ≠ [] ∧ part.length = d ∧ (whole ++ part).all Char.isDigit = true
    then some (Nat.ofDigitChars 10 (whole ++ part) 0) else none
  | _ => none

theorem length_digits {d n : Nat} (hd : 0 < d) (hn : n < 10 ^ d) : (digits d n).length = d := by
  have hle : (Nat.toDigits 10 n).length ≤ d := (Nat.length_toDigits_le_iff (by decide) hd).mpr hn
  rw [digits, List.length_append, List.length_replicate]
  omega

theorem ofDigitChars_digits (d n init : Nat) (hd : (digits d n).length = d) :
    Nat.ofDigitChars 10 (digits d n) init = 10 ^ d * init + n := by
  rw [Nat.ofDigitChars_eq_ofDigitChars_zero, hd, digits, Nat.ofDigitChars_append,
    Nat.ofDigitChars_replicate_zero, Nat.mul_zero, Nat.ofDigitChars_ten_toDigits]

theorem isDigit_of_mem_toDigits {n : Nat} {c : Char} (h : c ∈ Nat.toDigits 10 n) :
    c.isDigit = true := Nat.isDigit_of_mem_toDigits (by decide) (by decide) h

theorem isDigit_of_mem_digits {d n : Nat} {c : Char} (h : c ∈ digits d n) : c.isDigit = true := by
  rcases List.mem_append.mp h with h | h
  · rw [List.eq_of_mem_replicate h]
    decide
  · exact isDigit_of_mem_toDigits h

/-- A text holds digits and the point. -/
theorem mem_write {d n : Nat} {c : Char} (h : c ∈ write d n) : c.isDigit = true ∨ c = '.' := by
  rcases List.mem_append.mp h with h | h
  · exact .inl (isDigit_of_mem_toDigits h)
  · rcases List.mem_cons.mp h with h | h
    · exact .inr h
    · exact .inl (isDigit_of_mem_digits h)

theorem read_write {d : Nat} (hd : 0 < d) (n : Nat) : read d (write d n) = some n := by
  have hpart : n % 10 ^ d < 10 ^ d := Nat.mod_lt n (Nat.pow_pos (by decide))
  have hlength := length_digits hd hpart
  have hpoint : ∀ {cs : List Char}, (∀ c ∈ cs, c.isDigit = true) → '.' ∉ cs :=
    fun h hmem => absurd (h '.' hmem) (by decide)
  have hwhole : '.' ∉ Nat.toDigits 10 (n / 10 ^ d) :=
    hpoint fun c hc => isDigit_of_mem_toDigits hc
  have hrest : '.' ∉ digits d (n % 10 ^ d) := hpoint fun c hc => isDigit_of_mem_digits hc
  have hsplit : (write d n).splitOn '.' =
      [Nat.toDigits 10 (n / 10 ^ d), digits d (n % 10 ^ d)] := by
    rw [write, List.splitOn_append_cons_self_of_not_mem hwhole, List.splitOn_eq_singleton hrest]
  have hdigits : (Nat.toDigits 10 (n / 10 ^ d) ++ digits d (n % 10 ^ d)).all Char.isDigit =
      true := by
    refine List.all_eq_true.mpr fun c hc => ?_
    rcases List.mem_append.mp hc with hc | hc
    · exact isDigit_of_mem_toDigits hc
    · exact isDigit_of_mem_digits hc
  simp only [read, hsplit]
  rw [if_pos ⟨Nat.toDigits_ne_nil, hlength, hdigits⟩, Nat.ofDigitChars_append,
    Nat.ofDigitChars_ten_toDigits, ofDigitChars_digits _ _ _ hlength, Nat.div_add_mod]

/-! ## Signs -/

def writeSigned (d : Nat) (negative : Bool) (n : Nat) : List Char :=
  if negative then '-' :: write d n else write d n

def readSigned (d : Nat) (text : List Char) : Option Int :=
  match text with
  | '-' :: text => (read d text).map fun n => -(n : Int)
  | text => (read d text).map fun n => (n : Int)

/-- A text holds digits, the point and the sign. -/
theorem mem_writeSigned {d n : Nat} {negative : Bool} {c : Char}
    (h : c ∈ writeSigned d negative n) : c.isDigit = true ∨ c = '.' ∨ c = '-' := by
  cases negative with
  | false => exact (mem_write h).imp_right .inl
  | true =>
    rcases List.mem_cons.mp h with h | h
    · exact .inr (.inr h)
    · exact (mem_write h).imp_right .inl

theorem readSigned_writeSigned {d : Nat} (hd : 0 < d) (negative : Bool) (n : Nat) :
    readSigned d (writeSigned d negative n) = some (if negative then -(n : Int) else n) := by
  cases negative with
  | true =>
    rw [writeSigned, if_pos rfl, readSigned, read_write hd]
    rfl
  | false =>
    have hsign : ∀ text, write d n ≠ '-' :: text := by
      intro text h
      have hmem : '-' ∈ write d n := h ▸ List.mem_cons_self
      exact absurd (mem_write hmem) (by decide)
    change readSigned d (write d n) = _
    unfold readSigned
    split
    · rename_i text h
      exact absurd h (hsign text)
    · rw [read_write hd]
      rfl

end FixedPoint
