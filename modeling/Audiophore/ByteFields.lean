import Mathlib.Data.List.Basic

/-!
# Big-endian fields of a byte string

A packet is written as a sequence of fields and read back at fixed offsets.
`slice_skip` and `slice_head` recover a field from its offset alone; `set_set_mid`
replaces one after the fact without disturbing its neighbours.
-/

namespace ByteFields

universe u
variable {α : Type u}

def be16 (x : UInt16) : List UInt8 := [UInt8.ofNat (x.toNat / 256), UInt8.ofNat x.toNat]

def be32 (x : UInt32) : List UInt8 :=
  [UInt8.ofNat (x.toNat / 0x1000000), UInt8.ofNat (x.toNat / 0x10000),
    UInt8.ofNat (x.toNat / 0x100), UInt8.ofNat x.toNat]

/-- The number a big-endian byte string stands for. -/
def ofBe (bytes : List UInt8) : Nat := bytes.foldl (fun acc b => acc * 256 + b.toNat) 0

@[simp] theorem length_be16 (x : UInt16) : (be16 x).length = 2 := by simp [be16]
@[simp] theorem length_be32 (x : UInt32) : (be32 x).length = 4 := by simp [be32]

@[simp] theorem ofBe_singleton (b : UInt8) : ofBe [b] = b.toNat := by simp [ofBe]

@[simp] theorem ofBe_be16 (x : UInt16) : ofBe (be16 x) = x.toNat := by
  have hx := x.toNat_lt
  simp only [ofBe, be16, List.foldl_cons, List.foldl_nil, UInt8.toNat_ofNat']
  omega

@[simp] theorem ofBe_be32 (x : UInt32) : ofBe (be32 x) = x.toNat := by
  have hx := x.toNat_lt
  simp only [ofBe, be32, List.foldl_cons, List.foldl_nil, UInt8.toNat_ofNat']
  omega

/-- `len` items from offset `off`, if they are all there. -/
def slice (xs : List α) (off len : Nat) : Option (List α) :=
  if off + len ≤ xs.length then some ((xs.drop off).take len) else none

/-- Reading past a field continues in what follows it. -/
theorem slice_skip {field rest : List α} {off len : Nat} (h : field.length ≤ off) :
    slice (field ++ rest) off len = slice rest (off - field.length) len := by
  have hle : off + len ≤ (field ++ rest).length ↔ off - field.length + len ≤ rest.length := by
    rw [List.length_append]
    omega
  simp only [slice, hle, List.drop_append, List.drop_eq_nil_of_le h, List.nil_append]

theorem slice_head {field rest : List α} {len : Nat} (h : field.length = len) :
    slice (field ++ rest) 0 len = some field := by
  subst h
  simp [slice]

theorem slice_self {field : List α} {len : Nat} (h : field.length = len) :
    slice field 0 len = some field := by
  have happend : slice (field ++ []) 0 len = some field := slice_head h
  simpa only [List.append_nil] using happend

/-- Two neighbouring items replaced in place. -/
theorem set_set_mid (pre post : List α) (a b x y : α) :
    ((pre ++ a :: b :: post).set pre.length x).set (pre.length + 1) y =
      pre ++ x :: y :: post := by
  simp

end ByteFields
