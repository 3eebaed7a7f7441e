import Mathlib.Data.List.Basic
import Mathlib.Data.List.Count

/-!
# Records in a text

A table is written as a text: one terminated line for each row, and a separator between
two cells of a row. It reads back as the same table when no cell holds one of the two
marks, and otherwise the lines or the columns do not even have the right number.
-/

namespace TextRecords

universe u
variable {α : Type u} [DecidableEq α]

/-- Every line, ended by the terminator. -/
def unlines (eol : α) (ls : List (List α)) : List α := ls.flatMap (· ++ [eol])

/-- The terminated lines of a text. -/
def lines (eol : α) (text : List α) : List (List α) := (text.splitOn eol).dropLast

/-- Nothing follows the last terminator. -/
def Terminated (eol : α) (text : List α) : Prop := (text.splitOn eol).getLast? = some []

def write (eol sep : α) (rows : List (List (List α))) : List α :=
  unlines eol (rows.map [sep].intercalate)

/-- A cell that holds neither mark. -/
def Clean (eol sep : α) (cell : List α) : Prop := eol ∉ cell ∧ sep ∉ cell

instance (eol sep : α) (cell : List α) : Decidable (Clean eol sep cell) :=
  inferInstanceAs (Decidable (_ ∧ _))

omit [DecidableEq α] in
@[simp] theorem clean_append (eol sep : α) (x y : List α) :
    Clean eol sep (x ++ y) ↔ Clean eol sep x ∧ Clean eol sep y := by
  simp only [Clean, List.mem_append, not_or]
  exact and_and_and_comm

theorem length_splitOn (a : α) (l : List α) : (l.splitOn a).length = l.count a + 1 := by
  induction l with
  | nil => simp
  | cons x l ih =>
    rw [List.splitOn_cons_eq_if_modifyHead, List.count_cons]
    by_cases hx : x = a
    · simp [hx, ih]
    · simp [hx, ih]

theorem not_mem_of_mem_splitOn {a : α} {l part : List α} (h : part ∈ l.splitOn a) : a ∉ part := by
  induction l generalizing part with
  | nil => simp_all
  | cons x l ih =>
    rw [List.splitOn_cons_eq_if_modifyHead] at h
    obtain ⟨first, rest, hsplit⟩ := List.exists_cons_of_ne_nil (List.splitOn_ne_nil a l)
    rw [hsplit] at h ih
    by_cases hx : x = a
    · rw [if_pos (by simpa using hx)] at h
      rcases List.mem_cons.mp h with rfl | h
      · exact List.not_mem_nil
      · exact ih h
    · rw [if_neg (by simpa using hx), List.modifyHead_cons] at h
      rcases List.mem_cons.mp h with rfl | h
      · exact List.not_mem_cons_of_ne_of_not_mem (Ne.symm hx) (ih List.mem_cons_self)
      · exact ih (List.mem_cons_of_mem _ h)

theorem count_flatten_eq_zero_iff (a : α) (ls : List (List α)) :
    ls.flatten.count a = 0 ↔ ∀ l ∈ ls, a ∉ l := by
  rw [List.count_eq_zero, List.mem_flatten]
  push Not
  rfl

section Lines
variable (eol : α)

omit [DecidableEq α] in
theorem unlines_cons (l : List α) (ls : List (List α)) :
    unlines eol (l :: ls) = l ++ eol :: unlines eol ls := by
  simp [unlines]

theorem length_lines (text : List α) : (lines eol text).length = text.count eol := by
  rw [lines, List.length_dropLast, length_splitOn, Nat.add_sub_cancel]

theorem terminated_unlines (ls : List (List α)) : Terminated eol (unlines eol ls) := by
  induction ls with
  | nil => simp [Terminated, unlines]
  | cons l ls ih =>
    unfold Terminated at ih ⊢
    rw [unlines_cons, List.splitOn_append_cons_self, List.getLast?_append, ih]
    rfl

theorem lines_unlines {ls : List (List α)} (h : ∀ l ∈ ls, eol ∉ l) :
    lines eol (unlines eol ls) = ls := by
  have hsplit : (unlines eol ls).splitOn eol = ls ++ [[]] := by
    induction ls with
    | nil => simp [unlines]
    | cons l ls ih =>
      rw [unlines_cons, List.splitOn_append_cons_self_of_not_mem (h l (List.mem_cons_self ..)),
        ih fun l' hl' => h l' (List.mem_cons_of_mem _ hl')]
      rfl
  rw [lines, hsplit, List.dropLast_concat]

/-- A terminator inside a line shows as one line too many. -/
theorem length_lines_unlines_iff (ls : List (List α)) :
    (lines eol (unlines eol ls)).length = ls.length ↔ ∀ l ∈ ls, eol ∉ l := by
  have hcount : (unlines eol ls).count eol = ls.length + ls.flatten.count eol := by
    induction ls with
    | nil => rfl
    | cons l ls ih =>
      rw [unlines_cons, List.count_append, List.count_cons_self, ih, List.length_cons,
        List.flatten_cons, List.count_append]
      omega
  rw [length_lines, hcount, Nat.add_eq_left, count_flatten_eq_zero_iff]

end Lines

section Cells
variable (sep : α)

omit [DecidableEq α] in
theorem mem_intercalate_iff {c sep : α} (hc : c ≠ sep) (cells : List (List α)) :
    c ∈ [sep].intercalate cells ↔ ∃ cell ∈ cells, c ∈ cell := by
  induction cells with
  | nil => simp
  | cons cell cells ih =>
    cases cells with
    | nil => simp
    | cons next cells =>
      rw [List.intercalate_cons_cons, List.mem_append, List.mem_append, ih]
      simp [hc]

/-- A separator inside a cell shows as one column too many. -/
theorem length_splitOn_intercalate_iff {cells : List (List α)} (hcells : cells ≠ []) :
    (([sep].intercalate cells).splitOn sep).length = cells.length ↔ ∀ cell ∈ cells, sep ∉ cell := by
  have hcount : ∀ cell cells, ([sep].intercalate (cell :: cells)).count sep =
      cells.length + (cell :: cells).flatten.count sep := by
    intro cell cells
    induction cells generalizing cell with
    | nil => simp
    | cons next cells ih =>
      rw [List.intercalate_cons_cons, List.count_append, List.count_append, ih,
        List.count_singleton_self, List.length_cons, List.flatten_cons (l := cell),
        List.count_append]
      omega
  obtain ⟨cell, rest, rfl⟩ := List.exists_cons_of_ne_nil hcells
  rw [length_splitOn, hcount, ← count_flatten_eq_zero_iff, List.length_cons]
  omega

end Cells

section Tables
variable {eol sep : α}

omit [DecidableEq α] in
theorem write_append (rows rows' : List (List (List α))) :
    write eol sep (rows ++ rows') = write eol sep rows ++ write eol sep rows' := by
  simp [write, unlines]

omit [DecidableEq α] in
/-- A line holds no terminator exactly when none of its cells does. -/
theorem eol_not_mem_iff (hmarks : eol ≠ sep) (cells : List (List α)) :
    eol ∉ [sep].intercalate cells ↔ ∀ cell ∈ cells, eol ∉ cell := by
  rw [mem_intercalate_iff hmarks]
  push Not
  rfl

theorem terminated_write (rows : List (List (List α))) : Terminated eol (write eol sep rows) :=
  terminated_unlines eol _

theorem lines_write (hmarks : eol ≠ sep) {rows : List (List (List α))}
    (clean : ∀ row ∈ rows, ∀ cell ∈ row, Clean eol sep cell) :
    lines eol (write eol sep rows) = rows.map [sep].intercalate := by
  refine lines_unlines eol ?_
  rw [List.forall_mem_map]
  exact fun row hrow => (eol_not_mem_iff hmarks row).mpr fun cell hcell =>
    (clean row hrow cell hcell).1

/-- The table comes back, cell for cell. -/
theorem read_write (hmarks : eol ≠ sep) {rows : List (List (List α))}
    (nonempty : ∀ row ∈ rows, row ≠ [])
    (clean : ∀ row ∈ rows, ∀ cell ∈ row, Clean eol sep cell) :
    (lines eol (write eol sep rows)).map (·.splitOn sep) = rows := by
  rw [lines_write hmarks clean, List.map_map]
  refine (List.map_congr_left fun row hrow => ?_).trans (List.map_id rows)
  exact List.splitOn_intercalate sep (fun cell hcell => (clean row hrow cell hcell).2)
    (nonempty row hrow)

/-- Nothing else comes back. -/
theorem read_write_iff (hmarks : eol ≠ sep) {rows : List (List (List α))}
    (nonempty : ∀ row ∈ rows, row ≠ []) :
    (lines eol (write eol sep rows)).map (·.splitOn sep) = rows ↔
      ∀ row ∈ rows, ∀ cell ∈ row, Clean eol sep cell := by
  refine ⟨fun hread row hrow cell hcell => ?_, read_write hmarks nonempty⟩
  rw [← hread] at hrow
  obtain ⟨line, hline, rfl⟩ := List.mem_map.mp hrow
  have heol : eol ∉ line := not_mem_of_mem_splitOn (List.dropLast_subset _ hline)
  have hline' : [sep].intercalate (line.splitOn sep) = line := List.intercalate_splitOn sep
  rw [← hline', eol_not_mem_iff hmarks] at heol
  exact ⟨heol cell hcell, not_mem_of_mem_splitOn hcell⟩

/-- The right number of lines, each with the right number of columns, is all it takes. -/
theorem shape_write_iff (hmarks : eol ≠ sep) {n : Nat} (hn : n ≠ 0)
    {rows : List (List (List α))} (width : ∀ row ∈ rows, row.length = n) :
    ((lines eol (write eol sep rows)).length = rows.length ∧
      ∀ line ∈ lines eol (write eol sep rows), (line.splitOn sep).length = n) ↔
      ∀ row ∈ rows, ∀ cell ∈ row, Clean eol sep cell := by
  have nonempty : ∀ row ∈ rows, row ≠ [] := by
    rintro row hrow rfl
    exact hn (width [] hrow).symm
  constructor
  · rintro ⟨hlines, hcolumns⟩
    have heol : ∀ line ∈ rows.map [sep].intercalate, eol ∉ line := by
      rw [← length_lines_unlines_iff, List.length_map]
      exact hlines
    rw [write, lines_unlines eol heol, List.forall_mem_map] at hcolumns
    rw [List.forall_mem_map] at heol
    intro row hrow cell hcell
    have hsep := (length_splitOn_intercalate_iff sep (nonempty row hrow)).mp
      ((hcolumns row hrow).trans (width row hrow).symm)
    exact ⟨(eol_not_mem_iff hmarks row).mp (heol row hrow) cell hcell, hsep cell hcell⟩
  · intro clean
    have hread := read_write hmarks nonempty clean
    refine ⟨by rw [lines_write hmarks clean, List.length_map], fun line hline => ?_⟩
    exact width _ (hread ▸ List.mem_map_of_mem hline)

end Tables
end TextRecords
