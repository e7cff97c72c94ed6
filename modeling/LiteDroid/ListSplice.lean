import Mathlib.Data.Nat.Notation
import Mathlib.Data.List.Basic

/-!
# Ranges of a list replaced in place

A splice replaces the elements of a list from a position on by others, as a
copy into a buffer does. Rows are splices at positions of their own, one after
another. Where no two rows meet, each element afterwards is that of the row
that covers it, or the one that was there.
-/

namespace LiteDroid.ListSplice

variable {α : Type}

/-- A list with its elements from a position on replaced. -/
def splice (data : List α) (start : ℕ) (part : List α) : List α :=
  data.take start++part++data.drop (start+part.length)

/-- Replacing nothing keeps the list. -/
@[simp] theorem splice_nil (data : List α) (start : ℕ) : splice data start []=data := by
  rw [splice,List.append_nil,List.length_nil,Nat.add_zero,List.take_append_drop]

/-- A replacement inside the list keeps its length. -/
theorem splice_length {data part : List α} {start : ℕ} (h : start+part.length ≤ data.length) :
    (splice data start part).length=data.length := by
  simp only [splice,List.length_append,List.length_take,List.length_drop]
  omega

/-- The elements in the range are the new ones. -/
theorem splice_inside {data part : List α} {start i : ℕ} (h : start+part.length ≤ data.length)
    (hlow : start ≤ i) (hhigh : i < start+part.length) :
    (splice data start part)[i]?=part[i-start]? := by
  have htake : (data.take start).length=start := by
    rw [List.length_take]
    omega
  rw [splice,List.append_assoc,List.getElem?_append_right (by omega),htake,
    List.getElem?_append_left (by omega)]

/-- The elements outside the range are the old ones. -/
theorem splice_outside {data part : List α} {start i : ℕ} (h : start+part.length ≤ data.length)
    (hi : i < start ∨ start+part.length ≤ i) : (splice data start part)[i]?=data[i]? := by
  have htake : (data.take start).length=start := by
    rw [List.length_take]
    omega
  rcases hi with hlow | hhigh
  · rw [splice,List.append_assoc,List.getElem?_append_left (by omega),List.getElem?_take,
      if_pos hlow]
  · rw [splice,List.append_assoc,List.getElem?_append_right (by omega),htake,
      List.getElem?_append_right (by omega),List.getElem?_drop]
    congr 1
    omega

/-- Every element after a replacement inside the list. -/
theorem splice_getElem? {data part : List α} {start : ℕ} (h : start+part.length ≤ data.length)
    (i : ℕ) : (splice data start part)[i]?=
      if start ≤ i ∧ i < start+part.length then part[i-start]? else data[i]? := by
  split
  · rename_i hi
    exact splice_inside h hi.1 hi.2
  · exact splice_outside h (by omega)

/-- A window of a list, given element by element. -/
theorem window_eq {data part : List α} {start : ℕ}
    (h : ∀ j < part.length, data[start+j]?=part[j]?) : (data.drop start).take part.length=part := by
  apply List.ext_getElem?
  intro j
  rw [List.getElem?_take]
  split
  · rename_i hj
    rw [List.getElem?_drop,h j hj]
  · rename_i hj
    exact (List.getElem?_eq_none (by omega)).symm

/-- Rows that are put into a list: where each of them starts and what it holds. -/
structure Rows (α : Type) where
  /-- The first position of a row. -/
  start : ℕ → ℕ
  /-- The elements of a row. -/
  part : ℕ → List α

/-- A row covers a position. -/
def Rows.Covers (rows : Rows α) (row i : ℕ) : Prop :=
  rows.start row ≤ i ∧ i < rows.start row+(rows.part row).length

/-- Put a number of rows into a list, from a row on. -/
def paint (rows : Rows α) : ℕ → ℕ → List α → List α
  | 0,_,data => data
  | n+1,row,data => paint rows n (row+1) (splice data (rows.start row) (rows.part row))

/-- Every row lies inside a list of some length. -/
def Rows.Inside (rows : Rows α) (length : ℕ) : Prop :=
  ∀ row, rows.part row≠[] → rows.start row+(rows.part row).length ≤ length

/-- No two rows cover one position. -/
def Rows.Apart (rows : Rows α) : Prop :=
  ∀ row other i, rows.Covers row i → rows.Covers other i → row=other

/-- A row inside the list keeps its length. -/
theorem splice_row_length {rows : Rows α} {data : List α} (h : rows.Inside data.length) (row : ℕ) :
    (splice data (rows.start row) (rows.part row)).length=data.length := by
  by_cases hnil : rows.part row=[]
  · rw [hnil,splice_nil]
  · exact splice_length (h row hnil)

/-- Rows inside the list keep its length. -/
theorem paint_length {rows : Rows α} (n : ℕ) : ∀ (row : ℕ) (data : List α),
    rows.Inside data.length → (paint rows n row data).length=data.length := by
  induction n with
  | zero =>
    intro row data _
    rfl
  | succ n ih =>
    intro row data h
    have hrow := splice_row_length h row
    rw [paint,ih (row+1) _ (by rw [hrow]; exact h),hrow]

/-- A position that no row covers keeps its element. -/
theorem paint_outside {rows : Rows α} (n : ℕ) {i : ℕ} : ∀ (row : ℕ) (data : List α),
    rows.Inside data.length → (∀ k, row ≤ k → k < row+n → ¬rows.Covers k i) →
      (paint rows n row data)[i]?=data[i]? := by
  induction n with
  | zero =>
    intro row data _ _
    rfl
  | succ n ih =>
    intro row data h hfree
    have hrow := splice_row_length h row
    have hfirst : (splice data (rows.start row) (rows.part row))[i]?=data[i]? := by
      by_cases hnil : rows.part row=[]
      · rw [hnil,splice_nil]
      · have hcover := hfree row (by omega) (by omega)
        unfold Rows.Covers at hcover
        exact splice_outside (h row hnil) (by omega)
    rw [paint,ih (row+1) _ (by rw [hrow]; exact h),hfirst]
    intro k hk hlast
    exact hfree k (by omega) (by omega)

/-- Where no two rows meet, a position that a row covers holds the row's element. -/
theorem paint_inside {rows : Rows α} (hapart : rows.Apart) (n : ℕ) {k i : ℕ}
    (hcover : rows.Covers k i) : ∀ (row : ℕ) (data : List α),
    rows.Inside data.length → row ≤ k → k < row+n →
      (paint rows n row data)[i]?=(rows.part k)[i-rows.start k]? := by
  induction n with
  | zero =>
    intro row data _ hlow hhigh
    omega
  | succ n ih =>
    intro row data h hlow hhigh
    have hrow := splice_row_length h row
    rw [paint]
    by_cases hfirst : row=k
    · subst hfirst
      have hnil : rows.part row≠[] := by
        intro hempty
        unfold Rows.Covers at hcover
        rw [hempty,List.length_nil] at hcover
        omega
      rw [paint_outside n (row+1) _ (by rw [hrow]; exact h)]
      · exact splice_inside (h row hnil) hcover.1 hcover.2
      · intro other hother _ hmeets
        have heq := hapart other row i hmeets hcover
        omega
    · exact ih (row+1) _ (by rw [hrow]; exact h) (by omega) (by omega)

/-- Empty rows change nothing. -/
theorem paint_empty {rows : Rows α} (n : ℕ) : ∀ (row : ℕ) (data : List α),
    (∀ k, row ≤ k → rows.part k=[]) → paint rows n row data=data := by
  induction n with
  | zero =>
    intro row data _
    rfl
  | succ n ih =>
    intro row data h
    rw [paint,h row (Nat.le_refl row),splice_nil]
    exact ih (row+1) data fun k hk => h k (by omega)

end LiteDroid.ListSplice
