import Mathlib.Data.List.Basic

/-!
# Address ranges of a cell store

A store is a total function from natural addresses to cells. Writing a list
of cells at an address and reading a list of cells back are the only two
operations. Ranges that do not meet are separate: a write in one of them
leaves every read of the other unchanged. Bounds are no part of the store;
whoever owns one checks the range before calling it.
-/

namespace LiteDroid.ByteRange

variable {α : Type}

/-- Two half-open ranges, each given by its start and its length, have no
address in common: one of them is empty, or one ends before the other. -/
def Separate (a m b n : ℕ) : Prop := m=0 ∨ n=0 ∨ a+m ≤ b ∨ b+n ≤ a

instance (a m b n : ℕ) : Decidable (Separate a m b n) := inferInstanceAs (Decidable (_ ∨ _))

/-- Separation does not depend on the order of the two ranges. -/
theorem Separate.symm {a m b n : ℕ} (h : Separate a m b n) : Separate b n a m := by
  unfold Separate at *
  omega

/-- A part of a range is separate from whatever the whole range is separate from. -/
theorem Separate.part {a m b n c k : ℕ} (h : Separate a m b n) (hc : b ≤ c) (hk : c+k ≤ b+n) :
    Separate a m c k := by
  unfold Separate at *
  omega

/-- The store after the given cells were written from the start address on. -/
def overwrite (f : ℕ → α) (start : ℕ) (data : List α) : ℕ → α :=
  fun a => if start ≤ a then (data[a-start]?).getD (f a) else f a

/-- The cells of one range, in address order. -/
def slice (f : ℕ → α) (start len : ℕ) : List α := (List.range len).map fun i => f (start+i)

/-- A slice has the requested length, whatever the store holds. -/
@[simp] theorem slice_length (f : ℕ → α) (start len : ℕ) : (slice f start len).length=len := by
  simp [slice]

/-- The cell of a slice at an index is the store's cell at that address. -/
theorem slice_getElem? (f : ℕ → α) (start len i : ℕ) (hi : i < len) :
    (slice f start len)[i]?=some (f (start+i)) := by
  simp [slice,hi]

/-- A slice in two parts. -/
theorem slice_add (f : ℕ → α) (start m n : ℕ) :
    slice f start (m+n)=slice f start m++slice f (start+m) n := by
  simp only [slice,List.range_add,List.map_append,List.map_map,Function.comp_def,Nat.add_assoc]

/-- Two slices are equal exactly when the stores agree on the range. -/
theorem slice_eq_iff (f g : ℕ → α) (a b len : ℕ) :
    slice f a len=slice g b len ↔ ∀ i < len, f (a+i)=g (b+i) := by
  simp [slice]

/-- A slice equals a list of its length exactly when every cell is the listed one. -/
theorem slice_eq_list_iff (f : ℕ → α) (start : ℕ) (data : List α) :
    slice f start data.length=data ↔ ∀ i (hi : i < data.length), f (start+i)=data[i] := by
  constructor
  · intro h i hi
    have hs := slice_getElem? f start data.length i hi
    rw [h,List.getElem?_eq_getElem hi,Option.some_inj] at hs
    exact hs.symm
  · intro h
    apply List.ext_getElem
    · exact slice_length _ _ _
    · intro i _ hi
      simp only [slice,List.getElem_map,List.getElem_range]
      exact h i hi

/-- Addresses outside the written range keep their cell. -/
theorem overwrite_outside {f : ℕ → α} {start a : ℕ} {data : List α}
    (h : a < start ∨ start+data.length ≤ a) : overwrite f start data a=f a := by
  unfold overwrite
  split
  · rw [List.getElem?_eq_none (by omega)]
    rfl
  · rfl

/-- Addresses inside the written range hold the written cell. -/
theorem overwrite_inside (f : ℕ → α) (start : ℕ) (data : List α) (i : ℕ) (hi : i < data.length) :
    overwrite f start data (start+i)=data[i] := by
  have he : start+i-start=i := by omega
  unfold overwrite
  rw [if_pos (by omega),he,List.getElem?_eq_getElem hi]
  rfl

/-- Reading the written range back gives exactly the written cells. -/
theorem slice_overwrite_self (f : ℕ → α) (start : ℕ) (data : List α) :
    slice (overwrite f start data) start data.length=data :=
  (slice_eq_list_iff _ _ _).mpr (overwrite_inside f start data)

/-- A range separate from the written one reads as before the write. -/
theorem slice_overwrite_separate {f : ℕ → α} {start b len : ℕ} {data : List α}
    (h : Separate start data.length b len) :
    slice (overwrite f start data) b len=slice f b len := by
  apply (slice_eq_iff _ _ _ _ _).mpr
  intro i hi
  apply overwrite_outside
  unfold Separate at h
  omega

/-- A written range that a later write may run into reads back whole exactly
when the later cells agree with it where the two ranges meet. -/
theorem slice_overwrite_later {f : ℕ → α} {a b : ℕ} (hab : a ≤ b) (first second : List α) :
    slice (overwrite (overwrite f a first) b second) a first.length=first ↔
      ∀ i, (hi : i < second.length) → (hp : b-a+i < first.length) → first[b-a+i]=second[i] := by
  rw [slice_eq_list_iff]
  constructor
  · intro h i hi hp
    have hcell := h (b-a+i) hp
    have hat : a+(b-a+i)=b+i := by omega
    rw [hat,overwrite_inside _ _ _ i hi] at hcell
    exact hcell.symm
  · intro h j hj
    by_cases hin : b ≤ a+j ∧ a+j < b+second.length
    · have hat : a+j=b+(a+j-b) := by omega
      have hindex : b-a+(a+j-b)=j := by omega
      have hcell := h (a+j-b) (by omega) (by omega)
      rw [hat,overwrite_inside _ _ _ _ (by omega),← hcell]
      simp only [hindex]
    · rw [overwrite_outside (by omega),overwrite_inside _ _ _ j hj]

/-- Writing the cells that a range holds changes nothing. -/
theorem overwrite_held {f : ℕ → α} {start : ℕ} {data : List α}
    (h : slice f start data.length=data) : overwrite f start data=f := by
  have hcells := (slice_eq_list_iff f start data).mp h
  funext a
  by_cases hin : start ≤ a ∧ a < start+data.length
  · have hat : a=start+(a-start) := by omega
    rw [hat,overwrite_inside _ _ _ _ (by omega),hcells]
  · exact overwrite_outside (by omega)

/-- Writing no cell changes nothing. -/
@[simp] theorem overwrite_nil (f : ℕ → α) (start : ℕ) : overwrite f start []=f := by
  funext a
  exact overwrite_outside (by simp only [List.length_nil]; omega)

end LiteDroid.ByteRange
