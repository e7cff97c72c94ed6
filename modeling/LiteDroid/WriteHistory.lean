import LiteDroid.ByteRange

/-!
# The most recent write of a history

A history of writes to a cell store, and the cell each address holds after
it, found by searching the history backwards for a write that covers the
address. This is the reference a store that applies its writes one by one
is compared with.
-/

namespace LiteDroid.WriteHistory

open ByteRange

variable {α : Type}

/-- One write: the address of its first cell and the cells. -/
structure Write (α : Type) where
  /-- Address of the first cell. -/
  start : ℕ
  /-- The cells, in address order. -/
  data : List α

/-- The cell a write puts at an address, if it covers it. -/
def Write.at? (write : Write α) (a : ℕ) : Option α :=
  if write.start ≤ a then write.data[a-write.start]? else none

/-- The cell an address holds after a history: that of the most recent write
that covers it, and the initial one where none does. -/
def latest (initial : ℕ → α) (history : List (Write α)) (a : ℕ) : α :=
  (history.reverse.findSome? fun write => write.at? a).getD (initial a)

/-- Before any write every address holds its initial cell. -/
@[simp] theorem latest_nil (initial : ℕ → α) : latest initial []=initial := rfl

/-- The most recent write of a history decides the cells it covers. -/
theorem latest_append (initial : ℕ → α) (history : List (Write α)) (write : Write α) :
    latest initial (history++[write])=overwrite (latest initial history) write.start write.data := by
  funext a
  simp only [latest,List.reverse_append,List.reverse_cons,List.reverse_nil,List.nil_append,
    List.singleton_append,List.findSome?_cons,overwrite,Write.at?]
  by_cases ha : write.start ≤ a
  · rw [if_pos ha,if_pos ha]
    cases write.data[a-write.start]? with
    | none => rfl
    | some cell => rfl
  · rw [if_neg ha,if_neg ha]

/-- A write is seen at the addresses it covers only. -/
theorem Write.at?_covers {write : Write α} {a : ℕ} {cell : α} (h : write.at? a=some cell) :
    write.start ≤ a ∧ a < write.start+write.data.length := by
  unfold Write.at? at h
  split at h
  · rename_i hstart
    obtain ⟨hlt,-⟩ := List.getElem?_eq_some_iff.mp h
    omega
  · cases h

/-- The most recent write to an address put a cell there. -/
def LastAt (history : List (Write α)) (a : ℕ) (cell : α) : Prop :=
  ∃ earlier write later, history=earlier++write::later ∧ write.at? a=some cell ∧
    ∀ other∈later, other.at? a=none

/-- Cells were last written from an address on, by one write or by several. -/
def LastWritten (history : List (Write α)) (start : ℕ) (data : List α) : Prop :=
  ∀ i, (hi : i < data.length) → LastAt history (start+i) data[i]

/-- The backwards search finds the cell of the most recent write. -/
theorem lastAt_iff {history : List (Write α)} {a : ℕ} {cell : α} :
    LastAt history a cell ↔
      (history.reverse.findSome? fun write => write.at? a)=some cell := by
  rw [List.findSome?_eq_some_iff]
  constructor
  · rintro ⟨earlier,write,later,rfl,hcell,hlater⟩
    refine ⟨later.reverse,write,earlier.reverse,?_,hcell,?_⟩
    · rw [List.reverse_append,List.reverse_cons,List.append_assoc,List.singleton_append]
    · intro other hm
      exact hlater other (List.mem_reverse.mp hm)
  · rintro ⟨later,write,earlier,hsplit,hcell,hlater⟩
    refine ⟨earlier.reverse,write,later.reverse,?_,hcell,?_⟩
    · rw [← List.reverse_reverse history,hsplit,List.reverse_append,List.reverse_cons,
        List.append_assoc,List.singleton_append]
    · intro other hm
      exact hlater other (List.mem_reverse.mp hm)

/-- An address that was written holds the cell of its most recent write. -/
theorem latest_of_lastAt {history : List (Write α)} {a : ℕ} {cell : α}
    (h : LastAt history a cell) (initial : ℕ → α) : latest initial history a=cell := by
  rw [latest,lastAt_iff.mp h,Option.getD_some]

/-- An address that was never written holds its initial cell. -/
theorem latest_of_unwritten {history : List (Write α)} {a : ℕ}
    (h : ∀ cell, ¬LastAt history a cell) (initial : ℕ → α) :
    latest initial history a=initial a := by
  have hnone : (history.reverse.findSome? fun write => write.at? a)=none := by
    rw [Option.eq_none_iff_forall_ne_some]
    exact fun cell hcell => h cell (lastAt_iff.mpr hcell)
  rw [latest,hnone,Option.getD_none]

/-- Cells that were last written from an address on are read there. -/
theorem slice_of_lastWritten {history : List (Write α)} {start : ℕ} {data : List α}
    (h : LastWritten history start data) (initial : ℕ → α) :
    slice (latest initial history) start data.length=data :=
  (slice_eq_list_iff _ _ _).mpr fun i hi => latest_of_lastAt (h i hi) initial

/-- A write that no later one runs into was the last one of its cells. -/
theorem lastWritten_of_separate {earlier later : List (Write α)} {write : Write α}
    (h : ∀ other∈later,
      Separate other.start other.data.length write.start write.data.length) :
    LastWritten (earlier++write::later) write.start write.data := by
  intro i hi
  refine ⟨earlier,write,later,rfl,?_,?_⟩
  · have hat : write.start+i-write.start=i := by omega
    rw [Write.at?,if_pos (by omega),hat,List.getElem?_eq_getElem hi]
  · intro other hm
    have hseparate := h other hm
    rw [Option.eq_none_iff_forall_ne_some]
    intro cell hcell
    have hcovers := Write.at?_covers hcell
    unfold Separate at hseparate
    omega

end LiteDroid.WriteHistory
