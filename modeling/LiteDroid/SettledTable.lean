import Mathlib.Algebra.BigOperators.Group.List.Basic
import Mathlib.Algebra.Order.Group.Multiset

/-!
# Tables with rows to be removed

Several parties add rows to one table, and rows are told apart by their
contents only. Some parties will still carry out removals; removing
a row that is not there does nothing. A table is settled when carrying out
all removals leaves exactly the rows of everybody else.
-/

namespace LiteDroid.SettledTable

/-- One element of a list contributes its own part of a sum over the list, and
replacing or dropping it changes no other part. -/
theorem sum_split {β μ : Type} [AddCommMonoid μ] (f : β → μ) {items : List β} {i : ℕ} {item : β}
    (h : items[i]?=some item) :
    ∃ others, (items.map f).sum=f item+others ∧
      (∀ next, ((items.set i next).map f).sum=f next+others) ∧
      ((items.eraseIdx i).map f).sum=others := by
  induction items generalizing i with
  | nil => cases h
  | cons head tail ih =>
    cases i with
    | zero =>
      obtain rfl := Option.some.inj h
      exact ⟨(tail.map f).sum,List.sum_cons,fun next => List.sum_cons,rfl⟩
    | succ i =>
      obtain ⟨others,hsum,hset,herase⟩ := ih h
      refine ⟨f head+others,?_,?_,?_⟩
      · rw [List.map_cons,List.sum_cons,hsum,add_left_comm]
      · intro next
        rw [List.set_cons_succ,List.map_cons,List.sum_cons,hset,add_left_comm]
      · rw [List.eraseIdx_cons_succ,List.map_cons,List.sum_cons,herase]

variable {α : Type} [DecidableEq α]

/-- Carrying out all removals leaves the given rest. -/
def Settled (table removals rest : Multiset α) : Prop := table-removals=rest

variable {table removals rest : Multiset α}

/-- A table is settled when it is so for each row. -/
theorem settled_iff_count :
    Settled table removals rest ↔ ∀ a, table.count a-removals.count a=rest.count a := by
  unfold Settled
  rw [Multiset.ext]
  exact forall_congr' fun a => by rw [Multiset.count_sub]

/-- Without removals a settled table is the rest. -/
theorem settled_zero_iff : Settled table 0 rest ↔ table=rest := by
  unfold Settled
  rw [tsub_zero]

/-- Carrying out a removal changes nothing about whether the table is settled. -/
theorem settled_withdraw_iff (removal : Multiset α) :
    Settled (table-removal) removals rest ↔ Settled table (removal+removals) rest := by
  unfold Settled
  rw [tsub_add_eq_tsub_tsub]

/-- Neither does a row that is added together with its removal. -/
theorem settled_deposit_iff (row : Multiset α) :
    Settled (row+table) (row+removals) rest ↔ Settled table removals rest := by
  unfold Settled
  rw [add_tsub_add_eq_tsub_left]

/-- Exchanging removals for others keeps a table settled exactly when nobody else
has a row of the new ones, and the table has no row of the old ones that the
remaining ones do not cover. -/
theorem settled_exchange_iff {old new : Multiset α} (hdisjoint : ∀ a∈new, a∉old)
    (h : Settled table (old+removals) rest) :
    Settled table (new+removals) rest ↔
      (∀ a∈new, a∉rest) ∧ ∀ a∈old, table.count a ≤ removals.count a := by
  rw [settled_iff_count] at h ⊢
  constructor
  · intro hnew
    constructor
    · intro a ha hrest
      have hpresent := Multiset.count_pos.mpr ha
      have habsent := Multiset.count_eq_zero.mpr (hdisjoint a ha)
      have hbefore := h a
      have hafter := hnew a
      have hrow := Multiset.count_pos.mpr hrest
      rw [Multiset.count_add] at hbefore hafter
      omega
    · intro a ha
      have hpresent := Multiset.count_pos.mpr ha
      have habsent := Multiset.count_eq_zero.mpr fun hn => hdisjoint a hn ha
      have hbefore := h a
      have hafter := hnew a
      rw [Multiset.count_add] at hbefore hafter
      omega
  · rintro ⟨hfree,hcovered⟩ a
    have hbefore := h a
    rw [Multiset.count_add] at hbefore ⊢
    by_cases hn : a∈new
    · have habsent := Multiset.count_eq_zero.mpr (hdisjoint a hn)
      have hrow := Multiset.count_eq_zero.mpr (hfree a hn)
      omega
    · have hnone := Multiset.count_eq_zero.mpr hn
      by_cases ho : a∈old
      · have hle := hcovered a ho
        omega
      · have habsent := Multiset.count_eq_zero.mpr ho
        omega

/-- A row that somebody else adds keeps a table settled exactly when the table
already had a row for every removal of it. -/
theorem settled_other_add_iff (a : α) (h : Settled table removals rest) :
    Settled (a::ₘtable) removals (a::ₘrest) ↔ removals.count a ≤ table.count a := by
  rw [settled_iff_count] at h ⊢
  constructor
  · intro hadded
    have hbefore := h a
    have hafter := hadded a
    rw [Multiset.count_cons_self,Multiset.count_cons_self] at hafter
    omega
  · intro hle b
    have hbefore := h b
    by_cases hb : b=a
    · subst hb
      rw [Multiset.count_cons_self,Multiset.count_cons_self]
      omega
    · rw [Multiset.count_cons_of_ne hb,Multiset.count_cons_of_ne hb]
      exact hbefore

/-- A row that somebody else removes keeps a table settled. -/
theorem Settled.other_erase (h : Settled table removals rest) (a : α) :
    Settled (table.erase a) removals (rest.erase a) := by
  rw [settled_iff_count] at h ⊢
  intro b
  have hbefore := h b
  by_cases hb : b=a
  · subst hb
    rw [Multiset.count_erase_self,Multiset.count_erase_self]
    omega
  · rw [Multiset.count_erase_of_ne hb,Multiset.count_erase_of_ne hb]
    exact hbefore

end LiteDroid.SettledTable
