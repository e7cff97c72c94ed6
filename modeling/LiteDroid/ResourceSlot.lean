import Mathlib.Data.Nat.Notation
import Mathlib.Data.List.Basic

/-!
# A slot for one live resource

Resources begin and end, and a slot is meant to hold the one that is live. A
resource may only begin while the slot is empty, and the slot is emptied only
when its resource has ended. As long as that is kept, at most one resource is
live and the slot holds it; resources may also end on their own.
-/

namespace LiteDroid.ResourceSlot

variable {χ : Type}

/-- What happens to resources. -/
inductive SlotEvent (χ : Type) where
  /-- A resource begins. -/
  | began (c : χ)
  /-- A resource has ended. -/
  | ended (c : χ)
  /-- Something else. -/
  | other

/-- The slot after an event, unless a resource begins while it is taken. -/
def slotStep [DecidableEq χ] (slot : Option χ) : SlotEvent χ → Option (Option χ)
  | .began c => if slot=none then some (some c) else none
  | .ended c => some (if slot=some c then none else slot)
  | .other => some slot

/-- The live resources after an event. -/
def live [DecidableEq χ] (alive : List χ) : SlotEvent χ → List χ
  | .began c => c::alive
  | .ended c => alive.filter fun d => d≠c
  | .other => alive

/-- Every live resource is in the slot, and only once. -/
def Owned (alive : List χ) (slot : Option χ) : Prop := alive.Sublist slot.toList

/-- At most one owned resource is live. -/
theorem Owned.length_le {alive : List χ} {slot : Option χ} (h : Owned alive slot) :
    alive.length ≤ 1 := by
  have hle := List.Sublist.length_le h
  cases slot with
  | none => exact Nat.le_succ_of_le hle
  | some c => exact hle

/-- An owned resource that is live is in the slot. -/
theorem Owned.slot_eq {alive : List χ} {slot : Option χ} (h : Owned alive slot) {c : χ}
    (hc : c∈alive) : slot=some c := by
  have hmem := h.subset hc
  cases slot with
  | none => cases hmem
  | some d => rw [List.mem_singleton.mp hmem]

/-- With an empty slot nothing is live. -/
theorem Owned.eq_nil {alive : List χ} (h : Owned alive none) : alive=[] := List.sublist_nil.mp h

/-- A resource that ends on its own leaves the others owned. -/
theorem Owned.filter {alive : List χ} {slot : Option χ} (h : Owned alive slot) (p : χ → Bool) :
    Owned (alive.filter p) slot := List.filter_sublist.trans h

/-- Events that respect the slot keep the live resources owned. -/
theorem Owned.step [DecidableEq χ] {alive : List χ} {slot next : Option χ} {event : SlotEvent χ}
    (h : Owned alive slot) (hstep : slotStep slot event=some next) :
    Owned (live alive event) next := by
  cases event with
  | other =>
    obtain rfl := Option.some.inj hstep
    exact h
  | began c =>
    rw [slotStep] at hstep
    split at hstep
    · rename_i hnone
      obtain rfl := Option.some.inj hstep
      rw [hnone] at h
      rw [h.eq_nil]
      exact List.Sublist.refl [c]
    · cases hstep
  | ended c =>
    obtain rfl := Option.some.inj hstep
    split
    · rename_i hslot
      have hnone : (alive.filter fun d => d≠c)=[] := by
        rw [List.filter_eq_nil_iff]
        intro d hd
        have hdc := Option.some.inj ((h.slot_eq hd).symm.trans hslot)
        rw [hdc]
        simp
      rw [live,hnone]
      exact List.nil_sublist _
    · exact h.filter _

end LiteDroid.ResourceSlot
