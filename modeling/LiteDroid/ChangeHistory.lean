import Mathlib.Data.List.Basic

/-!
# The most recent change of a history

Changes come one after another, and each decides what some places hold. What a
place holds in the end is decided by the most recent change that decides it, and
by the beginning where none does.
-/

namespace LiteDroid.ChangeHistory

variable {γ κ β : Type} {effect : γ → κ → Option β}

/-- What a place holds after some changes. -/
def settled (effect : γ → κ → Option β) (initial : κ → β) (changes : List γ) (k : κ) : β :=
  (changes.reverse.findSome? fun change => effect change k).getD (initial k)

/-- Without a change every place holds what it held. -/
@[simp] theorem settled_nil (initial : κ → β) : settled effect initial []=initial := rfl

/-- One change. -/
theorem settled_single (initial : κ → β) (change : γ) (k : κ) :
    settled effect initial [change] k=(effect change k).getD (initial k) := by
  unfold settled
  rw [List.reverse_singleton,List.findSome?_singleton]

/-- Changes behind changes. -/
theorem settled_append (initial : κ → β) (first second : List γ) :
    settled effect initial (first++second)=
      settled effect (settled effect initial first) second := by
  funext k
  unfold settled
  rw [List.reverse_append,List.findSome?_append]
  cases second.reverse.findSome? fun change => effect change k with
  | none => rfl
  | some value => rfl

end LiteDroid.ChangeHistory
