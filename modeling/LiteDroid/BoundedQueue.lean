import Mathlib.Data.Nat.Notation
import Mathlib.Data.List.Basic

/-!
# Queues with a bound

A queue holds a limited number of values, the oldest one first. A value that is
offered to a full queue is lost. Whether a value gets in depends on two counts
only, that of the values that got in before and that of those taken out before.
-/

namespace LiteDroid.BoundedQueue

variable {α : Type} {capacity : ℕ}

/-- A queue with a bound. -/
structure Queue (capacity : ℕ) (α : Type) where
  /-- The values that wait, the oldest one first. -/
  pending : List α
  /-- There are not too many. -/
  pending_le : pending.length ≤ capacity

/-- A queue in which no value waits. -/
def Queue.empty : Queue capacity α := ⟨[],Nat.zero_le _⟩

/-- Put a value behind the others if there is room, and say whether there was. -/
def Queue.offer (queue : Queue capacity α) (value : α) : Bool×Queue capacity α :=
  if h : queue.pending.length < capacity then
    (true,⟨queue.pending++[value],by
      rw [List.length_append,List.length_singleton]
      exact h⟩)
  else (false,queue)

/-- Take the oldest value out. -/
def Queue.take (queue : Queue capacity α) : Option α×Queue capacity α :=
  (queue.pending.head?,⟨queue.pending.tail,by
    rw [List.length_tail]
    exact Nat.le_trans (Nat.sub_le _ _) queue.pending_le⟩)

/-- An operation on a queue. -/
inductive Op (α : Type) where
  /-- Offer a value. -/
  | offer (value : α)
  /-- Take one out. -/
  | take
  deriving DecidableEq

/-- What a sequence of operations did. -/
structure Trace (capacity : ℕ) (α : Type) where
  /-- The values that got in, in order. -/
  accepted : List α
  /-- The values that were taken out, in order. -/
  taken : List α
  /-- The queue afterwards. -/
  queue : Queue capacity α

/-- Perform operations one after another. -/
def Queue.perform (queue : Queue capacity α) : List (Op α) → Trace capacity α
  | [] => ⟨[],[],queue⟩
  | .offer value::rest =>
    let sent := queue.offer value
    let later := sent.2.perform rest
    ⟨if sent.1 then value::later.accepted else later.accepted,later.taken,later.queue⟩
  | .take::rest =>
    let out := queue.take
    let later := out.2.perform rest
    ⟨later.accepted,out.1.toList++later.taken,later.queue⟩

/-- Operations behind others are performed on the queue that those left. -/
theorem perform_append (second : List (Op α)) : ∀ (first : List (Op α)) (queue : Queue capacity α),
    (queue.perform (first++second)).accepted=(queue.perform first).accepted++
        ((queue.perform first).queue.perform second).accepted ∧
      (queue.perform (first++second)).taken=(queue.perform first).taken++
        ((queue.perform first).queue.perform second).taken ∧
      (queue.perform (first++second)).queue=
        ((queue.perform first).queue.perform second).queue := by
  intro first
  induction first with
  | nil => exact fun _ => ⟨rfl,rfl,rfl⟩
  | cons op rest ih =>
    intro queue
    cases op with
    | offer value =>
      obtain ⟨haccepted,htaken,hqueue⟩ := ih (queue.offer value).2
      simp only [List.cons_append,Queue.perform]
      rw [haccepted,htaken,hqueue]
      refine ⟨?_,rfl,rfl⟩
      split
      · rfl
      · rfl
    | take =>
      obtain ⟨haccepted,htaken,hqueue⟩ := ih queue.take.2
      simp only [List.cons_append,Queue.perform]
      rw [haccepted,htaken,hqueue,List.append_assoc]
      exact ⟨rfl,rfl,rfl⟩

end LiteDroid.BoundedQueue
