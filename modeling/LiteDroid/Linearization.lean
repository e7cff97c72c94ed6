import Mathlib.Data.List.Induction
import Mathlib.Data.List.Nodup
import LiteDroid.StepRun

/-!
# Linearizable histories

Operations on a shared object are asked for, performed and answered at
different moments, and who asked may give up. When each operation is performed
behind its request and before its answer, the history that can be seen is that
of an object that performs the operations at once, one after another, in an
order that agrees with real time.
-/

namespace LiteDroid.Linearization

open StepRun

variable {κ Op Ret St : Type}

/-- What happens to an operation. -/
inductive Action (κ Op Ret : Type) where
  /-- It is asked for. -/
  | invoked (id : κ) (op : Op)
  /-- The object performs it. -/
  | performed (id : κ) (op : Op) (ret : Ret)
  /-- Who asked for it has its answer, or gives up. -/
  | returned (id : κ) (ret : Option Ret)

/-- An operation that was performed. -/
structure Entry (κ Op Ret : Type) where
  /-- Its identity. -/
  id : κ
  /-- The operation. -/
  op : Op
  /-- Its answer. -/
  ret : Ret

/-- The operation that an action performs. -/
def Action.entry? : Action κ Op Ret → Option (Entry κ Op Ret)
  | .performed id op ret => some ⟨id,op,ret⟩
  | _ => none

/-- Whether an action is seen by those who ask. -/
def Action.visible : Action κ Op Ret → Bool
  | .performed _ _ _ => false
  | _ => true

/-- The operations in the order they were performed in. -/
def order (actions : List (Action κ Op Ret)) : List (Entry κ Op Ret) :=
  actions.filterMap Action.entry?

/-- What those who ask have seen. -/
def history (actions : List (Action κ Op Ret)) : List (Action κ Op Ret) :=
  actions.filter Action.visible

/-- The object performs operations one after another. -/
inductive Serial (Behaves : St → Op → Ret → St → Prop) (s : St) :
    List (Entry κ Op Ret) → St → Prop where
  /-- None. -/
  | nil : Serial Behaves s [] s
  /-- One more. -/
  | snoc {entries : List (Entry κ Op Ret)} {e : Entry κ Op Ret} {mid last : St}
      (before : Serial Behaves s entries mid) (h : Behaves mid e.op e.ret last) :
      Serial Behaves s (entries++[e]) last

/-- A history is that of an object that performs operations at once in some
order. -/
structure Linearizable (Behaves : St → Op → Ret → St → Prop) (s last : St)
    (seen : List (Action κ Op Ret)) (entries : List (Entry κ Op Ret)) : Prop where
  /-- The object performs them one after another. -/
  serial : Serial Behaves s entries last
  /-- None is performed twice. -/
  once : (entries.map Entry.id).Nodup
  /-- Each of them was asked for. -/
  asked : ∀ e∈entries, .invoked e.id e.op∈seen
  /-- Every answer is that of the operation. -/
  answered : ∀ id ret, .returned id (some ret)∈seen → ∃ e∈entries, e.id=id ∧ e.ret=ret
  /-- What was answered before another was asked for is performed before it. -/
  inTime : ∀ id ret other op before middle rest,
    seen=before++.returned id (some ret)::(middle++.invoked other op::rest) →
    ∀ e∈entries, e.id=other → ∃ first behind, entries=first++e::behind ∧ id∈first.map Entry.id

/-- An action comes at its time. -/
def Timely (before : List (Action κ Op Ret)) : Action κ Op Ret → Prop
  | .invoked id _ => ∀ op, .invoked id op∉before
  | .performed id op _ => .invoked id op∈before ∧ ∀ op ret, .performed id op ret∉before
  | .returned id (some ret) => ∃ op, .performed id op ret∈before
  | .returned _ none => True

/-- Operations are performed when they are performed. -/
theorem mem_order {actions : List (Action κ Op Ret)} {e : Entry κ Op Ret} :
    e∈order actions ↔ .performed e.id e.op e.ret∈actions := by
  unfold order
  rw [List.mem_filterMap]
  constructor
  · rintro ⟨action,hmem,hentry⟩
    cases action with
    | performed id op ret =>
      obtain rfl := Option.some.inj hentry
      exact hmem
    | invoked id op => cases hentry
    | returned id ret => cases hentry
  · intro hmem
    exact ⟨_,hmem,rfl⟩

/-- The order of two parts. -/
theorem order_append (first second : List (Action κ Op Ret)) :
    order (first++second)=order first++order second := List.filterMap_append

/-- Nothing is performed twice. -/
theorem once_of_timely {actions : List (Action κ Op Ret)} (h : Each Timely actions) :
    ((order actions).map Entry.id).Nodup := by
  induction actions using List.reverseRecOn with
  | nil => exact List.nodup_nil
  | append_singleton actions action ih =>
    obtain ⟨hactions,haction⟩ := each_snoc.mp h
    rw [order_append,List.map_append]
    cases action with
    | performed id op ret =>
      refine List.nodup_append.mpr ⟨ih hactions,List.nodup_singleton _,?_⟩
      intro first hfirst second hsecond
      obtain ⟨e,he,rfl⟩ := List.mem_map.mp hfirst
      obtain rfl := List.mem_singleton.mp hsecond
      intro heq
      have hbefore := mem_order.mp he
      rw [heq] at hbefore
      exact haction.2 _ _ hbefore
    | invoked id op => exact (List.append_nil _).symm ▸ ih hactions
    | returned id ret => exact (List.append_nil _).symm ▸ ih hactions

/-- An operation is performed behind its only request. -/
theorem performed_behind {first rest : List (Action κ Op Ret)} {id : κ} {op : Op}
    (h : Each Timely (first++.invoked id op::rest)) {e : Entry κ Op Ret} (he : e.id=id) :
    e∉order first := by
  intro hmem
  obtain ⟨before,behind,hsplit⟩ := List.append_of_mem (mem_order.mp hmem)
  have hdue := h before (.performed e.id e.op e.ret) (behind++.invoked id op::rest) (by
    rw [hsplit,List.append_assoc,List.cons_append])
  have hinvoked : .invoked id e.op∈first := by
    rw [hsplit,← he]
    exact List.mem_append_left _ hdue.1
  exact h first (.invoked id op) rest rfl e.op hinvoked

/-- When every action comes at its time, what is seen is linearizable by the
order in which the operations were performed. -/
theorem linearizable_of_timely {Behaves : St → Op → Ret → St → Prop} {s last : St}
    {actions : List (Action κ Op Ret)} (h : Each Timely actions)
    (hserial : Serial Behaves s (order actions) last) :
    Linearizable Behaves s last (history actions) (order actions) := by
  refine ⟨hserial,once_of_timely h,?_,?_,?_⟩
  · intro e he
    obtain ⟨before,rest,hsplit⟩ := List.append_of_mem (mem_order.mp he)
    have hasked := (h before _ rest hsplit).1
    refine List.mem_filter.mpr ⟨?_,rfl⟩
    rw [hsplit]
    exact List.mem_append_left _ hasked
  · intro id ret hmem
    obtain ⟨before,rest,hsplit⟩ := List.append_of_mem (List.mem_filter.mp hmem).1
    obtain ⟨op,hperformed⟩ := h before _ rest hsplit
    refine ⟨⟨id,op,ret⟩,mem_order.mpr ?_,rfl,rfl⟩
    rw [hsplit]
    exact List.mem_append_left _ hperformed
  · intro id ret other op before middle rest hseen e he hid
    -- The two visible actions cut the whole record into three parts.
    obtain ⟨first,others,rfl,-,hothers⟩ := List.filter_eq_append_iff.mp hseen
    obtain ⟨hidden,second,rfl,-,-,hsecond⟩ := List.filter_eq_cons_iff.mp hothers
    obtain ⟨between,third,rfl,-,hthird⟩ := List.filter_eq_append_iff.mp hsecond
    obtain ⟨quiet,final,rfl,-,-,-⟩ := List.filter_eq_cons_iff.mp hthird
    have hanswer := h (first++hidden) (.returned id (some ret))
      (between++(quiet++.invoked other op::final)) (by simp)
    obtain ⟨done,hdone⟩ := hanswer
    have hwhole : first++(hidden++.returned id (some ret)::
          (between++(quiet++.invoked other op::final)))=
        (first++hidden++.returned id (some ret)::(between++quiet))++.invoked other op::final := by
      simp
    rw [hwhole] at h he ⊢
    rw [order_append] at he ⊢
    rcases List.mem_append.mp he with hearly | hlate
    · exact absurd hearly (performed_behind h hid)
    · obtain ⟨start,behind,hsplit⟩ := List.append_of_mem hlate
      refine ⟨_,behind,by rw [hsplit,← List.append_assoc],?_⟩
      rw [List.map_append,order_append,List.map_append]
      refine List.mem_append_left _ (List.mem_append_left _ ?_)
      exact List.mem_map.mpr ⟨⟨id,done,ret⟩,mem_order.mpr hdone,rfl⟩

end LiteDroid.Linearization
