import Mathlib.Data.Nat.Notation
import Mathlib.Data.List.Basic

/-!
# Runs of a step function

A machine reads inputs one at a time; a step may have no successor, which
ends the run. A run visits pairs of a state and the input handled there. An
invariant that every admissible step preserves holds at every visit of a run
whose steps are all admissible, and two runs whose states stay related answer
their inputs alike.
-/

namespace LiteDroid.StepRun

variable {σ ι : Type}

/-- The states a run goes through, each with the input handled in it. -/
def visits (step : σ → ι → Option σ) : σ → List ι → List (σ×ι)
  | _,[] => []
  | s,i::rest =>
    (s,i)::match step s i with
    | none => []
    | some next => visits step next rest

/-- The state after all inputs, if every step had a successor. -/
def run (step : σ → ι → Option σ) : σ → List ι → Option σ
  | s,[] => some s
  | s,i::rest =>
    match step s i with
    | none => none
    | some next => run step next rest

/-- The visits of a run whose first step has a successor. -/
theorem visits_cons {step : σ → ι → Option σ} {s next : σ} {i : ι} (h : step s i=some next)
    (rest : List ι) : visits step s (i::rest)=(s,i)::visits step next rest := by
  rw [visits,h]

/-- The end of a run whose first step has a successor. -/
theorem run_cons {step : σ → ι → Option σ} {s next : σ} {i : ι} (h : step s i=some next)
    (rest : List ι) : run step s (i::rest)=run step next rest := by
  rw [run,h]

/-- A run comes to an end exactly when its first step has a successor from which
the rest does. -/
theorem run_cons_iff {step : σ → ι → Option σ} {s last : σ} {i : ι} {rest : List ι} :
    run step s (i::rest)=some last ↔
      ∃ next, step s i=some next ∧ run step next rest=some last := by
  constructor
  · intro h
    cases hn : step s i with
    | none =>
      rw [run,hn] at h
      cases h
    | some next =>
      rw [run_cons hn] at h
      exact ⟨next,rfl,h⟩
  · rintro ⟨next,hn,h⟩
    rw [run_cons hn,h]

/-- The input of a visit is one of the run's inputs. -/
theorem visits_input {step : σ → ι → Option σ} {inputs : List ι} {s : σ} {v : σ×ι}
    (h : v∈visits step s inputs) : v.2∈inputs := by
  induction inputs generalizing s with
  | nil => cases h
  | cons i rest ih =>
    rcases List.mem_cons.mp h with rfl | h
    · exact List.mem_cons_self
    · cases hn : step s i with
      | none =>
        rw [hn] at h
        cases h
      | some next =>
        rw [hn] at h
        exact List.mem_cons_of_mem _ (ih h)

/-- A run over a concatenation is a run after a run. -/
theorem run_append (step : σ → ι → Option σ) (s : σ) (first second : List ι) :
    run step s (first++second)=(run step s first).bind fun mid => run step mid second := by
  induction first generalizing s with
  | nil => rfl
  | cons i rest ih =>
    rw [List.cons_append,run,run]
    cases step s i with
    | none => rfl
    | some next => exact ih next

/-- What a run shows to the outside: the answer to each input it handles. -/
def answers {ρ : Type} (step : σ → ι → Option σ) (respond : σ → ι → ρ) (s : σ) (inputs : List ι) :
    List ρ := (visits step s inputs).map fun visit => respond visit.1 visit.2

/-- The answers of a run whose first step has a successor. -/
theorem answers_cons {ρ : Type} {step : σ → ι → Option σ} {s next : σ} {i : ι}
    (h : step s i=some next) (respond : σ → ι → ρ) (rest : List ι) :
    answers step respond s (i::rest)=respond s i::answers step respond next rest := by
  unfold answers
  rw [visits_cons h,List.map_cons]

/-- Related states give the same answers to every sequence of inputs when one
input is answered alike and leads to related states again. -/
theorem answers_eq {ρ : Type} {step : σ → ι → Option σ} {respond : σ → ι → ρ}
    {R : σ → σ → Prop}
    (hstep : ∀ s t i, R s t → respond s i=respond t i ∧
      ((step s i=none ∧ step t i=none) ∨
        ∃ next other, step s i=some next ∧ step t i=some other ∧ R next other)) :
    ∀ (inputs : List ι) (s t : σ), R s t →
      answers step respond s inputs=answers step respond t inputs := by
  intro inputs
  induction inputs with
  | nil =>
    intro s t _
    rfl
  | cons i rest ih =>
    intro s t hr
    obtain ⟨hsame,⟨hs,ht⟩ | ⟨next,other,hs,ht,hnext⟩⟩ := hstep s t i hr
    · unfold answers
      simp only [visits,hs,ht,List.map_cons,List.map_nil,hsame]
    · rw [answers_cons hs,answers_cons ht,hsame,ih next other hnext]

variable {step : σ → ι → Option σ} {Inv : σ → Prop} {Good : σ → ι → Prop}

/-- What admissible steps preserve holds at every visit of an admissible run. -/
theorem visits_invariant
    (hstep : ∀ s i next, Inv s → Good s i → step s i=some next → Inv next) :
    ∀ (inputs : List ι) (s : σ), Inv s → (∀ v∈visits step s inputs, Good v.1 v.2) →
      ∀ v∈visits step s inputs, Inv v.1 := by
  intro inputs
  induction inputs with
  | nil =>
    intro s _ _ v hv
    simp [visits] at hv
  | cons i rest ih =>
    intro s hs hgood v hv
    have hfirst := hgood (s,i) List.mem_cons_self
    rcases List.mem_cons.mp hv with rfl | htail
    · exact hs
    · cases hn : step s i with
      | none =>
        rw [hn] at htail
        cases htail
      | some next =>
        rw [hn] at htail
        refine ih next (hstep s i next hs hfirst hn) ?_ v htail
        intro w hw
        exact hgood w (List.mem_cons_of_mem _ (by rw [hn]; exact hw))

/-- What admissible steps preserve holds at the end of an admissible run. -/
theorem run_invariant
    (hstep : ∀ s i next, Inv s → Good s i → step s i=some next → Inv next) :
    ∀ (inputs : List ι) (s last : σ), Inv s → (∀ v∈visits step s inputs, Good v.1 v.2) →
      run step s inputs=some last → Inv last := by
  intro inputs
  induction inputs with
  | nil =>
    intro s last hs _ hrun
    obtain rfl := Option.some.inj hrun
    exact hs
  | cons i rest ih =>
    intro s last hs hgood hrun
    have hfirst := hgood (s,i) List.mem_cons_self
    obtain ⟨next,hn,hrest⟩ := run_cons_iff.mp hrun
    rw [visits_cons hn] at hgood
    refine ih next last (hstep s i next hs hfirst hn) ?_ hrest
    intro w hw
    exact hgood w (List.mem_cons_of_mem _ hw)

/-- Where a step preserves the invariant exactly when it is admissible, and a
step without successor is admissible, the invariant holds in every state of a
run exactly when all of its steps are admissible. -/
theorem invariant_iff
    (hstep : ∀ s i next, Inv s → step s i=some next → (Inv next ↔ Good s i))
    (hend : ∀ s i, step s i=none → Good s i) :
    ∀ (inputs : List ι) (s : σ), Inv s →
      ((∀ first rest t, inputs=first++rest → run step s first=some t → Inv t) ↔
        ∀ v∈visits step s inputs, Good v.1 v.2) := by
  intro inputs
  induction inputs with
  | nil =>
    intro s hs
    refine ⟨fun _ v hv => (by cases hv),fun _ first rest t hsplit hrun => ?_⟩
    obtain ⟨rfl,-⟩ := List.append_eq_nil_iff.mp hsplit.symm
    obtain rfl := Option.some.inj hrun
    exact hs
  | cons i others ih =>
    intro s hs
    cases hn : step s i with
    | none =>
      have hgood := hend s i hn
      rw [visits,hn]
      refine ⟨fun _ v hv => ?_,fun _ first rest t hsplit hrun => ?_⟩
      · rw [List.mem_singleton.mp hv]
        exact hgood
      · cases first with
        | nil =>
          obtain rfl := Option.some.inj hrun
          exact hs
        | cons j before =>
          obtain ⟨rfl,-⟩ := List.cons.inj hsplit
          rw [run,hn] at hrun
          cases hrun
    | some next =>
      rw [visits_cons hn,List.forall_mem_cons]
      constructor
      · intro hall
        have hnext : Inv next := hall [i] others next rfl (by rw [run_cons hn]; rfl)
        refine ⟨(hstep s i next hs hn).mp hnext,(ih next hnext).mp ?_⟩
        intro first rest t hsplit hrun
        exact hall (i::first) rest t (by rw [hsplit]; rfl) (by rw [run_cons hn]; exact hrun)
      · rintro ⟨hgood,hrest⟩ first rest t hsplit hrun
        cases first with
        | nil =>
          obtain rfl := Option.some.inj hrun
          exact hs
        | cons j before =>
          obtain ⟨rfl,hothers⟩ := List.cons.inj hsplit
          rw [run_cons hn] at hrun
          have hnext := (hstep s i next hs hn).mpr hgood
          exact (ih next hnext).mpr hrest before rest t hothers hrun

section Following

variable {τ κ : Type} {step : σ → ι → Option σ} {other : τ → κ → Option τ} {view : σ → τ}
  {taken given : σ → ι → List κ} {pending : σ → List κ} {Live : σ → Prop}

/-- The inputs that a run hands to another machine, step by step. -/
def handed (step : σ → ι → Option σ) (given : σ → ι → List κ) (s : σ) (inputs : List ι) : List κ :=
  (visits step s inputs).flatMap fun visit => given visit.1 visit.2

/-- What a run hands on when its first step has a successor. -/
theorem handed_cons {s next : σ} {i : ι} (h : step s i=some next) (rest : List ι) :
    handed step given s (i::rest)=given s i++handed step given next rest := by
  unfold handed
  rw [visits_cons h,List.flatMap_cons]

/-- Where a step takes something in and hands on what waited, a run hands on
everything in order, up to what still waits. -/
theorem run_buffered
    (hstep : ∀ s i next, step s i=some next → pending s++taken s i=given s i++pending next) :
    ∀ (inputs : List ι) (s last : σ), run step s inputs=some last →
      pending s++handed step taken s inputs=handed step given s inputs++pending last := by
  intro inputs
  induction inputs with
  | nil =>
    intro s last h
    obtain rfl := Option.some.inj h
    exact List.append_nil _
  | cons i rest ih =>
    intro s last h
    obtain ⟨next,hn,hrest⟩ := run_cons_iff.mp h
    rw [handed_cons hn,handed_cons hn,← List.append_assoc,hstep s i next hn,List.append_assoc,
      List.append_assoc,ih next last hrest]

/-- Where each step hands on what separates two states, a run hands on what
separates its ends. -/
theorem run_handed {R : σ → List κ → σ → Prop} (hnone : ∀ s, R s [] s)
    (hboth : ∀ s t u first second, R s first t → R t second u → R s (first++second) u)
    (hstep : ∀ s i next, step s i=some next → R s (given s i) next) :
    ∀ (inputs : List ι) (s last : σ), run step s inputs=some last →
      R s (handed step given s inputs) last := by
  intro inputs
  induction inputs with
  | nil =>
    intro s last h
    obtain rfl := Option.some.inj h
    exact hnone s
  | cons i rest ih =>
    intro s last h
    obtain ⟨next,hn,hrest⟩ := run_cons_iff.mp h
    rw [handed_cons hn]
    exact hboth s next last _ _ (hstep s i next hn) (ih next last hrest)

/-- Where each step moves another machine by what it hands on, a run is a run of
the other machine. -/
theorem run_follows
    (hstep : ∀ s i next, step s i=some next → Live next →
      Live s ∧ run other (view s) (given s i)=some (view next)) :
    ∀ (inputs : List ι) (s last : σ), run step s inputs=some last → Live last →
      Live s ∧ run other (view s) (handed step given s inputs)=some (view last) := by
  intro inputs
  induction inputs with
  | nil =>
    intro s last h hlive
    obtain rfl := Option.some.inj h
    exact ⟨hlive,rfl⟩
  | cons i rest ih =>
    intro s last h hlive
    obtain ⟨next,hn,hrest⟩ := run_cons_iff.mp h
    obtain ⟨hnext,hothers⟩ := ih next last hrest hlive
    obtain ⟨hs,hfirst⟩ := hstep s i next hn hnext
    refine ⟨hs,?_⟩
    rw [handed_cons hn,run_append,hfirst]
    exact hothers

/-- Some input of a list finds the machine without a successor. -/
def Stuck (other : τ → κ → Option τ) (t : τ) (inputs : List κ) : Prop :=
  ∃ first i rest mid, inputs=first++i::rest ∧ run other t first=some mid ∧ other mid i=none

/-- A run that ends dead while it follows another machine has met an input for
which the other has no successor. -/
theorem run_stuck
    (hlive : ∀ s i next, Live s → step s i=some next → Live next →
      run other (view s) (given s i)=some (view next))
    (hdead : ∀ s i next, Live s → step s i=some next → ¬Live next →
      Stuck other (view s) (given s i)) :
    ∀ (inputs : List ι) (s last : σ), Live s → run step s inputs=some last → ¬Live last →
      Stuck other (view s) (handed step given s inputs) := by
  intro inputs
  induction inputs with
  | nil =>
    intro s last hs h hlast
    obtain rfl := Option.some.inj h
    exact absurd hs hlast
  | cons i rest ih =>
    intro s last hs h hlast
    obtain ⟨next,hn,hrest⟩ := run_cons_iff.mp h
    rw [handed_cons hn]
    by_cases hnext : Live next
    · obtain ⟨first,j,others,mid,hsplit,hrun,hnone⟩ := ih next last hnext hrest hlast
      refine ⟨given s i++first,j,others,mid,?_,?_,hnone⟩
      · rw [hsplit,List.append_assoc]
      · rw [run_append,hlive s i next hs hn hnext]
        exact hrun
    · obtain ⟨first,j,others,mid,hsplit,hrun,hnone⟩ := hdead s i next hs hn hnext
      refine ⟨first,j,others++handed step given next rest,mid,?_,hrun,hnone⟩
      rw [hsplit,List.append_assoc,List.cons_append]

end Following

section Records

variable {α : Type} {P : List α → α → Prop}

/-- Every entry of a record stands to those before it as it should. -/
def Each (P : List α → α → Prop) (record : List α) : Prop :=
  ∀ before entry rest, record=before++entry::rest → P before entry

/-- There is nothing to stand in an empty record. -/
theorem each_nil : Each P [] := by
  intro before entry rest hsplit
  exact absurd hsplit (by simp)

/-- A longer record is one whose last entry stands to the rest as it should. -/
theorem each_snoc {record : List α} {last : α} :
    Each P (record++[last]) ↔ Each P record ∧ P record last := by
  constructor
  · intro h
    refine ⟨fun before entry rest hsplit => ?_,h record last [] rfl⟩
    exact h before entry (rest++[last]) (by rw [hsplit,List.append_assoc,List.cons_append])
  · rintro ⟨hrecord,hlast⟩ before entry rest hsplit
    rcases List.eq_nil_or_concat rest with rfl | ⟨initial,final,rfl⟩
    · obtain ⟨rfl,hentry⟩ := List.append_inj' hsplit rfl
      obtain rfl := (List.cons.inj hentry).1
      exact hlast
    · rw [List.concat_eq_append,← List.cons_append,← List.append_assoc] at hsplit
      obtain ⟨hinitial,-⟩ := List.append_inj' hsplit rfl
      exact hrecord before entry initial hinitial

end Records

end LiteDroid.StepRun
