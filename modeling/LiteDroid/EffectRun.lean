import Mathlib.Data.Nat.Notation

/-!
# Actions that keep their state when they fail

An action returns a value or a failure, and in both cases the state it left
behind. A sequence that returns has run every one of its parts to its end, so
a property each part preserves holds afterwards. An action on a part of a
state runs on the whole state through a lens.
-/

namespace LiteDroid.EffectRun

variable {ε σ τ α β : Type}

/-- A part of a state that can be read and replaced. -/
structure Lens (σ τ : Type) where
  /-- Read the part. -/
  get : σ → τ
  /-- Replace the part. -/
  put : σ → τ → σ
  /-- What was put is read back. -/
  get_put : ∀ s t, get (put s t)=t

/-- Run an action on a part of the state. -/
def focus (lens : Lens σ τ) (x : EStateM ε τ α) : EStateM ε σ α := fun s =>
  match x (lens.get s) with
  | .ok a t => .ok a (lens.put s t)
  | .error e t => .error e (lens.put s t)

/-- Return a result that is already there, failing with its failure. -/
def returning (x : Except ε α) : EStateM ε σ α := fun s =>
  match x with
  | .ok a => .ok a s
  | .error e => .error e s

/-- Replace the state by a function of it that may fail; a failure keeps it. -/
def update (f : σ → Except ε σ) : EStateM ε σ Unit := fun s =>
  match f s with
  | .ok t => .ok () t
  | .error e => .error e s

/-- Behind a part that returns, a sequence is its second part. -/
theorem bind_of_ok {x : EStateM ε σ α} {s t : σ} {a : α} (h : x s=.ok a t)
    (f : α → EStateM ε σ β) : (x >>= f) s=f a t := by
  change EStateM.bind x f s=f a t
  rw [EStateM.bind.eq_def,h]

/-- Behind a part that fails, a sequence fails too. -/
theorem bind_of_error {x : EStateM ε σ α} {s t : σ} {e : ε} (h : x s=.error e t)
    (f : α → EStateM ε σ β) : (x >>= f) s=.error e t := by
  change EStateM.bind x f s=.error e t
  rw [EStateM.bind.eq_def,h]

/-- A sequence returns exactly when both of its parts do. -/
theorem bind_ok_iff {x : EStateM ε σ α} {f : α → EStateM ε σ β} {s u : σ} {b : β} :
    (x >>= f) s=.ok b u ↔ ∃ a t, x s=.ok a t ∧ f a t=.ok b u := by
  cases hx : x s with
  | ok a t =>
    rw [bind_of_ok hx]
    constructor
    · intro h
      exact ⟨a,t,rfl,h⟩
    · rintro ⟨_,_,he,h⟩
      cases he
      exact h
  | error e t =>
    rw [bind_of_error hx]
    simp

/-- A result that is there is returned. -/
theorem returning_ok {x : Except ε α} {a : α} (h : x=.ok a) (s : σ) : returning x s=.ok a s := by
  unfold returning
  rw [h]

/-- A failure that is there is raised. -/
theorem returning_error {x : Except ε α} {e : ε} (h : x=.error e) (s : σ) :
    returning x s=.error e s := by
  unfold returning
  rw [h]

/-- A focused action returns exactly when the action does on its part. -/
theorem focus_ok_iff {lens : Lens σ τ} {x : EStateM ε τ α} {s u : σ} {a : α} :
    focus lens x s=.ok a u ↔ ∃ t, x (lens.get s)=.ok a t ∧ u=lens.put s t := by
  unfold focus
  cases hx : x (lens.get s) with
  | ok b t =>
    simp only [EStateM.Result.ok.injEq]
    constructor
    · rintro ⟨rfl,rfl⟩
      exact ⟨t,⟨rfl,rfl⟩,rfl⟩
    · rintro ⟨_,⟨rfl,rfl⟩,rfl⟩
      exact ⟨rfl,rfl⟩
  | error e t => simp

/-- A focused action fails exactly when the action does on its part. -/
theorem focus_error_iff {lens : Lens σ τ} {x : EStateM ε τ α} {s u : σ} {e : ε} :
    focus lens x s=.error e u ↔ ∃ t, x (lens.get s)=.error e t ∧ u=lens.put s t := by
  unfold focus
  cases hx : x (lens.get s) with
  | ok b t => simp
  | error cause t =>
    simp only [EStateM.Result.error.injEq]
    constructor
    · rintro ⟨rfl,rfl⟩
      exact ⟨t,⟨rfl,rfl⟩,rfl⟩
    · rintro ⟨_,⟨rfl,rfl⟩,rfl⟩
      exact ⟨rfl,rfl⟩

/-- An update returns exactly when its function does, with its state. -/
theorem update_ok_iff {f : σ → Except ε σ} {s u : σ} :
    update f s=.ok () u ↔ f s=.ok u := by
  unfold update
  cases f s with
  | ok t => simp
  | error e => simp

/-- An update fails exactly when its function does, and keeps the state. -/
theorem update_error_iff {f : σ → Except ε σ} {s u : σ} {e : ε} :
    update f s=.error e u ↔ f s=.error e ∧ u=s := by
  unfold update
  cases f s with
  | ok t => simp
  | error cause => simp [eq_comm]

/-- A loop with one more round at its end returns when the loop and the round do. -/
theorem forM_snoc_ok {f : β → EStateM ε σ PUnit} {items : List β} {b : β} {s t u : σ}
    (h : items.forM f s=.ok () t) (hb : f b t=.ok () u) : (items++[b]).forM f s=.ok () u := by
  induction items generalizing s with
  | nil =>
    cases h
    exact bind_ok_iff.mpr ⟨(),u,hb,rfl⟩
  | cons c rest ih =>
    obtain ⟨a,v,hc,hrest⟩ := bind_ok_iff.mp h
    exact bind_ok_iff.mpr ⟨a,v,hc,ih hrest⟩

/-- An action that keeps a relation between the states before and after it,
whenever it returns. -/
def Keeps (R : σ → σ → Prop) (x : EStateM ε σ α) : Prop := ∀ s a u, x s=.ok a u → R s u

/-- A sequence keeps what both of its parts keep. -/
theorem Keeps.bind {R : σ → σ → Prop} (trans : ∀ s t u, R s t → R t u → R s u)
    {x : EStateM ε σ α} {f : α → EStateM ε σ β} (hx : Keeps R x) (hf : ∀ a, Keeps R (f a)) :
    Keeps R (x >>= f) := by
  intro s b u h
  obtain ⟨a,t,hxs,hfs⟩ := bind_ok_iff.mp h
  exact trans s t u (hx s a t hxs) (hf a t b u hfs)

/-- A loop keeps what each of its rounds keeps. -/
theorem Keeps.forM {R : σ → σ → Prop} (refl : ∀ s, R s s)
    (trans : ∀ s t u, R s t → R t u → R s u) {f : β → EStateM ε σ PUnit} (items : List β)
    (hf : ∀ b∈items, Keeps R (f b)) : Keeps R (items.forM f) := by
  induction items with
  | nil =>
    intro s a u h
    cases h
    exact refl s
  | cons b rest ih =>
    refine Keeps.bind trans (hf b List.mem_cons_self) fun _ => ?_
    exact ih fun c hc => hf c (List.mem_cons_of_mem _ hc)

/-- An action that returns from every state of a kind, with a state of that kind. -/
def Returns (P : σ → Prop) (x : EStateM ε σ α) : Prop :=
  ∀ s, P s → ∃ a u, x s=.ok a u ∧ P u

/-- A sequence returns when both of its parts do. -/
theorem Returns.bind {P : σ → Prop} {x : EStateM ε σ α} {f : α → EStateM ε σ β}
    (hx : Returns P x) (hf : ∀ a, Returns P (f a)) : Returns P (x >>= f) := by
  intro s hs
  obtain ⟨a,t,hxs,ht⟩ := hx s hs
  obtain ⟨b,u,hfs,hu⟩ := hf a t ht
  exact ⟨b,u,bind_ok_iff.mpr ⟨a,t,hxs,hfs⟩,hu⟩

/-- A loop returns when each of its rounds does. -/
theorem Returns.forM {P : σ → Prop} {f : β → EStateM ε σ PUnit} (items : List β)
    (hf : ∀ b∈items, Returns P (f b)) : Returns P (items.forM f) := by
  induction items with
  | nil => exact fun s hs => ⟨(),s,rfl,hs⟩
  | cons b rest ih =>
    refine Returns.bind (hf b List.mem_cons_self) fun _ => ?_
    exact ih fun c hc => hf c (List.mem_cons_of_mem _ hc)

/-- The state that an action left, whether or not it returned. -/
def left : EStateM.Result ε σ α → σ
  | .ok _ s => s
  | .error _ s => s

/-- Whether an action returned. -/
def succeeded : EStateM.Result ε σ α → Bool
  | .ok _ _ => true
  | .error _ _ => false

/-- A focused action leaves what the action leaves on its part. -/
theorem left_focus (lens : Lens σ τ) (x : EStateM ε τ α) (s : σ) :
    left (focus lens x s)=lens.put s (left (x (lens.get s))) := by
  unfold focus
  cases x (lens.get s) with
  | ok a t => rfl
  | error e t => rfl

/-- An action that keeps a relation between the states before and after it,
whether or not it returns. -/
def Leaves (R : σ → σ → Prop) (x : EStateM ε σ α) : Prop := ∀ s, R s (left (x s))

/-- A sequence leaves what both of its parts leave. -/
theorem Leaves.bind {R : σ → σ → Prop} (trans : ∀ s t u, R s t → R t u → R s u)
    {x : EStateM ε σ α} {f : α → EStateM ε σ β} (hx : Leaves R x) (hf : ∀ a, Leaves R (f a)) :
    Leaves R (x >>= f) := by
  intro s
  have hfirst := hx s
  cases hr : x s with
  | ok a t =>
    rw [hr] at hfirst
    rw [bind_of_ok hr]
    exact trans s t _ hfirst (hf a t)
  | error e t =>
    rw [hr] at hfirst
    rw [bind_of_error hr]
    exact hfirst

/-- A loop leaves what each of its rounds leaves. -/
theorem Leaves.forM {R : σ → σ → Prop} (refl : ∀ s, R s s)
    (trans : ∀ s t u, R s t → R t u → R s u) {f : β → EStateM ε σ PUnit} (items : List β)
    (hf : ∀ b∈items, Leaves R (f b)) : Leaves R (items.forM f) := by
  induction items with
  | nil => exact refl
  | cons b rest ih =>
    refine Leaves.bind trans (hf b List.mem_cons_self) fun _ => ?_
    exact ih fun c hc => hf c (List.mem_cons_of_mem _ hc)

/-- An update leaves what it does when it returns, and nothing otherwise. -/
theorem Leaves.update {R : σ → σ → Prop} (refl : ∀ s, R s s) {f : σ → Except ε σ}
    (hf : ∀ s u, f s=.ok u → R s u) : Leaves R (EffectRun.update f) := by
  intro s
  unfold EffectRun.update
  cases hr : f s with
  | ok u => exact hf s u hr
  | error e => exact refl s

/-- Returning a result leaves nothing. -/
theorem Leaves.returning {R : σ → σ → Prop} (refl : ∀ s, R s s) (x : Except ε α) :
    Leaves R (EffectRun.returning x) := by
  intro s
  unfold EffectRun.returning
  cases x with
  | ok a => exact refl s
  | error e => exact refl s

end LiteDroid.EffectRun
