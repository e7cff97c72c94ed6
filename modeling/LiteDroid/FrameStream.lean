import Mathlib.Data.Nat.Notation
import Mathlib.Data.List.Infix

/-!
# Streams of frames

Values are written one after another to a stream and read back from it. A
reader that undoes the writer of one value, whatever follows, and that fails
on every cut of its encoding keeps both ends aligned over any number of
values, and a stream that ends early never yields a value that was not sent.
-/

namespace LiteDroid.FrameStream

variable {α μ : Type}

/-- The next elements of a stream and what is left of it, if there are enough. -/
def readExact (n : ℕ) (input : List α) : Option (List α×List α) :=
  if n ≤ input.length then some (input.take n,input.drop n) else none

/-- Reading as much as was put in front gives it back. -/
@[simp] theorem readExact_append (data rest : List α) :
    readExact data.length (data++rest)=some (data,rest) := by
  have hle : data.length ≤ (data++rest).length := by
    rw [List.length_append]
    exact Nat.le_add_right _ _
  rw [readExact,if_pos hle,List.take_left,List.drop_left]

/-- A stream that is too short cannot be read. -/
theorem readExact_short {n : ℕ} {input : List α} (h : input.length < n) :
    readExact n input=none := by
  rw [readExact,if_neg (Nat.not_le.mpr h)]

/-- What was read comes before what is left. -/
theorem readExact_some {n : ℕ} {input data rest : List α}
    (h : readExact n input=some (data,rest)) : input=data++rest ∧ data.length=n := by
  unfold readExact at h
  split at h
  · rename_i hle
    obtain ⟨rfl,rfl⟩ := Prod.mk.inj (Option.some.inj h)
    exact ⟨(List.take_append_drop n input).symm,List.length_take_of_le hle⟩
  · cases h

/-- A writer of values and a reader that keeps aligned with it. -/
structure Framing (α μ : Type) where
  /-- The values that can be written. -/
  Valid : μ → Prop
  /-- The encoding of a value. -/
  write : μ → List α
  /-- The next value of a stream and what is left of it. -/
  read : List α → Option (μ×List α)
  /-- Reading undoes writing, whatever follows. -/
  read_write : ∀ m rest, Valid m → read (write m++rest)=some (m,rest)
  /-- A cut encoding cannot be read. -/
  read_cut : ∀ m part, Valid m → part<+:write m → part≠write m → read part=none
  /-- Nothing cannot be read. -/
  read_nil : read []=none

/-- What one read gives and what it leaves. A read that fails has taken
everything there was. -/
def readOnce (read : List α → Option (μ×List α)) (input : List α) : Option μ×List α :=
  match read input with
  | none => (none,[])
  | some (m,rest) => (some m,rest)

/-- What a number of reads give in order and what they leave. -/
def readMany (read : List α → Option (μ×List α)) : ℕ → List α → List (Option μ)×List α
  | 0,input => ([],input)
  | n+1,input =>
    let first := readOnce read input
    let later := readMany read n first.2
    (first.1::later.1,later.2)

/-- Reading the encodings of values in order gives the values and leaves what follows. -/
theorem Framing.readMany_writes (framing : Framing α μ) {values : List μ}
    (h : ∀ m∈values, framing.Valid m) (rest : List α) :
    readMany framing.read values.length (values.flatMap framing.write++rest)=
      (values.map some,rest) := by
  induction values with
  | nil => rfl
  | cons m later ih =>
    have hm := framing.read_write m (later.flatMap framing.write++rest) (h m List.mem_cons_self)
    have hlater := ih fun w hw => h w (List.mem_cons_of_mem m hw)
    rw [List.flatMap_cons,List.append_assoc,List.length_cons,readMany,readOnce,hm]
    dsimp only
    rw [hlater,List.map_cons]

/-- Reads from an exhausted stream all fail. -/
theorem Framing.readMany_nil (framing : Framing α μ) (n : ℕ) :
    readMany framing.read n []=(List.replicate n none,[]) := by
  induction n with
  | zero => rfl
  | succ n ih =>
    rw [readMany,readOnce,framing.read_nil]
    dsimp only
    rw [ih,List.replicate_succ]

/-- A proper prefix of a concatenation is cut in its first part, or runs through
it into a proper prefix of the second. -/
theorem prefix_append_cases {first second part : List α} (h : part<+:first++second)
    (hne : part≠first++second) :
    (part<+:first ∧ part≠first) ∨ ∃ more, part=first++more ∧ more<+:second ∧ more≠second := by
  by_cases hlen : part.length < first.length
  · refine Or.inl ⟨List.prefix_of_prefix_length_le h (List.prefix_append first second)
      (Nat.le_of_lt hlen),?_⟩
    intro heq
    rw [heq] at hlen
    exact Nat.lt_irrefl _ hlen
  · obtain ⟨more,hmore⟩ := List.prefix_of_prefix_length_le (List.prefix_append first second) h
      (Nat.le_of_not_lt hlen)
    refine Or.inr ⟨more,hmore.symm,?_,?_⟩
    · rw [←hmore] at h
      exact (List.prefix_append_right_inj first).mp h
    · intro heq
      rw [heq] at hmore
      exact hne hmore.symm

/-- On a proper prefix of the encodings the reads give a proper prefix of the
values and then fail. -/
theorem Framing.readMany_cut (framing : Framing α μ) {values : List μ}
    (h : ∀ m∈values, framing.Valid m) {part : List α}
    (hpart : part<+:values.flatMap framing.write) (hne : part≠values.flatMap framing.write) :
    ∃ k < values.length, readMany framing.read values.length part=
      ((values.take k).map some++List.replicate (values.length-k) none,[]) := by
  induction values generalizing part with
  | nil => exact absurd (List.prefix_nil.mp hpart) hne
  | cons m later ih =>
    rw [List.flatMap_cons] at hpart hne
    have hm := h m List.mem_cons_self
    obtain ⟨hcut,hcutne⟩ | ⟨more,rfl,hmore,hmorene⟩ := prefix_append_cases hpart hne
    · refine ⟨0,Nat.zero_lt_succ _,?_⟩
      rw [List.length_cons,readMany,readOnce,framing.read_cut m part hm hcut hcutne]
      dsimp only
      rw [framing.readMany_nil]
      rfl
    · obtain ⟨k,hk,hread⟩ := ih (fun w hw => h w (List.mem_cons_of_mem m hw)) hmore hmorene
      refine ⟨k+1,Nat.succ_lt_succ hk,?_⟩
      rw [List.length_cons,readMany,readOnce,framing.read_write m more hm]
      dsimp only
      rw [hread,List.take_succ_cons,List.map_cons,Nat.add_sub_add_right,List.cons_append]

end LiteDroid.FrameStream
