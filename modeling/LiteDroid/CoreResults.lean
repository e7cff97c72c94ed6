import Mathlib.Algebra.Group.Nat.Defs

/-!
# Results, panics and build profiles

A call of the program returns a value, returns an error value, or panics.
The first two are ordinary results; a panic ends the thread that ran into
it. The two build profiles of the workspace differ in whether overflowing
integer arithmetic wraps or panics.
-/

namespace LiteDroid.CoreResults

/-- The error values of the crates, as far as the modelled functions build them. -/
inductive LiteDroidError where
  /-- The hypervisor device is missing or cannot be opened. -/
  | kvmUnavailable (message : String)
  /-- An ioctl of the hypervisor failed. -/
  | kvmIoctl (message : String)
  /-- The hypervisor could not create a virtual machine. -/
  | vmCreationFailed (message : String)
  /-- The hypervisor could not create a virtual CPU. -/
  | vcpuCreationFailed (cpuIndex : UInt32) (reason : String)
  /-- The hypervisor device may not be opened. -/
  | permissionDenied (message : String)
  /-- Guest RAM could not be allocated. -/
  | memoryAllocationFailed (requestedMb availableMb : ℕ)
  /-- The anonymous mapping of guest RAM failed. -/
  | memoryMapFailed (message : String)
  /-- A guest-physical range is not contained in guest RAM. -/
  | guestAddressOutOfRange (address : UInt64)
  /-- A disk image operation or a malformed disk request. -/
  | diskIo (message : String)
  /-- The kernel file does not exist. -/
  | kernelNotFound (path : String)
  /-- The initramfs file does not exist. -/
  | initramfsNotFound (path : String)
  /-- The kernel or the initramfs could not be read or is malformed. -/
  | kernelLoadFailed (message : String)
  /-- A register ioctl of one virtual CPU failed. -/
  | vcpuRunFailed (cpuIndex : UInt32) (reason : String)
  /-- A message of the debug bridge is malformed. -/
  | adbProtocolError (message : String)
  /-- The tap interface could not be configured. -/
  | networkInterfaceFailed (message : String)
  /-- The routing table could not be read or has no default route. -/
  | natSetupFailed (message : String)
  /-- A configuration value is out of its accepted range. -/
  | configError (message : String)
  /-- A profile's file could not be read. -/
  | deviceNotFound (name : String)
  /-- A bus has no room for another device. -/
  | deviceAlreadyExists (message : String)
  /-- The host refused a file operation. -/
  | osError (message : String)
  deriving DecidableEq, Repr

/-- Why a thread panicked. -/
inductive Panic where
  /-- A remainder was taken by zero. -/
  | remainderByZero
  /-- Integer arithmetic overflowed in a build that checks it. -/
  | arithmeticOverflow
  /-- A slice range exceeded its buffer. -/
  | sliceOutOfRange
  /-- An index exceeded its buffer. -/
  | indexOutOfRange
  /-- A vector was asked for more bytes than a process can hold. -/
  | capacityOverflow
  deriving DecidableEq, Repr

/-- What ends a call early: an error value handed to the caller, or a panic. -/
inductive Fault where
  /-- An error value, propagated by the question mark operator. -/
  | error (cause : LiteDroidError)
  /-- A panic, which no caller of the modelled code catches. -/
  | panic (cause : Panic)
  deriving DecidableEq, Repr

/-- The result of a call of the program. -/
abbrev Outcome (α : Type) := Except Fault α

/-- A result that is a value or an error value. -/
def NoPanic {α : Type} (x : Outcome α) : Prop := ∀ cause, x≠.error (.panic cause)

/-- The two build profiles of the workspace manifest. -/
inductive Profile where
  /-- Overflowing arithmetic wraps. -/
  | release
  /-- Overflowing arithmetic panics. -/
  | dev
  deriving DecidableEq, Repr

/-- A number as the alternate lower-case hexadecimal format prints it. -/
def hex (n : ℕ) : String := "0x"++String.ofList (Nat.toDigits 16 n)

/-- Addition of two 64-bit words under a profile. -/
def Profile.add : Profile → UInt64 → UInt64 → Outcome UInt64
  | .release,a,b => .ok (a+b)
  | .dev,a,b => if a.toNat+b.toNat < 2^64 then .ok (a+b) else .error (.panic .arithmeticOverflow)

/-- Multiplication of two 64-bit words under a profile. -/
def Profile.mul : Profile → UInt64 → UInt64 → Outcome UInt64
  | .release,a,b => .ok (a*b)
  | .dev,a,b => if a.toNat*b.toNat < 2^64 then .ok (a*b) else .error (.panic .arithmeticOverflow)

/-- A left shift of a 64-bit word under a profile; a release build masks the
shift count as the processor does. -/
def Profile.shl : Profile → UInt64 → ℕ → Outcome UInt64
  | .release,a,n => .ok (a<<<UInt64.ofNat (n%64))
  | .dev,a,n => if n < 64 then .ok (a<<<UInt64.ofNat n) else .error (.panic .arithmeticOverflow)

/-- Addition of two sizes under a profile. -/
def Profile.addSize : Profile → ℕ → ℕ → Outcome ℕ
  | .release,a,b => .ok ((a+b)%2^64)
  | .dev,a,b => if a+b < 2^64 then .ok (a+b) else .error (.panic .arithmeticOverflow)

/-- Multiplication of two sizes under a profile. -/
def Profile.mulSize : Profile → ℕ → ℕ → Outcome ℕ
  | .release,a,b => .ok (a*b%2^64)
  | .dev,a,b => if a*b < 2^64 then .ok (a*b) else .error (.panic .arithmeticOverflow)

/-- Subtraction of two sizes under a profile. -/
def Profile.subSize : Profile → ℕ → ℕ → Outcome ℕ
  | .release,a,b => .ok ((a+2^64-b)%2^64)
  | .dev,a,b => if b ≤ a then .ok (a-b) else .error (.panic .arithmeticOverflow)

/-- Multiplication of two 32-bit words under a profile. -/
def Profile.mulWord : Profile → UInt32 → UInt32 → Outcome UInt32
  | .release,a,b => .ok (a*b)
  | .dev,a,b => if a.toNat*b.toNat < 2^32 then .ok (a*b) else .error (.panic .arithmeticOverflow)

/-- The leading part of a buffer, as an upper-bounded slice takes it. -/
def sliceTo {α : Type} (buffer : List α) (n : ℕ) : Outcome (List α) :=
  if n ≤ buffer.length then .ok (buffer.take n) else .error (.panic .sliceOutOfRange)

/-- The part of a buffer between two positions. -/
def sliceRange {α : Type} (buffer : List α) (start stop : ℕ) : Outcome (List α) :=
  if start ≤ stop ∧ stop ≤ buffer.length then .ok ((buffer.drop start).take (stop-start))
  else .error (.panic .sliceOutOfRange)

/-- An element of a buffer, as an index takes it. -/
def elementAt {α : Type} (buffer : List α) (i : ℕ) : Outcome α :=
  match buffer[i]? with
  | some value => .ok value
  | none => .error (.panic .indexOutOfRange)

/-- A buffer with one of its elements assigned. -/
def assign {α : Type} (buffer : List α) (i : ℕ) (value : α) : Outcome (List α) :=
  if i < buffer.length then .ok (buffer.set i value) else .error (.panic .indexOutOfRange)

/-- A sum that fits 64 bits is the same under both profiles. -/
theorem Profile.add_of_lt (profile : Profile) {a b : UInt64} (h : a.toNat+b.toNat < 2^64) :
    profile.add a b=.ok (a+b) := by
  cases profile with
  | release => rfl
  | dev => simp only [Profile.add,if_pos h]

/-- A product that fits 64 bits is the same under both profiles. -/
theorem Profile.mul_of_lt (profile : Profile) {a b : UInt64} (h : a.toNat*b.toNat < 2^64) :
    profile.mul a b=.ok (a*b) := by
  cases profile with
  | release => rfl
  | dev => simp only [Profile.mul,if_pos h]

/-- A sum of sizes that fits is the same under both profiles. -/
theorem Profile.addSize_of_lt (profile : Profile) {a b : ℕ} (h : a+b < 2^64) :
    profile.addSize a b=.ok (a+b) := by
  cases profile with
  | release => rw [Profile.addSize,Nat.mod_eq_of_lt h]
  | dev => rw [Profile.addSize,if_pos h]

/-- A product of sizes that fits is the same under both profiles. -/
theorem Profile.mulSize_of_lt (profile : Profile) {a b : ℕ} (h : a*b < 2^64) :
    profile.mulSize a b=.ok (a*b) := by
  cases profile with
  | release => rw [Profile.mulSize,Nat.mod_eq_of_lt h]
  | dev => rw [Profile.mulSize,if_pos h]

/-- A difference of sizes that does not fall below zero is the same under both
profiles. -/
theorem Profile.subSize_of_le (profile : Profile) {a b : ℕ} (h : b ≤ a) (ha : a-b < 2^64) :
    profile.subSize a b=.ok (a-b) := by
  cases profile with
  | release =>
    have hsum : a+2^64-b=a-b+2^64 := by omega
    rw [Profile.subSize,hsum,Nat.add_mod_right,Nat.mod_eq_of_lt ha]
  | dev => rw [Profile.subSize,if_pos h]

/-- A sum of sizes is the sum in 64 bits, under either profile. -/
theorem Profile.addSize_mod {profile : Profile} {a b c : ℕ} (h : profile.addSize a b=.ok c) :
    c=(a+b)%2^64 := by
  cases profile with
  | release => exact (Except.ok.inj h).symm
  | dev =>
    rw [Profile.addSize] at h
    split at h
    · rename_i hlt
      rw [Nat.mod_eq_of_lt hlt]
      exact (Except.ok.inj h).symm
    · cases h

/-- A product of sizes is the product in 64 bits. -/
theorem Profile.mulSize_mod {profile : Profile} {a b c : ℕ} (h : profile.mulSize a b=.ok c) :
    c=a*b%2^64 := by
  cases profile with
  | release => exact (Except.ok.inj h).symm
  | dev =>
    rw [Profile.mulSize] at h
    split at h
    · rename_i hlt
      rw [Nat.mod_eq_of_lt hlt]
      exact (Except.ok.inj h).symm
    · cases h

/-- A sum of 64-bit sizes that is not below its first part did not wrap. -/
theorem Profile.addSize_exact {profile : Profile} {a b c : ℕ} (ha : a < 2^64) (hb : b < 2^64)
    (h : profile.addSize a b=.ok c) (hc : a ≤ c) : c=a+b := by
  have hmod := Profile.addSize_mod h
  omega

/-- A difference of 64-bit sizes is one too. -/
theorem Profile.subSize_lt {profile : Profile} {a b c : ℕ} (ha : a < 2^64)
    (h : profile.subSize a b=.ok c) : c < 2^64 := by
  cases profile with
  | release =>
    obtain rfl := Except.ok.inj h
    exact Nat.mod_lt _ (by decide)
  | dev =>
    rw [Profile.subSize] at h
    split at h
    · obtain rfl := Except.ok.inj h
      omega
    · cases h

/-- A sequence of two calls returns a value exactly when both do. -/
theorem bind_ok_iff {ε α β : Type} {x : Except ε α} {f : α → Except ε β} {b : β} :
    (x >>= f)=.ok b ↔ ∃ a, x=.ok a ∧ f a=.ok b := by
  cases x with
  | error fault => simp [bind,Except.bind]
  | ok a => simp [bind,Except.bind]

/-- A sequence of two calls faults when the first one does, or after it. -/
theorem bind_error_iff {α β : Type} {x : Outcome α} {f : α → Outcome β} {fault : Fault} :
    (x >>= f)=.error fault ↔ x=.error fault ∨ ∃ a, x=.ok a ∧ f a=.error fault := by
  cases x with
  | error other => simp [bind,Except.bind]
  | ok a => simp [bind,Except.bind]

/-- A value is no panic. -/
theorem noPanic_ok {α : Type} (a : α) : NoPanic (.ok a : Outcome α) := by
  intro cause h
  cases h

/-- An error value is no panic. -/
theorem noPanic_error {α : Type} (cause : LiteDroidError) :
    NoPanic (.error (.error cause) : Outcome α) := by
  intro panic h
  cases h

/-- Whether a fault is a panic does not depend on the result it stands for. -/
theorem noPanic_fault {α β : Type} {fault : Fault} (h : NoPanic (.error fault : Outcome α)) :
    NoPanic (.error fault : Outcome β) := by
  intro cause hc
  cases hc
  exact h cause rfl

/-- A sequence does not panic when the first call does not, nor the second
one on any value the first returns. -/
theorem noPanic_bind {α β : Type} {x : Outcome α} {f : α → Outcome β} (hx : NoPanic x)
    (hf : ∀ a, x=.ok a → NoPanic (f a)) : NoPanic (x >>= f) := by
  intro cause h
  rcases bind_error_iff.mp h with h | ⟨a,ha,h⟩
  · exact hx cause h
  · exact hf a ha cause h

/-- A range that was taken lies in its buffer, and has its length. -/
theorem sliceRange_ok {α : Type} {data part : List α} {start stop : ℕ}
    (h : sliceRange data start stop=.ok part) :
    start ≤ stop ∧ stop ≤ data.length ∧ part.length=stop-start := by
  unfold sliceRange at h
  split at h
  · rename_i hrange
    obtain rfl := Except.ok.inj h
    refine ⟨hrange.1,hrange.2,?_⟩
    rw [List.length_take,List.length_drop]
    omega
  · cases h

/-- Assigning an element keeps the length. -/
theorem assign_length {α : Type} {data out : List α} {i : ℕ} {value : α}
    (h : assign data i value=.ok out) : out.length=data.length := by
  unfold assign at h
  split at h
  · obtain rfl := Except.ok.inj h
    exact List.length_set
  · cases h

/-- An element inside a buffer is assigned. -/
theorem assign_ok {α : Type} {data : List α} {i : ℕ} (h : i < data.length) (value : α) :
    assign data i value=.ok (data.set i value) := if_pos h

end LiteDroid.CoreResults
