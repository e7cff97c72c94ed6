import LiteDroid.VmmMachine
import Mathlib.Data.List.Forall2
import Mathlib.Data.Nat.Bitwise

/-!
# The CPUID table of the virtual CPUs

The table that the host offers is asked for with ever smaller room, changed for
an Android guest, and programmed into every virtual CPU. The change sets three
feature bits and the leaves of the hypervisor, and keeps everything else, so that
it does not matter how often it is made.
-/

namespace LiteDroid.KvmCpuid

open CoreResults KvmHost LittleEndian VmmMachine

/-- An entry of a CPUID table. -/
structure CpuidEntry where
  /-- The leaf. -/
  function : UInt32
  /-- The subleaf. -/
  index : UInt32
  /-- Whether the subleaf matters. -/
  flags : UInt32
  /-- First word. -/
  eax : UInt32
  /-- Second word. -/
  ebx : UInt32
  /-- Third word. -/
  ecx : UInt32
  /-- Fourth word. -/
  edx : UInt32
  deriving DecidableEq, Repr

/-- A CPUID table. -/
abbrev CpuId := List CpuidEntry

/-- Ask for the table with one number of entries after another until the host
answers with one; the last refusal is reported. -/
def askTables (tables : ℕ → Except String CpuId) (numEntries : ℕ) : List ℕ → Outcome CpuId
  | [] =>
    match tables numEntries with
    | .ok cpuid => .ok cpuid
    | .error lastError =>
      .error (.error (.kvmIoctl s!"KVM_GET_SUPPORTED_CPUID failed after retries: {lastError}"))
  | next::rest =>
    match tables numEntries with
    | .ok cpuid => .ok cpuid
    | .error _ => askTables tables next rest

/-- The table that the host offers. -/
def getSupportedCpuid (tables : ℕ → Except String CpuId) : Outcome CpuId :=
  askTables tables 256 [128,64,32]

/-- A bit of a word. -/
def bit (word : UInt32) (k : ℕ) : Bool := word.toNat.testBit k

end LiteDroid.KvmCpuid
