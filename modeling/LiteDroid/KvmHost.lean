import LiteDroid.CoreResults

/-!
# The hypervisor wrapper

Registers of a virtual CPU, the state the hypervisor keeps for a virtual
machine, and the wrapper's calls with the texts of their errors. The
hypervisor itself is not part of the program: whether a call succeeds is an
answer of the host. The contents of the CPUID table are left out, since no
modelled function looks into them.
-/

namespace LiteDroid.KvmHost

open CoreResults

/-- A segment register, without the fields every caller leaves zero. -/
structure Segment where
  /-- Selector into the descriptor table. -/
  selector : UInt16
  /-- Base address. -/
  base : UInt64
  /-- Limit, in the unit the granularity bit selects. -/
  limit : UInt32
  /-- Segment type. -/
  type : UInt8
  /-- Present bit. -/
  present : UInt8
  /-- Privilege level. -/
  dpl : UInt8
  /-- Default operand size. -/
  db : UInt8
  /-- Code or data segment. -/
  s : UInt8
  /-- 64-bit code. -/
  l : UInt8
  /-- Granularity. -/
  g : UInt8
  /-- Available to software. -/
  avl : UInt8
  deriving DecidableEq, Repr

/-- The system registers that boot setup assigns. -/
structure Sregs where
  /-- Code segment. -/
  cs : Segment
  /-- Data segment. -/
  ds : Segment
  /-- Extra segment. -/
  es : Segment
  /-- Second extra segment. -/
  fs : Segment
  /-- Third extra segment. -/
  gs : Segment
  /-- Stack segment. -/
  ss : Segment
  /-- Address of the global descriptor table. -/
  gdtBase : UInt64
  /-- Last byte of the global descriptor table. -/
  gdtLimit : UInt16
  /-- Protection and paging control. -/
  cr0 : UInt64
  /-- Root of the page tables. -/
  cr3 : UInt64
  /-- Extension control. -/
  cr4 : UInt64
  /-- Long mode control. -/
  efer : UInt64
  deriving DecidableEq, Repr

/-- The general-purpose registers that boot setup assigns. -/
structure Regs where
  /-- Accumulator. -/
  rax : UInt64
  /-- Base. -/
  rbx : UInt64
  /-- Counter. -/
  rcx : UInt64
  /-- Data. -/
  rdx : UInt64
  /-- Source index. -/
  rsi : UInt64
  /-- Destination index. -/
  rdi : UInt64
  /-- Frame pointer. -/
  rbp : UInt64
  /-- Stack pointer. -/
  rsp : UInt64
  /-- Instruction pointer. -/
  rip : UInt64
  /-- Flags. -/
  rflags : UInt64
  deriving DecidableEq, Repr

/-- A virtual CPU with the registers the hypervisor holds for it. -/
structure Vcpu where
  /-- Index of this virtual CPU. -/
  index : UInt32
  /-- General-purpose registers. -/
  regs : Regs
  /-- System registers. -/
  sregs : Sregs
  deriving DecidableEq, Repr

/-- A range of guest-physical addresses backed by host memory. -/
structure MemorySlot where
  /-- Slot number. -/
  slot : UInt32
  /-- First guest-physical address. -/
  guestPhysAddr : UInt64
  /-- Bytes of the range. -/
  memorySize : UInt64
  /-- Host address of the backing memory. -/
  userspaceAddr : UInt64
  deriving DecidableEq, Repr

/-- What the hypervisor keeps for a virtual machine. -/
structure Vm where
  /-- Whether the interrupt controller exists. -/
  irqChip : Bool
  /-- Whether the interval timer exists. -/
  pit : Bool
  /-- First of the three task-state pages. -/
  tssAddr : Option UInt64
  /-- The identity-map page. -/
  identityMapAddr : Option UInt64
  /-- The registered memory slots. -/
  slots : List MemorySlot
  deriving DecidableEq, Repr

/-- Why the hypervisor device could not be opened. -/
inductive OpenFailure where
  /-- The device does not exist. -/
  | missing
  /-- The user may not open it. -/
  | denied
  /-- Any other error, with its text. -/
  | other (message : String)
  deriving DecidableEq, Repr

/-- The hypervisor's answers while a virtual machine is created, each an
error text where it refuses. -/
structure KvmAnswers where
  /-- Opening the device. -/
  openKvm : Except OpenFailure Unit
  /-- Creating a virtual machine. -/
  createVm : Except String Unit
  /-- Creating the interrupt controller. -/
  createIrqChip : Except String Unit
  /-- Creating the interval timer. -/
  createPit : Except String Unit
  /-- Placing the task-state pages. -/
  setTssAddr : Except String Unit
  /-- Placing the identity-map page. -/
  setIdentityMapAddr : Except String Unit
  /-- Registering the memory slot. -/
  setUserMemoryRegion : Except String Unit
  /-- Querying the supported CPUID table with room for a number of entries. -/
  getSupportedCpuid : ℕ → Except String Unit
  /-- Creating the virtual CPU of an index, with its registers after reset. -/
  createVcpu : UInt32 → Except String Vcpu
  /-- Programming the CPUID table of the virtual CPU of an index. -/
  setCpuid : UInt32 → Except String Unit

/-- Open the hypervisor device. -/
def Hypervisor.new (answers : KvmAnswers) : Outcome Unit :=
  match answers.openKvm with
  | .ok () => .ok ()
  | .error .missing =>
    .error (.error (.kvmUnavailable "/dev/kvm not found — is the KVM kernel module loaded?"))
  | .error .denied => .error (.error (.permissionDenied
      "Permission denied opening /dev/kvm — try adding the user to the 'kvm' group."))
  | .error (.other e) => .error (.error (.kvmUnavailable s!"failed to open /dev/kvm: {e}"))

/-- Create a virtual machine without any slot. -/
def Hypervisor.createVm (answers : KvmAnswers) : Outcome Vm :=
  match answers.createVm with
  | .ok () => .ok ⟨false,false,none,none,[]⟩
  | .error e => .error (.error (.vmCreationFailed s!"kvm create_vm failed: {e}"))

/-- Query the CPUID table with ever smaller room; the last refusal is reported. -/
def Hypervisor.getSupportedCpuid (answers : KvmAnswers) : Outcome Unit :=
  match answers.getSupportedCpuid 256 with
  | .ok () => .ok ()
  | .error _ =>
    match answers.getSupportedCpuid 128 with
    | .ok () => .ok ()
    | .error _ =>
      match answers.getSupportedCpuid 64 with
      | .ok () => .ok ()
      | .error _ =>
        match answers.getSupportedCpuid 32 with
        | .ok () => .ok ()
        | .error e =>
          .error (.error (.kvmIoctl s!"KVM_GET_SUPPORTED_CPUID failed after retries: {e}"))

/-- Create the interrupt controller. -/
def Vm.createIrqChip (vm : Vm) (answers : KvmAnswers) : Outcome Vm :=
  match answers.createIrqChip with
  | .ok () => .ok {vm with irqChip := true}
  | .error e => .error (.error (.kvmIoctl s!"KVM_CREATE_IRQCHIP failed: {e}"))

/-- Create the interval timer. -/
def Vm.createPit (vm : Vm) (answers : KvmAnswers) : Outcome Vm :=
  match answers.createPit with
  | .ok () => .ok {vm with pit := true}
  | .error e => .error (.error (.kvmIoctl s!"KVM_CREATE_PIT2 failed: {e}"))

/-- Place the three task-state pages. -/
def Vm.setTssAddr (vm : Vm) (answers : KvmAnswers) (addr : UInt64) : Outcome Vm :=
  match answers.setTssAddr with
  | .ok () => .ok {vm with tssAddr := some addr}
  | .error e =>
    .error (.error (.kvmIoctl ("KVM_SET_TSS_ADDR("++hex addr.toNat++") failed: "++e)))

/-- Place the identity-map page. -/
def Vm.setIdentityMapAddr (vm : Vm) (answers : KvmAnswers) (addr : UInt64) : Outcome Vm :=
  match answers.setIdentityMapAddr with
  | .ok () => .ok {vm with identityMapAddr := some addr}
  | .error e =>
    .error (.error (.kvmIoctl ("KVM_SET_IDENTITY_MAP_ADDR("++hex addr.toNat++") failed: "++e)))

/-- Register a memory slot. -/
def Vm.setUserMemoryRegion (vm : Vm) (answers : KvmAnswers) (region : MemorySlot) : Outcome Vm :=
  match answers.setUserMemoryRegion with
  | .ok () => .ok {vm with slots := vm.slots++[region]}
  | .error e =>
    let slot := region.slot
    let guest := hex region.guestPhysAddr.toNat
    let size := hex region.memorySize.toNat
    .error (.error (.kvmIoctl
      s!"KVM_SET_USER_MEMORY_REGION(slot={slot}, guest={guest}, size={size}) failed: {e}"))

/-- Create the virtual CPU of an index and program its CPUID table. -/
def Vm.createVcpu (answers : KvmAnswers) (index : UInt32) : Outcome Vcpu :=
  match answers.createVcpu index with
  | .error e =>
    .error (.error (.vcpuCreationFailed index s!"kvm create_vcpu({index}) failed: {e}"))
  | .ok vcpu =>
    match answers.setCpuid index with
    | .error e => .error (.error (.vcpuRunFailed index s!"SET_CPUID failed: {e}"))
    | .ok () => .ok {vcpu with index := index}

/-- The hypervisor's answers to the register calls of boot setup. -/
structure VcpuAnswers where
  /-- Reading the general-purpose registers. -/
  getRegs : Except String Unit
  /-- Writing the general-purpose registers. -/
  setRegs : Except String Unit
  /-- Reading the system registers. -/
  getSregs : Except String Unit
  /-- Writing the system registers. -/
  setSregs : Except String Unit

/-- Read, change and write back the general-purpose registers. -/
def Vcpu.updateRegs (answers : VcpuAnswers) (change : Regs → Regs) (vcpu : Vcpu) : Outcome Vcpu :=
  match answers.getRegs with
  | .error e => .error (.error (.vcpuRunFailed vcpu.index s!"GET_REGS failed: {e}"))
  | .ok () =>
    match answers.setRegs with
    | .error e => .error (.error (.vcpuRunFailed vcpu.index s!"SET_REGS failed: {e}"))
    | .ok () => .ok {vcpu with regs := change vcpu.regs}

/-- Read, change and write back the system registers. -/
def Vcpu.updateSregs (answers : VcpuAnswers) (change : Sregs → Sregs) (vcpu : Vcpu) :
    Outcome Vcpu :=
  match answers.getSregs with
  | .error e => .error (.error (.vcpuRunFailed vcpu.index s!"GET_SREGS failed: {e}"))
  | .ok () =>
    match answers.setSregs with
    | .error e => .error (.error (.vcpuRunFailed vcpu.index s!"SET_SREGS failed: {e}"))
    | .ok () => .ok {vcpu with sregs := change vcpu.sregs}

/-- Changed general-purpose registers are the change of the old ones. -/
theorem updateRegs_ok {answers : VcpuAnswers} {change : Regs → Regs} {vcpu next : Vcpu}
    (h : vcpu.updateRegs answers change=.ok next) :
    next={vcpu with regs := change vcpu.regs} := by
  unfold Vcpu.updateRegs at h
  split at h
  · cases h
  · split at h
    · cases h
    · exact (Except.ok.inj h).symm

/-- Changed system registers are the change of the old ones. -/
theorem updateSregs_ok {answers : VcpuAnswers} {change : Sregs → Sregs} {vcpu next : Vcpu}
    (h : vcpu.updateSregs answers change=.ok next) :
    next={vcpu with sregs := change vcpu.sregs} := by
  unfold Vcpu.updateSregs at h
  split at h
  · cases h
  · split at h
    · cases h
    · exact (Except.ok.inj h).symm

end LiteDroid.KvmHost
