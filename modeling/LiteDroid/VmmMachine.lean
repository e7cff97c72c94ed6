import LiteDroid.CoreDeviceConfig
import LiteDroid.EffectRun
import LiteDroid.KvmHost
import LiteDroid.VmmBlockDevice

/-!
# Creation and boot of a virtual machine

The monitor's machine, how it is created from a configuration, how the
kernel and the initramfs are loaded, and how the first virtual CPU is set up
in either boot mode. Every action keeps what it did before a fault: guest
memory is written in place. A configuration is checked at creation and frozen
afterwards, so sizes computed from it never wrap.
-/

namespace LiteDroid.VmmMachine

open LittleEndian CoreResults CoreDeviceConfig EffectRun KvmHost MemoryRegion StorageImage
open VmmBlockDevice

/-- Address of the top-level page-map level-4 table. -/
def pml4Addr : UInt64 := 0x70000

/-- Its value. -/
@[simp] theorem pml4Addr_toNat : pml4Addr.toNat=0x70000 := by decide

/-- Address of the page-directory-pointer table. -/
def pdptAddr : UInt64 := 0x71000

/-- Its value. -/
@[simp] theorem pdptAddr_toNat : pdptAddr.toNat=0x71000 := by decide

/-- Address of the page directory of 2 MiB pages. -/
def pdAddr : UInt64 := 0x72000

/-- Address of the boot descriptor table. -/
def gdtAddr : UInt64 := 0x80000

/-- Its value. -/
@[simp] theorem gdtAddr_toNat : gdtAddr.toNat=0x80000 := by decide

/-- Selector of the 64-bit code segment. -/
def kernelCodeSegment : UInt16 := 0x10

/-- Selector of the data segment. -/
def kernelDataSegment : UInt16 := 0x18

/-- Initial stack pointer of a raw kernel. -/
def bootStackPointer : UInt64 := 0x800000

/-- Initial stack pointer of a bzImage. -/
def bzimageStackPointer : UInt64 := 0x10000

/-- Address of the zero page. -/
def bootParamsAddr : UInt64 := 0x90000

/-- Its value. -/
@[simp] theorem bootParamsAddr_toNat : bootParamsAddr.toNat=0x90000 := by decide

/-- Address of the command line. -/
def cmdlineAddr : UInt64 := 0x20000

/-- Its value. -/
@[simp] theorem cmdlineAddr_toNat : cmdlineAddr.toNat=0x20000 := by decide

/-- Bytes of the zero page. -/
def bootParamsSize : ℕ := 0x1000

/-- Address of the setup sectors of a bzImage. -/
def setupSectorsAddr : UInt64 := 0x10000

/-- Its value. -/
@[simp] theorem setupSectorsAddr_toNat : setupSectorsAddr.toNat=0x10000 := by decide

/-- The virtual machine. -/
structure VirtualMachine where
  /-- What the hypervisor keeps for it. -/
  vm : Vm
  /-- Its virtual CPUs. -/
  vcpus : List Vcpu
  /-- Guest memory. -/
  guestMemory : GuestMemory
  /-- The configuration it was created from. -/
  config : DeviceConfig
  /-- Whether the loaded kernel is a bzImage. -/
  kernelIsBzimage : Bool
  /-- The setup header of the loaded bzImage. -/
  bzimageHeader : List UInt8
  /-- Bytes of the loaded initramfs. -/
  initramfsSize : UInt64
  /-- The block device. -/
  blockDevice : VirtioBlock

/-- Guest memory as a part of the machine. -/
def memoryLens : Lens VirtualMachine GuestMemory where
  get machine := machine.guestMemory
  put machine memory := {machine with guestMemory := memory}
  get_put _ _ := rfl

/-- What the host answers about guest memory and the system image. -/
structure HostAnswers where
  /-- Whether the anonymous mapping succeeds. -/
  mapped : Bool
  /-- The host address of the mapping. -/
  userspaceAddr : UInt64
  /-- Opening the system image: its length, or what keeps it from opening. -/
  openImage : Except OpenRefusal UInt64

/-- Create the virtual CPUs from an index on. -/
def createVcpus (answers : KvmAnswers) : ℕ → UInt32 → Outcome (List Vcpu)
  | 0,_ => .ok []
  | count+1,index => do
    let vcpu ← Vm.createVcpu answers index
    let rest ← createVcpus answers count (index+1)
    return vcpu::rest

/-- Create a virtual machine: check the configuration, open the hypervisor,
place the reserved pages, map and register guest memory from address zero,
create the virtual CPUs and open the system image. -/
def VirtualMachine.new (kvm : KvmAnswers) (host : HostAnswers) (config : DeviceConfig) :
    Outcome VirtualMachine := do
  config.validate
  Hypervisor.new kvm
  let vm ← Hypervisor.createVm kvm
  let vm ← vm.createIrqChip kvm
  let vm ← vm.createPit kvm
  let vm ← vm.setTssAddr kvm 0xfffbd000
  let vm ← vm.setIdentityMapAddr kvm 0xfffbc000
  let guestMemory ← MemoryRegion.new host.mapped config.memSize
  let vm ← vm.setUserMemoryRegion kvm ⟨0,0,config.memSize,host.userspaceAddr⟩
  Hypervisor.getSupportedCpuid kvm
  let vcpus ← createVcpus kvm config.vcpuCount.toNat 0
  let disk ← RawDiskImage.openImage config.systemImagePath host.openImage
  return ⟨vm,vcpus,guestMemory,config,false,[],0,VirtioBlock.new disk⟩

/-- What the host answers when a file is read. -/
inductive FileAnswer where
  /-- The path does not exist. -/
  | missing
  /-- The file cannot be read. -/
  | failed (message : String)
  /-- The whole contents. -/
  | content (data : List UInt8)

/-- Copy a blob into guest memory. -/
def load (addr : UInt64) (data : List UInt8) : EStateM Fault GuestMemory Unit :=
  update fun memory => loadBlob memory addr data

/-- Copy bytes into guest memory. -/
def write (addr : UInt64) (data : List UInt8) : EStateM Fault GuestMemory Unit :=
  update fun memory => writeGuest memory addr data

/-- The little-endian 32-bit field of a kernel header. -/
def readU32 (data : List UInt8) (offset : ℕ) : Outcome UInt32 :=
  if offset+4 ≤ data.length then .ok (UInt32.ofNat (leNat ((data.drop offset).take 4)))
  else .error (.error (.kernelLoadFailed ("bzImage header is missing field at "++hex offset)))

/-- The magic of a Linux setup header. -/
def hdrS : List UInt8 := [0x48,0x64,0x72,0x53]

/-- Whether a kernel file carries a setup header. -/
def isBzimage (data : List UInt8) : Prop :=
  0x206 ≤ data.length ∧ (data.drop 0x202).take 4=hdrS

instance (data : List UInt8) : Decidable (isBzimage data) := inferInstanceAs (Decidable (_ ∧ _))

/-- Bytes of the setup sectors: the sector count of the header and the boot
sector itself. -/
def setupSize (data : List UInt8) : ℕ := ((data.getD 0x1f1 0).toNat+1)*512

/-- Load the setup sectors and the payload of a bzImage and keep its header.
The header is cut out after the machine is marked, and its end may lie past
the end of a short file. -/
def loadBzimage (data : List UInt8) : EStateM Fault VirtualMachine Unit :=
  if 2^64 ≤ setupSize data then
    throw (.error (.kernelLoadFailed "bzImage setup size overflowed"))
  else do
  let payloadOffset ← returning (readU32 data 0x248)
  let payloadLength ← returning (readU32 data 0x24c)
  if setupSize data < 0x200 ∨ payloadOffset.toNat < 0x200 ∨ data.length ≤ setupSize data then
    throw (.error (.kernelLoadFailed ("invalid bzImage payload range: setup="++
      hex (setupSize data)++", header offset="++hex payloadOffset.toNat++", length="++
      hex payloadLength.toNat)))
  else do
  focus memoryLens (load setupSectorsAddr (data.take (setupSize data)))
  focus memoryLens (load kernelLoadAddr (data.drop (setupSize data)))
  modify fun machine => {machine with kernelIsBzimage := true}
  if data.length < 0x290 then throw (.panic .sliceOutOfRange)
  else modify fun machine => {machine with bzimageHeader := (data.drop 0x1f1).take 0x9f}

/-- Load a kernel file into guest memory. -/
def loadKernel (path : String) (file : FileAnswer) : EStateM Fault VirtualMachine Unit :=
  match file with
  | .missing => throw (.error (.kernelNotFound path))
  | .failed message => throw (.error (.kernelLoadFailed s!"reading {path}: {message}"))
  | .content data =>
    if isBzimage data then loadBzimage data
    else focus memoryLens (load kernelLoadAddr data)

/-- Load an initramfs file into guest memory and keep its size. -/
def loadInitramfs (path : String) (file : FileAnswer) : EStateM Fault VirtualMachine Unit :=
  match file with
  | .missing => throw (.error (.initramfsNotFound path))
  | .failed message =>
    throw (.error (.kernelLoadFailed s!"reading initramfs {path}: {message}"))
  | .content data => do
    focus memoryLens (load initramfsLoadAddr data)
    modify fun machine => {machine with initramfsSize := UInt64.ofNat data.length}

/-- Pages of 2 MiB that cover guest RAM. -/
def numPages (config : DeviceConfig) : UInt64 := (config.memSize+2*1024*1024-1)/(2*1024*1024)

/-- The page-directory entry of a 2 MiB page: present, writable, large. -/
def pdEntry (i : ℕ) : UInt64 := UInt64.ofNat i*2*1024*1024|||0x83

/-- Write the page tables. At most one page directory is filled. -/
def setupPageTables (config : DeviceConfig) : EStateM Fault GuestMemory Unit := do
  write pml4Addr (leBytes 8 (pdptAddr|||0x03).toNat)
  write pdptAddr (leBytes 8 (pdAddr|||0x03).toNat)
  (List.range (min (numPages config) 512).toNat).forM fun i =>
    write (pdAddr+UInt64.ofNat i*8) (leBytes 8 (pdEntry i).toNat)

/-- Write the descriptor table of a raw kernel. -/
def setupGdt : EStateM Fault GuestMemory Unit := do
  write gdtAddr (leBytes 8 0)
  write (gdtAddr+8) (leBytes 8 0)
  write (gdtAddr+16) (leBytes 8 0x00af9b0000000000)
  write (gdtAddr+24) (leBytes 8 0x00cf93000000ffff)

/-- A flat data segment. -/
def makeFlatDataSegment (selector : UInt16) : Segment := ⟨selector,0,0xfffff,0x3,1,0,1,1,0,1,0⟩

/-- The system registers of long mode, on top of those after reset. -/
def longMode (sregs : Sregs) : Sregs :=
  {sregs with
    cr0 := 0x80000011, cr4 := 0x20, efer := 0x500,
    cs := ⟨kernelCodeSegment,0,0xfffff,0xb,1,0,0,1,1,1,0⟩,
    ds := makeFlatDataSegment kernelDataSegment, es := makeFlatDataSegment kernelDataSegment,
    fs := makeFlatDataSegment kernelDataSegment, gs := makeFlatDataSegment kernelDataSegment,
    ss := makeFlatDataSegment kernelDataSegment,
    gdtBase := gdtAddr, gdtLimit := 4*8-1, cr3 := pml4Addr}

/-- The general-purpose registers a raw kernel starts with. -/
def rawEntry (regs : Regs) : Regs :=
  {regs with rip := kernelLoadAddr, rsi := initramfsLoadAddr, rsp := bootStackPointer}

/-- The flat 32-bit data segment of the bzImage boot protocol. -/
def protectedDataSegment : Segment := ⟨0x18,0,0xffffffff,0x2,1,0,1,1,0,1,0⟩

/-- The system registers of flat protected mode. -/
def protectedMode (sregs : Sregs) : Sregs :=
  {sregs with
    gdtBase := gdtAddr, gdtLimit := 31,
    cs := ⟨0x10,0,0xffffffff,0xa,1,0,1,1,0,1,0⟩,
    ds := protectedDataSegment, ss := protectedDataSegment, es := protectedDataSegment,
    fs := protectedDataSegment, gs := protectedDataSegment,
    cr0 := 0x00000011, cr3 := 0, cr4 := 0, efer := 0}

/-- The general-purpose registers a bzImage starts with. -/
def bzimageEntry (_ : Regs) : Regs :=
  ⟨0,0,0,0,bootParamsAddr,0,0,bzimageStackPointer,kernelLoadAddr,0x2⟩

/-- Replace bytes of a buffer in place. Every caller stays inside the buffer. -/
def patch (data : List UInt8) (offset : ℕ) (bytes : List UInt8) : List UInt8 :=
  data.take offset++bytes++data.drop (offset+bytes.length)

/-- The zero page: the setup header, then the fields the loader fills in. -/
def bootParams (header : List UInt8) (cmdlineLen : ℕ) (initramfsSize : UInt64) : List UInt8 :=
  let page := patch (List.replicate bootParamsSize 0) 0x1f1 header
  let page := patch page 0x228 (leBytes 4 cmdlineAddr.toUInt32.toNat)
  let page := patch page 0x238 (leBytes 4 (cmdlineLen%2^32))
  let page := patch page 0x218 (leBytes 4 initramfsLoadAddr.toUInt32.toNat)
  let page := patch page 0x21c (leBytes 4 initramfsSize.toUInt32.toNat)
  let page := patch page 0x224 (leBytes 2 0x7fff)
  let page := patch page 0x210 [0xff]
  patch page 0x211 [page.getD 0x211 0|||0x80]

/-- The descriptor table of a bzImage. -/
def gdt32 : List UInt8 :=
  patch (patch (List.replicate 32 0) 0x10 (leBytes 8 0x00cf9a000000ffff))
    0x18 (leBytes 8 0x00cf92000000ffff)

/-- Write the command line, the zero page and the descriptor table of a bzImage. -/
def setupBzimageMemory (header cmdline : List UInt8) (initramfsSize : UInt64) :
    EStateM Fault GuestMemory Unit :=
  if header.length≠0x9f then
    throw (.error (.kernelLoadFailed "bzImage boot header was not retained"))
  else if 0x800 < cmdline.length+1 then
    throw (.error (.kernelLoadFailed "kernel command line exceeds boot parameter space"))
  else do
  load cmdlineAddr (cmdline++[0])
  load bootParamsAddr (bootParams header cmdline.length initramfsSize)
  load gdtAddr gdt32

/-- Change the first virtual CPU, which the caller has seen to exist. -/
def onFirstVcpu (change : Vcpu → Outcome Vcpu) : EStateM Fault VirtualMachine Unit :=
  update fun machine =>
    match machine.vcpus with
    | [] => .error (.panic .indexOutOfRange)
    | vcpu::rest =>
      match change vcpu with
      | .error fault => .error fault
      | .ok next => .ok {machine with vcpus := next::rest}

/-- Set up the first virtual CPU and the boot data for the loaded kernel. -/
def setupBoot (answers : VcpuAnswers) : EStateM Fault VirtualMachine Unit := do
  let machine ← get
  if machine.vcpus=[] then throw (.panic .indexOutOfRange)
  else if machine.kernelIsBzimage then do
    focus memoryLens (setupBzimageMemory machine.bzimageHeader machine.config.kernelCmdline
      machine.initramfsSize)
    onFirstVcpu fun vcpu => vcpu.updateSregs answers protectedMode
    onFirstVcpu fun vcpu => vcpu.updateRegs answers bzimageEntry
  else do
    focus memoryLens (setupPageTables machine.config)
    focus memoryLens setupGdt
    onFirstVcpu fun vcpu => vcpu.updateSregs answers longMode
    onFirstVcpu fun vcpu => vcpu.updateRegs answers rawEntry

/-- A machine as creation leaves it. -/
structure Created (host : HostAnswers) (config : DeviceConfig) (machine : VirtualMachine) :
    Prop where
  /-- The configuration was accepted. -/
  valid : config.validate=.ok ()
  /-- It is kept. -/
  config_eq : machine.config=config
  /-- Guest memory is the only slot and starts at address zero. -/
  slots : machine.vm.slots=[⟨0,0,config.memSize,host.userspaceAddr⟩]
  /-- The task-state pages. -/
  tss : machine.vm.tssAddr=some 0xfffbd000
  /-- The identity-map page. -/
  identity : machine.vm.identityMapAddr=some 0xfffbc000
  /-- Guest memory has the configured size. -/
  size : machine.guestMemory.size=config.memSize
  /-- Guest memory is zeroed. -/
  zeroed : ∀ a, machine.guestMemory.byte a=0
  /-- No kernel is loaded. -/
  raw : machine.kernelIsBzimage=false
  /-- There is a first virtual CPU. -/
  vcpus : machine.vcpus≠[]

/-- Guest memory that could be mapped has the requested size and is zeroed. -/
theorem new_memory {mapped : Bool} {size : UInt64} {memory : GuestMemory}
    (h : MemoryRegion.new mapped size=.ok memory) :
    memory.size=size ∧ ∀ a, memory.byte a=0 := by
  unfold MemoryRegion.new at h
  split at h
  · cases h
  · split at h
    · obtain rfl := Except.ok.inj h
      exact ⟨rfl,fun _ => rfl⟩
    · cases h

/-- As many virtual CPUs are created as were asked for. -/
theorem createVcpus_length {answers : KvmAnswers} {count : ℕ} {index : UInt32}
    {vcpus : List Vcpu} (h : createVcpus answers count index=.ok vcpus) : vcpus.length=count := by
  induction count generalizing index vcpus with
  | zero =>
    obtain rfl := Except.ok.inj h
    rfl
  | succ count ih =>
    obtain ⟨vcpu,-,h⟩ := CoreResults.bind_ok_iff.mp h
    obtain ⟨rest,hrest,h⟩ := CoreResults.bind_ok_iff.mp h
    obtain rfl := Except.ok.inj h
    rw [List.length_cons,ih hrest]

/-- A successful creation went through every one of its calls. -/
theorem new_created {kvm : KvmAnswers} {host : HostAnswers} {config : DeviceConfig}
    {machine : VirtualMachine} (h : VirtualMachine.new kvm host config=.ok machine) :
    Created host config machine := by
  unfold VirtualMachine.new at h
  obtain ⟨_,hvalid,h⟩ := CoreResults.bind_ok_iff.mp h
  obtain ⟨_,-,h⟩ := CoreResults.bind_ok_iff.mp h
  obtain ⟨vm0,h0,h⟩ := CoreResults.bind_ok_iff.mp h
  obtain ⟨vm1,h1,h⟩ := CoreResults.bind_ok_iff.mp h
  obtain ⟨vm2,h2,h⟩ := CoreResults.bind_ok_iff.mp h
  obtain ⟨vm3,h3,h⟩ := CoreResults.bind_ok_iff.mp h
  obtain ⟨vm4,h4,h⟩ := CoreResults.bind_ok_iff.mp h
  obtain ⟨memory,hm,h⟩ := CoreResults.bind_ok_iff.mp h
  obtain ⟨vm5,h5,h⟩ := CoreResults.bind_ok_iff.mp h
  obtain ⟨_,-,h⟩ := CoreResults.bind_ok_iff.mp h
  obtain ⟨vcpus,hvcpus,h⟩ := CoreResults.bind_ok_iff.mp h
  obtain ⟨disk,-,h⟩ := CoreResults.bind_ok_iff.mp h
  obtain rfl := Except.ok.inj h
  obtain ⟨hsize,hzero⟩ := new_memory hm
  have hslots : vm5.slots=[⟨0,0,config.memSize,host.userspaceAddr⟩] ∧
      vm5.tssAddr=some 0xfffbd000 ∧ vm5.identityMapAddr=some 0xfffbc000 := by
    unfold Hypervisor.createVm at h0
    unfold Vm.createIrqChip at h1
    unfold Vm.createPit at h2
    unfold Vm.setTssAddr at h3
    unfold Vm.setIdentityMapAddr at h4
    unfold Vm.setUserMemoryRegion at h5
    split at h0 <;> cases h0
    split at h1 <;> cases h1
    split at h2 <;> cases h2
    split at h3 <;> cases h3
    split at h4 <;> cases h4
    split at h5 <;> cases h5
    exact ⟨rfl,rfl,rfl⟩
  have hsome : vcpus≠[] := by
    rintro rfl
    have hlen := createVcpus_length hvcpus
    exact ((validate_ok_iff config).mp hvalid).2.2.1 (UInt32.toNat_inj.mp hlen.symm)
  exact ⟨hvalid,rfl,hslots.1,hslots.2.1,hslots.2.2,hsize,hzero,rfl,hsome⟩

/-- A hypervisor that grants every request and resets all registers to zero. -/
def willingKvm : KvmAnswers :=
  let zero : Segment := ⟨0,0,0,0,0,0,0,0,0,0,0⟩
  ⟨.ok (),.ok (),.ok (),.ok (),.ok (),.ok (),.ok (),fun _ => .ok (),
    fun index => .ok ⟨index,⟨0,0,0,0,0,0,0,0,0,0⟩,⟨zero,zero,zero,zero,zero,zero,0,0,0,0,0,0⟩⟩,
    fun _ => .ok ()⟩

/-- A host that maps any guest memory and opens an image of one sector. -/
def willingHost : HostAnswers := ⟨true,0x7f0000000000,.ok 512⟩

/-- Register calls that all succeed. -/
def willingVcpu : VcpuAnswers := ⟨.ok (),.ok (),.ok (),.ok ()⟩

/-- A configuration with one virtual CPU and an empty command line. -/
def plainConfig (ramMb : UInt64) : DeviceConfig := ⟨1,ramMb,"system.img",[.x8664],[]⟩

end LiteDroid.VmmMachine
