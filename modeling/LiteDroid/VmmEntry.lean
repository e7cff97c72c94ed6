import LiteDroid.VmmPageTables
import LiteDroid.VmmZeroPage

/-!
# What the processor finds when it starts

A raw kernel starts with paging on, a bzImage with flat 32-bit addresses. In
either mode the linear addresses up to a limit of the mode are RAM at the same
place, and the processor finds there what was loaded: the kernel at its first
instruction, the initramfs, the stack, and behind its argument register the
initramfs or the zero page. RAM above the limit cannot be addressed at all.
-/

namespace LiteDroid.VmmEntry

open ByteRange LittleEndian CoreDeviceConfig EffectRun KvmHost MemoryRegion
open VmmMachine VmmKernelLoads VmmBootImages VmmPageTables VmmZeroPage

/-- The physical address of a linear one. Without paging it is the same, and has
32 bits. -/
def physical (memory : GuestMemory) (sregs : Sregs) (addr : ℕ) : Option ℕ :=
  if field sregs.cr0.toNat 31 1=1 then VmmPageTables.translate memory sregs.cr3.toNat addr
  else if addr < 2^32 then some addr else none

/-- The byte of RAM that the processor finds at a linear address. -/
def byteAt (memory : GuestMemory) (sregs : Sregs) (addr : ℕ) : Option UInt8 :=
  match physical memory sregs addr with
  | none => none
  | some place => if place < memory.size.toNat then some (memory.byte place) else none

/-- Where the linear addresses of a boot mode end. -/
def linearEnd (bzimage : Prop) [Decidable bzimage] : ℕ := if bzimage then 2^32 else 2^30

/-- What the first virtual CPU finds before its first instruction. -/
structure Starts (kernel initramfs cmdline : List UInt8) (ram : ℕ) (memory : GuestMemory)
    (vcpu : Vcpu) : Prop where
  /-- RAM lies at its own addresses up to the limit, and nowhere beyond. -/
  linear : ∀ addr < ram, physical memory vcpu.sregs addr=
    if addr < linearEnd (isBzimage kernel) then some addr else none
  /-- The instructions are those of the kernel, up to the initramfs. -/
  code : ∀ i, (hi : i < (payload kernel).length) → i < 0x7f00000 →
    byteAt memory vcpu.sregs (vcpu.sregs.cs.base.toNat+vcpu.regs.rip.toNat+i)=
      some (payload kernel)[i]
  /-- The initramfs is there as far as it can be addressed. -/
  archive : ∀ i, (hi : i < initramfs.length) →
    byteAt memory vcpu.sregs (initramfsLoadAddr.toNat+i)=
      if initramfsLoadAddr.toNat+i < linearEnd (isBzimage kernel) then some initramfs[i] else none
  /-- There is RAM for a stack. -/
  stack : ∀ i < 0x10000, ∃ byte,
    byteAt memory vcpu.sregs (vcpu.sregs.ss.base.toNat+vcpu.regs.rsp.toNat-1-i)=some byte
  /-- A raw kernel's argument is the initramfs. -/
  rawArgument : ¬isBzimage kernel → vcpu.regs.rsi=initramfsLoadAddr
  /-- A bzImage's is the zero page with its own header. -/
  bzimageArgument : isBzimage kernel → ∀ i < bootParamsSize,
    byteAt memory vcpu.sregs (vcpu.sregs.ds.base.toNat+vcpu.regs.rsi.toNat+i)=
      (bootParams (setupHeader kernel) cmdline.length (UInt64.ofNat initramfs.length))[i]?

/-- Guest memory has the same size. -/
def SameSize (before after : GuestMemory) : Prop := after.size=before.size

/-- It has when nothing is done. -/
theorem sameSize_refl (memory : GuestMemory) : SameSize memory memory := rfl

/-- Two actions that keep the size keep it together. -/
theorem sameSize_trans (s t u : GuestMemory) (h : SameSize s t) (h' : SameSize t u) :
    SameSize s u := h'.trans h

/-- A write keeps the size. -/
theorem write_size (addr : UInt64) (data : List UInt8) : Keeps SameSize (write addr data) := by
  intro memory _ after hw
  obtain ⟨-,rfl⟩ := writeGuest_ok (update_ok_iff.mp hw)
  exact store_size _ _ _

/-- The page tables keep the size. -/
theorem setupPageTables_size (config : DeviceConfig) : Keeps SameSize (setupPageTables config) := by
  refine Keeps.bind sameSize_trans (write_size _ _) fun _ => ?_
  refine Keeps.bind sameSize_trans (write_size _ _) fun _ => ?_
  exact Keeps.forM sameSize_refl sameSize_trans _ fun i _ => write_size _ _

/-- So does the descriptor table of a raw kernel. -/
theorem setupGdt_size : Keeps SameSize setupGdt := by
  refine Keeps.bind sameSize_trans (write_size _ _) fun _ => ?_
  refine Keeps.bind sameSize_trans (write_size _ _) fun _ => ?_
  exact Keeps.bind sameSize_trans (write_size _ _) fun _ => write_size _ _

/-- Boot setup keeps the size. -/
theorem setupBoot_size {answers : VcpuAnswers} {machine after : VirtualMachine}
    (h : setupBoot answers machine=.ok () after) :
    after.guestMemory.size=machine.guestMemory.size := by
  obtain ⟨memory,vcpu,rest,sregs,regs,rfl,hcase⟩ := setupBoot_cases h
  obtain ⟨-,hm,-⟩ | ⟨-,⟨tables,ht,hm⟩,-⟩ := hcase
  · obtain ⟨-,-,rfl⟩ := setupBzimageMemory_ok hm
    simp only [store_size]
  · exact (setupGdt_size _ _ _ hm).trans (setupPageTables_size _ _ _ _ ht)

/-- Guest memory is the same below the descriptor table. -/
def SameBelow (before after : GuestMemory) : Prop := ∀ a < 0x80000, after.byte a=before.byte a

/-- Two actions that change nothing below change nothing together. -/
theorem sameBelow_trans (s t u : GuestMemory) (h : SameBelow s t) (h' : SameBelow t u) :
    SameBelow s u := fun a ha => (h' a ha).trans (h a ha)

/-- The descriptor table of a raw kernel changes nothing below. -/
theorem setupGdt_sameBelow : Keeps SameBelow setupGdt := by
  have hwrite : ∀ (addr : UInt64) (data : List UInt8), 0x80000 ≤ addr.toNat →
      Keeps SameBelow (write addr data) := by
    intro addr data haddr memory _ after hw
    obtain ⟨-,rfl⟩ := writeGuest_ok (update_ok_iff.mp hw)
    intro a ha
    rw [store_byte]
    exact overwrite_outside (by omega)
  refine Keeps.bind sameBelow_trans (hwrite _ _ (by decide)) fun _ => ?_
  refine Keeps.bind sameBelow_trans (hwrite _ _ (by decide)) fun _ => ?_
  exact Keeps.bind sameBelow_trans (hwrite _ _ (by decide)) fun _ => hwrite _ _ (by decide)

/-- The page tables survive the descriptor table. -/
theorem mapped_below {entries : ℕ} {tables memory : GuestMemory} (h : Mapped entries tables)
    (hsize : memory.size=tables.size) (hbelow : SameBelow tables memory) (hle : entries ≤ 512) :
    Mapped entries memory := by
  have hword : ∀ addr, addr+8 ≤ 0x80000 → longAt memory addr=longAt tables addr :=
    fun addr haddr => longAt_congr fun a _ ha => hbelow a (by omega)
  refine ⟨?_,?_,?_,?_,?_⟩
  · rw [hsize]
    exact h.size
  · exact (hword _ (by decide)).trans h.pml4
  · exact (hword _ (by decide)).trans h.pdpt
  · exact fun i hi hlt => (hword _ (by omega)).trans (h.empty i hi hlt)
  · exact fun i hi => (hword _ (by omega)).trans (h.pd i hi)

/-- From one gibibyte up to 512 the second table has no entry. -/
theorem walk_above {entries : ℕ} {tables : GuestMemory} (h : Mapped entries tables) {addr : ℕ}
    (hlow : 2^30 ≤ addr) (hhigh : addr < 2^39) :
    walk tables addr [30,21,12] 0x71000=none := by
  rw [walk,tableEntry_zero (h.empty _ (by unfold field; omega) (by unfold field; omega))]

/-- Long mode on the page tables maps RAM up to one gibibyte and nothing beyond. -/
theorem longMode_physical {config : DeviceConfig} (hv : config.validate=.ok ())
    {memory : GuestMemory} (h : Mapped (min ((config.ramMb.toNat+1)/2) 512) memory)
    (sregs : Sregs) {addr : ℕ} (haddr : addr < config.memSize.toNat) :
    physical memory (longMode sregs) addr=if addr < 2^30 then some addr else none := by
  obtain ⟨-,hmax,-,-⟩ := (validate_ok_iff config).mp hv
  rw [memSize_toNat hv] at haddr
  have hpaging : field (longMode sregs).cr0.toNat 31 1=1 := by
    change field (0x80000011 : UInt64).toNat 31 1=1
    decide
  rw [physical,if_pos hpaging,VmmPageTables.translate,longMode_root,walk_pml4 h (by omega)]
  split
  · rename_i hlow
    rw [walk_pdpt h hlow]
    exact walk_pd h hlow (by omega)
  · rename_i hhigh
    exact walk_above h (by omega) (by omega)

/-- Flat protected mode has linear addresses of 32 bits. -/
theorem protectedMode_physical (memory : GuestMemory) (sregs : Sregs) (addr : ℕ) :
    physical memory (protectedMode sregs) addr=if addr < 2^32 then some addr else none := by
  have hpaging : ¬field (protectedMode sregs).cr0.toNat 31 1=1 := by
    change ¬field (0x00000011 : UInt64).toNat 31 1=1
    decide
  rw [physical,if_neg hpaging]

/-- A linear address in RAM below the limit holds the byte of the same address. -/
theorem byteAt_of_physical {memory : GuestMemory} {sregs : Sregs} {addr last : ℕ}
    (h : physical memory sregs addr=if addr < last then some addr else none)
    (hram : addr < memory.size.toNat) :
    byteAt memory sregs addr=if addr < last then some (memory.byte addr) else none := by
  rw [byteAt,h]
  by_cases hlast : addr < last
  · rw [if_pos hlast,if_pos hlast]
    exact if_pos hram
  · rw [if_neg hlast,if_neg hlast]

/-- What a raw kernel's boot leaves: the page tables, with RAM as it was loaded. -/
theorem raw_tables {kvm : KvmAnswers} {host : HostAnswers} {config : DeviceConfig}
    {machine loaded both booted : VirtualMachine} {kernelPath initramfsPath : String}
    {kernel initramfs : List UInt8} {answers : VcpuAnswers}
    (hnew : VirtualMachine.new kvm host config=.ok machine) (hraw : ¬isBzimage kernel)
    (hk : loadKernel kernelPath (.content kernel) machine=.ok () loaded)
    (hi : loadInitramfs initramfsPath (.content initramfs) loaded=.ok () both)
    (hb : setupBoot answers both=.ok () booted) :
    Mapped (min ((config.ramMb.toNat+1)/2) 512) booted.guestMemory ∧
      ∃ vcpu sregs regs, booted.vcpus.head?=some vcpu ∧ vcpu.sregs=longMode sregs ∧
        vcpu.regs=rawEntry regs := by
  have hc := new_created hnew
  obtain rfl := loadKernel_raw hraw hk
  obtain ⟨-,rfl⟩ := loadInitramfs_ok hi
  have hzero : ∀ a, 0x70000 ≤ a → a < 0x73000 →
      (withInitramfs initramfs (withRaw kernel machine)).guestMemory.byte a=0 := by
    intro a hlow hhigh
    rw [withInitramfs,store_byte,overwrite_outside (by rw [initramfsLoadAddr_toNat]; omega)]
    rw [withRaw,store_byte,overwrite_outside (by rw [kernelLoadAddr_toNat]; omega)]
    exact hc.zeroed a
  obtain ⟨memory,vcpu,rest,sregs,regs,rfl,hcase⟩ := setupBoot_cases hb
  obtain ⟨hbz,-⟩ | ⟨-,⟨tables,ht,hm⟩,hsregs,hregs⟩ := hcase
  · exact absurd (hc.raw.symm.trans hbz) (by decide)
  · have hsize : (withInitramfs initramfs (withRaw kernel machine)).guestMemory.size=
        config.memSize := hc.size
    obtain ⟨filled,hrun,hmapped⟩ := setupPageTables_maps hc.valid hsize hzero
    have hconfig : (withInitramfs initramfs (withRaw kernel machine)).config=config := hc.config_eq
    rw [hconfig,hrun] at ht
    cases ht
    exact ⟨mapped_below hmapped (setupGdt_size _ _ _ hm) (setupGdt_sameBelow _ _ _ hm)
      (Nat.min_le_right _ _),vcpu,sregs,regs,rfl,hsregs,hregs⟩

/-- The linear addresses of the first virtual CPU and its registers, by mode. -/
theorem booted_linear {kvm : KvmAnswers} {host : HostAnswers} {config : DeviceConfig}
    {machine loaded both booted : VirtualMachine} {kernelPath initramfsPath : String}
    {kernel initramfs : List UInt8} {answers : VcpuAnswers}
    (hnew : VirtualMachine.new kvm host config=.ok machine)
    (hk : loadKernel kernelPath (.content kernel) machine=.ok () loaded)
    (hi : loadInitramfs initramfsPath (.content initramfs) loaded=.ok () both)
    (hb : setupBoot answers both=.ok () booted) :
    ∃ vcpu, booted.vcpus.head?=some vcpu ∧
      (∀ addr < config.memSize.toNat, physical booted.guestMemory vcpu.sregs addr=
        if addr < linearEnd (isBzimage kernel) then some addr else none) ∧
      vcpu.sregs.cs.base=0 ∧ vcpu.sregs.ds.base=0 ∧ vcpu.sregs.ss.base=0 ∧
      vcpu.regs.rip=kernelLoadAddr ∧
      vcpu.regs.rsp=(if isBzimage kernel then bzimageStackPointer else bootStackPointer) ∧
      vcpu.regs.rsi=if isBzimage kernel then bootParamsAddr else initramfsLoadAddr := by
  have hc := new_created hnew
  by_cases hkind : isBzimage kernel
  · obtain ⟨-,rfl⟩ := loadKernel_header hkind hk
    obtain ⟨-,rfl⟩ := loadInitramfs_ok hi
    obtain ⟨memory,vcpu,rest,sregs,regs,rfl,hcase⟩ := setupBoot_cases hb
    obtain ⟨-,-,hsregs,hregs⟩ | ⟨hraw,-⟩ := hcase
    · refine ⟨vcpu,rfl,?_,?_⟩
      · intro addr _
        rw [hsregs,linearEnd,if_pos hkind]
        exact protectedMode_physical memory sregs addr
      · rw [hsregs,hregs,if_pos hkind,if_pos hkind]
        exact ⟨rfl,rfl,rfl,rfl,rfl,rfl⟩
    · cases hraw
  · obtain ⟨hmapped,vcpu,sregs,regs,hvcpu,hsregs,hregs⟩ := raw_tables hnew hkind hk hi hb
    refine ⟨vcpu,hvcpu,?_,?_⟩
    · intro addr haddr
      rw [hsregs,linearEnd,if_neg hkind]
      exact longMode_physical hc.valid hmapped sregs haddr
    · rw [hsregs,hregs,if_neg hkind,if_neg hkind]
      exact ⟨rfl,rfl,rfl,rfl,rfl,rfl⟩

/-- Loading and booting keep the size of guest memory. -/
theorem booted_size {machine loaded both booted : VirtualMachine}
    {kernelPath initramfsPath : String} {kernel initramfs : List UInt8} {answers : VcpuAnswers}
    (hk : loadKernel kernelPath (.content kernel) machine=.ok () loaded)
    (hi : loadInitramfs initramfsPath (.content initramfs) loaded=.ok () both)
    (hb : setupBoot answers both=.ok () booted) :
    booted.guestMemory.size=machine.guestMemory.size ∧
      initramfsLoadAddr.toNat+initramfs.length ≤ machine.guestMemory.size.toNat := by
  have hloaded : loaded.guestMemory.size=machine.guestMemory.size := by
    by_cases hkind : isBzimage kernel
    · obtain ⟨-,rfl⟩ := loadKernel_header hkind hk
      rfl
    · obtain rfl := loadKernel_raw hkind hk
      rfl
  obtain ⟨hfits,rfl⟩ := loadInitramfs_ok hi
  refine ⟨(setupBoot_size hb).trans hloaded,?_⟩
  rw [← hloaded]
  exact hfits

/-- When a kernel and an initramfs are loaded into a created machine and boot
setup succeeds, the first virtual CPU starts at the kernel's first instruction
and finds all of it up to the initramfs, finds the initramfs as far as its
linear addresses reach, and has RAM for its stack and its argument in place. -/
theorem processor_starts {kvm : KvmAnswers} {host : HostAnswers} {config : DeviceConfig}
    {machine loaded both booted : VirtualMachine} {kernelPath initramfsPath : String}
    {kernel initramfs : List UInt8} {answers : VcpuAnswers}
    (hnew : VirtualMachine.new kvm host config=.ok machine)
    (hk : loadKernel kernelPath (.content kernel) machine=.ok () loaded)
    (hi : loadInitramfs initramfsPath (.content initramfs) loaded=.ok () both)
    (hb : setupBoot answers both=.ok () booted) :
    ∃ vcpu, booted.vcpus.head?=some vcpu ∧
      Starts kernel initramfs config.kernelCmdline config.memSize.toNat booted.guestMemory
        vcpu := by
  have hc := new_created hnew
  obtain ⟨hmin,-,-,-⟩ := (validate_ok_iff config).mp hc.valid
  obtain ⟨vcpu,hvcpu,hlinear,hcs,hds,hss,hrip,hrsp,hrsi⟩ := booted_linear hnew hk hi hb
  obtain ⟨base,hbytes⟩ := booted_bytes hc.raw hk hi hb
  obtain ⟨hsize,hfits⟩ := booted_size hk hi hb
  rw [hc.size] at hsize hfits
  have hram : 0x20000000 ≤ config.memSize.toNat := by
    rw [memSize_toNat hc.valid]
    omega
  have hend : 0x20000000 ≤ linearEnd (isBzimage kernel) := by
    unfold linearEnd
    split <;> decide
  have hplace : ∀ addr < config.memSize.toNat, byteAt booted.guestMemory vcpu.sregs addr=
      if addr < linearEnd (isBzimage kernel) then some (booted.guestMemory.byte addr)
      else none := by
    intro addr haddr
    refine byteAt_of_physical (hlinear addr haddr) ?_
    rw [hsize]
    exact haddr
  have hlow : ∀ addr < 0x20000000, byteAt booted.guestMemory vcpu.sregs addr=
      some (booted.guestMemory.byte addr) := by
    intro addr haddr
    rw [hplace addr (by omega),if_pos (by omega)]
  have hstack : vcpu.regs.rsp.toNat ≤ 0x800000 := by
    rw [hrsp]
    split <;> decide
  have hzero : (0 : UInt64).toNat=0 := rfl
  refine ⟨vcpu,hvcpu,hlinear,?_,?_,?_,?_,?_⟩
  · intro i hi hbelow
    rw [hcs,hrip,hzero,kernelLoadAddr_toNat,hlow _ (by omega),hbytes _ (by omega),
      overwrite_outside (by omega),Nat.zero_add,overwrite_inside _ _ _ i hi]
  · intro i hi
    rw [hplace _ (by omega),initramfsLoadAddr_toNat,hbytes _ (by omega),
      overwrite_inside _ _ _ i hi]
  · intro i _
    rw [hss,hzero]
    exact ⟨_,hlow _ (by omega)⟩
  · intro hkind
    rw [hrsi,if_neg hkind]
  · intro hkind i hlt
    obtain ⟨hpage,-⟩ := booted_page hkind hk hi hb
    have hcell := slice_getElem? booted.guestMemory.byte bootParamsAddr.toNat bootParamsSize i hlt
    rw [zeroPage,hc.config_eq] at hpage
    have hpageEnd : bootParamsSize=0x1000 := rfl
    rw [hds,hrsi,if_pos hkind,hzero,Nat.zero_add,← hpage,hcell]
    exact hlow _ (by rw [bootParamsAddr_toNat]; omega)

/-- A small raw kernel starts on a machine of the minimum RAM size. -/
theorem processor_starts_small :
    ∃ (machine loaded both booted : VirtualMachine) (vcpu : Vcpu),
      VirtualMachine.new willingKvm willingHost (plainConfig minRamMb)=.ok machine ∧
      loadKernel "kernel" (.content (List.replicate 64 0)) machine=.ok () loaded ∧
      loadInitramfs "initramfs" (.content [1,2,3]) loaded=.ok () both ∧
      setupBoot willingVcpu both=.ok () booted ∧ booted.vcpus.head?=some vcpu ∧
      Starts (List.replicate 64 0) [1,2,3] [] (plainConfig minRamMb).memSize.toNat
        booted.guestMemory vcpu := by
  obtain ⟨machine,hnew⟩ : ∃ machine, VirtualMachine.new willingKvm willingHost
      (plainConfig minRamMb)=.ok machine := ⟨_,rfl⟩
  obtain ⟨loaded,both,booted,hk,hi,hb⟩ := raw_boot_returns hnew (zeros_raw 64)
    (by decide) (by decide : 0x8000000+[(1 : UInt8),2,3].length ≤ _)
  obtain ⟨vcpu,hvcpu,hstarts⟩ := processor_starts hnew hk hi hb
  exact ⟨machine,loaded,both,booted,vcpu,hnew,hk,hi,hb,hvcpu,hstarts⟩

end LiteDroid.VmmEntry
