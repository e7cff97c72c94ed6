import LiteDroid.VmmKernelLoads

/-!
# Boot images in guest memory

The kernel is loaded one mebibyte up, the initramfs at 128 mebibytes, and
everything boot setup writes lies below both. The two images have the size
of their files, so the kernel can run into the initramfs, and the stack
pointer of a raw kernel can lie inside it.
-/

namespace LiteDroid.VmmBootImages

open ByteRange LittleEndian CoreResults CoreDeviceConfig EffectRun KvmHost MemoryRegion
open VmmMachine VmmKernelLoads

/-- The bytes of a kernel file that are placed at the load address. -/
def payload (kernel : List UInt8) : List UInt8 :=
  if isBzimage kernel then kernel.drop (setupSize kernel) else kernel

/-- The ranges boot setup writes: the tables of a raw kernel, or the command
line, the zero page and the descriptor table of a bzImage. -/
def bootRegions (bzimage : Bool) (cmdlineLen : ℕ) : List (ℕ×ℕ) :=
  if bzimage then [(cmdlineAddr.toNat,cmdlineLen+1),(bootParamsAddr.toNat,bootParamsSize),
    (gdtAddr.toNat,32)]
  else [(pml4Addr.toNat,4096),(pdptAddr.toNat,4096),(pdAddr.toNat,4096),(gdtAddr.toNat,32)]

/-- Both images are whole and nothing of the boot data lies in either. -/
structure Intact (kernel initramfs : List UInt8) (machine : VirtualMachine) : Prop where
  /-- The kernel is at its address, byte for byte. -/
  kernelWhole : slice machine.guestMemory.byte kernelLoadAddr.toNat (payload kernel).length=
    payload kernel
  /-- The initramfs is at its address, byte for byte. -/
  initramfsWhole : slice machine.guestMemory.byte initramfsLoadAddr.toNat initramfs.length=initramfs
  /-- The boot data lies outside both. -/
  regions : ∀ region∈bootRegions machine.kernelIsBzimage machine.config.kernelCmdline.length,
    Separate region.1 region.2 kernelLoadAddr.toNat (payload kernel).length ∧
      Separate region.1 region.2 initramfsLoadAddr.toNat initramfs.length
  /-- So does the initial stack pointer. -/
  stack : ∀ vcpu∈machine.vcpus.head?,
    Separate vcpu.regs.rsp.toNat 1 kernelLoadAddr.toNat (payload kernel).length ∧
      Separate vcpu.regs.rsp.toNat 1 initramfsLoadAddr.toNat initramfs.length

/-- A raw kernel ends below its stack pointer. A bzImage ends below the
initramfs, or holds the same bytes where the two meet. -/
def BootFits (kernel initramfs : List UInt8) : Prop :=
  if isBzimage kernel then
    ∀ i, (hi : i < initramfs.length) → (hp : 0x7f00000+i < (payload kernel).length) →
      (payload kernel)[0x7f00000+i]=initramfs[i]
  else kernel.length ≤ 0x700000

/-- Guest memory is the same from the kernel's load address on. -/
def SameAbove (before after : GuestMemory) : Prop := ∀ a, 0x100000 ≤ a → after.byte a=before.byte a

/-- Nothing changes above when nothing is done. -/
theorem sameAbove_refl (memory : GuestMemory) : SameAbove memory memory := fun _ _ => rfl

/-- Two actions that change nothing above change nothing together. -/
theorem sameAbove_trans (s t u : GuestMemory) (h : SameAbove s t) (h' : SameAbove t u) :
    SameAbove s u := fun a ha => (h' a ha).trans (h a ha)

/-- A write that ends below the kernel changes nothing above. -/
theorem write_below {addr : UInt64} {data : List UInt8} (h : addr.toNat+data.length ≤ 0x100000) :
    Keeps SameAbove (write addr data) := by
  intro memory _ after hw
  obtain ⟨-,rfl⟩ := writeGuest_ok (update_ok_iff.mp hw)
  intro a ha
  rw [store_byte]
  exact overwrite_outside (by omega)

/-- Every entry written to the page directory lies below the kernel. -/
theorem directory_below {config : DeviceConfig} {i : ℕ}
    (hi : i∈List.range (min (numPages config) 512).toNat) :
    (pdAddr+UInt64.ofNat i*8).toNat+(leBytes 8 (pdEntry i).toNat).length ≤ 0x100000 := by
  have hlt := List.mem_range.mp hi
  have hmin : (min (numPages config) 512).toNat ≤ 512 := by
    change (if numPages config ≤ 512 then numPages config else 512).toNat ≤ 512
    split
    · rename_i h
      exact UInt64.le_iff_toNat_le.mp h
    · decide
  simp only [pdAddr,UInt64.toNat_add,UInt64.toNat_mul,UInt64.toNat_ofNat',UInt64.reduceToNat,
    leBytes_length]
  omega

/-- The page tables lie below the kernel. -/
theorem setupPageTables_below (config : DeviceConfig) : Keeps SameAbove (setupPageTables config) := by
  have h4 := pml4Addr_toNat
  have h3 := pdptAddr_toNat
  refine Keeps.bind sameAbove_trans (write_below (by rw [leBytes_length]; omega)) fun _ => ?_
  refine Keeps.bind sameAbove_trans (write_below (by rw [leBytes_length]; omega)) fun _ => ?_
  refine Keeps.forM sameAbove_refl sameAbove_trans _ fun i hi => ?_
  exact write_below (directory_below hi)

/-- The descriptor table of a raw kernel lies below it. -/
theorem setupGdt_below : Keeps SameAbove setupGdt := by
  have h0 := gdtAddr_toNat
  have h1 : (gdtAddr+8).toNat=0x80008 := by decide
  have h2 : (gdtAddr+16).toNat=0x80010 := by decide
  have h3 : (gdtAddr+24).toNat=0x80018 := by decide
  refine Keeps.bind sameAbove_trans (write_below (by rw [leBytes_length]; omega)) fun _ => ?_
  refine Keeps.bind sameAbove_trans (write_below (by rw [leBytes_length]; omega)) fun _ => ?_
  refine Keeps.bind sameAbove_trans (write_below (by rw [leBytes_length]; omega)) fun _ => ?_
  exact write_below (by rw [leBytes_length]; omega)

/-- Replacing bytes inside the zero page keeps its size. -/
theorem patch_page {page bytes : List UInt8} {offset : ℕ} (hp : page.length=bootParamsSize)
    (h : offset+bytes.length ≤ 0x1000) : (patch page offset bytes).length=bootParamsSize := by
  unfold bootParamsSize at hp ⊢
  unfold patch
  rw [List.length_append,List.length_append,List.length_take,List.length_drop]
  omega

/-- The zero page has its full size. -/
theorem bootParams_length {header : List UInt8} (h : header.length=0x9f) (cmdlineLen : ℕ)
    (initramfsSize : UInt64) :
    (bootParams header cmdlineLen initramfsSize).length=bootParamsSize := by
  have hbytes : ∀ width n offset, offset+width ≤ 0x1000 →
      offset+(leBytes width n).length ≤ 0x1000 := by
    intro width n offset hle
    rw [leBytes_length]
    exact hle
  unfold bootParams
  apply patch_page _ (by rw [List.length_singleton]; decide)
  apply patch_page _ (by rw [List.length_singleton]; decide)
  apply patch_page _ (hbytes _ _ _ (by decide))
  apply patch_page _ (hbytes _ _ _ (by decide))
  apply patch_page _ (hbytes _ _ _ (by decide))
  apply patch_page _ (hbytes _ _ _ (by decide))
  apply patch_page _ (hbytes _ _ _ (by decide))
  exact patch_page List.length_replicate (by rw [h]; decide)

/-- Everything a bzImage boot writes lies below the kernel; a command line
that was accepted is short. -/
theorem setupBzimageMemory_below (header cmdline : List UInt8) (initramfsSize : UInt64) :
    Keeps SameAbove (setupBzimageMemory header cmdline initramfsSize) := by
  have hc := cmdlineAddr_toNat
  have hp := bootParamsAddr_toNat
  have hg := gdtAddr_toNat
  have hgdt : gdt32.length=32 := by decide
  unfold setupBzimageMemory
  split
  · intro s a u h
    cases h
  · rename_i hheader
    split
    · intro s a u h
      cases h
    · rename_i hcmd
      have hpage := bootParams_length (Decidable.not_not.mp hheader) cmdline.length initramfsSize
      unfold bootParamsSize at hpage
      refine Keeps.bind sameAbove_trans
        (write_below (by rw [List.length_append,List.length_singleton]; omega)) fun _ => ?_
      refine Keeps.bind sameAbove_trans (write_below (by omega)) fun _ => ?_
      exact write_below (by omega)

/-- An accepted command line of a bzImage boot is short. -/
theorem setupBzimageMemory_cmdline {header cmdline : List UInt8} {initramfsSize : UInt64}
    {memory after : GuestMemory}
    (h : setupBzimageMemory header cmdline initramfsSize memory=.ok () after) :
    cmdline.length+1 ≤ 0x800 := by
  unfold setupBzimageMemory at h
  split at h
  · cases h
  · split at h
    · cases h
    · omega

/-- The machine after an initramfs was loaded. -/
def withInitramfs (initramfs : List UInt8) (machine : VirtualMachine) : VirtualMachine :=
  {machine with
    guestMemory := store machine.guestMemory initramfsLoadAddr.toNat initramfs,
    initramfsSize := UInt64.ofNat initramfs.length}

/-- An initramfs that fits guest memory is loaded. -/
theorem loadInitramfs_loads {initramfs : List UInt8} {machine : VirtualMachine}
    (h : Fits machine.guestMemory initramfsLoadAddr initramfs.length) (path : String) :
    loadInitramfs path (.content initramfs) machine=.ok () (withInitramfs initramfs machine) :=
  EffectRun.bind_ok_iff.mpr ⟨(),_,load_fits h,rfl⟩

/-- A loaded initramfs fits guest memory and is stored at its address. -/
theorem loadInitramfs_ok {path : String} {initramfs : List UInt8}
    {machine after : VirtualMachine}
    (h : loadInitramfs path (.content initramfs) machine=.ok () after) :
    Fits machine.guestMemory initramfsLoadAddr initramfs.length ∧
      after=withInitramfs initramfs machine := by
  obtain ⟨_,t,hload,hrest⟩ := EffectRun.bind_ok_iff.mp h
  obtain ⟨memory,hw,-⟩ := focus_ok_iff.mp hload
  obtain ⟨hfits,-⟩ := writeGuest_ok (update_ok_iff.mp hw)
  rw [loadInitramfs_loads hfits] at h
  cases h
  exact ⟨hfits,rfl⟩

/-- A change of the first virtual CPU changes nothing else. -/
theorem onFirstVcpu_ok {change : Vcpu → Outcome Vcpu} {machine after : VirtualMachine}
    (h : onFirstVcpu change machine=.ok () after) :
    ∃ vcpu rest next, machine.vcpus=vcpu::rest ∧ change vcpu=.ok next ∧
      after={machine with vcpus := next::rest} := by
  have h' := update_ok_iff.mp h
  split at h'
  · cases h'
  · rename_i vcpu rest hv
    split at h'
    · cases h'
    · rename_i next hn
      exact ⟨vcpu,rest,next,hv,hn,(Except.ok.inj h').symm⟩

/-- The two register changes of boot setup leave the first virtual CPU with
the mode and the entry registers, and everything else as it was. -/
theorem registers_ok {answers : VcpuAnswers} {mode : Sregs → Sregs} {entry : Regs → Regs}
    {machine middle after : VirtualMachine}
    (hs : onFirstVcpu (fun vcpu => vcpu.updateSregs answers mode) machine=.ok () middle)
    (hr : onFirstVcpu (fun vcpu => vcpu.updateRegs answers entry) middle=.ok () after) :
    ∃ vcpu rest sregs regs, after={machine with vcpus := vcpu::rest} ∧
      vcpu.sregs=mode sregs ∧ vcpu.regs=entry regs := by
  obtain ⟨v0,r0,n0,-,h0,rfl⟩ := onFirstVcpu_ok hs
  obtain ⟨v1,r1,n1,hv,hn,rfl⟩ := onFirstVcpu_ok hr
  obtain ⟨rfl,rfl⟩ := List.cons.inj hv
  exact ⟨n1,r0,v0.sregs,n0.regs,rfl,by rw [updateRegs_ok hn,updateSregs_ok h0],
    by rw [updateRegs_ok hn]⟩

/-- What boot setup does to the machine, by its mode: the boot data of the mode
is written to guest memory, and the first virtual CPU gets its registers. -/
theorem setupBoot_cases {answers : VcpuAnswers} {machine after : VirtualMachine}
    (h : setupBoot answers machine=.ok () after) :
    ∃ memory vcpu rest sregs regs,
      after={machine with guestMemory := memory, vcpus := vcpu::rest} ∧
      ((machine.kernelIsBzimage=true ∧
        setupBzimageMemory machine.bzimageHeader machine.config.kernelCmdline
          machine.initramfsSize machine.guestMemory=.ok () memory ∧
        vcpu.sregs=protectedMode sregs ∧ vcpu.regs=bzimageEntry regs) ∨
      (machine.kernelIsBzimage=false ∧
        (∃ tables, setupPageTables machine.config machine.guestMemory=.ok () tables ∧
          setupGdt tables=.ok () memory) ∧
        vcpu.sregs=longMode sregs ∧ vcpu.regs=rawEntry regs)) := by
  obtain ⟨seen,t,hget,h⟩ := EffectRun.bind_ok_iff.mp h
  cases hget
  split at h
  · cases h
  split at h
  · rename_i hbz
    obtain ⟨_,m1,h1,hregisters⟩ := EffectRun.bind_ok_iff.mp h
    obtain ⟨memory,hm,rfl⟩ := focus_ok_iff.mp h1
    obtain ⟨_,m2,h2,h3⟩ := EffectRun.bind_ok_iff.mp hregisters
    obtain ⟨vcpu,rest,sregs,regs,rfl,hsregs,hregs⟩ := registers_ok h2 h3
    exact ⟨memory,vcpu,rest,sregs,regs,rfl,Or.inl ⟨hbz,hm,hsregs,hregs⟩⟩
  · rename_i hbz
    obtain ⟨_,m1,h1,hgdt⟩ := EffectRun.bind_ok_iff.mp h
    obtain ⟨tables,ht,rfl⟩ := focus_ok_iff.mp h1
    obtain ⟨_,m2,h2,hregisters⟩ := EffectRun.bind_ok_iff.mp hgdt
    obtain ⟨memory,hm,rfl⟩ := focus_ok_iff.mp h2
    obtain ⟨_,m3,h3,h4⟩ := EffectRun.bind_ok_iff.mp hregisters
    obtain ⟨vcpu,rest,sregs,regs,rfl,hsregs,hregs⟩ := registers_ok h3 h4
    exact ⟨memory,vcpu,rest,sregs,regs,rfl,
      Or.inr ⟨Bool.eq_false_of_not_eq_true hbz,⟨tables,ht,hm⟩,hsregs,hregs⟩⟩

/-- What boot setup leaves: memory above is the same, the boot mode follows
the loaded kernel, and the stack pointer follows the mode. -/
theorem setupBoot_ok {answers : VcpuAnswers} {machine after : VirtualMachine}
    (h : setupBoot answers machine=.ok () after) :
    SameAbove machine.guestMemory after.guestMemory ∧
      after.kernelIsBzimage=machine.kernelIsBzimage ∧
      (machine.kernelIsBzimage=true → after.config.kernelCmdline.length+1 ≤ 0x800) ∧
      ∃ vcpu, after.vcpus.head?=some vcpu ∧ vcpu.regs.rsp=
        if machine.kernelIsBzimage then bzimageStackPointer else bootStackPointer := by
  obtain ⟨memory,vcpu,rest,sregs,regs,rfl,hcase⟩ := setupBoot_cases h
  obtain ⟨hbz,hm,-,hregs⟩ | ⟨hbz,⟨tables,ht,hm⟩,-,hregs⟩ := hcase
  · refine ⟨setupBzimageMemory_below _ _ _ _ _ _ hm,rfl,
      fun _ => setupBzimageMemory_cmdline hm,vcpu,rfl,?_⟩
    rw [hregs,hbz]
    rfl
  · refine ⟨sameAbove_trans _ _ _ (setupPageTables_below _ _ _ _ ht)
      (setupGdt_below _ _ _ hm),rfl,fun hc => ?_,vcpu,rfl,?_⟩
    · rw [hbz] at hc
      cases hc
    · rw [hregs,hbz]
      rfl

/-- On a created machine a loaded kernel is stored at its address and decides
the boot mode. -/
theorem loadKernel_stored {path : String} {kernel : List UInt8} {machine after : VirtualMachine}
    (hraw : machine.kernelIsBzimage=false)
    (h : loadKernel path (.content kernel) machine=.ok () after) :
    after.kernelIsBzimage=decide (isBzimage kernel) ∧
      ∃ base, after.guestMemory=store base kernelLoadAddr.toNat (payload kernel) := by
  by_cases hb : isBzimage kernel
  · obtain ⟨-,rfl⟩ := loadKernel_header hb h
    rw [payload,if_pos hb,decide_eq_true hb]
    exact ⟨rfl,(withSetup kernel machine).guestMemory,rfl⟩
  · obtain rfl := loadKernel_raw hb h
    rw [payload,if_neg hb,decide_eq_false hb]
    exact ⟨hraw,machine.guestMemory,rfl⟩

/-- The regions boot setup writes end below both images. -/
theorem bootRegions_below {bzimage : Bool} {cmdlineLen : ℕ}
    (hc : bzimage=true → cmdlineLen+1 ≤ 0x800) :
    ∀ region∈bootRegions bzimage cmdlineLen, region.1+region.2 ≤ 0x100000 := by
  have h0 := cmdlineAddr_toNat
  have h1 := bootParamsAddr_toNat
  have h2 := gdtAddr_toNat
  have h3 := pml4Addr_toNat
  have h4 := pdptAddr_toNat
  have h5 : pdAddr.toNat=0x72000 := by decide
  cases bzimage with
  | true =>
    have hlen := hc rfl
    simp only [bootRegions,if_true,List.forall_mem_cons,h0,h1,h2,bootParamsSize]
    refine ⟨by omega,by omega,by omega,fun region hr => (by cases hr)⟩
  | false =>
    simp only [bootRegions,Bool.false_eq_true,if_false,List.forall_mem_cons,h2,h3,h4,h5]
    refine ⟨by omega,by omega,by omega,by omega,fun region hr => (by cases hr)⟩

/-- Behind the three boot calls, guest memory from the kernel's address on is the
kernel with the initramfs written over it. -/
theorem booted_bytes {machine loaded both booted : VirtualMachine}
    {kernelPath initramfsPath : String} {kernel initramfs : List UInt8} {answers : VcpuAnswers}
    (hraw : machine.kernelIsBzimage=false)
    (hk : loadKernel kernelPath (.content kernel) machine=.ok () loaded)
    (hi : loadInitramfs initramfsPath (.content initramfs) loaded=.ok () both)
    (hb : setupBoot answers both=.ok () booted) :
    ∃ base : ℕ → UInt8, ∀ a, 0x100000 ≤ a → booted.guestMemory.byte a=
      overwrite (overwrite base 0x100000 (payload kernel)) 0x8000000 initramfs a := by
  obtain ⟨-,base,hbase⟩ := loadKernel_stored hraw hk
  obtain ⟨-,hboth⟩ := loadInitramfs_ok hi
  obtain ⟨hsame,-,-,-⟩ := setupBoot_ok hb
  refine ⟨base.byte,fun a ha => ?_⟩
  rw [hsame a ha,hboth,withInitramfs,store_byte,hbase,store_byte,kernelLoadAddr_toNat,
    initramfsLoadAddr_toNat]

/-- What the three boot calls leave of the images: the initramfs is always
whole, the kernel is whole where the initramfs agrees with it, and no boot
data is written over either. -/
theorem booted_images {machine loaded both booted : VirtualMachine}
    {kernelPath initramfsPath : String} {kernel initramfs : List UInt8} {answers : VcpuAnswers}
    (hraw : machine.kernelIsBzimage=false)
    (hk : loadKernel kernelPath (.content kernel) machine=.ok () loaded)
    (hi : loadInitramfs initramfsPath (.content initramfs) loaded=.ok () both)
    (hb : setupBoot answers both=.ok () booted) :
    (slice booted.guestMemory.byte kernelLoadAddr.toNat (payload kernel).length=payload kernel ↔
      ∀ i, (hi : i < initramfs.length) → (hp : 0x7f00000+i < (payload kernel).length) →
        (payload kernel)[0x7f00000+i]=initramfs[i]) ∧
    slice booted.guestMemory.byte initramfsLoadAddr.toNat initramfs.length=initramfs ∧
    (∀ region∈bootRegions booted.kernelIsBzimage booted.config.kernelCmdline.length,
      region.1+region.2 ≤ 0x100000) ∧
    ∃ vcpu, booted.vcpus.head?=some vcpu ∧ vcpu.regs.rsp=
      if isBzimage kernel then bzimageStackPointer else bootStackPointer := by
  obtain ⟨base,hbytes⟩ := booted_bytes hraw hk hi hb
  obtain ⟨hmode,-⟩ := loadKernel_stored hraw hk
  obtain ⟨-,hboth⟩ := loadInitramfs_ok hi
  obtain ⟨-,hkept,hcmd,vcpu,hvcpu,hrsp⟩ := setupBoot_ok hb
  have hK := kernelLoadAddr_toNat
  have hI := initramfsLoadAddr_toNat
  have hbz : both.kernelIsBzimage=decide (isBzimage kernel) := by
    rw [hboth]
    exact hmode
  have habove : ∀ start len, 0x100000 ≤ start → slice booted.guestMemory.byte start len=
      slice (overwrite (overwrite base 0x100000 (payload kernel)) 0x8000000 initramfs)
        start len := by
    intro start len hs
    exact (slice_eq_iff _ _ _ _ _).mpr fun i _ => hbytes (start+i) (by omega)
  refine ⟨?_,?_,bootRegions_below (by rw [hkept]; exact hcmd),vcpu,hvcpu,?_⟩
  · rw [hK,habove _ _ (by omega)]
    exact slice_overwrite_later (by omega) _ _
  · rw [hI,habove _ _ (by omega)]
    exact slice_overwrite_self _ _ _
  · rw [hrsp,hbz]
    simp only [decide_eq_true_eq]

/-- When loading a kernel and an initramfs into a created machine and setting
up its boot all succeed, the boot images are intact exactly when a raw kernel
ends below its stack pointer, and a bzImage payload agrees with the initramfs
wherever it runs into it. -/
theorem boot_images_intact_iff {kvm : KvmAnswers} {host : HostAnswers} {config : DeviceConfig}
    {machine loaded both booted : VirtualMachine} {kernelPath initramfsPath : String}
    {kernel initramfs : List UInt8} {answers : VcpuAnswers}
    (hnew : VirtualMachine.new kvm host config=.ok machine)
    (hk : loadKernel kernelPath (.content kernel) machine=.ok () loaded)
    (hi : loadInitramfs initramfsPath (.content initramfs) loaded=.ok () both)
    (hb : setupBoot answers both=.ok () booted) :
    Intact kernel initramfs booted ↔ BootFits kernel initramfs := by
  obtain ⟨hkernel,hinitramfs,hlow,vcpu,hvcpu,hrsp⟩ :=
    booted_images (new_created hnew).raw hk hi hb
  have hK := kernelLoadAddr_toNat
  have hI := initramfsLoadAddr_toNat
  have hstack : bootStackPointer.toNat=0x800000 := by decide
  have hbzstack : bzimageStackPointer.toNat=0x10000 := by decide
  have hregions : ∀ region∈bootRegions booted.kernelIsBzimage booted.config.kernelCmdline.length,
      Separate region.1 region.2 kernelLoadAddr.toNat (payload kernel).length ∧
        Separate region.1 region.2 initramfsLoadAddr.toNat initramfs.length := by
    intro region hr
    have hend := hlow region hr
    unfold Separate
    omega
  unfold BootFits
  split
  · rename_i hbz
    rw [if_pos hbz] at hrsp
    refine ⟨fun h => hkernel.mp h.kernelWhole,fun h => ⟨hkernel.mpr h,hinitramfs,hregions,?_⟩⟩
    intro v hv
    rw [hvcpu] at hv
    obtain rfl := Option.some.inj hv
    rw [hrsp]
    unfold Separate
    omega
  · rename_i hbz
    rw [if_neg hbz] at hrsp
    have hpayload : payload kernel=kernel := if_neg hbz
    rw [hpayload] at hkernel hregions
    constructor
    · intro h
      have hs := (h.stack vcpu hvcpu).1
      rw [hrsp,hpayload] at hs
      unfold Separate at hs
      omega
    · intro h
      refine ⟨?_,hinitramfs,by rw [hpayload]; exact hregions,?_⟩
      · rw [hpayload]
        exact hkernel.mpr fun i _ hp => absurd hp (by omega)
      · intro v hv
        rw [hvcpu] at hv
        obtain rfl := Option.some.inj hv
        rw [hrsp,hpayload]
        unfold Separate
        omega

/-- Guest memory reaches up to an address. -/
def Reaches (n : ℕ) (memory : GuestMemory) : Prop := n ≤ memory.size.toNat

/-- A write below the end of guest memory returns. -/
theorem write_returns {n : ℕ} {addr : UInt64} {data : List UInt8} (h : addr.toNat+data.length ≤ n) :
    Returns (Reaches n) (write addr data) := by
  intro memory hm
  unfold Reaches at hm
  have hfit : Fits memory addr data.length := by
    unfold Fits
    omega
  refine ⟨(),_,update_ok_iff.mpr (writeGuest_fits hfit),?_⟩
  unfold Reaches
  rw [store_size]
  exact hm

/-- The page tables can be written into any memory that reaches the kernel. -/
theorem setupPageTables_returns (config : DeviceConfig) :
    Returns (Reaches 0x100000) (setupPageTables config) := by
  have h4 := pml4Addr_toNat
  have h3 := pdptAddr_toNat
  refine Returns.bind (write_returns (by rw [leBytes_length]; omega)) fun _ => ?_
  refine Returns.bind (write_returns (by rw [leBytes_length]; omega)) fun _ => ?_
  exact Returns.forM _ fun i hi => write_returns (directory_below hi)

/-- So can the descriptor table of a raw kernel. -/
theorem setupGdt_returns : Returns (Reaches 0x100000) setupGdt := by
  have h0 := gdtAddr_toNat
  have h1 : (gdtAddr+8).toNat=0x80008 := by decide
  have h2 : (gdtAddr+16).toNat=0x80010 := by decide
  have h3 : (gdtAddr+24).toNat=0x80018 := by decide
  refine Returns.bind (write_returns (by rw [leBytes_length]; omega)) fun _ => ?_
  refine Returns.bind (write_returns (by rw [leBytes_length]; omega)) fun _ => ?_
  refine Returns.bind (write_returns (by rw [leBytes_length]; omega)) fun _ => ?_
  exact write_returns (by rw [leBytes_length]; omega)

/-- The command line, the zero page and the descriptor table of a bzImage can be
written there too. -/
theorem setupBzimageMemory_returns {header cmdline : List UInt8} (hh : header.length=0x9f)
    (hc : cmdline.length+1 ≤ 0x800) (initramfsSize : UInt64) :
    Returns (Reaches 0x100000) (setupBzimageMemory header cmdline initramfsSize) := by
  have h0 := cmdlineAddr_toNat
  have h1 := bootParamsAddr_toNat
  have h2 := gdtAddr_toNat
  have hgdt : gdt32.length=32 := by decide
  have hpage := bootParams_length hh cmdline.length initramfsSize
  unfold bootParamsSize at hpage
  unfold setupBzimageMemory
  rw [if_neg (not_not.mpr hh),if_neg (by omega)]
  refine Returns.bind (write_returns (by rw [List.length_append,List.length_singleton]; omega))
    fun _ => ?_
  refine Returns.bind (write_returns (by omega)) fun _ => ?_
  exact write_returns (by omega)

/-- A willing hypervisor takes both register changes of boot setup. -/
theorem registers_return (mode : Sregs → Sregs) (entry : Regs → Regs) {machine : VirtualMachine}
    (hv : machine.vcpus≠[]) : ∃ middle after,
      onFirstVcpu (fun vcpu => vcpu.updateSregs willingVcpu mode) machine=.ok () middle ∧
      onFirstVcpu (fun vcpu => vcpu.updateRegs willingVcpu entry) middle=.ok () after := by
  obtain ⟨vcpu,rest,hcons⟩ := List.exists_cons_of_ne_nil hv
  have hsregs : onFirstVcpu (fun v => v.updateSregs willingVcpu mode) machine=
      .ok () {machine with vcpus := {vcpu with sregs := mode vcpu.sregs}::rest} :=
    update_ok_iff.mpr (by rw [hcons]; rfl)
  exact ⟨_,{machine with vcpus := ⟨vcpu.index,entry vcpu.regs,mode vcpu.sregs⟩::rest},hsregs,rfl⟩

/-- Boot setup of a raw kernel succeeds on a willing hypervisor. -/
theorem setupBoot_raw_returns {machine : VirtualMachine} (hraw : machine.kernelIsBzimage=false)
    (hv : machine.vcpus≠[]) (hm : Reaches 0x100000 machine.guestMemory) :
    ∃ booted, setupBoot willingVcpu machine=.ok () booted := by
  obtain ⟨_,tables,htables,hreach⟩ := setupPageTables_returns machine.config _ hm
  obtain ⟨_,memory,hgdt,-⟩ := setupGdt_returns _ hreach
  have hpages : focus memoryLens (setupPageTables machine.config) machine=
      .ok () {machine with guestMemory := tables} := focus_ok_iff.mpr ⟨tables,htables,rfl⟩
  have hdescriptors : focus memoryLens setupGdt {machine with guestMemory := tables}=
      .ok () {machine with guestMemory := memory} := focus_ok_iff.mpr ⟨memory,hgdt,rfl⟩
  obtain ⟨middle,booted,hsregs,hregs⟩ :=
    @registers_return longMode rawEntry {machine with guestMemory := memory} hv
  refine ⟨booted,EffectRun.bind_ok_iff.mpr ⟨machine,machine,rfl,?_⟩⟩
  rw [if_neg hv,if_neg (by rw [hraw]; decide)]
  exact EffectRun.bind_ok_iff.mpr ⟨(),_,hpages,EffectRun.bind_ok_iff.mpr ⟨(),_,hdescriptors,
    EffectRun.bind_ok_iff.mpr ⟨(),_,hsregs,hregs⟩⟩⟩

/-- So does that of a bzImage with a whole header and a short command line. -/
theorem setupBoot_bzimage_returns {machine : VirtualMachine} (hbz : machine.kernelIsBzimage=true)
    (hh : machine.bzimageHeader.length=0x9f) (hc : machine.config.kernelCmdline.length+1 ≤ 0x800)
    (hv : machine.vcpus≠[]) (hm : Reaches 0x100000 machine.guestMemory) :
    ∃ booted, setupBoot willingVcpu machine=.ok () booted := by
  obtain ⟨_,memory,hwritten,-⟩ := setupBzimageMemory_returns hh hc machine.initramfsSize _ hm
  have hdata : focus memoryLens (setupBzimageMemory machine.bzimageHeader
      machine.config.kernelCmdline machine.initramfsSize) machine=
      .ok () {machine with guestMemory := memory} := focus_ok_iff.mpr ⟨memory,hwritten,rfl⟩
  obtain ⟨middle,booted,hsregs,hregs⟩ :=
    @registers_return protectedMode bzimageEntry {machine with guestMemory := memory} hv
  refine ⟨booted,EffectRun.bind_ok_iff.mpr ⟨machine,machine,rfl,?_⟩⟩
  rw [if_neg hv,if_pos hbz]
  exact EffectRun.bind_ok_iff.mpr ⟨(),_,hdata,EffectRun.bind_ok_iff.mpr ⟨(),_,hsregs,hregs⟩⟩

/-- A raw kernel and an initramfs that fit guest memory boot on a created
machine. -/
theorem raw_boot_returns {config : DeviceConfig} {machine : VirtualMachine}
    (hnew : VirtualMachine.new willingKvm willingHost config=.ok machine)
    {kernel initramfs : List UInt8} (hraw : ¬isBzimage kernel)
    (hk : 0x100000+kernel.length ≤ config.memSize.toNat)
    (hi : 0x8000000+initramfs.length ≤ config.memSize.toNat) :
    ∃ loaded both booted, loadKernel "kernel" (.content kernel) machine=.ok () loaded ∧
      loadInitramfs "initramfs" (.content initramfs) loaded=.ok () both ∧
      setupBoot willingVcpu both=.ok () booted := by
  have hc := new_created hnew
  have hK := kernelLoadAddr_toNat
  have hI := initramfsLoadAddr_toNat
  have hfirst : Fits machine.guestMemory kernelLoadAddr kernel.length := by
    unfold Fits
    rw [hc.size,hK]
    exact hk
  have hsecond : Fits (withRaw kernel machine).guestMemory initramfsLoadAddr initramfs.length := by
    change initramfsLoadAddr.toNat+initramfs.length ≤ machine.guestMemory.size.toNat
    rw [hc.size,hI]
    exact hi
  have hreach : Reaches 0x100000 machine.guestMemory := by
    unfold Reaches
    rw [hc.size]
    omega
  obtain ⟨booted,hboot⟩ := @setupBoot_raw_returns
    (withInitramfs initramfs (withRaw kernel machine)) hc.raw hc.vcpus hreach
  exact ⟨_,_,booted,loadKernel_stores hraw hfirst _,loadInitramfs_loads hsecond _,hboot⟩

/-- A file of zeros carries no setup header. -/
theorem zeros_raw (n : ℕ) : ¬isBzimage (List.replicate n 0) := by
  rintro ⟨hlen,hmagic⟩
  rw [List.length_replicate] at hlen
  rw [List.drop_replicate,List.take_replicate,Nat.min_eq_left (by omega)] at hmagic
  revert hmagic
  decide

/-- A small raw kernel and an initramfs boot on a machine of the minimum RAM
size, and both are intact. -/
theorem boot_images_intact_iff_small :
    ∃ machine loaded both booted,
      VirtualMachine.new willingKvm willingHost (plainConfig minRamMb)=.ok machine ∧
      loadKernel "kernel" (.content (List.replicate 64 0)) machine=.ok () loaded ∧
      loadInitramfs "initramfs" (.content [1,2,3]) loaded=.ok () both ∧
      setupBoot willingVcpu both=.ok () booted ∧
      Intact (List.replicate 64 0) [1,2,3] booted := by
  obtain ⟨machine,hnew⟩ : ∃ machine, VirtualMachine.new willingKvm willingHost
      (plainConfig minRamMb)=.ok machine := ⟨_,rfl⟩
  obtain ⟨loaded,both,booted,hk,hi,hb⟩ := raw_boot_returns hnew (zeros_raw 64)
    (by decide) (by decide : 0x8000000+[(1 : UInt8),2,3].length ≤ _)
  refine ⟨machine,loaded,both,booted,hnew,hk,hi,hb,
    (boot_images_intact_iff hnew hk hi hb).mpr ?_⟩
  unfold BootFits
  rw [if_neg (zeros_raw 64)]
  decide

/-- A raw kernel of one byte more than seven mebibytes boots with its stack
pointer inside it. -/
theorem stack_inside_kernel :
    ∃ machine loaded both booted,
      VirtualMachine.new willingKvm willingHost (plainConfig minRamMb)=.ok machine ∧
      loadKernel "kernel" (.content (List.replicate 0x700001 0)) machine=.ok () loaded ∧
      loadInitramfs "initramfs" (.content [1,2,3]) loaded=.ok () both ∧
      setupBoot willingVcpu both=.ok () booted ∧
      ¬Intact (List.replicate 0x700001 0) [1,2,3] booted := by
  obtain ⟨machine,hnew⟩ : ∃ machine, VirtualMachine.new willingKvm willingHost
      (plainConfig minRamMb)=.ok machine := ⟨_,rfl⟩
  have hsize : (plainConfig minRamMb).memSize.toNat=0x20000000 := by decide
  obtain ⟨loaded,both,booted,hk,hi,hb⟩ := raw_boot_returns hnew (zeros_raw 0x700001)
    (by rw [List.length_replicate,hsize]; omega)
    (by rw [hsize]; decide : 0x8000000+[(1 : UInt8),2,3].length ≤ _)
  refine ⟨machine,loaded,both,booted,hnew,hk,hi,hb,?_⟩
  obtain ⟨-,-,-,vcpu,hvcpu,hrsp⟩ := booted_images (new_created hnew).raw hk hi hb
  intro h
  have hs := (h.stack vcpu hvcpu).1
  have hK := kernelLoadAddr_toNat
  have hstack : bootStackPointer.toNat=0x800000 := by decide
  rw [hrsp,if_neg (zeros_raw 0x700001),payload,if_neg (zeros_raw 0x700001),
    List.length_replicate] at hs
  unfold Separate at hs
  omega

end LiteDroid.VmmBootImages
