import LiteDroid.ListSplice
import LiteDroid.VmmBootImages

/-!
# The zero page of a bzImage

Boot setup copies the setup header of the kernel into a page of zeros, writes
the loader's fields on top and places the page in guest memory, where it is
next to the command line and the descriptor table. Byte by byte the page is
the header with those fields replaced. All of them have their value but the
length of the initramfs, which is cut to 32 bits.
-/

namespace LiteDroid.VmmZeroPage

open ByteRange LittleEndian CoreResults CoreDeviceConfig EffectRun KvmHost MemoryRegion
open VmmMachine VmmBootImages VmmKernelLoads ListSplice

/-- The zero page that guest memory holds. -/
def zeroPage (memory : GuestMemory) : List UInt8 :=
  slice memory.byte bootParamsAddr.toNat bootParamsSize

/-- A 32-bit field of a page. -/
def field32 (page : List UInt8) (offset : ℕ) : ℕ := leNat ((page.drop offset).take 4)

/-- The bytes of the setup header that the loader writes itself: the loader
type, the load flags, address and length of the initramfs, the heap end, the
command-line pointer and the command-line size. -/
def LoaderField (i : ℕ) : Prop :=
  i=0x210 ∨ i=0x211 ∨ (0x218 ≤ i ∧ i < 0x220) ∨ (0x224 ≤ i ∧ i < 0x226) ∨
    (0x228 ≤ i ∧ i < 0x22c) ∨ (0x238 ≤ i ∧ i < 0x23c)

/-- The zero page in guest memory is that of a kernel, an initramfs and a
command line. -/
structure Encodes (kernel initramfs cmdline : List UInt8) (memory : GuestMemory) : Prop where
  /-- The address of the initramfs. -/
  ramdiskImage : field32 (zeroPage memory) 0x218=initramfsLoadAddr.toNat
  /-- The length of the initramfs. -/
  ramdiskSize : field32 (zeroPage memory) 0x21c=initramfs.length
  /-- The command line lies where the pointer says, with a zero behind it. -/
  commandLine : slice memory.byte (field32 (zeroPage memory) 0x228) (cmdline.length+1)=cmdline++[0]
  /-- The loader type. -/
  loaderType : (zeroPage memory)[0x210]?=some 0xff
  /-- The load flags of the kernel, with the heap flag set. -/
  loadFlags : (zeroPage memory)[0x211]?=some (kernel.getD 0x211 0|||0x80)
  /-- Every other byte of the header is the kernel's own. -/
  header : ∀ i, 0x1f1 ≤ i → i < 0x290 → ¬LoaderField i → (zeroPage memory)[i]?=kernel[i]?
  /-- Every byte outside the header is zero. -/
  blank : ∀ i < bootParamsSize, i < 0x1f1 ∨ 0x290 ≤ i → (zeroPage memory)[i]?=some 0

/-- The zero page before the heap flag is set. -/
def stampedPage (header : List UInt8) (cmdlineLen : ℕ) (initramfsSize : UInt64) : List UInt8 :=
  let page := patch (List.replicate bootParamsSize 0) 0x1f1 header
  let page := patch page 0x228 (leBytes 4 cmdlineAddr.toUInt32.toNat)
  let page := patch page 0x238 (leBytes 4 (cmdlineLen%2^32))
  let page := patch page 0x218 (leBytes 4 initramfsLoadAddr.toUInt32.toNat)
  let page := patch page 0x21c (leBytes 4 initramfsSize.toUInt32.toNat)
  let page := patch page 0x224 (leBytes 2 0x7fff)
  patch page 0x210 [0xff]

/-- The zero page is the stamped one with the heap flag set. -/
theorem bootParams_eq (header : List UInt8) (cmdlineLen : ℕ) (initramfsSize : UInt64) :
    bootParams header cmdlineLen initramfsSize=
      patch (stampedPage header cmdlineLen initramfsSize) 0x211
        [(stampedPage header cmdlineLen initramfsSize).getD 0x211 0|||0x80] := rfl

/-- Every byte of a page after bytes inside it were replaced. -/
theorem patch_getElem? {page bytes : List UInt8} {offset : ℕ} (hp : page.length=bootParamsSize)
    (h : offset+bytes.length ≤ 0x1000) (i : ℕ) : (patch page offset bytes)[i]?=
      if offset ≤ i ∧ i < offset+bytes.length then bytes[i-offset]? else page[i]? :=
  splice_getElem? (by rw [hp]; exact h) i

/-- Every byte of the stamped page, and its length. -/
theorem stampedPage_getElem? {header : List UInt8} (h : header.length=0x9f) (cmdlineLen : ℕ)
    (initramfsSize : UInt64) {i : ℕ} (hi : i < bootParamsSize) :
    (stampedPage header cmdlineLen initramfsSize).length=bootParamsSize ∧
    (stampedPage header cmdlineLen initramfsSize)[i]?=
      if 0x210 ≤ i ∧ i < 0x211 then some 0xff
      else if 0x224 ≤ i ∧ i < 0x226 then (leBytes 2 0x7fff)[i-0x224]?
      else if 0x21c ≤ i ∧ i < 0x220 then (leBytes 4 initramfsSize.toUInt32.toNat)[i-0x21c]?
      else if 0x218 ≤ i ∧ i < 0x21c then
        (leBytes 4 initramfsLoadAddr.toUInt32.toNat)[i-0x218]?
      else if 0x238 ≤ i ∧ i < 0x23c then (leBytes 4 (cmdlineLen%2^32))[i-0x238]?
      else if 0x228 ≤ i ∧ i < 0x22c then (leBytes 4 cmdlineAddr.toUInt32.toNat)[i-0x228]?
      else if 0x1f1 ≤ i ∧ i < 0x290 then header[i-0x1f1]?
      else some 0 := by
  have hword : ∀ width n offset, offset+width ≤ 0x1000 →
      offset+(leBytes width n).length ≤ 0x1000 := by
    intro width n offset hle
    rw [leBytes_length]
    exact hle
  have hheader : 0x1f1+header.length ≤ 0x1000 := by omega
  have h228 := hword 4 cmdlineAddr.toUInt32.toNat 0x228 (by decide)
  have h238 := hword 4 (cmdlineLen%2^32) 0x238 (by decide)
  have h218 := hword 4 initramfsLoadAddr.toUInt32.toNat 0x218 (by decide)
  have h21c := hword 4 initramfsSize.toUInt32.toNat 0x21c (by decide)
  have h224 := hword 2 0x7fff 0x224 (by decide)
  have h210 : 0x210+[(0xff : UInt8)].length ≤ 0x1000 := by decide
  have l0 : (List.replicate bootParamsSize (0 : UInt8)).length=bootParamsSize :=
    List.length_replicate
  have l1 := patch_page l0 hheader
  have l2 := patch_page l1 h228
  have l3 := patch_page l2 h238
  have l4 := patch_page l3 h218
  have l5 := patch_page l4 h21c
  have l6 := patch_page l5 h224
  refine ⟨patch_page l6 h210,?_⟩
  unfold stampedPage
  dsimp only
  rw [patch_getElem? l6 h210,patch_getElem? l5 h224,patch_getElem? l4 h21c,patch_getElem? l3 h218,
    patch_getElem? l2 h238,patch_getElem? l1 h228,patch_getElem? l0 hheader]
  have hzero : (List.replicate bootParamsSize (0 : UInt8))[i]?=some 0 := by
    rw [List.getElem?_replicate,if_pos hi]
  simp only [leBytes_length,List.length_singleton,h,hzero,Nat.reduceAdd]
  by_cases hloader : 0x210 ≤ i ∧ i < 0x211
  · have hfirst : i-0x210=0 := by omega
    rw [if_pos hloader,if_pos hloader,hfirst,List.getElem?_cons_zero]
  · rw [if_neg hloader,if_neg hloader]

/-- The load flags of the stamped page are those of the header. -/
theorem stampedPage_flags {header : List UInt8} (h : header.length=0x9f) (cmdlineLen : ℕ)
    (initramfsSize : UInt64) :
    (stampedPage header cmdlineLen initramfsSize).getD 0x211 0=header.getD 0x20 0 := by
  have hflags := (stampedPage_getElem? h cmdlineLen initramfsSize
    (by decide : 0x211 < bootParamsSize)).2
  rw [List.getD_eq_getElem?_getD,hflags,List.getD_eq_getElem?_getD]
  rfl

/-- The zero page has the stamped bytes and the heap flag. -/
theorem bootParams_getElem? {header : List UInt8} (h : header.length=0x9f) (cmdlineLen : ℕ)
    (initramfsSize : UInt64) {i : ℕ} (hi : i < bootParamsSize) :
    (bootParams header cmdlineLen initramfsSize)[i]?=
      if i=0x211 then some (header.getD 0x20 0|||0x80)
      else (stampedPage header cmdlineLen initramfsSize)[i]? := by
  have hlength := (stampedPage_getElem? h cmdlineLen initramfsSize hi).1
  rw [bootParams_eq,patch_getElem? hlength (by rw [List.length_singleton]; decide),
    stampedPage_flags h,List.length_singleton]
  by_cases hflags : i=0x211
  · rw [if_pos hflags,if_pos (by omega),hflags]
    rfl
  · rw [if_neg hflags,if_neg (by omega)]

/-- A field of the zero page whose bytes are those of a word has its value. -/
theorem field32_word {page : List UInt8} {offset : ℕ} (word : UInt32)
    (h : ∀ j < 4, page[offset+j]?=(leBytes 4 word.toNat)[j]?) : field32 page offset=word.toNat := by
  have hlt := word.toNat_lt
  have hwindow := @window_eq _ page (leBytes 4 word.toNat) offset
    (by rw [leBytes_length]; exact h)
  rw [leBytes_length] at hwindow
  rw [field32,hwindow,leNat_leBytes]
  omega

/-- A field outside the load flags has the value that the stamped page has. -/
theorem bootParams_word {header : List UInt8} (h : header.length=0x9f) {cmdlineLen : ℕ}
    {initramfsSize : UInt64} {offset : ℕ} (hoffset : 0x212 ≤ offset ∧ offset+4 ≤ 0x1000)
    (word : UInt32) (hbytes : ∀ j < 4,
      (stampedPage header cmdlineLen initramfsSize)[offset+j]?=(leBytes 4 word.toNat)[j]?) :
    field32 (bootParams header cmdlineLen initramfsSize) offset=word.toNat := by
  apply field32_word
  intro j hj
  rw [bootParams_getElem? h cmdlineLen initramfsSize (by unfold bootParamsSize; omega),
    if_neg (by omega),hbytes j hj]

/-- The address of the initramfs in the zero page. -/
theorem bootParams_ramdiskImage {header : List UInt8} (h : header.length=0x9f) (cmdlineLen : ℕ)
    (initramfsSize : UInt64) :
    field32 (bootParams header cmdlineLen initramfsSize) 0x218=initramfsLoadAddr.toNat := by
  have hvalue : initramfsLoadAddr.toUInt32.toNat=initramfsLoadAddr.toNat := by decide
  rw [← hvalue]
  apply bootParams_word h (by omega)
  intro j hj
  rw [(stampedPage_getElem? h cmdlineLen initramfsSize (by unfold bootParamsSize; omega)).2,
    if_neg (by omega),if_neg (by omega),if_neg (by omega),if_pos (by omega),
    Nat.add_sub_cancel_left]

/-- The length of the initramfs in the zero page is cut to 32 bits. -/
theorem bootParams_ramdiskSize {header : List UInt8} (h : header.length=0x9f) (cmdlineLen : ℕ)
    (initramfsSize : UInt64) :
    field32 (bootParams header cmdlineLen initramfsSize) 0x21c=initramfsSize.toNat%2^32 := by
  have hvalue : initramfsSize.toUInt32.toNat=initramfsSize.toNat%2^32 := UInt64.toNat_toUInt32 _
  rw [← hvalue]
  apply bootParams_word h (by omega)
  intro j hj
  rw [(stampedPage_getElem? h cmdlineLen initramfsSize (by unfold bootParamsSize; omega)).2,
    if_neg (by omega),if_neg (by omega),if_pos (by omega),Nat.add_sub_cancel_left]

/-- The command-line pointer in the zero page. -/
theorem bootParams_commandLine {header : List UInt8} (h : header.length=0x9f) (cmdlineLen : ℕ)
    (initramfsSize : UInt64) :
    field32 (bootParams header cmdlineLen initramfsSize) 0x228=cmdlineAddr.toNat := by
  have hvalue : cmdlineAddr.toUInt32.toNat=cmdlineAddr.toNat := by decide
  rw [← hvalue]
  apply bootParams_word h (by omega)
  intro j hj
  rw [(stampedPage_getElem? h cmdlineLen initramfsSize (by unfold bootParamsSize; omega)).2,
    if_neg (by omega),if_neg (by omega),if_neg (by omega),if_neg (by omega),if_neg (by omega),
    if_pos (by omega),Nat.add_sub_cancel_left]

/-- The bytes of the header that no loader field replaces. -/
theorem bootParams_header {header : List UInt8} (h : header.length=0x9f) (cmdlineLen : ℕ)
    (initramfsSize : UInt64) {i : ℕ} (hlow : 0x1f1 ≤ i) (hhigh : i < 0x290)
    (hf : ¬LoaderField i) :
    (bootParams header cmdlineLen initramfsSize)[i]?=header[i-0x1f1]? := by
  have hsize : i < bootParamsSize := by
    unfold bootParamsSize
    omega
  unfold LoaderField at hf
  rw [bootParams_getElem? h cmdlineLen initramfsSize hsize,
    (stampedPage_getElem? h cmdlineLen initramfsSize hsize).2,if_neg (by omega),if_neg (by omega),
    if_neg (by omega),if_neg (by omega),if_neg (by omega),if_neg (by omega),if_neg (by omega),
    if_pos ⟨hlow,hhigh⟩]

/-- The bytes outside the header are zero. -/
theorem bootParams_blank {header : List UInt8} (h : header.length=0x9f) (cmdlineLen : ℕ)
    (initramfsSize : UInt64) {i : ℕ} (hi : i < bootParamsSize) (hout : i < 0x1f1 ∨ 0x290 ≤ i) :
    (bootParams header cmdlineLen initramfsSize)[i]?=some 0 := by
  rw [bootParams_getElem? h cmdlineLen initramfsSize hi,
    (stampedPage_getElem? h cmdlineLen initramfsSize hi).2,if_neg (by omega),if_neg (by omega),
    if_neg (by omega),if_neg (by omega),if_neg (by omega),if_neg (by omega),if_neg (by omega),
    if_neg (by omega)]

/-- What a bzImage boot writes to guest memory: the command line, the zero page
and the descriptor table. -/
theorem setupBzimageMemory_ok {header cmdline : List UInt8} {initramfsSize : UInt64}
    {memory after : GuestMemory}
    (h : setupBzimageMemory header cmdline initramfsSize memory=.ok () after) :
    header.length=0x9f ∧ cmdline.length+1 ≤ 0x800 ∧
      after=store (store (store memory cmdlineAddr.toNat (cmdline++[0])) bootParamsAddr.toNat
        (bootParams header cmdline.length initramfsSize)) gdtAddr.toNat gdt32 := by
  have hcmdline := setupBzimageMemory_cmdline h
  unfold setupBzimageMemory at h
  split at h
  · cases h
  rename_i hheader
  split at h
  · cases h
  obtain ⟨_,m1,h1,h⟩ := EffectRun.bind_ok_iff.mp h
  obtain ⟨_,m2,h2,h3⟩ := EffectRun.bind_ok_iff.mp h
  obtain ⟨-,rfl⟩ := writeGuest_ok (update_ok_iff.mp h1)
  obtain ⟨-,rfl⟩ := writeGuest_ok (update_ok_iff.mp h2)
  obtain ⟨-,rfl⟩ := writeGuest_ok (update_ok_iff.mp h3)
  exact ⟨Decidable.not_not.mp hheader,hcmdline,rfl⟩

/-- The zero page and the command line survive what is written after them. -/
theorem setupBzimageMemory_holds {header cmdline : List UInt8} {initramfsSize : UInt64}
    {memory after : GuestMemory}
    (h : setupBzimageMemory header cmdline initramfsSize memory=.ok () after) :
    zeroPage after=bootParams header cmdline.length initramfsSize ∧
      slice after.byte cmdlineAddr.toNat (cmdline.length+1)=cmdline++[0] := by
  obtain ⟨hheader,hcmdline,rfl⟩ := setupBzimageMemory_ok h
  have hpage := bootParams_length hheader cmdline.length initramfsSize
  have hc := cmdlineAddr_toNat
  have hp := bootParamsAddr_toNat
  have hg := gdtAddr_toNat
  have hgdt : gdt32.length=32 := by decide
  have hb : bootParamsSize=0x1000 := rfl
  have hlast : (cmdline++[0]).length=cmdline.length+1 := by
    rw [List.length_append,List.length_singleton]
  simp only [zeroPage,store_byte]
  constructor
  · rw [slice_overwrite_separate (by unfold Separate; omega),← hpage,slice_overwrite_self]
  · rw [slice_overwrite_separate (by unfold Separate; omega),
      slice_overwrite_separate (by unfold Separate; omega),← hlast,slice_overwrite_self]

/-- A byte of the setup header is a byte of the kernel. -/
theorem setupHeader_getElem? (kernel : List UInt8) {i : ℕ} (hlow : 0x1f1 ≤ i) (hhigh : i < 0x290) :
    (setupHeader kernel)[i-0x1f1]?=kernel[i]? := by
  have hindex : 0x1f1+(i-0x1f1)=i := by omega
  rw [setupHeader,List.getElem?_take,if_pos (by omega),List.getElem?_drop,hindex]

/-- The loader type in the zero page. -/
theorem bootParams_loaderType {header : List UInt8} (h : header.length=0x9f) (cmdlineLen : ℕ)
    (initramfsSize : UInt64) : (bootParams header cmdlineLen initramfsSize)[0x210]?=some 0xff := by
  have hi : 0x210 < bootParamsSize := by decide
  rw [bootParams_getElem? h cmdlineLen initramfsSize hi,if_neg (by decide),
    (stampedPage_getElem? h cmdlineLen initramfsSize hi).2,if_pos (by decide)]

/-- The load flags in the zero page are the kernel's, with the heap flag set. -/
theorem bootParams_loadFlags {kernel : List UInt8} (h : 0x290 ≤ kernel.length) (cmdlineLen : ℕ)
    (initramfsSize : UInt64) : (bootParams (setupHeader kernel) cmdlineLen initramfsSize)[0x211]?=
      some (kernel.getD 0x211 0|||0x80) := by
  have hbyte := setupHeader_getElem? kernel (by decide : 0x1f1 ≤ 0x211) (by decide)
  rw [bootParams_getElem? (setupHeader_length h) cmdlineLen initramfsSize (by decide),
    if_pos rfl,List.getD_eq_getElem?_getD,List.getD_eq_getElem?_getD,← hbyte]

/-- Where guest memory holds the zero page and the command line, the encoding
is correct exactly when the length of the initramfs fits 32 bits. -/
theorem encodes_iff_short {kernel initramfs cmdline : List UInt8} {memory : GuestMemory}
    (hlength : 0x290 ≤ kernel.length)
    (hsize : (UInt64.ofNat initramfs.length).toNat=initramfs.length)
    (hpage : zeroPage memory=
      bootParams (setupHeader kernel) cmdline.length (UInt64.ofNat initramfs.length))
    (hcmdline : slice memory.byte cmdlineAddr.toNat (cmdline.length+1)=cmdline++[0]) :
    Encodes kernel initramfs cmdline memory ↔ initramfs.length < 2^32 := by
  have hheader := setupHeader_length hlength
  have hfound := bootParams_ramdiskSize hheader cmdline.length (UInt64.ofNat initramfs.length)
  rw [hsize,← hpage] at hfound
  constructor
  · intro hencodes
    have hcut := hfound.symm.trans hencodes.ramdiskSize
    omega
  · intro hshort
    have hpointer := bootParams_commandLine hheader cmdline.length (UInt64.ofNat initramfs.length)
    rw [← hpage] at hpointer
    refine ⟨?_,hfound.trans (Nat.mod_eq_of_lt hshort),?_,?_,?_,?_,?_⟩
    · rw [hpage,bootParams_ramdiskImage hheader]
    · rw [hpointer,hcmdline]
    · rw [hpage,bootParams_loaderType hheader]
    · rw [hpage,bootParams_loadFlags hlength]
    · intro i hlow hhigh hf
      rw [hpage,bootParams_header hheader _ _ hlow hhigh hf,setupHeader_getElem? kernel hlow hhigh]
    · intro i hi hout
      rw [hpage,bootParams_blank hheader _ _ hi hout]

/-- A loaded initramfs has a 64-bit length. -/
theorem loadInitramfs_length {path : String} {initramfs : List UInt8}
    {machine after : VirtualMachine}
    (h : loadInitramfs path (.content initramfs) machine=.ok () after) :
    (UInt64.ofNat initramfs.length).toNat=initramfs.length := by
  obtain ⟨hfits,-⟩ := loadInitramfs_ok h
  have hlt := machine.guestMemory.size_lt
  unfold Fits at hfits
  rw [UInt64.toNat_ofNat']
  omega

/-- What the three boot calls leave of the boot data: the zero page of the
kernel's own header and the command line. -/
theorem booted_page {machine loaded both booted : VirtualMachine}
    {kernelPath initramfsPath : String} {kernel initramfs : List UInt8} {answers : VcpuAnswers}
    (hb : isBzimage kernel)
    (hk : loadKernel kernelPath (.content kernel) machine=.ok () loaded)
    (hi : loadInitramfs initramfsPath (.content initramfs) loaded=.ok () both)
    (hs : setupBoot answers both=.ok () booted) :
    zeroPage booted.guestMemory=bootParams (setupHeader kernel) machine.config.kernelCmdline.length
      (UInt64.ofNat initramfs.length) ∧
    slice booted.guestMemory.byte cmdlineAddr.toNat (machine.config.kernelCmdline.length+1)=
      machine.config.kernelCmdline++[0] := by
  obtain ⟨-,hloaded⟩ := loadKernel_header hb hk
  obtain ⟨-,hboth⟩ := loadInitramfs_ok hi
  have hheader : both.bzimageHeader=setupHeader kernel := by
    rw [hboth,hloaded]
    rfl
  have hconfig : both.config=machine.config := by
    rw [hboth,hloaded]
    rfl
  have hinitramfs : both.initramfsSize=UInt64.ofNat initramfs.length := by
    rw [hboth]
    rfl
  have hmode : both.kernelIsBzimage=true := by
    rw [hboth,hloaded]
    rfl
  obtain ⟨memory,vcpu,rest,sregs,regs,rfl,hcase⟩ := setupBoot_cases hs
  obtain ⟨-,hmemory,-,-⟩ | ⟨hraw,-⟩ := hcase
  · rw [hheader,hconfig,hinitramfs] at hmemory
    exact setupBzimageMemory_holds hmemory
  · rw [hmode] at hraw
    cases hraw

/-- When a bzImage and an initramfs are loaded and boot setup succeeds, the zero
page in guest memory is a correct encoding exactly when the length of the
initramfs fits 32 bits. -/
theorem zero_page_encodes_iff {machine loaded both booted : VirtualMachine}
    {kernelPath initramfsPath : String} {kernel initramfs : List UInt8} {answers : VcpuAnswers}
    (hb : isBzimage kernel)
    (hk : loadKernel kernelPath (.content kernel) machine=.ok () loaded)
    (hi : loadInitramfs initramfsPath (.content initramfs) loaded=.ok () both)
    (hs : setupBoot answers both=.ok () booted) :
    Encodes kernel initramfs machine.config.kernelCmdline booted.guestMemory ↔
      initramfs.length < 2^32 := by
  obtain ⟨hlength,-⟩ := loadKernel_header hb hk
  obtain ⟨hpage,hcmdline⟩ := booted_page hb hk hi hs
  exact encodes_iff_short hlength (loadInitramfs_length hi) hpage hcmdline

/-- A bzImage and an initramfs that fit guest memory boot on a created machine
with a short command line. -/
theorem bzimage_boot_returns {config : DeviceConfig} {machine : VirtualMachine}
    (hnew : VirtualMachine.new willingKvm willingHost config=.ok machine)
    {kernel initramfs : List UInt8} (hb : isBzimage kernel) (ha : Accepted kernel)
    (hl : 0x290 ≤ kernel.length) (hc : config.kernelCmdline.length+1 ≤ 0x800)
    (hk : 0x100000+kernel.length ≤ config.memSize.toNat)
    (hi : 0x8000000+initramfs.length ≤ config.memSize.toNat) :
    ∃ loaded both booted, loadKernel "kernel" (.content kernel) machine=.ok () loaded ∧
      loadInitramfs "initramfs" (.content initramfs) loaded=.ok () both ∧
      setupBoot willingVcpu both=.ok () booted := by
  have hcreated := new_created hnew
  have hI := initramfsLoadAddr_toNat
  have hsize : machine.guestMemory.size=config.memSize := hcreated.size
  have hreach : 0x100000+kernel.length ≤ machine.guestMemory.size.toNat := by
    rw [hsize]
    exact hk
  have hload := loadKernel_loads hb ha hl hreach "kernel"
  have hplaced : Fits (withBzimage kernel machine).guestMemory initramfsLoadAddr
      initramfs.length := by
    change initramfsLoadAddr.toNat+initramfs.length ≤ machine.guestMemory.size.toNat
    rw [hsize,hI]
    exact hi
  have hshort : machine.config.kernelCmdline.length+1 ≤ 0x800 := by
    rw [hcreated.config_eq]
    exact hc
  have hlow : Reaches 0x100000 machine.guestMemory := by
    unfold Reaches
    omega
  obtain ⟨booted,hboot⟩ := @setupBoot_bzimage_returns
    (withInitramfs initramfs (withBzimage kernel machine)) rfl (setupHeader_length hl) hshort
    hcreated.vcpus hlow
  exact ⟨_,_,booted,hload,loadInitramfs_loads hplaced "initramfs",hboot⟩

/-- A small bzImage and an initramfs of three bytes boot on a machine of the
minimum RAM size, and the zero page is a correct encoding. -/
theorem zero_page_encodes_iff_small :
    ∃ machine loaded both booted,
      VirtualMachine.new willingKvm willingHost (plainConfig minRamMb)=.ok machine ∧
      loadKernel "kernel" (.content (sampleImage 0x290)) machine=.ok () loaded ∧
      loadInitramfs "initramfs" (.content [1,2,3]) loaded=.ok () both ∧
      setupBoot willingVcpu both=.ok () booted ∧
      Encodes (sampleImage 0x290) [1,2,3] machine.config.kernelCmdline booted.guestMemory := by
  obtain ⟨machine,hnew⟩ : ∃ machine, VirtualMachine.new willingKvm willingHost
      (plainConfig minRamMb)=.ok machine := ⟨_,rfl⟩
  have hb : isBzimage (sampleImage 0x290) := by decide +kernel
  obtain ⟨loaded,both,booted,hk,hi,hs⟩ := @bzimage_boot_returns _ _ hnew (sampleImage 0x290) [1,2,3]
    hb (by decide +kernel) (by decide +kernel) (by decide) (by decide +kernel) (by decide)
  exact ⟨machine,loaded,both,booted,hnew,hk,hi,hs,(zero_page_encodes_iff hb hk hi hs).mpr (by decide)⟩

/-- On a machine of the maximum RAM size an initramfs of four gibibytes is
loaded, and boot setup gives its length as zero. -/
theorem four_gibibytes_read_as_zero :
    ∃ machine loaded both booted,
      VirtualMachine.new willingKvm willingHost (plainConfig maxRamMb)=.ok machine ∧
      loadKernel "kernel" (.content (sampleImage 0x290)) machine=.ok () loaded ∧
      loadInitramfs "initramfs" (.content (List.replicate (2^32) 0)) loaded=.ok () both ∧
      setupBoot willingVcpu both=.ok () booted ∧
      field32 (zeroPage booted.guestMemory) 0x21c=0 ∧
      ¬Encodes (sampleImage 0x290) (List.replicate (2^32) 0) machine.config.kernelCmdline
        booted.guestMemory := by
  obtain ⟨machine,hnew⟩ : ∃ machine, VirtualMachine.new willingKvm willingHost
      (plainConfig maxRamMb)=.ok machine := ⟨_,rfl⟩
  have hb : isBzimage (sampleImage 0x290) := by decide +kernel
  have hl : 0x290 ≤ (sampleImage 0x290).length := by decide +kernel
  have hroom : (plainConfig maxRamMb).memSize.toNat=0x200000000 := by decide
  have hfour : (List.replicate (2^32) (0 : UInt8)).length=2^32 := List.length_replicate
  obtain ⟨loaded,both,booted,hk,hi,hs⟩ := @bzimage_boot_returns _ _ hnew (sampleImage 0x290)
    (List.replicate (2^32) 0) hb (by decide +kernel) hl (by decide) (by decide +kernel)
    (by rw [hfour,hroom]; decide)
  obtain ⟨hpage,hcmdline⟩ := booted_page hb hk hi hs
  refine ⟨machine,loaded,both,booted,hnew,hk,hi,hs,?_,?_⟩
  · rw [hpage,bootParams_ramdiskSize (setupHeader_length hl),loadInitramfs_length hi,hfour,
      Nat.mod_self]
  · rw [encodes_iff_short hl (loadInitramfs_length hi) hpage hcmdline,hfour]
    decide

end LiteDroid.VmmZeroPage
