import LiteDroid.VmmMachine

/-!
# Loading kernel files

What one load does, by the kind of its file. A raw kernel is stored or
refused. A bzImage passes the checks of its header fields, then its setup
sectors are stored, then its payload, then the machine is marked and the setup
header is cut out of the file. The last cut needs 64 bytes more than the
header checks have asked for.
-/

namespace LiteDroid.VmmKernelLoads

open ByteRange LittleEndian CoreResults CoreDeviceConfig EffectRun KvmHost MemoryRegion
open VmmMachine

/-- The payload-offset field of a bzImage header. -/
def payloadOffset (data : List UInt8) : ℕ := leNat ((data.drop 0x248).take 4)

/-- The setup header of a bzImage, as boot setup needs it. -/
def setupHeader (data : List UInt8) : List UInt8 := (data.drop 0x1f1).take 0x9f

/-- The header fields of a bzImage pass the loader's checks. -/
def Accepted (data : List UInt8) : Prop :=
  0x250 ≤ data.length ∧ 0x200 ≤ payloadOffset data ∧ setupSize data < data.length

instance (data : List UInt8) : Decidable (Accepted data) := inferInstanceAs (Decidable (_ ∧ _))

/-- The machine after the setup sectors of a bzImage were stored. -/
def withSetup (data : List UInt8) (machine : VirtualMachine) : VirtualMachine :=
  {machine with
    guestMemory := store machine.guestMemory setupSectorsAddr.toNat (data.take (setupSize data))}

/-- The machine after its payload was stored too and the machine was marked. -/
def withPayload (data : List UInt8) (machine : VirtualMachine) : VirtualMachine :=
  {machine with
    guestMemory := store (withSetup data machine).guestMemory kernelLoadAddr.toNat
      (data.drop (setupSize data)),
    kernelIsBzimage := true}

/-- The machine after a bzImage was loaded. -/
def withBzimage (data : List UInt8) (machine : VirtualMachine) : VirtualMachine :=
  {withPayload data machine with bzimageHeader := setupHeader data}

/-- The machine after a raw kernel was loaded. -/
def withRaw (data : List UInt8) (machine : VirtualMachine) : VirtualMachine :=
  {machine with guestMemory := store machine.guestMemory kernelLoadAddr.toNat data}

/-- A blob that fits guest memory is stored. -/
theorem load_fits {machine : VirtualMachine} {addr : UInt64} {data : List UInt8}
    (h : Fits machine.guestMemory addr data.length) :
    focus memoryLens (load addr data) machine=
      .ok () {machine with guestMemory := store machine.guestMemory addr.toNat data} :=
  focus_ok_iff.mpr ⟨_,update_ok_iff.mpr (writeGuest_fits h),rfl⟩

/-- A blob that does not fit is refused and nothing is stored. -/
theorem load_refused {machine : VirtualMachine} {addr : UInt64} {data : List UInt8}
    (h : ¬Fits machine.guestMemory addr data.length) :
    focus memoryLens (load addr data) machine=
      .error (.error (.guestAddressOutOfRange addr)) machine :=
  focus_error_iff.mpr ⟨_,update_error_iff.mpr ⟨writeGuest_not_fits h,rfl⟩,rfl⟩

/-- A field inside the file is read. -/
theorem readU32_inside {data : List UInt8} {offset : ℕ} (h : offset+4 ≤ data.length) :
    ∃ value, readU32 data offset=.ok value ∧ value.toNat=leNat ((data.drop offset).take 4) := by
  have hlt := leNat_lt ((data.drop offset).take 4)
  have hlen : ((data.drop offset).take 4).length=4 := by
    rw [List.length_take,List.length_drop]
    omega
  rw [hlen] at hlt
  unfold readU32
  rw [if_pos h]
  refine ⟨_,rfl,?_⟩
  rw [UInt32.toNat_ofNat']
  omega

/-- A field that leaves the file is refused with an error value. -/
theorem readU32_outside {data : List UInt8} {offset : ℕ} (h : ¬offset+4 ≤ data.length) :
    ∃ message, readU32 data offset=.error (.error (.kernelLoadFailed message)) := by
  unfold readU32
  rw [if_neg h]
  exact ⟨_,rfl⟩

/-- The setup sectors are between 512 bytes and 128 kibibytes long. -/
theorem setupSize_bounds (data : List UInt8) : 0x200 ≤ setupSize data ∧ setupSize data ≤ 0x20000 := by
  have hlt := (data.getD 0x1f1 0).toNat_lt
  unfold setupSize
  omega

/-- A bzImage whose header fields do not pass is refused with an error value,
and nothing is stored. -/
theorem loadBzimage_refused {data : List UInt8} (h : ¬Accepted data) (machine : VirtualMachine) :
    ∃ message, loadBzimage data machine=.error (.error (.kernelLoadFailed message)) machine := by
  have hsize := setupSize_bounds data
  unfold loadBzimage
  rw [if_neg (by omega)]
  by_cases h1 : 0x248+4 ≤ data.length
  · obtain ⟨offset,hoffset,hvalue⟩ := readU32_inside h1
    rw [EffectRun.bind_of_ok (returning_ok hoffset machine)]
    by_cases h2 : 0x24c+4 ≤ data.length
    · obtain ⟨length,hlength,-⟩ := readU32_inside h2
      have hcheck : setupSize data < 0x200 ∨ offset.toNat < 0x200 ∨ data.length ≤ setupSize data := by
        unfold Accepted payloadOffset at h
        omega
      rw [EffectRun.bind_of_ok (returning_ok hlength machine),if_pos hcheck]
      exact ⟨_,rfl⟩
    · obtain ⟨message,hmessage⟩ := readU32_outside h2
      exact ⟨message,EffectRun.bind_of_error (returning_error hmessage machine) _⟩
  · obtain ⟨message,hmessage⟩ := readU32_outside h1
    exact ⟨message,EffectRun.bind_of_error (returning_error hmessage machine) _⟩

/-- A bzImage whose header fields pass: its setup sectors are stored if they
fit, then its payload if it fits, then the machine is marked and the header is
cut out of the file. -/
theorem loadBzimage_accepted {data : List UInt8} (h : Accepted data) (machine : VirtualMachine) :
    loadBzimage data machine=
      if Fits machine.guestMemory setupSectorsAddr (setupSize data) then
        if Fits machine.guestMemory kernelLoadAddr (data.length-setupSize data) then
          if data.length < 0x290 then
            .error (.panic .sliceOutOfRange) (withPayload data machine)
          else .ok () (withBzimage data machine)
        else .error (.error (.guestAddressOutOfRange kernelLoadAddr)) (withSetup data machine)
      else .error (.error (.guestAddressOutOfRange setupSectorsAddr)) machine := by
  have hsize := setupSize_bounds data
  obtain ⟨hlength,hfield,hsetup⟩ := h
  obtain ⟨offset,hoffset,hvalue⟩ := readU32_inside (by omega : 0x248+4 ≤ data.length)
  obtain ⟨size,hread,-⟩ := readU32_inside (by omega : 0x24c+4 ≤ data.length)
  have hcheck : ¬(setupSize data < 0x200 ∨ offset.toNat < 0x200 ∨ data.length ≤ setupSize data) := by
    unfold payloadOffset at hfield
    omega
  have hfirst : (data.take (setupSize data)).length=setupSize data := by
    rw [List.length_take]
    omega
  have hsecond : (data.drop (setupSize data)).length=data.length-setupSize data := List.length_drop
  unfold loadBzimage
  rw [if_neg (by omega),EffectRun.bind_of_ok (returning_ok hoffset machine),
    EffectRun.bind_of_ok (returning_ok hread machine),if_neg hcheck]
  by_cases hs : Fits machine.guestMemory setupSectorsAddr (setupSize data)
  · have hstored := @load_fits machine setupSectorsAddr (data.take (setupSize data))
      (by rw [hfirst]; exact hs)
    rw [if_pos hs,EffectRun.bind_of_ok hstored]
    by_cases hp : Fits machine.guestMemory kernelLoadAddr (data.length-setupSize data)
    · have hplaced := @load_fits (withSetup data machine) kernelLoadAddr
        (data.drop (setupSize data)) (by rw [hsecond]; exact hp)
      rw [if_pos hp]
      refine (EffectRun.bind_of_ok hplaced _).trans ?_
      split
      · rfl
      · rfl
    · have houtside := @load_refused (withSetup data machine) kernelLoadAddr
        (data.drop (setupSize data)) (by rw [hsecond]; exact hp)
      rw [if_neg hp]
      exact EffectRun.bind_of_error houtside _
  · have houtside := @load_refused machine setupSectorsAddr (data.take (setupSize data))
      (by rw [hfirst]; exact hs)
    rw [if_neg hs]
    exact EffectRun.bind_of_error houtside _

/-- A raw kernel that fits guest memory is loaded. -/
theorem loadKernel_stores {data : List UInt8} {machine : VirtualMachine} (hb : ¬isBzimage data)
    (hf : Fits machine.guestMemory kernelLoadAddr data.length) (path : String) :
    loadKernel path (.content data) machine=.ok () (withRaw data machine) := by
  have hload : loadKernel path (.content data) machine=
      focus memoryLens (load kernelLoadAddr data) machine := congrFun (if_neg hb) machine
  rw [hload]
  exact load_fits hf

/-- A bzImage that passes every check and fits guest memory, but ends inside its
setup header. -/
structure Cut (data : List UInt8) (memory : GuestMemory) : Prop where
  /-- It carries the magic of a bzImage. -/
  image : isBzimage data
  /-- The two fields that are checked lie in the file. -/
  fields : 0x250 ≤ data.length
  /-- The file ends before its setup header does. -/
  short : data.length < 0x290
  /-- It has no setup sectors but the boot sector. -/
  sectors : data.getD 0x1f1 0=0
  /-- Its payload offset is accepted. -/
  offset : 0x200 ≤ payloadOffset data
  /-- Guest memory holds what follows the boot sector. -/
  room : 0x100000+(data.length-0x200) ≤ memory.size.toNat

/-- A load returns with or without an error value; an error value leaves the
boot mode and the header as they were, and a loaded bzImage has the header that
boot setup asks for. -/
structure TotalLoad (path : String) (file : FileAnswer) (machine : VirtualMachine) : Prop where
  /-- It does not panic. -/
  returns : ∀ cause after, loadKernel path file machine≠.error (.panic cause) after
  /-- An error value changes neither the mode nor the header. -/
  kept : ∀ cause after, loadKernel path file machine=.error (.error cause) after →
    after.kernelIsBzimage=machine.kernelIsBzimage ∧ after.bzimageHeader=machine.bzimageHeader
  /-- A loaded bzImage has a whole header. -/
  header : ∀ data after, file=.content data → isBzimage data →
    loadKernel path file machine=.ok () after → after.bzimageHeader.length=0x9f

/-- What one load does: it refuses its file and changes nothing, it stores a raw
kernel, it stores only the setup sectors of a bzImage whose payload does not
fit, it panics on a cut bzImage, or it loads a bzImage. -/
theorem loadKernel_cases (path : String) (file : FileAnswer) (machine : VirtualMachine) :
    (∃ cause, loadKernel path file machine=.error (.error cause) machine) ∨
    ∃ data, file=.content data ∧
      ((¬isBzimage data ∧ Fits machine.guestMemory kernelLoadAddr data.length ∧
        loadKernel path file machine=.ok () (withRaw data machine)) ∨
      (isBzimage data ∧ Accepted data ∧
        Fits machine.guestMemory setupSectorsAddr (setupSize data) ∧
        ¬Fits machine.guestMemory kernelLoadAddr (data.length-setupSize data) ∧
        ∃ cause, loadKernel path file machine=.error (.error cause) (withSetup data machine)) ∨
      (Cut data machine.guestMemory ∧
        loadKernel path file machine=.error (.panic .sliceOutOfRange) (withPayload data machine)) ∨
      (isBzimage data ∧ Accepted data ∧ 0x290 ≤ data.length ∧
        loadKernel path file machine=.ok () (withBzimage data machine))) := by
  cases file with
  | missing => exact Or.inl ⟨_,rfl⟩
  | failed message => exact Or.inl ⟨_,rfl⟩
  | content data =>
    by_cases hb : isBzimage data
    · have hload : loadKernel path (.content data) machine=loadBzimage data machine :=
        congrFun (if_pos hb) machine
      rw [hload]
      by_cases ha : Accepted data
      · have hsize := setupSize_bounds data
        have hS := setupSectorsAddr_toNat
        have hK := kernelLoadAddr_toNat
        rw [loadBzimage_accepted ha]
        split_ifs with hs hp hcut
        · refine Or.inr ⟨data,rfl,Or.inr (Or.inr (Or.inl ⟨?_,rfl⟩))⟩
          obtain ⟨hfields,hoffset,hsetup⟩ := ha
          have hzero : data.getD 0x1f1 0=0 := by
            apply UInt8.toNat_inj.mp
            unfold setupSize at hsetup
            change (data.getD 0x1f1 0).toNat=0
            omega
          have hfirst : setupSize data=0x200 := by
            rw [setupSize,hzero]
            rfl
          unfold Fits at hp
          exact ⟨hb,hfields,hcut,hzero,hoffset,by omega⟩
        · exact Or.inr ⟨data,rfl,Or.inr (Or.inr (Or.inr ⟨hb,ha,by omega,rfl⟩))⟩
        · exact Or.inr ⟨data,rfl,Or.inr (Or.inl ⟨hb,ha,hs,hp,_,rfl⟩)⟩
        · exact Or.inl ⟨_,rfl⟩
      · obtain ⟨message,hmessage⟩ := loadBzimage_refused ha machine
        exact Or.inl ⟨_,hmessage⟩
    · by_cases hf : Fits machine.guestMemory kernelLoadAddr data.length
      · exact Or.inr ⟨data,rfl,Or.inl ⟨hb,hf,loadKernel_stores hb hf path⟩⟩
      · have hload : loadKernel path (.content data) machine=
            focus memoryLens (load kernelLoadAddr data) machine := congrFun (if_neg hb) machine
        exact Or.inl ⟨_,hload.trans (load_refused hf)⟩

/-- A load of a raw kernel that returned has stored it. -/
theorem loadKernel_raw {path : String} {kernel : List UInt8} {machine after : VirtualMachine}
    (hb : ¬isBzimage kernel) (h : loadKernel path (.content kernel) machine=.ok () after) :
    after=withRaw kernel machine := by
  obtain ⟨cause,hr⟩ | ⟨data,hfile,hcase⟩ := loadKernel_cases path (.content kernel) machine
  · rw [hr] at h
    cases h
  · cases hfile
    obtain ⟨-,-,hr⟩ | ⟨hbz,-⟩ | ⟨hcut,-⟩ | ⟨hbz,-⟩ := hcase
    · rw [hr] at h
      cases h
      rfl
    · exact absurd hbz hb
    · exact absurd hcut.image hb
    · exact absurd hbz hb

/-- A load of a bzImage that returned has stored it, with its mode and its whole
header. -/
theorem loadKernel_header {path : String} {kernel : List UInt8} {machine after : VirtualMachine}
    (hb : isBzimage kernel) (h : loadKernel path (.content kernel) machine=.ok () after) :
    0x290 ≤ kernel.length ∧ after=withBzimage kernel machine := by
  obtain ⟨cause,hr⟩ | ⟨data,hfile,hcase⟩ := loadKernel_cases path (.content kernel) machine
  · rw [hr] at h
    cases h
  · cases hfile
    obtain ⟨hn,-,-⟩ | ⟨-,-,-,-,cause,hr⟩ | ⟨-,hr⟩ | ⟨-,-,hlength,hr⟩ := hcase
    · exact absurd hb hn
    · rw [hr] at h
      cases h
    · rw [hr] at h
      cases h
    · rw [hr] at h
      cases h
      exact ⟨hlength,rfl⟩

/-- A cut bzImage makes the load panic, after the machine was marked. -/
theorem loadKernel_cut {data : List UInt8} {machine : VirtualMachine}
    (h : Cut data machine.guestMemory) (path : String) :
    loadKernel path (.content data) machine=
      .error (.panic .sliceOutOfRange) (withPayload data machine) := by
  have hload : loadKernel path (.content data) machine=loadBzimage data machine :=
    congrFun (if_pos h.image) machine
  have hsize : setupSize data=0x200 := by
    rw [setupSize,h.sectors]
    rfl
  have hS := setupSectorsAddr_toNat
  have hK := kernelLoadAddr_toNat
  have hfields := h.fields
  have hroom := h.room
  have ha : Accepted data := ⟨hfields,h.offset,by omega⟩
  have hs : Fits machine.guestMemory setupSectorsAddr (setupSize data) := by
    unfold Fits
    omega
  have hp : Fits machine.guestMemory kernelLoadAddr (data.length-setupSize data) := by
    unfold Fits
    omega
  rw [hload,loadBzimage_accepted ha,if_pos hs,if_pos hp,if_pos h.short]

/-- A bzImage that passes every check and fits guest memory is loaded. -/
theorem loadKernel_loads {data : List UInt8} {machine : VirtualMachine} (hb : isBzimage data)
    (ha : Accepted data) (hl : 0x290 ≤ data.length)
    (hm : 0x100000+data.length ≤ machine.guestMemory.size.toNat) (path : String) :
    loadKernel path (.content data) machine=.ok () (withBzimage data machine) := by
  have hload : loadKernel path (.content data) machine=loadBzimage data machine :=
    congrFun (if_pos hb) machine
  have hsize := setupSize_bounds data
  have hS := setupSectorsAddr_toNat
  have hK := kernelLoadAddr_toNat
  have hs : Fits machine.guestMemory setupSectorsAddr (setupSize data) := by
    unfold Fits
    omega
  have hp : Fits machine.guestMemory kernelLoadAddr (data.length-setupSize data) := by
    unfold Fits
    omega
  rw [hload,loadBzimage_accepted ha,if_pos hs,if_pos hp,if_neg (by omega)]

/-- A load that ends in an error value with the same mode and header is total. -/
theorem totalLoad_error {path : String} {file : FileAnswer} {machine after : VirtualMachine}
    {cause : LiteDroidError} (hr : loadKernel path file machine=.error (.error cause) after)
    (hk : after.kernelIsBzimage=machine.kernelIsBzimage ∧
      after.bzimageHeader=machine.bzimageHeader) : TotalLoad path file machine := by
  refine ⟨?_,?_,?_⟩
  · rw [hr]
    intro _ _ hc
    cases hc
  · rw [hr]
    intro _ _ he
    cases he
    exact hk
  · rw [hr]
    intro _ _ _ _ hc
    cases hc

/-- A load that returns is total if a bzImage leaves a whole header. -/
theorem totalLoad_ok {path : String} {file : FileAnswer} {machine after : VirtualMachine}
    (hr : loadKernel path file machine=.ok () after)
    (hh : ∀ data, file=.content data → isBzimage data → after.bzimageHeader.length=0x9f) :
    TotalLoad path file machine := by
  refine ⟨?_,?_,?_⟩
  · rw [hr]
    intro _ _ hc
    cases hc
  · rw [hr]
    intro _ _ hc
    cases hc
  · rw [hr]
    intro data _ hfile hb he
    cases he
    exact hh data hfile hb

/-- A file that reaches the end of the setup header has a whole one. -/
theorem setupHeader_length {data : List UInt8} (h : 0x290 ≤ data.length) :
    (setupHeader data).length=0x9f := by
  rw [setupHeader,List.length_take,List.length_drop]
  omega

/-- Loading a kernel is total exactly when its file is no cut bzImage. -/
theorem load_total_iff (path : String) (file : FileAnswer) (machine : VirtualMachine) :
    TotalLoad path file machine ↔ ∀ data, file=.content data → ¬Cut data machine.guestMemory := by
  constructor
  · rintro h data rfl hcut
    exact h.returns _ _ (loadKernel_cut hcut path)
  · intro h
    obtain ⟨cause,hr⟩ | ⟨data,rfl,hcase⟩ := loadKernel_cases path file machine
    · exact totalLoad_error hr ⟨rfl,rfl⟩
    · obtain ⟨hb,-,hr⟩ | ⟨-,-,-,-,cause,hr⟩ | ⟨hcut,-⟩ | ⟨-,-,hlength,hr⟩ := hcase
      · refine totalLoad_ok hr ?_
        intro other hother hbz
        cases hother
        exact absurd hbz hb
      · exact totalLoad_error hr ⟨rfl,rfl⟩
      · exact absurd hcut (h data rfl)
      · exact totalLoad_ok hr fun _ _ _ => setupHeader_length hlength

/-- A file of zeros but for the magic and the payload offset of a bzImage. -/
def sampleImage (length : ℕ) : List UInt8 :=
  patch (patch (List.replicate length 0) 0x202 hdrS) 0x248 (leBytes 4 0x200)

/-- A bzImage of 0x250 bytes passes every check of the loader, which then
panics on any machine of the minimum RAM size: its header reaches to 0x290. -/
theorem cut_image_panics :
    ∃ machine, VirtualMachine.new willingKvm willingHost (plainConfig minRamMb)=.ok machine ∧
      loadKernel "kernel" (.content (sampleImage 0x250)) machine=
        .error (.panic .sliceOutOfRange) (withPayload (sampleImage 0x250) machine) ∧
      ¬TotalLoad "kernel" (.content (sampleImage 0x250)) machine := by
  obtain ⟨machine,hnew⟩ : ∃ machine, VirtualMachine.new willingKvm willingHost
      (plainConfig minRamMb)=.ok machine := ⟨_,rfl⟩
  have hroom : 0x100000+((sampleImage 0x250).length-0x200) ≤ machine.guestMemory.size.toNat := by
    rw [(new_created hnew).size]
    decide +kernel
  have hcut : Cut (sampleImage 0x250) machine.guestMemory :=
    ⟨by decide +kernel,by decide +kernel,by decide +kernel,by decide +kernel,by decide +kernel,hroom⟩
  refine ⟨machine,hnew,loadKernel_cut hcut "kernel",?_⟩
  intro h
  exact h.returns _ _ (loadKernel_cut hcut "kernel")

end LiteDroid.VmmKernelLoads
