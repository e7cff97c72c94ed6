import LiteDroid.StepRun
import LiteDroid.VmmZeroPage

/-!
# The boot mode of the last kernel

Kernels can be loaded one after another into one machine, and boot setup takes
the mode, the setup header and the kernel in memory as the loads left them. A
loaded bzImage sets all three. A loaded raw kernel sets only memory, so after a
bzImage the machine still boots in the mode of that one. A bzImage that is
refused for the size of its payload has left its setup sectors behind.
-/

namespace LiteDroid.VmmBootModes

open ByteRange LittleEndian CoreResults CoreDeviceConfig EffectRun KvmHost MemoryRegion StepRun
open VmmMachine VmmBootImages VmmKernelLoads VmmZeroPage

/-- A machine between two loads, with the file of the last load that succeeded. -/
structure Session where
  /-- The machine. -/
  machine : VirtualMachine
  /-- The last loaded file. -/
  last : Option (List UInt8)

/-- The contents of a file that could be read. -/
def contents : FileAnswer → Option (List UInt8)
  | .missing => none
  | .failed _ => none
  | .content data => some data

/-- Load a kernel. An error value leaves the last loaded file, a panic ends the
session. -/
def Session.load (session : Session) (call : String×FileAnswer) : Option Session :=
  match loadKernel call.1 call.2 session.machine with
  | .ok _ after => some ⟨after,contents call.2⟩
  | .error (.error _) after => some ⟨after,session.last⟩
  | .error (.panic _) _ => none

/-- The setup sectors of a bzImage. -/
def setupSectors (data : List UInt8) : List UInt8 := data.take (setupSize data)

/-- Boot setup as a kernel file asks for it: the 32-bit protocol with its own
setup header for a bzImage, the 64-bit path for a raw kernel. -/
def bootProtocol (file : List UInt8) (answers : VcpuAnswers) :
    EStateM Fault VirtualMachine Unit := do
  let machine ← get
  if machine.vcpus=[] then throw (.panic .indexOutOfRange)
  else if isBzimage file then do
    focus memoryLens (setupBzimageMemory (setupHeader file) machine.config.kernelCmdline
      machine.initramfsSize)
    onFirstVcpu fun vcpu => vcpu.updateSregs answers protectedMode
    onFirstVcpu fun vcpu => vcpu.updateRegs answers bzimageEntry
  else do
    focus memoryLens (setupPageTables machine.config)
    focus memoryLens setupGdt
    onFirstVcpu fun vcpu => vcpu.updateSregs answers longMode
    onFirstVcpu fun vcpu => vcpu.updateRegs answers rawEntry

/-- The boot state of a machine is that of a kernel file. -/
structure BootsFile (file : List UInt8) (machine : VirtualMachine) : Prop where
  /-- The mode is that of the file. -/
  mode : machine.kernelIsBzimage=decide (isBzimage file)
  /-- The kept header is the file's own. -/
  header : isBzimage file → machine.bzimageHeader=setupHeader file
  /-- The kernel is at its address, byte for byte. -/
  kernel : slice machine.guestMemory.byte kernelLoadAddr.toNat (payload file).length=payload file
  /-- The setup sectors of a bzImage are at theirs. -/
  sectors : isBzimage file →
    slice machine.guestMemory.byte setupSectorsAddr.toNat (setupSectors file).length=
      setupSectors file
  /-- Boot setup does what the file asks for. -/
  boots : ∀ answers, setupBoot answers machine=bootProtocol file answers machine

/-- The boot state follows the last loaded file. Before the first one the
machine is in its 64-bit mode. -/
structure Session.Follows (session : Session) : Prop where
  /-- No kernel is loaded yet. -/
  before : session.last=none → session.machine.kernelIsBzimage=false
  /-- The boot state is that of the last file. -/
  behind : ∀ file, session.last=some file → BootsFile file session.machine

/-- Two lists of bytes are equal wherever both have a byte. -/
def Agree (first second : List UInt8) : Prop :=
  ∀ i, (hf : i < first.length) → (hs : i < second.length) → first[i]=second[i]

/-- A bzImage that passes the header checks and of which guest memory holds the
setup sectors, but not the payload. -/
structure Stranded (data : List UInt8) (memory : GuestMemory) : Prop where
  /-- It carries the magic of a bzImage. -/
  image : isBzimage data
  /-- Its header fields pass. -/
  accepted : Accepted data
  /-- The setup sectors fit. -/
  sectors : Fits memory setupSectorsAddr (setupSize data)
  /-- The payload does not. -/
  payload : ¬Fits memory kernelLoadAddr (data.length-setupSize data)

/-- A load that keeps the boot state with the last file. -/
structure Orderly (session : Session) (file : FileAnswer) : Prop where
  /-- No raw kernel is loaded once the machine was marked for a bzImage. -/
  raw : ∀ data, file=.content data → ¬isBzimage data →
    Fits session.machine.guestMemory kernelLoadAddr data.length →
    session.machine.kernelIsBzimage=false
  /-- A stranded bzImage agrees with the setup sectors of a loaded one. -/
  sectors : ∀ data held, file=.content data → Stranded data session.machine.guestMemory →
    session.last=some held → isBzimage held → Agree (setupSectors held) (setupSectors data)

/-- Boot setup does what a file asks for where the mode and the header are the
file's. -/
theorem setupBoot_protocol {file : List UInt8} {machine : VirtualMachine}
    (hmode : machine.kernelIsBzimage=decide (isBzimage file))
    (hheader : isBzimage file → machine.bzimageHeader=setupHeader file) (answers : VcpuAnswers) :
    setupBoot answers machine=bootProtocol file answers machine := by
  have hget : (get : EStateM Fault VirtualMachine VirtualMachine) machine=.ok machine machine := rfl
  unfold setupBoot bootProtocol
  rw [EffectRun.bind_of_ok hget,EffectRun.bind_of_ok hget]
  by_cases hb : isBzimage file
  · rw [hmode,hheader hb,if_pos hb,if_pos (decide_eq_true hb)]
  · rw [hmode,if_neg hb,decide_eq_false hb,if_neg Bool.false_ne_true]

/-- A stranded bzImage is refused, and its setup sectors are stored. -/
theorem loadKernel_stranded {data : List UInt8} {machine : VirtualMachine}
    (h : Stranded data machine.guestMemory) (path : String) :
    loadKernel path (.content data) machine=
      .error (.error (.guestAddressOutOfRange kernelLoadAddr)) (withSetup data machine) := by
  have hload : loadKernel path (.content data) machine=loadBzimage data machine :=
    congrFun (if_pos h.image) machine
  rw [hload,loadBzimage_accepted h.accepted,if_pos h.sectors,if_neg h.payload]

/-- A session after a load that returned. -/
theorem load_of_ok {session : Session} {path : String} {data : List UInt8}
    {after : VirtualMachine} (h : loadKernel path (.content data) session.machine=.ok () after) :
    session.load (path,.content data)=some ⟨after,some data⟩ := by
  unfold Session.load
  rw [h]
  rfl

/-- A session after a load that ended in an error value. -/
theorem load_of_error {session : Session} {path : String} {file : FileAnswer}
    {cause : LiteDroidError} {after : VirtualMachine}
    (h : loadKernel path file session.machine=.error (.error cause) after) :
    session.load (path,file)=some ⟨after,session.last⟩ := by
  unfold Session.load
  rw [h]

/-- A session whose load panics has no successor. -/
theorem load_of_panic {session : Session} {path : String} {file : FileAnswer}
    {cause : Panic} {after : VirtualMachine}
    (h : loadKernel path file session.machine=.error (.panic cause) after) :
    session.load (path,file)=none := by
  unfold Session.load
  rw [h]

/-- The setup sectors of a bzImage end below the kernel. -/
theorem setupSectors_below (data : List UInt8) :
    setupSectorsAddr.toNat+(setupSectors data).length ≤ kernelLoadAddr.toNat := by
  have hS := setupSectorsAddr_toNat
  have hK := kernelLoadAddr_toNat
  have hsize := setupSize_bounds data
  rw [setupSectors,List.length_take]
  omega

/-- A loaded bzImage is what the machine boots. -/
theorem withBzimage_boots {data : List UInt8} (hb : isBzimage data) (machine : VirtualMachine) :
    BootsFile data (withBzimage data machine) := by
  have hbelow := setupSectors_below data
  have hmode : (withBzimage data machine).kernelIsBzimage=decide (isBzimage data) :=
    (decide_eq_true hb).symm
  have hmemory : (withBzimage data machine).guestMemory.byte=
      overwrite (overwrite machine.guestMemory.byte setupSectorsAddr.toNat (setupSectors data))
        kernelLoadAddr.toNat (payload data) := by
    rw [payload,if_pos hb]
    rfl
  refine ⟨hmode,fun _ => rfl,?_,fun _ => ?_,setupBoot_protocol hmode fun _ => rfl⟩
  · rw [hmemory]
    exact slice_overwrite_self _ _ _
  · rw [hmemory,slice_overwrite_separate (by unfold Separate; omega)]
    exact slice_overwrite_self _ _ _

/-- A loaded raw kernel is what the machine boots exactly when the machine was
not marked for a bzImage. -/
theorem withRaw_boots_iff {data : List UInt8} (hb : ¬isBzimage data) (machine : VirtualMachine) :
    BootsFile data (withRaw data machine) ↔ machine.kernelIsBzimage=false := by
  constructor
  · intro h
    exact h.mode.trans (decide_eq_false hb)
  · intro hraw
    have hmode : (withRaw data machine).kernelIsBzimage=decide (isBzimage data) :=
      hraw.trans (decide_eq_false hb).symm
    have hmemory : (withRaw data machine).guestMemory.byte=
        overwrite machine.guestMemory.byte kernelLoadAddr.toNat (payload data) := by
      rw [payload,if_neg hb]
      rfl
    refine ⟨hmode,fun h => absurd h hb,?_,fun h => absurd h hb,
      setupBoot_protocol hmode fun h => absurd h hb⟩
    rw [hmemory]
    exact slice_overwrite_self _ _ _

/-- Setup sectors that are stored over those of the booted file leave its boot
state exactly when they agree with them. -/
theorem withSetup_boots_iff {file : List UInt8} {machine : VirtualMachine}
    (h : BootsFile file machine) (data : List UInt8) :
    BootsFile file (withSetup data machine) ↔
      (isBzimage file → Agree (setupSectors file) (setupSectors data)) := by
  have hbelow := setupSectors_below data
  have hmemory : (withSetup data machine).guestMemory.byte=
      overwrite machine.guestMemory.byte setupSectorsAddr.toNat (setupSectors data) := rfl
  have hsectors : isBzimage file →
      (slice (withSetup data machine).guestMemory.byte setupSectorsAddr.toNat
        (setupSectors file).length=setupSectors file ↔
      Agree (setupSectors file) (setupSectors data)) := by
    intro hb
    rw [hmemory,← overwrite_held (h.sectors hb),slice_overwrite_later (le_refl _)]
    simp only [Nat.sub_self,Nat.zero_add]
    exact ⟨fun hall i hf hs => hall i hs hf,fun hall i hs hf => hall i hf hs⟩
  constructor
  · intro hafter hb
    exact (hsectors hb).mp (hafter.sectors hb)
  · intro hagree
    refine ⟨h.mode,h.header,?_,fun hb => (hsectors hb).mpr (hagree hb),
      setupBoot_protocol h.mode h.header⟩
    rw [hmemory,slice_overwrite_separate (by unfold Separate; omega)]
    exact h.kernel

/-- A load is that of a raw kernel that fits, or that of a stranded bzImage, or
it is orderly. -/
theorem orderly_cases (session : Session) (file : FileAnswer) :
    (∃ data, file=.content data ∧ ¬isBzimage data ∧
      Fits session.machine.guestMemory kernelLoadAddr data.length) ∨
    (∃ data, file=.content data ∧ Stranded data session.machine.guestMemory) ∨
    ((∀ data, file=.content data → ¬isBzimage data →
        ¬Fits session.machine.guestMemory kernelLoadAddr data.length) ∧
      (∀ data, file=.content data → ¬Stranded data session.machine.guestMemory) ∧
      Orderly session file) := by
  by_cases hraw : ∃ data, file=.content data ∧ ¬isBzimage data ∧
      Fits session.machine.guestMemory kernelLoadAddr data.length
  · exact Or.inl hraw
  · by_cases hstranded : ∃ data, file=.content data ∧ Stranded data session.machine.guestMemory
    · exact Or.inr (Or.inl hstranded)
    · have hnone : ∀ data, file=.content data → ¬isBzimage data →
          ¬Fits session.machine.guestMemory kernelLoadAddr data.length :=
        fun data hfile hb hf => hraw ⟨data,hfile,hb,hf⟩
      have hwhole : ∀ data, file=.content data → ¬Stranded data session.machine.guestMemory :=
        fun data hfile hs => hstranded ⟨data,hfile,hs⟩
      refine Or.inr (Or.inr ⟨hnone,hwhole,?_,?_⟩)
      · intro data hfile hb hf
        exact absurd hf (hnone data hfile hb)
      · intro data _ hfile hs
        exact absurd hs (hwhole data hfile)

/-- A loaded raw kernel keeps the boot state with the last file exactly when the
load is orderly. -/
theorem raw_follows_iff {session : Session} {data : List UInt8} (hb : ¬isBzimage data)
    (hf : Fits session.machine.guestMemory kernelLoadAddr data.length) :
    Session.Follows ⟨withRaw data session.machine,some data⟩ ↔
      Orderly session (.content data) := by
  constructor
  · intro h
    have hmode := (withRaw_boots_iff hb session.machine).mp (h.behind data rfl)
    refine ⟨fun _ _ _ _ => hmode,fun other _ hfile hs => ?_⟩
    cases hfile
    exact absurd hs.image hb
  · intro h
    have hmode := h.raw data rfl hb hf
    refine ⟨fun hnone => (by cases hnone),fun file hlast => ?_⟩
    cases hlast
    exact (withRaw_boots_iff hb session.machine).mpr hmode

/-- So does a stranded bzImage. -/
theorem stranded_follows_iff {session : Session} {data : List UInt8} (hs : session.Follows)
    (hd : Stranded data session.machine.guestMemory) :
    Session.Follows ⟨withSetup data session.machine,session.last⟩ ↔
      Orderly session (.content data) := by
  constructor
  · intro h
    refine ⟨fun other hfile hb => ?_,fun other held hfile _ hlast hb => ?_⟩
    · cases hfile
      exact absurd hd.image hb
    · cases hfile
      exact (withSetup_boots_iff (hs.behind held hlast) data).mp (h.behind held hlast) hb
  · intro h
    refine ⟨hs.before,fun held hlast => ?_⟩
    exact (withSetup_boots_iff (hs.behind held hlast) data).mpr
      (h.sectors data held rfl hd hlast)

/-- One load keeps the boot state with the last file exactly when it is orderly. -/
theorem load_follows_iff {session next : Session} {call : String×FileAnswer}
    (hs : session.Follows) (h : session.load call=some next) :
    next.Follows ↔ Orderly session call.2 := by
  obtain ⟨path,file⟩ := call
  obtain ⟨data,rfl,hb,hf⟩ | ⟨data,rfl,hd⟩ | ⟨hnone,hwhole,horderly⟩ := orderly_cases session file
  · rw [load_of_ok (loadKernel_stores hb hf path)] at h
    cases h
    exact raw_follows_iff hb hf
  · rw [load_of_error (loadKernel_stranded hd path)] at h
    cases h
    exact stranded_follows_iff hs hd
  · refine iff_of_true ?_ horderly
    obtain ⟨cause,hr⟩ | ⟨data,rfl,hcase⟩ := loadKernel_cases path file session.machine
    · rw [load_of_error hr] at h
      cases h
      exact hs
    · obtain ⟨hb,hf,-⟩ | ⟨hb,ha,hfirst,hsecond,-⟩ | ⟨-,hr⟩ | ⟨hb,-,-,hr⟩ := hcase
      · exact absurd hf (hnone data rfl hb)
      · exact absurd ⟨hb,ha,hfirst,hsecond⟩ (hwhole data rfl)
      · rw [load_of_panic hr] at h
        cases h
      · rw [load_of_ok hr] at h
        cases h
        refine ⟨fun hl => (by cases hl),fun file hlast => ?_⟩
        cases hlast
        exact withBzimage_boots hb session.machine

/-- A load that panics is orderly. -/
theorem load_none_orderly {session : Session} {call : String×FileAnswer}
    (h : session.load call=none) : Orderly session call.2 := by
  obtain ⟨path,file⟩ := call
  obtain ⟨data,rfl,hb,hf⟩ | ⟨data,rfl,hd⟩ | ⟨-,-,horderly⟩ := orderly_cases session file
  · rw [load_of_ok (loadKernel_stores hb hf path)] at h
    cases h
  · rw [load_of_error (loadKernel_stranded hd path)] at h
    cases h
  · exact horderly

/-- A created machine follows: no kernel is loaded, and it is in its 64-bit mode. -/
theorem created_follows {kvm : KvmAnswers} {host : HostAnswers} {config : DeviceConfig}
    {machine : VirtualMachine} (h : VirtualMachine.new kvm host config=.ok machine) :
    Session.Follows ⟨machine,none⟩ :=
  ⟨fun _ => (new_created h).raw,fun _ hlast => by cases hlast⟩

/-- Along every sequence of loads into a created machine the boot state is that
of the last loaded file exactly when all loads are orderly: no raw kernel is
loaded after a bzImage, and no stranded bzImage changes the setup sectors of a
loaded one. -/
theorem boot_follows_last_iff {kvm : KvmAnswers} {host : HostAnswers} {config : DeviceConfig}
    {machine : VirtualMachine} (hnew : VirtualMachine.new kvm host config=.ok machine)
    (calls : List (String×FileAnswer)) :
    (∀ first rest session, calls=first++rest →
      run Session.load ⟨machine,none⟩ first=some session → session.Follows) ↔
      ∀ visit∈visits Session.load ⟨machine,none⟩ calls, Orderly visit.1 visit.2.2 := by
  have hstep : ∀ session call next, session.Follows → Session.load session call=some next →
      (next.Follows ↔ Orderly session call.2) := by
    intro session call next hs h
    exact load_follows_iff hs h
  have hend : ∀ session call, Session.load session call=none → Orderly session call.2 := by
    intro session call h
    exact load_none_orderly h
  exact invariant_iff hstep hend calls ⟨machine,none⟩ (created_follows hnew)

/-- A sample bzImage that reaches the end of its header is loaded into a machine
of the minimum RAM size. -/
theorem sampleImage_loads {machine : VirtualMachine}
    (h : 0x200000 ≤ machine.guestMemory.size.toNat) (path : String) :
    loadKernel path (.content (sampleImage 0x290)) machine=
      .ok () (withBzimage (sampleImage 0x290) machine) := by
  have hlength : (sampleImage 0x290).length=0x290 := by decide +kernel
  refine loadKernel_loads (by decide +kernel) (by decide +kernel) (by rw [hlength]) ?_ path
  rw [hlength]
  omega

/-- A raw kernel and then a bzImage, loaded into a machine of the minimum RAM
size: the boot state follows. -/
theorem boot_follows_last_iff_raw_first :
    ∃ machine, VirtualMachine.new willingKvm willingHost (plainConfig minRamMb)=.ok machine ∧
      ∀ first rest session,
        [("raw",.content (List.replicate 64 0)),("image",.content (sampleImage 0x290))]=first++rest →
        run Session.load ⟨machine,none⟩ first=some session → session.Follows := by
  obtain ⟨machine,hnew⟩ : ∃ machine, VirtualMachine.new willingKvm willingHost
      (plainConfig minRamMb)=.ok machine := ⟨_,rfl⟩
  have hcreated := new_created hnew
  have hb : isBzimage (sampleImage 0x290) := by decide +kernel
  have hsize : 0x200000 ≤ machine.guestMemory.size.toNat := by
    rw [hcreated.size]
    decide
  have hfits : Fits machine.guestMemory kernelLoadAddr (List.replicate 64 (0 : UInt8)).length := by
    unfold Fits
    refine le_trans ?_ hsize
    decide
  have hload := @load_of_ok ⟨machine,none⟩ _ _ _ (loadKernel_stores (zeros_raw 64) hfits "raw")
  have hsecond := @load_of_ok ⟨withRaw (List.replicate 64 0) machine,some (List.replicate 64 0)⟩
    _ _ _ (@sampleImage_loads (withRaw (List.replicate 64 0) machine) hsize "image")
  refine ⟨machine,hnew,(boot_follows_last_iff hnew _).mpr ?_⟩
  intro visit hvisit
  rw [visits_cons hload,visits_cons hsecond] at hvisit
  rcases List.mem_cons.mp hvisit with rfl | hlater
  · refine ⟨fun _ _ _ _ => hcreated.raw,fun _ _ _ _ hlast => ?_⟩
    cases hlast
  · obtain rfl := List.mem_singleton.mp hlater
    refine ⟨fun data hfile hraw => ?_,fun data held _ _ hheld hbz => ?_⟩
    · cases hfile
      exact absurd hb hraw
    · cases hheld
      exact absurd hbz (zeros_raw 64)

/-- A raw kernel that was loaded over a bzImage boots by the 32-bit protocol with
the header of that bzImage. -/
theorem withRaw_stale {image : List UInt8} (hl : 0x290 ≤ image.length) (data : List UInt8)
    {machine : VirtualMachine} (hc : machine.config.kernelCmdline.length+1 ≤ 0x800)
    (hv : machine.vcpus≠[]) (hm : Reaches 0x100000 machine.guestMemory) :
    ∃ booted vcpu regs, setupBoot willingVcpu (withRaw data (withBzimage image machine))=
        .ok () booted ∧
      zeroPage booted.guestMemory=bootParams (setupHeader image)
        machine.config.kernelCmdline.length machine.initramfsSize ∧
      booted.vcpus.head?=some vcpu ∧ vcpu.regs=bzimageEntry regs := by
  obtain ⟨booted,hboot⟩ := @setupBoot_bzimage_returns (withRaw data (withBzimage image machine)) rfl
    (setupHeader_length hl) hc hv hm
  obtain ⟨memory,vcpu,rest,sregs,regs,hbooted,hcase⟩ := setupBoot_cases hboot
  obtain ⟨-,hmemory,-,hregs⟩ | ⟨hraw,-⟩ := hcase
  · refine ⟨booted,vcpu,regs,hboot,?_,?_,hregs⟩
    · rw [hbooted]
      exact (setupBzimageMemory_holds hmemory).1
    · rw [hbooted]
      rfl
  · cases hraw

/-- A bzImage and then a raw kernel, loaded into a machine of the minimum RAM
size: boot setup still runs the 32-bit protocol, with the header of the file
that was loaded first. -/
theorem raw_boots_as_bzimage :
    ∃ machine session booted vcpu regs,
      VirtualMachine.new willingKvm willingHost (plainConfig minRamMb)=.ok machine ∧
      run Session.load ⟨machine,none⟩
        [("image",.content (sampleImage 0x290)),("raw",.content (List.replicate 64 0))]=
        some session ∧
      session.last=some (List.replicate 64 0) ∧ ¬isBzimage (List.replicate 64 0) ∧
      setupBoot willingVcpu session.machine=.ok () booted ∧
      zeroPage booted.guestMemory=bootParams (setupHeader (sampleImage 0x290))
        machine.config.kernelCmdline.length machine.initramfsSize ∧
      booted.vcpus.head?=some vcpu ∧ vcpu.regs=bzimageEntry regs ∧ ¬session.Follows := by
  obtain ⟨machine,hnew⟩ : ∃ machine, VirtualMachine.new willingKvm willingHost
      (plainConfig minRamMb)=.ok machine := ⟨_,rfl⟩
  have hcreated := new_created hnew
  have hsize : 0x200000 ≤ machine.guestMemory.size.toNat := by
    rw [hcreated.size]
    decide
  have hfits : Fits (withBzimage (sampleImage 0x290) machine).guestMemory kernelLoadAddr
      (List.replicate 64 (0 : UInt8)).length := by
    change kernelLoadAddr.toNat+(List.replicate 64 (0 : UInt8)).length ≤
      machine.guestMemory.size.toNat
    refine le_trans ?_ hsize
    decide
  have hfirst := @load_of_ok ⟨machine,none⟩ _ _ _ (sampleImage_loads hsize "image")
  have hsecond := @load_of_ok ⟨withBzimage (sampleImage 0x290) machine,some (sampleImage 0x290)⟩
    _ _ _ (loadKernel_stores (zeros_raw 64) hfits "raw")
  have hcmdline : machine.config.kernelCmdline.length+1 ≤ 0x800 := by
    rw [hcreated.config_eq]
    decide
  obtain ⟨booted,vcpu,regs,hboot,hpage,hhead,hregs⟩ := withRaw_stale
    (by decide +kernel : 0x290 ≤ (sampleImage 0x290).length) (List.replicate 64 0) hcmdline
    hcreated.vcpus (le_trans (by decide) hsize)
  refine ⟨machine,_,booted,vcpu,regs,hnew,(run_cons hfirst _).trans (run_cons hsecond []),rfl,
    zeros_raw 64,hboot,hpage,hhead,hregs,?_⟩
  intro h
  have hmode := (h.behind _ rfl).mode
  rw [decide_eq_false (zeros_raw 64)] at hmode
  cases hmode

end LiteDroid.VmmBootModes
