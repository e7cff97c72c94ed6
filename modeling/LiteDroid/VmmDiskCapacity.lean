import LiteDroid.VmmRequestEffects

/-!
# The advertised capacity and the backing file

The image's size is taken once, when it is opened, and the guest reads the
whole sectors of it as the capacity. The write path never consults either: it
passes the guest's sector and length on to the host, which extends the file. A
run stays inside the capacity exactly when no accepted write reaches past it.
-/

namespace LiteDroid.VmmDiskCapacity

open CoreResults MemoryRegion StorageImage VmmBlockDevice VmmQueueLayout VmmBlockRequest
open VmmDiskStore VmmBlockQueue VmmBlockRuns VmmRequestEffects LittleEndian ByteRange StepRun

/-- The bytes of an image's whole sectors. -/
def capacity (disk : RawDiskImage) : ℕ := disk.sectors.toNat*512

/-- The guest reads the sectors of the capacity at offset 0x100. -/
theorem register_capacity (device : VirtioBlock) :
    (device.register 0x100).toNat*512=capacity device.disk := rfl

/-- The capacity does not exceed the image. -/
theorem capacity_le (disk : RawDiskImage) : capacity disk ≤ disk.size.toNat := by
  rw [capacity,RawDiskImage.sectors,sectorSize,UInt64.toNat_div]
  exact Nat.div_mul_le_self _ _

/-- Every byte that a store writes to the disk lies inside a capacity. -/
def InCapacity (bytes : ℕ) : Store → Prop
  | .guest _ _ => True
  | .disk offset data => ∀ i < data.length, offset.toNat+i < bytes

/-- A file has the length of the image, and past a capacity it holds what it
held when it was opened. -/
structure Within (disk : RawDiskImage) (opened file : HostFile) : Prop where
  /-- The length found when the image was opened. -/
  length : file.length=disk.size.toNat
  /-- The bytes at and beyond the capacity. -/
  beyond : ∀ a, capacity disk ≤ a → file.byte a=opened.byte a

/-- An accepted write of some bytes that ends past the capacity. -/
def Overruns (profile : Profile) (device : VirtioBlock) (head : UInt16) (world : World) : Prop :=
  ∃ chain, walkChain profile device.queueNum world.memory device.queue head=.ok chain ∧
    chain.requestType=1 ∧ Transferable profile chain world ∧ chain.payloadLen≠0 ∧
    capacity device.disk < (byteOffset chain).toNat+chain.payloadLen.toNat

/-- Publishing a request stores nothing on the disk and keeps the file. -/
theorem pushUsed_disk (queueNum : UInt16) (queue : UInt64) (head : UInt16) (payloadLen : UInt32)
    (world : World) (done : List Store) :
    (pushUsed queueNum queue head payloadLen world done).stores.filter Store.toDisk=
        done.filter Store.toDisk ∧
      (pushUsed queueNum queue head payloadLen world done).world.file=world.file := by
  unfold pushUsed
  dsimp only
  split
  · exact ⟨rfl,rfl⟩
  · split
    · exact ⟨rfl,rfl⟩
    · split
      · exact ⟨rfl,rfl⟩
      · split
        · simp [Store.toDisk]
        · split <;> simp [Store.toDisk]

/-- An accepted request does to the disk what its data transfer does, whether
or not it is completed afterwards. -/
theorem serve_accepted {profile : Profile} {device : VirtioBlock} {head : UInt16} {world : World}
    {chain : Chain}
    (hc : walkChain profile device.queueNum world.memory device.queue head=.ok chain)
    (ht : Transferable profile chain world) :
    (serve profile device head world).stores.filter Store.toDisk=
        (deliveredStores chain world).filter Store.toDisk ∧
      (serve profile device head world).world.file=(delivered chain world).file := by
  unfold serve processRequest
  rw [hc]
  dsimp only
  rw [transfer_ok_iff.mpr ⟨ht,rfl⟩]
  dsimp only
  split
  · exact ⟨rfl,rfl⟩
  · rename_i memory _
    obtain ⟨hstores,hfile⟩ := pushUsed_disk device.queueNum device.queue head chain.payloadLen
      {delivered chain world with memory := memory}
      (deliveredStores chain world++[.guest chain.statusAddr [statusOf chain]])
    rw [hstores,hfile,List.filter_append]
    exact ⟨List.append_nil _,rfl⟩

/-- A refused request leaves no trace. -/
theorem serve_refused {profile : Profile} {device : VirtioBlock} {head : UInt16} {world : World}
    (h : ¬∃ chain, walkChain profile device.queueNum world.memory device.queue head=.ok chain ∧
      Transferable profile chain world) :
    (serve profile device head world).stores=[] ∧
      (serve profile device head world).world=world := by
  obtain ⟨fault,-,hr⟩ | ⟨chain,hc,hcase⟩ := processRequest_cases profile device head world
  · rw [serve,hr]
    exact ⟨rfl,rfl⟩
  · have hn : ¬Transferable profile chain world := fun ht => h ⟨chain,hc,ht⟩
    obtain ⟨fault,-,-,hr⟩ | ⟨ht,-,-⟩ | ⟨cause,memory,stores,ht,-⟩ | ⟨ht,-,-⟩ := hcase
    · rw [serve,hr]
      exact ⟨rfl,rfl⟩
    · exact absurd ht hn
    · exact absurd ht hn
    · exact absurd ht hn

/-- A request writes the payload of an accepted write to the disk, or does not
touch the disk. -/
theorem serve_disk (profile : Profile) (device : VirtioBlock) (head : UInt16) (world : World) :
    ((serve profile device head world).stores.filter Store.toDisk=[] ∧
      (serve profile device head world).world.file=world.file ∧
      ¬Overruns profile device head world) ∨
    ∃ chain, walkChain profile device.queueNum world.memory device.queue head=.ok chain ∧
      chain.requestType=1 ∧ Transferable profile chain world ∧
      (serve profile device head world).stores.filter Store.toDisk=
        [.disk (byteOffset chain) (writeBytes chain world)] ∧
      (serve profile device head world).world.file=
        stored world.file (byteOffset chain).toNat (writeBytes chain world) := by
  by_cases h : ∃ chain, walkChain profile device.queueNum world.memory device.queue head=.ok chain ∧
      Transferable profile chain world
  · obtain ⟨chain,hc,ht⟩ := h
    obtain ⟨hstores,hfile⟩ := serve_accepted hc ht
    rw [hstores,hfile]
    by_cases h1 : chain.requestType=1
    · have h0 : ¬(1 : UInt32)=0 := by decide
      refine Or.inr ⟨chain,hc,h1,ht,?_,?_⟩
      · simp only [deliveredStores,h1,h0,if_false,if_true]
        rfl
      · simp only [delivered,h1,h0,if_false,if_true]
    · refine Or.inl ⟨?_,delivered_file world h1,?_⟩
      · unfold deliveredStores
        split_ifs
        · rfl
        · rfl
      · rintro ⟨other,hw,hone,-⟩
        rw [hc] at hw
        obtain rfl := Except.ok.inj hw
        exact h1 hone
  · obtain ⟨hstores,hworld⟩ := serve_refused h
    rw [hstores,hworld]
    refine Or.inl ⟨rfl,rfl,?_⟩
    rintro ⟨chain,hc,-,ht,-⟩
    exact h ⟨chain,hc,ht⟩

/-- A store list stays inside a capacity exactly when its disk stores do. -/
theorem inCapacity_filter (bytes : ℕ) (stores : List Store) :
    (∀ s∈stores, InCapacity bytes s) ↔
      ∀ s∈stores.filter Store.toDisk, InCapacity bytes s := by
  constructor
  · intro h s hs
    exact h s (List.mem_of_mem_filter hs)
  · intro h s hs
    cases s with
    | guest addr data => trivial
    | disk offset data => exact h _ (List.mem_filter.mpr ⟨hs,rfl⟩)

/-- A write lies inside a capacity exactly when it is empty or ends there. -/
theorem inCapacity_write (bytes : ℕ) (chain : Chain) (world : World) :
    InCapacity bytes (.disk (byteOffset chain) (writeBytes chain world)) ↔
      (chain.payloadLen≠0 → (byteOffset chain).toNat+chain.payloadLen.toNat ≤ bytes) := by
  have hlength : (writeBytes chain world).length=chain.payloadLen.toNat := slice_length _ _ _
  rw [InCapacity,hlength]
  constructor
  · intro h hne
    have hpos : chain.payloadLen.toNat≠0 := fun hz => hne (UInt32.toNat_inj.mp hz)
    have hlast := h (chain.payloadLen.toNat-1) (by omega)
    omega
  · intro h i hi
    have hne : chain.payloadLen≠0 := by
      rintro hz
      rw [hz] at hi
      exact absurd hi (Nat.not_lt_zero i)
    have hend := h hne
    omega

/-- A request's stores stay inside the capacity exactly when it does not overrun. -/
theorem serve_inCapacity_iff (profile : Profile) (device : VirtioBlock) (head : UInt16)
    (world : World) :
    (∀ s∈(serve profile device head world).stores, InCapacity (capacity device.disk) s) ↔
      ¬Overruns profile device head world := by
  rw [inCapacity_filter]
  obtain ⟨hstores,-,hover⟩ | ⟨chain,hc,h1,ht,hstores,-⟩ := serve_disk profile device head world
  · rw [hstores]
    exact ⟨fun _ => hover,fun _ => List.forall_mem_nil _⟩
  · rw [hstores,List.forall_mem_singleton,inCapacity_write]
    constructor
    · rintro h ⟨other,hw,-,-,hne,hlt⟩
      rw [hc] at hw
      obtain rfl := Except.ok.inj hw
      exact absurd (h hne) (by omega)
    · intro h hne
      by_contra hlt
      exact h ⟨chain,hc,h1,ht,hne,by omega⟩

/-- A request that does not overrun keeps the length of the file and what lies
past the capacity. -/
theorem serve_within {profile : Profile} {device : VirtioBlock} {head : UInt16} {world : World}
    {opened : HostFile} (hover : ¬Overruns profile device head world)
    (h : Within device.disk opened world.file) :
    Within device.disk opened (serve profile device head world).world.file := by
  obtain ⟨-,hfile,-⟩ | ⟨chain,hc,h1,ht,hstores,hfile⟩ := serve_disk profile device head world
  · rw [hfile]
    exact h
  · have hin := (serve_inCapacity_iff profile device head world).mpr hover
    rw [inCapacity_filter,hstores,List.forall_mem_singleton,inCapacity_write] at hin
    have hlength : (writeBytes chain world).length=chain.payloadLen.toNat := slice_length _ _ _
    have hcap := capacity_le device.disk
    have hsize := h.length
    rw [hfile]
    by_cases hz : chain.payloadLen=0
    · have hnil : writeBytes chain world=[] := by
        apply List.length_eq_zero_iff.mp
        rw [hlength,hz]
        rfl
      rw [hnil,stored,if_pos rfl]
      exact h
    · have hend := hin hz
      refine ⟨?_,?_⟩
      · rw [stored_length (by rw [hlength]; omega)]
        exact hsize
      · intro a ha
        rw [stored_byte,overwrite_outside (by rw [hlength]; omega)]
        exact h.beyond a ha

/-- A pass whose calls do not overrun keeps the file inside the capacity. -/
theorem serveLoop_within (profile : Profile) (availIdx : UInt16) (device : VirtioBlock)
    (world : World) (opened : HostFile) :
    (∀ call∈(serveLoop profile availIdx device world).calls,
      ¬Overruns profile device call.head call.before) →
    Within device.disk opened world.file →
      Within device.disk opened (serveLoop profile availIdx device world).world.file := by
  induction device, world using serveLoop_induction profile availIdx with
  | done device world h =>
    intro _ hw
    rw [serveLoop_done h]
    exact hw
  | zero device world h hn =>
    intro _ hw
    rw [serveLoop_zero h hn]
    exact hw
  | unread device world fault h hn hh =>
    intro _ hw
    rw [serveLoop_unread h hn hh]
    exact hw
  | fails device world head fault h hn hh hr =>
    intro hover hw
    rw [serveLoop_fault h hn hh hr] at hover ⊢
    dsimp only at hover ⊢
    rw [List.forall_mem_singleton] at hover
    exact serve_within hover hw
  | passes device world head h hn hh hr ih =>
    intro hover hw
    rw [serveLoop_pass h hn hh hr] at hover ⊢
    dsimp only at hover ⊢
    rw [List.forall_mem_cons] at hover
    exact ih hover.2 (serve_within hover.1 hw)

/-- A pass keeps the image. -/
theorem serveLoop_image (profile : Profile) (availIdx : UInt16) (device : VirtioBlock)
    (world : World) : (serveLoop profile availIdx device world).device.disk=device.disk := by
  induction device, world using serveLoop_induction profile availIdx with
  | done device world h => rw [serveLoop_done h]
  | zero device world h hn => rw [serveLoop_zero h hn]
  | unread device world fault h hn hh => rw [serveLoop_unread h hn hh]
  | fails device world head fault h hn hh hr => rw [serveLoop_fault h hn hh hr]
  | passes device world head h hn hh hr ih =>
    rw [serveLoop_pass h hn hh hr]
    exact ih

/-- An event whose calls do not overrun keeps the file inside the capacity. -/
theorem handle_within {profile : Profile} {machine : BlockMachine} {event : GuestEvent}
    {opened : HostFile}
    (hover : ∀ call∈eventCalls profile machine event,
      ¬Overruns profile machine.device call.head call.before)
    (h : Within machine.device.disk opened machine.world.file) :
    Within machine.device.disk opened (handle profile machine event).machine.world.file := by
  obtain ⟨_,_,_,hfile⟩ | ⟨hcalls,hmachine⟩ := handle_pass profile machine event
  · rw [hfile]
    exact h
  · rw [hcalls] at hover
    rw [hmachine]
    dsimp only
    unfold processQueue at hover ⊢
    split at hover
    · exact h
    · exact serveLoop_within profile _ machine.device machine.world opened hover h

/-- An event keeps the image. -/
theorem handle_image (profile : Profile) (machine : BlockMachine) (event : GuestEvent) :
    (handle profile machine event).machine.device.disk=machine.device.disk := by
  obtain ⟨_,_,hdisk,_⟩ | ⟨_,hmachine⟩ := handle_pass profile machine event
  · exact hdisk
  · rw [hmachine]
    dsimp only
    unfold processQueue
    split
    · rfl
    · exact serveLoop_image profile _ machine.device machine.world

/-- In every run of a device over an image that was opened at its file's
length, the file keeps that length, nothing at or beyond the capacity changes
and no store reaches there, exactly when no call of the run overruns. -/
theorem disk_within_capacity_iff (profile : Profile) (disk : RawDiskImage) (world : World)
    (events : List GuestEvent) (hopen : world.file.length=disk.size.toNat) :
    (∀ visit∈visits (step profile) (fresh disk world) events,
      Within disk world.file visit.1.world.file ∧
      Within disk world.file (handle profile visit.1 visit.2).machine.world.file ∧
      ∀ call∈eventCalls profile visit.1 visit.2, ∀ s∈call.report.stores,
        InCapacity ((visit.1.device.register 0x100).toNat*512) s) ↔
    ∀ visit∈visits (step profile) (fresh disk world) events,
      ∀ call∈eventCalls profile visit.1 visit.2,
        ¬Overruns profile visit.1.device call.head call.before := by
  constructor
  · intro h visit hv call hm
    obtain ⟨-,-,hstores⟩ := h visit hv
    have hcall := hstores call hm
    rw [eventCalls_report hm,register_capacity] at hcall
    exact (serve_inCapacity_iff profile visit.1.device call.head call.before).mp hcall
  · intro h visit hv
    have hinv : visit.1.device.disk=disk ∧ Within disk world.file visit.1.world.file := by
      refine @visits_invariant _ _ (step profile)
        (fun machine => machine.device.disk=disk ∧ Within disk world.file machine.world.file)
        (fun machine event => ∀ call∈eventCalls profile machine event,
          ¬Overruns profile machine.device call.head call.before)
        ?_ events (fresh disk world) ⟨rfl,hopen,fun _ _ => rfl⟩ h visit hv
      rintro machine event next ⟨hdisk,hwithin⟩ hgood hstep
      rw [step_machine hstep,handle_image]
      rw [← hdisk] at hwithin
      have hnext := handle_within hgood hwithin
      rw [hdisk] at hnext
      exact ⟨hdisk,hnext⟩
    obtain ⟨hdisk,hwithin⟩ := hinv
    have hhere : Within visit.1.device.disk world.file visit.1.world.file := by
      rw [hdisk]
      exact hwithin
    have hnext := handle_within (h visit hv) hhere
    rw [hdisk] at hnext
    refine ⟨hwithin,hnext,?_⟩
    intro call hm
    rw [eventCalls_report hm,register_capacity]
    exact (serve_inCapacity_iff profile visit.1.device call.head call.before).mpr (h visit hv call hm)

/-- A notification whose one pending request is completed makes that call. -/
theorem notify_pass {profile : Profile} {device : VirtioBlock} {world : World}
    {availIdx head : UInt16} (hp : device.queuePfn≠0)
    (hi : guestU16 world.memory (device.queue+2)=.ok availIdx) (h : device.lastAvail≠availIdx)
    (hlast : device.advance.lastAvail=availIdx)
    (hn : device.queueNum≠0) (hh : guestU16 world.memory device.headAddr=.ok head)
    (hr : (serve profile device head world).outcome=.ok ()) :
    (handle profile ⟨device,world⟩ (registerWrite 0x50 0)).machine.world=
        (serve profile device head world).world ∧
      eventCalls profile ⟨device,world⟩ (registerWrite 0x50 0)=
        [⟨device.lastAvail,head,world,serve profile device head world⟩] := by
  have hpass : processQueue profile device world=
      ⟨.ok (),device.advance,(serve profile device head world).world,some availIdx,
        [⟨device.lastAvail,head,world,serve profile device head world⟩]⟩ := by
    unfold processQueue
    rw [hi]
    dsimp only
    rw [serveLoop_pass h hn hh hr,serveLoop_done hlast]
  have hwrite := handle_notify hp (by rw [hpass]; exact noPanic_ok ())
  unfold eventCalls
  rw [hwrite,hpass]
  exact ⟨rfl,rfl⟩

/-- The events of a guest that sets up a queue of four entries and notifies it. -/
def setUpAndNotify : List GuestEvent :=
  [registerWrite 0x38 4,registerWrite 0x40 1,registerWrite 0x50 0]

/-- The three visits of that guest over an image of one sector. -/
theorem setUpAndNotify_visits (world : World) :
    visits (step .release) (fresh ⟨512⟩ world) setUpAndNotify=
      [(fresh ⟨512⟩ world,registerWrite 0x38 4),
        (⟨⟨⟨512⟩,4,0,0,0⟩,world⟩,registerWrite 0x40 1),
        (⟨smallDevice,world⟩,registerWrite 0x50 0)] := by
  have hsize : step .release (fresh ⟨512⟩ world) (registerWrite 0x38 4)=
      some ⟨⟨⟨512⟩,4,0,0,0⟩,world⟩ := rfl
  have hpage : step .release ⟨⟨⟨512⟩,4,0,0,0⟩,world⟩ (registerWrite 0x40 1)=
      some ⟨smallDevice,world⟩ := rfl
  simp only [setUpAndNotify,visits,hsize,hpage]
  cases step .release ⟨smallDevice,world⟩ (registerWrite 0x50 0) with
  | none => rfl
  | some next => rfl

/-- The criterion applies to a write of three bytes to the first sector: the
file stays as long as it was. -/
theorem disk_within_capacity_iff_first :
    Within ⟨512⟩ blankImage (handle .release ⟨smallDevice,⟨batchMemory 1,blankImage⟩⟩
      (registerWrite 0x50 0)).machine.world.file := by
  have hvisits := setUpAndNotify_visits ⟨batchMemory 1,blankImage⟩
  have hchain : walkChain .release smallDevice.queueNum (batchMemory 1) smallDevice.queue 1=
      .ok ⟨1,0,0x3100,3,1,0x3200⟩ := by decide +kernel
  have hover : ¬Overruns .release smallDevice 1 ⟨batchMemory 1,blankImage⟩ := by
    rintro ⟨chain,hc,-,-,-,hlt⟩
    rw [hchain] at hc
    obtain rfl := Except.ok.inj hc
    exact absurd hlt (by decide)
  obtain ⟨-,hcalls⟩ := @notify_pass .release smallDevice ⟨batchMemory 1,blankImage⟩ 1 1
    (by decide) (by decide +kernel) (by decide) (by decide) (by decide) (by decide +kernel)
    (by decide +kernel)
  have hrun := (disk_within_capacity_iff .release ⟨512⟩ ⟨batchMemory 1,blankImage⟩ setUpAndNotify
    rfl).mpr
  rw [hvisits] at hrun
  refine (hrun ?_ _ (List.mem_cons_of_mem _ (List.mem_cons_of_mem _ List.mem_cons_self))).2.1
  intro visit hv call hm
  rcases List.mem_cons.mp hv with rfl | hv
  · cases hm
  rcases List.mem_cons.mp hv with rfl | hv
  · cases hm
  obtain rfl := List.mem_singleton.mp hv
  rw [hcalls] at hm
  obtain rfl := List.mem_singleton.mp hm
  exact hover

/-- A write of three bytes to the second sector of an image that has one. -/
def overrunWorld : World := ⟨store (batchMemory 1) 0x3008 (leBytes 8 1),blankImage⟩

/-- The write past the capacity is completed and the file has grown by three
bytes, all of them past the capacity. -/
theorem write_past_capacity_grows :
    (fresh ⟨512⟩ overrunWorld).device.register 0x100=1 ∧
      overrunWorld.file.length=512 ∧
      (serve .release smallDevice 1 overrunWorld).outcome=.ok () ∧
      (handle .release ⟨smallDevice,overrunWorld⟩ (registerWrite 0x50 0)).machine.world.file.length=
        515 ∧
      ¬∀ visit∈visits (step .release) (fresh ⟨512⟩ overrunWorld) setUpAndNotify,
        Within ⟨512⟩ overrunWorld.file visit.1.world.file ∧
        Within ⟨512⟩ overrunWorld.file (handle .release visit.1 visit.2).machine.world.file ∧
        ∀ call∈eventCalls .release visit.1 visit.2, ∀ s∈call.report.stores,
          InCapacity ((visit.1.device.register 0x100).toNat*512) s := by
  have hserve : (serve .release smallDevice 1 overrunWorld).outcome=.ok () := by decide +kernel
  obtain ⟨hworld,-⟩ := @notify_pass .release smallDevice overrunWorld 1 1
    (by decide) (by decide +kernel) (by decide) (by decide) (by decide) (by decide +kernel) hserve
  have hgrown : (handle .release ⟨smallDevice,overrunWorld⟩
      (registerWrite 0x50 0)).machine.world.file.length=515 := by
    rw [hworld]
    decide +kernel
  refine ⟨by decide,rfl,hserve,hgrown,?_⟩
  intro h
  rw [setUpAndNotify_visits] at h
  have hlength := (h _ (List.mem_cons_of_mem _ (List.mem_cons_of_mem _
    List.mem_cons_self))).2.1.length
  rw [hgrown] at hlength
  exact absurd hlength (by decide)

end LiteDroid.VmmDiskCapacity
