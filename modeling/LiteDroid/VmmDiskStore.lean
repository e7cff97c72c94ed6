import LiteDroid.VmmBlockRequest
import LiteDroid.WriteHistory

/-!
# The block device as a byte store

A session is a sequence of requests, each on a guest memory and a register
state of its own, sharing only the backing file. Against it stands the plain
history of the bytes the write requests took from their buffers. The file
follows that history byte for byte, so a read request delivers what was most
recently written at its disk offsets.
-/

namespace LiteDroid.VmmDiskStore

open CoreResults MemoryRegion StorageImage VmmBlockDevice VmmQueueLayout VmmBlockRequest
open ByteRange WriteHistory

/-- One request of a session, before it runs. -/
structure DiskCall where
  /-- The device's registers when the request runs. -/
  device : VirtioBlock
  /-- Head of the request's chain. -/
  head : UInt16
  /-- The guest memory it runs on. -/
  memory : GuestMemory

/-- The request a call describes, as the device's own walk finds it. -/
def DiskCall.chain (profile : Profile) (call : DiskCall) : Outcome Chain :=
  walkChain profile call.device.queueNum call.memory call.device.queue call.head

/-- One request of a session, with the file it found and its report. -/
structure DiskStep where
  /-- The request. -/
  call : DiskCall
  /-- The backing file before it ran. -/
  before : HostFile
  /-- Its result and effects. -/
  report : RequestReport

/-- Run the requests of a session in order over one backing file. -/
def serveAll (profile : Profile) (file : HostFile) : List DiskCall → List DiskStep
  | [] => []
  | call::rest =>
    let report := processRequest profile call.device call.device.queue call.head ⟨call.memory,file⟩
    ⟨call,file,report⟩::serveAll profile report.world.file rest

/-- The bytes a step of the session wrote to the disk, at their natural offset. -/
def DiskStep.writes (profile : Profile) (step : DiskStep) : List (Write UInt8) :=
  match step.call.chain profile with
  | .error _ => []
  | .ok chain =>
    if chain.requestType=1 then
      [⟨chain.sector.toNat*512,
        slice step.call.memory.byte chain.payloadAddr.toNat chain.payloadLen.toNat⟩]
    else []

/-- The disk writes of a session, oldest first. -/
def history (profile : Profile) (steps : List DiskStep) : List (Write UInt8) :=
  steps.flatMap (DiskStep.writes profile)

/-- A request inside the disk whose payload meets neither its status byte nor
the used ring. -/
structure Placed (call : DiskCall) (chain : Chain) : Prop where
  /-- The request ends inside the disk. -/
  inside : chain.sector.toNat*512+chain.payloadLen.toNat ≤ call.device.disk.size.toNat
  /-- The payload buffer does not contain the status byte. -/
  status : Separate chain.payloadAddr.toNat chain.payloadLen.toNat chain.statusAddr.toNat 1
  /-- The payload buffer does not meet the used ring. -/
  used : Separate chain.payloadAddr.toNat chain.payloadLen.toNat
    (usedStart call.device) (4+8*call.device.queueNum.toNat)

/-- The selected used element is one of the ring. -/
theorem usedSlot_lt {device : VirtioBlock} (memory : GuestMemory) (hn : device.queueNum≠0) :
    (usedSlot device memory).toNat < device.queueNum.toNat := by
  have hp : 0 < device.queueNum.toNat := by
    rcases Nat.eq_zero_or_pos device.queueNum.toNat with h | h
    · exact absurd (UInt16.toNat_inj.mp h) hn
    · exact h
  unfold usedSlot
  rw [UInt16.toNat_mod]
  exact Nat.mod_lt _ hp

/-- Publishing a request changes nothing outside the used ring. -/
theorem slice_published {device : VirtioBlock} {head : UInt16} {payloadLen : UInt32}
    {memory : GuestMemory} {a len : ℕ} (hn : device.queueNum≠0)
    (hs : Separate a len (usedStart device) (4+8*device.queueNum.toNat)) :
    slice (published device head payloadLen memory).byte a len=slice memory.byte a len := by
  have hlt := usedSlot_lt memory hn
  simp only [published,store_byte]
  rw [slice_overwrite_separate (Separate.symm (hs.part (by omega) (by
      rw [LittleEndian.leBytes_length]; omega))),
    slice_overwrite_separate (Separate.symm (hs.part (by omega) (by
      rw [LittleEndian.leBytes_length]; omega))),
    slice_overwrite_separate (Separate.symm (hs.part (by omega) (by
      rw [LittleEndian.leBytes_length]; omega)))]

/-- A completed request was walked, moved and completed. -/
theorem processRequest_ok {profile : Profile} {device : VirtioBlock} {head : UInt16}
    {world : World}
    (h : (processRequest profile device device.queue head world).outcome=.ok ()) :
    ∃ chain, walkChain profile device.queueNum world.memory device.queue head=.ok chain ∧
      Transferable profile chain world ∧ Completable device chain world ∧
      (processRequest profile device device.queue head world).world=
        completed device head chain world := by
  obtain ⟨fault,-,hr⟩ | ⟨chain,hc,hcase⟩ := processRequest_cases profile device head world
  · rw [hr] at h
    cases h
  · obtain ⟨fault,-,-,hr⟩ | ⟨-,-,hr⟩ | ⟨cause,memory,stores,-,-,-,-,hr⟩ | ⟨ht,hm,hr⟩ := hcase
    · rw [hr] at h
      cases h
    · rw [hr] at h
      cases h
    · rw [hr] at h
      cases h
    · exact ⟨chain,hc,ht,hm,by rw [hr]⟩

/-- The offset of a request inside the disk is the natural product: nothing wraps. -/
theorem byteOffset_toNat {call : DiskCall} {chain : Chain} (h : Placed call chain) :
    (byteOffset chain).toNat=chain.sector.toNat*512 := by
  have hs := call.device.disk.size.toNat_lt
  have hi := h.inside
  simp only [byteOffset,UInt64.toNat_mul,UInt64.reduceToNat]
  omega

/-- A request that is not a write leaves the file as it was. -/
theorem delivered_file {chain : Chain} (world : World) (h : chain.requestType≠1) :
    (delivered chain world).file=world.file := by
  unfold delivered
  split_ifs with h0
  · rfl
  · rfl

/-- A completed request inside the disk appends its own writes to the history
of the file and keeps the file's length. -/
theorem step_file {profile : Profile} {image : HostFile} {past : List (Write UInt8)}
    {file : HostFile} {call : DiskCall} {chain : Chain} {world : World}
    (hw : world=⟨call.memory,file⟩) (hc : call.chain profile=.ok chain)
    (hp : Placed call chain) (hl : call.device.disk.size.toNat=file.length)
    (hf : file.byte=latest image.byte past) (report : RequestReport) :
    (delivered chain world).file.byte=
        latest image.byte (past++(DiskStep.mk call file report).writes profile) ∧
      (delivered chain world).file.length=file.length := by
  have ho := byteOffset_toNat hp
  have hi := hp.inside
  subst hw
  by_cases h1 : chain.requestType=1
  · have h0 : ¬(1 : UInt32)=0 := by decide
    have hd : (delivered chain ⟨call.memory,file⟩).file=
        stored file (chain.sector.toNat*512)
          (slice call.memory.byte chain.payloadAddr.toNat chain.payloadLen.toNat) := by
      simp only [delivered,h1,h0,if_false,if_true,ho,writeBytes]
    have hwr : (DiskStep.mk call file report).writes profile=
        [⟨chain.sector.toNat*512,
          slice call.memory.byte chain.payloadAddr.toNat chain.payloadLen.toNat⟩] := by
      simp only [DiskStep.writes,hc,h1,if_true]
    rw [hd,hwr,latest_append,stored_byte,hf]
    refine ⟨rfl,stored_length ?_⟩
    rw [slice_length]
    omega
  · have hwr : (DiskStep.mk call file report).writes profile=[] := by
      simp only [DiskStep.writes,hc,h1,if_false]
    rw [delivered_file _ h1,hwr,List.append_nil]
    exact ⟨hf,rfl⟩

/-- Every request of a session finds the file of the writes made before it. -/
theorem serveAll_before {profile : Profile} {image : HostFile} {disk : RawDiskImage} :
    ∀ (calls : List DiskCall) (file : HostFile) (past : List (Write UInt8)),
      disk.size.toNat=file.length → file.byte=latest image.byte past →
      (∀ call∈calls, call.device.disk=disk ∧
        ∀ chain, call.chain profile=.ok chain → Placed call chain) →
      (∀ step∈serveAll profile file calls, step.report.outcome=.ok ()) →
      ∀ earlier step later, serveAll profile file calls=earlier++step::later →
        step.before.byte=latest image.byte (past++history profile earlier) ∧
        step.before.length=disk.size.toNat ∧
        step.report=processRequest profile step.call.device step.call.device.queue step.call.head
          ⟨step.call.memory,step.before⟩ ∧
        step.call∈calls := by
  intro calls
  induction calls with
  | nil =>
    intro file past hl hf hp hok earlier step later h
    simp [serveAll] at h
  | cons call rest ih =>
    intro file past hl hf hp hok earlier step later h
    rw [serveAll] at h hok
    cases earlier with
    | nil =>
      rw [List.nil_append] at h
      obtain ⟨rfl,-⟩ := List.cons.inj h
      rw [history,List.flatMap_nil,List.append_nil]
      exact ⟨hf,hl.symm,rfl,List.mem_cons_self⟩
    | cons first earlier =>
      rw [List.cons_append] at h
      obtain ⟨rfl,hrest⟩ := List.cons.inj h
      obtain ⟨hdisk,hplaced⟩ := hp call List.mem_cons_self
      obtain ⟨chain,hc,-,-,hw⟩ := processRequest_ok (hok _ List.mem_cons_self)
      have hpl := hplaced chain hc
      have hstep := step_file rfl hc hpl (by rw [hdisk,hl]) hf
        (processRequest profile call.device call.device.queue call.head ⟨call.memory,file⟩)
      have hfile : (processRequest profile call.device call.device.queue call.head
          ⟨call.memory,file⟩).world.file=(delivered chain ⟨call.memory,file⟩).file := by
        rw [hw,completed_file]
      rw [← hfile] at hstep
      have hnext := ih _ (past++(DiskStep.mk call file _).writes profile)
        (by rw [hstep.2,hl]) hstep.1
        (fun other hm => hp other (List.mem_cons_of_mem _ hm))
        (fun other hm => hok other (List.mem_cons_of_mem _ hm)) earlier step later hrest
      obtain ⟨hb,hlen,hr,hm⟩ := hnext
      refine ⟨?_,hlen,hr,List.mem_cons_of_mem _ hm⟩
      simp only [history,List.flatMap_cons,List.append_assoc] at hb ⊢
      exact hb

/-- The payload of a completed read is exactly what the file held at its offsets. -/
theorem completed_payload {call : DiskCall} {chain : Chain} {file : HostFile}
    (hp : Placed call chain) (hl : file.length=call.device.disk.size.toNat)
    (hn : call.device.queueNum≠0) (h0 : chain.requestType=0) :
    slice (completed call.device call.head chain ⟨call.memory,file⟩).memory.byte
        chain.payloadAddr.toNat chain.payloadLen.toNat=
      slice file.byte (chain.sector.toNat*512) chain.payloadLen.toNat := by
  have ho := byteOffset_toNat hp
  have hi := hp.inside
  have hd : readBytes chain ⟨call.memory,file⟩=
      slice file.byte (chain.sector.toNat*512) chain.payloadLen.toNat := by
    unfold readBytes
    rw [ho]
    exact readable_of_le (by dsimp only; omega)
  rw [completed_memory,slice_published hn hp.used,acknowledged,world_memory,store_byte,
    slice_overwrite_separate (Separate.symm hp.status)]
  simp only [delivered,h0,if_true,store_byte,hd]
  have hs := slice_overwrite_self call.memory.byte chain.payloadAddr.toNat
    (slice file.byte (chain.sector.toNat*512) chain.payloadLen.toNat)
  rw [slice_length] at hs
  exact hs

/-- The block device is a faithful byte store. In every session of completed
requests inside the disk, whose payloads meet neither the status byte nor the
used ring, a read leaves in its buffer the bytes most recently written at its
disk offsets, and only write requests change the disk. -/
theorem disk_is_byte_store (profile : Profile) (image : HostFile) (disk : RawDiskImage)
    (calls : List DiskCall) (hsize : disk.size.toNat=image.length)
    (hplaced : ∀ call∈calls, call.device.disk=disk ∧
      ∀ chain, call.chain profile=.ok chain → Placed call chain)
    (hok : ∀ step∈serveAll profile image calls, step.report.outcome=.ok ())
    (earlier : List DiskStep) (step : DiskStep) (later : List DiskStep)
    (hs : serveAll profile image calls=earlier++step::later) :
    ∃ chain, step.call.chain profile=.ok chain ∧
      (chain.requestType=0 →
        slice step.report.world.memory.byte chain.payloadAddr.toNat chain.payloadLen.toNat=
          slice (latest image.byte (history profile earlier)) (chain.sector.toNat*512)
            chain.payloadLen.toNat) ∧
      (chain.requestType≠1 → step.report.world.file=step.before) := by
  obtain ⟨hb,hlen,hr,hm⟩ := serveAll_before calls image [] hsize (by rw [latest_nil]) hplaced hok
    earlier step later hs
  have hstep := hok step (by rw [hs]; simp)
  rw [hr] at hstep
  obtain ⟨chain,hc,-,-,hw⟩ := processRequest_ok hstep
  obtain ⟨hdisk,hp⟩ := hplaced step.call hm
  have hpl := hp chain hc
  rw [← hr] at hw
  rw [List.nil_append] at hb
  refine ⟨chain,hc,?_,?_⟩
  · intro h0
    rw [hw,← hb]
    exact completed_payload hpl (by rw [hlen,hdisk]) (walkChain_ok_size hc) h0
  · intro h1
    rw [hw,completed_file,delivered_file _ h1]

/-- A guest with a queue of four entries at its second page: one request of a
given type, flags, payload and status address, on the first sector. -/
def requestMemory (requestType : ℕ) (flags : ℕ) (payload : List UInt8) (status : ℕ) :
    GuestMemory :=
  filled
    [(0x1000,LittleEndian.leBytes 8 0x3000++LittleEndian.leBytes 4 16++[1,0,1,0]),
      (0x1010,LittleEndian.leBytes 8 0x3100++LittleEndian.leBytes 4 payload.length++
        LittleEndian.leBytes 2 flags++[2,0]),
      (0x1020,LittleEndian.leBytes 8 status++LittleEndian.leBytes 4 1++[2,0,0,0]),
      (0x3000,LittleEndian.leBytes 4 requestType),(0x3100,payload)]

/-- An image of one zeroed sector. -/
def blankImage : HostFile := ⟨512,fun _ => 0,fun _ _ => rfl⟩

/-- A device over that image with its queue at the second page. -/
def smallDevice : VirtioBlock := ⟨⟨512⟩,4,1,0,0⟩

/-- A write of three bytes to the first sector. -/
def storeCall : DiskCall := ⟨smallDevice,0,requestMemory 1 1 [7,8,9] 0x3200⟩

/-- A read of three bytes of the first sector, on a memory of its own. -/
def loadCall : DiskCall := ⟨smallDevice,0,requestMemory 0 3 [0,0,0] 0x3200⟩

/-- The session that writes and then reads back, with its two steps. -/
def storeStep : DiskStep :=
  ⟨storeCall,blankImage,processRequest .release smallDevice smallDevice.queue 0
    ⟨storeCall.memory,blankImage⟩⟩

/-- The second step of that session, on the file the first one left. -/
def loadStep : DiskStep :=
  ⟨loadCall,storeStep.report.world.file,processRequest .release smallDevice smallDevice.queue 0
    ⟨loadCall.memory,storeStep.report.world.file⟩⟩

/-- The store's hypotheses hold of that session: the read finds the written bytes. -/
theorem disk_is_byte_store_reads_back :
    ∃ chain, loadStep.call.chain .release=.ok chain ∧
      (chain.requestType=0 →
        slice loadStep.report.world.memory.byte chain.payloadAddr.toNat chain.payloadLen.toNat=
          slice (latest blankImage.byte (history .release [storeStep]))
            (chain.sector.toNat*512) chain.payloadLen.toNat) ∧
      (chain.requestType≠1 → loadStep.report.world.file=loadStep.before) := by
  refine disk_is_byte_store .release blankImage ⟨512⟩ [storeCall,loadCall] rfl ?_
    (by decide +kernel) [storeStep] loadStep [] rfl
  intro call hm
  have hstore : storeCall.chain .release=.ok ⟨1,0,0x3100,3,1,0x3200⟩ := by decide +kernel
  have hload : loadCall.chain .release=.ok ⟨0,0,0x3100,3,3,0x3200⟩ := by decide +kernel
  rcases List.mem_cons.mp hm with rfl | hm
  · refine ⟨rfl,?_⟩
    intro chain hc
    rw [hstore] at hc
    obtain rfl := Except.ok.inj hc
    exact ⟨by decide +kernel,by decide +kernel,by decide +kernel⟩
  · obtain rfl := List.mem_singleton.mp hm
    refine ⟨rfl,?_⟩
    intro chain hc
    rw [hload] at hc
    obtain rfl := Except.ok.inj hc
    exact ⟨by decide +kernel,by decide +kernel,by decide +kernel⟩

end LiteDroid.VmmDiskStore
