import LiteDroid.VmmBlockQueue

/-!
# Descriptor indices of a request

The walk over a request's descriptors takes three indices from the guest: the
head, the next field of the header descriptor and the next field of the
payload descriptor. The walk is repeated here with a record of the indices it
meets and of those it reads a descriptor at. Only the last of the three is
compared with the queue size before it is used.
-/

namespace LiteDroid.VmmDescriptorBounds

open CoreResults MemoryRegion StorageImage VmmBlockDevice VmmQueueLayout VmmBlockRequest
open VmmDiskStore VmmBlockQueue LittleEndian

/-- The address and the next index of a header descriptor. -/
def headerDesc (memory : GuestMemory) (desc : UInt64) : Outcome (UInt64×UInt16) := do
  let headerAddr ← guestU64 memory desc
  let headerFlags ← guestU16 memory (desc+12)
  let headerNext ← guestU16 memory (desc+14)
  if headerFlags&&&descNext=0 then requestError "virtio request has no data descriptor"
  else return (headerAddr,headerNext)

/-- Type and sector of a request's header. -/
def requestHeader (profile : Profile) (memory : GuestMemory) (headerAddr : UInt64) :
    Outcome (UInt32×UInt64) := do
  let requestType ← guestU32 memory headerAddr
  let sectorAddr ← profile.add headerAddr 8
  let sector ← guestU64 memory sectorAddr
  return (requestType,sector)

/-- The fields of a payload descriptor. -/
structure PayloadDesc where
  /-- Guest address of the payload buffer. -/
  addr : UInt64
  /-- Length of the payload buffer. -/
  len : UInt32
  /-- Flags. -/
  flags : UInt16
  /-- Index of the descriptor that follows. -/
  next : UInt16

/-- Read a payload descriptor. -/
def payloadDesc (memory : GuestMemory) (desc : UInt64) : Outcome PayloadDesc := do
  let addr ← guestU64 memory desc
  let len ← guestU32 memory (desc+8)
  let flags ← guestU16 memory (desc+12)
  let next ← guestU16 memory (desc+14)
  return ⟨addr,len,flags,next⟩

/-- The address of a status descriptor, which must not be null. -/
def statusDesc (memory : GuestMemory) (desc : UInt64) : Outcome UInt64 := do
  let statusAddr ← guestU64 memory desc
  if statusAddr=0 then requestError "virtio status address is null" else return statusAddr

/-- A walk with the descriptor indices it came across. -/
structure WalkTrace where
  /-- What the walk returned. -/
  outcome : Outcome Chain
  /-- The indices the guest named: the head and the next fields found. -/
  named : List UInt16
  /-- The indices whose descriptor was read. -/
  dereferenced : List UInt16

/-- The descriptor walk with its record of indices. A next field names an
index when the flag of its descriptor says that another one follows. -/
def tracedWalk (profile : Profile) (queueNum : UInt16) (memory : GuestMemory) (queue : UInt64)
    (head : UInt16) : WalkTrace :=
  match headerDesc memory (descAddr queue head) with
  | .error fault => ⟨.error fault,[head],[head]⟩
  | .ok header =>
    match requestHeader profile memory header.1 with
    | .error fault => ⟨.error fault,[head,header.2],[head]⟩
    | .ok request =>
      match payloadDesc memory (descAddr queue header.2) with
      | .error fault => ⟨.error fault,[head,header.2],[head,header.2]⟩
      | .ok payload =>
        if payload.flags&&&descNext=0 then
          ⟨requestError "virtio request has invalid status descriptor",[head,header.2],
            [head,header.2]⟩
        else if queueNum ≤ payload.next then
          ⟨requestError "virtio request has invalid status descriptor",
            [head,header.2,payload.next],[head,header.2]⟩
        else
          ⟨(statusDesc memory (descAddr queue payload.next)).map fun statusAddr =>
              ⟨request.1,request.2,payload.addr,payload.len,payload.flags,statusAddr⟩,
            [head,header.2,payload.next],[head,header.2,payload.next]⟩

/-- The descriptor walk, stage by stage. -/
theorem walkChain_stages (profile : Profile) (queueNum : UInt16) (memory : GuestMemory)
    (queue : UInt64) (head : UInt16) :
    walkChain profile queueNum memory queue head=(do
      let header ← headerDesc memory (descAddr queue head)
      let request ← requestHeader profile memory header.1
      let payload ← payloadDesc memory (descAddr queue header.2)
      if payload.flags&&&descNext=0 ∨ queueNum ≤ payload.next then
        requestError "virtio request has invalid status descriptor"
      else do
      let statusAddr ← statusDesc memory (descAddr queue payload.next)
      return ⟨request.1,request.2,payload.addr,payload.len,payload.flags,statusAddr⟩) := by
  unfold walkChain headerDesc requestHeader payloadDesc statusDesc
  simp only [bind_assoc,pure_bind]
  refine bind_congr fun headerAddr => bind_congr fun headerFlags => bind_congr fun headerNext => ?_
  by_cases hflags : headerFlags&&&descNext=0
  · rw [if_pos hflags,if_pos hflags]
    rfl
  rw [if_neg hflags,if_neg hflags,pure_bind]
  refine bind_congr fun requestType => bind_congr fun sectorAddr => bind_congr fun sector => ?_
  refine bind_congr fun payloadAddr => bind_congr fun payloadLen => ?_
  refine bind_congr fun payloadFlags => bind_congr fun statusNext => ?_
  by_cases hstatus : payloadFlags&&&descNext=0 ∨ queueNum ≤ statusNext
  · rw [if_pos hstatus,if_pos hstatus]
  rw [if_neg hstatus,if_neg hstatus]
  refine bind_congr fun statusAddr => ?_
  by_cases hnull : statusAddr=0
  · rw [if_pos hnull,if_pos hnull]
    rfl
  · rw [if_neg hnull,if_neg hnull,pure_bind]

/-- The recorded walk is the walk of the device. -/
theorem tracedWalk_outcome (profile : Profile) (queueNum : UInt16) (memory : GuestMemory)
    (queue : UInt64) (head : UInt16) :
    (tracedWalk profile queueNum memory queue head).outcome=
      walkChain profile queueNum memory queue head := by
  rw [walkChain_stages]
  unfold tracedWalk
  cases headerDesc memory (descAddr queue head) with
  | error fault => rfl
  | ok header =>
    dsimp only [bind,Except.bind]
    cases requestHeader profile memory header.1 with
    | error fault => rfl
    | ok request =>
      dsimp only
      cases payloadDesc memory (descAddr queue header.2) with
      | error fault => rfl
      | ok payload =>
        dsimp only
        by_cases hflags : payload.flags&&&descNext=0
        · rw [if_pos hflags,if_pos (Or.inl hflags)]
        · rw [if_neg hflags]
          by_cases hbound : queueNum ≤ payload.next
          · rw [if_pos hbound,if_pos (Or.inr hbound)]
          · rw [if_neg hbound,if_neg (by simp only [hflags,hbound,or_self,not_false_eq_true])]
            cases statusDesc memory (descAddr queue payload.next) with
            | error fault => rfl
            | ok statusAddr => rfl

/-- The index of the payload descriptor, once the header descriptor and the
header have been read. -/
def payloadIndex (profile : Profile) (memory : GuestMemory) (queue : UInt64) (head : UInt16) :
    Option UInt16 :=
  match headerDesc memory (descAddr queue head) with
  | .error _ => none
  | .ok header =>
    match requestHeader profile memory header.1 with
    | .error _ => none
    | .ok _ => some header.2

/-- The indices of one request are checked against the queue size. -/
structure Checked (profile : Profile) (device : VirtioBlock) (head : UInt16) (world : World) :
    Prop where
  /-- Every descriptor that is read has an index below the queue size. -/
  below : ∀ index∈(tracedWalk profile device.queueNum world.memory device.queue head).dereferenced,
    index < device.queueNum
  /-- Every descriptor that is read lies in the descriptor table. -/
  inTable : ∀ index∈(tracedWalk profile device.queueNum world.memory device.queue
      head).dereferenced, device.queue.toNat ≤ (descAddr device.queue index).toNat ∧
    (descAddr device.queue index).toNat+16 ≤ device.queue.toNat+16*device.queueNum.toNat
  /-- A request that names an index outside the queue is refused by the walk,
  before its transfer, and stores nothing. -/
  rejected : (∃ index∈(tracedWalk profile device.queueNum world.memory device.queue head).named,
      device.queueNum ≤ index) →
    ∃ fault, walkChain profile device.queueNum world.memory device.queue head=.error fault ∧
      serve profile device head world=⟨.error fault,world,[]⟩

/-- A descriptor lies at its index in the table: the sum does not wrap. -/
theorem descAddr_toNat (device : VirtioBlock) (index : UInt16) :
    (descAddr device.queue index).toNat=device.queue.toNat+16*index.toNat := by
  have hq := queue_lt device
  have hi := index.toNat_lt
  simp only [descAddr,UInt64.toNat_add,UInt64.toNat_mul,UInt16.toNat_toUInt64,UInt64.reduceToNat]
  omega

/-- A descriptor lies in the table exactly when its index is below the queue size. -/
theorem inTable_iff (device : VirtioBlock) (index : UInt16) :
    (device.queue.toNat ≤ (descAddr device.queue index).toNat ∧
      (descAddr device.queue index).toNat+16 ≤ device.queue.toNat+16*device.queueNum.toNat) ↔
      index < device.queueNum := by
  rw [descAddr_toNat,UInt16.lt_iff_toNat_lt]
  omega

/-- The head is always read, and the payload index whenever there is one. -/
theorem mem_dereferenced (profile : Profile) (queueNum : UInt16) (memory : GuestMemory)
    (queue : UInt64) (head : UInt16) :
    head∈(tracedWalk profile queueNum memory queue head).dereferenced ∧
      ∀ next, payloadIndex profile memory queue head=some next →
        next∈(tracedWalk profile queueNum memory queue head).dereferenced := by
  unfold tracedWalk payloadIndex
  cases headerDesc memory (descAddr queue head) with
  | error fault => exact ⟨List.mem_singleton.mpr rfl,fun next h => nomatch h⟩
  | ok header =>
    dsimp only
    cases requestHeader profile memory header.1 with
    | error fault => exact ⟨List.mem_singleton.mpr rfl,fun next h => nomatch h⟩
    | ok request =>
      dsimp only
      have hmem : ∀ next, some header.2=some next → ∀ l : List UInt16, next∈head::header.2::l := by
        intro next h l
        obtain rfl := Option.some.inj h
        exact List.mem_cons_of_mem _ List.mem_cons_self
      cases payloadDesc memory (descAddr queue header.2) with
      | error fault => exact ⟨List.mem_cons_self,fun next h => hmem next h _⟩
      | ok payload =>
        dsimp only
        split_ifs
        · exact ⟨List.mem_cons_self,fun next h => hmem next h _⟩
        · exact ⟨List.mem_cons_self,fun next h => hmem next h _⟩
        · exact ⟨List.mem_cons_self,fun next h => hmem next h _⟩

/-- With the head and the payload index below the queue size, every descriptor
that is read is below it, and a walk that names another index fails. -/
theorem tracedWalk_below {profile : Profile} {queueNum : UInt16} {memory : GuestMemory}
    {queue : UInt64} {head : UInt16} (hhead : head < queueNum)
    (hnext : ∀ next, payloadIndex profile memory queue head=some next → next < queueNum) :
    (∀ index∈(tracedWalk profile queueNum memory queue head).dereferenced, index < queueNum) ∧
      ∀ index∈(tracedWalk profile queueNum memory queue head).named, queueNum ≤ index →
        ∃ fault, (tracedWalk profile queueNum memory queue head).outcome=.error fault := by
  unfold tracedWalk
  cases hheader : headerDesc memory (descAddr queue head) with
  | error fault => exact ⟨by simpa using hhead,fun _ _ _ => ⟨fault,rfl⟩⟩
  | ok header =>
    dsimp only
    cases hrequest : requestHeader profile memory header.1 with
    | error fault => exact ⟨by simpa using hhead,fun _ _ _ => ⟨fault,rfl⟩⟩
    | ok request =>
      dsimp only
      have hpayload : header.2 < queueNum := by
        apply hnext
        simp only [payloadIndex,hheader,hrequest]
      have htwo : ∀ index∈[head,header.2], index < queueNum := by
        simp only [List.mem_cons,List.not_mem_nil,or_false]
        rintro index (rfl | rfl)
        · exact hhead
        · exact hpayload
      cases payloadDesc memory (descAddr queue header.2) with
      | error fault => exact ⟨htwo,fun _ _ _ => ⟨fault,rfl⟩⟩
      | ok payload =>
        dsimp only
        split_ifs with hflags hbound
        · exact ⟨htwo,fun _ _ _ => ⟨_,rfl⟩⟩
        · exact ⟨htwo,fun _ _ _ => ⟨_,rfl⟩⟩
        · have hthree : ∀ index∈[head,header.2,payload.next], index < queueNum := by
            simp only [List.mem_cons,List.not_mem_nil,or_false]
            rintro index (rfl | rfl | rfl)
            · exact hhead
            · exact hpayload
            · exact UInt16.not_le.mp hbound
          exact ⟨hthree,fun index hm hle => absurd (hthree index hm) (UInt16.not_lt.mpr hle)⟩

/-- The indices of a request are checked exactly when its head, and the index
of its payload descriptor where the walk gets that far, are below the queue
size to begin with. -/
theorem indices_checked_iff (profile : Profile) (device : VirtioBlock) (head : UInt16)
    (world : World) : Checked profile device head world ↔ head < device.queueNum ∧
      ∀ next, payloadIndex profile world.memory device.queue head=some next →
        next < device.queueNum := by
  have hmem := mem_dereferenced profile device.queueNum world.memory device.queue head
  constructor
  · intro h
    exact ⟨h.below head hmem.1,fun next hn => h.below next (hmem.2 next hn)⟩
  · rintro ⟨hhead,hnext⟩
    obtain ⟨hbelow,hfails⟩ := tracedWalk_below hhead hnext
    refine ⟨hbelow,fun index hm => (inTable_iff device index).mpr (hbelow index hm),?_⟩
    rintro ⟨index,hm,hle⟩
    obtain ⟨fault,hfault⟩ := hfails index hm hle
    rw [tracedWalk_outcome] at hfault
    refine ⟨fault,hfault,?_⟩
    rw [serve,processRequest,hfault]

/-- A guest whose header descriptor lies behind the descriptor table, in the
available ring, and whose payload descriptor lies behind it as well. -/
def outsideMemory : GuestMemory :=
  filled
    [(0x1040,leBytes 8 0x3000++leBytes 4 16++[1,0,6,0]),
      (0x1060,leBytes 8 0x3100++leBytes 4 3++[1,0,2,0]),
      (0x1020,leBytes 8 0x3200++leBytes 4 1++[2,0,0,0]),
      (0x3000,leBytes 4 1),(0x3100,[7,8,9])]

/-- A queue of four entries serves head four, whose next index is six: the
write of three bytes is completed and reaches the disk. -/
theorem outside_indices_served :
    (tracedWalk .release smallDevice.queueNum outsideMemory smallDevice.queue 4).dereferenced=
        [4,6,2] ∧
      (serve .release smallDevice 4 ⟨outsideMemory,blankImage⟩).outcome=.ok () ∧
      (serve .release smallDevice 4 ⟨outsideMemory,blankImage⟩).stores.head?=
        some (.disk 0 [7,8,9]) ∧
      ¬Checked .release smallDevice 4 ⟨outsideMemory,blankImage⟩ := by
  have htrace : (tracedWalk .release smallDevice.queueNum outsideMemory smallDevice.queue
      4).dereferenced=[4,6,2] := by decide +kernel
  refine ⟨htrace,by decide +kernel,by decide +kernel,?_⟩
  intro h
  have hfour := h.below 4 (by
    change 4∈(tracedWalk .release smallDevice.queueNum outsideMemory smallDevice.queue
      4).dereferenced
    rw [htrace]
    decide)
  exact absurd hfour (by decide)

end LiteDroid.VmmDescriptorBounds
