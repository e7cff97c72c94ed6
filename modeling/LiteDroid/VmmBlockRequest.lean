import LiteDroid.VmmQueueLayout

/-!
# One request of the block device

What a request does is fixed by the words its descriptors hold in guest
memory. A request whose chain can be walked is moved when its direction, its
ranges and its offset are accepted; a moved request is completed when its
status byte, the used index and the used element it selects lie in guest
memory. Everything the device does to memory and disk is one of these three
stages, so each result here is a case analysis over them.
-/

namespace LiteDroid.VmmBlockRequest

open CoreResults MemoryRegion StorageImage VmmBlockDevice VmmQueueLayout LittleEndian ByteRange

/-- The byte offset of a request on the disk, as release arithmetic computes it. -/
def byteOffset (chain : Chain) : UInt64 := chain.sector*512

/-- Whether the multiplication of the sector survives the profile's overflow check. -/
def SectorFits (profile : Profile) (chain : Chain) : Prop :=
  profile=.release ∨ chain.sector.toNat*512 < 2^64

instance (profile : Profile) (chain : Chain) : Decidable (SectorFits profile chain) :=
  inferInstanceAs (Decidable (_ ∨ _))

/-- The bytes a read request delivers to its payload buffer. -/
def readBytes (chain : Chain) (world : World) : List UInt8 :=
  readable world.file (byteOffset chain).toNat chain.payloadLen.toNat

/-- The bytes a write request takes from its payload buffer. -/
def writeBytes (chain : Chain) (world : World) : List UInt8 :=
  slice world.memory.byte chain.payloadAddr.toNat chain.payloadLen.toNat

/-- The request's direction flag, ranges and offset are all accepted. A
request of an unknown type moves no data and always passes. -/
def Transferable (profile : Profile) (chain : Chain) (world : World) : Prop :=
  if chain.requestType=0 then
    chain.payloadFlags&&&descWrite≠0 ∧ SectorFits profile chain ∧
      OffsetFits (byteOffset chain) chain.payloadLen.toNat ∧
      Fits world.memory chain.payloadAddr (readBytes chain world).length
  else if chain.requestType=1 then
    chain.payloadFlags&&&descWrite=0 ∧
      Fits world.memory chain.payloadAddr chain.payloadLen.toNat ∧ SectorFits profile chain ∧
      OffsetFits (byteOffset chain) chain.payloadLen.toNat
  else True

instance (profile : Profile) (chain : Chain) (world : World) :
    Decidable (Transferable profile chain world) := by
  unfold Transferable
  infer_instance

/-- What is asked of a read request. -/
theorem transferable_read {profile : Profile} {chain : Chain} {world : World}
    (h : chain.requestType=0) :
    Transferable profile chain world ↔
      chain.payloadFlags&&&descWrite≠0 ∧ SectorFits profile chain ∧
        OffsetFits (byteOffset chain) chain.payloadLen.toNat ∧
        Fits world.memory chain.payloadAddr (readBytes chain world).length := by
  unfold Transferable
  rw [if_pos h]

/-- What is asked of a write request. -/
theorem transferable_write {profile : Profile} {chain : Chain} {world : World}
    (h : chain.requestType=1) :
    Transferable profile chain world ↔
      chain.payloadFlags&&&descWrite=0 ∧
        Fits world.memory chain.payloadAddr chain.payloadLen.toNat ∧ SectorFits profile chain ∧
        OffsetFits (byteOffset chain) chain.payloadLen.toNat := by
  have hzero : ¬chain.requestType=0 := by
    rw [h]
    decide
  unfold Transferable
  rw [if_neg hzero,if_pos h]

/-- The status byte of a request whose data was moved. -/
def statusOf (chain : Chain) : UInt8 :=
  if chain.requestType=0 ∨ chain.requestType=1 then 0 else 1

/-- Memory and file after a request's data was moved. -/
def delivered (chain : Chain) (world : World) : World :=
  if chain.requestType=0 then
    {world with memory := store world.memory chain.payloadAddr.toNat (readBytes chain world)}
  else if chain.requestType=1 then
    {world with file := stored world.file (byteOffset chain).toNat (writeBytes chain world)}
  else world

/-- The stores of a request's data transfer. -/
def deliveredStores (chain : Chain) (world : World) : List Store :=
  if chain.requestType=0 then [.guest chain.payloadAddr (readBytes chain world)]
  else if chain.requestType=1 then [.disk (byteOffset chain) (writeBytes chain world)]
  else []

/-- The sector multiplication under either profile. -/
theorem mul_sector {profile : Profile} {chain : Chain} (h : SectorFits profile chain) :
    profile.mul chain.sector 512=.ok (byteOffset chain) := by
  rcases h with rfl | h
  · rfl
  · exact Profile.mul_of_lt profile (by simpa only [UInt64.reduceToNat] using h)

/-- A sector whose byte offset overflows panics where overflow is checked. -/
theorem mul_sector_panic {profile : Profile} {chain : Chain} (h : ¬SectorFits profile chain) :
    profile.mul chain.sector 512=.error (.panic .arithmeticOverflow) := by
  unfold SectorFits at h
  cases profile with
  | release => exact absurd (Or.inl rfl) h
  | dev =>
    have hn : ¬chain.sector.toNat*512 < 2^64 := fun hc => h (Or.inr hc)
    simp only [Profile.mul,UInt64.reduceToNat,if_neg hn]

/-- The buffer of a completed read, cut to the transferred bytes, is exactly
what was transferred: the slice is always in range. -/
theorem sliceTo_read (data buf : List UInt8) :
    sliceTo (data++buf) data.length=.ok data := by
  unfold sliceTo
  rw [if_pos (by simp),List.take_left']
  rfl

/-- The transfer of a read request, stage by stage. -/
theorem transfer_read {profile : Profile} {chain : Chain} {world : World}
    (ht : chain.requestType=0) :
    transfer profile chain world=
      if chain.payloadFlags&&&descWrite=0 then requestError "virtio read buffer is not writable"
      else if SectorFits profile chain then
        if OffsetFits (byteOffset chain) chain.payloadLen.toNat then
          if Fits world.memory chain.payloadAddr (readBytes chain world).length then
            .ok ⟨statusOf chain,delivered chain world,deliveredStores chain world⟩
          else .error (.error (.guestAddressOutOfRange chain.payloadAddr))
        else
          let offset := byteOffset chain
          .error (.error (.diskIo s!"pread failed at offset {offset}: {invalidArgument}"))
      else .error (.panic .arithmeticOverflow) := by
  unfold transfer
  dsimp only
  rw [if_pos ht]
  by_cases hw : chain.payloadFlags&&&descWrite=0
  · rw [if_pos hw,if_pos hw]
  rw [if_neg hw,if_neg hw]
  by_cases hs : SectorFits profile chain
  · rw [if_pos hs,mul_sector hs]
    dsimp only [bind,Except.bind]
    rw [read_eq,List.length_replicate]
    by_cases ho : OffsetFits (byteOffset chain) chain.payloadLen.toNat
    · rw [if_pos ho,if_pos ho]
      dsimp only
      rw [sliceTo_read]
      dsimp only
      rw [writeGuest_eq]
      by_cases hf : Fits world.memory chain.payloadAddr (readBytes chain world).length
      · rw [if_pos hf]
        simp only [readBytes] at hf ⊢
        rw [if_pos hf]
        simp only [statusOf,delivered,deliveredStores,ht,true_or,if_true,readBytes]
        rfl
      · rw [if_neg hf]
        simp only [readBytes] at hf ⊢
        rw [if_neg hf]
    · rw [if_neg ho,if_neg ho]
  · rw [if_neg hs,mul_sector_panic hs]
    rfl

/-- The transfer of a write request, stage by stage. -/
theorem transfer_write {profile : Profile} {chain : Chain} {world : World}
    (ht : chain.requestType=1) :
    transfer profile chain world=
      if chain.payloadFlags&&&descWrite≠0 then requestError "virtio write buffer is not readable"
      else if Fits world.memory chain.payloadAddr chain.payloadLen.toNat then
        if SectorFits profile chain then
          if OffsetFits (byteOffset chain) chain.payloadLen.toNat then
            .ok ⟨statusOf chain,delivered chain world,deliveredStores chain world⟩
          else
            let offset := byteOffset chain
            .error (.error (.diskIo s!"pwrite failed at offset {offset}: {invalidArgument}"))
        else .error (.panic .arithmeticOverflow)
      else .error (.error (.guestAddressOutOfRange chain.payloadAddr)) := by
  have hz : ¬chain.requestType=0 := by rw [ht]; decide
  unfold transfer
  dsimp only
  rw [if_neg hz,if_pos ht]
  by_cases hw : chain.payloadFlags&&&descWrite≠0
  · rw [if_pos hw,if_pos hw]
  rw [if_neg hw,if_neg hw,List.length_replicate,readGuest_eq]
  by_cases hf : Fits world.memory chain.payloadAddr chain.payloadLen.toNat
  · rw [if_pos hf,if_pos hf]
    dsimp only [bind,Except.bind]
    by_cases hs : SectorFits profile chain
    · rw [if_pos hs,mul_sector hs]
      dsimp only
      rw [write_eq,slice_length]
      by_cases ho : OffsetFits (byteOffset chain) chain.payloadLen.toNat
      · rw [if_pos ho,if_pos ho]
        have hone : ¬(1 : UInt32)=0 := by decide
        simp only [statusOf,delivered,deliveredStores,ht,or_true,if_true,hone,if_false,writeBytes]
        rfl
      · rw [if_neg ho,if_neg ho]
    · rw [if_neg hs,mul_sector_panic hs]
  · rw [if_neg hf,if_neg hf]
    rfl

/-- A request of an unknown type moves nothing. -/
theorem transfer_other {profile : Profile} {chain : Chain} {world : World}
    (hz : chain.requestType≠0) (ho : chain.requestType≠1) :
    transfer profile chain world=
      .ok ⟨statusOf chain,delivered chain world,deliveredStores chain world⟩ := by
  unfold transfer
  dsimp only
  rw [if_neg hz,if_neg ho]
  simp only [statusOf,delivered,deliveredStores,hz,ho,or_self,if_false]
  rfl

/-- The transfer succeeds exactly when the request is transferable, and then
delivers the data. -/
theorem transfer_ok_iff {profile : Profile} {chain : Chain} {world : World}
    {moved : TransferReport} :
    transfer profile chain world=.ok moved ↔ Transferable profile chain world ∧
      moved=⟨statusOf chain,delivered chain world,deliveredStores chain world⟩ := by
  unfold Transferable
  by_cases hz : chain.requestType=0
  · rw [transfer_read hz,if_pos hz]
    split_ifs with hw hs ho hf
    · simp [requestError,hw]
    · simp [hw,hs,ho,hf,eq_comm]
    · simp [hf]
    · simp [ho]
    · simp [hs]
  · by_cases ho : chain.requestType=1
    · rw [transfer_write ho,if_neg hz,if_pos ho]
      split_ifs with hw hf hs hl
      · simp [requestError,hw]
      · rw [not_ne_iff] at hw
        simp [hw,hs,hl,hf,eq_comm]
      · simp [hl]
      · simp [hs]
      · simp [hf]
    · rw [transfer_other hz ho,if_neg hz,if_neg ho]
      simp [eq_comm]

/-- Memory and file after the data was moved and the status byte stored. -/
def acknowledged (chain : Chain) (world : World) : World :=
  {delivered chain world with
    memory := store (delivered chain world).memory chain.statusAddr.toNat [statusOf chain]}

/-- The used element selected by the index that memory holds. -/
def usedSlot (device : VirtioBlock) (memory : GuestMemory) : UInt16 :=
  wordAt memory (usedStart device+2)%device.queueNum

/-- Memory after a request was published: element id, element length, index. -/
def published (device : VirtioBlock) (head : UInt16) (payloadLen : UInt32)
    (memory : GuestMemory) : GuestMemory :=
  let element := usedStart device+4+8*(usedSlot device memory).toNat
  let next := wordAt memory (usedStart device+2)+1
  store (store (store memory element (leBytes 4 head.toUInt32.toNat))
    (element+4) (leBytes 4 payloadLen.toNat)) (usedStart device+2) (leBytes 2 next.toNat)

/-- The stores of publishing a request, in order. -/
def publishedStores (device : VirtioBlock) (head : UInt16) (payloadLen : UInt32)
    (memory : GuestMemory) : List Store :=
  let used := usedRing device.queueNum device.queue
  let slot := (usedSlot device memory).toUInt64
  [.guest (used+4+slot*8) (leBytes 4 head.toUInt32.toNat),
    .guest (used+8+slot*8) (leBytes 4 payloadLen.toNat),
    .guest (used+2) (leBytes 2 (wordAt memory (usedStart device+2)+1).toNat)]

/-- Memory and file after a request ran to its end. -/
def completed (device : VirtioBlock) (head : UInt16) (chain : Chain) (world : World) : World :=
  ⟨published device head chain.payloadLen (acknowledged chain world).memory,
    (delivered chain world).file⟩

/-- The selected used element lies in guest memory, and with it the index. -/
def ElementFits (device : VirtioBlock) (memory : GuestMemory) : Prop :=
  usedStart device+12+8*(usedSlot device memory).toNat ≤ memory.size.toNat

instance (device : VirtioBlock) (memory : GuestMemory) :
    Decidable (ElementFits device memory) := inferInstanceAs (Decidable (_ ≤ _))

/-- The status byte and the used element of a moved request lie in guest memory. -/
def Completable (device : VirtioBlock) (chain : Chain) (world : World) : Prop :=
  Fits world.memory chain.statusAddr 1 ∧ ElementFits device (acknowledged chain world).memory

instance (device : VirtioBlock) (chain : Chain) (world : World) :
    Decidable (Completable device chain world) := inferInstanceAs (Decidable (_ ∧ _))

/-- Moving the data keeps the size of guest memory. -/
@[simp] theorem delivered_size (chain : Chain) (world : World) :
    (delivered chain world).memory.size=world.memory.size := by
  unfold delivered
  split_ifs <;> rfl

/-- Moving the data keeps which ranges lie in guest memory. -/
theorem fits_delivered (chain : Chain) (world : World) (addr : UInt64) (len : ℕ) :
    Fits (delivered chain world).memory addr len ↔ Fits world.memory addr len := by
  unfold Fits
  rw [delivered_size]

/-- The memory of a world given by its parts. -/
theorem world_memory (memory : GuestMemory) (file : HostFile) :
    (World.mk memory file).memory=memory := rfl

/-- The file of a world given by its parts. -/
theorem world_file (memory : GuestMemory) (file : HostFile) : (World.mk memory file).file=file :=
  rfl

/-- Storing the status byte keeps the size of guest memory. -/
@[simp] theorem acknowledged_size (chain : Chain) (world : World) :
    (acknowledged chain world).memory.size=world.memory.size := by
  rw [acknowledged,world_memory,store_size,delivered_size]

/-- Publishing a request keeps the size of guest memory. -/
@[simp] theorem published_size (device : VirtioBlock) (head : UInt16) (payloadLen : UInt32)
    (memory : GuestMemory) : (published device head payloadLen memory).size=memory.size := by
  rw [published,store_size,store_size,store_size]

/-- A completed request leaves the published memory. -/
theorem completed_memory (device : VirtioBlock) (head : UInt16) (chain : Chain) (world : World) :
    (completed device head chain world).memory=
      published device head chain.payloadLen (acknowledged chain world).memory := by
  rw [completed,world_memory]

/-- The file a completed request leaves behind is that of its transfer. -/
theorem completed_file (device : VirtioBlock) (head : UInt16) (chain : Chain) (world : World) :
    (completed device head chain world).file=(delivered chain world).file := by
  rw [completed,world_file]

/-- Publishing succeeds when the selected element lies in guest memory. -/
theorem pushUsed_fits {device : VirtioBlock} (head : UInt16) (payloadLen : UInt32)
    {world : World} (done : List Store) (hn : device.queueNum≠0)
    (h : ElementFits device world.memory) :
    pushUsed device.queueNum device.queue head payloadLen world done=
      ⟨.ok (),{world with memory := published device head payloadLen world.memory},
        done++publishedStores device head payloadLen world.memory⟩ := by
  have hu := usedOffset_toNat device (k:=2) (by decide)
  have h4 := usedElement_toNat device (usedSlot device world.memory) (k:=4) (by decide)
  have h8 := usedElement_toNat device (usedSlot device world.memory) (k:=8) (by decide)
  simp only [UInt64.reduceToNat] at hu h4 h8
  unfold ElementFits at h
  have hi : Fits world.memory (usedRing device.queueNum device.queue+2) 2 := by
    unfold Fits
    omega
  unfold pushUsed
  dsimp only
  rw [guestU16_fits hi]
  dsimp only
  rw [if_neg hn,hu]
  unfold usedSlot at h h4 h8
  rw [writeGuest_fits (by unfold Fits; rw [h4,leBytes_length]; omega)]
  dsimp only
  rw [writeGuest_fits (by rw [fits_store]; unfold Fits; rw [h8,leBytes_length]; omega)]
  dsimp only
  rw [writeGuest_fits (by rw [fits_store,fits_store,leBytes_length]; exact hi)]
  have he : usedStart device+8+8*(wordAt world.memory (usedStart device+2)%device.queueNum).toNat=
      usedStart device+4+8*(wordAt world.memory (usedStart device+2)%device.queueNum).toNat+4 := by
    omega
  simp only [published,publishedStores,usedSlot,hu,h4,h8,he,List.append_assoc,List.cons_append,
    List.nil_append]

/-- Publishing fails with an error value when the selected element leaves
guest memory; the file and the earlier stores stay. -/
theorem pushUsed_not_fits {device : VirtioBlock} (head : UInt16) (payloadLen : UInt32)
    {world : World} (done : List Store) (hn : device.queueNum≠0)
    (h : ¬ElementFits device world.memory) :
    ∃ cause memory stores, pushUsed device.queueNum device.queue head payloadLen world done=
      ⟨.error (.error cause),{world with memory := memory},done++stores⟩ ∧
        memory.size=world.memory.size := by
  have hu := usedOffset_toNat device (k:=2) (by decide)
  have h4 := usedElement_toNat device (usedSlot device world.memory) (k:=4) (by decide)
  have h8 := usedElement_toNat device (usedSlot device world.memory) (k:=8) (by decide)
  simp only [UInt64.reduceToNat] at hu h4 h8
  unfold ElementFits at h
  unfold pushUsed
  dsimp only
  by_cases hi : Fits world.memory (usedRing device.queueNum device.queue+2) 2
  · rw [guestU16_fits hi]
    dsimp only
    rw [if_neg hn,hu]
    unfold usedSlot at h h4 h8
    rw [writeGuest_eq]
    split
    · rename_i heq
      split at heq
      · cases heq
      · cases heq
        exact ⟨_,world.memory,[],by rw [List.append_nil],rfl⟩
    · rename_i memory1 heq
      split at heq
      · rename_i hfit
        cases heq
        rw [writeGuest_not_fits (by rw [fits_store]; unfold Fits; rw [h8,leBytes_length]; omega)]
        exact ⟨_,_,_,rfl,rfl⟩
      · cases heq
  · rw [guestU16_not_fits hi]
    exact ⟨_,world.memory,[],by rw [List.append_nil],rfl⟩

/-- The descriptor walk returns a chain or an error value. The one checked sum
of guest words cannot overflow, because a read at its first summand passed. -/
theorem walkChain_noPanic (profile : Profile) (queueNum : UInt16) (memory : GuestMemory)
    (queue : UInt64) (head : UInt16) :
    NoPanic (walkChain profile queueNum memory queue head) := by
  unfold walkChain
  dsimp only
  refine noPanic_bind (guestU64_noPanic _ _) fun headerAddr _ => ?_
  refine noPanic_bind (guestU16_noPanic _ _) fun headerFlags _ => ?_
  refine noPanic_bind (guestU16_noPanic _ _) fun headerNext _ => ?_
  split
  · exact noPanic_error _
  refine noPanic_bind (guestU32_noPanic _ _) fun requestType hr => ?_
  have hsum : headerAddr.toNat+(8 : UInt64).toNat < 2^64 := by
    have hf := guestU32_ok_fits hr
    have hs := memory.size_lt
    unfold Fits at hf
    simp only [UInt64.reduceToNat]
    omega
  rw [Profile.add_of_lt profile hsum]
  refine noPanic_bind (noPanic_ok _) fun sectorAddr _ => ?_
  refine noPanic_bind (guestU64_noPanic _ _) fun sector _ => ?_
  refine noPanic_bind (guestU64_noPanic _ _) fun payloadAddr _ => ?_
  refine noPanic_bind (guestU32_noPanic _ _) fun payloadLen _ => ?_
  refine noPanic_bind (guestU16_noPanic _ _) fun payloadFlags _ => ?_
  refine noPanic_bind (guestU16_noPanic _ _) fun statusNext _ => ?_
  split
  · exact noPanic_error _
  refine noPanic_bind (guestU64_noPanic _ _) fun statusAddr _ => ?_
  split
  · exact noPanic_error _
  · exact noPanic_ok _

/-- A walked chain has a status index below the queue size, so the queue is
not of size zero. -/
theorem walkChain_ok_size {profile : Profile} {queueNum : UInt16} {memory : GuestMemory}
    {queue : UInt64} {head : UInt16} {chain : Chain}
    (h : walkChain profile queueNum memory queue head=.ok chain) : queueNum≠0 := by
  rintro rfl
  unfold walkChain at h
  dsimp only at h
  obtain ⟨headerAddr,-,h⟩ := bind_ok_iff.mp h
  obtain ⟨headerFlags,-,h⟩ := bind_ok_iff.mp h
  obtain ⟨headerNext,-,h⟩ := bind_ok_iff.mp h
  split at h
  · cases h
  obtain ⟨requestType,-,h⟩ := bind_ok_iff.mp h
  obtain ⟨sectorAddr,-,h⟩ := bind_ok_iff.mp h
  obtain ⟨sector,-,h⟩ := bind_ok_iff.mp h
  obtain ⟨payloadAddr,-,h⟩ := bind_ok_iff.mp h
  obtain ⟨payloadLen,-,h⟩ := bind_ok_iff.mp h
  obtain ⟨payloadFlags,-,h⟩ := bind_ok_iff.mp h
  obtain ⟨statusNext,-,h⟩ := bind_ok_iff.mp h
  rw [if_pos (Or.inr (UInt16.le_iff_toNat_le.mpr (Nat.zero_le _)))] at h
  cases h

/-- What one request does, in five cases: its chain cannot be walked, its
transfer is refused, its status byte or its used element leaves guest memory
after the data was moved, or it is completed. -/
theorem processRequest_cases (profile : Profile) (device : VirtioBlock) (head : UInt16)
    (world : World) :
    (∃ fault, walkChain profile device.queueNum world.memory device.queue head=.error fault ∧
      processRequest profile device device.queue head world=⟨.error fault,world,[]⟩) ∨
    ∃ chain, walkChain profile device.queueNum world.memory device.queue head=.ok chain ∧
      ((∃ fault, ¬Transferable profile chain world ∧ transfer profile chain world=.error fault ∧
        processRequest profile device device.queue head world=⟨.error fault,world,[]⟩) ∨
      (Transferable profile chain world ∧ ¬Fits world.memory chain.statusAddr 1 ∧
        processRequest profile device device.queue head world=
          ⟨.error (.error (.guestAddressOutOfRange chain.statusAddr)),delivered chain world,
            deliveredStores chain world⟩) ∨
      (∃ cause memory stores, Transferable profile chain world ∧
        Fits world.memory chain.statusAddr 1 ∧
        ¬ElementFits device (acknowledged chain world).memory ∧
        memory.size=world.memory.size ∧
        processRequest profile device device.queue head world=
          ⟨.error (.error cause),⟨memory,(delivered chain world).file⟩,
            deliveredStores chain world++[.guest chain.statusAddr [statusOf chain]]++stores⟩) ∨
      (Transferable profile chain world ∧ Completable device chain world ∧
        processRequest profile device device.queue head world=
          ⟨.ok (),completed device head chain world,
            deliveredStores chain world++[.guest chain.statusAddr [statusOf chain]]++
              publishedStores device head chain.payloadLen (acknowledged chain world).memory⟩)) := by
  unfold processRequest
  cases hw : walkChain profile device.queueNum world.memory device.queue head with
  | error fault => exact Or.inl ⟨fault,rfl,rfl⟩
  | ok chain =>
    have hn := walkChain_ok_size hw
    refine Or.inr ⟨chain,rfl,?_⟩
    dsimp only
    by_cases ht : Transferable profile chain world
    · rw [transfer_ok_iff.mpr ⟨ht,rfl⟩]
      dsimp only
      by_cases hs : Fits world.memory chain.statusAddr 1
      · have hack : (⟨store (delivered chain world).memory chain.statusAddr.toNat [statusOf chain],
            (delivered chain world).file⟩ : World)=acknowledged chain world := rfl
        rw [writeGuest_fits ((fits_delivered chain world _ _).mpr hs)]
        dsimp only
        rw [hack]
        by_cases he : ElementFits device (acknowledged chain world).memory
        · rw [pushUsed_fits head chain.payloadLen _ hn he]
          exact Or.inr (Or.inr (Or.inr ⟨ht,⟨hs,he⟩,rfl⟩))
        · obtain ⟨cause,memory,stores,hp,hsize⟩ := pushUsed_not_fits head chain.payloadLen
            (deliveredStores chain world++[.guest chain.statusAddr [statusOf chain]]) hn he
          refine Or.inr (Or.inr (Or.inl ⟨cause,memory,stores,ht,hs,he,?_,hp⟩))
          rw [hsize]
          exact delivered_size chain world
      · rw [writeGuest_not_fits (fun hf => hs ((fits_delivered chain world _ _).mp hf))]
        exact Or.inr (Or.inl ⟨ht,hs,rfl⟩)
    · cases hm : transfer profile chain world with
      | error fault => exact Or.inl ⟨fault,ht,rfl,rfl⟩
      | ok moved => exact absurd (transfer_ok_iff.mp hm).1 ht

end LiteDroid.VmmBlockRequest
