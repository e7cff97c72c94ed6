import LiteDroid.VmmBlockQueue

/-!
# The two layouts of the available ring

The used-ring address leaves room for a descriptor table and an available
ring behind it. The queue loop reads its index and its heads two and four
bytes into the queue page, where the first descriptors are. A driver and the
device therefore never agree on what was published.
-/

namespace LiteDroid.VmmRingAgreement

open CoreResults MemoryRegion StorageImage VmmBlockDevice VmmQueueLayout VmmBlockRequest
open VmmDiskStore VmmBlockQueue LittleEndian ByteRange

/-- Where the available ring starts: right behind the descriptor table. -/
def availStart (device : VirtioBlock) : ℕ := device.queue.toNat+16*device.queueNum.toNat

/-- Flags, index and ring of the available ring end where the used-ring
address is rounded up from. -/
theorem usedStart_avail (device : VirtioBlock) :
    usedStart device=(availStart device+(4+2*device.queueNum.toNat)+4095)/4096*4096 := by
  unfold usedStart availStart
  congr 2
  omega

/-- The index a driver published in the available ring. -/
def publishedIndex (device : VirtioBlock) (memory : GuestMemory) : UInt16 :=
  wordAt memory (availStart device+2)

/-- The head a driver published for a position of the available ring. -/
def publishedHead (device : VirtioBlock) (position : UInt16) (memory : GuestMemory) : UInt16 :=
  wordAt memory (availStart device+4+2*(position%device.queueNum).toNat)

/-- Two memories that differ only in the descriptor table. -/
def SameOutsideTable (device : VirtioBlock) (memory other : GuestMemory) : Prop :=
  other.size=memory.size ∧ ∀ addr, addr < device.queue.toNat ∨ availStart device ≤ addr →
    other.byte addr=memory.byte addr

/-- Device and driver agree on a notification: its pass goes up to the
published index, serves the published heads, and both the index and the
first head stay the same when only the descriptor table is changed. -/
structure RingAgreement (profile : Profile) (device : VirtioBlock) (world : World) : Prop where
  /-- The index read is the published one. -/
  index : ∀ pass, (device.write profile 0x50 0 world).pass=some pass →
    pass.index=some (publishedIndex device world.memory)
  /-- Every head served is the published one. -/
  heads : ∀ pass, (device.write profile 0x50 0 world).pass=some pass →
    ∀ call∈pass.calls, call.head=publishedHead device call.position call.before.memory
  /-- The choice of requests does not depend on the descriptor table. -/
  table : ∀ other, SameOutsideTable device world.memory other → ∀ pass next,
    (device.write profile 0x50 0 world).pass=some pass →
    (device.write profile 0x50 0 ⟨other,world.file⟩).pass=some next →
    next.index=pass.index ∧ next.calls.head?.map RequestCall.head=
      pass.calls.head?.map RequestCall.head

/-- A notification reports the word two bytes into the queue page as its index. -/
theorem notification_index {profile : Profile} {device : VirtioBlock} {world : World}
    (hp : device.queuePfn≠0) (hf : Fits world.memory (device.queue+2) 2) :
    ∃ pass, (device.write profile 0x50 0 world).pass=some pass ∧
      pass.index=some (wordAt world.memory (device.queue.toNat+2)) := by
  obtain ⟨hpass,-⟩ := @write_notify profile device world hp
  refine ⟨_,hpass,?_⟩
  unfold processQueue
  rw [guestU16_fits hf,indexAddr_toNat]
  exact serveLoop_index profile _ device world

/-- A notification whose index word lies outside guest memory reports none. -/
theorem notification_unread {profile : Profile} {device : VirtioBlock} {world : World}
    (hp : device.queuePfn≠0) (hf : ¬Fits world.memory (device.queue+2) 2) :
    ∃ pass, (device.write profile 0x50 0 world).pass=some pass ∧ pass.index=none := by
  obtain ⟨hpass,-⟩ := @write_notify profile device world hp
  refine ⟨_,hpass,?_⟩
  unfold processQueue
  rw [guestU16_not_fits hf]

/-- A store of two bytes into the page's second word stays in the table. -/
theorem store_table {device : VirtioBlock} (memory : GuestMemory) (value : UInt16)
    (hn : device.queueNum≠0) :
    SameOutsideTable device memory
      (store memory (device.queue.toNat+2) (leBytes 2 value.toNat)) := by
  have hpos : 0 < device.queueNum.toNat := Nat.pos_of_ne_zero fun h => hn (UInt16.toNat_inj.mp h)
  refine ⟨store_size _ _ _,?_⟩
  intro addr ha
  rw [store_byte]
  apply overwrite_outside
  rw [leBytes_length]
  unfold availStart at ha
  omega

/-- No notification of a set-up queue agrees with its driver. Whatever guest
memory holds, another first descriptor makes the device serve another number
of entries while the published ring is the same. -/
theorem rings_never_agree (profile : Profile) (device : VirtioBlock) (world : World)
    (hn : device.queueNum≠0) (hp : device.queuePfn≠0) :
    ¬RingAgreement profile device world := by
  intro h
  by_cases hf : Fits world.memory (device.queue+2) 2
  · obtain ⟨pass,hpass,hidx⟩ := @notification_index profile device world hp hf
    let other := store world.memory (device.queue.toNat+2)
      (leBytes 2 (wordAt world.memory (device.queue.toNat+2)+1).toNat)
    have hfit : Fits other (device.queue+2) 2 := by
      unfold Fits at hf ⊢
      rw [store_size]
      exact hf
    obtain ⟨next,hnext,hother⟩ := @notification_index profile device ⟨other,world.file⟩ hp hfit
    obtain ⟨hsame,-⟩ := h.table other (store_table _ _ hn) pass next hpass hnext
    rw [hidx,hother,wordAt_store] at hsame
    have hne := Option.some.inj hsame
    generalize wordAt world.memory (device.queue.toNat+2)=idx at hne
    have hlt := idx.toNat_lt
    have heq := congrArg UInt16.toNat hne
    simp only [UInt16.toNat_add,UInt16.reduceToNat] at heq
    omega
  · obtain ⟨pass,hpass,hnone⟩ := @notification_unread profile device world hp hf
    have hsome := h.index pass hpass
    rw [hnone] at hsome
    cases hsome

/-- A guest as a driver lays it out for 128 entries: a write request from the
first descriptor on, published with index one behind the table. -/
def driverMemory : GuestMemory :=
  filled
    [(0x1000,leBytes 8 0x3000++leBytes 4 16++[1,0,1,0]),
      (0x1010,leBytes 8 0x3100++leBytes 4 3++[1,0,2,0]),
      (0x1020,leBytes 8 0x3200++leBytes 4 1++[2,0,0,0]),
      (0x1802,[1,0,0,0]),(0x3000,leBytes 4 1),(0x3100,[7,8,9])]

/-- A device as created, after the driver set its queue page. -/
def driverDevice : VirtioBlock := {VirtioBlock.new ⟨512⟩ with queuePfn := 1}

/-- The criterion's hypotheses hold of that driver and device. -/
theorem rings_never_agree_driver :
    driverDevice.queueNum≠0 ∧ driverDevice.queuePfn≠0 ∧
      ¬RingAgreement .release driverDevice ⟨driverMemory,blankImage⟩ :=
  ⟨by decide,by decide,
    rings_never_agree .release driverDevice ⟨driverMemory,blankImage⟩ (by decide) (by decide)⟩

/-- The driver published one entry, and the device reads index zero from the
first descriptor: the request is never served. -/
theorem published_entry_unseen :
    RingsFit driverDevice driverMemory ∧ publishedIndex driverDevice driverMemory=1 ∧
      (∃ pass, (driverDevice.write .release 0x50 0 ⟨driverMemory,blankImage⟩).pass=some pass ∧
        pass.index=some 0) ∧
      ¬RingAgreement .release driverDevice ⟨driverMemory,blankImage⟩ := by
  have hr : RingsFit driverDevice driverMemory := by
    unfold RingsFit
    decide +kernel
  have hone : publishedIndex driverDevice driverMemory=1 := by decide +kernel
  have hzero : wordAt driverMemory (driverDevice.queue.toNat+2)=0 := by decide +kernel
  obtain ⟨pass,hpass,hidx⟩ :=
    @notification_index .release driverDevice ⟨driverMemory,blankImage⟩ (by decide)
      (by decide +kernel)
  rw [hzero] at hidx
  refine ⟨hr,hone,⟨pass,hpass,hidx⟩,?_⟩
  intro h
  have hindex := h.index pass hpass
  rw [hidx,hone] at hindex
  revert hindex
  decide

end LiteDroid.VmmRingAgreement
