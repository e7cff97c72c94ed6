import LiteDroid.VmmRequestFrame

/-!
# Reads at the end of the disk

A positional read stops at the end of the file. The device copies as many
bytes as it was given, but reports success and the full length of the buffer
whatever that number is. A completed read has moved all of its bytes exactly
when they all lie on the disk and nothing the completion stores runs into the
buffer with another byte.
-/

namespace LiteDroid.VmmShortReads

open CoreResults MemoryRegion StorageImage VmmBlockDevice VmmQueueLayout VmmBlockRequest
open VmmDiskStore VmmBlockQueue VmmRequestFrame LittleEndian ByteRange

/-- The length that the used ring reports for a request. -/
def reportedLength (device : VirtioBlock) (chain : Chain) (world : World) (after : GuestMemory) :
    ℕ := leNat (slice after.byte (elementStart device chain world+4) 4)

/-- A read moved its whole payload: every byte of the request is on the disk,
the buffer holds them all, and the reported length is the number of bytes that
were placed. -/
structure CompleteRead (device : VirtioBlock) (chain : Chain) (world : World)
    (after : GuestMemory) : Prop where
  /-- The request does not reach past the end of the disk. -/
  onDisk : ∀ i < chain.payloadLen.toNat, chain.sector.toNat*512+i < world.file.length
  /-- The payload buffer holds the bytes of the disk. -/
  bytes : ∀ i < chain.payloadLen.toNat,
    after.byte (chain.payloadAddr.toNat+i)=world.file.byte (chain.sector.toNat*512+i)
  /-- The used ring tells how many bytes were placed. -/
  reported : reportedLength device chain world after=(readBytes chain world).length

/-- A request that is empty or ends inside a file. -/
def Inside (chain : Chain) (file : HostFile) : Prop :=
  chain.payloadLen.toNat=0 ∨ chain.sector.toNat*512+chain.payloadLen.toNat ≤ file.length

/-- Wherever the status byte, the used index or the used element of a request
lie in its payload buffer, the byte stored there is that of the disk. -/
def Undisturbed (device : VirtioBlock) (head : UInt16) (chain : Chain) (world : World) : Prop :=
  ∀ i < chain.payloadLen.toNat, ∀ b,
    completionByte device head chain world (chain.payloadAddr.toNat+i)=some b →
      b=world.file.byte (chain.sector.toNat*512+i)

/-- The completion of a request that is apart stores nothing into its payload. -/
theorem apart_undisturbed {device : VirtioBlock} {head : UInt16} {chain : Chain} {world : World}
    (hn : device.queueNum≠0) (h : Apart device chain) : Undisturbed device head chain world := by
  intro i hi b hb
  have hslot := usedSlot_lt (acknowledged chain world).memory hn
  have hstatus := h.status
  have hring := h.payloadRing
  unfold Separate at hstatus hring
  unfold completionByte elementStart at hb
  dsimp only at hb
  rw [if_neg (by omega),if_neg (by omega),if_neg (by omega),if_neg (by omega)] at hb
  cases hb

/-- The used ring reports the length of the payload buffer. -/
theorem completed_reported (device : VirtioBlock) (head : UInt16) (chain : Chain) (world : World) :
    reportedLength device chain world (completed device head chain world).memory=
      chain.payloadLen.toNat := by
  have hlt := chain.payloadLen.toNat_lt
  have hslice : slice (completed device head chain world).memory.byte
      (elementStart device chain world+4) 4=leBytes 4 chain.payloadLen.toNat := by
    have helement := completed_element device head chain world
    rw [show (8 : ℕ)=4+4 from rfl,slice_add] at helement
    exact (List.append_inj' helement (by rw [slice_length,leBytes_length])).2
  rw [reportedLength,hslice,leNat_leBytes]
  omega

/-- A read whose bytes are all on the disk delivers each of them. -/
theorem delivered_inside {chain : Chain} {world : World} (h0 : chain.requestType=0)
    (hfile : world.file.length < 2^63) (hin : Inside chain world.file) :
    (readBytes chain world).length=chain.payloadLen.toNat ∧
      ∀ i < chain.payloadLen.toNat, (delivered chain world).memory.byte
        (chain.payloadAddr.toNat+i)=world.file.byte (chain.sector.toNat*512+i) := by
  by_cases hempty : chain.payloadLen.toNat=0
  · have hle := readBytes_length_le chain world
    exact ⟨by omega,fun i hi => absurd hi (by omega)⟩
  · have hend : chain.sector.toNat*512+chain.payloadLen.toNat ≤ world.file.length :=
      hin.resolve_left hempty
    have hoffset : (byteOffset chain).toNat=chain.sector.toNat*512 := by
      simp only [byteOffset,UInt64.toNat_mul,UInt64.reduceToNat]
      omega
    have hread : readBytes chain world=
        slice world.file.byte (chain.sector.toNat*512) chain.payloadLen.toNat := by
      rw [readBytes,hoffset,readable_of_le hend]
    have hbyte : (delivered chain world).memory.byte=
        overwrite world.memory.byte chain.payloadAddr.toNat (readBytes chain world) := by
      rw [delivered,if_pos h0,world_memory,store_byte]
    refine ⟨by rw [hread,slice_length],?_⟩
    intro i hi
    rw [hbyte,hread,overwrite_inside _ _ _ i (by rw [slice_length]; exact hi)]
    simp only [slice,List.getElem_map,List.getElem_range]

/-- A completed read moved its whole payload exactly when the request is empty
or ends inside the disk, and nothing its completion stores into the buffer
differs from the disk. The latter is given when payload, status byte and used
ring are apart. -/
theorem complete_read_iff (profile : Profile) (device : VirtioBlock) (head : UInt16)
    (world : World) (chain : Chain) (hfile : world.file.length < 2^63)
    (hc : walkChain profile device.queueNum world.memory device.queue head=.ok chain)
    (h0 : chain.requestType=0) (hok : (serve profile device head world).outcome=.ok ()) :
    (CompleteRead device chain world (serve profile device head world).world.memory ↔
      Inside chain world.file ∧ Undisturbed device head chain world) ∧
    (Apart device chain → Undisturbed device head chain world) := by
  obtain ⟨other,hother,-,-,hw⟩ := processRequest_ok hok
  rw [hc] at hother
  obtain rfl := Except.ok.inj hother
  refine ⟨?_,apart_undisturbed (walkChain_ok_size hc)⟩
  rw [serve,hw]
  constructor
  · intro h
    have hin : Inside chain world.file := by
      by_cases hempty : chain.payloadLen.toNat=0
      · exact Or.inl hempty
      · have hlast := h.onDisk (chain.payloadLen.toNat-1) (by omega)
        exact Or.inr (by omega)
    refine ⟨hin,?_⟩
    intro i hi b hb
    have hbyte := h.bytes i hi
    rw [completed_byte,hb,Option.getD_some] at hbyte
    exact hbyte
  · rintro ⟨hin,hsame⟩
    obtain ⟨hlength,hbytes⟩ := delivered_inside h0 hfile hin
    refine ⟨?_,?_,?_⟩
    · intro i hi
      have hend := hin.resolve_left (by omega)
      omega
    · intro i hi
      rw [completed_byte]
      cases hb : completionByte device head chain world (chain.payloadAddr.toNat+i) with
      | none => exact hbytes i hi
      | some b => exact hsame i hi b hb
    · rw [completed_reported,hlength]

/-- The read of three bytes of the first sector moves its whole payload. -/
theorem complete_read_iff_first :
    CompleteRead smallDevice ⟨0,0,0x3100,3,3,0x3200⟩ ⟨loadCall.memory,blankImage⟩
      (serve .release smallDevice 0 ⟨loadCall.memory,blankImage⟩).world.memory := by
  have hapart : Apart smallDevice ⟨0,0,0x3100,3,3,0x3200⟩ :=
    ⟨by decide +kernel,by decide +kernel,by decide +kernel⟩
  have h := complete_read_iff .release smallDevice 0 ⟨loadCall.memory,blankImage⟩
    ⟨0,0,0x3100,3,3,0x3200⟩ (by decide) (by decide +kernel) rfl (by decide +kernel)
  exact h.1.mpr ⟨Or.inr (by decide),h.2 hapart⟩

/-- A read of three bytes of the second sector of a disk that has one; its
buffer holds old bytes. -/
def pastEnd : World :=
  ⟨store (requestMemory 0 3 [7,8,9] 0x3200) 0x3008 (leBytes 8 1),blankImage⟩

/-- The read past the end is completed with three bytes reported and none moved. -/
theorem read_past_end_succeeds :
    walkChain .release smallDevice.queueNum pastEnd.memory smallDevice.queue 0=
        .ok ⟨0,1,0x3100,3,3,0x3200⟩ ∧
      (serve .release smallDevice 0 pastEnd).outcome=.ok () ∧
      (serve .release smallDevice 0 pastEnd).world.memory.byte 0x3200=0 ∧
      slice (serve .release smallDevice 0 pastEnd).world.memory.byte 0x3100 3=[7,8,9] ∧
      reportedLength smallDevice ⟨0,1,0x3100,3,3,0x3200⟩ pastEnd
        (serve .release smallDevice 0 pastEnd).world.memory=3 ∧
      readBytes ⟨0,1,0x3100,3,3,0x3200⟩ pastEnd=[] ∧
      ¬CompleteRead smallDevice ⟨0,1,0x3100,3,3,0x3200⟩ pastEnd
        (serve .release smallDevice 0 pastEnd).world.memory := by
  refine ⟨by decide +kernel,by decide +kernel,by decide +kernel,by decide +kernel,
    by decide +kernel,by decide +kernel,?_⟩
  intro h
  exact absurd (h.onDisk 0 (by decide)) (by decide)

end LiteDroid.VmmShortReads
