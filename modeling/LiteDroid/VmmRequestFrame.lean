import LiteDroid.VmmBlockQueue

/-!
# What a completed request leaves in guest memory

A completed request has made at most five stores: the bytes of a read, the
status byte, the two halves of a used element and the used index. They go to
addresses of the guest's choice and may run into each other, the later ones
on top. What is left at an address is the byte of the last store there, and
every other address keeps what it held.
-/

namespace LiteDroid.VmmRequestFrame

open CoreResults MemoryRegion StorageImage VmmBlockDevice VmmQueueLayout VmmBlockRequest
open VmmDiskStore VmmBlockQueue LittleEndian ByteRange

/-- The used element that a completed request is published in. The index that
selects it is read after the data and the status byte were stored. -/
def elementStart (device : VirtioBlock) (chain : Chain) (world : World) : ℕ :=
  usedStart device+4+8*(usedSlot device (acknowledged chain world).memory).toNat

/-- The byte that completing a request stores at an address, after the data
was moved: of the used index, of the used element or of the status, whichever
was stored last. -/
def completionByte (device : VirtioBlock) (head : UInt16) (chain : Chain) (world : World)
    (a : ℕ) : Option UInt8 :=
  let next := wordAt (acknowledged chain world).memory (usedStart device+2)+1
  let element := elementStart device chain world
  if usedStart device+2 ≤ a ∧ a < usedStart device+4 then
    (leBytes 2 next.toNat)[a-(usedStart device+2)]?
  else if element+4 ≤ a ∧ a < element+8 then (leBytes 4 chain.payloadLen.toNat)[a-(element+4)]?
  else if element ≤ a ∧ a < element+4 then (leBytes 4 head.toUInt32.toNat)[a-element]?
  else if a=chain.statusAddr.toNat then some (statusOf chain)
  else none

/-- The cell at an address after a write. -/
theorem overwrite_apply {α : Type} (f : ℕ → α) (start a : ℕ) (data : List α) :
    overwrite f start data a=
      (if start ≤ a ∧ a < start+data.length then data[a-start]? else none).getD (f a) := by
  by_cases h : start ≤ a ∧ a < start+data.length
  · rw [if_pos h,overwrite,if_pos h.1]
  · rw [if_neg h,overwrite_outside (by omega)]
    rfl

/-- The byte at an address after a completed request. -/
theorem completed_byte (device : VirtioBlock) (head : UInt16) (chain : Chain) (world : World)
    (a : ℕ) :
    (completed device head chain world).memory.byte a=
      (completionByte device head chain world a).getD ((delivered chain world).memory.byte a) := by
  have hpublished : (completed device head chain world).memory.byte=
      overwrite (overwrite (overwrite (acknowledged chain world).memory.byte
        (elementStart device chain world) (leBytes 4 head.toUInt32.toNat))
        (elementStart device chain world+4) (leBytes 4 chain.payloadLen.toNat))
        (usedStart device+2)
        (leBytes 2 (wordAt (acknowledged chain world).memory (usedStart device+2)+1).toNat) := by
    rw [completed_memory,published,store_byte,store_byte,store_byte,elementStart]
  have hstatus : (acknowledged chain world).memory.byte=
      overwrite (delivered chain world).memory.byte chain.statusAddr.toNat [statusOf chain] := by
    rw [acknowledged,world_memory,store_byte]
  rw [hpublished,hstatus]
  unfold completionByte
  dsimp only
  rw [overwrite_apply,leBytes_length]
  by_cases hindex : usedStart device+2 ≤ a ∧ a < usedStart device+2+2
  · have hin : usedStart device+2 ≤ a ∧ a < usedStart device+4 := by omega
    rw [if_pos hindex,if_pos hin,
      List.getElem?_eq_getElem (by rw [leBytes_length]; omega),Option.getD_some,Option.getD_some]
  · have hout : ¬(usedStart device+2 ≤ a ∧ a < usedStart device+4) := by omega
    rw [if_neg hindex,if_neg hout,Option.getD_none,overwrite_apply,leBytes_length]
    by_cases hlength : elementStart device chain world+4 ≤ a ∧
        a < elementStart device chain world+4+4
    · have hin : elementStart device chain world+4 ≤ a ∧
          a < elementStart device chain world+8 := by omega
      rw [if_pos hlength,if_pos hin,
        List.getElem?_eq_getElem (by rw [leBytes_length]; omega),Option.getD_some,
        Option.getD_some]
    · have hbehind : ¬(elementStart device chain world+4 ≤ a ∧
          a < elementStart device chain world+8) := by omega
      rw [if_neg hlength,if_neg hbehind,Option.getD_none,overwrite_apply,leBytes_length]
      by_cases hid : elementStart device chain world ≤ a ∧ a < elementStart device chain world+4
      · rw [if_pos hid,if_pos hid,
          List.getElem?_eq_getElem (by rw [leBytes_length]; omega),Option.getD_some,
          Option.getD_some]
      · rw [if_neg hid,if_neg hid,Option.getD_none,overwrite_apply,List.length_singleton]
        by_cases hs : a=chain.statusAddr.toNat
        · rw [if_pos hs,if_pos (by omega),hs,Nat.sub_self,List.getElem?_cons_zero]
        · rw [if_neg hs,if_neg (by omega)]

/-- The addresses a completed request may change: the transferred part of the
payload of a read, the status byte, the used index and the used element. -/
def Touched (device : VirtioBlock) (chain : Chain) (world : World) (a : ℕ) : Prop :=
  (chain.requestType=0 ∧ chain.payloadAddr.toNat ≤ a ∧
    a < chain.payloadAddr.toNat+(readBytes chain world).length) ∨
  a=chain.statusAddr.toNat ∨ (usedStart device+2 ≤ a ∧ a < usedStart device+4) ∨
  (elementStart device chain world ≤ a ∧ a < elementStart device chain world+8)

/-- Moving the data changes only the transferred part of the payload of a read. -/
theorem delivered_outside {chain : Chain} {world : World} {a : ℕ}
    (h : ¬(chain.requestType=0 ∧ chain.payloadAddr.toNat ≤ a ∧
      a < chain.payloadAddr.toNat+(readBytes chain world).length)) :
    (delivered chain world).memory.byte a=world.memory.byte a := by
  unfold delivered
  split_ifs with h0 h1
  · rw [world_memory,store_byte]
    apply overwrite_outside
    by_contra hin
    exact h ⟨h0,by omega,by omega⟩
  · rfl
  · rfl

/-- Completing a request stores nothing outside the addresses it may change. -/
theorem completionByte_untouched {device : VirtioBlock} {head : UInt16} {chain : Chain}
    {world : World} {a : ℕ} (h : ¬Touched device chain world a) :
    completionByte device head chain world a=none := by
  unfold Touched at h
  unfold completionByte
  dsimp only
  rw [if_neg (by omega),if_neg (by omega),if_neg (by omega),if_neg (by omega)]

/-- A completed request keeps every byte it may not change. -/
theorem completed_untouched {device : VirtioBlock} {head : UInt16} {chain : Chain}
    {world : World} {a : ℕ} (h : ¬Touched device chain world a) :
    (completed device head chain world).memory.byte a=world.memory.byte a := by
  rw [completed_byte,completionByte_untouched h,Option.getD_none]
  exact delivered_outside fun hin => h (Or.inl hin)

/-- Payload, status byte and used ring of a request have no byte in common. -/
structure Apart (device : VirtioBlock) (chain : Chain) : Prop where
  /-- The payload does not contain the status byte. -/
  status : Separate chain.payloadAddr.toNat chain.payloadLen.toNat chain.statusAddr.toNat 1
  /-- The payload does not meet the used ring. -/
  payloadRing : Separate chain.payloadAddr.toNat chain.payloadLen.toNat
    (usedStart device) (4+8*device.queueNum.toNat)
  /-- The status byte does not lie in the used ring. -/
  statusRing : Separate chain.statusAddr.toNat 1 (usedStart device) (4+8*device.queueNum.toNat)

/-- A read transfers at most its payload length. -/
theorem readBytes_length_le (chain : Chain) (world : World) :
    (readBytes chain world).length ≤ chain.payloadLen.toNat := by
  unfold readBytes readable
  rw [slice_length]
  exact Nat.min_le_left _ _

/-- Data and status byte that stay off the used ring leave it as it was. -/
theorem acknowledged_ring {device : VirtioBlock} {chain : Chain} (world : World)
    (hp : Separate chain.payloadAddr.toNat chain.payloadLen.toNat
      (usedStart device) (4+8*device.queueNum.toNat))
    (hs : Separate chain.statusAddr.toNat 1 (usedStart device) (4+8*device.queueNum.toNat))
    {a : ℕ} (ha : usedStart device ≤ a) (hb : a < usedStart device+4+8*device.queueNum.toNat) :
    (acknowledged chain world).memory.byte a=world.memory.byte a := by
  have hlength := readBytes_length_le chain world
  unfold Separate at hp hs
  rw [acknowledged,world_memory,store_byte,
    overwrite_outside (by rw [List.length_singleton]; omega)]
  exact delivered_outside (by omega)

/-- The used index that selects the element is the one the request found. -/
theorem acknowledged_index {device : VirtioBlock} {chain : Chain} (world : World)
    (hp : Separate chain.payloadAddr.toNat chain.payloadLen.toNat
      (usedStart device) (4+8*device.queueNum.toNat))
    (hs : Separate chain.statusAddr.toNat 1 (usedStart device) (4+8*device.queueNum.toNat)) :
    wordAt (acknowledged chain world).memory (usedStart device+2)=
      wordAt world.memory (usedStart device+2) := by
  have hslice : slice (acknowledged chain world).memory.byte (usedStart device+2) 2=
      slice world.memory.byte (usedStart device+2) 2 := by
    apply (slice_eq_iff _ _ _ _ _).mpr
    intro i hi
    exact acknowledged_ring world hp hs (by omega) (by omega)
  unfold wordAt
  rw [hslice]

/-- A completed request moves the used index on by one. -/
theorem completed_index (device : VirtioBlock) (head : UInt16) (chain : Chain) (world : World) :
    wordAt (completed device head chain world).memory (usedStart device+2)=
      wordAt (acknowledged chain world).memory (usedStart device+2)+1 := by
  rw [completed_memory,published,wordAt_store]

/-- The used element of a completed request holds its head and its length. -/
theorem completed_element (device : VirtioBlock) (head : UInt16) (chain : Chain) (world : World) :
    slice (completed device head chain world).memory.byte (elementStart device chain world) 8=
      leBytes 4 head.toUInt32.toNat++leBytes 4 chain.payloadLen.toNat := by
  have hlength : (leBytes 4 head.toUInt32.toNat++leBytes 4 chain.payloadLen.toNat).length=8 := by
    rw [List.length_append,leBytes_length,leBytes_length]
  have hring : usedStart device+4 ≤ elementStart device chain world := Nat.le_add_right _ _
  rw [← hlength]
  apply (slice_eq_list_iff _ _ _).mpr
  intro i hi
  rw [completed_byte]
  unfold completionByte
  dsimp only
  rw [if_neg (by omega)]
  by_cases hhead : i < 4
  · rw [if_neg (by omega),if_pos (by omega),
      List.getElem_append_left (by rw [leBytes_length]; exact hhead),Nat.add_sub_cancel_left,
      List.getElem?_eq_getElem (by rw [leBytes_length]; exact hhead),Option.getD_some]
  · have hindex : elementStart device chain world+i-(elementStart device chain world+4)=i-4 := by
      omega
    rw [if_pos (by omega),
      List.getElem_append_right (by rw [leBytes_length]; omega),hindex,
      List.getElem?_eq_getElem (by rw [leBytes_length]; omega),Option.getD_some]
    simp only [leBytes_length]

/-- The status byte of a completed request stays what was stored. -/
theorem completed_status {device : VirtioBlock} {head : UInt16} {chain : Chain} (world : World)
    (hn : device.queueNum≠0)
    (hs : Separate chain.statusAddr.toNat 1 (usedStart device) (4+8*device.queueNum.toNat)) :
    (completed device head chain world).memory.byte chain.statusAddr.toNat=statusOf chain := by
  have hslot := usedSlot_lt (acknowledged chain world).memory hn
  unfold Separate at hs
  rw [completed_byte]
  unfold completionByte elementStart
  dsimp only
  rw [if_neg (by omega),if_neg (by omega),if_neg (by omega),if_pos rfl,Option.getD_some]

/-- A completed request changes guest memory at most in the transferred part of
the payload of a read, the status byte, the used index and the used element it
selected. It keeps the size of guest memory, and the file unless it is a write.
The loop goes on with the registers it found, one entry further. When payload,
status byte and used ring are apart, the status byte tells the kind of request,
the used element holds head and length, and the index has grown by one. -/
theorem request_frame (profile : Profile) (device : VirtioBlock) (head : UInt16) (world : World)
    (h : (serve profile device head world).outcome=.ok ()) :
    ∃ chain, walkChain profile device.queueNum world.memory device.queue head=.ok chain ∧
      (∀ a, ¬Touched device chain world a →
        (serve profile device head world).world.memory.byte a=world.memory.byte a) ∧
      (serve profile device head world).world.memory.size=world.memory.size ∧
      (chain.requestType≠1 → (serve profile device head world).world.file=world.file) ∧
      (∀ availIdx, device.lastAvail≠availIdx → guestU16 world.memory device.headAddr=.ok head →
        (serveLoop profile availIdx device world).device=
          (serveLoop profile availIdx {device with lastAvail := device.lastAvail+1}
            (serve profile device head world).world).device) ∧
      (Apart device chain →
        (serve profile device head world).world.memory.byte chain.statusAddr.toNat=
            (if chain.requestType=0 ∨ chain.requestType=1 then 0 else 1) ∧
          slice (serve profile device head world).world.memory.byte
              (usedStart device+4+
                8*(wordAt world.memory (usedStart device+2)%device.queueNum).toNat) 8=
            leBytes 4 head.toUInt32.toNat++leBytes 4 chain.payloadLen.toNat ∧
          wordAt (serve profile device head world).world.memory (usedStart device+2)=
            wordAt world.memory (usedStart device+2)+1) := by
  obtain ⟨chain,hc,-,-,hw⟩ := processRequest_ok h
  have hn := walkChain_ok_size hc
  refine ⟨chain,hc,?_,serve_size profile device head world,?_,?_,?_⟩
  · intro a ha
    rw [serve,hw]
    exact completed_untouched ha
  · intro h1
    rw [serve,hw,completed_file,delivered_file world h1]
  · intro availIdx hne hh
    rw [serveLoop_pass hne hn hh h]
    rfl
  · intro hapart
    have hindex := acknowledged_index world hapart.payloadRing hapart.statusRing
    have helement := completed_element device head chain world
    rw [elementStart,usedSlot,hindex] at helement
    rw [serve,hw]
    refine ⟨completed_status world hn hapart.statusRing,helement,?_⟩
    rw [completed_index,hindex]

/-- The write of three bytes is completed: its frame is that of a write. -/
theorem request_frame_write :
    ∃ chain, walkChain .release smallDevice.queueNum storeCall.memory smallDevice.queue 0=
        .ok chain ∧
      (∀ a, ¬Touched smallDevice chain ⟨storeCall.memory,blankImage⟩ a →
        (serve .release smallDevice 0 ⟨storeCall.memory,blankImage⟩).world.memory.byte a=
          storeCall.memory.byte a) := by
  obtain ⟨chain,hc,hframe,-⟩ := request_frame .release smallDevice 0
    ⟨storeCall.memory,blankImage⟩ (by decide +kernel)
  exact ⟨chain,hc,hframe⟩

end LiteDroid.VmmRequestFrame
