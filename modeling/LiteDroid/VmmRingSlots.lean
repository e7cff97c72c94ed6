import LiteDroid.VmmQueueTrace

/-!
# Ring slots across the wrap of the counters

The device counts entries of both rings with 16-bit words and takes the slot
of an entry as its count modulo the queue size. The slots of consecutive
counts follow each other around the ring, except where the counter wraps from
its last value to zero: there they do so exactly when the queue size divides
2 to the 16. Then the slot is the same as that of the unbounded count, and
over a run of any length the entries go around both rings in order.
-/

namespace LiteDroid.VmmRingSlots

open CoreResults MemoryRegion StorageImage VmmBlockDevice VmmQueueLayout VmmBlockRequest
open VmmDiskStore VmmBlockQueue VmmBlockRuns VmmRequestEffects VmmQueueTrace
open LittleEndian ByteRange StepRun

/-- The slots of a wrapping counter follow each other except where it wraps to
a size that does not divide its range. -/
theorem slot_succ_iff {m k : ℕ} (q : ℕ) (hk : k < m) :
    (k+1)%m%q=(k%q+1)%q ↔ k+1≠m ∨ q ∣ m := by
  rw [Nat.mod_add_mod]
  by_cases hlast : k+1=m
  · rw [hlast,Nat.mod_self,Nat.zero_mod]
    constructor
    · intro h
      exact Or.inr (Nat.dvd_of_mod_eq_zero h.symm)
    · intro h
      rcases h with h | h
      · exact absurd rfl h
      · exact (Nat.mod_eq_zero_of_dvd h).symm
  · rw [Nat.mod_eq_of_lt (by omega : k+1 < m)]
    exact ⟨fun _ => Or.inl hlast,fun _ => rfl⟩

/-- The slot of the available ring that the loop reads, found from the address
it reads at. -/
def availSlot (device : VirtioBlock) : ℕ := (device.headAddr.toNat-(device.queue.toNat+4))/2

/-- The index word of the used ring. -/
def usedIndex (device : VirtioBlock) (memory : GuestMemory) : UInt16 :=
  wordAt memory (usedStart device+2)

/-- The available slots of one position and of the next follow each other. -/
def AvailCyclic (device : VirtioBlock) (k : UInt16) : Prop :=
  availSlot {device with lastAvail := k+1}=
    (availSlot {device with lastAvail := k}+1)%device.queueNum.toNat

/-- The used slots of one index and of the next follow each other. -/
def UsedCyclic (device : VirtioBlock) (k : UInt16) : Prop :=
  ∀ memory next, usedIndex device memory=k → usedIndex device next=k+1 →
    (usedSlot device next).toNat=((usedSlot device memory).toNat+1)%device.queueNum.toNat

/-- The available slot is the position modulo the queue size. -/
theorem availSlot_eq (device : VirtioBlock) :
    availSlot device=device.lastAvail.toNat%device.queueNum.toNat := by
  have h := headAddr_toNat device
  unfold availSlot
  omega

/-- The next value of a 16-bit counter. -/
theorem counter_succ (k : UInt16) : (k+1).toNat=(k.toNat+1)%2^16 := by
  rw [UInt16.toNat_add]
  rfl

/-- The law of a 16-bit counter in words. -/
theorem counter_slot_iff (device : VirtioBlock) (k : UInt16) :
    (k+1).toNat%device.queueNum.toNat=
        (k.toNat%device.queueNum.toNat+1)%device.queueNum.toNat ↔
      k≠65535 ∨ device.queueNum.toNat ∣ 2^16 := by
  have hlast : k≠65535 ↔ k.toNat+1≠2^16 := by
    have hvalue : (65535 : UInt16).toNat+1=2^16 := rfl
    rw [ne_eq,← UInt16.toNat_inj]
    omega
  rw [counter_succ,slot_succ_iff device.queueNum.toNat k.toNat_lt,hlast]

/-- Where the available slots are cyclic. -/
theorem availCyclic_iff (device : VirtioBlock) (k : UInt16) :
    AvailCyclic device k ↔ k≠65535 ∨ device.queueNum.toNat ∣ 2^16 := by
  rw [← counter_slot_iff]
  unfold AvailCyclic
  rw [availSlot_eq,availSlot_eq]

/-- Where the used slots are cyclic. -/
theorem usedCyclic_iff (device : VirtioBlock) (k : UInt16) :
    UsedCyclic device k ↔ k≠65535 ∨ device.queueNum.toNat ∣ 2^16 := by
  rw [← counter_slot_iff]
  constructor
  · intro h
    have hmemory := wordAt_store (filled []) (usedStart device+2) k
    have hnext := wordAt_store (filled []) (usedStart device+2) (k+1)
    have hlaw := h _ _ hmemory hnext
    unfold usedSlot at hlaw
    rw [hmemory,hnext,UInt16.toNat_mod,UInt16.toNat_mod] at hlaw
    exact hlaw
  · intro h memory next hmemory hnext
    unfold usedIndex at hmemory hnext
    unfold usedSlot
    rw [hmemory,hnext,UInt16.toNat_mod,UInt16.toNat_mod]
    exact h

/-- A machine with the number of entries it has completed. -/
structure Counted where
  /-- The device and what it works on. -/
  machine : BlockMachine
  /-- Entries completed so far. -/
  entries : ℕ

/-- One event, with the entries it completes added to the count. -/
def countedStep (profile : Profile) (state : Counted) (event : GuestEvent) : Option Counted :=
  (step profile state.machine event).map fun next =>
    ⟨next,state.entries+passed (eventCalls profile state.machine event)⟩

/-- The event writes neither the size nor the page of the queue. -/
def KeepsQueue : GuestEvent → Prop
  | .write addr _ =>
    routed addr → addr-virtioMmioStart≠0x38 ∧ addr-virtioMmioStart≠0x40
  | _ => True

/-- The used ring is left to the device: the guest keeps its index when it
rewrites memory, and no request writes into the ring. -/
structure RingKept (profile : Profile) (machine : BlockMachine) (event : GuestEvent) : Prop where
  /-- A rewrite of memory keeps the used index. -/
  index : ∀ byte, event=.rewrite byte → slice byte (usedStart machine.device+2) 2=
    slice machine.world.memory.byte (usedStart machine.device+2) 2
  /-- Every request keeps its payload and its status byte off the ring. -/
  offRing : ∀ call∈eventCalls profile machine event,
    OffRing profile machine.device call.head call.before

/-- The queue stays as it was programmed, and the position counts the
completed entries from where it started. -/
structure Positioned (device : VirtioBlock) (state : Counted) : Prop where
  /-- The size of the queue. -/
  size : state.machine.device.queueNum=device.queueNum
  /-- The page of the queue. -/
  page : state.machine.device.queuePfn=device.queuePfn
  /-- The position. -/
  position : state.machine.device.lastAvail=
    UInt16.ofNat (device.lastAvail.toNat+state.entries)

/-- A register write that keeps the queue moves nothing of the device but its
status and its position. -/
theorem write_queue {profile : Profile} {device : VirtioBlock} {offset value : UInt64}
    {world : World} (h38 : offset≠0x38) (h40 : offset≠0x40) :
    (device.write profile offset value world).device.queueNum=device.queueNum ∧
      (device.write profile offset value world).device.queuePfn=device.queuePfn := by
  have hpass : (processQueue profile device world).device.queueNum=device.queueNum ∧
      (processQueue profile device world).device.queuePfn=device.queuePfn := by
    unfold processQueue
    split
    · exact ⟨rfl,rfl⟩
    · obtain ⟨position,hp⟩ := serveLoop_device profile _ device world
      rw [hp]
      exact ⟨rfl,rfl⟩
  unfold VirtioBlock.write
  rw [if_neg h38,if_neg h40]
  generalize processQueue profile device world=pass at hpass ⊢
  split_ifs
  · dsimp only
    split <;> exact hpass
  · exact ⟨rfl,rfl⟩
  · exact ⟨rfl,rfl⟩
  · exact ⟨rfl,rfl⟩

/-- An event that keeps the queue keeps its registers. -/
theorem handle_queue {profile : Profile} {machine : BlockMachine} {event : GuestEvent}
    (h : KeepsQueue event) :
    (handle profile machine event).machine.device.queueNum=machine.device.queueNum ∧
      (handle profile machine event).machine.device.queuePfn=machine.device.queuePfn := by
  cases event with
  | read addr len => exact ⟨rfl,rfl⟩
  | rewrite byte => exact ⟨rfl,rfl⟩
  | write addr data =>
    unfold handle mmioWrite
    dsimp only
    by_cases hr : routed addr
    · rw [if_pos hr,if_pos data.property]
      exact write_queue (h hr).1 (h hr).2
    · rw [if_neg hr]
      exact ⟨rfl,rfl⟩

/-- A counted step is a step of the machine. -/
theorem countedStep_eq {profile : Profile} {state next : Counted} {event : GuestEvent}
    (h : countedStep profile state event=some next) :
    next=⟨(handle profile state.machine event).machine,
      state.entries+passed (eventCalls profile state.machine event)⟩ := by
  unfold countedStep at h
  obtain ⟨machine,hs,rfl⟩ := Option.map_eq_some_iff.mp h
  rw [← step_machine hs]

/-- An event that keeps the queue keeps the count of the position. -/
theorem positioned_step {profile : Profile} {device : VirtioBlock} {state next : Counted}
    {event : GuestEvent} (hp : Positioned device state) (hk : KeepsQueue event)
    (hs : countedStep profile state event=some next) : Positioned device next := by
  obtain ⟨hsize,hpage⟩ := @handle_queue profile state.machine event hk
  obtain ⟨-,hlast⟩ := handle_numbered profile state.machine event _ hp.position
  rw [countedStep_eq hs]
  refine ⟨hsize.trans hp.size,hpage.trans hp.page,?_⟩
  rw [Nat.add_assoc] at hlast
  exact hlast

/-- The used ring of a queue lies where its registers say. -/
theorem usedStart_congr {first second : VirtioBlock} (hsize : first.queueNum=second.queueNum)
    (hpage : first.queuePfn=second.queuePfn) : usedStart first=usedStart second := by
  unfold usedStart VirtioBlock.queue
  rw [hsize,hpage]

/-- A pass that stays off the ring moves the used index by its completed calls. -/
theorem processQueue_index {profile : Profile} {device : VirtioBlock} {world : World}
    (h : ∀ call∈(processQueue profile device world).calls,
      OffRing profile device call.head call.before) :
    usedIndex device (processQueue profile device world).world.memory=
      usedIndex device world.memory+
        UInt16.ofNat (passed (processQueue profile device world).calls) := by
  unfold processQueue at h ⊢
  split at h
  · exact (UInt16.add_zero _).symm
  · rename_i availIdx hindex
    rw [serveLoop_leftBy]
    exact serveLoop_used profile availIdx device world h _ [] (List.append_nil _).symm

/-- An event that leaves the ring to the device moves the used index by the
entries it completes. -/
theorem handle_index {profile : Profile} {machine : BlockMachine} {event : GuestEvent}
    (h : RingKept profile machine event) :
    usedIndex machine.device (handle profile machine event).machine.world.memory=
      usedIndex machine.device machine.world.memory+
        UInt16.ofNat (passed (eventCalls profile machine event)) := by
  have hnone : ∀ word : UInt16, word=word+UInt16.ofNat (passed []) := fun word =>
    (UInt16.add_zero word).symm
  cases event with
  | read addr len => exact hnone _
  | rewrite byte =>
    refine Eq.trans ?_ (hnone _)
    have hsame := h.index byte rfl
    unfold usedIndex wordAt
    exact congrArg (fun bytes => UInt16.ofNat (leNat bytes)) hsame
  | write addr data =>
    have hoff := h.offRing
    unfold eventCalls at hoff ⊢
    unfold handle mmioWrite at hoff ⊢
    dsimp only at hoff ⊢
    by_cases hr : routed addr
    · rw [if_pos hr,if_pos data.property] at hoff ⊢
      unfold VirtioBlock.write at hoff ⊢
      split_ifs at hoff ⊢
      · exact hnone _
      · exact hnone _
      · have hpass := @processQueue_index profile machine.device machine.world
        generalize processQueue profile machine.device machine.world=pass at hpass hoff ⊢
        obtain ⟨outcome,device,world,index,calls⟩ := pass
        rcases outcome with (cause | cause) | _ <;> exact hpass hoff
      · exact hnone _
      · exact hnone _
      · exact hnone _
    · rw [if_neg hr]
      exact hnone _

/-- The used index counts the completed entries from where it started. -/
structure Indexed (device : VirtioBlock) (start : UInt16) (state : Counted) : Prop
    extends Positioned device state where
  /-- The used index. -/
  index : usedIndex device state.machine.world.memory=start+UInt16.ofNat state.entries

/-- An event that keeps the queue and leaves the ring to the device keeps both counts. -/
theorem indexed_step {profile : Profile} {device : VirtioBlock} {start : UInt16}
    {state next : Counted} {event : GuestEvent} (hi : Indexed device start state)
    (hk : KeepsQueue event) (hr : RingKept profile state.machine event)
    (hs : countedStep profile state event=some next) : Indexed device start next := by
  have hring := usedStart_congr hi.size hi.page
  have hindex := handle_index hr
  have hold := hi.index
  unfold usedIndex at hindex hold
  rw [hring,hold] at hindex
  refine ⟨positioned_step hi.toPositioned hk hs,?_⟩
  rw [countedStep_eq hs]
  unfold usedIndex
  dsimp only
  rw [hindex,UInt16.add_assoc,UInt16.ofNat_add]

/-- The calls of an event are those of a loop over the queue. -/
theorem eventCalls_loop {profile : Profile} {machine : BlockMachine} {event : GuestEvent}
    {call : RequestCall} (hm : call∈eventCalls profile machine event) :
    ∃ availIdx, eventCalls profile machine event=
      (serveLoop profile availIdx machine.device machine.world).calls := by
  obtain ⟨hcalls,-⟩ | ⟨hcalls,-⟩ := handle_pass profile machine event
  · rw [hcalls] at hm
    cases hm
  · rw [hcalls] at hm ⊢
    unfold processQueue at hm ⊢
    split at hm
    · cases hm
    · exact ⟨_,rfl⟩

/-- On a queue whose size divides the range of the counter, the entry of any
number is read at that number's slot. -/
theorem call_availSlot {profile : Profile} {device : VirtioBlock} {state : Counted}
    {event : GuestEvent} (hq : device.queueNum.toNat ∣ 2^16) (hp : Positioned device state)
    {earlier later : List RequestCall} {call : RequestCall}
    (hcalls : eventCalls profile state.machine event=earlier++call::later) :
    ∃ addr : UInt64, addr.toNat=device.queue.toNat+4+
        2*((device.lastAvail.toNat+(state.entries+earlier.length))%device.queueNum.toNat) ∧
      guestU16 call.before.memory addr=.ok call.head := by
  have hm : call∈eventCalls profile state.machine event := by
    rw [hcalls]
    exact List.mem_append_right _ List.mem_cons_self
  obtain ⟨availIdx,hloop⟩ := eventCalls_loop hm
  rw [hloop] at hcalls
  obtain ⟨-,-,hread,-,-⟩ :=
    serveLoop_split profile availIdx state.machine.device state.machine.world earlier call later
      hcalls
  refine ⟨_,?_,hread⟩
  have hqueue : state.machine.device.queue=device.queue := by
    unfold VirtioBlock.queue
    rw [hp.page]
  rw [ahead_headAddr,hqueue,hp.size,hp.position,UInt16.toNat_ofNat',Nat.mod_add_mod,
    Nat.mod_mod_of_dvd _ hq,Nat.add_assoc device.lastAvail.toNat]

/-- On such a queue the completed entry of any number is published in that
number's element. -/
theorem call_usedSlot {profile : Profile} {device : VirtioBlock} {start : UInt16}
    {state : Counted} {event : GuestEvent} (hq : device.queueNum.toNat ∣ 2^16)
    (hi : Indexed device start state) (hr : RingKept profile state.machine event)
    {earlier later : List RequestCall} {call : RequestCall}
    (hcalls : eventCalls profile state.machine event=earlier++call::later)
    (hok : call.report.outcome=.ok ()) :
    slice call.report.world.memory.byte (usedStart device+4+
        8*((start.toNat+(state.entries+earlier.length))%device.queueNum.toNat)) 4=
      leBytes 4 call.head.toUInt32.toNat := by
  have hm : call∈eventCalls profile state.machine event := by
    rw [hcalls]
    exact List.mem_append_right _ List.mem_cons_self
  obtain ⟨availIdx,hloop⟩ := eventCalls_loop hm
  have hoff := hr.offRing
  have hoffCall := hoff call hm
  rw [hloop] at hcalls hoff
  obtain ⟨-,hbefore,-,hreport,hall⟩ :=
    serveLoop_split profile availIdx state.machine.device state.machine.world earlier call later
      hcalls
  have hcount := serveLoop_used profile availIdx state.machine.device state.machine.world hoff
    earlier (call::later) hcalls
  rw [hreport] at hok
  obtain ⟨-,hslice⟩ := serve_index_ok hoffCall hok
  have hring := usedStart_congr hi.size hi.page
  have hindex := hi.index
  unfold usedIndex at hindex
  rw [← hreport,hbefore,hcount,passed_eq_length hall,hring,hindex,hi.size,UInt16.add_assoc,
    ← UInt16.ofNat_add,ahead_slot,Nat.mod_mod_of_dvd _ hq] at hslice
  exact hslice

/-- The entries of a run go around the available ring in order: the entry
completed after some number of others is read at the slot of that number. -/
def AvailInOrder (profile : Profile) (device : VirtioBlock) (state : Counted) (event : GuestEvent) :
    Prop :=
  ∀ earlier call later, eventCalls profile state.machine event=earlier++call::later →
    ∃ addr : UInt64, addr.toNat=device.queue.toNat+4+
        2*((device.lastAvail.toNat+(state.entries+earlier.length))%device.queueNum.toNat) ∧
      guestU16 call.before.memory addr=.ok call.head

/-- The completed entries of a run go around the used ring in order. -/
def UsedInOrder (profile : Profile) (device : VirtioBlock) (start : UInt16) (state : Counted)
    (event : GuestEvent) : Prop :=
  ∀ earlier call later, eventCalls profile state.machine event=earlier++call::later →
    call.report.outcome=.ok () →
    slice call.report.world.memory.byte (usedStart device+4+
        8*((start.toNat+(state.entries+earlier.length))%device.queueNum.toNat)) 4=
      leBytes 4 call.head.toUInt32.toNat

/-- Ring slots across the wrap of the counters. For every queue size and every
16-bit index, the slots of the index and of the next one follow each other in
either ring exactly when the index is not the last one or the size divides 2 to
the 16. If the size divides it, every run that keeps the queue's registers
takes its entries from the available ring in order, whatever its length, and
publishes them in the used ring in order where that is left to the device. -/
theorem ring_slots_cyclic_iff (profile : Profile) (device : VirtioBlock) :
    (∀ k, AvailCyclic device k ↔ k≠65535 ∨ device.queueNum.toNat ∣ 2^16) ∧
    (∀ k, UsedCyclic device k ↔ k≠65535 ∨ device.queueNum.toNat ∣ 2^16) ∧
    (device.queueNum.toNat ∣ 2^16 → ∀ world events, (∀ event∈events, KeepsQueue event) →
      (∀ visit∈visits (countedStep profile) ⟨⟨device,world⟩,0⟩ events,
        AvailInOrder profile device visit.1 visit.2) ∧
      ((∀ visit∈visits (countedStep profile) ⟨⟨device,world⟩,0⟩ events,
          RingKept profile visit.1.machine visit.2) →
        ∀ visit∈visits (countedStep profile) ⟨⟨device,world⟩,0⟩ events,
          UsedInOrder profile device (usedIndex device world.memory) visit.1 visit.2)) := by
  refine ⟨availCyclic_iff device,usedCyclic_iff device,?_⟩
  intro hq world events hkeeps
  have hstart : Positioned device ⟨⟨device,world⟩,0⟩ :=
    ⟨rfl,rfl,UInt16.ofNat_toNat.symm⟩
  refine ⟨?_,?_⟩
  · intro visit hv earlier call later hcalls
    have hp := @visits_invariant _ _ (countedStep profile) (Positioned device)
      (fun _ event => KeepsQueue event) (fun _ _ _ hp hk hs => positioned_step hp hk hs)
      events _ hstart (fun other ho => hkeeps _ (visits_input ho)) visit hv
    exact call_availSlot hq hp hcalls
  · intro hring visit hv earlier call later hcalls hok
    have hi := @visits_invariant _ _ (countedStep profile)
      (Indexed device (usedIndex device world.memory))
      (fun state event => KeepsQueue event ∧ RingKept profile state.machine event)
      (fun _ _ _ hi hk hs => indexed_step hi hk.1 hk.2 hs) events _
      ⟨hstart,(UInt16.add_zero _).symm⟩
      (fun other ho => ⟨hkeeps _ (visits_input ho),hring other ho⟩) visit hv
    exact call_usedSlot hq hi (hring visit hv) hcalls hok

/-- A queue of four entries keeps its order, also over the notification of a
published write request. -/
theorem ring_slots_cyclic_iff_four :
    (∀ k, AvailCyclic smallDevice k) ∧ (∀ k, UsedCyclic smallDevice k) ∧
      ∀ visit∈visits (countedStep .release) ⟨⟨smallDevice,⟨batchMemory 1,blankImage⟩⟩,0⟩
          [registerWrite 0x50 0], AvailInOrder .release smallDevice visit.1 visit.2 := by
  have h := ring_slots_cyclic_iff .release smallDevice
  have hq : smallDevice.queueNum.toNat ∣ 2^16 := by decide
  have hkeeps : KeepsQueue (registerWrite 0x50 0) := fun _ => by decide
  refine ⟨fun k => (h.1 k).mpr (Or.inr hq),fun k => (h.2.1 k).mpr (Or.inr hq),?_⟩
  refine (h.2.2 hq ⟨batchMemory 1,blankImage⟩ [registerWrite 0x50 0] ?_).1
  intro event hm
  obtain rfl := List.mem_singleton.mp hm
  exact hkeeps

/-- A driver that programs a queue of three entries: the position 65535 and the
position 0 behind it have the same slot in both rings, so that the first entry
is taken twice in a row. -/
theorem three_entries_repeat_slot :
    ((VirtioBlock.new ⟨512⟩).write .release 0x38 3 pendingWorld).device.queueNum=3 ∧
      availSlot ⟨⟨512⟩,3,1,0,65535⟩=0 ∧ availSlot ⟨⟨512⟩,3,1,0,65535+1⟩=0 ∧
      ¬AvailCyclic ⟨⟨512⟩,3,1,0,0⟩ 65535 ∧ ¬UsedCyclic ⟨⟨512⟩,3,1,0,0⟩ 65535 := by
  have hq : ¬((65535 : UInt16)≠65535 ∨ (3 : UInt16).toNat ∣ 2^16) := by decide
  refine ⟨by decide,by decide,by decide,?_,?_⟩
  · rw [availCyclic_iff]
    exact hq
  · rw [usedCyclic_iff]
    exact hq

end LiteDroid.VmmRingSlots
