import LiteDroid.VmmDiskStore

/-!
# The queue loop

One iteration of the loop either ends it or passes one entry. What the whole
pass does follows by induction on the pending entries: the calls it makes,
the position it ends at, and that it ends there exactly when every call it
made was completed.
-/

namespace LiteDroid.VmmBlockQueue

open CoreResults MemoryRegion StorageImage VmmBlockDevice VmmQueueLayout VmmBlockRequest
open VmmDiskStore LittleEndian ByteRange

/-- The report of serving one request of a device. -/
abbrev serve (profile : Profile) (device : VirtioBlock) (head : UInt16) (world : World) :
    RequestReport := processRequest profile device device.queue head world

/-- A property of the state before every request of a batch of pending
entries, followed as long as the requests are completed. -/
def EveryCall (P : VirtioBlock → UInt16 → World → Prop) (profile : Profile) :
    ℕ → VirtioBlock → World → Prop
  | 0,_,_ => True
  | n+1,device,world => ∀ head, guestU16 world.memory device.headAddr=.ok head →
      P device head world ∧ ((serve profile device head world).outcome=.ok () →
        EveryCall P profile n device.advance (serve profile device head world).world)

/-- At the available index the loop is done. -/
theorem serveLoop_done {profile : Profile} {availIdx : UInt16} {device : VirtioBlock}
    {world : World} (h : device.lastAvail=availIdx) :
    serveLoop profile availIdx device world=⟨.ok (),device,world,some availIdx,[]⟩ := by
  rw [serveLoop,dif_pos h]

/-- A queue of size zero with pending entries panics at once. -/
theorem serveLoop_zero {profile : Profile} {availIdx : UInt16} {device : VirtioBlock}
    {world : World} (h : device.lastAvail≠availIdx) (hn : device.queueNum=0) :
    serveLoop profile availIdx device world=
      ⟨.error (.panic .remainderByZero),device,world,some availIdx,[]⟩ := by
  rw [serveLoop,dif_neg h,if_pos hn]

/-- An unreadable head ends the loop. -/
theorem serveLoop_unread {profile : Profile} {availIdx : UInt16} {device : VirtioBlock}
    {world : World} {fault : Fault} (h : device.lastAvail≠availIdx) (hn : device.queueNum≠0)
    (hh : guestU16 world.memory device.headAddr=.error fault) :
    serveLoop profile availIdx device world=⟨.error fault,device,world,some availIdx,[]⟩ := by
  rw [serveLoop,dif_neg h,if_neg hn,hh]

/-- A faulting request ends the loop with the position on its entry. -/
theorem serveLoop_fault {profile : Profile} {availIdx : UInt16} {device : VirtioBlock}
    {world : World} {head : UInt16} {fault : Fault} (h : device.lastAvail≠availIdx)
    (hn : device.queueNum≠0) (hh : guestU16 world.memory device.headAddr=.ok head)
    (hr : (serve profile device head world).outcome=.error fault) :
    serveLoop profile availIdx device world=
      ⟨.error fault,device,(serve profile device head world).world,some availIdx,
        [⟨device.lastAvail,head,world,serve profile device head world⟩]⟩ := by
  rw [serveLoop,dif_neg h,if_neg hn,hh]
  dsimp only
  rw [hr]

/-- A completed request passes its entry and the loop goes on. -/
theorem serveLoop_pass {profile : Profile} {availIdx : UInt16} {device : VirtioBlock}
    {world : World} {head : UInt16} (h : device.lastAvail≠availIdx)
    (hn : device.queueNum≠0) (hh : guestU16 world.memory device.headAddr=.ok head)
    (hr : (serve profile device head world).outcome=.ok ()) :
    serveLoop profile availIdx device world=
      let rest := serveLoop profile availIdx device.advance (serve profile device head world).world
      {rest with calls := ⟨device.lastAvail,head,world,serve profile device head world⟩::rest.calls} := by
  rw [serveLoop,dif_neg h,if_neg hn,hh]
  dsimp only
  rw [hr]

/-- Induction along the loop: its four ends, and one passed entry. -/
theorem serveLoop_induction (profile : Profile) (availIdx : UInt16)
    {motive : VirtioBlock → World → Prop}
    (done : ∀ device world, device.lastAvail=availIdx → motive device world)
    (zero : ∀ device world, device.lastAvail≠availIdx → device.queueNum=0 → motive device world)
    (unread : ∀ device world fault, device.lastAvail≠availIdx → device.queueNum≠0 →
      guestU16 world.memory device.headAddr=.error fault → motive device world)
    (fails : ∀ device world head fault, device.lastAvail≠availIdx → device.queueNum≠0 →
      guestU16 world.memory device.headAddr=.ok head →
      (serve profile device head world).outcome=.error fault → motive device world)
    (passes : ∀ device world head, device.lastAvail≠availIdx → device.queueNum≠0 →
      guestU16 world.memory device.headAddr=.ok head →
      (serve profile device head world).outcome=.ok () →
      motive device.advance (serve profile device head world).world → motive device world)
    (device : VirtioBlock) (world : World) : motive device world := by
  generalize hp : device.pending availIdx=n
  induction n using Nat.strong_induction_on generalizing device world with
  | h n ih =>
    by_cases h : device.lastAvail=availIdx
    · exact done device world h
    by_cases hn : device.queueNum=0
    · exact zero device world h hn
    cases hh : guestU16 world.memory device.headAddr with
    | error fault => exact unread device world fault h hn hh
    | ok head =>
      cases hr : (serve profile device head world).outcome with
      | error fault => exact fails device world head fault h hn hh hr
      | ok _ =>
        have hadv := pending_advance h
        exact passes device world head h hn hh hr (ih _ (by omega) _ _ rfl)

/-- A device with entries left has a positive pending count. -/
theorem pending_succ {device : VirtioBlock} {availIdx : UInt16} (h : device.lastAvail≠availIdx) :
    device.pending availIdx=device.advance.pending availIdx+1 := (pending_advance h).symm

/-- A device at the available index has no pending entry. -/
theorem pending_done {device : VirtioBlock} {availIdx : UInt16} (h : device.lastAvail=availIdx) :
    device.pending availIdx=0 := by
  subst h
  simp [VirtioBlock.pending]

/-- A request is completed exactly when its chain can be walked, its data is
accepted and its completion lies in guest memory. -/
theorem serve_ok_iff (profile : Profile) (device : VirtioBlock) (head : UInt16) (world : World) :
    (serve profile device head world).outcome=.ok () ↔
      ∃ chain, walkChain profile device.queueNum world.memory device.queue head=.ok chain ∧
        Transferable profile chain world ∧ Completable device chain world := by
  constructor
  · intro h
    obtain ⟨chain,hc,ht,hm,-⟩ := processRequest_ok h
    exact ⟨chain,hc,ht,hm⟩
  · rintro ⟨chain,hc,ht,hm⟩
    obtain ⟨fault,hw,-⟩ | ⟨other,hw,hcase⟩ := processRequest_cases profile device head world
    · rw [hc] at hw
      cases hw
    · rw [hc] at hw
      obtain rfl := Except.ok.inj hw
      obtain ⟨fault,hn,-,-⟩ | ⟨-,hs,-⟩ | ⟨cause,memory,stores,-,-,he,-,-⟩ | ⟨-,-,hr⟩ := hcase
      · exact absurd ht hn
      · exact absurd hm.1 hs
      · exact absurd hm.2 he
      · rw [serve,hr]

/-- Serving a request keeps the size of guest memory. -/
theorem serve_size (profile : Profile) (device : VirtioBlock) (head : UInt16) (world : World) :
    (serve profile device head world).world.memory.size=world.memory.size := by
  obtain ⟨fault,-,hr⟩ | ⟨chain,-,hcase⟩ := processRequest_cases profile device head world
  · rw [serve,hr]
  · obtain ⟨fault,-,-,hr⟩ | ⟨-,-,hr⟩ | ⟨cause,memory,stores,-,-,-,hs,hr⟩ | ⟨-,-,hr⟩ := hcase
    · rw [serve,hr]
    · rw [serve,hr]
      exact delivered_size chain world
    · rw [serve,hr]
      exact hs
    · rw [serve,hr]
      dsimp only
      rw [completed_memory,published_size,acknowledged_size]

/-- The descriptor table, the available ring and the used ring of a queue lie
in guest memory. The used ring is the last of the three. -/
def RingsFit (device : VirtioBlock) (memory : GuestMemory) : Prop :=
  usedStart device+4+8*device.queueNum.toNat ≤ memory.size.toNat

/-- A request whose chain can be walked, whose direction, ranges and offset
are accepted and whose status byte lies in guest memory. -/
def WellFormed (profile : Profile) (device : VirtioBlock) (head : UInt16) (world : World) : Prop :=
  ∃ chain, walkChain profile device.queueNum world.memory device.queue head=.ok chain ∧
    Transferable profile chain world ∧ Fits world.memory chain.statusAddr 1

/-- A used entry for a request: the element before the index holds its head
and its length. -/
def HasUsedEntry (device : VirtioBlock) (head : UInt16) (payloadLen : UInt32)
    (memory : GuestMemory) : Prop :=
  ∃ idx : UInt16, wordAt memory (usedStart device+2)=idx+1 ∧
    slice memory.byte (usedStart device+4+8*(idx%device.queueNum).toNat) 4=
      leBytes 4 head.toUInt32.toNat ∧
    slice memory.byte (usedStart device+8+8*(idx%device.queueNum).toNat) 4=
      leBytes 4 payloadLen.toNat

/-- With its rings in guest memory a queue completes exactly the well-formed requests. -/
theorem serve_ok_iff_wellFormed {profile : Profile} {device : VirtioBlock} {head : UInt16}
    {world : World} (hr : RingsFit device world.memory) :
    (serve profile device head world).outcome=.ok () ↔ WellFormed profile device head world := by
  rw [serve_ok_iff]
  constructor
  · rintro ⟨chain,hc,ht,hm⟩
    exact ⟨chain,hc,ht,hm.1⟩
  · rintro ⟨chain,hc,ht,hs⟩
    refine ⟨chain,hc,ht,hs,?_⟩
    have hlt := usedSlot_lt (acknowledged chain world).memory (walkChain_ok_size hc)
    unfold RingsFit at hr
    unfold ElementFits
    rw [acknowledged_size]
    omega

/-- The word stored by its own little-endian bytes. -/
theorem wordAt_store (memory : GuestMemory) (addr : ℕ) (value : UInt16) :
    wordAt (store memory addr (leBytes 2 value.toNat)) addr=value := by
  have hv := value.toNat_lt
  unfold wordAt
  rw [slice_store_number,leNat_leBytes]
  apply UInt16.toNat_inj.mp
  rw [UInt16.toNat_ofNat']
  omega

/-- Publishing a request leaves its used entry behind. -/
theorem published_entry {device : VirtioBlock} {head : UInt16} {payloadLen : UInt32}
    {memory : GuestMemory} :
    HasUsedEntry device head payloadLen (published device head payloadLen memory) := by
  refine ⟨wordAt memory (usedStart device+2),?_,?_,?_⟩
  · rw [published,wordAt_store]
  · rw [published,store_byte,slice_overwrite_separate (by
        unfold Separate; rw [leBytes_length]; omega),
      store_byte,slice_overwrite_separate (by
        unfold Separate usedSlot; rw [leBytes_length]; omega)]
    exact slice_store_number _ _ _ _
  · have he : usedStart device+8+8*(wordAt memory (usedStart device+2)%device.queueNum).toNat=
        usedStart device+4+8*(usedSlot device memory).toNat+4 := by
      unfold usedSlot
      omega
    rw [published,store_byte,slice_overwrite_separate (by
        unfold Separate; rw [leBytes_length]; omega),he]
    exact slice_store_number _ _ _ _

/-- Every call of the loop serves its head in the state it found, on a memory
of the size the pass started with. -/
theorem serveLoop_calls (profile : Profile) (availIdx : UInt16) (device : VirtioBlock)
    (world : World) :
    ∀ call∈(serveLoop profile availIdx device world).calls,
      call.report=serve profile device call.head call.before ∧
        call.before.memory.size=world.memory.size := by
  induction device, world using serveLoop_induction profile availIdx with
  | done device world h =>
    intro call hm
    rw [serveLoop_done h] at hm
    cases hm
  | zero device world h hn =>
    intro call hm
    rw [serveLoop_zero h hn] at hm
    cases hm
  | unread device world fault h hn hh =>
    intro call hm
    rw [serveLoop_unread h hn hh] at hm
    cases hm
  | fails device world head fault h hn hh hr =>
    intro call hm
    rw [serveLoop_fault h hn hh hr] at hm
    obtain rfl := List.mem_singleton.mp hm
    exact ⟨rfl,rfl⟩
  | passes device world head h hn hh hr ih =>
    intro call hm
    rw [serveLoop_pass h hn hh hr] at hm
    rcases List.mem_cons.mp hm with rfl | hm
    · exact ⟨rfl,rfl⟩
    · obtain ⟨hrep,hsize⟩ := ih call hm
      exact ⟨hrep,hsize.trans (serve_size profile device head world)⟩

/-- The loop reports the index it was given. -/
theorem serveLoop_index (profile : Profile) (availIdx : UInt16) (device : VirtioBlock)
    (world : World) : (serveLoop profile availIdx device world).index=some availIdx := by
  induction device, world using serveLoop_induction profile availIdx with
  | done device world h => rw [serveLoop_done h]
  | zero device world h hn => rw [serveLoop_zero h hn]
  | unread device world fault h hn hh => rw [serveLoop_unread h hn hh]
  | fails device world head fault h hn hh hr => rw [serveLoop_fault h hn hh hr]
  | passes device world head h hn hh hr ih =>
    rw [serveLoop_pass h hn hh hr]
    exact ih

/-- The head of the next entry of a queue with its rings in guest memory can be read. -/
theorem head_fits {device : VirtioBlock} {memory : GuestMemory} (hn : device.queueNum≠0)
    (hr : RingsFit device memory) : Fits memory device.headAddr 2 := by
  have hp : 0 < device.queueNum.toNat := Nat.pos_of_ne_zero fun h => hn (UInt16.toNat_inj.mp h)
  have hm := Nat.mod_lt device.lastAvail.toNat hp
  have hu := usedStart_ge device
  unfold RingsFit at hr
  unfold Fits
  rw [headAddr_toNat]
  omega

/-- The loop reaches the available index exactly when every request it finds
on the way is well formed. -/
theorem serveLoop_drains_iff (profile : Profile) (availIdx : UInt16) (device : VirtioBlock)
    (world : World) :
    device.queueNum≠0 → RingsFit device world.memory →
      ((serveLoop profile availIdx device world).device.lastAvail=availIdx ↔
        EveryCall (WellFormed profile) profile (device.pending availIdx) device world) := by
  induction device, world using serveLoop_induction profile availIdx with
  | done device world h =>
    intro _ _
    rw [serveLoop_done h,pending_done h]
    exact ⟨fun _ => trivial,fun _ => h⟩
  | zero device world h hn =>
    intro hq _
    exact absurd hn hq
  | unread device world fault h hn hh =>
    intro _ hr
    rw [guestU16_fits (head_fits hn hr)] at hh
    cases hh
  | fails device world head fault h hn hh hf =>
    intro _ hr
    rw [serveLoop_fault h hn hh hf,pending_succ h]
    refine ⟨fun hl => absurd hl h,fun he => ?_⟩
    have hw := (serve_ok_iff_wellFormed hr).mpr (he head hh).1
    rw [hf] at hw
    cases hw
  | passes device world head h hn hh hok ih =>
    intro _ hr
    have hnext := ih hn (by unfold RingsFit at hr ⊢; rw [serve_size]; exact hr)
    rw [serveLoop_pass h hn hh hok,pending_succ h]
    dsimp only
    rw [hnext]
    constructor
    · intro he other hother
      rw [hh] at hother
      obtain rfl := Except.ok.inj hother
      exact ⟨(serve_ok_iff_wellFormed hr).mp hok,fun _ => he⟩
    · intro he
      exact (he head hh).2 hok

/-- A pass that reaches the available index made one call for each entry. -/
theorem serveLoop_length (profile : Profile) (availIdx : UInt16) (device : VirtioBlock)
    (world : World) :
    (serveLoop profile availIdx device world).device.lastAvail=availIdx →
      (serveLoop profile availIdx device world).calls.length=device.pending availIdx := by
  induction device, world using serveLoop_induction profile availIdx with
  | done device world h =>
    intro _
    rw [serveLoop_done h,pending_done h]
    rfl
  | zero device world h hn =>
    intro hl
    rw [serveLoop_zero h hn] at hl
    exact absurd hl h
  | unread device world fault h hn hh =>
    intro hl
    rw [serveLoop_unread h hn hh] at hl
    exact absurd hl h
  | fails device world head fault h hn hh hf =>
    intro hl
    rw [serveLoop_fault h hn hh hf] at hl
    exact absurd hl h
  | passes device world head h hn hh hok ih =>
    intro hl
    rw [serveLoop_pass h hn hh hok] at hl ⊢
    rw [pending_succ h,← ih hl]
    rfl

/-- A notification of a device with a queue makes one pass over it. -/
theorem write_notify {profile : Profile} {device : VirtioBlock} {world : World}
    (hp : device.queuePfn≠0) :
    (device.write profile 0x50 0 world).pass=some (processQueue profile device world) ∧
      (device.write profile 0x50 0 world).device=(processQueue profile device world).device := by
  have h38 : ¬(0x50 : UInt64)=0x38 := by decide
  have h40 : ¬(0x50 : UInt64)=0x40 := by decide
  simp only [VirtioBlock.write,if_neg h38,if_neg h40,if_true]
  rw [if_pos ⟨trivial,hp⟩]
  generalize processQueue profile device world=pass
  cases pass.outcome with
  | error fault =>
    cases fault with
    | error cause => exact ⟨rfl,rfl⟩
    | panic cause => exact ⟨rfl,rfl⟩
  | ok _ => exact ⟨rfl,rfl⟩

/-- A pass over a queue with its rings in guest memory runs the loop to the
index it finds. -/
theorem processQueue_rings {profile : Profile} {device : VirtioBlock} {world : World}
    (hr : RingsFit device world.memory) :
    processQueue profile device world=
      serveLoop profile (wordAt world.memory (device.queue.toNat+2)) device world := by
  have hf : Fits world.memory (device.queue+2) 2 := by
    have hu := usedStart_ge device
    unfold RingsFit at hr
    unfold Fits
    rw [indexAddr_toNat]
    omega
  unfold processQueue
  rw [guestU16_fits hf,indexAddr_toNat]

/-- A completed call has its used entry. -/
theorem serve_entry {profile : Profile} {device : VirtioBlock} {head : UInt16} {world : World}
    (h : (serve profile device head world).outcome=.ok ()) :
    ∃ chain, walkChain profile device.queueNum world.memory device.queue head=.ok chain ∧
      HasUsedEntry device head chain.payloadLen (serve profile device head world).world.memory := by
  obtain ⟨chain,hc,-,-,hw⟩ := processRequest_ok h
  refine ⟨chain,hc,?_⟩
  rw [serve,hw,completed_memory]
  exact published_entry

/-- The pass of a notification, if the driver set a queue page, consumes every
published entry, one call for each, and every well-formed request among them
receives its used entry. -/
def Drained (profile : Profile) (device : VirtioBlock) (world : World) : Prop :=
  ∀ pass, (device.write profile 0x50 0 world).pass=some pass →
    ∃ availIdx, pass.index=some availIdx ∧
      (device.write profile 0x50 0 world).device.lastAvail=availIdx ∧
      pass.calls.length=device.pending availIdx ∧
      ∀ call∈pass.calls, WellFormed profile device call.head call.before →
        ∃ chain, walkChain profile device.queueNum call.before.memory device.queue call.head=
            .ok chain ∧
          HasUsedEntry device call.head chain.payloadLen call.report.world.memory

/-- Without a queue page a notification makes no pass. -/
theorem write_unset {profile : Profile} {device : VirtioBlock} {world : World}
    (hp : device.queuePfn=0) : (device.write profile 0x50 0 world).pass=none := by
  have h38 : ¬(0x50 : UInt64)=0x38 := by decide
  have h40 : ¬(0x50 : UInt64)=0x40 := by decide
  simp only [VirtioBlock.write,if_neg h38,if_neg h40,if_true]
  rw [if_neg (fun h => h.2 hp)]

/-- With its rings in guest memory, a notification drains the queue exactly
when every request it finds is well formed at its turn: the first one that is
not ends the pass, and the position stays on it. -/
theorem notification_drains_iff (profile : Profile) (device : VirtioBlock) (world : World)
    (hn : device.queueNum≠0) (hr : RingsFit device world.memory) :
    Drained profile device world ↔ (device.queuePfn≠0 →
      EveryCall (WellFormed profile) profile
        (device.pending (wordAt world.memory (device.queue.toNat+2))) device world) := by
  by_cases hp : device.queuePfn=0
  · refine ⟨fun _ h => absurd hp h,fun _ pass hpass => ?_⟩
    rw [write_unset hp] at hpass
    cases hpass
  obtain ⟨hpass,hdevice⟩ := @write_notify profile device world hp
  rw [processQueue_rings hr] at hpass hdevice
  have hiff := serveLoop_drains_iff profile (wordAt world.memory (device.queue.toNat+2)) device
    world hn hr
  constructor
  · intro hd _
    obtain ⟨availIdx,hidx,hlast,-,-⟩ := hd _ hpass
    rw [serveLoop_index] at hidx
    obtain rfl := Option.some.inj hidx
    rw [hdevice] at hlast
    exact hiff.mp hlast
  · intro he pass hsome
    rw [hpass] at hsome
    obtain rfl := Option.some.inj hsome
    have hlast := hiff.mpr (he hp)
    refine ⟨_,serveLoop_index _ _ _ _,by rw [hdevice]; exact hlast,
      serveLoop_length _ _ _ _ hlast,?_⟩
    intro call hm hw
    obtain ⟨hrep,hsize⟩ := serveLoop_calls _ _ _ _ call hm
    have hfit : RingsFit device call.before.memory := by
      unfold RingsFit at hr ⊢
      rw [hsize]
      exact hr
    rw [hrep]
    exact serve_entry ((serve_ok_iff_wellFormed hfit).mpr hw)

/-- A guest whose table publishes one entry, as the loop reads it: index one
and the given head in the first descriptor, a write request from the second
descriptor on. -/
def batchMemory (head : UInt8) : GuestMemory :=
  filled
    [(0x1002,[1,0,head,0]),
      (0x1010,leBytes 8 0x3000++leBytes 4 16++[1,0,2,0]),
      (0x1020,leBytes 8 0x3100++leBytes 4 3++[1,0,3,0]),
      (0x1030,leBytes 8 0x3200++leBytes 4 1++[2,0,0,0]),
      (0x3000,leBytes 4 1),(0x3100,[7,8,9])]

/-- The criterion applies to a published write request: its queue is drained. -/
theorem notification_drains_iff_write :
    smallDevice.queueNum≠0 ∧ RingsFit smallDevice (batchMemory 1) ∧
      Drained .release smallDevice ⟨batchMemory 1,blankImage⟩ := by
  have hn : smallDevice.queueNum≠0 := by decide
  have hr : RingsFit smallDevice (batchMemory 1) := by
    unfold RingsFit
    decide +kernel
  refine ⟨hn,hr,(notification_drains_iff .release smallDevice ⟨batchMemory 1,blankImage⟩ hn hr).mpr
    ?_⟩
  have hpending : smallDevice.pending (wordAt (batchMemory 1) (smallDevice.queue.toNat+2))=1 := by
    decide +kernel
  have hhead : guestU16 (batchMemory 1) smallDevice.headAddr=.ok 1 := by decide +kernel
  intro _
  rw [hpending]
  intro head hh
  rw [hhead] at hh
  obtain rfl := Except.ok.inj hh
  exact ⟨⟨⟨1,0,0x3100,3,1,0x3200⟩,by decide +kernel,by decide +kernel,by decide +kernel⟩,
    fun _ => trivial⟩

/-- A head without a data descriptor wedges the queue: the entry stays
published and the position stays on it. -/
theorem malformed_head_wedges :
    smallDevice.queueNum≠0 ∧ RingsFit smallDevice (batchMemory 0) ∧
      ¬Drained .release smallDevice ⟨batchMemory 0,blankImage⟩ := by
  have hr : RingsFit smallDevice (batchMemory 0) := by
    unfold RingsFit
    decide +kernel
  refine ⟨by decide,hr,?_⟩
  intro hd
  obtain ⟨hpass,hdevice⟩ :=
    @write_notify .release smallDevice ⟨batchMemory 0,blankImage⟩ (by decide)
  obtain ⟨availIdx,hidx,hlast,-,-⟩ := hd _ hpass
  have hindex : wordAt (batchMemory 0) (smallDevice.queue.toNat+2)=1 := by decide +kernel
  rw [processQueue_rings hr,serveLoop_index,hindex] at hidx
  rw [hdevice,processQueue_rings hr,hindex,
    serveLoop_fault (by decide) (by decide) (by decide +kernel)
      (show (serve .release smallDevice 0 ⟨batchMemory 0,blankImage⟩).outcome=
        .error (.error (.diskIo "virtio request has no data descriptor")) by decide +kernel)] at hlast
  rw [← hlast] at hidx
  revert hidx
  decide

end LiteDroid.VmmBlockQueue
