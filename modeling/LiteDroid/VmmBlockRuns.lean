import LiteDroid.VmmBlockQueue
import LiteDroid.StepRun

/-!
# Runs of the block device

A guest reads and writes registers of the device and rewrites its own memory
in any order. A panic ends the thread that runs the device, so a run stops at
it. One event panics exactly when it is a notification that finds pending
entries on a queue of size zero, or, where overflow is checked, a request
whose byte offset overflows.
-/

namespace LiteDroid.VmmBlockRuns

open CoreResults MemoryRegion StorageImage VmmBlockDevice VmmQueueLayout VmmBlockRequest
open VmmDiskStore VmmBlockQueue LittleEndian StepRun

/-- What a guest can do to the device and to its memory. An exit carries at
most eight bytes. -/
inductive GuestEvent where
  /-- A read exit of a number of bytes. -/
  | read (addr : UInt64) (len : Fin 9)
  /-- A write exit with its bytes. -/
  | write (addr : UInt64) (data : {data : List UInt8 // data.length ≤ 8})
  /-- The guest stores anything anywhere in its memory. -/
  | rewrite (byte : ℕ → UInt8)

/-- The device together with what it works on. -/
structure BlockMachine where
  /-- The device. -/
  device : VirtioBlock
  /-- Guest memory and the image's file. -/
  world : World

/-- Result, effects and diagnostics of one event. -/
structure EventReport where
  /-- Normal return or a panic. -/
  outcome : Outcome Unit
  /-- Device, memory and file afterwards. -/
  machine : BlockMachine
  /-- The queue pass the event made. -/
  pass : Option QueueReport

/-- Handle one event of the guest. -/
def handle (profile : Profile) (machine : BlockMachine) : GuestEvent → EventReport
  | .read addr len =>
    ⟨(mmioRead profile machine.device addr len).map fun _ => (),machine,none⟩
  | .write addr data =>
    let report := mmioWrite profile machine.device addr data machine.world
    ⟨report.outcome,⟨report.device,report.world⟩,report.pass⟩
  | .rewrite byte =>
    ⟨.ok (),{machine with world := {machine.world with
      memory := {machine.world.memory with byte := byte}}},none⟩

/-- The machine after an event; a panic has no successor. -/
def step (profile : Profile) (machine : BlockMachine) (event : GuestEvent) :
    Option BlockMachine :=
  match (handle profile machine event).outcome with
  | .error _ => none
  | .ok () => some (handle profile machine event).machine

/-- The machine when the device is created. -/
def fresh (disk : RawDiskImage) (world : World) : BlockMachine := ⟨VirtioBlock.new disk,world⟩

/-- A request's transfer reaches the multiplication of its sector. -/
def Multiplies (chain : Chain) (world : World) : Prop :=
  (chain.requestType=0 ∧ chain.payloadFlags&&&descWrite≠0) ∨
    (chain.requestType=1 ∧ chain.payloadFlags&&&descWrite=0 ∧
      Fits world.memory chain.payloadAddr chain.payloadLen.toNat)

/-- No request reaches the multiplication with an overflowing sector. In a
release build there is nothing to overflow. -/
def RequestSafe (profile : Profile) (device : VirtioBlock) (head : UInt16) (world : World) :
    Prop :=
  ∀ chain, walkChain profile device.queueNum world.memory device.queue head=.ok chain →
    Multiplies chain world → SectorFits profile chain

/-- A pass that finds pending entries finds them on a queue of some size, and
each request it serves is safe at its turn. -/
def QueueSafe (profile : Profile) (device : VirtioBlock) (world : World) : Prop :=
  ∀ availIdx, guestU16 world.memory (device.queue+2)=.ok availIdx →
    device.lastAvail≠availIdx → device.queueNum≠0 ∧
      EveryCall (RequestSafe profile) profile (device.pending availIdx) device world

/-- The event is no notification, or its pass is safe. -/
def EventSafe (profile : Profile) (machine : BlockMachine) : GuestEvent → Prop
  | .read _ _ => True
  | .write addr data => routed addr → addr-virtioMmioStart=0x50 →
      UInt64.ofNat (leNat data)=0 → machine.device.queuePfn≠0 →
      QueueSafe profile machine.device machine.world
  | .rewrite _ => True

/-- The transfer panics exactly on a multiplication that overflows. -/
theorem transfer_noPanic_iff (profile : Profile) (chain : Chain) (world : World) :
    NoPanic (transfer profile chain world) ↔ (Multiplies chain world → SectorFits profile chain) := by
  unfold Multiplies
  by_cases hz : chain.requestType=0
  · have ho : ¬chain.requestType=1 := by rw [hz]; decide
    rw [transfer_read hz]
    split_ifs with hw hs hl hf
    · simp [hw,ho,requestError,noPanic_error]
    · simp [hs,noPanic_ok]
    · simp [hs,noPanic_error]
    · simp [hs,noPanic_error]
    · simp [hz,hw,hs,NoPanic]
  · by_cases ho : chain.requestType=1
    · rw [transfer_write ho]
      split_ifs with hw hf hs hl
      · simp [hz,hw,requestError,noPanic_error]
      · simp [hs,noPanic_ok]
      · simp [hs,noPanic_error]
      · rw [not_ne_iff] at hw
        simp [ho,hw,hf,hs,NoPanic]
      · simp [hz,hf,noPanic_error]
    · rw [transfer_other hz ho]
      simp [hz,ho,noPanic_ok]

/-- A request panics exactly when its transfer does. -/
theorem serve_noPanic_iff (profile : Profile) (device : VirtioBlock) (head : UInt16)
    (world : World) :
    NoPanic (serve profile device head world).outcome ↔ RequestSafe profile device head world := by
  obtain ⟨fault,hc,hr⟩ | ⟨chain,hc,hcase⟩ := processRequest_cases profile device head world
  · have hp := walkChain_noPanic profile device.queueNum world.memory device.queue head
    rw [hc] at hp
    unfold RequestSafe
    rw [serve,hr,hc]
    exact ⟨fun _ chain h => (by cases h),fun _ => noPanic_fault hp⟩
  · have hs : RequestSafe profile device head world ↔ NoPanic (transfer profile chain world) := by
      rw [transfer_noPanic_iff]
      unfold RequestSafe
      rw [hc]
      constructor
      · intro h
        exact h chain rfl
      · intro h other ho
        obtain rfl := Except.ok.inj ho
        exact h
    rw [hs]
    obtain ⟨fault,-,ht,hr⟩ | ⟨ht,-,hr⟩ | ⟨cause,memory,stores,ht,-,-,-,hr⟩ | ⟨ht,-,hr⟩ := hcase
    · rw [serve,hr,ht]
      exact ⟨noPanic_fault,noPanic_fault⟩
    · rw [serve,hr,transfer_ok_iff.mpr ⟨ht,rfl⟩]
      exact ⟨fun _ => noPanic_ok _,fun _ => noPanic_error _⟩
    · rw [serve,hr,transfer_ok_iff.mpr ⟨ht,rfl⟩]
      exact ⟨fun _ => noPanic_ok _,fun _ => noPanic_error _⟩
    · rw [serve,hr,transfer_ok_iff.mpr ⟨ht,rfl⟩]
      exact ⟨fun _ => noPanic_ok _,fun _ => noPanic_ok _⟩

/-- The loop panics exactly on pending entries of a queue of size zero or on
an unsafe request at its turn. -/
theorem serveLoop_noPanic_iff (profile : Profile) (availIdx : UInt16) (device : VirtioBlock)
    (world : World) :
    NoPanic (serveLoop profile availIdx device world).outcome ↔
      (device.lastAvail≠availIdx → device.queueNum≠0 ∧
        EveryCall (RequestSafe profile) profile (device.pending availIdx) device world) := by
  induction device, world using serveLoop_induction profile availIdx with
  | done device world h =>
    rw [serveLoop_done h]
    exact ⟨fun _ hne => absurd h hne,fun _ => noPanic_ok _⟩
  | zero device world h hn =>
    rw [serveLoop_zero h hn]
    exact ⟨fun hp => absurd rfl (hp _),fun hs => absurd hn (hs h).1⟩
  | unread device world fault h hn hh =>
    have hp := guestU16_noPanic world.memory device.headAddr
    rw [hh] at hp
    rw [serveLoop_unread h hn hh,pending_succ h]
    refine ⟨fun _ _ => ⟨hn,fun head hhead => ?_⟩,fun _ => noPanic_fault hp⟩
    rw [hh] at hhead
    cases hhead
  | fails device world head fault h hn hh hf =>
    have hs := serve_noPanic_iff profile device head world
    rw [hf] at hs
    rw [serveLoop_fault h hn hh hf,pending_succ h,hs]
    constructor
    · intro hsafe _
      refine ⟨hn,fun other hother => ?_⟩
      rw [hh] at hother
      obtain rfl := Except.ok.inj hother
      refine ⟨hsafe,fun hok => ?_⟩
      rw [hf] at hok
      cases hok
    · intro hall
      exact ((hall h).2 head hh).1
  | passes device world head h hn hh hok ih =>
    have hs := (serve_noPanic_iff profile device head world).mp (by rw [hok]; exact noPanic_ok _)
    rw [serveLoop_pass h hn hh hok,pending_succ h]
    dsimp only
    rw [ih]
    constructor
    · intro hrest _
      refine ⟨hn,fun other hother => ?_⟩
      rw [hh] at hother
      obtain rfl := Except.ok.inj hother
      refine ⟨hs,fun _ => ?_⟩
      by_cases hd : device.advance.lastAvail=availIdx
      · rw [pending_done hd]
        trivial
      · exact (hrest hd).2
    · intro hall _
      exact ⟨hn,((hall h).2 head hh).2 hok⟩

/-- A pass panics exactly when it is not safe. -/
theorem processQueue_noPanic_iff (profile : Profile) (device : VirtioBlock) (world : World) :
    NoPanic (processQueue profile device world).outcome ↔ QueueSafe profile device world := by
  have hp := guestU16_noPanic world.memory (device.queue+2)
  unfold processQueue QueueSafe
  cases hi : guestU16 world.memory (device.queue+2) with
  | error fault =>
    rw [hi] at hp
    exact ⟨fun _ availIdx h => (by cases h),fun _ => noPanic_fault hp⟩
  | ok availIdx =>
    dsimp only
    rw [serveLoop_noPanic_iff]
    constructor
    · intro h other ho
      obtain rfl := Except.ok.inj ho
      exact h
    · intro h
      exact h availIdx rfl

/-- A register write panics exactly on a notification whose pass is not safe. -/
theorem write_noPanic_iff (profile : Profile) (device : VirtioBlock) (offset value : UInt64)
    (world : World) :
    NoPanic (device.write profile offset value world).outcome ↔
      (offset=0x50 → value=0 → device.queuePfn≠0 → QueueSafe profile device world) := by
  rw [← processQueue_noPanic_iff]
  unfold VirtioBlock.write
  split_ifs with h38 h40 h50 hv h60
  · refine ⟨fun _ h => ?_,fun _ => noPanic_ok _⟩
    rw [h38] at h
    exact absurd h (by decide)
  · refine ⟨fun _ h => ?_,fun _ => noPanic_ok _⟩
    rw [h40] at h
    exact absurd h (by decide)
  · dsimp only
    cases hq : (processQueue profile device world).outcome with
    | error fault =>
      cases fault with
      | error cause => exact ⟨fun _ _ _ _ => noPanic_error _,fun _ => noPanic_ok _⟩
      | panic cause => exact ⟨fun h => absurd rfl (h _),fun h => absurd rfl (h h50 hv.1 hv.2 _)⟩
    | ok _ => exact ⟨fun _ _ _ _ => noPanic_ok _,fun _ => noPanic_ok _⟩
  · exact ⟨fun _ _ h0 hp => absurd ⟨h0,hp⟩ hv,fun _ => noPanic_ok _⟩
  · exact ⟨fun _ h => absurd h h50,fun _ => noPanic_ok _⟩
  · exact ⟨fun _ h => absurd h h50,fun _ => noPanic_ok _⟩

/-- A register read of at most eight bytes never panics. -/
theorem mmioRead_noPanic (profile : Profile) (device : VirtioBlock) (addr : UInt64) (len : Fin 9) :
    NoPanic (mmioRead profile device addr len) := by
  have hlen := len.isLt
  unfold mmioRead
  split
  · refine noPanic_bind ?_ fun value _ => noPanic_bind ?_ fun bytes _ => noPanic_ok _
    · unfold VirtioBlock.read
      dsimp only
      split
      · exact noPanic_ok _
      · refine noPanic_bind ?_ fun bit _ => noPanic_ok _
        cases profile with
        | release => exact noPanic_ok _
        | dev =>
          rw [Profile.shl,if_pos (by omega)]
          exact noPanic_ok _
    · unfold sliceTo
      rw [if_pos (by rw [leBytes_length]; omega)]
      exact noPanic_ok _
  · exact noPanic_ok _

/-- An event panics exactly when it is not safe. -/
theorem handle_noPanic_iff (profile : Profile) (machine : BlockMachine) (event : GuestEvent) :
    NoPanic (handle profile machine event).outcome ↔ EventSafe profile machine event := by
  cases event with
  | read addr len =>
    refine ⟨fun _ => trivial,fun _ => ?_⟩
    have hp := mmioRead_noPanic profile machine.device addr len
    unfold handle
    dsimp only
    cases hr : mmioRead profile machine.device addr len with
    | error fault =>
      rw [hr] at hp
      exact noPanic_fault hp
    | ok bytes => exact noPanic_ok _
  | write addr data =>
    unfold handle mmioWrite EventSafe
    dsimp only
    by_cases hr : routed addr
    · rw [if_pos hr,if_pos data.property,write_noPanic_iff]
      exact ⟨fun h _ => h,fun h => h hr⟩
    · rw [if_neg hr]
      exact ⟨fun _ h => absurd h hr,fun _ => noPanic_ok _⟩
  | rewrite byte => exact ⟨fun _ => trivial,fun _ => noPanic_ok _⟩

/-- The guest sets the queue size to zero: the low sixteen bits of what it
writes to the size register are all clear. -/
def ZeroSize : GuestEvent → Prop
  | .write addr data => routed addr ∧ addr-virtioMmioStart=0x38 ∧
      (UInt64.ofNat (leNat data)).toUInt16=0
  | _ => False

/-- A pass moves nothing of the device but its position. -/
theorem serveLoop_device (profile : Profile) (availIdx : UInt16) (device : VirtioBlock)
    (world : World) :
    ∃ position, (serveLoop profile availIdx device world).device=
      {device with lastAvail := position} := by
  induction device, world using serveLoop_induction profile availIdx with
  | done device world h => exact ⟨device.lastAvail,by rw [serveLoop_done h]⟩
  | zero device world h hn => exact ⟨device.lastAvail,by rw [serveLoop_zero h hn]⟩
  | unread device world fault h hn hh => exact ⟨device.lastAvail,by rw [serveLoop_unread h hn hh]⟩
  | fails device world head fault h hn hh hf =>
    exact ⟨device.lastAvail,by rw [serveLoop_fault h hn hh hf]⟩
  | passes device world head h hn hh hok ih =>
    obtain ⟨position,hp⟩ := ih
    exact ⟨position,by rw [serveLoop_pass h hn hh hok]; exact hp⟩

/-- A pass over the queue keeps its size. -/
theorem processQueue_size (profile : Profile) (device : VirtioBlock) (world : World) :
    (processQueue profile device world).device.queueNum=device.queueNum := by
  unfold processQueue
  split
  · rfl
  · obtain ⟨position,hp⟩ := serveLoop_device profile _ device world
    rw [hp]

/-- A register write that stores no zero into the size register keeps a
queue size different from zero. -/
theorem write_size {profile : Profile} {device : VirtioBlock} {offset value : UInt64}
    {world : World} (hn : device.queueNum≠0) (hv : offset=0x38 → value.toUInt16≠0) :
    (device.write profile offset value world).device.queueNum≠0 := by
  have hq := processQueue_size profile device world
  unfold VirtioBlock.write
  split_ifs with h38 h40 h50 hz h60
  · change (if value.toUInt16 ≤ 128 then value.toUInt16 else 128)≠0
    split
    · exact hv h38
    · decide
  · exact hn
  · generalize processQueue profile device world=pass at hq ⊢
    rw [← hq] at hn
    dsimp only
    split <;> exact hn
  · exact hn
  · exact hn
  · exact hn

/-- An event that does not zero the size register keeps a queue size
different from zero. -/
theorem handle_size {profile : Profile} {machine : BlockMachine} {event : GuestEvent}
    (hn : machine.device.queueNum≠0) (hz : ¬ZeroSize event) :
    (handle profile machine event).machine.device.queueNum≠0 := by
  cases event with
  | read addr len => exact hn
  | rewrite byte => exact hn
  | write addr data =>
    unfold handle mmioWrite
    dsimp only
    by_cases hr : routed addr
    · rw [if_pos hr,if_pos data.property]
      exact write_size hn fun h38 h0 => hz ⟨hr,h38,h0⟩
    · rw [if_neg hr]
      exact hn

/-- In a release build every batch of requests is safe. -/
theorem everyCall_release (n : ℕ) (device : VirtioBlock) (world : World) :
    EveryCall (RequestSafe .release) .release n device world := by
  induction n generalizing device world with
  | zero => trivial
  | succ n ih => exact fun head _ => ⟨fun _ _ _ => Or.inl rfl,fun _ => ih _ _⟩

/-- In a release build an event is safe on a queue of some size. -/
theorem eventSafe_release {machine : BlockMachine} (hn : machine.device.queueNum≠0)
    (event : GuestEvent) : EventSafe .release machine event := by
  cases event with
  | read addr len => trivial
  | rewrite byte => trivial
  | write addr data => exact fun _ _ _ _ _ _ _ => ⟨hn,everyCall_release _ _ _⟩

/-- A run that never zeroes the size register keeps a queue size different
from zero. -/
theorem visits_size {profile : Profile} {disk : RawDiskImage} {world : World}
    {events : List GuestEvent} (hz : ∀ event∈events, ¬ZeroSize event) :
    ∀ visit∈visits (step profile) (fresh disk world) events, visit.1.device.queueNum≠0 := by
  refine @visits_invariant _ _ (step profile) (fun machine => machine.device.queueNum≠0)
    (fun _ event => ¬ZeroSize event) ?_ events (fresh disk world)
    (show (128 : UInt16)≠0 by decide) fun visit hv => hz _ (visits_input hv)
  intro machine event next hn hgood hs
  unfold step at hs
  split at hs
  · cases hs
  · obtain rfl := Option.some.inj hs
    exact handle_size hn hgood

/-- A run of the device, from its creation on, is free of panics exactly when
each of its notifications with pending entries finds a queue size different
from zero and requests whose byte offsets the build can compute. A release
build never panics unless the guest sets the queue size to zero. -/
theorem run_noPanic_iff (profile : Profile) (disk : RawDiskImage) (world : World)
    (events : List GuestEvent) :
    ((∀ visit∈visits (step profile) (fresh disk world) events,
        NoPanic (handle profile visit.1 visit.2).outcome) ↔
      ∀ visit∈visits (step profile) (fresh disk world) events,
        EventSafe profile visit.1 visit.2) ∧
    (profile=.release → (∀ event∈events, ¬ZeroSize event) →
      ∀ visit∈visits (step profile) (fresh disk world) events,
        NoPanic (handle profile visit.1 visit.2).outcome) := by
  constructor
  · constructor
    · intro h visit hv
      exact (handle_noPanic_iff profile visit.1 visit.2).mp (h visit hv)
    · intro h visit hv
      exact (handle_noPanic_iff profile visit.1 visit.2).mpr (h visit hv)
  · rintro rfl hz visit hv
    have hn := visits_size hz visit hv
    exact (handle_noPanic_iff .release visit.1 visit.2).mpr (eventSafe_release hn visit.2)

/-- A four-byte register write of a number below 256. -/
def registerWrite (offset : UInt64) (value : UInt8) : GuestEvent :=
  .write (virtioMmioStart+offset) ⟨[value,0,0,0],by simp⟩

/-- A memory whose second page holds index one where the loop reads it. -/
def pendingWorld : World := ⟨batchMemory 0,blankImage⟩

/-- A guest that sets the queue size to zero and then notifies the device of
a pending entry makes it take a remainder by zero. -/
theorem zero_size_panics :
    ¬∀ visit∈visits (step .release) (fresh ⟨512⟩ pendingWorld)
        [registerWrite 0x38 0,registerWrite 0x40 1,registerWrite 0x50 0],
      NoPanic (handle .release visit.1 visit.2).outcome := by
  intro h
  have hfirst : step .release (fresh ⟨512⟩ pendingWorld) (registerWrite 0x38 0)=
      some ⟨⟨⟨512⟩,0,0,0,0⟩,pendingWorld⟩ := rfl
  have hsecond : step .release ⟨⟨⟨512⟩,0,0,0,0⟩,pendingWorld⟩ (registerWrite 0x40 1)=
      some ⟨⟨⟨512⟩,0,1,0,0⟩,pendingWorld⟩ := rfl
  have hmem : ((⟨⟨⟨512⟩,0,1,0,0⟩,pendingWorld⟩ : BlockMachine),registerWrite 0x50 0)∈
      visits (step .release) (fresh ⟨512⟩ pendingWorld)
        [registerWrite 0x38 0,registerWrite 0x40 1,registerWrite 0x50 0] := by
    simp only [visits,hfirst,hsecond,List.mem_cons,true_or,or_true]
  have hsafe := (handle_noPanic_iff .release _ _).mp (h _ hmem)
  have hindex : guestU16 pendingWorld.memory
      ((⟨⟨512⟩,0,1,0,0⟩ : VirtioBlock).queue+2)=.ok 1 := by
    decide +kernel
  exact (hsafe (by decide) (by decide) (by decide) (by decide) 1 hindex (by decide)).1 rfl

end LiteDroid.VmmBlockRuns
