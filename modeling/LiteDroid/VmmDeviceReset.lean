import LiteDroid.VmmQueueTrace

/-!
# The device after a reset

A driver that starts over clears the status register and programs the queue
again. The status, the size and the page of the queue are then those of a new
device; the position in the available ring is not, since no register write
touches it. The device answers like a new one exactly when its position is
the one a new device has, or guest memory is too small to hold a queue.
-/

namespace LiteDroid.VmmDeviceReset

open CoreResults MemoryRegion StorageImage VmmBlockDevice VmmQueueLayout VmmBlockRequest
open VmmDiskStore VmmBlockQueue VmmBlockRuns VmmRequestEffects VmmQueueTrace
open LittleEndian ByteRange StepRun

/-- The bytes of one exit. -/
abbrev ExitData : Type := {data : List UInt8 // data.length ≤ 8}

/-- What a guest and its host see of one event. -/
structure Response where
  /-- The bytes that a read exit is answered with. -/
  answer : Outcome (Option (List UInt8))
  /-- Normal return or a panic. -/
  outcome : Outcome Unit
  /-- Guest memory and the image's file afterwards. -/
  world : World

/-- The bytes that an event is answered with; only reads have some. -/
def answer (profile : Profile) (machine : BlockMachine) : GuestEvent →
    Outcome (Option (List UInt8))
  | .read addr len => mmioRead profile machine.device addr len
  | _ => return none

/-- The response to one event. -/
def respond (profile : Profile) (machine : BlockMachine) (event : GuestEvent) : Response :=
  ⟨answer profile machine event,(handle profile machine event).outcome,
    (handle profile machine event).machine.world⟩

/-- A driver's reset: clear the status, then program size and page of the queue. -/
def reset (size page : ExitData) : List GuestEvent :=
  [registerWrite 0x60 0,.write (virtioMmioStart+0x38) size,.write (virtioMmioStart+0x40) page]

/-- From the reset on, a machine responds to every sequence of events as a new
device on the same disk, memory and file does. -/
def StartsAfresh (profile : Profile) (machine : BlockMachine) (size page : ExitData) : Prop :=
  ∀ events, answers (step profile) (respond profile) machine (reset size page++events)=
    answers (step profile) (respond profile) (fresh machine.device.disk machine.world)
      (reset size page++events)

/-- The device after a driver's reset. -/
def programmed (device : VirtioBlock) (size page : ExitData) : VirtioBlock :=
  {device with
    queueNum := min (UInt64.ofNat (leNat size)).toUInt16 128
    queuePfn := (UInt64.ofNat (leNat page)).toUInt32
    status := 0}

/-- A write exit to one of the registers is the register write. -/
theorem handle_register (profile : Profile) (machine : BlockMachine) {offset : UInt64}
    (data : ExitData) (hr : routed (virtioMmioStart+offset)) :
    handle profile machine (.write (virtioMmioStart+offset) data)=
      ⟨(machine.device.write profile offset (UInt64.ofNat (leNat data)) machine.world).outcome,
        ⟨(machine.device.write profile offset (UInt64.ofNat (leNat data)) machine.world).device,
          (machine.device.write profile offset (UInt64.ofNat (leNat data)) machine.world).world⟩,
        (machine.device.write profile offset (UInt64.ofNat (leNat data)) machine.world).pass⟩ := by
  have hoffset : virtioMmioStart+offset-virtioMmioStart=offset := by
    rw [UInt64.add_comm,UInt64.add_sub_cancel]
  simp only [handle,mmioWrite,if_pos hr,if_pos data.property,hoffset]

/-- Clearing the status register. -/
theorem step_status (profile : Profile) (machine : BlockMachine) :
    step profile machine (registerWrite 0x60 0)=
      some ⟨{machine.device with status := 0},machine.world⟩ := by
  unfold step registerWrite
  rw [handle_register profile machine _ (by decide)]
  rfl

/-- Programming the size of the queue. -/
theorem step_size (profile : Profile) (machine : BlockMachine) (size : ExitData) :
    step profile machine (.write (virtioMmioStart+0x38) size)=
      some ⟨{machine.device with queueNum := min (UInt64.ofNat (leNat size)).toUInt16 128},
        machine.world⟩ := by
  unfold step
  rw [handle_register profile machine _ (by decide)]
  rfl

/-- Programming the page of the queue. -/
theorem step_page (profile : Profile) (machine : BlockMachine) (page : ExitData) :
    step profile machine (.write (virtioMmioStart+0x40) page)=
      some ⟨{machine.device with queuePfn := (UInt64.ofNat (leNat page)).toUInt32},
        machine.world⟩ := by
  unfold step
  rw [handle_register profile machine _ (by decide)]
  rfl

/-- The answers to a reset and what follows: three writes that return, then
those of the programmed device. -/
theorem answers_reset (profile : Profile) (machine : BlockMachine) (size page : ExitData)
    (events : List GuestEvent) :
    answers (step profile) (respond profile) machine (reset size page++events)=
      [⟨.ok none,.ok (),machine.world⟩,⟨.ok none,.ok (),machine.world⟩,
          ⟨.ok none,.ok (),machine.world⟩]++
        answers (step profile) (respond profile)
          ⟨programmed machine.device size page,machine.world⟩ events := by
  unfold reset
  rw [List.cons_append,List.cons_append,List.cons_append,List.nil_append,
    answers_cons (step_status profile machine),answers_cons (step_size profile _ size),
    answers_cons (step_page profile _ page)]
  have hstatus : respond profile machine (registerWrite 0x60 0)=
      ⟨.ok none,.ok (),machine.world⟩ := by
    unfold respond registerWrite
    rw [handle_register profile machine _ (by decide)]
    rfl
  have hsize : ∀ other : BlockMachine, respond profile other
      (.write (virtioMmioStart+0x38) size)=⟨.ok none,.ok (),other.world⟩ := by
    intro other
    unfold respond
    rw [handle_register profile other _ (by decide)]
    rfl
  have hpage : ∀ other : BlockMachine, respond profile other
      (.write (virtioMmioStart+0x40) page)=⟨.ok none,.ok (),other.world⟩ := by
    intro other
    unfold respond
    rw [handle_register profile other _ (by decide)]
    rfl
  rw [hstatus,hsize,hpage]
  rfl

/-- The machine with its position moved elsewhere. -/
def moved (machine : BlockMachine) (position : UInt16) : BlockMachine :=
  {machine with device := {machine.device with lastAvail := position}}

/-- Guest memory ends before the index of a queue at its second page, the first
page a queue can have. -/
def Tiny (memory : GuestMemory) : Prop := memory.size.toNat < 0x1004

instance (memory : GuestMemory) : Decidable (Tiny memory) := inferInstanceAs (Decidable (_ < _))

/-- In a tiny memory no index can be read, so a pass over the queue ends at once. -/
theorem processQueue_tiny {profile : Profile} {device : VirtioBlock} {world : World}
    (hp : device.queuePfn≠0) (h : Tiny world.memory) :
    processQueue profile device world=
      ⟨.error (.error (.guestAddressOutOfRange (device.queue+2))),device,world,none,[]⟩ := by
  have hpos : device.queuePfn.toNat≠0 := fun hz => hp (UInt32.toNat_inj.mp hz)
  have hqueue := queue_toNat device
  have hfits : ¬Fits world.memory (device.queue+2) 2 := by
    unfold Fits
    unfold Tiny at h
    rw [indexAddr_toNat]
    omega
  unfold processQueue
  rw [guestU16_not_fits hfits]

/-- In a tiny memory a register write does the same from every position. -/
theorem write_moved {profile : Profile} {device : VirtioBlock} {world : World}
    (h : Tiny world.memory) (offset value : UInt64) (position : UInt16) :
    ({device with lastAvail := position}.write profile offset value world).outcome=
        (device.write profile offset value world).outcome ∧
      ({device with lastAvail := position}.write profile offset value world).device=
        {(device.write profile offset value world).device with lastAvail := position} ∧
      ({device with lastAvail := position}.write profile offset value world).world=
        (device.write profile offset value world).world ∧
      (device.write profile offset value world).world=world := by
  unfold VirtioBlock.write
  split_ifs with h38 h40 h50 hv h60
  · exact ⟨rfl,rfl,rfl,rfl⟩
  · exact ⟨rfl,rfl,rfl,rfl⟩
  · have hown := @processQueue_tiny profile device world hv.2 h
    have hother := @processQueue_tiny profile {device with lastAvail := position} world hv.2 h
    rw [hown,hother]
    exact ⟨rfl,rfl,rfl,rfl⟩
  · exact ⟨rfl,rfl,rfl,rfl⟩
  · exact ⟨rfl,rfl,rfl,rfl⟩
  · exact ⟨rfl,rfl,rfl,rfl⟩

/-- In a tiny memory an event has the same response from every position, and
memory stays tiny. -/
theorem handle_moved {profile : Profile} {machine : BlockMachine}
    (h : Tiny machine.world.memory) (event : GuestEvent) (position : UInt16) :
    respond profile (moved machine position) event=respond profile machine event ∧
      (handle profile (moved machine position) event).outcome=
        (handle profile machine event).outcome ∧
      (handle profile (moved machine position) event).machine=
        moved (handle profile machine event).machine position ∧
      Tiny (handle profile machine event).machine.world.memory := by
  cases event with
  | read addr len => exact ⟨rfl,rfl,rfl,h⟩
  | rewrite byte => exact ⟨rfl,rfl,rfl,h⟩
  | write addr data =>
    by_cases hr : routed addr
    · obtain ⟨houtcome,hdevice,hworld,hkept⟩ := @write_moved profile machine.device machine.world h
        (addr-virtioMmioStart) (UInt64.ofNat (leNat data)) position
      unfold respond moved
      simp only [handle,mmioWrite,if_pos hr,if_pos data.property]
      rw [houtcome,hdevice,hworld,hkept]
      exact ⟨rfl,rfl,rfl,h⟩
    · unfold respond moved
      simp only [handle,mmioWrite,if_neg hr]
      exact ⟨rfl,trivial,trivial,h⟩

/-- In a tiny memory all further responses are the same from every position. -/
theorem answers_moved {profile : Profile} (machine : BlockMachine) (position : UInt16)
    (h : Tiny machine.world.memory) (events : List GuestEvent) :
    answers (step profile) (respond profile) machine events=
      answers (step profile) (respond profile) (moved machine position) events := by
  refine @answers_eq _ _ _ (step profile) (respond profile)
    (fun s t => Tiny s.world.memory ∧ t=moved s position) ?_ events machine
    (moved machine position) ⟨h,rfl⟩
  rintro s t event ⟨hs,rfl⟩
  obtain ⟨hsame,houtcome,hmachine,hkept⟩ := @handle_moved profile s hs event position
  refine ⟨hsame.symm,?_⟩
  unfold step
  rw [houtcome,hmachine]
  cases (handle profile s event).outcome with
  | error fault => exact Or.inl ⟨rfl,rfl⟩
  | ok _ => exact Or.inr ⟨_,_,rfl,rfl,hkept,rfl⟩

/-- The memory of a guest that cleared all of it. -/
def cleared (memory : GuestMemory) : GuestMemory := {memory with byte := fun _ => 0}

/-- A guest that clears its memory, chooses a queue of size zero at the second
page and notifies the device. Nothing is published. -/
def probe : List GuestEvent :=
  [.rewrite fun _ => 0,registerWrite 0x38 0,registerWrite 0x40 1,registerWrite 0x50 0]

/-- The device that the probe notifies. -/
def probed (device : VirtioBlock) : VirtioBlock := {device with queueNum := 0,queuePfn := 1}

/-- The probe's notification finds index zero, unless memory is tiny. -/
theorem processQueue_probed {profile : Profile} {device : VirtioBlock} {world : World}
    (h : ¬Tiny world.memory) :
    processQueue profile (probed device) ⟨cleared world.memory,world.file⟩=
      serveLoop profile 0 (probed device) ⟨cleared world.memory,world.file⟩ := by
  have hqueue : (probed device).queue=0x1000 := rfl
  have hfits : Fits (cleared world.memory) ((probed device).queue+2) 2 := by
    unfold Tiny at h
    rw [hqueue]
    change 0x1002+2 ≤ world.memory.size.toNat
    omega
  have hzero : wordAt (cleared world.memory) ((probed device).queue+2).toNat=0 := rfl
  unfold processQueue
  rw [guestU16_fits hfits,hzero]

/-- A notification whose pass panics panics. -/
theorem notify_panic {profile : Profile} {device : VirtioBlock} {world : World} {cause : Panic}
    {pass : QueueReport} (hp : device.queuePfn≠0) (hq : processQueue profile device world=pass)
    (hc : pass.outcome=.error (.panic cause)) :
    (handle profile ⟨device,world⟩ (registerWrite 0x50 0)).outcome=.error (.panic cause) := by
  have h38 : ¬(0x50 : UInt64)=0x38 := by decide
  have h40 : ¬(0x50 : UInt64)=0x40 := by decide
  have hvalue : UInt64.ofNat (leNat [0,0,0,0])=0 := rfl
  unfold registerWrite
  rw [handle_register profile _ _ (by decide)]
  simp only [VirtioBlock.write,if_neg h38,if_neg h40,if_true,hvalue,if_pos (And.intro trivial hp),
    hq,hc]

/-- The probe tells the position of a device: it panics exactly when that is
not zero. -/
theorem answers_probe {profile : Profile} (machine : BlockMachine)
    (h : ¬Tiny machine.world.memory) :
    (answers (step profile) (respond profile) machine probe)[3]?.map (fun r => r.outcome)=
      some (if machine.device.lastAvail=0 then .ok () else .error (.panic .remainderByZero)) := by
  have hclear : step profile machine (.rewrite fun _ => 0)=
      some ⟨machine.device,⟨cleared machine.world.memory,machine.world.file⟩⟩ := rfl
  have hsize : step profile ⟨machine.device,⟨cleared machine.world.memory,machine.world.file⟩⟩
      (registerWrite 0x38 0)=some ⟨{machine.device with queueNum := 0},
        ⟨cleared machine.world.memory,machine.world.file⟩⟩ := step_size _ _ _
  have hpage : step profile ⟨{machine.device with queueNum := 0},
      ⟨cleared machine.world.memory,machine.world.file⟩⟩ (registerWrite 0x40 1)=
      some ⟨probed machine.device,⟨cleared machine.world.memory,machine.world.file⟩⟩ :=
    step_page _ _ _
  have hnotify : (handle profile ⟨probed machine.device,
      ⟨cleared machine.world.memory,machine.world.file⟩⟩ (registerWrite 0x50 0)).outcome=
      if machine.device.lastAvail=0 then .ok () else .error (.panic .remainderByZero) := by
    have hset : (probed machine.device).queuePfn≠0 := by
      change (1 : UInt32)≠0
      decide
    have hpass := @processQueue_probed profile machine.device machine.world h
    by_cases hzero : machine.device.lastAvail=0
    · have hdone : (probed machine.device).lastAvail=0 := hzero
      rw [serveLoop_done hdone] at hpass
      rw [handle_notify hset (by rw [hpass]; exact noPanic_ok _),if_pos hzero]
    · have hpending : (probed machine.device).lastAvail≠0 := hzero
      rw [serveLoop_zero hpending rfl] at hpass
      rw [if_neg hzero]
      exact notify_panic hset hpass rfl
  unfold probe
  rw [answers_cons hclear,answers_cons hsize,answers_cons hpage]
  unfold answers
  rw [visits,List.map_cons]
  simp only [List.getElem?_cons_succ,List.getElem?_cons_zero,Option.map_some,respond,hnotify]

/-- A machine starts afresh exactly when its position is that of a new device,
or no queue fits its memory. -/
theorem startsAfresh_iff (profile : Profile) (machine : BlockMachine) (size page : ExitData) :
    StartsAfresh profile machine size page ↔
      machine.device.lastAvail=0 ∨ Tiny machine.world.memory := by
  have hnew : programmed (VirtioBlock.new machine.device.disk) size page=
      {programmed machine.device size page with lastAvail := 0} := rfl
  unfold StartsAfresh
  constructor
  · intro h
    by_contra hn
    rw [not_or] at hn
    have hprobe := h probe
    rw [answers_reset,answers_reset] at hprobe
    have hrest := congrArg (fun l => l[3]?.map fun r => r.outcome) (List.append_cancel_left hprobe)
    have hown := @answers_probe profile ⟨programmed machine.device size page,machine.world⟩ hn.2
    have hother := @answers_probe profile
      ⟨programmed (VirtioBlock.new machine.device.disk) size page,machine.world⟩ hn.2
    have hold : ¬(programmed machine.device size page).lastAvail=0 := hn.1
    have hzero : (programmed (VirtioBlock.new machine.device.disk) size page).lastAvail=0 := rfl
    dsimp only [fresh] at hrest hown hother
    rw [hown,hother,if_neg hold,if_pos hzero] at hrest
    cases hrest
  · intro h events
    rw [answers_reset,answers_reset]
    refine congrArg _ ?_
    dsimp only [fresh]
    rw [hnew]
    rcases h with h | h
    · have hsame : {programmed machine.device size page with lastAvail := 0}=
          programmed machine.device size page := by
        rw [← h]
        rfl
      rw [hsame]
    · exact answers_moved ⟨programmed machine.device size page,machine.world⟩ 0 h events

/-- An event keeps the image. -/
theorem handle_disk (profile : Profile) (machine : BlockMachine) (event : GuestEvent) :
    (handle profile machine event).machine.device.disk=machine.device.disk := by
  obtain ⟨-,-,hdisk,-⟩ | ⟨-,hmachine⟩ := handle_pass profile machine event
  · exact hdisk
  · rw [hmachine]
    unfold processQueue
    split
    · rfl
    · obtain ⟨position,hp⟩ := serveLoop_device profile _ machine.device machine.world
      dsimp only
      rw [hp]

/-- Over a run the image stays and the position counts the completed requests. -/
theorem run_position (profile : Profile) (events : List GuestEvent) :
    ∀ (machine last : BlockMachine) (n : ℕ), machine.device.lastAvail=UInt16.ofNat n →
      run (step profile) machine events=some last →
        last.device.disk=machine.device.disk ∧
        last.device.lastAvail=UInt16.ofNat (n+passed (runCalls profile machine events)) := by
  induction events with
  | nil =>
    intro machine last n hn hrun
    obtain rfl := Option.some.inj hrun
    exact ⟨rfl,hn⟩
  | cons event rest ih =>
    intro machine last n hn hrun
    obtain ⟨next,hs,hrest⟩ := run_cons_iff.mp hrun
    obtain ⟨-,hlast⟩ := handle_numbered profile machine event n hn
    rw [← step_machine hs] at hlast
    obtain ⟨hdisk,hposition⟩ := ih next last _ hlast hrest
    rw [runCalls_cons rest hs,hdisk,step_machine hs]
    refine ⟨handle_disk profile machine event,?_⟩
    rw [hposition,passed,passed,passed,List.countP_append,Nat.add_assoc,step_machine hs]

/-- A 16-bit count is zero exactly for the multiples of its range. -/
theorem count_zero_iff (n : ℕ) : UInt16.ofNat n=0 ↔ 2^16 ∣ n := by
  rw [← UInt16.toNat_inj,UInt16.toNat_ofNat']
  exact Nat.dvd_iff_mod_eq_zero.symm

/-- Re-initialising the device. In every state that a run from the creation of
the device reaches, and whatever size and page the driver programs, the device
starts afresh exactly when its position is zero, which is so exactly when the
requests completed so far are a multiple of 2 to the 16, or when guest memory
is too small to hold a queue. -/
theorem reset_starts_afresh_iff (profile : Profile) (disk : RawDiskImage) (world : World)
    (events : List GuestEvent) (machine : BlockMachine)
    (hrun : run (step profile) (fresh disk world) events=some machine) (size page : ExitData) :
    machine.device.disk=disk ∧
      (StartsAfresh profile machine size page ↔
        machine.device.lastAvail=0 ∨ Tiny machine.world.memory) ∧
      (machine.device.lastAvail=0 ↔ 2^16 ∣ passed (runCalls profile (fresh disk world) events)) := by
  obtain ⟨hdisk,hposition⟩ := run_position profile events (fresh disk world) machine 0 rfl hrun
  refine ⟨hdisk,startsAfresh_iff profile machine size page,?_⟩
  rw [hposition,Nat.zero_add]
  exact count_zero_iff _

/-- A size register write of four entries. -/
def fourEntries : ExitData := ⟨[4,0,0,0],by simp⟩

/-- A page register write of the second page. -/
def secondPage : ExitData := ⟨[1,0,0,0],by simp⟩

/-- A driver that programmed a queue of four entries at the second page and has
not notified the device yet starts afresh. -/
theorem reset_starts_afresh_iff_unused :
    StartsAfresh .release ⟨smallDevice,⟨batchMemory 1,blankImage⟩⟩ fourEntries secondPage := by
  have hrun : run (step .release) (fresh ⟨512⟩ ⟨batchMemory 1,blankImage⟩)
      [registerWrite 0x38 4,registerWrite 0x40 1]=
        some ⟨smallDevice,⟨batchMemory 1,blankImage⟩⟩ := rfl
  exact (reset_starts_afresh_iff .release ⟨512⟩ ⟨batchMemory 1,blankImage⟩ _ _ hrun _ _).2.1.mpr
    (Or.inl rfl)

/-- What the device leaves behind after it served the published request once. -/
def servedWorld : World := (serve .release smallDevice 1 ⟨batchMemory 1,blankImage⟩).world

/-- The notification of a published request on a device that has served none. -/
theorem notify_published {world : World}
    (hi : guestU16 world.memory (smallDevice.queue+2)=.ok 1)
    (hh : guestU16 world.memory smallDevice.headAddr=.ok 1)
    (hs : (serve .release smallDevice 1 world).outcome=.ok ()) :
    (handle .release ⟨smallDevice,world⟩ (registerWrite 0x50 0)).outcome=.ok () ∧
      (handle .release ⟨smallDevice,world⟩ (registerWrite 0x50 0)).machine=
        ⟨smallDevice.advance,(serve .release smallDevice 1 world).world⟩ := by
  have hdone : smallDevice.advance.lastAvail=1 := rfl
  have hpass : processQueue .release smallDevice world=
      ⟨.ok (),smallDevice.advance,(serve .release smallDevice 1 world).world,some 1,
        [⟨smallDevice.lastAvail,1,world,serve .release smallDevice 1 world⟩]⟩ := by
    unfold processQueue
    rw [hi]
    dsimp only
    rw [serveLoop_pass (by decide) (by decide) hh hs,serveLoop_done hdone]
  rw [handle_notify (by decide) (by rw [hpass]; exact noPanic_ok _),hpass]
  exact ⟨rfl,rfl⟩

/-- A driver that has one request served and then resets the device: the
published entry is served by a new device, whose used index becomes two, and
passed over by the reset one, whose used index stays one. -/
theorem reset_keeps_position :
    run (step .release) (fresh ⟨512⟩ ⟨batchMemory 1,blankImage⟩)
        [registerWrite 0x38 4,registerWrite 0x40 1,registerWrite 0x50 0]=
          some ⟨smallDevice.advance,servedWorld⟩ ∧
      wordAt (handle .release ⟨programmed smallDevice.advance fourEntries secondPage,servedWorld⟩
        (registerWrite 0x50 0)).machine.world.memory 0x2002=1 ∧
      wordAt (handle .release ⟨programmed (VirtioBlock.new ⟨512⟩) fourEntries secondPage,servedWorld⟩
        (registerWrite 0x50 0)).machine.world.memory 0x2002=2 ∧
      ¬StartsAfresh .release ⟨smallDevice.advance,servedWorld⟩ fourEntries secondPage := by
  have hsize : step .release (fresh ⟨512⟩ ⟨batchMemory 1,blankImage⟩) (registerWrite 0x38 4)=
      some ⟨⟨⟨512⟩,4,0,0,0⟩,⟨batchMemory 1,blankImage⟩⟩ := rfl
  have hpage : step .release ⟨⟨⟨512⟩,4,0,0,0⟩,⟨batchMemory 1,blankImage⟩⟩ (registerWrite 0x40 1)=
      some ⟨smallDevice,⟨batchMemory 1,blankImage⟩⟩ := rfl
  obtain ⟨hfirst,hafter⟩ := @notify_published ⟨batchMemory 1,blankImage⟩ (by decide +kernel)
    (by decide +kernel) (by decide +kernel)
  obtain ⟨-,hagain⟩ := @notify_published servedWorld (by decide +kernel) (by decide +kernel)
    (by decide +kernel)
  have hnotify : step .release ⟨smallDevice,⟨batchMemory 1,blankImage⟩⟩ (registerWrite 0x50 0)=
      some ⟨smallDevice.advance,servedWorld⟩ := by
    unfold step
    rw [hfirst,hafter]
    rfl
  have hreset : programmed smallDevice.advance fourEntries secondPage=smallDevice.advance := rfl
  have hnew : programmed (VirtioBlock.new ⟨512⟩) fourEntries secondPage=smallDevice := rfl
  have hindex : guestU16 servedWorld.memory (smallDevice.advance.queue+2)=.ok 1 := by
    decide +kernel
  have hidle : processQueue .release smallDevice.advance servedWorld=
      ⟨.ok (),smallDevice.advance,servedWorld,some 1,[]⟩ := by
    unfold processQueue
    rw [hindex]
    exact serveLoop_done rfl
  refine ⟨?_,?_,?_,?_⟩
  · simp only [run,hsize,hpage,hnotify]
  · rw [hreset,handle_notify (by decide) (by rw [hidle]; exact noPanic_ok _),hidle]
    decide +kernel
  · rw [hnew,hagain]
    decide +kernel
  · rw [startsAfresh_iff]
    decide +kernel

end LiteDroid.VmmDeviceReset
