import LiteDroid.VmmBlockRuns

/-!
# Effects of failing requests

A request that fails before its data is moved leaves no trace. One that
fails later has already stored its data, and sometimes its status byte or
half of its used element. The loop does not pass a failing entry, so the
next notification serves it again and repeats what it stored. Entries are
counted by how many were passed before them; the available-ring position is
that count modulo 2 to the 16.
-/

namespace LiteDroid.VmmRequestEffects

open CoreResults MemoryRegion StorageImage VmmBlockDevice VmmQueueLayout VmmBlockRequest
open VmmDiskStore VmmBlockQueue VmmBlockRuns LittleEndian StepRun

/-- A call that returns an error value carried out no store and left memory
and file as they were. -/
def NoEffect (before : World) (report : RequestReport) : Prop :=
  ∀ cause, report.outcome=.error (.error cause) → report.stores=[] ∧ report.world=before

/-- A request whose data would be moved can also be completed. A request of
an unknown type moves nothing and may still fail at its status byte. -/
def Clean (profile : Profile) (device : VirtioBlock) (head : UInt16) (world : World) : Prop :=
  ∀ chain, walkChain profile device.queueNum world.memory device.queue head=.ok chain →
    Transferable profile chain world → Completable device chain world ∨
      (chain.requestType≠0 ∧ chain.requestType≠1 ∧ ¬Fits world.memory chain.statusAddr 1)

/-- A request moves no data exactly when its type is unknown. -/
theorem deliveredStores_eq_nil (chain : Chain) (world : World) :
    deliveredStores chain world=[] ↔ chain.requestType≠0 ∧ chain.requestType≠1 := by
  unfold deliveredStores
  split_ifs with h0 h1
  · simp [h0]
  · simp [h1]
  · simp [h0,h1]

/-- A request of an unknown type leaves the world as it was. -/
theorem delivered_other {chain : Chain} (world : World) (h0 : chain.requestType≠0)
    (h1 : chain.requestType≠1) : delivered chain world=world := by
  unfold delivered
  rw [if_neg h0,if_neg h1]

/-- A clean request that does not complete stores nothing, whatever stopped it. -/
theorem clean_unchanged {profile : Profile} {device : VirtioBlock} {head : UInt16} {world : World}
    (hc : Clean profile device head world) {fault : Fault}
    (hf : (serve profile device head world).outcome=.error fault) :
    (serve profile device head world).stores=[] ∧
      (serve profile device head world).world=world := by
  obtain ⟨other,-,hr⟩ | ⟨chain,hw,hcase⟩ := processRequest_cases profile device head world
  · rw [serve,hr]
    exact ⟨rfl,rfl⟩
  · have hclean := hc chain hw
    obtain ⟨other,-,-,hr⟩ | ⟨ht,hs,hr⟩ | ⟨cause,memory,stores,ht,hs,he,-,-⟩ | ⟨-,-,hr⟩ := hcase
    · rw [serve,hr]
      exact ⟨rfl,rfl⟩
    · rcases hclean ht with hm | ⟨h0,h1,-⟩
      · exact absurd hm.1 hs
      · rw [serve,hr]
        exact ⟨(deliveredStores_eq_nil chain world).mpr ⟨h0,h1⟩,delivered_other world h0 h1⟩
    · rcases hclean ht with hm | ⟨-,-,hn⟩
      · exact absurd hm.2 he
      · exact absurd hs hn
    · rw [serve,hr] at hf
      cases hf

/-- A request fails without effect exactly when it is clean. -/
theorem noEffect_iff (profile : Profile) (device : VirtioBlock) (head : UInt16) (world : World) :
    NoEffect world (serve profile device head world) ↔ Clean profile device head world := by
  refine ⟨fun h chain hw ht => ?_,fun h cause hf => clean_unchanged h hf⟩
  obtain ⟨fault,hother,-⟩ | ⟨other,hother,hcase⟩ := processRequest_cases profile device head world
  · rw [hw] at hother
    cases hother
  rw [hw] at hother
  obtain rfl := Except.ok.inj hother
  obtain ⟨fault,hn,-,-⟩ | ⟨-,hs,hr⟩ | ⟨cause,memory,stores,-,-,-,-,hr⟩ | ⟨-,hm,-⟩ := hcase
  · exact absurd ht hn
  · unfold NoEffect at h
    rw [serve,hr] at h
    obtain ⟨h0,h1⟩ := (deliveredStores_eq_nil chain world).mp (h _ rfl).1
    exact Or.inr ⟨h0,h1,hs⟩
  · unfold NoEffect at h
    rw [serve,hr] at h
    have hnil := (h _ rfl).1
    simp at hnil
  · exact Or.inl hm

/-- Whether a store goes to the disk image. -/
def Store.toDisk : Store → Bool
  | .guest _ _ => false
  | .disk _ _ => true

/-- Whether a call wrote to the disk image. -/
def writesDisk (call : RequestCall) : Bool := call.report.stores.any Store.toDisk

/-- Calls in order, each with the number of entries passed before it. Calls
with one number served one published entry. -/
def numbered : ℕ → List RequestCall → List (ℕ×RequestCall)
  | _,[] => []
  | n,call::rest => (n,call)::numbered (if call.report.outcome=.ok () then n+1 else n) rest

/-- How many entries a list of calls passed. -/
def passed (calls : List RequestCall) : ℕ :=
  calls.countP fun call => call.report.outcome=.ok ()

/-- The first call of a list passes one entry if it completes, none otherwise. -/
theorem passed_cons (n : ℕ) (call : RequestCall) (rest : List RequestCall) :
    n+passed (call::rest)=(if call.report.outcome=.ok () then n+1 else n)+passed rest := by
  unfold passed
  rw [List.countP_cons]
  by_cases h : call.report.outcome=.ok ()
  · simp only [h,decide_true,if_true]
    omega
  · simp only [h,decide_false,Bool.false_eq_true,if_false]
    omega

/-- Numbering goes on behind a first part by what it passed. -/
theorem numbered_append (n : ℕ) (first second : List RequestCall) :
    numbered n (first++second)=numbered n first++numbered (n+passed first) second := by
  induction first generalizing n with
  | nil => rfl
  | cons call rest ih =>
    rw [List.cons_append,numbered,numbered,ih,List.cons_append,passed_cons]

/-- No call has a number below the first one. -/
theorem numbered_ge {n : ℕ} {calls : List RequestCall} {e : ℕ×RequestCall}
    (h : e∈numbered n calls) : n ≤ e.1 := by
  induction calls generalizing n with
  | nil => cases h
  | cons call rest ih =>
    rcases List.mem_cons.mp h with rfl | h
    · exact Nat.le_refl _
    · have hrest := ih h
      split at hrest <;> omega

/-- When no failing call writes to the disk, every entry has at most one call
that does. -/
theorem numbered_once {calls : List RequestCall}
    (hclean : ∀ call∈calls, call.report.outcome≠.ok () → writesDisk call=false) (n entry : ℕ) :
    (numbered n calls).countP (fun e => e.1=entry && writesDisk e.2) ≤ 1 := by
  induction calls generalizing n with
  | nil => simp [numbered]
  | cons call rest ih =>
    have hrest := ih fun c hc => hclean c (List.mem_cons_of_mem _ hc)
    rw [numbered,List.countP_cons]
    by_cases hok : call.report.outcome=.ok ()
    · rw [if_pos hok]
      by_cases hentry : n=entry
      · have hzero : (numbered (n+1) rest).countP (fun e => e.1=entry && writesDisk e.2)=0 := by
          rw [List.countP_eq_zero]
          intro e he
          have hge := numbered_ge he
          have hne : e.1≠entry := by omega
          simp [hne]
        rw [hzero]
        split <;> omega
      · simp only [hentry,decide_false,Bool.false_and,Bool.false_eq_true,if_false]
        exact hrest (n+1)
    · have hfail := hclean call List.mem_cons_self hok
      rw [if_neg hok]
      simp only [hfail,Bool.and_false,Bool.false_eq_true,if_false]
      exact hrest n

/-- The calls of the request handler an event made. -/
def eventCalls (profile : Profile) (machine : BlockMachine) (event : GuestEvent) :
    List RequestCall :=
  match (handle profile machine event).pass with
  | none => []
  | some pass => pass.calls

/-- The calls of the request handler over a run, in order. -/
def runCalls (profile : Profile) (machine : BlockMachine) (events : List GuestEvent) :
    List RequestCall :=
  (visits (step profile) machine events).flatMap fun visit => eventCalls profile visit.1 visit.2

/-- A position that counts the passed entries goes on counting them. -/
theorem position_succ (n : ℕ) : UInt16.ofNat n+1=UInt16.ofNat (n+1) := by
  apply UInt16.toNat_inj.mp
  simp only [UInt16.toNat_add,UInt16.toNat_ofNat',UInt16.reduceToNat]
  omega

/-- The loop's calls stand at the positions their numbers count, and the
device ends at the count of all passed entries. -/
theorem serveLoop_numbered (profile : Profile) (availIdx : UInt16) (device : VirtioBlock)
    (world : World) :
    ∀ n, device.lastAvail=UInt16.ofNat n →
      (∀ e∈numbered n (serveLoop profile availIdx device world).calls,
        e.2.position=UInt16.ofNat e.1) ∧
      (serveLoop profile availIdx device world).device.lastAvail=
        UInt16.ofNat (n+passed (serveLoop profile availIdx device world).calls) := by
  induction device, world using serveLoop_induction profile availIdx with
  | done device world h =>
    intro n hn
    rw [serveLoop_done h]
    exact ⟨fun e he => (by cases he),hn⟩
  | zero device world h hq =>
    intro n hn
    rw [serveLoop_zero h hq]
    exact ⟨fun e he => (by cases he),hn⟩
  | unread device world fault h hq hh =>
    intro n hn
    rw [serveLoop_unread h hq hh]
    exact ⟨fun e he => (by cases he),hn⟩
  | fails device world head fault h hq hh hf =>
    intro n hn
    have hne : ¬(serve profile device head world).outcome=.ok () := by
      rw [hf]
      exact fun hc => by cases hc
    rw [serveLoop_fault h hq hh hf]
    dsimp only
    rw [passed_cons,if_neg hne]
    refine ⟨fun e he => ?_,hn⟩
    obtain rfl := List.mem_singleton.mp he
    exact hn
  | passes device world head h hq hh hok ih =>
    intro n hn
    have hnext : device.advance.lastAvail=UInt16.ofNat (n+1) := by
      rw [← position_succ,← hn]
      rfl
    obtain ⟨hpos,hlast⟩ := ih (n+1) hnext
    rw [serveLoop_pass h hq hh hok]
    dsimp only
    rw [numbered,passed_cons,if_pos hok]
    refine ⟨fun e he => ?_,hlast⟩
    rcases List.mem_cons.mp he with rfl | he
    · exact hn
    · exact hpos e he

/-- A pass keeps the count of passed entries. -/
theorem processQueue_numbered (profile : Profile) (device : VirtioBlock) (world : World) (n : ℕ)
    (hn : device.lastAvail=UInt16.ofNat n) :
    (∀ e∈numbered n (processQueue profile device world).calls,e.2.position=UInt16.ofNat e.1) ∧
      (processQueue profile device world).device.lastAvail=
        UInt16.ofNat (n+passed (processQueue profile device world).calls) := by
  unfold processQueue
  split
  · exact ⟨fun e he => (by cases he),hn⟩
  · exact serveLoop_numbered profile _ device world n hn

/-- An event makes the calls of one pass over the queue and leaves what that
pass leaves, or makes no call and keeps the position, the image and its file. -/
theorem handle_pass (profile : Profile) (machine : BlockMachine) (event : GuestEvent) :
    (eventCalls profile machine event=[] ∧
      (handle profile machine event).machine.device.lastAvail=machine.device.lastAvail ∧
      (handle profile machine event).machine.device.disk=machine.device.disk ∧
      (handle profile machine event).machine.world.file=machine.world.file) ∨
    (eventCalls profile machine event=
        (processQueue profile machine.device machine.world).calls ∧
      (handle profile machine event).machine=
        ⟨(processQueue profile machine.device machine.world).device,
          (processQueue profile machine.device machine.world).world⟩) := by
  unfold eventCalls
  cases event with
  | read addr len => exact Or.inl ⟨rfl,rfl,rfl,rfl⟩
  | rewrite byte => exact Or.inl ⟨rfl,rfl,rfl,rfl⟩
  | write addr data =>
    unfold handle mmioWrite
    dsimp only
    by_cases hr : routed addr
    · rw [if_pos hr,if_pos data.property]
      unfold VirtioBlock.write
      generalize processQueue profile machine.device machine.world=pass
      split_ifs with h38 h40 h50 hz h60
      · exact Or.inl ⟨rfl,rfl,rfl,rfl⟩
      · exact Or.inl ⟨rfl,rfl,rfl,rfl⟩
      · obtain ⟨outcome,device,world,index,calls⟩ := pass
        rcases outcome with (cause | cause) | _ <;> exact Or.inr ⟨rfl,rfl⟩
      · exact Or.inl ⟨rfl,rfl,rfl,rfl⟩
      · exact Or.inl ⟨rfl,rfl,rfl,rfl⟩
      · exact Or.inl ⟨rfl,rfl,rfl,rfl⟩
    · rw [if_neg hr]
      exact Or.inl ⟨rfl,rfl,rfl,rfl⟩

/-- An event keeps the count of passed entries. -/
theorem handle_numbered (profile : Profile) (machine : BlockMachine) (event : GuestEvent) (n : ℕ)
    (hn : machine.device.lastAvail=UInt16.ofNat n) :
    (∀ e∈numbered n (eventCalls profile machine event),e.2.position=UInt16.ofNat e.1) ∧
      (handle profile machine event).machine.device.lastAvail=
        UInt16.ofNat (n+passed (eventCalls profile machine event)) := by
  obtain ⟨hcalls,hlast,-,-⟩ | ⟨hcalls,hmachine⟩ := handle_pass profile machine event
  · rw [hcalls,hlast]
    exact ⟨fun e he => (by cases he),hn⟩
  · rw [hcalls,hmachine]
    dsimp only
    exact processQueue_numbered profile machine.device machine.world n hn

/-- A step goes on with what its event left. -/
theorem step_machine {profile : Profile} {machine next : BlockMachine} {event : GuestEvent}
    (h : step profile machine event=some next) :
    next=(handle profile machine event).machine := by
  unfold step at h
  split at h
  · cases h
  · exact (Option.some.inj h).symm

/-- Over a whole run every call stands at the position its number counts. -/
theorem runCalls_position (profile : Profile) (events : List GuestEvent) :
    ∀ (machine : BlockMachine) (n : ℕ), machine.device.lastAvail=UInt16.ofNat n →
      ∀ e∈numbered n (runCalls profile machine events),e.2.position=UInt16.ofNat e.1 := by
  induction events with
  | nil =>
    intro machine n _ e he
    cases he
  | cons event rest ih =>
    intro machine n hn e he
    obtain ⟨hpos,hlast⟩ := handle_numbered profile machine event n hn
    unfold runCalls at he
    rw [visits,List.flatMap_cons,numbered_append] at he
    rcases List.mem_append.mp he with he | he
    · exact hpos e he
    · cases hs : step profile machine event with
      | none =>
        rw [hs] at he
        cases he
      | some next =>
        rw [hs] at he
        rw [← step_machine hs] at hlast
        exact ih next _ hlast e he

/-- A call of an event serves its head in the state it found. -/
theorem eventCalls_report {profile : Profile} {machine : BlockMachine} {event : GuestEvent}
    {call : RequestCall} (hm : call∈eventCalls profile machine event) :
    call.report=serve profile machine.device call.head call.before := by
  obtain ⟨hcalls,-⟩ | ⟨hcalls,-⟩ := handle_pass profile machine event
  · rw [hcalls] at hm
    cases hm
  · rw [hcalls] at hm
    unfold processQueue at hm
    split at hm
    · cases hm
    · exact (serveLoop_calls _ _ _ _ call hm).1

/-- A call of a pass that was clean and did not complete wrote nothing to the
disk. -/
theorem clean_call {profile : Profile} {machine : BlockMachine} {event : GuestEvent}
    {call : RequestCall} (hm : call∈eventCalls profile machine event)
    (hc : Clean profile machine.device call.head call.before)
    (hn : call.report.outcome≠.ok ()) : writesDisk call=false := by
  have hreport := eventCalls_report hm
  rw [hreport] at hn
  cases hf : (serve profile machine.device call.head call.before).outcome with
  | ok _ => exact absurd hf hn
  | error fault =>
    obtain ⟨hstores,-⟩ := clean_unchanged hc hf
    rw [writesDisk,hreport,hstores]
    rfl

/-- How many calls that wrote to the disk a run made for one entry. -/
def entryWrites (profile : Profile) (machine : BlockMachine) (events : List GuestEvent)
    (entry : ℕ) : ℕ :=
  (numbered 0 (runCalls profile machine events)).countP fun e => e.1=entry && writesDisk e.2

/-- A request fails without effect exactly when it is clean. A run in which
every request is clean at its turn writes the disk at most once for each
published entry, whose position is its number modulo 2 to the 16. -/
theorem failed_requests_without_effect (profile : Profile) :
    (∀ device head world, NoEffect world (serve profile device head world) ↔
      Clean profile device head world) ∧
    ∀ disk world events,
      (∀ visit∈visits (step profile) (fresh disk world) events,
        ∀ call∈eventCalls profile visit.1 visit.2,
          Clean profile visit.1.device call.head call.before) →
      (∀ e∈numbered 0 (runCalls profile (fresh disk world) events),
        e.2.position=UInt16.ofNat e.1) ∧
      ∀ entry, entryWrites profile (fresh disk world) events entry ≤ 1 := by
  refine ⟨noEffect_iff profile,fun disk world events hclean => ⟨?_,fun entry => ?_⟩⟩
  · exact runCalls_position profile events (fresh disk world) 0 rfl
  · apply numbered_once
    intro call hm hn
    obtain ⟨visit,hv,hcall⟩ := List.mem_flatMap.mp hm
    exact clean_call hcall (hclean visit hv call hcall) hn

/-- A notification makes one pass over the queue, and goes on behind an error
value of it. -/
theorem handle_notify {profile : Profile} {device : VirtioBlock} {world : World}
    (hp : device.queuePfn≠0) (hpass : NoPanic (processQueue profile device world).outcome) :
    handle profile ⟨device,world⟩ (registerWrite 0x50 0)=
      ⟨.ok (),⟨(processQueue profile device world).device,(processQueue profile device world).world⟩,
        some (processQueue profile device world)⟩ := by
  have hr : routed (virtioMmioStart+0x50) := by decide
  have ho : virtioMmioStart+0x50-virtioMmioStart=0x50 := by decide
  have hv : UInt64.ofNat (leNat [0,0,0,0])=0 := by decide
  have h38 : ¬(0x50 : UInt64)=0x38 := by decide
  have h40 : ¬(0x50 : UInt64)=0x40 := by decide
  generalize hq : processQueue profile device world=pass at hpass ⊢
  simp only [handle,registerWrite,mmioWrite,VirtioBlock.write,if_pos hr,ho,hv,if_neg h38,
    if_neg h40,if_true]
  rw [if_pos (by decide),if_pos ⟨trivial,hp⟩,hq]
  obtain ⟨outcome,after,left,index,calls⟩ := pass
  rcases outcome with (cause | cause) | _
  · rfl
  · exact absurd rfl (hpass cause)
  · rfl

/-- A notification whose first request returns an error value makes that one
call and goes on with what it left behind. -/
theorem notify_fault {profile : Profile} {device : VirtioBlock} {world : World}
    {availIdx head : UInt16} {cause : LiteDroidError} (hp : device.queuePfn≠0)
    (hi : guestU16 world.memory (device.queue+2)=.ok availIdx) (h : device.lastAvail≠availIdx)
    (hn : device.queueNum≠0) (hh : guestU16 world.memory device.headAddr=.ok head)
    (hf : (serve profile device head world).outcome=.error (.error cause)) :
    step profile ⟨device,world⟩ (registerWrite 0x50 0)=
        some ⟨device,(serve profile device head world).world⟩ ∧
      eventCalls profile ⟨device,world⟩ (registerWrite 0x50 0)=
        [⟨device.lastAvail,head,world,serve profile device head world⟩] := by
  have hpass : processQueue profile device world=
      ⟨.error (.error cause),device,(serve profile device head world).world,some availIdx,
        [⟨device.lastAvail,head,world,serve profile device head world⟩]⟩ := by
    unfold processQueue
    rw [hi]
    exact serveLoop_fault h hn hh hf
  have hwrite := handle_notify hp (by rw [hpass]; exact noPanic_error cause)
  unfold step eventCalls
  rw [hwrite,hpass]
  exact ⟨rfl,rfl⟩

/-- The calls of a run are those of its first event and of the rest. -/
theorem runCalls_cons {profile : Profile} {machine next : BlockMachine} {event : GuestEvent}
    (events : List GuestEvent) (hs : step profile machine event=some next) :
    runCalls profile machine (event::events)=
      eventCalls profile machine event++runCalls profile next events := by
  unfold runCalls
  rw [visits,List.flatMap_cons,hs]

/-- A guest whose published write request has its status byte far outside
guest memory. -/
def strayWorld : World :=
  ⟨filled
    [(0x1002,[1,0,1,0]),
      (0x1010,leBytes 8 0x3000++leBytes 4 16++[1,0,2,0]),
      (0x1020,leBytes 8 0x3100++leBytes 4 3++[1,0,3,0]),
      (0x1030,leBytes 8 0x100000++leBytes 4 1++[2,0,0,0]),
      (0x3000,leBytes 4 1),(0x3100,[7,8,9])],blankImage⟩

/-- What one run of that request leaves behind. -/
def strayAfter : World := (serve .release smallDevice 1 strayWorld).world

/-- The request returns an error value after it wrote the disk, and a second
notification writes the disk for the same entry again. -/
theorem stray_status_repeats_write :
    (serve .release smallDevice 1 strayWorld).outcome=
        .error (.error (.guestAddressOutOfRange 0x100000)) ∧
      strayAfter.file.byte 0≠strayWorld.file.byte 0 ∧
      entryWrites .release (fresh ⟨512⟩ strayWorld)
        [registerWrite 0x38 4,registerWrite 0x40 1,registerWrite 0x50 0,registerWrite 0x50 0] 0=2 := by
  have hfirst : (serve .release smallDevice 1 strayWorld).outcome=
      .error (.error (.guestAddressOutOfRange 0x100000)) := by decide +kernel
  have hsecond : (serve .release smallDevice 1 strayAfter).outcome=
      .error (.error (.guestAddressOutOfRange 0x100000)) := by decide +kernel
  have hsize : step .release (fresh ⟨512⟩ strayWorld) (registerWrite 0x38 4)=
      some ⟨⟨⟨512⟩,4,0,0,0⟩,strayWorld⟩ := rfl
  have hpage : step .release ⟨⟨⟨512⟩,4,0,0,0⟩,strayWorld⟩ (registerWrite 0x40 1)=
      some ⟨smallDevice,strayWorld⟩ := rfl
  obtain ⟨hstep,hcall⟩ := @notify_fault .release smallDevice strayWorld 1 1 _ (by decide)
    (by decide +kernel) (by decide) (by decide) (by decide +kernel) hfirst
  obtain ⟨hagain,hrepeat⟩ := @notify_fault .release smallDevice strayAfter 1 1 _ (by decide)
    (by decide +kernel) (by decide) (by decide) (by decide +kernel) hsecond
  have hw1 : (serve .release smallDevice 1 strayWorld).stores.any Store.toDisk=true := by
    decide +kernel
  have hw2 : (serve .release smallDevice 1 strayAfter).stores.any Store.toDisk=true := by
    decide +kernel
  refine ⟨hfirst,by decide +kernel,?_⟩
  unfold entryWrites
  rw [runCalls_cons _ hsize,runCalls_cons _ hpage,runCalls_cons _ hstep,← strayAfter,
    runCalls_cons _ hagain,hcall,hrepeat]
  have hquiet : eventCalls .release (fresh ⟨512⟩ strayWorld) (registerWrite 0x38 4)=[] := rfl
  have hset : eventCalls .release ⟨⟨⟨512⟩,4,0,0,0⟩,strayWorld⟩ (registerWrite 0x40 1)=[] := rfl
  rw [hquiet,hset]
  simp only [runCalls,visits,List.flatMap_nil,List.nil_append,List.cons_append,numbered,hfirst,
    List.countP_cons,List.countP_nil,writesDisk,hw1,hw2]
  simp

end LiteDroid.VmmRequestEffects
