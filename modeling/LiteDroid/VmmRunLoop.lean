import LiteDroid.VmmBlockRuns
import LiteDroid.VmmMachine

/-!
# The run loop and its stop flag

One shared flag says both that the loop is active and that it should stop. The
loop sets it on entry, checks it before each run of the first virtual CPU and
clears it behind some exits; another thread clears it to stop the loop. A
request that clears the flag before the entry is overwritten there. One that
comes later is final, because nothing sets the flag again.
-/

namespace LiteDroid.VmmRunLoop

open CoreResults CoreDeviceConfig KvmHost MemoryRegion StorageImage VmmBlockDevice VmmMachine
open VmmDiskStore VmmBlockRuns StepRun

/-- Why the hypervisor came back from a virtual CPU. An exit carries at most
eight bytes of an access. -/
inductive VcpuExit where
  /-- The guest halted. -/
  | hlt
  /-- Bytes written to a port. -/
  | ioOut (port : UInt16) (data : List UInt8)
  /-- A read of a port. -/
  | ioIn (port : UInt16)
  /-- A read of a number of bytes outside guest memory. -/
  | mmioRead (addr : UInt64) (len : Fin 9)
  /-- Bytes written outside guest memory. -/
  | mmioWrite (addr : UInt64) (data : {data : List UInt8 // data.length ≤ 8})
  /-- An exception. -/
  | exception
  /-- The guest shut down. -/
  | shutdown
  /-- The processor refused to enter the guest. -/
  | failEntry (reason : UInt64) (cpu : UInt32)
  /-- An error inside the hypervisor. -/
  | internalError
  /-- A reason the hypervisor does not know. -/
  | unknown
  /-- A reason that the wrapper does not handle. -/
  | other

/-- The wrapper's summary of an exit. -/
inductive VcpuExitInfo where
  /-- The guest halted. -/
  | hlt
  /-- Bytes written to a port. -/
  | ioOut (port : UInt16) (data : List UInt8)
  /-- A read of a port. -/
  | ioIn (port : UInt16)
  /-- A read outside guest memory, already answered. -/
  | mmioRead (addr : UInt64) (size : UInt8)
  /-- Bytes written outside guest memory. -/
  | mmioWrite (addr : UInt64) (size : UInt8) (data : List UInt8)
  /-- An exception. -/
  | exception
  /-- The guest shut down. -/
  | shutdown
  /-- The processor refused to enter the guest. -/
  | failEntry (hardwareEntryFailureReason : UInt64)
  /-- An error inside the hypervisor. -/
  | internalError
  /-- Any other reason. -/
  | unknown

/-- What happens in one run of a virtual CPU: the guest's stores and the exit,
or the hypervisor's error text. -/
structure GuestTurn where
  /-- Guest memory when the run is over. -/
  byte : ℕ → UInt8
  /-- The hypervisor's answer. -/
  exit : Except String VcpuExit

/-- Run a virtual CPU and answer a read of the block device's registers before
returning its summary. -/
def runWithMmio (profile : Profile) (vcpu : Vcpu) (device : VirtioBlock)
    (exit : Except String VcpuExit) : Outcome VcpuExitInfo :=
  match exit with
  | .error e => .error (.error (.vcpuRunFailed vcpu.index s!"KVM_RUN failed: {e}"))
  | .ok .hlt => .ok .hlt
  | .ok (.ioOut port data) => .ok (.ioOut port data)
  | .ok (.ioIn port) => .ok (.ioIn port)
  | .ok (.mmioRead addr len) => do
    let _ ← mmioRead profile device addr len
    return .mmioRead addr (UInt8.ofNat len)
  | .ok (.mmioWrite addr data) => .ok (.mmioWrite addr (UInt8.ofNat data.1.length) data)
  | .ok .exception => .ok .exception
  | .ok .shutdown => .ok .shutdown
  | .ok (.failEntry reason _) => .ok (.failEntry reason)
  | .ok .internalError => .ok .internalError
  | .ok .unknown => .ok .unknown
  | .ok .other => .ok .unknown

/-- Where the loop's thread stands. The first virtual CPU is looked up once. -/
inductive Phase where
  /-- The loop has not been entered. -/
  | created
  /-- The flag is set; the first virtual CPU is looked up next. -/
  | entered
  /-- The flag is checked next. -/
  | checking (vcpu : Vcpu)
  /-- The flag was found set; the virtual CPU is run next. -/
  | checked (vcpu : Vcpu)
  /-- The virtual CPU runs. -/
  | inside (vcpu : Vcpu)
  /-- The virtual CPU is back; its summary or error is handled next. -/
  | exited (vcpu : Vcpu) (result : Except LiteDroidError VcpuExitInfo)
  /-- The flag is cleared next. -/
  | clearing (vcpu : Vcpu)
  /-- The loop has returned. -/
  | returned
  /-- A panic ended the thread. -/
  | panicked

/-- The machine of a run loop, its thread and the flag. -/
structure LoopState where
  /-- Where the loop's thread stands. -/
  phase : Phase
  /-- The shared flag. -/
  running : Bool
  /-- Whether the request to stop was made. -/
  stopped : Bool
  /-- The block device, guest memory and the image's file. -/
  machine : BlockMachine

/-- Handle what a virtual CPU came back with. Some exits clear the flag, the
others go on; only a write routed to the block device does anything more. -/
def handleExit (profile : Profile) (state : LoopState) (vcpu : Vcpu) :
    Except LiteDroidError VcpuExitInfo → LoopState
  | .ok .hlt => {state with phase := .clearing vcpu}
  | .ok .shutdown => {state with phase := .clearing vcpu}
  | .ok (.ioOut _ _) => {state with phase := .checking vcpu}
  | .ok (.ioIn _) => {state with phase := .checking vcpu}
  | .ok (.mmioRead _ _) => {state with phase := .checking vcpu}
  | .ok (.mmioWrite addr _ data) =>
    let report := mmioWrite profile state.machine.device addr data state.machine.world
    match report.outcome with
    | .ok () => {state with phase := .checking vcpu, machine := ⟨report.device,report.world⟩}
    | .error _ => {state with phase := .panicked, machine := ⟨report.device,report.world⟩}
  | .ok .exception => {state with phase := .clearing vcpu}
  | .ok (.failEntry _) => {state with phase := .clearing vcpu}
  | .ok .internalError => {state with phase := .clearing vcpu}
  | .ok .unknown => {state with phase := .checking vcpu}
  | .error _ => {state with phase := .clearing vcpu}

/-- One step of the loop's thread. -/
def runStep (profile : Profile) (vcpus : List Vcpu) (state : LoopState) (turn : GuestTurn) :
    Option LoopState :=
  match state.phase with
  | .created => some {state with phase := .entered, running := true}
  | .entered =>
    match vcpus with
    | [] => some {state with phase := .panicked}
    | vcpu::_ => some {state with phase := .checking vcpu}
  | .checking vcpu =>
    if state.running then some {state with phase := .checked vcpu}
    else some {state with phase := .returned}
  | .checked vcpu => some {state with phase := .inside vcpu}
  | .inside vcpu =>
    let machine := {state.machine with world := {state.machine.world with
      memory := {state.machine.world.memory with byte := turn.byte}}}
    match runWithMmio profile vcpu machine.device turn.exit with
    | .ok info => some {state with phase := .exited vcpu (.ok info), machine := machine}
    | .error (.error e) => some {state with phase := .exited vcpu (.error e), machine := machine}
    | .error (.panic _) => some {state with phase := .panicked, machine := machine}
  | .exited vcpu result => some (handleExit profile state vcpu result)
  | .clearing vcpu => some {state with phase := .checking vcpu, running := false}
  | .returned => none
  | .panicked => none

/-- Clear the flag from another thread. -/
def stop (state : LoopState) : LoopState := {state with running := false, stopped := true}

/-- Whose turn it is: the loop's thread, with what its virtual CPU would do, or
the one request to stop. -/
inductive Turn where
  /-- A step of the loop's thread. -/
  | run (turn : GuestTurn)
  /-- The request's store. -/
  | stop

/-- One step of either thread. The request is made once. -/
def step (profile : Profile) (vcpus : List Vcpu) (state : LoopState) : Turn → Option LoopState
  | .run turn => runStep profile vcpus state turn
  | .stop => if state.stopped then none else some (stop state)

/-- A machine that was just created. -/
def initial (machine : VirtualMachine) (file : HostFile) : LoopState :=
  ⟨.created,false,false,⟨machine.blockDevice,⟨machine.guestMemory,file⟩⟩⟩

/-- The runs of the virtual CPU for which the flag was already checked. -/
def LoopState.pending (state : LoopState) : ℕ :=
  match state.phase with
  | .checked _ => 1
  | _ => 0

/-- How many runs of the virtual CPU a turn starts. -/
def started (state : LoopState) : Turn → ℕ
  | .run _ => state.pending
  | .stop => 0

/-- How many runs of the virtual CPU the turns from a state on start. -/
def starts (profile : Profile) (vcpus : List Vcpu) (state : LoopState) (turns : List Turn) : ℕ :=
  ((visits (step profile vcpus) state turns).map fun visit => started visit.1 visit.2).sum

/-- The loop was entered and its flag is clear. -/
structure Final (state : LoopState) : Prop where
  /-- The entry's store is made. -/
  entered : state.phase≠.created
  /-- The flag is clear. -/
  clear : state.running=false

/-- Handling an exit keeps the flag and goes to a check, to a store of the flag
or to a panic. -/
theorem handleExit_next (profile : Profile) (state : LoopState) (vcpu : Vcpu)
    (result : Except LiteDroidError VcpuExitInfo) :
    (handleExit profile state vcpu result).running=state.running ∧
      ((handleExit profile state vcpu result).phase=.clearing vcpu ∨
        (handleExit profile state vcpu result).phase=.checking vcpu ∨
        (handleExit profile state vcpu result).phase=.panicked) := by
  cases result with
  | error e => exact ⟨rfl,Or.inl rfl⟩
  | ok info =>
    cases info with
    | mmioWrite addr size data =>
      unfold handleExit
      dsimp only
      split
      · exact ⟨rfl,Or.inr (Or.inl rfl)⟩
      · exact ⟨rfl,Or.inr (Or.inr rfl)⟩
    | hlt => exact ⟨rfl,Or.inl rfl⟩
    | shutdown => exact ⟨rfl,Or.inl rfl⟩
    | exception => exact ⟨rfl,Or.inl rfl⟩
    | failEntry reason => exact ⟨rfl,Or.inl rfl⟩
    | internalError => exact ⟨rfl,Or.inl rfl⟩
    | ioOut port data => exact ⟨rfl,Or.inr (Or.inl rfl)⟩
    | ioIn port => exact ⟨rfl,Or.inr (Or.inl rfl)⟩
    | mmioRead addr size => exact ⟨rfl,Or.inr (Or.inl rfl)⟩
    | unknown => exact ⟨rfl,Or.inr (Or.inl rfl)⟩

/-- A step to a phase that is neither the start nor behind a passed check, and
that does not set the flag. -/
theorem next_of {state next : LoopState} {phase : Phase} (hphase : next.phase=phase)
    (hclear : state.running=false → next.running=false) (hcreated : phase≠.created)
    (hchecked : ∀ v, phase≠.checked v) :
    next.phase≠.created ∧ (Final state → Final next ∧ next.pending=0) := by
  have hnext : next.phase≠.created := by
    rw [hphase]
    exact hcreated
  refine ⟨hnext,fun h => ⟨⟨hnext,hclear h.clear⟩,?_⟩⟩
  unfold LoopState.pending
  rw [hphase]
  split
  · exact absurd rfl (hchecked _)
  · rfl

/-- No step of the loop goes back before its entry. Once the flag is clear
behind the entry, a step keeps it clear and passes no check. -/
theorem runStep_next {profile : Profile} {vcpus : List Vcpu} {state next : LoopState}
    {turn : GuestTurn} (hs : runStep profile vcpus state turn=some next) :
    next.phase≠.created ∧ (Final state → Final next ∧ next.pending=0) := by
  unfold runStep at hs
  cases hp : state.phase with
  | created =>
    rw [hp] at hs
    obtain rfl := Option.some.inj hs
    exact ⟨by simp,fun h => absurd hp h.entered⟩
  | entered =>
    rw [hp] at hs
    cases vcpus with
    | nil =>
      obtain rfl := Option.some.inj hs
      exact next_of rfl id (by simp) (by simp)
    | cons vcpu rest =>
      obtain rfl := Option.some.inj hs
      exact next_of rfl id (by simp) (by simp)
  | checking vcpu =>
    rw [hp] at hs
    dsimp only at hs
    by_cases hr : state.running
    · rw [if_pos hr] at hs
      obtain rfl := Option.some.inj hs
      refine ⟨by simp,fun h => ?_⟩
      rw [h.clear] at hr
      cases hr
    · rw [if_neg hr] at hs
      obtain rfl := Option.some.inj hs
      exact next_of rfl id (by simp) (by simp)
  | checked vcpu =>
    rw [hp] at hs
    obtain rfl := Option.some.inj hs
    exact next_of rfl id (by simp) (by simp)
  | inside vcpu =>
    rw [hp] at hs
    dsimp only at hs
    split at hs
    · obtain rfl := Option.some.inj hs
      exact next_of rfl id (by simp) (by simp)
    · obtain rfl := Option.some.inj hs
      exact next_of rfl id (by simp) (by simp)
    · obtain rfl := Option.some.inj hs
      exact next_of rfl id (by simp) (by simp)
  | exited vcpu result =>
    rw [hp] at hs
    obtain rfl := Option.some.inj hs
    obtain ⟨hrunning,hphase⟩ := handleExit_next profile state vcpu result
    rcases hphase with hphase | hphase | hphase
    · exact next_of hphase (fun h => by rw [hrunning,h]) (by simp) (by simp)
    · exact next_of hphase (fun h => by rw [hrunning,h]) (by simp) (by simp)
    · exact next_of hphase (fun h => by rw [hrunning,h]) (by simp) (by simp)
  | clearing vcpu =>
    rw [hp] at hs
    obtain rfl := Option.some.inj hs
    exact next_of rfl (fun _ => rfl) (by simp) (by simp)
  | returned =>
    rw [hp] at hs
    cases hs
  | panicked =>
    rw [hp] at hs
    cases hs

/-- The first turn's starts and those of the rest. -/
theorem starts_cons {profile : Profile} {vcpus : List Vcpu} {state : LoopState} {turn : Turn}
    {turns : List Turn} :
    starts profile vcpus state (turn::turns)=started state turn+
      match step profile vcpus state turn with
      | none => 0
      | some next => starts profile vcpus next turns := by
  unfold starts
  rw [visits,List.map_cons,List.sum_cons]
  cases step profile vcpus state turn with
  | none => rfl
  | some next => rfl

/-- A request that is carried out clears the flag and nothing else. -/
theorem step_stop {profile : Profile} {vcpus : List Vcpu} {state next : LoopState}
    (hs : step profile vcpus state .stop=some next) : next=stop state := by
  rw [step] at hs
  split at hs
  · cases hs
  · exact (Option.some.inj hs).symm

/-- Behind the entry a clear flag lets only the run start whose check was
already passed. -/
theorem final_starts {profile : Profile} {vcpus : List Vcpu} (turns : List Turn) :
    ∀ state, Final state → starts profile vcpus state turns ≤ state.pending := by
  induction turns with
  | nil =>
    intro state _
    exact Nat.zero_le _
  | cons turn rest ih =>
    intro state h
    rw [starts_cons]
    cases turn with
    | run guest =>
      cases hs : step profile vcpus state (.run guest) with
      | none => exact Nat.le_refl _
      | some next =>
        obtain ⟨hfinal,hpending⟩ := (runStep_next hs).2 h
        have hrest := ih next hfinal
        rw [hpending] at hrest
        dsimp only [started]
        omega
    | stop =>
      cases hs : step profile vcpus state .stop with
      | none => exact Nat.zero_le _
      | some next =>
        obtain rfl := step_stop hs
        dsimp only [started]
        rw [Nat.zero_add]
        exact ih (stop state) ⟨h.entered,rfl⟩

/-- The loop has not been entered exactly as long as its thread took no step. -/
theorem created_iff {profile : Profile} {vcpus : List Vcpu} (turns : List Turn) :
    ∀ state last, run (step profile vcpus) state turns=some last →
      (last.phase=.created ↔ state.phase=.created ∧ ∀ guest, .run guest∉turns) := by
  induction turns with
  | nil =>
    intro state last h
    obtain rfl := Option.some.inj h
    simp
  | cons turn rest ih =>
    intro state last h
    obtain ⟨next,hs,hrest⟩ := run_cons_iff.mp h
    rw [ih next last hrest]
    cases turn with
    | run guest =>
      have hnext := (runStep_next hs).1
      constructor
      · intro hc
        exact absurd hc.1 hnext
      · intro hc
        exact absurd List.mem_cons_self (hc.2 guest)
    | stop =>
      obtain rfl := step_stop hs
      simp [stop]

/-- A turn in which the virtual CPU comes back for an unknown reason. -/
def idleTurn : Turn := .run ⟨fun _ => 0,.ok .unknown⟩

/-- From before its entry the loop can start its virtual CPU twice, whatever
the flag holds. -/
theorem created_starts {profile : Profile} {vcpus : List Vcpu} {state : LoopState}
    (hv : vcpus≠[]) (hp : state.phase=.created) :
    starts profile vcpus state (List.replicate 8 idleTurn)=2 := by
  obtain ⟨vcpu,rest,rfl⟩ := List.exists_cons_of_ne_nil hv
  simp [List.replicate,step,runStep,idleTurn,hp,runWithMmio,handleExit,started,
    LoopState.pending,starts,visits]

/-- After the store of a request to stop, at most the one run whose check was
already passed is started, whatever the guest does and however the threads
interleave, exactly when the loop's entry came before that store. -/
theorem stop_honoured_iff (profile : Profile) (kvm : KvmAnswers) (host : HostAnswers)
    (config : DeviceConfig) (machine : VirtualMachine) (file : HostFile)
    (hnew : VirtualMachine.new kvm host config=.ok machine) (before : List Turn) (state : LoopState)
    (hrun : run (step profile machine.vcpus) (initial machine file) (before++[.stop])=some state) :
    ((∀ after, starts profile machine.vcpus state after ≤ 1) ↔ ∃ guest, .run guest∈before) ∧
    ((∃ guest, .run guest∈before) →
      ∀ after, starts profile machine.vcpus state after ≤ state.pending) := by
  have hcreated : state.phase=.created ↔ ∀ guest, .run guest∉before := by
    have h := created_iff _ _ _ hrun
    simpa [initial] using h
  have hclear : state.running=false := by
    rw [run_append] at hrun
    obtain ⟨mid,-,hlast⟩ := Option.bind_eq_some_iff.mp hrun
    obtain ⟨next,hs,hend⟩ := run_cons_iff.mp hlast
    obtain rfl := Option.some.inj hend
    rw [step_stop hs]
    rfl
  have hentered : (∃ guest, .run guest∈before) ↔ state.phase≠.created := by
    rw [Ne,hcreated,not_forall_not]
  have hbound : (∃ guest, .run guest∈before) →
      ∀ after, starts profile machine.vcpus state after ≤ state.pending :=
    fun h after => final_starts after state ⟨hentered.mp h,hclear⟩
  refine ⟨⟨?_,?_⟩,hbound⟩
  · intro h
    rw [hentered]
    intro hphase
    have htwo := h (List.replicate 8 idleTurn)
    rw [created_starts (new_created hnew).vcpus hphase] at htwo
    omega
  · intro h after
    have hone : state.pending ≤ 1 := by
      unfold LoopState.pending
      split
      · exact Nat.le_refl _
      · exact Nat.zero_le _
    exact (hbound h after).trans hone

/-- The criterion applies to a request behind the entry of the loop. -/
theorem stop_honoured_iff_entered :
    ∃ machine, VirtualMachine.new willingKvm willingHost (plainConfig defaultRamMb)=.ok machine ∧
      ∃ state, run (step .release machine.vcpus) (initial machine blankImage) [idleTurn,.stop]=
          some state ∧
        ∀ after, starts .release machine.vcpus state after ≤ 1 := by
  obtain ⟨machine,hnew⟩ : ∃ machine, VirtualMachine.new willingKvm willingHost
      (plainConfig defaultRamMb)=.ok machine := ⟨_,rfl⟩
  have hrun : run (step .release machine.vcpus) (initial machine blankImage) ([idleTurn]++[.stop])=
      some (stop {initial machine blankImage with phase := .entered, running := true}) := rfl
  exact ⟨machine,hnew,_,hrun,(stop_honoured_iff .release _ _ _ machine blankImage hnew [idleTurn] _
    hrun).1.mpr ⟨_,List.mem_cons_self⟩⟩

/-- A request made between the creation of the machine and the entry of its
loop is overwritten: the loop then starts its virtual CPU twice, and would go on. -/
theorem early_stop_lost :
    ∃ machine, VirtualMachine.new willingKvm willingHost (plainConfig defaultRamMb)=.ok machine ∧
      ∃ state, run (step .release machine.vcpus) (initial machine blankImage) [.stop]=some state ∧
        starts .release machine.vcpus state (List.replicate 8 idleTurn)=2 := by
  obtain ⟨machine,hnew⟩ : ∃ machine, VirtualMachine.new willingKvm willingHost
      (plainConfig defaultRamMb)=.ok machine := ⟨_,rfl⟩
  have hrun : run (step .release machine.vcpus) (initial machine blankImage) [.stop]=
      some (stop (initial machine blankImage)) := rfl
  exact ⟨machine,hnew,_,hrun,created_starts (new_created hnew).vcpus rfl⟩

end LiteDroid.VmmRunLoop
