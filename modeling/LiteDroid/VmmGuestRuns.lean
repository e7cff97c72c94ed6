import LiteDroid.VmmRunLoop

/-!
# The guest behind the run loop

Seen from outside, the run loop is the guest: it changes the block device,
guest memory and the image only by what the guest does to them, in the guest's
order, and logs every byte the guest sends to the serial port. The bytes can be
read back from the log. Each exit is handled once, and none is asked for behind
one that ends the loop.
-/

namespace LiteDroid.VmmGuestRuns

open CoreResults CoreDeviceConfig KvmHost MemoryRegion StorageImage VmmBlockDevice VmmMachine
open VmmDiskStore VmmBlockRuns VmmRunLoop StepRun

/-- The port of the serial console. -/
def serialIoBase : UInt16 := 0x3f8

/-- How the log shows a byte of the console. -/
def serialText (byte : UInt8) : List Char :=
  if 32 ≤ byte.toNat ∧ byte.toNat < 127 then [Char.ofNat byte.toNat]
  else if byte.toNat=10 then ['<','L','F','>']
  else if byte.toNat=13 then ['<','C','R','>']
  else ['<','0','x',Nat.digitChar (byte.toNat/16),Nat.digitChar (byte.toNat%16),'>']

/-- The log line of a byte of the console. -/
def serialLine (byte : UInt8) : List Char := "[GUEST SERIAL] ".toList++serialText byte

/-- The bytes that an output puts on the console. -/
def consoleBytes (port : UInt16) (data : List UInt8) : List UInt8 :=
  if port=serialIoBase then data else []

/-- The log lines of handling an exit. -/
def exitLines : Except LiteDroidError VcpuExitInfo → List (List Char)
  | .ok (.ioOut port data) => (consoleBytes port data).map serialLine
  | _ => []

/-- The log lines of a turn that concern the console. -/
def logged (state : LoopState) : Turn → List (List Char)
  | .stop => []
  | .run _ =>
    match state.phase with
    | .exited _ result => exitLines result
    | _ => []

/-- The guest's part in a turn: what its virtual CPU did. -/
def exits (state : LoopState) : Turn → List GuestTurn
  | .stop => []
  | .run turn =>
    match state.phase with
    | .inside _ => [turn]
    | _ => []

/-- The register read that an exit asks for. -/
def readsOf : Except String VcpuExit → List GuestEvent
  | .ok (.mmioRead addr len) => [.read addr len]
  | _ => []

/-- The register write that an exit asks for. -/
def writesOf : Except String VcpuExit → List GuestEvent
  | .ok (.mmioWrite addr data) => [.write addr data]
  | _ => []

/-- The console bytes of an exit. -/
def consoleOf : Except String VcpuExit → List UInt8
  | .ok (.ioOut port data) => consoleBytes port data
  | _ => []

/-- What a run of the virtual CPU did to the block device and to guest memory. -/
def guestEvents (turn : GuestTurn) : List GuestEvent :=
  .rewrite turn.byte::(readsOf turn.exit++writesOf turn.exit)

/-- The register write of an exit as the loop sees it. -/
def exitWrites : Except LiteDroidError VcpuExitInfo → List GuestEvent
  | .ok (.mmioWrite addr _ data) => if h : data.length ≤ 8 then [.write addr ⟨data,h⟩] else []
  | _ => []

/-- The console bytes of an exit as the loop sees it. -/
def exitConsole : Except LiteDroidError VcpuExitInfo → List UInt8
  | .ok (.ioOut port data) => consoleBytes port data
  | _ => []

/-- The register write that the loop has yet to carry out. -/
def writesLeft (state : LoopState) : List GuestEvent :=
  match state.phase with
  | .exited _ result => exitWrites result
  | _ => []

/-- The console bytes that the loop has yet to log. -/
def consoleLeft (state : LoopState) : List UInt8 :=
  match state.phase with
  | .exited _ result => exitConsole result
  | _ => []

/-- The guest's events that a turn takes in. -/
def eventsTaken (state : LoopState) (turn : Turn) : List GuestEvent :=
  (exits state turn).flatMap guestEvents

/-- The guest's events that a turn carries out. A read is answered before the
loop sees its exit, a write behind it. -/
def eventsDone (state : LoopState) : Turn → List GuestEvent
  | .stop => []
  | .run turn =>
    match state.phase with
    | .inside _ => .rewrite turn.byte::readsOf turn.exit
    | .exited _ result => exitWrites result
    | _ => []

/-- The console bytes that a turn takes in. -/
def consoleTaken (state : LoopState) (turn : Turn) : List UInt8 :=
  (exits state turn).flatMap fun turn => consoleOf turn.exit

/-- The console bytes that a turn logs. -/
def consoleDone (state : LoopState) : Turn → List UInt8
  | .stop => []
  | .run _ =>
    match state.phase with
    | .exited _ result => exitConsole result
    | _ => []

/-- The loop goes on behind an exit. -/
def Continues : Except String VcpuExit → Prop
  | .error _ => False
  | .ok .hlt => False
  | .ok .shutdown => False
  | .ok .exception => False
  | .ok (.failEntry _ _) => False
  | .ok .internalError => False
  | .ok _ => True

/-- The loop goes on behind an exit as it sees it. -/
def GoesOn : Except LiteDroidError VcpuExitInfo → Prop
  | .error _ => False
  | .ok .hlt => False
  | .ok .shutdown => False
  | .ok .exception => False
  | .ok (.failEntry _) => False
  | .ok .internalError => False
  | .ok _ => True

/-- What the loop sees of an exit: its write, its console bytes and whether it
goes on. -/
structure Sees (exit : Except String VcpuExit) (result : Except LiteDroidError VcpuExitInfo) :
    Prop where
  /-- The register write is the exit's. -/
  writes : exitWrites result=writesOf exit
  /-- The console bytes are the exit's. -/
  console : exitConsole result=consoleOf exit
  /-- It goes on only behind an exit to go on from. -/
  continues : GoesOn result → Continues exit
  /-- A register write is short. -/
  short : ∀ addr size data, result=.ok (.mmioWrite addr size data) → data.length ≤ 8

/-- A register read of at most eight bytes is answered. -/
theorem mmioRead_answers (profile : Profile) (device : VirtioBlock) (addr : UInt64) (len : Fin 9) :
    ∃ bytes, mmioRead profile device addr len=.ok bytes := by
  have hlen := len.isLt
  have hvalue : ∃ value, device.read profile (addr-virtioMmioStart) len=.ok value := by
    unfold VirtioBlock.read
    dsimp only
    split
    · exact ⟨_,rfl⟩
    · cases profile with
      | release => exact ⟨_,rfl⟩
      | dev =>
        rw [Profile.shl,if_pos (by omega)]
        exact ⟨_,rfl⟩
  unfold mmioRead
  split
  · obtain ⟨value,hread⟩ := hvalue
    rw [hread]
    unfold sliceTo
    dsimp only [bind,Except.bind]
    rw [if_pos (by rw [LittleEndian.leBytes_length]; omega)]
    exact ⟨_,rfl⟩
  · exact ⟨_,rfl⟩

/-- A virtual CPU comes back with an error or with its exit, and the loop sees it
as it is. -/
theorem runWithMmio_cases (profile : Profile) (vcpu : Vcpu) (device : VirtioBlock)
    (exit : Except String VcpuExit) :
    (∃ e, runWithMmio profile vcpu device exit=.error (.error e) ∧ Sees exit (.error e)) ∨
      ∃ info, runWithMmio profile vcpu device exit=.ok info ∧ Sees exit (.ok info) := by
  have hsame : ∀ {exit : VcpuExit} {info : VcpuExitInfo},
      runWithMmio profile vcpu device (.ok exit)=.ok info → Sees (.ok exit) (.ok info) →
      ∃ info, runWithMmio profile vcpu device (.ok exit)=.ok info ∧ Sees (.ok exit) (.ok info) :=
    fun hrun hsees => ⟨_,hrun,hsees⟩
  cases exit with
  | error e => exact Or.inl ⟨_,rfl,rfl,rfl,id,fun _ _ _ h => by cases h⟩
  | ok exit =>
    refine Or.inr ?_
    cases exit with
    | mmioRead addr len =>
      obtain ⟨bytes,hread⟩ := mmioRead_answers profile device addr len
      refine ⟨.mmioRead addr (UInt8.ofNat len),?_,rfl,rfl,id,fun _ _ _ h => by cases h⟩
      unfold runWithMmio
      dsimp only
      rw [hread]
      rfl
    | mmioWrite addr data =>
      refine hsame rfl ⟨dif_pos data.2,rfl,id,fun _ _ _ h => ?_⟩
      cases h
      exact data.2
    | hlt => exact hsame rfl ⟨rfl,rfl,id,fun _ _ _ h => by cases h⟩
    | ioOut port data => exact hsame rfl ⟨rfl,rfl,id,fun _ _ _ h => by cases h⟩
    | ioIn port => exact hsame rfl ⟨rfl,rfl,id,fun _ _ _ h => by cases h⟩
    | exception => exact hsame rfl ⟨rfl,rfl,id,fun _ _ _ h => by cases h⟩
    | shutdown => exact hsame rfl ⟨rfl,rfl,id,fun _ _ _ h => by cases h⟩
    | failEntry reason cpu => exact hsame rfl ⟨rfl,rfl,id,fun _ _ _ h => by cases h⟩
    | internalError => exact hsame rfl ⟨rfl,rfl,id,fun _ _ _ h => by cases h⟩
    | unknown => exact hsame rfl ⟨rfl,rfl,id,fun _ _ _ h => by cases h⟩
    | other => exact hsame rfl ⟨rfl,rfl,fun _ => trivial,fun _ _ _ h => by cases h⟩

/-- Handling an exit leaves no exit to handle. -/
theorem handleExit_left (profile : Profile) (state : LoopState) (vcpu : Vcpu)
    (result : Except LiteDroidError VcpuExitInfo) :
    writesLeft (handleExit profile state vcpu result)=[] ∧
      consoleLeft (handleExit profile state vcpu result)=[] := by
  obtain ⟨-,hphase⟩ := handleExit_next profile state vcpu result
  unfold writesLeft consoleLeft
  rcases hphase with hphase | hphase | hphase
  · rw [hphase]
    exact ⟨rfl,rfl⟩
  · rw [hphase]
    exact ⟨rfl,rfl⟩
  · rw [hphase]
    exact ⟨rfl,rfl⟩

/-- What waits and what comes in is what is carried out and what still waits. -/
theorem step_buffered {profile : Profile} {vcpus : List Vcpu} (state : LoopState) (turn : Turn)
    (next : LoopState) (h : step profile vcpus state turn=some next) :
    writesLeft state++eventsTaken state turn=eventsDone state turn++writesLeft next ∧
      consoleLeft state++consoleTaken state turn=consoleDone state turn++consoleLeft next := by
  cases turn with
  | stop =>
    obtain rfl := step_stop h
    exact ⟨List.append_nil _,List.append_nil _⟩
  | run turn =>
    change runStep profile vcpus state turn=some next at h
    unfold runStep at h
    unfold writesLeft consoleLeft eventsTaken consoleTaken eventsDone consoleDone exits
    cases hp : state.phase with
    | created =>
      rw [hp] at h
      obtain rfl := Option.some.inj h
      exact ⟨rfl,rfl⟩
    | entered =>
      rw [hp] at h
      cases vcpus with
      | nil =>
        obtain rfl := Option.some.inj h
        exact ⟨rfl,rfl⟩
      | cons vcpu rest =>
        obtain rfl := Option.some.inj h
        exact ⟨rfl,rfl⟩
    | checking vcpu =>
      rw [hp] at h
      dsimp only at h
      split at h
      · obtain rfl := Option.some.inj h
        exact ⟨rfl,rfl⟩
      · obtain rfl := Option.some.inj h
        exact ⟨rfl,rfl⟩
    | checked vcpu =>
      rw [hp] at h
      obtain rfl := Option.some.inj h
      exact ⟨rfl,rfl⟩
    | inside vcpu =>
      rw [hp] at h
      dsimp only at h ⊢
      rw [List.flatMap_singleton,List.flatMap_singleton,List.nil_append,List.nil_append,
        guestEvents,List.cons_append]
      obtain ⟨e,hback,hsees⟩ | ⟨info,hback,hsees⟩ :=
        runWithMmio_cases profile vcpu state.machine.device turn.exit
      · rw [hback] at h
        obtain rfl := Option.some.inj h
        exact ⟨by rw [← hsees.writes],hsees.console.symm⟩
      · rw [hback] at h
        obtain rfl := Option.some.inj h
        exact ⟨by rw [← hsees.writes],hsees.console.symm⟩
    | exited vcpu result =>
      rw [hp] at h
      obtain rfl := Option.some.inj h
      obtain ⟨hwrites,hconsole⟩ := handleExit_left profile state vcpu result
      unfold writesLeft at hwrites
      unfold consoleLeft at hconsole
      rw [hwrites,hconsole]
      exact ⟨rfl,rfl⟩
    | clearing vcpu =>
      rw [hp] at h
      obtain rfl := Option.some.inj h
      exact ⟨rfl,rfl⟩
    | returned =>
      rw [hp] at h
      cases h
    | panicked =>
      rw [hp] at h
      cases h

/-- The block device's machine once its virtual CPU is back: guest memory as the
guest left it, and the register read answered. -/
theorem guest_back (profile : Profile) (machine : BlockMachine) (turn : GuestTurn) :
    run (VmmBlockRuns.step profile) machine (.rewrite turn.byte::readsOf turn.exit)=
      some {machine with world := {machine.world with
        memory := {machine.world.memory with byte := turn.byte}}} := by
  refine run_cons_iff.mpr ⟨_,rfl,?_⟩
  unfold readsOf
  split
  · rename_i addr len _
    obtain ⟨bytes,hread⟩ := mmioRead_answers profile machine.device addr len
    refine run_cons_iff.mpr ⟨_,?_,rfl⟩
    unfold VmmBlockRuns.step handle
    dsimp only
    rw [hread]
    rfl
  · rfl

/-- The machine behind a handled exit, by the write it carried. -/
theorem handleExit_machine (profile : Profile) (state : LoopState) (vcpu : Vcpu)
    (result : Except LiteDroidError VcpuExitInfo) :
    ((handleExit profile state vcpu result).phase≠.panicked →
      run (VmmBlockRuns.step profile) state.machine (exitWrites result)=
        some (handleExit profile state vcpu result).machine) ∧
    ((handleExit profile state vcpu result).phase=.panicked →
      (∀ addr size data, result=.ok (.mmioWrite addr size data) → data.length ≤ 8) →
      Stuck (VmmBlockRuns.step profile) state.machine (exitWrites result)) := by
  cases result with
  | error e => exact ⟨fun _ => rfl,fun h => by cases h⟩
  | ok info =>
    cases info with
    | mmioWrite addr size data =>
      unfold handleExit exitWrites
      dsimp only
      by_cases hlen : data.length ≤ 8
      · rw [dif_pos hlen]
        split
        · rename_i hok
          have hwrite : VmmBlockRuns.step profile state.machine (.write addr ⟨data,hlen⟩)=
              some ⟨(mmioWrite profile state.machine.device addr data state.machine.world).device,
                (mmioWrite profile state.machine.device addr data state.machine.world).world⟩ := by
            unfold VmmBlockRuns.step handle
            dsimp only
            rw [hok]
          exact ⟨fun _ => run_cons_iff.mpr ⟨_,hwrite,rfl⟩,fun h => by cases h⟩
        · rename_i fault herror
          have hwrite : VmmBlockRuns.step profile state.machine (.write addr ⟨data,hlen⟩)=
              none := by
            unfold VmmBlockRuns.step handle
            dsimp only
            rw [herror]
          exact ⟨fun h => absurd rfl h,fun _ _ => ⟨[],_,[],_,rfl,rfl,hwrite⟩⟩
      · rw [dif_neg hlen]
        have hlong : ∀ report, mmioWrite profile state.machine.device addr data state.machine.world=
            report → report.outcome=.ok () →
            (⟨report.device,report.world⟩ : BlockMachine)=state.machine := by
          rintro report rfl hok
          unfold mmioWrite at hok ⊢
          by_cases hr : routed addr
          · rw [if_pos hr,if_neg hlen] at hok
            cases hok
          · rw [if_neg hr]
        split
        · rename_i hok
          refine ⟨fun _ => ?_,fun h => by cases h⟩
          rw [hlong _ rfl hok]
          rfl
        · exact ⟨fun h => absurd rfl h,fun _ hshort => absurd (hshort _ _ _ rfl) hlen⟩
    | hlt => exact ⟨fun _ => rfl,fun h => by cases h⟩
    | ioOut port data => exact ⟨fun _ => rfl,fun h => by cases h⟩
    | ioIn port => exact ⟨fun _ => rfl,fun h => by cases h⟩
    | mmioRead addr size => exact ⟨fun _ => rfl,fun h => by cases h⟩
    | exception => exact ⟨fun _ => rfl,fun h => by cases h⟩
    | shutdown => exact ⟨fun _ => rfl,fun h => by cases h⟩
    | failEntry reason => exact ⟨fun _ => rfl,fun h => by cases h⟩
    | internalError => exact ⟨fun _ => rfl,fun h => by cases h⟩
    | unknown => exact ⟨fun _ => rfl,fun h => by cases h⟩

/-- Stopping changes nothing of the machine. -/
theorem stop_machine (state : LoopState) : (stop state).machine=state.machine := rfl

/-- A step of the loop's thread that ends without a panic began without one and
did to the machine what it carried out of the guest's events. -/
theorem runStep_live {profile : Profile} {vcpus : List Vcpu} {state next : LoopState}
    {turn : GuestTurn} (h : runStep profile vcpus state turn=some next)
    (hlive : next.phase≠.panicked) :
    state.phase≠.panicked ∧
      run (VmmBlockRuns.step profile) state.machine (eventsDone state (.run turn))=
        some next.machine := by
  unfold runStep at h
  unfold eventsDone
  cases hp : state.phase with
  | created =>
    rw [hp] at h
    obtain rfl := Option.some.inj h
    exact ⟨by simp,rfl⟩
  | entered =>
    rw [hp] at h
    cases vcpus with
    | nil =>
      obtain rfl := Option.some.inj h
      exact absurd rfl hlive
    | cons vcpu rest =>
      obtain rfl := Option.some.inj h
      exact ⟨by simp,rfl⟩
  | checking vcpu =>
    rw [hp] at h
    dsimp only at h
    split at h
    · obtain rfl := Option.some.inj h
      exact ⟨by simp,rfl⟩
    · obtain rfl := Option.some.inj h
      exact ⟨by simp,rfl⟩
  | checked vcpu =>
    rw [hp] at h
    obtain rfl := Option.some.inj h
    exact ⟨by simp,rfl⟩
  | inside vcpu =>
    rw [hp] at h
    dsimp only at h ⊢
    refine ⟨by simp,(guest_back profile state.machine turn).trans ?_⟩
    obtain ⟨e,hback,-⟩ | ⟨info,hback,-⟩ :=
      runWithMmio_cases profile vcpu state.machine.device turn.exit
    · rw [hback] at h
      obtain rfl := Option.some.inj h
      rfl
    · rw [hback] at h
      obtain rfl := Option.some.inj h
      rfl
  | exited vcpu result =>
    rw [hp] at h
    obtain rfl := Option.some.inj h
    exact ⟨by simp,(handleExit_machine profile state vcpu result).1 hlive⟩
  | clearing vcpu =>
    rw [hp] at h
    obtain rfl := Option.some.inj h
    exact ⟨by simp,rfl⟩
  | returned =>
    rw [hp] at h
    cases h
  | panicked =>
    rw [hp] at h
    cases h

/-- So does a step of either thread. -/
theorem step_live {profile : Profile} {vcpus : List Vcpu} (state : LoopState) (turn : Turn)
    (next : LoopState) (h : step profile vcpus state turn=some next)
    (hlive : next.phase≠.panicked) :
    state.phase≠.panicked ∧ run (VmmBlockRuns.step profile) state.machine (eventsDone state turn)=
      some next.machine := by
  cases turn with
  | run turn => exact runStep_live h hlive
  | stop =>
    obtain rfl := step_stop h
    exact ⟨hlive,rfl⟩

/-- A register write that waits to be carried out has at most eight bytes. -/
def Short (state : LoopState) : Prop :=
  ∀ vcpu addr size data, state.phase=.exited vcpu (.ok (.mmioWrite addr size data)) →
    data.length ≤ 8

/-- Only the return of the virtual CPU brings a register write, and a short one. -/
theorem step_short {profile : Profile} {vcpus : List Vcpu} {state next : LoopState} {turn : Turn}
    (hs : Short state) (h : step profile vcpus state turn=some next) : Short next := by
  cases turn with
  | stop =>
    obtain rfl := step_stop h
    exact hs
  | run turn =>
    change runStep profile vcpus state turn=some next at h
    intro other addr size data hphase
    unfold runStep at h
    split at h
    · obtain rfl := Option.some.inj h
      cases hphase
    · split at h
      · obtain rfl := Option.some.inj h
        cases hphase
      · obtain rfl := Option.some.inj h
        cases hphase
    · split at h
      · obtain rfl := Option.some.inj h
        cases hphase
      · obtain rfl := Option.some.inj h
        cases hphase
    · obtain rfl := Option.some.inj h
      cases hphase
    · rename_i vcpu _
      dsimp only at h
      obtain ⟨e,hback,-⟩ | ⟨info,hback,hsees⟩ :=
        runWithMmio_cases profile vcpu state.machine.device turn.exit
      · rw [hback] at h
        obtain rfl := Option.some.inj h
        cases hphase
      · rw [hback] at h
        obtain rfl := Option.some.inj h
        cases hphase
        exact hsees.short _ _ _ rfl
    · rename_i vcpu result _
      obtain rfl := Option.some.inj h
      obtain ⟨-,hnext | hnext | hnext⟩ := handleExit_next profile state vcpu result
      · rw [hnext] at hphase
        cases hphase
      · rw [hnext] at hphase
        cases hphase
      · rw [hnext] at hphase
        cases hphase
    · obtain rfl := Option.some.inj h
      cases hphase
    · cases h
    · cases h

/-- Where a step without a first virtual CPU is ruled out, a panic is one of the
block device. -/
theorem step_stuck {profile : Profile} {vcpus : List Vcpu} (hv : vcpus≠[]) {state next : LoopState}
    {turn : Turn} (hs : state.phase≠.panicked) (hshort : Short state)
    (h : step profile vcpus state turn=some next) (hdead : next.phase=.panicked) :
    Stuck (VmmBlockRuns.step profile) state.machine (eventsDone state turn) := by
  cases turn with
  | stop =>
    obtain rfl := step_stop h
    exact absurd hdead hs
  | run turn =>
    change runStep profile vcpus state turn=some next at h
    unfold runStep at h
    unfold eventsDone
    cases hp : state.phase with
    | created =>
      rw [hp] at h
      obtain rfl := Option.some.inj h
      cases hdead
    | entered =>
      rw [hp] at h
      obtain ⟨vcpu,rest,rfl⟩ := List.exists_cons_of_ne_nil hv
      obtain rfl := Option.some.inj h
      cases hdead
    | checking vcpu =>
      rw [hp] at h
      dsimp only at h
      split at h
      · obtain rfl := Option.some.inj h
        cases hdead
      · obtain rfl := Option.some.inj h
        cases hdead
    | checked vcpu =>
      rw [hp] at h
      obtain rfl := Option.some.inj h
      cases hdead
    | inside vcpu =>
      rw [hp] at h
      dsimp only at h
      obtain ⟨e,hback,-⟩ | ⟨info,hback,-⟩ :=
        runWithMmio_cases profile vcpu state.machine.device turn.exit
      · rw [hback] at h
        obtain rfl := Option.some.inj h
        cases hdead
      · rw [hback] at h
        obtain rfl := Option.some.inj h
        cases hdead
    | exited vcpu result =>
      rw [hp] at h
      obtain rfl := Option.some.inj h
      refine (handleExit_machine profile state vcpu result).2 hdead ?_
      rintro addr size data rfl
      exact hshort vcpu addr size data hp
    | clearing vcpu =>
      rw [hp] at h
      obtain rfl := Option.some.inj h
      cases hdead
    | returned =>
      rw [hp] at h
      cases h
    | panicked => exact absurd hp hs

/-- The log shows exactly the console bytes that were handled. -/
theorem logged_eq (state : LoopState) (turn : Turn) :
    logged state turn=(consoleDone state turn).map serialLine := by
  cases turn with
  | stop => rfl
  | run turn =>
    unfold logged consoleDone
    dsimp only
    split
    · rename_i vcpu result _
      cases result with
      | error e => rfl
      | ok info => cases info <;> rfl
    · rfl

/-- The loop is behind an exit that ends it. -/
def Ended (state : LoopState) : Prop :=
  match state.phase with
  | .exited _ result => ¬GoesOn result
  | .clearing _ => True
  | .checking _ => state.running=false
  | .returned => True
  | .panicked => True
  | _ => False

/-- Behind such an exit the virtual CPU is not run. -/
theorem ended_exits {state : LoopState} (h : Ended state) (turn : Turn) : exits state turn=[] := by
  cases turn with
  | stop => rfl
  | run turn =>
    unfold Ended at h
    unfold exits
    dsimp only
    split
    · rename_i vcpu hp
      rw [hp] at h
      exact absurd h id
    · rfl

/-- Handling such an exit clears the flag. -/
theorem handleExit_clearing {profile : Profile} {state : LoopState} {vcpu : Vcpu}
    {result : Except LiteDroidError VcpuExitInfo} (h : ¬GoesOn result) :
    (handleExit profile state vcpu result).phase=.clearing vcpu := by
  cases result with
  | error e => rfl
  | ok info =>
    cases info with
    | hlt => rfl
    | shutdown => rfl
    | exception => rfl
    | failEntry reason => rfl
    | internalError => rfl
    | ioOut port data => exact absurd trivial h
    | ioIn port => exact absurd trivial h
    | mmioRead addr size => exact absurd trivial h
    | mmioWrite addr size data => exact absurd trivial h
    | unknown => exact absurd trivial h

/-- No step leads away from the end of the loop. -/
theorem step_ended {profile : Profile} {vcpus : List Vcpu} {state next : LoopState} {turn : Turn}
    (h : Ended state) (hstep : step profile vcpus state turn=some next) : Ended next := by
  cases turn with
  | stop =>
    obtain rfl := step_stop hstep
    have hphase : (stop state).phase=state.phase := rfl
    unfold Ended at h ⊢
    rw [hphase]
    cases hp : state.phase with
    | checking vcpu => rfl
    | clearing vcpu => trivial
    | returned => trivial
    | panicked => trivial
    | exited vcpu result =>
      rw [hp] at h
      exact h
    | created =>
      rw [hp] at h
      exact h
    | entered =>
      rw [hp] at h
      exact h
    | checked vcpu =>
      rw [hp] at h
      exact h
    | inside vcpu =>
      rw [hp] at h
      exact h
  | run turn =>
    change runStep profile vcpus state turn=some next at hstep
    unfold runStep at hstep
    unfold Ended at h
    cases hp : state.phase with
    | created =>
      rw [hp] at h
      exact absurd h id
    | entered =>
      rw [hp] at h
      exact absurd h id
    | checking vcpu =>
      rw [hp] at h hstep
      dsimp only at h hstep
      rw [h,if_neg (by decide)] at hstep
      obtain rfl := Option.some.inj hstep
      trivial
    | checked vcpu =>
      rw [hp] at h
      exact absurd h id
    | inside vcpu =>
      rw [hp] at h
      exact absurd h id
    | exited vcpu result =>
      rw [hp] at h hstep
      obtain rfl := Option.some.inj hstep
      unfold Ended
      rw [handleExit_clearing h]
      trivial
    | clearing vcpu =>
      rw [hp] at hstep
      obtain rfl := Option.some.inj hstep
      rfl
    | returned =>
      rw [hp] at hstep
      cases hstep
    | panicked =>
      rw [hp] at hstep
      cases hstep

/-- The end of the loop stays without an exit. -/
theorem ended_handed {profile : Profile} {vcpus : List Vcpu} (turns : List Turn) :
    ∀ state, Ended state → handed (step profile vcpus) exits state turns=[] := by
  induction turns with
  | nil =>
    intro state _
    rfl
  | cons turn rest ih =>
    intro state h
    cases hs : step profile vcpus state turn with
    | none =>
      unfold handed
      rw [visits,hs,List.flatMap_cons]
      exact List.append_eq_nil_iff.mpr ⟨ended_exits h turn,rfl⟩
    | some next =>
      rw [handed_cons hs,ended_exits h,ih next (step_ended h hs)]
      rfl

/-- A turn in which the virtual CPU ran comes back with one exit, to go on from
or to end with. -/
theorem exits_cases {profile : Profile} {vcpus : List Vcpu} {state next : LoopState} {turn : Turn}
    (hstep : step profile vcpus state turn=some next) :
    exits state turn=[] ∨ ∃ guest, exits state turn=[guest] ∧ (Continues guest.exit ∨ Ended next) := by
  cases turn with
  | stop => exact Or.inl rfl
  | run turn =>
    change runStep profile vcpus state turn=some next at hstep
    by_cases hin : ∃ vcpu, state.phase=.inside vcpu
    · obtain ⟨vcpu,hp⟩ := hin
      refine Or.inr ⟨turn,?_,?_⟩
      · unfold exits
        rw [hp]
      · unfold runStep at hstep
        rw [hp] at hstep
        dsimp only at hstep
        obtain ⟨e,hback,hsees⟩ | ⟨info,hback,hsees⟩ :=
          runWithMmio_cases profile vcpu state.machine.device turn.exit
        · rw [hback] at hstep
          obtain rfl := Option.some.inj hstep
          exact Or.inr id
        · rw [hback] at hstep
          obtain rfl := Option.some.inj hstep
          by_cases hgoes : GoesOn (.ok info)
          · exact Or.inl (hsees.continues hgoes)
          · exact Or.inr hgoes
    · refine Or.inl ?_
      unfold exits
      dsimp only
      split
      · rename_i vcpu hp
        exact absurd ⟨vcpu,hp⟩ hin
      · rfl

/-- Every exit but the last is one to go on from. -/
theorem exits_continue {profile : Profile} {vcpus : List Vcpu} (turns : List Turn) :
    ∀ state last, run (step profile vcpus) state turns=some last → ∀ first guest rest,
      handed (step profile vcpus) exits state turns=first++guest::rest → rest≠[] →
      Continues guest.exit := by
  induction turns with
  | nil =>
    intro state last _ first guest rest hsplit _
    exact absurd hsplit.symm (by simp [handed,visits])
  | cons turn others ih =>
    intro state last hrun first guest rest hsplit hrest
    obtain ⟨next,hs,hothers⟩ := run_cons_iff.mp hrun
    rw [handed_cons hs] at hsplit
    obtain hnone | ⟨only,hone,hcase⟩ := exits_cases hs
    · rw [hnone] at hsplit
      exact ih next last hothers first guest rest hsplit hrest
    · rw [hone] at hsplit
      cases first with
      | nil =>
        obtain ⟨rfl,htail⟩ := List.cons.inj hsplit
        rcases hcase with hgoes | hended
        · exact hgoes
        · rw [ended_handed others next hended] at htail
          exact absurd htail.symm hrest
      | cons head before =>
        obtain ⟨-,htail⟩ := List.cons.inj hsplit
        exact ih next last hothers before guest rest htail hrest

/-- The value of a hexadecimal digit. -/
def hexValue (c : Char) : ℕ := if c.isDigit then c.toNat-48 else c.toNat-87

/-- The byte that a text of the log stands for. -/
def readSerial : List Char → ℕ
  | [c] => c.toNat
  | ['<','L','F','>'] => 10
  | ['<','C','R','>'] => 13
  | ['<','0','x',high,low,'>'] => hexValue high*16+hexValue low
  | _ => 0

/-- Every byte is read back from its text. -/
theorem readSerial_serialText : ∀ n < 256, readSerial (serialText (UInt8.ofNat n))=n := by
  decide +kernel

/-- The log line tells its byte. -/
theorem serialLine_injective : Function.Injective serialLine := by
  intro a b h
  have htext : serialText a=serialText b := List.append_cancel_left h
  have ha := readSerial_serialText a.toNat a.toNat_lt
  have hb := readSerial_serialText b.toNat b.toNat_lt
  rw [UInt8.ofNat_toNat] at ha hb
  rw [htext,hb] at ha
  exact (UInt8.toNat_inj.mp ha).symm

/-- What a run of the loop has made of its guest. -/
structure FollowsGuest (profile : Profile) (start : BlockMachine) (guests : List GuestTurn)
    (log : List (List Char)) (state : LoopState) : Prop where
  /-- The device, guest memory and the image are what the guest's events make of
  them, up to a write that is yet to be carried out. -/
  device : state.phase≠.panicked → ∃ events,
    guests.flatMap guestEvents=events++writesLeft state ∧
      run (VmmBlockRuns.step profile) start events=some state.machine
  /-- A panic is one of the block device at the guest's last event. -/
  panic : state.phase=.panicked →
    Stuck (VmmBlockRuns.step profile) start (guests.flatMap guestEvents)
  /-- The log shows the guest's console bytes, each once and in order, and only
  these bytes make this log. -/
  console : ∃ bytes, (guests.flatMap fun guest => consoleOf guest.exit)=bytes++consoleLeft state ∧
    log=bytes.map serialLine ∧ ∀ other, log=other.map serialLine → other=bytes
  /-- The virtual CPU is run on only behind exits to go on from. -/
  continues : ∀ first guest rest, guests=first++guest::rest → rest≠[] → Continues guest.exit

/-- However the loop's thread and a request to stop interleave and whatever the
guest does, the run loop of a created machine follows its guest. -/
theorem loop_follows_guest (profile : Profile) (kvm : KvmAnswers) (host : HostAnswers)
    (config : DeviceConfig) (machine : VirtualMachine) (file : HostFile)
    (hnew : VirtualMachine.new kvm host config=.ok machine) (turns : List Turn) (state : LoopState)
    (hrun : run (step profile machine.vcpus) (initial machine file) turns=some state) :
    FollowsGuest profile (initial machine file).machine
      (handed (step profile machine.vcpus) exits (initial machine file) turns)
      (handed (step profile machine.vcpus) logged (initial machine file) turns) state := by
  have hv := (new_created hnew).vcpus
  have hevents : handed (step profile machine.vcpus) eventsTaken (initial machine file) turns=
      (handed (step profile machine.vcpus) exits (initial machine file) turns).flatMap
        guestEvents := List.flatMap_assoc.symm
  have hconsole : handed (step profile machine.vcpus) consoleTaken (initial machine file) turns=
      (handed (step profile machine.vcpus) exits (initial machine file) turns).flatMap
        fun guest => consoleOf guest.exit := List.flatMap_assoc.symm
  have hbuffered := run_buffered (fun s i next h => (step_buffered s i next h).1) turns _ _ hrun
  have hwaiting := run_buffered (fun s i next h => (step_buffered s i next h).2) turns _ _ hrun
  rw [hevents] at hbuffered
  rw [hconsole] at hwaiting
  refine ⟨fun hlive => ?_,fun hdead => ?_,?_,exits_continue turns _ _ hrun⟩
  · exact ⟨_,hbuffered,(run_follows step_live turns _ _ hrun hlive).2⟩
  · have hstuck := @run_stuck _ _ _ _ (step profile machine.vcpus) (VmmBlockRuns.step profile)
      LoopState.machine eventsDone (fun s => s.phase≠.panicked ∧ Short s)
      (fun s i next _ h hnext => (step_live s i next h hnext.1).2)
      (fun s i next hs h hnext => step_stuck hv hs.1 hs.2 h
        (Classical.not_not.mp fun hne => hnext ⟨hne,step_short hs.2 h⟩))
      turns _ _ ⟨by simp [initial],fun _ _ _ _ h => by cases h⟩ hrun fun h => h.1 hdead
    have hleft : writesLeft state=[] := by
      unfold writesLeft
      rw [hdead]
    rw [hleft,List.append_nil] at hbuffered
    have hnothing : writesLeft (initial machine file)=[] := rfl
    rw [hnothing,List.nil_append] at hbuffered
    rw [hbuffered]
    exact hstuck
  · have hlog : handed (step profile machine.vcpus) logged (initial machine file) turns=
        (handed (step profile machine.vcpus) consoleDone (initial machine file) turns).map
          serialLine := by
      unfold handed
      rw [List.map_flatMap]
      exact List.flatMap_congr fun visit _ => logged_eq visit.1 visit.2
    refine ⟨_,hwaiting,hlog,fun other hother => ?_⟩
    rw [hlog] at hother
    exact (List.map_injective_iff.mpr serialLine_injective hother).symm

/-- The guest writes two bytes to the console. -/
def consoleTurns : List Turn :=
  [idleTurn,idleTurn,idleTurn,idleTurn,
    .run ⟨fun _ => 0,.ok (.ioOut serialIoBase [0x48,0x0a])⟩,idleTurn]

/-- The loop follows a guest that writes a line to the console. -/
theorem loop_follows_guest_console :
    ∃ machine state, VirtualMachine.new willingKvm willingHost (plainConfig minRamMb)=.ok machine ∧
      run (step .release machine.vcpus) (initial machine blankImage) consoleTurns=some state ∧
      FollowsGuest .release (initial machine blankImage).machine
        (handed (step .release machine.vcpus) exits (initial machine blankImage) consoleTurns)
        (handed (step .release machine.vcpus) logged (initial machine blankImage) consoleTurns)
        state := by
  obtain ⟨machine,hnew⟩ : ∃ machine, VirtualMachine.new willingKvm willingHost
      (plainConfig minRamMb)=.ok machine := ⟨_,rfl⟩
  obtain ⟨vcpu,rest,hcons⟩ := List.exists_cons_of_ne_nil (new_created hnew).vcpus
  obtain ⟨state,hrun⟩ : ∃ state, run (step .release machine.vcpus) (initial machine blankImage)
      consoleTurns=some state := by
    rw [hcons]
    exact ⟨_,rfl⟩
  exact ⟨machine,state,hnew,hrun,loop_follows_guest .release _ _ _ machine blankImage hnew
    consoleTurns state hrun⟩

end LiteDroid.VmmGuestRuns
