import LiteDroid.DaemonDispatch

/-!
# What a request does to the emulator

One account of every request: the state it leaves, what it does to processes
and which device it launched. A launch is read off the report: the process
that was started last and the device the response names.
-/

namespace LiteDroid.DaemonLifecycle

open IpcMessages DaemonDispatch

/-- A launch that succeeded. -/
structure Launch where
  /-- The device it was for. -/
  name : String
  /-- The process it started. -/
  child : Child
  /-- Whether the device's data was erased. -/
  wipe : Bool
  deriving DecidableEq, Repr

/-- The device a response names. -/
def namedDevice (response : IpcResponse) : Option String :=
  (response.result.bind fun value => value.get? "device").bind Json.asStr?

/-- The launch a report tells of: its last effect starts a process and its
response names the device. -/
def launchOf (r : DispatchReport) : Option Launch :=
  match r.effects.getLast? with
  | some (.spawn child _ wipe) => (namedDevice r.response).map fun name => ⟨name,child,wipe⟩
  | _ => none

/-- An effect that neither starts nor ends a process nor finds one ended. -/
def Neutral : Effect → Prop
  | .poll _ (.exited _) => False
  | .killAndWait _ => False
  | .spawn _ _ _ => False
  | _ => True

/-- The device a start is for. -/
def startName (req : IpcRequest) : String := (req.param "device").getD "default"

/-- The device a restart or a wipe is for. -/
def relaunchName (state : DaemonState) : String := state.activeDevice.getD "default"

/-- What a start found in the slot of the emulator before it launched: nothing,
or a child that had exited. -/
def SlotFree (answers : Answers) (state : DaemonState) (polls : List Effect) : Prop :=
  (state.emulator=none ∧ polls=[]) ∨
    ∃ child success, state.emulator=some child ∧ answers.poll=.exited success ∧
      polls=[.poll child (.exited success)]

/-- What a poll can do: the state it leaves and its effects. -/
inductive Polled (answers : Answers) (state : DaemonState) :
    DaemonState → List Effect → Prop where
  /-- Find no child and leave everything alone. -/
  | empty (hc : state.emulator=none) : Polled answers state state []
  /-- Keep the child and store a power state. -/
  | kept (child : Child) (power : PowerState) (effects : List Effect)
      (hc : state.emulator=some child) (hn : ∀ e∈effects, Neutral e)
      (hq : ∀ adb args, Effect.adbCommand adb args∉effects) :
      Polled answers state {state with powerState := power} effects
  /-- Find the child exited and drop it with everything that belongs to it. -/
  | dropped (child : Child) (success : Bool) (hc : state.emulator=some child)
      (hp : answers.poll=.exited success) :
      Polled answers state
        {(stopEmulator state).1 with powerState := if success then .off else .error}
        [.poll child (.exited success)]

/-- What a request can do: the state it leaves, its effects and its launch. -/
inductive Handled (answers : Answers) (req : IpcRequest) (state : DaemonState) :
    DaemonState → List Effect → Option Launch → Prop where
  /-- Leave the state and the processes alone. -/
  | idle (effects : List Effect) (hm : stopping (Method.ofName req.method)=false)
      (hn : ∀ e∈effects, Neutral e) : Handled answers req state state effects none
  /-- Kill the child and mark the daemon as stopping. -/
  | shutDown (hm : Method.ofName req.method=.daemonShutdown) :
      Handled answers req state
        {state with emulator := none, activeDevice := none, powerState := .stopping}
        (killEffects state++[.stopAccepting]) none
  /-- Stop the emulator and let go of the stop flag. -/
  | stopped (hm : Method.ofName req.method=.deviceStop) :
      Handled answers req state {(stopEmulator state).1 with stopHandle := none}
        (killEffects state++flagEffects state) none
  /-- Poll the child, and perhaps run a command of the debug bridge. -/
  | polled (commands : List Effect) (hm : stopping (Method.ofName req.method)=false)
      (hs : Method.ofName req.method≠.deviceStart) (hn : ∀ e∈commands, Neutral e) :
      Handled answers req state (emulatorState answers state).state
        ((emulatorState answers state).effects++commands) none
  /-- Start a device in a free slot. -/
  | started (level : ℕ) (adb : String) (child : Child) (polls : List Effect)
      (hm : Method.ofName req.method=.deviceStart) (hfree : SlotFree answers state polls)
      (hs : launchStages answers.launch (startName req)=.ok (level,adb,child)) :
      Handled answers req state (state.booting (startName req) child adb)
        (polls++[.spawn child (avdName (startName req) level) false])
        (some ⟨startName req,child,false⟩)
  /-- Drop an exited child and fail to start a device. -/
  | orphaned (child : Child) (success : Bool) (e : String)
      (hm : Method.ofName req.method=.deviceStart) (hc : state.emulator=some child)
      (hp : answers.poll=.exited success)
      (hs : launchStages answers.launch (startName req)=.error e) :
      Handled answers req state {state with emulator := none} [.poll child (.exited success)] none
  /-- Stop the emulator and launch the active device again. -/
  | relaunched (level : ℕ) (adb : String) (child : Child) (wipe : Bool)
      (hm : Method.ofName req.method=if wipe then .deviceWipe else .deviceRestart)
      (hs : launchStages answers.launch (relaunchName state)=.ok (level,adb,child)) :
      Handled answers req state ((stopEmulator state).1.booting (relaunchName state) child adb)
        (killEffects state++[.spawn child (avdName (relaunchName state) level) wipe])
        (some ⟨relaunchName state,child,wipe⟩)
  /-- Stop the emulator and fail to launch the active device again. -/
  | relaunchFailed (e : String) (wipe : Bool)
      (hm : Method.ofName req.method=if wipe then .deviceWipe else .deviceRestart)
      (hs : launchStages answers.launch (relaunchName state)=.error e) :
      Handled answers req state (stopEmulator state).1 (killEffects state) none

/-- A report whose effects start no process tells of no launch. -/
theorem launchOf_none {r : DispatchReport}
    (h : ∀ child avd wipe, Effect.spawn child avd wipe∉r.effects) : launchOf r=none := by
  unfold launchOf
  split
  · rename_i child avd wipe hlast
    exact absurd (List.mem_of_getLast? hlast) (h child avd wipe)
  · rfl

/-- Neutral effects start no process. -/
theorem neutral_no_spawn {effects : List Effect} (h : ∀ e∈effects, Neutral e) (child : Child)
    (avd : String) (wipe : Bool) : Effect.spawn child avd wipe∉effects :=
  fun hmem => h _ hmem

/-- Killing the child starts no process. -/
theorem killEffects_no_spawn (state : DaemonState) (child : Child) (avd : String) (wipe : Bool) :
    Effect.spawn child avd wipe∉killEffects state := by
  intro hmem
  unfold killEffects at hmem
  split at hmem
  · cases hmem
  · cases List.mem_singleton.mp hmem

/-- Letting go of the stop flag is neutral. -/
theorem flagEffects_neutral (state : DaemonState) : ∀ e∈flagEffects state, Neutral e := by
  intro e he
  unfold flagEffects at he
  split at he
  · cases he
  · rw [List.mem_singleton.mp he]
    exact trivial

/-- The question to the debug bridge is neutral and no command. -/
theorem getStateEffects_mem {state : DaemonState} {e : Effect} (h : e∈getStateEffects state) :
    ∃ adb, e=.adbGetState adb := by
  unfold getStateEffects at h
  split at h
  · cases h
  · exact ⟨_,List.mem_singleton.mp h⟩

/-- Every poll does one of these things. -/
theorem emulatorState_polled (answers : Answers) (state : DaemonState) :
    Polled answers state (emulatorState answers state).state
      (emulatorState answers state).effects := by
  unfold emulatorState
  split
  · rename_i hc
    exact .empty hc
  · rename_i child hc
    split
    · refine .kept child _ _ hc ?_ ?_
      · intro e he
        rcases List.mem_cons.mp he with rfl | hquestion
        · exact trivial
        · obtain ⟨adb,rfl⟩ := getStateEffects_mem hquestion
          exact trivial
      · intro adb args hmem
        rcases List.mem_cons.mp hmem with h | hquestion
        · cases h
        · obtain ⟨bridge,h⟩ := getStateEffects_mem hquestion
          cases h
    · rename_i success hp
      exact .dropped child success hc hp
    · refine .kept child .error _ hc ?_ ?_
      · intro e he
        rw [List.mem_singleton.mp he]
        exact trivial
      · intro adb args hmem
        cases List.mem_singleton.mp hmem

/-- A poll starts no process. -/
theorem Polled.no_spawn {answers : Answers} {state next : DaemonState} {effects : List Effect}
    (h : Polled answers state next effects) (child : Child) (avd : String) (wipe : Bool) :
    Effect.spawn child avd wipe∉effects := by
  cases h with
  | empty hc => exact List.not_mem_nil
  | kept old power effects hc hn hq => exact neutral_no_spawn hn child avd wipe
  | dropped old success hc hp =>
    intro hmem
    cases List.mem_singleton.mp hmem

/-- A launch behind some effects leaves everything alone, or stores the child
it started and names its device. -/
theorem launched_cases (req : IpcRequest) (before : List Effect) (answers : LaunchAnswers)
    (state : DaemonState) (name : String) (wipe : Bool) :
    (∃ e, launchStages answers name=.error e ∧
      (launched req before (launchDevice answers state name wipe)).state=state ∧
      (launched req before (launchDevice answers state name wipe)).effects=before) ∨
    ∃ level adb child, launchStages answers name=.ok (level,adb,child) ∧
      (launched req before (launchDevice answers state name wipe)).state=
        state.booting name child adb ∧
      (launched req before (launchDevice answers state name wipe)).effects=
        before++[.spawn child (avdName name level) wipe] ∧
      launchOf (launched req before (launchDevice answers state name wipe))=
        some ⟨name,child,wipe⟩ := by
  cases hs : launchStages answers name with
  | error e =>
    have hl : launchDevice answers state name wipe=⟨.error e,state,[]⟩ := by
      rw [launchDevice,hs]
    refine Or.inl ⟨e,rfl,?_⟩
    rw [hl]
    exact ⟨rfl,List.append_nil before⟩
  | ok stages =>
    obtain ⟨level,adb,child⟩ := stages
    have hl : launchDevice answers state name wipe=
        ⟨.ok (.obj [("avd",.str (avdName name level)),("device",.str name),
            ("log",.str answers.emulatorLog),("status",.str "booting"),("wipe_data",.bool wipe)]),
          state.booting name child adb,[.spawn child (avdName name level) wipe]⟩ := by
      rw [launchDevice,hs]
      rfl
    refine Or.inr ⟨level,adb,child,rfl,?_⟩
    rw [hl]
    refine ⟨rfl,rfl,?_⟩
    rw [launchOf,launched]
    dsimp only
    rw [List.getLast?_concat]
    rfl

/-- The account of a report whose launch is read off its effects. -/
theorem handled_of_no_spawn {answers : Answers} {req : IpcRequest} {state next : DaemonState}
    {effects : List Effect} {r : DispatchReport} (hstate : r.state=next)
    (heffects : r.effects=effects)
    (hspawn : ∀ child avd wipe, Effect.spawn child avd wipe∉effects)
    (h : Handled answers req state next effects none) :
    Handled answers req state r.state r.effects (launchOf r) := by
  have hnone : launchOf r=none := launchOf_none (by rw [heffects]; exact hspawn)
  rw [hstate,heffects,hnone]
  exact h

/-- A start without a child launches the device. -/
theorem deviceStart_free {answers : Answers} {req : IpcRequest} {state : DaemonState}
    (h : state.emulator=none) : deviceStart answers req state=
      launched req [] (launchDevice answers.launch state (startName req) false) := by
  unfold deviceStart
  rw [h]
  rfl

/-- A start that finds the child exited drops it and launches the device. -/
theorem deviceStart_exited {answers : Answers} {req : IpcRequest} {state : DaemonState}
    {child : Child} {success : Bool} (h : state.emulator=some child)
    (hp : answers.poll=.exited success) : deviceStart answers req state=
      launched req [.poll child (.exited success)]
        (launchDevice answers.launch {state with emulator := none} (startName req) false) := by
  unfold deviceStart
  rw [h,hp]
  rfl

/-- A start that finds the child alive, or cannot poll it, is refused. -/
theorem deviceStart_refused {answers : Answers} {req : IpcRequest} {state : DaemonState}
    {child : Child} (h : state.emulator=some child)
    (hp : ∀ success, answers.poll≠.exited success) : deviceStart answers req state=
      ⟨makeErr req "Android emulator is already running",state,[.poll child answers.poll]⟩ := by
  unfold deviceStart
  rw [h]
  dsimp only
  split
  · rename_i success hexited
    exact absurd hexited (hp success)
  · rfl

/-- A poll that finds no exit is neutral. -/
theorem poll_neutral {child : Child} {answer : Poll} (h : ∀ success, answer≠.exited success) :
    ∀ e∈[Effect.poll child answer], Neutral e := by
  intro e he
  rw [List.mem_singleton.mp he]
  cases answer with
  | alive => exact trivial
  | failed => exact trivial
  | exited success => exact absurd rfl (h success)

/-- A start. -/
theorem deviceStart_handled (answers : Answers) (req : IpcRequest) (state : DaemonState)
    (hm : Method.ofName req.method=.deviceStart) :
    Handled answers req state (deviceStart answers req state).state
      (deviceStart answers req state).effects (launchOf (deviceStart answers req state)) := by
  have hidle : stopping (Method.ofName req.method)=false := congrArg stopping hm
  cases hchild : state.emulator with
  | none =>
    rw [deviceStart_free hchild]
    obtain ⟨e,hs,hstate,heffects⟩ | ⟨level,adb,child,hs,hstate,heffects,hlaunch⟩ :=
      launched_cases req [] answers.launch state (startName req) false
    · have hnone : ∀ e∈([] : List Effect), Neutral e := List.forall_mem_nil _
      exact handled_of_no_spawn hstate heffects (neutral_no_spawn hnone) (.idle [] hidle hnone)
    · rw [hstate,heffects,hlaunch]
      exact .started level adb child [] hm (Or.inl ⟨hchild,rfl⟩) hs
  | some old =>
    by_cases hexited : ∃ success, answers.poll=.exited success
    · obtain ⟨success,hpoll⟩ := hexited
      rw [deviceStart_exited hchild hpoll]
      obtain ⟨e,hs,hstate,heffects⟩ | ⟨level,adb,child,hs,hstate,heffects,hlaunch⟩ :=
        launched_cases req [.poll old (.exited success)] answers.launch
          {state with emulator := none} (startName req) false
      · refine handled_of_no_spawn hstate heffects ?_ (.orphaned old success e hm hchild hpoll hs)
        intro child avd wipe hmem
        cases List.mem_singleton.mp hmem
      · rw [hstate,heffects,hlaunch]
        exact .started level adb child _ hm (Or.inr ⟨old,success,hchild,hpoll,rfl⟩) hs
    · have hother : ∀ success, answers.poll≠.exited success :=
        fun success hpoll => hexited ⟨success,hpoll⟩
      have hneutral := @poll_neutral old answers.poll hother
      rw [deviceStart_refused hchild hother]
      exact handled_of_no_spawn rfl rfl (neutral_no_spawn hneutral) (.idle _ hidle hneutral)

/-- A restart or a wipe. -/
theorem deviceRelaunch_handled (answers : Answers) (req : IpcRequest) (state : DaemonState)
    (wipe : Bool) (hm : Method.ofName req.method=if wipe then .deviceWipe else .deviceRestart) :
    Handled answers req state (deviceRelaunch answers req state wipe).state
      (deviceRelaunch answers req state wipe).effects
      (launchOf (deviceRelaunch answers req state wipe)) := by
  have hunfold : deviceRelaunch answers req state wipe=
      launched req (killEffects state)
        (launchDevice answers.launch (stopEmulator state).1 (relaunchName state) wipe) := rfl
  rw [hunfold]
  obtain ⟨e,hs,hstate,heffects⟩ | ⟨level,adb,child,hs,hstate,heffects,hlaunch⟩ :=
    launched_cases req (killEffects state) answers.launch (stopEmulator state).1
      (relaunchName state) wipe
  · exact handled_of_no_spawn hstate heffects (killEffects_no_spawn state)
      (.relaunchFailed e wipe hm hs)
  · rw [hstate,heffects,hlaunch]
    exact .relaunched level adb child wipe hm hs

/-- A request that polls the child and perhaps runs a command of the debug bridge. -/
theorem bridge_handled {answers : Answers} {req : IpcRequest} {state : DaemonState}
    {args : List String} {r : DispatchReport}
    (hm : stopping (Method.ofName req.method)=false)
    (hs : Method.ofName req.method≠.deviceStart)
    (hstate : r.state=(adbBytes answers state args).state)
    (heffects : r.effects=(adbBytes answers state args).effects) :
    Handled answers req state r.state r.effects (launchOf r) := by
  rw [adbBytes_state] at hstate
  have hcommands : ∃ commands, (∀ e∈commands, Neutral e) ∧
      r.effects=(emulatorState answers state).effects++commands := by
    obtain hquiet | ⟨adb,-,-,hcommand⟩ := adbBytes_effects answers state args
    · refine ⟨[],List.forall_mem_nil _,?_⟩
      rw [heffects,hquiet,List.append_nil]
    · refine ⟨[.adbCommand adb (["-s","emulator-5554"]++args)],?_,heffects.trans hcommand⟩
      intro e he
      rw [List.mem_singleton.mp he]
      exact trivial
  obtain ⟨commands,hneutral,hlist⟩ := hcommands
  refine handled_of_no_spawn hstate hlist ?_ (.polled commands hm hs hneutral)
  intro child avd wipe hmem
  rcases List.mem_append.mp hmem with h | h
  · exact (emulatorState_polled answers state).no_spawn child avd wipe h
  · exact neutral_no_spawn hneutral child avd wipe h

/-- Every request does one of these things. -/
theorem dispatch_handled (answers : Answers) (req : IpcRequest) (state : DaemonState) :
    Handled answers req state (dispatch answers req state).state
      (dispatch answers req state).effects (launchOf (dispatch answers req state)) := by
  have hnil : ∀ e∈([] : List Effect), Neutral e := List.forall_mem_nil _
  have hroute := dispatch_route answers req state
  generalize dispatch answers req state=report at hroute ⊢
  cases hroute with
  | answer response hid hm =>
    exact handled_of_no_spawn rfl rfl (neutral_no_spawn hnil) (.idle [] hm hnil)
  | shutDown response hid hm =>
    refine handled_of_no_spawn rfl rfl ?_ (.shutDown hm)
    intro child avd wipe hmem
    rcases List.mem_append.mp hmem with h | h
    · exact killEffects_no_spawn state child avd wipe h
    · cases List.mem_singleton.mp h
  | start hm => exact deviceStart_handled answers req state hm
  | stop response hid hm =>
    refine handled_of_no_spawn rfl rfl ?_ (.stopped hm)
    intro child avd wipe hmem
    rcases List.mem_append.mp hmem with h | h
    · exact killEffects_no_spawn state child avd wipe h
    · exact neutral_no_spawn (flagEffects_neutral state) child avd wipe h
  | relaunch wipe hm => exact deviceRelaunch_handled answers req state wipe hm
  | poll response hid hm =>
    have hpoll := @Handled.polled answers req state [] (congrArg stopping hm)
      (fun h => by cases hm.symm.trans h) hnil
    rw [List.append_nil] at hpoll
    exact handled_of_no_spawn rfl rfl (emulatorState_polled answers state).no_spawn hpoll
  | bridge args response hid hm hs => exact bridge_handled hm hs rfl rfl

/-- What a request can do, seen from the state alone. -/
theorem Handled.change {answers : Answers} {req : IpcRequest} {state next : DaemonState}
    {effects : List Effect} {launch : Option Launch}
    (h : Handled answers req state next effects launch) :
    StateChange answers req state next := by
  have hrelaunch : ∀ wipe : Bool,
      Method.ofName req.method=(if wipe then .deviceWipe else .deviceRestart) →
      Method.ofName req.method=.deviceRestart ∨ Method.ofName req.method=.deviceWipe := by
    intro wipe hm
    cases wipe with
    | true => exact Or.inr hm
    | false => exact Or.inl hm
  cases h with
  | idle effects hm hn => exact .kept
  | shutDown hm => exact .shutDown
  | stopped hm => exact .stopped
  | polled commands hm hs hn => exact .polled
  | started level adb child polls hm hfree hs =>
    refine .started level adb child hm ?_ hs
    obtain ⟨hnone,-⟩ | ⟨old,success,-,hpoll,-⟩ := hfree
    · exact Or.inl hnone
    · exact Or.inr ⟨success,hpoll⟩
  | orphaned child success e hm hc hp hs => exact .orphaned child success e hm hc hp hs
  | relaunched level adb child wipe hm hs =>
    exact .relaunched level adb child (hrelaunch wipe hm) hs
  | relaunchFailed e wipe hm hs => exact .relaunchFailed e (hrelaunch wipe hm) hs

/-- Every request changes the state in one of the listed ways. -/
theorem dispatch_state (answers : Answers) (req : IpcRequest) (state : DaemonState) :
    StateChange answers req state (dispatch answers req state).state :=
  (dispatch_handled answers req state).change

/-- A launch whose stages succeed stores its child. -/
theorem launched_emulator {answers : LaunchAnswers} {name adb : String} {level : ℕ} {child : Child}
    (hs : launchStages answers name=.ok (level,adb,child)) (req : IpcRequest)
    (before : List Effect) (state : DaemonState) (wipe : Bool) :
    (launched req before (launchDevice answers state name wipe)).state.emulator=some child := by
  rw [launched_state,launchDevice,hs]

end LiteDroid.DaemonLifecycle
