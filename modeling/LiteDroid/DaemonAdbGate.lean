import LiteDroid.DaemonLifecycle
import LiteDroid.StepRun

/-!
# The gate before the debug bridge

A command of the debug bridge is let through when the reported power state is
running. With a child that report is the poll of the same request; without
one it is whatever was stored. The gate holds as long as no state without a
child is stored as running, and there is one way to get there: a start that
finds the child of a running device exited and then fails to launch.
-/

namespace LiteDroid.DaemonAdbGate

open CoreText IpcMessages DaemonDispatch DaemonLifecycle StepRun

/-- One request together with what the host answers while it is handled. -/
structure Exchange where
  /-- The request. -/
  req : IpcRequest
  /-- The host's answers. -/
  answers : Answers

/-- The report of handling a request. -/
def report (state : DaemonState) (x : Exchange) : DispatchReport :=
  dispatch x.answers x.req state

/-- The state after a request. -/
def step (state : DaemonState) (x : Exchange) : Option DaemonState :=
  some (report state x).state

/-- The account of every request. -/
theorem report_handled (state : DaemonState) (x : Exchange) :
    Handled x.answers x.req state (report state x).state (report state x).effects
      (launchOf (report state x)) := dispatch_handled x.answers x.req state

/-- The report of a start. -/
theorem report_start {state : DaemonState} {x : Exchange}
    (hm : Method.ofName x.req.method=.deviceStart) :
    report state x=deviceStart x.answers x.req state := by
  unfold report dispatch
  rw [hm]

/-- The report of a restart or a wipe. -/
theorem report_relaunch {state : DaemonState} {x : Exchange} {wipe : Bool}
    (hm : Method.ofName x.req.method=if wipe then .deviceWipe else .deviceRestart) :
    report state x=launched x.req (killEffects state)
      (launchDevice x.answers.launch (stopEmulator state).1 (relaunchName state) wipe) := by
  unfold report dispatch
  cases wipe with
  | true =>
    rw [hm]
    rfl
  | false =>
    rw [hm]
    rfl

/-- Every command of the debug bridge runs while the state holds a child that
the same request found alive, with the bridge reporting a device. -/
def Gated (state : DaemonState) (x : Exchange) : Prop :=
  ∀ adb args, Effect.adbCommand adb args∈(report state x).effects →
    ∃ child, (report state x).state.emulator=some child ∧
      Effect.poll child .alive∈(report state x).effects ∧
      Effect.adbGetState adb∈(report state x).effects ∧
      x.answers.getState.map trim=some "device"

/-- A start that finds the child of a device stored as running exited, and
whose launch then fails. -/
def Orphans (state : DaemonState) (x : Exchange) : Prop :=
  Method.ofName x.req.method=.deviceStart ∧ state.powerState=.running ∧
    (∃ child success, state.emulator=some child ∧ x.answers.poll=.exited success) ∧
    ∃ e, launchStages x.answers.launch ((x.req.param "device").getD "default")=.error e

/-- No state without a child is stored as running. -/
def Honest (state : DaemonState) : Prop := state.emulator=none → state.powerState≠.running

/-- A state with a child has the debug bridge that belongs to it. -/
def Armed (state : DaemonState) : Prop := state.emulator≠none → state.adb≠none

/-- Effects without a command of the debug bridge. -/
def Quiet (effects : List Effect) : Prop := ∀ adb args, Effect.adbCommand adb args∉effects

/-- No effect is a command. -/
theorem quiet_nil : Quiet [] := fun _ _ h => by cases h

/-- Two lists without a command have none together. -/
theorem quiet_append {first second : List Effect} (hf : Quiet first) (hs : Quiet second) :
    Quiet (first++second) := by
  intro adb args h
  rcases List.mem_append.mp h with h | h
  · exact hf adb args h
  · exact hs adb args h

/-- Killing the child runs no command. -/
theorem killEffects_quiet (state : DaemonState) : Quiet (killEffects state) := by
  intro adb args h
  unfold killEffects at h
  split at h
  · cases h
  · cases List.mem_singleton.mp h

/-- A poll runs no command. -/
theorem polled_quiet {answers : Answers} {state next : DaemonState} {effects : List Effect}
    (h : Polled answers state next effects) : Quiet effects := by
  cases h with
  | empty hc => exact quiet_nil
  | kept child power effects hc hn hq => exact hq
  | dropped child success hc hp =>
    intro adb args hmem
    cases List.mem_singleton.mp hmem

/-- A launch behind effects without a command runs none. -/
theorem launched_quiet {req : IpcRequest} {before : List Effect} (hb : Quiet before)
    (answers : LaunchAnswers) (state : DaemonState) (name : String) (wipe : Bool) :
    Quiet (launched req before (launchDevice answers state name wipe)).effects := by
  obtain ⟨e,-,-,heffects⟩ | ⟨level,adb,child,-,-,heffects,-⟩ :=
    launched_cases req before answers state name wipe
  · rw [heffects]
    exact hb
  · rw [heffects]
    refine quiet_append hb ?_
    intro adb' args h
    cases List.mem_singleton.mp h

/-- A start runs no command. -/
theorem deviceStart_quiet (answers : Answers) (req : IpcRequest) (state : DaemonState) :
    Quiet (deviceStart answers req state).effects := by
  have hpoll : ∀ child answer, Quiet [Effect.poll child answer] := by
    intro child answer adb args h
    cases List.mem_singleton.mp h
  unfold deviceStart
  dsimp only
  split
  · exact launched_quiet quiet_nil _ _ _ _
  · split
    · exact launched_quiet (hpoll _ _) _ _ _ _
    · exact hpoll _ _

/-- A request runs no command of the debug bridge, or exactly what its gated
call does. -/
theorem dispatch_effects (answers : Answers) (req : IpcRequest) (state : DaemonState) :
    Quiet (dispatch answers req state).effects ∨
    ∃ args, (dispatch answers req state).effects=(adbBytes answers state args).effects ∧
      (dispatch answers req state).state=(emulatorState answers state).state := by
  have hroute := dispatch_route answers req state
  generalize dispatch answers req state=report at hroute ⊢
  cases hroute with
  | answer response hid hm => exact Or.inl quiet_nil
  | shutDown response hid hm =>
    refine Or.inl (quiet_append (killEffects_quiet state) ?_)
    intro adb args h
    cases List.mem_singleton.mp h
  | start hm => exact Or.inl (deviceStart_quiet answers req state)
  | stop response hid hm =>
    refine Or.inl (quiet_append (killEffects_quiet state) ?_)
    intro adb args h
    unfold flagEffects at h
    split at h
    · cases h
    · cases List.mem_singleton.mp h
  | relaunch wipe hm => exact Or.inl (launched_quiet (killEffects_quiet state) _ _ _ _)
  | poll response hid hm => exact Or.inl (polled_quiet (emulatorState_polled answers state))
  | bridge args response hid hm hs => exact Or.inr ⟨args,rfl,adbBytes_state answers state args⟩

/-- A child reported as running was found alive, and the bridge reported a device. -/
theorem emulatorState_running {answers : Answers} {state : DaemonState} {child : Child}
    (hc : state.emulator=some child) (hr : (emulatorState answers state).power=.running) :
    ∃ adb, state.adb=some adb ∧ answers.getState.map trim=some "device" ∧
      (emulatorState answers state).state.emulator=some child ∧
      (emulatorState answers state).state.adb=some adb ∧
      (emulatorState answers state).effects=[.poll child .alive,.adbGetState adb] := by
  unfold emulatorState at hr ⊢
  rw [hc] at hr ⊢
  dsimp only at hr ⊢
  split at hr
  · rename_i hpoll
    dsimp only at hr
    by_cases hdevice : adbState answers state=some "device"
    · unfold adbState at hdevice
      unfold getStateEffects
      cases hadb : state.adb with
      | none =>
        rw [hadb] at hdevice
        cases hdevice
      | some adb =>
        rw [hadb] at hdevice
        exact ⟨adb,rfl,hdevice,rfl,rfl,rfl⟩
    · rw [if_neg hdevice] at hr
      cases hr
  · dsimp only at hr
    split at hr <;> cases hr
  · cases hr

/-- From a state that is honest about its child, every request is gated. -/
theorem honest_gated {state : DaemonState} (h : Honest state) (x : Exchange) : Gated state x := by
  intro adb args hmem
  unfold report at hmem ⊢
  obtain hquiet | ⟨args',heffects,hstate⟩ := dispatch_effects x.answers x.req state
  · exact absurd hmem (hquiet adb args)
  rw [heffects] at hmem
  rw [heffects,hstate]
  obtain hpoll | ⟨bridge,hrunning,hbridge,hcommand⟩ := adbBytes_effects x.answers state args'
  · rw [hpoll] at hmem
    exact absurd hmem (polled_quiet (emulatorState_polled x.answers state) adb args)
  cases hchild : state.emulator with
  | none =>
    unfold emulatorState at hrunning
    rw [hchild] at hrunning
    exact absurd hrunning (h hchild)
  | some child =>
    obtain ⟨own,-,hdevice,hkept,hown,hlist⟩ := emulatorState_running hchild hrunning
    rw [hcommand,hlist] at hmem ⊢
    rw [hbridge] at hown
    obtain rfl := Option.some.inj hown
    have hsame : adb=bridge := by
      rcases List.mem_append.mp hmem with hm | hm
      · simp at hm
      · exact (Effect.adbCommand.inj (List.mem_singleton.mp hm)).1
    rw [hsame]
    exact ⟨child,hkept,by simp,by simp,hdevice⟩

/-- A poll keeps the state honest. -/
theorem polled_honest {answers : Answers} {state next : DaemonState} {effects : List Effect}
    (h : Honest state) (hpolled : Polled answers state next effects) : Honest next := by
  cases hpolled with
  | empty hc => exact h
  | kept child power effects hc hn hq =>
    intro hnone
    have hlost : state.emulator=none := hnone
    rw [hc] at hlost
    cases hlost
  | dropped child success hc hp =>
    intro _ hrunning
    cases success with
    | false => cases hrunning
    | true => cases hrunning

/-- A poll keeps a child together with its debug bridge. -/
theorem polled_armed {answers : Answers} {state next : DaemonState} {effects : List Effect}
    (h : Armed state) (hpolled : Polled answers state next effects) : Armed next := by
  cases hpolled with
  | empty hc => exact h
  | kept child power effects hc hn hq => exact h
  | dropped child success hc hp => exact fun hlost => absurd rfl hlost

/-- A request that orphans no running device keeps the state honest. -/
theorem honest_step {state : DaemonState} {x : Exchange} (h : Honest state)
    (hx : ¬Orphans state x) : Honest (report state x).state := by
  have hchange := dispatch_state x.answers x.req state
  unfold report
  generalize (dispatch x.answers x.req state).state=next at hchange
  cases hchange with
  | kept => exact h
  | shutDown => exact fun _ hc => by cases hc
  | stopped => exact fun _ hc => by cases hc
  | polled => exact polled_honest h (emulatorState_polled x.answers state)
  | started level adb child hm hfree hs => exact fun hc => by cases hc
  | orphaned child success e hm hc hp hs =>
    intro _ hr
    exact hx ⟨hm,hr,⟨child,success,hc,hp⟩,⟨e,hs⟩⟩
  | relaunched level adb child hm hs => exact fun hc => by cases hc
  | relaunchFailed e hm hs => exact fun _ hc => by cases hc

/-- Every request keeps a child together with its debug bridge. -/
theorem armed_step {state : DaemonState} (h : Armed state) (x : Exchange) :
    Armed (report state x).state := by
  have hchange := dispatch_state x.answers x.req state
  unfold report
  generalize (dispatch x.answers x.req state).state=next at hchange
  cases hchange with
  | kept => exact h
  | shutDown => exact fun hc => absurd rfl hc
  | stopped => exact fun hc => absurd rfl hc
  | polled => exact polled_armed h (emulatorState_polled x.answers state)
  | started level adb child hm hfree hs => exact fun _ => Option.some_ne_none adb
  | orphaned child success e hm hc hp hs => exact fun hc => absurd rfl hc
  | relaunched level adb child hm hs => exact fun _ => Option.some_ne_none adb
  | relaunchFailed e hm hs => exact fun hc => absurd rfl hc

/-- A request for a shell, with the given answers. -/
def shellRequest (answers : Answers) : Exchange := ⟨⟨1,"shell","adb.shell",.obj []⟩,answers⟩

/-- A state stored as running lets a shell through even without a child. -/
theorem shell_ungated {state : DaemonState} {adb : String} (answers : Answers)
    (hchild : state.emulator=none) (hadb : state.adb=some adb)
    (hrunning : state.powerState=.running) : ¬Gated state (shellRequest answers) := by
  have hpoll : emulatorState answers state=⟨.running,state,[]⟩ := by
    unfold emulatorState
    rw [hchild]
    dsimp only
    rw [hrunning]
  have hreport : (report state (shellRequest answers)).state=state ∧
      (report state (shellRequest answers)).effects=
        (adbBytes answers state ["shell"]).effects := by
    have hm : Method.ofName (shellRequest answers).req.method=.adbShell := rfl
    unfold report dispatch
    rw [hm]
    dsimp only
    rw [bridged_state,bridged_effects,adbBytes_state]
    have ha : (shellRequest answers).answers=answers := rfl
    rw [ha,hpoll]
    exact ⟨rfl,rfl⟩
  have hcommand : (adbBytes answers state ["shell"]).effects=
      [.adbCommand adb ["-s","emulator-5554","shell"]] := by
    unfold adbBytes
    dsimp only
    rw [hpoll]
    dsimp only
    rw [if_neg (by simp),hadb]
    dsimp only
    split
    · rfl
    · split <;> rfl
  intro hgated
  obtain ⟨child,hsome,-⟩ := hgated adb ["-s","emulator-5554","shell"]
    (by rw [hreport.2,hcommand]; exact List.mem_singleton.mpr rfl)
  rw [hreport.1,hchild] at hsome
  cases hsome

/-- An orphaning start leaves a state that lets a shell through without a child. -/
theorem orphaned_ungated {state : DaemonState} {x : Exchange} (h : Armed state)
    (hx : Orphans state x) (answers : Answers) :
    ¬Gated (report state x).state (shellRequest answers) := by
  obtain ⟨hm,hrunning,⟨child,success,hchild,hpoll⟩,⟨e,hs⟩⟩ := hx
  have hstate : (report state x).state={state with emulator := none} := by
    rw [report_start hm,deviceStart_exited hchild hpoll,launched_state,launchDevice,startName,hs]
  obtain ⟨adb,hadb⟩ := Option.ne_none_iff_exists'.mp
    (h (by rw [hchild]; exact Option.some_ne_none child))
  rw [hstate]
  exact shell_ungated answers rfl hadb hrunning

/-- The states a run from the start of the daemon visits have a debug bridge
for their child. -/
theorem visits_armed (xs : List Exchange) :
    ∀ v∈visits step DaemonState.initial xs, Armed v.1 := by
  refine @visits_invariant _ _ step Armed (fun _ _ => True) ?_ xs DaemonState.initial ?_
    (fun _ _ => trivial)
  · intro state x next h _ hnext
    obtain rfl := Option.some.inj hnext
    exact armed_step h x
  · exact fun hc => absurd rfl hc

/-- The states of a run that orphans no running device are honest. -/
theorem visits_honest (xs : List Exchange)
    (hxs : ∀ v∈visits step DaemonState.initial xs, ¬Orphans v.1 v.2) :
    ∀ v∈visits step DaemonState.initial xs, Honest v.1 := by
  refine @visits_invariant _ _ step Honest (fun state x => ¬Orphans state x) ?_ xs
    DaemonState.initial ?_ hxs
  · intro state x next h hx hnext
    obtain rfl := Option.some.inj hnext
    exact honest_step h hx
  · exact fun _ hc => by cases hc

/-- In a run that orphans no running device every request is gated. Runs
without such a start are exactly those after each of whose requests every
possible request would be gated. -/
theorem adb_gate_iff (xs : List Exchange) :
    ((∀ v∈visits step DaemonState.initial xs, ¬Orphans v.1 v.2) →
      ∀ v∈visits step DaemonState.initial xs, Gated v.1 v.2) ∧
    ((∀ v∈visits step DaemonState.initial xs, ¬Orphans v.1 v.2) ↔
      ∀ v∈visits step DaemonState.initial xs, ∀ y, Gated (report v.1 v.2).state y) := by
  refine ⟨fun h v hv => honest_gated (visits_honest xs h v hv) v.2,⟨?_,?_⟩⟩
  · intro h v hv y
    exact honest_gated (honest_step (visits_honest xs h v hv) (h v hv)) y
  · intro h v hv horphans
    exact orphaned_ungated (visits_armed xs v hv) horphans v.2.answers (h v hv _)

/-- A launch whose last stage has the given outcome. -/
def launchEnding (spawn : Except String Child) : LaunchAnswers :=
  ⟨.ok (),.ok 34,.ok 34,.ok (),.ok "/sdk/platform-tools/adb","/data/logs/android-emulator.log",
    .ok (),.ok (),spawn⟩

/-- Answers of a host on which the debug bridge reports a device. -/
def deviceAnswers (poll : Poll) (spawn : Except String Child) : Answers :=
  ⟨1000,poll,some "device\n",launchEnding spawn,.ok ⟨true,"",""⟩,true,some "/data",.ok (),.ok ()⟩

/-- A start, a status request that finds Android up, a start that finds the
child exited and cannot spawn another, and a request for a shell. -/
def orphanRun : List Exchange :=
  [⟨⟨1,"a","device.start",.obj []⟩,deviceAnswers .alive (.ok ⟨7⟩)⟩,
    ⟨⟨1,"b","device.status",.obj []⟩,deviceAnswers .alive (.ok ⟨7⟩)⟩,
    ⟨⟨1,"c","device.start",.obj []⟩,deviceAnswers (.exited false) (.error "No such file")⟩,
    shellRequest (deviceAnswers (.exited false) (.error "No such file"))]

/-- The last request of this run reaches the debug bridge without a child. -/
theorem shell_without_child : ¬∀ v∈visits step DaemonState.initial orphanRun, Gated v.1 v.2 := by
  intro h
  have hlast : (visits step DaemonState.initial orphanRun)[3]?=
      some (⟨some "default",.running,none,none,some "/sdk/platform-tools/adb"⟩,
        shellRequest (deviceAnswers (.exited false) (.error "No such file"))) := rfl
  exact shell_ungated _ rfl rfl rfl (h _ (List.mem_of_getElem? hlast))

end LiteDroid.DaemonAdbGate
