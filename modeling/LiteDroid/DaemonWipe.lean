import LiteDroid.DaemonCoherence

/-!
# The device a wipe erases

A wipe launches the active device, or the default one, with its data erased.
The active device is that of the last launch, until something clears it: a
stop, a shutdown, a restart or a wipe that fails, or a poll that finds the
child exited. A start clears nothing, also when it finds the child exited.
-/

namespace LiteDroid.DaemonWipe

open IpcMessages DaemonDispatch DaemonAdbGate DaemonLifecycle DaemonCoherence StepRun

/-- An effect that finds a child exited. -/
def findsExit : Effect → Bool
  | .poll _ (.exited _) => true
  | _ => false

/-- Whether a request that launched nothing cleared the active device. -/
def clears (x : Exchange) (r : DispatchReport) : Bool :=
  stopping (Method.ofName x.req.method) ||
    (Method.ofName x.req.method≠.deviceStart && r.effects.any findsExit)

/-- A daemon together with its last launch and whether that was cleared since. -/
structure Recorded where
  /-- The state and the last launch. -/
  watched : Watched
  /-- Whether a request cleared the last launch. -/
  cleared : Bool

/-- The daemon before its first request. -/
def Recorded.start : Recorded := ⟨Watched.start,false⟩

/-- The daemon after a request. -/
def Recorded.next (r : Recorded) (x : Exchange) : Recorded :=
  ⟨r.watched.next x,
    match launchOf (report r.watched.state x) with
    | some _ => false
    | none => r.cleared || clears x (report r.watched.state x)⟩

/-- Requests are handled one after another. -/
def record (r : Recorded) (x : Exchange) : Option Recorded := some (r.next x)

/-- The device of the last launch, unless it was cleared since; else the default one. -/
def Recorded.target (r : Recorded) : String :=
  if r.cleared then "default"
  else
    match r.watched.launch with
    | none => "default"
    | some launch => launch.name

/-- The active device is that of the last launch, unless it was cleared since. -/
def Remembers (r : Recorded) : Prop :=
  r.watched.state.activeDevice=if r.cleared then none else r.watched.launch.map Launch.name

/-- A daemon that remembers relaunches its target. -/
theorem relaunchName_target {r : Recorded} (h : Remembers r) :
    relaunchName r.watched.state=r.target := by
  unfold relaunchName Recorded.target
  rw [h]
  cases r.cleared with
  | true => rfl
  | false =>
    cases r.watched.launch with
    | none => rfl
    | some launch => rfl

/-- Neutral effects find no child exited. -/
theorem neutral_no_exit {effects : List Effect} (h : ∀ e∈effects, Neutral e) :
    effects.any findsExit=false := by
  rw [List.any_eq_false]
  intro e he
  have hneutral := h e he
  cases e with
  | poll child answer =>
    cases answer with
    | alive => exact Bool.false_ne_true
    | failed => exact Bool.false_ne_true
    | exited success => exact absurd hneutral id
  | _ => exact Bool.false_ne_true

/-- A poll clears the active device exactly when it finds an exit. -/
theorem polled_activeDevice {answers : Answers} {state next : DaemonState} {effects : List Effect}
    (h : Polled answers state next effects) :
    next.activeDevice=if effects.any findsExit then none else state.activeDevice := by
  cases h with
  | empty hc => rfl
  | kept child power effects hc hn hq =>
    rw [neutral_no_exit hn]
    rfl
  | dropped child success hc hp => rfl

/-- A request that launches nothing keeps or clears the active device as its
report tells. -/
theorem activeDevice_cleared {x : Exchange} {state : DaemonState}
    (h : launchOf (report state x)=none) :
    (report state x).state.activeDevice=
      if clears x (report state x) then none else state.activeDevice := by
  have hhandled := report_handled state x
  unfold clears
  rw [h] at hhandled
  generalize (report state x).state=next at hhandled ⊢
  generalize (report state x).effects=effects at hhandled ⊢
  cases hhandled with
  | idle _ hm hn => rw [hm,neutral_no_exit hn,Bool.and_false,Bool.false_or]; rfl
  | shutDown hm => rw [hm]; rfl
  | stopped hm => rw [hm]; rfl
  | polled commands hm hs hn =>
    rw [hm,decide_eq_true hs,List.any_append,neutral_no_exit hn,Bool.or_false,Bool.true_and,
      Bool.false_or]
    exact polled_activeDevice (emulatorState_polled x.answers state)
  | orphaned child success e hm hc hp hs => rw [hm]; rfl
  | relaunchFailed e wipe hm hs =>
    rw [hm]
    cases wipe with
    | true => rfl
    | false => rfl

/-- A launch makes its device the active one. -/
theorem activeDevice_launched {x : Exchange} {state : DaemonState} {launch : Launch}
    (h : launchOf (report state x)=some launch) :
    (report state x).state.activeDevice=some launch.name := by
  have hhandled := report_handled state x
  rw [h] at hhandled
  generalize (report state x).state=next at hhandled ⊢
  generalize (report state x).effects=effects at hhandled
  cases hhandled with
  | started level adb child polls hm hfree hs => rfl
  | relaunched level adb child wipe hm hs => rfl

/-- Every request keeps the daemon remembering. -/
theorem remembers_step {r : Recorded} (h : Remembers r) (x : Exchange) : Remembers (r.next x) := by
  unfold Remembers Recorded.next Watched.next
  dsimp only
  cases hlaunch : launchOf (report r.watched.state x) with
  | some launch => exact activeDevice_launched hlaunch
  | none =>
    rw [activeDevice_cleared hlaunch]
    dsimp only
    rw [h,Option.none_or]
    cases clears x (report r.watched.state x) with
    | true => rw [Bool.or_true]; rfl
    | false => rw [Bool.or_false]; rfl

/-- The daemon remembers at every request of a run. -/
theorem visits_remembers (xs : List Exchange) :
    ∀ v∈visits record Recorded.start xs, Remembers v.1 := by
  refine @visits_invariant _ _ record Remembers (fun _ _ => True) ?_ xs Recorded.start rfl
    (fun _ _ => trivial)
  intro r x next h _ hnext
  obtain rfl := Option.some.inj hnext
  exact remembers_step h x

/-- A process started with its data erased is the launch of a wipe. -/
theorem wipe_launch {x : Exchange} {state : DaemonState} {child : Child} {avd : String}
    (h : Effect.spawn child avd true∈(report state x).effects) :
    Method.ofName x.req.method=.deviceWipe ∧ (∃ level, avd=avdName (relaunchName state) level) ∧
      launchOf (report state x)=some ⟨relaunchName state,child,true⟩ := by
  have hhandled := report_handled state x
  generalize launchOf (report state x)=launch at hhandled ⊢
  generalize (report state x).state=next at hhandled
  generalize (report state x).effects=effects at hhandled h
  cases hhandled with
  | idle _ hm hn => exact absurd h (neutral_no_spawn hn child avd true)
  | shutDown hm =>
    rcases List.mem_append.mp h with hk | hk
    · exact absurd hk (killEffects_no_spawn state child avd true)
    · cases List.mem_singleton.mp hk
  | stopped hm =>
    rcases List.mem_append.mp h with hk | hk
    · exact absurd hk (killEffects_no_spawn state child avd true)
    · exact absurd hk (neutral_no_spawn (flagEffects_neutral state) child avd true)
  | polled commands hm hs hn =>
    rcases List.mem_append.mp h with hk | hk
    · exact absurd hk ((emulatorState_polled x.answers state).no_spawn child avd true)
    · exact absurd hk (neutral_no_spawn hn child avd true)
  | started level adb other polls hm hfree hs =>
    rcases List.mem_append.mp h with hk | hk
    · obtain ⟨-,rfl⟩ | ⟨old,success,-,-,rfl⟩ := hfree
      · cases hk
      · cases List.mem_singleton.mp hk
    · cases List.mem_singleton.mp hk
  | orphaned other success e hm hc hp hs => cases List.mem_singleton.mp h
  | relaunched level adb other wipe hm hs =>
    rcases List.mem_append.mp h with hk | hk
    · exact absurd hk (killEffects_no_spawn state child avd true)
    · obtain ⟨rfl,rfl,rfl⟩ := Effect.spawn.inj (List.mem_singleton.mp hk)
      exact ⟨hm,⟨level,rfl⟩,rfl⟩
  | relaunchFailed e wipe hm hs => exact absurd h (killEffects_no_spawn state child avd true)

/-- A wipe launches exactly when every stage of the launch succeeds. -/
theorem wipe_launches_iff {x : Exchange} {state : DaemonState}
    (hm : Method.ofName x.req.method=.deviceWipe) :
    (∃ launch, launchOf (report state x)=some launch) ↔
      ∃ stages, launchStages x.answers.launch (relaunchName state)=.ok stages := by
  rw [@report_relaunch state x true hm]
  obtain ⟨e,hs,-,heffects⟩ | ⟨level,adb,child,hs,-,-,hlaunch⟩ :=
    launched_cases x.req (killEffects state) x.answers.launch (stopEmulator state).1
      (relaunchName state) true
  · have hnone := launchOf_none (by rw [heffects]; exact killEffects_no_spawn state)
    rw [hnone,hs]
    constructor
    · rintro ⟨launch,hsome⟩
      cases hsome
    · rintro ⟨stages,hok⟩
      cases hok
  · rw [hlaunch,hs]
    exact ⟨fun _ => ⟨_,rfl⟩,fun _ => ⟨_,rfl⟩⟩

/-- In every run, a process started with its data erased is the launch of a
wipe, and its device is that of the last launch unless that was cleared since,
else the default one. A wipe is never refused for want of an active device: it
launches exactly when every stage of launching that device succeeds. -/
theorem wipe_target (xs : List Exchange) :
    ∀ v∈visits record Recorded.start xs,
      (∀ child avd, Effect.spawn child avd true∈(report v.1.watched.state v.2).effects →
        Method.ofName v.2.req.method=.deviceWipe ∧ (∃ level, avd=avdName v.1.target level) ∧
          launchOf (report v.1.watched.state v.2)=some ⟨v.1.target,child,true⟩) ∧
      (Method.ofName v.2.req.method=.deviceWipe →
        ((∃ launch, launchOf (report v.1.watched.state v.2)=some launch) ↔
          ∃ stages, launchStages v.2.answers.launch v.1.target=.ok stages)) := by
  intro v hv
  have hname := relaunchName_target (visits_remembers xs v hv)
  refine ⟨?_,?_⟩
  · intro child avd hspawn
    rw [←hname]
    exact wipe_launch hspawn
  · intro hm
    rw [←hname]
    exact wipe_launches_iff hm

/-- A start of the device `work`. -/
def startWork : Exchange :=
  ⟨⟨1,"a","device.start",.obj [("device",.str "work")]⟩,deviceAnswers .alive (.ok ⟨7⟩)⟩

/-- A wipe that can launch. -/
def wipeRequest : Exchange := ⟨⟨1,"c","device.wipe",.obj []⟩,deviceAnswers .alive (.ok ⟨8⟩)⟩

/-- The daemon while `work` runs. -/
def workRunning : Recorded :=
  ⟨⟨⟨some "work",.booting,none,some ⟨7⟩,some "/sdk/platform-tools/adb"⟩,
    some ⟨"work",⟨7⟩,false⟩⟩,false⟩

/-- A wipe right after the start of `work` erases `work`. -/
theorem wipe_target_work : workRunning.target="work" ∧
    launchOf (report workRunning.watched.state wipeRequest)=some ⟨workRunning.target,⟨8⟩,true⟩ := by
  have hvisit : (workRunning,wipeRequest)∈visits record Recorded.start [startWork,wipeRequest] :=
    List.mem_cons_of_mem _ List.mem_cons_self
  have hspawn : Effect.spawn ⟨8⟩ (avdName "work" 34) true∈
      (report workRunning.watched.state wipeRequest).effects :=
    List.mem_cons_of_mem _ List.mem_cons_self
  have h := (wipe_target [startWork,wipeRequest] _ hvisit).1 ⟨8⟩ (avdName "work" 34) hspawn
  exact ⟨rfl,h.2.2⟩

/-- A start, a status request that finds the child exited, and a wipe. -/
def crashedRun : List Exchange :=
  [startWork,⟨⟨1,"b","device.status",.obj []⟩,deviceAnswers (.exited false) (.ok ⟨8⟩)⟩,wipeRequest]

/-- A start, a stop, and a wipe. -/
def stoppedRun : List Exchange :=
  [startWork,⟨⟨1,"b","device.stop",.obj []⟩,deviceAnswers .alive (.ok ⟨8⟩)⟩,wipeRequest]

/-- After the last launch was that of `work`, a wipe erases the default device:
when the crash of `work` was noticed, and also after a stop. -/
theorem wipe_erases_default :
    (∃ v∈visits record Recorded.start crashedRun, v.2=wipeRequest ∧
      v.1.watched.launch=some ⟨"work",⟨7⟩,false⟩ ∧
      launchOf (report v.1.watched.state v.2)=some ⟨"default",⟨8⟩,true⟩) ∧
    ∃ v∈visits record Recorded.start stoppedRun, v.2=wipeRequest ∧
      launchOf (report v.1.watched.state v.2)=some ⟨"default",⟨8⟩,true⟩ := by
  have hcrashed : (visits record Recorded.start crashedRun)[2]?=
      some (⟨⟨⟨none,.error,none,none,none⟩,some ⟨"work",⟨7⟩,false⟩⟩,true⟩,wipeRequest) := rfl
  have hstopped : (visits record Recorded.start stoppedRun)[2]?=
      some (⟨⟨⟨none,.off,none,none,none⟩,some ⟨"work",⟨7⟩,false⟩⟩,true⟩,wipeRequest) := rfl
  exact ⟨⟨_,List.mem_of_getElem? hcrashed,rfl,rfl,rfl⟩,⟨_,List.mem_of_getElem? hstopped,rfl,rfl⟩⟩

end LiteDroid.DaemonWipe
