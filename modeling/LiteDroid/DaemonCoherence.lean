import LiteDroid.DaemonAdbGate

/-!
# Coherence of the daemon's state

The emulator, its debug bridge, the active device and the power state belong
together: without a child there is no bridge, no active device and no power
state of a live device, and a child has a bridge and the device it was
launched for. Two requests reset only part of these fields: a shutdown keeps
the bridge, and a start that finds the child exited and then fails to launch
keeps everything but the child.
-/

namespace LiteDroid.DaemonCoherence

open IpcMessages DaemonDispatch DaemonAdbGate DaemonLifecycle StepRun

/-- The daemon's state together with the last launch that succeeded. -/
structure Watched where
  /-- The state behind the mutex. -/
  state : DaemonState
  /-- The last launch. -/
  launch : Option Launch

/-- The daemon before its first request. -/
def Watched.start : Watched := ⟨DaemonState.initial,none⟩

/-- The daemon after a request. -/
def Watched.next (w : Watched) (x : Exchange) : Watched :=
  ⟨(report w.state x).state,(launchOf (report w.state x)).or w.launch⟩

/-- Requests are handled one after another. -/
def watch (w : Watched) (x : Exchange) : Option Watched := some (w.next x)

/-- The fields of the state agree about the emulator. -/
structure Coherent (w : Watched) : Prop where
  /-- Without a child nothing is left of a device. -/
  empty : w.state.emulator=none → w.state.adb=none ∧ w.state.activeDevice=none ∧
    w.state.powerState≠.booting ∧ w.state.powerState≠.running
  /-- A child comes with a debug bridge and with the device it was launched for. -/
  held : ∀ child, w.state.emulator=some child → w.state.adb≠none ∧
    ∃ launch, w.launch=some launch ∧ launch.child=child ∧ w.state.activeDevice=some launch.name

/-- A shutdown while there is a child, or a start that finds the child exited
and whose launch fails. -/
def Breaks (state : DaemonState) (x : Exchange) : Prop :=
  (Method.ofName x.req.method=.daemonShutdown ∧ state.emulator≠none) ∨
  (Method.ofName x.req.method=.deviceStart ∧
    (∃ child success, state.emulator=some child ∧ x.answers.poll=.exited success) ∧
    ∃ e, launchStages x.answers.launch (startName x.req)=.error e)

/-- A state without anything of a device is coherent. -/
theorem coherent_cleared {w : Watched} (hc : w.state.emulator=none) (hadb : w.state.adb=none)
    (hactive : w.state.activeDevice=none)
    (hpower : w.state.powerState=.off ∨ w.state.powerState=.stopping ∨
      w.state.powerState=.error) : Coherent w := by
  constructor
  · intro _
    refine ⟨hadb,hactive,?_,?_⟩
    · intro hp
      rw [hp] at hpower
      simp at hpower
    · intro hp
      rw [hp] at hpower
      simp at hpower
  · intro child hchild
    rw [hc] at hchild
    cases hchild

/-- A launched device is coherent. -/
theorem coherent_booting (state : DaemonState) (name : String) (child : Child) (adb : String)
    (wipe : Bool) : Coherent ⟨state.booting name child adb,some ⟨name,child,wipe⟩⟩ := by
  constructor
  · intro hc
    cases hc
  · intro held hheld
    obtain rfl := Option.some.inj hheld
    exact ⟨Option.some_ne_none adb,⟨name,child,wipe⟩,rfl,rfl,rfl⟩

/-- A poll keeps the state coherent. -/
theorem coherent_polled {answers : Answers} {w : Watched} {next : DaemonState}
    {effects : List Effect} (h : Coherent w) (hpolled : Polled answers w.state next effects) :
    Coherent ⟨next,w.launch⟩ := by
  cases hpolled with
  | empty hc => exact h
  | kept child power effects hc hn hq =>
    refine ⟨?_,fun held hheld => h.held held hheld⟩
    intro hnone
    have hlost : w.state.emulator=none := hnone
    rw [hc] at hlost
    cases hlost
  | dropped child success hc hp =>
    refine coherent_cleared rfl rfl rfl ?_
    cases success with
    | false => exact Or.inr (Or.inr rfl)
    | true => exact Or.inl rfl

/-- A request that breaks nothing keeps the state coherent. -/
theorem coherent_step {w : Watched} {x : Exchange} (h : Coherent w) (hx : ¬Breaks w.state x) :
    Coherent (w.next x) := by
  have hhandled := report_handled w.state x
  unfold Watched.next
  generalize (report w.state x).state=next at hhandled
  generalize (report w.state x).effects=effects at hhandled
  generalize launchOf (report w.state x)=launch at hhandled
  cases hhandled with
  | idle _ hm hn => exact h
  | shutDown hm =>
    have hnone : w.state.emulator=none := by
      by_contra hsome
      exact hx (Or.inl ⟨hm,hsome⟩)
    obtain ⟨hadb,-,-⟩ := h.empty hnone
    exact coherent_cleared rfl hadb rfl (Or.inr (Or.inl rfl))
  | stopped hm => exact coherent_cleared rfl rfl rfl (Or.inl rfl)
  | polled commands hm hs hn =>
    exact coherent_polled h (emulatorState_polled x.answers w.state)
  | started level adb child polls hm hfree hs => exact coherent_booting w.state _ child adb false
  | orphaned child success e hm hc hp hs =>
    exact absurd (Or.inr ⟨hm,⟨child,success,hc,hp⟩,⟨e,hs⟩⟩) hx
  | relaunched level adb child wipe hm hs =>
    exact coherent_booting (stopEmulator w.state).1 _ child adb wipe
  | relaunchFailed e wipe hm hs => exact coherent_cleared rfl rfl rfl (Or.inl rfl)

/-- A request that breaks the coherence of a child with a debug bridge. -/
theorem breaks_incoherent {w : Watched} {x : Exchange} (harmed : Armed w.state)
    (hx : Breaks w.state x) : ¬Coherent (w.next x) := by
  have hkept : ∀ child, w.state.emulator=some child →
      (report w.state x).state.emulator=none → (report w.state x).state.adb=w.state.adb →
      ¬Coherent (w.next x) := by
    intro child hchild hnone hadb h
    obtain ⟨hcleared,-⟩ := h.empty hnone
    have hsome := harmed (by rw [hchild]; exact Option.some_ne_none child)
    exact hsome (hadb.symm.trans hcleared)
  obtain ⟨hm,hsome⟩ | ⟨hm,⟨child,success,hchild,hpoll⟩,⟨e,hs⟩⟩ := hx
  · obtain ⟨child,hchild⟩ := Option.ne_none_iff_exists'.mp hsome
    refine hkept child hchild ?_ ?_
    · unfold report dispatch
      rw [hm]
    · unfold report dispatch
      rw [hm]
  · have hstate : (report w.state x).state={w.state with emulator := none} := by
      rw [report_start hm,deviceStart_exited hchild hpoll,launched_state,launchDevice,hs]
    refine hkept child hchild ?_ ?_
    · rw [hstate]
    · rw [hstate]

/-- Before the first request the state is coherent. -/
theorem coherent_start : Coherent Watched.start :=
  coherent_cleared rfl rfl rfl (Or.inl rfl)

/-- The states of a run in which no request breaks anything are coherent. -/
theorem visits_coherent (xs : List Exchange)
    (hxs : ∀ v∈visits watch Watched.start xs, ¬Breaks v.1.state v.2) :
    ∀ v∈visits watch Watched.start xs, Coherent v.1 := by
  refine @visits_invariant _ _ watch Coherent (fun w x => ¬Breaks w.state x) ?_ xs Watched.start
    coherent_start hxs
  intro w x next h hx hnext
  obtain rfl := Option.some.inj hnext
  exact coherent_step h hx

/-- The states of a run have a debug bridge for their child. -/
theorem visits_watched_armed (xs : List Exchange) :
    ∀ v∈visits watch Watched.start xs, Armed v.1.state := by
  refine @visits_invariant _ _ watch (fun w => Armed w.state) (fun _ _ => True) ?_ xs
    Watched.start ?_ (fun _ _ => trivial)
  · intro w x next h _ hnext
    obtain rfl := Option.some.inj hnext
    exact armed_step h x
  · exact fun hc => absurd rfl hc

/-- The daemon starts coherent, and a run stays coherent exactly when none of
its requests is a shutdown while there is a child or a start that finds the
child exited and fails to launch. -/
theorem coherent_iff (xs : List Exchange) :
    Coherent Watched.start ∧
    ((∀ v∈visits watch Watched.start xs, Coherent (v.1.next v.2)) ↔
      ∀ v∈visits watch Watched.start xs, ¬Breaks v.1.state v.2) := by
  refine ⟨coherent_start,?_,?_⟩
  · intro h v hv hbreaks
    exact breaks_incoherent (visits_watched_armed xs v hv) hbreaks (h v hv)
  · intro h v hv
    exact coherent_step (visits_coherent xs h v hv) (h v hv)

/-- A start whose launch succeeds, and a shutdown. -/
def shutDownRun : List Exchange :=
  [⟨⟨1,"a","device.start",.obj []⟩,deviceAnswers .alive (.ok ⟨7⟩)⟩,
    ⟨⟨1,"b","daemon.shutdown",.obj []⟩,deviceAnswers .alive (.ok ⟨7⟩)⟩]

/-- The shutdown leaves the debug bridge of a child that is gone. -/
theorem shut_down_keeps_bridge :
    ¬∀ v∈visits watch Watched.start shutDownRun, Coherent (v.1.next v.2) := by
  intro h
  have hlast : (visits watch Watched.start shutDownRun)[1]?=
      some (⟨⟨some "default",.booting,none,some ⟨7⟩,some "/sdk/platform-tools/adb"⟩,
          some ⟨"default",⟨7⟩,false⟩⟩,
        ⟨⟨1,"b","daemon.shutdown",.obj []⟩,deviceAnswers .alive (.ok ⟨7⟩)⟩) := rfl
  have hcoherent := h _ (List.mem_of_getElem? hlast)
  obtain ⟨hadb,-⟩ := hcoherent.empty rfl
  cases hadb

end LiteDroid.DaemonCoherence
