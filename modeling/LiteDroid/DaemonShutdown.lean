import LiteDroid.DaemonSystem

/-!
# Launches after a shutdown

A shutdown kills the child and clears the flag of the accept loop. Threads
that already have a connection do not look at the flag, and neither does the
request handler: a start, a restart or a wipe that gets the mutex afterwards
launches a device, and the process outlives the daemon. Nothing else can.
-/

namespace LiteDroid.DaemonShutdown

open IpcMessages DaemonDispatch DaemonAdbGate DaemonLifecycle DaemonSystem StepRun ResourceSlot

/-- A start that finds the slot free, a restart or a wipe, for which every
stage of the launch succeeds. -/
def Launches (state : DaemonState) (x : Exchange) : Prop :=
  (Method.ofName x.req.method=.deviceStart ∧
    (state.emulator=none ∨ ∃ success, x.answers.poll=.exited success) ∧
    ∃ stages, launchStages x.answers.launch (startName x.req)=.ok stages) ∨
  ((Method.ofName x.req.method=.deviceRestart ∨ Method.ofName x.req.method=.deviceWipe) ∧
    ∃ stages, launchStages x.answers.launch (relaunchName state)=.ok stages)

/-- After a shutdown was handled, a thread gets the mutex with a request that launches. -/
def LaunchesLate (s : System) (event : Event) : Prop :=
  s.shutDown=true ∧ (s.step event).isSome ∧ ∃ index answers req, event=.lock index answers ∧
    s.waiting[index]?=some req ∧ Launches s.state ⟨req,answers⟩

/-- Once a shutdown was handled the state holds no child, no request is about to
store one, and no process is alive. -/
def Quiet (s : System) : Prop :=
  s.shutDown=true → s.state.emulator=none ∧
    (∀ holder, s.holder=some holder → holder.next.emulator=none) ∧ s.alive=[]

/-- A request that launches stores a child. -/
theorem launches_emulator {state : DaemonState} {x : Exchange} (h : Launches state x) :
    (report state x).state.emulator≠none := by
  obtain ⟨hm,hfree,⟨⟨level,adb,child⟩,hs⟩⟩ | ⟨hm,⟨⟨level,adb,child⟩,hs⟩⟩ := h
  · rw [report_start hm]
    cases hchild : state.emulator with
    | none =>
      rw [deviceStart_free hchild,launched_emulator hs]
      exact Option.some_ne_none child
    | some old =>
      obtain hnone | ⟨success,hpoll⟩ := hfree
      · rw [hchild] at hnone
        cases hnone
      · rw [deviceStart_exited hchild hpoll,launched_emulator hs]
        exact Option.some_ne_none child
  · have hwipe : ∃ wipe, Method.ofName x.req.method=
        if wipe=true then .deviceWipe else .deviceRestart := by
      obtain hrestart | herase := hm
      · exact ⟨false,hrestart⟩
      · exact ⟨true,herase⟩
    obtain ⟨wipe,hmethod⟩ := hwipe
    rw [report_relaunch hmethod,launched_emulator hs]
    exact Option.some_ne_none child

/-- Without a child, a poll stores none. -/
theorem polled_emulator {answers : Answers} {state next : DaemonState} {effects : List Effect}
    (hnone : state.emulator=none) (h : Polled answers state next effects) :
    next.emulator=none := by
  cases h with
  | empty hc => exact hnone
  | kept child power effects hc hn hq => exact hnone
  | dropped child success hc hp => rfl

/-- Without a child, a request that does not launch stores none. -/
theorem not_launches_emulator {state : DaemonState} {x : Exchange} (hnone : state.emulator=none)
    (h : ¬Launches state x) : (report state x).state.emulator=none := by
  have hhandled := report_handled state x
  generalize launchOf (report state x)=launch at hhandled
  generalize (report state x).state=next at hhandled ⊢
  generalize (report state x).effects=effects at hhandled
  cases hhandled with
  | idle _ hm hn => exact hnone
  | shutDown hm => rfl
  | stopped hm => rfl
  | polled commands hm hs hn =>
    exact polled_emulator hnone (emulatorState_polled x.answers state)
  | started level adb child polls hm hfree hs =>
    exact absurd (Or.inl ⟨hm,Or.inl hnone,⟨_,hs⟩⟩) h
  | orphaned child success e hm hc hp hs => rfl
  | relaunched level adb child wipe hm hs =>
    refine absurd (Or.inr ⟨?_,⟨_,hs⟩⟩) h
    cases wipe with
    | true => exact Or.inr hm
    | false => exact Or.inl hm
  | relaunchFailed e wipe hm hs => rfl

/-- A shutdown leaves no child. -/
theorem shutdown_emulator {state : DaemonState} {x : Exchange}
    (hm : Method.ofName x.req.method=.daemonShutdown) : (report state x).state.emulator=none := by
  unfold report dispatch
  rw [hm]

/-- The state that the holder of the mutex leaves is that of its request. -/
def Faithful (s : System) : Prop :=
  ∀ holder, s.holder=some holder → holder.next=(report s.state holder.exchange).state

/-- Every event keeps the holder true to its request. -/
theorem faithful_step {s next : System} {event : Event} (h : Faithful s)
    (hstep : s.step event=some next) : Faithful next := by
  intro holder hholder
  cases step_moved hstep with
  | aside hstate halive hsame hshut =>
    rw [hsame] at hholder
    rw [hstate]
    exact h holder hholder
  | exited child => exact h holder hholder
  | locked index answers req hfree hreq =>
    obtain rfl := Option.some.inj hholder
    rfl
  | acted exchange effect rest after hbefore hpossible =>
    obtain rfl := Option.some.inj hholder
    exact h ⟨exchange,effect::rest,after⟩ hbefore
  | released exchange after hbefore => cases hholder

/-- With no child before and none to come nothing is alive. -/
theorem held_alive_nil {s : System} (h : Held s) (hnone : s.state.emulator=none)
    (hnext : ∀ holder, s.holder=some holder → holder.next.emulator=none) : s.alive=[] := by
  unfold Held at h
  cases hs : s.holder with
  | none =>
    rw [hs,hnone] at h
    exact h.eq_nil
  | some holder =>
    rw [hs] at h
    obtain ⟨slot,hin⟩ := h
    refine List.eq_nil_iff_forall_not_mem.mpr ?_
    intro child hchild
    obtain hbefore | hafter := hin.child_known hchild
    · rw [hnone] at hbefore
      cases hbefore
    · rw [hnext holder hs] at hafter
      cases hafter

/-- An event that is no late launch keeps the daemon quiet. -/
theorem quiet_step {s next : System} {event : Event} (hquiet : Quiet s) (hfaithful : Faithful s)
    (hheld : Held s) (hevent : ¬LaunchesLate s event) (hstep : s.step event=some next) :
    Quiet next := by
  have hheldNext := held_step hheld hstep
  have hslots : next.shutDown=true → next.state.emulator=none ∧
      ∀ holder, next.holder=some holder → holder.next.emulator=none := by
    intro hshut
    cases step_moved hstep with
    | aside hstate halive hsame hkept =>
      rw [hkept] at hshut
      obtain ⟨hnone,hnext,-⟩ := hquiet hshut
      rw [hstate,hsame]
      exact ⟨hnone,hnext⟩
    | exited child =>
      obtain ⟨hnone,hnext,-⟩ := hquiet hshut
      exact ⟨hnone,hnext⟩
    | locked index answers req hfree hreq =>
      obtain ⟨hnone,-,-⟩ := hquiet hshut
      refine ⟨hnone,?_⟩
      intro holder hholder
      obtain rfl := Option.some.inj hholder
      refine not_launches_emulator hnone ?_
      intro hlaunches
      exact hevent ⟨hshut,Option.isSome_of_eq_some hstep,index,answers,req,rfl,hreq,hlaunches⟩
    | acted exchange effect rest after hbefore hpossible =>
      obtain ⟨hnone,hnext,-⟩ := hquiet hshut
      refine ⟨hnone,?_⟩
      intro holder hholder
      obtain rfl := Option.some.inj hholder
      exact hnext ⟨exchange,effect::rest,after⟩ hbefore
    | released exchange after hbefore =>
      refine ⟨?_,fun holder hholder => by cases hholder⟩
      rcases Bool.or_eq_true_iff.mp hshut with hearlier | hnow
      · obtain ⟨-,hnext,-⟩ := hquiet hearlier
        exact hnext ⟨exchange,[],after⟩ hbefore
      · have hafter := hfaithful ⟨exchange,[],after⟩ hbefore
        dsimp only at hafter ⊢
        rw [hafter]
        exact shutdown_emulator (of_decide_eq_true hnow)
  intro hshut
  obtain ⟨hnone,hnext⟩ := hslots hshut
  exact ⟨hnone,hnext,held_alive_nil hheldNext hnone hnext⟩

/-- A thread that gets the mutex holds it with the report of its request. -/
theorem lock_step {s next : System} {index : ℕ} {answers : Answers} {req : IpcRequest}
    (hreq : s.waiting[index]?=some req) (h : s.step (.lock index answers)=some next) :
    next.shutDown=s.shutDown ∧ next.holder=
      some ⟨⟨req,answers⟩,(report s.state ⟨req,answers⟩).effects,
        (report s.state ⟨req,answers⟩).state⟩ := by
  have hthread : (if s.loop=.exited then none else s.threadStep (.lock index answers))=
    some next := h
  split at hthread
  · cases hthread
  · rw [System.threadStep] at hthread
    split at hthread
    · rename_i other hfree hother
      rw [hreq] at hother
      obtain rfl := Option.some.inj hother
      obtain rfl := Option.some.inj hthread
      exact ⟨rfl,rfl⟩
    · cases hthread

/-- A late launch ends the quiet. -/
theorem late_launch_loud {s : System} {event : Event} (h : LaunchesLate s event) :
    ∃ next, s.step event=some next ∧ ¬Quiet next := by
  obtain ⟨hshut,hsome,index,answers,req,rfl,hreq,hlaunches⟩ := h
  obtain ⟨next,hnext⟩ := Option.isSome_iff_exists.mp hsome
  refine ⟨next,hnext,?_⟩
  obtain ⟨hkept,hholder⟩ := lock_step hreq hnext
  intro hquiet
  obtain ⟨-,hnone,-⟩ := hquiet (hkept.trans hshut)
  exact launches_emulator hlaunches (hnone _ hholder)

/-- The states of a run without a late launch are quiet. -/
theorem visits_quiet (events : List Event)
    (h : ∀ v∈visits System.step System.start events, ¬LaunchesLate v.1 v.2) :
    ∀ v∈visits System.step System.start events, Quiet v.1 ∧ Faithful v.1 ∧ Held v.1 := by
  refine @visits_invariant _ _ System.step (fun s => Quiet s ∧ Faithful s ∧ Held s)
    (fun s event => ¬LaunchesLate s event) ?_ events System.start ?_ h
  · rintro s event next ⟨hquiet,hfaithful,hheld⟩ hevent hstep
    exact ⟨quiet_step hquiet hfaithful hheld hevent hstep,faithful_step hfaithful hstep,
      held_step hheld hstep⟩
  · refine ⟨?_,?_,List.Sublist.refl []⟩
    · intro hshut
      cases hshut
    · intro holder hholder
      cases hholder

/-- In a run, every state after a shutdown is without a child, without a request
that is about to store one and without a process that is alive, exactly when no
thread gets the mutex after a shutdown with a request that launches. -/
theorem quiet_after_shutdown_iff (events : List Event) :
    (∀ v∈visits System.step System.start events, ∀ next, v.1.step v.2=some next → Quiet next) ↔
      ∀ v∈visits System.step System.start events, ¬LaunchesLate v.1 v.2 := by
  constructor
  · intro h v hv hlate
    obtain ⟨next,hnext,hloud⟩ := late_launch_loud hlate
    exact hloud (h v hv next hnext)
  · intro h v hv next hnext
    obtain ⟨hquiet,hfaithful,hheld⟩ := visits_quiet events h v hv
    exact quiet_step hquiet hfaithful hheld (h v hv) hnext

/-- Two clients connect; the shutdown of one is handled before the start of the
other; then the daemon exits. -/
def lateStart : List Event :=
  [.check,.accept,.check,.accept,.receive ⟨1,"a","device.start",.obj []⟩,
    .receive ⟨1,"b","daemon.shutdown",.obj []⟩,.lock 1 (deviceAnswers .alive (.ok ⟨7⟩)),.act,.release,
    .lock 0 (deviceAnswers .alive (.ok ⟨7⟩)),.act,.release,.check,.exit]

/-- The start launches a device after the shutdown, and its process outlives the daemon. -/
theorem late_start_outlives :
    (∃ s, run System.step System.start lateStart=some s ∧ s.shutDown=true ∧ s.loop=.exited ∧
      s.state.emulator=some ⟨7⟩ ∧ s.alive=[⟨7⟩]) ∧
    ¬∀ v∈visits System.step System.start lateStart, ∀ next, v.1.step v.2=some next →
      Quiet next := by
  refine ⟨⟨_,rfl,rfl,rfl,rfl,rfl⟩,?_⟩
  intro h
  have hlast : (visits System.step System.start lateStart)[13]?=
      some (⟨⟨some "default",.booting,none,some ⟨7⟩,some "/sdk/platform-tools/adb"⟩,[⟨7⟩],false,
        .left,0,[],none,true⟩,.exit) := rfl
  obtain ⟨hnone,-⟩ := h _ (List.mem_of_getElem? hlast) _ rfl rfl
  cases hnone

end LiteDroid.DaemonShutdown
