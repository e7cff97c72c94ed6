import LiteDroid.DaemonAdbGate
import LiteDroid.ResourceSlot

/-!
# The daemon, its clients and its emulator processes

The accept loop takes connections and starts a thread for each. A thread
receives one request, waits for the mutex, handles the request and lets the
mutex go. While it holds the mutex the other threads wait, but connections
still arrive, emulator processes may exit and signals may come between any two
of its effects. A poll answers that a process has exited only if it has, and a
process that was killed and waited for is gone.
-/

namespace LiteDroid.DaemonSystem

open IpcMessages DaemonDispatch DaemonAdbGate DaemonLifecycle StepRun ResourceSlot

/-- Where the main thread is. -/
inductive Loop where
  /-- Before the flag is read at the top of the accept loop. -/
  | checking
  /-- Waiting for a connection. -/
  | accepting
  /-- Behind the loop; the threads still run. -/
  | left
  /-- The daemon has exited, and its threads with it. -/
  | exited
  deriving DecidableEq, Repr

/-- A thread that holds the mutex. -/
structure Holder where
  /-- The request, and what the host answers while it is handled. -/
  exchange : Exchange
  /-- Effects that are still to come. -/
  todo : List Effect
  /-- The state it leaves. -/
  next : DaemonState

/-- The daemon with everything around it. -/
structure System where
  /-- The state as it was when the mutex was last free. -/
  state : DaemonState
  /-- Emulator processes that the daemon started and that are alive. -/
  alive : List Child
  /-- The flag of the accept loop. -/
  running : Bool
  /-- Where the main thread is. -/
  loop : Loop
  /-- How many threads wait for their request. -/
  connected : ℕ
  /-- The requests of the threads that wait for the mutex. -/
  waiting : List IpcRequest
  /-- The thread that holds the mutex. -/
  holder : Option Holder
  /-- Whether a shutdown has been handled. -/
  shutDown : Bool

/-- The daemon when it starts to accept connections. -/
def System.start : System := ⟨DaemonState.initial,[],true,.checking,0,[],none,false⟩

/-- What can happen next. -/
inductive Event where
  /-- The main thread reads the flag. -/
  | check
  /-- A connection is accepted and gets a thread. -/
  | accept
  /-- Accepting a connection fails. -/
  | acceptFailed
  /-- A thread receives its request. -/
  | receive (req : IpcRequest)
  /-- A thread receives no request and ends. -/
  | hangUp
  /-- One of the waiting threads gets the mutex. -/
  | lock (index : ℕ) (answers : Answers)
  /-- The thread that holds the mutex goes on. -/
  | act
  /-- The thread that holds the mutex is done and lets it go. -/
  | release
  /-- A process exits. -/
  | childExits (child : Child)
  /-- A signal clears the flag. -/
  | signal
  /-- The main thread returns. -/
  | exit

/-- Whether the host can let an effect happen: a poll answers that a process
has exited only if it has. -/
def possible (alive : List Child) : Effect → Bool
  | .poll child (.exited _) => child∉alive
  | _ => true

/-- The processes that are alive after an effect. -/
def aliveAfter (alive : List Child) : Effect → List Child
  | .killAndWait child => alive.filter fun other => other≠child
  | .spawn child _ _ => child::alive
  | _ => alive

/-- What the main thread does. -/
def System.mainStep (s : System) : Event → Option System
  | .check =>
    if s.loop=.checking then some {s with loop := if s.running then .accepting else .left}
    else none
  | .accept =>
    if s.loop=.accepting then some {s with loop := .checking, connected := s.connected+1}
    else none
  | .acceptFailed => if s.loop=.accepting then some {s with loop := .checking} else none
  | .exit => if s.loop=.left then some {s with loop := .exited} else none
  | _ => none

/-- What the threads do while the daemon runs. -/
def System.threadStep (s : System) : Event → Option System
  | .receive req =>
    if 0 < s.connected then some {s with connected := s.connected-1, waiting := s.waiting++[req]}
    else none
  | .hangUp => if 0 < s.connected then some {s with connected := s.connected-1} else none
  | .lock index answers =>
    match s.holder,s.waiting[index]? with
    | none,some req =>
      let r := report s.state ⟨req,answers⟩
      some {s with
        waiting := s.waiting.eraseIdx index, holder := some ⟨⟨req,answers⟩,r.effects,r.state⟩}
    | _,_ => none
  | .act =>
    match s.holder with
    | some ⟨exchange,effect::rest,next⟩ =>
      if possible s.alive effect then
        some {s with
          alive := aliveAfter s.alive effect,
          running := s.running && effect≠.stopAccepting,
          holder := some ⟨exchange,rest,next⟩}
      else none
    | _ => none
  | .release =>
    match s.holder with
    | some ⟨exchange,[],next⟩ =>
      some {s with
        state := next, holder := none,
        shutDown := s.shutDown || Method.ofName exchange.req.method=.daemonShutdown}
    | _ => none
  | _ => none

/-- One event. When the daemon has exited only its processes are left. -/
def System.step (s : System) (event : Event) : Option System :=
  match event with
  | .childExits child => some {s with alive := s.alive.filter fun other => other≠child}
  | .signal => if s.loop=.exited then none else some {s with running := false}
  | .check => s.mainStep .check
  | .accept => s.mainStep .accept
  | .acceptFailed => s.mainStep .acceptFailed
  | .exit => s.mainStep .exit
  | event => if s.loop=.exited then none else s.threadStep event

/-- What an event does to the state, the processes and the holder of the mutex. -/
inductive Moved (s : System) : Event → System → Prop where
  /-- Nothing. -/
  | aside {event : Event} {next : System} (hstate : next.state=s.state) (halive : next.alive=s.alive)
      (hholder : next.holder=s.holder) (hshut : next.shutDown=s.shutDown) : Moved s event next
  /-- A process exits. -/
  | exited (child : Child) : Moved s (.childExits child)
      {s with alive := s.alive.filter fun other => other≠child}
  /-- A thread gets the mutex. -/
  | locked (index : ℕ) (answers : Answers) (req : IpcRequest) (hfree : s.holder=none)
      (hreq : s.waiting[index]?=some req) : Moved s (.lock index answers)
        {s with
          waiting := s.waiting.eraseIdx index,
          holder := some ⟨⟨req,answers⟩,(report s.state ⟨req,answers⟩).effects,
            (report s.state ⟨req,answers⟩).state⟩}
  /-- The holder performs its next effect. -/
  | acted (exchange : Exchange) (effect : Effect) (rest : List Effect) (next : DaemonState)
      (hholder : s.holder=some ⟨exchange,effect::rest,next⟩)
      (hpossible : possible s.alive effect=true) : Moved s .act
        {s with
          alive := aliveAfter s.alive effect,
          running := s.running && effect≠.stopAccepting,
          holder := some ⟨exchange,rest,next⟩}
  /-- The holder lets the mutex go. -/
  | released (exchange : Exchange) (next : DaemonState)
      (hholder : s.holder=some ⟨exchange,[],next⟩) : Moved s .release
        {s with
          state := next, holder := none,
          shutDown := s.shutDown || Method.ofName exchange.req.method=.daemonShutdown}

/-- A guarded event that leaves the state, the processes, the holder of the mutex
and the mark of a shutdown alone. -/
theorem moved_aside {s after next : System} {event : Event} {guarded : Prop} [Decidable guarded]
    (hif : (if guarded then some after else none)=some next) (hstate : after.state=s.state)
    (halive : after.alive=s.alive) (hholder : after.holder=s.holder)
    (hshut : after.shutDown=s.shutDown) : Moved s event next := by
  split at hif
  · obtain rfl := Option.some.inj hif
    exact .aside hstate halive hholder hshut
  · cases hif

/-- The main thread touches neither the state nor the processes. -/
theorem mainStep_moved {s next : System} {event : Event} (h : s.mainStep event=some next) :
    Moved s event next := by
  cases event with
  | check => exact moved_aside h rfl rfl rfl rfl
  | accept => exact moved_aside h rfl rfl rfl rfl
  | acceptFailed => exact moved_aside h rfl rfl rfl rfl
  | exit => exact moved_aside h rfl rfl rfl rfl
  | _ => cases h

/-- The threads touch the state and the processes only under the mutex. -/
theorem threadStep_moved {s next : System} {event : Event} (h : s.threadStep event=some next) :
    Moved s event next := by
  cases event with
  | receive req => exact moved_aside h rfl rfl rfl rfl
  | hangUp => exact moved_aside h rfl rfl rfl rfl
  | lock index answers =>
    rw [System.threadStep] at h
    split at h
    · rename_i req hfree hreq
      obtain rfl := Option.some.inj h
      exact .locked index answers req hfree hreq
    · cases h
  | act =>
    rw [System.threadStep] at h
    split at h
    · rename_i exchange effect rest after hholder
      split at h
      · rename_i hpossible
        obtain rfl := Option.some.inj h
        exact .acted exchange effect rest after hholder hpossible
      · cases h
    · cases h
  | release =>
    rw [System.threadStep] at h
    split at h
    · rename_i exchange after hholder
      obtain rfl := Option.some.inj h
      exact .released exchange after hholder
    · cases h
  | _ => cases h

/-- What every event does to the state and the processes. -/
theorem step_moved {s next : System} {event : Event} (h : s.step event=some next) :
    Moved s event next := by
  have hthread : ∀ {event : Event}, (if s.loop=.exited then none else s.threadStep event)=some next →
      Moved s event next := by
    intro event hif
    split at hif
    · cases hif
    · exact threadStep_moved hif
  cases event with
  | childExits child =>
    obtain rfl := Option.some.inj h
    exact .exited child
  | signal =>
    rw [System.step] at h
    split at h
    · cases h
    · obtain rfl := Option.some.inj h
      exact .aside rfl rfl rfl rfl
  | check => exact mainStep_moved h
  | accept => exact mainStep_moved h
  | acceptFailed => exact mainStep_moved h
  | exit => exact mainStep_moved h
  | receive req => exact hthread h
  | hangUp => exact hthread h
  | lock index answers => exact hthread h
  | act => exact hthread h
  | release => exact hthread h

/-- What an effect does to the slot of the emulator. -/
def slotEvent : Effect → SlotEvent Child
  | .poll child (.exited _) => .ended child
  | .killAndWait child => .ended child
  | .spawn child _ _ => .began child
  | _ => .other

/-- What effects leave in the slot, unless a process is started while it is taken. -/
def slotAfter (slot : Option Child) (effects : List Effect) : Option (Option Child) :=
  run slotStep slot (effects.map slotEvent)

/-- A process is started at most once, and as the last effect. -/
def SpawnLast : List Effect → Prop
  | [] => True
  | .spawn _ _ _::rest => rest=[]
  | _::rest => SpawnLast rest

/-- Effects of two parts leave what the second leaves after the first. -/
theorem slotAfter_append (slot : Option Child) (first second : List Effect) :
    slotAfter slot (first++second)=(slotAfter slot first).bind fun mid => slotAfter mid second := by
  rw [slotAfter,List.map_append,run_append]
  rfl

/-- A neutral effect does nothing to the slot. -/
theorem neutral_slotEvent {e : Effect} (h : Neutral e) : slotEvent e=.other := by
  cases e with
  | poll child answer =>
    cases answer with
    | alive => rfl
    | failed => rfl
    | exited success => exact absurd h id
  | killAndWait child => exact absurd h id
  | spawn child avd wipe => exact absurd h id
  | _ => rfl

/-- Neutral effects leave the slot as it was and start no process. -/
theorem neutral_slotAfter {effects : List Effect} (h : ∀ e∈effects, Neutral e)
    (slot : Option Child) : slotAfter slot effects=some slot := by
  induction effects with
  | nil => rfl
  | cons e rest ih =>
    have hrest := ih fun other hother => h other (List.mem_cons_of_mem e hother)
    rw [slotAfter,List.map_cons,neutral_slotEvent (h e List.mem_cons_self)]
    exact hrest

/-- Killing the child empties the slot. -/
theorem kill_slotAfter (state : DaemonState) :
    slotAfter state.emulator (killEffects state)=some none := by
  unfold killEffects
  cases state.emulator with
  | none => rfl
  | some child =>
    rw [slotAfter,List.map_singleton,slotEvent,run,slotStep,if_pos rfl]
    rfl

/-- A poll leaves in the slot what it leaves in the state. -/
theorem poll_slotAfter {answers : Answers} {state next : DaemonState} {effects : List Effect}
    (h : Polled answers state next effects) :
    slotAfter state.emulator effects=some next.emulator := by
  cases h with
  | empty hc => rfl
  | kept child power effects hc hn hq => exact neutral_slotAfter hn state.emulator
  | dropped child success hc hp =>
    rw [hc,slotAfter,List.map_singleton,slotEvent,run,slotStep,if_pos rfl]
    rfl

/-- Effects that start no process may come before a last start. -/
theorem spawnLast_append {first second : List Effect}
    (h : ∀ child avd wipe, Effect.spawn child avd wipe∉first) (hs : SpawnLast second) :
    SpawnLast (first++second) := by
  induction first with
  | nil => exact hs
  | cons e rest ih =>
    have hrest := ih fun child avd wipe hmem => h child avd wipe (List.mem_cons_of_mem e hmem)
    cases e with
    | spawn child avd wipe => exact absurd List.mem_cons_self (h child avd wipe)
    | _ => exact hrest

/-- The effects of a start before it launches empty the slot and start nothing. -/
theorem slotFree_slotAfter {answers : Answers} {state : DaemonState} {polls : List Effect}
    (h : SlotFree answers state polls) : slotAfter state.emulator polls=some none ∧
      ∀ child avd wipe, Effect.spawn child avd wipe∉polls := by
  obtain ⟨hnone,rfl⟩ | ⟨old,success,hold,-,rfl⟩ := h
  · rw [hnone]
    refine ⟨rfl,?_⟩
    intro child avd wipe hmem
    cases hmem
  · rw [hold,slotAfter,List.map_singleton,slotEvent,run,slotStep,if_pos rfl]
    refine ⟨rfl,?_⟩
    intro child avd wipe hmem
    cases List.mem_singleton.mp hmem

/-- A request starts a process only into an empty slot, and what its effects
leave in the slot is the child in the state it leaves. -/
theorem report_slotAfter (state : DaemonState) (x : Exchange) :
    slotAfter state.emulator (report state x).effects=some (report state x).state.emulator ∧
      SpawnLast (report state x).effects := by
  have hhandled := report_handled state x
  have hnil : ∀ first : List Effect,
      (∀ child avd wipe, Effect.spawn child avd wipe∉first) → SpawnLast first := by
    intro first hfirst
    have hlast := spawnLast_append hfirst (show SpawnLast [] from trivial)
    rw [List.append_nil] at hlast
    exact hlast
  generalize launchOf (report state x)=launch at hhandled
  generalize (report state x).state=next at hhandled ⊢
  generalize (report state x).effects=effects at hhandled ⊢
  cases hhandled with
  | idle _ hm hn => exact ⟨neutral_slotAfter hn _,hnil effects (neutral_no_spawn hn)⟩
  | shutDown hm =>
    refine ⟨?_,spawnLast_append (killEffects_no_spawn state) trivial⟩
    rw [slotAfter_append,kill_slotAfter]
    rfl
  | stopped hm =>
    have hflag := flagEffects_neutral state
    refine ⟨?_,spawnLast_append (killEffects_no_spawn state)
      (hnil _ (neutral_no_spawn hflag))⟩
    rw [slotAfter_append,kill_slotAfter]
    exact neutral_slotAfter hflag none
  | polled commands hm hs hn =>
    have hpolled := emulatorState_polled x.answers state
    refine ⟨?_,spawnLast_append hpolled.no_spawn (hnil _ (neutral_no_spawn hn))⟩
    rw [slotAfter_append,poll_slotAfter hpolled]
    exact neutral_slotAfter hn _
  | started level adb child polls hm hfree hs =>
    obtain ⟨hslot,hspawn⟩ := slotFree_slotAfter hfree
    refine ⟨?_,spawnLast_append hspawn rfl⟩
    rw [slotAfter_append,hslot]
    rfl
  | orphaned child success e hm hc hp hs =>
    obtain ⟨hslot,hspawn⟩ :=
      slotFree_slotAfter (Or.inr ⟨child,success,hc,hp,rfl⟩ : SlotFree x.answers state _)
    exact ⟨hslot,hnil _ hspawn⟩
  | relaunched level adb child wipe hm hs =>
    refine ⟨?_,spawnLast_append (killEffects_no_spawn state) rfl⟩
    rw [slotAfter_append,kill_slotAfter]
    rfl
  | relaunchFailed e wipe hm hs =>
    exact ⟨kill_slotAfter state,hnil _ (killEffects_no_spawn state)⟩

/-- What the holder of the mutex still does fits what is alive: the processes
that are alive are in a slot that its effects turn into the child it leaves. -/
structure InHand (s : System) (holder : Holder) (slot : Option Child) : Prop where
  /-- The remaining effects turn the slot into what is left in the state. -/
  leaves : slotAfter slot holder.todo=some holder.next.emulator
  /-- Processes are started last. -/
  spawnLast : SpawnLast holder.todo
  /-- Whatever is alive is in the slot. -/
  owned : Owned s.alive slot
  /-- The slot is empty, or it is what the mutex was taken with or is left with. -/
  known : slot=none ∨ slot=s.state.emulator ∨ slot=holder.next.emulator

/-- Every process that is alive is in somebody's hands. -/
def Held (s : System) : Prop :=
  match s.holder with
  | none => Owned s.alive s.state.emulator
  | some holder => ∃ slot, InHand s holder slot

/-- A process that is alive while a request is handled is the child that the
state had before or gets. -/
theorem InHand.child_known {s : System} {holder : Holder} {slot : Option Child}
    (h : InHand s holder slot) {child : Child} (hchild : child∈s.alive) :
    s.state.emulator=some child ∨ holder.next.emulator=some child := by
  have hslot := h.owned.slot_eq hchild
  obtain hempty | hbefore | hafter := h.known
  · rw [hempty] at hslot
    cases hslot
  · exact Or.inl (hbefore.symm.trans hslot)
  · exact Or.inr (hafter.symm.trans hslot)

/-- The processes after a possible effect are those the slot accounts for. -/
theorem aliveAfter_eq_live {alive : List Child} {effect : Effect}
    (h : possible alive effect=true) : aliveAfter alive effect=live alive (slotEvent effect) := by
  cases effect with
  | poll child answer =>
    cases answer with
    | alive => rfl
    | failed => rfl
    | exited success =>
      have habsent : child∉alive := of_decide_eq_true h
      have hkept : (alive.filter fun other => other≠child)=alive := by
        rw [List.filter_eq_self]
        intro other hother
        refine decide_eq_true ?_
        intro heq
        rw [heq] at hother
        exact habsent hother
      exact hkept.symm
  | _ => rfl

/-- The next effect of the holder keeps what is alive in hand. -/
theorem inHand_act {s : System} {exchange : Exchange} {effect : Effect} {rest : List Effect}
    {next : DaemonState} {slot : Option Child} {running : Bool}
    (h : InHand s ⟨exchange,effect::rest,next⟩ slot) (hpossible : possible s.alive effect=true) :
    ∃ after, InHand {s with
        alive := aliveAfter s.alive effect, running := running,
        holder := some ⟨exchange,rest,next⟩} ⟨exchange,rest,next⟩ after := by
  have hleaves := h.leaves
  have hspawn := h.spawnLast
  rw [slotAfter,List.map_cons,run] at hleaves
  cases hstep : slotStep slot (slotEvent effect) with
  | none =>
    rw [hstep] at hleaves
    cases hleaves
  | some after =>
    rw [hstep] at hleaves
    have hrest : SpawnLast rest := by
      cases effect with
      | spawn child avd wipe =>
        have hnil : rest=[] := hspawn
        rw [hnil]
        exact trivial
      | _ => exact hspawn
    have howned := h.owned.step hstep
    rw [←aliveAfter_eq_live hpossible] at howned
    refine ⟨after,hleaves,hrest,howned,?_⟩
    cases hevent : slotEvent effect with
    | other =>
      rw [hevent] at hstep
      obtain rfl := Option.some.inj hstep
      exact h.known
    | ended child =>
      rw [hevent] at hstep
      obtain rfl := Option.some.inj hstep
      split
      · exact Or.inl rfl
      · exact h.known
    | began child =>
      -- The only effect that begins a process is a start, and it comes last.
      have hnil : rest=[] := by
        cases effect with
        | spawn other avd wipe => exact hspawn
        | poll other answer => cases answer <;> cases hevent
        | _ => cases hevent
      rw [hnil] at hleaves
      exact Or.inr (Or.inr (Option.some.inj hleaves))

/-- Every event keeps the processes in hand. -/
theorem held_step {s next : System} {event : Event} (h : Held s) (hstep : s.step event=some next) :
    Held next := by
  unfold Held at h ⊢
  cases step_moved hstep with
  | aside hstate halive hholder hshut =>
    rw [hholder]
    cases hs : s.holder with
    | none =>
      rw [hs] at h
      rw [halive,hstate]
      exact h
    | some holder =>
      rw [hs] at h
      obtain ⟨slot,hin⟩ := h
      refine ⟨slot,hin.leaves,hin.spawnLast,?_,?_⟩
      · rw [halive]
        exact hin.owned
      · rw [hstate]
        exact hin.known
  | exited child =>
    dsimp only
    cases hs : s.holder with
    | none =>
      rw [hs] at h
      exact h.filter _
    | some holder =>
      rw [hs] at h
      obtain ⟨slot,hin⟩ := h
      exact ⟨slot,hin.leaves,hin.spawnLast,hin.owned.filter _,hin.known⟩
  | locked index answers req hfree hreq =>
    rw [hfree] at h
    obtain ⟨hslot,hlast⟩ := report_slotAfter s.state ⟨req,answers⟩
    exact ⟨s.state.emulator,hslot,hlast,h,Or.inr (Or.inl rfl)⟩
  | acted exchange effect rest after hholder hpossible =>
    rw [hholder] at h
    obtain ⟨slot,hin⟩ := h
    exact inHand_act hin hpossible
  | released exchange after hholder =>
    rw [hholder] at h
    obtain ⟨slot,hin⟩ := h
    have hslot := Option.some.inj hin.leaves
    have howned := hin.owned
    rw [hslot] at howned
    exact howned

/-- In every state the system reaches the processes are in hand. -/
theorem reached_held (events : List Event) (s : System)
    (h : run System.step System.start events=some s) : Held s := by
  refine @run_invariant _ _ System.step Held (fun _ _ => True) ?_ events System.start s
    (List.Sublist.refl []) (fun _ _ => trivial) h
  intro s event next hs _ hstep
  exact held_step hs hstep

/-- In every state the system reaches at most one emulator process is alive. It
is the one in the state while the mutex is free; while a request is handled,
the one that the state had before, or the one that it gets. -/
theorem one_emulator (events : List Event) (s : System)
    (h : run System.step System.start events=some s) :
    s.alive.length ≤ 1 ∧
      (s.holder=none → ∀ child∈s.alive, s.state.emulator=some child) ∧
      ∀ holder, s.holder=some holder → ∀ child∈s.alive,
        s.state.emulator=some child ∨ holder.next.emulator=some child := by
  have hheld := reached_held events s h
  unfold Held at hheld
  cases hs : s.holder with
  | none =>
    rw [hs] at hheld
    refine ⟨hheld.length_le,fun _ child hchild => hheld.slot_eq hchild,?_⟩
    intro holder hholder
    cases hholder
  | some inside =>
    rw [hs] at hheld
    obtain ⟨slot,hin⟩ := hheld
    refine ⟨hin.owned.length_le,?_,?_⟩
    · intro hnone
      cases hnone
    · intro holder hholder child hchild
      obtain rfl := Option.some.inj hholder
      exact hin.child_known hchild

/-- Two clients: one starts a device, the other restarts it. -/
def restartEvents : List Event :=
  [.check,.accept,.check,.accept,.receive ⟨1,"a","device.start",.obj []⟩,
    .receive ⟨1,"b","device.restart",.obj []⟩,.lock 0 (deviceAnswers .alive (.ok ⟨7⟩)),.act,.release,
    .lock 0 (deviceAnswers .alive (.ok ⟨8⟩)),.act,.act,.release]

/-- After both requests the second process is the only one that is alive. -/
theorem one_emulator_restarted :
    ∃ s, run System.step System.start restartEvents=some s ∧ s.alive=[⟨8⟩] ∧
      s.alive.length ≤ 1 ∧ ∀ child∈s.alive, s.state.emulator=some child := by
  refine ⟨_,rfl,rfl,?_⟩
  have h := one_emulator restartEvents _ rfl
  exact ⟨h.1,h.2.1 rfl⟩

end LiteDroid.DaemonSystem
