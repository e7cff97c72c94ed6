import LiteDroid.AdbConnection
import LiteDroid.StepRun

/-!
# The accept loop of the debug bridge

A server owns a listening socket. Starting it hands the socket to a thread that
takes connections one at a time and serves each of them to its end before it
takes the next one. Stopping it clears a flag that the thread reads at the top
of its loop, and then connects to the own port, because the thread may be
waiting for a connection. Clients connect at any time, and the host may fail a
wait. A connection is the bytes its peer sends.
-/

namespace LiteDroid.AdbServer

open CoreResults AdbConnection StepRun

/-- The error value of the server. -/
inductive ServerError where
  /-- The port cannot be bound, or the server was started before. -/
  | adbConnectionFailed (message : String)
  deriving DecidableEq

/-- Where the thread is. -/
inductive Thread where
  /-- There is none yet. -/
  | absent
  /-- Before the flag is read at the top of the loop. -/
  | checking
  /-- Waiting for a connection. -/
  | accepting
  /-- Serving a connection. -/
  | handling (input : List UInt8)
  /-- Before the flag is read behind a failed wait. -/
  | failed
  /-- Sleeping behind a failed wait. -/
  | sleeping
  /-- The loop was left, and the socket is closed. -/
  | ended
  /-- A panic ended the thread, and the socket is closed. -/
  | panicked

/-- A server with its thread, its connections and what happened so far. -/
structure Server where
  /-- Whether the socket was not handed to a thread yet. -/
  listener : Bool
  /-- The flag. -/
  running : Bool
  /-- Where the thread is. -/
  thread : Thread
  /-- Connections that wait to be taken, the oldest one first. -/
  backlog : List (List UInt8)
  /-- Calls that stop the server and have yet to connect. -/
  waking : ℕ
  /-- All connections that arrived, in order. -/
  arrived : List (List UInt8)
  /-- Those that were taken, in order. -/
  accepted : List (List UInt8)
  /-- Those that were served to their end, with what happened in them. -/
  served : List (List UInt8×ClientReport)
  /-- Whether a call that stops the server has connected. -/
  woken : Bool

/-- A server on a bound port. -/
def Server.bound : Server := ⟨true,false,.absent,[],0,[],[],[],false⟩

/-- Bind to a port; the host answers whether it can be bound. -/
def Server.new (port : UInt16) (answer : Except String Unit) : Except ServerError Server :=
  match answer with
  | .ok () => .ok .bound
  | .error e => .error (.adbConnectionFailed s!"bind port {port}: {e}")

/-- Hand the socket to a thread. -/
def Server.start (server : Server) : Except ServerError Unit×Server :=
  if server.listener=true then
    (.ok (),{server with listener := false, running := true, thread := .checking, woken := false})
  else (.error (.adbConnectionFailed "already started"),server)

/-- Whether the server was started and not stopped since. -/
def Server.isRunning (server : Server) : Bool := server.running

/-- The socket is open as long as the server or its thread holds it. -/
def Server.open (server : Server) : Bool :=
  match server.thread with
  | .absent => server.listener
  | .ended => false
  | .panicked => false
  | _ => true

/-- A connection arrives. -/
def Server.connect (server : Server) (input : List UInt8) : Server :=
  {server with backlog := server.backlog++[input], arrived := server.arrived++[input]}

/-- What can happen next. -/
inductive Event where
  /-- The server is started. -/
  | start
  /-- A call that stops the server clears the flag. -/
  | stop
  /-- It connects to the own port and closes the connection, if it gets one. -/
  | wake (connected : Bool)
  /-- A client connects, and will send some bytes. -/
  | arrive (input : List UInt8)
  /-- The thread reads the flag. -/
  | check
  /-- The thread takes a connection. -/
  | accept
  /-- The host fails the wait of the thread. -/
  | acceptFailed
  /-- The thread wakes up. -/
  | sleepOver
  /-- The thread has served its connection. -/
  | finish

/-- The thread goes on when the flag is set, and leaves the loop otherwise. -/
def Server.proceed (server : Server) (next : Thread) : Server :=
  {server with thread := if server.running=true then next else .ended}

/-- The server afterwards, if the event is possible. Starting the server excludes
other calls on it. -/
def step (profile : Profile) (server : Server) : Event → Option Server
  | .start => if server.waking=0 then some server.start.2 else none
  | .stop => some {server with running := false, waking := server.waking+1}
  | .wake connected =>
    if server.waking=0 ∨ (connected=true ∧ server.open=false) then none
    else if connected=true then
      some {server.connect [] with waking := server.waking-1, woken := true}
    else some {server with waking := server.waking-1}
  | .arrive input => if server.open=true then some (server.connect input) else none
  | .check =>
    match server.thread with
    | .checking => some (server.proceed .accepting)
    | .failed => some (server.proceed .sleeping)
    | _ => none
  | .accept =>
    match server.thread,server.backlog with
    | .accepting,input::rest => some {server with
        thread := .handling input, backlog := rest, accepted := server.accepted++[input]}
    | _,_ => none
  | .acceptFailed =>
    match server.thread with
    | .accepting => some {server with thread := .failed}
    | _ => none
  | .sleepOver =>
    match server.thread with
    | .sleeping => some {server with thread := .checking}
    | _ => none
  | .finish =>
    match server.thread with
    | .handling input =>
      let report := handleClient profile input
      some {server with
        thread := match report.outcome with
          | .error (.panic _) => .panicked
          | _ => .checking
        served := server.served++[(input,report)]}
    | _ => none

/-- The connection that is being served. -/
def Thread.current : Thread → List (List UInt8)
  | .handling input => [input]
  | _ => []

/-- What holds whatever happened. -/
structure Orderly (profile : Profile) (server : Server) : Prop where
  /-- Connections are taken in the order of their arrival. -/
  arrived : server.arrived=server.accepted++server.backlog
  /-- One connection is served at a time, and each to its end. -/
  accepted : server.accepted=server.served.map Prod.fst++server.thread.current
  /-- Every connection is served as if it were the only one. -/
  served : ∀ entry∈server.served, entry.2=handleClient profile entry.1
  /-- There is no thread as long as the server holds the socket, and only then. -/
  absent : server.listener=true ↔ server.thread=.absent
  /-- The flag is not set before. -/
  idle : server.listener=true → server.running=false
  /-- The flag is cleared before the connection that wakes the thread up. -/
  stopping : server.waking≠0 → server.running=false
  /-- A server that was woken up stays stopped. -/
  woken : server.woken=true → server.listener=false → server.running=false
  /-- A thread that waits for a connection gets one after it was woken up. -/
  awake : server.thread=.accepting → server.woken=true → server.backlog≠[]

variable {profile : Profile} {server next : Server} {event : Event}

/-- A server on a bound port is orderly. -/
theorem bound_orderly (profile : Profile) : Orderly profile .bound where
  arrived := rfl
  accepted := rfl
  served := fun _ hentry => by cases hentry
  absent := ⟨fun _ => rfl,fun _ => rfl⟩
  idle := fun _ => rfl
  stopping := fun _ => rfl
  woken := fun h => by cases h
  awake := fun h => by cases h

/-- A connection that arrives keeps the order. -/
theorem Orderly.connect (h : Orderly profile server) (input : List UInt8) :
    Orderly profile (server.connect input) where
  arrived := by
    change server.arrived++[input]=server.accepted++(server.backlog++[input])
    rw [h.arrived,List.append_assoc]
  accepted := h.accepted
  served := h.served
  absent := h.absent
  idle := h.idle
  stopping := h.stopping
  woken := h.woken
  awake := fun _ _ => List.append_ne_nil_of_right_ne_nil _ (List.cons_ne_nil _ _)

/-- A thread that moves without a connection keeps the order. -/
theorem Orderly.move (h : Orderly profile server) {thread : Thread}
    (hcurrent : thread.current=server.thread.current) (hbefore : server.thread≠.absent)
    (hafter : thread≠.absent) (hawake : thread=.accepting → server.running=true) :
    Orderly profile {server with thread := thread} where
  arrived := h.arrived
  accepted := by
    change server.accepted=server.served.map Prod.fst++thread.current
    rw [hcurrent]
    exact h.accepted
  served := h.served
  absent := ⟨fun hl => absurd (h.absent.mp hl) hbefore,fun ht => absurd ht hafter⟩
  idle := h.idle
  stopping := h.stopping
  woken := h.woken
  awake := by
    intro haccepting hwoken
    have hlistener : server.listener=false :=
      Bool.eq_false_iff.mpr fun hl => hbefore (h.absent.mp hl)
    have hrunning := hawake haccepting
    rw [h.woken hwoken hlistener] at hrunning
    cases hrunning

/-- Starting a server keeps the order. -/
theorem Orderly.start (h : Orderly profile server) (hwaking : server.waking=0) :
    Orderly profile server.start.2 := by
  rw [Server.start]
  split
  · rename_i hlistener
    have haccepted := h.accepted
    rw [h.absent.mp hlistener] at haccepted
    exact {
      arrived := h.arrived
      accepted := haccepted
      served := h.served
      absent := ⟨fun hl => (by cases hl),fun ht => (by cases ht)⟩
      idle := fun hl => by cases hl
      stopping := fun hw => absurd hwaking hw
      woken := fun hw => by cases hw
      awake := fun ht => by cases ht }
  · exact h

/-- A thread that takes a connection keeps the order. -/
theorem Orderly.accept (h : Orderly profile server) (hthread : server.thread=.accepting)
    {input : List UInt8} {rest : List (List UInt8)} (hbacklog : server.backlog=input::rest) :
    Orderly profile {server with
      thread := .handling input, backlog := rest, accepted := server.accepted++[input]} where
  arrived := by
    change server.arrived=server.accepted++[input]++rest
    rw [h.arrived,hbacklog,List.append_assoc]
    rfl
  accepted := by
    change server.accepted++[input]=server.served.map Prod.fst++[input]
    have haccepted := h.accepted
    rw [hthread] at haccepted
    have hnone : Thread.accepting.current=[] := rfl
    rw [haccepted,hnone,List.append_nil]
  served := h.served
  absent := by
    refine ⟨fun hl => ?_,fun ht => (by cases ht)⟩
    have hnone := h.absent.mp hl
    rw [hthread] at hnone
    cases hnone
  idle := h.idle
  stopping := h.stopping
  woken := h.woken
  awake := fun ht => by cases ht

/-- A thread that has served its connection keeps the order. -/
theorem Orderly.finish (h : Orderly profile server) {input : List UInt8}
    (hthread : server.thread=.handling input) {thread : Thread} (hcurrent : thread.current=[])
    (hpresent : thread≠.absent) (haccepting : thread≠.accepting) :
    Orderly profile {server with
      thread := thread, served := server.served++[(input,handleClient profile input)]} where
  arrived := h.arrived
  accepted := by
    have haccepted := h.accepted
    rw [hthread] at haccepted
    change server.accepted=(server.served++[(input,handleClient profile input)]).map Prod.fst++
      thread.current
    rw [hcurrent,List.append_nil,List.map_append,haccepted]
    rfl
  served := by
    intro entry hentry
    rcases List.mem_append.mp hentry with hentry | hentry
    · exact h.served entry hentry
    · rw [List.mem_singleton.mp hentry]
  absent := by
    refine ⟨fun hl => ?_,fun ht => absurd ht hpresent⟩
    have hnone := h.absent.mp hl
    rw [hthread] at hnone
    cases hnone
  idle := h.idle
  stopping := h.stopping
  woken := h.woken
  awake := fun ht => absurd ht haccepting

/-- Every event keeps the order. -/
theorem Orderly.step (h : Orderly profile server) (hstep : step profile server event=some next) :
    Orderly profile next := by
  cases event with
  | start =>
    rw [AdbServer.step] at hstep
    split at hstep
    · rename_i hwaking
      obtain rfl := Option.some.inj hstep
      exact h.start hwaking
    · cases hstep
  | stop =>
    obtain rfl := Option.some.inj hstep
    exact { h with
      idle := fun _ => rfl
      stopping := fun _ => rfl
      woken := fun _ _ => rfl }
  | wake connected =>
    rw [AdbServer.step] at hstep
    split at hstep
    · cases hstep
    · rename_i hpossible
      have hrunning := h.stopping fun hwaking => hpossible (.inl hwaking)
      split at hstep
      · obtain rfl := Option.some.inj hstep
        exact { h.connect [] with
          stopping := fun _ => hrunning
          woken := fun _ _ => hrunning
          awake := fun _ _ => List.append_ne_nil_of_right_ne_nil _ (List.cons_ne_nil _ _) }
      · obtain rfl := Option.some.inj hstep
        exact { h with stopping := fun _ => hrunning }
  | arrive input =>
    rw [AdbServer.step] at hstep
    split at hstep
    · obtain rfl := Option.some.inj hstep
      exact h.connect input
    · cases hstep
  | check =>
    rw [AdbServer.step] at hstep
    split at hstep
    · rename_i hthread
      obtain rfl := Option.some.inj hstep
      rw [Server.proceed]
      split
      · rename_i hrunning
        exact h.move (by rw [hthread]; rfl) (by rw [hthread]; nofun) (by nofun) fun _ => hrunning
      · exact h.move (by rw [hthread]; rfl) (by rw [hthread]; nofun) (by nofun) (by nofun)
    · rename_i hthread
      obtain rfl := Option.some.inj hstep
      rw [Server.proceed]
      split
      · exact h.move (by rw [hthread]; rfl) (by rw [hthread]; nofun) (by nofun) (by nofun)
      · exact h.move (by rw [hthread]; rfl) (by rw [hthread]; nofun) (by nofun) (by nofun)
    · cases hstep
  | accept =>
    rw [AdbServer.step] at hstep
    split at hstep
    · rename_i input rest hthread hbacklog
      obtain rfl := Option.some.inj hstep
      exact h.accept hthread hbacklog
    · cases hstep
  | acceptFailed =>
    rw [AdbServer.step] at hstep
    split at hstep
    · rename_i hthread
      obtain rfl := Option.some.inj hstep
      exact h.move (by rw [hthread]; rfl) (by rw [hthread]; nofun) (by nofun) (by nofun)
    · cases hstep
  | sleepOver =>
    rw [AdbServer.step] at hstep
    split at hstep
    · rename_i hthread
      obtain rfl := Option.some.inj hstep
      exact h.move (by rw [hthread]; rfl) (by rw [hthread]; nofun) (by nofun) (by nofun)
    · cases hstep
  | finish =>
    rw [AdbServer.step] at hstep
    split at hstep
    · rename_i input hthread
      obtain rfl := Option.some.inj hstep
      split
      · exact h.finish hthread rfl (by nofun) (by nofun)
      · exact h.finish hthread rfl (by nofun) (by nofun)
    · cases hstep

/-- Every reachable server is orderly. -/
theorem reachable_orderly {events : List Event}
    (h : run (step profile) .bound events=some server) : Orderly profile server :=
  @run_invariant _ _ (step profile) (Orderly profile) (fun _ _ => True)
    (fun _ _ _ hinv _ hstep => hinv.step hstep) events _ _ (bound_orderly profile)
    (fun _ _ => trivial) h

/-- The events that are steps of the thread. -/
def Event.own : Event → Bool
  | .check => true
  | .accept => true
  | .acceptFailed => true
  | .sleepOver => true
  | .finish => true
  | _ => false

/-- How many steps the thread of a stopped server may still do. -/
def Thread.remaining : Thread → ℕ
  | .absent => 0
  | .checking => 1
  | .accepting => 3
  | .handling _ => 2
  | .failed => 1
  | .sleeping => 2
  | .ended => 0
  | .panicked => 0

/-- How many connections it may still take. -/
def Thread.takes : Thread → ℕ
  | .accepting => 1
  | _ => 0

/-- A server that was started and then stopped. -/
def Server.Stopped (server : Server) : Prop := server.listener=false ∧ server.running=false

/-- A stopped server stays stopped. A step of its thread brings the thread nearer
to its end, and no other event moves it. -/
theorem Server.Stopped.step (h : server.Stopped) (hstep : step profile server event=some next) :
    next.Stopped ∧
      next.thread.remaining+(if event.own=true then 1 else 0) ≤ server.thread.remaining ∧
      next.accepted.length+next.thread.takes ≤ server.accepted.length+server.thread.takes := by
  obtain ⟨hlistener,hrunning⟩ := h
  cases event with
  | start =>
    rw [AdbServer.step] at hstep
    split at hstep
    · obtain rfl := Option.some.inj hstep
      rw [Server.start,hlistener,if_neg Bool.false_ne_true]
      exact ⟨⟨hlistener,hrunning⟩,Nat.le_refl _,Nat.le_refl _⟩
    · cases hstep
  | stop =>
    obtain rfl := Option.some.inj hstep
    exact ⟨⟨hlistener,rfl⟩,Nat.le_refl _,Nat.le_refl _⟩
  | wake connected =>
    rw [AdbServer.step] at hstep
    split at hstep
    · cases hstep
    · split at hstep
      · obtain rfl := Option.some.inj hstep
        exact ⟨⟨hlistener,hrunning⟩,Nat.le_refl _,Nat.le_refl _⟩
      · obtain rfl := Option.some.inj hstep
        exact ⟨⟨hlistener,hrunning⟩,Nat.le_refl _,Nat.le_refl _⟩
  | arrive input =>
    rw [AdbServer.step] at hstep
    split at hstep
    · obtain rfl := Option.some.inj hstep
      exact ⟨⟨hlistener,hrunning⟩,Nat.le_refl _,Nat.le_refl _⟩
    · cases hstep
  | check =>
    rw [AdbServer.step] at hstep
    split at hstep
    · rename_i hthread
      obtain rfl := Option.some.inj hstep
      rw [Server.proceed,hrunning,if_neg Bool.false_ne_true,hthread]
      exact ⟨⟨hlistener,rfl⟩,Nat.le_refl _,Nat.le_refl _⟩
    · rename_i hthread
      obtain rfl := Option.some.inj hstep
      rw [Server.proceed,hrunning,if_neg Bool.false_ne_true,hthread]
      exact ⟨⟨hlistener,rfl⟩,Nat.le_refl _,Nat.le_refl _⟩
    · cases hstep
  | accept =>
    rw [AdbServer.step] at hstep
    split at hstep
    · rename_i input rest hthread hbacklog
      obtain rfl := Option.some.inj hstep
      rw [hthread,List.length_append]
      exact ⟨⟨hlistener,hrunning⟩,Nat.le_refl _,Nat.le_refl _⟩
    · cases hstep
  | acceptFailed =>
    rw [AdbServer.step] at hstep
    split at hstep
    · rename_i hthread
      obtain rfl := Option.some.inj hstep
      rw [hthread]
      exact ⟨⟨hlistener,hrunning⟩,Nat.le_succ 2,Nat.le_succ _⟩
    · cases hstep
  | sleepOver =>
    rw [AdbServer.step] at hstep
    split at hstep
    · rename_i hthread
      obtain rfl := Option.some.inj hstep
      rw [hthread]
      exact ⟨⟨hlistener,hrunning⟩,Nat.le_refl _,Nat.le_refl _⟩
    · cases hstep
  | finish =>
    rw [AdbServer.step] at hstep
    split at hstep
    · rename_i input hthread
      obtain rfl := Option.some.inj hstep
      rw [hthread]
      refine ⟨⟨hlistener,hrunning⟩,?_⟩
      dsimp only
      split
      · exact ⟨Nat.le_succ 1,Nat.le_refl _⟩
      · exact ⟨Nat.le_refl 2,Nat.le_refl _⟩
    · cases hstep

/-- Whatever happens to a stopped server, its thread does a few more steps at
most, and takes one more connection only if it waits for one. -/
theorem Server.Stopped.run : ∀ (events : List Event) {server last : Server}, server.Stopped →
    run (AdbServer.step profile) server events=some last →
      last.Stopped ∧ last.thread.remaining+events.countP Event.own ≤ server.thread.remaining ∧
        last.accepted.length+last.thread.takes ≤ server.accepted.length+server.thread.takes := by
  intro events
  induction events with
  | nil =>
    intro server last h hrun
    obtain rfl := Option.some.inj hrun
    exact ⟨h,Nat.le_refl _,Nat.le_refl _⟩
  | cons event rest ih =>
    intro server last h hrun
    obtain ⟨next,hstep,hrest⟩ := run_cons_iff.mp hrun
    obtain ⟨hstopped,hremaining,haccepted⟩ := h.step hstep
    obtain ⟨hlast,hfewer,hmost⟩ := ih hstopped hrest
    rw [List.countP_cons]
    exact ⟨hlast,by omega,Nat.le_trans hmost haccepted⟩

/-- The thread of a server that was stopped and woken up can always go on until it ends. -/
theorem Orderly.goes_on (h : Orderly profile server) (hwoken : server.woken=true)
    (hthread : 0 < server.thread.remaining) : ∃ event, event.own=true ∧ (AdbServer.step profile server event).isSome=true := by
  cases hat : server.thread with
  | absent =>
    rw [hat] at hthread
    cases hthread
  | checking => exact ⟨.check,rfl,by rw [AdbServer.step,hat]; rfl⟩
  | accepting =>
    cases hbacklog : server.backlog with
    | nil => exact absurd hbacklog (h.awake hat hwoken)
    | cons input rest => exact ⟨.accept,rfl,by rw [AdbServer.step,hat,hbacklog]; rfl⟩
  | handling input => exact ⟨.finish,rfl,by rw [AdbServer.step,hat]; rfl⟩
  | failed => exact ⟨.check,rfl,by rw [AdbServer.step,hat]; rfl⟩
  | sleeping => exact ⟨.sleepOver,rfl,by rw [AdbServer.step,hat]; rfl⟩
  | ended =>
    rw [hat] at hthread
    cases hthread
  | panicked =>
    rw [hat] at hthread
    cases hthread

/-- The server was started, and no call stopped it since. -/
def StartedNotStopped (events : List Event) : Prop :=
  ∃ before after, events=before++.start::after ∧ .start∉before ∧ .stop∉after

/-- What an event does to the socket and to the flag. -/
theorem step_flags (hstep : step profile server event=some next) :
    match event with
    | .start => next.listener=false ∧ (next.running=true ↔
        server.listener=true ∨ server.running=true)
    | .stop => next.listener=server.listener ∧ next.running=false
    | _ => next.listener=server.listener ∧ next.running=server.running := by
  cases event with
  | start =>
    rw [step] at hstep
    split at hstep
    · obtain rfl := Option.some.inj hstep
      change server.start.2.listener=false ∧ (server.start.2.running=true ↔ _)
      rw [Server.start]
      split
      · rename_i hlistener
        exact ⟨rfl,fun _ => .inl hlistener,fun _ => rfl⟩
      · rename_i hlistener
        exact ⟨Bool.eq_false_iff.mpr hlistener,.inr,fun h => h.resolve_left hlistener⟩
    · cases hstep
  | stop =>
    obtain rfl := Option.some.inj hstep
    exact ⟨rfl,rfl⟩
  | wake connected =>
    rw [step] at hstep
    split at hstep
    · cases hstep
    · split at hstep
      · obtain rfl := Option.some.inj hstep
        exact ⟨rfl,rfl⟩
      · obtain rfl := Option.some.inj hstep
        exact ⟨rfl,rfl⟩
  | arrive input =>
    rw [step] at hstep
    split at hstep
    · obtain rfl := Option.some.inj hstep
      exact ⟨rfl,rfl⟩
    · cases hstep
  | check =>
    rw [step] at hstep
    split at hstep
    · obtain rfl := Option.some.inj hstep
      exact ⟨rfl,rfl⟩
    · obtain rfl := Option.some.inj hstep
      exact ⟨rfl,rfl⟩
    · cases hstep
  | accept =>
    rw [step] at hstep
    split at hstep
    · obtain rfl := Option.some.inj hstep
      exact ⟨rfl,rfl⟩
    · cases hstep
  | acceptFailed =>
    rw [step] at hstep
    split at hstep
    · obtain rfl := Option.some.inj hstep
      exact ⟨rfl,rfl⟩
    · cases hstep
  | sleepOver =>
    rw [step] at hstep
    split at hstep
    · obtain rfl := Option.some.inj hstep
      exact ⟨rfl,rfl⟩
    · cases hstep
  | finish =>
    rw [step] at hstep
    split at hstep
    · obtain rfl := Option.some.inj hstep
      exact ⟨rfl,rfl⟩
    · cases hstep

/-- One more event behind others, seen from the calls that start and stop the server. -/
theorem startedNotStopped_snoc (events : List Event) (event : Event) :
    StartedNotStopped (events++[event]) ↔
      match event with
      | .start => .start∉events ∨ StartedNotStopped events
      | .stop => False
      | _ => StartedNotStopped events := by
  -- What stands behind the first start, in front of the last event.
  have hback : ∀ {before after}, events++[event]=before++.start::after →
      (after=[] ∧ events=before ∧ event=.start) ∨
        ∃ front, after=front++[event] ∧ events=before++.start::front := by
    intro before after hsplit
    rcases List.eq_nil_or_concat after with rfl | ⟨front,last,rfl⟩
    · obtain ⟨hfront,hlast⟩ := List.append_inj' hsplit rfl
      exact .inl ⟨rfl,hfront,List.singleton_inj.mp hlast⟩
    · have hassoc : before++.start::(front++[last])=(before++.start::front)++[last] := by
        rw [List.append_assoc,List.cons_append]
      rw [List.concat_eq_append,hassoc] at hsplit
      obtain ⟨hfront,hlast⟩ := List.append_inj' hsplit rfl
      rw [List.singleton_inj.mp hlast]
      exact .inr ⟨front,List.concat_eq_append,hfront⟩
  have hkept : event≠.stop → StartedNotStopped events → StartedNotStopped (events++[event]) := by
    rintro hstop ⟨before,after,rfl,hbefore,hafter⟩
    refine ⟨before,after++[event],by rw [List.append_assoc,List.cons_append],hbefore,?_⟩
    rw [List.mem_append,List.mem_singleton]
    exact fun h => h.elim hafter fun h => hstop h.symm
  have hlost : StartedNotStopped (events++[event]) →
      (event=.start ∧ .start∉events) ∨ (event≠.stop ∧ StartedNotStopped events) := by
    rintro ⟨before,after,hsplit,hbefore,hafter⟩
    rcases hback hsplit with ⟨-,rfl,rfl⟩ | ⟨front,rfl,rfl⟩
    · exact .inl ⟨rfl,hbefore⟩
    · rw [List.mem_append,not_or,List.mem_singleton] at hafter
      exact .inr ⟨fun h => hafter.2 h.symm,before,front,rfl,hbefore,hafter.1⟩
  cases event with
  | start =>
    refine ⟨fun h => (hlost h).imp And.right And.right,fun h => ?_⟩
    rcases h with h | h
    · exact ⟨events,[],rfl,h,List.not_mem_nil⟩
    · exact hkept (by nofun) h
  | stop => exact ⟨fun h => (hlost h).elim (fun h => by cases h.1) fun h => h.1 rfl,False.elim⟩
  | _ => exact ⟨fun h => (hlost h).elim (fun h => by cases h.1) And.right,hkept (by nofun)⟩

/-- The server holds the socket until it is started, and the flag says whether it
was started and not stopped since. -/
theorem flag_history (events : List Event) : ∀ {server : Server},
    run (step profile) .bound events=some server →
      (server.listener=true ↔ .start∉events) ∧
        (server.running=true ↔ StartedNotStopped events) := by
  induction events using List.reverseRecOn with
  | nil =>
    intro server hrun
    obtain rfl := Option.some.inj hrun
    refine ⟨⟨fun _ => List.not_mem_nil,fun _ => rfl⟩,fun h => (by cases h),?_⟩
    rintro ⟨before,after,hsplit,-⟩
    cases before <;> cases hsplit
  | append_singleton events event ih =>
    intro last hrun
    rw [run_append] at hrun
    obtain ⟨server,hserver,hlast⟩ := Option.bind_eq_some_iff.mp hrun
    obtain ⟨next,hstep,hnext⟩ := run_cons_iff.mp hlast
    obtain rfl := Option.some.inj hnext
    obtain ⟨hlistener,hrunning⟩ := ih hserver
    have hflags := step_flags hstep
    rw [startedNotStopped_snoc,List.mem_append,not_or,List.mem_singleton]
    cases event with
    | start =>
      refine ⟨⟨fun h => ?_,fun h => absurd rfl h.2⟩,?_⟩
      · rw [hflags.1] at h
        cases h
      · rw [hflags.2,hlistener,hrunning]
    | stop =>
      rw [hflags.1,hflags.2,hlistener]
      exact ⟨⟨fun h => ⟨h,by nofun⟩,And.left⟩,fun h => (by cases h),False.elim⟩
    | _ =>
      rw [hflags.1,hflags.2,hlistener,hrunning]
      exact ⟨⟨fun h => ⟨h,by nofun⟩,And.left⟩,Iff.rfl⟩

/-- In whatever order clients connect, the thread moves, waits fail and calls
start and stop the server: connections are served one at a time in the order of
their arrival, each as if it were the only one; only the first start succeeds;
and the flag says whether the server was started and not stopped since. A server
that was stopped takes no further connection, or one if its thread waits for it,
and stays stopped; its thread does three more steps at most, and once it was
woken up it never waits in vain. -/
theorem server_orderly {events : List Event}
    (h : run (step profile) .bound events=some server) :
    Orderly profile server ∧
      (server.start.1=.ok () ↔ .start∉events) ∧
      (server.isRunning=true ↔ StartedNotStopped events) ∧
      (server.Stopped →
        (∀ more last, run (step profile) server more=some last →
          last.Stopped ∧ more.countP Event.own ≤ server.thread.remaining ∧
            last.accepted.length ≤ server.accepted.length+server.thread.takes) ∧
        (server.woken=true → 0 < server.thread.remaining →
          ∃ event, event.own=true ∧ (step profile server event).isSome=true)) := by
  have horderly := reachable_orderly h
  obtain ⟨hlistener,hrunning⟩ := flag_history events h
  refine ⟨horderly,?_,hrunning,fun hstopped => ⟨fun more last hmore => ?_,horderly.goes_on⟩⟩
  · rw [← hlistener,Server.start]
    split
    · rename_i hheld
      exact ⟨fun _ => hheld,fun _ => rfl⟩
    · rename_i hgiven
      exact ⟨fun h => (by cases h),fun h => absurd h hgiven⟩
  · obtain ⟨hlast,hsteps,htaken⟩ := hstopped.run more hmore
    exact ⟨hlast,by omega,by omega⟩

/-- A server that was stopped while its thread waits and a client has just connected. -/
def stoppedServer : Server :=
  ⟨false,false,.accepting,[[67],[]],0,[[67],[]],[],[],true⟩

/-- It is woken up, and takes the client before the connection that wakes it up. -/
theorem server_orderly_sample :
    run (step .release) .bound [.start,.check,.stop,.arrive [67],.wake true]=some stoppedServer ∧
      (∃ event, event.own=true ∧ (step .release stoppedServer event).isSome=true) ∧
      ∀ more last, run (step .release) stoppedServer more=some last →
        last.Stopped ∧ more.countP Event.own ≤ 3 ∧ last.accepted.length ≤ 1 := by
  have hrun : run (step .release) .bound [.start,.check,.stop,.arrive [67],.wake true]=
      some stoppedServer := rfl
  obtain ⟨hmore,hwoken⟩ := (server_orderly hrun).2.2.2 ⟨rfl,rfl⟩
  exact ⟨hrun,hwoken rfl (by decide),hmore⟩

end LiteDroid.AdbServer
