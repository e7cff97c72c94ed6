import Mathlib.Logic.Function.Basic
import Mathlib.Data.List.Nodup
import LiteDroid.StepRun

/-!
# Daemons that share a socket path and a process file

Every daemon writes the same process file and binds the same socket path, and
clears the path before. Nothing keeps a second daemon from starting while the
first one runs: it takes the path over, and no client reaches the first one
again, which then waits for a connection that cannot come. A daemon that ends
by itself removes both files, also when they belong to another one.
-/

namespace LiteDroid.DaemonProcesses

open StepRun

/-- Where the main thread of a daemon is. -/
inductive Phase where
  /-- There is no such process yet. -/
  | absent
  /-- Before the process file is written. -/
  | starting
  /-- Before the signal handlers are set. -/
  | recorded
  /-- Before the flag of the accept loop is set. -/
  | handling
  /-- Before the old socket is removed. -/
  | flagged
  /-- Before the server removes a stale socket. -/
  | swept
  /-- Before the socket is bound. -/
  | sweptAgain
  /-- The socket could not be bound, before the process file is removed. -/
  | unbound
  /-- Before the socket is looked up at the path. -/
  | bound
  /-- Before its mode is set. -/
  | restricting
  /-- Before the flag is read at the top of the accept loop. -/
  | checking
  /-- Waiting for a connection. -/
  | accepting
  /-- Behind the loop, before the socket is removed. -/
  | leaving
  /-- Before the process file is removed. -/
  | cleaning
  /-- The process has ended by itself. -/
  | ended
  /-- The process was killed. -/
  | killed
  deriving DecidableEq, Repr

/-- The process has bound the socket, or has not bound it and never will. -/
def Phase.past : Phase → Bool
  | .bound | .restricting | .checking | .accepting | .leaving | .cleaning | .ended | .killed => true
  | _ => false

/-- The listening socket is open. -/
def Phase.listens : Phase → Bool
  | .bound | .restricting | .checking | .accepting | .leaving | .cleaning => true
  | _ => false

/-- The process may have a socket at the path. -/
def Phase.owns : Phase → Bool
  | .bound | .restricting | .checking | .accepting | .leaving | .killed => true
  | _ => false

/-- The socket of the process has its mode. -/
def Phase.serves : Phase → Bool
  | .checking | .accepting | .leaving => true
  | _ => false

/-- The process may be named by the process file. -/
def Phase.keeps : Phase → Bool
  | .absent | .starting | .ended => false
  | _ => true

/-- A daemon. -/
structure Process where
  /-- Where its main thread is. -/
  phase : Phase
  /-- The flag of the accept loop. -/
  running : Bool
  /-- Connections that wait to be accepted. -/
  backlog : ℕ
  /-- Threads whose request was not handled yet. -/
  threads : ℕ
  deriving DecidableEq, Repr

/-- The same daemon in another phase. -/
def Process.at (process : Process) (phase : Phase) : Process := {process with phase := phase}

/-- A socket in the file system. -/
structure Socket where
  /-- The process that bound it. -/
  owner : ℕ
  /-- Whether only its user may use it. -/
  restricted : Bool
  deriving DecidableEq, Repr

/-- The daemons and what they share. -/
structure World where
  /-- The daemons, by process number. -/
  process : ℕ → Process
  /-- The socket at the path. -/
  socket : Option Socket
  /-- The process number in the process file. -/
  pidFile : Option ℕ
  /-- The processes that have bound the socket, in order. -/
  binds : List ℕ
  /-- The processes that have written the process file, in order. -/
  records : List ℕ

/-- Nothing was started and there are no files. -/
def World.start : World := ⟨fun _ => ⟨.absent,false,0,0⟩,none,none,[],[]⟩

/-- Change a daemon. -/
def World.put (w : World) (p : ℕ) (process : Process) : World :=
  {w with process := Function.update w.process p process}

/-- Move a daemon on. -/
def World.move (w : World) (p : ℕ) (phase : Phase) : World := w.put p ((w.process p).at phase)

/-- What can happen next. -/
inductive Event where
  /-- A daemon is started. -/
  | spawn (p : ℕ)
  /-- A daemon does the next thing, which the host may refuse. -/
  | act (p : ℕ) (refused : Bool)
  /-- A daemon accepts a connection and starts a thread for it. -/
  | accept (p : ℕ)
  /-- The host fails the wait for a connection. -/
  | acceptFailed (p : ℕ)
  /-- A thread is done with its connection, in which it may have handled a shutdown. -/
  | handled (p : ℕ) (shutdown : Bool)
  /-- A daemon gets a signal that asks it to end. -/
  | signal (p : ℕ)
  /-- A daemon is killed. -/
  | kill (p : ℕ)
  /-- A client connects to the path. -/
  | connect

/-- The next thing that a daemon does by itself. -/
def World.act (w : World) (p : ℕ) (refused : Bool) : Option World :=
  match (w.process p).phase with
  | .starting =>
    some (if refused then w.move p .recorded
      else {w.move p .recorded with pidFile := some p, records := w.records++[p]})
  | .recorded => some (w.move p .handling)
  | .handling => some (w.put p {(w.process p).at .flagged with running := true})
  | .flagged =>
    some {w.move p .swept with socket := if refused then w.socket else none}
  | .swept =>
    some {w.move p .sweptAgain with socket := if refused then w.socket else none}
  | .sweptAgain =>
    -- an address that is in use cannot be bound
    some (if refused ∨ w.socket≠none then w.move p .unbound
      else {w.move p .bound with socket := some ⟨p,false⟩, binds := w.binds++[p]})
  | .unbound => some {w.move p .ended with pidFile := if refused then w.pidFile else none}
  | .bound => some (w.move p (if refused ∨ w.socket=none then .checking else .restricting))
  | .restricting =>
    -- the mode is set by the path, whoever has bound it
    some {w.move p .checking with
      socket := if refused then w.socket else w.socket.map fun s => {s with restricted := true}}
  | .checking => some (w.move p (if (w.process p).running then .accepting else .leaving))
  | .leaving => some {w.move p .cleaning with socket := if refused then w.socket else none}
  | .cleaning => some {w.move p .ended with pidFile := if refused then w.pidFile else none}
  | _ => none

/-- A client connects: the connection waits at the process that has bound the
path, if it still listens. -/
def World.connect (w : World) : World :=
  match w.socket with
  | none => w
  | some s =>
    if (w.process s.owner).phase.listens then
      w.put s.owner {w.process s.owner with backlog := (w.process s.owner).backlog+1}
    else w

/-- One event, if it is possible. -/
def World.step (w : World) : Event → Option World
  | .spawn p => if (w.process p).phase=.absent then some (w.move p .starting) else none
  | .act p refused => w.act p refused
  | .accept p =>
    if (w.process p).phase=.accepting ∧ 0 < (w.process p).backlog then
      some (w.put p ⟨.checking,(w.process p).running,(w.process p).backlog-1,
        (w.process p).threads+1⟩)
    else none
  | .acceptFailed p =>
    if (w.process p).phase=.accepting then some (w.move p .checking) else none
  | .handled p shutdown =>
    if (w.process p).phase.listens ∧ 0 < (w.process p).threads then
      some (w.put p {w.process p with
        running := (w.process p).running && !shutdown, threads := (w.process p).threads-1})
    else none
  | .signal p =>
    match (w.process p).phase with
    | .absent | .ended | .killed => none
    | .starting | .recorded => some (w.move p .killed)
    | _ => some (w.put p {w.process p with running := false})
  | .kill p =>
    match (w.process p).phase with
    | .absent | .ended | .killed => none
    | _ => some (w.move p .killed)
  | .connect => some w.connect

/-- The host lets the event happen as it should. -/
def Event.granted : Event → Bool
  | .act _ refused => !refused
  | _ => true

/-- A daemon may go from one phase to another without touching a file: what is
past stays past, and where nothing is refused it keeps what it has and gets
neither a socket nor a mode, unless there is no socket at all. -/
def turns (granted missing : Bool) (before after : Phase) : Bool :=
  (!before.past || after.past) && (!granted || ((!before.keeps || after.keeps) &&
    (!before.owns || after.owns) && (!after.serves || before.serves || missing)))

/-- What a daemon that changes does not do by itself: come back from the dead, go
on without a connection, or get one that was not made to the path. -/
structure Rests (w : World) (event : Event) (p : ℕ) (process : Process) : Prop where
  /-- A daemon that was killed stays so. -/
  killed : (w.process p).phase=.killed → process.phase=.killed
  /-- A daemon that waits for a connection goes on waiting, or it is killed. -/
  waits : (w.process p).phase=.accepting → (w.process p).backlog=0 → event≠.acceptFailed p →
    process.phase=.accepting ∨ process.phase=.killed
  /-- It gets a connection only through its socket at the path. -/
  backlog : process.backlog ≤ (w.process p).backlog ∨ ∃ s, w.socket=some s ∧ s.owner=p

/-- What an event does to one daemon and to the files. -/
inductive Moved (w : World) (event : Event) : World → Prop where
  /-- Nothing. -/
  | same : Moved w event w
  /-- A daemon changes, and no file does. -/
  | turned (p : ℕ) (process : Process)
      (hturn : turns event.granted w.socket.isNone (w.process p).phase process.phase=true)
      (hrests : Rests w event p process) : Moved w event (w.put p process)
  /-- A daemon writes its number. -/
  | recorded (p : ℕ) (hphase : (w.process p).phase=.starting) : Moved w event
      {w.move p .recorded with pidFile := some p, records := w.records++[p]}
  /-- A daemon removes the socket. -/
  | cleared (p : ℕ) (after : Phase)
      (hturn : turns false true (w.process p).phase after=true)
      (hkeeps : after.keeps=true) (hkilled : (w.process p).phase≠.killed)
      (hwaits : (w.process p).phase≠.accepting) :
      Moved w event {w.move p after with socket := none}
  /-- A daemon binds the socket. -/
  | bound (p : ℕ) (hphase : (w.process p).phase=.sweptAgain) : Moved w event
      {w.move p .bound with socket := some ⟨p,false⟩, binds := w.binds++[p]}
  /-- A daemon sets the mode of the socket. -/
  | restricted (p : ℕ) (hphase : (w.process p).phase=.restricting) : Moved w event
      {w.move p .checking with socket := w.socket.map fun s => {s with restricted := true}}
  /-- A daemon removes the process file and ends. -/
  | erased (p : ℕ) (hphase : (w.process p).phase=.unbound ∨ (w.process p).phase=.cleaning) :
      Moved w event {w.move p .ended with pidFile := none}

/-- A daemon may be killed in every phase. -/
theorem turns_killed (granted missing : Bool) (phase : Phase) :
    turns granted missing phase .killed=true := by
  cases granted <;> cases missing <;> cases phase <;> rfl

/-- A daemon that stays in its phase keeps everything. -/
theorem turns_refl (granted missing : Bool) (phase : Phase) :
    turns granted missing phase phase=true := by
  cases granted <;> cases missing <;> cases phase <;> rfl

/-- A daemon that was killed or waits for a connection does nothing by itself. -/
theorem act_phase {w next : World} {p : ℕ} {refused : Bool} (h : w.act p refused=some next) :
    (w.process p).phase≠.killed ∧ (w.process p).phase≠.accepting := by
  constructor <;> intro hphase <;> unfold World.act at h <;> rw [hphase] at h <;> cases h

/-- What a daemon does by itself. -/
theorem act_moved {w next : World} {p : ℕ} {refused : Bool} (h : w.act p refused=some next) :
    Moved w (.act p refused) next := by
  obtain ⟨hkilled,hwaits⟩ := act_phase h
  have turn (process : Process) (missing : Bool) (hmissing : w.socket.isNone=missing)
      (hturn : turns (!refused) missing (w.process p).phase process.phase=true)
      (hbacklog : process.backlog=(w.process p).backlog) :
      Moved w (.act p refused) (w.put p process) := by
    refine .turned p process (by rw [hmissing]; exact hturn) ⟨?_,?_,Or.inl (Nat.le_of_eq hbacklog)⟩
    · exact fun hphase => absurd hphase hkilled
    · exact fun hphase => absurd hphase hwaits
  unfold World.act at h
  split at h
  · rename_i hphase
    obtain rfl := Option.some.inj h
    cases refused with
    | true => exact turn _ _ rfl (by rw [hphase]; rfl) rfl
    | false => exact .recorded p hphase
  · rename_i hphase
    obtain rfl := Option.some.inj h
    exact turn _ _ rfl (by rw [hphase]; cases refused <;> rfl) rfl
  · rename_i hphase
    obtain rfl := Option.some.inj h
    exact turn _ _ rfl (by rw [hphase]; cases refused <;> rfl) rfl
  · rename_i hphase
    obtain rfl := Option.some.inj h
    cases refused with
    | true => exact turn _ _ rfl (by rw [hphase]; rfl) rfl
    | false => exact .cleared p .swept (by rw [hphase]; rfl) rfl hkilled hwaits
  · rename_i hphase
    obtain rfl := Option.some.inj h
    cases refused with
    | true => exact turn _ _ rfl (by rw [hphase]; rfl) rfl
    | false => exact .cleared p .sweptAgain (by rw [hphase]; rfl) rfl hkilled hwaits
  · rename_i hphase
    obtain rfl := Option.some.inj h
    split
    · exact turn _ _ rfl (by rw [hphase]; cases refused <;> rfl) rfl
    · exact .bound p hphase
  · rename_i hphase
    obtain rfl := Option.some.inj h
    cases refused with
    | true => exact turn _ _ rfl (by rw [hphase]; rfl) rfl
    | false => exact .erased p (Or.inl hphase)
  · rename_i hphase
    obtain rfl := Option.some.inj h
    split
    · rename_i hskip
      obtain hrefused | hnone := hskip
      · rw [hrefused] at turn ⊢
        exact turn _ _ rfl (by rw [hphase]; rfl) rfl
      · exact turn _ true (by rw [hnone]; rfl) (by rw [hphase]; cases refused <;> rfl) rfl
    · exact turn _ _ rfl (by rw [hphase]; cases refused <;> rfl) rfl
  · rename_i hphase
    obtain rfl := Option.some.inj h
    cases refused with
    | true => exact turn _ _ rfl (by rw [hphase]; rfl) rfl
    | false => exact .restricted p hphase
  · rename_i hphase
    obtain rfl := Option.some.inj h
    refine turn _ _ rfl ?_ rfl
    rw [hphase]
    cases refused <;> cases (w.process p).running <;> cases w.socket.isNone <;> rfl
  · rename_i hphase
    obtain rfl := Option.some.inj h
    cases refused with
    | true => exact turn _ _ rfl (by rw [hphase]; rfl) rfl
    | false => exact .cleared p .cleaning (by rw [hphase]; rfl) rfl hkilled hwaits
  · rename_i hphase
    obtain rfl := Option.some.inj h
    cases refused with
    | true => exact turn _ _ rfl (by rw [hphase]; rfl) rfl
    | false => exact .erased p (Or.inr hphase)
  · cases h

/-- What an event does. -/
theorem step_moved {w next : World} {event : Event} (h : w.step event=some next) :
    Moved w event next := by
  cases event with
  | spawn p =>
    obtain ⟨hphase,hnext⟩ := Option.ite_none_right_eq_some.mp h
    obtain rfl := Option.some.inj hnext
    refine .turned p _ (by rw [hphase]; rfl) ⟨?_,?_,Or.inl (Nat.le_refl _)⟩
    · intro hkilled
      cases hphase.symm.trans hkilled
    · intro hwaits
      cases hphase.symm.trans hwaits
  | act p refused => exact act_moved h
  | accept p =>
    obtain ⟨⟨hphase,hpos⟩,hnext⟩ := Option.ite_none_right_eq_some.mp h
    obtain rfl := Option.some.inj hnext
    refine .turned p _ (by rw [hphase]; rfl) ⟨?_,?_,Or.inl (Nat.sub_le _ _)⟩
    · intro hkilled
      cases hphase.symm.trans hkilled
    · intro _ hempty
      omega
  | acceptFailed p =>
    obtain ⟨hphase,hnext⟩ := Option.ite_none_right_eq_some.mp h
    obtain rfl := Option.some.inj hnext
    refine .turned p _ (by rw [hphase]; rfl) ⟨?_,?_,Or.inl (Nat.le_refl _)⟩
    · intro hkilled
      cases hphase.symm.trans hkilled
    · exact fun _ _ hother => absurd rfl hother
  | handled p shutdown =>
    obtain ⟨-,hnext⟩ := Option.ite_none_right_eq_some.mp h
    obtain rfl := Option.some.inj hnext
    exact .turned p _ (turns_refl _ _ _) ⟨id,fun hphase _ _ => Or.inl hphase,
      Or.inl (Nat.le_refl _)⟩
  | signal p =>
    have die : Moved w (.signal p) (w.move p .killed) :=
      .turned p _ (turns_killed _ _ _) ⟨fun _ => rfl,fun _ _ _ => Or.inr rfl,
        Or.inl (Nat.le_refl _)⟩
    unfold World.step at h
    dsimp only at h
    split at h
    · cases h
    · cases h
    · cases h
    · obtain rfl := Option.some.inj h
      exact die
    · obtain rfl := Option.some.inj h
      exact die
    · obtain rfl := Option.some.inj h
      exact .turned p _ (turns_refl _ _ _) ⟨id,fun hphase _ _ => Or.inl hphase,
        Or.inl (Nat.le_refl _)⟩
  | kill p =>
    unfold World.step at h
    dsimp only at h
    split at h
    · cases h
    · cases h
    · cases h
    · obtain rfl := Option.some.inj h
      exact .turned p _ (turns_killed _ _ _) ⟨fun _ => rfl,fun _ _ _ => Or.inr rfl,
        Or.inl (Nat.le_refl _)⟩
  | connect =>
    obtain rfl := Option.some.inj h
    unfold World.connect
    split
    · exact .same
    · rename_i s hs
      split
      · exact .turned s.owner _ (turns_refl _ _ _) ⟨id,fun hphase _ _ => Or.inl hphase,
          Or.inr ⟨s,hs,rfl⟩⟩
      · exact .same

/-- The daemon that was changed. -/
theorem put_self (w : World) (p : ℕ) (process : Process) :
    (w.put p process).process p=process := by
  unfold World.put
  exact Function.update_self _ _ _

/-- A daemon is the one that was changed, or as it was. -/
theorem put_process (w : World) (p q : ℕ) (process : Process) :
    (q=p ∧ (w.put p process).process q=process) ∨
      (q≠p ∧ (w.put p process).process q=w.process q) := by
  by_cases h : q=p
  · subst h
    exact Or.inl ⟨rfl,put_self w q process⟩
  · unfold World.put
    exact Or.inr ⟨h,Function.update_of_ne h _ _⟩

/-- What holds whatever happened. -/
structure Sound (w : World) : Prop where
  /-- The socket at the path is that of the last process that has bound it. -/
  last : ∀ s, w.socket=some s → w.binds.getLast?=some s.owner
  /-- Every process binds the socket at most once. -/
  once : w.binds.Nodup
  /-- A process that has bound the socket will not do so again. -/
  past : ∀ p∈w.binds, (w.process p).phase.past=true
  /-- The process file names the last process that has written it. -/
  recorded : ∀ p, w.pidFile=some p → w.records.getLast?=some p

/-- Without files there is nothing to hold. -/
theorem start_sound : Sound .start where
  last := fun _ h => by cases h
  once := List.nodup_nil
  past := fun _ h => by cases h
  recorded := fun _ h => by cases h

variable {w next : World} {event : Event} {p : ℕ}

/-- What is past stays past. -/
theorem turns_past {granted missing : Bool} {before after : Phase}
    (h : turns granted missing before after=true) (hpast : before.past=true) :
    after.past=true := by
  unfold turns at h
  rw [hpast] at h
  exact (Bool.and_eq_true_iff.mp h).1

/-- A daemon that changes without getting back keeps the processes that have
bound the socket past. -/
theorem Sound.put_past (h : Sound w) {process : Process}
    (hpast : (w.process p).phase.past=true → process.phase.past=true) :
    ∀ q∈w.binds, ((w.put p process).process q).phase.past=true := by
  intro q hq
  obtain ⟨rfl,hsame⟩ | ⟨-,hsame⟩ := put_process w p q process
  · rw [hsame]
    exact hpast (h.past q hq)
  · rw [hsame]
    exact h.past q hq

/-- Every event keeps the world sound. -/
theorem sound_step (h : Sound w) (hstep : w.step event=some next) : Sound next := by
  cases step_moved hstep with
  | same => exact h
  | turned p process hturn hrests =>
    exact ⟨h.last,h.once,h.put_past (turns_past hturn),h.recorded⟩
  | recorded p hphase =>
    refine ⟨h.last,h.once,h.put_past (by rw [hphase]; exact fun hno => by cases hno),?_⟩
    intro q hq
    obtain rfl := Option.some.inj hq
    exact List.getLast?_concat
  | cleared p after hturn hkeeps hkilled hwaits =>
    exact ⟨fun s hs => (by cases hs),h.once,h.put_past (turns_past hturn),h.recorded⟩
  | bound p hphase =>
    have hnew : p∉w.binds := by
      intro hold
      have hpast := h.past p hold
      rw [hphase] at hpast
      cases hpast
    refine ⟨?_,?_,?_,h.recorded⟩
    · intro s hs
      obtain rfl := Option.some.inj hs
      exact List.getLast?_concat
    · exact List.nodup_append.mpr ⟨h.once,List.nodup_singleton p,by grind⟩
    · intro q hq
      obtain hold | hnow := List.mem_append.mp hq
      · exact h.put_past (fun _ => rfl) q hold
      · obtain rfl := List.mem_singleton.mp hnow
        exact congrArg (fun process : Process => process.phase.past)
          (put_self w q ((w.process q).at .bound))
  | restricted p hphase =>
    refine ⟨?_,h.once,h.put_past (fun _ => rfl),h.recorded⟩
    intro s hs
    obtain ⟨old,hold,rfl⟩ := Option.map_eq_some_iff.mp hs
    exact h.last old hold
  | erased p hphase => exact ⟨h.last,h.once,h.put_past (fun _ => rfl),fun q hq => by cases hq⟩

/-- A daemon that has bound the socket and whose socket is not at the path. -/
def Cut (w : World) (p : ℕ) : Prop := p∈w.binds ∧ ∀ s, w.socket=some s → s.owner≠p

/-- A daemon that waits for a connection that is not there, or was killed. -/
def Stuck (w : World) (p : ℕ) : Prop :=
  (w.process p).phase=.killed ∨
    ((w.process p).phase=.accepting ∧ (w.process p).backlog=0)

/-- A run keeps the world sound. -/
theorem run_sound (events : List Event) {first last : World} (h : Sound first)
    (hrun : run World.step first events=some last) : Sound last :=
  @run_invariant _ _ World.step Sound (fun _ _ => True)
    (fun _ _ _ hs _ hstep => sound_step hs hstep) events first last h (fun _ _ => trivial) hrun

end LiteDroid.DaemonProcesses
