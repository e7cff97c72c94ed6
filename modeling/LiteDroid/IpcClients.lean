import LiteDroid.IpcCalls
import LiteDroid.Linearization

/-!
# Many clients of one daemon

Every client connects, makes one call and is done, as the command line and the
control panel do. Requests travel, wait, are handled under the daemon's mutex
and are answered in any order; clients give up and connections break. What the
clients see is a daemon that handles requests at once, one after another.
-/

namespace LiteDroid.IpcClients

open IpcMessages IpcFrames FrameStream DaemonDispatch DaemonAdbGate IpcCalls StepRun Linearization

/-- A client's request and its connection. -/
structure Connection where
  /-- The request. -/
  req : IpcRequest
  /-- The connection. -/
  link : Link

/-- The daemon and its clients. -/
structure Net where
  /-- The state behind the daemon's mutex. -/
  daemon : DaemonState
  /-- The connections, the first one first. -/
  connections : List Connection
  /-- What has happened to the calls, each known by its place among the
  connections. -/
  actions : List (Action ℕ IpcRequest IpcResponse)

/-- The daemon without clients. -/
def Net.start : Net := ⟨DaemonState.initial,[],[]⟩

/-- What can happen next. -/
inductive Event where
  /-- A client connects and writes its request. -/
  | connect (req : IpcRequest)
  /-- A client connects and cannot write all of its request. -/
  | connectFails (req : IpcRequest) (written : ℕ)
  /-- The daemon receives a request. -/
  | receive (id : ℕ)
  /-- The daemon handles a request, with what the host answers. -/
  | handle (id : ℕ) (answers : Answers)
  /-- Some bytes of a response reach the client. -/
  | push (id n : ℕ)
  /-- The daemon closes a connection. -/
  | hangUp (id : ℕ)
  /-- A client reads its answer. -/
  | answer (id : ℕ)
  /-- A client gives up. -/
  | giveUp (id : ℕ)

/-- What a call returned at an event of its connection. -/
def returned (id : ℕ) (before after : Link) : List (Action ℕ IpcRequest IpcResponse) :=
  (after.finished.drop before.finished.length).map fun call => .returned id call.2

/-- A client connects. -/
def Net.connect (serde : Serde) (s : Net) (req : IpcRequest) (event : IpcCalls.Event) :
    Option Net :=
  (Link.start.step serde event).map fun link => {s with
    connections := s.connections++[⟨req,link⟩],
    actions := s.actions++[.invoked s.connections.length req]++
      returned s.connections.length Link.start link}

/-- An event of a connection. -/
def Net.advance (serde : Serde) (s : Net) (id : ℕ) (event : IpcCalls.Event) : Option Net :=
  match s.connections[id]? with
  | none => none
  | some connection =>
    (connection.link.step serde event).map fun link => {s with
      connections := s.connections.set id ⟨connection.req,link⟩,
      actions := s.actions++returned id connection.link link}

/-- The request that the daemon handles on a connection. -/
def Net.handled (s : Net) (id : ℕ) : Option IpcRequest :=
  match s.connections[id]? with
  | none => none
  | some connection =>
    match connection.link.server with
    | .handling req => some req
    | _ => none

/-- The daemon handles a request. -/
def Net.handle (serde : Serde) (s : Net) (id : ℕ) (answers : Answers) : Option Net :=
  match s.handled id with
  | none => none
  | some req =>
    let report := dispatch answers req s.daemon
    (s.advance serde id (.handle s.daemon answers)).map fun next => {next with
      daemon := report.state, actions := next.actions++[.performed id req report.response]}

/-- One event. -/
def Net.step (serde : Serde) (s : Net) : Event → Option Net
  | .connect req => s.connect serde req (.call req)
  | .connectFails req written => s.connect serde req (.callFails req written)
  | .receive id => s.advance serde id .receive
  | .handle id answers => s.handle serde id answers
  | .push id n => s.advance serde id (.push n)
  | .hangUp id => s.advance serde id .hangUp
  | .answer id => s.advance serde id .answer
  | .giveUp id => s.advance serde id .giveUp

/-- The daemon handles a request, with whatever the host answers. -/
def Dispatched (state : DaemonState) (req : IpcRequest) (response : IpcResponse)
    (next : DaemonState) : Prop :=
  ∃ answers, response=(dispatch answers req state).response ∧
    next=(dispatch answers req state).state

/-- A request is decoded as it was encoded, if at all. -/
def RequestKept (serde : Serde) (req : IpcRequest) : Prop :=
  ∀ got, serde.decodeRequest (serde.encodeRequest req)=some got → got=req

/-- A response is decoded as it was encoded, if at all. -/
def ResponseKept (serde : Serde) (r : IpcResponse) : Prop :=
  ∀ got, serde.decodeResponse (serde.encodeResponse r)=some got → got=r

/-- What an event sends for the first time is decoded as it was encoded, if at
all. -/
def Kept (serde : Serde) (s : Net) : Event → Prop
  | .connect req => RequestKept serde req
  | .connectFails req _ => RequestKept serde req
  | .handle id answers => ∀ req, s.handled id=some req →
      ResponseKept serde (dispatch answers req s.daemon).response
  | _ => True

/-- The bytes of a response that are not yet sent. -/
def unsent : Server → List UInt8
  | .sending bytes => bytes
  | _ => []

/-- The daemon has not handled its request. -/
def Unhandled : Server → Prop
  | .receiving => True
  | .handling _ => True
  | _ => False

/-- Where the call of a connection can be. -/
structure Carried (serde : Serde) (actions : List (Action ℕ IpcRequest IpcResponse)) (id : ℕ)
    (connection : Connection) : Prop where
  /-- It was made. -/
  asked : .invoked id connection.req∈actions
  /-- Its request is decoded as it was encoded. -/
  kept : RequestKept serde connection.req
  /-- The daemon has not received more than its frame. -/
  unread : connection.link.server=.receiving →
    connection.link.toDaemon<+:writeFrame (serde.encodeRequest connection.req)
  /-- The daemon handles no other request. -/
  handling : ∀ got, connection.link.server=.handling got → got=connection.req
  /-- A request that is not handled was never performed. -/
  unperformed : Unhandled connection.link.server → ∀ op ret, .performed id op ret∉actions
  /-- While the client waits, what it can read is the start of the frame of the
  response that its request was performed with. -/
  answer : connection.link.client≠none →
    connection.link.toClient++unsent connection.link.server=[] ∨
    ∃ r, .performed id connection.req r∈actions ∧ ResponseKept serde r ∧
      connection.link.toClient++unsent connection.link.server<+:
        writeFrame (serde.encodeResponse r)

/-- What holds of the daemon and its clients. -/
structure Sound (serde : Serde) (s : Net) : Prop where
  /-- Everything happens at its time. -/
  timely : Each Timely s.actions
  /-- The daemon's state is that of handling the requests one after another. -/
  serial : Serial Dispatched DaemonState.initial (order s.actions) s.daemon
  /-- Every connection carries its own call. -/
  carried : ∀ id connection, s.connections[id]?=some connection →
    Carried serde s.actions id connection
  /-- There are no calls but those of the connections. -/
  known : ∀ id op, .invoked id op∈s.actions → id < s.connections.length

/-- A call stays carried when nothing of it is performed. -/
theorem Carried.extend {serde : Serde} {actions more : List (Action ℕ IpcRequest IpcResponse)}
    {id : ℕ} {connection : Connection} (h : Carried serde actions id connection)
    (hmore : ∀ op ret, .performed id op ret∉more) :
    Carried serde (actions++more) id connection := by
  refine ⟨List.mem_append_left _ h.asked,h.kept,h.unread,h.handling,?_,?_⟩
  · intro hserver op ret hmem
    rcases List.mem_append.mp hmem with hold | hnew
    · exact h.unperformed hserver op ret hold
    · exact hmore op ret hnew
  · intro hclient
    rcases h.answer hclient with hnothing | ⟨r,hperformed,hkept,hstart⟩
    · exact Or.inl hnothing
    · exact Or.inr ⟨r,List.mem_append_left _ hperformed,hkept,hstart⟩

/-- What an event leaves of a call, apart from handling it. -/
structure Advanced (serde : Serde) (actions : List (Action ℕ IpcRequest IpcResponse)) (id : ℕ)
    (connection : Connection) (link : Link) : Prop where
  /-- It is carried on. -/
  carried : Carried serde actions id ⟨connection.req,link⟩
  /-- It returns at most once, with an answer that it was performed with. -/
  returns : returned id connection.link link=[] ∨
    ∃ ret, returned id connection.link link=[.returned id ret] ∧ Timely actions (.returned id ret)

/-- A call that returns returns once. -/
theorem returned_finish (id : ℕ) (s before : Link) (req : IpcRequest)
    (response : Option IpcResponse) (h : before.finished=s.finished) :
    returned id before (s.finish req response)=[.returned id response] := by
  unfold returned Link.finish
  rw [h,List.drop_left]
  rfl

/-- A call that goes on has not returned. -/
theorem returned_same (id : ℕ) {before after : Link} (h : after.finished=before.finished) :
    returned id before after=[] := by
  unfold returned
  rw [h,List.drop_length]
  rfl

/-- The daemon receives the request that was encoded. -/
theorem receive_request {serde : Serde} {req got : IpcRequest} {bytes payload rest : List UInt8}
    (hkept : RequestKept serde req) (hbytes : bytes<+:writeFrame (serde.encodeRequest req))
    (hread : readFrame bytes=some (payload,rest))
    (hdecode : serde.decodeRequest payload=some got) : got=req := by
  obtain ⟨rfl,-,-⟩ | ⟨hstart,hne⟩ := readFrame_prefix hbytes hread
  · exact hkept got hdecode
  · rw [serde.request_cut req payload hstart hne] at hdecode
    cases hdecode

/-- The client reads the response that was encoded. -/
theorem receive_response {serde : Serde} {r got : IpcResponse} {bytes payload rest : List UInt8}
    (hkept : ResponseKept serde r) (hbytes : bytes<+:writeFrame (serde.encodeResponse r))
    (hread : readFrame bytes=some (payload,rest))
    (hdecode : serde.decodeResponse payload=some got) : got=r := by
  obtain ⟨rfl,-,-⟩ | ⟨hstart,hne⟩ := readFrame_prefix hbytes hread
  · exact hkept got hdecode
  · rw [serde.response_cut r payload hstart hne] at hdecode
    cases hdecode

/-- Without a response under way there is nothing to read. -/
theorem unhandled_silent {serde : Serde} {actions : List (Action ℕ IpcRequest IpcResponse)} {id : ℕ}
    {connection : Connection} (h : Carried serde actions id connection)
    (hserver : Unhandled connection.link.server) (hclient : connection.link.client≠none) :
    connection.link.toClient++unsent connection.link.server=[] := by
  rcases h.answer hclient with hnothing | ⟨r,hperformed,-,-⟩
  · exact hnothing
  · exact absurd hperformed (h.unperformed hserver _ _)

/-- The daemon's receipt of a frame carries the call on. -/
theorem receive_advanced {serde : Serde} {actions : List (Action ℕ IpcRequest IpcResponse)} {id : ℕ}
    {connection : Connection} {link : Link} (h : Carried serde actions id connection)
    (hstep : connection.link.step serde .receive=some link) :
    Advanced serde actions id connection link := by
  rw [Link.step] at hstep
  split at hstep
  · rename_i payload rest hserver hread
    have hsilent : connection.link.client≠none → connection.link.toClient++[]=[] := by
      intro hclient
      have hnothing := unhandled_silent h (by rw [hserver]; trivial) hclient
      rw [hserver] at hnothing
      exact hnothing
    split at hstep
    · obtain rfl := Option.some.inj hstep
      refine ⟨⟨h.asked,h.kept,fun hs => (by cases hs),fun _ hs => (by cases hs),fun hs => hs.elim,
        fun hclient => Or.inl (hsilent hclient)⟩,Or.inl (returned_same id rfl)⟩
    · rename_i got hdecode
      obtain rfl := Option.some.inj hstep
      have hgot := receive_request h.kept (h.unread hserver) hread hdecode
      refine ⟨⟨h.asked,h.kept,fun hs => (by cases hs),?_,?_,
        fun hclient => Or.inl (hsilent hclient)⟩,Or.inl (returned_same id rfl)⟩
      · intro other hs
        obtain rfl := Server.handling.inj hs
        exact hgot
      · intro _
        exact h.unperformed (by rw [hserver]; trivial)
  · cases hstep

/-- The arrival of bytes carries the call on. -/
theorem push_advanced {serde : Serde} {actions : List (Action ℕ IpcRequest IpcResponse)} {id n : ℕ}
    {connection : Connection} {link : Link} (h : Carried serde actions id connection)
    (hstep : connection.link.step serde (.push n)=some link) :
    Advanced serde actions id connection link := by
  rw [Link.step] at hstep
  split at hstep
  · rename_i bytes hserver
    obtain rfl := Option.some.inj hstep
    refine ⟨⟨h.asked,h.kept,fun hs => (by cases hs),fun _ hs => (by cases hs),fun hs => hs.elim,?_⟩,
      Or.inl (returned_same id rfl)⟩
    intro hclient
    have hanswer := h.answer hclient
    rw [hserver] at hanswer
    have hsame : (connection.link.toClient++bytes.take n)++bytes.drop n=
        connection.link.toClient++bytes := by
      rw [List.append_assoc,List.take_append_drop]
    change (connection.link.toClient++bytes.take n)++bytes.drop n=[] ∨ ∃ r, _ ∧ _ ∧
      (connection.link.toClient++bytes.take n)++bytes.drop n<+:_
    rw [hsame]
    exact hanswer
  · cases hstep

/-- The end of a connection carries the call on. -/
theorem hangUp_advanced {serde : Serde} {actions : List (Action ℕ IpcRequest IpcResponse)} {id : ℕ}
    {connection : Connection} {link : Link} (h : Carried serde actions id connection)
    (hstep : connection.link.step serde .hangUp=some link) :
    Advanced serde actions id connection link := by
  obtain rfl := Option.some.inj hstep
  refine ⟨⟨h.asked,h.kept,fun hs => (by cases hs),fun _ hs => (by cases hs),fun hs => hs.elim,?_⟩,
    Or.inl (returned_same id rfl)⟩
  intro hclient
  change connection.link.toClient++[]=[] ∨ ∃ r, _ ∧ _ ∧ connection.link.toClient++[]<+:_
  rw [List.append_nil]
  rcases h.answer hclient with hnothing | ⟨r,hperformed,hkept,hstart⟩
  · exact Or.inl (List.append_eq_nil_iff.mp hnothing).1
  · exact Or.inr ⟨r,hperformed,hkept,(List.prefix_append _ _).trans hstart⟩

/-- A call that has returned is carried on, whatever there was to read. -/
theorem finish_carried {serde : Serde} {actions : List (Action ℕ IpcRequest IpcResponse)} {id : ℕ}
    {connection : Connection} (h : Carried serde actions id connection) (bytes : List UInt8)
    (req : IpcRequest) (response : Option IpcResponse) :
    Carried serde actions id
      ⟨connection.req,Link.finish {connection.link with toClient := bytes} req response⟩ :=
  ⟨h.asked,h.kept,h.unread,h.handling,h.unperformed,fun hclient => absurd rfl hclient⟩

/-- An answer carries the call on. -/
theorem answer_advanced {serde : Serde} {actions : List (Action ℕ IpcRequest IpcResponse)} {id : ℕ}
    {connection : Connection} {link : Link} (h : Carried serde actions id connection)
    (hstep : connection.link.step serde .answer=some link) :
    Advanced serde actions id connection link := by
  rw [Link.step] at hstep
  split at hstep
  · rename_i req payload rest hclient hread
    obtain rfl := Option.some.inj hstep
    refine ⟨finish_carried h rest req _,Or.inr ⟨_,returned_finish id _ _ _ _ rfl,?_⟩⟩
    cases hdecode : serde.decodeResponse payload with
    | none => exact trivial
    | some got =>
      rcases h.answer (by rw [hclient]; exact Option.some_ne_none _) with
        hnothing | ⟨r,hperformed,hkept,hstart⟩
      · rw [(List.append_eq_nil_iff.mp hnothing).1] at hread
        cases hread
      · obtain rfl := receive_response hkept ((List.prefix_append _ _).trans hstart) hread hdecode
        exact ⟨connection.req,hperformed⟩
  · cases hstep

/-- Giving up carries the call on. -/
theorem giveUp_advanced {serde : Serde} {actions : List (Action ℕ IpcRequest IpcResponse)} {id : ℕ}
    {connection : Connection} {link : Link} (h : Carried serde actions id connection)
    (hstep : connection.link.step serde .giveUp=some link) :
    Advanced serde actions id connection link := by
  rw [Link.step] at hstep
  split at hstep
  · obtain rfl := Option.some.inj hstep
    exact ⟨finish_carried h [] _ none,Or.inr ⟨none,returned_finish id _ _ _ _ rfl,trivial⟩⟩
  · cases hstep

/-- The calls that return perform nothing. -/
theorem order_returned {actions more : List (Action ℕ IpcRequest IpcResponse)} {id : ℕ}
    (h : more=[] ∨ ∃ ret, more=[.returned id ret] ∧ Timely actions (.returned id ret))
    (hactions : Each Timely actions) :
    Each Timely (actions++more) ∧ order (actions++more)=order actions ∧
      (∀ other op, .invoked other op∈actions++more → .invoked other op∈actions) ∧
      ∀ other op ret, .performed other op ret∉more := by
  rcases h with rfl | ⟨ret,rfl,htimely⟩
  · rw [List.append_nil]
    exact ⟨hactions,rfl,fun _ _ hmem => hmem,fun _ _ _ hmem => by cases hmem⟩
  · refine ⟨each_snoc.mpr ⟨hactions,htimely⟩,?_,?_,?_⟩
    · rw [order_append]
      exact List.append_nil _
    · intro other op hmem
      rcases List.mem_append.mp hmem with hold | hnew
      · exact hold
      · cases List.mem_singleton.mp hnew
    · intro other op answer hmem
      cases List.mem_singleton.mp hmem

/-- An event of a connection that handles nothing keeps everything. -/
theorem advance_sound {serde : Serde} {s next : Net} {id : ℕ} {event : IpcCalls.Event}
    (h : Sound serde s)
    (hadvanced : ∀ connection link, s.connections[id]?=some connection →
      connection.link.step serde event=some link → Advanced serde s.actions id connection link)
    (hstep : s.advance serde id event=some next) : Sound serde next := by
  unfold Net.advance at hstep
  split at hstep
  · cases hstep
  · rename_i connection hconnection
    obtain ⟨link,hlink,rfl⟩ := Option.map_eq_some_iff.mp hstep
    obtain ⟨hcarried,hreturns⟩ := hadvanced connection link hconnection hlink
    obtain ⟨htimely,horder,hinvoked,hidle⟩ := order_returned hreturns h.timely
    refine ⟨htimely,?_,?_,?_⟩
    · dsimp only
      rw [horder]
      exact h.serial
    · intro other carried hother
      dsimp only at hother
      rw [List.getElem?_set] at hother
      split at hother
      · rename_i heq
        split at hother
        · obtain rfl := Option.some.inj hother
          rw [← heq]
          exact hcarried.extend (hidle id)
        · cases hother
      · exact (h.carried other carried hother).extend (hidle other)
    · intro other op hmem
      dsimp only
      rw [List.length_set]
      exact h.known other op (hinvoked other op hmem)

/-- A call that is not made is not performed. -/
theorem Sound.unmade {serde : Serde} {s : Net} (h : Sound serde s) (op : IpcRequest)
    (ret : IpcResponse) : .performed s.connections.length op ret∉s.actions := by
  intro hmem
  obtain ⟨before,rest,hsplit⟩ := List.append_of_mem hmem
  have hasked := (h.timely before _ rest hsplit).1
  refine absurd (h.known _ op ?_) (Nat.lt_irrefl _)
  rw [hsplit]
  exact List.mem_append_left _ hasked

/-- A new connection keeps everything. -/
theorem connect_sound {serde : Serde} {s : Net} {req : IpcRequest} {link : Link}
    (h : Sound serde s) (hkept : RequestKept serde req) (hserver : link.server=.receiving)
    (hsent : link.toDaemon<+:writeFrame (serde.encodeRequest req)) (hsilent : link.toClient=[])
    (hreturns : returned s.connections.length Link.start link=[] ∨
      returned s.connections.length Link.start link=[.returned s.connections.length none]) :
    Sound serde {s with
      connections := s.connections++[⟨req,link⟩],
      actions := s.actions++[.invoked s.connections.length req]++
        returned s.connections.length Link.start link} := by
  have hnew : ∀ op, .invoked s.connections.length op∉s.actions := fun op hmem =>
    absurd (h.known _ op hmem) (Nat.lt_irrefl _)
  have hmore : returned s.connections.length Link.start link=[] ∨
      ∃ ret, returned s.connections.length Link.start link=[.returned s.connections.length ret] ∧
        Timely (s.actions++[.invoked s.connections.length req])
          (.returned s.connections.length ret) := by
    rcases hreturns with hnone | hfailed
    · exact Or.inl hnone
    · exact Or.inr ⟨none,hfailed,trivial⟩
  obtain ⟨htimely,horder,hinvoked,hidle⟩ := order_returned hmore (each_snoc.mpr ⟨h.timely,hnew⟩)
  have hasked : ∀ (other : ℕ) (op : IpcRequest) (ret : IpcResponse),
      .performed other op ret∉[Action.invoked s.connections.length req] := by
    intro other op ret hmem
    cases List.mem_singleton.mp hmem
  refine ⟨htimely,?_,?_,?_⟩
  · dsimp only
    rw [horder,order_append]
    exact (List.append_nil (order s.actions)).symm ▸ h.serial
  · intro other carried hother
    dsimp only at hother ⊢
    rw [List.getElem?_append] at hother
    split at hother
    · exact ((h.carried other carried hother).extend (hasked other)).extend (hidle other)
    · rename_i hlarge
      rw [List.getElem?_singleton] at hother
      split at hother
      · rename_i hzero
        obtain rfl := Option.some.inj hother
        obtain rfl : other=s.connections.length := by omega
        refine Carried.extend ⟨?_,hkept,fun _ => hsent,?_,?_,?_⟩ (hidle _)
        · exact List.mem_append_right _ List.mem_cons_self
        · intro got hgot
          rw [hserver] at hgot
          cases hgot
        · intro _ op ret hmem
          rcases List.mem_append.mp hmem with hold | hlast
          · exact h.unmade op ret hold
          · exact hasked _ op ret hlast
        · intro _
          refine Or.inl ?_
          rw [hserver,hsilent]
          rfl
      · cases hother
  · intro other op hmem
    dsimp only
    rw [List.length_append,List.length_singleton]
    rcases List.mem_append.mp (hinvoked other op hmem) with hold | hnew
    · exact Nat.lt_succ_of_lt (h.known other op hold)
    · obtain ⟨rfl,-⟩ := Action.invoked.inj (List.mem_singleton.mp hnew)
      exact Nat.lt_succ_self _

/-- Handling a request keeps everything. -/
theorem handle_sound {serde : Serde} {s next : Net} {id : ℕ} {answers : Answers}
    (h : Sound serde s) (hkept : Kept serde s (.handle id answers))
    (hstep : s.handle serde id answers=some next) : Sound serde next := by
  unfold Net.handle at hstep
  split at hstep
  · cases hstep
  · rename_i req hhandled
    obtain ⟨advanced,hadvance,rfl⟩ := Option.map_eq_some_iff.mp hstep
    have hresponse := hkept req hhandled
    unfold Net.handled at hhandled
    unfold Net.advance at hadvance
    cases hconnection : s.connections[id]? with
    | none =>
      rw [hconnection] at hhandled
      cases hhandled
    | some connection =>
      rw [hconnection] at hhandled hadvance
      dsimp only at hhandled hadvance
      split at hhandled
      · rename_i other hserver
        obtain rfl := Option.some.inj hhandled
        have hcarried := h.carried id connection hconnection
        obtain rfl := hcarried.handling _ hserver
        have hopen : Unhandled connection.link.server := by
          rw [hserver]
          trivial
        rw [Link.step,hserver] at hadvance
        obtain rfl := Option.some.inj hadvance
        dsimp only
        have hnone := @returned_same id connection.link {connection.link with
          server := .sending (writeFrame (serde.encodeResponse
            (dispatch answers connection.req s.daemon).response))} rfl
        rw [hnone,List.append_nil]
        have htimely := hcarried.unperformed hopen
        refine ⟨each_snoc.mpr ⟨h.timely,hcarried.asked,htimely⟩,?_,?_,?_⟩
        · dsimp only
          rw [order_append]
          exact h.serial.snoc ⟨answers,rfl,rfl⟩
        · intro other carried hother
          dsimp only at hother
          rw [List.getElem?_set] at hother
          split at hother
          · rename_i heq
            split at hother
            · obtain rfl := Option.some.inj hother
              rw [← heq]
              refine ⟨List.mem_append_left _ hcarried.asked,hcarried.kept,fun hs => (by cases hs),
                fun _ hs => (by cases hs),fun hs => hs.elim,fun hclient => Or.inr ?_⟩
              have hsilent := unhandled_silent hcarried hopen hclient
              refine ⟨_,List.mem_append_right _ List.mem_cons_self,hresponse,?_⟩
              dsimp only [unsent]
              rw [(List.append_eq_nil_iff.mp hsilent).1]
              exact List.prefix_rfl
            · cases hother
          · rename_i hne
            refine (h.carried other carried hother).extend ?_
            intro op ret hmem
            cases List.mem_singleton.mp hmem
            exact hne rfl
        · intro other op hmem
          dsimp only
          rw [List.length_set]
          rcases List.mem_append.mp hmem with hold | hnew
          · exact h.known other op hold
          · cases List.mem_singleton.mp hnew
      · cases hhandled

/-- Every event keeps everything. -/
theorem step_sound {serde : Serde} {s next : Net} {event : Event} (h : Sound serde s)
    (hkept : Kept serde s event) (hstep : s.step serde event=some next) : Sound serde next := by
  cases event with
  | connect req =>
    unfold Net.step Net.connect at hstep
    obtain ⟨link,hlink,rfl⟩ := Option.map_eq_some_iff.mp hstep
    obtain rfl := Option.some.inj hlink
    exact connect_sound h hkept rfl List.prefix_rfl rfl (Or.inl rfl)
  | connectFails req written =>
    unfold Net.step Net.connect at hstep
    obtain ⟨link,hlink,rfl⟩ := Option.map_eq_some_iff.mp hstep
    obtain rfl := Option.some.inj hlink
    exact connect_sound h hkept rfl (List.take_prefix _ _) rfl (Or.inr rfl)
  | receive id =>
    exact advance_sound h (fun _ _ hc hl => receive_advanced (h.carried id _ hc) hl) hstep
  | handle id answers => exact handle_sound h hkept hstep
  | push id n =>
    exact advance_sound h (fun _ _ hc hl => push_advanced (h.carried id _ hc) hl) hstep
  | hangUp id =>
    exact advance_sound h (fun _ _ hc hl => hangUp_advanced (h.carried id _ hc) hl) hstep
  | answer id =>
    exact advance_sound h (fun _ _ hc hl => answer_advanced (h.carried id _ hc) hl) hstep
  | giveUp id =>
    exact advance_sound h (fun _ _ hc hl => giveUp_advanced (h.carried id _ hc) hl) hstep

/-- Everything holds before the first client. -/
theorem start_sound (serde : Serde) : Sound serde Net.start :=
  ⟨each_nil,.nil,fun _ _ hnone => (by cases hnone),fun _ _ hmem => by cases hmem⟩

/-- Everything holds at the end of a run. -/
theorem run_sound {serde : Serde} {events : List Event} {s : Net}
    (hkept : ∀ v∈visits (Net.step serde) Net.start events, Kept serde v.1 v.2)
    (hrun : run (Net.step serde) Net.start events=some s) : Sound serde s :=
  @run_invariant _ _ (Net.step serde) (Sound serde) (Kept serde)
    (fun _ _ _ hs hevent hstep => step_sound hs hevent hstep) events Net.start s
    (start_sound serde) hkept hrun

/-- Whatever clients, connections and the daemon do, in any order: what the
clients see is a daemon that handles their requests at once, one after another,
in an order that agrees with real time. -/
theorem clients_linearizable (serde : Serde) (events : List Event) (s : Net)
    (hkept : ∀ v∈visits (Net.step serde) Net.start events, Kept serde v.1 v.2)
    (hrun : run (Net.step serde) Net.start events=some s) :
    Linearizable Dispatched DaemonState.initial s.daemon (history s.actions)
      (order s.actions) := by
  have hsound := run_sound hkept hrun
  exact linearizable_of_timely hsound.timely hsound.serial

/-- A liveness check that is answered, and a request to stop the device whose
client gives up. -/
def sampleEvents (n : ℕ) : List Event :=
  [.connect pingRequest,.connect stopRequest,.receive 0,.handle 0 pingAnswers,.push 0 n,.answer 0,
    .giveUp 1]

/-- The liveness check is decoded as it was encoded. -/
theorem ping_kept : RequestKept sampleSerde pingRequest := by
  intro got hgot
  have hdecode : sampleRequest? (sampleRequest pingRequest)=some got := hgot
  rw [sample_ping] at hdecode
  exact (Option.some.inj hdecode).symm

/-- The request to stop the device is decoded as it was encoded. -/
theorem stop_kept : RequestKept sampleSerde stopRequest := by
  intro got hgot
  have hstop : sampleRequest? (sampleRequest stopRequest)=some stopRequest := by
    have hother : stopRequest.requestId≠pingRequest.requestId := by decide
    rw [sampleRequest,if_neg hother,if_pos rfl,sampleRequest?,if_neg pingText_stopText.1.symm,
      if_pos rfl]
  exact Option.some.inj (hgot.symm.trans hstop)

/-- The answer is decoded as it was encoded. -/
theorem pong_kept : ResponseKept sampleSerde pongResponse := by
  intro got hgot
  simp only [sampleSerde] at hgot
  exact Option.some.inj (hgot.symm.trans sample_pong)

/-- One client is answered and the other gives up. -/
theorem clients_linearizable_sample : ∃ n s,
    run (Net.step sampleSerde) Net.start (sampleEvents n)=some s ∧
      (∃ e∈order s.actions, e.ret=pongResponse) ∧
      Linearizable Dispatched DaemonState.initial s.daemon (history s.actions)
        (order s.actions) := by
  have hreceive := readFrame_writeFrame texts_short.1 []
  have hread := readFrame_writeFrame texts_short.2 []
  rw [List.append_nil] at hreceive hread
  have hpong : (dispatch pingAnswers pingRequest DaemonState.initial).response=pongResponse := rfl
  have hping : sampleSerde.encodeRequest pingRequest=sampleRequest pingRequest := rfl
  have hanswer : sampleSerde.encodeResponse pongResponse=sampleResponse pongResponse := rfl
  have hrequested : sampleSerde.decodeRequest (sampleRequest pingRequest)=some pingRequest :=
    sample_ping
  have hanswered : sampleSerde.decodeResponse (sampleResponse pongResponse)=some pongResponse :=
    sample_pong
  have hnothing : readFrame []=none := rfl
  obtain ⟨s,hrun,hperformed,hkept⟩ : ∃ s,
      run (Net.step sampleSerde) Net.start
          (sampleEvents (writeFrame (sampleResponse pongResponse)).length)=some s ∧
        (∃ e∈order s.actions, e.ret=pongResponse) ∧
        ∀ v∈visits (Net.step sampleSerde) Net.start
          (sampleEvents (writeFrame (sampleResponse pongResponse)).length),
          Kept sampleSerde v.1 v.2 := by
    simp only [sampleEvents,run,visits,Net.start,Net.step,Net.connect,Link.start,Link.step,
      Option.map_some,List.nil_append,List.length_nil,returned,List.length_cons,Net.advance,
      List.getElem?_cons_zero,List.cons_append,hping,hreceive,hrequested,Net.handle,Net.handled,
      hpong,hanswer,List.set_cons_zero,List.take_length,List.drop_length,hread,hanswered,
      Link.finish]
    refine ⟨_,rfl,⟨_,List.mem_cons_self,rfl⟩,?_⟩
    simp only [List.forall_mem_cons]
    refine ⟨ping_kept,stop_kept,trivial,?_,trivial,trivial,trivial,fun v hv => (by cases hv)⟩
    intro req hhandled
    obtain rfl := Option.some.inj hhandled
    exact pong_kept
  exact ⟨_,s,hrun,hperformed,clients_linearizable sampleSerde _ s hkept hrun⟩

end LiteDroid.IpcClients


