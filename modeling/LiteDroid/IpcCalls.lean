import LiteDroid.DaemonAdbGate
import LiteDroid.IpcFrames

/-!
# Calls over one connection

A client writes one frame for each call and reads one frame as its answer; the
read gives up when nothing arrives in time, and what it had taken by then is
lost. The daemon serves one request for each connection and closes it. An
answer is not compared with the call it is returned from: a call that gave up
leaves its answer to the next call, if that one can still be written.
-/

namespace LiteDroid.IpcCalls

open CoreText IpcMessages IpcFrames FrameStream DaemonDispatch DaemonAdbGate StepRun

/-- How messages are turned into bytes and back, and what is relied on: the
identifier of a decoded message is the encoded one, and a text that is cut off
is no message. -/
structure Serde where
  /-- The bytes of a request. -/
  encodeRequest : IpcRequest → List UInt8
  /-- The request of some bytes. -/
  decodeRequest : List UInt8 → Option IpcRequest
  /-- The bytes of a response. -/
  encodeResponse : IpcResponse → List UInt8
  /-- The response of some bytes. -/
  decodeResponse : List UInt8 → Option IpcResponse
  /-- A decoded request has the identifier that was encoded. -/
  request_id : ∀ req req', decodeRequest (encodeRequest req)=some req' →
    req'.requestId=req.requestId
  /-- A request that is cut off cannot be decoded. -/
  request_cut : ∀ req part, part<+:encodeRequest req → part≠encodeRequest req →
    decodeRequest part=none
  /-- A decoded response has the identifier that was encoded. -/
  response_id : ∀ r r', decodeResponse (encodeResponse r)=some r' → r'.requestId=r.requestId
  /-- A response that is cut off cannot be decoded. -/
  response_cut : ∀ r part, part<+:encodeResponse r → part≠encodeResponse r →
    decodeResponse part=none

/-- What the daemon's thread of the connection does. -/
inductive Server where
  /-- It waits for its request. -/
  | receiving
  /-- It handles the request. -/
  | handling (req : IpcRequest)
  /-- It sends the response, of which some bytes are left. -/
  | sending (unsent : List UInt8)
  /-- It has closed the connection. -/
  | closed

/-- A client, its connection and the daemon's thread. -/
structure Link where
  /-- The request of the call the client is in. -/
  client : Option IpcRequest
  /-- Bytes the client wrote that the daemon has not read. -/
  toDaemon : List UInt8
  /-- The daemon's thread. -/
  server : Server
  /-- Bytes the daemon sent that the client has not read. -/
  toClient : List UInt8
  /-- The calls that have returned, with the response of those that succeeded. -/
  finished : List (IpcRequest×Option IpcResponse)

/-- A new connection. -/
def Link.start : Link := ⟨none,[],.receiving,[],[]⟩

/-- What can happen next. -/
inductive Event where
  /-- The client makes a call; it fails at once if the daemon has closed. -/
  | call (req : IpcRequest)
  /-- The client makes a call and cannot write all of the request. -/
  | callFails (req : IpcRequest) (written : ℕ)
  /-- The daemon receives a frame. -/
  | receive
  /-- The daemon handles the request in some state of its own. -/
  | handle (state : DaemonState) (answers : Answers)
  /-- Some bytes of the response reach the client. -/
  | push (n : ℕ)
  /-- The daemon closes the connection, whatever it was doing. -/
  | hangUp
  /-- The client reads a whole frame and its call returns. -/
  | answer
  /-- The client's read runs out of time or meets the end, and its call fails. -/
  | giveUp

/-- A call that returns. -/
def Link.finish (s : Link) (req : IpcRequest) (response : Option IpcResponse) : Link :=
  {s with client := none, finished := s.finished++[(req,response)]}

/-- One event. -/
def Link.step (serde : Serde) (s : Link) : Event → Option Link
  | .call req =>
    match s.client,s.server with
    | some _,_ => none
    | none,.closed => some (s.finish req none)
    | none,_ =>
      some {s with
        client := some req, toDaemon := s.toDaemon++writeFrame (serde.encodeRequest req)}
  | .callFails req written =>
    match s.client with
    | some _ => none
    | none =>
      some (Link.finish
        {s with toDaemon := s.toDaemon++(writeFrame (serde.encodeRequest req)).take written}
        req none)
  | .receive =>
    match s.server,readFrame s.toDaemon with
    | .receiving,some (payload,rest) =>
      match serde.decodeRequest payload with
      | none => some {s with toDaemon := rest, server := .closed}
      | some req => some {s with toDaemon := rest, server := .handling req}
    | _,_ => none
  | .handle state answers =>
    match s.server with
    | .handling req =>
      some {s with
        server := .sending
          (writeFrame (serde.encodeResponse (dispatch answers req state).response))}
    | _ => none
  | .push n =>
    match s.server with
    | .sending unsent =>
      some {s with
        toClient := s.toClient++unsent.take n, server := .sending (unsent.drop n)}
    | _ => none
  | .hangUp => some {s with server := .closed}
  | .answer =>
    match s.client,readFrame s.toClient with
    | some req,some (payload,rest) =>
      some (Link.finish {s with toClient := rest} req (serde.decodeResponse payload))
    | _,_ => none
  | .giveUp =>
    match s.client,readFrame s.toClient with
    | some req,none => some (Link.finish {s with toClient := []} req none)
    | _,_ => none

/-- Every call that returned a response returned the one to its own request. -/
def Matched (s : Link) : Prop :=
  ∀ req r, (req,some r)∈s.finished → r.requestId=req.requestId

/-- Some call has failed. -/
def Failed (s : Link) : Prop := ∃ req, (req,none)∈s.finished

/-- Whether the daemon sends no more bytes. -/
def Server.Done : Server → Prop
  | .sending unsent => unsent=[]
  | .closed => True
  | _ => False

/-- Nothing is left to read and nothing more will come. -/
def Drained (s : Link) : Prop := s.toClient=[] ∧ s.server.Done

/-- A call is written to an open connection on which an earlier call has failed
and from which an answer may still come. -/
def Late (s : Link) (event : Event) : Prop :=
  (∃ req, event=.call req) ∧ s.server≠.closed ∧ Failed s ∧ ¬Drained s

/-- Nothing has happened yet. -/
structure Fresh (s : Link) : Prop where
  /-- The client is in no call. -/
  idle : s.client=none
  /-- The daemon waits for its request. -/
  receiving : s.server=.receiving
  /-- Nothing was written. -/
  unwritten : s.toDaemon=[]
  /-- Nothing was sent. -/
  unsent : s.toClient=[]

/-- Where the daemon can be while the first call waits for its answer: the
request it has not received, the one it handles and the response it sends or
was sending all have the identifier of the call. -/
def Asked (serde : Serde) (s : Link) (req : IpcRequest) : Prop :=
  match s.server with
  | .receiving => s.toDaemon=writeFrame (serde.encodeRequest req) ∧ s.toClient=[]
  | .handling other => other.requestId=req.requestId ∧ s.toClient=[]
  | .sending unsent => ∃ r : IpcResponse, r.requestId=req.requestId ∧
      s.toClient++unsent=writeFrame (serde.encodeResponse r)
  | .closed => ∃ r : IpcResponse, r.requestId=req.requestId ∧
      s.toClient<+:writeFrame (serde.encodeResponse r)

/-- Where a connection without late calls can be. -/
inductive Sound (serde : Serde) (s : Link) : Prop where
  /-- No call was made. -/
  | fresh (h : Fresh s)
  /-- The first call waits. -/
  | asked (req : IpcRequest) (hclient : s.client=some req) (h : Asked serde s req)
  /-- No answer will come any more. -/
  | drained (h : Drained s)
  /-- A call has failed and none waits. -/
  | failed (hclient : s.client=none) (h : Failed s)

/-- A call that failed is remembered. -/
theorem failed_finish (s : Link) (req : IpcRequest) : Failed (s.finish req none) :=
  ⟨req,List.mem_append_right _ List.mem_cons_self⟩

/-- A call that fails leaves the others matched. -/
theorem matched_finish {s : Link} {req : IpcRequest} {response : Option IpcResponse}
    (h : Matched s) (hr : ∀ r, response=some r → r.requestId=req.requestId) :
    Matched (s.finish req response) := by
  intro other r hmem
  rcases List.mem_append.mp hmem with hold | hnew
  · exact h other r hold
  · obtain ⟨rfl,heq⟩ := Prod.mk.inj (List.mem_singleton.mp hnew)
    exact hr r heq.symm

/-- A call fails and the connection stays sound. -/
theorem finish_failed {serde : Serde} {s : Link} {req : IpcRequest} (h : Matched s) :
    Matched (s.finish req none) ∧ Sound serde (s.finish req none) := by
  refine ⟨matched_finish h ?_,.failed rfl (failed_finish s req)⟩
  intro r hr
  cases hr

/-- Nothing can be read from a drained connection. -/
theorem drained_unread {s : Link} (h : Drained s) : readFrame s.toClient=none := by
  rw [h.1]
  rfl

/-- A call that is not late keeps the connection sound. -/
theorem call_sound {serde : Serde} {s next : Link} {req : IpcRequest} (hm : Matched s)
    (h : Sound serde s) (hlate : ¬Late s (.call req)) (hstep : s.step serde (.call req)=some next) :
    Matched next ∧ Sound serde next := by
  rw [Link.step] at hstep
  split at hstep
  · cases hstep
  · obtain rfl := Option.some.inj hstep
    exact finish_failed hm
  · rename_i hidle hopen
    obtain rfl := Option.some.inj hstep
    refine ⟨hm,?_⟩
    cases h with
    | fresh h =>
      refine .asked req rfl ?_
      rw [Asked]
      dsimp only
      rw [h.receiving,h.unwritten,List.nil_append]
      exact ⟨rfl,h.unsent⟩
    | asked other hclient h =>
      rw [hidle] at hclient
      cases hclient
    | drained h => exact .drained h
    | failed hclient h =>
      by_cases hdrained : Drained s
      · exact .drained hdrained
      · exact absurd ⟨⟨req,rfl⟩,hopen,h,hdrained⟩ hlate

/-- A request of which the daemon received all has the identifier of its call. -/
theorem received_id {serde : Serde} {req got : IpcRequest} {payload rest : List UInt8}
    (hread : readFrame (writeFrame (serde.encodeRequest req))=some (payload,rest))
    (hdecode : serde.decodeRequest payload=some got) : got.requestId=req.requestId := by
  obtain ⟨rfl,-,-⟩ | ⟨hstart,hne⟩ := readFrame_prefix (List.prefix_refl _) hread
  · exact serde.request_id req got hdecode
  · rw [serde.request_cut req payload hstart hne] at hdecode
    cases hdecode

/-- The daemon's receipt of a frame keeps the connection sound. -/
theorem receive_sound {serde : Serde} {s next : Link} (hm : Matched s) (h : Sound serde s)
    (hstep : s.step serde .receive=some next) : Matched next ∧ Sound serde next := by
  rw [Link.step] at hstep
  split at hstep
  · rename_i payload rest hserver hread
    cases h with
    | fresh h =>
      rw [h.unwritten] at hread
      cases hread
    | drained h =>
      rw [Drained,hserver] at h
      exact absurd h.2 id
    | failed hclient h =>
      split at hstep
      · obtain rfl := Option.some.inj hstep
        exact ⟨hm,.failed hclient h⟩
      · obtain rfl := Option.some.inj hstep
        exact ⟨hm,.failed hclient h⟩
    | asked req hclient h =>
      rw [Asked,hserver] at h
      obtain ⟨hrequest,hunsent⟩ := h
      split at hstep
      · obtain rfl := Option.some.inj hstep
        exact ⟨hm,.drained ⟨hunsent,trivial⟩⟩
      · rename_i got hdecode
        obtain rfl := Option.some.inj hstep
        rw [hrequest] at hread
        exact ⟨hm,.asked req hclient ⟨received_id hread hdecode,hunsent⟩⟩
  · cases hstep

/-- Handling the request keeps the connection sound. -/
theorem handle_sound {serde : Serde} {s next : Link} {state : DaemonState} {answers : Answers}
    (hm : Matched s) (h : Sound serde s) (hstep : s.step serde (.handle state answers)=some next) :
    Matched next ∧ Sound serde next := by
  rw [Link.step] at hstep
  split at hstep
  · rename_i got hserver
    obtain rfl := Option.some.inj hstep
    refine ⟨hm,?_⟩
    cases h with
    | fresh h =>
      have hother := h.receiving
      rw [hserver] at hother
      cases hother
    | drained h =>
      rw [Drained,hserver] at h
      exact absurd h.2 id
    | failed hclient h => exact .failed hclient h
    | asked req hclient h =>
      rw [Asked,hserver] at h
      obtain ⟨hid,hunsent⟩ := h
      refine .asked req hclient ⟨(dispatch answers got state).response,?_,?_⟩
      · exact (dispatch_requestId answers got state).trans hid
      · rw [hunsent,List.nil_append]
  · cases hstep

/-- The arrival of bytes keeps the connection sound. -/
theorem push_sound {serde : Serde} {s next : Link} {n : ℕ} (hm : Matched s) (h : Sound serde s)
    (hstep : s.step serde (.push n)=some next) : Matched next ∧ Sound serde next := by
  rw [Link.step] at hstep
  split at hstep
  · rename_i unsent hserver
    obtain rfl := Option.some.inj hstep
    refine ⟨hm,?_⟩
    cases h with
    | fresh h =>
      have hother := h.receiving
      rw [hserver] at hother
      cases hother
    | drained h =>
      rw [Drained,hserver] at h
      obtain ⟨hempty,hdone⟩ := h
      have hnone : unsent=[] := hdone
      refine .drained ⟨?_,?_⟩
      · dsimp only
        rw [hempty,hnone,List.take_nil,List.append_nil]
      · rw [hnone]
        exact List.drop_nil
    | failed hclient h => exact .failed hclient h
    | asked req hclient h =>
      rw [Asked,hserver] at h
      obtain ⟨r,hid,hframe⟩ := h
      refine .asked req hclient ⟨r,hid,?_⟩
      rw [List.append_assoc,List.take_append_drop]
      exact hframe
  · cases hstep

/-- The end of the connection keeps it sound. -/
theorem hangUp_sound {serde : Serde} {s : Link} (h : Sound serde s) :
    Sound serde {s with server := .closed} := by
  cases h with
  | fresh h => exact .drained ⟨h.unsent,trivial⟩
  | drained h => exact .drained ⟨h.1,trivial⟩
  | failed hclient h => exact .failed hclient h
  | asked req hclient h =>
    rw [Asked] at h
    split at h
    · exact .drained ⟨h.2,trivial⟩
    · exact .drained ⟨h.2,trivial⟩
    · obtain ⟨r,hid,hframe⟩ := h
      exact .asked req hclient ⟨r,hid,⟨_,hframe⟩⟩
    · exact .asked req hclient h

/-- While the first call waits, what there is to read is the start of the frame
of a response with the identifier of the call, and it is all of it only if
nothing more will come. -/
theorem asked_frame {serde : Serde} {s : Link} {req : IpcRequest} (h : Asked serde s req)
    {payload rest : List UInt8} (hread : readFrame s.toClient=some (payload,rest)) :
    ∃ r : IpcResponse, r.requestId=req.requestId ∧
      s.toClient<+:writeFrame (serde.encodeResponse r) ∧
      (s.toClient=writeFrame (serde.encodeResponse r) → s.server.Done) := by
  rw [Asked] at h
  split at h
  · rw [h.2] at hread
    cases hread
  · rw [h.2] at hread
    cases hread
  · rename_i unsent hserver
    obtain ⟨r,hid,hframe⟩ := h
    refine ⟨r,hid,⟨unsent,hframe⟩,?_⟩
    intro hwhole
    rw [hwhole] at hframe
    rw [hserver]
    exact List.append_right_eq_self.mp hframe
  · rename_i hserver
    obtain ⟨r,hid,hstart⟩ := h
    refine ⟨r,hid,hstart,?_⟩
    intro _
    rw [hserver]
    exact trivial

/-- An answer keeps the connection sound. -/
theorem answer_sound {serde : Serde} {s next : Link} (hm : Matched s) (h : Sound serde s)
    (hstep : s.step serde .answer=some next) : Matched next ∧ Sound serde next := by
  rw [Link.step] at hstep
  split at hstep
  · rename_i req payload rest hclient hread
    obtain rfl := Option.some.inj hstep
    cases h with
    | fresh h =>
      have hother := h.idle
      rw [hclient] at hother
      cases hother
    | drained h =>
      rw [drained_unread h] at hread
      cases hread
    | failed hother h =>
      rw [hclient] at hother
      cases hother
    | asked first hfirst h =>
      rw [hclient] at hfirst
      obtain rfl := Option.some.inj hfirst
      obtain ⟨r,hid,hstart,hdone⟩ := asked_frame h hread
      obtain ⟨rfl,hwhole,rfl⟩ | ⟨hcut,hne⟩ := readFrame_prefix hstart hread
      · refine ⟨matched_finish hm ?_,.drained ⟨rfl,hdone hwhole⟩⟩
        intro r' hr'
        exact (serde.response_id r r' hr').trans hid
      · rw [serde.response_cut r payload hcut hne]
        exact finish_failed hm
  · cases hstep

/-- An event that is no late call keeps the connection sound. -/
theorem sound_step {serde : Serde} {s next : Link} {event : Event} (hm : Matched s)
    (h : Sound serde s) (hlate : ¬Late s event) (hstep : s.step serde event=some next) :
    Matched next ∧ Sound serde next := by
  cases event with
  | call req => exact call_sound hm h hlate hstep
  | callFails req written =>
    rw [Link.step] at hstep
    split at hstep
    · cases hstep
    · obtain rfl := Option.some.inj hstep
      exact finish_failed hm
  | receive => exact receive_sound hm h hstep
  | handle state answers => exact handle_sound hm h hstep
  | push n => exact push_sound hm h hstep
  | hangUp =>
    obtain rfl := Option.some.inj hstep
    exact ⟨hm,hangUp_sound h⟩
  | answer => exact answer_sound hm h hstep
  | giveUp =>
    rw [Link.step] at hstep
    split at hstep
    · obtain rfl := Option.some.inj hstep
      exact finish_failed hm
    · cases hstep

/-- In a run without late calls, every call that returns a response returns the
one to its own request. -/
theorem answers_match (serde : Serde) (events : List Event) (s : Link)
    (hlate : ∀ v∈visits (Link.step serde) Link.start events, ¬Late v.1 v.2)
    (h : run (Link.step serde) Link.start events=some s) : Matched s := by
  have hinvariant := @run_invariant _ _ (Link.step serde) (fun s => Matched s ∧ Sound serde s)
    (fun s event => ¬Late s event)
    (fun _ _ _ hs hevent hstep => sound_step hs.1 hs.2 hevent hstep) events Link.start s
  refine (hinvariant ⟨?_,.fresh ⟨rfl,rfl,rfl,rfl⟩⟩ hlate h).1
  intro req r hmem
  cases hmem

/-- A call that is answered in time. -/
def promptAnswer (req : IpcRequest) (state : DaemonState) (answers : Answers) (n : ℕ) :
    List Event :=
  [.call req,.receive,.handle state answers,.push n,.answer]

/-- A single call is never late. -/
theorem promptAnswer_not_late (serde : Serde) (req : IpcRequest) (state : DaemonState)
    (answers : Answers) (n : ℕ) :
    ∀ v∈visits (Link.step serde) Link.start (promptAnswer req state answers n), ¬Late v.1 v.2 := by
  rintro v hv ⟨⟨other,hcall⟩,-,⟨earlier,hearlier⟩,-⟩
  rcases List.mem_cons.mp hv with rfl | hv
  · cases hearlier
  · have hinput := visits_input hv
    rw [hcall] at hinput
    simp at hinput

/-- A call that is answered in time returns its answer. -/
theorem promptAnswer_run {serde : Serde} {req got : IpcRequest} {response : IpcResponse}
    (state : DaemonState) (answers : Answers)
    (hrequest : (serde.encodeRequest req).length < 2^32)
    (hgot : serde.decodeRequest (serde.encodeRequest req)=some got)
    (hresponse : (serde.encodeResponse (dispatch answers got state).response).length < 2^32)
    (hanswer : serde.decodeResponse
      (serde.encodeResponse (dispatch answers got state).response)=some response) :
    ∃ n s, run (Link.step serde) Link.start (promptAnswer req state answers n)=some s ∧
      s.finished=[(req,some response)] := by
  have hreceive := readFrame_writeFrame hrequest []
  have hread := readFrame_writeFrame hresponse []
  rw [List.append_nil] at hreceive hread
  refine ⟨(writeFrame (serde.encodeResponse (dispatch answers got state).response)).length,
    ⟨none,[],.sending [],[],[(req,some response)]⟩,?_,rfl⟩
  simp only [promptAnswer,Link.start,run,Link.step,List.nil_append,hreceive,hgot,Link.finish,
    List.take_length,List.drop_length,hread,hanswer]

/-- A call, its timeout while the daemon is busy, and another call, which gets
the answer to the first. -/
def lateAnswer (first second : IpcRequest) (state : DaemonState) (answers : Answers) (n : ℕ) :
    List Event :=
  [.call first,.receive,.giveUp,.call second,.handle state answers,.push n,.answer]

/-- The second call returns the answer to the first. -/
theorem lateAnswer_run {serde : Serde} {first got : IpcRequest} {response : IpcResponse}
    (second : IpcRequest) (state : DaemonState) (answers : Answers)
    (hrequest : (serde.encodeRequest first).length < 2^32)
    (hgot : serde.decodeRequest (serde.encodeRequest first)=some got)
    (hresponse : (serde.encodeResponse (dispatch answers got state).response).length < 2^32)
    (hanswer : serde.decodeResponse
      (serde.encodeResponse (dispatch answers got state).response)=some response) :
    ∃ n s, run (Link.step serde) Link.start (lateAnswer first second state answers n)=some s ∧
      s.finished=[(first,none),(second,some response)] := by
  have hreceive := readFrame_writeFrame hrequest []
  have hread := readFrame_writeFrame hresponse []
  rw [List.append_nil] at hreceive hread
  refine ⟨(writeFrame (serde.encodeResponse (dispatch answers got state).response)).length,
    ⟨none,writeFrame (serde.encodeRequest second),.sending [],[],
      [(first,none),(second,some response)]⟩,?_,rfl⟩
  simp only [lateAnswer,Link.start,run,Link.step,List.nil_append,hreceive,hgot]
  have hnothing : readFrame []=none := rfl
  simp only [hnothing,Link.finish,List.nil_append,List.take_length,List.drop_length,hread,hanswer,
    List.singleton_append]

/-- A liveness check. -/
def pingRequest : IpcRequest :=
  ⟨1,"11111111-1111-4111-8111-111111111111","daemon.ping",.null⟩

/-- A request to stop the device. -/
def stopRequest : IpcRequest :=
  ⟨1,"22222222-2222-4222-8222-222222222222","device.stop",.null⟩

/-- The answer to the liveness check. -/
def pongResponse : IpcResponse :=
  makeOk pingRequest (.obj [("pid",.num 1000),("pong",.bool true)])

/-- The liveness check on the wire. -/
def pingText : List UInt8 := asBytes
  "\x7b\"version\":1,\"request_id\":\"11111111-1111-4111-8111-111111111111\",\"method\":\"daemon.ping\",\"params\":null\x7d"

/-- The request to stop the device on the wire. -/
def stopText : List UInt8 := asBytes
  "\x7b\"version\":1,\"request_id\":\"22222222-2222-4222-8222-222222222222\",\"method\":\"device.stop\",\"params\":null\x7d"

/-- The answer to the liveness check on the wire. -/
def pongText : List UInt8 := asBytes
  "\x7b\"version\":1,\"request_id\":\"11111111-1111-4111-8111-111111111111\",\"success\":true,\"result\":\x7b\"pid\":1000,\"pong\":true\x7d,\"error\":null\x7d"

/-- The two requests are different texts of the same length. -/
theorem pingText_stopText : pingText≠stopText ∧ pingText.length=stopText.length := by
  decide +kernel

/-- None of the texts is empty. -/
theorem texts_nonempty : pingText≠[] ∧ stopText≠[] ∧ pongText≠[] := by decide +kernel

/-- The text of a request, by its identifier. -/
def sampleRequest (req : IpcRequest) : List UInt8 :=
  if req.requestId=pingRequest.requestId then pingText
  else if req.requestId=stopRequest.requestId then stopText else []

/-- The request of a text. -/
def sampleRequest? (bytes : List UInt8) : Option IpcRequest :=
  if bytes=pingText then some pingRequest else if bytes=stopText then some stopRequest else none

/-- The text of a response, by its identifier. -/
def sampleResponse (r : IpcResponse) : List UInt8 :=
  if r.requestId=pongResponse.requestId then pongText else []

/-- The response of a text. -/
def sampleResponse? (bytes : List UInt8) : Option IpcResponse :=
  if bytes=pongText then some pongResponse else none

/-- The identifier of a request is kept. -/
theorem sampleRequest_id (req req' : IpcRequest)
    (h : sampleRequest? (sampleRequest req)=some req') : req'.requestId=req.requestId := by
  unfold sampleRequest at h
  split at h
  · rename_i hid
    rw [sampleRequest?,if_pos rfl] at h
    obtain rfl := Option.some.inj h
    exact hid.symm
  · split at h
    · rename_i hid
      rw [sampleRequest?,if_neg pingText_stopText.1.symm,if_pos rfl] at h
      obtain rfl := Option.some.inj h
      exact hid.symm
    · rw [sampleRequest?,if_neg texts_nonempty.1.symm,if_neg texts_nonempty.2.1.symm] at h
      cases h

/-- A request that is cut off is no request. -/
theorem sampleRequest_cut (req : IpcRequest) (part : List UInt8)
    (hpart : part<+:sampleRequest req) (hne : part≠sampleRequest req) :
    sampleRequest? part=none := by
  obtain ⟨hdiffer,hlength⟩ := pingText_stopText
  unfold sampleRequest at hpart hne
  rw [sampleRequest?]
  split at hpart
  · rename_i hid
    rw [if_pos hid] at hne
    have hstop : part≠stopText := by
      intro heq
      rw [heq] at hpart
      exact hdiffer (hpart.eq_of_length hlength.symm).symm
    rw [if_neg hne,if_neg hstop]
  · rename_i hping
    rw [if_neg hping] at hne
    split at hpart
    · rename_i hid
      rw [if_pos hid] at hne
      have hfirst : part≠pingText := by
        intro heq
        rw [heq] at hpart
        exact hdiffer (hpart.eq_of_length hlength)
      rw [if_neg hfirst,if_neg hne]
    · rename_i hstop
      rw [if_neg hstop] at hne
      exact absurd (List.prefix_nil.mp hpart) hne

/-- The identifier of a response is kept. -/
theorem sampleResponse_id (r r' : IpcResponse) (h : sampleResponse? (sampleResponse r)=some r') :
    r'.requestId=r.requestId := by
  unfold sampleResponse at h
  split at h
  · rename_i hid
    rw [sampleResponse?,if_pos rfl] at h
    obtain rfl := Option.some.inj h
    exact hid.symm
  · rw [sampleResponse?,if_neg texts_nonempty.2.2.symm] at h
    cases h

/-- A response that is cut off is no response. -/
theorem sampleResponse_cut (r : IpcResponse) (part : List UInt8)
    (hpart : part<+:sampleResponse r) (hne : part≠sampleResponse r) :
    sampleResponse? part=none := by
  unfold sampleResponse at hpart hne
  rw [sampleResponse?]
  split at hpart
  · rename_i hid
    rw [if_pos hid] at hne
    rw [if_neg hne]
  · rename_i hid
    rw [if_neg hid] at hne
    exact absurd (List.prefix_nil.mp hpart) hne

/-- Serialisation of these messages; any other text is no message. -/
def sampleSerde : Serde :=
  ⟨sampleRequest,sampleRequest?,sampleResponse,sampleResponse?,sampleRequest_id,sampleRequest_cut,
    sampleResponse_id,sampleResponse_cut⟩

/-- The texts are short. -/
theorem texts_short : (sampleRequest pingRequest).length < 2^32 ∧
    (sampleResponse pongResponse).length < 2^32 := by decide +kernel

/-- The liveness check is decoded from its text. -/
theorem sample_ping : sampleRequest? (sampleRequest pingRequest)=some pingRequest := by
  rw [sampleRequest,if_pos rfl,sampleRequest?,if_pos rfl]

/-- The answer to it is decoded from its text. -/
theorem sample_pong : sampleResponse? (sampleResponse pongResponse)=some pongResponse := by
  rw [sampleResponse,if_pos rfl,sampleResponse?,if_pos rfl]

/-- A host that answers a liveness check. -/
def pingAnswers : Answers := deviceAnswers .alive (.ok ⟨7⟩)

/-- The liveness check, answered in time, returns its own answer. -/
theorem answers_match_ping : ∃ n s,
    run (Link.step sampleSerde) Link.start
        (promptAnswer pingRequest DaemonState.initial pingAnswers n)=some s ∧
      s.finished=[(pingRequest,some pongResponse)] ∧ Matched s := by
  obtain ⟨n,s,hrun,hfinished⟩ := @promptAnswer_run sampleSerde pingRequest pingRequest pongResponse
    DaemonState.initial pingAnswers texts_short.1 sample_ping texts_short.2 sample_pong
  exact ⟨n,s,hrun,hfinished,answers_match sampleSerde _ s
    (promptAnswer_not_late sampleSerde pingRequest DaemonState.initial pingAnswers n) hrun⟩

/-- A liveness check that times out while the daemon is busy, and a request to
stop the device that is answered with the answer to it. -/
theorem stop_answered_by_pong : ∃ n s,
    run (Link.step sampleSerde) Link.start
        (lateAnswer pingRequest stopRequest DaemonState.initial pingAnswers n)=some s ∧
      (stopRequest,some pongResponse)∈s.finished ∧
      pongResponse.requestId≠stopRequest.requestId ∧ ¬Matched s := by
  obtain ⟨n,s,hrun,hfinished⟩ := @lateAnswer_run sampleSerde pingRequest pingRequest pongResponse
    stopRequest DaemonState.initial pingAnswers texts_short.1 sample_ping texts_short.2 sample_pong
  have hmem : (stopRequest,some pongResponse)∈s.finished := by
    rw [hfinished]
    exact List.mem_cons_of_mem _ List.mem_cons_self
  have hdiffer : pongResponse.requestId≠stopRequest.requestId := by decide
  exact ⟨n,s,hrun,hmem,hdiffer,fun h => hdiffer (h stopRequest pongResponse hmem)⟩

end LiteDroid.IpcCalls
