import LiteDroid.AdbMessages
import LiteDroid.FrameStream

/-!
# A connection of the debug bridge

The loop that reads messages from a peer and replies to them. The peer's
bytes are a list that ends where the peer closes; writes succeed. A panic can
only come from the counter of local identifiers, in builds that check it.
-/

namespace LiteDroid.AdbConnection

open CoreResults CoreText LittleEndian FrameStream AdbMessages

/-- The next message of a stream. Header, payload and decoding each end the
connection when they fail. -/
def nextMessage (input : List UInt8) : Option (AdbMessage×List UInt8) :=
  match readExact adbHeaderSize input with
  | none => none
  | some (header,rest) =>
    let dataLen := (wordLe (field header 12)).toNat
    match if 0 < dataLen then readExact dataLen rest else some ([],rest) with
    | none => none
    | some (payload,rest) =>
      match decode (header++payload) with
      | .error _ => none
      | .ok msg => some (msg,rest)

/-- Count up a 32-bit counter. -/
def increment (profile : Profile) (n : UInt32) : Outcome UInt32 :=
  match profile with
  | .release => .ok (n+1)
  | .dev => if n.toNat+1 < 2^32 then .ok (n+1) else .error (.panic .arithmeticOverflow)

/-- What a message makes the connection do. -/
structure Reaction where
  /-- Messages to send. -/
  replies : List AdbMessage
  /-- The counter of local identifiers afterwards. -/
  nextLocalId : UInt32
  /-- Whether the connection ends. -/
  stop : Bool

/-- React to a message. A destination is compared with texts of plain letters,
which a lossily decoded text equals only if the bytes do. -/
def react (profile : Profile) (nextLocalId : UInt32) (msg : AdbMessage) : Outcome Reaction :=
  if msg.command=cmdOpen then
    match increment profile nextLocalId with
    | .error fault => .error fault
    | .ok next =>
      let localId := nextLocalId
      let remoteId := msg.arg0
      if msg.data=asBytes "host:version" then
        .ok ⟨[.okay localId remoteId,.writeMsg localId remoteId (asBytes "00040024")],next,false⟩
      else if msg.data=asBytes "host:devices" then
        .ok ⟨[.okay localId remoteId,
          .writeMsg localId remoteId (asBytes "LITEDROID001\tdevice")],next,false⟩
      else if msg.data=asBytes "host:kill" then .ok ⟨[.close localId remoteId],next,true⟩
      else .ok ⟨[.okay localId remoteId],next,false⟩
  else if msg.command=cmdCnxn then
    .ok ⟨[.connect "device::litedroid" adbMaxPayload],nextLocalId,false⟩
  else if msg.command=cmdOkay ∨ msg.command=cmdWrte then .ok ⟨[],nextLocalId,false⟩
  else if msg.command=cmdClse then .ok ⟨[],nextLocalId,true⟩
  else .ok ⟨[],nextLocalId,false⟩

/-- What a connection did. -/
structure ClientReport where
  /-- Normal return or a panic. -/
  outcome : Outcome Unit
  /-- The bytes written. -/
  written : List UInt8
  /-- The messages decoded and dispatched, in order. -/
  dispatched : List AdbMessage

/-- A well-formed message at the start of a stream is the next one. -/
theorem nextMessage_encode {m : AdbMessage} (h : m.WellFormed) (rest : List UInt8) :
    nextMessage (m.encode++rest)=some (m,rest) := by
  have hheader : readExact adbHeaderSize (m.encode++rest)=some (m.header,m.data++rest) := by
    rw [encode_eq,List.append_assoc,←header_length m,readExact_append]
  have hlength : (wordLe (field m.header 12)).toNat=m.data.length := by
    rw [header_dataLength,wordLe_leWord,h.length_eq]
  have hpayload : (if 0 < m.data.length then readExact m.data.length (m.data++rest)
      else some ([],m.data++rest))=some (m.data,rest) := by
    cases m.data with
    | nil => rfl
    | cons b later =>
      have hpos : 0 < (b::later).length := Nat.zero_lt_succ _
      rw [if_pos hpos,readExact_append]
  have hdecode : decode (m.header++m.data)=.ok m := by
    have hd := decode_complete h []
    rw [List.append_nil,encode_eq] at hd
    exact hd
  unfold nextMessage
  rw [hheader]
  dsimp only
  rw [hlength,hpayload]
  dsimp only
  rw [hdecode]

/-- The next message of a stream is the well-formed one that it starts with. -/
theorem nextMessage_iff {input rest : List UInt8} {m : AdbMessage} :
    nextMessage input=some (m,rest) ↔ m.WellFormed ∧ input=m.encode++rest := by
  constructor
  · intro h
    unfold nextMessage at h
    cases hheader : readExact adbHeaderSize input with
    | none =>
      rw [hheader] at h
      cases h
    | some parts =>
      obtain ⟨header,body⟩ := parts
      rw [hheader] at h
      dsimp only at h
      obtain ⟨rfl,hsize⟩ := readExact_some hheader
      have hheaderLength : header.length=24 := hsize
      split at h
      · cases h
      · rename_i payload left hpayload
        have hbody : body=payload++left ∧ payload.length=(wordLe (field header 12)).toNat := by
          split at hpayload
          · exact readExact_some hpayload
          · rename_i hzero
            obtain ⟨rfl,rfl⟩ := Prod.mk.inj (Option.some.inj hpayload)
            exact ⟨rfl,(Nat.eq_zero_of_not_pos hzero).symm⟩
        obtain ⟨rfl,hlength⟩ := hbody
        split at h
        · cases h
        · rename_i msg hdecode
          obtain ⟨rfl,rfl⟩ := Prod.mk.inj (Option.some.inj h)
          obtain ⟨hdata,hwell⟩ := decode_sound hdecode
          obtain ⟨_,-,-,-,hfields⟩ := decode_ok hdecode
          have hannounced : msg.dataLength=wordLe (field header 12) := by
            rw [← field_append (by omega) payload]
            exact congrArg AdbMessage.dataLength hfields
          have hall : (header++payload).drop (adbHeaderSize+msg.dataLength.toNat)=[] := by
            rw [List.drop_eq_nil_iff,List.length_append,hsize,hlength,hannounced]
          rw [hall,List.append_nil] at hdata
          exact ⟨hwell,by rw [← List.append_assoc,hdata]⟩
  · rintro ⟨hwell,rfl⟩
    exact nextMessage_encode hwell rest

/-- A message that was read leaves less of the stream. -/
theorem nextMessage_length {input rest : List UInt8} {msg : AdbMessage}
    (h : nextMessage input=some (msg,rest)) : rest.length < input.length := by
  obtain ⟨-,rfl⟩ := nextMessage_iff.mp h
  have hsize : adbHeaderSize=24 := rfl
  rw [List.length_append,encode_length]
  omega

/-- The message loop. -/
def serve (profile : Profile) (nextLocalId : UInt32) (input : List UInt8) : ClientReport :=
  match _h : nextMessage input with
  | none => ⟨.ok (),[],[]⟩
  | some (msg,rest) =>
    match react profile nextLocalId msg with
    | .error fault => ⟨.error fault,[],[msg]⟩
    | .ok reaction =>
      let sent := reaction.replies.flatMap AdbMessage.encode
      if reaction.stop then ⟨.ok (),sent,[msg]⟩
      else
        let later := serve profile reaction.nextLocalId rest
        ⟨later.outcome,sent++later.written,msg::later.dispatched⟩
termination_by input.length
decreasing_by exact nextMessage_length _h

/-- Handle a connection: send the handshake, then serve messages. -/
def handleClient (profile : Profile) (input : List UInt8) : ClientReport :=
  let report := serve profile 1 input
  {report with
    written := (AdbMessage.connect "device::litedroid" adbMaxPayload).encode++report.written}

/-- A message that opens a stream. -/
def IsOpen (m : AdbMessage) : Prop := m.command=cmdOpen

instance (m : AdbMessage) : Decidable (IsOpen m) := inferInstanceAs (Decidable (_=_))

/-- A message that ends the connection: a close, or an open of `host:kill`. -/
def Ends (m : AdbMessage) : Prop :=
  m.command=cmdClse ∨ (IsOpen m ∧ m.data=asBytes "host:kill")

instance (m : AdbMessage) : Decidable (Ends m) := inferInstanceAs (Decidable (_∨_))

/-- The messages up to and including the first that ends the connection. -/
def served : List AdbMessage → List AdbMessage
  | [] => []
  | m::rest => if Ends m then [m] else m::served rest

/-- How many messages open a stream. -/
def opens (messages : List AdbMessage) : ℕ := messages.countP fun m => IsOpen m

/-- The local identifier of an open that comes after some messages. -/
def ownId (before : List AdbMessage) : UInt32 := UInt32.ofNat (1+opens before)

/-- The replies to a message that comes after others. -/
def answer (before : List AdbMessage) (m : AdbMessage) : List AdbMessage :=
  if IsOpen m then
    if m.data=asBytes "host:kill" then [.close (ownId before) m.arg0]
    else AdbMessage.okay (ownId before) m.arg0::
      if m.data=asBytes "host:version" then
        [.writeMsg (ownId before) m.arg0 (asBytes "00040024")]
      else if m.data=asBytes "host:devices" then
        [.writeMsg (ownId before) m.arg0 (asBytes "LITEDROID001\tdevice")]
      else []
  else if m.command=cmdCnxn then [.connect "device::litedroid" adbMaxPayload]
  else []

/-- The replies to messages that come after others, message by message. -/
def answers (before : List AdbMessage) : List AdbMessage → List AdbMessage
  | [] => []
  | m::rest => answer before m++answers (before++[m]) rest

/-- One more message opens at most one more stream. -/
theorem opens_cons (m : AdbMessage) (rest : List AdbMessage) :
    opens (m::rest)=opens rest+if IsOpen m then 1 else 0 := by
  simp only [opens,List.countP_cons,decide_eq_true_eq]

/-- A message at the end opens at most one more stream. -/
theorem opens_snoc (before : List AdbMessage) (m : AdbMessage) :
    opens (before++[m])=opens before+if IsOpen m then 1 else 0 := by
  simp only [opens,List.countP_append,List.countP_singleton,decide_eq_true_eq]

/-- The messages served start with the first. -/
theorem served_cons (m : AdbMessage) (later : List AdbMessage) :
    ∃ more, served (m::later)=m::more := by
  rw [served]
  split
  · exact ⟨[],rfl⟩
  · exact ⟨served later,rfl⟩

/-- Local identifiers count up from one as long as they fit. -/
theorem ownId_toNat {before : List AdbMessage} (h : opens before+1 ≤ 2^32-1) :
    (ownId before).toNat=1+opens before := by
  rw [ownId,UInt32.toNat_ofNat',Nat.mod_eq_of_lt (by omega)]

/-- The counter moves on to the identifier of the next open. -/
theorem increment_ownId {profile : Profile} {before : List AdbMessage}
    (h : profile=.dev → opens before+1 < 2^32-1) :
    increment profile (ownId before)=.ok (UInt32.ofNat (1+(opens before+1))) := by
  have hnext : ownId before+1=UInt32.ofNat (1+(opens before+1)) := by
    rw [ownId,←UInt32.ofNat_one,←UInt32.ofNat_add,Nat.add_assoc]
  cases profile with
  | release => rw [increment,hnext]
  | dev =>
    have hlt := h rfl
    have hval := ownId_toNat (Nat.le_of_lt hlt)
    have hroom : (ownId before).toNat+1 < 2^32 := by omega
    rw [increment,if_pos hroom,hnext]

/-- The checked counter has no identifier after the last one. -/
theorem increment_full {before : List AdbMessage} (h : opens before+1=2^32-1) :
    increment .dev (ownId before)=.error (.panic .arithmeticOverflow) := by
  have hval := ownId_toNat (Nat.le_of_eq h)
  have hfull : ¬(ownId before).toNat+1 < 2^32 := by omega
  rw [increment,if_neg hfull]

/-- An open that finds room for its identifier is answered. -/
theorem react_open {profile : Profile} {before : List AdbMessage} {m : AdbMessage}
    (hopen : IsOpen m) (h : profile=.dev → opens before+1 < 2^32-1) :
    react profile (ownId before) m=.ok ⟨answer before m,ownId (before++[m]),decide (Ends m)⟩ := by
  have hcommand : m.command=cmdOpen := hopen
  have hnext : ownId (before++[m])=UInt32.ofNat (1+(opens before+1)) := by
    rw [ownId,opens_snoc,if_pos hopen]
  have hclose : m.command≠cmdClse := by
    rw [hcommand]
    decide
  have hends : Ends m ↔ m.data=asBytes "host:kill" := by
    simp only [Ends,hclose,hopen,false_or,true_and]
  rw [react,if_pos hcommand,increment_ownId h,hnext,answer,if_pos hopen]
  dsimp only
  by_cases hkill : m.data=asBytes "host:kill"
  · have hversion : asBytes "host:kill"≠asBytes "host:version" := by decide
    have hdevices : asBytes "host:kill"≠asBytes "host:devices" := by decide
    rw [decide_eq_true (hends.mpr hkill),hkill,if_neg hversion,if_neg hdevices,if_pos rfl,
      if_pos rfl]
  · rw [decide_eq_false (mt hends.mp hkill),if_neg hkill,if_neg hkill]
    by_cases hversion : m.data=asBytes "host:version"
    · rw [if_pos hversion,if_pos hversion]
    · rw [if_neg hversion,if_neg hversion]
      by_cases hdevices : m.data=asBytes "host:devices"
      · rw [if_pos hdevices,if_pos hdevices]
      · rw [if_neg hdevices,if_neg hdevices]

/-- A message that opens no stream is answered and leaves the counter. -/
theorem react_other {profile : Profile} {before : List AdbMessage} {m : AdbMessage}
    (hopen : ¬IsOpen m) :
    react profile (ownId before) m=.ok ⟨answer before m,ownId (before++[m]),decide (Ends m)⟩ := by
  have hcommand : m.command≠cmdOpen := hopen
  have hnext : ownId (before++[m])=ownId before := by
    rw [ownId,opens_snoc,if_neg hopen,Nat.add_zero,ownId]
  have hends : Ends m ↔ m.command=cmdClse := by
    simp only [Ends,hopen,false_and,or_false]
  rw [react,if_neg hcommand,hnext,answer,if_neg hopen]
  by_cases hconnect : m.command=cmdCnxn
  · have hclose : m.command≠cmdClse := by
      rw [hconnect]
      decide
    rw [if_pos hconnect,if_pos hconnect,decide_eq_false (mt hends.mp hclose)]
  · rw [if_neg hconnect,if_neg hconnect]
    by_cases hdata : m.command=cmdOkay ∨ m.command=cmdWrte
    · have hclose : m.command≠cmdClse := by
        intro heq
        rw [heq] at hdata
        exact absurd hdata (by decide)
      rw [if_pos hdata,decide_eq_false (mt hends.mp hclose)]
    · rw [if_neg hdata]
      by_cases hclose : m.command=cmdClse
      · rw [if_pos hclose,decide_eq_true (hends.mpr hclose)]
      · rw [if_neg hclose,decide_eq_false (mt hends.mp hclose)]

/-- An open that finds the checked counter full panics. -/
theorem react_full {before : List AdbMessage} {m : AdbMessage} (hopen : IsOpen m)
    (h : opens before+1=2^32-1) :
    react .dev (ownId before) m=.error (.panic .arithmeticOverflow) := by
  have hcommand : m.command=cmdOpen := hopen
  rw [react,if_pos hcommand,increment_full h]

/-- An empty stream ends the connection. -/
theorem serve_nil (profile : Profile) (nextLocalId : UInt32) :
    serve profile nextLocalId []=⟨.ok (),[],[]⟩ := by
  rw [serve]
  rfl

/-- The loop's pass over a well-formed message. -/
theorem serve_encode (profile : Profile) (nextLocalId : UInt32) {m : AdbMessage}
    (h : m.WellFormed) (rest : List UInt8) :
    serve profile nextLocalId (m.encode++rest)=
      match react profile nextLocalId m with
      | .error fault => ⟨.error fault,[],[m]⟩
      | .ok reaction =>
        let sent := reaction.replies.flatMap AdbMessage.encode
        if reaction.stop then ⟨.ok (),sent,[m]⟩
        else
          let later := serve profile reaction.nextLocalId rest
          ⟨later.outcome,sent++later.written,m::later.dispatched⟩ := by
  have hnext := nextMessage_encode h rest
  rw [serve]
  split
  · rename_i hnone
    rw [hnext] at hnone
    cases hnone
  · rename_i msg left hsome
    rw [hnext] at hsome
    obtain ⟨rfl,rfl⟩ := Prod.mk.inj (Option.some.inj hsome)
    rfl

/-- The loop over a message that is answered. -/
theorem serve_answered {profile : Profile} {before : List AdbMessage} {m : AdbMessage}
    (hwell : m.WellFormed) (h : IsOpen m → profile=.dev → opens before+1 < 2^32-1)
    (rest : List UInt8) :
    serve profile (ownId before) (m.encode++rest)=
      if Ends m then ⟨.ok (),(answer before m).flatMap AdbMessage.encode,[m]⟩
      else
        let later := serve profile (ownId (before++[m])) rest
        ⟨later.outcome,(answer before m).flatMap AdbMessage.encode++later.written,
          m::later.dispatched⟩ := by
  have hreact : react profile (ownId before) m=
      .ok ⟨answer before m,ownId (before++[m]),decide (Ends m)⟩ := by
    by_cases hopen : IsOpen m
    · exact react_open hopen (h hopen)
    · exact react_other hopen
  rw [serve_encode profile _ hwell,hreact]
  simp only [decide_eq_true_eq]

/-- With room for every identifier the loop dispatches the messages up to the
first that ends the connection and answers each of them. -/
theorem serve_answers {profile : Profile} {messages : List AdbMessage}
    (hwell : ∀ m∈messages, m.WellFormed) (before : List AdbMessage)
    (h : profile=.dev → opens before+opens (served messages) < 2^32-1) :
    serve profile (ownId before) (messages.flatMap AdbMessage.encode)=
      ⟨.ok (),(answers before (served messages)).flatMap AdbMessage.encode,served messages⟩ := by
  induction messages generalizing before with
  | nil => exact serve_nil profile (ownId before)
  | cons m later ih =>
    have hm := hwell m List.mem_cons_self
    have hlater : ∀ w∈later, w.WellFormed := fun w hw => hwell w (List.mem_cons_of_mem m hw)
    have hroom : IsOpen m → profile=.dev → opens before+1 < 2^32-1 := by
      intro hopen hdev
      obtain ⟨more,hmore⟩ := served_cons m later
      have hall := h hdev
      rw [hmore,opens_cons,if_pos hopen] at hall
      omega
    rw [List.flatMap_cons,serve_answered hm hroom]
    by_cases hends : Ends m
    · rw [served,if_pos hends,if_pos hends,answers,answers,List.append_nil]
    · rw [served,if_neg hends] at h ⊢
      have hrest := ih hlater (before++[m]) (by
        intro hdev
        have hall := h hdev
        rw [opens_cons] at hall
        rw [opens_snoc]
        omega)
      rw [if_neg hends,hrest,answers,List.flatMap_append]

/-- An open is answered by at least one byte. -/
theorem answer_open_length (before : List AdbMessage) {m : AdbMessage} (h : IsOpen m) :
    0 < ((answer before m).flatMap AdbMessage.encode).length := by
  have hpos : ∀ (reply : AdbMessage) (later : List AdbMessage),
      0 < ((reply::later).flatMap AdbMessage.encode).length := by
    intro reply later
    have hlen := encode_length reply
    have hsize : adbHeaderSize=24 := rfl
    rw [List.flatMap_cons,List.length_append]
    omega
  rw [answer,if_pos h]
  split
  · exact hpos _ _
  · exact hpos _ _

/-- Without room for every identifier the checked loop panics before it has
written every answer. -/
theorem serve_full {messages : List AdbMessage} (hwell : ∀ m∈messages, m.WellFormed)
    (before : List AdbMessage) (hbefore : opens before < 2^32-1)
    (h : 2^32-1 ≤ opens before+opens (served messages)) :
    (serve .dev (ownId before) (messages.flatMap AdbMessage.encode)).outcome=
        .error (.panic .arithmeticOverflow) ∧
      (serve .dev (ownId before) (messages.flatMap AdbMessage.encode)).written.length <
        ((answers before (served messages)).flatMap AdbMessage.encode).length := by
  induction messages generalizing before with
  | nil =>
    have hnone : opens (served [])=0 := rfl
    omega
  | cons m later ih =>
    have hm := hwell m List.mem_cons_self
    have hlater : ∀ w∈later, w.WellFormed := fun w hw => hwell w (List.mem_cons_of_mem m hw)
    rw [List.flatMap_cons]
    by_cases hfull : IsOpen m ∧ opens before+1=2^32-1
    · obtain ⟨more,hmore⟩ := served_cons m later
      have hpos := answer_open_length before hfull.1
      rw [serve_encode .dev _ hm,react_full hfull.1 hfull.2,hmore,answers,List.flatMap_append,
        List.length_append]
      exact ⟨rfl,Nat.lt_of_lt_of_le hpos (Nat.le_add_right _ _)⟩
    · have hroom : IsOpen m → opens before+1 < 2^32-1 := by
        intro hopen
        have hne : opens before+1≠2^32-1 := fun heq => hfull ⟨hopen,heq⟩
        omega
      have hsnoc : opens (before++[m]) < 2^32-1 := by
        rw [opens_snoc]
        split
        · rename_i hopen
          exact hroom hopen
        · exact hbefore
      rw [serve_answered hm fun hopen _ => hroom hopen]
      by_cases hends : Ends m
      · rw [served,if_pos hends,opens_cons] at h
        rw [opens_snoc] at hsnoc
        have hnone : opens []=0 := rfl
        omega
      · rw [served,if_neg hends] at h ⊢
        rw [opens_cons] at h
        rw [if_neg hends]
        obtain ⟨houtcome,hwritten⟩ := ih hlater (before++[m]) hsnoc (by
          rw [opens_snoc]
          omega)
        refine ⟨houtcome,?_⟩
        rw [answers,List.flatMap_append,List.length_append,List.length_append]
        exact Nat.add_lt_add_left hwritten _

/-- The handshake and the replies to messages, as bytes. -/
def replyBytes (messages : List AdbMessage) : List UInt8 :=
  (AdbMessage.connect "device::litedroid" adbMaxPayload::answers [] messages).flatMap
    AdbMessage.encode

/-- A connection with room for every identifier. -/
theorem handleClient_answers {profile : Profile} {messages : List AdbMessage}
    (hwell : ∀ m∈messages, m.WellFormed)
    (h : profile=.dev → opens (served messages) < 2^32-1) :
    handleClient profile (messages.flatMap AdbMessage.encode)=
      ⟨.ok (),replyBytes (served messages),served messages⟩ := by
  have hserve := serve_answers hwell [] (by
    intro hdev
    have hnone : opens []=0 := rfl
    have hroom := h hdev
    omega)
  have hfirst : ownId []=1 := rfl
  rw [hfirst] at hserve
  rw [handleClient,hserve,replyBytes,List.flatMap_cons]

/-- A connection that runs out of identifiers. -/
theorem handleClient_full {messages : List AdbMessage} (hwell : ∀ m∈messages, m.WellFormed)
    (h : 2^32-1 ≤ opens (served messages)) :
    (handleClient .dev (messages.flatMap AdbMessage.encode)).outcome=
        .error (.panic .arithmeticOverflow) ∧
      (handleClient .dev (messages.flatMap AdbMessage.encode)).written≠
        replyBytes (served messages) := by
  have hnone : opens []=0 := rfl
  have hfirst : ownId []=1 := rfl
  have hserve := serve_full hwell [] (by omega) (by omega)
  rw [hfirst] at hserve
  refine ⟨hserve.1,?_⟩
  intro heq
  have hlen := congrArg List.length heq
  rw [replyBytes,List.flatMap_cons,List.length_append,handleClient,List.length_append] at hlen
  have hshort := hserve.2
  omega

/-- Fed with the encodings of well-formed messages, a connection dispatches
exactly those up to the first that ends it, and writes the handshake and then
the replies to each, exactly when the counter of local identifiers is unchecked
or fewer than two to the 32 minus one of them open a stream. -/
theorem connection_answers_iff (profile : Profile) (messages : List AdbMessage)
    (hwell : ∀ m∈messages, m.WellFormed) :
    (handleClient profile (messages.flatMap AdbMessage.encode)).dispatched=served messages ∧
        (handleClient profile (messages.flatMap AdbMessage.encode)).written=
          replyBytes (served messages) ↔
      (profile=.dev → opens (served messages) < 2^32-1) := by
  constructor
  · rintro ⟨-,hwritten⟩ rfl
    by_contra hfull
    exact (handleClient_full hwell (Nat.le_of_not_lt hfull)).2 hwritten
  · intro h
    rw [handleClient_answers hwell h]
    exact ⟨rfl,rfl⟩

/-- The session of a peer that asks for the version, writes and closes. -/
theorem connection_answers_iff_version :
    (handleClient .dev
        ([.open 7 "host:version",.writeMsg 7 1 [1,2],.close 7 1,.okay 7 1].flatMap
          AdbMessage.encode)).dispatched=
          [.open 7 "host:version",.writeMsg 7 1 [1,2],.close 7 1] ∧
      (handleClient .dev
        ([.open 7 "host:version",.writeMsg 7 1 [1,2],.close 7 1,.okay 7 1].flatMap
          AdbMessage.encode)).written=
        ([.connect "device::litedroid" adbMaxPayload,.okay 1 7,
          .writeMsg 1 7 (asBytes "00040024")] : List AdbMessage).flatMap AdbMessage.encode := by
  have h := (connection_answers_iff .dev
    [.open 7 "host:version",.writeMsg 7 1 [1,2],.close 7 1,.okay 7 1] (by
      intro m hm
      simp only [List.mem_cons,List.not_mem_nil,or_false] at hm
      obtain rfl | rfl | rfl | rfl := hm <;> exact ⟨by decide,by decide⟩)).mpr (by
    intro hdev
    decide)
  exact h

/-- Messages of which none ends the connection are all served. -/
theorem served_eq_self {messages : List AdbMessage} (h : ∀ m∈messages, ¬Ends m) :
    served messages=messages := by
  induction messages with
  | nil => rfl
  | cons m later ih =>
    have hlater := ih fun w hw => h w (List.mem_cons_of_mem m hw)
    rw [served,if_neg (h m List.mem_cons_self),hlater]

/-- A peer that opens a stream again and again is served every time. -/
theorem opens_served_replicate {m : AdbMessage} (hopen : IsOpen m) (hends : ¬Ends m) (n : ℕ) :
    opens (served (List.replicate n m))=n := by
  have hall : ∀ w∈List.replicate n m, ¬Ends w := by
    intro w hw
    rw [List.eq_of_mem_replicate hw]
    exact hends
  rw [served_eq_self hall,opens,List.countP_replicate,if_pos (decide_eq_true hopen)]

/-- A peer that opens two to the 32 minus one streams makes a build with overflow
checks panic before the last of them is answered. -/
theorem last_identifier_panics :
    (∀ m∈List.replicate (2^32-1) (AdbMessage.open 7 "shell:"), m.WellFormed) ∧
      (handleClient .dev ((List.replicate (2^32-1) (AdbMessage.open 7 "shell:")).flatMap
        AdbMessage.encode)).outcome=.error (.panic .arithmeticOverflow) ∧
      (handleClient .dev ((List.replicate (2^32-1) (AdbMessage.open 7 "shell:")).flatMap
        AdbMessage.encode)).written≠
          replyBytes (served (List.replicate (2^32-1) (AdbMessage.open 7 "shell:"))) := by
  have hopen : IsOpen (AdbMessage.open 7 "shell:") := rfl
  have hends : ¬Ends (AdbMessage.open 7 "shell:") := by decide
  have hwell : ∀ m∈List.replicate (2^32-1) (AdbMessage.open 7 "shell:"), m.WellFormed := by
    intro m hm
    rw [List.eq_of_mem_replicate hm]
    exact ⟨by decide,rfl⟩
  have hcount := opens_served_replicate hopen hends (2^32-1)
  exact ⟨hwell,handleClient_full hwell (Nat.le_of_eq hcount.symm)⟩

end LiteDroid.AdbConnection
