import LiteDroid.AdbConnection
import Mathlib.Data.List.Nodup

/-!
# Sessions of the debug bridge

What the message loop does on an arbitrary stream of bytes, pass by pass: the
value of its counter, the payload it asks for and the message it dispatches. A
stream is a sequence of well-formed messages up to the first header or payload
that is short or malformed. The counter wraps after two to the 32 opens, and a
payload is asked for whatever the header announces.
-/

namespace LiteDroid.AdbSessions

open CoreResults CoreText LittleEndian FrameStream AdbMessages AdbConnection

/-- A pass of the message loop that read a header. -/
structure Pass where
  /-- The counter of local identifiers before it. -/
  nextLocalId : UInt32
  /-- The length of the payload that the header announces. -/
  announced : ℕ
  /-- The length of the payload that is allocated and asked for. -/
  requested : ℕ
  /-- The message that is dispatched. -/
  message : Option AdbMessage

/-- The length that the header at the start of a stream announces. -/
def announcedLength (input : List UInt8) : Option ℕ :=
  (readExact adbHeaderSize input).map fun parts => (wordLe (field parts.1 12)).toNat

/-- The passes of the message loop. -/
def passes (profile : Profile) (nextLocalId : UInt32) (input : List UInt8) : List Pass :=
  match announcedLength input with
  | none => []
  | some announced =>
    let requested := if 0 < announced then announced else 0
    match _h : nextMessage input with
    | none => [⟨nextLocalId,announced,requested,none⟩]
    | some (msg,rest) =>
      ⟨nextLocalId,announced,requested,some msg⟩::
        match react profile nextLocalId msg with
        | .error _ => []
        | .ok reaction => if reaction.stop then [] else passes profile reaction.nextLocalId rest
termination_by input.length
decreasing_by exact nextMessage_length _h

/-- The header of a message announces the length of its payload. -/
theorem announcedLength_encode {m : AdbMessage} (h : m.WellFormed) (rest : List UInt8) :
    announcedLength (m.encode++rest)=some m.data.length := by
  rw [announcedLength,encode_eq,List.append_assoc,← header_length m,readExact_append,
    Option.map_some,header_dataLength,wordLe_leWord,h.length_eq]

/-- A stream without a whole header holds no message. -/
theorem nextMessage_short {input : List UInt8} (h : announcedLength input=none) :
    nextMessage input=none := by
  rw [announcedLength,Option.map_eq_none_iff] at h
  rw [nextMessage,h]

/-- A stream is too short for a header, holds a header and no message, or starts
with a well-formed message: what holds of the first two and is inherited by a
message in front holds of every stream. -/
theorem stream_induction {P : List UInt8 → Prop}
    (short : ∀ input, announcedLength input=none → P input)
    (stuck : ∀ input announced, announcedLength input=some announced →
      nextMessage input=none → P input)
    (message : ∀ (m : AdbMessage) rest, m.WellFormed → P rest → P (m.encode++rest))
    (input : List UInt8) : P input := by
  induction hlength : input.length using Nat.strong_induction_on generalizing input with
  | _ n ih =>
    cases hannounced : announcedLength input with
    | none => exact short input hannounced
    | some announced =>
      cases hnext : nextMessage input with
      | none => exact stuck input announced hannounced hnext
      | some parts =>
        obtain ⟨m,rest⟩ := parts
        obtain ⟨hwell,rfl⟩ := nextMessage_iff.mp hnext
        have hless := nextMessage_length hnext
        exact message m rest hwell (ih rest.length (by omega) rest rfl)

/-- Without a whole header there is no pass. -/
theorem passes_short {input : List UInt8} (h : announcedLength input=none) (profile : Profile)
    (nextLocalId : UInt32) : passes profile nextLocalId input=[] := by
  rw [passes,h]

/-- What is asked for is what the header announces, also where that is nothing. -/
theorem requested_eq (announced : ℕ) : (if 0 < announced then announced else 0)=announced := by
  split
  · rfl
  · omega

/-- A header without a message makes the last pass. -/
theorem passes_stuck {input : List UInt8} {announced : ℕ}
    (hannounced : announcedLength input=some announced) (hnext : nextMessage input=none)
    (profile : Profile) (nextLocalId : UInt32) :
    passes profile nextLocalId input=[⟨nextLocalId,announced,announced,none⟩] := by
  rw [passes,hannounced]
  dsimp only
  rw [requested_eq]
  split
  · rfl
  · rename_i msg rest hsome
    rw [hnext] at hsome
    cases hsome

/-- The pass over a well-formed message. -/
theorem passes_encode (profile : Profile) (nextLocalId : UInt32) {m : AdbMessage}
    (h : m.WellFormed) (rest : List UInt8) :
    passes profile nextLocalId (m.encode++rest)=
      ⟨nextLocalId,m.data.length,m.data.length,some m⟩::
        match react profile nextLocalId m with
        | .error _ => []
        | .ok reaction => if reaction.stop then [] else passes profile reaction.nextLocalId rest := by
  have hnext := nextMessage_encode h rest
  rw [passes,announcedLength_encode h]
  dsimp only
  rw [requested_eq]
  split
  · rename_i hnone
    rw [hnext] at hnone
    cases hnone
  · rename_i msg left hsome
    rw [hnext] at hsome
    obtain ⟨rfl,rfl⟩ := Prod.mk.inj (Option.some.inj hsome)
    rfl

/-- The pass over a message that is answered. -/
theorem passes_answered {profile : Profile} {before : List AdbMessage} {m : AdbMessage}
    (hwell : m.WellFormed) (h : IsOpen m → profile=.dev → opens before+1 < 2^32-1)
    (rest : List UInt8) :
    passes profile (ownId before) (m.encode++rest)=
      ⟨ownId before,m.data.length,m.data.length,some m⟩::
        if Ends m then [] else passes profile (ownId (before++[m])) rest := by
  have hreact : react profile (ownId before) m=
      .ok ⟨answer before m,ownId (before++[m]),decide (Ends m)⟩ := by
    by_cases hopen : IsOpen m
    · exact react_open hopen (h hopen)
    · exact react_other hopen
  rw [passes_encode profile _ hwell,hreact]
  simp only [decide_eq_true_eq]

/-- What a pass sends. -/
def Pass.sent (profile : Profile) (pass : Pass) : List UInt8 :=
  match pass.message with
  | none => []
  | some m =>
    match react profile pass.nextLocalId m with
    | .error _ => []
    | .ok reaction => reaction.replies.flatMap AdbMessage.encode

/-- A stream without a message ends the connection. -/
theorem serve_none {input : List UInt8} (h : nextMessage input=none) (profile : Profile)
    (nextLocalId : UInt32) : serve profile nextLocalId input=⟨.ok (),[],[]⟩ := by
  rw [serve]
  split
  · rfl
  · rename_i msg rest hsome
    rw [h] at hsome
    cases hsome

/-- The passes are those of the message loop: they dispatch its messages and send
what it writes. -/
theorem passes_serve (profile : Profile) (input : List UInt8) : ∀ nextLocalId,
    (passes profile nextLocalId input).filterMap Pass.message=
        (serve profile nextLocalId input).dispatched ∧
      (passes profile nextLocalId input).flatMap (Pass.sent profile)=
        (serve profile nextLocalId input).written := by
  induction input using stream_induction with
  | short input h =>
    intro nextLocalId
    rw [passes_short h,serve_none (nextMessage_short h)]
    exact ⟨rfl,rfl⟩
  | stuck input announced hannounced hnext =>
    intro nextLocalId
    rw [passes_stuck hannounced hnext,serve_none hnext]
    exact ⟨rfl,rfl⟩
  | message m rest hwell ih =>
    intro nextLocalId
    rw [passes_encode profile _ hwell,serve_encode profile _ hwell]
    cases hreact : react profile nextLocalId m with
    | error fault =>
      refine ⟨rfl,?_⟩
      simp only [List.flatMap_cons,List.flatMap_nil,Pass.sent,hreact,List.append_nil]
    | ok reaction =>
      obtain ⟨hdispatched,hwritten⟩ := ih reaction.nextLocalId
      simp only [List.filterMap_cons,List.flatMap_cons,Pass.sent,hreact]
      split
      · exact ⟨rfl,List.append_nil _⟩
      · exact ⟨congrArg (List.cons m) hdispatched,congrArg (List.append _) hwritten⟩

/-- The local identifier that a pass assigns to an open. -/
def Pass.assigned (pass : Pass) : Option UInt32 :=
  match pass.message with
  | none => none
  | some m => if IsOpen m then some pass.nextLocalId else none

/-- The identifiers that the passes assign are distinct and not zero. -/
structure Fresh (trace : List Pass) : Prop where
  /-- No two are equal. -/
  distinct : (trace.filterMap Pass.assigned).Nodup
  /-- None is zero. -/
  nonzero : 0∉trace.filterMap Pass.assigned

/-- The messages that an unchecked loop dispatches. -/
def dispatched (before : List AdbMessage) (input : List UInt8) : List AdbMessage :=
  (passes .release (ownId before) input).filterMap Pass.message

/-- The messages dispatched from a stream that starts with one. -/
theorem dispatched_encode (before : List AdbMessage) {m : AdbMessage} (h : m.WellFormed)
    (rest : List UInt8) :
    dispatched before (m.encode++rest)=
      m::if Ends m then [] else dispatched (before++[m]) rest := by
  unfold dispatched
  rw [passes_answered h fun _ hdev => by cases hdev]
  split
  · rfl
  · rfl

/-- From a stream that starts with no message none is dispatched. -/
theorem dispatched_none {input : List UInt8} (h : nextMessage input=none)
    (before : List AdbMessage) : dispatched before input=[] := by
  unfold dispatched
  rw [(passes_serve .release input (ownId before)).1,serve_none h]

/-- The identifiers that an unchecked loop assigns count up, one for each open. -/
theorem assigned_range (input : List UInt8) : ∀ before,
    (passes .release (ownId before) input).filterMap Pass.assigned=
      (List.range' (1+opens before) (opens (dispatched before input))).map UInt32.ofNat := by
  induction input using stream_induction with
  | short input h =>
    intro before
    rw [dispatched_none (nextMessage_short h),passes_short h]
    rfl
  | stuck input announced hannounced hnext =>
    intro before
    rw [dispatched_none hnext,passes_stuck hannounced hnext]
    rfl
  | message m rest hwell ih =>
    intro before
    have hlater : (if Ends m then [] else passes .release (ownId (before++[m])) rest).filterMap
        Pass.assigned=(List.range' (1+opens (before++[m]))
          (opens (if Ends m then [] else dispatched (before++[m]) rest))).map UInt32.ofNat := by
      split
      · rfl
      · exact ih (before++[m])
    have hroom : IsOpen m → Profile.release=.dev → opens before+1 < 2^32-1 := by
      intro _ hdev
      cases hdev
    rw [dispatched_encode before hwell,passes_answered hwell hroom,opens_cons]
    rw [opens_snoc] at hlater
    by_cases hopen : IsOpen m
    · rw [if_pos hopen] at hlater
      rw [if_pos hopen,List.range'_succ,List.map_cons,Nat.add_assoc,← hlater]
      simp only [List.filterMap_cons,Pass.assigned,if_pos hopen]
      rfl
    · rw [if_neg hopen,Nat.add_zero] at hlater
      rw [if_neg hopen,Nat.add_zero,← hlater]
      simp only [List.filterMap_cons,Pass.assigned,if_neg hopen]

/-- Identifiers that count up from one are distinct and not zero as long as they
fit. -/
theorem range_fresh_iff (n : ℕ) :
    (((List.range' 1 n).map UInt32.ofNat).Nodup ∧ 0∉(List.range' 1 n).map UInt32.ofNat) ↔
      n < 2^32 := by
  constructor
  · rintro ⟨-,hzero⟩
    by_contra hlarge
    refine hzero (List.mem_map.mpr ⟨2^32,?_,by decide⟩)
    rw [List.mem_range'_1]
    omega
  · intro hsmall
    have hvalue : ∀ i∈List.range' 1 n, (UInt32.ofNat i).toNat=i := by
      intro i hi
      rw [List.mem_range'_1] at hi
      rw [UInt32.toNat_ofNat',Nat.mod_eq_of_lt (by omega)]
    refine ⟨List.Nodup.map_on ?_ List.nodup_range',?_⟩
    · intro i hi j hj heq
      rw [← hvalue i hi,← hvalue j hj,heq]
    · intro hzero
      obtain ⟨i,hi,heq⟩ := List.mem_map.mp hzero
      have hzeroValue := hvalue i hi
      rw [heq] at hzeroValue
      rw [List.mem_range'_1] at hi
      have hnone : (0 : UInt32).toNat=0 := rfl
      omega

/-- The identifiers of a stream are fresh exactly when fewer than two to the 32
opens are dispatched. -/
theorem fresh_iff (input : List UInt8) :
    Fresh (passes .release 1 input) ↔ opens (dispatched [] input) < 2^32 := by
  have hfirst : ownId []=1 := rfl
  have hnone : opens []=0 := rfl
  have hrange := assigned_range input []
  rw [hfirst,hnone] at hrange
  rw [← range_fresh_iff,← hrange]
  exact ⟨fun h => ⟨h.distinct,h.nonzero⟩,fun h => ⟨h.1,h.2⟩⟩

/-- The opens up to the end of the connection are dispatched. -/
theorem served_dispatched {messages : List AdbMessage} (hwell : ∀ m∈messages, m.WellFormed)
    (rest : List UInt8) : ∀ before, opens (served messages) ≤
      opens (dispatched before (messages.flatMap AdbMessage.encode++rest)) := by
  induction messages with
  | nil =>
    intro before
    exact Nat.zero_le _
  | cons m later ih =>
    intro before
    have hlater := ih (fun w hw => hwell w (List.mem_cons_of_mem m hw)) (before++[m])
    rw [List.flatMap_cons,List.append_assoc,dispatched_encode before (hwell m List.mem_cons_self),
      served]
    split
    · exact Nat.le_refl _
    · rw [opens_cons,opens_cons]
      omega

/-- What is dispatched stands at the start of the stream, up to the end of the
connection. -/
theorem dispatched_stream (input : List UInt8) : ∀ before,
    (∀ m∈dispatched before input, m.WellFormed) ∧
      served (dispatched before input)=dispatched before input ∧
      ∃ rest, input=(dispatched before input).flatMap AdbMessage.encode++rest := by
  induction input using stream_induction with
  | short input h =>
    intro before
    rw [dispatched_none (nextMessage_short h)]
    exact ⟨fun _ hm => absurd hm List.not_mem_nil,rfl,input,rfl⟩
  | stuck input announced hannounced hnext =>
    intro before
    rw [dispatched_none hnext]
    exact ⟨fun _ hm => absurd hm List.not_mem_nil,rfl,input,rfl⟩
  | message m rest hwell ih =>
    intro before
    obtain ⟨hall,hserved,left,hleft⟩ := ih (before++[m])
    rw [dispatched_encode before hwell]
    by_cases hends : Ends m
    · rw [if_pos hends,served,if_pos hends]
      refine ⟨?_,rfl,rest,by rw [List.flatMap_singleton]⟩
      intro w hw
      rw [List.mem_singleton.mp hw]
      exact hwell
    · rw [if_neg hends,served,if_neg hends,hserved]
      refine ⟨?_,rfl,left,?_⟩
      · intro w hw
        rcases List.mem_cons.mp hw with rfl | hw
        · exact hwell
        · exact hall w hw
      · rw [List.flatMap_cons,List.append_assoc,← hleft]

/-- The local identifiers of a stream are distinct and not zero, in a build whose
counter wraps, exactly when of every well-formed messages that the stream starts
with fewer than two to the 32, up to the first that ends the connection, are
opens. -/
theorem local_ids_fresh_iff (input : List UInt8) :
    Fresh (passes .release 1 input) ↔
      ∀ messages rest, input=messages.flatMap AdbMessage.encode++rest →
        (∀ m∈messages, m.WellFormed) → opens (served messages) < 2^32 := by
  rw [fresh_iff]
  constructor
  · rintro h messages rest rfl hwell
    exact Nat.lt_of_le_of_lt (served_dispatched hwell rest []) h
  · intro h
    obtain ⟨hwell,hserved,rest,hrest⟩ := dispatched_stream input []
    have hless := h _ rest hrest hwell
    rwa [hserved] at hless

/-- A peer that opens two to the 32 streams is given the identifier zero. -/
theorem wrapped_id_is_zero :
    (∀ m∈List.replicate (2^32) (AdbMessage.open 7 "shell:"), m.WellFormed) ∧
      ¬Fresh (passes .release 1 ((List.replicate (2^32) (AdbMessage.open 7 "shell:")).flatMap
        AdbMessage.encode)) := by
  have hopen : IsOpen (AdbMessage.open 7 "shell:") := rfl
  have hends : ¬Ends (AdbMessage.open 7 "shell:") := by decide
  have hwell : ∀ m∈List.replicate (2^32) (AdbMessage.open 7 "shell:"), m.WellFormed := by
    intro m hm
    rw [List.eq_of_mem_replicate hm]
    exact ⟨by decide,rfl⟩
  have hcount := opens_served_replicate hopen hends (2^32)
  have hall := served_dispatched hwell [] []
  rw [List.append_nil,hcount] at hall
  refine ⟨hwell,?_⟩
  rw [fresh_iff]
  exact Nat.not_lt.mpr hall

/-- The passes keep to the advertised maximum: none asks for more or dispatches
more, and a header that announces more ends the connection. -/
structure Limited (trace : List Pass) : Prop where
  /-- No pass asks for more. -/
  requests : ∀ pass∈trace, pass.requested ≤ adbMaxPayload.toNat
  /-- No pass dispatches more. -/
  dispatches : ∀ pass∈trace, ∀ m, pass.message=some m → m.data.length ≤ adbMaxPayload.toNat
  /-- A pass whose header announces more is the last and dispatches nothing. -/
  ends : ∀ first pass later, trace=first++pass::later → adbMaxPayload.toNat < pass.announced →
    pass.message=none ∧ later=[]

/-- A header that a peer sends to a connection which is still open: well-formed
messages stand before it, none of them ends the connection and, where the
counter is checked, it has not run out. -/
structure Arrives (profile : Profile) (before : List AdbMessage) (input header : List UInt8) :
    Prop where
  /-- It has its size. -/
  size : header.length=adbHeaderSize
  /-- It stands behind such messages. -/
  behind : ∃ messages rest, input=messages.flatMap AdbMessage.encode++(header++rest) ∧
    (∀ m∈messages, m.WellFormed ∧ ¬Ends m) ∧
    (profile=.dev → opens before+opens messages < 2^32-1)

/-- The payload that a header announces. -/
def announcedBy (header : List UInt8) : ℕ := (wordLe (field header 12)).toNat

/-- The first header of a stream arrives. -/
theorem arrives_first {profile : Profile} {before : List AdbMessage} {input : List UInt8}
    {announced : ℕ} (hroom : profile=.dev → opens before < 2^32-1)
    (h : announcedLength input=some announced) :
    ∃ header, Arrives profile before input header ∧ announcedBy header=announced := by
  unfold announcedLength at h
  obtain ⟨⟨header,rest⟩,hread,hlength⟩ := Option.map_eq_some_iff.mp h
  obtain ⟨hinput,hsize⟩ := readExact_some hread
  exact ⟨header,⟨hsize,[],rest,hinput,fun _ hm => absurd hm List.not_mem_nil,hroom⟩,hlength⟩

/-- A header that arrives behind a message arrives in the stream that starts with it. -/
theorem Arrives.cons {profile : Profile} {before : List AdbMessage} {m : AdbMessage}
    {rest header : List UInt8} (hwell : m.WellFormed) (hends : ¬Ends m)
    (h : Arrives profile (before++[m]) rest header) :
    Arrives profile before (m.encode++rest) header := by
  obtain ⟨hsize,messages,left,rfl,hall,hroom⟩ := h
  refine ⟨hsize,m::messages,left,?_,?_,?_⟩
  · rw [List.flatMap_cons,List.append_assoc]
  · exact List.forall_mem_cons.mpr ⟨⟨hwell,hends⟩,hall⟩
  · intro hdev
    have hless := hroom hdev
    rw [opens_snoc] at hless
    rw [opens_cons]
    omega

/-- Every pass reads a header that arrives, asks for what it announces and
dispatches a payload of that length. -/
theorem pass_arrives (profile : Profile) (input : List UInt8) : ∀ before,
    (profile=.dev → opens before < 2^32-1) → ∀ pass∈passes profile (ownId before) input,
      (∃ header, Arrives profile before input header ∧ announcedBy header=pass.announced) ∧
        pass.requested=pass.announced ∧
        ∀ m, pass.message=some m → m.data.length=pass.announced := by
  induction input using stream_induction with
  | short input h =>
    intro before _ pass hpass
    rw [passes_short h] at hpass
    exact absurd hpass List.not_mem_nil
  | stuck input announced hannounced hnext =>
    intro before hroom pass hpass
    rw [passes_stuck hannounced hnext,List.mem_singleton] at hpass
    rw [hpass]
    exact ⟨arrives_first hroom hannounced,rfl,fun _ hm => by cases hm⟩
  | message m rest hwell ih =>
    intro before hroom pass hpass
    have hfirst := arrives_first hroom (announcedLength_encode hwell rest)
    have hown : pass=⟨ownId before,m.data.length,m.data.length,some m⟩ →
        (∃ header, Arrives profile before (m.encode++rest) header ∧
          announcedBy header=pass.announced) ∧ pass.requested=pass.announced ∧
          ∀ m, pass.message=some m → m.data.length=pass.announced := by
      rintro rfl
      refine ⟨hfirst,rfl,?_⟩
      intro w hw
      rw [Option.some.inj hw]
    by_cases hfull : IsOpen m ∧ profile=.dev ∧ opens before+1=2^32-1
    · obtain ⟨hopen,rfl,hcount⟩ := hfull
      rw [passes_encode .dev _ hwell,react_full hopen hcount,List.mem_singleton] at hpass
      exact hown hpass
    · have hnext : IsOpen m → profile=.dev → opens before+1 < 2^32-1 := by
        intro hopen hdev
        have hless := hroom hdev
        have hne : opens before+1≠2^32-1 := fun heq => hfull ⟨hopen,hdev,heq⟩
        omega
      have hsnoc : profile=.dev → opens (before++[m]) < 2^32-1 := by
        intro hdev
        rw [opens_snoc]
        split
        · rename_i hopen
          exact hnext hopen hdev
        · exact hroom hdev
      rw [passes_answered hwell hnext] at hpass
      rcases List.mem_cons.mp hpass with hpass | hpass
      · exact hown hpass
      · split at hpass
        · exact absurd hpass List.not_mem_nil
        · rename_i hends
          obtain ⟨⟨header,harrives,hlength⟩,hrest⟩ := ih (before++[m]) hsnoc pass hpass
          exact ⟨⟨header,harrives.cons hwell hends,hlength⟩,hrest⟩

/-- Every header that arrives is read by a pass. -/
theorem arrives_pass {profile : Profile} {header rest : List UInt8}
    (hsize : header.length=adbHeaderSize) {messages : List AdbMessage}
    (hall : ∀ m∈messages, m.WellFormed ∧ ¬Ends m) : ∀ before,
    (profile=.dev → opens before+opens messages < 2^32-1) →
      ∃ pass∈passes profile (ownId before) (messages.flatMap AdbMessage.encode++(header++rest)),
        pass.announced=announcedBy header := by
  induction messages with
  | nil =>
    intro before _
    have hannounced : announcedLength (header++rest)=some (announcedBy header) := by
      rw [announcedLength,← hsize,readExact_append]
      rfl
    cases hnext : nextMessage (header++rest) with
    | none =>
      refine ⟨⟨ownId before,announcedBy header,announcedBy header,none⟩,?_,rfl⟩
      rw [List.flatMap_nil,List.nil_append,passes_stuck hannounced hnext]
      exact List.mem_singleton_self _
    | some parts =>
      obtain ⟨m,left⟩ := parts
      obtain ⟨hwell,heq⟩ := nextMessage_iff.mp hnext
      rw [List.flatMap_nil,List.nil_append,heq,passes_encode profile _ hwell]
      rw [heq,announcedLength_encode hwell] at hannounced
      exact ⟨_,List.mem_cons_self,Option.some.inj hannounced⟩
  | cons m later ih =>
    intro before hroom
    obtain ⟨⟨hwell,hends⟩,hlater⟩ := List.forall_mem_cons.mp hall
    have hnext : IsOpen m → profile=.dev → opens before+1 < 2^32-1 := by
      intro hopen hdev
      have hless := hroom hdev
      rw [opens_cons,if_pos hopen] at hless
      omega
    obtain ⟨pass,hpass,hlength⟩ := ih hlater (before++[m]) (by
      intro hdev
      have hless := hroom hdev
      rw [opens_cons] at hless
      rw [opens_snoc]
      omega)
    refine ⟨pass,?_,hlength⟩
    rw [List.flatMap_cons,List.append_assoc,passes_answered hwell hnext,if_neg hends]
    exact List.mem_cons_of_mem _ hpass

/-- Passes that ask for what is announced and dispatch what they asked for keep to
the maximum exactly when no header announces more. -/
theorem limited_iff {trace : List Pass}
    (h : ∀ pass∈trace, pass.requested=pass.announced ∧
      ∀ m, pass.message=some m → m.data.length=pass.announced) :
    Limited trace ↔ ∀ pass∈trace, pass.announced ≤ adbMaxPayload.toNat := by
  constructor
  · intro hlimited pass hpass
    rw [← (h pass hpass).1]
    exact hlimited.requests pass hpass
  · intro hannounced
    constructor
    case requests =>
      intro pass hpass
      rw [(h pass hpass).1]
      exact hannounced pass hpass
    case dispatches =>
      intro pass hpass m hm
      rw [(h pass hpass).2 m hm]
      exact hannounced pass hpass
    case ends =>
      intro first pass later htrace hmore
      have hpass : pass∈trace := by
        rw [htrace]
        exact List.mem_append_right _ List.mem_cons_self
      exact absurd (hannounced pass hpass) (Nat.not_le.mpr hmore)

/-- A connection keeps to the advertised maximum exactly when its peer does: no
header that arrives announces more. -/
theorem payload_limited_iff (profile : Profile) (input : List UInt8) :
    Limited (passes profile 1 input) ↔
      ∀ header, Arrives profile [] input header → announcedBy header ≤ adbMaxPayload.toNat := by
  have hroom : profile=.dev → opens [] < 2^32-1 := fun _ => by decide
  have hpasses := pass_arrives profile input [] hroom
  have hfirst : ownId []=1 := rfl
  rw [hfirst] at hpasses
  rw [limited_iff fun pass hpass => (hpasses pass hpass).2]
  constructor
  · rintro h header ⟨hsize,messages,rest,rfl,hall,hcount⟩
    obtain ⟨pass,hpass,hlength⟩ := arrives_pass hsize hall [] hcount
    rw [← hlength]
    exact h pass hpass
  · intro h pass hpass
    obtain ⟨⟨header,harrives,hlength⟩,-⟩ := hpasses pass hpass
    rw [← hlength]
    exact h header harrives

/-- A message of 4097 bytes, one more than advertised. -/
def longMessage : AdbMessage := .writeMsg 7 1 (List.replicate 4097 0)

/-- It is asked for and dispatched. -/
theorem long_message_dispatched :
    (handleClient .release longMessage.encode).dispatched=[longMessage] ∧
      adbMaxPayload.toNat < longMessage.data.length ∧
      ¬Limited (passes .release 1 longMessage.encode) := by
  have hlength : longMessage.data.length=4097 := List.length_replicate
  have hwell : longMessage.WellFormed := by
    refine carrying_wellFormed _ _ _ ?_
    rw [List.length_replicate]
    decide
  have hmax : adbMaxPayload.toNat=4096 := rfl
  have hpasses := passes_encode .release 1 hwell []
  rw [List.append_nil] at hpasses
  have hserved : served [longMessage]=[longMessage] := by
    rw [served]
    split
    · rfl
    · rfl
  have hanswers := @handleClient_answers .release [longMessage]
    (fun m hm => by rw [List.mem_singleton.mp hm]; exact hwell) (fun hdev => by cases hdev)
  rw [List.flatMap_singleton] at hanswers
  refine ⟨?_,by omega,?_⟩
  · rw [hanswers,hserved]
  · intro h
    have hless := h.requests ⟨1,longMessage.data.length,longMessage.data.length,some longMessage⟩
      (by rw [hpasses]; exact List.mem_cons_self)
    dsimp only at hless
    omega

end LiteDroid.AdbSessions
