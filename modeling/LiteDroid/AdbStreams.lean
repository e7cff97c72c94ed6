import LiteDroid.AdbSessions

/-!
# Arbitrary streams of the debug bridge

The bytes of a peer need not be messages. Every stream is a sequence of
well-formed messages, and behind them bytes that do not start with one, in one
way only. A connection behaves as if the stream ended behind those messages, and
what it has written so far never depends on bytes that are still to come.
-/

namespace LiteDroid.AdbStreams

open CoreResults AdbMessages AdbConnection AdbSessions

/-- A stream as its messages and a rest that does not start with one. -/
structure Splits (input : List UInt8) (messages : List AdbMessage) (rest : List UInt8) : Prop where
  /-- The stream. -/
  stream : input=messages.flatMap AdbMessage.encode++rest
  /-- The messages are well formed. -/
  wellFormed : ∀ m∈messages, m.WellFormed
  /-- The rest starts with no message. -/
  stuck : nextMessage rest=none

/-- A message in front of a stream. -/
theorem Splits.cons {input rest : List UInt8} {messages : List AdbMessage} {m : AdbMessage}
    (hm : m.WellFormed) (h : Splits input messages rest) :
    Splits (m.encode++input) (m::messages) rest where
  stream := by rw [h.stream,List.flatMap_cons,List.append_assoc]
  wellFormed := List.forall_mem_cons.mpr ⟨hm,h.wellFormed⟩
  stuck := h.stuck

/-- Every stream splits. -/
theorem splits (input : List UInt8) : ∃ messages rest, Splits input messages rest := by
  induction input using stream_induction with
  | short input h => exact ⟨[],input,rfl,fun _ hm => (by cases hm),nextMessage_short h⟩
  | stuck input announced hannounced hnext => exact ⟨[],input,rfl,fun _ hm => (by cases hm),hnext⟩
  | message m rest hwell ih =>
    obtain ⟨messages,left,h⟩ := ih
    exact ⟨m::messages,left,h.cons hwell⟩

/-- A stream splits in one way only. -/
theorem Splits.unique {messages : List AdbMessage} : ∀ {input rest left : List UInt8}
    {others : List AdbMessage}, Splits input messages rest → Splits input others left →
      others=messages ∧ left=rest := by
  induction messages with
  | nil =>
    intro input rest left others h hother
    have hinput : input=rest := h.stream
    cases others with
    | nil => exact ⟨rfl,hother.stream.symm.trans hinput⟩
    | cons m later =>
      have hstream := hother.stream
      rw [List.flatMap_cons,List.append_assoc] at hstream
      have hnext := nextMessage_iff.mpr ⟨hother.wellFormed m List.mem_cons_self,hstream⟩
      rw [hinput,h.stuck] at hnext
      cases hnext
  | cons m later ih =>
    intro input rest left others h hother
    have hstream := h.stream
    rw [List.flatMap_cons,List.append_assoc] at hstream
    have hnext := nextMessage_iff.mpr ⟨h.wellFormed m List.mem_cons_self,hstream⟩
    cases others with
    | nil =>
      have hinput : input=left := hother.stream
      rw [hinput,hother.stuck] at hnext
      cases hnext
    | cons w more =>
      have hother' := hother.stream
      rw [List.flatMap_cons,List.append_assoc] at hother'
      have hw := nextMessage_iff.mpr ⟨hother.wellFormed w List.mem_cons_self,hother'⟩
      rw [hnext] at hw
      obtain ⟨rfl,hrest⟩ := Prod.mk.inj (Option.some.inj hw)
      obtain ⟨rfl,rfl⟩ := ih ⟨rfl,fun v hv => h.wellFormed v (List.mem_cons_of_mem m hv),h.stuck⟩
        ⟨hrest,fun v hv => hother.wellFormed v (List.mem_cons_of_mem m hv),hother.stuck⟩
      exact ⟨rfl,rfl⟩

/-- The loop does not look at the rest. -/
theorem Splits.serve {messages : List AdbMessage} : ∀ {input rest : List UInt8},
    Splits input messages rest → ∀ (profile : Profile) (nextLocalId : UInt32),
      serve profile nextLocalId input=
        AdbConnection.serve profile nextLocalId (messages.flatMap AdbMessage.encode) := by
  induction messages with
  | nil =>
    intro input rest h profile nextLocalId
    have hinput : input=rest := h.stream
    rw [hinput,serve_none h.stuck]
    exact (serve_nil profile nextLocalId).symm
  | cons m later ih =>
    intro input rest h profile nextLocalId
    have hwell := h.wellFormed m List.mem_cons_self
    have hlater : Splits (later.flatMap AdbMessage.encode++rest) later rest :=
      ⟨rfl,fun v hv => h.wellFormed v (List.mem_cons_of_mem m hv),h.stuck⟩
    rw [h.stream,List.flatMap_cons,List.append_assoc,serve_encode profile _ hwell,
      serve_encode profile _ hwell]
    cases react profile nextLocalId m with
    | error fault => rfl
    | ok reaction =>
      dsimp only
      rw [ih hlater]

/-- More bytes of a peer only add to what is written and dispatched. -/
theorem serve_prefix (profile : Profile) (more input : List UInt8) : ∀ nextLocalId,
    (serve profile nextLocalId input).written <+: (serve profile nextLocalId (input++more)).written ∧
      (serve profile nextLocalId input).dispatched <+:
        (serve profile nextLocalId (input++more)).dispatched := by
  induction input using stream_induction with
  | short input h =>
    intro nextLocalId
    rw [serve_none (nextMessage_short h)]
    exact ⟨List.nil_prefix,List.nil_prefix⟩
  | stuck input announced hannounced hnext =>
    intro nextLocalId
    rw [serve_none hnext]
    exact ⟨List.nil_prefix,List.nil_prefix⟩
  | message m rest hwell ih =>
    intro nextLocalId
    rw [List.append_assoc,serve_encode profile _ hwell,serve_encode profile _ hwell]
    cases react profile nextLocalId m with
    | error fault => exact ⟨List.prefix_rfl,List.prefix_rfl⟩
    | ok reaction =>
      obtain ⟨hwritten,hdispatched⟩ := ih reaction.nextLocalId
      dsimp only
      split
      · exact ⟨List.prefix_rfl,List.prefix_rfl⟩
      · exact ⟨(List.prefix_append_right_inj _).mpr hwritten,
          (List.prefix_cons_inj m).mpr hdispatched⟩

/-- Every stream of bytes, well formed or not, is a sequence of well-formed
messages and a rest that starts with none, in one way only. A connection handles
it as those messages: while there are identifiers it returns, has dispatched the
messages up to the first that ends it, and has written the handshake and the
replies to them. Whatever bytes follow, what was written so far is a prefix of
what will be. -/
theorem handles_any_stream (profile : Profile) (input : List UInt8) :
    ∃ messages rest, Splits input messages rest ∧
      (∀ others left, Splits input others left → others=messages ∧ left=rest) ∧
      handleClient profile input=handleClient profile (messages.flatMap AdbMessage.encode) ∧
      ((profile=.dev → opens (served messages) < 2^32-1) →
        handleClient profile input=⟨.ok (),replyBytes (served messages),served messages⟩) ∧
      ∀ more, (handleClient profile input).written <+:
          (handleClient profile (input++more)).written ∧
        (handleClient profile input).dispatched <+:
          (handleClient profile (input++more)).dispatched := by
  obtain ⟨messages,rest,h⟩ := splits input
  have hsame : handleClient profile input=
      handleClient profile (messages.flatMap AdbMessage.encode) := by
    rw [handleClient,h.serve]
    rfl
  refine ⟨messages,rest,h,fun others left => h.unique,hsame,fun hroom => ?_,fun more => ?_⟩
  · rw [hsame,handleClient_answers h.wellFormed hroom]
  · obtain ⟨hwritten,hdispatched⟩ := serve_prefix profile more input 1
    exact ⟨(List.prefix_append_right_inj _).mpr hwritten,hdispatched⟩

end LiteDroid.AdbStreams
