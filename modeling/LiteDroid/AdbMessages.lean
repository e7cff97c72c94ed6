import LiteDroid.CoreResults
import LiteDroid.CoreText
import LiteDroid.LittleEndian

/-!
# Messages of the debug bridge

A message has a header of six 32-bit words and a payload. The last word of
the header is derived from the first, and the header repeats the payload's
length and the sum of its bytes. Decoding accepts exactly the encodings of
well-formed messages, followed by anything.
-/

namespace LiteDroid.AdbMessages

open CoreResults CoreText LittleEndian

/-- Protocol version. -/
def adbVersion : UInt32 := 0x01000000

/-- Advertised maximum payload size. -/
def adbMaxPayload : UInt32 := 4096

/-- Size of a message header. -/
def adbHeaderSize : ℕ := 24

/-- The four bytes of a command. -/
structure Command where
  /-- The bytes. -/
  bytes : List UInt8
  /-- There are four of them. -/
  length_eq : bytes.length=4
  deriving DecidableEq

/-- Connect. -/
def cmdCnxn : Command := ⟨[67,78,88,78],rfl⟩

/-- Open a stream. -/
def cmdOpen : Command := ⟨[79,80,69,78],rfl⟩

/-- Stream ready. -/
def cmdOkay : Command := ⟨[79,75,65,89],rfl⟩

/-- Close a stream. -/
def cmdClse : Command := ⟨[67,76,83,69],rfl⟩

/-- Write to a stream. -/
def cmdWrte : Command := ⟨[87,82,84,69],rfl⟩

/-- Sum of all bytes, modulo two to the 32. -/
def checksum (data : List UInt8) : UInt32 := data.foldl (fun acc b => acc+b.toUInt32) 0

/-- A message. -/
structure AdbMessage where
  /-- What the message is about. -/
  command : Command
  /-- First argument. -/
  arg0 : UInt32
  /-- Second argument. -/
  arg1 : UInt32
  /-- Announced length of the payload. -/
  dataLength : UInt32
  /-- Announced sum of the payload. -/
  dataCheck : UInt32
  /-- The payload. -/
  data : List UInt8
  deriving DecidableEq

/-- A message that announces its payload's length and sum. -/
def AdbMessage.carrying (command : Command) (arg0 arg1 : UInt32) (data : List UInt8) :
    AdbMessage :=
  ⟨command,arg0,arg1,UInt32.ofNat data.length,checksum data,data⟩

/-- A connect message. -/
def AdbMessage.connect (identity : String) (maxPayload : UInt32) : AdbMessage :=
  .carrying cmdCnxn adbVersion maxPayload (asBytes identity)

/-- An open message. -/
def AdbMessage.open (localId : UInt32) (dest : String) : AdbMessage :=
  .carrying cmdOpen localId 0 (asBytes dest)

/-- An okay message. -/
def AdbMessage.okay (localId remoteId : UInt32) : AdbMessage :=
  ⟨cmdOkay,localId,remoteId,0,0,[]⟩

/-- A close message. -/
def AdbMessage.close (localId remoteId : UInt32) : AdbMessage :=
  ⟨cmdClse,localId,remoteId,0,0,[]⟩

/-- A write message. -/
def AdbMessage.writeMsg (localId remoteId : UInt32) (payload : List UInt8) : AdbMessage :=
  .carrying cmdWrte localId remoteId payload

/-- The last word of a header. -/
def magic (command : Command) : UInt32 := wordLe command.bytes^^^0xffffffff

/-- The wire format of a message. -/
def AdbMessage.encode (m : AdbMessage) : List UInt8 :=
  m.command.bytes++leWord m.arg0++leWord m.arg1++leWord m.dataLength++leWord m.dataCheck++
    leWord (magic m.command)++m.data

/-- Four bytes from an offset on. -/
def field (data : List UInt8) (offset : ℕ) : List UInt8 := (data.drop offset).take 4

/-- The command a header starts with. -/
def headerCommand (data : List UInt8) (h : ¬data.length < adbHeaderSize) : Command :=
  ⟨field data 0,by
    unfold adbHeaderSize at h
    rw [field,List.length_take,List.length_drop]
    omega⟩

/-- Decode the message at the start of some bytes. -/
def decode (data : List UInt8) : Except LiteDroidError AdbMessage :=
  if h : data.length < adbHeaderSize then .error (.adbProtocolError "message too short")
  else
    let command := headerCommand data h
    let arg0 := wordLe (field data 4)
    let arg1 := wordLe (field data 8)
    let dataLength := wordLe (field data 12)
    let dataCheck := wordLe (field data 16)
    let found := wordLe (field data 20)
    if found≠magic command then .error (.adbProtocolError "invalid magic")
    else
      let total := adbHeaderSize+dataLength.toNat
      if data.length < total then .error (.adbProtocolError "incomplete payload")
      else
        let payload := (data.take total).drop adbHeaderSize
        if checksum payload≠dataCheck then .error (.adbProtocolError "checksum mismatch")
        else .ok ⟨command,arg0,arg1,dataLength,dataCheck,payload⟩

/-- The header announces the payload that follows. -/
structure AdbMessage.WellFormed (m : AdbMessage) : Prop where
  /-- The announced length is the payload's. -/
  length_eq : m.dataLength.toNat=m.data.length
  /-- The announced sum is the payload's. -/
  check_eq : m.dataCheck=checksum m.data

/-- The header of a message. -/
def AdbMessage.header (m : AdbMessage) : List UInt8 :=
  m.command.bytes++leWord m.arg0++leWord m.arg1++leWord m.dataLength++leWord m.dataCheck++
    leWord (magic m.command)

/-- A message is its header and its payload. -/
theorem encode_eq (m : AdbMessage) : m.encode=m.header++m.data := rfl

/-- A header has its fixed size. -/
@[simp] theorem header_length (m : AdbMessage) : m.header.length=adbHeaderSize := by
  have hc := m.command.length_eq
  simp only [AdbMessage.header,List.length_append,leWord_length,hc]
  rfl

/-- The length of an encoding. -/
theorem encode_length (m : AdbMessage) : m.encode.length=adbHeaderSize+m.data.length := by
  rw [encode_eq,List.length_append,header_length]

/-- The first four bytes are the field at offset zero. -/
theorem field_zero {first : List UInt8} (h : first.length=4) (rest : List UInt8) :
    field (first++rest) 0=first := by
  rw [field,List.drop_zero,←h,List.take_left]

/-- Four bytes in front move every field by four. -/
theorem field_succ {first : List UInt8} (h : first.length=4) (rest : List UInt8) (offset : ℕ) :
    field (first++rest) (offset+4)=field rest offset := by
  have hdrop : (first++rest).drop (offset+4)=rest.drop offset := by
    rw [←h,Nat.add_comm,List.drop_append,List.drop_eq_nil_of_le (Nat.le_add_right _ _),
      List.nil_append,Nat.add_sub_cancel_left]
  rw [field,field,hdrop]

/-- Bytes from an offset on start with the field there. -/
theorem drop_field (data : List UInt8) (offset : ℕ) :
    data.drop offset=field data offset++data.drop (offset+4) := by
  rw [field,←List.drop_drop,List.take_append_drop]

/-- A field that lies inside the data has four bytes. -/
theorem field_length {data : List UInt8} {offset : ℕ} (h : offset+4 ≤ data.length) :
    (field data offset).length=4 := by
  rw [field,List.length_take,List.length_drop]
  omega

/-- A field that lies inside some bytes stays when others follow. -/
theorem field_append {data : List UInt8} {offset : ℕ} (h : offset+4 ≤ data.length)
    (rest : List UInt8) : field (data++rest) offset=field data offset := by
  rw [field,field,List.drop_append_of_le_length (by omega),
    List.take_append_of_le_length (by rw [List.length_drop]; omega)]

/-- Bytes that start with a header split into its six words and the rest. -/
theorem header_split (data : List UInt8) :
    data=field data 0++field data 4++field data 8++field data 12++field data 16++field data 20++
      data.drop 24 := by
  have h0 := drop_field data 0
  have h4 := drop_field data 4
  have h8 := drop_field data 8
  have h12 := drop_field data 12
  have h16 := drop_field data 16
  have h20 := drop_field data 20
  rw [List.drop_zero,h4,h8,h12,h16,h20] at h0
  simpa only [List.append_assoc] using h0

/-- The fields of an encoding that is followed by anything. -/
theorem encode_fields (m : AdbMessage) (rest : List UInt8) :
    field (m.encode++rest) 0=m.command.bytes ∧ field (m.encode++rest) 4=leWord m.arg0 ∧
      field (m.encode++rest) 8=leWord m.arg1 ∧ field (m.encode++rest) 12=leWord m.dataLength ∧
      field (m.encode++rest) 16=leWord m.dataCheck ∧
      field (m.encode++rest) 20=leWord (magic m.command) := by
  have hc := m.command.length_eq
  have hword := leWord_length
  simp only [AdbMessage.encode,List.append_assoc]
  refine ⟨field_zero hc _,?_,?_,?_,?_,?_⟩
  · rw [field_succ hc _ 0,field_zero (hword _)]
  · rw [field_succ hc _ 4,field_succ (hword _) _ 0,field_zero (hword _)]
  · rw [field_succ hc _ 8,field_succ (hword _) _ 4,field_succ (hword _) _ 0,field_zero (hword _)]
  · rw [field_succ hc _ 12,field_succ (hword _) _ 8,field_succ (hword _) _ 4,
      field_succ (hword _) _ 0,field_zero (hword _)]
  · rw [field_succ hc _ 16,field_succ (hword _) _ 12,field_succ (hword _) _ 8,
      field_succ (hword _) _ 4,field_succ (hword _) _ 0,field_zero (hword _)]

/-- The announced length stands at offset twelve of a header. -/
theorem header_dataLength (m : AdbMessage) : field m.header 12=leWord m.dataLength := by
  have hc := m.command.length_eq
  have hword := leWord_length
  simp only [AdbMessage.header,List.append_assoc]
  rw [field_succ hc _ 8,field_succ (hword _) _ 4,field_succ (hword _) _ 0,field_zero (hword _)]

/-- What a decoded message and the bytes it came from have in common. -/
theorem decode_ok {data : List UInt8} {m : AdbMessage} (h : decode data=.ok m) :
    ∃ hlen : ¬data.length < adbHeaderSize,
      wordLe (field data 20)=magic m.command ∧ adbHeaderSize+m.dataLength.toNat ≤ data.length ∧
      checksum m.data=m.dataCheck ∧
      m=⟨headerCommand data hlen,wordLe (field data 4),wordLe (field data 8),
        wordLe (field data 12),wordLe (field data 16),
        (data.take (adbHeaderSize+m.dataLength.toNat)).drop adbHeaderSize⟩ := by
  unfold decode at h
  split at h
  · cases h
  · rename_i hlen
    dsimp only at h
    split at h
    · cases h
    · rename_i hmagic
      split at h
      · cases h
      · rename_i htotal
        split at h
        · cases h
        · rename_i hcheck
          obtain rfl := Except.ok.inj h
          exact ⟨hlen,Decidable.not_not.mp hmagic,Nat.not_lt.mp htotal,
            Decidable.not_not.mp hcheck,rfl⟩

/-- A decoded message's header is the one in the bytes. -/
theorem decode_header {data : List UInt8} {m : AdbMessage} (h : decode data=.ok m) :
    m.header=field data 0++field data 4++field data 8++field data 12++field data 16++
      field data 20 := by
  obtain ⟨hlen,hmagic,htotal,hcheck,hm⟩ := decode_ok h
  have hword : ∀ offset, offset+4 ≤ 24 → leWord (wordLe (field data offset))=field data offset := by
    intro offset ho
    unfold adbHeaderSize at hlen
    exact leWord_wordLe (field_length (by omega))
  have hcommand : m.command.bytes=field data 0 := congrArg (fun w => w.command.bytes) hm
  have harg0 : m.arg0=wordLe (field data 4) := congrArg AdbMessage.arg0 hm
  have harg1 : m.arg1=wordLe (field data 8) := congrArg AdbMessage.arg1 hm
  have hlength : m.dataLength=wordLe (field data 12) := congrArg AdbMessage.dataLength hm
  have hsum : m.dataCheck=wordLe (field data 16) := congrArg AdbMessage.dataCheck hm
  rw [AdbMessage.header,hcommand,harg0,harg1,hlength,hsum,←hmagic,hword 4 (by decide),
    hword 8 (by decide),hword 12 (by decide),hword 16 (by decide),hword 20 (by decide)]

/-- A decoded message is well formed and its encoding comes first in the bytes. -/
theorem decode_sound {data : List UInt8} {m : AdbMessage} (h : decode data=.ok m) :
    data=m.encode++data.drop (adbHeaderSize+m.dataLength.toNat) ∧ m.WellFormed := by
  obtain ⟨hlen,hmagic,htotal,hcheck,hm⟩ := decode_ok h
  have hdata : m.data=(data.drop adbHeaderSize).take m.dataLength.toNat := by
    have hpayload := congrArg AdbMessage.data hm
    dsimp only at hpayload
    rw [List.drop_take,Nat.add_sub_cancel_left] at hpayload
    exact hpayload
  have hlength : m.dataLength.toNat=m.data.length := by
    rw [hdata,List.length_take,List.length_drop]
    omega
  have hrest : data.drop adbHeaderSize=m.data++data.drop (adbHeaderSize+m.dataLength.toNat) := by
    rw [hdata,←List.drop_drop,List.take_append_drop]
  have hsplit := header_split data
  rw [←decode_header h] at hsplit
  refine ⟨?_,⟨hlength,hcheck.symm⟩⟩
  rw [encode_eq,List.append_assoc,←hrest]
  exact hsplit

/-- Bytes that start with the encoding of a well-formed message decode to it. -/
theorem decode_complete {m : AdbMessage} (h : m.WellFormed) (rest : List UInt8) :
    decode (m.encode++rest)=.ok m := by
  obtain ⟨hcommand,harg0,harg1,hlength,hsum,hmagic⟩ := encode_fields m rest
  have hsize : (m.encode++rest).length=adbHeaderSize+m.dataLength.toNat+rest.length := by
    rw [List.length_append,encode_length,h.length_eq]
  have hlen : ¬(m.encode++rest).length < adbHeaderSize := by omega
  have hcmd : headerCommand (m.encode++rest) hlen=m.command := by
    unfold headerCommand
    congr 1
  have hpayload : ((m.encode++rest).take (adbHeaderSize+m.dataLength.toNat)).drop adbHeaderSize=
      m.data := by
    rw [h.length_eq,←encode_length,List.take_left,encode_eq,←header_length m,List.drop_left]
  unfold decode
  rw [dif_neg hlen]
  dsimp only
  rw [hcmd,hmagic,harg0,harg1,hlength,hsum]
  simp only [wordLe_leWord]
  rw [if_neg (not_not.mpr rfl),if_neg (by omega),hpayload,if_neg (not_not.mpr h.check_eq.symm)]

/-- Decoding accepts exactly the encodings of well-formed messages. -/
theorem decode_ok_iff (data : List UInt8) (m : AdbMessage) :
    decode data=.ok m ↔ (∃ rest, data=m.encode++rest) ∧ m.WellFormed := by
  constructor
  · intro h
    obtain ⟨hdata,hwell⟩ := decode_sound h
    exact ⟨⟨_,hdata⟩,hwell⟩
  · rintro ⟨⟨rest,rfl⟩,hwell⟩
    exact decode_complete hwell rest

/-- A message that announces a payload of less than two to the 32 bytes is well formed. -/
theorem carrying_wellFormed (command : Command) (arg0 arg1 : UInt32) {data : List UInt8}
    (h : data.length < 2^32) : (AdbMessage.carrying command arg0 arg1 data).WellFormed := by
  refine ⟨?_,rfl⟩
  dsimp only [AdbMessage.carrying]
  rw [UInt32.toNat_ofNat',Nat.mod_eq_of_lt h]

/-- Decoding and encoding are exact inverses on well-formed messages: decoding
accepts their encodings and nothing else, an accepted message is the only one
whose encoding comes first in the bytes, and every constructor builds a
well-formed message from a payload of less than two to the 32 bytes. -/
theorem adb_codec_exact :
    (∀ data m, decode data=.ok m ↔ (∃ rest, data=m.encode++rest) ∧ m.WellFormed) ∧
    (∀ m : AdbMessage, m.WellFormed → decode m.encode=.ok m) ∧
    (∀ data m, decode data=.ok m → m.encode=data.take (adbHeaderSize+m.dataLength.toNat)) ∧
    (∀ m n : AdbMessage, ∀ rest rest', m.WellFormed → n.WellFormed →
      m.encode++rest=n.encode++rest' → m=n) ∧
    (∀ identity maxPayload, (asBytes identity).length < 2^32 →
      (AdbMessage.connect identity maxPayload).WellFormed) ∧
    (∀ localId dest, (asBytes dest).length < 2^32 → (AdbMessage.open localId dest).WellFormed) ∧
    (∀ localId remoteId, (AdbMessage.okay localId remoteId).WellFormed) ∧
    (∀ localId remoteId, (AdbMessage.close localId remoteId).WellFormed) ∧
    ∀ localId remoteId payload, payload.length < 2^32 →
      (AdbMessage.writeMsg localId remoteId payload).WellFormed := by
  refine ⟨decode_ok_iff,?_,?_,?_,fun _ _ h => carrying_wellFormed _ _ _ h,
    fun _ _ h => carrying_wellFormed _ _ _ h,fun _ _ => ⟨rfl,rfl⟩,fun _ _ => ⟨rfl,rfl⟩,
    fun _ _ _ h => carrying_wellFormed _ _ _ h⟩
  · intro m hm
    have h := decode_complete hm []
    rw [List.append_nil] at h
    exact h
  · intro data m h
    obtain ⟨hdata,hwell⟩ := decode_sound h
    have hlen := encode_length m
    rw [←hwell.length_eq] at hlen
    rw [←hlen] at hdata ⊢
    nth_rewrite 1 [hdata]
    rw [List.take_left]
  · intro m n rest rest' hm hn heq
    have hdecode := decode_complete hm rest
    rw [heq,decode_complete hn rest'] at hdecode
    exact (Except.ok.inj hdecode).symm

end LiteDroid.AdbMessages
