import LiteDroid.FrameStream
import LiteDroid.LittleEndian
import Mathlib.Algebra.Group.Nat.Defs

/-!
# Frames between clients and the daemon

A frame is the length of its payload, as a 32-bit big-endian word, and the
payload. Reading takes the length first and then that many bytes, if there
are any to take.
-/

namespace LiteDroid.IpcFrames

open LittleEndian FrameStream

/-- The four bytes of a 32-bit word, most significant first. -/
def toBeBytes (word : UInt32) : List UInt8 := (leWord word).reverse

/-- The 32-bit word of four bytes, most significant first. -/
def fromBeBytes (bytes : List UInt8) : UInt32 := wordLe bytes.reverse

/-- The bytes a frame with the given payload is sent as. -/
def writeFrame (data : List UInt8) : List UInt8 := toBeBytes (UInt32.ofNat data.length)++data

/-- The payload of the next frame and what is left of the stream. -/
def readFrame (input : List UInt8) : Option (List UInt8×List UInt8) :=
  match readExact 4 input with
  | none => none
  | some (lenBuf,rest) =>
    let len := (fromBeBytes lenBuf).toNat
    if 0 < len then readExact len rest else some ([],rest)

/-- A 32-bit word has four bytes. -/
@[simp] theorem toBeBytes_length (word : UInt32) : (toBeBytes word).length=4 := by
  rw [toBeBytes,List.length_reverse,leWord_length]

/-- Reading the bytes of a word gives the word. -/
@[simp] theorem fromBeBytes_toBeBytes (word : UInt32) : fromBeBytes (toBeBytes word)=word := by
  rw [fromBeBytes,toBeBytes,List.reverse_reverse,wordLe_leWord]

/-- A stream that starts with a length is read as far as that length says. -/
theorem readFrame_header {n : ℕ} (h : n < 2^32) (rest : List UInt8) :
    readFrame (toBeBytes (UInt32.ofNat n)++rest)=
      if 0 < n then readExact n rest else some ([],rest) := by
  have hheader : readExact 4 (toBeBytes (UInt32.ofNat n)++rest)=
      some (toBeBytes (UInt32.ofNat n),rest) := by
    rw [←toBeBytes_length (UInt32.ofNat n),readExact_append]
  have hvalue : (UInt32.ofNat n).toNat=n := by
    rw [UInt32.toNat_ofNat',Nat.mod_eq_of_lt h]
  rw [readFrame,hheader]
  dsimp only
  rw [fromBeBytes_toBeBytes,hvalue]

/-- A frame is read back, whatever follows it. -/
theorem readFrame_writeFrame {data : List UInt8} (h : data.length < 2^32) (rest : List UInt8) :
    readFrame (writeFrame data++rest)=some (data,rest) := by
  rw [writeFrame,List.append_assoc,readFrame_header h]
  cases data with
  | nil => rfl
  | cons b later =>
    have hpos : 0 < (b::later).length := Nat.zero_lt_succ _
    rw [if_pos hpos,readExact_append]

/-- A frame that is cut off anywhere is not read. -/
theorem readFrame_cut {data part : List UInt8} (h : data.length < 2^32)
    (hpart : part<+:writeFrame data) (hne : part≠writeFrame data) : readFrame part=none := by
  obtain ⟨hcut,hcutne⟩ | ⟨more,rfl,hmore,hmorene⟩ := prefix_append_cases hpart hne
  · have hlen := hcut.length_le
    have hother : part.length≠4 := by
      intro heq
      exact hcutne (hcut.eq_of_length (heq.trans (toBeBytes_length _).symm))
    rw [toBeBytes_length] at hlen
    rw [readFrame,readExact_short (Nat.lt_of_le_of_ne hlen hother)]
  · have hlen := hmore.length_le
    have hother : more.length≠data.length := fun heq => hmorene (hmore.eq_of_length heq)
    have hshort := Nat.lt_of_le_of_ne hlen hother
    rw [readFrame_header h,if_pos (Nat.zero_lt_of_lt hshort),readExact_short hshort]

/-- What is read from the start of a frame is its whole payload, with nothing
left, or a proper prefix of it. -/
theorem readFrame_prefix {data part payload rest : List UInt8} (hpart : part<+:writeFrame data)
    (h : readFrame part=some (payload,rest)) :
    (payload=data ∧ part=writeFrame data ∧ rest=[]) ∨ (payload<+:data ∧ payload≠data) := by
  unfold readFrame at h
  cases hheader : readExact 4 part with
  | none =>
    rw [hheader] at h
    cases h
  | some halves =>
    obtain ⟨lenBuf,body⟩ := halves
    rw [hheader] at h
    dsimp only at h
    obtain ⟨rfl,hlen⟩ := readExact_some hheader
    obtain ⟨tail,htail⟩ := hpart
    rw [writeFrame,List.append_assoc] at htail
    obtain ⟨hword,hdata⟩ := List.append_inj htail (hlen.trans (toBeBytes_length _).symm)
    have hbody : body=payload++rest := by
      split at h
      · exact (readExact_some h).1
      · obtain ⟨rfl,rfl⟩ := Prod.mk.inj (Option.some.inj h)
        rfl
    rw [hbody,List.append_assoc] at hdata
    by_cases hwhole : payload=data
    · rw [hwhole] at hdata hbody
      have hnil := List.append_right_eq_self.mp hdata
      obtain ⟨hrest,-⟩ := List.append_eq_nil_iff.mp hnil
      refine Or.inl ⟨hwhole,?_,hrest⟩
      rw [writeFrame,hbody,hrest,hword,List.append_nil]
    · exact Or.inr ⟨⟨rest++tail,hdata⟩,hwhole⟩

/-- Frames with payloads of less than two to the 32 bytes. -/
def frames : Framing UInt8 (List UInt8) where
  Valid data := data.length < 2^32
  write := writeFrame
  read := readFrame
  read_write _ rest h := readFrame_writeFrame h rest
  read_cut _ _ h hpart hne := readFrame_cut h hpart hne
  read_nil := rfl

/-- Frames written in order are read back in order and nothing is left of them.
On a proper prefix of the bytes the reads give a proper prefix of the payloads
and then fail. -/
theorem frames_round_trip (payloads : List (List UInt8)) (h : ∀ data∈payloads, data.length < 2^32) :
    readMany readFrame payloads.length (payloads.flatMap writeFrame)=(payloads.map some,[]) ∧
    ∀ part, part<+:payloads.flatMap writeFrame → part≠payloads.flatMap writeFrame →
      ∃ k < payloads.length, readMany readFrame payloads.length part=
        ((payloads.take k).map some++List.replicate (payloads.length-k) none,[]) := by
  have hwhole := frames.readMany_writes h []
  rw [List.append_nil] at hwhole
  exact ⟨hwhole,fun part hpart hne => frames.readMany_cut h hpart hne⟩

/-- Three frames, the second one empty, and the first eight bytes of the stream. -/
theorem frames_round_trip_three :
    readMany readFrame 3 ([[1,2],[],[3]].flatMap writeFrame)=
        ([some [1,2],some [],some [3]],[]) ∧
      ∃ k < 3, readMany readFrame 3 [0,0,0,2,1,2,0,0]=
        (([[1,2],[],[3]].take k).map some++List.replicate (3-k) none,[]) := by
  have h := frames_round_trip [[1,2],[],[3]] (by decide)
  exact ⟨h.1,h.2 [0,0,0,2,1,2,0,0] (by decide) (by decide)⟩

end LiteDroid.IpcFrames
