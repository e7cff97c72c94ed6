import LiteDroid.MemoryRegion
import LiteDroid.EffectRun
import LiteDroid.WriteHistory

/-!
# Guest memory as a bounded byte array

A write acts on the region it is given and leaves it behind also when it
fails; no byte is copied before the range was checked. A run is any sequence
of writes, the refused ones included. The region follows the plain history of
the writes that lie inside it, so a read finds byte by byte what was written
last, and a word is read where its little-endian bytes were written last.
-/

namespace LiteDroid.MemoryWrites

open CoreResults MemoryRegion ByteRange LittleEndian EffectRun WriteHistory

/-- Copy bytes into a region: check the range, then copy. -/
def writeGuestInPlace (addr : UInt64) (data : List UInt8) : EStateM Fault GuestMemory Unit := do
  let memory ← get
  returning (checkRange memory addr data.length)
  set (store memory addr.toNat data)

/-- Load a binary blob into a region. -/
def loadBlobInPlace (addr : UInt64) (data : List UInt8) : EStateM Fault GuestMemory Unit :=
  writeGuestInPlace addr data

/-- A call that writes to a region. -/
inductive WriteCall where
  /-- A copy of bytes. -/
  | writeGuest (addr : UInt64) (data : List UInt8)
  /-- A binary blob that is loaded. -/
  | loadBlob (addr : UInt64) (data : List UInt8)
  deriving DecidableEq, Repr

/-- The address a call is given. -/
def WriteCall.addr : WriteCall → UInt64
  | .writeGuest addr _ => addr
  | .loadBlob addr _ => addr

/-- The bytes a call is given. -/
def WriteCall.data : WriteCall → List UInt8
  | .writeGuest _ data => data
  | .loadBlob _ data => data

/-- Run a call on a region. -/
def WriteCall.run : WriteCall → EStateM Fault GuestMemory Unit
  | .writeGuest addr data => writeGuestInPlace addr data
  | .loadBlob addr data => loadBlobInPlace addr data

/-- The region after a sequence of calls, each of which may have failed. -/
def after : GuestMemory → List WriteCall → GuestMemory
  | memory,[] => memory
  | memory,call::rest => after (left (call.run memory)) rest

/-- What a call writes to a region of a size: its bytes at their natural
address if they lie inside, and nothing otherwise. -/
def WriteCall.writes (size : ℕ) (call : WriteCall) : List (Write UInt8) :=
  if call.addr.toNat+call.data.length ≤ size then [⟨call.addr.toNat,call.data⟩] else []

/-- The writes of a sequence of calls, oldest first. -/
def history (size : ℕ) (calls : List WriteCall) : List (Write UInt8) :=
  calls.flatMap (WriteCall.writes size)

/-- A write stored its bytes in a bounded byte array: all of them and nothing
else where the range lies inside, and nothing where it does not. -/
structure StoresExactly (memory : GuestMemory) (addr : UInt64) (data : List UInt8)
    (result : EStateM.Result Fault GuestMemory Unit) : Prop where
  /-- It succeeds exactly when the range ends inside the region, as naturals. -/
  succeeds : succeeded result=true ↔ addr.toNat+data.length ≤ memory.size.toNat
  /-- The size of the region stays. -/
  size : (left result).size=memory.size
  /-- On success every byte of the range is the data byte. -/
  inside : succeeded result=true →
    ∀ i, (hi : i < data.length) → (left result).byte (addr.toNat+i)=data[i]
  /-- On success every other byte is unchanged. -/
  outside : succeeded result=true →
    ∀ a, a < addr.toNat ∨ addr.toNat+data.length ≤ a → (left result).byte a=memory.byte a
  /-- On failure all memory is unchanged. -/
  failed : succeeded result=false → left result=memory

/-- A read found the bytes of a bounded byte array. -/
structure ReadsExactly (memory : GuestMemory) (addr : UInt64) (len : ℕ)
    (result : Outcome (List UInt8)) : Prop where
  /-- It succeeds exactly when the range ends inside the region, as naturals. -/
  succeeds : (∃ bytes, result=.ok bytes) ↔ addr.toNat+len ≤ memory.size.toNat
  /-- It returns as many bytes as it was asked for. -/
  length : ∀ bytes, result=.ok bytes → bytes.length=len
  /-- Every one of them is the current byte. -/
  current : ∀ bytes, result=.ok bytes →
    ∀ i, (hi : i < bytes.length) → bytes[i]=memory.byte (addr.toNat+i)

/-- After a sequence of calls the region reads as what was written last. -/
structure ReadsLatest (memory : GuestMemory) (calls : List WriteCall) : Prop where
  /-- The size of the region stays. -/
  size : (after memory calls).size=memory.size
  /-- A byte that is read at a written address is the last one written there. -/
  written : ∀ addr len bytes, readGuest (after memory calls) addr len=.ok bytes →
    ∀ i, (hi : i < bytes.length) → ∀ byte,
      LastAt (history memory.size.toNat calls) (addr.toNat+i) byte → bytes[i]=byte
  /-- A byte that is read at an address never written is the one the region began with. -/
  unwritten : ∀ addr len bytes, readGuest (after memory calls) addr len=.ok bytes →
    ∀ i, (hi : i < bytes.length) →
      (∀ byte, ¬LastAt (history memory.size.toNat calls) (addr.toNat+i) byte) →
        bytes[i]=memory.byte (addr.toNat+i)
  /-- A 16-bit word is read where its bytes were written last. -/
  word16 : ∀ (addr : UInt64) (value : UInt16),
    LastWritten (history memory.size.toNat calls) addr.toNat (leBytes 2 value.toNat) →
      guestU16 (after memory calls) addr=.ok value
  /-- A 32-bit word is read where its bytes were written last. -/
  word32 : ∀ (addr : UInt64) (value : UInt32),
    LastWritten (history memory.size.toNat calls) addr.toNat (leBytes 4 value.toNat) →
      guestU32 (after memory calls) addr=.ok value
  /-- A 64-bit word is read where its bytes were written last. -/
  word64 : ∀ (addr : UInt64) (value : UInt64),
    LastWritten (history memory.size.toNat calls) addr.toNat (leBytes 8 value.toNat) →
      guestU64 (after memory calls) addr=.ok value

/-- A write inside the region stores its bytes. -/
theorem writeGuestInPlace_fits {memory : GuestMemory} {addr : UInt64} {data : List UInt8}
    (h : Fits memory addr data.length) :
    writeGuestInPlace addr data memory=.ok () (store memory addr.toNat data) := by
  have hcheck : checkRange memory addr data.length=.ok () := by
    rw [checkRange_eq,if_pos h]
  exact bind_of_ok (returning_ok hcheck memory) _

/-- A write that leaves the region is refused before any byte is copied. -/
theorem writeGuestInPlace_not_fits {memory : GuestMemory} {addr : UInt64} {data : List UInt8}
    (h : ¬Fits memory addr data.length) :
    writeGuestInPlace addr data memory=.error (.error (.guestAddressOutOfRange addr)) memory := by
  have hcheck : checkRange memory addr data.length=
      .error (.error (.guestAddressOutOfRange addr)) := by
    rw [checkRange_eq,if_neg h]
  exact bind_of_error (returning_error hcheck memory) _

/-- A write in place is the write of the region as a value. -/
theorem writeGuestInPlace_eq (addr : UInt64) (data : List UInt8) :
    writeGuestInPlace addr data=update fun memory => writeGuest memory addr data := by
  funext memory
  by_cases h : Fits memory addr data.length
  · rw [writeGuestInPlace_fits h,update_ok_iff.mpr (writeGuest_fits h)]
  · rw [writeGuestInPlace_not_fits h,
      update_error_iff.mpr ⟨writeGuest_not_fits h,rfl⟩]

/-- Every write stores exactly its bytes. -/
theorem writeGuestInPlace_exact (memory : GuestMemory) (addr : UInt64) (data : List UInt8) :
    StoresExactly memory addr data (writeGuestInPlace addr data memory) := by
  by_cases h : Fits memory addr data.length
  · rw [writeGuestInPlace_fits h]
    constructor
    case succeeds => exact ⟨fun _ => h,fun _ => rfl⟩
    case size => rfl
    case inside => exact fun _ i hi => overwrite_inside memory.byte addr.toNat data i hi
    case outside => exact fun _ a ha => overwrite_outside ha
    case failed => exact fun hfailed => by cases hfailed
  · rw [writeGuestInPlace_not_fits h]
    constructor
    case succeeds => exact ⟨fun hok => (by cases hok),fun hfits => absurd hfits h⟩
    case size => rfl
    case inside => exact fun hok => by cases hok
    case outside => exact fun hok => by cases hok
    case failed => exact fun _ => rfl

/-- Every read finds exactly the current bytes. -/
theorem readGuest_exact (memory : GuestMemory) (addr : UInt64) (len : ℕ) :
    ReadsExactly memory addr len (readGuest memory addr len) := by
  by_cases h : Fits memory addr len
  · rw [readGuest_fits h]
    constructor
    case succeeds => exact ⟨fun _ => h,fun _ => ⟨_,rfl⟩⟩
    case length =>
      rintro _ ⟨⟩
      exact slice_length memory.byte addr.toNat len
    case current =>
      rintro _ ⟨⟩ i hi
      rw [slice_length] at hi
      have hcell := slice_getElem? memory.byte addr.toNat len i hi
      exact (List.getElem?_eq_some_iff.mp hcell).2
  · rw [readGuest_eq,if_neg h]
    constructor
    case succeeds => exact ⟨fun ⟨_,hok⟩ => (by cases hok),fun hfits => absurd hfits h⟩
    case length => exact fun _ hok => by cases hok
    case current => exact fun _ hok => by cases hok

/-- A call whose range lies inside the region is a write of its history. -/
theorem writes_fits {memory : GuestMemory} {call : WriteCall}
    (h : Fits memory call.addr call.data.length) :
    call.writes memory.size.toNat=[⟨call.addr.toNat,call.data⟩] := if_pos h

/-- A call that is refused writes nothing. -/
theorem writes_not_fits {memory : GuestMemory} {call : WriteCall}
    (h : ¬Fits memory call.addr call.data.length) : call.writes memory.size.toNat=[] := if_neg h

/-- A call leaves the region with its own writes on top. -/
theorem run_left (call : WriteCall) (memory : GuestMemory) :
    (left (call.run memory)).size=memory.size ∧
      ∀ initial past, memory.byte=latest initial past →
        (left (call.run memory)).byte=latest initial (past++call.writes memory.size.toNat) := by
  have hrun : call.run memory=writeGuestInPlace call.addr call.data memory := by
    cases call with
    | writeGuest addr data => rfl
    | loadBlob addr data => rfl
  rw [hrun]
  by_cases h : Fits memory call.addr call.data.length
  · rw [writeGuestInPlace_fits h,writes_fits h]
    refine ⟨rfl,fun initial past hpast => ?_⟩
    rw [latest_append,← hpast]
    rfl
  · rw [writeGuestInPlace_not_fits h,writes_not_fits h]
    refine ⟨rfl,fun initial past hpast => ?_⟩
    rw [List.append_nil,← hpast]
    rfl

/-- The region follows the history of the writes inside it, and keeps its size. -/
theorem after_latest (initial : ℕ → UInt8) (calls : List WriteCall) :
    ∀ (memory : GuestMemory) (past : List (Write UInt8)), memory.byte=latest initial past →
      (after memory calls).size=memory.size ∧
        (after memory calls).byte=latest initial (past++history memory.size.toNat calls) := by
  induction calls with
  | nil =>
    intro memory past hpast
    rw [history,List.flatMap_nil,List.append_nil]
    exact ⟨rfl,hpast⟩
  | cons call rest ih =>
    intro memory past hpast
    obtain ⟨hsize,hbyte⟩ := run_left call memory
    obtain ⟨hrest,hlatest⟩ := ih _ _ (hbyte initial past hpast)
    rw [hsize,List.append_assoc] at hlatest
    exact ⟨hrest.trans hsize,hlatest⟩

/-- The size of a region never changes. -/
@[simp] theorem after_size (memory : GuestMemory) (calls : List WriteCall) :
    (after memory calls).size=memory.size :=
  (after_latest memory.byte calls memory [] rfl).1

/-- Every byte of a region is the last one written there, or the one it began with. -/
theorem after_byte (memory : GuestMemory) (calls : List WriteCall) :
    (after memory calls).byte=latest memory.byte (history memory.size.toNat calls) :=
  (after_latest memory.byte calls memory [] rfl).2

/-- Every write of a history lies inside the region. -/
theorem history_inside {size : ℕ} {calls : List WriteCall} {write : Write UInt8}
    (h : write∈history size calls) : write.start+write.data.length ≤ size := by
  obtain ⟨call,-,hw⟩ := List.mem_flatMap.mp h
  unfold WriteCall.writes at hw
  split at hw
  · rename_i hfits
    rw [List.mem_singleton.mp hw]
    exact hfits
  · cases hw

/-- Bytes that were written last lie inside the region. -/
theorem lastWritten_inside {size : ℕ} {calls : List WriteCall} {addr : ℕ} {data : List UInt8}
    (h : LastWritten (history size calls) addr data) (hne : 0 < data.length) :
    addr+data.length ≤ size := by
  obtain ⟨earlier,write,later,hsplit,hcell,-⟩ := h (data.length-1) (by omega)
  have hcovers := Write.at?_covers hcell
  have hmem : write∈history size calls := by
    rw [hsplit]
    exact List.mem_append_right earlier List.mem_cons_self
  have hinside := history_inside hmem
  omega

/-- Bytes of the region that were written last are read back. -/
theorem readGuest_lastWritten {memory : GuestMemory} {calls : List WriteCall} {addr : UInt64}
    {data : List UInt8} (hfits : Fits memory addr data.length)
    (h : LastWritten (history memory.size.toNat calls) addr.toNat data) :
    readGuest (after memory calls) addr data.length=.ok data := by
  have hafter : Fits (after memory calls) addr data.length := by
    rw [Fits,after_size]
    exact hfits
  rw [readGuest_fits hafter,after_byte,slice_of_lastWritten h]

/-- The bytes of a word that were written last are read back. -/
theorem readGuest_word {memory : GuestMemory} {calls : List WriteCall} {addr : UInt64}
    {width n : ℕ} (hwidth : 0 < width)
    (h : LastWritten (history memory.size.toNat calls) addr.toNat (leBytes width n)) :
    readGuest (after memory calls) addr width=.ok (leBytes width n) := by
  have hlength := leBytes_length width n
  have hinside := lastWritten_inside h (by omega)
  have hread := readGuest_lastWritten hinside h
  rwa [hlength] at hread

/-- A write inside the region that no later one runs into is read back whole. -/
theorem readGuest_undisturbed {memory : GuestMemory} {call : WriteCall}
    {earlier later : List WriteCall} (hfits : Fits memory call.addr call.data.length)
    (hlater : ∀ other∈later,
      Separate other.addr.toNat other.data.length call.addr.toNat call.data.length) :
    readGuest (after memory (earlier++call::later)) call.addr call.data.length=
      .ok call.data := by
  apply readGuest_lastWritten hfits
  have hsplit : history memory.size.toNat (earlier++call::later)=
      history memory.size.toNat earlier++
        ⟨call.addr.toNat,call.data⟩::history memory.size.toNat later := by
    simp only [history,List.flatMap_append,List.flatMap_cons,writes_fits hfits,
      List.singleton_append]
  rw [hsplit]
  apply lastWritten_of_separate
  intro other hm
  obtain ⟨source,hsource,hw⟩ := List.mem_flatMap.mp hm
  unfold WriteCall.writes at hw
  split at hw
  · rw [List.mem_singleton.mp hw]
    exact hlater source hsource
  · cases hw

/-- After every sequence of calls a region reads as what was written last. -/
theorem after_readsLatest (memory : GuestMemory) (calls : List WriteCall) :
    ReadsLatest memory calls := by
  have hcurrent := fun addr len => (readGuest_exact (after memory calls) addr len).current
  constructor
  case size => exact after_size memory calls
  case written =>
    intro addr len bytes hread i hi byte hlast
    rw [hcurrent addr len bytes hread i hi,after_byte,latest_of_lastAt hlast]
  case unwritten =>
    intro addr len bytes hread i hi hnever
    rw [hcurrent addr len bytes hread i hi,after_byte,latest_of_unwritten hnever]
  case word16 => exact fun addr value h => guestU16_of_bytes (readGuest_word (by decide) h)
  case word32 => exact fun addr value h => guestU32_of_bytes (readGuest_word (by decide) h)
  case word64 => exact fun addr value h => guestU64_of_bytes (readGuest_word (by decide) h)

/-- Guest memory is a bounded byte array. Every write and every load of a blob
succeeds exactly when its range ends inside the region, as natural numbers, and
then stores its bytes and nothing else; refused ones change nothing. Every read
succeeds under the same condition and returns the current bytes. After any
sequence of writes the region reads as what was written last, byte by byte and
word by word. -/
theorem memory_is_byte_array (memory : GuestMemory) (calls : List WriteCall) :
    (∀ addr data, StoresExactly memory addr data (writeGuestInPlace addr data memory)) ∧
      (∀ addr data, StoresExactly memory addr data (loadBlobInPlace addr data memory)) ∧
      (∀ addr len, ReadsExactly memory addr len (readGuest memory addr len)) ∧
      ReadsLatest memory calls :=
  ⟨writeGuestInPlace_exact memory,writeGuestInPlace_exact memory,readGuest_exact memory,
    after_readsLatest memory calls⟩

/-- A word over which another write ran, behind two calls that are refused: one
runs past the end of the region and one past the largest address. -/
example :
    guestU32 (after ⟨16,by decide,fun _ => 0⟩
      [.writeGuest 4 [1,2,3,4],.loadBlob 6 [9],.writeGuest 14 [7,7,7],
        .loadBlob 0xffffffffffffffff [5,5,5,5,5,5,5]]) 4=.ok 0x04090201 := by
  decide +kernel

end LiteDroid.MemoryWrites
