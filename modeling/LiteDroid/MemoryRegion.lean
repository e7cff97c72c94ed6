import LiteDroid.ByteRange
import LiteDroid.LittleEndian
import LiteDroid.CoreResults

/-!
# Guest physical memory

The memory crate maps one contiguous region and copies bytes in and out of
it after a bounds check whose end address is computed with a checked sum.
Cells are a function of the natural address; those at or past the size are
never read or written. The little-endian accessors are those the block
device uses on top of the region.
-/

namespace LiteDroid.MemoryRegion

open ByteRange LittleEndian CoreResults

/-- One contiguous region of guest physical memory. -/
structure GuestMemory where
  /-- Region length in bytes. -/
  size : UInt64
  /-- No mapping of a process is longer than the largest signed word. -/
  size_lt : size.toNat < 2^63
  /-- The byte at each guest-physical address. -/
  byte : ℕ → UInt8

/-- Anonymous mappings start out zeroed. The host answers whether it can map
the requested length; it never can past the largest signed word. -/
def new (mapped : Bool) (sizeBytes : UInt64) : Outcome GuestMemory :=
  if sizeBytes=0 then .error (.error (.memoryAllocationFailed 0 0))
  else if h : sizeBytes.toNat < 2^63 ∧ mapped=true then .ok ⟨sizeBytes,h.1,fun _ => 0⟩
  else
    let n := sizeBytes.toNat
    .error (.error (.memoryMapFailed s!"mmap failed for {n} bytes"))

/-- The bounds check of both copy directions: the checked sum, then the
comparison with the region's size. -/
def checkRange (memory : GuestMemory) (addr : UInt64) (len : ℕ) : Outcome Unit :=
  if 2^64 ≤ addr.toNat+len then .error (.error (.guestAddressOutOfRange addr))
  else if memory.size.toNat < addr.toNat+len then .error (.error (.guestAddressOutOfRange addr))
  else .ok ()

/-- Copy a range of guest memory out. -/
def readGuest (memory : GuestMemory) (addr : UInt64) (len : ℕ) : Outcome (List UInt8) := do
  checkRange memory addr len
  return slice memory.byte addr.toNat len

/-- Copy bytes into guest memory. -/
def writeGuest (memory : GuestMemory) (addr : UInt64) (data : List UInt8) :
    Outcome GuestMemory := do
  checkRange memory addr data.length
  return {memory with byte := overwrite memory.byte addr.toNat data}

/-- Load a binary blob at a guest physical address. -/
def loadBlob (memory : GuestMemory) (addr : UInt64) (data : List UInt8) : Outcome GuestMemory :=
  writeGuest memory addr data

/-- The little-endian 16-bit word at a guest address. -/
def guestU16 (memory : GuestMemory) (address : UInt64) : Outcome UInt16 := do
  let bytes ← readGuest memory address 2
  return UInt16.ofNat (leNat bytes)

/-- The little-endian 32-bit word at a guest address. -/
def guestU32 (memory : GuestMemory) (address : UInt64) : Outcome UInt32 := do
  let bytes ← readGuest memory address 4
  return UInt32.ofNat (leNat bytes)

/-- The little-endian 64-bit word at a guest address. -/
def guestU64 (memory : GuestMemory) (address : UInt64) : Outcome UInt64 := do
  let bytes ← readGuest memory address 8
  return UInt64.ofNat (leNat bytes)

/-- A range lies in guest memory when its natural end does not pass the size. -/
def Fits (memory : GuestMemory) (addr : UInt64) (len : ℕ) : Prop :=
  addr.toNat+len ≤ memory.size.toNat

instance (memory : GuestMemory) (addr : UInt64) (len : ℕ) : Decidable (Fits memory addr len) :=
  inferInstanceAs (Decidable (_ ≤ _))

/-- The memory after an unchecked store at a natural address. -/
def store (memory : GuestMemory) (addr : ℕ) (data : List UInt8) : GuestMemory :=
  {memory with byte := overwrite memory.byte addr data}

/-- A zeroed region of four pages with some ranges filled in, later ones on top. -/
def filled (parts : List (ℕ×List UInt8)) : GuestMemory :=
  parts.foldl (fun memory part => store memory part.1 part.2) ⟨0x4000,by decide,fun _ => 0⟩

/-- A store keeps the region's size. -/
@[simp] theorem store_size (memory : GuestMemory) (addr : ℕ) (data : List UInt8) :
    (store memory addr data).size=memory.size := by
  cases memory
  rfl

/-- A store writes the cells of its range. -/
@[simp] theorem store_byte (memory : GuestMemory) (addr : ℕ) (data : List UInt8) :
    (store memory addr data).byte=overwrite memory.byte addr data := by
  cases memory
  rfl

/-- A store keeps which ranges lie in the region. -/
@[simp] theorem fits_store (memory : GuestMemory) (a : ℕ) (data : List UInt8) (addr : UInt64)
    (len : ℕ) : Fits (store memory a data) addr len ↔ Fits memory addr len := Iff.rfl

/-- The two failing branches of the check are the one natural comparison:
the checked sum cannot overflow on a range that fits. -/
theorem checkRange_eq (memory : GuestMemory) (addr : UInt64) (len : ℕ) :
    checkRange memory addr len=
      if Fits memory addr len then .ok () else .error (.error (.guestAddressOutOfRange addr)) := by
  have hs := memory.size.toNat_lt
  unfold checkRange
  by_cases h : Fits memory addr len
  · rw [if_pos h]
    unfold Fits at h
    rw [if_neg (by omega),if_neg (by omega)]
  · rw [if_neg h]
    unfold Fits at h
    split
    · rfl
    · rw [if_pos (by omega)]

/-- Reading succeeds exactly inside the region and returns the current bytes. -/
theorem readGuest_eq (memory : GuestMemory) (addr : UInt64) (len : ℕ) :
    readGuest memory addr len=
      if Fits memory addr len then .ok (slice memory.byte addr.toNat len)
      else .error (.error (.guestAddressOutOfRange addr)) := by
  unfold readGuest
  rw [checkRange_eq]
  split <;> rfl

/-- Writing succeeds exactly inside the region and stores the given bytes. -/
theorem writeGuest_eq (memory : GuestMemory) (addr : UInt64) (data : List UInt8) :
    writeGuest memory addr data=
      if Fits memory addr data.length then .ok (store memory addr.toNat data)
      else .error (.error (.guestAddressOutOfRange addr)) := by
  unfold writeGuest
  rw [checkRange_eq]
  split <;> rfl

/-- A read of a range inside the region. -/
theorem readGuest_fits {memory : GuestMemory} {addr : UInt64} {len : ℕ}
    (h : Fits memory addr len) :
    readGuest memory addr len=.ok (slice memory.byte addr.toNat len) := by
  rw [readGuest_eq,if_pos h]

/-- A write to a range inside the region. -/
theorem writeGuest_fits {memory : GuestMemory} {addr : UInt64} {data : List UInt8}
    (h : Fits memory addr data.length) :
    writeGuest memory addr data=.ok (store memory addr.toNat data) := by
  rw [writeGuest_eq,if_pos h]

/-- A write to a range that leaves the region. -/
theorem writeGuest_not_fits {memory : GuestMemory} {addr : UInt64} {data : List UInt8}
    (h : ¬Fits memory addr data.length) :
    writeGuest memory addr data=.error (.error (.guestAddressOutOfRange addr)) := by
  rw [writeGuest_eq,if_neg h]

/-- A successful write was inside the region and is the plain store. -/
theorem writeGuest_ok {memory after : GuestMemory} {addr : UInt64} {data : List UInt8}
    (h : writeGuest memory addr data=.ok after) :
    Fits memory addr data.length ∧ after=store memory addr.toNat data := by
  rw [writeGuest_eq] at h
  split at h
  · rename_i hf
    exact ⟨hf,(Except.ok.inj h).symm⟩
  · cases h

/-- A read of a range separate from a stored one finds what was there before. -/
theorem readGuest_store_separate {memory : GuestMemory} {a len : ℕ} {data : List UInt8}
    {addr : UInt64} (h : Separate a data.length addr.toNat len) :
    readGuest (store memory a data) addr len=readGuest memory addr len := by
  rw [readGuest_eq,readGuest_eq,store_byte,slice_overwrite_separate h]
  rfl

/-- Reading the little-endian bytes of a number that fits them gives the word of the number. -/
theorem word_of_bytes {α : Type} {ofNat : ℕ → α} {width n : ℕ} {bytes : Outcome (List UInt8)}
    (hb : bytes=.ok (leBytes width n)) (hn : n < 256^width) :
    (do return ofNat (leNat (← bytes)))=(.ok (ofNat n) : Outcome α) := by
  have hvalue : leNat (leBytes width n)=n := by
    rw [leNat_leBytes,Nat.mod_eq_of_lt hn]
  rw [hb]
  exact congrArg (fun value => Except.ok (ofNat value)) hvalue

/-- Where the bytes of a 16-bit word are read, the word is read. -/
theorem guestU16_of_bytes {memory : GuestMemory} {addr : UInt64} {value : UInt16}
    (h : readGuest memory addr 2=.ok (leBytes 2 value.toNat)) :
    guestU16 memory addr=.ok value :=
  (word_of_bytes h value.toNat_lt).trans (congrArg Except.ok UInt16.ofNat_toNat)

/-- Where the bytes of a 32-bit word are read, the word is read. -/
theorem guestU32_of_bytes {memory : GuestMemory} {addr : UInt64} {value : UInt32}
    (h : readGuest memory addr 4=.ok (leBytes 4 value.toNat)) :
    guestU32 memory addr=.ok value :=
  (word_of_bytes h value.toNat_lt).trans (congrArg Except.ok UInt32.ofNat_toNat)

/-- Where the bytes of a 64-bit word are read, the word is read. -/
theorem guestU64_of_bytes {memory : GuestMemory} {addr : UInt64} {value : UInt64}
    (h : readGuest memory addr 8=.ok (leBytes 8 value.toNat)) :
    guestU64 memory addr=.ok value :=
  (word_of_bytes h value.toNat_lt).trans (congrArg Except.ok UInt64.ofNat_toNat)

/-- A number stored by its little-endian bytes is found as them. -/
theorem slice_store_number (memory : GuestMemory) (addr width n : ℕ) :
    slice (store memory addr (leBytes width n)).byte addr width=leBytes width n := by
  have hself := slice_overwrite_self memory.byte addr (leBytes width n)
  rw [leBytes_length] at hself
  rw [store_byte,hself]

/-- A stored 64-bit word reads back as itself. -/
theorem guestU64_store {memory : GuestMemory} {addr : UInt64} (value : UInt64)
    (h : Fits memory addr 8) :
    guestU64 (store memory addr.toNat (leBytes 8 value.toNat)) addr=.ok value := by
  apply guestU64_of_bytes
  rw [readGuest_fits ((fits_store _ _ _ _ _).mpr h),slice_store_number]

/-- Reading never panics. -/
theorem readGuest_noPanic (memory : GuestMemory) (addr : UInt64) (len : ℕ) :
    NoPanic (readGuest memory addr len) := by
  rw [readGuest_eq]
  split
  · exact noPanic_ok _
  · exact noPanic_error _

/-- A 16-bit read never panics. -/
theorem guestU16_noPanic (memory : GuestMemory) (addr : UInt64) :
    NoPanic (guestU16 memory addr) :=
  noPanic_bind (readGuest_noPanic memory addr 2) fun _ _ => noPanic_ok _

/-- A 32-bit read never panics. -/
theorem guestU32_noPanic (memory : GuestMemory) (addr : UInt64) :
    NoPanic (guestU32 memory addr) :=
  noPanic_bind (readGuest_noPanic memory addr 4) fun _ _ => noPanic_ok _

/-- A 64-bit read never panics. -/
theorem guestU64_noPanic (memory : GuestMemory) (addr : UInt64) :
    NoPanic (guestU64 memory addr) :=
  noPanic_bind (readGuest_noPanic memory addr 8) fun _ _ => noPanic_ok _

/-- A 32-bit read that returns lies in guest memory. -/
theorem guestU32_ok_fits {memory : GuestMemory} {addr : UInt64} {value : UInt32}
    (h : guestU32 memory addr=.ok value) : Fits memory addr 4 := by
  obtain ⟨bytes,hb,-⟩ := bind_ok_iff.mp h
  rw [readGuest_eq] at hb
  split at hb
  · assumption
  · cases hb

end LiteDroid.MemoryRegion
