import LiteDroid.ByteRange
import LiteDroid.CoreResults

/-!
# Raw disk images over positional file access

The storage crate keeps the file descriptor and the length found when the
image was opened; the file itself belongs to the host. Positional reads stop
at the end of the file and positional writes past it extend the file, a gap
reading as zeros. Offsets are passed as signed 64-bit words, so the host
refuses a range whose end leaves them.
-/

namespace LiteDroid.StorageImage

open ByteRange CoreResults

/-- Bytes of one disk sector. -/
def sectorSize : UInt64 := 512

/-- A file of the host. Cells past its end are zero, as a later gap reads. -/
@[ext] structure HostFile where
  /-- Current length in bytes. -/
  length : ℕ
  /-- The byte at each file offset. -/
  byte : ℕ → UInt8
  /-- Nothing is stored past the end. -/
  zero_past : ∀ a, length ≤ a → byte a=0

/-- The host's text for a refused offset. -/
def invalidArgument : String := "Invalid argument (os error 22)"

/-- Positional read: the bytes up to the end of the file, or a refusal when the
signed end of the range overflows. -/
def pread (file : HostFile) (len : ℕ) (offset : UInt64) : Except String (List UInt8) :=
  if 2^63 ≤ offset.toNat+len then .error invalidArgument
  else .ok (slice file.byte offset.toNat (min len (file.length-offset.toNat)))

/-- The file after a positional write of at least one byte. -/
def HostFile.extend (file : HostFile) (offset : ℕ) (data : List UInt8) : HostFile where
  length := max file.length (offset+data.length)
  byte := overwrite file.byte offset data
  zero_past := by
    intro a ha
    rw [overwrite_outside (by omega)]
    exact file.zero_past a (by omega)

/-- Positional write: the whole buffer, extending the file where needed. A
write of no byte never extends. -/
def pwrite (file : HostFile) (data : List UInt8) (offset : UInt64) :
    Except String (ℕ×HostFile) :=
  if 2^63 ≤ offset.toNat+data.length then .error invalidArgument
  else if data=[] then .ok (0,file)
  else .ok (data.length,file.extend offset.toNat data)

/-- An open raw disk image. -/
structure RawDiskImage where
  /-- The file's length when the image was opened. -/
  size : UInt64
  deriving DecidableEq, Repr

/-- What keeps the host from opening an image, with its text. -/
inductive OpenRefusal where
  /-- The path holds a zero byte. -/
  | invalidPath (message : String)
  /-- The file cannot be opened for reading and writing. -/
  | openFailed (message : String)
  /-- The length cannot be read. -/
  | statFailed (message : String)
  deriving DecidableEq, Repr

/-- Open an existing image; the host answers with the length of its file. -/
def RawDiskImage.openImage (path : String) (answer : Except OpenRefusal UInt64) :
    Outcome RawDiskImage :=
  match answer with
  | .ok size => .ok ⟨size⟩
  | .error (.invalidPath e) => .error (.error (.diskIo s!"invalid path for disk image: {e}"))
  | .error (.openFailed e) =>
    .error (.error (.diskIo s!"failed to open disk image at {path}: {e}"))
  | .error (.statFailed e) => .error (.error (.diskIo s!"fstat failed for {path}: {e}"))

/-- Number of whole sectors advertised for an image. -/
def RawDiskImage.sectors (disk : RawDiskImage) : UInt64 := disk.size/sectorSize

/-- Read into a buffer at a byte offset. The count and the buffer afterwards. -/
def read (file : HostFile) (offset : UInt64) (buf : List UInt8) : Outcome (ℕ×List UInt8) :=
  match pread file buf.length offset with
  | .error errno => .error (.error (.diskIo s!"pread failed at offset {offset}: {errno}"))
  | .ok data => .ok (data.length,data++buf.drop data.length)

/-- Write a buffer at a byte offset. The count and the file afterwards. -/
def write (file : HostFile) (offset : UInt64) (data : List UInt8) : Outcome (ℕ×HostFile) :=
  match pwrite file data offset with
  | .error errno => .error (.error (.diskIo s!"pwrite failed at offset {offset}: {errno}"))
  | .ok result => .ok result

/-- The host accepts a range whose signed end does not overflow. -/
def OffsetFits (offset : UInt64) (len : ℕ) : Prop := offset.toNat+len < 2^63

instance (offset : UInt64) (len : ℕ) : Decidable (OffsetFits offset len) :=
  inferInstanceAs (Decidable (_ < _))

/-- The bytes a positional read of a length at an offset finds. -/
def readable (file : HostFile) (offset : ℕ) (len : ℕ) : List UInt8 :=
  slice file.byte offset (min len (file.length-offset))

/-- The file after a write of any length, the empty one included. -/
def stored (file : HostFile) (offset : ℕ) (data : List UInt8) : HostFile :=
  if data=[] then file else file.extend offset data

/-- A read is a transfer of the readable bytes, or the host's refusal. -/
theorem read_eq (file : HostFile) (offset : UInt64) (buf : List UInt8) :
    read file offset buf=
      if OffsetFits offset buf.length then
        let data := readable file offset.toNat buf.length
        .ok (data.length,data++buf.drop data.length)
      else .error (.error (.diskIo s!"pread failed at offset {offset}: {invalidArgument}")) := by
  unfold read pread
  by_cases h : OffsetFits offset buf.length
  · rw [if_pos h]
    unfold OffsetFits at h
    rw [if_neg (by omega)]
    rfl
  · rw [if_neg h]
    unfold OffsetFits at h
    rw [if_pos (by omega)]

/-- A write stores the whole buffer, or is refused by the host. -/
theorem write_eq (file : HostFile) (offset : UInt64) (data : List UInt8) :
    write file offset data=
      if OffsetFits offset data.length then .ok (data.length,stored file offset.toNat data)
      else .error (.error (.diskIo s!"pwrite failed at offset {offset}: {invalidArgument}")) := by
  unfold write pwrite stored
  by_cases h : OffsetFits offset data.length
  · rw [if_pos h]
    unfold OffsetFits at h
    rw [if_neg (by omega)]
    by_cases hd : data=[]
    · simp only [hd,if_true,List.length_nil]
    · rw [if_neg hd,if_neg hd]
  · rw [if_neg h]
    unfold OffsetFits at h
    rw [if_pos (by omega)]

/-- Inside the file a read finds its full length. -/
theorem readable_of_le {file : HostFile} {offset len : ℕ} (h : offset+len ≤ file.length) :
    readable file offset len=slice file.byte offset len := by
  unfold readable
  rw [Nat.min_eq_left (by omega)]

/-- The byte of a stored file at any offset. -/
theorem stored_byte (file : HostFile) (offset : ℕ) (data : List UInt8) :
    (stored file offset data).byte=overwrite file.byte offset data := by
  unfold stored
  split
  · rename_i h
    rw [h,overwrite_nil]
  · rfl

/-- A write inside the file keeps its length. -/
theorem stored_length {file : HostFile} {offset : ℕ} {data : List UInt8}
    (h : offset+data.length ≤ file.length) : (stored file offset data).length=file.length := by
  unfold stored
  split
  · rfl
  · simp only [HostFile.extend]
    omega

end LiteDroid.StorageImage
