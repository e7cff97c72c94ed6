import Mathlib.Data.List.Induction
import LiteDroid.StorageImage
import LiteDroid.ChangeHistory
import LiteDroid.StepRun

/-!
# Sessions on a disk image

Images of one file are created and opened, read and written, flushed and
dropped, in any order and through any number of descriptors. Creating an image
keeps what the file held, up to the length that is asked for. Every read finds
the bytes of the most recent changes; an image goes on telling the length that
its file had when it was opened.
-/

namespace LiteDroid.StorageSessions

open ByteRange CoreResults StorageImage ChangeHistory StepRun

/-- A file with another length: cut, or continued with zeros. -/
def resized (file : HostFile) (length : ℕ) : HostFile where
  length := length
  byte a := if a < length then file.byte a else 0
  zero_past := by
    intro a ha
    exact if_neg (by omega)

/-- A file without bytes. -/
def emptyFile : HostFile := ⟨0,fun _ => 0,fun _ _ => rfl⟩

/-- What keeps the host from creating an image, with its text. -/
inductive CreateRefusal where
  /-- The path holds a zero byte. -/
  | invalidPath (message : String)
  /-- The file cannot be opened for reading and writing. -/
  | openFailed (message : String)
  /-- The file is open and cannot be given its length. -/
  | truncateFailed (message : String)
  deriving DecidableEq, Repr

/-- Create an image: the file is opened as it is, or made empty, and given its
length, which the host takes as a signed word. -/
def create (path : String) (sizeBytes : UInt64) (refusal : Option CreateRefusal)
    (file : Option HostFile) : Outcome RawDiskImage×Option HostFile :=
  let failed (message : String) : Outcome RawDiskImage := .error (.error (.diskIo message))
  match refusal with
  | some (.invalidPath e) => (failed s!"invalid path for disk image: {e}",file)
  | some (.openFailed e) => (failed s!"failed to create disk image at {path}: {e}",file)
  | some (.truncateFailed e) =>
    (failed s!"ftruncate failed for {path}: {e}",some (file.getD emptyFile))
  | none =>
    if 2^63 ≤ sizeBytes.toNat then
      (failed s!"ftruncate failed for {path}: {invalidArgument}",some (file.getD emptyFile))
    else (.ok ⟨sizeBytes⟩,some (resized (file.getD emptyFile) sizeBytes.toNat))

/-- Flush an image; the host may refuse with a text. -/
def flush (refusal : Option String) : Outcome Unit :=
  match refusal with
  | some e => .error (.error (.diskIo s!"fsync failed: {e}"))
  | none => .ok ()

/-- The file and the images that were opened on it, the first one first; one that
was dropped leaves a gap. -/
structure Sessions where
  /-- The file, if there is one. -/
  file : Option HostFile
  /-- The images. -/
  images : List (Option RawDiskImage)

/-- No file and no images. -/
def Sessions.start : Sessions := ⟨none,[]⟩

/-- What can happen next. -/
inductive Event where
  /-- An image is created. -/
  | create (path : String) (sizeBytes : UInt64) (refusal : Option CreateRefusal)
  /-- The file is opened as an image, or the host refuses. -/
  | openImage (path : String) (refusal : Option OpenRefusal)
  /-- An image is read. -/
  | read (image : ℕ) (offset : UInt64) (buf : List UInt8)
  /-- An image is written. -/
  | write (image : ℕ) (offset : UInt64) (data : List UInt8)
  /-- An image is flushed. -/
  | flush (image : ℕ) (refusal : Option String)
  /-- An image is dropped. -/
  | drop (image : ℕ)

/-- The image of an index, if it is still there. -/
def Sessions.image? (s : Sessions) (index : ℕ) : Option RawDiskImage := (s.images[index]?).join

/-- Keep an image that was opened. -/
def Sessions.opened (s : Sessions) : Outcome RawDiskImage → Sessions
  | .ok image => {s with images := s.images++[some image]}
  | .error _ => s

/-- The length of the file as the host reports it, or its refusal. -/
def statAnswer (refusal : Option OpenRefusal) (file : HostFile) : Except OpenRefusal UInt64 :=
  match refusal with
  | some e => .error e
  | none => .ok (UInt64.ofNat file.length)

/-- One event, if it is possible: only an existing file can be opened, and only
an image that is there can be used. -/
def Sessions.step (s : Sessions) : Event → Option Sessions
  | .create path sizeBytes refusal =>
    let report := StorageSessions.create path sizeBytes refusal s.file
    some (Sessions.opened {s with file := report.2} report.1)
  | .openImage path refusal =>
    match s.file,refusal with
    | none,none => none
    | none,some _ => some s
    | some file,_ => some (s.opened (RawDiskImage.openImage path (statAnswer refusal file)))
  | .read index _ _ => if (s.image? index).isSome then some s else none
  | .write index offset data =>
    match s.image? index,s.file with
    | some _,some file =>
      match StorageImage.write file offset data with
      | .ok (_,after) => some {s with file := some after}
      | .error _ => some s
    | _,_ => none
  | .flush index _ => if (s.image? index).isSome then some s else none
  | .drop index =>
    if (s.image? index).isSome then some {s with images := s.images.set index none} else none

/-- A change of the file. -/
inductive FileChange where
  /-- It is given a length. -/
  | resize (length : ℕ)
  /-- Bytes are written, at least one. -/
  | write (offset : ℕ) (data : List UInt8)

/-- The byte that a change leaves at an offset, if it decides about it. -/
def FileChange.effect : FileChange → ℕ → Option UInt8
  | .resize length,a => if a < length then none else some 0
  | .write offset data,a => if offset ≤ a then data[a-offset]? else none

/-- The length of a file behind a change. -/
def FileChange.length : FileChange → ℕ → ℕ
  | .resize length,_ => length
  | .write offset data,old => max old (offset+data.length)

/-- The length of a file behind some changes. -/
def lengthAfter (changes : List FileChange) : ℕ :=
  changes.foldl (fun old change => change.length old) 0

/-- The byte of a file at an offset behind some changes: the most recent change
that decides about it has put it there. -/
def byteAfter (changes : List FileChange) : ℕ → UInt8 :=
  settled FileChange.effect (fun _ => 0) changes

/-- What an event changes: a creation that succeeds gives the file a length, and
a write that is accepted writes. -/
def Event.changes : Event → List FileChange
  | .create _ sizeBytes none => if sizeBytes.toNat < 2^63 then [.resize sizeBytes.toNat] else []
  | .write _ offset data =>
    if OffsetFits offset data.length ∧ data≠[] then [.write offset.toNat data] else []
  | _ => []

/-- What the file is behind some changes. -/
structure Reflects (changes : List FileChange) (s : Sessions) : Prop where
  /-- Before there is a file there are no changes and no images. -/
  missing : s.file=none → changes=[] ∧ s.images=[]
  /-- Its bytes are those of the most recent changes. -/
  bytes : ∀ file, s.file=some file → file.byte=byteAfter changes
  /-- Its length is that of the changes. -/
  length : ∀ file, s.file=some file → file.length=lengthAfter changes
  /-- Its length is a signed word. -/
  bounded : ∀ file, s.file=some file → file.length < 2^63

/-- The file that a creation finds is that of the changes. -/
theorem Reflects.found {changes : List FileChange} {s : Sessions} (h : Reflects changes s) :
    (s.file.getD emptyFile).byte=byteAfter changes ∧
      (s.file.getD emptyFile).length=lengthAfter changes ∧
      (s.file.getD emptyFile).length < 2^63 := by
  cases hfile : s.file with
  | none =>
    obtain ⟨rfl,-⟩ := h.missing hfile
    exact ⟨rfl,rfl,by decide⟩
  | some file => exact ⟨h.bytes file hfile,h.length file hfile,h.bounded file hfile⟩

/-- Beside a file the images do not matter. -/
theorem Reflects.images {changes : List FileChange} {s : Sessions} (h : Reflects changes s)
    {file : HostFile} (hfile : s.file=some file) (images : List (Option RawDiskImage)) :
    Reflects changes {s with images := images} where
  missing := by
    intro hnone
    cases hfile.symm.trans hnone
  bytes := h.bytes
  length := h.length
  bounded := h.bounded

/-- The bytes that a read finds behind some changes. -/
def found (changes : List FileChange) (offset len : ℕ) : List UInt8 :=
  slice (byteAfter changes) offset (min len (lengthAfter changes-offset))

/-- The answer to a read behind some events. -/
def Answers (before : List Event) (offset : UInt64) (buf : List UInt8)
    (answer : Outcome (ℕ×List UInt8)) : Prop :=
  ∃ mid file, run Sessions.step Sessions.start before=some mid ∧ mid.file=some file ∧
    read file offset buf=answer

end LiteDroid.StorageSessions
