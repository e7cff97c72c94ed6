import LiteDroid.CoreResults
import LiteDroid.ListSplice

/-!
# The framebuffer

Pixels of four bytes stand row after row in one buffer. A rectangle is copied
into it or out of it row by row; each row is cut to the framebuffer's width and
to the other buffer's end with unsigned differences, which fall below zero where
the rectangle starts right of the framebuffer or a row starts behind the end of
the other buffer.
-/

namespace LiteDroid.GraphicsFramebuffer

open CoreResults ListSplice

/-- A framebuffer in host memory. -/
structure Framebuffer where
  /-- Width in pixels. -/
  width : UInt32
  /-- Height in pixels. -/
  height : UInt32
  /-- Four bytes for each pixel, row after row. -/
  pixels : List UInt8
  deriving DecidableEq, Repr

/-- A framebuffer of zeros. A vector holds at most the largest signed number of
bytes. -/
def Framebuffer.new (profile : Profile) (width height : UInt32) : Outcome Framebuffer := do
  let area ← profile.mulSize width.toNat height.toNat
  let size ← profile.mulSize area 4
  if size < 2^63 then return ⟨width,height,List.replicate size 0⟩
  else .error (.panic .capacityOverflow)

/-- Bytes of a row. -/
def Framebuffer.stride (profile : Profile) (fb : Framebuffer) : Outcome UInt32 :=
  profile.mulWord fb.width 4

/-- The first byte of a pixel. -/
def Framebuffer.pixelIndex (profile : Profile) (fb : Framebuffer) (x y : UInt32) : Outcome ℕ := do
  let above ← profile.mulSize y.toNat fb.width.toNat
  let place ← profile.addSize above x.toNat
  profile.mulSize place 4

/-- Set a single pixel. Coordinates outside the framebuffer are ignored. -/
def Framebuffer.setPixel (profile : Profile) (fb : Framebuffer) (x y : UInt32) (r g b a : UInt8) :
    Outcome Framebuffer :=
  if fb.width ≤ x ∨ fb.height ≤ y then return fb
  else do
  let idx ← fb.pixelIndex profile x y
  let pixels ← assign fb.pixels idx r
  let second ← profile.addSize idx 1
  let pixels ← assign pixels second g
  let third ← profile.addSize idx 2
  let pixels ← assign pixels third b
  let fourth ← profile.addSize idx 3
  let pixels ← assign pixels fourth a
  return {fb with pixels := pixels}

/-- Get a single pixel, zeros outside the framebuffer. -/
def Framebuffer.getPixel (profile : Profile) (fb : Framebuffer) (x y : UInt32) :
    Outcome (UInt8×UInt8×UInt8×UInt8) :=
  if fb.width ≤ x ∨ fb.height ≤ y then return (0,0,0,0)
  else do
  let idx ← fb.pixelIndex profile x y
  let r ← elementAt fb.pixels idx
  let second ← profile.addSize idx 1
  let g ← elementAt fb.pixels second
  let third ← profile.addSize idx 2
  let b ← elementAt fb.pixels third
  let fourth ← profile.addSize idx 3
  let a ← elementAt fb.pixels fourth
  return (r,g,b,a)

/-- Every whole chunk of four bytes replaced by a colour. -/
def fillChunks (r g b a : UInt8) : List UInt8 → List UInt8
  | _::_::_::_::rest => r::g::b::a::fillChunks r g b a rest
  | rest => rest

/-- Fill the framebuffer with a single colour. -/
def Framebuffer.fill (fb : Framebuffer) (r g b a : UInt8) : Framebuffer :=
  {fb with pixels := fillChunks r g b a fb.pixels}

/-- A buffer with one of its ranges replaced by a range of another buffer. Both
ranges have one length and are taken before anything is copied. -/
def copyFromSlice (profile : Profile) (target : List UInt8) (start : ℕ) (source : List UInt8)
    (sourceStart length : ℕ) : Outcome (List UInt8) := do
  let stop ← profile.addSize start length
  let _ ← sliceRange target start stop
  let sourceStop ← profile.addSize sourceStart length
  let part ← sliceRange source sourceStart sourceStop
  return splice target start part

/-- Copy the rows of a rectangle, from a row on, until one lies below the
framebuffer. A row is given its number and the framebuffer's row it stands for. -/
def blitRows (profile : Profile) (height y : UInt32)
    (copyRow : ℕ → ℕ → List UInt8 → Outcome (List UInt8)) :
    ℕ → ℕ → List UInt8 → Outcome (List UInt8)
  | 0,_,data => .ok data
  | n+1,row,data => do
    let sy ← profile.addSize y.toNat row
    if height.toNat ≤ sy then return data
    else do
    let data ← copyRow row sy data
    blitRows profile height y copyRow n (row+1) data

/-- Copy one row of a rectangle into the framebuffer. -/
def blitFromRow (profile : Profile) (width dstStride : UInt32) (src : List UInt8)
    (srcStride x w : UInt32) (row sy : ℕ) (pixels : List UInt8) : Outcome (List UInt8) := do
  let room ← profile.subSize width.toNat x.toNat
  let copyBytes ← profile.mulSize (min w.toNat room) 4
  let srcRowStart ← profile.mulSize row srcStride.toNat
  let srcSum ← profile.addSize srcRowStart copyBytes
  let actual ← profile.subSize (min srcSum src.length) srcRowStart
  if actual=0 then return pixels
  else do
  let above ← profile.mulSize sy dstStride.toNat
  let beside ← profile.mulSize x.toNat 4
  let dstStart ← profile.addSize above beside
  let dstSum ← profile.addSize dstStart actual
  let actual ← profile.subSize (min dstSum pixels.length) dstStart
  if actual=0 then return pixels
  else copyFromSlice profile pixels dstStart src srcRowStart actual

/-- Copy a rectangle of a buffer into the framebuffer. -/
def Framebuffer.blitFrom (profile : Profile) (fb : Framebuffer) (src : List UInt8)
    (srcStride x y w h : UInt32) : Outcome Framebuffer := do
  let dstStride ← fb.stride profile
  let pixels ← blitRows profile fb.height y
    (blitFromRow profile fb.width dstStride src srcStride x w) h.toNat 0 fb.pixels
  return {fb with pixels := pixels}

/-- Copy one row of a rectangle out of the framebuffer. -/
def blitToRow (profile : Profile) (width srcStride : UInt32) (pixels : List UInt8)
    (dstStride x w : UInt32) (row sy : ℕ) (dst : List UInt8) : Outcome (List UInt8) := do
  let room ← profile.subSize width.toNat x.toNat
  let copyBytes ← profile.mulSize (min w.toNat room) 4
  let above ← profile.mulSize sy srcStride.toNat
  let beside ← profile.mulSize x.toNat 4
  let srcStart ← profile.addSize above beside
  let srcSum ← profile.addSize srcStart copyBytes
  let actual ← profile.subSize (min srcSum pixels.length) srcStart
  if actual=0 then return dst
  else do
  let dstStart ← profile.mulSize row dstStride.toNat
  let dstSum ← profile.addSize dstStart actual
  let actual ← profile.subSize (min dstSum dst.length) dstStart
  if actual=0 then return dst
  else copyFromSlice profile dst dstStart pixels srcStart actual

/-- Copy a rectangle of the framebuffer into a buffer. -/
def Framebuffer.blitTo (profile : Profile) (fb : Framebuffer) (dst : List UInt8)
    (dstStride x y w h : UInt32) : Outcome (List UInt8) := do
  let srcStride ← fb.stride profile
  blitRows profile fb.height y (blitToRow profile fb.width srcStride fb.pixels dstStride x w)
    h.toNat 0 dst

end LiteDroid.GraphicsFramebuffer
