import LiteDroid.GraphicsBlits

/-!
# Rectangles copied in and out again

A rectangle inside the framebuffer and a buffer with room for all of its rows:
both copies go through the same rows, so what was copied in is copied out, and
copying out and in again changes nothing. Rows of the buffer may be padded; the
padding is never touched.
-/

namespace LiteDroid.GraphicsRoundTrip

open CoreResults ListSplice GraphicsFramebuffer GraphicsBlits

/-- A rectangle inside a framebuffer whose rows fit 32 bits, with a stride of the
other buffer that holds a row of it. -/
structure InBounds (fb : Framebuffer) (stride x y w h : UInt32) : Prop where
  /-- There are four bytes for each pixel. -/
  framed : Framed fb
  /-- The bytes of a row fit 32 bits. -/
  narrow : fb.width.toNat < 2^30
  /-- The columns lie in the framebuffer. -/
  across : x.toNat+w.toNat ≤ fb.width.toNat
  /-- The rows lie in the framebuffer. -/
  down : y.toNat+h.toNat ≤ fb.height.toNat
  /-- A row of the rectangle fits the stride. -/
  padded : 4*w.toNat ≤ stride.toNat

/-- A position of the other buffer lies in a row of the rectangle. -/
def InRow (stride w : UInt32) (row i : ℕ) : Prop :=
  row*stride.toNat ≤ i ∧ i < row*stride.toNat+4*w.toNat

/-- The first byte of a row of the rectangle in the framebuffer. -/
def rowStart (fb : Framebuffer) (x y : UInt32) (row : ℕ) : ℕ :=
  ((y.toNat+row)*fb.width.toNat+x.toNat)*4

variable {fb : Framebuffer} {stride x y w h : UInt32}

/-- Bytes of a buffer behind the start of a row. -/
theorem row_room {buffer : List UInt8} (hb : h.toNat*stride.toNat ≤ buffer.length) {row : ℕ}
    (hrow : row < h.toNat) : row*stride.toNat+stride.toNat ≤ buffer.length := by
  have hnext : (row+1)*stride.toNat ≤ h.toNat*stride.toNat := Nat.mul_le_mul_right _ hrow
  rw [Nat.add_mul,Nat.one_mul] at hnext
  omega

/-- No position of the buffer lies in two rows of the rectangle. -/
theorem inRow_unique {row other i : ℕ} (hp : 4*w.toNat ≤ stride.toNat) (hrow : InRow stride w row i)
    (hother : InRow stride w other i) : row=other := by
  have hdiv : ∀ k, InRow stride w k i → i/stride.toNat=k := by
    intro k hk
    unfold InRow at hk
    refine Nat.div_eq_of_lt_le hk.1 ?_
    rw [Nat.add_mul,Nat.one_mul]
    omega
  rw [← hdiv row hrow,← hdiv other hother]

/-- A rectangle inside the framebuffer can be copied in. -/
theorem fromFits_inBounds (hr : InBounds fb stride x y w h) {src : List UInt8}
    (hsrc : h.toNat*stride.toNat ≤ src.length) : FromFits fb src stride x y h := by
  have hnarrow := hr.narrow
  have hacross := hr.across
  refine ⟨by omega,fun row hrow _ => ⟨by omega,?_⟩⟩
  have hroom := row_room hsrc hrow
  omega

/-- It can be copied out too. -/
theorem toFits_inBounds (hr : InBounds fb stride x y w h) {dst : List UInt8}
    (hdst : h.toNat*stride.toNat ≤ dst.length) : ToFits fb dst stride x y w h := by
  have hnarrow := hr.narrow
  have hacross := hr.across
  refine ⟨by omega,fun row hrow _ => ⟨by omega,fun _ _ => ?_⟩⟩
  have hroom := row_room hdst hrow
  omega

/-- A row that is copied in, as a part of the source. -/
theorem inRows_part (hr : InBounds fb stride x y w h) (src : List UInt8) {row : ℕ}
    (hrow : row < h.toNat) : (inRows fb src stride x y w).part row=
      (src.drop (row*stride.toNat)).take (4*w.toNat) := by
  have hdown := hr.down
  have hacross := hr.across
  have hwidth : min w.toNat (fb.width.toNat-x.toNat)*4=4*w.toNat := by omega
  simp only [inRows,hwidth,if_pos (show y.toNat+row < fb.height.toNat by omega)]

/-- A row that is copied out, as a part of the pixels. -/
theorem outRows_part (hr : InBounds fb stride x y w h) {length : ℕ}
    (hlength : h.toNat*stride.toNat ≤ length) {row : ℕ} (hrow : row < h.toNat) :
    (outRows fb length stride x y w).part row=
      (fb.pixels.drop (rowStart fb x y row)).take (4*w.toNat) := by
  have hdown := hr.down
  have hacross := hr.across
  have hpadded := hr.padded
  have hnext : (row+1)*stride.toNat ≤ h.toNat*stride.toNat := Nat.mul_le_mul_right _ hrow
  rw [Nat.add_mul,Nat.one_mul] at hnext
  have hwidth : min (min w.toNat (fb.width.toNat-x.toNat)*4) (length-row*stride.toNat)=4*w.toNat := by
    omega
  simp only [outRows,hwidth,if_pos (show y.toNat+row < fb.height.toNat by omega),rowStart]

/-- A row of the rectangle ends inside the pixels. -/
theorem rowStart_room (hr : InBounds fb stride x y w h) {row : ℕ} (hrow : row < h.toNat) :
    rowStart fb x y row+4*w.toNat ≤ fb.pixels.length := by
  have hdown := hr.down
  have hacross := hr.across
  have hlast : (y.toNat+row+1)*fb.width.toNat ≤ fb.height.toNat*fb.width.toNat :=
    Nat.mul_le_mul_right _ (by omega)
  rw [Nat.add_mul,Nat.one_mul] at hlast
  rw [hr.framed,Nat.mul_comm fb.width.toNat,rowStart]
  omega

/-- What a row of the rectangle covers in the other buffer. -/
theorem outRows_covers {length row i : ℕ}
    (hc : (outRows fb length stride x y w).Covers row i) : InRow stride w row i := by
  have hpart : ((outRows fb length stride x y w).part row).length ≤ 4*w.toNat := by
    simp only [outRows]
    split
    · rw [List.length_take]
      omega
    · rw [List.length_nil]
      omega
  unfold Rows.Covers at hc
  simp only [outRows] at hc hpart
  unfold InRow
  omega

/-- Rows of the other buffer do not meet. -/
theorem outRows_apart (hp : 4*w.toNat ≤ stride.toNat) (length : ℕ) :
    (outRows fb length stride x y w).Apart :=
  fun _ _ _ hrow hother => inRow_unique hp (outRows_covers hrow) (outRows_covers hother)

/-- A byte of the rectangle after it was copied in. -/
theorem clampedIn_row (hr : InBounds fb stride x y w h) {src : List UInt8}
    (hsrc : h.toNat*stride.toNat ≤ src.length) {row j : ℕ} (hrow : row < h.toNat)
    (hj : j < 4*w.toNat) :
    (clampedIn fb src stride x y w h).pixels[rowStart fb x y row+j]?=src[row*stride.toNat+j]? := by
  have hpadded := hr.padded
  have hroom := row_room hsrc hrow
  have hpart := inRows_part hr src hrow
  have hstart : (inRows fb src stride x y w).start row=rowStart fb x y row := rfl
  have hlength : ((inRows fb src stride x y w).part row).length=4*w.toNat := by
    rw [hpart,List.length_take,List.length_drop]
    omega
  have hcover : (inRows fb src stride x y w).Covers row (rowStart fb x y row+j) := by
    unfold Rows.Covers
    rw [hstart,hlength]
    omega
  have hpaint := paint_inside (inRows_apart fb src stride x y w) h.toNat hcover 0 fb.pixels
    (inRows_inside hr.framed src stride x y w) (by omega) (by omega)
  rw [hstart,Nat.add_sub_cancel_left,hpart,List.getElem?_take,if_pos hj,List.getElem?_drop] at hpaint
  exact hpaint

/-- A byte of the rectangle after it was copied out. -/
theorem clampedOut_row (hr : InBounds fb stride x y w h) {dst : List UInt8}
    (hdst : h.toNat*stride.toNat ≤ dst.length) {row j : ℕ} (hrow : row < h.toNat)
    (hj : j < 4*w.toNat) :
    (clampedOut fb dst stride x y w h)[row*stride.toNat+j]?=fb.pixels[rowStart fb x y row+j]? := by
  have hroom := rowStart_room hr hrow
  have hpart := outRows_part hr hdst hrow
  have hstart : (outRows fb dst.length stride x y w).start row=row*stride.toNat := rfl
  have hlength : ((outRows fb dst.length stride x y w).part row).length=4*w.toNat := by
    rw [hpart,List.length_take,List.length_drop]
    omega
  have hcover : (outRows fb dst.length stride x y w).Covers row (row*stride.toNat+j) := by
    unfold Rows.Covers
    rw [hstart,hlength]
    omega
  have hpaint := paint_inside (outRows_apart hr.padded dst.length) h.toNat hcover 0 dst
    (outRows_inside fb dst.length stride x y w) (by omega) (by omega)
  rw [hstart,Nat.add_sub_cancel_left,hpart,List.getElem?_take,if_pos hj,List.getElem?_drop] at hpaint
  exact hpaint

/-- Bytes outside the rows of the rectangle are not touched by copying out. -/
theorem clampedOut_outside {dst : List UInt8} {i : ℕ}
    (hi : ∀ row < h.toNat, ¬InRow stride w row i) :
    (clampedOut fb dst stride x y w h)[i]?=dst[i]? := by
  refine paint_outside h.toNat 0 dst (outRows_inside fb dst.length stride x y w) ?_
  intro row _ hrow hcover
  exact hi row (by omega) (outRows_covers hcover)

/-- Copying in what was copied out changes nothing. -/
theorem clampedIn_clampedOut (hr : InBounds fb stride x y w h) {dst : List UInt8}
    (hdst : h.toNat*stride.toNat ≤ dst.length) :
    clampedIn fb (clampedOut fb dst stride x y w h) stride x y w h=fb := by
  have hlength : (clampedOut fb dst stride x y w h).length=dst.length :=
    paint_length h.toNat 0 dst (outRows_inside fb dst.length stride x y w)
  have hpixels : (clampedIn fb (clampedOut fb dst stride x y w h) stride x y w h).pixels=
      fb.pixels := by
    apply List.ext_getElem?
    intro i
    by_cases hcovered : ∃ row < h.toNat,
        (inRows fb (clampedOut fb dst stride x y w h) stride x y w).Covers row i
    · obtain ⟨row,hrow,hcover⟩ := hcovered
      have hpart : ((inRows fb (clampedOut fb dst stride x y w h) stride x y w).part row).length ≤
          4*w.toNat := by
        rw [inRows_part hr _ hrow,List.length_take]
        omega
      have hat : ∃ j < 4*w.toNat, i=rowStart fb x y row+j := by
        obtain ⟨hlow,hhigh⟩ := hcover
        change rowStart fb x y row ≤ i at hlow
        change i < rowStart fb x y row+_ at hhigh
        exact ⟨i-rowStart fb x y row,by omega,by omega⟩
      obtain ⟨j,hj,rfl⟩ := hat
      rw [clampedIn_row hr (by rw [hlength]; exact hdst) hrow hj,clampedOut_row hr hdst hrow hj]
    · refine paint_outside h.toNat 0 fb.pixels (inRows_inside hr.framed _ stride x y w) ?_
      intro row _ hrow hcover
      exact hcovered ⟨row,by omega,hcover⟩
  exact congrArg (fun pixels => {fb with pixels := pixels}) hpixels

/-- Both copies are inverse on a rectangle inside the framebuffer, under either
profile. A source that is copied in and out again arrives in the rows of the
rectangle, and no other byte of the target changes. A target that is copied out
and in again leaves the framebuffer as it is. -/
theorem blits_inverse (profile : Profile) (fb : Framebuffer) (stride x y w h : UInt32)
    (hr : InBounds fb stride x y w h) (src dst : List UInt8)
    (hsrc : h.toNat*stride.toNat ≤ src.length) (hdst : h.toNat*stride.toNat ≤ dst.length) :
    (∃ drawn out, fb.blitFrom profile src stride x y w h=.ok drawn ∧
      drawn.blitTo profile dst stride x y w h=.ok out ∧ out.length=dst.length ∧
      (∀ row < h.toNat, ∀ j < 4*w.toNat,
        out[row*stride.toNat+j]?=src[row*stride.toNat+j]?) ∧
      ∀ i, (∀ row < h.toNat, ¬InRow stride w row i) → out[i]?=dst[i]?) ∧
    ∃ out, fb.blitTo profile dst stride x y w h=.ok out ∧
      fb.blitFrom profile out stride x y w h=.ok fb := by
  have hlength : ∀ shown : Framebuffer,
      (clampedOut shown dst stride x y w h).length=dst.length := fun shown =>
    paint_length h.toNat 0 dst (outRows_inside shown dst.length stride x y w)
  constructor
  · have hdrawn : InBounds (clampedIn fb src stride x y w h) stride x y w h := by
      refine ⟨?_,hr.narrow,hr.across,hr.down,hr.padded⟩
      have hpixels := paint_length h.toNat 0 fb.pixels (inRows_inside hr.framed src stride x y w)
      exact hpixels.trans hr.framed
    refine ⟨clampedIn fb src stride x y w h,
      clampedOut (clampedIn fb src stride x y w h) dst stride x y w h,
      blitFrom_ok profile hr.framed w (fromFits_inBounds hr hsrc),
      blitTo_ok profile hdrawn.framed (toFits_inBounds hdrawn hdst),hlength _,?_,?_⟩
    · intro row hrow j hj
      rw [clampedOut_row hdrawn hdst hrow hj]
      exact clampedIn_row hr hsrc hrow hj
    · intro i hi
      exact clampedOut_outside hi
  · refine ⟨clampedOut fb dst stride x y w h,
      blitTo_ok profile hr.framed (toFits_inBounds hr hdst),?_⟩
    rw [blitFrom_ok profile hr.framed w (fromFits_inBounds hr (by rw [hlength]; exact hdst)),
      clampedIn_clampedOut hr hdst]

/-- A column of the small framebuffer, with rows padded to six bytes. -/
theorem blits_inverse_small :
    ∃ drawn out, smallBuffer.blitFrom .dev [1,2,3,4,5,6,7,8,9,10,11,12] 6 1 0 1 2=.ok drawn ∧
      drawn.blitTo .dev (List.replicate 12 0) 6 1 0 1 2=.ok out ∧
      out[6]?=some 7 ∧ out[4]?=some 0 := by
  have hr : InBounds smallBuffer 6 1 0 1 2 :=
    ⟨by unfold Framed; decide,by decide,by decide,by decide,by decide⟩
  obtain ⟨⟨drawn,out,hdrawn,hout,-,hrows,hrest⟩,-⟩ := blits_inverse .dev smallBuffer 6 1 0 1 2 hr
    [1,2,3,4,5,6,7,8,9,10,11,12] (List.replicate 12 0) (by decide) (by decide)
  refine ⟨drawn,out,hdrawn,hout,hrows 1 (by decide) 0 (by decide),(hrest 4 ?_).trans (by decide)⟩
  intro row _
  have hstride : (6 : UInt32).toNat=6 := rfl
  have hone : (1 : UInt32).toNat=1 := rfl
  unfold InRow
  rw [hstride,hone]
  omega

end LiteDroid.GraphicsRoundTrip
