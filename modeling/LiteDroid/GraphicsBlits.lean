import LiteDroid.GraphicsFramebuffer
import Mathlib.Tactic.Linarith
import Mathlib.Tactic.Ring

/-!
# Rectangles copied into and out of a framebuffer

A copy is meant to be cut to the framebuffer and to the other buffer. Under
checked arithmetic it is, exactly when the bytes of a row fit 32 bits and, for
every row of the rectangle inside the framebuffer, the rectangle does not start
right of it and the row does not start behind the end of the other buffer. A
release build then does the same.
-/

namespace LiteDroid.GraphicsBlits

open CoreResults ListSplice GraphicsFramebuffer

/-- The buffer has four bytes for each pixel. -/
def Framed (fb : Framebuffer) : Prop := fb.pixels.length=fb.width.toNat*fb.height.toNat*4

/-- The rows of a rectangle in the framebuffer, as far as they lie in it and in
the source. -/
def inRows (fb : Framebuffer) (src : List UInt8) (srcStride x y w : UInt32) : Rows UInt8 where
  start row := ((y.toNat+row)*fb.width.toNat+x.toNat)*4
  part row :=
    if y.toNat+row < fb.height.toNat then
      (src.drop (row*srcStride.toNat)).take (min w.toNat (fb.width.toNat-x.toNat)*4)
    else []

/-- The rows of a rectangle in a buffer of some length, as far as they lie in it
and in the framebuffer. -/
def outRows (fb : Framebuffer) (length : ℕ) (dstStride x y w : UInt32) : Rows UInt8 where
  start row := row*dstStride.toNat
  part row :=
    if y.toNat+row < fb.height.toNat then
      (fb.pixels.drop (((y.toNat+row)*fb.width.toNat+x.toNat)*4)).take
        (min (min w.toNat (fb.width.toNat-x.toNat)*4) (length-row*dstStride.toNat))
    else []

/-- The framebuffer with a rectangle copied into it, cut on all sides. -/
def clampedIn (fb : Framebuffer) (src : List UInt8) (srcStride x y w h : UInt32) : Framebuffer :=
  {fb with pixels := paint (inRows fb src srcStride x y w) h.toNat 0 fb.pixels}

/-- A buffer with a rectangle of the framebuffer copied into it, cut on all
sides. -/
def clampedOut (fb : Framebuffer) (dst : List UInt8) (dstStride x y w h : UInt32) : List UInt8 :=
  paint (outRows fb dst.length dstStride x y w) h.toNat 0 dst

/-- The bytes of a row fit 32 bits, and each row of the rectangle inside the
framebuffer starts inside it and inside the source. -/
def FromFits (fb : Framebuffer) (src : List UInt8) (srcStride x y h : UInt32) : Prop :=
  fb.width.toNat*4 < 2^32 ∧ ∀ row < h.toNat, y.toNat+row < fb.height.toNat →
    x.toNat ≤ fb.width.toNat ∧ row*srcStride.toNat ≤ src.length

/-- The bytes of a row fit 32 bits, and each row of the rectangle inside the
framebuffer starts inside it and, where it is not empty, inside the target. -/
def ToFits (fb : Framebuffer) (dst : List UInt8) (dstStride x y w h : UInt32) : Prop :=
  fb.width.toNat*4 < 2^32 ∧ ∀ row < h.toNat, y.toNat+row < fb.height.toNat →
    x.toNat ≤ fb.width.toNat ∧
      (0 < w.toNat → x.toNat < fb.width.toNat → row*dstStride.toNat ≤ dst.length)

/-- A copy between two ranges inside their buffers. -/
theorem copyFromSlice_ok (profile : Profile) {target source : List UInt8}
    {start sourceStart length : ℕ} (hstop : start+length < 2^64)
    (hfit : start+length ≤ target.length) (hsourceStop : sourceStart+length < 2^64)
    (hsource : sourceStart+length ≤ source.length) :
    copyFromSlice profile target start source sourceStart length=
      .ok (splice target start ((source.drop sourceStart).take length)) := by
  have htarget : sliceRange target start (start+length)=
      .ok ((target.drop start).take (start+length-start)) := if_pos ⟨by omega,hfit⟩
  have hpart : sliceRange source sourceStart (sourceStart+length)=
      .ok ((source.drop sourceStart).take (sourceStart+length-sourceStart)) :=
    if_pos ⟨by omega,hsource⟩
  rw [Nat.add_sub_cancel_left] at hpart
  simp only [copyFromSlice,profile.addSize_of_lt hstop,profile.addSize_of_lt hsourceStop,htarget,
    hpart,bind,Except.bind,pure,Except.pure]

/-- What every row has: its pixels lie in the framebuffer, and no product or sum
of its positions leaves 64 bits. -/
theorem row_bounds {fb : Framebuffer} (hframed : Framed fb) (hstride : fb.width.toNat*4 < 2^32)
    {stride x : UInt32} (hx : x.toNat ≤ fb.width.toNat) {row sy : ℕ} (hsy : sy < fb.height.toNat)
    (hrow : row ≤ sy) (w : ℕ) :
    min w (fb.width.toNat-x.toNat)*4+x.toNat*4 ≤ fb.width.toNat*4 ∧
      row*stride.toNat+2^32 < 2^64 ∧ sy*(fb.width.toNat*4)+2^32 < 2^64 ∧
      sy*(fb.width.toNat*4)+x.toNat*4=(sy*fb.width.toNat+x.toNat)*4 ∧
      sy*(fb.width.toNat*4)+fb.width.toNat*4 ≤ fb.pixels.length := by
  have hheight := fb.height.toNat_lt
  have hword := stride.toNat_lt
  have hproduct : row*stride.toNat ≤ (2^32-2)*(2^32-1) :=
    Nat.mul_le_mul (by omega) (by omega)
  have hpixel : sy*(fb.width.toNat*4) ≤ (2^32-2)*(2^32-1) := Nat.mul_le_mul (by omega) (by omega)
  have hlast : (sy+1)*(fb.width.toNat*4) ≤ fb.height.toNat*(fb.width.toNat*4) :=
    Nat.mul_le_mul_right _ hsy
  have hlength : fb.height.toNat*(fb.width.toNat*4)=fb.pixels.length := by
    rw [hframed]
    ring
  refine ⟨by omega,by omega,by omega,by ring,?_⟩
  rw [←hlength]
  linarith

/-- The sizes and positions of a row are computed without leaving 64 bits. -/
theorem row_sizes (profile : Profile) {fb : Framebuffer} (hframed : Framed fb)
    (hstride : fb.width.toNat*4 < 2^32) {stride x : UInt32} (hx : x.toNat ≤ fb.width.toNat)
    {row sy : ℕ} (hsy : sy < fb.height.toNat) (hrow : row ≤ sy) (w : ℕ) :
    profile.subSize fb.width.toNat x.toNat=.ok (fb.width.toNat-x.toNat) ∧
      profile.mulSize (min w (fb.width.toNat-x.toNat)) 4=
        .ok (min w (fb.width.toNat-x.toNat)*4) ∧
      profile.mulSize row stride.toNat=.ok (row*stride.toNat) ∧
      profile.mulSize sy (fb.width.toNat*4)=.ok (sy*(fb.width.toNat*4)) ∧
      profile.mulSize x.toNat 4=.ok (x.toNat*4) ∧
      profile.addSize (sy*(fb.width.toNat*4)) (x.toNat*4)=
        .ok ((sy*fb.width.toNat+x.toNat)*4) := by
  have hwidth := fb.width.toNat_lt
  obtain ⟨hcopy,hsum,htop,hstart,-⟩ :=
    @row_bounds fb hframed hstride stride x hx row sy hsy hrow w
  refine ⟨profile.subSize_of_le hx (by omega),profile.mulSize_of_lt (by omega),
    profile.mulSize_of_lt (by omega),profile.mulSize_of_lt (by omega),
    profile.mulSize_of_lt (by omega),?_⟩
  rw [profile.addSize_of_lt (by omega),hstart]

/-- A row that starts inside the framebuffer and inside the source is copied as
far as both reach. -/
theorem blitFromRow_ok (profile : Profile) {fb : Framebuffer} (hframed : Framed fb)
    (hstride : fb.width.toNat*4 < 2^32) {dstStride : UInt32}
    (hdst : dstStride.toNat=fb.width.toNat*4) {src pixels : List UInt8} {srcStride x : UInt32}
    (w : UInt32) {row sy : ℕ} (hpixels : pixels.length=fb.pixels.length)
    (hx : x.toNat ≤ fb.width.toNat) (hsy : sy < fb.height.toNat) (hrow : row ≤ sy)
    (hsrc : row*srcStride.toNat ≤ src.length) :
    blitFromRow profile fb.width dstStride src srcStride x w row sy pixels=
      .ok (splice pixels ((sy*fb.width.toNat+x.toNat)*4)
        ((src.drop (row*srcStride.toNat)).take (min w.toNat (fb.width.toNat-x.toNat)*4))) := by
  have hwidth := fb.width.toNat_lt
  obtain ⟨hcopy,hsum,htop,hstart,hend⟩ :=
    @row_bounds fb hframed hstride srcStride x hx row sy hsy hrow w.toNat
  obtain ⟨hroom,hbytes,hsrcStart,habove,hbeside,hplace⟩ :=
    @row_sizes profile fb hframed hstride srcStride x hx row sy hsy hrow w.toNat
  simp only [blitFromRow,hdst,hroom,hbytes,hsrcStart,habove,hbeside,hplace,bind,Except.bind,pure,
    Except.pure]
  generalize min w.toNat (fb.width.toNat-x.toNat)*4=copy at hcopy ⊢
  generalize row*srcStride.toNat=origin at hsum hsrc ⊢
  generalize (sy*fb.width.toNat+x.toNat)*4=into at hstart ⊢
  have htake : (src.drop origin).take copy=
      (src.drop origin).take (min (origin+copy) src.length-origin) := by
    rw [List.take_eq_take_iff,List.length_drop]
    omega
  rw [profile.addSize_of_lt (show origin+copy < 2^64 by omega)]
  dsimp only
  rw [profile.subSize_of_le (show origin ≤ min (origin+copy) src.length by omega) (by omega)]
  dsimp only
  rw [htake]
  generalize hactual : min (origin+copy) src.length-origin=actual
  split
  · rename_i hzero
    rw [hzero,List.take_zero,splice_nil]
  · rw [profile.addSize_of_lt (show into+actual < 2^64 by omega)]
    dsimp only
    rw [Nat.min_eq_left (by omega),profile.subSize_of_le (by omega) (by omega),
      Nat.add_sub_cancel_left]
    dsimp only
    rw [if_neg (by assumption)]
    exact copyFromSlice_ok profile (by omega) (by omega) (by omega) (by omega)

/-- Checked arithmetic stops at a row that starts right of the framebuffer or
behind the end of the source. -/
theorem blitFromRow_panic {fb : Framebuffer} (hframed : Framed fb)
    (hstride : fb.width.toNat*4 < 2^32) (dstStride : UInt32) {src : List UInt8}
    (pixels : List UInt8) {srcStride x : UInt32} (w : UInt32) {row sy : ℕ}
    (hsy : sy < fb.height.toNat) (hrow : row ≤ sy)
    (h : ¬(x.toNat ≤ fb.width.toNat ∧ row*srcStride.toNat ≤ src.length)) :
    blitFromRow .dev fb.width dstStride src srcStride x w row sy pixels=
      .error (.panic .arithmeticOverflow) := by
  by_cases hx : x.toNat ≤ fb.width.toNat
  · have hsrc : ¬row*srcStride.toNat ≤ src.length := fun hle => h ⟨hx,hle⟩
    have hwidth := fb.width.toNat_lt
    obtain ⟨hcopy,hsum,-,-,-⟩ :=
      @row_bounds fb hframed hstride srcStride x hx row sy hsy hrow w.toNat
    obtain ⟨hroom,hbytes,hsrcStart,-,-,-⟩ :=
      @row_sizes .dev fb hframed hstride srcStride x hx row sy hsy hrow w.toNat
    have hsrcSum := @Profile.addSize_of_lt .dev (row*srcStride.toNat)
      (min w.toNat (fb.width.toNat-x.toNat)*4) (by omega)
    simp only [blitFromRow,hroom,hbytes,hsrcStart,hsrcSum,bind,Except.bind]
    rw [Nat.min_eq_right (by omega),Profile.subSize,if_neg hsrc]
  · simp only [blitFromRow,Profile.subSize,if_neg hx,bind,Except.bind]

/-- Rows that are all copied are painted one after another. -/
theorem blitRows_ok {profile : Profile} {height y : UInt32}
    {copyRow : ℕ → ℕ → List UInt8 → Outcome (List UInt8)} {rows : Rows UInt8} {length : ℕ}
    (hinside : rows.Inside length)
    (hbelow : ∀ k, height.toNat ≤ y.toNat+k → rows.part k=[]) (n : ℕ) :
    ∀ (row : ℕ) (data : List UInt8), data.length=length → y.toNat+row+n < 2^64 →
      (∀ k data, row ≤ k → k < row+n → y.toNat+k < height.toNat → data.length=length →
        copyRow k (y.toNat+k) data=.ok (splice data (rows.start k) (rows.part k))) →
      blitRows profile height y copyRow n row data=.ok (paint rows n row data) := by
  induction n with
  | zero =>
    intro row data _ _ _
    rfl
  | succ n ih =>
    intro row data hlength hsize hcopy
    rw [blitRows,profile.addSize_of_lt (by omega)]
    dsimp only [bind,Except.bind]
    split
    · rename_i hheight
      rw [paint_empty (n+1) row data fun k hk => hbelow k (by omega)]
      rfl
    · rw [hcopy row data (by omega) (by omega) (by omega) hlength,paint]
      refine ih (row+1) _ ?_ (by omega) ?_
      · rw [splice_row_length (by rw [hlength]; exact hinside),hlength]
      · intro k data hk hlast
        exact hcopy k data (by omega) (by omega)

/-- Where not all rows inside the framebuffer are good, one of them is bad. -/
theorem exists_bad_row {Good : ℕ → Prop} {n y height : ℕ}
    (h : ¬∀ row < n, y+row < height → Good row) : ∃ bad < n, y+bad < height ∧ ¬Good bad := by
  push Not at h
  exact h

/-- The first row that panics ends the copy. -/
theorem blitRows_panic {profile : Profile} {height y : UInt32}
    {copyRow : ℕ → ℕ → List UInt8 → Outcome (List UInt8)} {rows : Rows UInt8} {length : ℕ}
    {cause : Panic} (hinside : rows.Inside length) {Good : ℕ → Prop} {bad : ℕ} (hbad : ¬Good bad)
    (hheight : y.toNat+bad < height.toNat) (n : ℕ) :
    ∀ (row : ℕ) (data : List UInt8), data.length=length → y.toNat+row+n < 2^64 →
      row ≤ bad → bad < row+n →
      (∀ k data, row ≤ k → y.toNat+k < height.toNat → data.length=length → Good k →
        copyRow k (y.toNat+k) data=.ok (splice data (rows.start k) (rows.part k))) →
      (∀ k data, row ≤ k → y.toNat+k < height.toNat → data.length=length → ¬Good k →
        copyRow k (y.toNat+k) data=.error (.panic cause)) →
      blitRows profile height y copyRow n row data=.error (.panic cause) := by
  induction n with
  | zero =>
    intro row data _ _ hlow hhigh
    omega
  | succ n ih =>
    intro row data hlength hsize hlow hhigh hcopy hpanic
    rw [blitRows,profile.addSize_of_lt (by omega)]
    dsimp only [bind,Except.bind]
    rw [if_neg (by omega)]
    by_cases hgood : Good row
    · have hne : row≠bad := by
        rintro rfl
        exact hbad hgood
      rw [hcopy row data (by omega) (by omega) hlength hgood]
      refine ih (row+1) _ ?_ (by omega) (by omega) (by omega) ?_ ?_
      · rw [splice_row_length (by rw [hlength]; exact hinside),hlength]
      · intro k data hk
        exact hcopy k data (by omega)
      · intro k data hk
        exact hpanic k data (by omega)
    · rw [hpanic row data (by omega) (by omega) hlength hgood]

/-- The bytes of a row, where they fit 32 bits. -/
theorem stride_ok (profile : Profile) {fb : Framebuffer} (h : fb.width.toNat*4 < 2^32) :
    fb.stride profile=.ok (fb.width*4) ∧ (fb.width*4).toNat=fb.width.toNat*4 := by
  have hword : fb.width.toNat*(4 : UInt32).toNat < 2^32 := h
  constructor
  · unfold Framebuffer.stride
    cases profile with
    | release => rfl
    | dev => rw [Profile.mulWord,if_pos hword]
  · rw [UInt32.toNat_mul,Nat.mod_eq_of_lt hword]
    rfl

/-- Where the bytes of a row do not fit 32 bits, checked arithmetic stops. -/
theorem stride_panic {fb : Framebuffer} (h : ¬fb.width.toNat*4 < 2^32) :
    fb.stride .dev=.error (.panic .arithmeticOverflow) := if_neg h

/-- The rows copied into the framebuffer lie in it. -/
theorem inRows_inside {fb : Framebuffer} (hframed : Framed fb) (src : List UInt8)
    (srcStride x y w : UInt32) : (inRows fb src srcStride x y w).Inside fb.pixels.length := by
  intro row hpart
  have hlength := List.length_pos_iff.mpr hpart
  simp only [inRows] at hpart hlength ⊢
  split at hlength
  · rename_i hrow
    rw [if_pos hrow]
    rw [List.length_take] at hlength ⊢
    have hx : x.toNat < fb.width.toNat := by omega
    have hlast : (y.toNat+row+1)*fb.width.toNat ≤ fb.height.toNat*fb.width.toNat :=
      Nat.mul_le_mul_right _ hrow
    rw [Nat.add_mul,Nat.one_mul] at hlast
    rw [hframed,Nat.mul_comm fb.width.toNat]
    omega
  · rw [List.length_nil] at hlength
    omega

/-- A rectangle that fits is copied into the framebuffer, cut on all sides. -/
theorem blitFrom_ok (profile : Profile) {fb : Framebuffer} (hframed : Framed fb)
    {src : List UInt8} {srcStride x y h : UInt32} (w : UInt32)
    (hfits : FromFits fb src srcStride x y h) :
    fb.blitFrom profile src srcStride x y w h=.ok (clampedIn fb src srcStride x y w h) := by
  obtain ⟨hstride,hrows⟩ := hfits
  obtain ⟨hbytes,hword⟩ := stride_ok profile hstride
  have hy := y.toNat_lt
  have hh := h.toNat_lt
  have hloop := @blitRows_ok profile fb.height y
    (blitFromRow profile fb.width (fb.width*4) src srcStride x w)
    (inRows fb src srcStride x y w) _ (inRows_inside hframed src srcStride x y w)
    (fun k hk => if_neg (by omega)) h.toNat 0 fb.pixels rfl (by omega) (by
      intro k data _ hk hheight hlength
      obtain ⟨hx,hsrc⟩ := hrows k (by omega) hheight
      rw [blitFromRow_ok profile hframed hstride hword w hlength hx hheight (by omega) hsrc]
      simp only [inRows,if_pos hheight])
  simp only [Framebuffer.blitFrom,hbytes,hloop,bind,Except.bind,pure,Except.pure]
  rfl

/-- A rectangle that does not fit stops checked arithmetic. -/
theorem blitFrom_panic {fb : Framebuffer} (hframed : fb.width.toNat*4 < 2^32 → Framed fb)
    {src : List UInt8} {srcStride x y h : UInt32} (w : UInt32)
    (hfits : ¬FromFits fb src srcStride x y h) :
    fb.blitFrom .dev src srcStride x y w h=.error (.panic .arithmeticOverflow) := by
  by_cases hstride : fb.width.toNat*4 < 2^32
  · obtain ⟨hbytes,hword⟩ := stride_ok .dev hstride
    have hy := y.toNat_lt
    have hh := h.toNat_lt
    obtain ⟨bad,hlast,hheight,hbad⟩ := exists_bad_row fun hrows => hfits ⟨hstride,hrows⟩
    have hloop := @blitRows_panic .dev fb.height y
      (blitFromRow .dev fb.width (fb.width*4) src srcStride x w)
      (inRows fb src srcStride x y w) _ .arithmeticOverflow
      (inRows_inside (hframed hstride) src srcStride x y w)
      (fun k => x.toNat ≤ fb.width.toNat ∧ k*srcStride.toNat ≤ src.length) bad hbad hheight
      h.toNat 0 fb.pixels rfl (by omega) (by omega) (by omega) (by
        intro k data _ hk hlength hgood
        rw [blitFromRow_ok .dev (hframed hstride) hstride hword w hlength hgood.1 hk (by omega)
          hgood.2]
        simp only [inRows,if_pos hk])
      (fun k data _ hk _ hgood =>
        blitFromRow_panic (hframed hstride) hstride _ data w hk (by omega) hgood)
    simp only [Framebuffer.blitFrom,hbytes,hloop,bind,Except.bind]
  · simp only [Framebuffer.blitFrom,stride_panic hstride,bind,Except.bind]

/-- A row that starts inside the framebuffer and, where it is not empty, inside
the target is copied as far as both reach. -/
theorem blitToRow_ok (profile : Profile) {fb : Framebuffer} (hframed : Framed fb)
    (hstride : fb.width.toNat*4 < 2^32) {srcStride : UInt32}
    (hsrc : srcStride.toNat=fb.width.toNat*4) {dst : List UInt8} {dstStride x w : UInt32}
    {row sy : ℕ} (hx : x.toNat ≤ fb.width.toNat) (hsy : sy < fb.height.toNat) (hrow : row ≤ sy)
    (hdst : 0 < w.toNat → x.toNat < fb.width.toNat → row*dstStride.toNat ≤ dst.length) :
    blitToRow profile fb.width srcStride fb.pixels dstStride x w row sy dst=
      .ok (splice dst (row*dstStride.toNat)
        ((fb.pixels.drop ((sy*fb.width.toNat+x.toNat)*4)).take
          (min (min w.toNat (fb.width.toNat-x.toNat)*4) (dst.length-row*dstStride.toNat)))) := by
  have hwidth := fb.width.toNat_lt
  obtain ⟨hcopy,hsum,htop,hstart,hend⟩ :=
    @row_bounds fb hframed hstride dstStride x hx row sy hsy hrow w.toNat
  obtain ⟨hroom,hbytes,hdstStart,habove,hbeside,hplace⟩ :=
    @row_sizes profile fb hframed hstride dstStride x hx row sy hsy hrow w.toNat
  have hinto : 0 < min w.toNat (fb.width.toNat-x.toNat)*4 →
      row*dstStride.toNat ≤ dst.length := fun hpos => hdst (by omega) (by omega)
  simp only [blitToRow,hsrc,hroom,hbytes,hdstStart,habove,hbeside,hplace,bind,Except.bind,pure,
    Except.pure]
  generalize min w.toNat (fb.width.toNat-x.toNat)*4=copy at hcopy hinto ⊢
  generalize row*dstStride.toNat=into at hsum hinto ⊢
  generalize (sy*fb.width.toNat+x.toNat)*4=origin at hstart ⊢
  rw [profile.addSize_of_lt (show origin+copy < 2^64 by omega)]
  dsimp only
  rw [Nat.min_eq_left (show origin+copy ≤ fb.pixels.length by omega),
    profile.subSize_of_le (by omega) (by omega),Nat.add_sub_cancel_left]
  dsimp only
  split
  · rename_i hzero
    rw [hzero,Nat.zero_min,List.take_zero,splice_nil]
  · have hin := hinto (by omega)
    have hactual : min (into+copy) dst.length-into=min copy (dst.length-into) := by omega
    rw [profile.addSize_of_lt (show into+copy < 2^64 by omega)]
    dsimp only
    rw [profile.subSize_of_le (show into ≤ min (into+copy) dst.length by omega) (by omega),hactual]
    dsimp only
    split
    · rename_i hzero
      rw [hzero,List.take_zero,splice_nil]
    · exact copyFromSlice_ok profile (by omega) (by omega) (by omega) (by omega)

/-- Checked arithmetic stops at a row that starts right of the framebuffer or,
where it is not empty, behind the end of the target. -/
theorem blitToRow_panic {fb : Framebuffer} (hframed : Framed fb)
    (hstride : fb.width.toNat*4 < 2^32) {srcStride : UInt32}
    (hsrc : srcStride.toNat=fb.width.toNat*4) {dst : List UInt8} {dstStride x w : UInt32}
    {row sy : ℕ} (hsy : sy < fb.height.toNat) (hrow : row ≤ sy)
    (h : ¬(x.toNat ≤ fb.width.toNat ∧
      (0 < w.toNat → x.toNat < fb.width.toNat → row*dstStride.toNat ≤ dst.length))) :
    blitToRow .dev fb.width srcStride fb.pixels dstStride x w row sy dst=
      .error (.panic .arithmeticOverflow) := by
  by_cases hx : x.toNat ≤ fb.width.toNat
  · have hout : 0 < w.toNat ∧ x.toNat < fb.width.toNat ∧ ¬row*dstStride.toNat ≤ dst.length := by
      by_contra hnone
      push Not at hnone
      exact h ⟨hx,hnone⟩
    obtain ⟨hw,hlt,hdst⟩ := hout
    have hwidth := fb.width.toNat_lt
    obtain ⟨hcopy,hsum,htop,hstart,hend⟩ :=
      @row_bounds fb hframed hstride dstStride x hx row sy hsy hrow w.toNat
    obtain ⟨hroom,hbytes,hdstStart,habove,hbeside,hplace⟩ :=
      @row_sizes .dev fb hframed hstride dstStride x hx row sy hsy hrow w.toNat
    have hpos : 0 < min w.toNat (fb.width.toNat-x.toNat)*4 := by omega
    simp only [blitToRow,hsrc,hroom,hbytes,hdstStart,habove,hbeside,hplace,bind,Except.bind]
    generalize min w.toNat (fb.width.toNat-x.toNat)*4=copy at hcopy hpos ⊢
    generalize row*dstStride.toNat=into at hsum hdst ⊢
    generalize (sy*fb.width.toNat+x.toNat)*4=origin at hstart ⊢
    rw [Profile.dev.addSize_of_lt (show origin+copy < 2^64 by omega)]
    dsimp only
    rw [Nat.min_eq_left (show origin+copy ≤ fb.pixels.length by omega),
      Profile.dev.subSize_of_le (by omega) (by omega),Nat.add_sub_cancel_left]
    dsimp only
    rw [if_neg (by omega),Profile.dev.addSize_of_lt (show into+copy < 2^64 by omega)]
    dsimp only
    rw [Nat.min_eq_right (by omega),Profile.subSize,if_neg hdst]
  · simp only [blitToRow,Profile.subSize,if_neg hx,bind,Except.bind]

/-- The rows copied into a buffer lie in it. -/
theorem outRows_inside (fb : Framebuffer) (length : ℕ) (dstStride x y w : UInt32) :
    (outRows fb length dstStride x y w).Inside length := by
  intro row hpart
  have hlength := List.length_pos_iff.mpr hpart
  simp only [outRows] at hlength ⊢
  split at hlength
  · rename_i hrow
    rw [if_pos hrow]
    rw [List.length_take] at hlength ⊢
    omega
  · rw [List.length_nil] at hlength
    omega

/-- A rectangle that fits is copied out of the framebuffer, cut on all sides. -/
theorem blitTo_ok (profile : Profile) {fb : Framebuffer} (hframed : Framed fb) {dst : List UInt8}
    {dstStride x y w h : UInt32} (hfits : ToFits fb dst dstStride x y w h) :
    fb.blitTo profile dst dstStride x y w h=.ok (clampedOut fb dst dstStride x y w h) := by
  obtain ⟨hstride,hrows⟩ := hfits
  obtain ⟨hbytes,hword⟩ := stride_ok profile hstride
  have hy := y.toNat_lt
  have hh := h.toNat_lt
  have hloop := @blitRows_ok profile fb.height y
    (blitToRow profile fb.width (fb.width*4) fb.pixels dstStride x w)
    (outRows fb dst.length dstStride x y w) _ (outRows_inside fb dst.length dstStride x y w)
    (fun k hk => if_neg (by omega)) h.toNat 0 dst rfl (by omega) (by
      intro k data _ hk hheight hlength
      obtain ⟨hx,hdst⟩ := hrows k (by omega) hheight
      rw [←hlength] at hdst ⊢
      rw [blitToRow_ok profile hframed hstride hword hx hheight (by omega) hdst]
      simp only [outRows,if_pos hheight])
  simp only [Framebuffer.blitTo,hbytes,hloop,bind,Except.bind]
  rfl

/-- A rectangle that does not fit stops checked arithmetic. -/
theorem blitTo_panic {fb : Framebuffer} (hframed : fb.width.toNat*4 < 2^32 → Framed fb)
    {dst : List UInt8} {dstStride x y w h : UInt32}
    (hfits : ¬ToFits fb dst dstStride x y w h) :
    fb.blitTo .dev dst dstStride x y w h=.error (.panic .arithmeticOverflow) := by
  by_cases hstride : fb.width.toNat*4 < 2^32
  · obtain ⟨hbytes,hword⟩ := stride_ok .dev hstride
    have hy := y.toNat_lt
    have hh := h.toNat_lt
    obtain ⟨bad,hlast,hheight,hbad⟩ := exists_bad_row fun hrows => hfits ⟨hstride,hrows⟩
    have hloop := @blitRows_panic .dev fb.height y
      (blitToRow .dev fb.width (fb.width*4) fb.pixels dstStride x w)
      (outRows fb dst.length dstStride x y w) _ .arithmeticOverflow
      (outRows_inside fb dst.length dstStride x y w)
      (fun k => x.toNat ≤ fb.width.toNat ∧
        (0 < w.toNat → x.toNat < fb.width.toNat → k*dstStride.toNat ≤ dst.length)) bad hbad hheight
      h.toNat 0 dst rfl (by omega) (by omega) (by omega) (by
        intro k data _ hk hlength hgood
        rw [←hlength] at hgood ⊢
        rw [blitToRow_ok .dev (hframed hstride) hstride hword hgood.1 hk (by omega) hgood.2]
        simp only [outRows,if_pos hk])
      (by
        intro k data _ hk hlength hgood
        rw [←hlength] at hgood
        exact blitToRow_panic (hframed hstride) hstride hword hk (by omega) hgood)
    simp only [Framebuffer.blitTo,hbytes,hloop,bind,Except.bind]
  · simp only [Framebuffer.blitTo,stride_panic hstride,bind,Except.bind]

/-- A framebuffer that was built has the requested size, and four bytes for each
pixel where the bytes of a row fit 32 bits. -/
theorem new_framed {profile : Profile} {width height : UInt32} {fb : Framebuffer}
    (h : Framebuffer.new profile width height=.ok fb) :
    fb.width=width ∧ fb.height=height ∧ (fb.width.toNat*4 < 2^32 → Framed fb) := by
  unfold Framebuffer.new at h
  obtain ⟨area,harea,h⟩ := bind_ok_iff.mp h
  obtain ⟨size,hsize,h⟩ := bind_ok_iff.mp h
  split at h
  · obtain rfl := Except.ok.inj h
    refine ⟨rfl,rfl,?_⟩
    intro hstride
    dsimp only at hstride
    have hheight := height.toNat_lt
    have hproduct : width.toNat*4*height.toNat ≤ (2^32-1)*(2^32-1) :=
      Nat.mul_le_mul (by omega) (by omega)
    have hcomm : width.toNat*4*height.toNat=width.toNat*height.toNat*4 := by ring
    rw [hcomm] at hproduct
    rw [profile.mulSize_of_lt (by omega)] at harea
    obtain rfl := Except.ok.inj harea
    rw [profile.mulSize_of_lt (by omega)] at hsize
    obtain rfl := Except.ok.inj hsize
    exact List.length_replicate
  · cases h

/-- A result that is decided by a condition: the value where it holds, a panic
where it does not. -/
theorem decided_iff {α : Type} {result : Profile → Outcome α} {value : α} {cause : Panic}
    {fits : Prop} (hok : fits → ∀ build, result build=.ok value)
    (hpanic : ¬fits → result .dev=.error (.panic cause)) :
    (NoPanic (result .dev) ↔ fits) ∧ ((∀ build, result build=.ok value) ↔ fits) := by
  have hfits : NoPanic (result .dev) → fits := by
    intro hnone
    by_contra hnot
    exact hnone cause (hpanic hnot)
  refine ⟨⟨hfits,?_⟩,?_,hok⟩
  · intro h
    rw [hok h .dev]
    exact noPanic_ok value
  · intro h
    apply hfits
    rw [h .dev]
    exact noPanic_ok value

/-- Checked arithmetic copies a rectangle into or out of a framebuffer without a
panic exactly when the bytes of a row fit 32 bits and every row of the rectangle
inside the framebuffer starts inside it and inside the other buffer; an empty row
may be copied out behind the end. Both builds then return the copy that is cut on
all sides. -/
theorem blits_return_iff (profile : Profile) (width height : UInt32) (fb : Framebuffer)
    (hnew : Framebuffer.new profile width height=.ok fb) (buffer : List UInt8)
    (stride x y w h : UInt32) :
    ((NoPanic (fb.blitFrom .dev buffer stride x y w h) ↔ FromFits fb buffer stride x y h) ∧
      ((∀ build, fb.blitFrom build buffer stride x y w h=
        .ok (clampedIn fb buffer stride x y w h)) ↔ FromFits fb buffer stride x y h)) ∧
    (NoPanic (fb.blitTo .dev buffer stride x y w h) ↔ ToFits fb buffer stride x y w h) ∧
      ((∀ build, fb.blitTo build buffer stride x y w h=
        .ok (clampedOut fb buffer stride x y w h)) ↔ ToFits fb buffer stride x y w h) := by
  obtain ⟨-,-,hframed⟩ := new_framed hnew
  constructor
  · exact decided_iff (fun hfits build => blitFrom_ok build (hframed hfits.1) w hfits)
      (blitFrom_panic hframed w)
  · exact decided_iff (fun hfits build => blitTo_ok build (hframed hfits.1) hfits)
      (blitTo_panic hframed)

/-- A framebuffer of two by two pixels. -/
def smallBuffer : Framebuffer := ⟨2,2,List.replicate 16 0⟩

/-- The criterion applies to a rectangle that reaches past the right and the
lower edge, copied from a buffer that ends in its second row. -/
theorem blits_return_iff_small :
    Framebuffer.new .dev 2 2=.ok smallBuffer ∧
      ∀ build, smallBuffer.blitFrom build [1,2,3,4,5,6] 4 1 0 3 5=
        .ok (clampedIn smallBuffer [1,2,3,4,5,6] 4 1 0 3 5) := by
  have hnew : Framebuffer.new .dev 2 2=.ok smallBuffer := by decide +kernel
  refine ⟨hnew,(blits_return_iff .dev 2 2 smallBuffer hnew [1,2,3,4,5,6] 4 1 0 3 5).1.2.mpr ?_⟩
  refine ⟨by decide,fun row hrow hheight => ?_⟩
  have hlow : (0 : UInt32).toNat+row < 2 := hheight
  rw [UInt32.toNat_zero,Nat.zero_add] at hlow
  have hstart : row*4 ≤ 6 := by omega
  exact ⟨by decide,hstart⟩

/-- A rectangle right of the framebuffer stops checked arithmetic in both
directions, and so does one whose second row starts behind the end of the other
buffer. -/
theorem outside_blit_panics :
    Framebuffer.new .dev 2 2=.ok smallBuffer ∧
      ¬NoPanic (smallBuffer.blitFrom .dev [1,2,3,4] 4 3 0 1 1) ∧
      ¬NoPanic (smallBuffer.blitTo .dev [1,2,3,4] 4 3 0 1 1) ∧
      ¬NoPanic (smallBuffer.blitFrom .dev [1,2,3,4] 8 0 0 1 2) ∧
      ¬NoPanic (smallBuffer.blitTo .dev [1,2,3,4] 8 0 0 1 2) := by
  refine ⟨by decide +kernel,?_,?_,?_,?_⟩
  all_goals
    intro h
    exact h .arithmeticOverflow (by decide +kernel)

/-- Bytes of a row of the rectangle inside the framebuffer. -/
theorem inRows_length {fb : Framebuffer} {src : List UInt8} {srcStride x y w : UInt32} {row : ℕ}
    (h : y.toNat+row < fb.height.toNat) :
    ((inRows fb src srcStride x y w).part row).length=
      min (min w.toNat (fb.width.toNat-x.toNat)*4) (src.length-row*srcStride.toNat) := by
  simp only [inRows,if_pos h,List.length_take,List.length_drop]

/-- A position that a row of the rectangle covers lies in the row of the
framebuffer that it stands for, and both start inside it. -/
theorem covers_row {fb : Framebuffer} {src : List UInt8} {srcStride x y w : UInt32} {row i : ℕ}
    (h : (inRows fb src srcStride x y w).Covers row i) :
    y.toNat+row < fb.height.toNat ∧ i/(fb.width.toNat*4)=y.toNat+row := by
  have hrow : y.toNat+row < fb.height.toNat := by
    by_contra hbelow
    unfold Rows.Covers at h
    simp only [inRows,if_neg hbelow,List.length_nil] at h
    omega
  refine ⟨hrow,?_⟩
  unfold Rows.Covers at h
  rw [inRows_length hrow] at h
  simp only [inRows] at h
  have hfirst : ((y.toNat+row)*fb.width.toNat+x.toNat)*4=
      (y.toNat+row)*(fb.width.toNat*4)+x.toNat*4 := by ring
  have hnext : (y.toNat+row+1)*(fb.width.toNat*4)=
      (y.toNat+row)*(fb.width.toNat*4)+fb.width.toNat*4 := by ring
  rw [hfirst] at h
  refine Nat.div_eq_of_lt_le ?_ ?_
  · omega
  · rw [hnext]
    omega

/-- No two rows of the rectangle meet in the framebuffer. -/
theorem inRows_apart (fb : Framebuffer) (src : List UInt8) (srcStride x y w : UInt32) :
    (inRows fb src srcStride x y w).Apart := by
  intro row other i hrow hother
  have hfirst := (covers_row hrow).2
  have hsecond := (covers_row hother).2
  omega

/-- A row of the rectangle covers a byte of a pixel exactly when it stands for
the pixel's row, its columns reach the pixel, and the source reaches the byte. -/
theorem covers_pixel_iff {fb : Framebuffer} {src : List UInt8} {srcStride x y w : UInt32}
    {row px py c : ℕ} (hpx : px < fb.width.toNat) (hpy : py < fb.height.toNat) (hc : c < 4) :
    (inRows fb src srcStride x y w).Covers row ((py*fb.width.toNat+px)*4+c) ↔
      y.toNat+row=py ∧ x.toNat ≤ px ∧ px < x.toNat+w.toNat ∧
        row*srcStride.toNat+4*(px-x.toNat)+c < src.length := by
  have hpixel : ((py*fb.width.toNat+px)*4+c)/(fb.width.toNat*4)=py := by
    have hplace : (py*fb.width.toNat+px)*4+c=py*(fb.width.toNat*4)+(px*4+c) := by ring
    have hnext : (py+1)*(fb.width.toNat*4)=py*(fb.width.toNat*4)+fb.width.toNat*4 := by ring
    refine Nat.div_eq_of_lt_le ?_ ?_
    · omega
    · rw [hnext,hplace]
      omega
  constructor
  · intro hcover
    obtain ⟨hrow,heq⟩ := covers_row hcover
    rw [hpixel] at heq
    unfold Rows.Covers at hcover
    rw [inRows_length hrow] at hcover
    simp only [inRows,←heq] at hcover
    omega
  · rintro ⟨rfl,hx,hw,hsrc⟩
    unfold Rows.Covers
    rw [inRows_length hpy]
    simp only [inRows]
    omega

/-- A copy into a framebuffer that returns under checked arithmetic writes
exactly the bytes of the pixels that lie in the rectangle and in the framebuffer
and that the source reaches, each from its place in the source, and keeps the
framebuffer's size. -/
theorem blit_from_exact (fb : Framebuffer) (hframed : Framed fb) (src : List UInt8)
    (srcStride x y w h : UInt32) (after : Framebuffer)
    (hreturn : fb.blitFrom .dev src srcStride x y w h=.ok after) :
    after.width=fb.width ∧ after.height=fb.height ∧ after.pixels.length=fb.pixels.length ∧
      ∀ px py c, px < fb.width.toNat → py < fb.height.toNat → c < 4 →
        after.pixels[(py*fb.width.toNat+px)*4+c]?=
          if x.toNat ≤ px ∧ px < min (x.toNat+w.toNat) fb.width.toNat ∧
            y.toNat ≤ py ∧ py < min (y.toNat+h.toNat) fb.height.toNat ∧
            (py-y.toNat)*srcStride.toNat+4*(px-x.toNat)+c < src.length
          then src[(py-y.toNat)*srcStride.toNat+4*(px-x.toNat)+c]?
          else fb.pixels[(py*fb.width.toNat+px)*4+c]? := by
  have hfits : FromFits fb src srcStride x y h := by
    by_contra hnot
    rw [blitFrom_panic (fun _ => hframed) w hnot] at hreturn
    cases hreturn
  rw [blitFrom_ok .dev hframed w hfits] at hreturn
  obtain rfl := Except.ok.inj hreturn
  have hinside := inRows_inside hframed src srcStride x y w
  refine ⟨rfl,rfl,paint_length h.toNat 0 fb.pixels hinside,?_⟩
  intro px py c hpx hpy hc
  have hcovers := fun row => @covers_pixel_iff fb src srcStride x y w row px py c hpx hpy hc
  change (paint (inRows fb src srcStride x y w) h.toNat 0 fb.pixels)[_]?=_
  split
  · rename_i hin
    obtain ⟨hx,hw,hy,hh,hsrc⟩ := hin
    have hcover := (hcovers (py-y.toNat)).mpr ⟨by omega,hx,by omega,hsrc⟩
    have hrow : y.toNat+(py-y.toNat)=py := by omega
    rw [paint_inside (inRows_apart fb src srcStride x y w) h.toNat hcover 0 fb.pixels hinside
      (by omega) (by omega)]
    simp only [inRows,hrow,if_pos hpy]
    rw [List.getElem?_take,if_pos (by omega),List.getElem?_drop]
    congr 1
    omega
  · rename_i hout
    apply paint_outside h.toNat 0 fb.pixels hinside
    intro row _ hrow hcover
    obtain ⟨heq,hx,hw,hsrc⟩ := (hcovers row).mp hcover
    have hdiff : py-y.toNat=row := by omega
    rw [hdiff] at hout
    omega

/-- The rectangle of one pixel in the small framebuffer. -/
theorem blit_from_exact_small :
    ∃ after, smallBuffer.blitFrom .dev [1,2,3] 4 1 1 3 5=.ok after ∧
      after.pixels[12]?=some 1 ∧ after.pixels[15]?=some 0 := by
  obtain ⟨after,hreturn⟩ : ∃ after, smallBuffer.blitFrom .dev [1,2,3] 4 1 1 3 5=.ok after :=
    ⟨⟨2,2,[0,0,0,0,0,0,0,0,0,0,0,0,1,2,3,0]⟩,by decide +kernel⟩
  have hframed : Framed smallBuffer := by
    unfold Framed
    decide
  obtain ⟨-,-,-,hbytes⟩ := blit_from_exact smallBuffer hframed [1,2,3] 4 1 1 3 5 after hreturn
  exact ⟨after,hreturn,hbytes 1 1 0 (by decide) (by decide) (by decide),
    hbytes 1 1 3 (by decide) (by decide) (by decide)⟩

end LiteDroid.GraphicsBlits
