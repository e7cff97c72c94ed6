import LiteDroid.GraphicsBlits
import LiteDroid.StepRun

/-!
# Pixels of a framebuffer

The accessors check the coordinates of a pixel and then index the buffer. They
stay inside it as long as the buffer has four bytes for each pixel. Nothing that
is drawn changes the length of the buffer, so this is decided where the
framebuffer is built: there the product of width, height and four is taken in 64
bits, and a release build wraps it.
-/

namespace LiteDroid.GraphicsPixels

open CoreResults ListSplice StepRun GraphicsFramebuffer GraphicsBlits

/-- A drawing call. -/
inductive Draw where
  /-- Set a pixel. -/
  | setPixel (x y : UInt32) (r g b a : UInt8)
  /-- Fill the framebuffer. -/
  | fill (r g b a : UInt8)
  /-- Copy a rectangle of a buffer. -/
  | blitFrom (src : List UInt8) (srcStride x y w h : UInt32)

/-- The framebuffer after a drawing call. -/
def draw (profile : Profile) (fb : Framebuffer) : Draw → Outcome Framebuffer
  | .setPixel x y r g b a => fb.setPixel profile x y r g b a
  | .fill r g b a => .ok (fb.fill r g b a)
  | .blitFrom src srcStride x y w h => fb.blitFrom profile src srcStride x y w h

/-- A call that returns has a successor. -/
def step (profile : Profile) (fb : Framebuffer) (call : Draw) : Option Framebuffer :=
  match draw profile fb call with
  | .ok after => some after
  | .error _ => none

/-- The buffer has four bytes for each pixel, and the accessors work: inside the
framebuffer they return, a pixel that was set is read back, and every other one
is read as before. -/
structure Faithful (profile : Profile) (fb : Framebuffer) : Prop where
  /-- There are four bytes for each pixel. -/
  framed : Framed fb
  /-- Every pixel can be read. -/
  gets : ∀ x y, x < fb.width → y < fb.height → ∃ colour, fb.getPixel profile x y=.ok colour
  /-- Every pixel can be set, and no other one changes. -/
  sets : ∀ x y r g b a, x < fb.width → y < fb.height →
    ∃ after, fb.setPixel profile x y r g b a=.ok after ∧
      after.getPixel profile x y=.ok (r,g,b,a) ∧
      ∀ x' y', ¬(x'=x ∧ y'=y) → after.getPixel profile x' y'=fb.getPixel profile x' y'

/-- The framebuffer has a size and its buffer a length. -/
structure Shaped (width height : UInt32) (length : ℕ) (fb : Framebuffer) : Prop where
  /-- The width. -/
  width : fb.width=width
  /-- The height. -/
  height : fb.height=height
  /-- The length of the buffer. -/
  length : fb.pixels.length=length

/-- A framebuffer that was built has its size, and a buffer whose length is the
product in 64 bits. -/
theorem new_shaped {profile : Profile} {width height : UInt32} {fb : Framebuffer}
    (h : Framebuffer.new profile width height=.ok fb) :
    Shaped width height (width.toNat*height.toNat*4%2^64) fb := by
  have hwidth := width.toNat_lt
  have hheight := height.toNat_lt
  have harea : width.toNat*height.toNat < 2^64 := by
    have hproduct : width.toNat*height.toNat ≤ (2^32-1)*(2^32-1) :=
      Nat.mul_le_mul (by omega) (by omega)
    omega
  unfold Framebuffer.new at h
  obtain ⟨area,hproduct,h⟩ := bind_ok_iff.mp h
  obtain ⟨size,hsize,h⟩ := bind_ok_iff.mp h
  split at h
  · obtain rfl := Except.ok.inj h
    refine ⟨rfl,rfl,List.length_replicate.trans ?_⟩
    rw [Profile.mulSize_mod hsize,Profile.mulSize_mod hproduct,Nat.mod_eq_of_lt harea]
  · cases h

/-- A copy between two buffers keeps the length of the target. -/
theorem copyFromSlice_length {profile : Profile} {target source out : List UInt8}
    {start sourceStart length : ℕ} (hstart : start < 2^64) (hsource : sourceStart < 2^64)
    (hlength : length < 2^64)
    (h : copyFromSlice profile target start source sourceStart length=.ok out) :
    out.length=target.length := by
  unfold copyFromSlice at h
  obtain ⟨stop,hstop,h⟩ := bind_ok_iff.mp h
  obtain ⟨range,hrange,h⟩ := bind_ok_iff.mp h
  obtain ⟨sourceStop,hsourceStop,h⟩ := bind_ok_iff.mp h
  obtain ⟨part,hpart,h⟩ := bind_ok_iff.mp h
  obtain rfl := Except.ok.inj h
  obtain ⟨hlow,hhigh,-⟩ := sliceRange_ok hrange
  obtain ⟨hsourceLow,-,hpartLength⟩ := sliceRange_ok hpart
  have hend := Profile.addSize_exact hstart hlength hstop hlow
  have hsourceEnd := Profile.addSize_exact hsource hlength hsourceStop hsourceLow
  exact splice_length (by omega)

/-- A row that was copied in keeps the length of the buffer. -/
theorem blitFromRow_length {profile : Profile} {width dstStride srcStride x w : UInt32}
    {src pixels out : List UInt8} {row sy : ℕ}
    (h : blitFromRow profile width dstStride src srcStride x w row sy pixels=.ok out) :
    out.length=pixels.length := by
  unfold blitFromRow at h
  obtain ⟨room,-,h⟩ := bind_ok_iff.mp h
  obtain ⟨copyBytes,-,h⟩ := bind_ok_iff.mp h
  obtain ⟨srcRowStart,hrow,h⟩ := bind_ok_iff.mp h
  obtain ⟨srcSum,-,h⟩ := bind_ok_iff.mp h
  obtain ⟨first,-,h⟩ := bind_ok_iff.mp h
  split at h
  · obtain rfl := Except.ok.inj h
    rfl
  obtain ⟨above,-,h⟩ := bind_ok_iff.mp h
  obtain ⟨beside,-,h⟩ := bind_ok_iff.mp h
  obtain ⟨dstStart,hstart,h⟩ := bind_ok_iff.mp h
  obtain ⟨dstSum,hsum,h⟩ := bind_ok_iff.mp h
  obtain ⟨actual,hactual,h⟩ := bind_ok_iff.mp h
  split at h
  · obtain rfl := Except.ok.inj h
    rfl
  · have hstartMod := Profile.addSize_mod hstart
    have hsumMod := Profile.addSize_mod hsum
    have hrowMod := Profile.mulSize_mod hrow
    exact copyFromSlice_length (by omega) (by omega) (Profile.subSize_lt (by omega) hactual) h

/-- So do all rows. -/
theorem blitRows_length {profile : Profile} {height y : UInt32}
    {copyRow : ℕ → ℕ → List UInt8 → Outcome (List UInt8)}
    (hcopy : ∀ row sy data out, copyRow row sy data=.ok out → out.length=data.length) (n : ℕ) :
    ∀ (row : ℕ) (data out : List UInt8),
      blitRows profile height y copyRow n row data=.ok out → out.length=data.length := by
  induction n with
  | zero =>
    intro row data out h
    obtain rfl := Except.ok.inj h
    rfl
  | succ n ih =>
    intro row data out h
    rw [blitRows] at h
    obtain ⟨sy,-,h⟩ := bind_ok_iff.mp h
    split at h
    · obtain rfl := Except.ok.inj h
      rfl
    · obtain ⟨next,hnext,h⟩ := bind_ok_iff.mp h
      rw [ih (row+1) next out h,hcopy row sy data next hnext]

/-- Filling keeps the length. -/
theorem fillChunks_length (r g b a : UInt8) (data : List UInt8) :
    (fillChunks r g b a data).length=data.length := by
  induction data using fillChunks.induct with
  | case1 _ _ _ _ rest ih => simp only [fillChunks,List.length_cons,ih]
  | case2 rest hshort => rw [fillChunks.eq_2 r g b a rest hshort]

/-- No drawing call changes the size of a framebuffer or the length of its buffer. -/
theorem draw_shaped {profile : Profile} {width height : UInt32} {length : ℕ}
    {fb after : Framebuffer} {call : Draw} (hs : Shaped width height length fb)
    (h : draw profile fb call=.ok after) : Shaped width height length after := by
  cases call with
  | setPixel x y r g b a =>
    change fb.setPixel profile x y r g b a=.ok after at h
    unfold Framebuffer.setPixel at h
    split at h
    · obtain rfl := Except.ok.inj h
      exact hs
    obtain ⟨idx,-,h⟩ := bind_ok_iff.mp h
    obtain ⟨p0,h0,h⟩ := bind_ok_iff.mp h
    obtain ⟨second,-,h⟩ := bind_ok_iff.mp h
    obtain ⟨p1,h1,h⟩ := bind_ok_iff.mp h
    obtain ⟨third,-,h⟩ := bind_ok_iff.mp h
    obtain ⟨p2,h2,h⟩ := bind_ok_iff.mp h
    obtain ⟨fourth,-,h⟩ := bind_ok_iff.mp h
    obtain ⟨p3,h3,h⟩ := bind_ok_iff.mp h
    obtain rfl := Except.ok.inj h
    refine ⟨hs.width,hs.height,?_⟩
    rw [assign_length h3,assign_length h2,assign_length h1,assign_length h0,hs.length]
  | fill r g b a =>
    obtain rfl := Except.ok.inj h
    exact ⟨hs.width,hs.height,(fillChunks_length r g b a fb.pixels).trans hs.length⟩
  | blitFrom src srcStride x y w hgt =>
    change fb.blitFrom profile src srcStride x y w hgt=.ok after at h
    unfold Framebuffer.blitFrom at h
    obtain ⟨dstStride,-,h⟩ := bind_ok_iff.mp h
    obtain ⟨pixels,hpixels,h⟩ := bind_ok_iff.mp h
    obtain rfl := Except.ok.inj h
    refine ⟨hs.width,hs.height,?_⟩
    exact (blitRows_length (fun _ _ _ _ => blitFromRow_length) _ _ _ _ hpixels).trans hs.length

/-- The first byte of a pixel, as a number. -/
def place (fb : Framebuffer) (x y : UInt32) : ℕ := (y.toNat*fb.width.toNat+x.toNat)*4

/-- The pixels of a framebuffer lie in the product of its size and four. -/
theorem place_room {fb : Framebuffer} {x y : UInt32} (hx : x < fb.width) (hy : y < fb.height) :
    place fb x y+4 ≤ fb.width.toNat*fb.height.toNat*4 := by
  have hcolumn := UInt32.lt_iff_toNat_lt.mp hx
  have hrow := UInt32.lt_iff_toNat_lt.mp hy
  have hlast : (y.toNat+1)*fb.width.toNat ≤ fb.height.toNat*fb.width.toNat :=
    Nat.mul_le_mul_right _ hrow
  rw [Nat.add_mul,Nat.one_mul] at hlast
  rw [Nat.mul_comm fb.width.toNat,place]
  omega

/-- Two pixels have no byte in common. -/
theorem place_apart {fb : Framebuffer} {x y x' y' : UInt32} (hx : x < fb.width)
    (hx' : x' < fb.width) (hne : ¬(x'=x ∧ y'=y)) :
    place fb x y+4 ≤ place fb x' y' ∨ place fb x' y'+4 ≤ place fb x y := by
  have hcolumn := UInt32.lt_iff_toNat_lt.mp hx
  have hcolumn' := UInt32.lt_iff_toNat_lt.mp hx'
  have hdiv : ∀ row column, column < fb.width.toNat →
      (row*fb.width.toNat+column)/fb.width.toNat=row := by
    intro row column hlt
    refine Nat.div_eq_of_lt_le (by omega) ?_
    rw [Nat.add_mul,Nat.one_mul]
    omega
  have hplace : y.toNat*fb.width.toNat+x.toNat≠y'.toNat*fb.width.toNat+x'.toNat := by
    intro heq
    have hrow := hdiv y'.toNat x'.toNat hcolumn'
    rw [← heq,hdiv y.toNat x.toNat hcolumn] at hrow
    rw [hrow] at heq
    exact hne ⟨UInt32.toNat_inj.mp (by omega),UInt32.toNat_inj.mp hrow.symm⟩
  unfold place
  omega

/-- The first byte of a pixel is computed without wrapping. -/
theorem pixelIndex_ok (profile : Profile) {fb : Framebuffer} {x y : UInt32}
    (hsize : fb.width.toNat*fb.height.toNat*4 < 2^64) (hx : x < fb.width) (hy : y < fb.height) :
    fb.pixelIndex profile x y=.ok (place fb x y) := by
  have hroom := place_room hx hy
  unfold place at hroom
  have habove := @Profile.mulSize_of_lt profile y.toNat fb.width.toNat (by omega)
  have hplace := @Profile.addSize_of_lt profile (y.toNat*fb.width.toNat) x.toNat (by omega)
  have hbytes := @Profile.mulSize_of_lt profile (y.toNat*fb.width.toNat+x.toNat) 4 (by omega)
  simp only [Framebuffer.pixelIndex,habove,hplace,bind,Except.bind,hbytes]
  rfl

/-- Coordinates inside the framebuffer pass the check of the accessors. -/
theorem inside_guard {fb : Framebuffer} {x y : UInt32} (hx : x < fb.width) (hy : y < fb.height) :
    ¬(fb.width ≤ x ∨ fb.height ≤ y) := by
  rw [not_or,UInt32.not_le,UInt32.not_le]
  exact ⟨hx,hy⟩

/-- The bytes of a pixel are counted without wrapping. -/
theorem addSize_place (profile : Profile) {fb : Framebuffer} {x y : UInt32}
    (hsize : fb.width.toNat*fb.height.toNat*4 < 2^64) (hx : x < fb.width) (hy : y < fb.height)
    {j : ℕ} (hj : j < 4) : profile.addSize (place fb x y) j=.ok (place fb x y+j) := by
  have hroom := place_room hx hy
  exact Profile.addSize_of_lt profile (by omega)

/-- The bytes of a pixel, each by its index. -/
def readPixel (pixels : List UInt8) (start : ℕ) : Outcome (UInt8×UInt8×UInt8×UInt8) := do
  let r ← elementAt pixels start
  let g ← elementAt pixels (start+1)
  let b ← elementAt pixels (start+2)
  let a ← elementAt pixels (start+3)
  return (r,g,b,a)

/-- Reading a pixel inside the framebuffer reads its four bytes. -/
theorem getPixel_inside (profile : Profile) {fb : Framebuffer} {x y : UInt32}
    (hsize : fb.width.toNat*fb.height.toNat*4 < 2^64) (hx : x < fb.width) (hy : y < fb.height) :
    fb.getPixel profile x y=readPixel fb.pixels (place fb x y) := by
  have hbyte : ∀ j < 4, profile.addSize (place fb x y) j=.ok (place fb x y+j) :=
    fun _ => addSize_place profile hsize hx hy
  simp only [Framebuffer.getPixel,readPixel,if_neg (inside_guard hx hy),
    pixelIndex_ok profile hsize hx hy,hbyte 1 (by decide),hbyte 2 (by decide),hbyte 3 (by decide),
    bind,Except.bind]

/-- Equal bytes are read as equal pixels. -/
theorem readPixel_congr {first second : List UInt8} {start : ℕ}
    (h : ∀ j < 4, first[start+j]?=second[start+j]?) :
    readPixel first start=readPixel second start := by
  have h0 : first[start]?=second[start]? := h 0 (by decide)
  unfold readPixel elementAt
  rw [h0,h 1 (by decide),h 2 (by decide),h 3 (by decide)]

/-- Bytes that are there are read. -/
theorem readPixel_ok {pixels : List UInt8} {start : ℕ} {r g b a : UInt8}
    (h : (pixels.drop start).take 4=[r,g,b,a]) : readPixel pixels start=.ok (r,g,b,a) := by
  have hbyte : ∀ j < 4, pixels[start+j]?=[r,g,b,a][j]? := by
    intro j hj
    rw [← h,List.getElem?_take,if_pos hj,List.getElem?_drop]
  have h0 : pixels[start]?=some r := hbyte 0 (by decide)
  have h1 : pixels[start+1]?=some g := hbyte 1 (by decide)
  have h2 : pixels[start+2]?=some b := hbyte 2 (by decide)
  have h3 : pixels[start+3]?=some a := hbyte 3 (by decide)
  unfold readPixel elementAt
  rw [h0,h1,h2,h3]
  rfl

/-- Four elements that are assigned one after another replace a range. -/
theorem set_four {data : List UInt8} {start : ℕ} (h : start+4 ≤ data.length) (r g b a : UInt8) :
    (((data.set start r).set (start+1) g).set (start+2) b).set (start+3) a=
      splice data start [r,g,b,a] := by
  have hpart : start+[r,g,b,a].length ≤ data.length := h
  apply List.ext_getElem?
  intro i
  by_cases hin : start ≤ i ∧ i < start+4
  · rw [splice_inside hpart hin.1 hin.2]
    obtain rfl | rfl | rfl | rfl : i=start ∨ i=start+1 ∨ i=start+2 ∨ i=start+3 := by omega
    all_goals
      simp only [List.getElem?_set,List.length_set]
      grind
  · rw [splice_outside hpart (by simp only [List.length_cons,List.length_nil]; omega),
      List.getElem?_set_ne (by omega),List.getElem?_set_ne (by omega),
      List.getElem?_set_ne (by omega),List.getElem?_set_ne (by omega)]

/-- Setting a pixel inside a framed framebuffer replaces its four bytes. -/
theorem setPixel_inside (profile : Profile) {fb : Framebuffer} (hframed : Framed fb)
    (hsize : fb.width.toNat*fb.height.toNat*4 < 2^64) {x y : UInt32} (hx : x < fb.width)
    (hy : y < fb.height) (r g b a : UInt8) :
    fb.setPixel profile x y r g b a=
      .ok {fb with pixels := splice fb.pixels (place fb x y) [r,g,b,a]} := by
  have hlength : place fb x y+4 ≤ fb.pixels.length := by
    rw [hframed]
    exact place_room hx hy
  have hbyte : ∀ j < 4, profile.addSize (place fb x y) j=.ok (place fb x y+j) :=
    fun _ => addSize_place profile hsize hx hy
  have h0 := @assign_ok _ fb.pixels (place fb x y) (by omega) r
  have h1 := @assign_ok _ (fb.pixels.set (place fb x y) r) (place fb x y+1)
    (by rw [List.length_set]; omega) g
  have h2 := @assign_ok _ ((fb.pixels.set (place fb x y) r).set (place fb x y+1) g) (place fb x y+2)
    (by rw [List.length_set,List.length_set]; omega) b
  have h3 := @assign_ok _ (((fb.pixels.set (place fb x y) r).set (place fb x y+1) g).set
    (place fb x y+2) b) (place fb x y+3) (by simp only [List.length_set]; omega) a
  simp only [Framebuffer.setPixel,if_neg (inside_guard hx hy),pixelIndex_ok profile hsize hx hy,
    hbyte 1 (by decide),hbyte 2 (by decide),hbyte 3 (by decide),h0,h1,h2,h3,bind,Except.bind,pure,
    Except.pure,set_four hlength]

/-- Every pixel inside a framed framebuffer can be read. -/
theorem getPixel_returns (profile : Profile) {fb : Framebuffer} (hframed : Framed fb)
    (hsize : fb.width.toNat*fb.height.toNat*4 < 2^64) {x y : UInt32} (hx : x < fb.width)
    (hy : y < fb.height) : ∃ colour, fb.getPixel profile x y=.ok colour := by
  have hroom := place_room hx hy
  have hbyte : ∀ j < 4, ∃ value, elementAt fb.pixels (place fb x y+j)=.ok value := by
    intro j hj
    have hlt : place fb x y+j < fb.pixels.length := by
      rw [hframed]
      omega
    unfold elementAt
    rw [List.getElem?_eq_getElem hlt]
    exact ⟨_,rfl⟩
  obtain ⟨r,hr⟩ := hbyte 0 (by decide)
  obtain ⟨g,hg⟩ := hbyte 1 (by decide)
  obtain ⟨b,hb⟩ := hbyte 2 (by decide)
  obtain ⟨a,ha⟩ := hbyte 3 (by decide)
  rw [Nat.add_zero] at hr
  refine ⟨(r,g,b,a),?_⟩
  rw [getPixel_inside profile hsize hx hy]
  simp only [readPixel,hr,hg,hb,ha,bind,Except.bind,pure,Except.pure]

/-- A pixel that was set is read back. -/
theorem getPixel_own (profile : Profile) {fb : Framebuffer} (hframed : Framed fb)
    (hsize : fb.width.toNat*fb.height.toNat*4 < 2^64) {x y : UInt32} (hx : x < fb.width)
    (hy : y < fb.height) (r g b a : UInt8) :
    Framebuffer.getPixel profile {fb with pixels := splice fb.pixels (place fb x y) [r,g,b,a]} x y=
      .ok (r,g,b,a) := by
  have hlength : place fb x y+[r,g,b,a].length ≤ fb.pixels.length := by
    rw [hframed]
    exact place_room hx hy
  refine (@getPixel_inside profile
    {fb with pixels := splice fb.pixels (place fb x y) [r,g,b,a]} x y hsize hx hy).trans
      (readPixel_ok (@window_eq _ _ [r,g,b,a] _ ?_))
  intro j hj
  change (splice fb.pixels (place fb x y) [r,g,b,a])[place fb x y+j]?=_
  rw [splice_inside hlength (by omega) (by omega),Nat.add_sub_cancel_left]

/-- Every other pixel is read as before. -/
theorem getPixel_other (profile : Profile) {fb : Framebuffer} (hframed : Framed fb)
    (hsize : fb.width.toNat*fb.height.toNat*4 < 2^64) {x y x' y' : UInt32} (hx : x < fb.width)
    (hy : y < fb.height) (r g b a : UInt8) (hne : ¬(x'=x ∧ y'=y)) :
    Framebuffer.getPixel profile {fb with pixels := splice fb.pixels (place fb x y) [r,g,b,a]}
      x' y'=fb.getPixel profile x' y' := by
  have hlength : place fb x y+[r,g,b,a].length ≤ fb.pixels.length := by
    rw [hframed]
    exact place_room hx hy
  by_cases hin : x' < fb.width ∧ y' < fb.height
  · refine (@getPixel_inside profile
      {fb with pixels := splice fb.pixels (place fb x y) [r,g,b,a]} x' y' hsize hin.1 hin.2).trans ?_
    rw [getPixel_inside profile hsize hin.1 hin.2]
    apply readPixel_congr
    intro j hj
    have hapart := place_apart hx hin.1 hne
    refine splice_outside hlength ?_
    change place fb x' y'+j < place fb x y ∨ place fb x y+4 ≤ place fb x' y'+j
    omega
  · have hout : fb.width ≤ x' ∨ fb.height ≤ y' := by
      rw [← UInt32.not_lt,← UInt32.not_lt]
      exact not_and_or.mp hin
    exact (if_pos hout).trans (if_pos hout).symm

/-- In a framed framebuffer whose size does not leave 64 bits the accessors work. -/
theorem faithful_of_framed (profile : Profile) {fb : Framebuffer} (hframed : Framed fb)
    (hsize : fb.width.toNat*fb.height.toNat*4 < 2^64) : Faithful profile fb := by
  refine ⟨hframed,fun x y hx hy => getPixel_returns profile hframed hsize hx hy,?_⟩
  intro x y r g b a hx hy
  exact ⟨_,setPixel_inside profile hframed hsize hx hy r g b a,
    getPixel_own profile hframed hsize hx hy r g b a,
    fun x' y' hne => getPixel_other profile hframed hsize hx hy r g b a hne⟩

/-- Over a run of drawing calls the size and the length stay. -/
theorem run_shaped {profile : Profile} {width height : UInt32} {length : ℕ}
    {fb last : Framebuffer} (hs : Shaped width height length fb) (calls : List Draw)
    (h : run (step profile) fb calls=some last) : Shaped width height length last := by
  refine @run_invariant _ _ (step profile) (Shaped width height length) (fun _ _ => True) ?_ calls
    fb last hs (fun _ _ => trivial) h
  intro before call after hbefore _ hstep
  unfold step at hstep
  split at hstep
  · rename_i drawn hdrawn
    obtain rfl := Option.some.inj hstep
    exact draw_shaped hbefore hdrawn
  · cases hstep

/-- A framebuffer that was built stays faithful through every sequence of drawing
calls that return exactly when its width, height and four have a product below
two to the 64. -/
theorem framebuffer_faithful_iff (profile : Profile) (width height : UInt32) (fb : Framebuffer)
    (hnew : Framebuffer.new profile width height=.ok fb) (calls : List Draw) :
    (∀ first rest last, calls=first++rest → run (step profile) fb first=some last →
      Faithful profile last) ↔ width.toNat*height.toNat*4 < 2^64 := by
  have hshaped := new_shaped hnew
  constructor
  · intro h
    have hframed := (h [] calls fb rfl rfl).framed
    unfold Framed at hframed
    rw [hshaped.length,hshaped.width,hshaped.height] at hframed
    omega
  · intro hsize first rest last _ hrun
    obtain ⟨hwidth,hheight,hlength⟩ := run_shaped hshaped first hrun
    rw [Nat.mod_eq_of_lt hsize] at hlength
    apply faithful_of_framed
    · rw [Framed,hlength,hwidth,hheight]
    · rw [hwidth,hheight]
      exact hsize

/-- The small framebuffer is faithful after a pixel was set and it was filled. -/
theorem framebuffer_faithful_iff_small :
    Faithful .release ⟨2,2,[5,6,7,8,5,6,7,8,5,6,7,8,5,6,7,8]⟩ :=
  (framebuffer_faithful_iff .release 2 2 smallBuffer (by decide +kernel)
    [.setPixel 1 1 1 2 3 4,.fill 5 6 7 8]).mpr (by decide) _ [] _ (List.append_nil _).symm
      (by decide +kernel)

/-- A release build makes a framebuffer of two to the 31 by two to the 31 pixels
with an empty buffer, and setting its first pixel panics. -/
theorem wrapped_buffer_is_empty :
    Framebuffer.new .release 0x80000000 0x80000000=.ok ⟨0x80000000,0x80000000,[]⟩ ∧
      Framebuffer.setPixel .release ⟨0x80000000,0x80000000,[]⟩ 0 0 1 2 3 4=
        .error (.panic .indexOutOfRange) ∧
      ¬Faithful .release ⟨0x80000000,0x80000000,[]⟩ := by
  refine ⟨by decide +kernel,by decide +kernel,?_⟩
  intro h
  have hframed := h.framed
  revert hframed
  unfold Framed
  decide

end LiteDroid.GraphicsPixels
