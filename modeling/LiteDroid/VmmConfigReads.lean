import LiteDroid.VmmBlockDevice
import Mathlib.Tactic.IntervalCases

/-!
# Reads of the capacity

The configuration space of the block device is the 64-bit number of its
sectors. The device matches the offset of an access exactly and cuts the
register to the access size, so an access that starts inside the number is
answered with zero. A capacity read in parts is the capacity exactly when it
fits the first of the parts.
-/

namespace LiteDroid.VmmConfigReads

open LittleEndian CoreResults StorageImage VmmBlockDevice

/-- The number formed by some bytes of the capacity, from one position on. -/
def capacityBytes (device : VirtioBlock) (start size : ℕ) : ℕ :=
  leNat (((leBytes 8 device.disk.sectors.toNat).drop start).take size)

/-- An access to the configuration space, from one of its bytes on. -/
def configRead (profile : Profile) (device : VirtioBlock) (start size : ℕ) : Outcome UInt64 :=
  device.read profile (0x100+UInt64.ofNat start) size

/-- The bytes that accesses of the given sizes, one behind the other, leave in
the buffers of their exits. -/
def splitRead (profile : Profile) (device : VirtioBlock) : ℕ → List ℕ → Outcome (List UInt8)
  | _,[] => return []
  | start,size::rest => do
    let bytes ← mmioRead profile device (virtioMmioStart+(0x100+UInt64.ofNat start)) size
    let later ← splitRead profile device (start+size) rest
    return bytes.getD []++later

/-- An access returns the bytes of the capacity that it covers. -/
def Consistent (profile : Profile) (device : VirtioBlock) (start size : ℕ) : Prop :=
  ∃ value, configRead profile device start size=.ok value ∧
    value.toNat=capacityBytes device start size

/-- Accesses of the given sizes together return the capacity. -/
def Reassembled (profile : Profile) (device : VirtioBlock) (sizes : List ℕ) : Prop :=
  ∃ bytes, splitRead profile device 0 sizes=.ok bytes ∧ leNat bytes=device.disk.sectors.toNat

/-- Cutting a word to a number of bytes takes its residue. -/
theorem and_byteMask (value : UInt64) {size : ℕ} (h : size < 8) :
    (value&&&((1 : UInt64)<<<UInt64.ofNat (size*8)-1)).toNat=value.toNat%256^size := by
  have hpow : (2 : ℕ)^(size*8)=256^size := by
    rw [Nat.mul_comm,pow_mul]
    rfl
  have hlt : (2 : ℕ)^(size*8) < 2^64 := Nat.pow_lt_pow_right (by decide) (by omega)
  have hpos : 0 < (2 : ℕ)^(size*8) := Nat.pow_pos (by decide)
  have hbit : ((1 : UInt64)<<<UInt64.ofNat (size*8)).toNat=2^(size*8) := by
    rw [UInt64.toNat_shiftLeft,UInt64.toNat_ofNat',UInt64.toNat_one,Nat.shiftLeft_eq,Nat.one_mul,
      Nat.mod_eq_of_lt (by omega : size*8 < 2^64),Nat.mod_eq_of_lt (by omega : size*8 < 64),
      Nat.mod_eq_of_lt hlt]
  have hmask : ((1 : UInt64)<<<UInt64.ofNat (size*8)-1).toNat=2^(size*8)-1 := by
    rw [UInt64.toNat_sub,hbit]
    simp only [UInt64.reduceToNat]
    omega
  rw [UInt64.toNat_and,hmask,Nat.and_two_pow_sub_one_eq_mod,hpow]

/-- An access of at most eight bytes returns the register's lowest bytes. -/
theorem read_cut (profile : Profile) (device : VirtioBlock) (offset : UInt64) {size : ℕ}
    (h : size ≤ 8) : ∃ value, device.read profile offset size=.ok value ∧
      value.toNat=(device.register offset).toNat%256^size := by
  have hlt := (device.register offset).toNat_lt
  unfold VirtioBlock.read
  dsimp only
  by_cases h8 : 8 ≤ size
  · have he : size=8 := by omega
    subst he
    rw [if_pos h8]
    exact ⟨_,rfl,(Nat.mod_eq_of_lt hlt).symm⟩
  · have hmod : size*8%64=size*8 := Nat.mod_eq_of_lt (by omega)
    rw [if_neg h8]
    refine ⟨_,?_,and_byteMask (device.register offset) (by omega)⟩
    cases profile with
    | release => simp only [Profile.shl,hmod]; rfl
    | dev => simp only [Profile.shl,if_pos (by omega : size*8 < 64)]; rfl

/-- The capacity is found at its first byte only. -/
theorem register_config (device : VirtioBlock) {start : ℕ} (h : start < 8) :
    device.register (0x100+UInt64.ofNat start)=if start=0 then device.disk.sectors else 0 := by
  interval_cases start <;> rfl

/-- An access inside the capacity. -/
theorem configRead_value (profile : Profile) (device : VirtioBlock) {start size : ℕ}
    (h : start < 8) (hs : start+size ≤ 8) :
    ∃ value, configRead profile device start size=.ok value ∧
      value.toNat=if start=0 then device.disk.sectors.toNat%256^size else 0 := by
  obtain ⟨value,hv,hn⟩ := read_cut profile device (0x100+UInt64.ofNat start) (by omega : size ≤ 8)
  refine ⟨value,hv,?_⟩
  rw [hn,register_config device h]
  split
  · rfl
  · exact Nat.zero_mod _

/-- An access returns its bytes exactly when it starts at the first byte or
all of its bytes are zero. -/
theorem consistent_iff (profile : Profile) (device : VirtioBlock) {start size : ℕ}
    (h : start < 8) (hs : start+size ≤ 8) : Consistent profile device start size ↔
      start=0 ∨ device.disk.sectors.toNat/256^start%256^size=0 := by
  obtain ⟨value,hv,hn⟩ := configRead_value profile device h hs
  have hbytes : capacityBytes device start size=device.disk.sectors.toNat/256^start%256^size :=
    leNat_window _ hs
  unfold Consistent
  rw [hbytes]
  constructor
  · rintro ⟨other,ho,he⟩
    rw [hv] at ho
    obtain rfl := Except.ok.inj ho
    rw [hn] at he
    split at he
    · exact Or.inl (by assumption)
    · exact Or.inr he.symm
  · rintro (rfl | hz)
    · rw [pow_zero,Nat.div_one]
      exact ⟨value,hv,by rw [hn,if_pos rfl]⟩
    · refine ⟨value,hv,?_⟩
      rw [hn]
      split
      · rename_i h0
        rw [h0,pow_zero,Nat.div_one]
      · exact hz.symm

/-- The exit buffer of an access inside the capacity. -/
theorem mmioRead_config (profile : Profile) (device : VirtioBlock) {start size : ℕ}
    (h : start < 8) (hs : start+size ≤ 8) :
    ∃ bytes, mmioRead profile device (virtioMmioStart+(0x100+UInt64.ofNat start)) size=
        .ok (some bytes) ∧ bytes.length=size ∧
      leNat bytes=if start=0 then device.disk.sectors.toNat%256^size else 0 := by
  obtain ⟨value,hv,hn⟩ := configRead_value profile device h hs
  have hrouted : routed (virtioMmioStart+(0x100+UInt64.ofNat start)) := by
    interval_cases start <;> decide
  have hback : virtioMmioStart+(0x100+UInt64.ofNat start)-virtioMmioStart=
      0x100+UInt64.ofNat start := by
    interval_cases start <;> rfl
  have hslice : sliceTo (leBytes 8 value.toNat) size=.ok (leBytes size value.toNat) := by
    unfold sliceTo
    rw [leBytes_length,if_pos (by omega),leBytes_take _ (by omega)]
  have hsmall : value.toNat < 256^size := by
    rw [hn]
    split
    · exact Nat.mod_lt _ (Nat.pow_pos (by decide))
    · exact Nat.pow_pos (by decide)
  unfold configRead at hv
  unfold mmioRead
  rw [if_pos hrouted,hback,hv]
  dsimp only [bind,Except.bind]
  rw [hslice]
  refine ⟨_,rfl,leBytes_length _ _,?_⟩
  rw [leNat_leBytes,Nat.mod_eq_of_lt hsmall,hn]

/-- Accesses behind the first byte return zero bytes only. -/
theorem splitRead_behind (profile : Profile) (device : VirtioBlock) (sizes : List ℕ) {start : ℕ}
    (hpos : ∀ size∈sizes, 0 < size) (h0 : start≠0) (hs : start+sizes.sum ≤ 8) :
    ∃ bytes, splitRead profile device start sizes=.ok bytes ∧ leNat bytes=0 := by
  induction sizes generalizing start with
  | nil => exact ⟨[],rfl,rfl⟩
  | cons size rest ih =>
    have hsize := hpos size List.mem_cons_self
    rw [List.sum_cons] at hs
    obtain ⟨bytes,hb,hlen,hn⟩ :=
      mmioRead_config profile device (by omega : start < 8) (by omega : start+size ≤ 8)
    obtain ⟨later,hl,hz⟩ := ih (fun n hm => hpos n (List.mem_cons_of_mem _ hm))
      (by omega : start+size≠0) (by omega)
    rw [if_neg h0] at hn
    refine ⟨bytes++later,?_,?_⟩
    · rw [splitRead,hb]
      dsimp only [bind,Except.bind]
      rw [hl]
      rfl
    · rw [leNat_append,hn,hz,Nat.mul_zero]

/-- The number that a whole split returns is the lowest part of the capacity. -/
theorem splitRead_value (profile : Profile) (device : VirtioBlock) (first : ℕ) (rest : List ℕ)
    (hpos : ∀ size∈first::rest, 0 < size) (hs : (first::rest).sum=8) :
    ∃ bytes, splitRead profile device 0 (first::rest)=.ok bytes ∧
      leNat bytes=device.disk.sectors.toNat%256^first := by
  have hfirst := hpos first List.mem_cons_self
  rw [List.sum_cons] at hs
  obtain ⟨bytes,hb,-,hn⟩ :=
    mmioRead_config profile device (by decide : 0 < 8) (by omega : 0+first ≤ 8)
  obtain ⟨later,hl,hz⟩ := splitRead_behind profile device rest
    (fun n hm => hpos n (List.mem_cons_of_mem _ hm)) (by omega : 0+first≠0) (by omega)
  refine ⟨bytes++later,?_,?_⟩
  · rw [splitRead,hb]
    dsimp only [bind,Except.bind]
    rw [hl]
    rfl
  · rw [leNat_append,hn,hz,if_pos rfl,Nat.mul_zero,Nat.add_zero]

/-- Reads of the capacity. An access inside it returns the bytes it covers
exactly when it starts at the first byte or covers zero bytes only; and
accesses that cover it one behind the other return the capacity exactly when
it fits the first of them. -/
theorem config_reads_iff (profile : Profile) (device : VirtioBlock) :
    (∀ start size, start < 8 → start+size ≤ 8 → (Consistent profile device start size ↔
      start=0 ∨ device.disk.sectors.toNat/256^start%256^size=0)) ∧
    (∀ first rest, (∀ size∈first::rest, 0 < size) → (first::rest).sum=8 →
      (Reassembled profile device (first::rest) ↔ device.disk.sectors.toNat < 256^first)) := by
  refine ⟨fun start size h hs => consistent_iff profile device h hs,?_⟩
  intro first rest hpos hs
  obtain ⟨bytes,hb,hn⟩ := splitRead_value profile device first rest hpos hs
  constructor
  · rintro ⟨other,ho,he⟩
    rw [hb] at ho
    obtain rfl := Except.ok.inj ho
    rw [← he,hn]
    exact Nat.mod_lt _ (Nat.pow_pos (by decide))
  · intro hlt
    exact ⟨bytes,hb,by rw [hn,Nat.mod_eq_of_lt hlt]⟩

/-- A disk of 256 sectors: its lowest byte is read as it is, its second is not,
and two accesses of four bytes return the capacity. -/
theorem config_reads_iff_small :
    Consistent .release (VirtioBlock.new ⟨0x20000⟩) 0 1 ∧
      ¬Consistent .release (VirtioBlock.new ⟨0x20000⟩) 1 1 ∧
      Reassembled .release (VirtioBlock.new ⟨0x20000⟩) [4,4] := by
  have h := config_reads_iff .release (VirtioBlock.new ⟨0x20000⟩)
  refine ⟨(h.1 0 1 (by decide) (by decide)).mpr (Or.inl rfl),?_,?_⟩
  · rw [h.1 1 1 (by decide) (by decide)]
    decide
  · exact (h.2 4 [4] (by decide) (by decide)).mpr (by decide)

/-- On a disk of two tebibytes, which has 2 to the 32 sectors, the upper half
of the capacity reads as zero and two accesses of four bytes return zero. -/
theorem upper_half_reads_zero :
    configRead .release (VirtioBlock.new ⟨0x20000000000⟩) 4 4=.ok 0 ∧
      capacityBytes (VirtioBlock.new ⟨0x20000000000⟩) 4 4=1 ∧
      ¬Consistent .release (VirtioBlock.new ⟨0x20000000000⟩) 4 4 ∧
      splitRead .release (VirtioBlock.new ⟨0x20000000000⟩) 0 [4,4]=.ok [0,0,0,0,0,0,0,0] ∧
      configRead .release (VirtioBlock.new ⟨0x20000000000⟩) 0 8=.ok 0x100000000 ∧
      ¬Reassembled .release (VirtioBlock.new ⟨0x20000000000⟩) [4,4] := by
  have hsplit : splitRead .release (VirtioBlock.new ⟨0x20000000000⟩) 0 [4,4]=
      .ok [0,0,0,0,0,0,0,0] := by decide +kernel
  refine ⟨by decide +kernel,by decide +kernel,?_,hsplit,by decide +kernel,?_⟩
  · rw [consistent_iff _ _ (by decide) (by decide)]
    decide
  · rintro ⟨bytes,hb,hn⟩
    rw [hsplit] at hb
    obtain rfl := Except.ok.inj hb
    exact absurd hn (by decide)

end LiteDroid.VmmConfigReads
