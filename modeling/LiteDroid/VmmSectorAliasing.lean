import LiteDroid.VmmBlockQueue

/-!
# Sector numbers and byte offsets

A release build multiplies the guest's sector number by 512 modulo the word
size, and the host refuses the offsets whose sign bit is set. The offsets of
two sectors agree exactly when the sectors agree modulo 2 to the 55, and the
half of these residues that reaches the sign bit is never accepted. A write
to one sector is invisible to the reads of another except where the two have
an accepted residue in common.
-/

namespace LiteDroid.VmmSectorAliasing

open CoreResults MemoryRegion StorageImage VmmBlockDevice VmmQueueLayout VmmBlockRequest
open VmmDiskStore VmmBlockQueue LittleEndian ByteRange

/-- A request for one sector that a release build completed. -/
structure Served (sector : UInt64) (device : VirtioBlock) (head : UInt16) (world : World)
    (chain : Chain) : Prop where
  /-- The request, as the device's walk finds it. -/
  walked : walkChain .release device.queueNum world.memory device.queue head=.ok chain
  /-- Its sector number. -/
  sector_eq : chain.sector=sector
  /-- Its payload is at most one sector long. -/
  short : chain.payloadLen.toNat ≤ 512
  /-- It was completed. -/
  done : (serve .release device head world).outcome=.ok ()

/-- A read request for one sector that the device accepts on some memory and file. -/
structure Readable (sector : UInt64) (reader : Chain) (world : World) : Prop where
  /-- It is a read. -/
  isRead : reader.requestType=0
  /-- Its sector number. -/
  sector_eq : reader.sector=sector
  /-- Its payload is at most one sector long. -/
  short : reader.payloadLen.toNat ≤ 512
  /-- Its direction, ranges and offset are accepted. -/
  accepted : Transferable .release reader world

/-- No completed write to one sector changes a byte that a read of another
returns. A write may make the file longer; the read then finds the zeros of
the gap behind the bytes it found before. -/
def Unaliased (s t : UInt64) : Prop :=
  ∀ device head world chain, Served s device head world chain → chain.requestType=1 →
    ∀ reader memory, Readable t reader ⟨memory,(serve .release device head world).world.file⟩ →
      ∃ n, readBytes reader ⟨memory,(serve .release device head world).world.file⟩=
        readBytes reader ⟨memory,world.file⟩++List.replicate n 0

/-- Every completed transfer of a sector uses its natural byte offset. -/
def NaturalOffset (s : UInt64) : Prop :=
  ∀ device head world chain, Served s device head world chain →
    chain.requestType=0 ∨ chain.requestType=1 → (byteOffset chain).toNat=s.toNat*512

/-- The offset of a sector keeps its residue modulo 2 to the 55. -/
theorem byteOffset_residue (chain : Chain) :
    (byteOffset chain).toNat=chain.sector.toNat%2^55*512 := by
  simp only [byteOffset,UInt64.toNat_mul,UInt64.reduceToNat]
  omega

/-- A completed write was accepted, and left the written file. -/
theorem served_write {s : UInt64} {device : VirtioBlock} {head : UInt16} {world : World}
    {chain : Chain} (h : Served s device head world chain) (h1 : chain.requestType=1) :
    OffsetFits (byteOffset chain) chain.payloadLen.toNat ∧
      (serve .release device head world).world.file=
        stored world.file (byteOffset chain).toNat (writeBytes chain world) := by
  have hone : ¬(1 : UInt32)=0 := by decide
  obtain ⟨other,hother,ht,-,hw⟩ := processRequest_ok h.done
  rw [h.walked] at hother
  obtain rfl := Except.ok.inj hother
  refine ⟨((transferable_write h1).mp ht).2.2.2,?_⟩
  rw [serve,hw,completed_file,delivered,h1,if_neg hone,if_pos rfl]

/-- A completed read was accepted. -/
theorem served_read {s : UInt64} {device : VirtioBlock} {head : UInt16} {world : World}
    {chain : Chain} (h : Served s device head world chain) (h0 : chain.requestType=0) :
    OffsetFits (byteOffset chain) chain.payloadLen.toNat := by
  obtain ⟨other,hother,ht,-,-⟩ := processRequest_ok h.done
  rw [h.walked] at hother
  obtain rfl := Except.ok.inj hother
  exact ((transferable_read h0).mp ht).2.2.1

/-- The residue of a sector whose transfer was completed does not reach the sign bit. -/
theorem served_residue {s : UInt64} {device : VirtioBlock} {head : UInt16} {world : World}
    {chain : Chain} (h : Served s device head world chain)
    (ht : chain.requestType=0 ∨ chain.requestType=1) : s.toNat%2^55 < 2^54 := by
  have hfits : OffsetFits (byteOffset chain) chain.payloadLen.toNat := by
    rcases ht with h0 | h1
    · exact served_read h h0
    · exact (served_write h h1).1
  unfold OffsetFits at hfits
  rw [byteOffset_residue,h.sector_eq] at hfits
  omega

/-- What a read finds in a file that was written elsewhere: the bytes it found
before, then zeros. -/
theorem readable_stored {file : HostFile} {a b len : ℕ} {data : List UInt8}
    (h : Separate a data.length b len) :
    ∃ n, readable (stored file a data) b len=readable file b len++List.replicate n 0 := by
  have hlength : file.length ≤ (stored file a data).length := by
    unfold stored
    split
    · exact Nat.le_refl _
    · exact Nat.le_max_left _ _
  have hsplit : min len ((stored file a data).length-b)=min len (file.length-b)+
      (min len ((stored file a data).length-b)-min len (file.length-b)) := by omega
  refine ⟨min len ((stored file a data).length-b)-min len (file.length-b),?_⟩
  have hwhole : readable (stored file a data) b len=
      slice file.byte b (min len ((stored file a data).length-b)) := by
    unfold readable
    rw [stored_byte]
    exact slice_overwrite_separate (h.part (Nat.le_refl _) (by omega))
  rw [hwhole,hsplit,slice_add]
  refine congrArg (readable file b len++·) ?_
  rw [Nat.add_sub_cancel_left]
  apply List.eq_replicate_iff.mpr
  refine ⟨slice_length _ _ _,?_⟩
  intro cell hcell
  unfold slice at hcell
  obtain ⟨i,hi,rfl⟩ := List.mem_map.mp hcell
  rw [List.mem_range] at hi
  exact file.zero_past _ (by omega)

/-- Sectors without a common residue lie apart on the disk. -/
theorem unaliased_of_residue {s t : UInt64} (h : s.toNat%2^55≠t.toNat%2^55) : Unaliased s t := by
  intro device head world chain hs h1 reader memory hr
  have hwrite := byteOffset_residue chain
  have hread := byteOffset_residue reader
  have hshort := hs.short
  have hrshort := hr.short
  rw [hs.sector_eq] at hwrite
  rw [hr.sector_eq] at hread
  rw [(served_write hs h1).2]
  unfold readBytes
  dsimp only
  apply readable_stored
  unfold writeBytes Separate
  rw [slice_length]
  omega

/-- A sector whose offset reaches the sign bit is never written. -/
theorem unaliased_of_sign {s t : UInt64} (h : 2^54 ≤ s.toNat%2^55) : Unaliased s t := by
  intro device head world chain hs h1
  have hres := served_residue hs (Or.inr h1)
  omega

/-- The memory of a request for one byte of a chosen sector. -/
def aimed (requestType flags : ℕ) (sector : UInt64) : GuestMemory :=
  store (requestMemory requestType flags [1] 0x3200) 0x3008 (leBytes 8 sector.toNat)

/-- A blank file of a chosen length. -/
def blank (length : ℕ) : HostFile := ⟨length,fun _ => 0,fun _ _ => rfl⟩

/-- The chain of the write of one byte to a chosen sector. -/
def aimedWrite (sector : UInt64) : Chain := ⟨1,sector,0x3100,1,1,0x3200⟩

/-- The chain of the read of one byte of a chosen sector. -/
def aimedRead (sector : UInt64) : Chain := ⟨0,sector,0x3100,1,3,0x3200⟩

/-- The request aimed at a sector is a write of one byte to that sector. -/
theorem walkChain_aimed (sector : UInt64) :
    walkChain .release smallDevice.queueNum (aimed 1 1 sector) smallDevice.queue 0=
      .ok (aimedWrite sector) := by
  have hold : ∀ (addr : UInt64) (len : ℕ), Separate 0x3008 8 addr.toNat len →
      readGuest (aimed 1 1 sector) addr len=
        readGuest (requestMemory 1 1 [1] 0x3200) addr len := by
    intro addr len h
    exact readGuest_store_separate (by rw [leBytes_length]; exact h)
  have hsector : guestU64 (aimed 1 1 sector) 0x3008=.ok sector :=
    @guestU64_store _ 0x3008 sector (by decide)
  have hheader : guestU64 (aimed 1 1 sector) 0x1000=.ok 0x3000 := by
    rw [guestU64,hold _ _ (by decide)]
    decide +kernel
  have hheaderFlags : guestU16 (aimed 1 1 sector) 0x100c=.ok 1 := by
    rw [guestU16,hold _ _ (by decide)]
    decide +kernel
  have hheaderNext : guestU16 (aimed 1 1 sector) 0x100e=.ok 1 := by
    rw [guestU16,hold _ _ (by decide)]
    decide +kernel
  have htype : guestU32 (aimed 1 1 sector) 0x3000=.ok 1 := by
    rw [guestU32,hold _ _ (by decide)]
    decide +kernel
  have hpayload : guestU64 (aimed 1 1 sector) 0x1010=.ok 0x3100 := by
    rw [guestU64,hold _ _ (by decide)]
    decide +kernel
  have hlen : guestU32 (aimed 1 1 sector) 0x1018=.ok 1 := by
    rw [guestU32,hold _ _ (by decide)]
    decide +kernel
  have hflags : guestU16 (aimed 1 1 sector) 0x101c=.ok 1 := by
    rw [guestU16,hold _ _ (by decide)]
    decide +kernel
  have hnext : guestU16 (aimed 1 1 sector) 0x101e=.ok 2 := by
    rw [guestU16,hold _ _ (by decide)]
    decide +kernel
  have hstatus : guestU64 (aimed 1 1 sector) 0x1020=.ok 0x3200 := by
    rw [guestU64,hold _ _ (by decide)]
    decide +kernel
  have hfirst : descAddr smallDevice.queue 0=0x1000 := by decide
  have hsecond : descAddr smallDevice.queue 1=0x1010 := by decide
  have hthird : descAddr smallDevice.queue 2=0x1020 := by decide
  have hadd : Profile.release.add 0x3000 8=.ok 0x3008 := rfl
  have hbits : ¬(1&&&descNext=0 : Prop) := by decide
  have hbound : ¬smallDevice.queueNum ≤ 2 := by decide
  have hnull : ¬(0x3200 : UInt64)=0 := by decide
  unfold walkChain
  simp only [bind,Except.bind,hfirst,UInt64.reduceAdd,hheader,hheaderFlags,hheaderNext,htype,hadd,
    hsector,hsecond,hpayload,hlen,hflags,hnext,hthird,hstatus,hbits,hbound,hnull,or_self,if_false]
  rfl

/-- A range below the four pages of the aimed request lies in its memory. -/
theorem fits_aimed (requestType flags : ℕ) (sector : UInt64) {addr : UInt64} {len : ℕ}
    (h : addr.toNat+len ≤ 0x4000) : Fits (aimed requestType flags sector) addr len := by
  unfold Fits aimed
  rw [store_size]
  exact h

/-- The aimed write is accepted whenever its residue does not reach the sign bit. -/
theorem transferable_aimed {sector : UInt64} (h : sector.toNat%2^55 < 2^54) (file : HostFile) :
    Transferable .release (aimedWrite sector) ⟨aimed 1 1 sector,file⟩ := by
  have hflags : (1 : UInt16)&&&descWrite=0 := by decide
  have hbuffer : Fits (aimed 1 1 sector) 0x3100 1 := fits_aimed 1 1 sector (by decide)
  refine (transferable_write rfl).mpr ⟨hflags,hbuffer,Or.inl rfl,?_⟩
  have hoffset := byteOffset_residue (aimedWrite sector)
  have hlen : (aimedWrite sector).payloadLen.toNat=1 := rfl
  have hsector : (aimedWrite sector).sector=sector := rfl
  rw [hsector] at hoffset
  unfold OffsetFits
  omega

/-- The aimed write finds its status byte and its used element in memory. -/
theorem completable_aimed (sector : UInt64) (file : HostFile) :
    Completable smallDevice (aimedWrite sector) ⟨aimed 1 1 sector,file⟩ := by
  have hstatus : Fits (aimed 1 1 sector) 0x3200 1 := fits_aimed 1 1 sector (by decide)
  refine ⟨hstatus,?_⟩
  have hslot := @usedSlot_lt smallDevice
    (acknowledged (aimedWrite sector) ⟨aimed 1 1 sector,file⟩).memory (by decide)
  have hused : usedStart smallDevice=0x2000 := by decide
  have hfour : smallDevice.queueNum.toNat=4 := rfl
  have hsize : (acknowledged (aimedWrite sector)
      ⟨aimed 1 1 sector,file⟩).memory.size.toNat=0x4000 := by
    rw [acknowledged_size]
    rfl
  unfold ElementFits
  omega

/-- The aimed write is completed whenever the host accepts its offset. -/
theorem served_aimed {sector : UInt64} (h : sector.toNat%2^55 < 2^54) (file : HostFile) :
    Served sector smallDevice 0 ⟨aimed 1 1 sector,file⟩ (aimedWrite sector) := by
  have hm := completable_aimed sector file
  have hshort : (aimedWrite sector).payloadLen.toNat ≤ 512 := by
    change (1 : UInt32).toNat ≤ 512
    decide
  refine ⟨walkChain_aimed sector,rfl,hshort,?_⟩
  obtain ⟨fault,hc,-⟩ | ⟨chain,hc,hcase⟩ :=
    processRequest_cases .release smallDevice 0 ⟨aimed 1 1 sector,file⟩
  · rw [walkChain_aimed] at hc
    cases hc
  · rw [walkChain_aimed] at hc
    obtain rfl := Except.ok.inj hc
    obtain ⟨fault,hn,-⟩ | ⟨-,hn,-⟩ | ⟨cause,memory,stores,-,-,hn,-⟩ | ⟨-,-,hr⟩ := hcase
    · exact absurd (transferable_aimed h file) hn
    · exact absurd hm.1 hn
    · exact absurd hm.2 hn
    · rw [serve,hr]

/-- The byte the aimed write takes from its buffer. -/
theorem writeBytes_aimed (sector : UInt64) (file : HostFile) :
    writeBytes (aimedWrite sector) ⟨aimed 1 1 sector,file⟩=[1] := by
  have hold : slice (aimed 1 1 sector).byte 0x3100 1=
      slice (requestMemory 1 1 [1] 0x3200).byte 0x3100 1 := by
    unfold aimed
    rw [store_byte]
    apply slice_overwrite_separate
    rw [leBytes_length]
    decide
  have hone : slice (requestMemory 1 1 [1] 0x3200).byte 0x3100 1=[1] := by decide +kernel
  exact hold.trans hone

/-- A write to a sector whose residue the host accepts changes the byte that
reads of every sector of the same residue return. -/
theorem not_unaliased_of_residue {s t : UInt64} (heq : s.toNat%2^55=t.toNat%2^55)
    (hlow : s.toNat%2^55 < 2^54) : ¬Unaliased s t := by
  intro h
  have hs := served_aimed hlow (blank (s.toNat%2^55*512+1))
  have hoffset : (byteOffset (aimedWrite s)).toNat=s.toNat%2^55*512 :=
    byteOffset_residue (aimedWrite s)
  have hroffset : (byteOffset (aimedRead t)).toNat=s.toNat%2^55*512 := by
    rw [byteOffset_residue,heq]
    rfl
  have hfile := (served_write hs rfl).2
  rw [hoffset,writeBytes_aimed] at hfile
  have hbefore : readBytes (aimedRead t) ⟨aimed 0 3 t,blank (s.toNat%2^55*512+1)⟩=[0] := by
    unfold readBytes
    rw [hroffset,readable_of_le (Nat.le_refl _)]
    rfl
  have hafter : readBytes (aimedRead t)
      ⟨aimed 0 3 t,stored (blank (s.toNat%2^55*512+1)) (s.toNat%2^55*512) [1]⟩=[1] := by
    unfold readBytes
    rw [hroffset,readable_of_le (by rw [stored_length (Nat.le_refl _)]; exact Nat.le_refl _),
      stored_byte]
    exact slice_overwrite_self _ _ [1]
  have hr : Readable t (aimedRead t)
      ⟨aimed 0 3 t,stored (blank (s.toNat%2^55*512+1)) (s.toNat%2^55*512) [1]⟩ := by
    have hflags : (3 : UInt16)&&&descWrite≠0 := by decide
    have hbuffer : Fits (aimed 0 3 t) 0x3100 1 := fits_aimed 0 3 t (by decide)
    refine ⟨rfl,rfl,Nat.le_of_ble_eq_true rfl,(transferable_read rfl).mpr ⟨hflags,Or.inl rfl,?_,?_⟩⟩
    · have hlen : (aimedRead t).payloadLen.toNat=1 := rfl
      unfold OffsetFits
      omega
    · rw [hafter]
      exact hbuffer
  obtain ⟨n,hn⟩ := h smallDevice 0 _ _ hs rfl (aimedRead t) (aimed 0 3 t) (by rw [hfile]; exact hr)
  rw [hfile,hafter,hbefore] at hn
  cases hn

/-- Every sector below 2 to the 55 has the natural offset, and a sector whose
residue reaches the sign bit is never transferred. -/
theorem naturalOffset_iff (s : UInt64) : NaturalOffset s ↔ s.toNat < 2^55 ∨ 2^54 ≤ s.toNat%2^55 := by
  constructor
  · intro h
    by_contra hn
    have hs := @served_aimed s (by omega) (blank 0)
    have hoffset := h smallDevice 0 _ _ hs (Or.inr rfl)
    rw [byteOffset_residue,hs.sector_eq] at hoffset
    omega
  · intro h device head world chain hs ht
    have hres := served_residue hs ht
    rw [byteOffset_residue,hs.sector_eq]
    omega

/-- Sector addressing in a release build. A completed write to one sector
leaves every read of another as it was exactly when the two sectors differ
modulo 2 to the 55 or the written one reaches the sign bit; and the offset
used is the natural one exactly when the sector is below 2 to the 55 or
reaches the sign bit. -/
theorem sector_addressing_iff (s t : UInt64) :
    (Unaliased s t ↔ s.toNat%2^55≠t.toNat%2^55 ∨ 2^54 ≤ s.toNat%2^55) ∧
      (NaturalOffset s ↔ s.toNat < 2^55 ∨ 2^54 ≤ s.toNat%2^55) := by
  refine ⟨⟨?_,?_⟩,naturalOffset_iff s⟩
  · intro h
    by_contra hn
    rw [not_or,not_not,Nat.not_le] at hn
    exact not_unaliased_of_residue hn.1 hn.2 h
  · rintro (h | h)
    · exact unaliased_of_residue h
    · exact unaliased_of_sign h

/-- The first sector number whose byte offset wraps: 2 to the 55. -/
def highSector : UInt64 := 0x80000000000000

/-- A write to sector 2 to the 55 is completed at offset zero, and changes the
first byte of the disk. -/
theorem high_sector_overwrites_first :
    highSector≠0 ∧ ¬Unaliased highSector 0 ∧ ¬NaturalOffset highSector ∧
      Served highSector smallDevice 0 ⟨aimed 1 1 highSector,blank 512⟩ (aimedWrite highSector) ∧
      readBytes (aimedRead 0) ⟨aimed 0 3 0,blank 512⟩=[0] ∧
      readBytes (aimedRead 0)
        ⟨aimed 0 3 0,(serve .release smallDevice 0 ⟨aimed 1 1 highSector,blank 512⟩).world.file⟩=[1] := by
  refine ⟨by decide,not_unaliased_of_residue (by decide) (by decide),?_,
    served_aimed (by decide) (blank 512),by decide +kernel,by decide +kernel⟩
  intro h
  exact absurd ((naturalOffset_iff _).mp h) (by decide)

end LiteDroid.VmmSectorAliasing
