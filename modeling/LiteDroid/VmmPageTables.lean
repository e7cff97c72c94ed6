import LiteDroid.VmmMachine
import Mathlib.Tactic.NormNum

/-!
# The boot page tables

The processor's walk through the page tables, and what the tables of a raw
kernel map. One page directory of 2 MiB pages is filled, so the identity map
ends at one gibibyte, whatever the RAM size is.
-/

namespace LiteDroid.VmmPageTables

open ByteRange LittleEndian CoreDeviceConfig EffectRun KvmHost MemoryRegion VmmMachine

/-- A bit field of a number, by its first bit and its width. -/
def field (e start width : ℕ) : ℕ := e/2^start%2^width

/-- The 64-bit word stored at a natural address. -/
def longAt (memory : GuestMemory) (addr : ℕ) : ℕ := leNat (slice memory.byte addr 8)

/-- A present and writable entry of a table in guest memory. -/
def tableEntry (memory : GuestMemory) (table index : ℕ) : Option ℕ :=
  if table+8*index+8 ≤ memory.size.toNat then
    let e := longAt memory (table+8*index)
    if field e 0 1=1 ∧ field e 1 1=1 then some e else none
  else none

/-- Walk the levels of the page tables, each given by the first bit of its
index. The last level holds 4 KiB pages; below the top level an entry may be
a large page. -/
def walk (memory : GuestMemory) (addr : ℕ) : List ℕ → ℕ → Option ℕ
  | [],_ => none
  | shift::rest,table =>
    match tableEntry memory table (field addr shift 9) with
    | none => none
    | some e =>
      if shift=12 ∨ (shift≠39 ∧ field e 7 1=1) then
        some (field e shift (52-shift)*2^shift+addr%2^shift)
      else walk memory addr rest (field e 12 40*2^12)

/-- The translation of an address with a page-table root. -/
def translate (memory : GuestMemory) (cr3 addr : ℕ) : Option ℕ :=
  walk memory addr [39,30,21,12] (field cr3 12 40*2^12)

/-- The word stored by its own little-endian bytes. -/
theorem longAt_store (memory : GuestMemory) (addr : ℕ) (value : UInt64) :
    longAt (store memory addr (leBytes 8 value.toNat)) addr=value.toNat := by
  have hv := value.toNat_lt
  unfold longAt
  rw [slice_store_number,leNat_leBytes]
  omega

/-- A store elsewhere keeps a word. -/
theorem longAt_store_separate {memory : GuestMemory} {addr start : ℕ} {data : List UInt8}
    (h : Separate start data.length addr 8) :
    longAt (store memory start data) addr=longAt memory addr := by
  unfold longAt
  rw [store_byte,slice_overwrite_separate h]

/-- Two memories that agree on a word's bytes hold the same word. -/
theorem longAt_congr {memory other : GuestMemory} {addr : ℕ}
    (h : ∀ a, addr ≤ a → a < addr+8 → other.byte a=memory.byte a) :
    longAt other addr=longAt memory addr := by
  unfold longAt
  rw [(slice_eq_iff other.byte memory.byte addr addr 8).mpr fun i hi => h (addr+i) (by omega) (by omega)]

/-- A write inside guest memory stores its bytes. -/
theorem write_fits {memory : GuestMemory} {addr : UInt64} {data : List UInt8}
    (h : Fits memory addr data.length) :
    write addr data memory=.ok () (store memory addr.toNat data) :=
  update_ok_iff.mpr (writeGuest_fits h)

/-- The entry of a page maps it present, writable and large. -/
theorem pdEntry_toNat {i : ℕ} (h : i < 512) : (pdEntry i).toNat=i*2^21+0x83 := by
  have hi : (UInt64.ofNat i*2*1024*1024).toNat=2^21*i := by
    simp only [UInt64.toNat_mul,UInt64.toNat_ofNat',UInt64.reduceToNat]
    omega
  have hflags : (0x83 : UInt64).toNat=0x83 := by decide
  rw [pdEntry,UInt64.toNat_or,hi,hflags,
    ← Nat.two_pow_add_eq_or_of_lt (by norm_num : 0x83 < 2^21)]
  omega

/-- The page directory after its first entries were written. -/
theorem fill_directory {memory : GuestMemory} (hsize : 0x73000 ≤ memory.size.toNat) (n : ℕ)
    (hn : n ≤ 512) :
    ∃ filled, ((List.range n).forM fun i =>
        write (pdAddr+UInt64.ofNat i*8) (leBytes 8 (pdEntry i).toNat)) memory=.ok () filled ∧
      filled.size=memory.size ∧
      (∀ i < n, longAt filled (0x72000+8*i)=(pdEntry i).toNat) ∧
      ∀ a, a < 0x72000 ∨ 0x73000 ≤ a → filled.byte a=memory.byte a := by
  induction n with
  | zero => exact ⟨memory,rfl,rfl,fun i hi => absurd hi (Nat.not_lt_zero i),fun _ _ => rfl⟩
  | succ n ih =>
    obtain ⟨part,hrun,hpart,hwords,hrest⟩ := ih (by omega)
    have haddr : (pdAddr+UInt64.ofNat n*8).toNat=0x72000+8*n := by
      simp only [pdAddr,UInt64.toNat_add,UInt64.toNat_mul,UInt64.toNat_ofNat',
        UInt64.reduceToNat]
      omega
    have hfit : Fits part (pdAddr+UInt64.ofNat n*8) (leBytes 8 (pdEntry n).toNat).length := by
      unfold Fits
      rw [haddr,leBytes_length,hpart]
      omega
    have hwrite := write_fits hfit
    rw [haddr] at hwrite
    refine ⟨store part (0x72000+8*n) (leBytes 8 (pdEntry n).toNat),?_,
      (store_size _ _ _).trans hpart,?_,?_⟩
    · rw [List.range_succ]
      exact forM_snoc_ok hrun hwrite
    · intro i hi
      by_cases he : i=n
      · rw [he,longAt_store]
      · rw [longAt_store_separate (by unfold Separate; rw [leBytes_length]; omega)]
        exact hwords i (by omega)
    · intro a ha
      rw [store_byte,overwrite_outside (by rw [leBytes_length]; omega)]
      exact hrest a ha

/-- The number of entries written: one for each 2 MiB of RAM, at most 512. -/
theorem entries_toNat {config : DeviceConfig} (hv : config.validate=.ok ()) :
    (min (numPages config) 512).toNat=min ((config.ramMb.toNat+1)/2) 512 := by
  have hm := memSize_toNat hv
  obtain ⟨-,hmax,-,-⟩ := (validate_ok_iff config).mp hv
  have hn : (numPages config).toNat=(config.ramMb.toNat+1)/2 := by
    simp only [numPages,UInt64.toNat_div,UInt64.toNat_sub,UInt64.toNat_add,hm,
      UInt64.reduceToNat,UInt64.reduceMul]
    omega
  change (if numPages config ≤ 512 then numPages config else 512).toNat=_
  have hle : numPages config ≤ 512 ↔ (config.ramMb.toNat+1)/2 ≤ 512 := by
    rw [UInt64.le_iff_toNat_le,hn]
    rfl
  split
  · rename_i h
    rw [hn,Nat.min_eq_left (hle.mp h)]
  · rename_i h
    have hgt : ¬(config.ramMb.toNat+1)/2 ≤ 512 := fun hc => h (hle.mpr hc)
    rw [Nat.min_eq_right (by omega)]
    rfl

/-- What the page tables hold, written into zeroed memory. -/
structure Mapped (entries : ℕ) (tables : GuestMemory) : Prop where
  /-- All three tables lie in guest memory. -/
  size : 0x73000 ≤ tables.size.toNat
  /-- The first top-level entry leads to the second table. -/
  pml4 : longAt tables 0x70000=0x71003
  /-- The first entry of the second table leads to the directory. -/
  pdpt : longAt tables 0x71000=0x72003
  /-- No other entry of the second table is set. -/
  empty : ∀ i, 0 < i → i < 512 → longAt tables (0x71000+8*i)=0
  /-- The entries of the directory. -/
  pd : ∀ i < entries, longAt tables (0x72000+8*i)=i*2^21+0x83

/-- A word of zeroed memory is zero. -/
theorem longAt_zeroed {memory : GuestMemory} {addr : ℕ}
    (hz : ∀ a, addr ≤ a → a < addr+8 → memory.byte a=0) : longAt memory addr=0 := by
  have hs : slice memory.byte addr 8=List.replicate 8 0 :=
    List.eq_replicate_of_mem fun byte hb => by
      obtain ⟨i,hi,rfl⟩ := List.mem_map.mp hb
      have hlt := List.mem_range.mp hi
      exact hz (addr+i) (by omega) (by omega)
  rw [longAt,hs]
  rfl

/-- Writing the page tables succeeds and maps RAM where the tables' own pages
were zeroed, whatever the rest of memory holds. -/
theorem setupPageTables_maps {config : DeviceConfig} {memory : GuestMemory}
    (hv : config.validate=.ok ()) (hm : memory.size=config.memSize)
    (hz : ∀ a, 0x70000 ≤ a → a < 0x73000 → memory.byte a=0) :
    ∃ tables, setupPageTables config memory=.ok () tables ∧
      Mapped (min ((config.ramMb.toNat+1)/2) 512) tables := by
  obtain ⟨hmin,-,-,-⟩ := (validate_ok_iff config).mp hv
  have hsize : 0x73000 ≤ memory.size.toNat := by
    rw [hm,memSize_toNat hv]
    omega
  have h4 := pml4Addr_toNat
  have h3 := pdptAddr_toNat
  have e4 : (pdptAddr|||0x03).toNat=0x71003 := by decide
  have e3 : (pdAddr|||0x03).toNat=0x72003 := by decide
  have hw4 : write pml4Addr (leBytes 8 (pdptAddr|||0x03).toNat) memory=.ok ()
      (store memory 0x70000 (leBytes 8 (pdptAddr|||0x03).toNat)) := by
    rw [← h4]
    exact write_fits (by unfold Fits; rw [h4,leBytes_length]; omega)
  have hw3 : write pdptAddr (leBytes 8 (pdAddr|||0x03).toNat)
      (store memory 0x70000 (leBytes 8 (pdptAddr|||0x03).toNat))=.ok ()
      (store (store memory 0x70000 (leBytes 8 (pdptAddr|||0x03).toNat)) 0x71000
        (leBytes 8 (pdAddr|||0x03).toNat)) := by
    rw [← h3]
    exact write_fits (by unfold Fits; rw [store_size,h3,leBytes_length]; omega)
  obtain ⟨tables,hrun,htables,hwords,hrest⟩ := @fill_directory
    (store (store memory 0x70000 (leBytes 8 (pdptAddr|||0x03).toNat)) 0x71000
      (leBytes 8 (pdAddr|||0x03).toNat))
    (by rw [store_size,store_size]; exact hsize) (min (numPages config) 512).toNat
    (by rw [entries_toNat hv]; exact Nat.min_le_right _ _)
  refine ⟨tables,?_,?_,?_,?_,?_,?_⟩
  · exact bind_ok_iff.mpr ⟨(),_,hw4,bind_ok_iff.mpr ⟨(),_,hw3,hrun⟩⟩
  · rw [htables,store_size,store_size]
    exact hsize
  · rw [longAt_congr fun a _ ha => hrest a (by omega),
      longAt_store_separate (by unfold Separate; rw [leBytes_length]; omega),longAt_store,e4]
  · rw [longAt_congr fun a _ ha => hrest a (by omega),longAt_store,e3]
  · intro i hi hlt
    rw [longAt_congr fun a _ ha => hrest a (by omega),
      longAt_store_separate (by unfold Separate; rw [leBytes_length]; omega),
      longAt_store_separate (by unfold Separate; rw [leBytes_length]; omega),
      longAt_zeroed fun a ha _ => hz a (by omega) (by omega)]
  · intro i hi
    rw [entries_toNat hv] at hwords
    rw [hwords i hi,pdEntry_toNat (by omega)]

/-- Writing the page tables into zeroed memory always succeeds. -/
theorem setupPageTables_mapped {config : DeviceConfig} {memory : GuestMemory}
    (hv : config.validate=.ok ()) (hm : memory.size=config.memSize)
    (hz : ∀ a, memory.byte a=0) :
    ∃ tables, setupPageTables config memory=.ok () tables ∧
      Mapped (min ((config.ramMb.toNat+1)/2) 512) tables :=
  setupPageTables_maps hv hm fun a _ _ => hz a

/-- The page-table root of long mode is the top-level table. -/
theorem longMode_root (sregs : Sregs) : field (longMode sregs).cr3.toNat 12 40*2^12=0x70000 := by
  change field pml4Addr.toNat 12 40*2^12=0x70000
  decide

/-- An entry whose word is present and writable. -/
theorem tableEntry_some {memory : GuestMemory} {table index e : ℕ}
    (hs : table+8*index+8 ≤ memory.size.toNat) (he : longAt memory (table+8*index)=e)
    (hp : field e 0 1=1) (hw : field e 1 1=1) : tableEntry memory table index=some e := by
  unfold tableEntry
  dsimp only
  rw [if_pos hs,he,if_pos ⟨hp,hw⟩]

/-- A zero entry ends the walk. -/
theorem tableEntry_zero {memory : GuestMemory} {table index : ℕ}
    (he : longAt memory (table+8*index)=0) : tableEntry memory table index=none := by
  have hz : ¬(field 0 0 1=1 ∧ field 0 1 1=1) := by decide
  unfold tableEntry
  dsimp only
  rw [he,if_neg hz]
  split <;> rfl

/-- The walk reaches the second table for every address below 512 gibibytes. -/
theorem walk_pml4 {entries : ℕ} {tables : GuestMemory} (h : Mapped entries tables) {addr : ℕ}
    (ha : addr < 2^39) :
    walk tables addr [39,30,21,12] 0x70000=walk tables addr [30,21,12] 0x71000 := by
  have hi : field addr 39 9=0 := by
    unfold field
    omega
  have hsize := h.size
  have he := tableEntry_some (by omega) (show longAt tables (0x70000+8*0)=0x71003 from h.pml4)
    (by decide) (by decide)
  have hleaf : ¬((39 : ℕ)=12 ∨ ((39 : ℕ)≠39 ∧ field 0x71003 7 1=1)) := by decide
  have hnext : field 0x71003 12 40*2^12=0x71000 := by decide
  rw [walk,hi,he]
  dsimp only
  rw [if_neg hleaf,hnext]

/-- Below one gibibyte the walk goes on to the directory. -/
theorem walk_pdpt {entries : ℕ} {tables : GuestMemory} (h : Mapped entries tables) {addr : ℕ}
    (ha : addr < 2^30) : walk tables addr [30,21,12] 0x71000=walk tables addr [21,12] 0x72000 := by
  have hi : field addr 30 9=0 := by
    unfold field
    omega
  have hsize := h.size
  have he := tableEntry_some (by omega) (show longAt tables (0x71000+8*0)=0x72003 from h.pdpt)
    (by decide) (by decide)
  have hleaf : ¬((30 : ℕ)=12 ∨ ((30 : ℕ)≠39 ∧ field 0x72003 7 1=1)) := by decide
  have hnext : field 0x72003 12 40*2^12=0x72000 := by decide
  rw [walk,hi,he]
  dsimp only
  rw [if_neg hleaf,hnext]

/-- A filled directory entry maps its page to itself. -/
theorem walk_pd {entries : ℕ} {tables : GuestMemory} (h : Mapped entries tables) {addr : ℕ}
    (ha : addr < 2^30) (hf : addr/2^21 < entries) :
    walk tables addr [21,12] 0x72000=some addr := by
  have hi : field addr 21 9=addr/2^21 := by
    unfold field
    omega
  have hsize := h.size
  have hlt : addr/2^21 < 512 := by omega
  have he := tableEntry_some (by omega) (h.pd (addr/2^21) hf)
    (by unfold field; omega) (by unfold field; omega)
  have hleaf : (21 : ℕ)=12 ∨ ((21 : ℕ)≠39 ∧ field (addr/2^21*2^21+0x83) 7 1=1) := by
    refine Or.inr ⟨by decide,?_⟩
    unfold field
    omega
  have hbase : field (addr/2^21*2^21+0x83) 21 (52-21)=addr/2^21 := by
    unfold field
    omega
  rw [walk,hi,he]
  dsimp only
  rw [if_pos hleaf,hbase]
  congr 1
  omega

/-- One gibibyte up, the second table has no entry. -/
theorem walk_beyond {entries : ℕ} {tables : GuestMemory} (h : Mapped entries tables) :
    walk tables (2^30) [30,21,12] 0x71000=none := by
  have hi : field (2^30) 30 9=1 := by decide
  rw [walk,hi,tableEntry_zero (h.empty 1 (by decide) (by decide))]

/-- Every address of guest RAM is mapped to itself. -/
def IdentityMapped (config : DeviceConfig) (tables : GuestMemory) (cr3 : ℕ) : Prop :=
  ∀ addr, addr < config.ramMb.toNat*2^20 → translate tables cr3 addr=some addr

/-- On a created machine the page tables can always be written, and with the
root that long mode uses they map all of guest RAM to itself exactly when
there is at most one gibibyte of it. -/
theorem identity_map_iff {kvm : KvmAnswers} {host : HostAnswers} {config : DeviceConfig}
    {machine : VirtualMachine} (h : VirtualMachine.new kvm host config=.ok machine) :
    ∃ tables, setupPageTables machine.config machine.guestMemory=.ok () tables ∧
      ∀ sregs, IdentityMapped config tables (longMode sregs).cr3.toNat ↔
        config.ramMb.toNat ≤ 1024 := by
  have hc := new_created h
  obtain ⟨-,hmax,-,-⟩ := (validate_ok_iff config).mp hc.valid
  obtain ⟨tables,hrun,hmapped⟩ := setupPageTables_mapped hc.valid hc.size hc.zeroed
  refine ⟨tables,by rw [hc.config_eq]; exact hrun,fun sregs => ?_⟩
  unfold IdentityMapped translate
  rw [longMode_root]
  constructor
  · intro hall
    by_contra hbig
    have hbeyond := hall (2^30) (by omega)
    rw [walk_pml4 hmapped (by norm_num),walk_beyond hmapped] at hbeyond
    cases hbeyond
  · intro hsmall addr ha
    rw [walk_pml4 hmapped (by omega),walk_pdpt hmapped (by omega)]
    exact walk_pd hmapped (by omega) (by omega)

/-- The criterion holds of a machine with the minimum RAM size. -/
theorem identity_map_iff_minimum :
    ∃ machine, VirtualMachine.new willingKvm willingHost (plainConfig minRamMb)=.ok machine ∧
      ∃ tables, setupPageTables machine.config machine.guestMemory=.ok () tables ∧
        ∀ sregs, IdentityMapped (plainConfig minRamMb) tables (longMode sregs).cr3.toNat := by
  obtain ⟨machine,h⟩ : ∃ machine, VirtualMachine.new willingKvm willingHost
      (plainConfig minRamMb)=.ok machine := ⟨_,rfl⟩
  obtain ⟨tables,hrun,hiff⟩ := identity_map_iff h
  exact ⟨machine,h,tables,hrun,fun sregs => (hiff sregs).mpr (by decide)⟩

/-- With the default RAM size the address one gibibyte up has no translation. -/
theorem default_ram_unmapped :
    (plainConfig defaultRamMb).validate=.ok () ∧
      ∃ machine, VirtualMachine.new willingKvm willingHost (plainConfig defaultRamMb)=.ok machine ∧
        ∃ tables, setupPageTables machine.config machine.guestMemory=.ok () tables ∧
          ∀ sregs, translate tables (longMode sregs).cr3.toNat (2^30)=none ∧
            ¬IdentityMapped (plainConfig defaultRamMb) tables (longMode sregs).cr3.toNat := by
  obtain ⟨machine,h⟩ : ∃ machine, VirtualMachine.new willingKvm willingHost
      (plainConfig defaultRamMb)=.ok machine := ⟨_,rfl⟩
  have hc := new_created h
  obtain ⟨tables,hrun,hmapped⟩ := setupPageTables_mapped hc.valid hc.size hc.zeroed
  refine ⟨by decide,machine,h,tables,by rw [hc.config_eq]; exact hrun,fun sregs => ?_⟩
  have hnone : translate tables (longMode sregs).cr3.toNat (2^30)=none := by
    unfold translate
    rw [longMode_root,walk_pml4 hmapped (by norm_num),walk_beyond hmapped]
  refine ⟨hnone,fun hall => ?_⟩
  have hsome := hall (2^30) (by decide)
  rw [hnone] at hsome
  cases hsome

end LiteDroid.VmmPageTables
