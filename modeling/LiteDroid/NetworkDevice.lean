import LiteDroid.DevicesBus
import LiteDroid.NetworkTap
import Mathlib.Data.List.Induction
import Mathlib.Tactic.IntervalCases

/-!
# The virtio network device

The configuration space of the network device is its hardware address. The
device folds the address into a number with the first byte as the most
significant one, and the register's bytes are then taken in the byte order of
the guest, which is little endian. The register matches its first offset only.
-/

namespace LiteDroid.NetworkDevice

open CoreResults LittleEndian NetworkTap DevicesBus

/-- The magic value register. -/
def virtioNetMagic : UInt32 := 0x74726976

/-- The version register. -/
def virtioNetVersion : UInt32 := 2

/-- The device type of a network device. -/
def virtioIdNet : UInt32 := 1

/-- A hardware address. -/
structure MacAddress where
  /-- First byte. -/
  m0 : UInt8
  /-- Second byte. -/
  m1 : UInt8
  /-- Third byte. -/
  m2 : UInt8
  /-- Fourth byte. -/
  m3 : UInt8
  /-- Fifth byte. -/
  m4 : UInt8
  /-- Sixth byte. -/
  m5 : UInt8
  deriving DecidableEq, Repr

/-- The bytes in wire order. -/
def MacAddress.bytes (mac : MacAddress) : List UInt8 := [mac.m0,mac.m1,mac.m2,mac.m3,mac.m4,mac.m5]

/-- The network device. -/
structure VirtioNetDevice where
  /-- The tap interface behind it. -/
  tap : TapInterface
  /-- Its hardware address. -/
  macAddress : MacAddress
  /-- Device status register. -/
  status : UInt32

/-- A device over a tap interface. -/
def VirtioNetDevice.new (tap : TapInterface) (macAddress : MacAddress) : VirtioNetDevice :=
  ⟨tap,macAddress,0⟩

/-- The hardware address folded into a register. -/
def VirtioNetDevice.macAsU64 (device : VirtioNetDevice) : UInt64 :=
  device.macAddress.bytes.foldl (fun (v : UInt64) (b : UInt8) => v<<<8|||b.toUInt64) 0

/-- Read a register. The access size does not matter. -/
def VirtioNetDevice.mmioRead (device : VirtioNetDevice) (offset : UInt64) (_size : UInt32) :
    UInt64 :=
  if offset=0x00 then virtioNetMagic.toUInt64
  else if offset=0x04 then virtioNetVersion.toUInt64
  else if offset=0x08 then virtioIdNet.toUInt64
  else if offset=0x0c then 0
  else if offset=0x24 then 1
  else if offset=0x30 then device.status.toUInt64
  else if offset=0x100 then device.macAsU64
  else 0

/-- Write a register. A queue notification is only logged. -/
def VirtioNetDevice.mmioWrite (device : VirtioNetDevice) (offset : UInt64) (_size : UInt32)
    (value : UInt64) : VirtioNetDevice :=
  if offset=0x30 then {device with status := value.toUInt32} else device

instance : VirtDevice VirtioNetDevice where
  name _ := "virtio-net"
  deviceType _ := "net"
  mmioRead device offset size := (.ok (device.mmioRead offset size),device)
  mmioWrite device offset size value := (.ok (),device.mmioWrite offset size value)
  reset device := (.ok (),{device with status := 0})
  deviceTreeCompatible _ := "virtio,net"

/-- The bytes with which an access to a register is completed. -/
def registerBytes (value : UInt64) (len : ℕ) : List UInt8 := (leBytes 8 value.toNat).take len

/-- A read of a device on a bus completes with some bytes. -/
def Yields (device : VirtioNetDevice) (offset : UInt64) (size : UInt32) (bytes : List UInt8) :
    Prop :=
  ∃ value, (VirtDevice.mmioRead device offset size).1=.ok value ∧
    registerBytes value size.toNat=bytes

/-- The hardware address appears in wire order, byte by byte and in one read. -/
structure InWireOrder (device : VirtioNetDevice) : Prop where
  /-- Each byte is read at its offset. -/
  bytewise : ∀ k < 6, Yields device (0x100+UInt64.ofNat k) 1
    ((device.macAddress.bytes.drop k).take 1)
  /-- All of them are read at the first one, and two zeros. -/
  wide : Yields device 0x100 8 (device.macAddress.bytes++[0,0])

/-- Folding bytes into a register gives the number whose most significant byte
comes first. -/
theorem fold_toNat (bytes : List UInt8) (h : bytes.length ≤ 8) :
    (bytes.foldl (fun (v : UInt64) (b : UInt8) => v<<<8|||b.toUInt64) 0).toNat=beNat bytes := by
  induction bytes using List.reverseRecOn with
  | nil => rfl
  | append_singleton front byte ih =>
    rw [List.length_append,List.length_singleton] at h
    have hfront := ih (by omega)
    have hlt : beNat front < 256^7 :=
      Nat.lt_of_lt_of_le (beNat_lt front) (Nat.pow_le_pow_right (by decide) (by omega))
    have hbyte := byte.toNat_lt
    rw [List.foldl_append,List.foldl_cons,List.foldl_nil,beNat_snoc,UInt64.toNat_or,
      UInt64.toNat_shiftLeft,hfront,UInt8.toNat_toUInt64]
    have hshift : beNat front<<<8 < 2^64 := by
      rw [Nat.shiftLeft_eq]
      omega
    have height : (8 : UInt64).toNat%64=8 := rfl
    rw [height,Nat.mod_eq_of_lt hshift,← Nat.shiftLeft_add_eq_or_of_lt hbyte,Nat.shiftLeft_eq]
    omega

/-- The register of the hardware address holds its bytes the other way round. -/
theorem macAsU64_bytes (device : VirtioNetDevice) :
    leBytes 8 device.macAsU64.toNat=device.macAddress.bytes.reverse++[0,0] := by
  have hsix : device.macAddress.bytes.length=6 := rfl
  have hvalue : device.macAsU64.toNat=beNat device.macAddress.bytes :=
    fold_toNat device.macAddress.bytes (by omega)
  have hlt : beNat device.macAddress.bytes < 256^6 := beNat_lt device.macAddress.bytes
  have hlow : (leBytes 8 (beNat device.macAddress.bytes)).take 6=
      device.macAddress.bytes.reverse := by
    rw [leBytes_take _ (by decide)]
    exact leBytes_beNat device.macAddress.bytes
  have hhigh : (leBytes 8 (beNat device.macAddress.bytes)).drop 6=[0,0] := by
    rw [leBytes_drop,Nat.div_eq_of_lt hlt]
    rfl
  rw [hvalue,← List.take_append_drop 6 (leBytes 8 (beNat device.macAddress.bytes)),hlow,hhigh]

/-- The configuration space answers at its first offset only. -/
theorem mmioRead_config (device : VirtioNetDevice) {k : ℕ} (h : k < 6) (size : UInt32) :
    device.mmioRead (0x100+UInt64.ofNat k) size=if k=0 then device.macAsU64 else 0 := by
  interval_cases k <;> rfl

/-- What a read completes with are the bytes of its register. -/
theorem yields_iff (device : VirtioNetDevice) (offset : UInt64) (size : UInt32)
    (bytes : List UInt8) :
    Yields device offset size bytes ↔
      registerBytes (device.mmioRead offset size) size.toNat=bytes := by
  constructor
  · rintro ⟨value,hvalue,hbytes⟩
    rwa [← Except.ok.inj hvalue] at hbytes
  · intro h
    exact ⟨_,rfl,h⟩

/-- One byte that is read at the first offset is the last one of the address. -/
theorem first_byte_iff (device : VirtioNetDevice) :
    Yields device (0x100+UInt64.ofNat 0) 1 (device.macAddress.bytes.take 1) ↔
      device.macAddress.m0=device.macAddress.m5 := by
  have hone : (1 : UInt32).toNat=1 := rfl
  rw [yields_iff,mmioRead_config device (by decide),if_pos rfl,registerBytes,macAsU64_bytes,hone]
  simp only [MacAddress.bytes,List.reverse_cons,List.reverse_nil,List.nil_append,List.cons_append,
    List.take_succ_cons,List.take_zero,List.cons.injEq,and_true]
  exact eq_comm

/-- One byte that is read behind the first offset is zero. -/
theorem later_byte_iff (device : VirtioNetDevice) {k : ℕ} (hpos : 0 < k) (h : k < 6)
    (byte : UInt8) : Yields device (0x100+UInt64.ofNat k) 1 [byte] ↔ byte=0 := by
  have hzero : registerBytes 0 (1 : UInt32).toNat=[0] := by decide
  rw [yields_iff,mmioRead_config device h,if_neg (by omega),hzero,List.singleton_inj]
  exact eq_comm

/-- Eight bytes that are read at the first offset are the address and two zeros
exactly when the address reads the same both ways. -/
theorem wide_read_iff (device : VirtioNetDevice) :
    Yields device 0x100 8 (device.macAddress.bytes++[0,0]) ↔
      device.macAddress.bytes.reverse=device.macAddress.bytes := by
  have hconfig := mmioRead_config device (by decide : 0 < 6) 8
  have hall : registerBytes device.macAsU64 (8 : UInt32).toNat=
      device.macAddress.bytes.reverse++[0,0] := by
    rw [registerBytes,macAsU64_bytes]
    rfl
  change device.mmioRead 0x100 8=device.macAsU64 at hconfig
  rw [yields_iff,hconfig,hall,List.append_left_inj]

/-- Byte by byte the hardware address is read in wire order exactly when it is zero. -/
theorem bytewise_iff (device : VirtioNetDevice) :
    (∀ k < 6, Yields device (0x100+UInt64.ofNat k) 1
      ((device.macAddress.bytes.drop k).take 1)) ↔ ∀ byte∈device.macAddress.bytes, byte=0 := by
  have hbytes : device.macAddress.bytes=[device.macAddress.m0,device.macAddress.m1,
    device.macAddress.m2,device.macAddress.m3,device.macAddress.m4,device.macAddress.m5] := rfl
  constructor
  · intro h
    have hfirst := (first_byte_iff device).mp (h 0 (by decide))
    have hlater : ∀ k byte, 0 < k → k < 6 → (device.macAddress.bytes.drop k).take 1=[byte] →
        byte=0 := by
      intro k byte hpos hk hbyte
      have hyields := h k hk
      rw [hbyte] at hyields
      exact (later_byte_iff device hpos hk byte).mp hyields
    have hlast := hlater 5 device.macAddress.m5 (by decide) (by decide) rfl
    rw [hbytes]
    simp only [List.forall_mem_cons]
    exact ⟨hfirst.trans hlast,hlater 1 _ (by decide) (by decide) rfl,
      hlater 2 _ (by decide) (by decide) rfl,hlater 3 _ (by decide) (by decide) rfl,
      hlater 4 _ (by decide) (by decide) rfl,hlast,List.forall_mem_nil _⟩
  · intro h k hk
    have hzeros : device.macAddress.bytes=List.replicate 6 0 :=
      List.eq_replicate_iff.mpr ⟨rfl,h⟩
    have hbyte : (device.macAddress.bytes.drop k).take 1=[0] := by
      rw [hzeros,List.drop_replicate,List.take_replicate,Nat.min_eq_left (by omega)]
      rfl
    rw [hbyte]
    by_cases hpos : 0 < k
    · exact (later_byte_iff device hpos hk 0).mpr rfl
    · obtain rfl := Nat.eq_zero_of_not_pos hpos
      have hfirst := (first_byte_iff device).mpr
        ((h _ (by rw [hbytes]; simp)).trans (h _ (by rw [hbytes]; simp)).symm)
      rwa [hzeros] at hfirst

/-- The hardware address appears in wire order exactly when it is zero. -/
theorem mac_wire_order_iff (device : VirtioNetDevice) :
    InWireOrder device ↔ ∀ byte∈device.macAddress.bytes, byte=0 := by
  constructor
  · intro h
    exact (bytewise_iff device).mp h.bytewise
  · intro h
    refine ⟨(bytewise_iff device).mpr h,?_⟩
    have hzeros : device.macAddress.bytes=List.replicate 6 0 :=
      List.eq_replicate_iff.mpr ⟨rfl,h⟩
    rw [wide_read_iff,hzeros]
    exact List.reverse_replicate

/-- The device with the hardware address 52:54:00:12:34:56. -/
def sampleDevice : VirtioNetDevice := .new ⟨3,"litedroid-tap0"⟩ ⟨0x52,0x54,0,0x12,0x34,0x56⟩

/-- Its first byte is read as 0x56, its second one as zero, and all of them come
the other way round. -/
theorem sample_address_reversed :
    registerBytes (sampleDevice.mmioRead 0x100 1) 1=[0x56] ∧
      registerBytes (sampleDevice.mmioRead 0x101 1) 1=[0] ∧
      registerBytes (sampleDevice.mmioRead 0x100 8) 8=[0x56,0x34,0x12,0,0x54,0x52,0,0] ∧
      ¬InWireOrder sampleDevice := by
  refine ⟨by decide +kernel,by decide +kernel,by decide +kernel,?_⟩
  intro h
  have hfirst := (first_byte_iff sampleDevice).mp (h.bytewise 0 (by decide))
  exact absurd hfirst (by decide)

end LiteDroid.NetworkDevice
