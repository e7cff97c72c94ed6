import LiteDroid.VmmBlockDevice
import Mathlib.Tactic.NormNum

/-!
# Addresses of the queue areas

The queue page, the descriptor table, the head read by the loop and the used
ring, as natural addresses. No sum in them wraps: the page number has 32
bits, so the queue starts below 2 to the 44 and every offset added to it is
far smaller than the rest of the word.
-/

namespace LiteDroid.VmmQueueLayout

open CoreResults MemoryRegion VmmBlockDevice LittleEndian ByteRange

/-- Masking off the low twelve bits of a 64-bit number rounds it down to a page. -/
theorem and_pageMask {n : ℕ} (h : n < 2^64) : n&&&(2^52-1)*2^12=n/2^12*2^12 := by
  apply Nat.eq_of_testBit_eq
  intro i
  rw [Nat.testBit_and,Nat.testBit_mul_two_pow,Nat.testBit_two_pow_sub_one,
    Nat.testBit_mul_two_pow,Nat.testBit_div_two_pow]
  by_cases hi : 12 ≤ i
  · have he : i-12+12=i := by omega
    have hlt : n.testBit i=true → i < 64 := by
      intro hb
      by_contra hc
      have hp : 2^64 ≤ 2^i := Nat.pow_le_pow_right (by decide) (by omega)
      have hge := Nat.ge_two_pow_of_testBit hb
      omega
    cases hb : n.testBit i with
    | false => simp [he,hb]
    | true =>
      have := hlt hb
      simp [hi,he,hb]
      omega
  · simp [hi]

/-- Rounding up to a page computes the next multiple of 4096. -/
theorem alignUp_toNat {value : UInt64} (h : value.toNat+4095 < 2^64) :
    (alignUp value 4096).toNat=(value.toNat+4095)/4096*4096 := by
  have hv : (value+4096-1).toNat=value.toNat+4095 := by
    simp only [UInt64.toNat_sub,UInt64.toNat_add,UInt64.reduceToNat]
    omega
  have hm : (~~~((4096 : UInt64)-1)).toNat=(2^52-1)*2^12 := by decide
  unfold alignUp
  rw [UInt64.toNat_and,hm,hv,and_pageMask h]
  norm_num

/-- The queue starts at its page number times the page size. -/
theorem queue_toNat (device : VirtioBlock) : device.queue.toNat=device.queuePfn.toNat*4096 := by
  have h := device.queuePfn.toNat_lt
  simp only [VirtioBlock.queue,UInt64.toNat_shiftLeft,UInt32.toNat_toUInt64,UInt64.reduceToNat,
    Nat.shiftLeft_eq]
  norm_num
  omega

/-- The queue starts below 2 to the 44. -/
theorem queue_lt (device : VirtioBlock) : device.queue.toNat < 2^44 := by
  have h := device.queuePfn.toNat_lt
  rw [queue_toNat]
  omega

/-- The natural address of the used ring for a queue page and size. -/
def usedStart (device : VirtioBlock) : ℕ :=
  (device.queue.toNat+18*device.queueNum.toNat+4+4095)/4096*4096

/-- The device computes the used ring without wrapping. -/
theorem usedRing_toNat (device : VirtioBlock) :
    (usedRing device.queueNum device.queue).toNat=usedStart device := by
  have hq := queue_lt device
  have hn := device.queueNum.toNat_lt
  have hv : (device.queue+16*device.queueNum.toUInt64+4+2*device.queueNum.toUInt64).toNat=
      device.queue.toNat+18*device.queueNum.toNat+4 := by
    simp only [UInt64.toNat_add,UInt64.toNat_mul,UInt16.toNat_toUInt64,UInt64.reduceToNat]
    omega
  unfold usedRing usedStart
  rw [alignUp_toNat (by omega),hv]

/-- The used ring starts below 2 to the 45. -/
theorem usedStart_lt (device : VirtioBlock) : usedStart device < 2^45 := by
  have hq := queue_lt device
  have hn := device.queueNum.toNat_lt
  unfold usedStart
  omega

/-- The used ring lies behind the descriptor table and the available ring. -/
theorem usedStart_ge (device : VirtioBlock) :
    device.queue.toNat+18*device.queueNum.toNat+4 ≤ usedStart device := by
  unfold usedStart
  omega

/-- The index of the available ring, as the loop reads it. -/
theorem indexAddr_toNat (device : VirtioBlock) : (device.queue+2).toNat=device.queue.toNat+2 := by
  have hq := queue_lt device
  simp only [UInt64.toNat_add,UInt64.reduceToNat]
  omega

/-- The head of the next entry, as the loop reads it. -/
theorem headAddr_toNat (device : VirtioBlock) :
    device.headAddr.toNat=
      device.queue.toNat+4+2*(device.lastAvail.toNat%device.queueNum.toNat) := by
  have hq := queue_lt device
  have hl := device.lastAvail.toNat_lt
  have hm := Nat.mod_le device.lastAvail.toNat device.queueNum.toNat
  simp only [VirtioBlock.headAddr,UInt64.toNat_add,UInt64.toNat_mul,UInt16.toNat_toUInt64,
    UInt16.toNat_mod,UInt64.reduceToNat]
  omega

/-- A small constant added to the used ring does not wrap. -/
theorem usedOffset_toNat (device : VirtioBlock) {k : UInt64} (hk : k.toNat ≤ 16) :
    (usedRing device.queueNum device.queue+k).toNat=usedStart device+k.toNat := by
  have hu := usedStart_lt device
  rw [UInt64.toNat_add,usedRing_toNat]
  omega

/-- The two halves of a used element do not wrap. -/
theorem usedElement_toNat (device : VirtioBlock) (slot : UInt16) {k : UInt64} (hk : k.toNat ≤ 16) :
    (usedRing device.queueNum device.queue+k+slot.toUInt64*8).toNat=
      usedStart device+k.toNat+8*slot.toNat := by
  have hu := usedStart_lt device
  have hs := slot.toNat_lt
  rw [UInt64.toNat_add,usedOffset_toNat device hk]
  simp only [UInt64.toNat_mul,UInt16.toNat_toUInt64,UInt64.reduceToNat]
  omega

/-- The 16-bit word stored at a natural address. -/
def wordAt (memory : GuestMemory) (addr : ℕ) : UInt16 :=
  UInt16.ofNat (leNat (slice memory.byte addr 2))

/-- A 16-bit read inside guest memory is the stored word. -/
theorem guestU16_fits {memory : GuestMemory} {addr : UInt64} (h : Fits memory addr 2) :
    guestU16 memory addr=.ok (wordAt memory addr.toNat) := by
  unfold guestU16
  rw [readGuest_fits h]
  rfl

/-- A 16-bit read that leaves guest memory is an error value. -/
theorem guestU16_not_fits {memory : GuestMemory} {addr : UInt64} (h : ¬Fits memory addr 2) :
    guestU16 memory addr=.error (.error (.guestAddressOutOfRange addr)) := by
  unfold guestU16
  rw [readGuest_eq,if_neg h]
  rfl

end LiteDroid.VmmQueueLayout
