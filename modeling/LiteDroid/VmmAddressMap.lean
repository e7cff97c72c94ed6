import LiteDroid.VmmMachine

/-!
# The guest-physical address map

A created machine has one memory slot, from address zero to its RAM size.
The block device's registers and the pages reserved for the hypervisor lie
at fixed addresses below four gibibytes. Accepted RAM sizes go up to eight.
-/

namespace LiteDroid.VmmAddressMap

open ByteRange CoreResults CoreDeviceConfig KvmHost MemoryRegion StorageImage VmmBlockDevice
open VmmMachine

/-- An address lies in a memory slot. -/
def Contains (slot : MemorySlot) (addr : UInt64) : Prop :=
  slot.guestPhysAddr.toNat ≤ addr.toNat ∧
    addr.toNat < slot.guestPhysAddr.toNat+slot.memorySize.toNat

/-- The hypervisor hands an access to the run loop when no slot holds its address. -/
def Exits (vm : Vm) (addr : UInt64) : Prop := ∀ slot∈vm.slots, ¬Contains slot addr

/-- A slot has no address in common with a range. -/
def Clear (slot : MemorySlot) (start len : ℕ) : Prop :=
  Separate slot.guestPhysAddr.toNat slot.memorySize.toNat start len

/-- Every guest-physical address means one thing. -/
structure Unambiguous (vm : Vm) : Prop where
  /-- RAM is clear of the registers of the block device. -/
  window : ∀ slot∈vm.slots, Clear slot virtioMmioStart.toNat virtioMmioSize.toNat
  /-- RAM is clear of the three task-state pages. -/
  tss : ∀ addr, vm.tssAddr=some addr → ∀ slot∈vm.slots, Clear slot addr.toNat (3*4096)
  /-- RAM is clear of the identity-map page. -/
  identity : ∀ addr, vm.identityMapAddr=some addr → ∀ slot∈vm.slots, Clear slot addr.toNat 4096
  /-- Every access to a register reaches the run loop. -/
  exits : ∀ addr, routed addr → Exits vm addr

/-- The registers of the block device are the window's addresses. -/
theorem routed_iff (addr : UInt64) :
    routed addr ↔ virtioMmioStart.toNat ≤ addr.toNat ∧
      addr.toNat < virtioMmioStart.toNat+virtioMmioSize.toNat := by
  have hend : (virtioMmioStart+virtioMmioSize).toNat=
      virtioMmioStart.toNat+virtioMmioSize.toNat := by decide
  unfold routed
  rw [UInt64.le_iff_toNat_le,UInt64.lt_iff_toNat_lt,hend]

/-- A slot that is clear of the window holds no register. -/
theorem clear_exits {vm : Vm}
    (h : ∀ slot∈vm.slots, Clear slot virtioMmioStart.toNat virtioMmioSize.toNat) (addr : UInt64)
    (hr : routed addr) : Exits vm addr := by
  intro slot hm hc
  have hs := h slot hm
  have hw := (routed_iff addr).mp hr
  unfold Clear Separate at hs
  unfold Contains at hc
  have hpos : virtioMmioSize.toNat=512 := by decide
  omega

/-- A created machine's address map is unambiguous exactly when its RAM ends
below the registers of the block device, 4074 mebibytes up. -/
theorem address_map_iff {kvm : KvmAnswers} {host : HostAnswers} {config : DeviceConfig}
    {machine : VirtualMachine} (h : VirtualMachine.new kvm host config=.ok machine) :
    Unambiguous machine.vm ↔ config.ramMb.toNat ≤ 4074 := by
  have hc := new_created h
  have hsize := memSize_toNat hc.valid
  obtain ⟨hmin,-,-,-⟩ := (validate_ok_iff config).mp hc.valid
  have hstart : virtioMmioStart.toNat=4074*2^20 := by decide
  have hlen : virtioMmioSize.toNat=512 := by decide
  have hclear : ∀ start len, 0 < len →
      ((∀ slot∈machine.vm.slots, Clear slot start len) ↔ config.ramMb.toNat*2^20 ≤ start) := by
    intro start len hpos
    rw [hc.slots]
    simp only [List.mem_singleton,forall_eq,Clear,Separate,UInt64.reduceToNat]
    omega
  have hwindow := hclear virtioMmioStart.toNat virtioMmioSize.toNat (by omega)
  constructor
  · intro hu
    have := hwindow.mp hu.window
    omega
  · intro hr
    have hall := hwindow.mpr (by omega)
    refine ⟨hall,?_,?_,clear_exits hall⟩
    · intro addr ha
      rw [hc.tss] at ha
      obtain rfl := Option.some.inj ha
      exact (hclear _ _ (by omega)).mpr (by simp only [UInt64.reduceToNat]; omega)
    · intro addr ha
      rw [hc.identity] at ha
      obtain rfl := Option.some.inj ha
      exact (hclear _ _ (by omega)).mpr (by simp only [UInt64.reduceToNat]; omega)

/-- A machine of the default RAM size can be created, and its address map is
unambiguous. -/
theorem address_map_iff_default :
    ∃ machine, VirtualMachine.new willingKvm willingHost (plainConfig defaultRamMb)=.ok machine ∧
      Unambiguous machine.vm := by
  obtain ⟨machine,h⟩ : ∃ machine, VirtualMachine.new willingKvm willingHost
      (plainConfig defaultRamMb)=.ok machine := ⟨_,rfl⟩
  exact ⟨machine,h,(address_map_iff h).mpr (by decide)⟩

/-- The smallest RAM size whose slot covers the registers of the block device
is accepted and created: accesses to them never leave the guest. -/
theorem large_ram_hides_registers :
    (plainConfig 4075).validate=.ok () ∧
      ∃ machine, VirtualMachine.new willingKvm willingHost (plainConfig 4075)=.ok machine ∧
        ¬Unambiguous machine.vm ∧ routed 0xfea00000 ∧ ¬Exits machine.vm 0xfea00000 := by
  obtain ⟨machine,h⟩ : ∃ machine, VirtualMachine.new willingKvm willingHost
      (plainConfig 4075)=.ok machine := ⟨_,rfl⟩
  have hin : ¬Exits machine.vm 0xfea00000 := by
    unfold Exits
    rw [(new_created h).slots]
    intro hall
    exact hall _ List.mem_cons_self ⟨by decide,by decide⟩
  have hr : routed 0xfea00000 := by decide
  exact ⟨by decide,machine,h,fun hu => hin (hu.exits _ hr),hr,hin⟩

end LiteDroid.VmmAddressMap
