import LiteDroid.VmmBlockDevice

/-!
# The bus of virtual devices

Devices of any behaviour stand on a bus in the order they were added, each with
a window of its own in the guest's physical memory. An access is routed by the
quotient of its distance from the start of the first window, and the device is
given the remainder. Every address lies in the window of one device at most, and
an access changes no other device.
-/

namespace LiteDroid.DevicesBus

open CoreResults
open VmmBlockDevice (virtioMmioStart virtioMmioSize)

/-- The number of devices that a bus takes. -/
def maxVirtioDevices : ℕ := 16

universe u

/-- A virtual device. Its methods may panic, and leave the device changed then. -/
class VirtDevice (δ : Type u) where
  /-- Name. -/
  name : δ → String
  /-- Kind of device. -/
  deviceType : δ → String
  /-- Read a register at an offset, with an access size. -/
  mmioRead : δ → UInt64 → UInt32 → Outcome UInt64×δ
  /-- Write a register at an offset, with an access size and a value. -/
  mmioWrite : δ → UInt64 → UInt32 → UInt64 → Outcome Unit×δ
  /-- Reset the device. -/
  reset : δ → Outcome Unit×δ
  /-- Name in a device tree. -/
  deviceTreeCompatible : δ → String

/-- The devices of a bus. -/
structure VirtioBus (δ : Type u) where
  /-- The devices, in the order they were added. -/
  devices : List δ
  /-- There are not too many. -/
  devices_le : devices.length ≤ maxVirtioDevices

variable {δ : Type u} {α : Type}

/-- A bus without devices. -/
def VirtioBus.new : VirtioBus δ := ⟨[],Nat.zero_le _⟩

/-- The number of devices on a bus. -/
def VirtioBus.deviceCount (bus : VirtioBus δ) : ℕ := bus.devices.length

/-- The result of adding a device, and the bus afterwards. -/
structure AddReport (δ : Type u) where
  /-- The result. -/
  outcome : Outcome Unit
  /-- The bus. -/
  bus : VirtioBus δ

/-- Add a device behind the others. -/
def VirtioBus.addDevice (bus : VirtioBus δ) (device : δ) : AddReport δ :=
  if h : maxVirtioDevices ≤ bus.devices.length then
    ⟨.error (.error (.deviceAlreadyExists "maximum device count reached")),bus⟩
  else ⟨.ok (),⟨bus.devices++[device],by
    rw [List.length_append,List.length_singleton]
    omega⟩⟩

/-- What an access did. -/
structure BusReport (δ : Type u) (α : Type) where
  /-- The index of the device it reached and the offset it was given. -/
  reached : Option (ℕ×UInt64)
  /-- Its result. -/
  outcome : Outcome α
  /-- The bus afterwards. -/
  bus : VirtioBus δ

/-- A bus with one of its devices changed. -/
def VirtioBus.replace (bus : VirtioBus δ) (index : ℕ) (device : δ) : VirtioBus δ :=
  ⟨bus.devices.set index device,by
    rw [List.length_set]
    exact bus.devices_le⟩

/-- Route an access to a device. An access that reaches none has a result of its own. -/
def VirtioBus.access (bus : VirtioBus δ) (address : UInt64) (idle : α)
    (call : δ → UInt64 → Outcome α×δ) : BusReport δ α :=
  if address < virtioMmioStart then ⟨none,.ok idle,bus⟩
  else
    let offset := address-virtioMmioStart
    let index := (offset/virtioMmioSize).toNat
    let regOffset := offset%virtioMmioSize
    match bus.devices[index]? with
    | some device =>
      let after := call device regOffset
      ⟨some (index,regOffset),after.1,bus.replace index after.2⟩
    | none => ⟨none,.ok idle,bus⟩

/-- Route a read. -/
def VirtioBus.read [VirtDevice δ] (bus : VirtioBus δ) (address : UInt64) (size : UInt32) :
    BusReport δ UInt64 :=
  bus.access address 0 fun device regOffset => VirtDevice.mmioRead device regOffset size

/-- Route a write. -/
def VirtioBus.write [VirtDevice δ] (bus : VirtioBus δ) (address : UInt64) (size : UInt32)
    (value : UInt64) : BusReport δ Unit :=
  bus.access address () fun device regOffset => VirtDevice.mmioWrite device regOffset size value

/-- The results of adding devices one after another, and the bus afterwards. -/
structure BuildReport (δ : Type u) where
  /-- The results. -/
  outcomes : List (Outcome Unit)
  /-- The bus. -/
  bus : VirtioBus δ

/-- Add devices one after another. -/
def VirtioBus.addDevices (bus : VirtioBus δ) : List δ → BuildReport δ
  | [] => ⟨[],bus⟩
  | device::rest =>
    let report := bus.addDevice device
    let later := report.bus.addDevices rest
    ⟨report.outcome::later.outcomes,later.bus⟩

/-- Reset devices one after another. A panic ends the call. -/
def resetDevices [VirtDevice δ] : List δ → Outcome Unit×List δ
  | [] => (.ok (),[])
  | device::rest =>
    let after := VirtDevice.reset device
    match after.1 with
    | .error fault => (.error fault,after.2::rest)
    | .ok () =>
      let later := resetDevices rest
      (later.1,after.2::later.2)

/-- Resetting keeps the number of devices. -/
theorem resetDevices_length [VirtDevice δ] (devices : List δ) :
    (resetDevices devices).2.length=devices.length := by
  induction devices with
  | nil => rfl
  | cons device rest ih =>
    rw [resetDevices]
    dsimp only
    split
    · rfl
    · simp only [List.length_cons,ih]

/-- Reset all devices. -/
def VirtioBus.resetAll [VirtDevice δ] (bus : VirtioBus δ) : Outcome Unit×VirtioBus δ :=
  ((resetDevices bus.devices).1,⟨(resetDevices bus.devices).2,by
    rw [resetDevices_length]
    exact bus.devices_le⟩)

/-- Where no device panics, every one is reset in its place. -/
theorem resetAll_ok [VirtDevice δ] (bus : VirtioBus δ)
    (h : ∀ device∈bus.devices, (VirtDevice.reset device).1=.ok ()) :
    bus.resetAll.1=.ok () ∧
      bus.resetAll.2.devices=bus.devices.map fun device => (VirtDevice.reset device).2 := by
  have hall : ∀ devices : List δ, (∀ device∈devices, (VirtDevice.reset device).1=.ok ()) →
      resetDevices devices=(.ok (),devices.map fun device => (VirtDevice.reset device).2) := by
    intro devices
    induction devices with
    | nil => exact fun _ => rfl
    | cons device rest ih =>
      intro hdevices
      obtain ⟨hfirst,hrest⟩ := List.forall_mem_cons.mp hdevices
      simp only [resetDevices,hfirst,ih hrest,List.map_cons]
  rw [VirtioBus.resetAll]
  dsimp only
  rw [hall bus.devices h]
  exact ⟨rfl,rfl⟩

/-- A bus that is full refuses a device and stays as it is. -/
theorem addDevice_full {bus : VirtioBus δ} (h : maxVirtioDevices ≤ bus.devices.length)
    (device : δ) : bus.addDevice device=
      ⟨.error (.error (.deviceAlreadyExists "maximum device count reached")),bus⟩ := dif_pos h

/-- A bus with room takes a device behind the others. -/
theorem addDevice_room {bus : VirtioBus δ} (h : bus.devices.length < maxVirtioDevices)
    (device : δ) : (bus.addDevice device).outcome=.ok () ∧
      (bus.addDevice device).bus.devices=bus.devices++[device] := by
  rw [VirtioBus.addDevice,dif_neg (Nat.not_le.mpr h)]
  exact ⟨rfl,rfl⟩

/-- The devices on a bus keep their places when others are added. -/
theorem addDevices_prefix (added : List δ) : ∀ bus : VirtioBus δ,
    bus.devices <+: (bus.addDevices added).bus.devices := by
  induction added with
  | nil =>
    intro bus
    exact List.prefix_rfl
  | cons device rest ih =>
    intro bus
    refine List.IsPrefix.trans ?_ (ih (bus.addDevice device).bus)
    by_cases hfull : maxVirtioDevices ≤ bus.devices.length
    · simp only [addDevice_full hfull,List.prefix_rfl]
    · rw [(addDevice_room (Nat.not_le.mp hfull) device).2]
      exact List.prefix_append _ _

/-- The bus grows by the devices it takes. -/
theorem addDevices_count (added : List δ) : ∀ bus : VirtioBus δ,
    (bus.addDevices added).bus.devices.length=
      bus.devices.length+(bus.addDevices added).outcomes.countP Except.isOk := by
  induction added with
  | nil =>
    intro bus
    rfl
  | cons device rest ih =>
    intro bus
    have hlater := ih (bus.addDevice device).bus
    simp only [VirtioBus.addDevices,List.countP_cons]
    rw [hlater]
    by_cases hfull : maxVirtioDevices ≤ bus.devices.length
    · rw [addDevice_full hfull]
      rfl
    · obtain ⟨houtcome,hdevices⟩ := addDevice_room (Nat.not_le.mp hfull) device
      rw [houtcome,hdevices,List.length_append,List.length_singleton]
      simp only [Except.isOk,Except.toBool,if_true]
      omega

/-- A refused device leaves the bus as it is. -/
theorem addDevice_refused {bus : VirtioBus δ} {device : δ} {fault : Fault}
    (h : (bus.addDevice device).outcome=.error fault) : (bus.addDevice device).bus=bus := by
  by_cases hfull : maxVirtioDevices ≤ bus.devices.length
  · rw [addDevice_full hfull]
  · rw [(addDevice_room (Nat.not_le.mp hfull) device).1] at h
    cases h

/-- An address lies in the window of an index. -/
def InWindow (i : ℕ) (address : UInt64) : Prop :=
  virtioMmioStart.toNat+i*virtioMmioSize.toNat ≤ address.toNat ∧
    address.toNat < virtioMmioStart.toNat+(i+1)*virtioMmioSize.toNat

/-- A window lies behind the start of the first one. -/
theorem InWindow.above {i : ℕ} {address : UInt64} (h : InWindow i address) :
    ¬address < virtioMmioStart := by
  rw [UInt64.not_lt,UInt64.le_iff_toNat_le]
  exact Nat.le_trans (Nat.le_add_right _ _) h.1

/-- The quotient of the distance says which window an address lies in. -/
theorem window_iff {address : UInt64} (h : ¬address < virtioMmioStart) (i : ℕ) :
    ((address-virtioMmioStart)/virtioMmioSize).toNat=i ↔ InWindow i address := by
  have hle : virtioMmioStart ≤ address := UInt64.not_lt.mp h
  have hstart : virtioMmioStart.toNat ≤ address.toNat := UInt64.le_iff_toNat_le.mp hle
  have hsize : virtioMmioSize.toNat=512 := rfl
  rw [UInt64.toNat_div,UInt64.toNat_sub_of_le _ _ hle,hsize,InWindow,hsize]
  omega

/-- The remainder says where in the window it lies. -/
theorem window_offset {i : ℕ} {address : UInt64} (h : InWindow i address) :
    ((address-virtioMmioStart)%virtioMmioSize).toNat=
        address.toNat-virtioMmioStart.toNat-i*virtioMmioSize.toNat ∧
      ((address-virtioMmioStart)%virtioMmioSize).toNat < virtioMmioSize.toNat := by
  have hsize : virtioMmioSize.toNat=512 := rfl
  have hle : virtioMmioStart ≤ address := UInt64.not_lt.mp h.above
  rw [InWindow,hsize] at h
  rw [UInt64.toNat_mod,UInt64.toNat_sub_of_le _ _ hle,hsize]
  omega

/-- An address lies in one window at most. -/
theorem InWindow.unique {i j : ℕ} {address : UInt64} (hi : InWindow i address)
    (hj : InWindow j address) : i=j :=
  ((window_iff hi.above i).mpr hi).symm.trans ((window_iff hi.above j).mpr hj)

/-- An access reaches the device whose window its address lies in. -/
theorem access_inside {bus : VirtioBus δ} {address : UInt64} {i : ℕ} {device : δ}
    (h : InWindow i address) (hdevice : bus.devices[i]?=some device) (idle : α)
    (call : δ → UInt64 → Outcome α×δ) :
    bus.access address idle call=
      ⟨some (i,(address-virtioMmioStart)%virtioMmioSize),
        (call device ((address-virtioMmioStart)%virtioMmioSize)).1,
        bus.replace i (call device ((address-virtioMmioStart)%virtioMmioSize)).2⟩ := by
  have hindex := (window_iff h.above i).mpr h
  rw [VirtioBus.access,if_neg h.above]
  dsimp only
  rw [hindex,hdevice]

/-- An access outside the windows of all devices reaches none. -/
theorem access_outside {bus : VirtioBus δ} {address : UInt64}
    (h : ∀ i < bus.deviceCount, ¬InWindow i address) (idle : α)
    (call : δ → UInt64 → Outcome α×δ) :
    bus.access address idle call=⟨none,.ok idle,bus⟩ := by
  rw [VirtioBus.access]
  split
  · rfl
  · rename_i habove
    have hwindow := (window_iff habove _).mp rfl
    have hnone : bus.devices[((address-virtioMmioStart)/virtioMmioSize).toNat]?=none := by
      rw [List.getElem?_eq_none_iff]
      exact Nat.not_lt.mp fun hlt => h _ hlt hwindow
    dsimp only
    rw [hnone]

/-- An access was routed exactly: it reached the device in whose window its
address lies, at the distance from the start of the window, changed that device
as the call does and no other one, and outside all windows it did nothing. -/
structure Routed (bus : VirtioBus δ) (address : UInt64) (idle : α)
    (call : δ → UInt64 → Outcome α×δ) (report : BusReport δ α) : Prop where
  /-- It reached the device with an index exactly when the address lies in its window. -/
  reached : ∀ i, (∃ offset, report.reached=some (i,offset)) ↔
    InWindow i address ∧ i < bus.deviceCount
  /-- The device was given the distance from the start of its window. -/
  offset : ∀ i offset, report.reached=some (i,offset) →
    offset.toNat=address.toNat-virtioMmioStart.toNat-i*virtioMmioSize.toNat ∧
      offset.toNat < virtioMmioSize.toNat
  /-- The device did what the call does. -/
  effect : ∀ i offset, report.reached=some (i,offset) → ∃ device, bus.devices[i]?=some device ∧
    report.outcome=(call device offset).1 ∧ report.bus.devices[i]?=some (call device offset).2
  /-- A device that was not reached is unchanged. -/
  others : ∀ i, (∀ offset, report.reached≠some (i,offset)) →
    report.bus.devices[i]?=bus.devices[i]?
  /-- Outside all windows nothing happened. -/
  outside : (∀ i < bus.deviceCount, ¬InWindow i address) →
    report.outcome=.ok idle ∧ report.bus=bus

/-- Every access is routed exactly. -/
theorem access_routed (bus : VirtioBus δ) (address : UInt64) (idle : α)
    (call : δ → UInt64 → Outcome α×δ) :
    Routed bus address idle call (bus.access address idle call) := by
  by_cases hinside : ∃ i < bus.deviceCount, InWindow i address
  · obtain ⟨i,hi,hwindow⟩ := hinside
    obtain ⟨device,hdevice⟩ : ∃ device, bus.devices[i]?=some device :=
      ⟨_,List.getElem?_eq_getElem hi⟩
    rw [access_inside hwindow hdevice]
    constructor
    case reached =>
      intro j
      constructor
      · rintro ⟨offset,hj⟩
        obtain ⟨rfl,-⟩ := Prod.mk.inj (Option.some.inj hj)
        exact ⟨hwindow,hi⟩
      · rintro ⟨hj,-⟩
        obtain rfl := hwindow.unique hj
        exact ⟨_,rfl⟩
    case offset =>
      intro j offset hj
      obtain ⟨rfl,rfl⟩ := Prod.mk.inj (Option.some.inj hj)
      exact window_offset hwindow
    case effect =>
      intro j offset hj
      obtain ⟨rfl,rfl⟩ := Prod.mk.inj (Option.some.inj hj)
      exact ⟨_,hdevice,rfl,List.getElem?_set_self hi⟩
    case others =>
      intro j hj
      refine List.getElem?_set_ne ?_
      rintro rfl
      exact hj _ rfl
    case outside =>
      intro hnone
      exact absurd hwindow (hnone i hi)
  · have hnone : ∀ i < bus.deviceCount, ¬InWindow i address :=
      fun i hi hwindow => hinside ⟨i,hi,hwindow⟩
    rw [access_outside hnone]
    constructor
    case reached =>
      intro i
      constructor
      · rintro ⟨offset,hi⟩
        cases hi
      · rintro ⟨hwindow,hi⟩
        exact absurd hwindow (hnone i hi)
    case offset =>
      intro i offset hi
      cases hi
    case effect =>
      intro i offset hi
      cases hi
    case others => exact fun i _ => rfl
    case outside => exact fun _ => ⟨rfl,rfl⟩

/-- A bus takes at most sixteen of the devices that are added to it, a refused
one changes nothing and the others keep their places, and on every bus every
read and every write is routed exactly. -/
theorem bus_routing_exact [VirtDevice δ] :
    (∀ added : List δ, (VirtioBus.new.addDevices added).outcomes.countP Except.isOk ≤ 16) ∧
      (∀ (bus : VirtioBus δ) device fault, (bus.addDevice device).outcome=.error fault →
        (bus.addDevice device).bus=bus) ∧
      (∀ (bus : VirtioBus δ) (added : List δ) (i : ℕ) device, bus.devices[i]?=some device →
        (bus.addDevices added).bus.devices[i]?=some device) ∧
      ∀ (bus : VirtioBus δ) address size,
        Routed bus address 0 (fun device offset => VirtDevice.mmioRead device offset size)
            (bus.read address size) ∧
          ∀ value, Routed bus address ()
            (fun device offset => VirtDevice.mmioWrite device offset size value)
            (bus.write address size value) := by
  refine ⟨?_,fun bus device fault => addDevice_refused,?_,?_⟩
  · intro added
    have hcount := addDevices_count added (VirtioBus.new : VirtioBus δ)
    have hmax := (VirtioBus.new.addDevices added).bus.devices_le
    have hsixteen : maxVirtioDevices=16 := rfl
    omega
  · intro bus added i device hdevice
    obtain ⟨later,hlater⟩ := addDevices_prefix added bus
    obtain ⟨hi,-⟩ := List.getElem?_eq_some_iff.mp hdevice
    rw [← hlater,List.getElem?_append_left hi,hdevice]
  · intro bus address size
    exact ⟨access_routed bus address 0 _,fun value => access_routed bus address () _⟩

end LiteDroid.DevicesBus
