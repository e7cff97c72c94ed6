import LiteDroid.DevicesKinds

/-!
# Runs of accesses on a bus

The bus serves the accesses of all virtual CPUs one at a time, and may be reset
in between. What a device answers and holds afterwards depends on the accesses
to its own window and on the resets only, so that a run on the bus is one run on
each device, whatever the order in which the accesses arrive. From the runs on
the devices it follows what the console has put out, which random bytes were
handed out and which audio bytes wait.
-/

namespace LiteDroid.DevicesRuns

open CoreResults LittleEndian DevicesBus DevicesKinds
open VmmBlockDevice (virtioMmioStart virtioMmioSize)

universe u v

/-- Serve calls one after another. Every call is recorded with its answer. -/
def serve {σ : Type u} {κ : Type v} {ρ : Type} (call : σ → κ → ρ×σ) :
    σ → List κ → List (κ×ρ)×σ
  | state,[] => ([],state)
  | state,input::rest =>
    let done := call state input
    let later := serve call done.2 rest
    ((input,done.1)::later.1,later.2)

/-- A call of a bus. -/
inductive BusCall where
  /-- Read at an address. -/
  | read (address : UInt64) (size : UInt32)
  /-- Write at an address. -/
  | write (address : UInt64) (size : UInt32) (value : UInt64)
  /-- Reset all devices. -/
  | resetAll
  deriving DecidableEq

/-- A call of a device. -/
inductive DeviceCall where
  /-- Read a register. -/
  | read (offset : UInt64) (size : UInt32)
  /-- Write a register. -/
  | write (offset : UInt64) (size : UInt32) (value : UInt64)
  /-- Reset. -/
  | reset
  deriving DecidableEq

/-- The answer to a call. -/
inductive Reply where
  /-- The value that was read. -/
  | value (result : Outcome UInt64)
  /-- Nothing but the end of the call. -/
  | done (result : Outcome Unit)

variable {δ : Type u}

instance (i : ℕ) (address : UInt64) : Decidable (InWindow i address) :=
  inferInstanceAs (Decidable (_ ∧ _))

/-- The distance of an address from the start of its window. -/
def regOffset (address : UInt64) : UInt64 := (address-virtioMmioStart)%virtioMmioSize

/-- An access within a window is served by its device, and one elsewhere leaves it alone. -/
theorem access_device {α : Type} {bus : VirtioBus δ} {i : ℕ} {device : δ}
    (h : bus.devices[i]?=some device) (address : UInt64) (idle : α)
    (call : δ → UInt64 → Outcome α×δ) :
    if InWindow i address then
      (bus.access address idle call).outcome=(call device (regOffset address)).1 ∧
        (bus.access address idle call).bus.devices[i]?=some (call device (regOffset address)).2
    else (bus.access address idle call).bus.devices[i]?=some device := by
  have hcount : i < bus.devices.length := (List.getElem?_eq_some_iff.mp h).1
  split
  · rename_i hwindow
    rw [access_inside hwindow h]
    exact ⟨rfl,List.getElem?_set_self hcount⟩
  · rename_i hwindow
    have hrouted := access_routed bus address idle call
    rw [hrouted.others i ?_,h]
    intro offset hreached
    exact hwindow ((hrouted.reached i).mp ⟨offset,hreached⟩).1

variable [VirtDevice δ]

/-- Serve a call of a bus. -/
def busCall (bus : VirtioBus δ) : BusCall → Reply×VirtioBus δ
  | .read address size =>
    let report := bus.read address size
    (.value report.outcome,report.bus)
  | .write address size value =>
    let report := bus.write address size value
    (.done report.outcome,report.bus)
  | .resetAll =>
    let report := bus.resetAll
    (.done report.1,report.2)

/-- Serve a call of a device. -/
def deviceCall (device : δ) : DeviceCall → Reply×δ
  | .read offset size =>
    let after := VirtDevice.mmioRead device offset size
    (.value after.1,after.2)
  | .write offset size value =>
    let after := VirtDevice.mmioWrite device offset size value
    (.done after.1,after.2)
  | .reset =>
    let after := VirtDevice.reset device
    (.done after.1,after.2)

/-- The call that a call of the bus is for the device with an index. -/
def BusCall.routed (i : ℕ) : BusCall → Option DeviceCall
  | .read address size => if InWindow i address then some (.read (regOffset address) size) else none
  | .write address size value =>
    if InWindow i address then some (.write (regOffset address) size value) else none
  | .resetAll => some .reset

/-- The answer to a call that reaches no device. -/
def BusCall.idle : BusCall → Reply
  | .read _ _ => .value (.ok 0)
  | .write _ _ _ => .done (.ok ())
  | .resetAll => .done (.ok ())

/-- A call of the bus is a call of each device it is routed to, and leaves the others alone. -/
theorem busCall_device (hreset : ∀ device : δ, (VirtDevice.reset device).1=.ok ())
    {bus : VirtioBus δ} {i : ℕ} {device : δ} (h : bus.devices[i]?=some device) (call : BusCall) :
    match call.routed i with
    | some own => (busCall bus call).1=(deviceCall device own).1 ∧
        (busCall bus call).2.devices[i]?=some (deviceCall device own).2
    | none => (busCall bus call).2.devices[i]?=some device := by
  cases call with
  | read address size =>
    have haccess := access_device h address (0 : UInt64)
      fun device regOffset => VirtDevice.mmioRead device regOffset size
    rw [BusCall.routed]
    split at haccess
    · rename_i hwindow
      rw [if_pos hwindow]
      exact ⟨congrArg Reply.value haccess.1,haccess.2⟩
    · rename_i hwindow
      rw [if_neg hwindow]
      exact haccess
  | write address size value =>
    have haccess := access_device h address ()
      fun device regOffset => VirtDevice.mmioWrite device regOffset size value
    rw [BusCall.routed]
    split at haccess
    · rename_i hwindow
      rw [if_pos hwindow]
      exact ⟨congrArg Reply.done haccess.1,haccess.2⟩
    · rename_i hwindow
      rw [if_neg hwindow]
      exact haccess
  | resetAll =>
    obtain ⟨hok,hdevices⟩ := resetAll_ok bus fun device _ => hreset device
    refine ⟨congrArg Reply.done (hok.trans (hreset device).symm),?_⟩
    change bus.resetAll.2.devices[i]?=_
    rw [hdevices,List.getElem?_map,h]
    rfl

/-- What a recorded call of the bus is for the device with an index. -/
def routedEntry (i : ℕ) (entry : BusCall×Reply) : Option (DeviceCall×Reply) :=
  (entry.1.routed i).map (·,entry.2)

/-- A run on the bus is a run on each of its devices. -/
theorem serve_device (hreset : ∀ device : δ, (VirtDevice.reset device).1=.ok ()) (i : ℕ) :
    ∀ (calls : List BusCall) (bus : VirtioBus δ) (device : δ), bus.devices[i]?=some device →
      (serve busCall bus calls).1.filterMap (routedEntry i)=
          (serve deviceCall device (calls.filterMap (BusCall.routed i))).1 ∧
        (serve busCall bus calls).2.devices[i]?=
          some (serve deviceCall device (calls.filterMap (BusCall.routed i))).2 := by
  intro calls
  induction calls with
  | nil => exact fun _ _ h => ⟨rfl,h⟩
  | cons call rest ih =>
    intro bus device h
    have hcall := busCall_device hreset h call
    rw [serve]
    dsimp only
    rw [List.filterMap_cons,List.filterMap_cons,routedEntry]
    cases hrouted : call.routed i with
    | some own =>
      rw [hrouted] at hcall
      obtain ⟨hlog,hdevice⟩ := ih _ _ hcall.2
      dsimp only [Option.map_some]
      rw [hlog,hcall.1,serve]
      exact ⟨rfl,hdevice⟩
    | none =>
      rw [hrouted] at hcall
      exact ih _ _ hcall

/-- The calls keep the number of devices. -/
theorem busCall_count (bus : VirtioBus δ) (call : BusCall) :
    (busCall bus call).2.deviceCount=bus.deviceCount := by
  have haccess : ∀ {α : Type} (address : UInt64) (idle : α) (f : δ → UInt64 → Outcome α×δ),
      (bus.access address idle f).bus.deviceCount=bus.deviceCount := by
    intro α address idle f
    rw [VirtioBus.access]
    split
    · rfl
    · dsimp only
      split
      · exact List.length_set
      · rfl
  cases call with
  | read address size => exact haccess address 0 _
  | write address size value => exact haccess address () _
  | resetAll => exact resetDevices_length bus.devices

/-- A call that is routed to no device is answered without one. -/
theorem busCall_idle {bus : VirtioBus δ} {call : BusCall}
    (h : ∀ i < bus.deviceCount, call.routed i=none) :
    (busCall bus call).1=call.idle ∧ (busCall bus call).2=bus := by
  have hnone : ∀ {address : UInt64} {own : DeviceCall},
      (∀ i < bus.deviceCount, (if InWindow i address then some own else none)=none) →
        ∀ i < bus.deviceCount, ¬InWindow i address := by
    intro address own hall i hi hwindow
    have hi := hall i hi
    rw [if_pos hwindow] at hi
    cases hi
  cases call with
  | read address size =>
    have hroute := access_outside (hnone h) (0 : UInt64)
      fun device regOffset => VirtDevice.mmioRead device regOffset size
    simp only [busCall,VirtioBus.read,hroute,BusCall.idle,and_self]
  | write address size value =>
    have hroute := access_outside (hnone h) ()
      fun device regOffset => VirtDevice.mmioWrite device regOffset size value
    simp only [busCall,VirtioBus.write,hroute,BusCall.idle,and_self]
  | resetAll =>
    have hempty : bus.devices=[] := by
      rw [← List.length_eq_zero_iff]
      by_contra hpos
      cases h 0 (Nat.pos_of_ne_zero hpos)
    cases bus
    subst hempty
    exact ⟨rfl,rfl⟩

/-- In a run every call that is routed to no device is answered without one. -/
theorem serve_idle : ∀ (calls : List BusCall) (bus : VirtioBus δ),
    (serve busCall bus calls).2.deviceCount=bus.deviceCount ∧
      ∀ entry∈(serve busCall bus calls).1,
        (∀ i < bus.deviceCount, entry.1.routed i=none) → entry.2=entry.1.idle := by
  intro calls
  induction calls with
  | nil => exact fun _ => ⟨rfl,fun _ hentry => (by cases hentry)⟩
  | cons call rest ih =>
    intro bus
    have hcount := busCall_count bus call
    obtain ⟨hlater,hrest⟩ := ih (busCall bus call).2
    rw [hcount] at hlater hrest
    refine ⟨hlater,?_⟩
    intro entry hentry hnone
    rcases List.mem_cons.mp hentry with rfl | hentry
    · exact (busCall_idle hnone).1
    · exact hrest entry hentry hnone

/-- Whatever the order in which the accesses and resets arrive at a bus, each
device answers its own ones as if it were alone, and holds afterwards what it
would hold alone. An access that belongs to no device reads zero or does
nothing, and no device comes or goes. -/
theorem devices_independent (bus : VirtioBus Device) (calls : List BusCall) :
    (∀ i device, bus.devices[i]?=some device →
      (serve busCall bus calls).1.filterMap (routedEntry i)=
          (serve deviceCall device (calls.filterMap (BusCall.routed i))).1 ∧
        (serve busCall bus calls).2.devices[i]?=
          some (serve deviceCall device (calls.filterMap (BusCall.routed i))).2) ∧
      (∀ entry∈(serve busCall bus calls).1,
        (∀ i < bus.deviceCount, entry.1.routed i=none) → entry.2=entry.1.idle) ∧
      (serve busCall bus calls).2.deviceCount=bus.deviceCount := by
  obtain ⟨hcount,hidle⟩ := serve_idle calls bus
  exact ⟨fun i device h => serve_device reset_ok i calls bus device h,hidle,hcount⟩

end LiteDroid.DevicesRuns
