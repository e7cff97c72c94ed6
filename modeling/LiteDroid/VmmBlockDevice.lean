import LiteDroid.MemoryRegion
import LiteDroid.StorageImage

/-!
# The virtio block device of the monitor

Registers, the descriptor walk of one request, its data transfer, its
completion in the used ring and the loop over the available entries, as the
monitor crate computes them. Reports carry the result together with what the
call left behind, since an error value does not undo earlier effects. The
lists of stores and calls are diagnostics of a run, not data of the device.

Sums of addresses wrap as release arithmetic does. Only the header address
and the byte offset of a sector are checked sums of guest words that a build
with overflow checks can see overflow; every other one starts at a page
number shifted by twelve and stays far below the word size.
-/

namespace LiteDroid.VmmBlockDevice

open LittleEndian CoreResults MemoryRegion StorageImage

/-- First guest-physical address of the device's register window. -/
def virtioMmioStart : UInt64 := 0xfea00000

/-- Bytes of the device's register window. -/
def virtioMmioSize : UInt64 := 0x200

/-- The magic value register. -/
def virtioMagic : UInt32 := 0x74726976

/-- The device type of a block device. -/
def virtioBlk : UInt32 := 2

/-- Descriptor flag: another descriptor follows. -/
def descNext : UInt16 := 1

/-- Descriptor flag: the device may write the buffer. -/
def descWrite : UInt16 := 2

/-- The block device's state. -/
structure VirtioBlock where
  /-- The image opened at creation. -/
  disk : RawDiskImage
  /-- Queue size chosen by the driver. -/
  queueNum : UInt16
  /-- Page number of the queue, zero before the driver sets it. -/
  queuePfn : UInt32
  /-- Device status register. -/
  status : UInt32
  /-- Available-ring position of the next entry to serve. -/
  lastAvail : UInt16
  deriving DecidableEq, Repr

/-- The device over an opened image. -/
def VirtioBlock.new (disk : RawDiskImage) : VirtioBlock := ⟨disk,128,0,0,0⟩

/-- The register value at an offset, before it is cut to the access size. -/
def VirtioBlock.register (device : VirtioBlock) (offset : UInt64) : UInt64 :=
  if offset=0x00 then virtioMagic.toUInt64
  else if offset=0x04 then 2
  else if offset=0x08 then virtioBlk.toUInt64
  else if offset=0x0c then 0
  else if offset=0x10 then 0
  else if offset=0x34 then device.queueNum.toUInt64
  else if offset=0x38 then device.queueNum.toUInt64
  else if offset=0x3c then 4096
  else if offset=0x40 then device.queuePfn.toUInt64
  else if offset=0x60 then device.status.toUInt64
  else if offset=0x64 then 0
  else if offset=0x100 then device.disk.sectors
  else 0

/-- A register read of a number of bytes. -/
def VirtioBlock.read (profile : Profile) (device : VirtioBlock) (offset : UInt64) (size : ℕ) :
    Outcome UInt64 :=
  let value := device.register offset
  if 8 ≤ size then .ok value
  else do
    let bit ← profile.shl 1 (size*8)
    return value&&&(bit-1)

/-- Guest memory and the image's backing file, the two things a request touches. -/
structure World where
  /-- Guest RAM. -/
  memory : GuestMemory
  /-- The host file behind the disk image. -/
  file : HostFile

/-- One store a request carried out. -/
inductive Store where
  /-- Bytes copied into guest memory. -/
  | guest (addr : UInt64) (data : List UInt8)
  /-- Bytes written to the disk image. -/
  | disk (offset : UInt64) (data : List UInt8)
  deriving DecidableEq, Repr

/-- The fields of a request, gathered from its three descriptors and its header. -/
structure Chain where
  /-- Request type of the header. -/
  requestType : UInt32
  /-- First sector of the header. -/
  sector : UInt64
  /-- Guest address of the payload buffer. -/
  payloadAddr : UInt64
  /-- Length of the payload buffer. -/
  payloadLen : UInt32
  /-- Flags of the payload descriptor. -/
  payloadFlags : UInt16
  /-- Guest address of the status byte. -/
  statusAddr : UInt64
  deriving DecidableEq, Repr

/-- An error value of a malformed or failing request. -/
def requestError {α : Type} (message : String) : Outcome α := .error (.error (.diskIo message))

/-- The address of a descriptor in the table at the start of the queue. -/
def descAddr (queue : UInt64) (index : UInt16) : UInt64 := queue+index.toUInt64*16

/-- Walk the header, payload and status descriptors of a request. The status
index is the only one compared with the queue size. -/
def walkChain (profile : Profile) (queueNum : UInt16) (memory : GuestMemory) (queue : UInt64)
    (head : UInt16) : Outcome Chain := do
  let desc := descAddr queue head
  let headerAddr ← guestU64 memory desc
  let headerFlags ← guestU16 memory (desc+12)
  let headerNext ← guestU16 memory (desc+14)
  if headerFlags&&&descNext=0 then requestError "virtio request has no data descriptor" else do
  let requestType ← guestU32 memory headerAddr
  let sectorAddr ← profile.add headerAddr 8
  let sector ← guestU64 memory sectorAddr
  let payloadDesc := descAddr queue headerNext
  let payloadAddr ← guestU64 memory payloadDesc
  let payloadLen ← guestU32 memory (payloadDesc+8)
  let payloadFlags ← guestU16 memory (payloadDesc+12)
  let statusNext ← guestU16 memory (payloadDesc+14)
  if payloadFlags&&&descNext=0 ∨ queueNum ≤ statusNext then
    requestError "virtio request has invalid status descriptor"
  else do
  let statusAddr ← guestU64 memory (descAddr queue statusNext)
  if statusAddr=0 then requestError "virtio status address is null"
  else return ⟨requestType,sector,payloadAddr,payloadLen,payloadFlags,statusAddr⟩

/-- Status byte, effects and diagnostics of a request's data transfer. -/
structure TransferReport where
  /-- Status reported to the driver: zero for success, one for an unknown type. -/
  status : UInt8
  /-- Memory and file after the transfer. -/
  world : World
  /-- The store of the transfer, if its type has one. -/
  stores : List Store

/-- Move the payload between the disk and guest memory. A fault leaves both
untouched, since each direction has one store and it comes last. -/
def transfer (profile : Profile) (chain : Chain) (world : World) : Outcome TransferReport :=
  let payload := List.replicate chain.payloadLen.toNat (0 : UInt8)
  if chain.requestType=0 then
    if chain.payloadFlags&&&descWrite=0 then requestError "virtio read buffer is not writable"
    else do
      let offset ← profile.mul chain.sector 512
      let (bytes,payload) ← StorageImage.read world.file offset payload
      let data ← sliceTo payload bytes
      let memory ← writeGuest world.memory chain.payloadAddr data
      return ⟨0,{world with memory := memory},[.guest chain.payloadAddr data]⟩
  else if chain.requestType=1 then
    if chain.payloadFlags&&&descWrite≠0 then requestError "virtio write buffer is not readable"
    else do
      let payload ← readGuest world.memory chain.payloadAddr payload.length
      let offset ← profile.mul chain.sector 512
      let (_,file) ← StorageImage.write world.file offset payload
      return ⟨0,{world with file := file},[.disk offset payload]⟩
  else return ⟨1,world,[]⟩

/-- Round an address up to a multiple of a power of two. -/
def alignUp (value alignment : UInt64) : UInt64 := (value+alignment-1)&&&~~~(alignment-1)

/-- The used ring: the next page boundary after the descriptor table and the
available ring. -/
def usedRing (queueNum : UInt16) (queue : UInt64) : UInt64 :=
  alignUp (queue+16*queueNum.toUInt64+4+2*queueNum.toUInt64) 4096

/-- Result, effects and diagnostics of one request. -/
structure RequestReport where
  /-- What the call returned. -/
  outcome : Outcome Unit
  /-- Memory and file when it returned. -/
  world : World
  /-- The stores carried out before it returned, in order. -/
  stores : List Store

/-- Publish the completed request: element first, index last. Each store may
fault after the earlier ones took effect. -/
def pushUsed (queueNum : UInt16) (queue : UInt64) (head : UInt16) (payloadLen : UInt32)
    (world : World) (done : List Store) : RequestReport :=
  let used := usedRing queueNum queue
  match guestU16 world.memory (used+2) with
  | .error fault => ⟨.error fault,world,done⟩
  | .ok usedIdx =>
    if queueNum=0 then ⟨.error (.panic .remainderByZero),world,done⟩
    else
      let usedSlot := (usedIdx%queueNum).toUInt64
      let id := leBytes 4 head.toUInt32.toNat
      match writeGuest world.memory (used+4+usedSlot*8) id with
      | .error fault => ⟨.error fault,world,done⟩
      | .ok memory1 =>
        let done1 := done++[.guest (used+4+usedSlot*8) id]
        let len := leBytes 4 payloadLen.toNat
        match writeGuest memory1 (used+8+usedSlot*8) len with
        | .error fault => ⟨.error fault,{world with memory := memory1},done1⟩
        | .ok memory2 =>
          let done2 := done1++[.guest (used+8+usedSlot*8) len]
          let next := leBytes 2 (usedIdx+1).toNat
          match writeGuest memory2 (used+2) next with
          | .error fault => ⟨.error fault,{world with memory := memory2},done2⟩
          | .ok memory3 => ⟨.ok (),{world with memory := memory3},done2++[.guest (used+2) next]⟩

/-- Serve one request: walk its chain, move its data, store its status byte
and publish it in the used ring. -/
def processRequest (profile : Profile) (device : VirtioBlock) (queue : UInt64) (head : UInt16)
    (world : World) : RequestReport :=
  match walkChain profile device.queueNum world.memory queue head with
  | .error fault => ⟨.error fault,world,[]⟩
  | .ok chain =>
    match transfer profile chain world with
    | .error fault => ⟨.error fault,world,[]⟩
    | .ok moved =>
      match writeGuest moved.world.memory chain.statusAddr [moved.status] with
      | .error fault => ⟨.error fault,moved.world,moved.stores⟩
      | .ok memory =>
        pushUsed device.queueNum queue head chain.payloadLen {moved.world with memory := memory}
          (moved.stores++[.guest chain.statusAddr [moved.status]])

/-- One call of the request handler made by the queue loop. -/
structure RequestCall where
  /-- Available-ring position of the entry. -/
  position : UInt16
  /-- Head found there. -/
  head : UInt16
  /-- Memory and file before the call. -/
  before : World
  /-- What the call returned and left behind. -/
  report : RequestReport

/-- Result, effects and diagnostics of one pass over the queue. -/
structure QueueReport where
  /-- What the pass returned. -/
  outcome : Outcome Unit
  /-- The device afterwards; only its position moves. -/
  device : VirtioBlock
  /-- Memory and file afterwards. -/
  world : World
  /-- The available index read on entry, if it could be read. -/
  index : Option UInt16
  /-- The calls of the request handler, in order. -/
  calls : List RequestCall

/-- Guest address of the queue page. -/
def VirtioBlock.queue (device : VirtioBlock) : UInt64 := device.queuePfn.toUInt64<<<12

/-- Address of the head the loop reads for the device's next position. -/
def VirtioBlock.headAddr (device : VirtioBlock) : UInt64 :=
  device.queue+4+(device.lastAvail%device.queueNum).toUInt64*2

/-- The device after it passed one entry. -/
def VirtioBlock.advance (device : VirtioBlock) : VirtioBlock :=
  {device with lastAvail := device.lastAvail+1}

/-- Entries between the device's position and an available index. -/
def VirtioBlock.pending (device : VirtioBlock) (availIdx : UInt16) : ℕ :=
  (availIdx-device.lastAvail).toNat

/-- Passing an entry takes one off the pending count. -/
theorem pending_advance {device : VirtioBlock} {availIdx : UInt16}
    (h : device.lastAvail≠availIdx) :
    device.advance.pending availIdx+1=device.pending availIdx := by
  have ha := availIdx.toNat_lt
  have hl := device.lastAvail.toNat_lt
  have hn : device.lastAvail.toNat≠availIdx.toNat := fun he => h (UInt16.toNat_inj.mp he)
  simp only [VirtioBlock.pending,VirtioBlock.advance,UInt16.toNat_sub,UInt16.toNat_add,
    UInt16.reduceToNat]
  omega

/-- Serve entries until the position reaches the available index. A fault of
a head read or of a request ends the loop with the position on that entry. -/
def serveLoop (profile : Profile) (availIdx : UInt16) (device : VirtioBlock) (world : World) :
    QueueReport :=
  if _h : device.lastAvail=availIdx then ⟨.ok (),device,world,some availIdx,[]⟩
  else if device.queueNum=0 then ⟨.error (.panic .remainderByZero),device,world,some availIdx,[]⟩
  else
    match guestU16 world.memory device.headAddr with
    | .error fault => ⟨.error fault,device,world,some availIdx,[]⟩
    | .ok head =>
      let report := processRequest profile device device.queue head world
      let call : RequestCall := ⟨device.lastAvail,head,world,report⟩
      match report.outcome with
      | .error fault => ⟨.error fault,device,report.world,some availIdx,[call]⟩
      | .ok () =>
        let rest := serveLoop profile availIdx device.advance report.world
        {rest with calls := call::rest.calls}
termination_by device.pending availIdx
decreasing_by
  have := pending_advance (by assumption)
  omega

/-- One pass over the queue: the index is read once, at the start. -/
def processQueue (profile : Profile) (device : VirtioBlock) (world : World) : QueueReport :=
  match guestU16 world.memory (device.queue+2) with
  | .error fault => ⟨.error fault,device,world,none,[]⟩
  | .ok availIdx => serveLoop profile availIdx device world

/-- Result, effects and diagnostics of a register write. -/
structure WriteReport where
  /-- Normal return or a panic; error values of the queue are only logged. -/
  outcome : Outcome Unit
  /-- The device afterwards. -/
  device : VirtioBlock
  /-- Memory and file afterwards. -/
  world : World
  /-- The queue pass a notification made. -/
  pass : Option QueueReport

/-- A register write. Values are truncated to the register's width; a write
of zero to the notification register serves the queue. -/
def VirtioBlock.write (profile : Profile) (device : VirtioBlock) (offset value : UInt64)
    (world : World) : WriteReport :=
  if offset=0x38 then ⟨.ok (),{device with queueNum := min value.toUInt16 128},world,none⟩
  else if offset=0x40 then ⟨.ok (),{device with queuePfn := value.toUInt32},world,none⟩
  else if offset=0x50 then
    if value=0 ∧ device.queuePfn≠0 then
      let pass := processQueue profile device world
      match pass.outcome with
      | .error (.panic cause) => ⟨.error (.panic cause),pass.device,pass.world,some pass⟩
      | .error (.error _) => ⟨.ok (),pass.device,pass.world,some pass⟩
      | .ok () => ⟨.ok (),pass.device,pass.world,some pass⟩
    else ⟨.ok (),device,world,none⟩
  else if offset=0x60 then ⟨.ok (),{device with status := value.toUInt32},world,none⟩
  else ⟨.ok (),device,world,none⟩

/-- Whether the run loop routes an address to the block device. -/
def routed (addr : UInt64) : Prop :=
  virtioMmioStart ≤ addr ∧ addr < virtioMmioStart+virtioMmioSize

instance (addr : UInt64) : Decidable (routed addr) := inferInstanceAs (Decidable (_ ∧ _))

/-- The run loop's answer to an MMIO read exit: the bytes copied into the
exit's buffer, or none for an address it does not route. -/
def mmioRead (profile : Profile) (device : VirtioBlock) (addr : UInt64) (len : ℕ) :
    Outcome (Option (List UInt8)) :=
  if routed addr then do
    let value ← device.read profile (addr-virtioMmioStart) len
    let bytes ← sliceTo (leBytes 8 value.toNat) len
    return some bytes
  else return none

/-- The run loop's handling of an MMIO write exit: the exit's bytes are padded
to a 64-bit word, which panics for more than eight of them. -/
def mmioWrite (profile : Profile) (device : VirtioBlock) (addr : UInt64) (data : List UInt8)
    (world : World) : WriteReport :=
  if routed addr then
    if data.length ≤ 8 then
      device.write profile (addr-virtioMmioStart) (UInt64.ofNat (leNat data)) world
    else ⟨.error (.panic .sliceOutOfRange),device,world,none⟩
  else ⟨.ok (),device,world,none⟩

end LiteDroid.VmmBlockDevice
