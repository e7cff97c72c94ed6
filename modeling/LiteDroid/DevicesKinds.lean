import LiteDroid.NetworkDevice
import LiteDroid.StorageImage

/-!
# The devices a bus is built of

A serial console, a source of random numbers, a block device, a network device
and an audio device have the registers below. None of them panics, and none
looks at another one.
-/

namespace LiteDroid.DevicesKinds

open CoreResults LittleEndian DevicesBus NetworkDevice

/-- The magic value register. -/
def virtioMagic : UInt32 := 0x74726976

/-- The version register. -/
def virtioVersion2 : UInt32 := 2

/-- The device type of a console. -/
def virtioIdConsole : UInt32 := 3

/-- The device type of a source of random numbers. -/
def virtioIdRng : UInt32 := 4

/-- The device type of a block device. -/
def virtioIdBlock : UInt32 := 2

/-- A serial console. -/
structure VirtioSerialDevice where
  /-- Device status register. -/
  status : UInt32
  /-- Interrupt status register. -/
  interruptStatus : UInt32
  /-- What the output callback was called with, in order. -/
  output : List (List UInt8)

/-- A console with an output callback. -/
def VirtioSerialDevice.new (output : List (List UInt8)) : VirtioSerialDevice := ⟨0,0,output⟩

/-- The bytes of a register that an access of some size transmits. -/
def transmitted (size : UInt32) (value : UInt64) : List UInt8 :=
  (leBytes 8 value.toNat).take (min size.toNat 8)

/-- Read a register. The access size does not matter. -/
def VirtioSerialDevice.mmioRead (device : VirtioSerialDevice) (offset : UInt64) (_size : UInt32) :
    UInt64 :=
  if offset=0x00 then virtioMagic.toUInt64
  else if offset=0x04 then virtioVersion2.toUInt64
  else if offset=0x08 then virtioIdConsole.toUInt64
  else if offset=0x0c then 0
  else if offset=0x34 then device.interruptStatus.toUInt64
  else if offset=0x40 then device.status.toUInt64
  else 0

/-- Write a register. The transmit register calls the output callback, and a
queue notification is only logged. -/
def VirtioSerialDevice.mmioWrite (device : VirtioSerialDevice) (offset : UInt64) (size : UInt32)
    (value : UInt64) : VirtioSerialDevice :=
  if offset=0x40 then {device with status := value.toUInt32}
  else if offset=0x100 then {device with output := device.output++[transmitted size value]}
  else device

instance : VirtDevice VirtioSerialDevice where
  name _ := "virtio-serial"
  deviceType _ := "serial"
  mmioRead device offset size := (.ok (device.mmioRead offset size),device)
  mmioWrite device offset size value := (.ok (),device.mmioWrite offset size value)
  reset device := (.ok (),{device with status := 0, interruptStatus := 0})
  deviceTreeCompatible _ := "virtio,serial"

/-- Fill a buffer from a file, whose answers are bytes and errors between them.
An error ends the call, and the bytes that were read before it are gone. -/
def readExact : ℕ → List (Option UInt8) → Option (List UInt8)×List (Option UInt8)
  | 0,file => (some [],file)
  | _+1,[] => (none,[])
  | _+1,none::rest => (none,rest)
  | n+1,some byte::rest =>
    let later := readExact n rest
    (later.1.map (byte::·),later.2)

/-- A source of random numbers. -/
structure VirtioRngDevice where
  /-- Device status register. -/
  status : UInt32
  /-- What the file of random bytes has yet to answer. -/
  urandom : List (Option UInt8)

/-- A source over a file of random bytes. -/
def VirtioRngDevice.new (urandom : List (Option UInt8)) : VirtioRngDevice := ⟨0,urandom⟩

/-- Bytes folded into a register. -/
def foldBytes (bytes : List UInt8) : UInt64 :=
  bytes.foldl (fun (v : UInt64) (b : UInt8) => v<<<8|||b.toUInt64) 0

/-- The value of a data read: the bytes folded, or zero when the file fails. -/
def randomValue : Option (List UInt8) → UInt64
  | some bytes => foldBytes bytes
  | none => 0

/-- Read a register. The data register reads as many random bytes as the access is wide. -/
def VirtioRngDevice.mmioRead (device : VirtioRngDevice) (offset : UInt64) (size : UInt32) :
    UInt64×VirtioRngDevice :=
  if offset=0x00 then (virtioMagic.toUInt64,device)
  else if offset=0x04 then (virtioVersion2.toUInt64,device)
  else if offset=0x08 then (virtioIdRng.toUInt64,device)
  else if offset=0x0c then (0,device)
  else if offset=0x40 then (device.status.toUInt64,device)
  else if offset=0x100 then
    let buf := readExact size.toNat device.urandom
    (randomValue buf.1,{device with urandom := buf.2})
  else (0,device)

/-- Write a register. -/
def VirtioRngDevice.mmioWrite (device : VirtioRngDevice) (offset : UInt64) (_size : UInt32)
    (value : UInt64) : VirtioRngDevice :=
  if offset=0x40 then {device with status := value.toUInt32} else device

instance : VirtDevice VirtioRngDevice where
  name _ := "virtio-rng"
  deviceType _ := "rng"
  mmioRead device offset size :=
    (.ok (device.mmioRead offset size).1,(device.mmioRead offset size).2)
  mmioWrite device offset size value := (.ok (),device.mmioWrite offset size value)
  reset device := (.ok (),{device with status := 0})
  deviceTreeCompatible _ := "virtio,rng"

/-- A block device that only shows its registers. -/
structure VirtioBlkDevice where
  /-- The image behind it. -/
  disk : StorageImage.RawDiskImage
  /-- Device status register. -/
  status : UInt32

/-- A block device over an image. -/
def VirtioBlkDevice.new (disk : StorageImage.RawDiskImage) : VirtioBlkDevice := ⟨disk,0⟩

/-- Read a register. The access size does not matter. -/
def VirtioBlkDevice.mmioRead (device : VirtioBlkDevice) (offset : UInt64) (_size : UInt32) :
    UInt64 :=
  if offset=0x00 then virtioMagic.toUInt64
  else if offset=0x04 then virtioVersion2.toUInt64
  else if offset=0x08 then virtioIdBlock.toUInt64
  else if offset=0x0c then 0
  else if offset=0x24 then 1
  else if offset=0x30 then device.status.toUInt64
  else if offset=0x100 then device.disk.sectors
  else 0

/-- Write a register. A queue notification is only logged. -/
def VirtioBlkDevice.mmioWrite (device : VirtioBlkDevice) (offset : UInt64) (_size : UInt32)
    (value : UInt64) : VirtioBlkDevice :=
  if offset=0x30 then {device with status := value.toUInt32} else device

instance : VirtDevice VirtioBlkDevice where
  name _ := "virtio-blk"
  deviceType _ := "block"
  mmioRead device offset size := (.ok (device.mmioRead offset size),device)
  mmioWrite device offset size value := (.ok (),device.mmioWrite offset size value)
  reset device := (.ok (),{device with status := 0})
  deviceTreeCompatible _ := "virtio,block"

/-- The number of bytes that the buffer of an audio device takes. -/
def audioBufSize : ℕ := 4096

/-- The number of bytes at which the buffer is played. -/
def flushThreshold : ℕ := 2048

/-- An audio device. -/
structure AudioDevice where
  /-- The bytes that wait to be played. -/
  buffer : List UInt8
  /-- Sample rate register. -/
  sampleRate : UInt32
  /-- Channel count register. -/
  channels : UInt32
  /-- Device status register. -/
  status : UInt32
  deriving DecidableEq

/-- An audio device without bytes to play. -/
def AudioDevice.new : AudioDevice := ⟨[],48000,2,0⟩

/-- Play the buffer if enough bytes wait. Playing discards them. -/
def AudioDevice.flushBuffer (device : AudioDevice) : AudioDevice :=
  if flushThreshold ≤ device.buffer.length then {device with buffer := []} else device

/-- Read a register. The access size does not matter, and the microphone is silent. -/
def AudioDevice.mmioRead (device : AudioDevice) (offset : UInt64) (_size : UInt32) : UInt64 :=
  if offset=0x00 then 0
  else if offset=0x04 then 0
  else if offset=0x08 then device.sampleRate.toUInt64
  else if offset=0x0c then device.channels.toUInt64
  else if offset=0x10 then device.status.toUInt64
  else 0

/-- Put a byte behind those that wait, unless the buffer is full. -/
def AudioDevice.push (device : AudioDevice) (byte : UInt8) : AudioDevice :=
  if device.buffer.length < audioBufSize then {device with buffer := device.buffer++[byte]}
  else device

/-- Write a register. Commands are not served yet. -/
def AudioDevice.mmioWrite (device : AudioDevice) (offset : UInt64) (_size : UInt32)
    (value : UInt64) : AudioDevice :=
  if offset=0x00 then device
  else if offset=0x04 then (device.push value.toUInt8).flushBuffer
  else if offset=0x08 then {device with sampleRate := value.toUInt32}
  else if offset=0x0c then {device with channels := value.toUInt32}
  else if offset=0x10 then {device with status := value.toUInt32}
  else device

instance : VirtDevice AudioDevice where
  name _ := "virtio-audio"
  deviceType _ := "audio"
  mmioRead device offset size := (.ok (device.mmioRead offset size),device)
  mmioWrite device offset size value := (.ok (),device.mmioWrite offset size value)
  reset device := (.ok (),{device with buffer := [], sampleRate := 48000, channels := 2, status := 0})
  deviceTreeCompatible _ := "virtio,audio"

/-- A device of one of the kinds. -/
inductive Device where
  /-- A serial console. -/
  | serial (device : VirtioSerialDevice)
  /-- A source of random numbers. -/
  | rng (device : VirtioRngDevice)
  /-- A block device. -/
  | block (device : VirtioBlkDevice)
  /-- A network device. -/
  | net (device : VirtioNetDevice)
  /-- An audio device. -/
  | audio (device : AudioDevice)

instance : VirtDevice Device where
  name
    | .serial device => VirtDevice.name device
    | .rng device => VirtDevice.name device
    | .block device => VirtDevice.name device
    | .net device => VirtDevice.name device
    | .audio device => VirtDevice.name device
  deviceType
    | .serial device => VirtDevice.deviceType device
    | .rng device => VirtDevice.deviceType device
    | .block device => VirtDevice.deviceType device
    | .net device => VirtDevice.deviceType device
    | .audio device => VirtDevice.deviceType device
  mmioRead
    | .serial device,offset,size => (VirtDevice.mmioRead device offset size).map id .serial
    | .rng device,offset,size => (VirtDevice.mmioRead device offset size).map id .rng
    | .block device,offset,size => (VirtDevice.mmioRead device offset size).map id .block
    | .net device,offset,size => (VirtDevice.mmioRead device offset size).map id .net
    | .audio device,offset,size => (VirtDevice.mmioRead device offset size).map id .audio
  mmioWrite
    | .serial device,offset,size,value =>
      (VirtDevice.mmioWrite device offset size value).map id .serial
    | .rng device,offset,size,value => (VirtDevice.mmioWrite device offset size value).map id .rng
    | .block device,offset,size,value =>
      (VirtDevice.mmioWrite device offset size value).map id .block
    | .net device,offset,size,value => (VirtDevice.mmioWrite device offset size value).map id .net
    | .audio device,offset,size,value =>
      (VirtDevice.mmioWrite device offset size value).map id .audio
  reset
    | .serial device => (VirtDevice.reset device).map id .serial
    | .rng device => (VirtDevice.reset device).map id .rng
    | .block device => (VirtDevice.reset device).map id .block
    | .net device => (VirtDevice.reset device).map id .net
    | .audio device => (VirtDevice.reset device).map id .audio
  deviceTreeCompatible
    | .serial device => VirtDevice.deviceTreeCompatible device
    | .rng device => VirtDevice.deviceTreeCompatible device
    | .block device => VirtDevice.deviceTreeCompatible device
    | .net device => VirtDevice.deviceTreeCompatible device
    | .audio device => VirtDevice.deviceTreeCompatible device

/-- No device panics when it is reset. -/
theorem reset_ok (device : Device) : (VirtDevice.reset device).1=.ok () := by
  cases device <;> rfl

end LiteDroid.DevicesKinds
