import LiteDroid.ConfigFile
import LiteDroid.CoreDeviceConfig
import LiteDroid.IpcMessages

/-!
# Device profiles

A profile is a directory below the devices directory with a file of metadata.
The command line, the control panel and the configuration crate each write
such a file; the configuration crate reads it back field by field over a
default configuration and checks the result. Every default configuration
draws an identifier of its own, and the reader never looks at the written one.
-/

namespace LiteDroid.ConfigProfiles

open LexicalPath CoreResults CoreDeviceConfig EffectRun FileTree ConfigFile IpcMessages
open ConfigPaths hiding LiteDroidConfig GlobalConfig

/-- An identifier, as its text. -/
abbrev Uuid := String

/-- Processor architectures. -/
inductive Architecture where
  /-- 64-bit x86. -/
  | x8664
  /-- 64-bit ARM. -/
  | aarch64
  deriving DecidableEq, Repr

/-- The display of a device. -/
structure DisplayConfig where
  /-- Width in pixels. -/
  width : UInt32
  /-- Height in pixels. -/
  height : UInt32
  /-- Dots per inch. -/
  dpi : UInt32
  /-- Frames per second. -/
  refreshRate : UInt32
  deriving DecidableEq, Repr

/-- Transport protocols of forwarded ports. -/
inductive PortProtocol where
  /-- TCP. -/
  | tcp
  /-- UDP. -/
  | udp
  deriving DecidableEq, Repr

/-- A port forwarded from the host to the guest. -/
structure PortForward where
  /-- Port on the host. -/
  hostPort : UInt16
  /-- Port in the guest. -/
  guestPort : UInt16
  /-- Transport protocol. -/
  protocol : PortProtocol
  deriving DecidableEq, Repr

/-- The network of a device. -/
structure NetworkConfig where
  /-- Whether there is one. -/
  enabled : Bool
  /-- Forwarded ports. -/
  portForwards : List PortForward
  /-- Address of the guest. -/
  guestIp : String
  /-- Address of its gateway. -/
  gatewayIp : String
  deriving DecidableEq, Repr

/-- The audio of a device. -/
structure AudioConfig where
  /-- Whether there is any. -/
  enabled : Bool
  /-- Sound server of the host. -/
  backend : String
  /-- Samples per second. -/
  sampleRate : UInt32
  /-- Number of channels. -/
  channels : UInt32
  deriving DecidableEq, Repr

/-- The disk images of a device. -/
structure StorageConfig where
  /-- Image of the user's data. -/
  userdataPath : String
  /-- Its size in megabytes. -/
  userdataSizeMb : UInt64
  /-- Image of the cache. -/
  cachePath : String
  /-- Its size in megabytes. -/
  cacheSizeMb : UInt64
  deriving DecidableEq, Repr

/-- The profiles that configurations are derived from. -/
inductive DeviceProfile where
  /-- Minimal resources. -/
  | minimal
  /-- Resources for interactive development. -/
  | developer
  /-- Balanced resources. -/
  | compatibility
  deriving DecidableEq, Repr

/-- The name of a profile as it is printed for debugging. -/
def DeviceProfile.text : DeviceProfile → String
  | .minimal => "Minimal"
  | .developer => "Developer"
  | .compatibility => "Compatibility"

/-- The whole configuration of a virtual device. -/
structure DeviceConfig extends CoreDeviceConfig.DeviceConfig where
  /-- Name shown to the user. -/
  name : String
  /-- Identifier of the device. -/
  id : Uuid
  /-- Emulated architecture. -/
  architecture : Architecture
  /-- The display. -/
  display : DisplayConfig
  /-- The network. -/
  network : NetworkConfig
  /-- The audio. -/
  audio : AudioConfig
  /-- The disk images. -/
  storage : StorageConfig
  /-- Path to the guest kernel. -/
  kernelPath : String
  /-- Path to the initramfs. -/
  initramfsPath : String
  /-- Path to a device tree. -/
  dtbPath : Option String
  /-- Android version. -/
  androidVersion : String
  /-- Android interface level. -/
  apiLevel : UInt32
  /-- Profile it was derived from. -/
  profile : DeviceProfile
  deriving DecidableEq, Repr

/-- Default number of virtual CPUs. -/
def defaultVcpuCount : UInt32 := 4

/-- The default kernel command line. -/
def defaultKernelCmdline : String :=
  "console=ttyS0 androidboot.hardware=litedroid androidboot.serialno=LITEDROID001 "++
    "androidboot.mode=normal root=/dev/ram0 rw init=/init"

/-- The default configuration, with the identifier that was drawn for it. -/
def DeviceConfig.default (id : Uuid) : DeviceConfig where
  name := "LiteDroid"
  id := id
  architecture := .x8664
  vcpuCount := defaultVcpuCount
  ramMb := defaultRamMb
  display := ⟨1080,1920,420,60⟩
  network := ⟨true,[],"10.0.2.15","10.0.2.2"⟩
  audio := ⟨true,"pulseaudio",48000,2⟩
  storage := ⟨"",4096,"",1024⟩
  kernelPath := ""
  initramfsPath := ""
  systemImagePath := ""
  dtbPath := none
  supportedAbis := [.x8664]
  kernelCmdline := defaultKernelCmdline.toUTF8.toList
  androidVersion := "14"
  apiLevel := 34
  profile := .developer

/-- A file of the images directory, as a text. -/
def imagePath (host : Host) (config : LiteDroidConfig) (file : String) : String :=
  String.ofList (join (config.imagesDir host) file.toList)

/-- The default configuration with the paths of the shared images. -/
def defaultDeviceConfig (host : Host) (config : LiteDroidConfig) (id : Uuid) : DeviceConfig :=
  let device := DeviceConfig.default id
  {device with
    storage := {device.storage with
      userdataPath := imagePath host config "userdata.img"
      cachePath := imagePath host config "cache.img"}
    kernelPath := imagePath host config "kernel"
    initramfsPath := imagePath host config "ramdisk.img"
    systemImagePath := imagePath host config "system.img"}

/-- The serialiser of JSON values. -/
structure JsonCodec where
  /-- A value as a text. -/
  toStringPretty : Json → String
  /-- The value of a text. -/
  fromStr : String → Except String Json

/-- A text field of the metadata. -/
def textField (metadata : Json) (key : String) : Option String :=
  (metadata.get? key).bind Json.asStr?

/-- A number field of the metadata. -/
def numberField (metadata : Json) (key : String) : Option UInt64 :=
  (metadata.get? key).bind Json.asU64?

/-- A configuration with the fields of some metadata. A field that is missing or
of another kind keeps its value; a number too large for its field is cut. -/
def DeviceConfig.withMetadata (device : DeviceConfig) (name : String) (metadata : Json) :
    DeviceConfig :=
  {device with
    name := (textField metadata "name").getD name
    vcpuCount := ((numberField metadata "vcpu_count").map UInt64.toUInt32).getD device.vcpuCount
    ramMb := (numberField metadata "ram_mb").getD device.ramMb
    androidVersion := (textField metadata "android_version").getD device.androidVersion
    apiLevel := ((numberField metadata "api_level").map UInt64.toUInt32).getD device.apiLevel
    display := {device.display with
      width := ((numberField metadata "width").map UInt64.toUInt32).getD device.display.width
      height := ((numberField metadata "height").map UInt64.toUInt32).getD device.display.height
      dpi := ((numberField metadata "dpi").map UInt64.toUInt32).getD device.display.dpi}}

/-- Load a profile, with the identifier that is drawn for it. -/
def deviceConfig (json : JsonCodec) (host : Host) (config : LiteDroidConfig) (name : String)
    (id : Uuid) (files : Files) : Outcome DeviceConfig :=
  match files.read (resolve host.cwd (metadataPath host config.paths name)) with
  | .error _ => .error (.error (.deviceNotFound name))
  | .ok text =>
    match json.fromStr text with
    | .error e => .error (.error (.configError e))
    | .ok metadata =>
      let device := (defaultDeviceConfig host config id).withMetadata name metadata
      match device.validate with
      | .error fault => .error fault
      | .ok () => .ok device

/-- The metadata that the configuration crate writes, in key order. -/
def defaultMetadata (device : DeviceConfig) : Json :=
  .obj [("android_version",.str device.androidVersion),("api_level",.num device.apiLevel.toNat),
    ("dpi",.num device.display.dpi.toNat),("height",.num device.display.height.toNat),
    ("id",.str device.id),("name",.str device.name),("ram_mb",.num device.ramMb.toNat),
    ("vcpu_count",.num device.vcpuCount.toNat),("width",.num device.display.width.toNat)]

/-- Write a profile into its directory, which is created where it is missing. -/
def writeProfile (json : JsonCodec) (host : Host) (config : LiteDroidConfig) (name : String)
    (metadata : Json) : Action Unit := do
  createDirAll host (createDirectory host config.paths name)
  writeFile host (metadataPath host config.paths name) (json.toStringPretty metadata)

/-- Create the default profile on first use, with the identifier that is drawn
for it, and return its configuration. -/
def ensureDefaultDevice (json : JsonCodec) (host : Host) (config : LiteDroidConfig) (id : Uuid) :
    Action DeviceConfig := do
  let files ← get
  if (files.content? (resolve host.cwd (metadataPath host config.paths "default"))).isSome then
    returning (deviceConfig json host config "default" id files)
  else
    let device := {defaultDeviceConfig host config id with name := "default"}
    writeProfile json host config "default" (defaultMetadata device)
    return device

/-- The metadata of a profile as it stands in the files. -/
def Stored (json : JsonCodec) (host : Host) (config : LiteDroidConfig) (name : String)
    (metadata : Json) (files : Files) : Prop :=
  files.content? (resolve host.cwd (metadataPath host config.paths name))=
    some (json.toStringPretty metadata)

/-- Where the default profile is missing, it is written and its configuration
returned. -/
theorem ensureDefaultDevice_missing {json : JsonCodec} {host : Host} {config : LiteDroidConfig}
    {files : Files}
    (h : files.content? (resolve host.cwd (metadataPath host config.paths "default"))=none)
    (id : Uuid) :
    ensureDefaultDevice json host config id files=
      (writeProfile json host config "default"
          (defaultMetadata {defaultDeviceConfig host config id with name := "default"}) >>=
        fun _ => pure {defaultDeviceConfig host config id with name := "default"} :
          Action DeviceConfig) files := by
  change (if (files.content? (resolve host.cwd (metadataPath host config.paths "default"))).isSome
    then returning (deviceConfig json host config "default" id files)
    else _ : Action DeviceConfig) files=_
  rw [h]
  rfl

/-- Where the default profile stands, making sure of it changes nothing. -/
theorem ensureDefaultDevice_present {json : JsonCodec} {host : Host} {config : LiteDroidConfig}
    {files : Files} {text : String}
    (h : files.content? (resolve host.cwd (metadataPath host config.paths "default"))=some text)
    (id : Uuid) :
    ensureDefaultDevice json host config id files=
      returning (deviceConfig json host config "default" id files) files := by
  change (if (files.content? (resolve host.cwd (metadataPath host config.paths "default"))).isSome
    then returning (deviceConfig json host config "default" id files)
    else _ : Action DeviceConfig) files=_
  rw [h]
  rfl

/-- What is loaded from a text that is understood: the default configuration with
the fields of its metadata, if the result passes the check. -/
theorem deviceConfig_text {json : JsonCodec} {host : Host} {config : LiteDroidConfig}
    {name text : String} {metadata : Json} {files : Files}
    (htext : files.content? (resolve host.cwd (metadataPath host config.paths name))=some text)
    (hparse : json.fromStr text=.ok metadata) (id : Uuid) (device : DeviceConfig) :
    deviceConfig json host config name id files=.ok device ↔
      device=(defaultDeviceConfig host config id).withMetadata name metadata ∧
        device.validate=.ok () := by
  unfold deviceConfig
  rw [Tree.read_ok_iff.mpr htext]
  dsimp only
  rw [hparse]
  dsimp only
  cases hvalid : ((defaultDeviceConfig host config id).withMetadata name metadata).validate with
  | error fault =>
    constructor
    · intro h
      cases h
    · rintro ⟨rfl,hdevice⟩
      rw [hvalid] at hdevice
      cases hdevice
  | ok _ =>
    constructor
    · intro h
      obtain rfl := Except.ok.inj h
      exact ⟨rfl,hvalid⟩
    · rintro ⟨rfl,-⟩
      rfl

/-- What is loaded from stored metadata. -/
theorem deviceConfig_stored {json : JsonCodec} {host : Host} {config : LiteDroidConfig}
    {name : String} {metadata : Json} {files : Files}
    (hstored : Stored json host config name metadata files)
    (hround : json.fromStr (json.toStringPretty metadata)=.ok metadata) (id : Uuid)
    (device : DeviceConfig) :
    deviceConfig json host config name id files=.ok device ↔
      device=(defaultDeviceConfig host config id).withMetadata name metadata ∧
        device.validate=.ok () := deviceConfig_text hstored hround id device

/-- Metadata describes a configuration: it holds the fields that a reader looks
for, the interface level perhaps left out where it is the default one. -/
structure Describes (metadata : Json) (device : DeviceConfig) : Prop where
  /-- Name. -/
  name : metadata.get? "name"=some (.str device.name)
  /-- Identifier. -/
  id : metadata.get? "id"=some (.str device.id)
  /-- Android version. -/
  androidVersion : metadata.get? "android_version"=some (.str device.androidVersion)
  /-- Interface level. -/
  apiLevel : metadata.get? "api_level"=some (.num device.apiLevel.toNat) ∨
    metadata.get? "api_level"=none ∧ device.apiLevel=34
  /-- Memory. -/
  ramMb : metadata.get? "ram_mb"=some (.num device.ramMb.toNat)
  /-- Virtual CPUs. -/
  vcpuCount : metadata.get? "vcpu_count"=some (.num device.vcpuCount.toNat)
  /-- Width. -/
  width : metadata.get? "width"=some (.num device.display.width.toNat)
  /-- Height. -/
  height : metadata.get? "height"=some (.num device.display.height.toNat)
  /-- Dots per inch. -/
  dpi : metadata.get? "dpi"=some (.num device.display.dpi.toNat)

/-- A written text is read back. -/
theorem textField_str {metadata : Json} {key text : String}
    (h : metadata.get? key=some (.str text)) : textField metadata key=some text := by
  rw [textField,h]
  rfl

/-- A written 64-bit number is read back. -/
theorem numberField_num {metadata : Json} {key : String} {value : UInt64}
    (h : metadata.get? key=some (.num value.toNat)) : numberField metadata key=some value := by
  rw [numberField,h,Option.bind_some,Json.asU64?,if_pos value.toNat_lt,UInt64.ofNat_toNat]

/-- A written 32-bit number is read back. -/
theorem numberField_word {metadata : Json} {key : String} {value : UInt32}
    (h : metadata.get? key=some (.num value.toNat)) :
    (numberField metadata key).map UInt64.toUInt32=some value := by
  have hlt := value.toNat_lt
  have hword : metadata.get? key=some (.num value.toUInt64.toNat) := by
    rw [h,UInt32.toNat_toUInt64]
  rw [numberField_num hword,Option.map_some,UInt32.toUInt32_toUInt64]

/-- What is loaded from metadata that describes a configuration: its name and
numbers over the default configuration, which keeps its own identifier. -/
theorem withMetadata_describes {metadata : Json} {device base : DeviceConfig}
    (h : Describes metadata device) (hbase : base.apiLevel=34) (name : String) :
    base.withMetadata name metadata=
      {base with
        name := device.name
        vcpuCount := device.vcpuCount
        ramMb := device.ramMb
        androidVersion := device.androidVersion
        apiLevel := device.apiLevel
        display := {base.display with
          width := device.display.width
          height := device.display.height
          dpi := device.display.dpi}} := by
  have hlevel : ((numberField metadata "api_level").map UInt64.toUInt32).getD base.apiLevel=
      device.apiLevel := by
    rcases h.apiLevel with hsome | ⟨hnone,hdefault⟩
    · rw [numberField_word hsome,Option.getD_some]
    · rw [numberField,hnone,hbase,hdefault]
      rfl
  unfold DeviceConfig.withMetadata
  rw [textField_str h.name,textField_str h.androidVersion,numberField_num h.ramMb,hlevel,
    numberField_word h.vcpuCount,numberField_word h.width,numberField_word h.height,
    numberField_word h.dpi]
  rfl

/-- The configuration crate's metadata describes its configuration. -/
theorem defaultMetadata_describes (device : DeviceConfig) :
    Describes (defaultMetadata device) device := by
  constructor
  case apiLevel => exact Or.inl rfl
  all_goals rfl

end LiteDroid.ConfigProfiles
