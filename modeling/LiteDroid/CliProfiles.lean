import LiteDroid.ConfigProfiles

/-!
# Profiles of the command line

The command line writes a profile from its arguments without checking them: a
resolution that it cannot read is dropped, and the limits of memory and of
processors are left to the next start. A profile that was created can be
started as requested exactly when its memory lies within the limits, it has a
processor and its resolution is one that could be read.
-/

namespace LiteDroid.CliProfiles

open LexicalPath CoreResults EffectRun FileTree ConfigFile IpcMessages ConfigProfiles
open CoreDeviceConfig (defaultRamMb validate_ok_iff)
open ConfigPaths hiding LiteDroidConfig GlobalConfig

/-- The arguments of the command that creates a profile. -/
structure CreateArgs where
  /-- Name of the profile. -/
  name : String
  /-- Resolution, as it was typed. -/
  resolution : Option String
  /-- Dots per inch. -/
  dpi : Option UInt32
  /-- Memory in megabytes. -/
  ram : Option UInt64
  /-- Number of virtual CPUs. -/
  cpu : Option UInt32
  deriving DecidableEq, Repr

/-- A text before and behind the first occurrence of a character. -/
def splitOnce (c : Char) : List Char → Option (List Char×List Char)
  | [] => none
  | d::rest =>
    if d=c then some ([],rest)
    else (splitOnce c rest).map fun halves => (d::halves.1,halves.2)

/-- The number that decimal digits stand for, behind an optional plus sign. -/
def numeral (text : List Char) : Option ℕ :=
  let digits := if text.head?=some '+' then text.tail else text
  if digits=[] then none
  else digits.foldlM (fun n c => if c.isDigit then some (n*10+(c.toNat-48)) else none) 0

/-- A numeral that fits 32 bits. -/
def parseU32 (text : List Char) : Option UInt32 :=
  (numeral text).bind fun n => if n < 2^32 then some (UInt32.ofNat n) else none

/-- The display of a resolution; one that cannot be read keeps the display. -/
def withResolution (display : DisplayConfig) : Option String → DisplayConfig
  | none => display
  | some text =>
    match splitOnce 'x' text.toList with
    | none => display
    | some (w,h) =>
      match parseU32 w,parseU32 h with
      | some w,some h => {display with width := w, height := h}
      | _,_ => display

/-- The configuration that the arguments ask for. -/
def requestedDevice (args : CreateArgs) (id : Uuid) : DeviceConfig :=
  let device := DeviceConfig.default id
  let display := withResolution device.display args.resolution
  {device with
    name := args.name
    display := {display with dpi := args.dpi.getD display.dpi}
    ramMb := args.ram.getD device.ramMb
    vcpuCount := args.cpu.getD device.vcpuCount}

/-- The metadata that the command line writes, in key order. -/
def createMetadata (host : Host) (config : LiteDroidConfig) (device : DeviceConfig) : Json :=
  .obj [("android_version",.str device.androidVersion),("api_level",.num device.apiLevel.toNat),
    ("dpi",.num device.display.dpi.toNat),("height",.num device.display.height.toNat),
    ("id",.str device.id),("initramfs_path",.str (imagePath host config "ramdisk.img")),
    ("kernel_path",.str (imagePath host config "kernel")),("name",.str device.name),
    ("profile",.str device.profile.text),("ram_mb",.num device.ramMb.toNat),
    ("system_image_path",.str (imagePath host config "system.img")),
    ("vcpu_count",.num device.vcpuCount.toNat),("width",.num device.display.width.toNat)]

/-- Exit status of a command and the files it left. -/
structure CommandReport where
  /-- Exit status. -/
  status : ℕ
  /-- The files afterwards. -/
  files : Files

/-- Create a profile. That its directory cannot be created is ignored. -/
def cmdDeviceCreate (toml : Toml) (json : JsonCodec) (host : Host) (args : CreateArgs) (id : Uuid)
    (files : Files) : CommandReport :=
  match load toml host files with
  | .error _ files => ⟨1,files⟩
  | .ok config files =>
    let made := left (createDirAll host (createDirectory host config.paths args.name) files)
    let metadata := createMetadata host config (requestedDevice args id)
    match writeFile host (metadataPath host config.paths args.name)
      (json.toStringPretty metadata) made with
    | .ok _ files => ⟨0,files⟩
    | .error _ files => ⟨1,files⟩

/-- Delete a profile. -/
def cmdDeviceDelete (toml : Toml) (host : Host) (name : String) (files : Files) : CommandReport :=
  match load toml host files with
  | .error _ files => ⟨1,files⟩
  | .ok config files =>
    match files.removeDirAll (resolve host.cwd (deleteDirectory host config.paths name)) with
    | .ok files => ⟨0,files⟩
    | .error _ => ⟨1,files⟩

/-- The width and the height that the text of a resolution asks for. -/
def Requests (text : String) (width height : ℕ) : Prop :=
  ∃ left right, splitOnce 'x' text.toList=some (left,right) ∧ numeral left=some width ∧
    numeral right=some height

/-- A configuration has the values that the arguments ask for, the default ones
where they ask for none. -/
structure Yields (args : CreateArgs) (device : DeviceConfig) : Prop where
  /-- Number of virtual CPUs. -/
  vcpuCount : device.vcpuCount=args.cpu.getD defaultVcpuCount
  /-- Memory in megabytes. -/
  ramMb : device.ramMb=args.ram.getD defaultRamMb
  /-- Dots per inch. -/
  dpi : device.display.dpi=args.dpi.getD 420
  /-- The default resolution. -/
  plain : args.resolution=none → device.display.width=1080 ∧ device.display.height=1920
  /-- A requested resolution. -/
  requested : ∀ text, args.resolution=some text →
    Requests text device.display.width.toNat device.display.height.toNat

/-- A resolution whose numbers fit 32 bits. -/
def Readable (text : String) : Prop := ∃ width height, Requests text width height ∧
  width < 2^32 ∧ height < 2^32

/-- A text is parsed exactly when it is a numeral that fits. -/
theorem parseU32_eq_some {text : List Char} {value : UInt32} :
    parseU32 text=some value ↔ numeral text=some value.toNat := by
  unfold parseU32
  constructor
  · intro h
    obtain ⟨n,hn,hvalue⟩ := Option.bind_eq_some_iff.mp h
    split at hvalue
    · rename_i hlt
      obtain rfl := Option.some.inj hvalue
      rw [UInt32.toNat_ofNat',Nat.mod_eq_of_lt hlt]
      exact hn
    · cases hvalue
  · intro h
    rw [h,Option.bind_some,if_pos value.toNat_lt,UInt32.ofNat_toNat]

/-- A readable resolution is the one of the display. -/
theorem withResolution_requests {text : String} (h : Readable text) (display : DisplayConfig) :
    Requests text (withResolution display (some text)).width.toNat
      (withResolution display (some text)).height.toNat := by
  obtain ⟨width,height,⟨left,right,hsplit,hleft,hright⟩,hw,hh⟩ := h
  have hwidth : parseU32 left=some (UInt32.ofNat width) := by
    rw [parseU32_eq_some,UInt32.toNat_ofNat',Nat.mod_eq_of_lt hw]
    exact hleft
  have hheight : parseU32 right=some (UInt32.ofNat height) := by
    rw [parseU32_eq_some,UInt32.toNat_ofNat',Nat.mod_eq_of_lt hh]
    exact hright
  unfold withResolution
  dsimp only
  rw [hsplit]
  dsimp only
  rw [hwidth,hheight]
  exact ⟨left,right,hsplit,parseU32_eq_some.mp hwidth,parseU32_eq_some.mp hheight⟩

/-- The metadata of the command line describes its configuration. -/
theorem createMetadata_describes (host : Host) (config : LiteDroidConfig) (device : DeviceConfig) :
    Describes (createMetadata host config device) device := by
  constructor
  case apiLevel => exact Or.inl rfl
  all_goals rfl

/-- A profile that was created stands in the files. -/
theorem cmdDeviceCreate_stored {toml : Toml} {json : JsonCodec} {host : Host} {args : CreateArgs}
    {id : Uuid} {files loaded : Files} {config : LiteDroidConfig}
    (hload : load toml host files=.ok config loaded)
    (h : (cmdDeviceCreate toml json host args id files).status=0) :
    Stored json host config args.name (createMetadata host config (requestedDevice args id))
      (cmdDeviceCreate toml json host args id files).files := by
  unfold cmdDeviceCreate at h ⊢
  rw [hload] at h ⊢
  dsimp only at h ⊢
  split at h
  · rename_i written hwrite
    obtain ⟨-,hfile,-⟩ := Tree.write_ok (io_ok_iff.mp (update_ok_iff.mp hwrite))
    exact Tree.content_eq_some.mpr hfile
  · cases h

/-- Reading a resolution keeps the dots per inch. -/
theorem withResolution_dpi (display : DisplayConfig) (resolution : Option String) :
    (withResolution display resolution).dpi=display.dpi := by
  unfold withResolution
  split
  · rfl
  · split
    · rfl
    · split
      · rfl
      · rfl

/-- The configuration that is written has the values that the arguments ask for
exactly when their resolution can be read. -/
theorem requestedDevice_yields_iff (args : CreateArgs) (id : Uuid) :
    Yields args (requestedDevice args id) ↔
      ∀ text, args.resolution=some text → Readable text := by
  constructor
  · intro h text htext
    exact ⟨_,_,h.requested text htext,UInt32.toNat_lt _,UInt32.toNat_lt _⟩
  · intro h
    refine ⟨rfl,rfl,?_,?_,?_⟩
    · unfold requestedDevice
      dsimp only
      rw [withResolution_dpi]
      rfl
    · intro hnone
      unfold requestedDevice
      rw [hnone]
      exact ⟨rfl,rfl⟩
    · intro text htext
      unfold requestedDevice
      rw [htext]
      exact withResolution_requests (h text htext) _

/-- Whether a configuration has the requested values depends on these alone. -/
theorem Yields.of_eq {args : CreateArgs} {device other : DeviceConfig} (h : Yields args device)
    (hcpu : device.vcpuCount=other.vcpuCount) (hram : device.ramMb=other.ramMb)
    (hwidth : device.display.width=other.display.width)
    (hheight : device.display.height=other.display.height)
    (hdpi : device.display.dpi=other.display.dpi) : Yields args other := by
  obtain ⟨hvcpus,hmemory,hdots,hplain,hrequested⟩ := h
  rw [hcpu] at hvcpus
  rw [hram] at hmemory
  rw [hdpi] at hdots
  rw [hwidth,hheight] at hplain hrequested
  exact ⟨hvcpus,hmemory,hdots,hplain,hrequested⟩

/-- A profile that was created is loaded with the requested values exactly when
its memory lies between 512 and 8192 megabytes, it has a virtual CPU, and its
resolution, if one was given, is two numbers of 32 bits. -/
theorem created_profile_starts_iff (toml : Toml) (json : JsonCodec) (host : Host)
    (args : CreateArgs) (id loadId : Uuid) (files loaded : Files) (config : LiteDroidConfig)
    (hload : load toml host files=.ok config loaded)
    (hcreate : (cmdDeviceCreate toml json host args id files).status=0)
    (hround : json.fromStr (json.toStringPretty
      (createMetadata host config (requestedDevice args id)))=
        .ok (createMetadata host config (requestedDevice args id))) :
    (∃ device, deviceConfig json host config args.name loadId
        (cmdDeviceCreate toml json host args id files).files=.ok device ∧ Yields args device) ↔
      512 ≤ (args.ram.getD defaultRamMb).toNat ∧ (args.ram.getD defaultRamMb).toNat ≤ 8192 ∧
        args.cpu.getD defaultVcpuCount≠0 ∧
        ∀ text, args.resolution=some text → Readable text := by
  have hstored := cmdDeviceCreate_stored hload hcreate
  have hdescribes := createMetadata_describes host config (requestedDevice args id)
  have hread := withMetadata_describes hdescribes
    (show (defaultDeviceConfig host config loadId).apiLevel=34 from rfl) args.name
  have hvalues := requestedDevice_yields_iff args id
  constructor
  · rintro ⟨device,hdevice,hyields⟩
    obtain ⟨rfl,hvalid⟩ := (deviceConfig_stored hstored hround loadId device).mp hdevice
    rw [hread] at hvalid hyields
    obtain ⟨hmin,hmax,hcpu,-⟩ := (validate_ok_iff _).mp hvalid
    exact ⟨hmin,hmax,hcpu,hvalues.mp (hyields.of_eq rfl rfl rfl rfl rfl)⟩
  · rintro ⟨hmin,hmax,hcpu,hresolution⟩
    refine ⟨_,(deviceConfig_stored hstored hround loadId _).mpr ⟨rfl,?_⟩,?_⟩
    · rw [hread]
      exact (validate_ok_iff _).mpr ⟨hmin,hmax,hcpu,List.cons_ne_nil _ _⟩
    · rw [hread]
      exact (hvalues.mpr hresolution).of_eq rfl rfl rfl rfl rfl

/-- A field of a flat object on a line of its own. -/
def fieldLine : String×Json → String
  | (key,.str text) => "  \""++key++"\": \""++text++"\""
  | (key,.num n) => "  \""++key++"\": "++toString n
  | (key,_) => "  \""++key++"\": null"

/-- A flat object of plain texts and numbers as the serialiser writes it. -/
def plainJson : Json → String
  | .obj fields => "\x7b\n"++",\n".intercalate (fields.map fieldLine)++"\n\x7d"
  | _ => "null"

/-- The profile of a phone with an amount of memory. -/
def phoneArgs (ram : UInt64) : CreateArgs := ⟨"phone",some "720x1280",none,some ram,some 2⟩

/-- The metadata that is written for it. -/
def phoneMetadata (ram : UInt64) : Json :=
  createMetadata userHost .default
    (requestedDevice (phoneArgs ram) "6f9619ff-8b86-4d01-b42d-00cf4fc964ff")

/-- The serialiser on the metadata of two phones. -/
def sampleJson : JsonCodec where
  toStringPretty := plainJson
  fromStr text :=
    if text=plainJson (phoneMetadata 1024) then .ok (phoneMetadata 1024)
    else if text=plainJson (phoneMetadata 256) then .ok (phoneMetadata 256)
    else .error "expected value at line 1 column 1"

/-- The serialiser reads back both of them. -/
theorem sampleJson_phone :
    sampleJson.fromStr (plainJson (phoneMetadata 1024))=.ok (phoneMetadata 1024) ∧
      sampleJson.fromStr (plainJson (phoneMetadata 256))=.ok (phoneMetadata 256) := by
  have hother : plainJson (phoneMetadata 256)≠plainJson (phoneMetadata 1024) := by decide +kernel
  unfold sampleJson
  dsimp only
  rw [if_pos rfl,if_neg hother,if_pos rfl]
  exact ⟨rfl,rfl⟩

/-- What creating the profile of a phone does on a host without files. -/
def phoneCreated (ram : UInt64) : CommandReport :=
  cmdDeviceCreate sampleToml sampleJson userHost (phoneArgs ram)
    "6f9619ff-8b86-4d01-b42d-00cf4fc964ff" bareFiles

/-- Where no configuration is written, the default one is loaded, if any. -/
theorem load_unwritten {toml : Toml} {host : Host} {files : Files}
    (hok : succeeded (load toml host files)=true)
    (hnone : files.content? (resolve host.cwd (loadedPath host))=none) :
    ∃ loaded, load toml host files=.ok .default loaded := by
  cases hload : load toml host files with
  | error fault after =>
    rw [hload] at hok
    cases hok
  | ok config after =>
    rcases load_ok hload with rfl | ⟨text,htext,-⟩
    · exact ⟨after,rfl⟩
    · rw [hnone] at htext
      cases htext

/-- A host without files loads the default configuration. -/
theorem load_bareFiles : ∃ loaded, load sampleToml userHost bareFiles=.ok .default loaded :=
  load_unwritten (by decide +kernel) (by decide +kernel)

/-- The criterion applies to a phone with 1024 megabytes. -/
theorem created_profile_starts_iff_phone :
    (phoneCreated 1024).status=0 ∧
      ∃ device, deviceConfig sampleJson userHost .default "phone"
          "00000000-0000-4000-8000-000000000001" (phoneCreated 1024).files=.ok device ∧
        Yields (phoneArgs 1024) device := by
  have hstatus : (phoneCreated 1024).status=0 := by decide +kernel
  obtain ⟨loaded,hload⟩ := load_bareFiles
  refine ⟨hstatus,(created_profile_starts_iff sampleToml sampleJson userHost (phoneArgs 1024)
    "6f9619ff-8b86-4d01-b42d-00cf4fc964ff" "00000000-0000-4000-8000-000000000001" bareFiles loaded
    .default hload hstatus sampleJson_phone.1).mpr ⟨by decide,by decide,by decide,?_⟩⟩
  intro text htext
  obtain rfl := Option.some.inj htext
  exact ⟨720,1280,⟨"720".toList,"1280".toList,by decide,by decide,by decide⟩,by decide,by decide⟩

/-- A phone with 256 megabytes is created with status zero and refused whenever
it is loaded. -/
theorem small_phone_refused :
    (phoneCreated 256).status=0 ∧
      sampleJson.fromStr (sampleJson.toStringPretty (phoneMetadata 256))=.ok (phoneMetadata 256) ∧
      ∀ id device, deviceConfig sampleJson userHost .default "phone" id (phoneCreated 256).files≠
        .ok device := by
  have hstatus : (phoneCreated 256).status=0 := by decide +kernel
  obtain ⟨loaded,hload⟩ := load_bareFiles
  have hstored : Stored sampleJson userHost .default "phone" (phoneMetadata 256)
      (phoneCreated 256).files := cmdDeviceCreate_stored hload hstatus
  refine ⟨hstatus,sampleJson_phone.2,?_⟩
  intro id device hdevice
  obtain ⟨rfl,hvalid⟩ := (deviceConfig_stored hstored sampleJson_phone.2 id device).mp hdevice
  have hread := withMetadata_describes (createMetadata_describes userHost .default
    (requestedDevice (phoneArgs 256) "6f9619ff-8b86-4d01-b42d-00cf4fc964ff"))
    (show (defaultDeviceConfig userHost .default id).apiLevel=34 from rfl) "phone"
  rw [phoneMetadata,hread] at hvalid
  have hmin : 512 ≤ (256 : UInt64).toNat := ((validate_ok_iff _).mp hvalid).1
  exact absurd hmin (by decide)

end LiteDroid.CliProfiles
