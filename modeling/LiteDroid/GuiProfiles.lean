import LiteDroid.CliProfiles
import LiteDroid.StepRun

/-!
# Profiles of the control panel

The control panel names a new profile after the number of profiles it lists.
That number and the names in use change independently, so the name may already
be taken; its directory is then reused and its metadata overwritten. Creating a
profile adds one and leaves every file as it was exactly when nothing stands at
the new profile's directory.
-/

namespace LiteDroid.GuiProfiles

open LexicalPath CoreResults EffectRun FileTree ConfigFile IpcMessages ConfigProfiles CliProfiles
open StepRun
open ConfigPaths hiding LiteDroidConfig GlobalConfig

/-- A line of the device list. -/
structure DeviceRow where
  /-- Name in the metadata. -/
  name : String
  /-- Android version in the metadata. -/
  androidVersion : String
  /-- Memory in the metadata. -/
  ramMb : UInt64
  /-- Virtual CPUs in the metadata. -/
  vcpuCount : UInt64
  deriving DecidableEq, Repr

/-- The line of some metadata. -/
def deviceRow (metadata : Json) : DeviceRow :=
  ⟨(textField metadata "name").getD "Unknown",(textField metadata "android_version").getD "?",
    (numberField metadata "ram_mb").getD 0,(numberField metadata "vcpu_count").getD 0⟩

/-- The lines of the profiles in the devices directory. What has no readable
metadata is passed over. -/
def listDevices (json : JsonCodec) (host : Host) (config : LiteDroidConfig) (files : Files) :
    List DeviceRow :=
  (files.children (devicesPlace host config.paths)).filterMap fun place =>
    match files.content? (place++["metadata.json".toList]) with
    | none => none
    | some text =>
      match json.fromStr text with
      | .error _ => none
      | .ok metadata => some (deviceRow metadata)

/-- The loaded configuration, the default one when it cannot be loaded, and the
files that loading left. -/
def loadOrDefault (toml : Toml) (host : Host) (files : Files) : LiteDroidConfig×Files :=
  match load toml host files with
  | .ok config files => (config,files)
  | .error _ files => (.default,files)

/-- The control panel's device list and the files of the host. -/
structure Panel where
  /-- The device list. -/
  devices : List DeviceRow
  /-- The files. -/
  files : Files

/-- Refresh the device list. The default profile is created where it is missing. -/
def refresh (toml : Toml) (json : JsonCodec) (host : Host) (id : Uuid) (files : Files) : Panel :=
  let loaded := loadOrDefault toml host files
  let ensured := left (ensureDefaultDevice json host loaded.1 id loaded.2)
  ⟨listDevices json host loaded.1 ensured,ensured⟩

/-- The name of the next profile. -/
def nextName (devices : List DeviceRow) : String := "PixelLite-"++toString (devices.length+1)

/-- The metadata that the control panel writes, in key order. -/
def guiMetadata (name : String) (device : DeviceConfig) : Json :=
  .obj [("android_version",.str device.androidVersion),("dpi",.num device.display.dpi.toNat),
    ("height",.num device.display.height.toNat),("id",.str device.id),("name",.str name),
    ("ram_mb",.num device.ramMb.toNat),("vcpu_count",.num device.vcpuCount.toNat),
    ("width",.num device.display.width.toNat)]

/-- Whether a profile was created, and the panel afterwards. -/
structure CreateReport where
  /-- Whether the profile was created. -/
  created : Bool
  /-- The panel afterwards. -/
  panel : Panel

/-- Create a profile from the control panel, with the identifiers that are drawn
for it and for the refresh behind it. -/
def createDevice (toml : Toml) (json : JsonCodec) (host : Host) (id refreshId : Uuid)
    (panel : Panel) : CreateReport :=
  let name := nextName panel.devices
  let loaded := loadOrDefault toml host panel.files
  let metadata := guiMetadata name (DeviceConfig.default id)
  match writeProfile json host loaded.1 name metadata loaded.2 with
  | .ok _ files => ⟨true,refresh toml json host refreshId files⟩
  | .error _ files => ⟨false,{panel with files := files}⟩

/-- What happens to the profiles. -/
inductive ProfileEvent where
  /-- The control panel refreshes its list. -/
  | refresh (id : Uuid)
  /-- The control panel creates a profile. -/
  | guiCreate (id refreshId : Uuid)
  /-- The command line creates a profile. -/
  | cliCreate (args : CreateArgs) (id : Uuid)
  /-- The command line deletes a profile. -/
  | cliDelete (name : String)

/-- The panel after an event. -/
def step (toml : Toml) (json : JsonCodec) (host : Host) (panel : Panel) :
    ProfileEvent → Option Panel
  | .refresh id => some (GuiProfiles.refresh toml json host id panel.files)
  | .guiCreate id refreshId => some (createDevice toml json host id refreshId panel).panel
  | .cliCreate args id =>
    some {panel with files := (cmdDeviceCreate toml json host args id panel.files).files}
  | .cliDelete name =>
    some {panel with files := (cmdDeviceDelete toml host name panel.files).files}

/-- Every file still holds what it held. -/
def Kept (files after : Files) : Prop :=
  ∀ place text, files.content? place=some text → after.content? place=some text

/-- Keeping twice is keeping. -/
theorem Kept.trans {files mid after : Files} (first : Kept files mid) (second : Kept mid after) :
    Kept files after := fun place text h => second place text (first place text h)

/-- Added directories keep every file. -/
theorem kept_of_onlyDirectories {files after : Files} (h : OnlyDirectories files after) :
    Kept files after := by
  intro place text hplace
  rw [h.content]
  exact hplace

/-- Loading adds nothing but directories. -/
theorem loadOrDefault_only (toml : Toml) (host : Host) (files : Files) :
    OnlyDirectories files (loadOrDefault toml host files).2 := by
  have h := load_leaves toml host files
  unfold loadOrDefault
  cases hload : load toml host files with
  | ok config after =>
    rw [hload] at h
    exact h
  | error fault after =>
    rw [hload] at h
    exact h

/-- Writing a file where none stands keeps every file. -/
theorem writeFile_kept {host : Host} {path : List Char} {text : String} {files : Files}
    (h : files.content? (resolve host.cwd path)=none) :
    Kept files (left (writeFile host path text files)) := by
  intro place old hold
  unfold writeFile update
  dsimp only
  cases hwrite : files.write (resolve host.cwd path) text with
  | error obstacle => exact hold
  | ok after =>
    obtain ⟨-,-,hothers⟩ := Tree.write_ok hwrite
    have hne : place≠resolve host.cwd path := by
      rintro rfl
      rw [h] at hold
      cases hold
    exact (Tree.content_eq (hothers place hne)).trans hold

/-- Writing a profile where no metadata stands keeps every file. -/
theorem writeProfile_kept (json : JsonCodec) {host : Host} {config : LiteDroidConfig}
    {name : String} (metadata : Json) {files : Files}
    (h : files.content? (resolve host.cwd (metadataPath host config.paths name))=none) :
    Kept files (left (writeProfile json host config name metadata files)) := by
  have honly := createDirAll_leaves host (createDirectory host config.paths name) files
  unfold writeProfile
  cases hmade : createDirAll host (createDirectory host config.paths name) files with
  | error fault after =>
    rw [hmade] at honly
    rw [bind_of_error hmade]
    exact kept_of_onlyDirectories honly
  | ok _ made =>
    rw [hmade] at honly
    rw [bind_of_ok hmade]
    exact (kept_of_onlyDirectories honly).trans (writeFile_kept ((honly.content _).trans h))

/-- Making sure of the default profile keeps every file. -/
theorem ensureDefaultDevice_kept (json : JsonCodec) (host : Host) (config : LiteDroidConfig)
    (id : Uuid) (files : Files) :
    Kept files (left (ensureDefaultDevice json host config id files)) := by
  cases hcontent : files.content? (resolve host.cwd
      (metadataPath host config.paths "default")) with
  | some text =>
    rw [ensureDefaultDevice_present hcontent]
    exact Leaves.returning (R:=Kept) (fun _ _ _ h => h) _ files
  | none =>
    let device := {defaultDeviceConfig host config id with name := "default"}
    have hkept := writeProfile_kept json (defaultMetadata device) hcontent
    rw [ensureDefaultDevice_missing hcontent]
    cases hwrite : writeProfile json host config "default" (defaultMetadata device) files with
    | error fault after =>
      rw [hwrite] at hkept
      rw [bind_of_error hwrite]
      exact hkept
    | ok _ after =>
      rw [hwrite] at hkept
      rw [bind_of_ok hwrite]
      exact hkept

/-- Refreshing the list keeps every file. -/
theorem refresh_kept (toml : Toml) (json : JsonCodec) (host : Host) (id : Uuid) (files : Files) :
    Kept files (refresh toml json host id files).files := by
  have hload := kept_of_onlyDirectories (loadOrDefault_only toml host files)
  exact hload.trans (ensureDefaultDevice_kept json host _ id _)

/-- A profile that was written stands in the files. -/
theorem writeProfile_stored {json : JsonCodec} {host : Host} {config : LiteDroidConfig}
    {name : String} {metadata : Json} {files after : Files}
    (h : writeProfile json host config name metadata files=.ok () after) :
    Stored json host config name metadata after := by
  obtain ⟨_,made,-,hwrite⟩ := EffectRun.bind_ok_iff.mp h
  obtain ⟨-,hfile,-⟩ := Tree.write_ok (io_ok_iff.mp (update_ok_iff.mp hwrite))
  exact Tree.content_eq_some.mpr hfile

/-- A profile that was created stands in the files behind the refresh. -/
theorem createDevice_stored {toml : Toml} {json : JsonCodec} {host : Host} {id refreshId : Uuid}
    {panel : Panel} (h : (createDevice toml json host id refreshId panel).created=true) :
    Stored json host (loadOrDefault toml host panel.files).1 (nextName panel.devices)
      (guiMetadata (nextName panel.devices) (DeviceConfig.default id))
      (createDevice toml json host id refreshId panel).panel.files := by
  unfold createDevice at h ⊢
  dsimp only at h ⊢
  cases hwrite : writeProfile json host (loadOrDefault toml host panel.files).1
      (nextName panel.devices) (guiMetadata (nextName panel.devices) (DeviceConfig.default id))
      (loadOrDefault toml host panel.files).2 with
  | error fault after =>
    rw [hwrite] at h
    cases h
  | ok _ after => exact refresh_kept toml json host refreshId after _ _ (writeProfile_stored hwrite)

/-- A profile that could not be written left every file as it was. -/
theorem writeProfile_failed {json : JsonCodec} {host : Host} {config : LiteDroidConfig}
    {name : String} {metadata : Json} {files after : Files} {fault : Fault}
    (h : writeProfile json host config name metadata files=.error fault after) :
    OnlyDirectories files after := by
  have honly := createDirAll_leaves host (createDirectory host config.paths name) files
  unfold writeProfile at h
  cases hmade : createDirAll host (createDirectory host config.paths name) files with
  | error other made =>
    rw [hmade] at honly
    rw [bind_of_error hmade] at h
    cases h
    exact honly
  | ok _ made =>
    rw [hmade] at honly
    rw [bind_of_ok hmade] at h
    unfold writeFile update at h
    split at h
    · cases h
    · cases h
      exact honly

/-- The identifiers that are drawn one after another. -/
def drawn (n : ℕ) : Uuid := "00000000-0000-4000-8000-00000000000"++toString n

end LiteDroid.GuiProfiles
