import LiteDroid.GuiProfiles

/-!
# Loading a profile again

Three writers store an identifier with a profile, and the reader passes it over:
each load keeps the identifier that was drawn for its default configuration. All
other fields come back as they were written, so that two loads of a profile
differ in the identifier and in nothing else.
-/

namespace LiteDroid.ProfileLoads

open LexicalPath CoreResults EffectRun FileTree ConfigFile IpcMessages ConfigProfiles CliProfiles
open GuiProfiles
open ConfigPaths hiding LiteDroidConfig GlobalConfig

/-- The fields of a configuration that metadata may hold. -/
inductive ProfileField where
  /-- Name. -/
  | name
  /-- Identifier. -/
  | id
  /-- Android version. -/
  | androidVersion
  /-- Interface level. -/
  | apiLevel
  /-- Memory. -/
  | ramMb
  /-- Virtual CPUs. -/
  | vcpuCount
  /-- Width. -/
  | width
  /-- Height. -/
  | height
  /-- Dots per inch. -/
  | dpi
  deriving DecidableEq, Repr

/-- The key of a field. -/
def ProfileField.key : ProfileField → String
  | .name => "name"
  | .id => "id"
  | .androidVersion => "android_version"
  | .apiLevel => "api_level"
  | .ramMb => "ram_mb"
  | .vcpuCount => "vcpu_count"
  | .width => "width"
  | .height => "height"
  | .dpi => "dpi"

/-- The value of a field. -/
def ProfileField.value (device : DeviceConfig) : ProfileField → Json
  | .name => .str device.name
  | .id => .str device.id
  | .androidVersion => .str device.androidVersion
  | .apiLevel => .num device.apiLevel.toNat
  | .ramMb => .num device.ramMb.toNat
  | .vcpuCount => .num device.vcpuCount.toNat
  | .width => .num device.display.width.toNat
  | .height => .num device.display.height.toNat
  | .dpi => .num device.display.dpi.toNat

/-- A field has the value that was written for it, if one was. -/
def Returned (metadata : Json) (device : DeviceConfig) (field : ProfileField) : Prop :=
  ∀ value, metadata.get? field.key=some value → value=field.value device

/-- A writer stored a profile under a name, with the identifier that was drawn
for it, and left some files. -/
inductive Written (toml : Toml) (json : JsonCodec) (host : Host) (id : Uuid) :
    LiteDroidConfig → String → Json → Files → Prop
  /-- The command line created it. -/
  | command {args : CreateArgs} {files loaded : Files} {config : LiteDroidConfig}
    (loads : load toml host files=.ok config loaded)
    (created : (cmdDeviceCreate toml json host args id files).status=0) :
    Written toml json host id config args.name
      (createMetadata host config (requestedDevice args id))
      (cmdDeviceCreate toml json host args id files).files
  /-- It is the default profile, which was missing. -/
  | ensured {config : LiteDroidConfig} {files after : Files} {device : DeviceConfig}
    (missing : files.content? (resolve host.cwd (metadataPath host config.paths "default"))=none)
    (created : ensureDefaultDevice json host config id files=.ok device after) :
    Written toml json host id config "default" (defaultMetadata device) after
  /-- The control panel created it. -/
  | panel {refreshId : Uuid} {panel : Panel}
    (created : (createDevice toml json host id refreshId panel).created=true) :
    Written toml json host id (loadOrDefault toml host panel.files).1 (nextName panel.devices)
      (guiMetadata (nextName panel.devices) (DeviceConfig.default id))
      (createDevice toml json host id refreshId panel).panel.files

/-- A load: the identifier that is drawn for it and the files it finds. -/
structure Load where
  /-- The identifier. -/
  id : Uuid
  /-- The files. -/
  files : Files

/-- What a load of a profile returns. -/
def Load.outcome (json : JsonCodec) (host : Host) (config : LiteDroidConfig) (name : String)
    (l : Load) : Outcome DeviceConfig := deviceConfig json host config name l.id l.files

/-- All loads of a profile return one configuration, with every field as it was
written. -/
structure Stable (json : JsonCodec) (host : Host) (config : LiteDroidConfig) (name : String)
    (metadata : Json) (loads : List Load) : Prop where
  /-- Any two return the same. -/
  same : ∀ first∈loads, ∀ second∈loads,
    first.outcome json host config name=second.outcome json host config name
  /-- Every written field is returned. -/
  returned : ∀ l∈loads, ∀ device, l.outcome json host config name=.ok device →
    ∀ field, Returned metadata device field

/-- The control panel's metadata describes the default configuration under the
profile's name. -/
theorem guiMetadata_describes (name : String) (id : Uuid) :
    Describes (guiMetadata name (DeviceConfig.default id))
      {DeviceConfig.default id with name := name} := by
  constructor
  case apiLevel => exact Or.inr ⟨rfl,rfl⟩
  all_goals rfl

/-- What creating the default profile returns and stores. -/
theorem ensureDefaultDevice_written {json : JsonCodec} {host : Host} {config : LiteDroidConfig}
    {id : Uuid} {files after : Files} {device : DeviceConfig}
    (hmissing : files.content? (resolve host.cwd (metadataPath host config.paths "default"))=none)
    (h : ensureDefaultDevice json host config id files=.ok device after) :
    device={defaultDeviceConfig host config id with name := "default"} ∧
      Stored json host config "default" (defaultMetadata device) after := by
  rw [ensureDefaultDevice_missing hmissing] at h
  obtain ⟨_,written,hwrite,hreturn⟩ := EffectRun.bind_ok_iff.mp h
  obtain ⟨rfl,rfl⟩ := EStateM.Result.ok.inj hreturn
  exact ⟨rfl,writeProfile_stored hwrite⟩

/-- A written profile stands in the files, and its metadata describes a
configuration with the drawn identifier. -/
theorem Written.describes {toml : Toml} {json : JsonCodec} {host : Host} {id : Uuid}
    {config : LiteDroidConfig} {name : String} {metadata : Json} {files : Files}
    (h : Written toml json host id config name metadata files) :
    Stored json host config name metadata files ∧
      ∃ device, device.id=id ∧ Describes metadata device := by
  cases h with
  | command hload hstatus =>
    exact ⟨cmdDeviceCreate_stored hload hstatus,_,rfl,createMetadata_describes _ _ _⟩
  | ensured hmissing hcreated =>
    obtain ⟨rfl,hstored⟩ := ensureDefaultDevice_written hmissing hcreated
    exact ⟨hstored,_,rfl,defaultMetadata_describes _⟩
  | panel hcreated =>
    exact ⟨createDevice_stored hcreated,_,rfl,guiMetadata_describes _ _⟩

/-- What metadata that describes a configuration holds is that configuration's. -/
theorem describes_returned {metadata : Json} {device : DeviceConfig}
    (h : Describes metadata device) (field : ProfileField) : Returned metadata device field := by
  have heq : ∀ {key : String} {written value : Json}, metadata.get? key=some written →
      metadata.get? key=some value → value=written := by
    intro key written value hwritten hvalue
    rw [hwritten] at hvalue
    exact (Option.some.inj hvalue).symm
  intro value hvalue
  cases field with
  | name => exact heq h.name hvalue
  | id => exact heq h.id hvalue
  | androidVersion => exact heq h.androidVersion hvalue
  | apiLevel =>
    rcases h.apiLevel with hsome | ⟨hnone,-⟩
    · exact heq hsome hvalue
    · exact absurd (hnone.symm.trans hvalue) (Option.some_ne_none _).symm
  | ramMb => exact heq h.ramMb hvalue
  | vcpuCount => exact heq h.vcpuCount hvalue
  | width => exact heq h.width hvalue
  | height => exact heq h.height hvalue
  | dpi => exact heq h.dpi hvalue

/-- The identifier of a default configuration decides nothing about what is read
over it. -/
theorem withMetadata_id (host : Host) (config : LiteDroidConfig) (name : String) (metadata : Json)
    (id drawn : Uuid) :
    (defaultDeviceConfig host config drawn).withMetadata name metadata=
      {(defaultDeviceConfig host config id).withMetadata name metadata with id := drawn} := rfl

/-- A profile that one load accepts is accepted by every load, with the
identifier that is drawn for it. -/
theorem deviceConfig_again {json : JsonCodec} {host : Host} {config : LiteDroidConfig}
    {name : String} {metadata : Json} {files later : Files}
    (hstored : Stored json host config name metadata files)
    (hlater : Stored json host config name metadata later)
    (hround : json.fromStr (json.toStringPretty metadata)=.ok metadata) {id : Uuid}
    {device : DeviceConfig} (h : deviceConfig json host config name id files=.ok device)
    (drawn : Uuid) :
    deviceConfig json host config name drawn later=.ok {device with id := drawn} := by
  obtain ⟨rfl,hvalid⟩ := (deviceConfig_stored hstored hround id device).mp h
  rw [deviceConfig_stored hlater hround]
  exact ⟨(withMetadata_id host config name metadata id drawn).symm,hvalid⟩

/-- Every written field but the identifier is loaded as it was written. -/
theorem loaded_returned {host : Host} {config : LiteDroidConfig} {name : String} {metadata : Json}
    {written : DeviceConfig} (h : Describes metadata written) (drawn : Uuid)
    {field : ProfileField} (hfield : field≠.id) :
    Returned metadata ((defaultDeviceConfig host config drawn).withMetadata name metadata)
      field := by
  intro value hvalue
  rw [withMetadata_describes h rfl,describes_returned h field value hvalue]
  cases field with
  | id => exact absurd rfl hfield
  | _ => rfl

/-- The identifier is loaded as it was written exactly when it is drawn again. -/
theorem returned_id_iff {metadata : Json} {written device : DeviceConfig}
    (h : Describes metadata written) :
    Returned metadata device .id ↔ written.id=device.id := by
  constructor
  · intro hreturned
    exact Json.str.inj (hreturned _ h.id)
  · intro heq value hvalue
    rw [describes_returned h .id value hvalue]
    exact congrArg Json.str heq

/-- A profile that was written and is accepted is loaded with all its fields but
the identifier, which is another one at each load: no two loads return the same
configuration, and none returns the written identifier. -/
theorem reloaded_profile_differs (toml : Toml) (json : JsonCodec) (host : Host) (id : Uuid)
    (config : LiteDroidConfig) (name : String) (metadata : Json) (files : Files)
    (hwritten : Written toml json host id config name metadata files)
    (hround : json.fromStr (json.toStringPretty metadata)=.ok metadata)
    (haccepted : ∃ drawn device, deviceConfig json host config name drawn files=.ok device)
    (loads : List Load)
    (hkept : ∀ l∈loads, l.files.content? (resolve host.cwd (metadataPath host config.paths name))=
      files.content? (resolve host.cwd (metadataPath host config.paths name)))
    (hfresh : (id::loads.map Load.id).Nodup) (hloaded : loads≠[]) :
    ¬Stable json host config name metadata loads ∧
      (loads.map (Load.outcome json host config name)).Nodup ∧
      ∃ device : DeviceConfig, ∀ l∈loads,
        l.outcome json host config name=.ok {device with id := l.id} ∧
        ∀ field, Returned metadata {device with id := l.id} field ↔ field≠.id := by
  obtain ⟨hstored,written,rfl,hdescribes⟩ := hwritten.describes
  obtain ⟨drawn,device,hdevice⟩ := haccepted
  obtain ⟨hother,hdistinct⟩ := List.nodup_cons.mp hfresh
  have houtcome : ∀ l∈loads, l.outcome json host config name=.ok {device with id := l.id} :=
    fun l hl => deviceConfig_again hstored ((hkept l hl).trans hstored) hround hdevice l.id
  have hreturned : ∀ l∈loads, ∀ field,
      Returned metadata {device with id := l.id} field ↔ field≠.id := by
    intro l hl field
    constructor
    · rintro h rfl
      exact hother (List.mem_map.mpr ⟨l,hl,((returned_id_iff hdescribes).mp h).symm⟩)
    · intro hfield
      obtain ⟨rfl,-⟩ := (deviceConfig_stored hstored hround drawn device).mp hdevice
      exact loaded_returned hdescribes l.id hfield
  refine ⟨?_,?_,device,fun l hl => ⟨houtcome l hl,hreturned l hl⟩⟩
  · intro hstable
    obtain ⟨l,hl⟩ := List.exists_mem_of_ne_nil loads hloaded
    exact (hreturned l hl .id).mp (hstable.returned l hl _ (houtcome l hl) .id) rfl
  · refine List.Nodup.of_map (fun outcome => outcome.toOption.map DeviceConfig.id) ?_
    rw [List.map_map]
    have hids : loads.map ((fun outcome => outcome.toOption.map DeviceConfig.id) ∘
        Load.outcome json host config name)=(loads.map Load.id).map some := by
      rw [List.map_map]
      refine List.map_congr_left fun l hl => ?_
      rw [Function.comp_apply,houtcome l hl]
      rfl
    rw [hids]
    exact hdistinct.map fun _ _ => Option.some.inj

/-- Two loads of a phone with 1024 megabytes, one after the other. -/
def phoneLoads : List Load :=
  [⟨drawn 1,(phoneCreated 1024).files⟩,⟨drawn 2,(phoneCreated 1024).files⟩]

/-- The identifier of a configuration that was loaded. -/
def loadedId (outcome : Outcome DeviceConfig) : Option Uuid := outcome.toOption.map DeviceConfig.id

/-- The profile of the phone is written by the command line. -/
theorem phone_written :
    Written sampleToml sampleJson userHost "6f9619ff-8b86-4d01-b42d-00cf4fc964ff" .default "phone"
      (phoneMetadata 1024) (phoneCreated 1024).files := by
  obtain ⟨loaded,hload⟩ := load_bareFiles
  have hstatus : (phoneCreated 1024).status=0 := by decide +kernel
  exact .command hload hstatus

/-- The identifiers that the two loads return. -/
theorem phoneLoads_ids :
    phoneLoads.map (fun l => loadedId (l.outcome sampleJson userHost .default "phone"))=
      [some (drawn 1),some (drawn 2)] := by
  decide +kernel

/-- The profile of the phone is accepted. -/
theorem phone_accepted :
    ∃ drawn device, deviceConfig sampleJson userHost .default "phone" drawn
      (phoneCreated 1024).files=.ok device := by
  have hfirst := (List.cons.inj phoneLoads_ids).1
  dsimp only at hfirst
  cases hload : deviceConfig sampleJson userHost .default "phone" (drawn 1)
      (phoneCreated 1024).files with
  | error fault =>
    rw [Load.outcome,hload] at hfirst
    cases hfirst
  | ok device => exact ⟨_,device,hload⟩

/-- The loss applies to the two loads of the phone. -/
theorem reloaded_profile_differs_phone :
    (phoneLoads.map (Load.outcome sampleJson userHost .default "phone")).Nodup :=
  (reloaded_profile_differs sampleToml sampleJson userHost _ .default "phone" _ _ phone_written
    sampleJson_phone.1 phone_accepted phoneLoads (by simp [phoneLoads])
    (by decide +kernel) (List.cons_ne_nil _ _)).2.1

/-- A profile that was written and is accepted is loaded twice, with a different
configuration each time. -/
theorem phone_reload_unstable :
    Written sampleToml sampleJson userHost "6f9619ff-8b86-4d01-b42d-00cf4fc964ff" .default "phone"
        (phoneMetadata 1024) (phoneCreated 1024).files ∧
      sampleJson.fromStr (sampleJson.toStringPretty (phoneMetadata 1024))=
        .ok (phoneMetadata 1024) ∧
      (∃ drawn device, deviceConfig sampleJson userHost .default "phone" drawn
        (phoneCreated 1024).files=.ok device) ∧
      ¬Stable sampleJson userHost .default "phone" (phoneMetadata 1024) phoneLoads := by
  refine ⟨phone_written,sampleJson_phone.1,phone_accepted,?_⟩
  intro hstable
  have hsame := hstable.same _ List.mem_cons_self _ (List.mem_cons_of_mem _ List.mem_cons_self)
  obtain ⟨hfirst,hrest⟩ := List.cons.inj phoneLoads_ids
  have hsecond := (List.cons.inj hrest).1
  dsimp only at hfirst hsecond
  rw [hsame,hsecond] at hfirst
  exact absurd hfirst (by decide)

end LiteDroid.ProfileLoads
