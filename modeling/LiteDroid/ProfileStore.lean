import LiteDroid.ProfileLoads
import LiteDroid.DaemonAvdSettings

/-!
# The profiles as one store

The command line and the control panel create and delete profiles in the same
files, in any order. Each event changes the files by a list of its own: a
profile's metadata written, a directory removed, nothing where it fails. What a
file holds is decided by the last of these changes, and a launch sets up the
emulator with what the last creation asked for.
-/

namespace LiteDroid.ProfileStore

open ChangeHistory LexicalPath CoreResults CoreText EffectRun FileTree ConfigFile IpcMessages
open ConfigProfiles CliProfiles GuiProfiles ProfileLoads DaemonAvdSettings StepRun
open CoreDeviceConfig (defaultRamMb validate_ok_iff)
open ConfigPaths hiding LiteDroidConfig GlobalConfig

/-- The metadata of a profile, written to its place. -/
def written (json : JsonCodec) (host : Host) (config : LiteDroidConfig) (name : String)
    (metadata : Json) : Change Part String :=
  .wrote (resolve host.cwd (metadataPath host config.paths name)) (json.toStringPretty metadata)

/-- What writing a profile changes. -/
def profileChanges (json : JsonCodec) (host : Host) (config : LiteDroidConfig) (name : String)
    (metadata : Json) (files : Files) : List (Change Part String) :=
  if succeeded (writeProfile json host config name metadata files) then
    [written json host config name metadata]
  else []

/-- What a refresh changes: the default profile is written where it is missing. -/
def refreshChanges (toml : Toml) (json : JsonCodec) (host : Host) (id : Uuid) (files : Files) :
    List (Change Part String) :=
  let loaded := loadOrDefault toml host files
  if (loaded.2.content? (resolve host.cwd
      (metadataPath host loaded.1.paths "default"))).isSome then []
  else profileChanges json host loaded.1 "default"
    (defaultMetadata {defaultDeviceConfig host loaded.1 id with name := "default"}) loaded.2

/-- What creating a profile from the control panel changes. -/
def createChanges (toml : Toml) (json : JsonCodec) (host : Host) (id refreshId : Uuid)
    (panel : Panel) : List (Change Part String) :=
  let name := nextName panel.devices
  let loaded := loadOrDefault toml host panel.files
  let metadata := guiMetadata name (DeviceConfig.default id)
  match writeProfile json host loaded.1 name metadata loaded.2 with
  | .ok _ files =>
    [written json host loaded.1 name metadata]++refreshChanges toml json host refreshId files
  | .error _ _ => []

/-- What an event changes. -/
def changes (toml : Toml) (json : JsonCodec) (host : Host) (panel : Panel) :
    ProfileEvent → List (Change Part String)
  | .refresh id => refreshChanges toml json host id panel.files
  | .guiCreate id refreshId => createChanges toml json host id refreshId panel
  | .cliCreate args id =>
    let config := (loadOrDefault toml host panel.files).1
    if (cmdDeviceCreate toml json host args id panel.files).status=0 then
      [written json host config args.name
        (createMetadata host config (requestedDevice args id))]
    else []
  | .cliDelete name =>
    let config := (loadOrDefault toml host panel.files).1
    if (cmdDeviceDelete toml host name panel.files).status=0 then
      [.erased (resolve host.cwd (deleteDirectory host config.paths name))]
    else []

/-- Added directories change no contents. -/
theorem follows_onlyDirectories {files after : Files} (h : OnlyDirectories files after) :
    files.Follows [] after := funext fun q => h.content q

/-- Behind added directories the changes are those that follow. -/
theorem follows_behind {files mid after : Files} {list : List (Change Part String)}
    (h : OnlyDirectories files mid) (hafter : mid.Follows list after) : files.Follows list after :=
  (follows_onlyDirectories h).append hafter

/-- A written file is changed. -/
theorem writeFile_follows {host : Host} {path : List Char} {text : String} {files after : Files}
    (h : writeFile host path text files=.ok () after) :
    files.Follows [.wrote (resolve host.cwd path) text] after :=
  Tree.write_follows (io_ok_iff.mp (update_ok_iff.mp h))

/-- A file that could not be written leaves the files as they were. -/
theorem writeFile_failed {host : Host} {path : List Char} {text : String} {files after : Files}
    {fault : Fault} (h : writeFile host path text files=.error fault after) : after=files :=
  (update_error_iff.mp h).2

/-- Writing a profile changes what it says. -/
theorem writeProfile_follows (json : JsonCodec) (host : Host) (config : LiteDroidConfig)
    (name : String) (metadata : Json) (files : Files) :
    files.Follows (profileChanges json host config name metadata files)
      (left (writeProfile json host config name metadata files)) := by
  unfold profileChanges
  cases hwrite : writeProfile json host config name metadata files with
  | error fault after => exact follows_onlyDirectories (writeProfile_failed hwrite)
  | ok _ after =>
    obtain ⟨_,made,hmade,hfile⟩ := EffectRun.bind_ok_iff.mp hwrite
    exact follows_behind (createDirAll_ok hmade).2 (writeFile_follows hfile)

/-- A refresh changes what it says. -/
theorem refresh_follows (toml : Toml) (json : JsonCodec) (host : Host) (id : Uuid)
    (files : Files) :
    files.Follows (refreshChanges toml json host id files)
      (GuiProfiles.refresh toml json host id files).files := by
  refine follows_behind (loadOrDefault_only toml host files) ?_
  unfold refreshChanges GuiProfiles.refresh
  dsimp only
  generalize loadOrDefault toml host files=loaded
  cases hcontent : loaded.2.content? (resolve host.cwd
      (metadataPath host loaded.1.paths "default")) with
  | some text =>
    rw [ensureDefaultDevice_present hcontent]
    exact Leaves.returning (R:=fun s t => s.Follows [] t) (fun _ => rfl) _ loaded.2
  | none =>
    have hwrite := writeProfile_follows json host loaded.1 "default"
      (defaultMetadata {defaultDeviceConfig host loaded.1 id with name := "default"}) loaded.2
    rw [ensureDefaultDevice_missing hcontent]
    cases hdone : writeProfile json host loaded.1 "default"
        (defaultMetadata {defaultDeviceConfig host loaded.1 id with name := "default"})
        loaded.2 with
    | error fault after =>
      rw [hdone] at hwrite
      rw [bind_of_error hdone]
      exact hwrite
    | ok _ after =>
      rw [hdone] at hwrite
      rw [bind_of_ok hdone]
      exact hwrite

/-- Creating a profile from the control panel changes what it says. -/
theorem createDevice_follows (toml : Toml) (json : JsonCodec) (host : Host) (id refreshId : Uuid)
    (panel : Panel) :
    panel.files.Follows (createChanges toml json host id refreshId panel)
      (createDevice toml json host id refreshId panel).panel.files := by
  refine follows_behind (loadOrDefault_only toml host panel.files) ?_
  unfold createChanges createDevice
  dsimp only
  generalize loadOrDefault toml host panel.files=loaded
  have hwrite := writeProfile_follows json host loaded.1 (nextName panel.devices)
    (guiMetadata (nextName panel.devices) (DeviceConfig.default id)) loaded.2
  unfold profileChanges at hwrite
  cases hdone : writeProfile json host loaded.1 (nextName panel.devices)
      (guiMetadata (nextName panel.devices) (DeviceConfig.default id)) loaded.2 with
  | ok _ after =>
    rw [hdone] at hwrite
    exact Tree.Follows.append hwrite (refresh_follows toml json host refreshId after)
  | error fault after =>
    rw [hdone] at hwrite
    exact hwrite

/-- A configuration that was loaded is the one a panel would use. -/
theorem loadOrDefault_ok {toml : Toml} {host : Host} {files loaded : Files}
    {config : LiteDroidConfig} (h : load toml host files=.ok config loaded) :
    loadOrDefault toml host files=(config,loaded) := by
  unfold loadOrDefault
  rw [h]

/-- A command whose status says whether it changed something changes what it
says. -/
theorem follows_by_status {files : Files} {report : CommandReport} {change : Change Part String}
    (hdone : report.status=0 → files.Follows [change] report.files)
    (hfailed : report.status≠0 → files.Follows [] report.files) :
    files.Follows (if report.status=0 then [change] else []) report.files := by
  by_cases hstatus : report.status=0
  · rw [if_pos hstatus]
    exact hdone hstatus
  · rw [if_neg hstatus]
    exact hfailed hstatus

/-- Creating a profile from the command line changes what it says. -/
theorem cmdDeviceCreate_follows (toml : Toml) (json : JsonCodec) (host : Host) (args : CreateArgs)
    (id : Uuid) (panel : Panel) :
    panel.files.Follows (changes toml json host panel (.cliCreate args id))
      (cmdDeviceCreate toml json host args id panel.files).files := by
  have honly := load_leaves toml host panel.files
  have hboth : ((cmdDeviceCreate toml json host args id panel.files).status=0 →
        panel.files.Follows [written json host (loadOrDefault toml host panel.files).1 args.name
            (createMetadata host (loadOrDefault toml host panel.files).1
              (requestedDevice args id))]
          (cmdDeviceCreate toml json host args id panel.files).files) ∧
      ((cmdDeviceCreate toml json host args id panel.files).status≠0 →
        panel.files.Follows [] (cmdDeviceCreate toml json host args id panel.files).files) := by
    unfold cmdDeviceCreate
    cases hload : load toml host panel.files with
    | error fault after =>
      rw [hload] at honly
      exact ⟨fun hstatus => (by cases hstatus),fun _ => follows_onlyDirectories honly⟩
    | ok config loaded =>
      rw [hload] at honly
      rw [loadOrDefault_ok hload]
      have hmade := createDirAll_leaves host (createDirectory host config.paths args.name) loaded
      dsimp only
      cases hwrite : writeFile host (metadataPath host config.paths args.name)
          (json.toStringPretty (createMetadata host config (requestedDevice args id)))
          (left (createDirAll host (createDirectory host config.paths args.name) loaded)) with
      | error fault after =>
        obtain rfl := writeFile_failed hwrite
        exact ⟨fun hstatus => (by cases hstatus),
          fun _ => follows_behind honly (follows_onlyDirectories hmade)⟩
      | ok _ after =>
        exact ⟨fun _ => follows_behind honly (follows_behind hmade (writeFile_follows hwrite)),
          fun hstatus => absurd rfl hstatus⟩
  exact follows_by_status hboth.1 hboth.2

/-- Deleting a profile changes what it says. -/
theorem cmdDeviceDelete_follows (toml : Toml) (json : JsonCodec) (host : Host) (name : String)
    (panel : Panel) :
    panel.files.Follows (changes toml json host panel (.cliDelete name))
      (cmdDeviceDelete toml host name panel.files).files := by
  have honly := load_leaves toml host panel.files
  have hboth : ((cmdDeviceDelete toml host name panel.files).status=0 →
        panel.files.Follows [.erased (resolve host.cwd (deleteDirectory host
            (loadOrDefault toml host panel.files).1.paths name))]
          (cmdDeviceDelete toml host name panel.files).files) ∧
      ((cmdDeviceDelete toml host name panel.files).status≠0 →
        panel.files.Follows [] (cmdDeviceDelete toml host name panel.files).files) := by
    unfold cmdDeviceDelete
    cases hload : load toml host panel.files with
    | error fault after =>
      rw [hload] at honly
      exact ⟨fun hstatus => (by cases hstatus),fun _ => follows_onlyDirectories honly⟩
    | ok config loaded =>
      rw [hload] at honly
      rw [loadOrDefault_ok hload]
      dsimp only
      cases hremove : loaded.removeDirAll
          (resolve host.cwd (deleteDirectory host config.paths name)) with
      | error obstacle =>
        exact ⟨fun hstatus => (by cases hstatus),fun _ => follows_onlyDirectories honly⟩
      | ok after =>
        exact ⟨fun _ => follows_behind honly (Tree.removeDirAll_follows hremove),
          fun hstatus => absurd rfl hstatus⟩
  exact follows_by_status hboth.1 hboth.2

/-- Every event changes what it says. -/
theorem step_follows {toml : Toml} {json : JsonCodec} {host : Host} {panel next : Panel}
    {event : ProfileEvent} (h : step toml json host panel event=some next) :
    panel.files.Follows (changes toml json host panel event) next.files := by
  cases event with
  | refresh id =>
    obtain rfl := Option.some.inj h
    exact refresh_follows toml json host id panel.files
  | guiCreate id refreshId =>
    obtain rfl := Option.some.inj h
    exact createDevice_follows toml json host id refreshId panel
  | cliCreate args id =>
    obtain rfl := Option.some.inj h
    exact cmdDeviceCreate_follows toml json host args id panel
  | cliDelete name =>
    obtain rfl := Option.some.inj h
    exact cmdDeviceDelete_follows toml json host name panel

/-- A run changes what its events say, in their order. -/
theorem run_follows {toml : Toml} {json : JsonCodec} {host : Host} {panel last : Panel}
    {events : List ProfileEvent} (hrun : run (step toml json host) panel events=some last) :
    panel.files.Follows (handed (step toml json host) (changes toml json host) panel events)
      last.files :=
  @run_handed _ _ _ (step toml json host) (changes toml json host)
    (fun s list t => s.files.Follows list t.files) (fun _ => rfl)
    (fun _ _ _ _ _ hfirst hsecond => hfirst.append hsecond)
    (fun _ _ _ hstep => step_follows hstep) events panel last hrun

end LiteDroid.ProfileStore
