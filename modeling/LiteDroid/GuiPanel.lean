import LiteDroid.GuiProfiles

/-!
# The control panel in use

The panel refreshes its list, asks the daemon and carries out what the user
clicks, in any order, while other programs change the profiles and the daemon
comes and goes. Its fields always say what its calls have shown: the selected
device is listed, the daemon is online as the last call found it, power state
and metrics are those last reported. It starts a device by itself at the first
opportunity and never again.
-/

namespace LiteDroid.GuiPanel

open ConfigFile IpcMessages ConfigProfiles GuiProfiles StepRun
open ConfigPaths hiding LiteDroidConfig GlobalConfig

/-- How a call of the daemon ends. -/
inductive CallResult where
  /-- There is no daemon to connect to. -/
  | unreachable (error : String)
  /-- The request or its answer is lost. -/
  | failed (error : String)
  /-- The daemon answers. -/
  | answered (response : IpcResponse)

/-- The connection was made. -/
def CallResult.reached : CallResult → Bool
  | .unreachable _ => false
  | .failed _ => true
  | .answered _ => true

/-- What the call returns to the panel. -/
def CallResult.value : CallResult → Option Json
  | .unreachable _ => none
  | .failed _ => none
  | .answered response => if response.success then response.result else none

/-- What the panel tells the user about the call itself. -/
def CallResult.message (previous : String) : CallResult → String
  | .unreachable error => "Daemon unavailable: "++error
  | .failed error => error
  | .answered response =>
    if response.success then previous else response.error.getD "Request failed"

/-- What a call was made for. -/
inductive Trigger where
  /-- A refresh of the list. -/
  | refresh
  /-- The panel's own start of a device. -/
  | autoStart
  /-- A button that needs the daemon. -/
  | button
  /-- The metrics button. -/
  | metrics
  deriving DecidableEq

/-- A call with its outcome and the names that were listed when it was made. -/
structure Call where
  /-- What it was made for. -/
  trigger : Trigger
  /-- The method. -/
  method : String
  /-- The parameters. -/
  params : Json
  /-- How it ended. -/
  result : CallResult
  /-- The listed names. -/
  listed : List String

/-- The panel. -/
structure LiteDroidApp where
  /-- The device list and the files of the host. -/
  profiles : Panel
  /-- The device that the buttons are shown for. -/
  selectedDevice : String
  /-- Whether the daemon was there. -/
  daemonOnline : Bool
  /-- The power state. -/
  powerState : String
  /-- The metrics. -/
  stats : String
  /-- The lines of the last diagnosis. -/
  diagnostics : List String
  /-- The line at the bottom. -/
  statusMessage : String
  /-- Whether the panel has started a device by itself. -/
  autoStartAttempted : Bool

/-- The panel and the calls it has made. -/
structure Session where
  /-- The panel. -/
  app : LiteDroidApp
  /-- The calls, the first one first. -/
  calls : List Call

/-- The daemon as one event finds it. -/
abbrev Daemon := String → Json → CallResult

/-- The names of a device list. -/
def names (devices : List DeviceRow) : List String := devices.map DeviceRow.name

/-- Call the daemon. -/
def Session.ipcCall (s : Session) (daemon : Daemon) (trigger : Trigger) (method : String)
    (params : Json) : Option Json×Session :=
  let result := daemon method params
  (result.value,
    ⟨{s.app with
      daemonOnline := result.reached, statusMessage := result.message s.app.statusMessage},
    s.calls++[⟨trigger,method,params,result,names s.app.profiles.devices⟩]⟩)

/-- Call the daemon and use what it returns. -/
def Session.ask (s : Session) (daemon : Daemon) (trigger : Trigger) (method : String)
    (params : Json) (use : Json → LiteDroidApp → LiteDroidApp) : Session :=
  match s.ipcCall daemon trigger method params with
  | (some value,after) => {after with app := use value after.app}
  | (none,after) => after

/-- The selection once a list is shown: a device that is gone gives way to the
first one. -/
def chooseDevice (selected : String) (devices : List DeviceRow) : String :=
  if selected∈names devices then selected
  else match devices with
    | [] => selected
    | device::_ => device.name

/-- Show a device list. -/
def Session.showProfiles (s : Session) (profiles : Panel) : Session :=
  {s with app := {s.app with
    profiles := profiles,
    selectedDevice := chooseDevice s.app.selectedDevice profiles.devices}}

/-- The power state in an answer. -/
def powerOf (status : Json) : String := (textField status "power_state").getD "unknown"

/-- The parameters that name a device. -/
def deviceParams (name : String) : Json := .obj [("device",.str name)]

/-- Ask for the power state. -/
def Session.pollStatus (s : Session) (daemon : Daemon) : Session :=
  s.ask daemon .refresh "device.status" (.obj []) fun status app =>
    {app with powerState := powerOf status}

/-- Start the selected device once the daemon is there and a device is listed. -/
def Session.autoStart (s : Session) (daemon : Daemon) : Session :=
  if s.app.daemonOnline=true ∧ s.app.profiles.devices≠[] ∧ s.app.autoStartAttempted=false then
    Session.ask {s with app := {s.app with autoStartAttempted := true}} daemon .autoStart
      "device.start" (deviceParams s.app.selectedDevice) fun _ app =>
        {app with statusMessage := "Starting Android emulator"}
  else s

/-- The part of a refresh behind reading the profiles. -/
def Session.refreshed (s : Session) (daemon : Daemon) (profiles : Panel) : Session :=
  ((s.showProfiles profiles).pollStatus daemon).autoStart daemon

/-- A button that needs the daemon: one call, and a message when it succeeds. -/
def Session.press (s : Session) (daemon : Daemon) (method : String) (params : Json)
    (message : Json → String) : Option Session :=
  if s.app.daemonOnline then
    some (s.ask daemon .button method params fun value app =>
      {app with statusMessage := message value})
  else none

/-- The start button. -/
def Session.startDevice (s : Session) (daemon : Daemon) : Option Session :=
  s.press daemon "device.start" (deviceParams s.app.selectedDevice) fun _ =>
    "Android VM start requested"

/-- The stop button. -/
def Session.stopDevice (s : Session) (daemon : Daemon) : Option Session :=
  s.press daemon "device.stop" (.obj []) fun _ => "Android VM stop requested"

/-- The restart button. -/
def Session.restart (s : Session) (daemon : Daemon) : Option Session :=
  s.press daemon "device.restart" (.obj []) fun _ => "Restarting Android emulator"

/-- The wipe button. -/
def Session.wipeData (s : Session) (daemon : Daemon) : Option Session :=
  s.press daemon "device.wipe" (.obj []) fun _ => "Resetting Android device data"

/-- The screenshot button. -/
def Session.screenshot (s : Session) (daemon : Daemon) : Option Session :=
  s.press daemon "device.screenshot" (.obj []) fun result =>
    match textField result "path" with
    | some path => "Screenshot saved: "++path
    | none => "Screenshot captured"

/-- The metrics button, which is there without a daemon too. -/
def Session.refreshMetrics (s : Session) (json : JsonCodec) (daemon : Daemon) : Session :=
  s.ask daemon .metrics "vm.stats" (.obj []) fun stats app =>
    {app with stats := json.toStringPretty stats}

/-- What happens to the panel. -/
inductive Event where
  /-- The list is refreshed, when it is due or by its button. -/
  | refresh (daemon : Daemon) (id : Uuid)
  /-- The button that creates a profile, with the host's text for a failure. -/
  | createDevice (daemon : Daemon) (id refreshId : Uuid) (fault : String)
  /-- A line of the list is clicked. -/
  | select (index : ℕ)
  /-- The start button. -/
  | startDevice (daemon : Daemon)
  /-- The stop button. -/
  | stopDevice (daemon : Daemon)
  /-- The restart button. -/
  | restart (daemon : Daemon)
  /-- The wipe button. -/
  | wipeData (daemon : Daemon)
  /-- The screenshot button. -/
  | screenshot (daemon : Daemon)
  /-- The metrics button. -/
  | refreshMetrics (daemon : Daemon)
  /-- The diagnosis button, with the lines of the diagnosis. -/
  | runDiagnostics (lines : List String)
  /-- Other programs change the files. -/
  | others (files : Files)

/-- The session after an event, if the event is possible. -/
def step (toml : Toml) (json : JsonCodec) (host : Host) (s : Session) : Event → Option Session
  | .refresh daemon id =>
    some (s.refreshed daemon (GuiProfiles.refresh toml json host id s.app.profiles.files))
  | .createDevice daemon id refreshId fault =>
    let report := GuiProfiles.createDevice toml json host id refreshId s.app.profiles
    if report.created then
      let message := "Created "++nextName s.app.profiles.devices
      some (Session.refreshed {s with app := {s.app with statusMessage := message}} daemon
        report.panel)
    else
      some {s with app := {s.app with
        profiles := report.panel, statusMessage := "Create failed: "++fault}}
  | .select index =>
    match s.app.profiles.devices[index]? with
    | none => none
    | some device => some {s with app := {s.app with selectedDevice := device.name}}
  | .startDevice daemon => s.startDevice daemon
  | .stopDevice daemon => s.stopDevice daemon
  | .restart daemon => s.restart daemon
  | .wipeData daemon => s.wipeData daemon
  | .screenshot daemon => s.screenshot daemon
  | .refreshMetrics daemon => some (s.refreshMetrics json daemon)
  | .runDiagnostics lines =>
    some {s with app := {s.app with
      diagnostics := lines, statusMessage := "Diagnostics complete"}}
  | .others files =>
    some {s with app := {s.app with profiles := {s.app.profiles with files := files}}}

/-- The panel before its first refresh. -/
def blank (files : Files) : Session where
  app := ⟨⟨[],files⟩,"default",false,"offline","No VM metrics available",[],"Ready",false⟩
  calls := []

/-- The panel when it is shown first. -/
def start (toml : Toml) (json : JsonCodec) (host : Host) (daemon : Daemon) (id : Uuid)
    (files : Files) : Session :=
  (blank files).refreshed daemon (GuiProfiles.refresh toml json host id files)

/-- What the last successful call of a method returned. -/
def lastValue (method : String) (calls : List Call) : Option Json :=
  calls.foldl (fun last call => if call.method=method then call.result.value.or last else last) none

/-- A call is in order behind those made before it. -/
structure InOrder (before : List Call) (call : Call) : Prop where
  /-- A device is started by a name that was listed, if any was. -/
  starts : call.method="device.start" →
    ∃ name, call.params=deviceParams name ∧ (call.listed=[] ∨ name∈call.listed)
  /-- What acts on the daemon's device names none. -/
  unnamed : call.method∈["device.stop","device.restart","device.wipe"] → call.params=.obj []
  /-- What needs the daemon is asked only when the last call found it. -/
  gated : call.trigger=.button ∨ call.trigger=.autoStart →
    ∃ previous, before.getLast?=some previous ∧ previous.result.reached=true
  /-- The panel's own start is a start, with a device listed. -/
  own : call.trigger=.autoStart → call.method="device.start" ∧ call.listed≠[]

/-- Every call is in order. -/
def Orderly (calls : List Call) : Prop := Each InOrder calls

/-- The calls that the panel made by itself. -/
def ownStarts (calls : List Call) : ℕ := (calls.filter fun call => call.trigger=.autoStart).length

/-- What the fields of the panel say about its calls, with a start of its own
still to be called or not. -/
structure Steady (json : JsonCodec) (due : ℕ) (s : Session) : Prop where
  /-- The calls are in order. -/
  orderly : Orderly s.calls
  /-- The daemon is online as the last call found it. -/
  online : s.calls≠[] → ∃ last, s.calls.getLast?=some last ∧
    s.app.daemonOnline=last.result.reached
  /-- Before any call it is not. -/
  offline : s.calls=[] → s.app.daemonOnline=false
  /-- The power state is the one last reported. -/
  power : s.app.powerState=(lastValue "device.status" s.calls).elim "offline" powerOf
  /-- So are the metrics. -/
  stats : s.app.stats=
    (lastValue "vm.stats" s.calls).elim "No VM metrics available" json.toStringPretty
  /-- The panel starts a device by itself at most once. -/
  once : ownStarts s.calls+due=if s.app.autoStartAttempted then 1 else 0

/-- The selected device is listed. -/
def Selected (s : Session) : Prop :=
  s.app.profiles.devices=[] ∨ s.app.selectedDevice∈names s.app.profiles.devices

/-- The panel has started a device by itself once a refresh found the daemon and
a device. -/
def Prompt (s : Session) : Prop :=
  ∀ call∈s.calls, call.trigger=.refresh → call.result.reached=true → call.listed≠[] →
    s.app.autoStartAttempted=true

/-- What a method returned last, with one more call. -/
theorem lastValue_snoc (method : String) (calls : List Call) (call : Call) :
    lastValue method (calls++[call])=
      if call.method=method then call.result.value.or (lastValue method calls)
      else lastValue method calls := by
  unfold lastValue
  rw [List.foldl_append,List.foldl_cons,List.foldl_nil]

/-- The panel's own starts, with one more call. -/
theorem ownStarts_snoc (calls : List Call) (call : Call) :
    ownStarts (calls++[call])=ownStarts calls+if call.trigger=.autoStart then 1 else 0 := by
  unfold ownStarts
  rw [List.filter_append,List.length_append,List.filter_singleton]
  by_cases h : call.trigger=.autoStart
  · simp [h]
  · simp [h]

/-- The call that asking makes. -/
def asked (s : Session) (daemon : Daemon) (trigger : Trigger) (method : String) (params : Json) :
    Call :=
  ⟨trigger,method,params,daemon method params,names s.app.profiles.devices⟩

/-- What using an answer may change: power state and metrics for the methods that
report them, and the message. -/
structure Uses (json : JsonCodec) (method : String) (use : Json → LiteDroidApp → LiteDroidApp) :
    Prop where
  /-- The list stays. -/
  profiles : ∀ value app, (use value app).profiles=app.profiles
  /-- The selection stays. -/
  selected : ∀ value app, (use value app).selectedDevice=app.selectedDevice
  /-- The daemon stays online or not. -/
  online : ∀ value app, (use value app).daemonOnline=app.daemonOnline
  /-- The panel's own start stays made or not. -/
  attempted : ∀ value app, (use value app).autoStartAttempted=app.autoStartAttempted
  /-- Only a status changes the power state. -/
  power : ∀ value app, (use value app).powerState=
    if method="device.status" then powerOf value else app.powerState
  /-- Only metrics change the metrics. -/
  stats : ∀ value app, (use value app).stats=
    if method="vm.stats" then json.toStringPretty value else app.stats

/-- What asking does. -/
theorem ask_effect {json : JsonCodec} {method : String} {use : Json → LiteDroidApp → LiteDroidApp}
    (huse : Uses json method use) (s : Session) (daemon : Daemon) (trigger : Trigger)
    (params : Json) :
    (s.ask daemon trigger method params use).calls=s.calls++[asked s daemon trigger method params] ∧
    (s.ask daemon trigger method params use).app.profiles=s.app.profiles ∧
    (s.ask daemon trigger method params use).app.selectedDevice=s.app.selectedDevice ∧
    (s.ask daemon trigger method params use).app.daemonOnline=(daemon method params).reached ∧
    (s.ask daemon trigger method params use).app.autoStartAttempted=s.app.autoStartAttempted ∧
    (s.ask daemon trigger method params use).app.powerState=
      (if method="device.status" then (daemon method params).value.elim s.app.powerState powerOf
        else s.app.powerState) ∧
    (s.ask daemon trigger method params use).app.stats=
      (if method="vm.stats" then (daemon method params).value.elim s.app.stats json.toStringPretty
        else s.app.stats) := by
  unfold Session.ask Session.ipcCall
  dsimp only
  cases hvalue : (daemon method params).value with
  | none =>
    dsimp only [Option.elim]
    exact ⟨rfl,rfl,rfl,rfl,rfl,by split <;> rfl,by split <;> rfl⟩
  | some value =>
    dsimp only [Option.elim]
    exact ⟨rfl,huse.profiles _ _,huse.selected _ _,huse.online _ _,huse.attempted _ _,
      huse.power _ _,huse.stats _ _⟩

/-- Asking in order keeps what the fields say. -/
theorem ask_steady {json : JsonCodec} {method : String} {use : Json → LiteDroidApp → LiteDroidApp}
    (huse : Uses json method use) {s : Session} {daemon : Daemon} {trigger : Trigger}
    {params : Json} {due : ℕ}
    (h : Steady json (due+if trigger=.autoStart then 1 else 0) s)
    (hcall : InOrder s.calls (asked s daemon trigger method params)) :
    Steady json due (s.ask daemon trigger method params use) := by
  obtain ⟨hcalls,-,-,honline,hattempted,hpower,hstats⟩ := ask_effect huse s daemon trigger params
  have hor : ∀ (text : String) (shown : Json → String) (last : Option Json),
      ((daemon method params).value.or last).elim text shown=
        (daemon method params).value.elim (last.elim text shown) shown := by
    intro text shown last
    cases (daemon method params).value <;> rfl
  refine ⟨?_,?_,?_,?_,?_,?_⟩
  · rw [hcalls]
    exact each_snoc.mpr ⟨h.orderly,hcall⟩
  · intro _
    rw [hcalls,honline,List.getLast?_append_of_ne_nil _ (List.cons_ne_nil _ _)]
    exact ⟨_,rfl,rfl⟩
  · intro hnil
    rw [hcalls] at hnil
    exact absurd hnil (by simp)
  · rw [hcalls,lastValue_snoc,hpower,h.power]
    change _=Option.elim (if method="device.status" then _ else _) _ _
    split
    · exact (hor _ _ _).symm
    · rfl
  · rw [hcalls,lastValue_snoc,hstats,h.stats]
    change _=Option.elim (if method="vm.stats" then _ else _) _ _
    split
    · exact (hor _ _ _).symm
    · rfl
  · have honce := h.once
    rw [hcalls,ownStarts_snoc,hattempted]
    change ownStarts s.calls+(if trigger=.autoStart then 1 else 0)+due=_
    omega

/-- A message may be set on behalf of any method that reports nothing. -/
theorem uses_message (json : JsonCodec) {method : String} (message : Json → String)
    (hstatus : method≠"device.status") (hstats : method≠"vm.stats") :
    Uses json method fun value app => {app with statusMessage := message value} :=
  ⟨fun _ _ => rfl,fun _ _ => rfl,fun _ _ => rfl,fun _ _ => rfl,fun _ _ => (if_neg hstatus).symm,
    fun _ _ => (if_neg hstats).symm⟩

/-- A status sets the power state. -/
theorem uses_power (json : JsonCodec) : Uses json "device.status" fun status app =>
    {app with powerState := powerOf status} :=
  ⟨fun _ _ => rfl,fun _ _ => rfl,fun _ _ => rfl,fun _ _ => rfl,fun _ _ => rfl,fun _ _ => rfl⟩

/-- Metrics set the metrics. -/
theorem uses_stats (json : JsonCodec) : Uses json "vm.stats" fun stats app =>
    {app with stats := json.toStringPretty stats} :=
  ⟨fun _ _ => rfl,fun _ _ => rfl,fun _ _ => rfl,fun _ _ => rfl,fun _ _ => rfl,fun _ _ => rfl⟩

/-- The chosen device is listed. -/
theorem chooseDevice_listed (selected : String) (devices : List DeviceRow) :
    devices=[] ∨ chooseDevice selected devices∈names devices := by
  unfold chooseDevice
  split
  · rename_i hlisted
    exact Or.inr hlisted
  · cases devices with
    | nil => exact Or.inl rfl
    | cons device rest => exact Or.inr List.mem_cons_self

/-- What holds of the panel between two events. -/
structure Sound (json : JsonCodec) (s : Session) : Prop where
  /-- The fields say what the calls have shown. -/
  steady : Steady json 0 s
  /-- The selected device is listed. -/
  selected : Selected s
  /-- The panel's own start was made at the first opportunity. -/
  prompt : Prompt s
  /-- The daemon was called. -/
  called : s.calls≠[]

/-- The last call of a panel that has called. -/
theorem Steady.last {json : JsonCodec} {due : ℕ} {s : Session} (h : Steady json due s)
    (honline : s.app.daemonOnline=true) :
    ∃ previous, s.calls.getLast?=some previous ∧ previous.result.reached=true := by
  by_cases hnil : s.calls=[]
  · rw [h.offline hnil] at honline
    cases honline
  · obtain ⟨last,hlast,hreached⟩ := h.online hnil
    exact ⟨last,hlast,hreached.symm.trans honline⟩

/-- A start by the selected name is by a listed one. -/
theorem selected_starts {s : Session} (h : Selected s) :
    ∃ name, deviceParams s.app.selectedDevice=deviceParams name ∧
      (names s.app.profiles.devices=[] ∨ name∈names s.app.profiles.devices) := by
  refine ⟨_,rfl,?_⟩
  rcases h with hnil | hlisted
  · rw [hnil]
    exact Or.inl rfl
  · exact Or.inr hlisted

/-- The panel's own start keeps what the fields say, and leaves none due. -/
theorem autoStart_sound {json : JsonCodec} {s : Session} (daemon : Daemon)
    (h : Steady json 0 s) (hselected : Selected s) (hcalled : s.calls≠[])
    (hprompt : ∀ call∈s.calls, call.trigger=.refresh → call.result.reached=true →
      call.listed≠[] → s.app.autoStartAttempted=true ∨
        (s.app.daemonOnline=true ∧ s.app.profiles.devices≠[])) :
    Sound json (s.autoStart daemon) := by
  unfold Session.autoStart
  split
  · rename_i hdue
    obtain ⟨honline,hdevices,hattempted⟩ := hdue
    have hstarts := uses_message json (fun _ => "Starting Android emulator")
      (by decide : "device.start"≠"device.status") (by decide)
    have hfields : Steady json (0+if Trigger.autoStart=.autoStart then 1 else 0)
        {s with app := {s.app with autoStartAttempted := true}} := by
      refine ⟨h.orderly,h.online,h.offline,h.power,h.stats,?_⟩
      have honce := h.once
      rw [hattempted] at honce
      change ownStarts s.calls+_=1
      simp only [Bool.false_eq_true,if_false,if_true] at honce ⊢
      omega
    have hcall : InOrder s.calls (asked {s with app := {s.app with autoStartAttempted := true}}
        daemon .autoStart "device.start" (deviceParams s.app.selectedDevice)) := by
      refine ⟨fun _ => selected_starts hselected,fun hmem => ?_,fun _ => h.last honline,
        fun _ => ⟨rfl,?_⟩⟩
      · exact absurd hmem (by decide : "device.start"∉_)
      · intro hnil
        exact hdevices (List.map_eq_nil_iff.mp hnil)
    obtain ⟨hcalls,hprofiles,hname,-,htrue,-,-⟩ := ask_effect hstarts
      {s with app := {s.app with autoStartAttempted := true}} daemon .autoStart
      (deviceParams s.app.selectedDevice)
    refine ⟨ask_steady hstarts hfields hcall,?_,fun _ _ _ _ _ => htrue,?_⟩
    · unfold Selected
      rw [hprofiles,hname]
      exact hselected
    · rw [hcalls]
      simp
  · rename_i hdue
    refine ⟨h,hselected,?_,hcalled⟩
    intro call hmem htrigger hreached hlisted
    rcases hprompt call hmem htrigger hreached hlisted with hdone | ⟨honline,hdevices⟩
    · exact hdone
    · by_contra hnot
      exact hdue ⟨honline,hdevices,eq_false_of_ne_true hnot⟩

/-- A refresh keeps what the fields say. -/
theorem refreshed_sound {json : JsonCodec} {s : Session} (daemon : Daemon) (profiles : Panel)
    (h : Steady json 0 s) (hprompt : Prompt s) : Sound json (s.refreshed daemon profiles) := by
  have hshown : Steady json (0+if Trigger.refresh=.autoStart then 1 else 0)
      (s.showProfiles profiles) := ⟨h.orderly,h.online,h.offline,h.power,h.stats,h.once⟩
  have hcall : InOrder (s.showProfiles profiles).calls
      (asked (s.showProfiles profiles) daemon .refresh "device.status" (.obj [])) := by
    refine ⟨fun hstart => ?_,fun _ => rfl,fun htrigger => ?_,fun htrigger => ?_⟩
    · exact absurd hstart (by decide : "device.status"≠"device.start")
    · exact absurd htrigger (by simp [asked])
    · exact absurd htrigger (by simp [asked])
  obtain ⟨hcalls,hdevices,hname,honline,hattempted,-,-⟩ := ask_effect (uses_power json)
    (s.showProfiles profiles) daemon .refresh (.obj [])
  refine autoStart_sound daemon (ask_steady (uses_power json) hshown hcall) ?_ ?_ ?_
  · unfold Selected Session.pollStatus
    rw [hdevices,hname]
    exact chooseDevice_listed _ _
  · unfold Session.pollStatus
    rw [hcalls]
    simp
  · intro call hmem htrigger hreached hlisted
    unfold Session.pollStatus at hmem ⊢
    rw [hcalls] at hmem
    rcases List.mem_append.mp hmem with hold | hnew
    · refine Or.inl ?_
      rw [hattempted]
      exact hprompt call hold htrigger hreached hlisted
    · obtain rfl := List.mem_singleton.mp hnew
      refine Or.inr ⟨?_,?_⟩
      · rw [honline]
        exact hreached
      · rw [hdevices]
        intro hnil
        apply hlisted
        change names (s.showProfiles profiles).app.profiles.devices=[]
        rw [hnil]
        rfl

/-- A change of the message, the diagnosis or the files keeps everything. -/
theorem Sound.change {json : JsonCodec} {s : Session} (h : Sound json s) (files : Files)
    (lines : List String) (message : String) :
    Sound json {s with app := {s.app with
      profiles := {s.app.profiles with files := files}, diagnostics := lines,
      statusMessage := message}} :=
  ⟨⟨h.steady.orderly,h.steady.online,h.steady.offline,h.steady.power,h.steady.stats,
    h.steady.once⟩,h.selected,h.prompt,h.called⟩

/-- A list of the same devices keeps everything. -/
theorem Sound.relist {json : JsonCodec} {s : Session} {panel : Panel} (h : Sound json s)
    (hdevices : panel.devices=s.app.profiles.devices) (message : String) :
    Sound json {s with app := {s.app with profiles := panel, statusMessage := message}} := by
  refine ⟨⟨h.steady.orderly,h.steady.online,h.steady.offline,h.steady.power,h.steady.stats,
    h.steady.once⟩,?_,h.prompt,h.called⟩
  change panel.devices=[] ∨ s.app.selectedDevice∈names panel.devices
  rw [hdevices]
  exact h.selected

/-- One more call of the user keeps everything. -/
theorem ask_sound {json : JsonCodec} {method : String} {use : Json → LiteDroidApp → LiteDroidApp}
    (huse : Uses json method use) {s : Session} {daemon : Daemon} {trigger : Trigger}
    {params : Json} (h : Sound json s) (htrigger : trigger=.button ∨ trigger=.metrics)
    (hcall : InOrder s.calls (asked s daemon trigger method params)) :
    Sound json (s.ask daemon trigger method params use) := by
  obtain ⟨hcalls,hdevices,hname,-,hattempted,-,-⟩ := ask_effect huse s daemon trigger params
  have hown : trigger≠.autoStart ∧ trigger≠.refresh := by
    rcases htrigger with rfl | rfl <;> decide
  refine ⟨ask_steady huse ?_ hcall,?_,?_,?_⟩
  · rw [if_neg hown.1]
    exact h.steady
  · unfold Selected
    rw [hdevices,hname]
    exact h.selected
  · intro call hmem hrefresh hreached hlisted
    rw [hcalls] at hmem
    rw [hattempted]
    rcases List.mem_append.mp hmem with hold | hnew
    · exact h.prompt call hold hrefresh hreached hlisted
    · obtain rfl := List.mem_singleton.mp hnew
      exact absurd hrefresh hown.2
  · rw [hcalls]
    simp

/-- A button that needs the daemon keeps everything. -/
theorem press_sound {json : JsonCodec} {s next : Session} {daemon : Daemon} {method : String}
    {params : Json} {message : Json → String} (h : Sound json s)
    (hreports : method≠"device.status" ∧ method≠"vm.stats")
    (hstarts : method="device.start" → params=deviceParams s.app.selectedDevice)
    (hunnamed : method∈["device.stop","device.restart","device.wipe"] → params=.obj [])
    (hpress : s.press daemon method params message=some next) : Sound json next := by
  unfold Session.press at hpress
  split at hpress
  · rename_i honline
    obtain rfl := Option.some.inj hpress
    refine ask_sound (uses_message json message hreports.1 hreports.2) h (Or.inl rfl) ?_
    refine ⟨fun hmethod => ?_,hunnamed,fun _ => h.steady.last honline,fun hown => ?_⟩
    · obtain ⟨name,hname,hlisted⟩ := selected_starts h.selected
      exact ⟨name,(hstarts hmethod).trans hname,hlisted⟩
    · cases hown
  · cases hpress

/-- A profile that could not be created leaves the list as it was. -/
theorem createDevice_devices {toml : Toml} {json : JsonCodec} {host : Host} {id refreshId : Uuid}
    {panel : Panel} (h : ¬(createDevice toml json host id refreshId panel).created=true) :
    (createDevice toml json host id refreshId panel).panel.devices=panel.devices := by
  unfold createDevice at h ⊢
  dsimp only at h ⊢
  split
  · rename_i files hwrite
    rw [hwrite] at h
    exact absurd rfl h
  · rfl

/-- Every event keeps everything. -/
theorem step_sound {toml : Toml} {json : JsonCodec} {host : Host} {s next : Session} {event : Event}
    (h : Sound json s) (hstep : step toml json host s event=some next) : Sound json next := by
  cases event with
  | refresh daemon id =>
    obtain rfl := Option.some.inj hstep
    exact refreshed_sound daemon _ h.steady h.prompt
  | createDevice daemon id refreshId fault =>
    unfold step at hstep
    dsimp only at hstep
    split at hstep
    · obtain rfl := Option.some.inj hstep
      exact refreshed_sound daemon _ (h.change s.app.profiles.files s.app.diagnostics _).steady
        h.prompt
    · rename_i hfailed
      obtain rfl := Option.some.inj hstep
      exact h.relist (createDevice_devices hfailed) _
  | select index =>
    simp only [step] at hstep
    split at hstep
    · cases hstep
    · rename_i device hdevice
      obtain rfl := Option.some.inj hstep
      refine ⟨⟨h.steady.orderly,h.steady.online,h.steady.offline,h.steady.power,h.steady.stats,
        h.steady.once⟩,Or.inr ?_,h.prompt,h.called⟩
      exact List.mem_map_of_mem (List.mem_of_getElem? hdevice)
  | startDevice daemon =>
    exact press_sound h (by decide) (fun _ => rfl) (fun hmem => absurd hmem (by decide)) hstep
  | stopDevice daemon =>
    exact press_sound h (by decide) (fun hstart => absurd hstart (by decide)) (fun _ => rfl) hstep
  | restart daemon =>
    exact press_sound h (by decide) (fun hstart => absurd hstart (by decide)) (fun _ => rfl) hstep
  | wipeData daemon =>
    exact press_sound h (by decide) (fun hstart => absurd hstart (by decide)) (fun _ => rfl) hstep
  | screenshot daemon =>
    exact press_sound h (by decide) (fun hstart => absurd hstart (by decide)) (fun _ => rfl) hstep
  | refreshMetrics daemon =>
    obtain rfl := Option.some.inj hstep
    refine ask_sound (uses_stats json) h (Or.inr rfl) ⟨fun hstart => ?_,fun _ => rfl,?_,?_⟩
    · exact absurd hstart (by decide : "vm.stats"≠"device.start")
    · exact fun htrigger => absurd htrigger (by simp [asked])
    · exact fun htrigger => absurd htrigger (by simp [asked])
  | runDiagnostics lines =>
    obtain rfl := Option.some.inj hstep
    exact h.change s.app.profiles.files lines _
  | others files =>
    obtain rfl := Option.some.inj hstep
    exact h.change files s.app.diagnostics s.app.statusMessage

/-- The panel is sound when it is shown first. -/
theorem start_sound (toml : Toml) (json : JsonCodec) (host : Host) (daemon : Daemon) (id : Uuid)
    (files : Files) : Sound json (start toml json host daemon id files) := by
  refine refreshed_sound daemon _ ⟨each_nil,fun h => absurd rfl h,fun _ => rfl,rfl,rfl,rfl⟩ ?_
  intro call hmem
  cases hmem

/-- A daemon that answers every request. -/
def present : Daemon := fun _ _ =>
  .answered ⟨1,"request",true,some (.obj [("power_state",.str "running")]),none⟩

/-- No daemon. -/
def absent : Daemon := fun _ _ => .unreachable "No such file or directory (os error 2)"

end LiteDroid.GuiPanel
