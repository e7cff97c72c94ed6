import LiteDroid.CoreText
import LiteDroid.IpcMessages

/-!
# The daemon's request handler

The state behind the daemon's mutex and what each request does to it. The
host answers: whether the child is alive, what the debug bridge prints, how
far a launch gets. A report lists what a request did to processes, in order,
beside its response and the state it left. Texts that processes print are
taken as decoded; the contents of a screenshot are not looked at.
-/

namespace LiteDroid.DaemonDispatch

open CoreText IpcMessages

/-- The power states the daemon reports. -/
inductive PowerState where
  /-- Nothing runs. -/
  | off
  /-- The daemon is shutting down. -/
  | stopping
  /-- A child runs and Android is not up. -/
  | booting
  /-- A child runs and Android is up. -/
  | running
  /-- The child failed. -/
  | error
  deriving DecidableEq, Repr

/-- The text of a power state. -/
def PowerState.text : PowerState → String
  | .off => "off"
  | .stopping => "stopping"
  | .booting => "booting"
  | .running => "running"
  | .error => "error"

/-- A spawned emulator process. -/
structure Child where
  /-- Process identifier. -/
  pid : ℕ
  deriving DecidableEq, Repr

/-- The state behind the daemon's mutex. -/
structure DaemonState where
  /-- Name of the device that was launched. -/
  activeDevice : Option String
  /-- Last known power state. -/
  powerState : PowerState
  /-- Identity of the stop flag of an in-process machine. -/
  stopHandle : Option ℕ
  /-- The emulator process. -/
  emulator : Option Child
  /-- Path of the debug bridge that belongs to it. -/
  adb : Option String
  deriving DecidableEq, Repr

/-- The state when the daemon starts. -/
def DaemonState.initial : DaemonState := ⟨none,.off,none,none,none⟩

/-- What polling the child finds. -/
inductive Poll where
  /-- The child runs. -/
  | alive
  /-- The child has exited, successfully or not. -/
  | exited (success : Bool)
  /-- The child cannot be polled. -/
  | failed
  deriving DecidableEq, Repr

/-- What a finished process printed. -/
structure ProcessOutput where
  /-- Whether its exit status is zero. -/
  success : Bool
  /-- Its standard output. -/
  stdout : String
  /-- Its standard error. -/
  stderr : String

/-- How far a launch gets: each stage, or the text of its error. -/
structure LaunchAnswers where
  /-- Loading the daemon's configuration. -/
  loadConfig : Except String Unit
  /-- Loading the profile of the device; its API level. -/
  deviceConfig : Except String ℕ
  /-- Creating the default profile; its API level. -/
  ensureDefaultDevice : Except String ℕ
  /-- Providing the system images. -/
  ensureAndroidImages : Except String Unit
  /-- Finding the tools and preparing the virtual device; path of the debug
  bridge, or the complete message. -/
  androidEmulator : Except String String
  /-- Path of the emulator log. -/
  emulatorLog : String
  /-- Creating the emulator log. -/
  createLog : Except String Unit
  /-- Duplicating the handle of the emulator log. -/
  cloneLog : Except String Unit
  /-- Starting the emulator. -/
  spawn : Except String Child

/-- Everything the host answers while one request is handled. -/
structure Answers where
  /-- Process identifier of the daemon. -/
  pid : ℕ
  /-- Polling the child. -/
  poll : Poll
  /-- What the debug bridge prints for its state, if it can be run. -/
  getState : Option String
  /-- How far a launch gets. -/
  launch : LaunchAnswers
  /-- Running a command of the debug bridge. -/
  adbRun : Except String ProcessOutput
  /-- Whether the package file exists. -/
  apkIsFile : Bool
  /-- The daemon's data directory, if its configuration loads. -/
  dataDir : Option String
  /-- Creating the directory of a screenshot. -/
  createDir : Except String Unit
  /-- Saving a screenshot. -/
  saveFile : Except String Unit

/-- What a request does to processes. -/
inductive Effect where
  /-- Poll a child. -/
  | poll (child : Child) (answer : Poll)
  /-- Kill a child and wait for it. -/
  | killAndWait (child : Child)
  /-- Start an emulator for a virtual device. -/
  | spawn (child : Child) (avd : String) (wipe : Bool)
  /-- Ask the debug bridge for its state. -/
  | adbGetState (adb : String)
  /-- Run a command of the debug bridge. -/
  | adbCommand (adb : String) (args : List String)
  /-- Clear a machine's run flag. -/
  | clearFlag (handle : ℕ)
  /-- Clear the flag of the daemon's accept loop. -/
  | stopAccepting
  deriving DecidableEq, Repr

/-- The name of the virtual device behind a profile and an API level. -/
def avdName (deviceName : String) (apiLevel : ℕ) : String :=
  let safeName := String.ofList (deviceName.toList.map fun c => if c.isAlphanum then c else '_')
  s!"LiteDroid-{safeName}-API{apiLevel}"

/-- Kill the child, if there is one. -/
def killEffects (state : DaemonState) : List Effect :=
  match state.emulator with
  | none => []
  | some child => [.killAndWait child]

/-- The effects of letting go of the stop flag. -/
def flagEffects (state : DaemonState) : List Effect :=
  match state.stopHandle with
  | none => []
  | some handle => [.clearFlag handle]

/-- State and effects of stopping the emulator. -/
def stopEmulator (state : DaemonState) : DaemonState×List Effect :=
  ({state with emulator := none, adb := none, activeDevice := none, powerState := .off},
    killEffects state)

/-- Result, state and effects of a launch. -/
structure LaunchReport where
  /-- The launched device, or the message of the stage that failed. -/
  result : Except String Json
  /-- The state afterwards. -/
  state : DaemonState
  /-- The process it started, if it got that far. -/
  effects : List Effect

/-- The API level of the device to launch. A missing default profile is created. -/
def launchLevel (answers : LaunchAnswers) (deviceName : String) : Except String ℕ :=
  match answers.deviceConfig with
  | .ok level => .ok level
  | .error e =>
    if deviceName="default" then
      match answers.ensureDefaultDevice with
      | .ok level => .ok level
      | .error e => .error s!"Cannot create default device: {e}"
    else .error s!"Cannot load device {deviceName}: {e}"

/-- The stages of a launch before the state is touched: API level, debug
bridge and child. -/
def launchStages (answers : LaunchAnswers) (deviceName : String) :
    Except String (ℕ×String×Child) := do
  answers.loadConfig.mapError fun e => s!"Cannot load configuration: {e}"
  let level ← launchLevel answers deviceName
  answers.ensureAndroidImages.mapError fun e => s!"Android images are unavailable: {e}"
  let adb ← answers.androidEmulator
  answers.createLog.mapError fun e => s!"Cannot create emulator log: {e}"
  answers.cloneLog.mapError fun e => s!"Cannot prepare emulator log: {e}"
  let child ← answers.spawn.mapError fun e => s!"Cannot start Android emulator: {e}"
  return (level,adb,child)

/-- Launch a device. The state changes only when every stage succeeded. -/
def launchDevice (answers : LaunchAnswers) (state : DaemonState) (deviceName : String)
    (wipeData : Bool) : LaunchReport :=
  match launchStages answers deviceName with
  | .error e => ⟨.error e,state,[]⟩
  | .ok (level,adb,child) =>
    ⟨.ok (.obj [("avd",.str (avdName deviceName level)),("device",.str deviceName),
        ("log",.str answers.emulatorLog),("status",.str "booting"),("wipe_data",.bool wipeData)]),
      {state with
        activeDevice := some deviceName, powerState := .booting, emulator := some child,
        adb := some adb},
      [.spawn child (avdName deviceName level) wipeData]⟩

/-- Reported power state, state and effects of a poll. -/
structure PollReport where
  /-- The reported power state. -/
  power : PowerState
  /-- The state afterwards. -/
  state : DaemonState
  /-- The poll, and the question to the debug bridge. -/
  effects : List Effect

/-- What the debug bridge says, if the state has one and it can be run. -/
def adbState (answers : Answers) (state : DaemonState) : Option String :=
  match state.adb with
  | none => none
  | some _ => answers.getState.map trim

/-- The question to the debug bridge, if the state has one. -/
def getStateEffects (state : DaemonState) : List Effect :=
  match state.adb with
  | none => []
  | some adb => [.adbGetState adb]

/-- Poll the child and report the power state. Without a child the stored
power state is reported as it is. -/
def emulatorState (answers : Answers) (state : DaemonState) : PollReport :=
  match state.emulator with
  | none => ⟨state.powerState,state,[]⟩
  | some child =>
    match answers.poll with
    | .alive =>
      let power := if adbState answers state=some "device" then .running else .booting
      ⟨power,{state with powerState := power},.poll child .alive::getStateEffects state⟩
    | .exited success =>
      let power := if success then .off else .error
      ⟨power,{state with emulator := none, adb := none, activeDevice := none, powerState := power},
        [.poll child (.exited success)]⟩
    | .failed => ⟨.error,{state with powerState := .error},[.poll child .failed]⟩

/-- Result, state and effects of a command of the debug bridge. -/
structure AdbReport where
  /-- What it printed, or why it was refused or failed. -/
  result : Except String String
  /-- The state afterwards. -/
  state : DaemonState
  /-- The poll and, if the gate was open, the command. -/
  effects : List Effect

/-- Run a command of the debug bridge, if the reported power state is running. -/
def adbBytes (answers : Answers) (state : DaemonState) (args : List String) : AdbReport :=
  let polled := emulatorState answers state
  if polled.power≠.running then
    ⟨.error "Android is still booting; wait until device status is running",polled.state,
      polled.effects⟩
  else
    match polled.state.adb with
    | none =>
      ⟨.error "ADB is unavailable because no device is running",polled.state,polled.effects⟩
    | some adb =>
      let effects := polled.effects++[.adbCommand adb (["-s","emulator-5554"]++args)]
      match answers.adbRun with
      | .error e => ⟨.error s!"Cannot run ADB: {e}",polled.state,effects⟩
      | .ok output =>
        if output.success then ⟨.ok output.stdout,polled.state,effects⟩
        else
          let text := trim output.stderr
          ⟨.error s!"ADB command failed: {text}",polled.state,effects⟩

/-- The methods of the daemon. -/
inductive Method where
  /-- Liveness check. -/
  | daemonPing
  /-- Status of the daemon. -/
  | daemonStatus
  /-- Stop the daemon. -/
  | daemonShutdown
  /-- Launch a device. -/
  | deviceStart
  /-- Stop the device. -/
  | deviceStop
  /-- Launch the device again. -/
  | deviceRestart
  /-- Launch the device with its data erased. -/
  | deviceWipe
  /-- Not implemented. -/
  | devicePause
  /-- Not implemented. -/
  | deviceResume
  /-- Status of the device. -/
  | deviceStatus
  /-- Start an application. -/
  | deviceLaunch
  /-- Save a screenshot. -/
  | deviceScreenshot
  /-- Resource usage. -/
  | vmStats
  /-- Install a package. -/
  | apkInstall
  /-- Remove a package. -/
  | apkUninstall
  /-- List packages. -/
  | apkList
  /-- Open a shell. -/
  | adbShell
  /-- Read the log. -/
  | adbLogcat
  /-- Snapshots, which there are none of. -/
  | snapshot
  /-- Any other name. -/
  | unknown (name : String)
  deriving DecidableEq, Repr

/-- The method of a name. -/
def Method.ofName : String → Method
  | "daemon.ping" => .daemonPing
  | "daemon.status" => .daemonStatus
  | "daemon.shutdown" => .daemonShutdown
  | "device.start" => .deviceStart
  | "device.stop" => .deviceStop
  | "device.restart" => .deviceRestart
  | "device.wipe" => .deviceWipe
  | "device.pause" => .devicePause
  | "device.resume" => .deviceResume
  | "device.status" => .deviceStatus
  | "device.launch" => .deviceLaunch
  | "device.screenshot" => .deviceScreenshot
  | "vm.stats" => .vmStats
  | "apk.install" => .apkInstall
  | "adb.install" => .apkInstall
  | "apk.uninstall" => .apkUninstall
  | "apk.list" => .apkList
  | "adb.shell" => .adbShell
  | "adb.logcat" => .adbLogcat
  | "snapshot.create" => .snapshot
  | "snapshot.restore" => .snapshot
  | "snapshot.list" => .snapshot
  | "snapshot.delete" => .snapshot
  | name => .unknown name

/-- A method that stops the emulator whatever state it finds. -/
def stopping : Method → Bool
  | .daemonShutdown => true
  | .deviceStop => true
  | .deviceRestart => true
  | .deviceWipe => true
  | _ => false

/-- Response, state and effects of one request. -/
structure DispatchReport where
  /-- The response. -/
  response : IpcResponse
  /-- The state afterwards. -/
  state : DaemonState
  /-- What the request did to processes, in order. -/
  effects : List Effect

/-- A response that does nothing. -/
def answered (state : DaemonState) (response : IpcResponse) : DispatchReport :=
  ⟨response,state,[]⟩

/-- The response to a launch that follows some effects. -/
def launched (req : IpcRequest) (before : List Effect) (report : LaunchReport) : DispatchReport :=
  match report.result with
  | .ok result => ⟨makeOk req result,report.state,before++report.effects⟩
  | .error e => ⟨makeErr req e,report.state,before++report.effects⟩

/-- The response to a command of the debug bridge, made from its trimmed output. -/
def bridged (req : IpcRequest) (report : AdbReport) (result : String → Json) : DispatchReport :=
  match report.result with
  | .ok stdout => ⟨makeOk req (result (trim stdout)),report.state,report.effects⟩
  | .error e => ⟨makeErr req e,report.state,report.effects⟩

/-- Start a device unless a child is alive or cannot be polled. -/
def deviceStart (answers : Answers) (req : IpcRequest) (state : DaemonState) : DispatchReport :=
  let deviceName := (req.param "device").getD "default"
  match state.emulator with
  | none => launched req [] (launchDevice answers.launch state deviceName false)
  | some child =>
    match answers.poll with
    | .exited success =>
      launched req [.poll child (.exited success)]
        (launchDevice answers.launch {state with emulator := none} deviceName false)
    | other =>
      ⟨makeErr req "Android emulator is already running",state,[.poll child other]⟩

/-- Stop the emulator and launch the active device, or the default one, again. -/
def deviceRelaunch (answers : Answers) (req : IpcRequest) (state : DaemonState) (wipe : Bool) :
    DispatchReport :=
  let deviceName := state.activeDevice.getD "default"
  let stopped := stopEmulator state
  launched req stopped.2 (launchDevice answers.launch stopped.1 deviceName wipe)

/-- The path a screenshot is saved to. -/
def screenshotPath (answers : Answers) (req : IpcRequest) : String :=
  match req.param "path" with
  | some path => path
  | none =>
    match answers.dataDir with
    | some dir => s!"{dir}/screenshots/device.png"
    | none => "device.png"

/-- Save a screenshot. -/
def deviceScreenshot (answers : Answers) (req : IpcRequest) (state : DaemonState) :
    DispatchReport :=
  match answers.createDir with
  | .error e => answered state (makeErr req s!"Cannot create screenshot directory: {e}")
  | .ok () =>
    let report := adbBytes answers state ["exec-out","screencap","-p"]
    match report.result with
    | .error e => ⟨makeErr req e,report.state,report.effects⟩
    | .ok _ =>
      match answers.saveFile with
      | .error e => ⟨makeErr req s!"Cannot save screenshot: {e}",report.state,report.effects⟩
      | .ok () =>
        ⟨makeOk req (.obj [("path",.str (screenshotPath answers req))]),report.state,
          report.effects⟩

/-- The constant answer about resource usage. -/
def vmStats : Json :=
  .obj [("cpu",.obj [("guest_time_ms",.num 0),("host_percent",.tenths 0),("vcpu_percent",.arr [])]),
    ("gpu",.obj [("fps",.tenths 0),("hw_accelerated",.bool false),("memory_mb",.num 0),
      ("utilization_percent",.tenths 0)]),
    ("memory",.obj [("allocated_mb",.num 0),("host_rss_mb",.num 0),("used_mb",.num 0)]),
    ("network",.obj [("guest_ip",.null),("rx_bytes_per_sec",.num 0),("tx_bytes_per_sec",.num 0)]),
    ("uptime_secs",.num 0)]

/-- Handle one request. -/
def dispatch (answers : Answers) (req : IpcRequest) (state : DaemonState) : DispatchReport :=
  let pid := answers.pid
  match Method.ofName req.method with
  | .daemonPing => answered state (makeOk req (.obj [("pid",.num pid),("pong",.bool true)]))
  | .daemonStatus => answered state (makeOk req (.obj [("pid",.num pid),("running",.bool true)]))
  | .daemonShutdown =>
    ⟨makeOk req (.obj [("shutting_down",.bool true)]),
      {state with emulator := none, activeDevice := none, powerState := .stopping},
      killEffects state++[.stopAccepting]⟩
  | .deviceStart => deviceStart answers req state
  | .deviceStop =>
    let flag := match state.stopHandle with
      | none => []
      | some handle => [Effect.clearFlag handle]
    ⟨makeOk req (.obj [("status",.str "stopped")]),
      {(stopEmulator state).1 with stopHandle := none},(stopEmulator state).2++flag⟩
  | .deviceRestart => deviceRelaunch answers req state false
  | .deviceWipe => deviceRelaunch answers req state true
  | .devicePause => answered state (makeErr req "Pause is not implemented for the active VM")
  | .deviceResume => answered state (makeErr req "Resume is not implemented for the active VM")
  | .deviceStatus =>
    let polled := emulatorState answers state
    let device := match polled.state.activeDevice with
      | none => Json.null
      | some name => .str name
    ⟨makeOk req (.obj [("device",device),("power_state",.str polled.power.text)]),polled.state,
      polled.effects⟩
  | .deviceLaunch =>
    match req.param "package" with
    | none => answered state (makeErr req "A package name is required")
    | some package =>
      bridged req (adbBytes answers state
          ["shell","monkey","-p",package,"-c","android.intent.category.LAUNCHER","1"])
        fun output => .obj [("output",.str output),("package",.str package)]
  | .deviceScreenshot => deviceScreenshot answers req state
  | .vmStats => answered state (makeOk req vmStats)
  | .apkInstall =>
    match req.param "path" with
    | none => answered state (makeErr req "An APK path is required")
    | some path =>
      if answers.apkIsFile then
        bridged req (adbBytes answers state ["install","-r",path])
          fun output => .obj [("output",.str output)]
      else answered state (makeErr req s!"APK not found: {path}")
  | .apkUninstall =>
    match req.param "package" with
    | none => answered state (makeErr req "A package name is required")
    | some package =>
      bridged req (adbBytes answers state ["uninstall",package])
        fun output => .obj [("output",.str output)]
  | .apkList =>
    bridged req (adbBytes answers state ["shell","pm","list","packages","-3"])
      fun output => .obj [("packages",.arr ((lines output).map .str))]
  | .adbShell =>
    bridged req (adbBytes answers state ["shell"]) fun output => .obj [("output",.str output)]
  | .adbLogcat =>
    bridged req (adbBytes answers state ["logcat","-d","-t","200"])
      fun output => .obj [("output",.str output)]
  | .snapshot => answered state (makeErr req "No active VM")
  | .unknown name => answered state (makeErr req s!"Unknown method: {name}")

/-- The response to a launch keeps its state. -/
@[simp] theorem launched_state (req : IpcRequest) (before : List Effect) (report : LaunchReport) :
    (launched req before report).state=report.state := by
  unfold launched
  split <;> rfl

/-- The response to a command of the debug bridge keeps its state. -/
@[simp] theorem bridged_state (req : IpcRequest) (report : AdbReport) (result : String → Json) :
    (bridged req report result).state=report.state := by
  unfold bridged
  split <;> rfl

/-- The response to a command of the debug bridge keeps its effects. -/
@[simp] theorem bridged_effects (req : IpcRequest) (report : AdbReport)
    (result : String → Json) : (bridged req report result).effects=report.effects := by
  unfold bridged
  split <;> rfl

/-- A command of the debug bridge leaves the state its poll left. -/
theorem adbBytes_state (answers : Answers) (state : DaemonState) (args : List String) :
    (adbBytes answers state args).state=(emulatorState answers state).state := by
  unfold adbBytes
  dsimp only
  split
  · rfl
  · split
    · rfl
    · split
      · rfl
      · split <;> rfl

/-- Behind its poll, the debug bridge runs at most one command, and only when
the poll reported a running device and left a bridge. -/
theorem adbBytes_effects (answers : Answers) (state : DaemonState) (args : List String) :
    (adbBytes answers state args).effects=(emulatorState answers state).effects ∨
    ∃ adb, (emulatorState answers state).power=.running ∧
      (emulatorState answers state).state.adb=some adb ∧
      (adbBytes answers state args).effects=(emulatorState answers state).effects++
        [.adbCommand adb (["-s","emulator-5554"]++args)] := by
  unfold adbBytes
  dsimp only
  split
  · exact Or.inl rfl
  · rename_i hp
    split
    · exact Or.inl rfl
    · rename_i adb ha
      refine Or.inr ⟨adb,Decidable.not_not.mp hp,ha,?_⟩
      split
      · rfl
      · split <;> rfl

/-- The state of a launched device. -/
def DaemonState.booting (state : DaemonState) (name : String) (child : Child) (adb : String) :
    DaemonState :=
  {state with activeDevice := some name, powerState := .booting, emulator := some child,
              adb := some adb}

/-- What one request can do to the state. -/
inductive StateChange (answers : Answers) (req : IpcRequest) (state : DaemonState) :
    DaemonState → Prop where
  /-- Nothing. -/
  | kept : StateChange answers req state state
  /-- Drop the child and mark the daemon as stopping. -/
  | shutDown : StateChange answers req state
      {state with emulator := none, activeDevice := none, powerState := .stopping}
  /-- Stop the emulator and let go of the stop flag. -/
  | stopped : StateChange answers req state {(stopEmulator state).1 with stopHandle := none}
  /-- Poll the child. -/
  | polled : StateChange answers req state (emulatorState answers state).state
  /-- Start a device while there is no child, or an exited one. -/
  | started (level : ℕ) (adb : String) (child : Child)
      (hm : Method.ofName req.method=.deviceStart)
      (hfree : state.emulator=none ∨ ∃ success, answers.poll=.exited success)
      (hs : launchStages answers.launch ((req.param "device").getD "default")=
        .ok (level,adb,child)) :
      StateChange answers req state (state.booting ((req.param "device").getD "default") child adb)
  /-- Drop an exited child and fail to start a device. -/
  | orphaned (child : Child) (success : Bool) (e : String)
      (hm : Method.ofName req.method=.deviceStart) (hc : state.emulator=some child)
      (hp : answers.poll=.exited success)
      (hs : launchStages answers.launch ((req.param "device").getD "default")=.error e) :
      StateChange answers req state {state with emulator := none}
  /-- Stop the emulator and launch the active device again. -/
  | relaunched (level : ℕ) (adb : String) (child : Child)
      (hm : Method.ofName req.method=.deviceRestart ∨ Method.ofName req.method=.deviceWipe)
      (hs : launchStages answers.launch (state.activeDevice.getD "default")=
        .ok (level,adb,child)) :
      StateChange answers req state
        ((stopEmulator state).1.booting (state.activeDevice.getD "default") child adb)
  /-- Stop the emulator and fail to launch the active device again. -/
  | relaunchFailed (e : String)
      (hm : Method.ofName req.method=.deviceRestart ∨ Method.ofName req.method=.deviceWipe)
      (hs : launchStages answers.launch (state.activeDevice.getD "default")=.error e) :
      StateChange answers req state (stopEmulator state).1

/-- The response to a launch carries the identifier of its request. -/
theorem launched_requestId (req : IpcRequest) (before : List Effect) (report : LaunchReport) :
    (launched req before report).response.requestId=req.requestId := by
  unfold launched
  split <;> rfl

/-- The response to a start carries the identifier of its request. -/
theorem deviceStart_requestId (answers : Answers) (req : IpcRequest) (state : DaemonState) :
    (deviceStart answers req state).response.requestId=req.requestId := by
  unfold deviceStart
  dsimp only
  split
  · exact launched_requestId req _ _
  · split
    · exact launched_requestId req _ _
    · rfl

/-- The ways a request is handled. Responses matter only through the
identifier they carry. -/
inductive Route (answers : Answers) (req : IpcRequest) (state : DaemonState) :
    DispatchReport → Prop where
  /-- Answer without looking at the emulator. -/
  | answer (response : IpcResponse) (hid : response.requestId=req.requestId)
      (hm : stopping (Method.ofName req.method)=false) :
      Route answers req state (answered state response)
  /-- Kill the child and stop accepting connections. -/
  | shutDown (response : IpcResponse) (hid : response.requestId=req.requestId)
      (hm : Method.ofName req.method=.daemonShutdown) :
      Route answers req state
        ⟨response,{state with emulator := none, activeDevice := none, powerState := .stopping},
          killEffects state++[.stopAccepting]⟩
  /-- Start a device. -/
  | start (hm : Method.ofName req.method=.deviceStart) :
      Route answers req state (deviceStart answers req state)
  /-- Stop the emulator and let go of the stop flag. -/
  | stop (response : IpcResponse) (hid : response.requestId=req.requestId)
      (hm : Method.ofName req.method=.deviceStop) :
      Route answers req state
        ⟨response,{(stopEmulator state).1 with stopHandle := none},
          killEffects state++flagEffects state⟩
  /-- Restart or wipe a device. -/
  | relaunch (wipe : Bool)
      (hm : Method.ofName req.method=if wipe then .deviceWipe else .deviceRestart) :
      Route answers req state (deviceRelaunch answers req state wipe)
  /-- Poll the child. -/
  | poll (response : IpcResponse) (hid : response.requestId=req.requestId)
      (hm : Method.ofName req.method=.deviceStatus) :
      Route answers req state
        ⟨response,(emulatorState answers state).state,(emulatorState answers state).effects⟩
  /-- Run a command of the debug bridge. -/
  | bridge (args : List String) (response : IpcResponse)
      (hid : response.requestId=req.requestId)
      (hm : stopping (Method.ofName req.method)=false)
      (hs : Method.ofName req.method≠.deviceStart) :
      Route answers req state
        ⟨response,(adbBytes answers state args).state,(adbBytes answers state args).effects⟩

/-- The response to a command of the debug bridge runs that command. -/
theorem bridged_route {answers : Answers} {req : IpcRequest} {state : DaemonState}
    (args : List String) (result : String → Json)
    (hm : stopping (Method.ofName req.method)=false)
    (hs : Method.ofName req.method≠.deviceStart) :
    Route answers req state (bridged req (adbBytes answers state args) result) := by
  unfold bridged
  split
  · exact .bridge args _ rfl hm hs
  · exact .bridge args _ rfl hm hs

/-- A screenshot runs a command of the debug bridge, if it gets that far. -/
theorem deviceScreenshot_route {answers : Answers} {req : IpcRequest} {state : DaemonState}
    (hm : stopping (Method.ofName req.method)=false)
    (hs : Method.ofName req.method≠.deviceStart) :
    Route answers req state (deviceScreenshot answers req state) := by
  unfold deviceScreenshot
  split
  · exact .answer _ rfl hm
  · dsimp only
    split
    · exact .bridge _ _ rfl hm hs
    · split
      · exact .bridge _ _ rfl hm hs
      · exact .bridge _ _ rfl hm hs

/-- Every request is handled in one of these ways. -/
theorem dispatch_route (answers : Answers) (req : IpcRequest) (state : DaemonState) :
    Route answers req state (dispatch answers req state) := by
  unfold dispatch
  dsimp only
  cases hm : Method.ofName req.method with
  | daemonPing => exact .answer _ rfl (congrArg stopping hm)
  | daemonStatus => exact .answer _ rfl (congrArg stopping hm)
  | daemonShutdown => exact .shutDown _ rfl hm
  | deviceStart => exact .start hm
  | deviceStop => exact .stop _ rfl hm
  | deviceRestart => exact .relaunch false hm
  | deviceWipe => exact .relaunch true hm
  | devicePause => exact .answer _ rfl (congrArg stopping hm)
  | deviceResume => exact .answer _ rfl (congrArg stopping hm)
  | deviceStatus => exact .poll _ rfl hm
  | deviceLaunch =>
    dsimp only
    split
    · exact .answer _ rfl (congrArg stopping hm)
    · exact bridged_route _ _ (congrArg stopping hm) (fun h => by cases hm.symm.trans h)
  | deviceScreenshot =>
    exact deviceScreenshot_route (congrArg stopping hm) (fun h => by cases hm.symm.trans h)
  | vmStats => exact .answer _ rfl (congrArg stopping hm)
  | apkInstall =>
    dsimp only
    split
    · exact .answer _ rfl (congrArg stopping hm)
    · split
      · exact bridged_route _ _ (congrArg stopping hm) (fun h => by cases hm.symm.trans h)
      · exact .answer _ rfl (congrArg stopping hm)
  | apkUninstall =>
    dsimp only
    split
    · exact .answer _ rfl (congrArg stopping hm)
    · exact bridged_route _ _ (congrArg stopping hm) (fun h => by cases hm.symm.trans h)
  | apkList => exact bridged_route _ _ (congrArg stopping hm) (fun h => by cases hm.symm.trans h)
  | adbShell => exact bridged_route _ _ (congrArg stopping hm) (fun h => by cases hm.symm.trans h)
  | adbLogcat => exact bridged_route _ _ (congrArg stopping hm) (fun h => by cases hm.symm.trans h)
  | snapshot => exact .answer _ rfl (congrArg stopping hm)
  | unknown name => exact .answer _ rfl (congrArg stopping hm)

/-- Every response carries the identifier of its request. -/
theorem dispatch_requestId (answers : Answers) (req : IpcRequest) (state : DaemonState) :
    (dispatch answers req state).response.requestId=req.requestId := by
  have hroute := dispatch_route answers req state
  generalize dispatch answers req state=report at hroute ⊢
  cases hroute with
  | answer response hid hm => exact hid
  | shutDown response hid hm => exact hid
  | start hm => exact deviceStart_requestId answers req state
  | stop response hid hm => exact hid
  | relaunch wipe hm => exact launched_requestId req _ _
  | poll response hid hm => exact hid
  | bridge args response hid hm hs => exact hid

end LiteDroid.DaemonDispatch
