import LiteDroid.CliProfiles
import LiteDroid.IpcClients

/-!
# Commands of the command line

A command that needs the daemon is one call; its exit status is made from the
answer. Whatever else goes on, a command that gets an answer was handled once,
and its status is zero exactly when the daemon and its host were then in a
state in which the command can be carried out. Pausing, resuming and snapshots
never are.
-/

namespace LiteDroid.CliCommands

open CoreText IpcMessages IpcFrames FrameStream DaemonDispatch IpcCalls ConfigProfiles CliProfiles
open IpcClients StepRun Linearization

/-- Commands about packages. -/
inductive ApkAction where
  /-- Install a package. -/
  | install (path : String)
  /-- Remove a package. -/
  | uninstall (package : String)
  /-- List packages. -/
  | list
  deriving DecidableEq, Repr

/-- Commands about snapshots. -/
inductive SnapshotAction where
  /-- Make a snapshot. -/
  | create (name : String)
  /-- Go back to a snapshot. -/
  | restore (name : String)
  /-- List snapshots. -/
  | list
  /-- Delete a snapshot. -/
  | delete (name : String)
  deriving DecidableEq, Repr

/-- Commands of the debug bridge. -/
inductive AdbAction where
  /-- Open a shell. -/
  | shell
  /-- Install a package. -/
  | install (path : String)
  deriving DecidableEq, Repr

/-- Commands about the daemon that need it. -/
inductive DaemonAction where
  /-- Stop the daemon. -/
  | stop
  /-- Liveness check. -/
  | status
  deriving DecidableEq, Repr

/-- The commands that call the daemon. -/
inductive Cli where
  /-- Start a device. -/
  | start (device : String) (cold fast : Bool)
  /-- Stop the device. -/
  | stop
  /-- Start the device with its data erased. -/
  | wipe
  /-- Start the device again. -/
  | restart
  /-- Pause the device. -/
  | pause
  /-- Resume the device. -/
  | resume
  /-- Status of the device. -/
  | status
  /-- Resource usage. -/
  | stats
  /-- Packages. -/
  | apk (action : ApkAction)
  /-- Start an application. -/
  | launch (package : String)
  /-- Open a shell. -/
  | shell
  /-- Read the log. -/
  | logcat
  /-- Save a screenshot. -/
  | screenshot (path : Option String)
  /-- Snapshots. -/
  | snapshot (action : SnapshotAction)
  /-- The debug bridge. -/
  | adb (action : AdbAction)
  /-- The daemon. -/
  | daemon (action : DaemonAction)
  deriving DecidableEq, Repr

/-- The boot mode that the flags of a start ask for; the later assignment wins. -/
def bootMode (cold fast : Bool) : List (String×Json) :=
  if fast then [("boot_mode",.str "fast")]
  else if cold then [("boot_mode",.str "cold")]
  else []

/-- Method and parameters of a command about snapshots. -/
def SnapshotAction.call : SnapshotAction → String×Json
  | .create name => ("snapshot.create",.obj [("name",.str name)])
  | .restore name => ("snapshot.restore",.obj [("name",.str name)])
  | .list => ("snapshot.list",.obj [])
  | .delete name => ("snapshot.delete",.obj [("name",.str name)])

/-- Method and parameters of a command. -/
def Cli.call : Cli → String×Json
  | .start device cold fast =>
    ("device.start",.obj (bootMode cold fast++[("device",.str device)]))
  | .stop => ("device.stop",.obj [])
  | .wipe => ("device.wipe",.obj [])
  | .restart => ("device.restart",.obj [])
  | .pause => ("device.pause",.obj [])
  | .resume => ("device.resume",.obj [])
  | .status => ("device.status",.obj [])
  | .stats => ("vm.stats",.obj [])
  | .apk (.install path) => ("apk.install",.obj [("path",.str path)])
  | .apk (.uninstall package) => ("apk.uninstall",.obj [("package",.str package)])
  | .apk .list => ("apk.list",.obj [])
  | .launch package => ("device.launch",.obj [("package",.str package)])
  | .shell => ("adb.shell",.obj [])
  | .logcat => ("adb.logcat",.obj [])
  | .screenshot none => ("device.screenshot",.obj [("path",.null)])
  | .screenshot (some path) => ("device.screenshot",.obj [("path",.str path)])
  | .snapshot action => action.call
  | .adb .shell => ("adb.shell",.obj [])
  | .adb (.install path) => ("adb.install",.obj [("path",.str path)])
  | .daemon .stop => ("daemon.shutdown",.obj [])
  | .daemon .status => ("daemon.ping",.obj [])

/-- The request of a command, with the identifier that is drawn for it. -/
def Cli.request (command : Cli) (id : String) : IpcRequest :=
  ⟨ipcProtocolVersion,id,command.call.1,command.call.2⟩

/-- What a command leaves behind. -/
structure Shown where
  /-- Its exit status. -/
  code : ℕ
  /-- Lines of its standard output. -/
  out : List String
  /-- Lines of its standard error. -/
  err : List String
  deriving DecidableEq, Repr

/-- What a response is shown as. -/
def printResp (json : JsonCodec) (resp : IpcResponse) : Shown :=
  if resp.success then
    match resp.result with
    | some result => ⟨0,[json.toStringPretty result],[]⟩
    | none => ⟨0,["OK"],[]⟩
  else ⟨1,[],["Error: "++resp.error.getD "unknown"]⟩

/-- What a call is shown as. -/
def shown (json : JsonCodec) : Option IpcResponse → Shown
  | some resp => printResp json resp
  | none => ⟨1,[],[]⟩

/-- The debug bridge carries out a command: Android is up, and the command
succeeds. -/
def Bridged (answers : Answers) (state : DaemonState) : Prop :=
  (emulatorState answers state).power=.running ∧
    (∃ adb, (emulatorState answers state).state.adb=some adb) ∧
    ∃ output, answers.adbRun=.ok output ∧ output.success=true

/-- A device can be launched. -/
def Launches (answers : Answers) (device : String) : Prop :=
  ∃ stages, launchStages answers.launch device=.ok stages

/-- No emulator runs. -/
def Free (answers : Answers) (state : DaemonState) : Prop :=
  state.emulator=none ∨ ∃ success, answers.poll=.exited success

/-- When the daemon and its host can carry out a command. -/
def Cli.Possible (answers : Answers) (state : DaemonState) : Cli → Prop
  | .start device _ _ => Free answers state ∧ Launches answers device
  | .wipe => Launches answers (state.activeDevice.getD "default")
  | .restart => Launches answers (state.activeDevice.getD "default")
  | .pause => False
  | .resume => False
  | .snapshot _ => False
  | .apk (.install _) => answers.apkIsFile=true ∧ Bridged answers state
  | .adb (.install _) => answers.apkIsFile=true ∧ Bridged answers state
  | .apk _ => Bridged answers state
  | .adb .shell => Bridged answers state
  | .launch _ => Bridged answers state
  | .shell => Bridged answers state
  | .logcat => Bridged answers state
  | .screenshot _ =>
    answers.createDir=.ok () ∧ Bridged answers state ∧ answers.saveFile=.ok ()
  | _ => True

/-- What a command's end says. -/
structure Settled (json : JsonCodec) (s : Net) (id : ℕ) (command : Cli) (uuid : String)
    (ret : Option IpcResponse) : Prop where
  /-- Without an answer it fails and says nothing. -/
  unanswered : ret=none → shown json ret=⟨1,[],[]⟩
  /-- An answered command was handled once, in a state that the requests before
  it led to, and its status is zero exactly when it was possible there. -/
  answered : ∀ resp, ret=some resp → ∃ first behind mid answers,
    order s.actions=first++⟨id,command.request uuid,resp⟩::behind ∧
    Serial Dispatched DaemonState.initial first mid ∧
    resp=(dispatch answers (command.request uuid) mid).response ∧
    ((shown json ret).code=0 ↔ command.Possible answers mid) ∧
    ∀ e∈first++behind, e.id≠id
  /-- Pausing, resuming and snapshots fail. -/
  impossible : command=.pause ∨ command=.resume ∨ (∃ action, command=.snapshot action) →
    (shown json ret).code=1

end LiteDroid.CliCommands


