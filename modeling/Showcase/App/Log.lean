import Mathlib.Logic.Embedding.Basic
import Showcase.Lib.Text
import Showcase.OpenSSL
import Showcase.App.Machine

/-!
# `App.Log` — what the app writes with `ip_log`

`Showcase.m` logs what it does, and what the system calls return. A step of `App.Machine` leaves open what it gets from
the system beside success or failure; here that is an input (`BgCall`, `IpcDetail`), and each step has its lines.

Two helpers start processes and write the command line: `run_blocking`, for `launchctl` and `tar`, and `spawn_daemon`,
for `carplay_bt` and `carplay_services`. Only the first one hides the argument behind `--pass`.

## Contents
- `Device.runBlocking`, `Device.spawnDaemon` — the lines of the two helpers; `runBlocking_password`.
- `prepareResult`, `stopResult` — what a call means to `App.Machine`.
- `prepareLines`, `stopLines`, `mainLines`, `uiLines`, `ipcLines`, `Note.lines` — all other calls of `ip_log`.
-/

namespace Showcase.App

open Lib

/-! ## The device -/

/-- What stays the same while the app runs. `systemEncoding` is the encoding in which `%s` in a format of `NSString`
    takes the bytes of its argument: each byte is a character, and no two are the same one. -/
structure Device where
  rootless : Bool
  bundlePath : Bytes
  uid : Nat
  euid : Nat
  systemEncoding : UInt8 ↪ Char

namespace Device

variable (d : Device)

/-- `BT_HELPER_NAME`. -/
def btHelperName : Bytes := if d.rootless then ascii "CarDisplaySim" else ascii "carplay_bt"

/-- `SVC_HELPER_NAME`. -/
def svcHelperName : Bytes := if d.rootless then ascii "CarPlay Simulator" else ascii "carplay_services"

def btPath : Bytes := d.bundlePath ++ ascii "/" ++ d.btHelperName

def svcPath : Bytes := d.bundlePath ++ ascii "/" ++ d.svcHelperName

/-- `BLUETOOTHD_PLIST`, `BLUETOOL_PLIST` and `BTSTACK_PLIST`. -/
def plist : Service → Bytes
  | .bluetoothd => ascii "/System/Library/LaunchDaemons/com.apple.bluetoothd.plist"
  | .blueTool => ascii "/System/Library/LaunchDaemons/com.apple.BlueTool.plist"
  | .btstack =>
      (if d.rootless then ascii "/var/jb" else []) ++ ascii "/Library/LaunchDaemons/ch.ringwald.BTstack.plist"

/-! ## Command lines -/

/-- A C string as `%s` shows it in a format of `NSString`, in UTF-8. -/
def shown (s : Bytes) : Bytes := s.flatMap fun b => String.utf8EncodeChar (d.systemEncoding b)

/-- `cmdline`: the path, and the arguments behind the name of the program. -/
def cmdline (path : Bytes) (args : List Bytes) : Bytes := path ++ args.flatMap fun a => utf8 " " ++ d.shown a

end Device

/-- The arguments behind `prev`: one behind `--pass` or `-p` is hidden. -/
def redactedBehind (prev : Bytes) : List Bytes → List Bytes
  | [] => []
  | a :: args =>
      (if prev = ascii "--pass" ∨ prev = ascii "-p" then ascii "******" else a) :: redactedBehind a args

/-- The arguments as `run_blocking` shows them; the first one is always shown. -/
def redacted : List Bytes → List Bytes
  | [] => []
  | a :: args => a :: redactedBehind a args

/-- What is shown is the same for every password. -/
theorem redacted_password (args : List Bytes) (key p q : Bytes) (hkey : key = ascii "--pass" ∨ key = ascii "-p") :
    redacted (args ++ [key, p]) = redacted (args ++ [key, q]) := by
  have hbehind : ∀ prev, redactedBehind prev (args ++ [key, p]) = redactedBehind prev (args ++ [key, q]) := by
    induction args with
    | nil =>
        intro prev
        simp only [List.nil_append, redactedBehind, if_pos hkey]
    | cons a args ih =>
        intro prev
        simp only [List.cons_append, redactedBehind, ih]
  cases args with
  | nil => simp only [List.nil_append, redacted, redactedBehind, if_pos hkey]
  | cons a args =>
      have htail : redactedBehind a (args ++ [key, p]) = redactedBehind a (args ++ [key, q]) := by
        have h := hbehind a
        simp only [List.cons_append, redactedBehind] at h
        exact (List.cons.inj h).2
      simp only [List.cons_append, redacted, htail]

/-! ## The helpers that start processes -/

/-- How `run_blocking` ends. -/
inductive RunResult where
  | spawnFailed (error : Bytes)
  | waitFailed (error : Bytes)
  | exited (rc : Int)

/-- What it returns. -/
def RunResult.rc : RunResult → Int
  | .exited rc => rc
  | _ => -1

/-- The lines of `run_blocking`. -/
def Device.runBlocking (d : Device) (path : Bytes) (args : List Bytes) (r : RunResult) : List Bytes :=
  [utf8 "run_blocking: " ++ d.cmdline path (redacted args) ++ utf8 s!" (uid={d.uid} euid={d.euid})",
    match r with
    | .spawnFailed error => utf8 "  posix_spawn FAIL: " ++ error
    | .waitFailed error => utf8 "  waitpid FAIL: " ++ error
    | .exited rc => utf8 s!"  exit={rc}"]

/-- **`run_blocking` hides a password**: its lines are the same for every other one. -/
theorem runBlocking_password (d : Device) (path : Bytes) (args : List Bytes) {key : Bytes} (p q : Bytes)
    (hkey : key = ascii "--pass" ∨ key = ascii "-p") (r : RunResult) :
    d.runBlocking path (args ++ [key, p]) r = d.runBlocking path (args ++ [key, q]) r := by
  simp only [Device.runBlocking, redacted_password args key p q hkey]

/-- `run_blocking` of `launchctl`. -/
def Device.launchctl (d : Device) (path : Bytes) (verb : Verb) (service : Service) (r : RunResult) : List Bytes :=
  let name := match verb with
    | .load => ascii "load"
    | .unload => ascii "unload"
  d.runBlocking path [name, d.plist service] r

/-- How `spawn_daemon` ends. -/
inductive SpawnResult where
  /-- `access` fails. -/
  | notExecutable (error : Bytes)
  | spawnFailed (error : Bytes)
  | started (pid : Int) (alive : Bool)

/-- What it returns. -/
def SpawnResult.pid : SpawnResult → Int
  | .started pid _ => pid
  | _ => 0

/-- `access` has succeeded. -/
def SpawnResult.executable : SpawnResult → Bool
  | .notExecutable _ => false
  | _ => true

/-- The lines behind the command line. -/
def SpawnResult.lines (logfile : Bytes) : SpawnResult → List Bytes
  | .notExecutable _ => []
  | .spawnFailed error => [utf8 "  posix_spawn FAIL: " ++ error]
  | .started pid alive =>
      [utf8 s!"  pid={pid} log=" ++ logfile,
        if alive then utf8 "  child still alive ✓" else utf8 "  CHILD ALREADY DEAD — check " ++ logfile]

/-- The lines of `spawn_daemon`. All arguments are shown. -/
def Device.spawnDaemon (d : Device) (path : Bytes) (args : List Bytes) (logfile : Bytes) (r : SpawnResult) :
    List Bytes :=
  match r with
  | .notExecutable error => [utf8 "spawn_daemon: " ++ path ++ utf8 " NOT EXECUTABLE (" ++ error ++ utf8 ")"]
  | _ => (utf8 "spawn_daemon: " ++ d.cmdline path args) :: r.lines logfile

/-! ## Calls of `ip_log` that are not about the settings -/

/-- `ip_log` in the parts of the app beside the state machine. -/
inductive Note where
  | main (argc : Nat)
  | bundle
  | build
  | migrated
  | hciLoggingFailed (error : Bytes)
  | hciLogging (complete : Bool)
  | hciLoggingDisabled
  | reaped (sig : Nat) (name : Bytes) (pid : Int)
  | backgroundTaskExpired
  | shareMissing (path : Bytes)
  | shareNoPresenter (path : Bytes)
  | shareDelayed
  | shareNoSource (path : Bytes)
  | sharePresenting (path : Bytes)
  | diagnostics (enabled : Bool)
  | tcpdumpSpawn (tool iface : Bytes) (useSelfTimeout : Bool) (path : Bytes)
  | tcpdumpSpawnFailed (error : Bytes)
  | tcpdumpExited (status : Int)
  | tcpdumpRunning (pid : Int) (path : Bytes)
  | tcpdumpDisabled
  | tcpdumpMissing
  | tcpdumpNoInterface
  | tcpdumpRetry
  | tcpdumpStopping (pid : Int) (reason : Bytes)
  | tcpdumpStopped (status : Int)
  | copyFailed (src dst error : Bytes)
  | tarMissing
  /-- `run_blocking` of `tar`, and the line behind it. -/
  | tar (tool archive work : Bytes) (r : RunResult)

/-- The lines of such a call. -/
def Note.lines (d : Device) : Note → List Bytes
  | .main argc => [utf8 s!"main: ruid={d.uid} euid={d.euid} argc={argc}"]
  | .bundle => [utf8 "bundle: " ++ d.bundlePath]
  | .build => [if d.rootless then utf8 "build: 1.0 beta 2-19 rootless" else utf8 "build: 1.0 beta 2-19 rootful"]
  | .migrated => [utf8 "migrated legacy AP creds from car embedded fields"]
  | .hciLoggingFailed error => [utf8 "BTstack logging prefs write failed: " ++ error]
  | .hciLogging complete =>
      [utf8 (if complete then "BTstack HCI logging enabled" else "BTstack HCI logging partially written") ++
        utf8 " at /var/mobile/Library/Preferences/ch.ringwald.btstack.plist"]
  | .hciLoggingDisabled => [utf8 "BTstack HCI logging disabled"]
  | .reaped sig name pid => [utf8 s!"reap stale helper: kill -{sig} " ++ name ++ utf8 s!" pid={pid}"]
  | .backgroundTaskExpired => [utf8 "background task expired"]
  | .shareMissing path => [utf8 "[SHARE] file missing/unreadable path=" ++ path]
  | .shareNoPresenter path => [utf8 "[SHARE] share failed: no presenter path=" ++ path]
  | .shareDelayed => [utf8 "[SHARE] share delayed: top presenter is alert"]
  | .shareNoSource path => [utf8 "[SHARE] share failed: no stable source view path=" ++ path]
  | .sharePresenting path => [utf8 "[SHARE] presenting share sheet path=" ++ path ++ utf8 " airdrop=excluded"]
  | .diagnostics enabled => [utf8 (if enabled then "diagnostics enabled" else "diagnostics disabled")]
  | .tcpdumpSpawn tool iface useSelfTimeout path =>
      [utf8 "tcpdump spawn: " ++ tool ++ utf8 " -i " ++ iface ++ utf8 " -s 0 -U " ++
        utf8 (if useSelfTimeout then "" else "-G 300 -W 1 ") ++ utf8 "-w " ++ path]
  | .tcpdumpSpawnFailed error => [utf8 "tcpdump posix_spawn FAIL: " ++ error]
  | .tcpdumpExited status => [utf8 s!"tcpdump exited immediately status={status}"]
  | .tcpdumpRunning pid path => [utf8 s!"tcpdump running pid={pid} path=" ++ path]
  | .tcpdumpDisabled => [utf8 "tcpdump not started; diagnostics disabled"]
  | .tcpdumpMissing => [utf8 "tcpdump missing; cannot capture bridge100"]
  | .tcpdumpNoInterface => [utf8 "tcpdump warning: none of bridge100/en3/en0 is up yet; capture may exit"]
  | .tcpdumpRetry => [utf8 "tcpdump timed mode failed; retrying plain mode with app timer"]
  | .tcpdumpStopping pid reason => [utf8 s!"stopping tcpdump pid={pid} reason=" ++ reason]
  | .tcpdumpStopped status => [utf8 s!"tcpdump stopped status={status}"]
  | .copyFailed src dst error =>
      [utf8 "diagnostics copy failed: " ++ src ++ utf8 " -> " ++ dst ++ utf8 " (" ++ error ++ utf8 ")"]
  | .tarMissing => [utf8 "diagnostics export failed: tar not found"]
  | .tar tool archive work r =>
      d.runBlocking tool [ascii "-cf", archive, ascii "-C", work, ascii "."] r ++
        [utf8 s!"diagnostics tar rc={r.rc} path=" ++ archive]

/-! ## Starting and stopping -/

/-- How `wait_for_bt_ready_or_exit` ends. -/
inductive ReadyResult where
  | ready
  | exited (code : Int)
  | signaled (sig : Nat)
  | otherStatus (status : Nat)
  | vanished
  | timeout

/-- The last line of `wait_for_bt_ready_or_exit`. -/
def ReadyResult.line : ReadyResult → Bytes
  | .ready => utf8 "[BT] ready sentinel observed at /tmp/showcase_bt_ready"
  | .exited code =>
      if code = 62 then utf8 "[BT] helper exited with BTSTACK_EVENT_POWERON_FAILED (62)"
      else utf8 s!"[BT] helper exited before ready sentinel exit={code}"
  | .signaled sig => utf8 s!"[BT] helper exited before ready sentinel signal={sig}"
  | .otherStatus status => utf8 s!"[BT] helper exited before ready sentinel status=0x{hexLower 0 status}"
  | .vanished => utf8 "[BT] helper vanished before ready sentinel"
  | .timeout => utf8 "[BT] ready sentinel timeout after 12 seconds path=/tmp/showcase_bt_ready"

/-- How `startIPCListener` ends. -/
inductive ListenerResult where
  | socketFailed
  | bindFailed (error : Bytes)
  | listening (fd : Int)

/-- What a block of `bgQueue` gets from the system in a step. -/
inductive BgCall where
  /-- The beginning of `bgPrepareBT`: the name of the car, what becomes of the preferences of BTstack, and the helpers
      `reap_stale_helpers` has killed. -/
  | begins (car : Bytes) (notes : List Note)
  /-- `launchctl_path`. -/
  | launchctl (path : Option Bytes)
  | run (r : RunResult)
  /-- `wait_for_path`. -/
  | socket (ready : Bool)
  /-- `spawn_daemon`; the name of the car and the switch for diagnostics may have changed meanwhile. -/
  | spawn (car : Bytes) (diagnosticsEnabled : Bool) (r : SpawnResult)
  /-- `wait_for_pid_alive`: the second at which the process is gone. -/
  | alive (exitedAt : Option Nat)
  /-- `wait_for_bt_ready_or_exit`, with the errors of `waitpid` on the way. -/
  | ready (errors : List Bytes) (r : ReadyResult)
  | listener (r : ListenerResult)
  /-- Nothing. -/
  | go
  | diagnostics (notes : List Note)

/-- What the call means to `bgPrepareBT` and `bgPrepareNet` at `pc`: whether it succeeds, and the process or descriptor
    it returns. Nothing when it is not the call that is made there. -/
def prepareResult (d : Device) : PreparePc → BgCall → Option (Bool × Int)
  | .checkRoot, .begins _ _ => some (d.euid = 0, 0)
  | .findLaunchctl, .launchctl path => some (path.isSome, 0)
  | .unloadBluetoothd, .run _ => some (true, 0)
  | .unloadBlueTool, .run _ => some (true, 0)
  | .unloadBTstack, .run _ => some (true, 0)
  | .loadBTstack, .run r => some (r.rc = 0, 0)
  | .waitSocket, .socket ready => some (ready, 0)
  | .spawnBt, .spawn _ _ r => some (0 < r.pid, r.pid)
  | .waitBtAlive, .alive exitedAt => some (exitedAt.isNone, 0)
  | .waitBtReady, .ready _ r => some (match r with | .ready => true | _ => false, 0)
  | .toPreparingNet, .go => some (true, 0)
  | .startIPCListener, .listener r => some (match r with | .listening fd => (true, fd) | _ => (false, 0))
  | .spawnServices, .spawn _ _ r => some (0 < r.pid, r.pid)
  | .waitServicesAlive, .alive exitedAt => some (exitedAt.isNone, 0)
  | .toAwaitingPhone, .go => some (true, 0)
  | .fail, .go => some (true, 0)
  | .failDispatch, .go => some (true, 0)
  | _, _ => none

/-- What a step of `stopFlow` returns. -/
def stopResult : StopPc → BgCall → Option Bool
  | .findLaunchctl, .launchctl path => some path.isSome
  | .unloadBTstack, .run _ => some true
  | .loadBluetoothd, .run _ => some true
  | .loadBlueTool, .run _ => some true
  | .closeClient, .go => some true
  | .closeListener, .go => some true
  | .killServices, .go => some true
  | .killBt, .go => some true
  | .toIdle, .go => some true
  | _, _ => none

/-- The line of `failWith`. -/
def failWith (reason : String) : Bytes := utf8 s!"FAIL: {reason}"

/-- The lines of a step that fails when `ok` is not set. -/
def orFail (ok : Bool) (reason : String) : List Bytes := if ok then [] else [failWith reason]

/-- The line of `wait_for_pid_alive`. -/
def aliveLines (name : String) (seconds : Nat) : Option Nat → List Bytes
  | some i => [utf8 s!"{name} exited during startup wait at {i}/{seconds} sec"]
  | none => []

/-- The argument vector of `carplay_bt` behind its name: `nameBuf`, `ssidBuf` and `passBuf`. -/
def btArgs (car ssid password : Bytes) : List Bytes :=
  [ascii "--name", car.take 63, ascii "--ssid", ssid.take 127, ascii "--pass", password.take 127]

/-- `LOG_DIR "/carplay_bt.log"`. -/
def btLog : Bytes := ascii "/var/mobile/Library/Showcase/logs/carplay_bt.log"

/-- The log of `carplay_services`. -/
def svcLog (diagnosticsEnabled : Bool) : Bytes :=
  if diagnosticsEnabled then ascii "/var/mobile/Library/Showcase/logs/carplay_services.log" else ascii "/dev/null"

/-- The lines of `bgPrepareBT` and `bgPrepareNet`; `path` is the `launchctl` that was found. -/
def prepareLines (d : Device) (state : ShowcaseState) (ssid password path : Bytes) : PreparePc → BgCall → List Bytes
  | .checkRoot, .begins car notes =>
      (utf8 s!"bgPrepareBT: euid={d.euid}, name='" ++ car ++ utf8 "' ssid='" ++ ssid ++ utf8 "'") ::
        if d.euid = 0 then notes.flatMap (Note.lines d)
        else [failWith "App is not running as root (must be chmod 4755)"]
  | .findLaunchctl, .launchctl (some found) => [utf8 "launchctl path: " ++ found]
  | .findLaunchctl, .launchctl none => [failWith "launchctl not found"]
  | .unloadBluetoothd, .run r =>
      d.launchctl path .unload .bluetoothd r ++
        if r.rc ≠ 0 then [utf8 s!"  WARNING: launchctl unload returned {r.rc}"] else []
  | .unloadBlueTool, .run r =>
      d.launchctl path .unload .blueTool r ++
        if r.rc ≠ 0 then [utf8 s!"  WARNING: BlueTool unload returned {r.rc}"] else []
  | .unloadBTstack, .run r => d.launchctl path .unload .btstack r
  | .loadBTstack, .run r =>
      d.launchctl path .load .btstack r ++ orFail (r.rc = 0) "BTstack launch daemon failed to load"
  | .waitSocket, .socket ready =>
      [utf8 (if ready then "BTstack socket ready at /tmp/BTstack"
        else "BTstack socket not ready at /tmp/BTstack after 8 sec")] ++ orFail ready "BTstack socket not available"
  | .spawnBt, .spawn car _ r =>
      d.spawnDaemon d.btPath (btArgs car ssid password) btLog r ++ orFail (0 < r.pid) "carplay_bt failed to start"
  | .waitBtAlive, .alive exitedAt =>
      aliveLines "carplay_bt" 8 exitedAt ++ orFail exitedAt.isNone "carplay_bt exited during setup"
  | .waitBtReady, .ready errors r =>
      (errors.map fun e => utf8 "[BT] waitpid while waiting for ready sentinel failed: " ++ e) ++ [r.line] ++
        orFail (match r with | .ready => true | _ => false)
          "Bluetooth takeover failed. BTStack could not power on the controller."
  | .startIPCListener, .listener r =>
      utf8 "bgPrepareNet" ::
        match r with
        | .socketFailed => [failWith "IPC listener failed"]
        | .bindFailed error => [utf8 "bind: " ++ error, failWith "IPC listener failed"]
        | .listening _ => [utf8 "IPC listening on /tmp/ipadplay.sock"]
  | .spawnServices, .spawn car diagnosticsEnabled r =>
      d.spawnDaemon d.svcPath [ascii "--name", car.take 63] (svcLog diagnosticsEnabled) r ++
        orFail (0 < r.pid) "carplay_services failed to start"
  | .waitServicesAlive, .alive exitedAt =>
      aliveLines "carplay_services" 4 exitedAt ++ orFail exitedAt.isNone "carplay_services exited during setup"
  | .toAwaitingPhone, .go =>
      if state = .awaitingPhone then []
      else [utf8 "[HANDOFF] Awaiting sender; CarPlay should perform Wi-Fi association through iAP2 handoff"]
  | _, _ => []

/-- The line at the end of the block of `stopFlow`. -/
def reloadIssued : Bytes :=
  utf8 "stopFlow: bluetoothd/BlueTool reload commands issued — watch Console for BlueTool init behavior now"

/-- The lines of the block of `stopFlow`. -/
def stopLines (d : Device) (carplayBtPid : Int) (path : Bytes) : StopPc → BgCall → List Bytes
  | .killBt, .go =>
      [utf8 s!"stopFlow: sending SIGTERM to carplay_bt pid={carplayBtPid}, " ++
          utf8 "see carplay_bt.log [BT-SHUTDOWN] for detail",
        utf8 "stopFlow: carplay_bt exited, waiting extra 500ms settle before touching BTstack/bluetoothd",
        utf8 "stopFlow: unloading BTstack, reloading stock bluetoothd"]
  | .findLaunchctl, .launchctl none => [utf8 "WARNING: launchctl not found while restoring bluetoothd"]
  | .unloadBTstack, .run r => d.launchctl path .unload .btstack r
  | .loadBluetoothd, .run r =>
      d.launchctl path .load .bluetoothd r ++ if d.rootless then [] else [reloadIssued]
  | .loadBlueTool, .run r => d.launchctl path .load .blueTool r ++ [reloadIssued]
  | _, _ => []

/-! ## The other threads -/

/-- The value of the enumeration. -/
def ShowcaseState.number : ShowcaseState → Nat
  | .idle => 0
  | .awaitingAP => 1
  | .preparingBT => 2
  | .preparingNet => 3
  | .awaitingPhone => 4
  | .active => 5
  | .stopping => 6

/-- The lines of the main thread when it takes an event. -/
def uiLines (state : ShowcaseState) : UiEvent → List Bytes
  | .handleBackground =>
      if state ≠ .idle ∧ state ≠ .stopping then [utf8 "backgrounded — deferring stop"] else []
  | .handleForeground => [utf8 s!"foregrounded — continuing state={state.number}"]
  | .backgroundStopExpired =>
      if state ≠ .idle ∧ state ≠ .stopping then [utf8 "background grace expired — stopping"] else []
  | _ => []

/-- The lines of the main thread inside its methods. -/
def mainLines (state : ShowcaseState) (ssid car : Bytes) (apUp : Bool) : MainPc → List Bytes
  | .startFlow => [utf8 "startFlow: car='" ++ car ++ utf8 "' ssid='" ++ ssid ++ utf8 "'"]
  | .pollAP => if state = .awaitingAP ∧ apUp then [utf8 "AP detected — advancing"] else []
  | _ => []

/-- What a message of the IPC socket says beside its kind. -/
inductive IpcDetail where
  | none
  /-- Width and height, as `%.0f` prints them. -/
  | size (w h : Bytes)
  /-- The code of `MSG_STATUS`. -/
  | status (code : UInt8)

/-- The lines of a thread of the IPC socket. -/
def ipcLines : IpcPc → IpcEvent → IpcDetail → List Bytes
  | .accept, .accepted _, _ => [utf8 "services connected"]
  | .handle _ _, .videoConfig _ _, .size w h => [utf8 "VideoConfig: " ++ w ++ utf8 "x" ++ h]
  | .handle true false, .videoFrame, _ => [utf8 "first video frame"]
  | .handle _ _, .otherMessage, .status code => [utf8 s!"MSG_STATUS code=0x{hex 2 code.toNat}"]
  | .handle _ _, .hangUp, _ => [utf8 "services disconnected"]
  | _, _, _ => []

/-! ## The log file -/

/-- `ip_log` with an open file; `ts` is the time. -/
def ipLog (ts line : Bytes) : Bytes := utf8 "[" ++ ts ++ utf8 "] " ++ line ++ utf8 "\n"

/-- Lines one behind the other; `clock k` is the time of the `k`-th one. -/
def ipLogs (clock : Nat → Bytes) : Nat → List Bytes → Bytes
  | _, [] => []
  | k, line :: lines => ipLog (clock k) line ++ ipLogs clock (k + 1) lines

end Showcase.App
