import Showcase.App.Log
import Showcase.Bt.Process

/-!
# `App.World` — the app, its settings, its log file and its helpers

The app of `App.Machine` together with the access point in its settings, the file `ip_log` writes to, and the processes
of `carplay_bt` it has started, each with what it writes to standard output.

## Contents
- `World`, `World.step` — the whole, and one step of it; nothing when it is not possible.
- `World.logText`, `World.helperText` — what the step writes.
- `WorldRun`, `appLog`, `helperOutput` — runs, and their texts.
- `WorldRun.app` — the app in it runs as `App.Machine` has it.
-/

namespace Showcase.App

open Lib

/-! ## The app and its helpers -/

/-- The app, the access point as `CarStore` has it, whether `g_logfile` is open, the `launchctl` that the running block
    has found, and the processes of `carplay_bt`. -/
structure World where
  app : State
  apSSID : Bytes
  apPassword : Bytes
  logfile : Bool
  launchctl : Bytes
  helpers : List Bt.Process

/-- The app behind its launch. -/
def World.launched (logfile : Bool) (ssid password : Bytes) : World where
  app := .launched
  apSSID := ssid
  apPassword := password
  logfile := logfile
  launchctl := []
  helpers := []

/-- What happens. -/
inductive Call where
  | ui (e : UiEvent)
  /-- A step of the main thread; `car` is the name of the selected car. -/
  | main (apUp : Bool) (car : Bytes)
  | takeJob
  | bg (c : BgCall)
  | ipc (i : Nat) (e : IpcEvent) (detail : IpcDetail)
  | note (n : Note)
  | setAPSSID (ssid password : Bytes)
  /-- The file is opened again, or cannot be. -/
  | clearLogsAndDumps (opened : Bool)
  /-- A step of the `k`-th process of `carplay_bt`. -/
  | helper (k : Nat) (e : Bt.ProcessEvent)

/-- A call, and the times its lines get. -/
structure Input where
  clock : Nat → Bytes
  call : Call

namespace World

variable (d : Device) (w : World)

/-- `apReady` needs both; what `validateSSID` says of the name comes with the event. -/
def canTap : UiEvent → Prop
  | .primaryTapped apReady _ => apReady = true → w.apSSID ≠ [] ∧ w.apPassword ≠ []
  | _ => True

instance (e : UiEvent) : Decidable (w.canTap e) := by
  cases e <;> unfold canTap <;> infer_instance

/-- The app behind one of its steps. -/
def appStep (e : Event) : Option World := (App.step d.rootless w.app e).map fun s => { w with app := s }

/-- What a call in a block changes beside the app: the `launchctl` is remembered, and a process of `carplay_bt` runs. -/
def answered (block : Running) (c : BgCall) : World :=
  match block, c with
  | _, .launchctl (some path) => { w with launchctl := path }
  | .prepare _ .spawnBt, .spawn car _ (.started _ _) =>
      { w with helpers := w.helpers ++ [Bt.Process.spawned d.rootless (btArgs car w.apSSID w.apPassword)] }
  | _, _ => w

/-- What the call means to the block. -/
def bgResult : Running → BgCall → Option (Bool × Int)
  | .prepare _ pc, c => prepareResult d pc c
  | .stop pc, c => (stopResult pc c).map fun ok => (ok, 0)
  | .exportDiagnostics, .diagnostics _ => some (true, 0)
  | .exportDiagnostics, _ => none

/-- A step of the block that runs. -/
def bgStep (c : BgCall) : Option World :=
  match w.app.running with
  | some block => (bgResult d block c).bind fun r => (w.answered d block c).appStep d (.bg r.1 r.2)
  | none => none

/-- A step of a process. -/
def helperStep (k : Nat) (e : Bt.ProcessEvent) : Option World :=
  (w.helpers[k]?).bind fun p => (p.step e).map fun p' => { w with helpers := w.helpers.set k p' }

/-- One step; nothing when it is not possible. -/
def step : Call → Option World
  | .ui e => if w.canTap e then w.appStep d (.ui e) else none
  | .main apUp _ => w.appStep d (.main apUp)
  | .takeJob => w.appStep d .takeJob
  | .bg c => w.bgStep d c
  | .ipc i e _ => w.appStep d (.ipc i e)
  | .note _ => some w
  | .setAPSSID ssid password => some { w with apSSID := ssid, apPassword := password }
  | .clearLogsAndDumps opened => some { w with logfile := opened }
  | .helper k e => w.helperStep k e

/-! ## The texts -/

/-- The lines of the block that runs. -/
def bgLines : Option Running → BgCall → List Bytes
  | some (.prepare _ pc), c => prepareLines d w.app.state w.apSSID w.apPassword w.launchctl pc c
  | some (.stop pc), c => stopLines d w.app.carplayBtPid w.launchctl pc c
  | some .exportDiagnostics, .diagnostics notes => notes.flatMap (Note.lines d)
  | _, _ => []

/-- The lines of a step. -/
def lines : Call → List Bytes
  | .ui e => uiLines w.app.state e
  | .main apUp car => mainLines w.app.state w.apSSID car apUp w.app.main
  | .takeJob => []
  | .bg c => w.bgLines d w.app.running c
  | .ipc i e detail =>
      match w.app.ipc[i]? with
      | some pc => ipcLines pc e detail
      | none => []
  | .note n => n.lines d
  | .setAPSSID _ _ => []
  | .clearLogsAndDumps _ => [utf8 "logs and dumps cleared"]
  | .helper _ _ => []

/-- The file is open when the lines of the step are written. -/
def logging : Call → Bool
  | .clearLogsAndDumps opened => opened
  | _ => w.logfile

/-- What the app writes with `ip_log` in a step. -/
def logText (i : Input) : Bytes := if w.logging i.call then ipLogs i.clock 0 (w.lines d i.call) else []

/-- What the `k`-th process of `carplay_bt` prints in a step. -/
def helperText (k : Nat) : Call → Bytes
  | .helper j e => if j = k then (w.helpers[k]?).elim [] fun p => p.stdout e else []
  | _ => []

end World

/-- Runs of the whole. -/
abbrev WorldRun (d : Device) (w₀ : World) : List (Step World Input) → World → Prop :=
  Lib.Run (fun w i w' => w.step d i.call = some w') w₀

/-- What the app writes with `ip_log` in a run. -/
def appLog (d : Device) (h : List (Step World Input)) : Bytes := h.flatMap fun x => x.pre.logText d x.input

/-- What the `k`-th process of `carplay_bt` writes to its standard output. -/
def helperOutput (k : Nat) (h : List (Step World Input)) : Bytes := h.flatMap fun x => x.pre.helperText k x.input.call

/-! ## The app in the whole

A step of the whole gives `App.Machine` either one event or none, so its runs are projected step by step
(`Run.project`), and what is proved about the app holds of them. -/

theorem World.appStep_app {d : Device} {w w' : World} {e : Event} (h : w.appStep d e = some w') :
    App.step d.rootless w.app e = some w'.app := by
  obtain ⟨s, hs, rfl⟩ := Option.map_eq_some_iff.mp h
  exact hs

theorem World.answered_app (d : Device) (w : World) (block : Running) (c : BgCall) :
    (w.answered d block c).app = w.app := by
  unfold answered
  split
  · rfl
  · rfl
  · rfl

/-- A step of the whole is one of the app, or leaves the app alone. -/
theorem World.step_app {d : Device} {w w' : World} {c : Call} (h : w.step d c = some w') :
    (∃ e, App.step d.rootless w.app e = some w'.app) ∨ w'.app = w.app := by
  cases c with
  | ui e =>
      simp only [step] at h
      split at h
      · exact .inl ⟨_, appStep_app h⟩
      · cases h
  | main apUp car => exact .inl ⟨_, appStep_app h⟩
  | takeJob => exact .inl ⟨_, appStep_app h⟩
  | bg c =>
      simp only [step, bgStep] at h
      split at h
      · obtain ⟨r, -, h⟩ := Option.bind_eq_some_iff.mp h
        have hstep := appStep_app h
        rw [answered_app] at hstep
        exact .inl ⟨_, hstep⟩
      · cases h
  | ipc i e detail => exact .inl ⟨_, appStep_app h⟩
  | note n =>
      obtain rfl := Option.some.inj h
      exact .inr rfl
  | setAPSSID ssid password =>
      obtain rfl := Option.some.inj h
      exact .inr rfl
  | clearLogsAndDumps opened =>
      obtain rfl := Option.some.inj h
      exact .inr rfl
  | helper k e =>
      obtain ⟨p, -, h⟩ := Option.bind_eq_some_iff.mp h
      obtain ⟨p', -, rfl⟩ := Option.map_eq_some_iff.mp h
      exact .inr rfl

/-- **The app runs as `App.Machine` has it.** -/
theorem WorldRun.app {d : Device} {opened : Bool} {ssid password : Bytes} {h : List (Step World Input)} {w : World}
    (hr : WorldRun d (.launched opened ssid password) h w) : ∃ h', App.Run d.rootless h' w.app :=
  hr.project World.app fun _ _ _ => World.step_app

end Showcase.App
