import Showcase.Lib.History

/-!
# `App.Machine` — the state machine of the app

`Showcase.m` moves between seven states. They are written by three kinds of threads: the main thread (taps, timers,
`startFlow`, `pollAP`), the serial queue `bgQueue` with the jobs `bgPrepareBT` and `stopFlow`, and the threads that
serve the IPC socket (`ipcAcceptLoop`). `transitionTo` takes any target from any thread.

Each thread is a program with a counter that says what it does next; a step is one access to what the threads share,
one system call or one dispatch, and any other thread may run between two steps. What the system calls return is an
input of the step.

* `State`, `step` — the app, and one step of one of its threads.
* `prepareStep`, `stopStep`, `mainStep`, `ipcStep` — the programs.
* `App.Run` — runs from the launch of the app.
* `Transition`, `step_state` — the calls of `transitionTo`; no other step changes the state.
* `Beside` — what the threads outside `bgQueue` leave alone.
-/

namespace Showcase.App

open Lib

/-! ## States -/

/-- `ShowcaseState`. -/
inductive ShowcaseState where
  | idle
  | awaitingAP
  | preparingBT
  | preparingNet
  | awaitingPhone
  | active
  | stopping
deriving DecidableEq

/-- The launch daemons of Bluetooth. -/
inductive Service where
  | bluetoothd
  | blueTool
  | btstack
deriving DecidableEq

inductive Verb where
  | load
  | unload
deriving DecidableEq

/-- A command given to `launchctl`. -/
structure Launchctl where
  verb : Verb
  service : Service
deriving DecidableEq

/-- What `bgPrepareBT`, and behind it `bgPrepareNet`, does next. -/
inductive PreparePc where
  | checkRoot
  | findLaunchctl
  | unloadBluetoothd
  | unloadBlueTool
  | unloadBTstack
  | loadBTstack
  | waitSocket
  | spawnBt
  | waitBtAlive
  | waitBtReady
  | toPreparingNet
  | startIPCListener
  | spawnServices
  | waitServicesAlive
  | toAwaitingPhone
  /-- `failWith`: `stopFlow` up to its transition. -/
  | fail
  /-- The dispatch of the `stopFlow` of `failWith`. -/
  | failDispatch
deriving DecidableEq

/-- What the job of `stopFlow` does next. -/
inductive StopPc where
  | closeClient
  | closeListener
  | killServices
  | killBt
  | findLaunchctl
  | unloadBTstack
  | loadBluetoothd
  | loadBlueTool
  | toIdle
deriving DecidableEq

/-- A block in `bgQueue`. A preparation knows the `startFlow` it belongs to. -/
inductive Job where
  | prepare (attempt : Nat)
  | stop
  | exportDiagnostics
deriving DecidableEq

/-- The block that runs. -/
inductive Running where
  | prepare (attempt : Nat) (pc : PreparePc)
  | stop (pc : StopPc)
  | exportDiagnostics
deriving DecidableEq

/-- What the main thread does next. -/
inductive MainPc where
  | runLoop
  /-- `startFlow`; the state was seen to be idle. -/
  | startFlow
  | pollAP
  /-- `pollAP` has seen `StateAwaitingAP` and the access point. -/
  | pollAdvance
  | pollDispatch
  /-- `stopFlow` up to its transition. -/
  | stopFlow
  /-- The dispatch of `stopFlow`. -/
  | stopDispatch
deriving DecidableEq

/-- What a thread of `ipcAcceptLoop` does next. -/
inductive IpcPc where
  | loop
  | accept
  /-- `ipcHandleConnection`: whether there is a format description, and `gotFirstFrame`. -/
  | handle (fmtDesc gotFirstFrame : Bool)
  | disconnected
  | stopFlow
  | stopDispatch
  | done
deriving DecidableEq

/-- The app. The last three fields are not in the program: `starts` counts the calls of `startFlow`, `stopped` is the
    count at the last `stopFlow`, and `session` is the attempt that started `carplay_services`. -/
structure State where
  state : ShowcaseState
  apPollTimer : Bool
  backgroundStopTimer : Bool
  carplayBtPid : Int
  carplayServicesPid : Int
  listenFd : Int
  clientFd : Int
  touchFd : Int
  main : MainPc
  bgQueue : List Job
  running : Option Running
  ipc : List IpcPc
  /-- The commands given to `launchctl` so far. -/
  launchd : List Launchctl
  starts : Nat
  stopped : Nat
  session : Nat
deriving DecidableEq

/-- The app behind `didFinishLaunchingWithOptions`. -/
def State.launched : State where
  state := .idle
  apPollTimer := false
  backgroundStopTimer := false
  carplayBtPid := 0
  carplayServicesPid := 0
  listenFd := -1
  clientFd := -1
  touchFd := -1
  main := .runLoop
  bgQueue := []
  running := none
  ipc := []
  launchd := []
  starts := 0
  stopped := 0
  session := 0

/-- `transitionTo`. -/
def State.transitionTo (s : State) (st : ShowcaseState) : State := { s with state := st }

/-- `dispatch_async` to `bgQueue`. -/
def State.dispatch (s : State) (j : Job) : State := { s with bgQueue := s.bgQueue ++ [j] }

/-- `run_blocking` of `launchctl`. -/
def State.launchctl (s : State) (verb : Verb) (service : Service) : State :=
  { s with launchd := s.launchd ++ [⟨verb, service⟩] }

/-- `stopFlow` in front of its dispatch: the timers are stopped, and the state is `StateStopping`. -/
def State.beginStop (s : State) : State :=
  { s with backgroundStopTimer := false, apPollTimer := false, stopped := s.starts }.transitionTo .stopping

/-! ## The main thread -/

/-- What the run loop of the main thread calls. -/
inductive UiEvent where
  /-- `apReady` and a car are there, or not. -/
  | primaryTapped (apReady hasCars : Bool)
  | secondaryTapped
  | closeTapped
  /-- The timer of `startFlow`. -/
  | apPollTimer
  | handleBackground
  | handleForeground
  /-- The timer of `handleBackground`. -/
  | backgroundStopExpired
  | exportDiagnostics
deriving DecidableEq

/-- The run loop takes an event; what the state is tested for is read here. -/
def uiStep (s : State) : UiEvent → Option State
  | .primaryTapped apReady hasCars =>
      if s.state = .idle ∧ apReady ∧ hasCars then some { s with main := .startFlow } else some s
  | .secondaryTapped =>
      if s.state ≠ .idle ∧ s.state ≠ .stopping then some { s with main := .stopFlow } else some s
  | .closeTapped => some { s with main := .stopFlow }
  | .apPollTimer => if s.apPollTimer then some { s with main := .pollAP } else none
  | .handleBackground =>
      if s.state ≠ .idle ∧ s.state ≠ .stopping then some { s with backgroundStopTimer := true } else some s
  | .handleForeground =>
      some { s with backgroundStopTimer := false, main := if s.state = .awaitingAP then .pollAP else .runLoop }
  | .backgroundStopExpired =>
      if s.backgroundStopTimer = false then none
      else
        some { s with
          backgroundStopTimer := false
          main := if s.state ≠ .idle ∧ s.state ≠ .stopping then .stopFlow else .runLoop }
  | .exportDiagnostics => some (s.dispatch .exportDiagnostics)

/-- The main thread inside one of its methods; `apUp` is `is_ap_up()`. -/
def mainStep (s : State) (apUp : Bool) : Option State :=
  match s.main with
  | .runLoop => none
  | .startFlow =>
      some { s.transitionTo .awaitingAP with main := .pollAP, apPollTimer := true, starts := s.starts + 1 }
  -- the state is tested here, and written in a later step
  | .pollAP =>
      if s.state ≠ .awaitingAP then some { s with main := .runLoop, apPollTimer := false }
      else if apUp then some { s with main := .pollAdvance, apPollTimer := false }
      else some { s with main := .runLoop }
  | .pollAdvance => some { s.transitionTo .preparingBT with main := .pollDispatch }
  | .pollDispatch => some { s.dispatch (.prepare s.starts) with main := .runLoop }
  | .stopFlow => some { s.beginStop with main := .stopDispatch }
  | .stopDispatch => some { s.dispatch .stop with main := .runLoop }

/-! ## The queue -/

/-- The next block of `bgQueue` begins. -/
def takeJob (s : State) : Option State :=
  match s.running, s.bgQueue with
  | none, .prepare n :: js => some { s with running := some (.prepare n .checkRoot), bgQueue := js }
  | none, .stop :: js => some { s with running := some (.stop .closeClient), bgQueue := js }
  | none, .exportDiagnostics :: js => some { s with running := some .exportDiagnostics, bgQueue := js }
  | _, _ => none

/-- The block goes on at `pc`, or fails. -/
def State.goOn (s : State) (attempt : Nat) (ok : Bool) (pc : PreparePc) : State :=
  { s with running := some (.prepare attempt (if ok then pc else .fail)) }

/-- `bgPrepareBT` and `bgPrepareNet`. `ok` says whether the call of this step succeeds, and `v` is the process or the
    descriptor it returns. -/
def prepareStep (rootless : Bool) (s : State) (n : Nat) (pc : PreparePc) (ok : Bool) (v : Int) : State :=
  match pc with
  | .checkRoot => s.goOn n ok .findLaunchctl
  | .findLaunchctl => s.goOn n ok .unloadBluetoothd
  -- a failing unload is only logged
  | .unloadBluetoothd =>
      (s.launchctl .unload .bluetoothd).goOn n true (if rootless then .unloadBlueTool else .unloadBTstack)
  | .unloadBlueTool => (s.launchctl .unload .blueTool).goOn n true .unloadBTstack
  | .unloadBTstack => (s.launchctl .unload .btstack).goOn n true .loadBTstack
  | .loadBTstack => (s.launchctl .load .btstack).goOn n ok .waitSocket
  | .waitSocket => s.goOn n ok .spawnBt
  | .spawnBt => { s with carplayBtPid := v }.goOn n (0 < v) .waitBtAlive
  | .waitBtAlive => s.goOn n ok .waitBtReady
  | .waitBtReady => s.goOn n ok .toPreparingNet
  -- the state is not tested: a `stopFlow` may have come meanwhile
  | .toPreparingNet => (s.transitionTo .preparingNet).goOn n true .startIPCListener
  -- `socket` may fail, or `bind`, which leaves `listenFd` as it was
  | .startIPCListener =>
      if ok ∧ 0 ≤ v then { s with listenFd := v, ipc := s.ipc ++ [IpcPc.loop] }.goOn n true .spawnServices
      else s.goOn n false .spawnServices
  | .spawnServices => { s with carplayServicesPid := v, session := n }.goOn n (0 < v) .waitServicesAlive
  | .waitServicesAlive => s.goOn n ok .toAwaitingPhone
  | .toAwaitingPhone => { s.transitionTo .awaitingPhone with running := none }
  | .fail => { s.beginStop with running := some (.prepare n .failDispatch) }
  | .failDispatch => { s.dispatch .stop with running := none }

/-- `if (fd >= 0) { close(fd); fd = -1; }` -/
def closed (fd : Int) : Int := if 0 ≤ fd then -1 else fd

/-- The block of `stopFlow`; `ok` says whether `launchctl` is there. -/
def stopStep (rootless : Bool) (s : State) (pc : StopPc) (ok : Bool) : State :=
  match pc with
  | .closeClient => { s with clientFd := closed s.clientFd, running := some (.stop .closeListener) }
  | .closeListener => { s with listenFd := closed s.listenFd, touchFd := -1, running := some (.stop .killServices) }
  | .killServices => { s with carplayServicesPid := 0, running := some (.stop .killBt) }
  | .killBt => { s with carplayBtPid := 0, running := some (.stop .findLaunchctl) }
  -- without `launchctl` the app becomes idle all the same
  | .findLaunchctl => { s with running := some (.stop (if ok then .unloadBTstack else .toIdle)) }
  | .unloadBTstack => { s.launchctl .unload .btstack with running := some (.stop .loadBluetoothd) }
  | .loadBluetoothd =>
      { s.launchctl .load .bluetoothd with running := some (.stop (if rootless then .loadBlueTool else .toIdle)) }
  | .loadBlueTool => { s.launchctl .load .blueTool with running := some (.stop .toIdle) }
  | .toIdle => { s.transitionTo .idle with running := none }

/-! ## The threads of the IPC socket -/

/-- What such a thread sees. -/
inductive IpcEvent where
  | go
  | accepted (c : Int)
  /-- `accept` fails for another reason than a signal. -/
  | acceptFailed
  /-- `MSG_VIDEO_CONFIG`: with both parameter sets the format description is made anew, which may fail. -/
  | videoConfig (parameterSets made : Bool)
  /-- `MSG_VIDEO_FRAME`. -/
  | videoFrame
  | otherMessage
  /-- The connection ends. -/
  | hangUp
deriving DecidableEq

/-- `ipcAcceptLoop` and `ipcHandleConnection` of a thread at `pc`, and where it goes on. -/
def ipcStep (s : State) : IpcPc → IpcEvent → Option (State × IpcPc)
  -- `listenFd` is read again by `accept`, which fails when it has been closed
  | .loop, .go => some (s, if 0 ≤ s.listenFd then .accept else .done)
  | .accept, .accepted c =>
      if 0 ≤ c then some ({ s with clientFd := c, touchFd := c }, .handle false false) else none
  | .accept, .acceptFailed => some (s, .done)
  | .handle fmtDesc gotFirstFrame, .videoConfig parameterSets made =>
      some (s, if parameterSets then .handle made false else .handle fmtDesc gotFirstFrame)
  | .handle fmtDesc gotFirstFrame, .videoFrame =>
      if fmtDesc = true ∧ gotFirstFrame = false then some (s.transitionTo .active, .handle true true)
      else some (s, .handle fmtDesc gotFirstFrame)
  | .handle fmtDesc gotFirstFrame, .otherMessage => some (s, .handle fmtDesc gotFirstFrame)
  | .handle _ _, .hangUp => some ({ s with touchFd := -1, clientFd := -1 }, .disconnected)
  -- this test and the transition of `stopFlow` are two steps
  | .disconnected, .go =>
      some (s, if s.state = .active ∨ s.state = .awaitingPhone then .stopFlow else .loop)
  | .stopFlow, .go => some (s.beginStop, .stopDispatch)
  | .stopDispatch, .go => some (s.dispatch .stop, .done)
  | _, _ => none

/-! ## Steps -/

/-- A step of one of the threads. -/
inductive Event where
  | ui (e : UiEvent)
  | main (apUp : Bool)
  | takeJob
  | bg (ok : Bool) (v : Int)
  | ipc (i : Nat) (e : IpcEvent)
deriving DecidableEq

/-- One step; nothing when the thread has none of this kind to make. -/
def step (rootless : Bool) (s : State) : Event → Option State
  | .ui e => if s.main = .runLoop then uiStep s e else none
  | .main apUp => mainStep s apUp
  | .takeJob => takeJob s
  | .bg ok v =>
      match s.running with
      | none => none
      | some (.prepare n pc) => some (prepareStep rootless s n pc ok v)
      | some (.stop pc) => some (stopStep rootless s pc ok)
      | some .exportDiagnostics => some { s with running := none }
  | .ipc i e =>
      match s.ipc[i]? with
      | none => none
      | some pc => (ipcStep s pc e).map fun r => { r.1 with ipc := s.ipc.set i r.2 }

/-- A run of the app from its launch. -/
abbrev Run (rootless : Bool) : List (Step State Event) → State → Prop :=
  Lib.Run (fun s e s' => step rootless s e = some s') State.launched

/-! ## What a step does to the state

Every step is split along its program once, in `step_state`: either the state is as before, or the step is one of the
calls of `transitionTo`, and `Transition` says of each where its thread was. `Beside` does the same for the threads
that run next to `bgQueue`; the invariants of `App.Invariant` only use these two. -/

/-- The step is the transition of a `stopFlow`. -/
def State.stops (s : State) : Event → Bool
  | .main _ => s.main = .stopFlow
  | .bg _ _ =>
      match s.running with
      | some (.prepare _ .fail) => true
      | _ => false
  | .ipc i .go => s.ipc[i]? = some .stopFlow
  | _ => false

/-- The step is the dispatch of a `stopFlow`. -/
def State.dispatchesStop (s : State) : Event → Bool
  | .main _ => s.main = .stopDispatch
  | .bg _ _ =>
      match s.running with
      | some (.prepare _ .failDispatch) => true
      | _ => false
  | .ipc i .go => s.ipc[i]? = some .stopDispatch
  | _ => false

/-- The step is the first frame behind a format description. -/
def State.firstFrame (s : State) : Event → Bool
  | .ipc i .videoFrame => s.ipc[i]? = some (.handle true false)
  | _ => false

/-- The calls of `transitionTo`. -/
inductive Transition (s : State) : Event → ShowcaseState → Prop where
  | startFlow {apUp : Bool} : s.main = .startFlow → Transition s (.main apUp) .awaitingAP
  | pollAP {apUp : Bool} : s.main = .pollAdvance → Transition s (.main apUp) .preparingBT
  | bgPrepareBT {n : Nat} {ok : Bool} {v : Int} :
      s.running = some (.prepare n .toPreparingNet) → Transition s (.bg ok v) .preparingNet
  | bgPrepareNet {n : Nat} {ok : Bool} {v : Int} :
      s.running = some (.prepare n .toAwaitingPhone) → Transition s (.bg ok v) .awaitingPhone
  | stopFlow {e : Event} : s.stops e = true → Transition s e .stopping
  | stopJob {ok : Bool} {v : Int} : s.running = some (.stop .toIdle) → Transition s (.bg ok v) .idle
  | ipcHandleConnection {e : Event} : s.firstFrame e = true → Transition s e .active

/-- The run loop of the main thread leaves the state alone. -/
theorem uiStep_state {s s' : State} {e : UiEvent} (h : uiStep s e = some s') : s'.state = s.state := by
  cases e <;> simp only [uiStep, Option.some.injEq] at h
  case closeTapped | exportDiagnostics | handleForeground => subst h; rfl
  all_goals split at h
  all_goals cases h <;> rfl

/-- The start of a block leaves the state alone. -/
theorem takeJob_state {s s' : State} (h : takeJob s = some s') : s'.state = s.state := by
  unfold takeJob at h
  split at h
  all_goals cases h <;> rfl

/-- The preparation of attempt `n` changes it at two places and when it fails. -/
theorem prepareStep_state (rootless : Bool) {s : State} {n : Nat} {pc : PreparePc} (ok : Bool) (v : Int)
    (hpc : s.running = some (.prepare n pc)) :
    (prepareStep rootless s n pc ok v).state = s.state ∨
      Transition s (.bg ok v) (prepareStep rootless s n pc ok v).state := by
  cases pc with
  | toPreparingNet => exact .inr (.bgPrepareBT hpc)
  | toAwaitingPhone => exact .inr (.bgPrepareNet hpc)
  | fail => exact .inr (.stopFlow (by simp only [State.stops, hpc]))
  | startIPCListener =>
      left
      simp only [prepareStep]
      split <;> rfl
  | _ => exact .inl rfl

/-- The state changes in `transitionTo` only. -/
theorem step_state {rootless : Bool} {s s' : State} {e : Event} (h : step rootless s e = some s') :
    s'.state = s.state ∨ Transition s e s'.state := by
  cases e with
  | ui e =>
      rw [step] at h
      split at h
      · exact .inl (uiStep_state h)
      · cases h
  | main apUp =>
      rw [step] at h
      unfold mainStep at h
      split at h
      case h_2 hpc => cases h; exact .inr (.startFlow hpc)
      case h_3 => split at h <;> (try split at h) <;> cases h <;> exact .inl rfl
      case h_4 hpc => cases h; exact .inr (.pollAP hpc)
      case h_6 hpc => cases h; exact .inr (.stopFlow (by simp only [State.stops, hpc, decide_true]))
      all_goals cases h
      all_goals exact .inl rfl
  | takeJob => exact .inl (takeJob_state h)
  | bg ok v =>
      rw [step] at h
      split at h
      · cases h
      · next n pc hpc => cases h; exact prepareStep_state rootless ok v hpc
      · next pc hpc =>
          cases h
          cases pc with
          | toIdle => exact .inr (.stopJob hpc)
          | _ => exact .inl rfl
      · cases h; exact .inl rfl
  | ipc i e =>
      rw [step] at h
      split at h
      · cases h
      · next pc hpc =>
          obtain ⟨⟨t, pc'⟩, ht, rfl⟩ := Option.map_eq_some_iff.mp h
          unfold ipcStep at ht
          split at ht
          case h_5 f g =>
            split at ht
            · next hfirst =>
                cases ht
                rw [hfirst.1, hfirst.2] at hpc
                exact .inr (.ipcHandleConnection (by simp only [State.firstFrame, hpc, decide_true]))
            · cases ht; exact .inl rfl
          case h_9 => cases ht; exact .inr (.stopFlow (by simp only [State.stops, hpc, decide_true]))
          case h_2 => split at ht <;> cases ht; exact .inl rfl
          all_goals cases ht
          all_goals exact .inl rfl

/-- What the threads outside `bgQueue` leave alone. None of them makes the app idle, and
    `startFlow` leaves it busy. -/
structure Beside (s s' : State) : Prop where
  running : s'.running = s.running
  carplayBtPid : s'.carplayBtPid = s.carplayBtPid
  carplayServicesPid : s'.carplayServicesPid = s.carplayServicesPid
  listenFd : s'.listenFd = s.listenFd
  launchd : s'.launchd = s.launchd
  idle : s'.state = .idle → s.state = .idle ∧ s'.starts = s.starts

theorem Beside.refl (s : State) : Beside s s :=
  ⟨rfl, rfl, rfl, rfl, rfl, fun h => ⟨h, rfl⟩⟩

theorem uiStep_beside {s s' : State} {e : UiEvent} (h : uiStep s e = some s') : Beside s s' := by
  cases e <;> simp only [uiStep, Option.some.injEq] at h
  case closeTapped | exportDiagnostics | handleForeground => rw [← h]; exact { Beside.refl s with }
  all_goals split at h
  all_goals cases h
  all_goals exact { Beside.refl s with }

theorem mainStep_beside {s s' : State} {apUp : Bool} (h : mainStep s apUp = some s') : Beside s s' := by
  unfold mainStep at h
  split at h
  case h_3 => split at h <;> (try split at h) <;> cases h <;> exact { Beside.refl s with }
  -- the transitions of `startFlow`, `pollAP` and `stopFlow` lead away from `StateIdle`
  case h_2 | h_4 | h_6 => cases h; exact { Beside.refl s with idle := fun hidle => nomatch hidle }
  all_goals cases h
  all_goals exact { Beside.refl s with }

theorem ipcStep_beside {s : State} {pc : IpcPc} {e : IpcEvent} {r : State × IpcPc}
    (h : ipcStep s pc e = some r) : Beside s r.1 := by
  unfold ipcStep at h
  split at h
  case h_5 =>
    split at h
    · cases h; exact { Beside.refl s with idle := fun hidle => nomatch hidle }
    · cases h; exact Beside.refl s
  case h_9 => cases h; exact { Beside.refl s with idle := fun hidle => nomatch hidle }
  case h_2 => split at h <;> cases h; exact { Beside.refl s with }
  all_goals cases h
  all_goals exact { Beside.refl s with }

end Showcase.App
