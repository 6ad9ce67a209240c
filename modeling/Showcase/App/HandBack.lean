import Showcase.App.Machine

/-!
# `App.HandBack` — Bluetooth is handed back

`bgPrepareBT` takes the controller from `bluetoothd`, and ten exits of it and of `bgPrepareNet` leave the takeover at
different stages. All of them end in `failWith`, whose `stopFlow` queues the job that undoes whatever is there: it
closes the sockets, kills both helpers and lets `launchctl` unload BTstack and load the stock daemons again.

Only that job makes the app idle. So what it has done up to each of its steps (`BlockFacts`) is an invariant of the
serial queue, and no other thread disturbs it (`Beside`).
-/

namespace Showcase.App

open Lib

/-! ## Restored -/

/-- The last command about `service` in `log` was `verb`, and `rest` came behind it. -/
def LastOn (service : Service) (verb : Verb) (log rest : List Launchctl) : Prop :=
  ∃ before, log = before ++ ⟨verb, service⟩ :: rest ∧ ∀ c ∈ rest, c.service ≠ service

/-- The last command about BTstack unloads it, and the last ones about the stock daemons load them, behind that. -/
def HandedBack (rootless : Bool) (log : List Launchctl) : Prop :=
  ∃ rest, LastOn .btstack .unload log rest ∧ (∃ r, LastOn .bluetoothd .load rest r) ∧
    (rootless = true → ∃ r, LastOn .blueTool .load rest r)

/-- Without BlueTool, two commands hand Bluetooth back. -/
theorem handedBack_rooted (log : List Launchctl) :
    HandedBack false (log ++ [⟨.unload, .btstack⟩, ⟨.load, .bluetoothd⟩]) := by
  refine ⟨[⟨.load, .bluetoothd⟩], ⟨log, rfl, ?_⟩, ⟨[], [], rfl, ?_⟩, ?_⟩
  · intro c hc
    rw [List.mem_singleton.mp hc]
    decide
  · intro c hc
    exact absurd hc List.not_mem_nil
  · intro hr
    cases hr

/-- With BlueTool, three commands hand Bluetooth back. -/
theorem handedBack_rootless (rootless : Bool) (log : List Launchctl) :
    HandedBack rootless (log ++ [⟨.unload, .btstack⟩, ⟨.load, .bluetoothd⟩, ⟨.load, .blueTool⟩]) := by
  refine ⟨[⟨.load, .bluetoothd⟩, ⟨.load, .blueTool⟩], ⟨log, rfl, ?_⟩, ⟨[⟨.load, .blueTool⟩], [], rfl, ?_⟩, ?_⟩
  · intro c hc
    rcases List.mem_cons.mp hc with rfl | hc
    · decide
    · rw [List.mem_singleton.mp hc]
      decide
  · intro c hc
    rw [List.mem_singleton.mp hc]
    decide
  · intro _
    refine ⟨[], [⟨.load, .bluetoothd⟩], rfl, ?_⟩
    intro c hc
    exact absurd hc List.not_mem_nil

/-- What an idle app leaves behind. -/
structure Restored (rootless : Bool) (s : State) : Prop where
  carplayBtPid : s.carplayBtPid = 0
  carplayServicesPid : s.carplayServicesPid = 0
  listenFd : s.listenFd = -1
  handedBack : 0 < s.starts → HandedBack rootless s.launchd

/-! ## What the queue has done -/

/-- What holds while `block` runs. The job of `stopFlow` is followed step by step; a preparation owes nothing until
    its `failWith` has left the state `StateStopping`. -/
def BlockFacts (rootless : Bool) (s : State) (block : Option Running) : Prop :=
  match block with
  | none | some .exportDiagnostics => s.state = .idle → Restored rootless s
  | some (.prepare _ .failDispatch) => s.state ≠ .idle
  | some (.prepare _ _) => True
  | some (.stop pc) =>
      match pc with
      | .closeClient | .closeListener => True
      | .killServices => s.listenFd = -1
      | .killBt => s.listenFd = -1 ∧ s.carplayServicesPid = 0
      | .findLaunchctl | .unloadBTstack =>
          s.listenFd = -1 ∧ s.carplayServicesPid = 0 ∧ s.carplayBtPid = 0
      | .loadBluetoothd =>
          s.listenFd = -1 ∧ s.carplayServicesPid = 0 ∧ s.carplayBtPid = 0 ∧
            ∃ log, s.launchd = log ++ [⟨.unload, .btstack⟩]
      | .loadBlueTool =>
          s.listenFd = -1 ∧ s.carplayServicesPid = 0 ∧ s.carplayBtPid = 0 ∧
            ∃ log, s.launchd = log ++ [⟨.unload, .btstack⟩, ⟨.load, .bluetoothd⟩]
      | .toIdle =>
          s.listenFd = -1 ∧ s.carplayServicesPid = 0 ∧ s.carplayBtPid = 0 ∧ HandedBack rootless s.launchd

/-- **The invariant.** A closed listener is `-1`, and the block that runs has done its part. -/
structure HandBackInv (rootless : Bool) (s : State) : Prop where
  listenFd : -1 ≤ s.listenFd
  block : BlockFacts rootless s s.running

theorem handBackInv_launched (rootless : Bool) : HandBackInv rootless State.launched where
  listenFd := Int.le_refl _
  block := fun _ => ⟨rfl, rfl, rfl, fun h => absurd h (Nat.lt_irrefl 0)⟩

variable {rootless : Bool} {s s' : State}

/-- A restored app that stays idle stays restored. -/
theorem Restored.beside (hb : Beside s s') (hstarts : s'.starts = s.starts) (h : Restored rootless s) :
    Restored rootless s' where
  carplayBtPid := hb.carplayBtPid.trans h.carplayBtPid
  carplayServicesPid := hb.carplayServicesPid.trans h.carplayServicesPid
  listenFd := hb.listenFd.trans h.listenFd
  handedBack := by
    intro hpos
    rw [hb.launchd]
    exact h.handedBack (hstarts ▸ hpos)

/-- The other threads do not undo what a block has done. -/
theorem BlockFacts.beside (hb : Beside s s') {block : Option Running} (h : BlockFacts rootless s block) :
    BlockFacts rootless s' block := by
  have hidle : (s.state = .idle → Restored rootless s) → s'.state = .idle → Restored rootless s' := by
    intro hres hs'
    obtain ⟨hs, hstarts⟩ := hb.idle hs'
    exact (hres hs).beside hb hstarts
  unfold BlockFacts at h ⊢
  split
  · exact hidle h
  · exact hidle h
  · exact fun hs' => h (hb.idle hs').1
  · trivial
  · rw [hb.listenFd, hb.carplayServicesPid, hb.carplayBtPid, hb.launchd]
    exact h

theorem HandBackInv.beside (hb : Beside s s') (h : HandBackInv rootless s) : HandBackInv rootless s' where
  listenFd := by rw [hb.listenFd]; exact h.listenFd
  block := by rw [hb.running]; exact h.block.beside hb

/-- A closed descriptor is `-1`. -/
theorem closed_eq {fd : Int} (h : -1 ≤ fd) : closed fd = -1 := by
  unfold closed
  split
  · rfl
  · omega

/-! ## The steps of the queue

Only the job of `stopFlow` owes anything. Each of its steps adds its part to `BlockFacts` and leaves the parts in
front of it alone, since the list of commands grows at its end. -/

/-- A block that begins has nothing to show yet; one that only packs the logs keeps what is there. -/
theorem takeJob_handBack (h : HandBackInv rootless s) (hstep : takeJob s = some s') : HandBackInv rootless s' := by
  have hblock := h.block
  unfold takeJob at hstep
  split at hstep
  case h_1 => cases hstep; exact ⟨h.listenFd, trivial⟩
  case h_2 => cases hstep; exact ⟨h.listenFd, trivial⟩
  case h_3 hnone _ =>
      cases hstep
      rw [hnone] at hblock
      exact ⟨h.listenFd, fun hidle => { hblock hidle with }⟩
  case h_4 => cases hstep

/-- A block that goes on is not at `failDispatch`. -/
theorem goOn_facts (t : State) (n : Nat) (ok : Bool) {pc : PreparePc} (hpc : pc ≠ .failDispatch) :
    BlockFacts rootless (t.goOn n ok pc) (t.goOn n ok pc).running := by
  cases ok with
  | false => trivial
  | true =>
      cases pc with
      | failDispatch => exact absurd rfl hpc
      | _ => trivial

/-- A preparation owes nothing, whatever it takes over, and never ends in `StateIdle`. -/
theorem prepareStep_handBack (h : HandBackInv rootless s) {n : Nat} {pc : PreparePc}
    (hrun : s.running = some (.prepare n pc)) (ok : Bool) (v : Int) :
    HandBackInv rootless (prepareStep rootless s n pc ok v) := by
  have hblock := h.block
  rw [hrun] at hblock
  cases pc with
  | startIPCListener =>
      simp only [prepareStep]
      split
      · next hok => exact ⟨Int.le_trans (by decide) hok.2, goOn_facts _ n true (by decide)⟩
      · exact ⟨h.listenFd, goOn_facts _ n false (by decide)⟩
  | unloadBluetoothd =>
      refine ⟨h.listenFd, goOn_facts _ n true ?_⟩
      cases rootless <;> decide
  -- the block ends in another state than `StateIdle`
  | toAwaitingPhone => exact ⟨h.listenFd, fun hidle => by cases hidle⟩
  | fail => exact ⟨h.listenFd, fun hidle => by cases hidle⟩
  | failDispatch => exact ⟨h.listenFd, fun hidle => absurd hidle hblock⟩
  | _ => exact ⟨h.listenFd, goOn_facts _ n _ (by decide)⟩

/-- Each step of `stopFlow`'s job adds its part, where `launchctl` is there. -/
theorem stopStep_handBack (h : HandBackInv rootless s) {pc : StopPc} (hrun : s.running = some (.stop pc)) {ok : Bool}
    (hlaunchctl : pc = .findLaunchctl → ok = true) : HandBackInv rootless (stopStep rootless s pc ok) := by
  have hblock := h.block
  rw [hrun] at hblock
  cases pc with
  | closeClient => exact ⟨h.listenFd, trivial⟩
  | closeListener =>
      have hclosed := closed_eq h.listenFd
      exact ⟨Int.le_of_eq hclosed.symm, hclosed⟩
  | killServices => exact ⟨h.listenFd, hblock, rfl⟩
  | killBt => exact ⟨h.listenFd, hblock.1, hblock.2, rfl⟩
  | findLaunchctl =>
      rw [hlaunchctl rfl]
      exact ⟨h.listenFd, hblock⟩
  | unloadBTstack => exact ⟨h.listenFd, hblock.1, hblock.2.1, hblock.2.2, s.launchd, rfl⟩
  | loadBluetoothd =>
      obtain ⟨hfd, hsvc, hbt, log, hlog⟩ := hblock
      have hnow : s.launchd ++ [⟨.load, .bluetoothd⟩] = log ++ [⟨.unload, .btstack⟩, ⟨.load, .bluetoothd⟩] := by
        rw [hlog, List.append_assoc]
        rfl
      cases rootless with
      | true => exact ⟨h.listenFd, hfd, hsvc, hbt, log, hnow⟩
      | false =>
          have hback : HandedBack false (s.launchd ++ [⟨.load, .bluetoothd⟩]) := by
            rw [hnow]
            exact handedBack_rooted log
          exact ⟨h.listenFd, hfd, hsvc, hbt, hback⟩
  | loadBlueTool =>
      obtain ⟨hfd, hsvc, hbt, log, hlog⟩ := hblock
      have hnow : s.launchd ++ [⟨.load, .blueTool⟩] =
          log ++ [⟨.unload, .btstack⟩, ⟨.load, .bluetoothd⟩, ⟨.load, .blueTool⟩] := by
        rw [hlog, List.append_assoc]
        rfl
      have hback : HandedBack rootless (s.launchd ++ [⟨.load, .blueTool⟩]) := by
        rw [hnow]
        exact handedBack_rootless rootless log
      exact ⟨h.listenFd, hfd, hsvc, hbt, hback⟩
  -- all parts are there when the app becomes idle
  | toIdle =>
      obtain ⟨hfd, hsvc, hbt, hback⟩ := hblock
      exact ⟨h.listenFd, fun _ => ⟨hbt, hsvc, hfd, fun _ => hback⟩⟩

/-! ## Runs

The invariant speaks of the block that runs. An empty queue has none, and what is then left of the invariant is
`Restored`. -/

/-- The call that a step of the queue makes succeeds. -/
def Event.ok : Event → Bool
  | .bg ok _ => ok
  | _ => true

/-- The job of `stopFlow` finds `launchctl`. -/
def LaunchctlFound (x : Step State Event) : Prop :=
  x.pre.running = some (.stop .findLaunchctl) → x.input.ok = true

instance (x : Step State Event) : Decidable (LaunchctlFound x) :=
  inferInstanceAs (Decidable (_ → _))

/-- Nothing waits in `bgQueue`, and its last block has returned. -/
def State.QueueEmpty (s : State) : Prop := s.bgQueue = [] ∧ s.running = none

instance (s : State) : Decidable s.QueueEmpty := inferInstanceAs (Decidable (_ ∧ _))

theorem step_handBack {e : Event} (h : HandBackInv rootless s) (hstep : step rootless s e = some s')
    (hlaunchctl : LaunchctlFound ⟨s, e, s'⟩) : HandBackInv rootless s' := by
  cases e with
  | ui e =>
      rw [step] at hstep
      split at hstep
      · exact h.beside (uiStep_beside hstep)
      · cases hstep
  | main apUp => exact h.beside (mainStep_beside hstep)
  | takeJob => exact takeJob_handBack h hstep
  | bg ok v =>
      rw [step] at hstep
      split at hstep
      · cases hstep
      · next n pc hrun => cases hstep; exact prepareStep_handBack h hrun ok v
      · next pc hrun =>
          cases hstep
          apply stopStep_handBack h hrun
          intro hpc
          exact hlaunchctl (hpc ▸ hrun)
      · next hrun =>
          cases hstep
          have hblock := h.block
          rw [hrun] at hblock
          exact ⟨h.listenFd, fun hidle => { hblock hidle with }⟩
  | ipc i e =>
      rw [step] at hstep
      split at hstep
      · cases hstep
      · next pc hpc =>
          obtain ⟨r, hr, rfl⟩ := Option.map_eq_some_iff.mp hstep
          exact h.beside { ipcStep_beside hr with }

/-- **An idle app has handed Bluetooth back.** In every run of starts, cancels, failures and stops in which
    `stopFlow` finds `launchctl`, whenever the app is idle and `bgQueue` is empty, no helper and no listener
    is left, and after a start BTstack was unloaded last and the stock daemons were loaded behind that. -/
theorem idle_restored {h : List (Step State Event)} (hrun : Run rootless h s)
    (hlaunchctl : ∀ x ∈ h, LaunchctlFound x) (hidle : s.state = .idle) (hqueue : s.QueueEmpty) :
    Restored rootless s := by
  have hinv : HandBackInv rootless s :=
    hrun.invariant_where LaunchctlFound (HandBackInv rootless) (handBackInv_launched rootless)
      (fun _ _ _ hinv hstep hfound => step_handBack hinv hstep hfound) hlaunchctl
  have hfacts := hinv.block
  rw [hqueue.2] at hfacts
  exact hfacts hidle

/-- A start whose `carplay_bt` never reports a powered controller, and the job of its `stopFlow`. -/
def failedTakeover : List Event :=
  [[.ui (.primaryTapped true true)], .replicate 4 (.main true), [.takeJob], .replicate 9 (.bg true 100),
    [.bg false 0, .bg true 0, .bg true 0, .takeJob], .replicate 9 (.bg true 0)].flatten

theorem failedTakeover_restored : ∃ h s, Run true h s ∧ 0 < s.starts ∧ Restored true s := by
  have hexec : (exec (step true) State.launched failedTakeover).map (fun r => decide
      ((∀ x ∈ r.1, LaunchctlFound x) ∧ r.2.state = .idle ∧ r.2.QueueEmpty ∧ 0 < r.2.starts)) = some true := by
    decide +kernel
  obtain ⟨r, hr, htests⟩ := Option.map_eq_some_iff.mp hexec
  obtain ⟨hfound, hidle, hqueue, hstarts⟩ := of_decide_eq_true htests
  exact ⟨r.1, r.2, .exec hr, hstarts, idle_restored (.exec hr) hfound hidle hqueue⟩

end Showcase.App
