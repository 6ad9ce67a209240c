import Showcase.App.Machine
import Showcase.Lib.Children

/-!
# `App.Helpers` — the processes of the helpers

`bgQueue` starts both helpers, waits for them to come up, and kills them again. Here these calls are taken line by
line, beside a table of processes (`Lib.Children`): a helper may exit between any two lines, and a number that is free
may be given to another process.

## Contents
- `Supervisor`, `helperStep` — the app with its processes, and one step.
- `callStep` — `wait_for_pid_alive`, `wait_for_bt_ready_or_exit` and `kill_pid`.
- `HelperRun.app` — the app in it runs as `App.Machine` has it.
- `SignalInv`, **`signals_children`** — who gets a signal.
- `WaitInv`, **`waits_detect`** — what a wait has seen. `waits_yes`: it has never seen anything.
-/

namespace Showcase.App

open Lib

/-! ## The calls -/

/-- `wait_for_bt_ready_or_exit` in its round `i`. -/
inductive ReadyPc where
  | access (i : Nat)
  | waitpid (i : Nat)
  | pidAlive (i : Nat)
deriving DecidableEq

/-- `kill_pid`. -/
inductive KillPc where
  | check
  | term
  | poll (i : Nat)
  | kill
  | reap
deriving DecidableEq

/-- Where the block of `bgQueue` is inside a call. -/
inductive CallPc where
  | outside
  /-- `wait_for_pid_alive` in its round `i`. -/
  | alive (i : Nat)
  | ready (pc : ReadyPc)
  | kill (pc : KillPc)
deriving DecidableEq

/-- A `wait_for_pid_alive` that has returned, and what the helper was at its last check. -/
structure Wait where
  pid : Int
  yes : Bool
  last : Proc
deriving DecidableEq

/-- The app and the processes; the waits that have returned, and who has got a `SIGTERM` or a `SIGKILL`. -/
structure Supervisor where
  app : State
  procs : ProcTable Int
  pc : CallPc
  waits : List Wait
  signals : List (Int × Proc)

/-- The app behind its launch, without a child, among other processes. -/
def Supervisor.launched (others : Int → Bool) : Supervisor := ⟨.launched, .among others, .outside, [], []⟩

/-- The call that a block begins with. -/
def entered : Option Running → CallPc
  | some (.prepare _ .waitBtAlive) | some (.prepare _ .waitServicesAlive) => .alive 0
  | some (.prepare _ .waitBtReady) => .ready (.access 0)
  | some (.stop .killServices) | some (.stop .killBt) => .kill .check
  | _ => .outside

/-- The helper it is about. -/
def State.helperPid (s : State) : Int :=
  match s.running with
  | some (.prepare _ .waitServicesAlive) | some (.stop .killServices) => s.carplayServicesPid
  | _ => s.carplayBtPid

/-- How long `wait_for_pid_alive` waits. -/
def State.aliveSeconds (s : State) : Nat :=
  match s.running with
  | some (.prepare _ .waitServicesAlive) => 4
  | _ => 8

/-- The block is at a `spawn_daemon`. -/
def State.spawns (s : State) : Bool :=
  match s.running with
  | some (.prepare _ .spawnBt) | some (.prepare _ .spawnServices) => true
  | _ => false

/-- A step of the block, or of the queue. -/
def Event.ofQueue : Event → Bool
  | .bg _ _ | .takeJob => true
  | _ => false

/-- What happens. -/
inductive HelperEvent where
  | app (e : Event)
  /-- `spawn_daemon` returns; without a process it returns 0. -/
  | spawn (pid : Option Int)
  /-- The next line of the call; `sentinel` says whether `BT_READY_PATH` is there. -/
  | call (sentinel : Bool)
  | proc (e : ProcEvent Int)
deriving DecidableEq

namespace Supervisor

variable (rootless : Bool) (w : Supervisor)

/-- A step of the app. A block that goes on may come to a call. -/
def appStep (e : Event) : Option Supervisor :=
  (step rootless w.app e).map fun s => { w with app := s, pc := if e.ofQueue then entered s.running else w.pc }

/-- The call returns. -/
def returned (ok : Bool) : Option Supervisor := w.appStep rootless (.bg ok 0)

/-- `pid_alive`. -/
def pidAlive : Bool := 0 < w.app.helperPid && w.procs.found w.app.helperPid

/-- `kill(pid, sig)`. -/
def signalled : Supervisor := { w with signals := w.signals ++ [(w.app.helperPid, w.procs w.app.helperPid)] }

/-- A `wait_for_pid_alive` returns. -/
def waited (yes : Bool) : Supervisor :=
  { w with waits := w.waits ++ [⟨w.app.helperPid, yes, w.procs w.app.helperPid⟩] }

/-- The next round of `wait_for_bt_ready_or_exit`, which has 120. -/
def nextReady (i : Nat) : Option Supervisor :=
  if i + 1 < 120 then some { w with pc := .ready (.access (i + 1)) } else w.returned rootless false

/-- One line of a call, with the `sleep` behind it. -/
def callStep (sentinel : Bool) : Option Supervisor :=
  match w.pc with
  | .outside => none
  | .alive i =>
      if w.pidAlive then
        if i + 1 < w.app.aliveSeconds then some { w with pc := .alive (i + 1) }
        else (w.waited true).returned rootless true
      else (w.waited false).returned rootless false
  | .ready (.access i) => if sentinel then w.returned rootless true else some { w with pc := .ready (.waitpid i) }
  | .ready (.waitpid i) =>
      match w.procs.waitNoHang w.app.helperPid with
      -- the helper has exited, and its number is free from now on
      | (.collected, procs) => { w with procs := procs }.returned rootless false
      | (.stillRunning, _) => w.nextReady rootless i
      | (.noChild, _) => some { w with pc := .ready (.pidAlive i) }
  | .ready (.pidAlive i) => if w.pidAlive then w.nextReady rootless i else w.returned rootless false
  | .kill .check => if w.pidAlive then some { w with pc := .kill .term } else w.returned rootless true
  | .kill .term => some { w.signalled with pc := .kill (.poll 0) }
  | .kill (.poll i) =>
      if w.pidAlive then some { w with pc := if i + 1 < 20 then .kill (.poll (i + 1)) else .kill .kill }
      else w.returned rootless true
  | .kill .kill => some { w.signalled with pc := .kill .reap }
  | .kill .reap => { w with procs := (w.procs.waitNoHang w.app.helperPid).2 }.returned rootless true

/-- `spawn_daemon`. -/
def spawnStep : Option Int → Option Supervisor
  | some pid =>
      if 0 < pid ∧ w.procs pid = .free then
        { w with procs := Function.update w.procs pid .running }.appStep rootless (.bg true pid)
      else none
  | none => w.appStep rootless (.bg false 0)

end Supervisor

/-- One step; nothing when it is not possible. -/
def helperStep (rootless : Bool) (w : Supervisor) : HelperEvent → Option Supervisor
  | .app e => if e.ofQueue ∧ (w.pc ≠ .outside ∨ w.app.spawns) then none else w.appStep rootless e
  | .spawn pid => if w.app.spawns then w.spawnStep rootless pid else none
  | .call sentinel => w.callStep rootless sentinel
  | .proc e => (w.procs.next e).map fun procs => { w with procs := procs }

/-- Runs from the launch of the app. -/
abbrev HelperRun (rootless : Bool) (others : Int → Bool) : List (Step Supervisor HelperEvent) → Supervisor → Prop :=
  Lib.Run (fun w e w' => helperStep rootless w e = some w') (.launched others)

/-! ## What a step is -/

variable {rootless : Bool} {w w' : Supervisor} {s s' : State}

theorem appStep_eq {e : Event} (h : w.appStep rootless e = some w') :
    step rootless w.app e = some w'.app ∧ w'.pc = (if e.ofQueue then entered w'.app.running else w.pc) ∧
      w'.procs = w.procs ∧ w'.waits = w.waits ∧ w'.signals = w.signals := by
  obtain ⟨s, hs, rfl⟩ := Option.map_eq_some_iff.mp h
  exact ⟨hs, rfl, rfl, rfl, rfl⟩

/-- **A line of a call**: the call goes on, has sent a signal, or returns. -/
inductive Line (rootless : Bool) (w : Supervisor) : Supervisor → Prop where
  | alive {i : Nat} : w.pc = .alive i → Line rootless w { w with pc := .alive (i + 1) }
  | ready {p p' : ReadyPc} : w.pc = .ready p → Line rootless w { w with pc := .ready p' }
  | kill {k k' : KillPc} :
      w.pc = .kill k → (k ≠ .check ∨ w.pidAlive = true) → Line rootless w { w with pc := .kill k' }
  | signalled {k k' : KillPc} : w.pc = .kill k → k ≠ .check → Line rootless w { w.signalled with pc := .kill k' }
  | waited {i : Nat} {yes : Bool} {w' : Supervisor} :
      w.pc = .alive i → w.pidAlive = yes → (w.waited yes).returned rootless yes = some w' → Line rootless w w'
  | returned {ok : Bool} {w' : Supervisor} :
      (∀ i, w.pc ≠ .alive i) → w.returned rootless ok = some w' → Line rootless w w'
  | collected {ok : Bool} {w' : Supervisor} :
      (∀ i, w.pc ≠ .alive i) →
      { w with procs := (w.procs.waitNoHang w.app.helperPid).2 }.returned rootless ok = some w' → Line rootless w w'

theorem nextReady_line {i : Nat} {p : ReadyPc} (hpc : w.pc = .ready p) (h : w.nextReady rootless i = some w') :
    Line rootless w w' := by
  unfold Supervisor.nextReady at h
  split at h
  · obtain rfl := Option.some.inj h
    exact .ready hpc
  · exact .returned (by simp [hpc]) h

theorem callStep_line {sentinel : Bool} (h : w.callStep rootless sentinel = some w') : Line rootless w w' := by
  unfold Supervisor.callStep at h
  split at h
  case h_1 => cases h
  case h_2 i hpc =>
    split at h
    · rename_i halive
      split at h
      · obtain rfl := Option.some.inj h
        exact .alive hpc
      · exact .waited hpc halive h
    · rename_i halive
      exact .waited hpc (Bool.not_eq_true _ ▸ halive) h
  case h_3 i hpc =>
    split at h
    · exact .returned (by simp [hpc]) h
    · obtain rfl := Option.some.inj h
      exact .ready hpc
  case h_4 i hpc =>
    split at h
    · rename_i procs hwait
      obtain rfl : (w.procs.waitNoHang w.app.helperPid).2 = procs := congrArg Prod.snd hwait
      exact .collected (by simp [hpc]) h
    · exact nextReady_line hpc h
    · obtain rfl := Option.some.inj h
      exact .ready hpc
  case h_5 i hpc =>
    split at h
    · exact nextReady_line hpc h
    · exact .returned (by simp [hpc]) h
  case h_6 hpc =>
    split at h
    · rename_i halive
      obtain rfl := Option.some.inj h
      exact .kill hpc (.inr halive)
    · exact .returned (by simp [hpc]) h
  case h_7 hpc =>
    obtain rfl := Option.some.inj h
    exact .signalled hpc (by decide)
  case h_8 i hpc =>
    split at h
    · obtain rfl := Option.some.inj h
      split
      · exact .kill hpc (.inl (by simp))
      · exact .kill hpc (.inl (by simp))
    · exact .returned (by simp [hpc]) h
  case h_9 hpc =>
    obtain rfl := Option.some.inj h
    exact .signalled hpc (by decide)
  case h_10 hpc => exact .collected (by simp [hpc]) h

/-- The threads beside the queue. -/
theorem step_beside {e : Event} (h : step rootless s e = some s') (hq : e.ofQueue = false) : Beside s s' := by
  cases e with
  | ui e =>
      obtain ⟨-, h⟩ := Option.ite_none_right_eq_some.mp h
      exact uiStep_beside h
  | main apUp => exact mainStep_beside h
  | takeJob => cases hq
  | bg ok v => cases hq
  | ipc i e =>
      simp only [step] at h
      split at h
      · cases h
      · obtain ⟨r, hr, rfl⟩ := Option.map_eq_some_iff.mp h
        exact { ipcStep_beside hr with }

/-- **A number that the app stores**: it stays, is cleared, or comes from a `spawn_daemon`. -/
theorem step_pids {e : Event} (h : step rootless s e = some s') :
    (s'.carplayBtPid = s.carplayBtPid ∨ s'.carplayBtPid = 0 ∨
        (s.spawns = true ∧ ∃ ok, e = .bg ok s'.carplayBtPid)) ∧
      (s'.carplayServicesPid = s.carplayServicesPid ∨ s'.carplayServicesPid = 0 ∨
        (s.spawns = true ∧ ∃ ok, e = .bg ok s'.carplayServicesPid)) := by
  by_cases hq : e.ofQueue = true
  swap
  · have hb := step_beside h (Bool.eq_false_iff.mpr hq)
    exact ⟨.inl hb.carplayBtPid, .inl hb.carplayServicesPid⟩
  cases e with
  | ui e => cases hq
  | main apUp => cases hq
  | ipc i e => cases hq
  | takeJob =>
      simp only [step, takeJob] at h
      split at h
      case h_4 => cases h
      all_goals
        obtain rfl := Option.some.inj h
        exact ⟨.inl rfl, .inl rfl⟩
  | bg ok v =>
      simp only [step] at h
      split at h
      · cases h
      · rename_i n pc hrun
        obtain rfl := Option.some.inj h
        cases pc with
        | spawnBt => exact ⟨.inr (.inr ⟨by simp only [State.spawns, hrun], ok, rfl⟩), .inl rfl⟩
        | spawnServices => exact ⟨.inl rfl, .inr (.inr ⟨by simp only [State.spawns, hrun], ok, rfl⟩)⟩
        | startIPCListener =>
            simp only [prepareStep]
            split
            · exact ⟨.inl rfl, .inl rfl⟩
            · exact ⟨.inl rfl, .inl rfl⟩
        | _ => exact ⟨.inl rfl, .inl rfl⟩
      · rename_i pc hrun
        obtain rfl := Option.some.inj h
        cases pc with
        | killServices => exact ⟨.inl rfl, .inr (.inl rfl)⟩
        | killBt => exact ⟨.inr (.inl rfl), .inl rfl⟩
        | _ => exact ⟨.inl rfl, .inl rfl⟩
      · obtain rfl := Option.some.inj h
        exact ⟨.inl rfl, .inl rfl⟩

theorem Beside.helperPid (h : Beside s s') : s'.helperPid = s.helperPid := by
  unfold State.helperPid
  rw [h.running, h.carplayBtPid, h.carplayServicesPid]

/-- A step of the whole is one of the app, or leaves the app alone. -/
theorem helperStep_app {x : HelperEvent} (h : helperStep rootless w x = some w') :
    (∃ e, step rootless w.app e = some w'.app) ∨ w'.app = w.app := by
  cases x with
  | app e =>
      simp only [helperStep] at h
      split at h
      · cases h
      · exact .inl ⟨e, (appStep_eq h).1⟩
  | spawn pid =>
      obtain ⟨-, h⟩ := Option.ite_none_right_eq_some.mp h
      cases pid with
      | none => exact .inl ⟨_, (appStep_eq h).1⟩
      | some pid =>
          obtain ⟨-, h⟩ := Option.ite_none_right_eq_some.mp h
          exact .inl ⟨_, (appStep_eq h).1⟩
  | call sentinel =>
      cases callStep_line h with
      | waited _ _ hret => exact .inl ⟨_, (appStep_eq hret).1⟩
      | returned _ hret => exact .inl ⟨_, (appStep_eq hret).1⟩
      | collected _ hret => exact .inl ⟨_, (appStep_eq hret).1⟩
      | _ => exact .inr rfl
  | proc e =>
      obtain ⟨t, -, rfl⟩ := Option.map_eq_some_iff.mp h
      exact .inr rfl

/-- **The app runs as `App.Machine` has it.** -/
theorem HelperRun.app {others : Int → Bool} {h : List (Step Supervisor HelperEvent)}
    (hr : HelperRun rootless others h w) : ∃ h', App.Run rootless h' w.app :=
  hr.project Supervisor.app fun _ _ _ => helperStep_app

/-! ## Who gets a signal

A number that the app has comes from `spawn_daemon`. It can become another process's only by being given away, so the
invariant is kept as long as no step gives away a number that the app has. -/

/-- The number of a helper, as the app has it. -/
def State.Stores (s : State) (pid : Int) : Prop := 0 < pid ∧ (pid = s.carplayBtPid ∨ pid = s.carplayServicesPid)

instance (s : State) (pid : Int) : Decidable (s.Stores pid) := inferInstanceAs (Decidable (_ ∧ _))

theorem State.stores_helperPid (h : 0 < s.helperPid) : s.Stores s.helperPid := by
  refine ⟨h, ?_⟩
  unfold State.helperPid
  split
  · exact .inr rfl
  · exact .inr rfl
  · exact .inl rfl

/-- What the app stores it has had, or gets from `spawn_daemon`. -/
theorem State.Stores.of_step {e : Event} {pid : Int} (h : s'.Stores pid) (hstep : step rootless s e = some s') :
    s.Stores pid ∨ (s.spawns = true ∧ ∃ ok, e = .bg ok pid) := by
  obtain ⟨hpos, hpid⟩ := h
  obtain ⟨hbt, hservices⟩ := step_pids hstep
  rcases hpid with rfl | rfl
  · rcases hbt with hbt | hbt | hbt
    · exact .inl ⟨hpos, .inl hbt⟩
    · exact absurd hbt (Int.ne_of_gt hpos)
    · exact .inr hbt
  · rcases hservices with hservices | hservices | hservices
    · exact .inl ⟨hpos, .inr hservices⟩
    · exact absurd hservices (Int.ne_of_gt hpos)
    · exact .inr hservices

theorem entered_kill {k : KillPc} (h : entered s.running = .kill k) : k = .check := by
  unfold entered at h
  split at h
  case h_4 | h_5 => exact (CallPc.kill.inj h).symm
  all_goals cases h

/-- No number that the app has is another process's, and what `kill_pid` has seen is a child. -/
structure SignalInv (w : Supervisor) : Prop where
  stored : ∀ pid, w.app.Stores pid → w.procs pid ≠ .other
  kill : ∀ k, w.pc = .kill k → k ≠ .check → (w.procs w.app.helperPid).isChild
  signals : ∀ x ∈ w.signals, x.2.isChild

/-- A number that the app has is not given to another process. -/
def NotReused (x : Step Supervisor HelperEvent) : Prop :=
  match x.input with
  | .proc (.born pid) => ¬ x.pre.app.Stores pid
  | _ => True

instance (x : Step Supervisor HelperEvent) : Decidable (NotReused x) := by
  unfold NotReused
  split <;> infer_instance

theorem SignalInv.launched (others : Int → Bool) : SignalInv (.launched others) where
  stored := by
    rintro pid ⟨hpos, rfl | rfl⟩
    · exact absurd hpos (Int.lt_irrefl 0)
    · exact absurd hpos (Int.lt_irrefl 0)
  kill := fun _ h => nomatch h
  signals := fun _ h => absurd h List.not_mem_nil

/-- The app goes on, from a state in which a call may be at its end. -/
theorem SignalInv.goesOn {e : Event} (h : w.appStep rootless e = some w')
    (hstored : ∀ pid, w.app.Stores pid → w.procs pid ≠ .other)
    (hspawned : w.app.spawns = true → ∀ ok pid, e = .bg ok pid → 0 < pid → w.procs pid ≠ .other)
    (hkill : e.ofQueue = false → ∀ k, w.pc = .kill k → k ≠ .check → (w.procs w.app.helperPid).isChild)
    (hsignals : ∀ x ∈ w.signals, x.2.isChild) : SignalInv w' := by
  obtain ⟨hstep, hpc, hprocs, -, hsig⟩ := appStep_eq h
  refine ⟨?_, ?_, by rwa [hsig]⟩
  · intro pid hpid
    rw [hprocs]
    rcases hpid.of_step hstep with hold | ⟨hspawns, ok, he⟩
    · exact hstored pid hold
    · exact hspawned hspawns ok pid he hpid.1
  · intro k hk hne
    rw [hpc] at hk
    by_cases hq : e.ofQueue = true
    · rw [if_pos hq] at hk
      exact absurd (entered_kill hk) hne
    · rw [if_neg hq] at hk
      have hq := Bool.eq_false_iff.mpr hq
      rw [hprocs, (step_beside hstep hq).helperPid]
      exact hkill hq k hk hne

/-- What is not a process is none that has been spawned. -/
theorem no_process {Q : Prop} {ok ok' : Bool} {pid : Int} (h : Event.bg ok 0 = .bg ok' pid) (hpos : 0 < pid) : Q := by
  obtain ⟨-, rfl⟩ := Event.bg.inj h
  exact absurd hpos (Int.lt_irrefl _)

/-- A call returns. -/
theorem SignalInv.returned {ok : Bool} (h : w.returned rootless ok = some w')
    (hstored : ∀ pid, w.app.Stores pid → w.procs pid ≠ .other) (hsignals : ∀ x ∈ w.signals, x.2.isChild) :
    SignalInv w' :=
  .goesOn h hstored (fun _ _ _ => no_process) (fun hq => nomatch hq) hsignals

/-- **A step in which no number is given away** keeps it. -/
theorem SignalInv.step {x : HelperEvent} (h : SignalInv w) (hstep : helperStep rootless w x = some w')
    (hreuse : NotReused ⟨w, x, w'⟩) : SignalInv w' := by
  cases x with
  | app e =>
      simp only [helperStep] at hstep
      split at hstep
      · cases hstep
      · rename_i hguard
        refine .goesOn hstep h.stored ?_ (fun _ => h.kill) h.signals
        rintro hspawns ok pid rfl
        exact absurd ⟨rfl, .inr hspawns⟩ hguard
  | spawn pid =>
      obtain ⟨-, hstep⟩ := Option.ite_none_right_eq_some.mp hstep
      cases pid with
      | none => exact .goesOn hstep h.stored (fun _ _ _ => no_process) (fun hq => nomatch hq) h.signals
      | some pid =>
          obtain ⟨-, hstep⟩ := Option.ite_none_right_eq_some.mp hstep
          refine .goesOn hstep ?_ ?_ (fun hq => nomatch hq) h.signals
          · intro q hq
            show Function.update w.procs pid .running q ≠ .other
            by_cases hqp : q = pid
            · rw [hqp, Function.update_self]
              decide
            · rw [Function.update_of_ne hqp]
              exact h.stored q hq
          · rintro - ok q he -
            obtain ⟨-, rfl⟩ := Event.bg.inj he
            show Function.update w.procs pid .running pid ≠ .other
            rw [Function.update_self]
            decide
  | call sentinel =>
      cases callStep_line hstep with
      | alive hpc => exact ⟨h.stored, (fun _ hk => nomatch hk), h.signals⟩
      | ready hpc => exact ⟨h.stored, (fun _ hk => nomatch hk), h.signals⟩
      | kill hpc hseen =>
          refine ⟨h.stored, fun _ _ _ => ?_, h.signals⟩
          rcases hseen with hne | halive
          · exact h.kill _ hpc hne
          · -- the `kill(pid, 0)` of `pid_alive`
            obtain ⟨hpos, hfound⟩ := (Bool.and_eq_true _ _).mp halive
            exact ProcTable.isChild_of_found hfound (h.stored _ (State.stores_helperPid (of_decide_eq_true hpos)))
      | signalled hpc hne =>
          have hchild := h.kill _ hpc hne
          refine ⟨h.stored, fun _ _ _ => hchild, ?_⟩
          intro x hx
          rcases List.mem_append.mp hx with hx | hx
          · exact h.signals x hx
          · rw [List.mem_singleton.mp hx]
            exact hchild
      | waited _ _ hret => exact .returned hret h.stored h.signals
      | returned _ hret => exact .returned hret h.stored h.signals
      | collected _ hret =>
          refine .returned hret ?_ h.signals
          intro pid hpid
          show (w.procs.waitNoHang w.app.helperPid).2 pid ≠ .other
          rcases w.procs.waitNoHang_apply w.app.helperPid pid with heq | heq
          · rw [heq]
            exact h.stored pid hpid
          · rw [heq]
            decide
  | proc e =>
      obtain ⟨t, ht, rfl⟩ := Option.map_eq_some_iff.mp hstep
      refine ⟨?_, ?_, h.signals⟩
      · intro pid hpid
        refine ProcTable.next_ne_other ht (h.stored pid hpid) ?_
        rintro rfl
        exact hreuse hpid
      · intro k hk hne
        exact ProcTable.next_isChild ht (h.kill k hk hne)

/-- **Signals go to children.** In every run in which no number is given to another process while the app has it,
`kill_pid` sends its signals to helpers that have not been waited for. -/
theorem signals_children {others : Int → Bool} {h : List (Step Supervisor HelperEvent)}
    (hr : HelperRun rootless others h w) (hreuse : ∀ x ∈ h, NotReused x) : ∀ x ∈ w.signals, x.2.isChild := by
  have hinv : SignalInv w :=
    hr.invariant_where NotReused SignalInv (.launched others) (fun _ _ _ hw hstep hx => hw.step hstep hx) hreuse
  exact hinv.signals

/-- The app is started, and spawns `carplay_bt`, which gets the number 100. -/
def spawnedBt : List HelperEvent :=
  [.app (.ui (.primaryTapped true true)), .app (.main false), .app (.main true), .app (.main true), .app (.main true),
    .app .takeJob] ++ List.replicate 6 (.app (.bg true 0)) ++ [.spawn (some 100)]

/-- The preparation fails, and the job of `stopFlow` comes to `kill_pid` for it. -/
def failedAndStopped : List HelperEvent :=
  [.app (.bg false 0), .app (.bg false 0), .app .takeJob, .app (.bg true 0), .app (.bg true 0), .call false,
    .call false, .call false]

/-- `carplay_bt` exits behind `wait_for_pid_alive`, and is waited for in `wait_for_bt_ready_or_exit`. Then its
    number is given to another process. -/
def reusedPid : List HelperEvent :=
  spawnedBt ++ List.replicate 8 (.call false) ++
    [.proc (.exit 100), .call false, .call false, .proc (.born 100)] ++ failedAndStopped

/-- `carplay_bt` runs, there is no socket for the app, and the app stops it. -/
def stoppedBt : List HelperEvent :=
  spawnedBt ++ List.replicate 8 (.call false) ++ [.call true, .app (.bg true 0), .app (.bg false 0)] ++ failedAndStopped

/-- A helper that runs gets the `SIGTERM`. -/
theorem signals_children_stoppedBt :
    ∃ h w, HelperRun false (fun _ => false) h w ∧ w.signals = [(100, .running)] ∧ ∀ x ∈ w.signals, x.2.isChild := by
  have hexec : (exec (helperStep false) (.launched fun _ => false) stoppedBt).map (fun r =>
      decide ((∀ x ∈ r.1, NotReused x) ∧ r.2.signals = [(100, .running)])) = some true := by decide +kernel
  obtain ⟨r, hr, hend⟩ := Option.map_eq_some_iff.mp hexec
  obtain ⟨hreuse, hsignals⟩ := of_decide_eq_true hend
  exact ⟨r.1, r.2, Run.exec hr, hsignals, signals_children (Run.exec hr) hreuse⟩

/-- **The helper has been waited for**, and the `SIGTERM` goes to the process that has its number now. -/
theorem not_signals_children :
    ∃ h w, HelperRun false (fun _ => false) h w ∧ w.signals = [(100, .other)] ∧ ¬ ∀ x ∈ w.signals, x.2.isChild := by
  have hexec : (exec (helperStep false) (.launched fun _ => false) reusedPid).map (fun r => r.2.signals) =
      some [(100, .other)] := by decide +kernel
  obtain ⟨r, hr, hsignals⟩ := Option.map_eq_some_iff.mp hexec
  refine ⟨r.1, r.2, Run.exec hr, hsignals, fun h => ?_⟩
  rw [hsignals] at h
  exact absurd h (by decide)

/-! ## What a wait has seen

`WaitInv` carries a property of the helper through a run: it is asked for where a wait begins, kept while the wait
goes on, and then known of the helper that the app relies on. It is used twice, for what holds always and for what
holds when no helper exits during its wait. -/

/-- The helper that the last `wait_for_pid_alive` was about, when the block relies on it. -/
def State.checked? (s : State) : Option Int :=
  match s.running with
  | some (.prepare _ .waitBtReady) | some (.prepare _ .toPreparingNet) => some s.carplayBtPid
  | some (.prepare _ .toAwaitingPhone) => some s.carplayServicesPid
  | _ => none

/-- A helper was running at the last check of every wait that has returned YES; so was the one that the transition to
    `StatePreparingNet` or `StateAwaitingPhone` relies on. -/
structure Detected (w : Supervisor) : Prop where
  waits : ∀ x ∈ w.waits, x.yes = true → x.last = .running
  advance : ∀ pid, w.app.checked? = some pid → w.waits.getLast? = some ⟨pid, true, .running⟩

theorem entered_alive {i : Nat} (h : entered s.running = .alive i) : i = 0 := by
  unfold entered at h
  split at h
  case h_1 | h_2 => exact (CallPc.alive.inj h).symm
  all_goals cases h

/-- During a wait nothing is relied on, and nothing is spawned. -/
theorem of_entered_alive (h : entered s.running = .alive 0) : s.checked? = none ∧ s.spawns = false := by
  unfold entered at h
  split at h
  case h_1 n hrun => exact ⟨by simp only [State.checked?, hrun], by simp only [State.spawns, hrun]⟩
  case h_2 n hrun => exact ⟨by simp only [State.checked?, hrun], by simp only [State.spawns, hrun]⟩
  all_goals cases h

theorem goOn_of_alive {n : Nat} {ok : Bool} {pc : PreparePc} (h : entered (s.goOn n ok pc).running = .alive 0) :
    ok = true := by
  cases ok with
  | true => rfl
  | false => cases h

/-- **A wait begins behind a `spawn_daemon`**, and is about its process. -/
theorem alive_of_step {e : Event} (h : step rootless s e = some s') (hq : e.ofQueue = true)
    (halive : entered s'.running = .alive 0) :
    0 < s'.helperPid ∧ s.spawns = true ∧ ∃ ok, e = .bg ok s'.helperPid := by
  cases e with
  | ui e => cases hq
  | main apUp => cases hq
  | ipc i e => cases hq
  | takeJob =>
      simp only [step, takeJob] at h
      split at h
      case h_4 => cases h
      all_goals
        obtain rfl := Option.some.inj h
        cases halive
  | bg ok v =>
      simp only [step] at h
      split at h
      · cases h
      · rename_i n pc hrun
        obtain rfl := Option.some.inj h
        cases pc with
        | spawnBt | spawnServices =>
            have hv : 0 < v := of_decide_eq_true (goOn_of_alive halive)
            simp only [prepareStep, State.goOn, hv, decide_true, if_true, State.helperPid, State.spawns, hrun]
            exact ⟨trivial, trivial, ok, rfl⟩
        | unloadBluetoothd => cases rootless <;> cases halive
        | startIPCListener =>
            simp only [prepareStep] at halive
            split at halive <;> cases halive
        | unloadBlueTool | unloadBTstack | toPreparingNet | toAwaitingPhone | fail | failDispatch => cases halive
        | _ => cases ok <;> cases halive
      · rename_i pc hrun
        obtain rfl := Option.some.inj h
        cases pc with
        | findLaunchctl => cases ok <;> cases halive
        | loadBluetoothd => cases rootless <;> cases halive
        | _ => cases halive
      · obtain rfl := Option.some.inj h
        cases halive

/-- **What is relied on** has been so, or its wait has just returned. -/
theorem checked?_of_step {e : Event} {pid : Int} (h : step rootless s e = some s') (hpid : s'.checked? = some pid) :
    s.checked? = some pid ∨
      (entered s.running = .alive 0 ∧ s.helperPid = pid ∧ ∃ v, e = .bg true v) := by
  by_cases hq : e.ofQueue = true
  swap
  · have hb := step_beside h (Bool.eq_false_iff.mpr hq)
    left
    rwa [State.checked?, hb.running, hb.carplayBtPid, hb.carplayServicesPid] at hpid
  cases e with
  | ui e => cases hq
  | main apUp => cases hq
  | ipc i e => cases hq
  | takeJob =>
      simp only [step, takeJob] at h
      split at h
      case h_4 => cases h
      all_goals
        obtain rfl := Option.some.inj h
        cases hpid
  | bg ok v =>
      simp only [step] at h
      split at h
      · cases h
      · rename_i n pc hrun
        obtain rfl := Option.some.inj h
        cases pc with
        | waitBtAlive =>
            cases ok with
            | true =>
                obtain rfl : s.carplayBtPid = pid := Option.some.inj hpid
                exact .inr ⟨by rw [hrun]; rfl, by simp only [State.helperPid, hrun], v, rfl⟩
            | false => cases hpid
        | waitServicesAlive =>
            cases ok with
            | true =>
                obtain rfl : s.carplayServicesPid = pid := Option.some.inj hpid
                exact .inr ⟨by rw [hrun]; rfl, by simp only [State.helperPid, hrun], v, rfl⟩
            | false => cases hpid
        | waitBtReady =>
            cases ok with
            | true =>
                obtain rfl : s.carplayBtPid = pid := Option.some.inj hpid
                exact .inl (by simp only [State.checked?, hrun])
            | false => cases hpid
        | spawnBt | spawnServices =>
            simp only [prepareStep, State.goOn] at hpid
            by_cases hv : 0 < v
            · simp [State.checked?, hv] at hpid
            · simp [State.checked?, hv] at hpid
        | unloadBluetoothd => cases rootless <;> cases hpid
        | startIPCListener =>
            simp only [prepareStep] at hpid
            split at hpid <;> cases hpid
        | unloadBlueTool | unloadBTstack | toPreparingNet | toAwaitingPhone | fail | failDispatch => cases hpid
        | _ => cases ok <;> cases hpid
      · rename_i pc hrun
        obtain rfl := Option.some.inj h
        cases pc with
        | findLaunchctl => cases ok <;> cases hpid
        | loadBluetoothd => cases rootless <;> cases hpid
        | _ => cases hpid
      · obtain rfl := Option.some.inj h
        cases hpid

/-- The helper of a wait that has not returned, and those of the waits that have, are as `P` says. -/
structure WaitInv (P : Proc → Prop) (w : Supervisor) : Prop where
  inCall : (∃ i, w.pc = .alive i) ↔ entered w.app.running = .alive 0
  waiting : ∀ i, w.pc = .alive i → 0 < w.app.helperPid ∧ P (w.procs w.app.helperPid)
  waits : ∀ x ∈ w.waits, x.yes = true ∧ P x.last
  passed : ∀ pid, w.app.checked? = some pid → ∃ last, w.waits.getLast? = some ⟨pid, true, last⟩

section WaitInv

variable {P : Proc → Prop}

theorem WaitInv.launched (others : Int → Bool) : WaitInv P (.launched others) where
  inCall := ⟨(fun ⟨_, h⟩ => nomatch h), (fun h => nomatch h)⟩
  waiting := fun _ h => nomatch h
  waits := fun _ h => absurd h List.not_mem_nil
  passed := fun _ h => nomatch h

/-- The block goes on, when what it may wait for and what it may rely on is known. -/
theorem WaitInv.goesOn {e : Event} (h : w.appStep rootless e = some w') (hq : e.ofQueue = true)
    (hspawned : w.app.spawns = true → ∀ ok pid, e = .bg ok pid → 0 < pid → P (w.procs pid))
    (hwaits : ∀ x ∈ w.waits, x.yes = true ∧ P x.last)
    (hpassed : ∀ pid, w.app.checked? = some pid ∨
      (entered w.app.running = .alive 0 ∧ w.app.helperPid = pid ∧ ∃ v, e = .bg true v) →
        ∃ last, w.waits.getLast? = some ⟨pid, true, last⟩) : WaitInv P w' := by
  obtain ⟨hstep, hpc, hprocs, hw, -⟩ := appStep_eq h
  rw [if_pos hq] at hpc
  refine ⟨?_, ?_, by rwa [hw], ?_⟩
  · rw [hpc]
    exact ⟨fun ⟨i, hi⟩ => entered_alive hi ▸ hi, fun h0 => ⟨0, h0⟩⟩
  · intro i hi
    rw [hpc] at hi
    obtain rfl := entered_alive hi
    obtain ⟨hpos, hspawns, ok, he⟩ := alive_of_step hstep hq hi
    rw [hprocs]
    exact ⟨hpos, hspawned hspawns ok _ he hpos⟩
  · intro pid hpid
    rw [hw]
    exact hpassed pid (checked?_of_step hstep hpid)

/-- What a call returns is no process. -/
theorem WaitInv.returned {ok : Bool} (h : w.returned rootless ok = some w')
    (hwaits : ∀ x ∈ w.waits, x.yes = true ∧ P x.last)
    (hpassed : ∀ pid, w.app.checked? = some pid ∨
      (entered w.app.running = .alive 0 ∧ w.app.helperPid = pid ∧ ok = true) →
        ∃ last, w.waits.getLast? = some ⟨pid, true, last⟩) : WaitInv P w' := by
  refine .goesOn h rfl (fun _ _ _ => no_process) hwaits ?_
  rintro pid (hold | ⟨halive, hpid, v, he⟩)
  · exact hpassed pid (.inl hold)
  · exact hpassed pid (.inr ⟨halive, hpid, (Event.bg.inj he).1⟩)

/-- The block is in no wait where the calls are in none. -/
theorem WaitInv.entered_ne (h : WaitInv P w) (hout : ∀ i, w.pc ≠ .alive i) : entered w.app.running ≠ .alive 0 := by
  intro halive
  obtain ⟨i, hi⟩ := h.inCall.mpr halive
  exact hout i hi

/-- A block that waits no more goes on relying on its last wait. -/
theorem WaitInv.relied {pid : Int} {Q : Prop} (h : WaitInv P w) (hnowait : entered w.app.running ≠ .alive 0)
    (hpid : w.app.checked? = some pid ∨ (entered w.app.running = .alive 0 ∧ Q)) :
    ∃ last, w.waits.getLast? = some ⟨pid, true, last⟩ := by
  rcases hpid with hold | ⟨halive, -⟩
  · exact h.passed pid hold
  · exact absurd halive hnowait

/-- Another call goes on. -/
theorem WaitInv.inside {pc : CallPc} {signals : List (Int × Proc)} (h : WaitInv P w) (hout : ∀ i, w.pc ≠ .alive i)
    (hpc : ∀ i, pc ≠ .alive i) : WaitInv P { w with pc := pc, signals := signals } := by
  refine ⟨?_, fun i hi => absurd hi (hpc i), h.waits, h.passed⟩
  exact ⟨fun ⟨i, hi⟩ => absurd hi (hpc i), fun halive => absurd halive (h.entered_ne hout)⟩

/-- `wait_for_pid_alive` returns. It has found its process. -/
theorem WaitInv.waited {i : Nat} {yes : Bool} (hfound : ∀ p, P p → p ≠ .free) (h : WaitInv P w)
    (hpc : w.pc = .alive i) (halive : w.pidAlive = yes) (hret : (w.waited yes).returned rootless yes = some w') :
    WaitInv P w' := by
  obtain ⟨hpos, hP⟩ := h.waiting i hpc
  have hyes : w.pidAlive = true :=
    (Bool.and_eq_true _ _).mpr ⟨decide_eq_true hpos, decide_eq_true (hfound _ hP)⟩
  obtain rfl : true = yes := hyes.symm.trans halive
  refine .returned hret ?_ ?_
  · intro x hx
    rcases List.mem_append.mp hx with hx | hx
    · exact h.waits x hx
    · rw [List.mem_singleton.mp hx]
      exact ⟨rfl, hP⟩
  · rintro pid (hold | ⟨-, rfl, -⟩)
    · have hnone := (of_entered_alive (h.inCall.mp ⟨i, hpc⟩)).1
      exact nomatch hnone.symm.trans hold
    · exact ⟨w.procs w.app.helperPid, List.getLast?_concat ..⟩

/-- **A step that keeps what is known of the helper** keeps the invariant. -/
theorem WaitInv.step {x : HelperEvent} (hrunning : P .running) (hfound : ∀ p, P p → p ≠ .free) (h : WaitInv P w)
    (hstep : helperStep rootless w x = some w')
    (hkeep : ∀ i e t, w.pc = .alive i → x = .proc e → w.procs.next e = some t → P (w.procs w.app.helperPid) →
      P (t w.app.helperPid)) : WaitInv P w' := by
  cases x with
  | app e =>
      simp only [helperStep] at hstep
      split at hstep
      · cases hstep
      · rename_i hguard
        by_cases hq : e.ofQueue = true
        · have hout : w.pc = .outside ∧ w.app.spawns = false := by
            by_contra hc
            simp only [not_and_or, Bool.not_eq_false] at hc
            exact hguard ⟨hq, hc⟩
          have hnowait := h.entered_ne (fun i hi => nomatch hout.1.symm.trans hi)
          refine .goesOn hstep hq ?_ h.waits fun _ => h.relied hnowait
          intro hspawns
          exact nomatch hspawns.symm.trans hout.2
        · obtain ⟨hs, hpc, hprocs, hw, -⟩ := appStep_eq hstep
          rw [if_neg hq] at hpc
          have hb := step_beside hs (Bool.eq_false_iff.mpr hq)
          refine ⟨by rw [hpc, hb.running]; exact h.inCall, ?_, by rw [hw]; exact h.waits, ?_⟩
          · intro i hi
            rw [hprocs, hb.helperPid]
            exact h.waiting i (hpc ▸ hi)
          · intro pid hpid
            rw [State.checked?, hb.running, hb.carplayBtPid, hb.carplayServicesPid] at hpid
            rw [hw]
            exact h.passed pid hpid
  | spawn pid =>
      obtain ⟨hspawns, hstep⟩ := Option.ite_none_right_eq_some.mp hstep
      have hnowait : entered w.app.running ≠ .alive 0 := by
        intro halive
        exact nomatch hspawns.symm.trans (of_entered_alive halive).2
      cases pid with
      | none => exact .goesOn hstep rfl (fun _ _ _ => no_process) h.waits fun _ => h.relied hnowait
      | some pid =>
          obtain ⟨-, hstep⟩ := Option.ite_none_right_eq_some.mp hstep
          refine .goesOn hstep rfl ?_ h.waits fun _ => h.relied hnowait
          rintro - ok q he -
          obtain ⟨-, rfl⟩ := Event.bg.inj he
          show P (Function.update w.procs pid .running pid)
          rwa [Function.update_self]
  | call sentinel =>
      cases callStep_line hstep with
      | @alive i hpc =>
          refine ⟨?_, fun _ _ => h.waiting i hpc, h.waits, h.passed⟩
          exact ⟨fun _ => h.inCall.mp ⟨i, hpc⟩, fun _ => ⟨i + 1, rfl⟩⟩
      | ready hpc => exact h.inside (by simp [hpc]) (by simp)
      | kill hpc _ => exact h.inside (by simp [hpc]) (by simp)
      | signalled hpc _ => exact h.inside (by simp [hpc]) (by simp)
      | waited hpc halive hret => exact h.waited hfound hpc halive hret
      | returned hout hret => exact .returned hret h.waits fun _ => h.relied (h.entered_ne hout)
      | collected hout hret => exact .returned hret h.waits fun _ => h.relied (h.entered_ne hout)
  | proc e =>
      obtain ⟨t, ht, rfl⟩ := Option.map_eq_some_iff.mp hstep
      refine ⟨h.inCall, ?_, h.waits, h.passed⟩
      intro i hi
      obtain ⟨hpos, hP⟩ := h.waiting i hi
      exact ⟨hpos, hkeep i e t hi rfl ht hP⟩

end WaitInv

variable {others : Int → Bool} {h : List (Step Supervisor HelperEvent)}

/-- **The wait says YES always.** Nothing waits for a helper meanwhile, and `kill` finds one that has exited. -/
theorem waits_yes (hr : HelperRun rootless others h w) : ∀ x ∈ w.waits, x.yes = true ∧ x.last.isChild := by
  have hfound : ∀ p : Proc, p.isChild → p ≠ .free := by
    rintro _ (rfl | rfl) <;> decide
  have hinv : WaitInv Proc.isChild w :=
    hr.invariant _ (.launched others) fun _ _ _ hw hstep =>
      hw.step (.inl rfl) hfound hstep fun _ _ _ _ _ ht hP => ProcTable.next_isChild ht hP
  exact hinv.waits

/-- The helper does not exit while the app waits for it to come up. -/
def AliveInWait (x : Step Supervisor HelperEvent) : Prop :=
  match x.input, x.pre.pc with
  | .proc (.exit pid), .alive _ => pid ≠ x.pre.app.helperPid
  | _, _ => True

instance (x : Step Supervisor HelperEvent) : Decidable (AliveInWait x) := by
  unfold AliveInWait
  split <;> infer_instance

/-- **What a wait has seen.** In every run in which no helper exits during its start-up wait, the helpers were running
at the last check; the app comes to its next state with such a one. -/
theorem waits_detect (hr : HelperRun rootless others h w) (halive : ∀ x ∈ h, AliveInWait x) : Detected w := by
  have hfound : ∀ p : Proc, p = .running → p ≠ .free := by
    rintro _ rfl
    decide
  have hinv : WaitInv (· = .running) w := by
    refine hr.invariant_where AliveInWait _ (.launched others) ?_ halive
    intro v x v' hv hstep hx
    refine hv.step rfl hfound hstep ?_
    rintro i e t hi rfl ht hP
    refine ProcTable.next_running ht hP ?_
    rintro rfl
    simp [AliveInWait, hi] at hx
  refine ⟨fun x hx _ => (hinv.waits x hx).2, ?_⟩
  intro pid hpid
  obtain ⟨last, hlast⟩ := hinv.passed pid hpid
  obtain rfl : last = .running := (hinv.waits _ (List.mem_of_getLast? hlast)).2
  exact hlast

/-- `carplay_bt` has come up, and `carplay_services` gets the number 101. -/
def spawnedServices : List HelperEvent :=
  spawnedBt ++ List.replicate 8 (.call false) ++
    [.call true, .app (.bg true 0), .app (.bg true 5), .spawn (some 101)]

/-- Both helpers run. -/
theorem waits_detect_spawned :
    ∃ h w, HelperRun false (fun _ => false) h w ∧ w.app.checked? = some 101 ∧
      w.waits = [⟨100, true, .running⟩, ⟨101, true, .running⟩] ∧ Detected w := by
  have hexec : (exec (helperStep false) (.launched fun _ => false)
      (spawnedServices ++ List.replicate 4 (.call false))).map (fun r => decide ((∀ x ∈ r.1, AliveInWait x) ∧
        r.2.app.checked? = some 101 ∧ r.2.waits = [⟨100, true, .running⟩, ⟨101, true, .running⟩])) = some true := by
    decide +kernel
  obtain ⟨r, hr, hend⟩ := Option.map_eq_some_iff.mp hexec
  obtain ⟨halive, hchecked, hwaits⟩ := of_decide_eq_true hend
  exact ⟨r.1, r.2, Run.exec hr, hchecked, hwaits, waits_detect (Run.exec hr) halive⟩

/-- **`carplay_services` exits at once**, and the app comes to `StateAwaitingPhone` all the same. -/
theorem not_waits_detect :
    ∃ h w, HelperRun false (fun _ => false) h w ∧ w.app.state = .awaitingPhone ∧
      w.waits = [⟨100, true, .running⟩, ⟨101, true, .exited⟩] ∧ ¬ Detected w := by
  have hexec : (exec (helperStep false) (.launched fun _ => false)
      (spawnedServices ++ [.proc (.exit 101)] ++ List.replicate 4 (.call false) ++ [.app (.bg true 0)])).map (fun r =>
        (r.2.app.state, r.2.waits)) =
          some (.awaitingPhone, [⟨100, true, .running⟩, ⟨101, true, .exited⟩]) := by decide +kernel
  obtain ⟨r, hr, hend⟩ := Option.map_eq_some_iff.mp hexec
  obtain ⟨hstate, hwaits⟩ := Prod.mk.inj hend
  refine ⟨r.1, r.2, Run.exec hr, hstate, hwaits, fun hdetected => ?_⟩
  have hlast := hdetected.waits ⟨101, true, .exited⟩ (by simp [hwaits]) rfl
  cases hlast

end Showcase.App
