import Showcase.App.Machine

/-!
# `App.Transitions` — which state follows which

`stopFlow` is how a session ends, and the app must not come back from `StateStopping` other than to `StateIdle`.
`pollAP` and `ipcAcceptLoop` test the state before they act. `bgPrepareBT` and `bgPrepareNet` do not: a preparation
that is cancelled goes on, and its next `transitionTo` overrides `StateStopping`. Nor does `ipcHandleConnection` test
it when it reads a first frame.

* `Allowed` — what a step may do to the state.
* `Timely` — no `stopFlow` while a start is under way, no `startFlow` inside a `stopFlow`, and first frames in the
  states that `ipcAcceptLoop` tests for.
* `Steady` — the invariant of the runs whose steps are all timely: a preparation that goes on is still wanted, the
  stop jobs stand in front of the preparations, and a session that is shown has its helper.
* `timely_allowed` — in such runs every step does what it may.
* `cancelled_goes_on` — a cancel during `bgPrepareBT` does not.
-/

namespace Showcase.App

open Lib

/-! ## What a step may do -/

/-- The states in which `ipcAcceptLoop` ends the session. -/
def InSession (s : State) : Prop := s.state = .awaitingPhone ∨ s.state = .active

instance (s : State) : Decidable (InSession s) := inferInstanceAs (Decidable (_ ∨ _))

/-- `carplay_services` has been started, no `stopFlow` has come since the `startFlow` behind it, and no stop job
    waits or runs. -/
structure Live (s : State) : Prop where
  helper : 0 < s.carplayServicesPid
  notStopped : s.stopped < s.session
  noneQueued : .stop ∉ s.bgQueue
  noneRuns : ∀ pc, s.running ≠ some (.stop pc)

/-- The step enters `st`. -/
def Enters (x : Step State Event) (st : ShowcaseState) : Prop := x.pre.state ≠ st ∧ x.post.state = st

/-- What a step may do to the state. -/
structure Allowed (x : Step State Event) : Prop where
  /-- Only `StateIdle` follows `StateStopping`. -/
  stopping : x.pre.state = .stopping → x.post.state = .stopping ∨ x.post.state = .idle
  /-- A preparation goes on for a start that is still wanted. -/
  preparing : Enters x .preparingNet ∨ Enters x .awaitingPhone →
    ∃ n pc, x.pre.running = some (.prepare n pc) ∧ x.pre.stopped < n
  active : Enters x .active → Live x.pre

/-! ## Timely steps -/

def Job.prepares : Job → Bool
  | .prepare _ => true
  | _ => false

/-- The preparation has not failed. -/
def PreparePc.goesOn : PreparePc → Bool
  | .fail | .failDispatch => false
  | _ => true

def Running.prepares : Running → Bool
  | .prepare _ pc => pc.goesOn
  | _ => false

/-- The main thread has seen the idle state, or the access point, and has not acted on it yet. -/
def MainPc.starts : MainPc → Bool
  | .startFlow | .pollAdvance | .pollDispatch => true
  | _ => false

/-- A start is under way between its tap and the end of `bgPrepareNet`, the wait for the access point apart. -/
def State.startUnderWay (s : State) : Bool :=
  s.main.starts || s.bgQueue.any Job.prepares || s.running.any Running.prepares

/-- A step that keeps clear of what the code does not test. -/
structure Timely (x : Step State Event) : Prop where
  stops : x.pre.stops x.input = true → x.pre.startUnderWay = false
  dispatchesStop : x.pre.dispatchesStop x.input = true → x.pre.stopped = x.pre.starts
  firstFrame : x.pre.firstFrame x.input = true → InSession x.pre

instance (x : Step State Event) : Decidable (Timely x) :=
  decidable_of_iff
    ((x.pre.stops x.input = true → x.pre.startUnderWay = false) ∧
      (x.pre.dispatchesStop x.input = true → x.pre.stopped = x.pre.starts) ∧
      (x.pre.firstFrame x.input = true → InSession x.pre))
    ⟨fun h => ⟨h.1, h.2.1, h.2.2⟩, fun h => ⟨h.1, h.2, h.3⟩⟩

/-! ## The invariant

A thread acts on what it has seen some steps before. For each place of a thread the invariant says what that is, and
the rest of the module shows that no timely step of another thread takes it away. -/

/-- The start of this preparation is still wanted. -/
def Wanted (s : State) (n : Nat) : Prop := s.stopped < n ∧ n ≤ s.starts ∧ s.state ≠ .stopping

/-- The preparation has made the state `StatePreparingNet`. -/
def PreparePc.net : PreparePc → Bool
  | .startIPCListener | .spawnServices | .waitServicesAlive | .toAwaitingPhone => true
  | _ => false

/-- The preparation has started `carplay_services`. -/
def PreparePc.spawned : PreparePc → Bool
  | .waitServicesAlive | .toAwaitingPhone => true
  | _ => false

/-- What the main thread relies on. -/
def MainSteady (s : State) : MainPc → Prop
  | .startFlow => s.state ≠ .stopping
  | .pollAdvance | .pollDispatch => s.state ≠ .stopping ∧ s.stopped < s.starts
  | _ => True

/-- What a block that waits relies on. -/
def JobSteady (s : State) : Job → Prop
  | .prepare n => Wanted s n
  | .stop => ¬ InSession s
  | .exportDiagnostics => True

/-- What the block that runs relies on. -/
def RunningSteady (s : State) : Option Running → Prop
  | some (.prepare n pc) => pc.goesOn = true →
      Wanted s n ∧ .stop ∉ s.bgQueue ∧ (pc.net = true → ¬ InSession s) ∧
        (pc.spawned = true → 0 < s.carplayServicesPid ∧ s.session = n)
  | some (.stop _) => ¬ InSession s
  | _ => True

/-- **The invariant.** -/
structure Steady (s : State) : Prop where
  stopped_le : s.stopped ≤ s.starts
  session_le : s.session ≤ s.starts
  awaitingAP : s.state = .awaitingAP → s.stopped < s.starts
  session : InSession s → 0 < s.carplayServicesPid ∧ s.stopped < s.session
  main : MainSteady s s.main
  queue : ∀ j ∈ s.bgQueue, JobSteady s j
  /-- A stop job never waits behind a preparation. -/
  order : s.bgQueue.Pairwise fun a b => a.prepares = true → b ≠ .stop
  running : RunningSteady s s.running

theorem steady_launched : Steady State.launched where
  stopped_le := Nat.le_refl _
  session_le := Nat.le_refl _
  awaitingAP := fun h => nomatch h
  session := fun h => h.elim (fun h => nomatch h) (fun h => nomatch h)
  main := trivial
  queue := fun _ hj => absurd hj List.not_mem_nil
  order := .nil
  running := trivial

variable {rootless : Bool} {s s' : State}

/-! ## Steps that leave the queue and the session alone -/

/-- The state is not newly `StateStopping` or a session, and the rest stays. -/
structure Onward (s s' : State) : Prop where
  starts : s.starts ≤ s'.starts
  stopped : s'.stopped = s.stopped
  session : s'.session = s.session
  carplayServicesPid : s'.carplayServicesPid = s.carplayServicesPid
  bgQueue : s'.bgQueue = s.bgQueue
  stopping : s'.state = .stopping → s.state = .stopping
  inSession : InSession s' → InSession s

theorem Onward.refl (s : State) : Onward s s :=
  ⟨Nat.le_refl _, rfl, rfl, rfl, rfl, id, id⟩

/-- A session is only in its two states. -/
theorem not_inSession (hphone : s.state ≠ .awaitingPhone) (hactive : s.state ≠ .active) : ¬ InSession s :=
  fun hin => hin.elim hphone hactive

/-- A transition to one of the other states goes on. -/
theorem Onward.transitionTo (s : State) (st : ShowcaseState) (hstopping : st ≠ .stopping)
    (hphone : st ≠ .awaitingPhone) (hactive : st ≠ .active) : Onward s (s.transitionTo st) :=
  { Onward.refl s with
    stopping := fun hst => absurd hst hstopping
    inSession := fun hin => absurd hin (not_inSession hphone hactive) }

theorem Wanted.onward (ho : Onward s s') {n : Nat} (h : Wanted s n) : Wanted s' n := by
  obtain ⟨hstopped, hstarted, hstate⟩ := h
  exact ⟨ho.stopped ▸ hstopped, Nat.le_trans hstarted ho.starts, fun hst => hstate (ho.stopping hst)⟩

theorem MainSteady.onward (ho : Onward s s') {pc : MainPc} (h : MainSteady s pc) : MainSteady s' pc := by
  have hcounts : s.stopped < s.starts → s'.stopped < s'.starts := by
    intro hlt
    rw [ho.stopped]
    exact Nat.lt_of_lt_of_le hlt ho.starts
  cases pc with
  | startFlow => exact fun hst => h (ho.stopping hst)
  | pollAdvance => exact ⟨fun hst => h.1 (ho.stopping hst), hcounts h.2⟩
  | pollDispatch => exact ⟨fun hst => h.1 (ho.stopping hst), hcounts h.2⟩
  | _ => trivial

theorem JobSteady.onward (ho : Onward s s') {j : Job} (h : JobSteady s j) : JobSteady s' j := by
  cases j with
  | prepare n => exact Wanted.onward ho h
  | stop => exact fun hin => h (ho.inSession hin)
  | exportDiagnostics => trivial

theorem RunningSteady.onward (ho : Onward s s') {r : Option Running} (h : RunningSteady s r) :
    RunningSteady s' r := by
  cases r with
  | none => trivial
  | some r =>
      cases r with
      | prepare n pc =>
          intro hgoes
          obtain ⟨hwanted, hnone, hnet, hspawned⟩ := h hgoes
          refine ⟨hwanted.onward ho, ho.bgQueue ▸ hnone, fun hpc hin => hnet hpc (ho.inSession hin), ?_⟩
          rw [ho.carplayServicesPid, ho.session]
          exact hspawned
      | stop pc => exact fun hin => h (ho.inSession hin)
      | exportDiagnostics => trivial

/-- Such a step keeps the invariant when its own thread may be where it goes. -/
theorem Steady.onward (h : Steady s) (ho : Onward s s')
    (hawaiting : s'.state = .awaitingAP → s'.stopped < s'.starts) (hmain : MainSteady s' s'.main)
    (hrunning : RunningSteady s' s'.running) : Steady s' where
  stopped_le := by rw [ho.stopped]; exact Nat.le_trans h.stopped_le ho.starts
  session_le := by rw [ho.session]; exact Nat.le_trans h.session_le ho.starts
  awaitingAP := hawaiting
  session := by
    intro hin
    rw [ho.carplayServicesPid, ho.stopped, ho.session]
    exact h.session (ho.inSession hin)
  main := hmain
  queue := by
    intro j hj
    rw [ho.bgQueue] at hj
    exact (h.queue j hj).onward ho
  order := by rw [ho.bgQueue]; exact h.order
  running := hrunning

/-- The main thread goes on at `pc`. -/
theorem Steady.toMain (h : Steady s) {pc : MainPc} (hpc : MainSteady s pc) : Steady { s with main := pc } :=
  { h with main := hpc }

/-- The queue goes on with `r`. -/
theorem Steady.toRunning (h : Steady s) {r : Option Running} (hr : RunningSteady s r) :
    Steady { s with running := r } :=
  { h with running := hr }

/-! ## `stopFlow` -/

/-- What waits or runs when no start is under way. -/
theorem not_underWay (h : s.startUnderWay = false) :
    s.main.starts = false ∧ (∀ n, .prepare n ∉ s.bgQueue) ∧
      ∀ n pc, s.running = some (.prepare n pc) → pc.goesOn = false := by
  simp only [State.startUnderWay, Bool.or_eq_false_iff, List.any_eq_false] at h
  obtain ⟨⟨hmain, hqueue⟩, hrunning⟩ := h
  refine ⟨hmain, fun n hn => hqueue _ hn rfl, ?_⟩
  intro n pc hpc
  rw [hpc] at hrunning
  exact hrunning

/-- The transition of `stopFlow`: nothing that it would cancel is under way. -/
theorem Steady.beginStop (h : Steady s) (hno : s.startUnderWay = false) : Steady s.beginStop := by
  obtain ⟨hmain, hqueue, hrunning⟩ := not_underWay hno
  have hout : ¬ InSession s.beginStop := not_inSession (fun hst => nomatch hst) (fun hst => nomatch hst)
  exact {
    stopped_le := Nat.le_refl _
    session_le := h.session_le
    awaitingAP := fun hst => nomatch hst
    session := fun hin => absurd hin hout
    main := by
      show MainSteady s.beginStop s.main
      cases hpc : s.main with
      | startFlow => rw [hpc] at hmain; cases hmain
      | pollAdvance => rw [hpc] at hmain; cases hmain
      | pollDispatch => rw [hpc] at hmain; cases hmain
      | _ => trivial
    queue := by
      intro j hj
      cases j with
      -- no preparation waits that it would cancel
      | prepare n => exact absurd hj (hqueue n)
      | stop => exact hout
      | exportDiagnostics => trivial
    order := h.order
    running := by
      show RunningSteady s.beginStop s.running
      cases hr : s.running with
      | none => trivial
      | some r =>
          cases r with
          | prepare n pc =>
              intro hgoes
              rw [hrunning n pc hr] at hgoes
              cases hgoes
          | stop pc => exact hout
          | exportDiagnostics => trivial }

/-- A preparation that is wanted has a start behind the last `stopFlow`. -/
theorem Wanted.lt_starts {n : Nat} (h : Wanted s n) : s.stopped < s.starts :=
  Nat.lt_of_lt_of_le h.1 h.2.1

/-- The dispatch of `stopFlow`, with no `startFlow` in between. -/
theorem Steady.dispatchStop (h : Steady s) (hsame : s.stopped = s.starts) : Steady (s.dispatch .stop) := by
  have hnot : ¬ s.stopped < s.starts := by omega
  have hout : ¬ InSession s := by
    intro hin
    have hlt := (h.session hin).2
    have hle := h.session_le
    omega
  exact { h with
    queue := by
      intro j hj
      rcases List.mem_append.mp hj with hj | hj
      · exact h.queue j hj
      · rw [List.mem_singleton.mp hj]
        exact hout
    order := by
      apply List.pairwise_append.mpr
      refine ⟨h.order, List.pairwise_singleton _ _, ?_⟩
      -- a preparation in front of it would be wanted
      intro a ha b _ hprep
      cases a with
      | prepare n => exact absurd (Wanted.lt_starts (h.queue _ ha)) hnot
      | stop => cases hprep
      | exportDiagnostics => cases hprep
    running := by
      show RunningSteady _ s.running
      have hrunning := h.running
      cases hr : s.running with
      | none => trivial
      | some r =>
          rw [hr] at hrunning
          cases r with
          | prepare n pc =>
              intro hgoes
              exact absurd (hrunning hgoes).1.lt_starts hnot
          | stop pc => exact hrunning
          | exportDiagnostics => trivial }

/-- The dispatch of a block that is no stop job. -/
theorem Steady.dispatch (h : Steady s) {j : Job} (hj : JobSteady s j) (hstop : j ≠ .stop) :
    Steady (s.dispatch j) := { h with
  queue := by
    intro i hi
    rcases List.mem_append.mp hi with hi | hi
    · exact h.queue i hi
    · rw [List.mem_singleton.mp hi]
      exact hj
  order := by
    apply List.pairwise_append.mpr
    refine ⟨h.order, List.pairwise_singleton _ _, ?_⟩
    intro a _ b hb _
    rw [List.mem_singleton.mp hb]
    exact hstop
  running := by
    show RunningSteady _ s.running
    have hrunning := h.running
    cases hr : s.running with
    | none => trivial
    | some r =>
        rw [hr] at hrunning
        cases r with
        | prepare n pc =>
            intro hgoes
            obtain ⟨hwanted, hnone, hrest⟩ := hrunning hgoes
            refine ⟨hwanted, ?_, hrest⟩
            intro hmem
            rcases List.mem_append.mp hmem with hmem | hmem
            · exact hnone hmem
            · exact hstop (List.mem_singleton.mp hmem).symm
        | stop pc => exact hrunning
        | exportDiagnostics => trivial }

/-! ## One step of each thread -/

theorem uiStep_steady (h : Steady s) {e : UiEvent} (hstep : uiStep s e = some s') : Steady s' := by
  cases e with
  | primaryTapped apReady hasCars =>
      rw [uiStep] at hstep
      split at hstep
      · next hidle =>
          cases hstep
          apply h.toMain
          show s.state ≠ .stopping
          rw [hidle.1]
          decide
      · cases hstep; exact h
  | secondaryTapped => rw [uiStep] at hstep; split at hstep <;> cases hstep; exacts [h.toMain trivial, h]
  | closeTapped => cases hstep; exact h.toMain trivial
  | apPollTimer => rw [uiStep] at hstep; split at hstep <;> cases hstep; exact h.toMain trivial
  | handleBackground => rw [uiStep] at hstep; split at hstep <;> cases hstep; exacts [{ h with }, h]
  | handleForeground =>
      cases hstep
      by_cases hst : s.state = .awaitingAP
      · rw [if_pos hst]; exact { h with main := trivial }
      · rw [if_neg hst]; exact { h with main := trivial }
  | backgroundStopExpired =>
      rw [uiStep] at hstep
      split at hstep
      · cases hstep
      · cases hstep
        by_cases hst : s.state ≠ .idle ∧ s.state ≠ .stopping
        · rw [if_pos hst]; exact { h with main := trivial }
        · rw [if_neg hst]; exact { h with main := trivial }
  | exportDiagnostics => cases hstep; exact h.dispatch trivial (by decide)

/-- The main thread acts on a state that it has seen, unless a `stopFlow` intervenes. -/
theorem mainStep_steady (h : Steady s) {apUp : Bool} (hstep : mainStep s apUp = some s')
    (hstops : s.main = .stopFlow → s.startUnderWay = false)
    (hdispatches : s.main = .stopDispatch → s.stopped = s.starts) : Steady s' := by
  have hmain := h.main
  cases hpc : s.main with
  | runLoop => rw [mainStep, hpc] at hstep; cases hstep
  | startFlow =>
      rw [mainStep, hpc] at hstep
      cases hstep
      have ho : Onward s { s.transitionTo .awaitingAP with
          main := .pollAP, apPollTimer := true, starts := s.starts + 1 } :=
        { Onward.transitionTo s .awaitingAP (by decide) (by decide) (by decide) with starts := Nat.le_succ _ }
      exact h.onward ho (fun _ => Nat.lt_succ_of_le h.stopped_le) trivial (h.running.onward ho)
  | pollAP =>
      rw [mainStep, hpc] at hstep
      simp only at hstep
      split at hstep
      · cases hstep
        exact { h with main := trivial }
      · next hawaiting =>
          have hst : s.state = .awaitingAP := Decidable.not_not.mp hawaiting
          split at hstep
          · cases hstep
            have hpoll : s.state ≠ .stopping ∧ s.stopped < s.starts := ⟨by rw [hst]; decide, h.awaitingAP hst⟩
            exact { h with main := hpoll }
          · cases hstep
            exact h.toMain trivial
  | pollAdvance =>
      rw [mainStep, hpc] at hstep
      cases hstep
      rw [hpc] at hmain
      have ho : Onward s { s.transitionTo .preparingBT with main := .pollDispatch } :=
        { Onward.transitionTo s .preparingBT (by decide) (by decide) (by decide) with }
      exact h.onward ho (fun hst => nomatch hst) ⟨(fun hst => nomatch hst), hmain.2⟩ (h.running.onward ho)
  | pollDispatch =>
      rw [mainStep, hpc] at hstep
      cases hstep
      rw [hpc] at hmain
      -- the attempt is the last one, and no `stopFlow` has come since
      have hwanted : JobSteady s (.prepare s.starts) := ⟨hmain.2, Nat.le_refl _, hmain.1⟩
      exact (h.dispatch hwanted fun hstop => nomatch hstop).toMain trivial
  | stopFlow =>
      rw [mainStep, hpc] at hstep
      cases hstep
      exact (h.beginStop (hstops hpc)).toMain trivial
  | stopDispatch =>
      rw [mainStep, hpc] at hstep
      cases hstep
      exact (h.dispatchStop (hdispatches hpc)).toMain trivial

/-- A block that begins finds no stop job behind it if it is a preparation. -/
theorem takeJob_steady (h : Steady s) (hstep : takeJob s = some s') : Steady s' := by
  have hqueue := h.queue
  have horder := h.order
  unfold takeJob at hstep
  split at hstep
  case h_1 n js _ hq =>
    cases hstep
    rw [hq] at hqueue horder
    obtain ⟨hhead, htail⟩ := List.pairwise_cons.mp horder
    exact { h with
      queue := fun j hj => hqueue j (List.mem_cons_of_mem _ hj)
      order := htail
      running := fun _ =>
        ⟨hqueue _ List.mem_cons_self, fun hmem => hhead _ hmem rfl rfl, (fun hnet => nomatch hnet),
          fun hspawned => nomatch hspawned⟩ }
  case h_2 js _ hq =>
    cases hstep
    rw [hq] at hqueue horder
    exact { h with
      queue := fun j hj => hqueue j (List.mem_cons_of_mem _ hj)
      order := (List.pairwise_cons.mp horder).2
      running := hqueue _ List.mem_cons_self }
  case h_3 js _ hq =>
    cases hstep
    rw [hq] at hqueue horder
    exact { h with
      queue := fun j hj => hqueue j (List.mem_cons_of_mem _ hj)
      order := (List.pairwise_cons.mp horder).2
      running := trivial }
  case h_4 => cases hstep

/-! ## The preparations -/

/-- A preparation goes on where its facts hold; one that fails has none. -/
theorem Steady.goOn (h : Steady s) {n : Nat} {ok : Bool} {pc : PreparePc}
    (hpc : ok = true → RunningSteady s (some (.prepare n pc))) : Steady (s.goOn n ok pc) := by
  apply h.toRunning
  cases ok with
  | true => exact hpc rfl
  | false => exact fun hgoes => nomatch hgoes

/-- A step of the block that goes on takes its facts along. -/
theorem RunningSteady.next {n : Nat} {pc pc' : PreparePc} (h : RunningSteady s (some (.prepare n pc)))
    (hgoes : pc.goesOn = true) (hnet : pc'.net = true → pc.net = true)
    (hspawned : pc'.spawned = true → pc.spawned = true) : RunningSteady s (some (.prepare n pc')) := by
  obtain ⟨hwanted, hnone, hout, hsvc⟩ := h hgoes
  exact fun _ => ⟨hwanted, hnone, fun hpc => hout (hnet hpc), fun hpc => hsvc (hspawned hpc)⟩

theorem MainSteady.transitionTo {pc : MainPc} (h : MainSteady s pc) {st : ShowcaseState} (hst : st ≠ .stopping) :
    MainSteady (s.transitionTo st) pc := by
  cases pc with
  | startFlow => exact hst
  | pollAdvance => exact ⟨hst, h.2⟩
  | pollDispatch => exact ⟨hst, h.2⟩
  | _ => trivial

/-- `bgPrepareBT` in front of `bgPrepareNet`. -/
theorem toPreparingNet_steady (h : Steady s) {n : Nat} (hr : RunningSteady s (some (.prepare n .toPreparingNet))) :
    Steady ((s.transitionTo .preparingNet).goOn n true .startIPCListener) := by
  have hout : ¬ InSession (s.transitionTo .preparingNet) :=
    not_inSession (fun hst => nomatch hst) (fun hst => nomatch hst)
  have ho : Onward s (s.transitionTo .preparingNet) :=
    Onward.transitionTo s .preparingNet (by decide) (by decide) (by decide)
  have hsteady : Steady (s.transitionTo .preparingNet) :=
    h.onward ho (fun hst => nomatch hst) (h.main.onward ho) (h.running.onward ho)
  apply hsteady.goOn
  intro _ _
  obtain ⟨hwanted, hnone, -, -⟩ := hr rfl
  exact ⟨hwanted.onward ho, hnone, fun _ => hout, fun hspawned => nomatch hspawned⟩

/-- `carplay_services` is started outside a session. -/
theorem spawnServices_steady (h : Steady s) {n : Nat} (hrun : s.running = some (.prepare n .spawnServices))
    (v : Int) :
    Steady ({ s with carplayServicesPid := v, session := n }.goOn n (0 < v) .waitServicesAlive) := by
  have hr := h.running
  rw [hrun] at hr
  obtain ⟨hwanted, hnone, hnet, -⟩ := hr rfl
  -- the helper may be another one, since no session is shown
  have hout : ¬ InSession s := hnet rfl
  have hsteady : Steady { s with carplayServicesPid := v, session := n } := { h with
    session_le := hwanted.2.1
    session := fun hin => absurd hin hout
    running := by
      show RunningSteady _ s.running
      rw [hrun]
      exact fun _ => ⟨hwanted, hnone, fun _ => hout, fun hspawned => nomatch hspawned⟩ }
  apply hsteady.goOn
  intro hv _
  exact ⟨hwanted, hnone, fun _ => hout, fun _ => ⟨of_decide_eq_true hv, rfl⟩⟩

/-- The session begins with its helper, and with no stop job waiting. -/
theorem toAwaitingPhone_steady (h : Steady s) {n : Nat} (hr : RunningSteady s (some (.prepare n .toAwaitingPhone))) :
    Steady { s.transitionTo .awaitingPhone with running := none } := by
  obtain ⟨hwanted, hnone, -, hspawned⟩ := hr rfl
  obtain ⟨hhelper, hsession⟩ := hspawned rfl
  have hmain : MainSteady (s.transitionTo .awaitingPhone) s.main := h.main.transitionTo (by decide)
  exact { h with
    awaitingAP := fun hst => nomatch hst
    session := fun _ => ⟨hhelper, hsession ▸ hwanted.1⟩
    main := hmain
    queue := by
      intro j hj
      cases j with
      | prepare m =>
          obtain ⟨hstopped, hstarted, -⟩ := h.queue _ hj
          exact ⟨hstopped, hstarted, fun hst => nomatch hst⟩
      -- a stop job would end the session that begins
      | stop => exact absurd hj hnone
      | exportDiagnostics => trivial
    running := trivial }

theorem prepareStep_steady (h : Steady s) {n : Nat} {pc : PreparePc} (hrun : s.running = some (.prepare n pc))
    (ok : Bool) (v : Int) (hstops : pc = .fail → s.startUnderWay = false)
    (hdispatches : pc = .failDispatch → s.stopped = s.starts) :
    Steady (prepareStep rootless s n pc ok v) := by
  have hr := h.running
  rw [hrun] at hr
  cases pc with
  | checkRoot => exact h.goOn fun _ => hr.next rfl id id
  | findLaunchctl => exact h.goOn fun _ => hr.next rfl id id
  | unloadBluetoothd =>
      have hlog : Steady (s.launchctl .unload .bluetoothd) := { h with }
      cases rootless with
      | true => exact hlog.goOn fun _ => hr.next rfl id id
      | false => exact hlog.goOn fun _ => hr.next rfl id id
  | unloadBlueTool =>
      have hlog : Steady (s.launchctl .unload .blueTool) := { h with }
      exact hlog.goOn fun _ => hr.next rfl id id
  | unloadBTstack =>
      have hlog : Steady (s.launchctl .unload .btstack) := { h with }
      exact hlog.goOn fun _ => hr.next rfl id id
  | loadBTstack =>
      have hlog : Steady (s.launchctl .load .btstack) := { h with }
      exact hlog.goOn fun _ => hr.next rfl id id
  | waitSocket => exact h.goOn fun _ => hr.next rfl id id
  | spawnBt =>
      have hpid : Steady { s with carplayBtPid := v } := { h with }
      exact hpid.goOn fun _ => hr.next rfl id id
  | waitBtAlive => exact h.goOn fun _ => hr.next rfl id id
  | waitBtReady => exact h.goOn fun _ => hr.next rfl id id
  | toPreparingNet => exact toPreparingNet_steady h hr
  | startIPCListener =>
      rw [prepareStep]
      split
      · have hlisten : Steady { s with listenFd := v, ipc := s.ipc ++ [IpcPc.loop] } := { h with }
        exact hlisten.goOn fun _ => hr.next rfl id id
      · exact h.goOn fun _ => hr.next rfl id id
  | spawnServices => exact spawnServices_steady h hrun v
  | waitServicesAlive => exact h.goOn fun _ => hr.next rfl id id
  | toAwaitingPhone => exact toAwaitingPhone_steady h hr
  | fail => exact (h.beginStop (hstops rfl)).toRunning fun hgoes => by cases hgoes
  | failDispatch => exact (h.dispatchStop (hdispatches rfl)).toRunning trivial

/-! ## The stop job and the sockets -/

/-- A stop job ends no session that is shown. -/
theorem stopStep_steady (h : Steady s) {pc : StopPc} (hrun : s.running = some (.stop pc)) (ok : Bool) :
    Steady (stopStep rootless s pc ok) := by
  have hout := h.running
  rw [hrun] at hout
  cases pc with
  | killServices => exact { h with session := fun hin => absurd hin hout, running := hout }
  | toIdle =>
      have ho : Onward s { s.transitionTo .idle with running := none } :=
        { Onward.transitionTo s .idle (by decide) (by decide) (by decide) with }
      exact h.onward ho (fun hst => nomatch hst) (h.main.onward ho) trivial
  | _ => exact { h with running := hout }

/-- A first frame goes on with a session. -/
theorem firstFrame_steady (h : Steady s) (hin : InSession s) : Steady (s.transitionTo .active) := by
  have ho : Onward s (s.transitionTo .active) :=
    { Onward.refl s with
      stopping := fun hst => nomatch hst
      inSession := fun _ => hin }
  exact h.onward ho (fun hst => nomatch hst) (h.main.onward ho) (h.running.onward ho)

theorem ipcStep_steady (h : Steady s) {pc : IpcPc} {e : IpcEvent} {r : State × IpcPc}
    (hstep : ipcStep s pc e = some r) (hstops : pc = .stopFlow → e = .go → s.startUnderWay = false)
    (hdispatches : pc = .stopDispatch → e = .go → s.stopped = s.starts)
    (hfirst : pc = .handle true false → e = .videoFrame → InSession s) : Steady r.1 := by
  unfold ipcStep at hstep
  split at hstep
  case h_1 => cases hstep; exact h
  case h_2 => split at hstep <;> cases hstep; exact { h with }
  case h_5 =>
    split at hstep
    · next hnew =>
        cases hstep
        exact firstFrame_steady h (hfirst (by rw [hnew.1, hnew.2]) rfl)
    · cases hstep; exact h
  case h_7 => cases hstep; exact { h with }
  case h_9 => cases hstep; exact h.beginStop (hstops rfl rfl)
  case h_10 => cases hstep; exact h.dispatchStop (hdispatches rfl rfl)
  case h_11 => cases hstep
  all_goals cases hstep
  all_goals exact h

/-! ## Runs

One step of a run is a step of one thread, so `Steady` is kept by the lemmas above. What a step may do to the state is
then read off `Steady` in front of it. -/

theorem step_steady {e : Event} (h : Steady s) (hstep : step rootless s e = some s')
    (htimely : Timely ⟨s, e, s'⟩) : Steady s' := by
  obtain ⟨hstops, hdispatches, hfirst⟩ := htimely
  cases e with
  | ui e =>
      rw [step] at hstep
      split at hstep
      · exact uiStep_steady h hstep
      · cases hstep
  | main apUp =>
      exact mainStep_steady h hstep (fun hpc => hstops (decide_eq_true hpc))
        fun hpc => hdispatches (decide_eq_true hpc)
  | takeJob => exact takeJob_steady h hstep
  | bg ok v =>
      rw [step] at hstep
      split at hstep
      · cases hstep
      · next n pc hrun =>
          cases hstep
          apply prepareStep_steady h hrun ok v
          · intro hpc
            exact hstops (by simp only [State.stops, hrun, hpc])
          · intro hpc
            exact hdispatches (by simp only [State.dispatchesStop, hrun, hpc])
      · next pc hrun => cases hstep; exact stopStep_steady h hrun ok
      · cases hstep
        exact h.toRunning trivial
  | ipc i e =>
      rw [step] at hstep
      split at hstep
      · cases hstep
      · next pc hpc =>
          obtain ⟨r, hr, rfl⟩ := Option.map_eq_some_iff.mp hstep
          have hsteady : Steady r.1 := by
            apply ipcStep_steady h hr
            · intro hthread hgo
              subst hgo
              exact hstops (by simp only [State.stops, hpc, hthread, decide_true])
            · intro hthread hgo
              subst hgo
              exact hdispatches (by simp only [State.dispatchesStop, hpc, hthread, decide_true])
            · intro hthread hframe
              subst hframe
              exact hfirst (by simp only [State.firstFrame, hpc, hthread, decide_true])
          exact { hsteady with }

/-! ### The transitions of such a run -/

/-- No thread acts on a start while the state is `StateStopping`. -/
theorem stopping_next (h : Steady s) {e : Event} {st : ShowcaseState} (htrans : Transition s e st)
    (hfirst : s.firstFrame e = true → InSession s) (hst : s.state = .stopping) : st = .stopping ∨ st = .idle := by
  have hmain := h.main
  have hrunning := h.running
  cases htrans with
  | startFlow hpc =>
      rw [hpc] at hmain
      exact absurd hst hmain
  | pollAP hpc =>
      rw [hpc] at hmain
      exact absurd hst hmain.1
  | bgPrepareBT hrun =>
      rw [hrun] at hrunning
      exact absurd hst (hrunning rfl).1.2.2
  | bgPrepareNet hrun =>
      rw [hrun] at hrunning
      exact absurd hst (hrunning rfl).1.2.2
  | stopFlow _ => exact .inl rfl
  | stopJob _ => exact .inr rfl
  | ipcHandleConnection hframe =>
      rcases hfirst hframe with hin | hin
      · rw [hst] at hin; cases hin
      · rw [hst] at hin; cases hin

/-- A preparation that goes on is wanted. -/
theorem preparing_wanted (h : Steady s) {e : Event} {st : ShowcaseState} (htrans : Transition s e st)
    (hst : st = .preparingNet ∨ st = .awaitingPhone) : ∃ n pc, s.running = some (.prepare n pc) ∧ s.stopped < n := by
  have hrunning := h.running
  cases htrans with
  | @bgPrepareBT n _ _ hrun =>
      rw [hrun] at hrunning
      exact ⟨n, _, hrun, (hrunning rfl).1.1⟩
  | @bgPrepareNet n _ _ hrun =>
      rw [hrun] at hrunning
      exact ⟨n, _, hrun, (hrunning rfl).1.1⟩
  | _ =>
      rcases hst with hst | hst
      · cases hst
      · cases hst

/-- A session has its helper, and no stop job. -/
theorem session_live (h : Steady s) (hin : InSession s) : Live s := by
  obtain ⟨hhelper, hstopped⟩ := h.session hin
  refine ⟨hhelper, hstopped, fun hmem => h.queue _ hmem hin, ?_⟩
  intro pc hrun
  have hrunning := h.running
  rw [hrun] at hrunning
  exact hrunning hin

theorem steady_allowed {e : Event} (h : Steady s) (hstep : step rootless s e = some s')
    (htimely : Timely ⟨s, e, s'⟩) : Allowed ⟨s, e, s'⟩ := by
  rcases step_state hstep with hsame | htrans
  · -- a state that stays is not entered
    have hnot : ∀ st, ¬ Enters ⟨s, e, s'⟩ st := fun st hent => hent.1 (hsame ▸ hent.2)
    exact {
      stopping := fun hst => .inl (hsame.trans hst)
      preparing := fun hent => (hent.elim (hnot _) (hnot _)).elim
      active := fun hent => (hnot _ hent).elim }
  · exact {
      stopping := stopping_next h htrans htimely.firstFrame
      preparing := fun hent => preparing_wanted h htrans (hent.imp And.right And.right)
      active := by
        intro hent
        have hactive : s'.state = .active := hent.2
        rw [hactive] at htrans
        cases htrans with
        | ipcHandleConnection hframe => exact session_live h (htimely.firstFrame hframe) }

/-- **The transitions of a timely run.** Where every step is timely, `StateStopping` is followed by `StateIdle` only,
    a preparation goes on for a start that is still wanted, and the app becomes active in a session that is live. -/
theorem timely_allowed {h : List (Step State Event)} (hrun : Run rootless h s) (htimely : ∀ x ∈ h, Timely x) :
    ∀ x ∈ h, Allowed x := by
  intro x hx
  have hsteady : Steady x.pre :=
    hrun.invariant_where_pre Timely Steady steady_launched
      (fun _ _ _ hinv hstep htime => step_steady hinv hstep htime) htimely hx
  exact steady_allowed hsteady (hrun.step_of_mem hx) (htimely x hx)

/-- A session from its start to its first frame, and its end by `closeTapped`. -/
def timelySession : List Event :=
  [[.ui (.primaryTapped true true)], .replicate 4 (.main true), [.takeJob], .replicate 14 (.bg true 100),
    [.ipc 0 .go, .ipc 0 (.accepted 9), .ipc 0 (.videoConfig true true), .ipc 0 .videoFrame, .ui .closeTapped,
      .main true, .main true, .takeJob], .replicate 8 (.bg true 0)].flatten

theorem timelySession_allowed :
    ∃ h s, Run false h s ∧ (∃ x ∈ h, Enters x .active) ∧ s.state = .idle ∧ ∀ x ∈ h, Allowed x := by
  have hexec : (exec (step false) State.launched timelySession).map (fun r => decide
      ((∀ x ∈ r.1, Timely x) ∧ (∃ x ∈ r.1, x.pre.state ≠ .active ∧ x.post.state = .active) ∧ r.2.state = .idle)) =
        some true := by
    decide +kernel
  obtain ⟨r, hr, htests⟩ := Option.map_eq_some_iff.mp hexec
  obtain ⟨htimely, hactive, hidle⟩ := of_decide_eq_true htests
  exact ⟨r.1, r.2, .exec hr, hactive, hidle, timely_allowed (.exec hr) htimely⟩

/-- The user leaves for the settings while the app waits for the access point. The access point comes up, and
    the grace period runs out while `carplay_bt` powers the controller on. -/
def graceExpired : List Event :=
  [[.ui (.primaryTapped true true), .main false, .main false, .ui .handleBackground, .ui .apPollTimer],
    .replicate 3 (.main true), [.takeJob], .replicate 8 (.bg true 100),
    [.ui .backgroundStopExpired, .main true, .main true, .bg true 0, .bg true 0]].flatten

/-- **A cancelled preparation goes on.** Its next transition overrides `StateStopping`. -/
theorem cancelled_goes_on : ¬ ∀ rootless h s, Run rootless h s → ∀ x ∈ h, Allowed x := by
  intro hall
  have hexec : (exec (step false) State.launched graceExpired).map (fun r => decide
      (∃ x ∈ r.1, x.pre.state = .stopping ∧ x.post.state = .preparingNet)) = some true := by
    decide +kernel
  obtain ⟨r, hr, htests⟩ := Option.map_eq_some_iff.mp hexec
  obtain ⟨x, hx, hpre, hpost⟩ := of_decide_eq_true htests
  rcases (hall false r.1 r.2 (.exec hr) x hx).stopping hpre with hst | hst
  · rw [hpost] at hst; cases hst
  · rw [hpost] at hst; cases hst

end Showcase.App
