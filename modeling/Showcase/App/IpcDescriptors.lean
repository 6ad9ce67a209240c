import Showcase.App.Machine
import Showcase.Lib.Ledger

/-!
# `App.IpcDescriptors` — the descriptors of the IPC socket

An accepted descriptor is in a local variable of `ipcAcceptLoop`, in `clientFd` and in `g_touch_fd`. The thread of the
loop reads and closes it, the job of `stopFlow` closes what it finds in `clientFd`, and `send_touch` writes to what it
has found in `g_touch_fd`. `App.Machine` has a connection's end in one step; here each access to a shared variable and
each system call is one.

## Contents
- `Conn`, `FdState`, `fdStep` — the variables and the three kinds of threads.
- `FdInv` — what every run keeps: a variable holds the descriptor of a connection that is there.
- `ConnInv` — as long as nobody disturbs the loop, it owns the descriptor (`Lib.Ledger`).
- **`descriptors_once`** — the runs in which every descriptor is closed once.
- **`not_descriptors_once`** — the job of `stopFlow` finds a connection.
-/

namespace Showcase.App

open Lib

/-! ## Threads -/

/-- An accepted descriptor: its number, and how many were accepted before it. A number comes back when it has been
    closed. -/
structure Conn where
  fd : Nat
  id : Nat
deriving DecidableEq

/-- `ipcAcceptLoop`, by what it does next. -/
inductive LoopPc where
  | test
  | accept
  | setClient (c : Conn)
  | setTouch (c : Conn)
  /-- `ipcHandleConnection`. -/
  | handle (c : Conn)
  | clearTouch (c : Conn)
  | close (c : Conn)
  | clearClient
  | checkState
  | finished
deriving DecidableEq

/-- The job of `stopFlow` up to `g_touch_fd = -1`. -/
inductive StopFdPc where
  | testClient
  | closeClient
  | clearClient
  | testListen
  | closeListen
  | clearListen
  | clearTouch
deriving DecidableEq

inductive FdCall where
  | read
  | write
  | close
deriving DecidableEq

/-- The shared variables (`none` is -1), the threads, and the calls on accepted descriptors. `touch` is what
    `send_touch` has read and is about to write to. -/
structure FdState where
  listenFd : Option Nat
  clientFd : Option Conn
  touchFd : Option Conn
  loops : Nat → LoopPc
  stop : Option StopFdPc
  touch : Option Conn
  accepted : List Conn
  calls : List (FdCall × Conn)

def FdState.launched : FdState := ⟨none, none, none, fun _ => .finished, none, none, [], []⟩

/-- What a thread of `ipcAcceptLoop` sees. -/
inductive LoopEvent where
  | go
  | accepted (fd : Nat)
  | interrupted
  | acceptFailed
  /-- A `read`; the connection goes on behind it, or ends. -/
  | read (goesOn : Bool)
  /-- The state, and whether it makes the loop call `stopFlow`. -/
  | state (stops : Bool)
deriving DecidableEq

/-- `ipcAcceptLoop` and `ipcHandleConnection`. -/
def loopStep (s : FdState) : LoopPc → LoopEvent → Option (FdState × LoopPc)
  | .test, .go => some (s, if s.listenFd.isSome then .accept else .finished)
  -- it may have been entered before the job of `stopFlow` has closed `listenFd`
  | .accept, .accepted fd =>
      let c := ⟨fd, s.accepted.length⟩
      some ({ s with accepted := s.accepted ++ [c] }, .setClient c)
  | .accept, .interrupted => some (s, .test)
  | .accept, .acceptFailed => some (s, .finished)
  | .setClient c, .go => some ({ s with clientFd := some c }, .setTouch c)
  | .setTouch c, .go => some ({ s with touchFd := some c }, .handle c)
  | .handle c, .read goesOn =>
      some ({ s with calls := s.calls ++ [(.read, c)] }, if goesOn then .handle c else .clearTouch c)
  | .clearTouch c, .go => some ({ s with touchFd := none }, .close c)
  | .close c, .go => some ({ s with calls := s.calls ++ [(.close, c)] }, .clearClient)
  | .clearClient, .go => some ({ s with clientFd := none }, .checkState)
  | .checkState, .state stops => some (s, if stops then .finished else .test)
  | _, _ => none

/-- The job of `stopFlow`. `clientFd` is read for the test and again for the `close`. -/
def stopFdStep (s : FdState) : StopFdPc → FdState
  | .testClient => { s with stop := some (if s.clientFd.isSome then .closeClient else .testListen) }
  | .closeClient =>
      { s with
        calls := s.calls ++ (s.clientFd.map fun c => (FdCall.close, c)).toList
        stop := some .clearClient }
  | .clearClient => { s with clientFd := none, stop := some .testListen }
  | .testListen => { s with stop := some (if s.listenFd.isSome then .closeListen else .clearTouch) }
  | .closeListen => { s with stop := some .clearListen }
  | .clearListen => { s with listenFd := none, stop := some .clearTouch }
  | .clearTouch => { s with touchFd := none, stop := none }

/-- A step of one of the threads. -/
inductive FdEvent where
  /-- `startIPCListener`, with a new thread `i`. -/
  | startIPCListener (fd i : Nat)
  | loop (i : Nat) (e : LoopEvent)
  | stopFlow
  | stop
  /-- `send_touch` up to its `write`. -/
  | readTouch
  /-- The `write` of `send_touch`. -/
  | writeTouch
deriving DecidableEq

/-- `bgQueue` runs one block at a time, and `send_touch` is called by the main thread. -/
def fdStep (s : FdState) : FdEvent → Option FdState
  | .startIPCListener fd i =>
      if s.stop = none ∧ s.loops i = .finished then
        some { s with listenFd := some fd, loops := Function.update s.loops i .test }
      else none
  | .loop i e => (loopStep s (s.loops i) e).map fun r => { r.1 with loops := Function.update s.loops i r.2 }
  | .stopFlow => if s.stop = none then some { s with stop := some .testClient } else none
  | .stop => s.stop.map (stopFdStep s)
  | .readTouch => if s.touch = none then some { s with touch := s.touchFd } else none
  | .writeTouch => s.touch.map fun c => { s with calls := s.calls ++ [(.write, c)], touch := none }

abbrev FdRun := Lib.Run (fun s e s' => fdStep s e = some s') FdState.launched

/-! ## The property -/

/-- The descriptor in the local variable of the loop, until the loop has closed it. -/
def LoopPc.conn? : LoopPc → Option Conn
  | .setClient c | .setTouch c | .handle c | .clearTouch c | .close c => some c
  | _ => none

/-- **Closed once.** -/
structure ClosedOnce (s : FdState) : Prop where
  /-- Behind the close of a descriptor there is no call on it. -/
  unused : s.calls.Pairwise fun x y => x.1 = .close → y.2 ≠ x.2
  /-- A descriptor that no loop works on any more has been closed. -/
  closed : ∀ c ∈ s.accepted, (∀ i, (s.loops i).conn? ≠ some c) → (.close, c) ∈ s.calls
  /-- When all threads are at their end, no descriptor is in `clientFd` or `g_touch_fd`. -/
  cleared : s.stop = none → (∀ i, s.loops i = .finished) → s.clientFd = none ∧ s.touchFd = none

/-- The descriptor that the loop closes in its next step. -/
def LoopPc.closing? : LoopPc → Option Conn
  | .close c => some c
  | _ => none

/-- Nobody disturbs the loop: where the job of `stopFlow` closes `clientFd` there is nothing in it, and where the loop
closes its descriptor, `send_touch` is not about to write to it. -/
def Undisturbed (x : Step FdState FdEvent) : Prop :=
  match x.input with
  | .stop => x.pre.stop = some .closeClient → x.pre.clientFd = none
  | .loop i _ => (x.pre.loops i).closing? = none ∨ (x.pre.loops i).closing? ≠ x.pre.touch
  | _ => True

instance : DecidablePred Undisturbed
  | ⟨_, .stop, _⟩ => inferInstanceAs (Decidable (_ → _))
  | ⟨_, .loop _ _, _⟩ => inferInstanceAs (Decidable (_ ∨ _))
  | ⟨_, .startIPCListener _ _, _⟩ | ⟨_, .stopFlow, _⟩ | ⟨_, .readTouch, _⟩ | ⟨_, .writeTouch, _⟩ => .isTrue trivial

/-! ## The variables

In every run, disturbed or not, a variable that has something in it has a loop that will clear it. So nothing is left
in them when all loops have returned. -/

/-- The descriptor is in `g_touch_fd`, unless another thread has put something else there. -/
def LoopPc.touch? : LoopPc → Option Conn
  | .handle c | .clearTouch c => some c
  | _ => none

/-- Something has been put in `clientFd`, and not been taken out. -/
def LoopPc.hasClient : LoopPc → Bool
  | .setTouch _ | .handle _ | .clearTouch _ | .close _ | .clearClient => true
  | _ => false

/-- A variable holds something as long as a loop will clear it. -/
structure FdInv (s : FdState) : Prop where
  client : s.clientFd ≠ none → ∃ i, (s.loops i).hasClient = true
  touch : ∀ c, s.touchFd = some c → ∃ i, (s.loops i).touch? = some c

section Variables

variable {s s' : FdState} {e : FdEvent} {pc pc' : LoopPc} {i : Nat}

/-- What a thread of the loop does to the variables. -/
theorem loopStep_cleared {le : LoopEvent} {t : FdState} (h : loopStep s pc le = some (t, pc')) :
    (t.clientFd = none ∨ pc'.hasClient = true ∨ (t.clientFd = s.clientFd ∧ pc.hasClient = false)) ∧
      (t.touchFd = none ∨ (∃ c, t.touchFd = some c ∧ pc'.touch? = some c) ∨
        (t.touchFd = s.touchFd ∧ (pc.touch? = none ∨ pc'.touch? = pc.touch?))) := by
  unfold loopStep at h
  split at h
  case h_12 => cases h
  all_goals
    obtain ⟨rfl, rfl⟩ := Prod.mk.inj (Option.some.inj h)
  case h_7 c goesOn =>
    refine ⟨.inr (.inl ?_), .inr (.inr ⟨rfl, .inr ?_⟩)⟩
    · cases goesOn <;> rfl
    · cases goesOn <;> rfl
  all_goals
    simp [LoopPc.hasClient, LoopPc.touch?]

theorem FdInv.launched : FdInv .launched where
  client := fun h => absurd rfl h
  touch := fun _ h => nomatch h

/-- **Every step** leaves the variables to the loops. -/
theorem FdInv.step (h : FdInv s) (hstep : fdStep s e = some s') : FdInv s' := by
  cases e with
  | startIPCListener fd i =>
      obtain ⟨⟨-, hfin⟩, hs'⟩ := Option.ite_none_right_eq_some.mp hstep
      obtain rfl := Option.some.inj hs'
      -- the new thread was not in a connection
      have hkept : ∀ j, s.loops j ≠ .finished → Function.update s.loops i .test j = s.loops j := by
        intro j hj
        refine Function.update_of_ne ?_ _ _
        rintro rfl
        exact hj hfin
      constructor
      · intro hc
        obtain ⟨j, hj⟩ := h.client hc
        refine ⟨j, ?_⟩
        show (Function.update s.loops i .test j).hasClient = true
        rwa [hkept j (by rintro hj'; rw [hj'] at hj; cases hj)]
      · intro c hc
        obtain ⟨j, hj⟩ := h.touch c hc
        refine ⟨j, ?_⟩
        show (Function.update s.loops i .test j).touch? = some c
        rwa [hkept j (by rintro hj'; rw [hj'] at hj; cases hj)]
  | loop i le =>
      obtain ⟨⟨t, pc'⟩, ht, rfl⟩ := Option.map_eq_some_iff.mp hstep
      obtain ⟨hclient, htouch⟩ := loopStep_cleared ht
      constructor
      · intro hc
        show ∃ j, (Function.update s.loops i pc' j).hasClient = true
        rcases hclient with hnone | hnew | ⟨hsame, hold⟩
        · exact absurd hnone hc
        · exact ⟨i, by rw [Function.update_self, hnew]⟩
        · obtain ⟨j, hj⟩ := h.client (by rwa [← hsame])
          have hji : j ≠ i := by
            rintro rfl
            rw [hold] at hj
            cases hj
          exact ⟨j, by rw [Function.update_of_ne hji, hj]⟩
      · intro c hc
        show ∃ j, (Function.update s.loops i pc' j).touch? = some c
        rcases htouch with hnone | ⟨c', hc', hnew⟩ | ⟨hsame, hold⟩
        · exact absurd (hnone.symm.trans hc) (by simp)
        · obtain rfl := Option.some.inj (hc'.symm.trans hc)
          exact ⟨i, by rw [Function.update_self, hnew]⟩
        · obtain ⟨j, hj⟩ := h.touch c (hsame.symm.trans hc)
          by_cases hji : j = i
          · rw [hji] at hj
            refine ⟨i, ?_⟩
            rw [Function.update_self]
            rcases hold with hold | hold
            · rw [hold] at hj
              cases hj
            · rw [hold, hj]
          · exact ⟨j, by rw [Function.update_of_ne hji, hj]⟩
  | stopFlow =>
      obtain ⟨-, hs'⟩ := Option.ite_none_right_eq_some.mp hstep
      obtain rfl := Option.some.inj hs'
      exact ⟨h.client, h.touch⟩
  | stop =>
      obtain ⟨pc, -, rfl⟩ := Option.map_eq_some_iff.mp hstep
      cases pc with
      | clearClient => exact ⟨fun hc => absurd rfl hc, h.touch⟩
      | clearTouch => exact ⟨h.client, fun _ hc => nomatch hc⟩
      | _ => exact ⟨h.client, h.touch⟩
  | readTouch =>
      obtain ⟨-, hs'⟩ := Option.ite_none_right_eq_some.mp hstep
      obtain rfl := Option.some.inj hs'
      exact ⟨h.client, h.touch⟩
  | writeTouch =>
      obtain ⟨c, -, rfl⟩ := Option.map_eq_some_iff.mp hstep
      exact ⟨h.client, h.touch⟩

/-- **At the end of all threads** the variables are cleared, in every run. -/
theorem FdInv.cleared (h : FdInv s) (hfin : ∀ i, s.loops i = .finished) : s.clientFd = none ∧ s.touchFd = none := by
  constructor
  · by_contra hc
    obtain ⟨i, hi⟩ := h.client hc
    rw [hfin i] at hi
    cases hi
  · by_contra hc
    obtain ⟨c, hc⟩ := Option.ne_none_iff_exists'.mp hc
    obtain ⟨i, hi⟩ := h.touch c hc
    rw [hfin i] at hi
    cases hi

end Variables

/-! ## The descriptors

A loop holds the descriptor it has accepted until it closes it, and nobody else holds that one (`Lib.Ledger`). The
close by the job of `stopFlow` is no release by the holder; `Undisturbed` keeps it away. -/

/-- Each loop owns the descriptor it has accepted, and what `send_touch` is about to write to is open. -/
structure ConnInv (s : FdState) : Prop where
  ledger : Ledger FdCall.close (fun i => (s.loops i).conn?) s.accepted s.calls
  ids : ∀ c ∈ s.accepted, c.id < s.accepted.length
  pending : ∀ c, s.touch = some c → c ∈ s.accepted ∧ (.close, c) ∉ s.calls

section Descriptors

variable {s s' : FdState} {e : FdEvent} {pc pc' : LoopPc} {i : Nat}

/-- **A step of the loop**: it accepts a descriptor, reads from it, closes it, or does nothing with it. -/
theorem loopStep_cases {le : LoopEvent} {t : FdState} (h : loopStep s pc le = some (t, pc')) :
    t.touch = s.touch ∧
      ((∃ fd, pc.conn? = none ∧ pc'.conn? = some ⟨fd, s.accepted.length⟩ ∧
          t.accepted = s.accepted ++ [⟨fd, s.accepted.length⟩] ∧ t.calls = s.calls) ∨
        (∃ c, pc.conn? = some c ∧ pc'.conn? = some c ∧ t.accepted = s.accepted ∧ t.calls = s.calls ++ [(.read, c)]) ∨
        (∃ c, pc = .close c ∧ pc'.conn? = none ∧ t.accepted = s.accepted ∧ t.calls = s.calls ++ [(.close, c)]) ∨
        (pc'.conn? = pc.conn? ∧ t.accepted = s.accepted ∧ t.calls = s.calls)) := by
  unfold loopStep at h
  split at h
  case h_12 => cases h
  all_goals
    obtain ⟨rfl, rfl⟩ := Prod.mk.inj (Option.some.inj h)
    refine ⟨rfl, ?_⟩
  case h_1 => exact .inr (.inr (.inr ⟨by split <;> rfl, rfl, rfl⟩))
  case h_2 fd => exact .inl ⟨fd, rfl, rfl, rfl, rfl⟩
  case h_7 c goesOn => exact .inr (.inl ⟨c, rfl, by cases goesOn <;> rfl, rfl, rfl⟩)
  case h_9 c => exact .inr (.inr (.inl ⟨c, rfl, rfl, rfl, rfl⟩))
  case h_11 stops => exact .inr (.inr (.inr ⟨by cases stops <;> rfl, rfl, rfl⟩))
  all_goals exact .inr (.inr (.inr ⟨rfl, rfl, rfl⟩))

/-- What the threads hold when one of them has moved. -/
theorem held_update (loops : Nat → LoopPc) (i : Nat) (pc' : LoopPc) :
    (fun j => (Function.update loops i pc' j).conn?) =
      Function.update (fun j => (loops j).conn?) i pc'.conn? :=
  Function.comp_update LoopPc.conn? loops i pc'

theorem conn?_of_touch? {c : Conn} (h : pc.touch? = some c) : pc.conn? = some c := by
  cases pc <;> first | exact h | cases h

theorem ConnInv.launched : ConnInv .launched where
  ledger := .nil _
  ids := fun _ h => absurd h List.not_mem_nil
  pending := fun _ h => nomatch h

/-- A thread of the loop has moved. -/
theorem ConnInv.moved {t : FdState}
    (hledger : Ledger FdCall.close (Function.update (fun j => (s.loops j).conn?) i pc'.conn?) t.accepted t.calls)
    (hids : ∀ c ∈ t.accepted, c.id < t.accepted.length)
    (hpending : ∀ c, t.touch = some c → c ∈ t.accepted ∧ (.close, c) ∉ t.calls) :
    ConnInv { t with loops := Function.update s.loops i pc' } := by
  refine ⟨?_, hids, hpending⟩
  show Ledger _ (fun j => (Function.update s.loops i pc' j).conn?) t.accepted t.calls
  rw [held_update]
  exact hledger

/-- A thread of the loop, when `send_touch` is not about to write where it closes. -/
theorem ConnInv.loop (h : ConnInv s) {le : LoopEvent} {t : FdState} (ht : loopStep s (s.loops i) le = some (t, pc'))
    (hclose : (s.loops i).closing? = none ∨ (s.loops i).closing? ≠ s.touch) :
    ConnInv { t with loops := Function.update s.loops i pc' } := by
  obtain ⟨htouch, hcases⟩ := loopStep_cases ht
  have hpending : ∀ c, t.touch = some c → c ∈ s.accepted ∧ (.close, c) ∉ s.calls :=
    fun c hc => h.pending c (htouch.symm.trans hc)
  rcases hcases with ⟨fd, hnone, hpc', hacc, hcalls⟩ | ⟨c, hpc, hpc', hacc, hcalls⟩ | ⟨c, hpc, hpc', hacc, hcalls⟩ |
    ⟨hpc', hacc, hcalls⟩
  · -- a new descriptor
    have hnew : (⟨fd, s.accepted.length⟩ : Conn) ∉ s.accepted := fun hmem => Nat.lt_irrefl _ (h.ids _ hmem)
    refine .moved ?_ ?_ ?_
    · rw [hpc', hacc, hcalls]
      exact h.ledger.acquire hnone hnew
    · intro c hc
      rw [hacc] at hc ⊢
      rw [List.length_append, List.length_singleton]
      rcases List.mem_append.mp hc with hc | hc
      · exact Nat.lt_succ_of_lt (h.ids c hc)
      · rw [List.mem_singleton.mp hc]
        exact Nat.lt_succ_self _
    · intro c hc
      obtain ⟨hmem, hopen⟩ := hpending c hc
      rw [hacc, hcalls]
      exact ⟨List.mem_append_left _ hmem, hopen⟩
  · -- a `read`
    obtain ⟨hmem, hopen⟩ := h.ledger.live i c hpc
    refine .moved ?_ (hacc ▸ h.ids) ?_
    · rw [hpc', ← hpc, Function.update_eq_self, hacc, hcalls]
      exact h.ledger.use hmem hopen (by decide)
    · intro c' hc'
      obtain ⟨hmem', hopen'⟩ := hpending c' hc'
      rw [hacc, hcalls, List.mem_append, not_or]
      exact ⟨hmem', hopen', by simp⟩
  · -- the `close`
    have hheld : (s.loops i).conn? = some c := by rw [hpc]; rfl
    refine .moved ?_ (hacc ▸ h.ids) ?_
    · rw [hpc', hacc, hcalls]
      exact h.ledger.giveBack hheld
    · intro c' hc'
      obtain ⟨hmem', hopen'⟩ := hpending c' hc'
      have hne : c' ≠ c := by
        rintro rfl
        rw [hpc, htouch.symm.trans hc'] at hclose
        exact hclose.elim (fun hn => nomatch hn) (fun hn => hn rfl)
      rw [hacc, hcalls, List.mem_append, not_or]
      exact ⟨hmem', hopen', by simp [hne]⟩
  · refine .moved ?_ (hacc ▸ h.ids) ?_
    · rw [hpc', Function.update_eq_self, hacc, hcalls]
      exact h.ledger
    · rw [hacc, hcalls]
      exact hpending

/-- **A step that does not disturb the loop.** -/
theorem ConnInv.step (hvars : FdInv s) (h : ConnInv s) (hstep : fdStep s e = some s')
    (hquiet : Undisturbed ⟨s, e, s'⟩) : ConnInv s' := by
  cases e with
  | startIPCListener fd i =>
      obtain ⟨⟨-, hfin⟩, hs'⟩ := Option.ite_none_right_eq_some.mp hstep
      obtain rfl := Option.some.inj hs'
      have hkept : LoopPc.test.conn? = (s.loops i).conn? := by rw [hfin]; rfl
      show ConnInv { { s with listenFd := some fd } with loops := Function.update s.loops i .test }
      refine .moved ?_ h.ids h.pending
      rw [hkept, Function.update_eq_self]
      exact h.ledger
  | loop i le =>
      obtain ⟨⟨t, pc'⟩, ht, rfl⟩ := Option.map_eq_some_iff.mp hstep
      exact h.loop ht hquiet
  | stopFlow =>
      obtain ⟨-, hs'⟩ := Option.ite_none_right_eq_some.mp hstep
      obtain rfl := Option.some.inj hs'
      exact ⟨h.ledger, h.ids, h.pending⟩
  | stop =>
      obtain ⟨pc, hpc, rfl⟩ := Option.map_eq_some_iff.mp hstep
      cases pc with
      | closeClient =>
          -- there is nothing to close
          have hnone : s.clientFd = none := hquiet hpc
          refine ⟨?_, h.ids, ?_⟩
          · show Ledger _ (fun i => (s.loops i).conn?) s.accepted
              (s.calls ++ (s.clientFd.map fun c => (FdCall.close, c)).toList)
            rw [hnone]
            simpa using h.ledger
          · intro c hc
            show c ∈ s.accepted ∧ (.close, c) ∉ s.calls ++ (s.clientFd.map fun c => (FdCall.close, c)).toList
            rw [hnone]
            simpa using h.pending c hc
      | _ => exact ⟨h.ledger, h.ids, h.pending⟩
  | readTouch =>
      obtain ⟨-, hs'⟩ := Option.ite_none_right_eq_some.mp hstep
      obtain rfl := Option.some.inj hs'
      refine ⟨h.ledger, h.ids, ?_⟩
      intro c hc
      obtain ⟨i, hi⟩ := hvars.touch c hc
      exact h.ledger.live i c (conn?_of_touch? hi)
  | writeTouch =>
      obtain ⟨c, hc, rfl⟩ := Option.map_eq_some_iff.mp hstep
      obtain ⟨hmem, hopen⟩ := h.pending c hc
      exact ⟨h.ledger.use hmem hopen (by decide), h.ids, fun _ hc' => nomatch hc'⟩

end Descriptors

/-! ## Every run -/

/-- **Closed once.** In every run in which the job of `stopFlow` finds nothing in `clientFd` where it closes it, and
`send_touch` is not between its two steps where a loop closes its descriptor, every accepted descriptor is closed once
and not used behind that; the variables are cleared in the end. -/
theorem descriptors_once {h : List (Step FdState FdEvent)} {s : FdState} (hr : FdRun h s)
    (hquiet : ∀ x ∈ h, Undisturbed x) : ClosedOnce s := by
  have hinv : FdInv s ∧ ConnInv s :=
    hr.invariant_where Undisturbed (fun s => FdInv s ∧ ConnInv s) ⟨.launched, .launched⟩
      (fun _ _ _ hs hstep hx => ⟨hs.1.step hstep, hs.2.step hs.1 hstep hx⟩) hquiet
  obtain ⟨hvars, hconn⟩ := hinv
  refine ⟨hconn.ledger.unused, ?_, fun _ hfin => hvars.cleared hfin⟩
  intro c hc hnone
  obtain ⟨front, behind, hcalls, -⟩ := hconn.ledger.once hc hnone
  rw [hcalls]
  exact List.mem_append_right _ (List.mem_cons_self ..)

/-- A client is accepted by the thread 0, and gets a touch. -/
def acceptedClient : List FdEvent :=
  [.startIPCListener 3 0, .loop 0 .go, .loop 0 (.accepted 4), .loop 0 .go, .loop 0 .go, .readTouch, .writeTouch]

/-- A client that hangs up before the app stops. -/
def hangUpFirst : List FdEvent :=
  acceptedClient ++ [.loop 0 (.read false), .loop 0 .go, .loop 0 .go, .loop 0 .go, .loop 0 (.state true), .stopFlow,
    .stop, .stop, .stop, .stop, .stop]

/-- A client that is there when the app stops. -/
def stopFirst : List FdEvent :=
  acceptedClient ++ [.stopFlow, .stop, .stop, .stop, .loop 0 (.read false), .loop 0 .go, .loop 0 .go]

/-- The descriptor of a client that hangs up first is closed once. -/
theorem descriptors_once_hangUp :
    ∃ h s, FdRun h s ∧ s.calls = [(.write, ⟨4, 0⟩), (.read, ⟨4, 0⟩), (.close, ⟨4, 0⟩)] ∧ s.stop = none ∧
      ClosedOnce s := by
  have hexec : (exec fdStep .launched hangUpFirst).map (fun r => decide ((∀ x ∈ r.1, Undisturbed x) ∧
      r.2.calls = [(.write, ⟨4, 0⟩), (.read, ⟨4, 0⟩), (.close, ⟨4, 0⟩)] ∧ r.2.stop = none)) = some true := by decide
  obtain ⟨r, hr, hend⟩ := Option.map_eq_some_iff.mp hexec
  obtain ⟨hquiet, hcalls, hstop⟩ := of_decide_eq_true hend
  exact ⟨r.1, r.2, Run.exec hr, hcalls, hstop, descriptors_once (Run.exec hr) hquiet⟩

/-- **The app stops while a client is there**: its descriptor is closed, read from, and closed again. -/
theorem not_descriptors_once :
    ∃ h s, FdRun h s ∧
      s.calls = [(.write, ⟨4, 0⟩), (.close, ⟨4, 0⟩), (.read, ⟨4, 0⟩), (.close, ⟨4, 0⟩)] ∧ ¬ ClosedOnce s := by
  have hexec : (exec fdStep .launched stopFirst).map (fun r => r.2.calls) =
      some [(.write, ⟨4, 0⟩), (.close, ⟨4, 0⟩), (.read, ⟨4, 0⟩), (.close, ⟨4, 0⟩)] := by decide
  obtain ⟨r, hr, hcalls⟩ := Option.map_eq_some_iff.mp hexec
  refine ⟨r.1, r.2, Run.exec hr, hcalls, fun h => ?_⟩
  have hunused := h.unused
  rw [hcalls] at hunused
  exact absurd hunused (by decide)

end Showcase.App
