import Mathlib.Data.List.DropRight
import Showcase.Lib.CString
import Showcase.Lib.History
import Showcase.Services.Mdns
import Showcase.Services.Session

/-!
# `Services.CtrlChannel` — the CarPlay control channel and its thread

The phone announces `_carplay-ctrl._tcp`. The first announcement starts `ctrl_connect_thread`, which resolves the
service, connects, and keeps the channel open. `g_ctrlFound` is never cleared: later announcements only replace the
name that the thread resolves.

## Contents
- `browseCallback`, `ctrlThread` — the callback, and the thread between two blocking calls;
- `CtrlInv` — the latch, the flag and the thread in every state reached;
- **`ctrl_supervision`** — there is one thread, and nothing takes its place when it has ended;
- **`not_ctrl_supervision`** — the phone announces itself again, and nobody connects.
-/

namespace Showcase

open Lib

/-! ## The thread -/

/-- A service as the browser reports it. -/
structure CtrlService where
  ifIndex : UInt32
  name : Bytes
  regtype : Bytes
  domain : Bytes
  deriving DecidableEq

/-- `trim_dot`, with a destination of `cap` bytes. -/
def trimDot (cap : Nat) (src : Bytes) : Bytes := (src.rdropWhile (· = dot)).take (cap - 1)

/-- `ResolveResult` of a resolve that succeeded. -/
structure ResolveResult where
  host : Bytes
  port : UInt16
  deriving DecidableEq

/-- What `ctrl_connect_thread` does next. -/
inductive CtrlPc where
  /-- Phase 1: resolve, and probe what was resolved. -/
  | wait
  | probe (rr : ResolveResult)
  /-- Phase 2. -/
  | resolve (round : Nat)
  | connect (rr : ResolveResult) (round attempt : Nat)
  /-- `ctrl_send_connect`. -/
  | connected (host : Bytes)
  | send (host : Bytes)
  | response
  | channel
  /-- Behind `done:`. -/
  | done
  deriving DecidableEq

/-- The result of the blocking call that the thread is at. -/
inductive CtrlCall where
  /-- `DNSServiceResolve` and its callback: the target and the port, or nothing within 3 s. -/
  | resolve (answer : Option (Bytes × UInt16))
  /-- `try_connect`: a socket, or `errno`. -/
  | connect (result : Except Nat Unit)
  | send (sent : Int)
  /-- `recv`: no bytes are a FIN. -/
  | recv (result : Except Nat Bytes)
  /-- No call. -/
  | go
  deriving DecidableEq

/-- The globals, the running threads, and what these have done on the network. `announced` is what the browser has
    reported as present; the program keeps no such list. -/
structure CtrlState where
  announced : List CtrlService
  ctrlName : Bytes
  ctrlRegType : Bytes
  ctrlDomain : Bytes
  ctrlIfIndex : UInt32
  ctrlFound : Bool
  ctrlConnected : Bool
  threads : List CtrlPc
  attempts : List (ResolveResult × UInt32)
  sent : List Bytes
  deriving DecidableEq

def CtrlState.initial : CtrlState := ⟨[], [], [], [], 0, false, false, [], [], []⟩

def econnrefused : Nat := 61
def eagain : Nat := 35
def ctrlResolveRounds : Nat := 10
def ctrlConnectAttempts : Nat := 3
def deviceIdInt : String := "159125076739744"

/-- The request of `ctrl_send_connect`. -/
def ctrlRequest (host : Bytes) : Bytes :=
  ascii "GET /ctrl-int/1/connect HTTP/1.1\r\nHost: " ++ host ++
    ascii ("\r\nUser-Agent: AirPlay/" ++ sourceVersion ++ "\r\nAirPlay-Receiver-Device-ID: " ++ deviceIdInt ++
      "\r\n\r\n")

def ctrlOk : Bytes := ascii "HTTP/1.1 200 OK\r\nContent-Length: 0\r\n\r\n"

/-- `strstr` on the bytes received and the NUL behind them. -/
def holds (needle buf : Bytes) : Bool :=
  match strstr needle (buf ++ [0]) with
  | .found _ => true
  | _ => false

/-- `resolve_ctrl_port`. -/
def resolveCtrlPort (s : CtrlState) (answer : Option (Bytes × UInt16)) : Option ResolveResult :=
  if s.ctrlFound then answer.map fun a => ⟨trimDot 256 a.1, a.2⟩ else none

/-- The end of a round of phase 2: the next one, or all rounds are exhausted. -/
def nextRound (round : Nat) : Option CtrlPc :=
  if round < ctrlResolveRounds then some (.resolve (round + 1)) else none

/-- `ctrl_connect_thread` up to its next call; it has returned when there is none. -/
def ctrlThread (s : CtrlState) : CtrlPc → CtrlCall → Option (CtrlState × Option CtrlPc)
  | .wait, .resolve answer =>
      match resolveCtrlPort s answer with
      | none => some (s, some .wait)
      | some rr => some (s, some (.probe rr))
  | .probe rr, .connect result =>
      let s := { s with attempts := s.attempts ++ [(rr, s.ctrlIfIndex)] }
      match result with
      | .ok _ => some (s, some (.connected rr.host))
      -- the phone is on the network, and the port is stale
      | .error errno => some (s, some (if errno = econnrefused then .resolve 1 else .wait))
  | .resolve round, .resolve answer =>
      match resolveCtrlPort s answer with
      | none => some (s, nextRound round)
      | some rr => some (s, some (.connect rr round 1))
  | .connect rr round attempt, .connect result =>
      let s := { s with attempts := s.attempts ++ [(rr, s.ctrlIfIndex)] }
      match result with
      | .ok _ => some (s, some (.connected rr.host))
      | .error errno =>
          if errno = econnrefused then some (s, nextRound round)
          else if attempt < ctrlConnectAttempts then some (s, some (.connect rr round (attempt + 1)))
          else some (s, nextRound round)
  | .connected host, .go => some ({ s with ctrlConnected := true }, some (.send host))
  | .send host, .send sent =>
      some ({ s with sent := s.sent ++ [ctrlRequest host] }, some (if sent ≤ 0 then .done else .response))
  | .response, .recv result =>
      match result with
      | .ok buf =>
          if buf ≠ [] ∧ (holds (ascii "200") buf ∨ holds (ascii "OK") buf) then some (s, some .channel)
          else some (s, some .done)
      | .error _ => some (s, some .done)
  | .channel, .recv result =>
      match result with
      | .ok [] => some (s, some .done)
      | .ok (b :: _) =>
          if b = 71 ∨ b = 80 ∨ b = 72 then some ({ s with sent := s.sent ++ [ctrlOk] }, some .channel)
          else some (s, some .channel)
      | .error errno => some (s, some (if errno = eagain then .channel else .done))
  | .done, .go => some ({ s with ctrlConnected := false }, none)
  | _, _ => none

/-! ## The browser -/

/-- `browse_callback`. -/
def browseCallback (s : CtrlState) (err : Int) (add : Bool) (svc : CtrlService) : CtrlState :=
  if err ≠ 0 then s
  else if add then
    let s := { s with
      announced := if svc ∈ s.announced then s.announced else svc :: s.announced
      ctrlName := snprintf 256 svc.name, ctrlRegType := snprintf 256 svc.regtype
      ctrlDomain := snprintf 256 svc.domain, ctrlIfIndex := svc.ifIndex }
    -- only spawn the thread once
    if s.ctrlFound = false then { s with ctrlFound := true, threads := s.threads ++ [.wait] } else s
  else { s with announced := s.announced.erase svc }

/-- A callback, or the call of a running thread returns. -/
inductive CtrlInput where
  | browse (err : Int) (add : Bool) (svc : CtrlService)
  | thread (k : Nat) (call : CtrlCall)
  deriving DecidableEq

def ctrlStep (s : CtrlState) : CtrlInput → Option CtrlState
  | .browse err add svc => some (browseCallback s err add svc)
  | .thread k call =>
      match s.threads[k]? with
      | none => none
      | some pc =>
          (ctrlThread s pc call).map fun r =>
            { r.1 with threads := match r.2 with
                | some pc' => s.threads.set k pc'
                | none => s.threads.eraseIdx k }

abbrev CtrlRun := Run (fun s i s' => ctrlStep s i = some s') CtrlState.initial

/-! ## The property -/

/-- A thread returns in this step. -/
def Returns (x : Step CtrlState CtrlInput) : Prop := x.post.threads.length < x.pre.threads.length

/-- The thread is about to leave `ctrl_send_connect`, or in the last round of phase 2. -/
def MayReturn : CtrlPc → Prop
  | .done => True
  | .resolve round => ctrlResolveRounds ≤ round
  | .connect _ round _ => ctrlResolveRounds ≤ round
  | _ => False

/-- **Supervision.** -/
structure Supervised (h : List (Step CtrlState CtrlInput)) (s : CtrlState) : Prop where
  /-- There is at most one thread. -/
  one : s.threads.length ≤ 1
  /-- While a service is announced and not connected, the thread is running, or it has returned before. -/
  running : s.announced ≠ [] → s.ctrlConnected = false → s.threads ≠ [] ∨ ∃ x ∈ h, Returns x
  /-- The thread returns when the channel is closed, or all rounds are exhausted. -/
  returns : ∀ x ∈ h, Returns x → ∃ pc, x.pre.threads = [pc] ∧ MayReturn pc
  /-- Behind a return there is no thread, and no attempt to connect is made. -/
  ended : ∀ pre x post, h = pre ++ x :: post → Returns x →
    s.threads = [] ∧ s.attempts = x.post.attempts ∧ s.sent = x.post.sent

/-! ## One step -/

section Steps

variable {s s' : CtrlState} {pc : CtrlPc} {call : CtrlCall} {next : Option CtrlPc}
  {h : List (Step CtrlState CtrlInput)} {i : CtrlInput}

/-- The thread leaves the latch and the browser's services alone. -/
theorem ctrlThread_kept (hc : ctrlThread s pc call = some (s', next)) :
    s'.ctrlFound = s.ctrlFound ∧ s'.announced = s.announced := by
  unfold ctrlThread at hc
  split at hc
  case h_10 => cases hc
  all_goals
    repeat' split at hc
    all_goals
      obtain ⟨rfl, _⟩ := Prod.mk.inj (Option.some.inj hc)
      exact ⟨rfl, rfl⟩

theorem nextRound_none {round : Nat} (hn : nextRound round = none) : ctrlResolveRounds ≤ round := by
  unfold nextRound at hn
  split at hn
  · cases hn
  · exact Nat.not_lt.mp (by assumption)

/-- **Where the thread returns.** -/
theorem ctrlThread_returns (hc : ctrlThread s pc call = some (s', none)) : MayReturn pc := by
  unfold ctrlThread at hc
  split at hc
  case h_3 round answer =>
    split at hc
    · exact nextRound_none (Prod.mk.inj (Option.some.inj hc)).2
    · exact nomatch (Prod.mk.inj (Option.some.inj hc)).2
  case h_4 rr round attempt result =>
    simp only at hc
    split at hc
    · exact nomatch (Prod.mk.inj (Option.some.inj hc)).2
    split at hc
    · exact nextRound_none (Prod.mk.inj (Option.some.inj hc)).2
    split at hc
    · exact nomatch (Prod.mk.inj (Option.some.inj hc)).2
    · exact nextRound_none (Prod.mk.inj (Option.some.inj hc)).2
  case h_9 => trivial
  all_goals
    repeat' split at hc
    all_goals exact nomatch hc

/-- A callback does not touch what the threads do. It starts one when there was none before. -/
theorem browseCallback_cases (s : CtrlState) (err : Int) (add : Bool) (svc : CtrlService) :
    (browseCallback s err add svc).attempts = s.attempts ∧ (browseCallback s err add svc).sent = s.sent ∧
    (((browseCallback s err add svc).threads = s.threads ∧
        (browseCallback s err add svc).ctrlFound = s.ctrlFound ∧
        (s.ctrlFound = false → s.announced = [] → (browseCallback s err add svc).announced = [])) ∨
      (s.ctrlFound = false ∧ (browseCallback s err add svc).ctrlFound = true ∧
        (browseCallback s err add svc).threads = s.threads ++ [.wait])) := by
  unfold browseCallback
  by_cases herr : err ≠ 0
  · rw [if_pos herr]
    exact ⟨rfl, rfl, .inl ⟨rfl, rfl, fun _ ha => ha⟩⟩
  rw [if_neg herr]
  cases add with
  | false =>
      refine ⟨rfl, rfl, .inl ⟨rfl, rfl, fun _ ha => ?_⟩⟩
      show s.announced.erase svc = []
      rw [ha]
      rfl
  | true =>
      by_cases hfound : s.ctrlFound = false
      · simp [hfound]
      · simp [hfound]

/-! ## The invariant

`g_ctrlFound` is set with the first announcement and never again cleared, so there is one thread at most, and what it
has done so far can be told by its place. -/

/-- The latch stands for the thread until it returns. -/
structure CtrlInv (h : List (Step CtrlState CtrlInput)) (s : CtrlState) : Prop where
  one : s.threads.length ≤ 1
  idle : s.ctrlFound = false → s.threads = [] ∧ s.announced = [] ∧ ∀ x ∈ h, ¬ Returns x
  found : s.ctrlFound = true → s.threads ≠ [] ∨ ∃ x ∈ h, Returns x
  returns : ∀ x ∈ h, Returns x → ∃ pc, x.pre.threads = [pc] ∧ MayReturn pc
  ended : ∀ pre x post, h = pre ++ x :: post → Returns x →
    s.threads = [] ∧ s.attempts = x.post.attempts ∧ s.sent = x.post.sent

theorem CtrlInv.initial : CtrlInv [] CtrlState.initial where
  one := Nat.zero_le 1
  idle := fun _ => ⟨rfl, rfl, fun _ hx => nomatch hx⟩
  found := fun hf => nomatch hf
  returns := fun _ hx => nomatch hx
  ended := by
    intro pre x post hh
    simp at hh

/-- A callback keeps the invariant. -/
theorem CtrlInv.browse (hinv : CtrlInv h s) (err : Int) (add : Bool) (svc : CtrlService) :
    CtrlInv (h ++ [⟨s, .browse err add svc, browseCallback s err add svc⟩]) (browseCallback s err add svc) := by
  obtain ⟨hattempts, hsent, hcases⟩ := browseCallback_cases s err add svc
  have hnot : ¬ Returns ⟨s, .browse err add svc, browseCallback s err add svc⟩ := by
    unfold Returns
    rcases hcases with ⟨hthreads, _⟩ | ⟨_, _, hthreads⟩
    · simp [hthreads]
    · simp [hthreads]
  -- once a thread has returned the latch is set
  have hover : ∀ x ∈ h, Returns x → (browseCallback s err add svc).threads = s.threads := by
    intro x hx hret
    rcases hcases with ⟨hthreads, _⟩ | ⟨hfound, _⟩
    · exact hthreads
    · exact absurd hret ((hinv.idle hfound).2.2 x hx)
  refine ⟨?_, ?_, ?_, ?_, ?_⟩
  · rcases hcases with ⟨hthreads, _⟩ | ⟨hfound, _, hthreads⟩
    · rw [hthreads]
      exact hinv.one
    · rw [hthreads, (hinv.idle hfound).1]
      exact Nat.le_refl 1
  · intro hf
    rcases hcases with ⟨hthreads, hfound, hann⟩ | ⟨_, hfound, _⟩
    · rw [hfound] at hf
      obtain ⟨hnone, hempty, hno⟩ := hinv.idle hf
      refine ⟨hthreads.trans hnone, hann hf hempty, fun x hx => ?_⟩
      rcases List.mem_append.mp hx with hx | hx
      · exact hno x hx
      · rw [List.mem_singleton.mp hx]
        exact hnot
    · rw [hfound] at hf
      cases hf
  · intro hf
    rcases hcases with ⟨hthreads, hfound, _⟩ | ⟨_, _, hthreads⟩
    · rw [hfound] at hf
      rcases hinv.found hf with hne | ⟨x, hx, hret⟩
      · exact .inl (hthreads ▸ hne)
      · exact .inr ⟨x, List.mem_append_left _ hx, hret⟩
    · exact .inl (by simp [hthreads])
  · intro x hx hret
    rcases List.mem_append.mp hx with hx | hx
    · exact hinv.returns x hx hret
    · rw [List.mem_singleton.mp hx] at hret
      exact absurd hret hnot
  · intro pre x post hh hret
    rcases snoc_eq_append_cons hh with ⟨_, rfl, _⟩ | ⟨post', _, hh'⟩
    · exact absurd hret hnot
    · obtain ⟨hnone, ha, hs⟩ := hinv.ended pre x post' hh' hret
      have hx : x ∈ h := hh' ▸ by simp
      exact ⟨(hover x hx hret).trans hnone, hattempts.trans ha, hsent.trans hs⟩

/-- A step of the only thread. -/
theorem ctrlStep_thread {k : Nat} (hone : s.threads.length ≤ 1) (hstep : ctrlStep s (.thread k call) = some s') :
    ∃ pc t next, s.threads = [pc] ∧ ctrlThread s pc call = some (t, next) ∧
      s' = { t with threads := next.toList } := by
  rw [ctrlStep] at hstep
  cases hk : s.threads[k]? with
  | none =>
      rw [hk] at hstep
      cases hstep
  | some pc =>
      rw [hk] at hstep
      obtain ⟨⟨t, next⟩, hc, rfl⟩ := Option.map_eq_some_iff.mp hstep
      have hlt := (List.getElem?_eq_some_iff.mp hk).1
      obtain ⟨pc', hpc'⟩ := List.length_eq_one_iff.mp (show s.threads.length = 1 by omega)
      obtain rfl : k = 0 := by omega
      rw [hpc'] at hk
      obtain rfl := Option.some.inj hk
      refine ⟨pc', t, next, hpc', hc, ?_⟩
      cases next with
      | none => simp [hpc']
      | some pc'' => simp [hpc']

/-- A step of the thread keeps the invariant. -/
theorem CtrlInv.thread {k : Nat} (hinv : CtrlInv h s) (hstep : ctrlStep s (.thread k call) = some s') :
    CtrlInv (h ++ [⟨s, .thread k call, s'⟩]) s' := by
  obtain ⟨pc, t, next, hthreads, hc, rfl⟩ := ctrlStep_thread hinv.one hstep
  obtain ⟨hfound, hann⟩ := ctrlThread_kept hc
  -- a thread is running, so none has returned before, and the latch is set
  have hno : ∀ x ∈ h, ¬ Returns x := by
    intro x hx hret
    obtain ⟨pre, post, hh⟩ := List.append_of_mem hx
    have hnone := (hinv.ended pre x post hh hret).1
    simp [hthreads] at hnone
  have hset : s.ctrlFound = true := by
    cases hf : s.ctrlFound with
    | true => rfl
    | false => simp [(hinv.idle hf).1] at hthreads
  have hret_iff : Returns ⟨s, .thread k call, { t with threads := next.toList }⟩ ↔ next = none := by
    cases next with
    | none => simp [Returns, hthreads]
    | some pc' => simp [Returns, hthreads]
  refine ⟨?_, ?_, ?_, ?_, ?_⟩
  · exact Option.length_toList_le
  · intro hf
    simp [hfound, hset] at hf
  · intro _
    cases next with
    | some pc' => exact .inl (by simp)
    | none => exact .inr ⟨_, List.mem_append_right _ (List.mem_singleton_self _), hret_iff.mpr rfl⟩
  · intro x hx hret
    rcases List.mem_append.mp hx with hx | hx
    · exact absurd hret (hno x hx)
    · obtain rfl := List.mem_singleton.mp hx
      obtain rfl := hret_iff.mp hret
      exact ⟨pc, hthreads, ctrlThread_returns hc⟩
  · intro pre x post hh hret
    rcases snoc_eq_append_cons hh with ⟨_, rfl, _⟩ | ⟨post', _, hh'⟩
    · obtain rfl := hret_iff.mp hret
      exact ⟨rfl, rfl, rfl⟩
    · exact absurd hret (hno x (hh' ▸ by simp))

theorem CtrlInv.step (hinv : CtrlInv h s) (hstep : ctrlStep s i = some s') : CtrlInv (h ++ [⟨s, i, s'⟩]) s' := by
  cases i with
  | browse err add svc =>
      obtain rfl := Option.some.inj hstep
      exact hinv.browse err add svc
  | thread k call => exact hinv.thread hstep

end Steps

theorem ctrlInv_run {h : List (Step CtrlState CtrlInput)} {s : CtrlState} (hr : CtrlRun h s) : CtrlInv h s :=
  hr.induction (fun _ => True) CtrlInv CtrlInv.initial (fun _ _ _ _ _ hinv hstep _ => hinv.step hstep)
    fun _ _ => trivial

/-- **Supervision of the control channel**, in every state reached: one thread at most, which the first announcement
    has started and no other one replaces. -/
theorem ctrl_supervision {h : List (Step CtrlState CtrlInput)} {s : CtrlState} (hr : CtrlRun h s) :
    Supervised h s := by
  have hinv := ctrlInv_run hr
  refine ⟨hinv.one, ?_, hinv.returns, hinv.ended⟩
  intro hann _
  refine hinv.found ?_
  -- nothing is announced before the latch is set
  cases hf : s.ctrlFound with
  | true => rfl
  | false => exact absurd (hinv.idle hf).2.1 hann

/-! ## The phone comes back -/

/-- The service of a phone. -/
def phoneService : CtrlService := ⟨15, ascii "iPhone", ascii "_carplay-ctrl._tcp.", ascii "local."⟩

/-- The phone is found and connected, answers, closes the channel, and announces itself again. -/
def returningPhone : List CtrlInput :=
  [.browse 0 true phoneService, .thread 0 (.resolve (some (ascii "iphone.local.", 7000))),
    .thread 0 (.connect (.ok ())), .thread 0 .go, .thread 0 (.send 150),
    .thread 0 (.recv (.ok (ascii "HTTP/1.1 200 OK\r\n\r\n"))), .thread 0 (.recv (.ok [])), .thread 0 .go,
    .browse 0 false phoneService, .browse 0 true phoneService]

/-- There is a run of these inputs, at whose end the service is announced, and neither connected nor being connected
    to. -/
theorem returningPhone_run :
    ∃ h s, CtrlRun h s ∧ s.announced = [phoneService] ∧ s.ctrlConnected = false ∧ s.threads = [] ∧
      s.attempts.length = 1 := by
  have hexec : (exec ctrlStep CtrlState.initial returningPhone).map (fun r => decide (r.2.announced = [phoneService] ∧
      r.2.ctrlConnected = false ∧ r.2.threads = [] ∧ r.2.attempts.length = 1)) = some true := by decide +kernel
  obtain ⟨r, hr, hend⟩ := Option.map_eq_some_iff.mp hexec
  exact ⟨r.1, r.2, Run.exec hr, of_decide_eq_true hend⟩

theorem ctrl_supervision_returningPhone :
    ∃ h s, CtrlRun h s ∧ s.announced = [phoneService] ∧ Supervised h s := by
  obtain ⟨h, s, hr, hann, _⟩ := returningPhone_run
  exact ⟨h, s, hr, hann, ctrl_supervision hr⟩

theorem not_ctrl_supervision :
    ¬ ∀ h s, CtrlRun h s →
      s.threads.length ≤ 1 ∧ (s.announced ≠ [] → s.ctrlConnected = false → s.threads ≠ []) := by
  intro hclaim
  obtain ⟨h, s, hr, hann, hconn, hnone, _⟩ := returningPhone_run
  exact (hclaim h s hr).2 (by simp [hann]) hconn hnone

end Showcase
