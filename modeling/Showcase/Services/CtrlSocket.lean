import Mathlib.Logic.Function.Iterate
import Showcase.Services.CtrlChannel

/-!
# `Services.CtrlSocket` — the socket of the control channel

`ctrl_send_connect` gets a connected socket and closes it behind `done:`, where all its exits meet. One of them has
closed it before.

## Contents
- `CtrlSock`, `ctrlSockStep` — the function between two calls, with the calls that have been made on its socket.
- `ctrlSockStep_refines` — the thread of `Services.CtrlChannel` does the same.
- `Owned` — the socket is closed once, and not used behind that.
- `CtrlSockInv` — what holds while the request has been sent.
- **`ctrl_socket_iff`** — whatever the calls return, the socket is closed once exactly when the request is sent.
-/

namespace Showcase

open Lib

/-! ## The function -/

/-- A call on the socket. -/
inductive SockCall where
  | send (data : Bytes)
  | recv
  | setsockopt
  | close
deriving DecidableEq

/-- The next line with a call on the socket, or with `g_ctrlConnected`. -/
inductive CtrlSockPc where
  | connected
  | request
  /-- `if (sent <= 0) { close(sock); goto done; }` -/
  | notSent
  | keepalive
  | responseTimeout
  | response
  | channelTimeout
  | channel
  | reply
  /-- `done:`, and the line behind the `close`. -/
  | done
  | disconnected
  | returned
deriving DecidableEq

/-- What the calls return: the `k`-th `send`, and the `k`-th `recv`. No bytes are a FIN. -/
structure SockResults where
  send : Nat → Int
  recv : Nat → Except Nat Bytes

/-- The function, `g_ctrlConnected`, and the calls on the socket. -/
structure CtrlSock where
  pc : CtrlSockPc
  connected : Bool
  calls : List SockCall
  sends : Nat
  recvs : Nat
deriving DecidableEq

/-- A call of the function. -/
def CtrlSock.entry (connected : Bool) : CtrlSock := ⟨.connected, connected, [], 0, 0⟩

/-- Behind the call at the present line. -/
def CtrlSock.called (c : CtrlSock) (call : SockCall) (pc : CtrlSockPc) : CtrlSock :=
  { c with
    pc := pc
    calls := c.calls ++ [call]
    sends := match call with
      | .send _ => c.sends + 1
      | _ => c.sends
    recvs := match call with
      | .recv => c.recvs + 1
      | _ => c.recvs }

/-- Where the first answer of the phone leads to. -/
def afterResponse : Except Nat Bytes → CtrlSockPc
  | .ok buf => if buf ≠ [] ∧ (holds (ascii "200") buf ∨ holds (ascii "OK") buf) then .channelTimeout else .done
  | .error _ => .done

/-- Where later answers lead to. -/
def afterChannel : Except Nat Bytes → CtrlSockPc
  | .ok [] => .done
  | .ok (b :: _) => if b = 71 ∨ b = 80 ∨ b = 72 then .reply else .channel
  | .error errno => if errno = eagain then .channel else .done

/-- `ctrl_send_connect` from one line to the next. -/
def ctrlSockStep (host : Bytes) (r : SockResults) (c : CtrlSock) : CtrlSock :=
  match c.pc with
  | .connected => { c with pc := .request, connected := true }
  | .request => c.called (.send (ctrlRequest host)) (if r.send c.sends ≤ 0 then .notSent else .keepalive)
  | .notSent => c.called .close .done
  | .keepalive => c.called .setsockopt .responseTimeout
  | .responseTimeout => c.called .setsockopt .response
  | .response => c.called .recv (afterResponse (r.recv c.recvs))
  | .channelTimeout => c.called .setsockopt .channel
  | .channel => c.called .recv (afterChannel (r.recv c.recvs))
  | .reply => c.called (.send ctrlOk) .channel
  | .done => c.called .close .disconnected
  | .disconnected => { c with pc := .returned, connected := false }
  | .returned => c

/-- The function after `n` lines. -/
def ctrlSockAt (host : Bytes) (r : SockResults) (connected : Bool) (n : Nat) : CtrlSock :=
  (ctrlSockStep host r)^[n] (.entry connected)

/-! ## The property -/

/-- **Ownership of the socket.** -/
structure Owned (c : CtrlSock) : Prop where
  /-- There is no call on the descriptor behind a `close`. -/
  unused : ∀ front behind, c.calls = front ++ .close :: behind → behind = []
  /-- The descriptor has been closed when the function returns. -/
  closed : c.pc = .returned → .close ∈ c.calls
  /-- The channel is not connected when the function returns. -/
  cleared : c.pc = .returned → c.connected = false

/-! ## The thread -/

/-- Where the thread is, while the function is at a line. -/
def CtrlSockPc.thread (host : Bytes) : CtrlSockPc → Option CtrlPc
  | .connected => some (.connected host)
  | .request => some (.send host)
  | .keepalive | .responseTimeout | .response => some .response
  | .channelTimeout | .channel | .reply => some .channel
  | .notSent | .done | .disconnected => some .done
  | .returned => none

/-- The bytes sent so far, with an answer that is about to be sent. -/
def CtrlSock.sent (c : CtrlSock) : List Bytes :=
  c.calls.filterMap (fun
    | .send data => some data
    | _ => none) ++ (if c.pc = .reply then [ctrlOk] else [])

/-- The thread in its globals, with what it had sent before the function was called. -/
def CtrlSock.globals (s : CtrlState) (c : CtrlSock) : CtrlState :=
  { s with ctrlConnected := c.connected, sent := s.sent ++ c.sent }

/-- The thread and its globals behind a call. -/
theorem globals_called (s : CtrlState) (c : CtrlSock) (call : SockCall) (pc : CtrlSockPc) (hreply : c.pc ≠ .reply) :
    (c.called call pc).globals s =
      { c.globals s with sent := (c.globals s).sent ++ (match call with
          | .send data => [data]
          | _ => []) ++ (if pc = .reply then [ctrlOk] else []) } := by
  unfold CtrlSock.globals CtrlSock.sent CtrlSock.called
  rw [if_neg hreply, List.filterMap_append, List.append_nil]
  cases call <;> simp

/-- **Simulation.** A line of the function is a step of the thread, or the thread does not move. -/
theorem ctrlSockStep_refines (host : Bytes) (r : SockResults) (s : CtrlState) (c : CtrlSock) {pc : CtrlPc}
    (hpc : c.pc.thread host = some pc) :
    ((ctrlSockStep host r c).pc.thread host = some pc ∧
        (ctrlSockStep host r c).globals s = c.globals s) ∨
      ∃ call, ctrlThread (c.globals s) pc call =
        some ((ctrlSockStep host r c).globals s, (ctrlSockStep host r c).pc.thread host) := by
  have hcalled := globals_called s c
  -- a call that sends nothing
  have hquiet : ∀ call pc', c.pc ≠ .reply → pc' ≠ .reply → (∀ data, call ≠ .send data) →
      (c.called call pc').globals s = c.globals s := by
    intro call pc' hreply hreply' hsend
    rw [hcalled call pc' hreply, if_neg hreply']
    cases call with
    | send data => exact absurd rfl (hsend data)
    | recv => simp
    | setsockopt => simp
    | close => simp
  cases hc : c.pc with
  | connected =>
      obtain rfl := Option.some.inj ((congrArg (CtrlSockPc.thread host) hc).symm.trans hpc)
      refine .inr ⟨.go, ?_⟩
      simp [ctrlSockStep, ctrlThread, hc, CtrlSock.globals, CtrlSock.sent, CtrlSockPc.thread]
  | request =>
      obtain rfl := Option.some.inj ((congrArg (CtrlSockPc.thread host) hc).symm.trans hpc)
      refine .inr ⟨.send (r.send c.sends), ?_⟩
      have hreply : c.pc ≠ .reply := by rw [hc]; decide
      simp only [ctrlSockStep, hc, hcalled _ _ hreply, ctrlThread]
      split
      · simp [CtrlSock.called, CtrlSockPc.thread]
      · simp [CtrlSock.called, CtrlSockPc.thread]
  | response =>
      obtain rfl := Option.some.inj ((congrArg (CtrlSockPc.thread host) hc).symm.trans hpc)
      refine .inr ⟨.recv (r.recv c.recvs), ?_⟩
      have hreply : c.pc ≠ .reply := by rw [hc]; decide
      have hafter : afterResponse (r.recv c.recvs) ≠ .reply := by
        unfold afterResponse
        repeat' split
        all_goals decide
      simp only [ctrlSockStep, hc, hquiet .recv _ hreply hafter (fun _ h => by cases h), ctrlThread]
      cases r.recv c.recvs with
      | error errno => simp [CtrlSock.called, CtrlSockPc.thread, afterResponse]
      | ok buf =>
          simp only [CtrlSock.called, afterResponse]
          split
          · rfl
          · rfl
  | channel =>
      obtain rfl := Option.some.inj ((congrArg (CtrlSockPc.thread host) hc).symm.trans hpc)
      refine .inr ⟨.recv (r.recv c.recvs), ?_⟩
      have hreply : c.pc ≠ .reply := by rw [hc]; decide
      simp only [ctrlSockStep, hc, hcalled _ _ hreply, ctrlThread]
      rcases r.recv c.recvs with errno | _ | ⟨b, buf⟩
      · by_cases he : errno = eagain <;> simp [CtrlSock.called, CtrlSockPc.thread, afterChannel, he]
      · simp [CtrlSock.called, CtrlSockPc.thread, afterChannel]
      · by_cases hb : b = 71 ∨ b = 80 ∨ b = 72 <;> simp [CtrlSock.called, CtrlSockPc.thread, afterChannel, hb]
  | disconnected =>
      obtain rfl := Option.some.inj ((congrArg (CtrlSockPc.thread host) hc).symm.trans hpc)
      refine .inr ⟨.go, ?_⟩
      simp [ctrlSockStep, ctrlThread, hc, CtrlSock.globals, CtrlSock.sent, CtrlSockPc.thread]
  | reply =>
      -- the answer counts as sent since it has been decided on
      refine .inl ⟨?_, ?_⟩
      · rw [← hpc, hc]
        simp [ctrlSockStep, hc, CtrlSock.called, CtrlSockPc.thread]
      · simp [ctrlSockStep, hc, CtrlSock.globals, CtrlSock.sent, CtrlSock.called]
  | returned =>
      rw [hc] at hpc
      cases hpc
  | notSent | keepalive | responseTimeout | channelTimeout | done =>
      refine .inl ⟨?_, ?_⟩
      · rw [← hpc, hc]
        simp [ctrlSockStep, hc, CtrlSock.called, CtrlSockPc.thread]
      · simp only [ctrlSockStep, hc]
        exact hquiet _ _ (by rw [hc]; decide) (by decide) (fun _ h => by cases h)

/-! ## The invariant

When the request is sent, the place of the function tells whether the socket has been closed, and then the `close` was
the last call on it. -/

/-- Where the socket is open. -/
def CtrlSockPc.isOpen : CtrlSockPc → Bool
  | .disconnected | .returned => false
  | _ => true

/-- Behind the request, with the socket open. -/
def CtrlSockPc.behindRequest : CtrlSockPc → Bool
  | .connected | .request | .notSent => false
  | pc => pc.isOpen

/-- The function on its way, when the request is sent. -/
structure CtrlSockInv (c : CtrlSock) : Prop where
  first : c.pc = .connected ∨ c.pc = .request → c.sends = 0
  sent : c.pc ≠ .notSent
  opened : c.pc.isOpen → .close ∉ c.calls
  closed : c.pc.isOpen = false → ∃ front, c.calls = front ++ [.close] ∧ .close ∉ front
  cleared : c.pc = .returned → c.connected = false

theorem CtrlSockInv.entry (connected : Bool) : CtrlSockInv (.entry connected) where
  first := fun _ => rfl
  sent := fun h => nomatch h
  opened := fun _ h => absurd h List.not_mem_nil
  closed := fun h => nomatch h
  cleared := fun h => nomatch h

section Steps

variable {host : Bytes} {r : SockResults} {c : CtrlSock}

theorem isOpen_of_behindRequest {pc : CtrlSockPc} (h : pc.behindRequest = true) : pc.isOpen = true := by
  cases pc <;> first | rfl | cases h

/-- A call that leaves the socket open. -/
theorem CtrlSockInv.called (h : CtrlSockInv c) (hopen : c.pc.isOpen) {call : SockCall} {pc : CtrlSockPc}
    (hcall : call ≠ .close) (hpc : pc.behindRequest = true) : CtrlSockInv (c.called call pc) where
  first := fun hp => by
    have hp : pc = .connected ∨ pc = .request := hp
    rcases hp with rfl | rfl
    · cases hpc
    · cases hpc
  sent := fun hp => by
    have hp : pc = .notSent := hp
    rw [hp] at hpc
    cases hpc
  opened := fun _ hmem => by
    rcases List.mem_append.mp hmem with hmem | hmem
    · exact h.opened hopen hmem
    · exact hcall (List.mem_singleton.mp hmem).symm
  closed := fun hp => absurd ((isOpen_of_behindRequest hpc).symm.trans hp) (by decide)
  cleared := fun hp => by
    have hp : pc = .returned := hp
    rw [hp] at hpc
    cases hpc

theorem afterResponse_behindRequest (result : Except Nat Bytes) : (afterResponse result).behindRequest = true := by
  unfold afterResponse
  repeat' split
  all_goals rfl

theorem afterChannel_behindRequest (result : Except Nat Bytes) : (afterChannel result).behindRequest = true := by
  unfold afterChannel
  repeat' split
  all_goals rfl

/-- **A line keeps the invariant** when the request is sent. -/
theorem CtrlSockInv.step (hsend : 0 < r.send 0) (h : CtrlSockInv c) : CtrlSockInv (ctrlSockStep host r c) := by
  unfold ctrlSockStep
  split
  next hc =>
    exact ⟨fun _ => h.first (.inl hc), by simp, fun _ => h.opened (by rw [hc]; rfl), by simp [CtrlSockPc.isOpen],
      by simp⟩
  next hc =>
    have hpos : ¬ r.send c.sends ≤ 0 := by
      rw [h.first (.inr hc)]
      exact not_le.mpr hsend
    rw [if_neg hpos]
    exact h.called (by rw [hc]; rfl) (by simp) rfl
  next hc => exact absurd hc h.sent
  next hc => exact h.called (by rw [hc]; rfl) (by simp) rfl
  next hc => exact h.called (by rw [hc]; rfl) (by simp) rfl
  next hc => exact h.called (by rw [hc]; rfl) (by simp) (afterResponse_behindRequest _)
  next hc => exact h.called (by rw [hc]; rfl) (by simp) rfl
  next hc => exact h.called (by rw [hc]; rfl) (by simp) (afterChannel_behindRequest _)
  next hc => exact h.called (by rw [hc]; rfl) (by simp) rfl
  next hc =>
    -- the only `close`
    have hnone := h.opened (by rw [hc]; rfl)
    exact ⟨by simp [CtrlSock.called], by simp [CtrlSock.called], by simp [CtrlSock.called, CtrlSockPc.isOpen],
      fun _ => ⟨c.calls, rfl, hnone⟩, by simp [CtrlSock.called]⟩
  next hc =>
    exact ⟨by simp, by simp, by simp [CtrlSockPc.isOpen], fun _ => h.closed (by rw [hc]; rfl), fun _ => rfl⟩
  next hc => exact h

/-- The socket is closed once, and nothing comes behind that. -/
theorem CtrlSockInv.owned (h : CtrlSockInv c) : Owned c where
  unused := by
    intro front behind hcalls
    cases hopen : c.pc.isOpen with
    | true => exact absurd (by rw [hcalls]; simp) (h.opened hopen)
    | false =>
        obtain ⟨front', hcalls', hnone⟩ := h.closed hopen
        rw [hcalls'] at hcalls
        rcases snoc_eq_append_cons hcalls with ⟨-, -, hbehind⟩ | ⟨behind', -, hfront⟩
        · exact hbehind
        · exact absurd (by rw [hfront]; simp) hnone
  closed := fun hret => by
    obtain ⟨front, hcalls, -⟩ := h.closed (by rw [hret]; rfl)
    rw [hcalls]
    simp
  cleared := h.cleared

/-- When the request is not sent, the function has returned after five lines. -/
theorem ctrlSockAt_notSent (host : Bytes) (connected : Bool) (hsend : r.send 0 ≤ 0) :
    ctrlSockAt host r connected 5 = ⟨.returned, false, [.send (ctrlRequest host), .close, .close], 1, 0⟩ := by
  have hrequest : ctrlSockStep host r ⟨.request, true, [], 0, 0⟩ =
      ⟨.notSent, true, [.send (ctrlRequest host)], 1, 0⟩ := by
    simp only [ctrlSockStep, if_pos hsend]
    rfl
  show ctrlSockStep host r (ctrlSockStep host r (ctrlSockStep host r (ctrlSockStep host r
    ⟨.request, true, [], 0, 0⟩))) = _
  rw [hrequest]
  rfl

end Steps

/-- **The socket of the control channel.** Whatever the calls on it return, at every line and when it returns, the
function has closed its socket at most once and not used it behind that, and leaves it closed and not connected, if
and only if the request was sent. -/
theorem ctrl_socket_iff (host : Bytes) (r : SockResults) (connected : Bool) :
    (∀ n, Owned (ctrlSockAt host r connected n)) ↔ 0 < r.send 0 := by
  constructor
  · intro h
    by_contra hsend
    have hunused := (h 5).unused
    rw [ctrlSockAt_notSent host connected (not_lt.mp hsend)] at hunused
    exact absurd (hunused [.send (ctrlRequest host)] [.close] rfl) (by simp)
  · intro hsend n
    exact (Function.Iterate.rec CtrlSockInv (.entry connected) (fun _ => CtrlSockInv.step hsend) n).owned

/-- **The request cannot be sent**, and the socket is closed twice. -/
theorem not_ctrl_socket :
    ¬ ∀ n, Owned (ctrlSockAt (ascii "iphone.local") ⟨fun _ => -1, fun _ => .error 54⟩ false n) := by
  intro h
  have hunused := (h 5).unused
  rw [ctrlSockAt_notSent _ _ (by decide)] at hunused
  exact absurd (hunused [.send (ctrlRequest (ascii "iphone.local"))] [.close] rfl) (by simp)

end Showcase
