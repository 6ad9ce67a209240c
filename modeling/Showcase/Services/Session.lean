import Showcase.Pair.Run
import Showcase.Services.EncTransport

/-!
# `Services.Session` — the threads that send encrypted frames

The control connection and the touch reader of `carplay_services.m`, and what they share: `g_pair`, `g_enc`,
`g_event_enc` and `g_event_send_lock`. The control thread serves one request after the other; a response goes
out on the control channel, RECORD also sends a command on the event channel, and every POST /pair-verify
re-derives the keys of both channels when `verify_state` is 4. The touch reader sends reports on the event
channel, under the lock that RECORD does not take.

A thread runs one *operation* (`Op`) after the other; inside `enc_send_frame`, and between the event keys and
their nonces, it stops at the points where the other thread can come in between (`Pc`). Every frame that is
encrypted is recorded in `log`.
-/

namespace Showcase

open Lib

/-- `g_enc` and `g_event_enc`. -/
inductive Chan where
  | control
  | event
deriving DecidableEq

/-- The thread of the control connection and the touch reader. -/
inductive ThreadId where
  | control
  | touch
deriving DecidableEq

/-- One encryption by `enc_send_frame`. -/
structure Encryption where
  key : Block 32
  nonce : UInt64
  plaintext : Bytes

/-- A thread in the middle of a function. -/
inductive Pc where
  /-- `enc_send_frame` has copied the nonce, and encrypts next. -/
  | encrypt (ch : Chan) (nonce : UInt64) (data : Bytes) (e : SendEnv)
  /-- `enc_send_frame` sends the frame next. -/
  | transmit (ch : Chan) (out : Bytes) (e : SendEnv)
  /-- `enc_send_frame` counts the frame next. -/
  | count (ch : Chan)
  /-- `handle_pair_verify` has the event keys, and resets their nonces next. -/
  | resetEvent

/-- The channel a thread is in the middle of using. -/
def Pc.chan : Pc → Chan
  | .encrypt ch _ _ _ => ch
  | .transmit ch _ _ => ch
  | .count ch => ch
  | .resetEvent => .event

/-- What is left to do of a handler. -/
inductive Op where
  /-- `send_response` with this text. -/
  | respond (data : Bytes) (e : SendEnv)
  /-- The command at the end of `handle_record`; `connected` is `g_event_client_fd >= 0`. -/
  | command (connected : Bool) (data : Bytes) (e : SendEnv)
  /-- `send_hid_report`. -/
  | hidReport (connected : Bool) (data : Bytes) (e : SendEnv)
  /-- `enc_send_frame(g_event_client_fd, &g_event_enc, ...)`. -/
  | eventFrame (data : Bytes) (e : SendEnv)
  | wait
  | signal
  /-- `handle_pair_setup` and `handle_pair_verify` up to the response; `create` is the outcome of
      `pair_ctx_create`, where it is called. -/
  | pair (i : PairInput) (create : Bool) (rtsp : Bool) (cseq : Int) (e : SendEnv)
  /-- `handle_pair_verify` behind the response. -/
  | activate
  | eventKeys

structure Thread where
  pc : Option Pc
  todo : List Op

structure Session where
  /-- `g_pair`, `none` for NULL. -/
  pair : Option PairCtx
  ctx : Chan → EncryptedCtx
  /-- `g_event_send_lock` is taken. -/
  lock : Bool
  thread : ThreadId → Thread
  log : List Encryption

/-- The program's globals before the first connection. -/
def Session.init : Session where
  pair := none
  ctx := fun _ => ⟨Block.zero 32, Block.zero 32, 0, 0, false⟩
  lock := false
  thread := fun _ => ⟨none, []⟩
  log := []

namespace Session

def setCtx (s : Session) (ch : Chan) (c : EncryptedCtx) : Session :=
  { s with ctx := Function.update s.ctx ch c }

def setThread (s : Session) (t : ThreadId) (th : Thread) : Session :=
  { s with thread := Function.update s.thread t th }

theorem setCtx_self (s : Session) (ch : Chan) (c : EncryptedCtx) : (s.setCtx ch c).ctx ch = c := by
  simp [setCtx]

theorem setCtx_other (s : Session) (c : EncryptedCtx) {ch ch' : Chan} (h : ch' ≠ ch) :
    (s.setCtx ch c).ctx ch' = s.ctx ch' := by
  simp [setCtx, h]

theorem setThread_self (s : Session) (t : ThreadId) (th : Thread) : (s.setThread t th).thread t = th := by
  simp [setThread]

theorem setThread_other (s : Session) (th : Thread) {t t' : ThreadId} (h : t' ≠ t) :
    (s.setThread t th).thread t' = s.thread t' := by
  simp [setThread, h]

end Session

/-! ## Responses -/

/-- `SOURCE_VERSION`. -/
def sourceVersion : String := "509.0"

/-- The text `send_response` sends. -/
def responseText (rtsp : Bool) (status : Nat) (statusText : String) (contentType : Option String) (body : Bytes)
    (cseq : Int) : Bytes :=
  ascii ((if rtsp then "RTSP/1.0" else "HTTP/1.1") ++ " " ++ toString status ++ " " ++ statusText ++ "\r\n" ++
    "Server: AirTunes/" ++ sourceVersion ++ "\r\n" ++
    (if 0 < cseq then "CSeq: " ++ toString cseq ++ "\r\n" else "") ++
    (match contentType with | some c => "Content-Type: " ++ c ++ "\r\n" | none => "") ++
    "Content-Length: " ++ toString body.length ++ "\r\n" ++ "\r\n") ++ body

/-! ## The steps of a thread -/

/-- `enc_send_frame` up to the nonce. -/
def encSendBegin (s : Session) (ch : Chan) (data : Bytes) (e : SendEnv) : Option Pc :=
  if maxFrame < data.length then none
  else if e.ct = false ∨ e.cipherCtx = false then none
  else some (.encrypt ch (s.ctx ch).writeNonce data e)

/-- The step of a thread in the middle of a function. -/
def Pc.exec (P : OpenSSL) (s : Session) : Pc → Session × Option Pc
  | .encrypt ch nonce data e =>
      let key := (s.ctx ch).writeKey
      ({ s with log := s.log ++ [⟨key, nonce, data⟩] },
        if e.cipher = false ∨ e.out = false then none
        else some (.transmit ch (sealedFrame P.chachaSeal key nonce data) e))
  | .transmit ch out e => (s, if (sendLoop e.sends out).2 then some (.count ch) else none)
  | .count ch =>
      (s.setCtx ch { s.ctx ch with writeNonce := (s.ctx ch).writeNonce + 1 }, none)
  | .resetEvent =>
      (s.setCtx .event { s.ctx .event with readNonce := 0, writeNonce := 0, active := true }, none)

/-- The response of the pairing endpoints. -/
def pairRespond (rtsp : Bool) (cseq : Int) (e : SendEnv) (body : Bytes) : Op :=
  .respond (responseText rtsp 200 "OK" (some "application/octet-stream") body cseq) e

/-- `r->body`. -/
def PairInput.body : PairInput → Bytes
  | .setup body _ => body
  | .verify body _ => body

/-- What the endpoint does behind its response. -/
def PairInput.behind : PairInput → List Op
  | .setup _ _ => []
  | .verify _ _ => [.activate]

/-- The pairing endpoints: the empty request, the context on first use, the call, the response. -/
def pairExec (P : OpenSSL) (sk pk : Block 32) (s : Session) (i : PairInput) (create rtsp : Bool) (cseq : Int)
    (e : SendEnv) : Option (Session × List Op) :=
  if i.body.length = 0 then some (s, [pairRespond rtsp cseq e []])
  else
    match (s.pair.orElse fun _ => if create then some (pairCtxCreate sk pk none) else none) with
    | none => some (s, [.respond (responseText rtsp 500 "Internal Error" none [] cseq) e])
    | some ctx =>
        match pairCall P ctx i with
        | none => none
        | some (ctx, resp) =>
            some ({ s with pair := some ctx }, pairRespond rtsp cseq e (resp.getD []) :: i.behind)

/-- One operation: the session, where the thread stops, what it has to do first; `none` when it is blocked or the
    process dies. -/
def Op.exec (P : OpenSSL) (sk pk : Block 32) (s : Session) : Op → Option (Session × Option Pc × List Op)
  | .respond data e => some (s, if (s.ctx .control).active then encSendBegin s .control data e else none, [])
  | .command connected data e =>
      some (s, none, if connected ∧ (s.ctx .event).active then [.eventFrame data e] else [])
  | .hidReport connected data e =>
      some (s, none, if connected ∧ (s.ctx .event).active then [.wait, .eventFrame data e, .signal] else [])
  | .eventFrame data e => some (s, encSendBegin s .event data e, [])
  | .wait => if s.lock then none else some ({ s with lock := true }, none, [])
  | .signal => some ({ s with lock := false }, none, [])
  | .pair i create rtsp cseq e => (pairExec P sk pk s i create rtsp cseq e).map fun (s, ops) => (s, none, ops)
  | .activate =>
      match s.pair.bind (pairDeriveControlKeys P) with
      | none => some (s, none, [])
      | some kp => some (s.setCtx .control ⟨kp.readKey, kp.writeKey, 0, 0, true⟩, none, [.eventKeys])
  | .eventKeys =>
      match s.pair.bind (pairDeriveEventKeys P) with
      | none => some (s, none, [])
      | some kp =>
          some (s.setCtx .event { s.ctx .event with readKey := kp.readKey, writeKey := kp.writeKey },
            some .resetEvent, [])

/-- One step of the thread `t`. -/
def threadStep (P : OpenSSL) (sk pk : Block 32) (s : Session) (t : ThreadId) : Option Session :=
  match s.thread t with
  | ⟨some pc, todo⟩ =>
      let (s', pc') := pc.exec P s
      some (s'.setThread t ⟨pc', todo⟩)
  | ⟨none, []⟩ => none
  | ⟨none, op :: todo⟩ =>
      (op.exec P sk pk s).map fun (s', pc', ops) => s'.setThread t ⟨pc', ops ++ todo⟩

/-! ## Runs -/

/-- A request on the control connection. -/
inductive Request where
  /-- A handler that only sends responses. -/
  | other (responses : List (Bytes × SendEnv))
  /-- An accepted RECORD. -/
  | record (response : Bytes) (e : SendEnv) (connected : Bool) (command : Bytes) (e' : SendEnv)
  /-- POST /pair-setup and POST /pair-verify. -/
  | pair (i : PairInput) (create : Bool) (rtsp : Bool) (cseq : Int) (e : SendEnv)

/-- The handler of a request. -/
def Request.ops : Request → List Op
  | .other responses => responses.map fun (data, e) => .respond data e
  | .record response e connected command e' => [.respond response e, .command connected command e']
  | .pair i create rtsp cseq e => [.pair i create rtsp cseq e]

inductive SessionInput where
  /-- The control connection takes up its next request. -/
  | request (r : Request)
  /-- The touch reader takes up its next report. -/
  | report (connected : Bool) (data : Bytes) (e : SendEnv)
  /-- A thread goes on. -/
  | step (t : ThreadId)

/-- A thread that has nothing left to do starts anew. -/
def Session.start (s : Session) (t : ThreadId) (ops : List Op) (s' : Session) : Prop :=
  s.thread t = ⟨none, []⟩ ∧ s' = s.setThread t ⟨none, ops⟩

/-- The steps of the session, in any interleaving. -/
def sessionStep (P : OpenSSL) (sk pk : Block 32) (s : Session) (i : SessionInput) (s' : Session) : Prop :=
  match i with
  | .request r => s.start .control r.ops s'
  | .report connected data e => s.start .touch [.hidReport connected data e] s'
  | .step t => threadStep P sk pk s t = some s'

abbrev SessionRun (P : OpenSSL) (sk pk : Block 32) := Run (sessionStep P sk pk)

/-! ## A frame without interruption

One case for each point where `enc_send_frame` can end: a message that is too long, no memory, a cipher that fails, a
`send` that ends early, and the whole frame. Only the last one moves the counter. -/

/-- The next step of a frame, if there is one. -/
def frameStep (P : OpenSSL) (r : Session × Option Pc) : Session × Option Pc :=
  match r.2 with
  | none => r
  | some pc => pc.exec P r.1

/-- **The steps of a frame are `enc_send_frame`.** A frame that no other thread interrupts leaves in its channel
    what `encSendFrame` leaves, and the other channel alone. -/
theorem frame_uninterrupted (P : OpenSSL) (s : Session) (ch : Chan) (data : Bytes) (e : SendEnv) :
    (frameStep P (frameStep P (frameStep P (s, encSendBegin s ch data e)))).1.ctx
      = Function.update s.ctx ch (encSendFrame P.chachaSeal (s.ctx ch) data e).2.2 := by
  have hsame : Function.update s.ctx ch (s.ctx ch) = s.ctx := Function.update_eq_self ch s.ctx
  unfold encSendBegin encSendFrame
  by_cases hlen : maxFrame < data.length
  · simp only [hlen, if_true, frameStep, hsame]
  by_cases hmem : e.ct = false ∨ e.cipherCtx = false
  · simp only [hlen, hmem, if_true, if_false, frameStep, hsame]
  by_cases hcipher : e.cipher = false ∨ e.out = false
  · simp only [hlen, hmem, hcipher, if_true, if_false, frameStep, Pc.exec, hsame]
  simp only [hlen, hmem, hcipher, if_false, frameStep, Pc.exec]
  rcases hsend : sendLoop e.sends (sealedFrame P.chachaSeal (s.ctx ch).writeKey (s.ctx ch).writeNonce data)
    with ⟨sent, ok⟩
  cases ok with
  | false => simp
  | true => simp [Session.setCtx]

end Showcase
