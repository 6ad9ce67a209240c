import Showcase.Services.AuthSetup
import Showcase.Services.Connections
import Showcase.Services.SetupSession

/-!
# `Services.Handlers` — the handlers of a request and the two dispatchers

Every handler of `carplay_services.m`: what it does to the globals and what it answers. A request is dispatched by
`route_request` on a plaintext connection, and by a chain of its own in the encrypted branch of `handle_client`.

* `ControlState.sendResponse` — a response in either mode: what is written on the control socket.
* `Handler.run` — the handlers.
* `dispatchers_agree` — both dispatchers answer every request alike and do the same to the globals.
-/

namespace Showcase

open Lib

/-! ## The globals -/

/-- The globals of the screen streams. -/
structure ScreenGlobals where
  listenFd : Int
  dataPort : UInt16
  connId : UInt64
  key : Block 32
  keyValid : Bool
  threadRunning : Bool

/-- The certificates and the key of the accessory, when `g_baa_ready`. -/
structure BaaCert where
  leaf : Der
  inter : Der

/-- The globals that the handlers read and change. -/
structure ControlState where
  pair : Option PairCtx
  enc : EncryptedCtx
  eventEnc : EncryptedCtx
  session : SessionState
  screen : ScreenGlobals
  iphoneTimingPort : UInt16
  iphoneIp : Bytes
  baa : Option BaaCert

/-! ## Responses -/

/-- What a handler answers: the arguments of `send_response`, or the text of `handle_options`. -/
inductive Reply where
  | response (rtsp : Bool) (status : Nat) (statusText : String) (contentType : Option String) (body : Bytes) (cseq : Int)
  | options (rtsp : Bool) (cseq : Int)

namespace Reply

def rtsp : Reply → Bool
  | .response rtsp _ _ _ _ _ => rtsp
  | .options rtsp _ => rtsp

def cseq : Reply → Int
  | .response _ _ _ _ _ cseq => cseq
  | .options _ cseq => cseq

def body : Reply → Bytes
  | .response _ _ _ _ body _ => body
  | .options _ _ => []

def head : Reply → Bytes
  | .response rtsp status statusText contentType body cseq =>
      responseHead rtsp status statusText contentType body.length cseq
  | .options rtsp cseq => optionsText rtsp cseq

def text (reply : Reply) : Bytes := reply.head ++ reply.body

end Reply

/-- What sending a response finds. -/
structure ReplyEnv where
  /-- `malloc(totalPt)`. -/
  ptBuf : Bool
  /-- The frame, in encrypted mode. -/
  frame : SendEnv
  /-- What the `send`s of the plaintext branch return, `none` for -1. -/
  head : Option Nat
  body : Option Nat

/-- What the handling of a request leaves. -/
structure Outcome where
  state : ControlState
  /-- The responses, before encryption. -/
  replies : List Reply
  /-- The bytes written on the control socket. -/
  wrote : Bytes
  /-- A `send` on it has failed. -/
  failed : Bool
  /-- The messages handed to `enc_send_frame` on the event channel. -/
  events : List Bytes
  /-- The codes `app_send_status` was called with. -/
  statuses : List UInt8

/-- What a `send` takes. -/
def plainSend (text : Bytes) (n : Option Nat) : Bytes := text.take (n.getD 0)

/-- `enc_send_frame` comes to its `send` loop. -/
def SendEnv.ready (e : SendEnv) (data : Bytes) : Bool :=
  data.length ≤ maxFrame && e.ct && e.cipherCtx && e.cipher && e.out

namespace ControlState

variable (s : ControlState)

/-- `send_response`. -/
def sendResponse (P : OpenSSL) (reply : Reply) (e : ReplyEnv) : Outcome :=
  if s.enc.active then
    if e.ptBuf then
      let r := encSendFrame P.chachaSeal s.enc reply.text e.frame
      ⟨{ s with enc := r.2.2 }, [reply], r.2.1, e.frame.ready reply.text && ! r.1, [], []⟩
    else ⟨s, [reply], [], false, [], []⟩
  else if reply.body = [] then ⟨s, [reply], plainSend reply.head e.head, e.head.isNone, [], []⟩
  else
    ⟨s, [reply], plainSend reply.head e.head ++ plainSend reply.body e.body, e.head.isNone || e.body.isNone, [], []⟩

end ControlState

/-! ## Requests -/

/-- `strncmp(r->protocol, "RTSP", 4) == 0`. -/
def HTTPReq.rtsp (r : HTTPReq) : Bool := r.protocol.take 4 == ascii "RTSP"

/-- A stream of a SETUP. -/
structure StreamRequest where
  type : Int
  /-- `streamConnectionID`. -/
  connId : Option UInt64

/-- The plist of a SETUP: without `streams`, or with them. -/
inductive SetupRequest where
  | session (timingPort : Option UInt16) (keepAliveLowPower : Bool)
  | streams (l : List StreamRequest)

structure StreamAnswer where
  type : Int
  dataPort : UInt16
  controlPort : Option UInt16

/-- `respDict`. -/
inductive SetupAnswer where
  | session (p : SessionPorts)
  | streams (l : List StreamAnswer)

/-- What the handling of a request finds: system calls, memory, and the frameworks of the platform. -/
structure ControlEnv where
  reply : ReplyEnv
  /-- `pair_ctx_create`. -/
  create : Bool
  setup : SetupEnv
  verify : VerifyEnv
  /-- The plist of `/info`, when it can be serialized. -/
  infoPlist : Option Bytes
  /-- The public key in the plist of an auth-setup. -/
  plistKey : Bytes → Option (Block 32)
  /-- The empty dictionary. -/
  emptyPlist : Bytes
  /-- What `load_cached_baa` and `issue_baa_cert` get. -/
  issued : Option BaaCert
  /-- The key pair of an auth-setup, its public key. -/
  ourPK : Block 32
  /-- The signature of `ourPK` and the peer's key, encrypted. -/
  encSig : Block 32 → Block 32 → Option Der
  /-- The plist of a SETUP. -/
  setupRequest : Bytes → SetupRequest
  /-- The address of the peer, without `::ffff:`. -/
  peer : Option Bytes
  /-- The sockets of a session, and two for each stream. -/
  sessionCalls : Role → BindCalls
  streamCalls : Nat → BindCalls × BindCalls
  setupPlist : SetupAnswer → Option Bytes
  /-- `g_event_client_fd >= 0`, the plist of requestUI, and its frame. -/
  eventClient : Bool
  requestUI : Option Bytes
  eventFrame : SendEnv

/-! ## Handlers -/

section Handlers

variable (P : OpenSSL) (sk pk : Block 32) (e : ControlEnv) (s : ControlState) (r : HTTPReq) (body : Bytes)

/-- `handle_info`. -/
def handleInfo : Outcome :=
  match e.infoPlist with
  | none => s.sendResponse P (.response r.rtsp 500 "Internal Server Error" none [] r.cseq) e.reply
  | some plist =>
      s.sendResponse P (.response r.rtsp 200 "OK" (some "application/x-apple-binary-plist") plist r.cseq) e.reply

/-- The response of the pairing endpoints. -/
def pairReply (out : Bytes) : Reply := .response r.rtsp 200 "OK" (some "application/octet-stream") out r.cseq

/-- `g_pair`, created on first use. -/
def ControlState.pairContext (create : Bool) : Option PairCtx :=
  s.pair.orElse fun _ => if create then some (pairCtxCreate sk pk none) else none

/-- `handle_pair_setup`; `none` when the process dies. -/
def handlePairSetup : Option Outcome :=
  if body.length = 0 then some (s.sendResponse P (pairReply r []) e.reply)
  else
    match s.pairContext sk pk e.create with
    | none => some (s.sendResponse P (.response r.rtsp 500 "Internal Error" none [] r.cseq) e.reply)
    | some ctx =>
        (pairSetupHandle P ctx body e.setup).map fun (ctx, resp) =>
          let o := { s with pair := some ctx }.sendResponse P (pairReply r (resp.getD [])) e.reply
          -- `STATUS_PAIR_SETUP_COMPLETE`
          if ctx.setupState = 6 then { o with statuses := [2] } else o

/-- `handle_pair_verify` behind the response, when verification is complete. -/
def ControlState.activate (ctx : PairCtx) : ControlState :=
  let s := match pairDeriveControlKeys P ctx with
    | none => s
    | some kp => { s with enc := ⟨kp.readKey, kp.writeKey, 0, 0, true⟩ }
  match pairDeriveEventKeys P ctx with
  | none => s
  | some kp => { s with eventEnc := ⟨kp.readKey, kp.writeKey, 0, 0, true⟩ }

/-- `handle_pair_verify`; `none` when the process dies. -/
def handlePairVerify : Option Outcome :=
  if body.length = 0 then some (s.sendResponse P (pairReply r []) e.reply)
  else
    match s.pairContext sk pk e.create with
    | none => some (s.sendResponse P (.response r.rtsp 500 "Internal Error" none [] r.cseq) e.reply)
    | some ctx =>
        (pairVerifyHandle P ctx body e.verify).map fun (ctx, resp) =>
          let o := { s with pair := some ctx }.sendResponse P (pairReply r (resp.getD [])) e.reply
          -- `STATUS_PAIR_VERIFY_COMPLETE`
          if ctx.verifyState = 4 then { o with state := o.state.activate P ctx, statuses := [3] } else o

/-- `handle_fp_setup`. -/
def handleFpSetup : Outcome := s.sendResponse P (.response false 200 "OK" (some "application/octet-stream") [] 0) e.reply

/-- The peer's key of an auth-setup: behind the version, or in a plist. -/
def peerKey (plistKey : Bytes → Option (Block 32)) : Option (Block 32) :=
  match body with
  | version :: key => if key.length = 32 ∧ version ≤ 2 then Block.ofBytes? 32 key else plistKey body
  | [] => plistKey body

/-- `handle_auth_setup`; `none` when the process dies. -/
def handleAuthSetup : Option Outcome :=
  let forbidden := Reply.response r.rtsp 403 "Forbidden" none [] r.cseq
  if body.length = 0 then some (s.sendResponse P forbidden e.reply)
  else
    match peerKey body e.plistKey with
    | none =>
        some (s.sendResponse P
          (.response r.rtsp 200 "OK" (some "application/x-apple-binary-plist") e.emptyPlist r.cseq) e.reply)
    | some peerPK =>
        let s := { s with baa := s.baa.orElse fun _ => e.issued }
        match s.baa, e.encSig e.ourPK peerPK with
        | none, _ => some (s.sendResponse P forbidden e.reply)
        | some _, none => some (s.sendResponse P forbidden e.reply)
        | some baa, some encSig =>
            let resp := authSetupResp e.ourPK baa.leaf.data encSig.data baa.inter.data
            -- the fields are written into a buffer of `respLen` bytes
            if resp.length = respLen baa.leaf.data.length encSig.data.length (opackBlob baa.inter.data).length then
              some (s.sendResponse P (.response r.rtsp 200 "OK" (some "application/octet-stream") resp r.cseq) e.reply)
            else none

/-- `handle_post_generic`. -/
def handlePostGeneric : Outcome :=
  s.sendResponse P (.response r.rtsp 200 "OK" (some "application/x-apple-binary-plist") [] r.cseq) e.reply

/-- `handle_options`: its `send` does not look at the mode. -/
def handleOptions : Outcome :=
  let reply := Reply.options r.rtsp r.cseq
  ⟨s, [reply], plainSend reply.text e.reply.head, e.reply.head.isNone, [], []⟩

/-- A stream of a SETUP; `none` when the kernel does not hand out these numbers. -/
def ControlState.setupStream (calls : BindCalls × BindCalls) (stream : StreamRequest) :
    Option (ControlState × StreamAnswer) :=
  if stream.type = 110 then
    (bindTcpPort 0 s.session.table calls.1).map fun b =>
      let screen := { s.screen with listenFd := b.fd, dataPort := b.outPort }
      let screen := match stream.connId with
        | none => screen
        | some id =>
            match s.pair.bind (pairDeriveStreamKey P · id) with
            | none => { screen with connId := id }
            | some key => { screen with connId := id, key := key, keyValid := true }
      -- `start_screen_thread`
      let screen := if screen.threadRunning ∨ screen.listenFd < 0 then screen else { screen with threadRunning := true }
      ({ s with session := { s.session with table := b.table }, screen := screen }, ⟨stream.type, b.outPort, none⟩)
  else
    (bindUdpPort 0 s.session.table calls.1).bind fun data =>
      (bindUdpPort 0 data.table calls.2).map fun ctrl =>
        ({ s with session := { s.session with table := ctrl.table } },
          ⟨stream.type, data.outPort, some ctrl.outPort⟩)

/-- `for (NSDictionary *stream in streams)`, from the stream number `i` on. -/
def ControlState.setupStreams (calls : Nat → BindCalls × BindCalls) (s : ControlState) (i : Nat) :
    List StreamRequest → Option (ControlState × List StreamAnswer)
  | [] => some (s, [])
  | stream :: streams =>
      (s.setupStream P (calls i) stream).bind fun (s, answer) =>
        (ControlState.setupStreams calls s (i + 1) streams).map fun (s, answers) => (s, answer :: answers)

/-- What a SETUP does, and what it answers. -/
def ControlState.rtspSetup : SetupRequest → Option (ControlState × SetupAnswer)
  | .session timingPort keepAliveLowPower =>
      (s.session.setup keepAliveLowPower e.sessionCalls).map fun session =>
        ({ s with
          session := session
          iphoneTimingPort := timingPort.getD s.iphoneTimingPort
          iphoneIp := e.peer.getD s.iphoneIp }, .session (session.sessionPorts keepAliveLowPower))
  | .streams l => (s.setupStreams P e.streamCalls 0 l).map fun (s, answers) => (s, .streams answers)

/-- `handle_rtsp_setup`. -/
def handleRtspSetup : Option Outcome :=
  let request := e.setupRequest body
  (s.rtspSetup P e request).map fun (s, answer) =>
    let o := match e.setupPlist answer with
      | none => s.sendResponse P (.response true 500 "Internal Server Error" none [] r.cseq) e.reply
      | some plist =>
          s.sendResponse P (.response true 200 "OK" (some "application/x-apple-binary-plist") plist r.cseq) e.reply
    match request with
    | .session _ _ => o
    -- `STATUS_STREAM_SETUP`
    | .streams l => { o with statuses := (l.filter (·.type = 110)).map fun _ => 4 }

/-- The requestUI command. -/
def requestUIText (plist : Bytes) : Bytes :=
  ascii ("POST /command RTSP/1.0\r\nContent-Length: " ++ toString plist.length ++
    "\r\nContent-Type: application/x-apple-binary-plist\r\nCSeq: 1\r\nUser-Agent: AirPlay/" ++ sourceVersion ++
    "\r\n\r\n") ++ plist

/-- `handle_record`. -/
def handleRecord : Outcome :=
  if ! s.session.active then s.sendResponse P (.response true 403 "Forbidden" none [] r.cseq) e.reply
  else
    let o := { s with session := s.session.record }.sendResponse P (.response true 200 "OK" none [] r.cseq) e.reply
    if e.eventClient && o.state.eventEnc.active then
      match e.requestUI with
      | none => o
      | some plist =>
          let sent := encSendFrame P.chachaSeal o.state.eventEnc (requestUIText plist) e.eventFrame
          { o with state := { o.state with eventEnc := sent.2.2 }, events := [requestUIText plist] }
    else o

/-- `handle_teardown`. -/
def handleTeardown : Outcome :=
  { s with session := s.session.teardown }.sendResponse P (.response true 200 "OK" none [] r.cseq) e.reply

/-- `handle_rtsp_generic`. -/
def handleRtspGeneric : Outcome := s.sendResponse P (.response r.rtsp 200 "OK" none [] r.cseq) e.reply

/-- `send_ok`. -/
def sendOk : Outcome := s.sendResponse P (.response r.rtsp 200 "OK" none [] r.cseq) e.reply

/-- The handlers; `none` when the process dies or the kernel does not hand out such numbers. -/
def Handler.run : Handler → Option Outcome
  | .info => some (handleInfo P e s r)
  | .pairSetup => handlePairSetup P sk pk e s r body
  | .pairVerify => handlePairVerify P sk pk e s r body
  | .fpSetup => some (handleFpSetup P e s)
  | .authSetup => handleAuthSetup P e s r body
  | .postGeneric => some (handlePostGeneric P e s r)
  | .options => some (handleOptions e s r)
  | .rtspSetup => handleRtspSetup P e s r body
  | .record => some (handleRecord P e s r)
  | .teardown => some (handleTeardown P e s r)
  | .rtspGeneric => some (handleRtspGeneric P e s r)
  | .ok => some (sendOk P e s r)

/-- The dispatch of `handle_client` in encrypted mode. -/
def dispatchEncrypted : Option Outcome := (routeEncrypted r.method r.path).run P sk pk e s r body

/-- `route_request`. -/
def dispatchPlain : Option Outcome := (routeRequest r.method r.path).run P sk pk e s r body

end Handlers

/-! ## The dispatchers -/

/-- Handlers with the same response do the same. -/
theorem Handler.run_response (P : OpenSSL) (sk pk : Block 32) (e : ControlEnv) (s : ControlState) (r : HTTPReq)
    (body : Bytes) (h : Handler) : h.response.run P sk pk e s r body = h.run P sk pk e s r body := by
  cases h with
  | _ => rfl

/-- **Both dispatchers agree**: whatever the request and the state, the responses before encryption, the bytes that are
    written, the globals and the messages on the other channels are the same. -/
theorem dispatchers_agree (P : OpenSSL) (sk pk : Block 32) (e : ControlEnv) (s : ControlState) (r : HTTPReq)
    (body : Bytes) : dispatchEncrypted P sk pk e s r body = dispatchPlain P sk pk e s r body := by
  have hroute := routeEncrypted_response r.method r.path
  calc (routeEncrypted r.method r.path).run P sk pk e s r body
      = (routeEncrypted r.method r.path).response.run P sk pk e s r body := (Handler.run_response ..).symm
    _ = (routeRequest r.method r.path).response.run P sk pk e s r body := by rw [hroute]
    _ = (routeRequest r.method r.path).run P sk pk e s r body := Handler.run_response ..

end Showcase
