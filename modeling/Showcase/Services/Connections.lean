import Showcase.Lib.Parts
import Showcase.Services.EncryptedClient
import Showcase.Services.Session

/-!
# `Services.Connections` — the control connections

Each connection that `start_airplay_server` accepts runs `handle_client` on a queue of its own; `g_pair`, `g_enc`
and `g_event_enc` are the program's. A connection is a list of operations (`ConnOp`), and other connections come in
between them: between the check of `g_enc.active` and the `send`, between the nonce of a frame, its encryption and
the count. A connection that is closed has nothing left to do, and one that comes later has another number.

What arrives is an input (`ServerInput`): the buffer of the plaintext loop as `recv` has left it, or a frame. Of the
handlers, those of the pairing endpoints and OPTIONS are modelled; the others only answer through `send_response`.
-/

namespace Showcase

open Lib

/-! ## What a connection does -/

/-- The number of an accepted connection. -/
abbrev ConnId := Nat

/-- What the handling of a request finds. -/
structure HandlerEnv where
  /-- `pair_ctx_create`. -/
  create : Bool
  setup : SetupEnv
  verify : VerifyEnv
  send : SendEnv
  /-- What the handlers that only answer send: header, body. -/
  responses : List (Bytes × Bytes × SendEnv)

/-- What is left to do on a connection. -/
inductive ConnOp where
  /-- The top of the loop: `if (g_enc.active)`. -/
  | round
  /-- `recv` on the plaintext buffer. -/
  | recvPlain
  /-- The `recv` calls of `enc_recv_frame`. -/
  | recvFrame
  /-- `enc_recv_frame` has copied the nonce, and decrypts next; `ptBuf` is what its buffer holds. -/
  | decrypt (nonce : UInt64) (ct : Bytes) (tag : Block 16) (ptBuf : Bytes) (e : HandlerEnv)
  /-- `enc->readNonce++`. -/
  | countRead
  /-- `send_response`. -/
  | respond (head body : Bytes) (e : SendEnv)
  /-- `send` in the plaintext branch of `send_response`. -/
  | plain (text : Bytes)
  /-- `enc_send_frame`. -/
  | sealFrame (data : Bytes) (e : SendEnv)
  /-- `enc_send_frame` has copied the nonce, and encrypts next. -/
  | encrypt (nonce : UInt64) (data : Bytes) (e : SendEnv)
  /-- `enc_send_frame` sends the frame next. -/
  | transmit (out : Bytes) (e : SendEnv)
  /-- `enc->writeNonce++`. -/
  | count
  /-- `send` of `handle_options`. -/
  | options (rtsp : Bool) (cseq : Int)
  /-- `handle_pair_setup` and `handle_pair_verify` up to the response. -/
  | pair (i : PairInput) (create rtsp : Bool) (cseq : Int) (e : SendEnv)
  /-- `handle_pair_verify` behind the response: `pair_derive_control_keys`. -/
  | controlKeys
  /-- The nonces of `g_enc`, and `g_enc.active = true`. -/
  | activate
  /-- `pair_derive_event_keys`. -/
  | eventKeys
  | activateEvent

/-- What the connections share. -/
structure Globals where
  pair : Option PairCtx
  enc : EncryptedCtx
  eventEnc : EncryptedCtx

/-- What one operation shows. -/
inductive ConnObs where
  /-- `g_enc.active` is looked at. -/
  | mode (active : Bool)
  /-- A frame is decrypted. -/
  | opens (key : Block 32) (nonce : UInt64)
  /-- A frame is encrypted. -/
  | seals (key : Block 32) (nonce : UInt64)
  /-- These bytes go out on the control socket. -/
  | wrote (out : Bytes)

/-! ## Handlers -/

/-- The header of a response. -/
def responseHead (rtsp : Bool) (status : Nat) (statusText : String) (contentType : Option String) (bodyLen : Nat)
    (cseq : Int) : Bytes :=
  ascii ((if rtsp then "RTSP/1.0" else "HTTP/1.1") ++ " " ++ toString status ++ " " ++ statusText ++ "\r\n" ++
    "Server: AirTunes/" ++ sourceVersion ++ "\r\n" ++
    (if 0 < cseq then "CSeq: " ++ toString cseq ++ "\r\n" else "") ++
    (match contentType with | some c => "Content-Type: " ++ c ++ "\r\n" | none => "") ++
    "Content-Length: " ++ toString bodyLen ++ "\r\n" ++ "\r\n")

theorem responseText_eq (rtsp : Bool) (status : Nat) (statusText : String) (contentType : Option String)
    (body : Bytes) (cseq : Int) : responseText rtsp status statusText contentType body cseq =
      responseHead rtsp status statusText contentType body.length cseq ++ body :=
  rfl

/-- What `handle_options` sends. -/
def optionsText (rtsp : Bool) (cseq : Int) : Bytes :=
  ascii (if rtsp then "RTSP/1.0" else "HTTP/1.1") ++ ascii (" 200 OK\r\n" ++
    "Server: AirTunes/" ++ sourceVersion ++ "\r\n" ++
    (if 0 < cseq then "CSeq: " ++ toString cseq ++ "\r\n" else "") ++
    "Public: ANNOUNCE, SETUP, RECORD, PAUSE, FLUSH, TEARDOWN, OPTIONS, POST, GET, PUT\r\n" ++
    "Content-Length: 0\r\n" ++ "\r\n")

/-- The response of the pairing endpoints. -/
def pairResponse (rtsp : Bool) (cseq : Int) (e : SendEnv) (body : Bytes) : ConnOp :=
  .respond (responseHead rtsp 200 "OK" (some "application/octet-stream") body.length cseq) body e

/-- `handle_pair_setup` and `handle_pair_verify` up to the response; `none` when the process dies. -/
def pairEndpoint (P : OpenSSL) (sk pk : Block 32) (g : Globals) (i : PairInput) (create rtsp : Bool) (cseq : Int)
    (e : SendEnv) : Option (Globals × List ConnOp) :=
  if i.body.length = 0 then some (g, [pairResponse rtsp cseq e []])
  else
    match (g.pair.orElse fun _ => if create then some (pairCtxCreate sk pk none) else none) with
    | none => some (g, [.respond (responseHead rtsp 500 "Internal Error" none 0 cseq) [] e])
    | some ctx =>
        match pairCall P ctx i with
        | none => none
        | some (ctx, resp) =>
            some ({ g with pair := some ctx }, pairResponse rtsp cseq e (resp.getD []) ::
              match i with
              | .setup _ _ => []
              | .verify _ _ => [.controlKeys])

/-- The handler of a request in the memory `m`. -/
def handlerOps (h : Handler) (m : Bytes) (r : HTTPReq) (e : HandlerEnv) : List ConnOp :=
  let rtsp := r.protocol.take 4 == ascii "RTSP"
  let body := pointerRange m r.body r.bodyLen
  match h with
  | .pairSetup => [.pair (.setup body e.setup) e.create rtsp r.cseq e.send]
  | .pairVerify => [.pair (.verify body e.verify) e.create rtsp r.cseq e.send]
  | .options => [.options rtsp r.cseq]
  | _ => e.responses.map fun (head, body, e) => .respond head body e

/-- `parse_http` and the handler of a request that is complete, in either branch; `none` when the process dies. -/
def requestOps (route : Bytes → Bytes → Handler) (m : Bytes) (len : Nat) (e : HandlerEnv) : Option (List ConnOp) :=
  match parseHttp m len with
  | none => none
  | some p =>
      if p.ret = true ∧ (p.req.contentLength = 0 ∨ p.req.contentLength ≤ p.req.bodyLen) then
        some (handlerOps (route p.req.method p.req.path) m p.req e)
      else some []

/-! ## The operations -/

/-- One operation: the globals, what it shows, what it has to do first; `none` where it waits or the process dies. -/
def ConnOp.exec (P : OpenSSL) (sk pk : Block 32) (g : Globals) :
    ConnOp → Option (Globals × Option ConnObs × List ConnOp)
  | .round => some (g, some (.mode g.enc.active), [if g.enc.active then .recvFrame else .recvPlain])
  | .recvPlain => none
  | .recvFrame => none
  | .decrypt nonce ct tag ptBuf e =>
      match P.chachaOpen g.enc.readKey (counterNonce nonce) (lenHeader ct.length) ct tag with
      -- the connection is closed
      | none => some (g, some (.opens g.enc.readKey nonce), [])
      | some pt => (requestOps routeEncrypted (overlay ptBuf pt) pt.length e).map fun ops =>
          (g, some (.opens g.enc.readKey nonce), .countRead :: (ops ++ [.round]))
  | .countRead => some ({ g with enc := { g.enc with readNonce := g.enc.readNonce + 1 } }, none, [])
  | .respond head body e =>
      some (g, some (.mode g.enc.active),
        if g.enc.active then [.sealFrame (head ++ body) e]
        else .plain head :: if body = [] then [] else [.plain body])
  | .plain text => some (g, some (.wrote text), [])
  | .sealFrame data e =>
      some (g, none, if maxFrame < data.length ∨ e.ct = false ∨ e.cipherCtx = false then []
        else [.encrypt g.enc.writeNonce data e])
  | .encrypt nonce data e =>
      some (g, some (.seals g.enc.writeKey nonce), if e.cipher = false ∨ e.out = false then []
        else [.transmit (sealedFrame P.chachaSeal g.enc.writeKey nonce data) e])
  | .transmit out e =>
      some (g, some (.wrote (sendLoop e.sends out).1), if (sendLoop e.sends out).2 then [.count] else [])
  | .count => some ({ g with enc := { g.enc with writeNonce := g.enc.writeNonce + 1 } }, none, [])
  | .options rtsp cseq => some (g, some (.wrote (optionsText rtsp cseq)), [])
  | .pair i create rtsp cseq e =>
      (pairEndpoint P sk pk g i create rtsp cseq e).map fun (g, ops) => (g, none, ops)
  | .controlKeys =>
      match g.pair.bind (pairDeriveControlKeys P) with
      | none => some (g, none, [])
      | some kp =>
          some ({ g with enc := { g.enc with readKey := kp.readKey, writeKey := kp.writeKey } }, none,
            [.activate, .eventKeys])
  | .activate => some ({ g with enc := { g.enc with readNonce := 0, writeNonce := 0, active := true } }, none, [])
  | .eventKeys =>
      match g.pair.bind (pairDeriveEventKeys P) with
      | none => some (g, none, [])
      | some kp =>
          some ({ g with eventEnc := { g.eventEnc with readKey := kp.readKey, writeKey := kp.writeKey } }, none,
            [.activateEvent])
  | .activateEvent =>
      some ({ g with eventEnc := { g.eventEnc with readNonce := 0, writeNonce := 0, active := true } }, none, [])

/-! ## The server -/

/-- The globals and the connections; `none` for a number that is not accepted yet. -/
abbrev Server := Parts ConnId Globals (Option (List ConnOp))

/-- The program before the first connection. -/
def Server.init : Server where
  globals := ⟨none, ⟨Block.zero 32, Block.zero 32, 0, 0, false⟩, ⟨Block.zero 32, Block.zero 32, 0, 0, false⟩⟩
  part := fun _ => none

/-- What happens on a connection. -/
inductive ConnEvent where
  | accept
  /-- The connection does the next of its operations. -/
  | step
  /-- `recv` ends the loop: the peer has closed, or an error. -/
  | closed
  /-- `recv` in front of a request: the buffer is `m`, of which `len` bytes are used. -/
  | received (m : Bytes) (len : Nat) (e : HandlerEnv)
  /-- `enc_recv_frame` returns -2. -/
  | idle
  /-- `enc_recv_frame` has read a frame. -/
  | frame (ct : Bytes) (tag : Block 16) (ptBuf : Bytes) (e : HandlerEnv)

/-- An event on a connection. -/
abbrev ServerInput := PartInput ConnId ConnEvent

/-- An event on a connection that has `todo` left to do. -/
def connStep (P : OpenSSL) (sk pk : Block 32) (g : Globals) :
    ConnEvent → Option (List ConnOp) → Option (Globals × Option ConnObs × List ConnOp)
  | .accept, none => some (g, none, [.round])
  | .step, some (op :: todo) => (op.exec P sk pk g).map fun (g, obs, ops) => (g, obs, ops ++ todo)
  | .closed, some [.recvPlain] => some (g, none, [])
  | .closed, some [.recvFrame] => some (g, none, [])
  | .received m len e, some [.recvPlain] =>
      (requestOps routeRequest m len e).map fun ops => (g, none, ops ++ [.round])
  | .idle, some [.recvFrame] => some (g, none, [.round])
  | .frame ct tag ptBuf e, some [.recvFrame] =>
      -- a bad length closes the connection
      if ct.length = 0 ∨ maxFrame < ct.length then some (g, none, [])
      else some (g, none, [.decrypt g.enc.readNonce ct tag ptBuf e])
  | _, _ => none

/-- A connection as a part of the server. -/
def connPart (P : OpenSSL) (sk pk : Block 32) (g : Globals) (ev : ConnEvent) (old : Option (List ConnOp)) :
    Option (Globals × Option ConnObs × Option (List ConnOp)) :=
  (connStep P sk pk g ev old).map fun (g, obs, todo) => (g, obs, some todo)

/-- One step of the server, and what it shows. -/
abbrev serverStep (P : OpenSSL) (sk pk : Block 32) (s : Server) (i : ServerInput) :
    Option (Server × Option ConnObs) :=
  Parts.step (connPart P sk pk) s i

/-- The runs of the server, in any interleaving. -/
abbrev ServerRun (P : OpenSSL) (sk pk : Block 32) : Server → List (Step Server ServerInput) → Server → Prop :=
  Parts.PartsRun (connPart P sk pk)

/-- What a step of a run shows. -/
def observed (P : OpenSSL) (sk pk : Block 32) (x : Step Server ServerInput) : Option ConnObs :=
  (Parts.shows (connPart P sk pk) x).join

/-! ## What a step can do

An event finds a connection with something left to do, or waiting. In the first case its next operation is executed;
in the second the globals stay as they are, and the event says what there is to do next. -/

section Steps

variable {P : OpenSSL} {sk pk : Block 32} {s s' : Server} {c : ConnId} {ev : ConnEvent} {obs : Option ConnObs}

theorem serverStep_conn (h : serverStep P sk pk s ⟨c, ev⟩ = some (s', obs)) :
    ∃ todo, connStep P sk pk s.globals ev (s.part c) = some (s'.globals, obs, todo) ∧ s'.part c = some todo := by
  obtain ⟨⟨g, o, todo⟩, hconn, heq⟩ := Option.map_eq_some_iff.mp (Parts.step_part h)
  simp only [Prod.mk.injEq] at heq
  obtain ⟨rfl, rfl, hpart⟩ := heq
  exact ⟨todo, hconn, hpart.symm⟩

/-- **What an event does to a connection**: it goes on with its next operation, or is somewhere else without that
    the globals change. -/
theorem connStep_cases {g g' : Globals} {old : Option (List ConnOp)} {todo : List ConnOp}
    (h : connStep P sk pk g ev old = some (g', obs, todo)) :
    (∃ op rest ops, ev = .step ∧ old = some (op :: rest) ∧ op.exec P sk pk g = some (g', obs, ops) ∧
        todo = ops ++ rest) ∨
      (g' = g ∧ obs = none ∧ ((ev = .accept ∧ old = none ∧ todo = [.round]) ∨
        (ev = .closed ∧ (old = some [.recvPlain] ∨ old = some [.recvFrame]) ∧ todo = []) ∨
        (∃ m len e ops, ev = .received m len e ∧ old = some [.recvPlain] ∧
          requestOps routeRequest m len e = some ops ∧ todo = ops ++ [.round]) ∨
        (old = some [.recvFrame] ∧ (ev = .idle ∧ todo = [.round] ∨ ∃ ct tag ptBuf e, ev = .frame ct tag ptBuf e ∧
          (todo = [] ∨ todo = [.decrypt g.enc.readNonce ct tag ptBuf e]))))) := by
  unfold connStep at h
  split at h
  · simp only [Option.some.injEq, Prod.mk.injEq] at h
    obtain ⟨rfl, rfl, rfl⟩ := h
    exact .inr ⟨rfl, rfl, .inl ⟨rfl, rfl, rfl⟩⟩
  · rename_i op rest
    obtain ⟨⟨g₁, o, ops⟩, hexec, heq⟩ := Option.map_eq_some_iff.mp h
    simp only [Prod.mk.injEq] at heq
    obtain ⟨rfl, rfl, rfl⟩ := heq
    exact .inl ⟨op, rest, ops, rfl, rfl, hexec, rfl⟩
  · simp only [Option.some.injEq, Prod.mk.injEq] at h
    obtain ⟨rfl, rfl, rfl⟩ := h
    exact .inr ⟨rfl, rfl, .inr (.inl ⟨rfl, .inl rfl, rfl⟩)⟩
  · simp only [Option.some.injEq, Prod.mk.injEq] at h
    obtain ⟨rfl, rfl, rfl⟩ := h
    exact .inr ⟨rfl, rfl, .inr (.inl ⟨rfl, .inr rfl, rfl⟩)⟩
  · rename_i m len e
    obtain ⟨ops, hops, heq⟩ := Option.map_eq_some_iff.mp h
    simp only [Prod.mk.injEq] at heq
    obtain ⟨rfl, rfl, rfl⟩ := heq
    exact .inr ⟨rfl, rfl, .inr (.inr (.inl ⟨m, len, e, ops, rfl, rfl, hops, rfl⟩))⟩
  · simp only [Option.some.injEq, Prod.mk.injEq] at h
    obtain ⟨rfl, rfl, rfl⟩ := h
    exact .inr ⟨rfl, rfl, .inr (.inr (.inr ⟨rfl, .inl ⟨rfl, rfl⟩⟩))⟩
  · rename_i ct tag ptBuf e
    have hcase : g' = g ∧ obs = none ∧ (todo = [] ∨ todo = [.decrypt g.enc.readNonce ct tag ptBuf e]) := by
      split at h
      · simp only [Option.some.injEq, Prod.mk.injEq] at h
        exact ⟨h.1.symm, h.2.1.symm, .inl h.2.2.symm⟩
      · simp only [Option.some.injEq, Prod.mk.injEq] at h
        exact ⟨h.1.symm, h.2.1.symm, .inr h.2.2.symm⟩
    exact .inr ⟨hcase.1, hcase.2.1, .inr (.inr (.inr ⟨rfl, .inr ⟨ct, tag, ptBuf, e, rfl, hcase.2.2⟩⟩))⟩
  · cases h

end Steps

end Showcase
