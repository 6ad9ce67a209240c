import Showcase.Pair.SetupSound
import Showcase.Pair.VerifyAuth
import Showcase.Services.Handlers

/-!
# `Services.Responses` — the response to a request

What the client gets for one request. Twelve handlers build their responses on their own; `send_response` does not look
at what `send` returns in plaintext, logs only that a frame could not be sent in encrypted mode, and `handle_options`
does not use it.

* `OneResponse` — one complete response with the request's protocol and CSeq, and nothing else.
* `oneResponse_iff` — exactly which requests get it.
-/

namespace Showcase

open Lib

/-! ## The property -/

/-- `proto`. -/
def protoText (rtsp : Bool) : Bytes := ascii (if rtsp then "RTSP/1.0" else "HTTP/1.1")

/-- The header of a response with a CSeq: it begins with its protocol, and ends with the length of its body. -/
def Reply.Headed (reply : Reply) : Prop :=
  ∃ a b : String, reply.head = protoText reply.rtsp ++ ascii a ++ ascii ("CSeq: " ++ toString reply.cseq ++ "\r\n") ++
    ascii b ++ ascii ("Content-Length: " ++ toString reply.body.length ++ "\r\n" ++ "\r\n")

/-- The bytes that bring a response to the client: its text, or one frame with it. -/
def Reply.transported (P : OpenSSL) (enc : EncryptedCtx) (reply : Reply) : Bytes :=
  if enc.active then sealedFrame P.chachaSeal enc.writeKey enc.writeNonce reply.text else reply.text

/-- **One complete response.** The handler has built one response, with the protocol and the CSeq of the request and the
    length of its body, and exactly this is written, unless a `send` fails. -/
def OneResponse (P : OpenSSL) (r : HTTPReq) (s : ControlState) (o : Outcome) : Prop :=
  ∃ reply, o.replies = [reply] ∧ protoText reply.rtsp = r.protocol ∧ reply.cseq = r.cseq ∧ reply.Headed ∧
    (o.failed = true ∨ o.wrote = reply.transported P s.enc)

/-- The dispatch of `handle_client`, in the mode it is in. -/
def handleRequest (P : OpenSSL) (sk pk : Block 32) (e : ControlEnv) (s : ControlState) (r : HTTPReq) (body : Bytes) :
    Option Outcome :=
  if s.enc.active then dispatchEncrypted P sk pk e s r body else dispatchPlain P sk pk e s r body

/-! ## The condition -/

/-- The process gets through the handler: the pairing calls return, the kernel has free numbers for the sockets, and the
    response to an auth-setup fits its buffer. -/
def Handler.Survives (P : OpenSSL) (sk pk : Block 32) (e : ControlEnv) (s : ControlState) (body : Bytes) :
    Handler → Prop
  | .pairSetup => body ≠ [] → ∀ ctx ∈ s.pairContext sk pk e.create, (pairSetupHandle P ctx body e.setup).isSome
  | .pairVerify => body ≠ [] → ∀ ctx ∈ s.pairContext sk pk e.create, (pairVerifyHandle P ctx body e.verify).isSome
  | .authSetup => body ≠ [] → ∀ peerPK ∈ peerKey body e.plistKey, ∀ baa ∈ s.baa.orElse fun _ => e.issued,
      (e.encSig e.ourPK peerPK).isSome → baa.leaf.data.length + 40 < 2 ^ 31
  | .rtspSetup => (s.rtspSetup P e (e.setupRequest body)).isSome
  | _ => True

/-- The protocol of the request is the one that is sent. -/
def Handler.KeepsProtocol (h : Handler) (r : HTTPReq) : Prop :=
  r.protocol = ascii "RTSP/1.0" ∨
    (r.protocol = ascii "HTTP/1.1" ∧ h ≠ .rtspSetup ∧ h ≠ .record ∧ h ≠ .teardown)

/-- The response gets through: in plaintext every `send` takes all its bytes or one fails; in encrypted mode it goes
    through `enc_send_frame`, is not longer than a frame, and the memory and the cipher are there. -/
def Reply.Delivered (e : ReplyEnv) (active : Bool) (reply : Reply) : Prop :=
  match active, reply with
  | true, .options _ _ => e.head = none
  | true, .response .. => e.ptBuf = true ∧ e.frame.ready reply.text = true
  | false, _ => e.head = none ∨ (reply.body ≠ [] ∧ e.body = none) ∨
      ((∀ n ∈ e.head, reply.head.length ≤ n) ∧ (reply.body ≠ [] → ∀ n ∈ e.body, reply.body.length ≤ n))

/-! ## What the handlers answer -/

section Answer

variable (P : OpenSSL) (sk pk : Block 32) (e : ControlEnv) (s : ControlState) (r : HTTPReq) (body : Bytes)

/-- The answer of a pairing endpoint; `none` when the process dies. -/
def pairAnswer (call : PairCtx → Option (Option Bytes)) : Option Reply :=
  if body.length = 0 then some (pairReply r [])
  else
    match s.pairContext sk pk e.create with
    | none => some (.response r.rtsp 500 "Internal Error" none [] r.cseq)
    | some ctx => (call ctx).map fun resp => pairReply r (resp.getD [])

/-- The answer to an auth-setup; `none` when the process dies. -/
def authAnswer : Option Reply :=
  let forbidden := Reply.response r.rtsp 403 "Forbidden" none [] r.cseq
  if body.length = 0 then some forbidden
  else
    match peerKey body e.plistKey with
    | none => some (.response r.rtsp 200 "OK" (some "application/x-apple-binary-plist") e.emptyPlist r.cseq)
    | some peerPK =>
        match s.baa.orElse fun _ => e.issued, e.encSig e.ourPK peerPK with
        | none, _ => some forbidden
        | some _, none => some forbidden
        | some baa, some encSig =>
            if baa.leaf.data.length + 40 < 2 ^ 31 then
              some (.response r.rtsp 200 "OK" (some "application/octet-stream")
                (authSetupResp e.ourPK baa.leaf.data encSig.data baa.inter.data) r.cseq)
            else none

/-- The answer with a plist, or that it could not be serialized. -/
def plistAnswer (rtsp : Bool) : Option Bytes → Reply
  | none => .response rtsp 500 "Internal Server Error" none [] r.cseq
  | some plist => .response rtsp 200 "OK" (some "application/x-apple-binary-plist") plist r.cseq

/-- What a handler answers; `none` when the process dies. -/
def Handler.answer : Handler → Option Reply
  | .info => some (plistAnswer r r.rtsp e.infoPlist)
  | .pairSetup => pairAnswer sk pk e s r body fun ctx => (pairSetupHandle P ctx body e.setup).map (·.2)
  | .pairVerify => pairAnswer sk pk e s r body fun ctx => (pairVerifyHandle P ctx body e.verify).map (·.2)
  | .fpSetup => some (.response false 200 "OK" (some "application/octet-stream") [] 0)
  | .authSetup => authAnswer e s r body
  | .postGeneric => some (.response r.rtsp 200 "OK" (some "application/x-apple-binary-plist") [] r.cseq)
  | .options => some (.options r.rtsp r.cseq)
  | .rtspSetup => (s.rtspSetup P e (e.setupRequest body)).map fun p => plistAnswer r true (e.setupPlist p.2)
  | .record =>
      some (if s.session.active then .response true 200 "OK" none [] r.cseq
        else .response true 403 "Forbidden" none [] r.cseq)
  | .teardown => some (.response true 200 "OK" none [] r.cseq)
  | .rtspGeneric => some (.response r.rtsp 200 "OK" none [] r.cseq)
  | .ok => some (.response r.rtsp 200 "OK" none [] r.cseq)

end Answer

/-- The protocol of a handler's response. -/
def Handler.rtsp (r : HTTPReq) : Handler → Bool
  | .rtspSetup => true
  | .record => true
  | .teardown => true
  | .fpSetup => false
  | _ => r.rtsp

/-- The CSeq in the response of a handler. -/
def Handler.cseq (r : HTTPReq) : Handler → Int
  | .fpSetup => 0
  | _ => r.cseq

/-- A response has been sent with the keys the request has found, or is that of `handle_options`. -/
def Reply.Sent (P : OpenSSL) (e : ReplyEnv) (s : ControlState) (wrote : Bytes) (failed : Bool) : Reply → Prop
  | reply@(.response ..) => ∃ s₁ : ControlState, s₁.enc = s.enc ∧ wrote = (s₁.sendResponse P reply e).wrote ∧
      failed = (s₁.sendResponse P reply e).failed
  | reply@(.options ..) => wrote = plainSend reply.text e.head ∧ failed = e.head.isNone

/-- The handler has built this response and no other. -/
structure Answers (P : OpenSSL) (e : ReplyEnv) (s : ControlState) (o : Outcome) (reply : Reply) : Prop where
  replies : o.replies = [reply]
  sent : reply.Sent P e s o.wrote o.failed

section Delivery

variable {P : OpenSSL} {e : ReplyEnv} {s s₁ : ControlState} {h : Handler} {r : HTTPReq} {o : Outcome} {reply : Reply}

/-- Every response with a CSeq has its header. -/
theorem Reply.headed (hcseq : 0 < reply.cseq) : reply.Headed := by
  cases reply with
  | response rtsp status statusText contentType body cseq =>
      rw [Reply.cseq] at hcseq
      let status := " " ++ toString status ++ " " ++ statusText ++ "\r\n" ++ "Server: AirTunes/" ++ sourceVersion ++ "\r\n"
      rw [Reply.Headed, Reply.head, responseHead.eq_def, if_pos hcseq]
      cases contentType with
      | none =>
          refine ⟨status, "", ?_⟩
          simp only [Reply.rtsp, Reply.cseq, Reply.body]
          simp only [protoText, status, ascii_append, List.append_assoc]
      | some c =>
          refine ⟨status, "Content-Type: " ++ c ++ "\r\n", ?_⟩
          simp only [Reply.rtsp, Reply.cseq, Reply.body]
          simp only [protoText, status, ascii_append, List.append_assoc]
  | options rtsp cseq =>
      refine ⟨" 200 OK\r\n" ++ "Server: AirTunes/" ++ sourceVersion ++ "\r\n",
        "Public: ANNOUNCE, SETUP, RECORD, PAUSE, FLUSH, TEARDOWN, OPTIONS, POST, GET, PUT\r\n", ?_⟩
      rw [Reply.cseq] at hcseq
      have hlength : "Content-Length: 0\r\n" = "Content-Length: " ++ toString ([] : Bytes).length ++ "\r\n" := rfl
      rw [Reply.head, optionsText, if_pos hcseq, hlength]
      simp only [Reply.rtsp, Reply.cseq, Reply.body]
      simp only [protoText, ascii_append, List.append_assoc]

/-- Two `send`s bring what they are given when both take everything. -/
theorem take_append_take {a b : Bytes} {n m : Nat} : a.take n ++ b.take m = a ++ b ↔ a.length ≤ n ∧ b.length ≤ m := by
  constructor
  · intro heq
    have hlen := congrArg List.length heq
    simp only [List.length_append, List.length_take] at hlen
    omega
  · rintro ⟨ha, hb⟩
    rw [List.take_of_length_le ha, List.take_of_length_le hb]

/-- A response in plaintext fails or goes out whole when its `send`s fail or take all they are given. -/
theorem plain_delivered (hplain : s.enc.active = false) :
    ((s.sendResponse P reply e).failed = true ∨ (s.sendResponse P reply e).wrote = reply.text) ↔
      e.head = none ∨ (reply.body ≠ [] ∧ e.body = none) ∨
        ((∀ n ∈ e.head, reply.head.length ≤ n) ∧ (reply.body ≠ [] → ∀ n ∈ e.body, reply.body.length ≤ n)) := by
  rw [ControlState.sendResponse, hplain]
  by_cases hbody : reply.body = []
  · simp only [hbody, Reply.text, plainSend, List.append_nil, Bool.false_eq_true, if_false, if_true, ne_eq,
      not_true_eq_false, false_and, false_or, false_implies, and_true, Option.isNone_iff_eq_none]
    cases e.head with
    | none => simp
    | some n => simp
  · simp only [hbody, Reply.text, plainSend, Bool.false_eq_true, if_false, ne_eq, not_false_eq_true, true_and,
      true_implies, Bool.or_eq_true, Option.isNone_iff_eq_none]
    cases e.head with
    | none => simp
    | some n =>
        cases e.body with
        | none => simp
        | some m => simp [take_append_take]

/-- A frame that is too long, or for which something is missing, is not sent. -/
theorem encSendFrame_not_ready {aead : AeadSeal} {enc : EncryptedCtx} {data : Bytes} {e : SendEnv}
    (hready : e.ready data = false) : encSendFrame aead enc data e = (false, [], enc) := by
  rw [encSendFrame]
  by_cases hlong : maxFrame < data.length
  · rw [if_pos hlong]
  rw [if_neg hlong]
  by_cases hct : e.ct = false ∨ e.cipherCtx = false
  · rw [if_pos hct]
  rw [if_neg hct]
  by_cases hcipher : e.cipher = false ∨ e.out = false
  · rw [if_pos hcipher]
  simp only [not_lt, not_or, Bool.not_eq_false] at hlong hct hcipher
  simp [SendEnv.ready, hlong, hct, hcipher] at hready

/-- A frame for which everything is there is put on the socket. -/
theorem encSendFrame_ready {aead : AeadSeal} {enc : EncryptedCtx} {data : Bytes} {e : SendEnv}
    (hready : e.ready data = true) : encSendFrame aead enc data e =
      match sendLoop e.sends (sealedFrame aead enc.writeKey enc.writeNonce data) with
      | (sent, false) => (false, sent, enc)
      | (sent, true) => (true, sent, { enc with writeNonce := enc.writeNonce + 1 }) := by
  simp only [SendEnv.ready, Bool.and_eq_true, decide_eq_true_eq] at hready
  obtain ⟨⟨⟨⟨hlong, hct⟩, hctx⟩, hcipher⟩, hout⟩ := hready
  rcases hloop : sendLoop e.sends (sealedFrame aead enc.writeKey enc.writeNonce data) with ⟨sent, ok⟩
  cases ok with
  | _ => simp [encSendFrame, not_lt.mpr hlong, hct, hctx, hcipher, hout, hloop]

/-- A response in encrypted mode goes out when there is memory for it and its frame can be sent. -/
theorem frame_delivered (hactive : s.enc.active = true) :
    ((s.sendResponse P reply e).failed = true ∨
        (s.sendResponse P reply e).wrote = sealedFrame P.chachaSeal s.enc.writeKey s.enc.writeNonce reply.text) ↔
      e.ptBuf = true ∧ e.frame.ready reply.text = true := by
  have hne : ([] : Bytes) ≠ sealedFrame P.chachaSeal s.enc.writeKey s.enc.writeNonce reply.text := by
    intro heq
    have hlen := sealedFrame_length P s.enc.writeKey s.enc.writeNonce reply.text
    rw [← heq, List.length_nil] at hlen
    omega
  rw [ControlState.sendResponse, hactive]
  cases hbuf : e.ptBuf with
  | false => simp [hne]
  | true =>
      cases hready : e.frame.ready reply.text with
      | false => simp [encSendFrame_not_ready hready, hne]
      | true =>
          rw [encSendFrame_ready hready]
          rcases hloop : sendLoop e.frame.sends _ with ⟨sent, ok⟩
          cases ok with
          | false => simp
          | true => simp [sendLoop_complete hloop]

/-- `handle_options` in plaintext. -/
theorem options_delivered {rtsp : Bool} {cseq : Int} :
    (e.head.isNone = true ∨ plainSend (Reply.options rtsp cseq).text e.head = (Reply.options rtsp cseq).text) ↔
      (Reply.options rtsp cseq).Delivered e false := by
  rw [Reply.Delivered, Reply.text, Reply.body, List.append_nil, plainSend]
  cases e.head with
  | none => simp
  | some n => simp

/-- What `handle_options` sends is never a frame, in encrypted mode either. -/
theorem options_frame_delivered {rtsp : Bool} {cseq : Int} :
    (e.head.isNone = true ∨ plainSend (Reply.options rtsp cseq).text e.head =
        sealedFrame P.chachaSeal s.enc.writeKey s.enc.writeNonce (Reply.options rtsp cseq).text) ↔
      (Reply.options rtsp cseq).Delivered e true := by
  have hne : plainSend (Reply.options rtsp cseq).text e.head ≠
      sealedFrame P.chachaSeal s.enc.writeKey s.enc.writeNonce (Reply.options rtsp cseq).text := by
    intro heq
    have hlen := congrArg List.length heq
    rw [sealedFrame_length, plainSend, List.length_take] at hlen
    omega
  simp [Reply.Delivered, hne]

/-- The response gets through exactly when it can. -/
theorem Answers.delivered (hans : Answers P e s o reply) :
    (o.failed = true ∨ o.wrote = reply.transported P s.enc) ↔ reply.Delivered e s.enc.active := by
  obtain ⟨hreplies, hsent⟩ := hans
  cases reply with
  | response rtsp status statusText contentType body cseq =>
      obtain ⟨s₁, henc, hwrote, hfailed⟩ := hsent
      rw [hwrote, hfailed, ← henc, Reply.transported]
      cases hactive : s₁.enc.active with
      | false => exact plain_delivered hactive
      | true => exact frame_delivered hactive
  | options rtsp cseq =>
      obtain ⟨hwrote, hfailed⟩ := hsent
      rw [hwrote, hfailed, Reply.transported]
      cases hactive : s.enc.active with
      | false => exact options_delivered
      | true => exact options_frame_delivered

end Delivery

/-! ## The handlers answer

For each handler its response is brought to one form (`Answers`), with the exits of `handle_auth_setup` and the
pairing endpoints as the long ones; whether it is delivered is then one question for all. -/

section Handlers

variable {P : OpenSSL} {sk pk : Block 32} {e : ControlEnv} {s s₁ : ControlState} {r : HTTPReq} {body : Bytes}
  {o : Outcome} {reply : Reply}

/-- `send_response` builds one response, whatever it can send of it. -/
theorem sendResponse_replies (P : OpenSSL) (s : ControlState) (reply : Reply) (e : ReplyEnv) :
    (s.sendResponse P reply e).replies = [reply] := by
  rw [ControlState.sendResponse]
  split_ifs with hactive hbuf hbody
  all_goals rfl

/-- A handler that ends with `send_response`, with the keys it was called with. -/
theorem answers_response {e : ReplyEnv} {rtsp : Bool} {status : Nat} {statusText : String}
    {contentType : Option String} {body : Bytes} {cseq : Int} (henc : s₁.enc = s.enc) :
    Answers P e s (s₁.sendResponse P (.response rtsp status statusText contentType body cseq) e)
      (.response rtsp status statusText contentType body cseq) :=
  ⟨sendResponse_replies .., s₁, henc, rfl, rfl⟩

/-- What is done behind the response does not change it. -/
theorem Answers.behind {e : ReplyEnv} {o' : Outcome} (hans : Answers P e s o reply) (hreplies : o'.replies = o.replies)
    (hwrote : o'.wrote = o.wrote) (hfailed : o'.failed = o.failed) : Answers P e s o' reply :=
  ⟨hreplies.trans hans.replies, hwrote ▸ hfailed ▸ hans.sent⟩

/-- A pairing endpoint, whatever it does behind the response. -/
theorem pair_answers (call : PairCtx → Option (PairCtx × Option Bytes)) (behind : PairCtx → Outcome → Outcome)
    (hbehind : ∀ ctx o reply, Answers P e.reply s o reply → Answers P e.reply s (behind ctx o) reply)
    (hrun : (if body.length = 0 then some (s.sendResponse P (pairReply r []) e.reply)
      else
        match s.pairContext sk pk e.create with
        | none => some (s.sendResponse P (.response r.rtsp 500 "Internal Error" none [] r.cseq) e.reply)
        | some ctx => (call ctx).map fun p =>
            behind p.1 ({ s with pair := some p.1 }.sendResponse P (pairReply r (p.2.getD [])) e.reply)) = some o) :
    ∃ reply, pairAnswer sk pk e s r body (fun ctx => (call ctx).map (·.2)) = some reply ∧
      Answers P e.reply s o reply := by
  rw [pairAnswer]
  by_cases hbody : body.length = 0
  · rw [if_pos hbody] at hrun ⊢
    cases hrun
    exact ⟨_, rfl, answers_response rfl⟩
  rw [if_neg hbody] at hrun ⊢
  cases hctx : s.pairContext sk pk e.create with
  | none =>
      rw [hctx] at hrun
      cases hrun
      exact ⟨_, rfl, answers_response rfl⟩
  | some ctx =>
      rw [hctx] at hrun
      obtain ⟨⟨ctx', resp⟩, hcall, rfl⟩ := Option.map_eq_some_iff.mp hrun
      exact ⟨pairReply r (resp.getD []), by simp [hcall], hbehind _ _ _ (answers_response rfl)⟩

/-- `handle_pair_setup`. -/
theorem pairSetup_answers (hrun : handlePairSetup P sk pk e s r body = some o) :
    ∃ reply, Handler.pairSetup.answer P sk pk e s r body = some reply ∧ Answers P e.reply s o reply := by
  apply pair_answers (fun ctx => pairSetupHandle P ctx body e.setup)
    (fun ctx o => if ctx.setupState = 6 then { o with statuses := [2] } else o) _ hrun
  intro ctx o reply hans
  split_ifs with hdone
  · exact hans.behind rfl rfl rfl
  · exact hans

/-- `handle_pair_verify`: the keys are replaced behind the response. -/
theorem pairVerify_answers (hrun : handlePairVerify P sk pk e s r body = some o) :
    ∃ reply, Handler.pairVerify.answer P sk pk e s r body = some reply ∧ Answers P e.reply s o reply := by
  apply pair_answers (fun ctx => pairVerifyHandle P ctx body e.verify)
    (fun ctx o => if ctx.verifyState = 4 then { o with state := o.state.activate P ctx, statuses := [3] } else o) _ hrun
  intro ctx o reply hans
  split_ifs with hdone
  · exact hans.behind rfl rfl rfl
  · exact hans

/-- The exits of `handle_auth_setup`: each has a response to the request, or the process dies. -/
theorem authSetup_exits :
    (∃ (s₁ : ControlState) (status : Nat) (statusText : String) (contentType : Option String) (resp : Bytes),
      s₁.enc = s.enc ∧
        authAnswer e s r body = some (.response r.rtsp status statusText contentType resp r.cseq) ∧
        handleAuthSetup P e s r body =
          some (s₁.sendResponse P (.response r.rtsp status statusText contentType resp r.cseq) e.reply)) ∨
    (authAnswer e s r body = none ∧ handleAuthSetup P e s r body = none) := by
  rw [authAnswer, handleAuthSetup]
  by_cases hbody : body.length = 0
  · rw [if_pos hbody, if_pos hbody]
    exact .inl ⟨s, _, _, _, _, rfl, rfl, rfl⟩
  rw [if_neg hbody, if_neg hbody]
  cases hpeer : peerKey body e.plistKey with
  | none => exact .inl ⟨s, _, _, _, _, rfl, rfl, rfl⟩
  | some peerPK =>
      dsimp only
      cases hbaa : s.baa.orElse fun _ => e.issued with
      | none => exact .inl ⟨{ s with baa := none }, _, _, _, _, rfl, rfl, rfl⟩
      | some baa =>
          cases hsig : e.encSig e.ourPK peerPK with
          | none => exact .inl ⟨{ s with baa := some baa }, _, _, _, _, rfl, rfl, rfl⟩
          | some encSig =>
              simp only [fills_iff]
              by_cases hleaf : baa.leaf.data.length + 40 < 2 ^ 31
              · rw [if_pos hleaf, if_pos hleaf]
                exact .inl ⟨{ s with baa := some baa }, _, _, _, _, rfl, rfl, rfl⟩
              · rw [if_neg hleaf, if_neg hleaf]
                exact .inr ⟨rfl, rfl⟩

/-- `handle_auth_setup`. -/
theorem authSetup_answers (hrun : handleAuthSetup P e s r body = some o) :
    ∃ reply, Handler.authSetup.answer P sk pk e s r body = some reply ∧ Answers P e.reply s o reply := by
  rcases authSetup_exits (P := P) (e := e) (s := s) (r := r) with ⟨s₁, _, _, _, _, henc, hans, hhandle⟩ | ⟨_, hnone⟩
  · refine ⟨_, hans, ?_⟩
    obtain rfl := Option.some.inj (hrun.symm.trans hhandle)
    exact answers_response henc
  · rw [hnone] at hrun
    cases hrun

/-- A stream leaves the keys of the control channel. -/
theorem setupStream_enc {calls : BindCalls × BindCalls} {stream : StreamRequest} {answer : StreamAnswer}
    (hstream : s.setupStream P calls stream = some (s₁, answer)) : s₁.enc = s.enc := by
  rw [ControlState.setupStream] at hstream
  by_cases htype : stream.type = 110
  · rw [if_pos htype] at hstream
    obtain ⟨b, hb, heq⟩ := Option.map_eq_some_iff.mp hstream
    cases heq
    rfl
  · rw [if_neg htype] at hstream
    obtain ⟨data, hdata, hctrl⟩ := Option.bind_eq_some_iff.mp hstream
    obtain ⟨ctrl, hctrl, heq⟩ := Option.map_eq_some_iff.mp hctrl
    cases heq
    rfl

/-- The streams of a SETUP leave the keys of the control channel. -/
theorem setupStreams_enc {calls : Nat → BindCalls × BindCalls} {i : Nat} {l : List StreamRequest}
    {answers : List StreamAnswer} (hstreams : s.setupStreams P calls i l = some (s₁, answers)) : s₁.enc = s.enc := by
  induction l generalizing s i answers with
  | nil =>
      cases hstreams
      rfl
  | cons stream l ih =>
      rw [ControlState.setupStreams] at hstreams
      obtain ⟨⟨s₂, answer⟩, hstream, hrest⟩ := Option.bind_eq_some_iff.mp hstreams
      obtain ⟨⟨s₃, rest⟩, htail, heq⟩ := Option.map_eq_some_iff.mp hrest
      cases heq
      exact (ih htail).trans (setupStream_enc hstream)

/-- A SETUP. -/
theorem rtspSetup_enc {request : SetupRequest} {answer : SetupAnswer}
    (hsetup : s.rtspSetup P e request = some (s₁, answer)) : s₁.enc = s.enc := by
  cases request with
  | session timingPort keepAliveLowPower =>
      obtain ⟨session, hsession, heq⟩ := Option.map_eq_some_iff.mp hsetup
      cases heq
      rfl
  | streams l =>
      obtain ⟨⟨s₂, answers⟩, hstreams, heq⟩ := Option.map_eq_some_iff.mp hsetup
      cases heq
      exact setupStreams_enc hstreams

/-- `handle_rtsp_setup`. -/
theorem rtspSetup_answers (hrun : handleRtspSetup P e s r body = some o) :
    ∃ reply, Handler.rtspSetup.answer P sk pk e s r body = some reply ∧ Answers P e.reply s o reply := by
  rw [handleRtspSetup] at hrun
  obtain ⟨⟨s', answer⟩, hsetup, rfl⟩ := Option.map_eq_some_iff.mp hrun
  refine ⟨plistAnswer r true (e.setupPlist answer), by simp [Handler.answer, hsetup], ?_⟩
  have henc := rtspSetup_enc hsetup
  cases hplist : e.setupPlist answer with
  | none =>
      have hans : Answers P e.reply s (s'.sendResponse P (plistAnswer r true none) e.reply) (plistAnswer r true none) :=
        answers_response henc
      simp only [hplist]
      cases e.setupRequest body with
      | session timingPort keepAliveLowPower => exact hans
      | streams l => exact hans.behind rfl rfl rfl
  | some plist =>
      have hans : Answers P e.reply s (s'.sendResponse P (plistAnswer r true (some plist)) e.reply)
          (plistAnswer r true (some plist)) := answers_response henc
      simp only [hplist]
      cases e.setupRequest body with
      | session timingPort keepAliveLowPower => exact hans
      | streams l => exact hans.behind rfl rfl rfl

/-- `handle_record`: the requestUI is put on the event channel behind the response. -/
theorem record_answers (e : ControlEnv) : ∃ reply, Handler.record.answer P sk pk e s r body = some reply ∧
    Answers P e.reply s (handleRecord P e s r) reply := by
  rw [Handler.answer, handleRecord]
  cases s.session.active with
  | false => exact ⟨_, rfl, answers_response rfl⟩
  | true =>
      refine ⟨.response true 200 "OK" none [] r.cseq, rfl, ?_⟩
      have hans : Answers P e.reply s ({ s with session := s.session.record }.sendResponse P
          (.response true 200 "OK" none [] r.cseq) e.reply) (.response true 200 "OK" none [] r.cseq) :=
        answers_response rfl
      simp only [Bool.not_true, Bool.false_eq_true, if_false]
      split_ifs with hevent
      · cases e.requestUI with
        | none => exact hans
        | some plist => exact hans.behind rfl rfl rfl
      · exact hans

/-- Every handler answers. -/
theorem run_answers (h : Handler) (hrun : h.run P sk pk e s r body = some o) :
    ∃ reply, h.answer P sk pk e s r body = some reply ∧ Answers P e.reply s o reply := by
  cases h with
  | info =>
      cases hrun
      refine ⟨_, rfl, ?_⟩
      rw [handleInfo]
      cases e.infoPlist with
      | none => exact answers_response rfl
      | some plist => exact answers_response rfl
  | pairSetup => exact pairSetup_answers hrun
  | pairVerify => exact pairVerify_answers hrun
  | fpSetup =>
      cases hrun
      exact ⟨_, rfl, answers_response rfl⟩
  | authSetup => exact authSetup_answers hrun
  | postGeneric =>
      cases hrun
      exact ⟨_, rfl, answers_response rfl⟩
  | options =>
      cases hrun
      exact ⟨_, rfl, rfl, rfl, rfl⟩
  | rtspSetup => exact rtspSetup_answers hrun
  | record =>
      cases hrun
      exact record_answers e
  | teardown =>
      cases hrun
      exact ⟨_, rfl, answers_response rfl⟩
  | rtspGeneric =>
      cases hrun
      exact ⟨_, rfl, answers_response rfl⟩
  | ok =>
      cases hrun
      exact ⟨_, rfl, answers_response rfl⟩

/-- The answer of a pairing endpoint has the protocol and the CSeq of its request. -/
theorem pairAnswer_rtsp {call : PairCtx → Option (Option Bytes)}
    (hans : pairAnswer sk pk e s r body call = some reply) : reply.rtsp = r.rtsp ∧ reply.cseq = r.cseq := by
  rw [pairAnswer] at hans
  by_cases hbody : body.length = 0
  · rw [if_pos hbody] at hans
    cases hans
    exact ⟨rfl, rfl⟩
  rw [if_neg hbody] at hans
  cases hctx : s.pairContext sk pk e.create with
  | none =>
      rw [hctx] at hans
      cases hans
      exact ⟨rfl, rfl⟩
  | some ctx =>
      rw [hctx] at hans
      obtain ⟨resp, hcall, rfl⟩ := Option.map_eq_some_iff.mp hans
      exact ⟨rfl, rfl⟩

/-- The answer to an auth-setup has the protocol and the CSeq of the request. -/
theorem authAnswer_rtsp (hans : authAnswer e s r body = some reply) : reply.rtsp = r.rtsp ∧ reply.cseq = r.cseq := by
  rcases authSetup_exits (P := .toy) (e := e) (s := s) (r := r) with ⟨s₁, _, _, _, _, _, hsome, _⟩ | ⟨hnone, _⟩
  · obtain rfl := Option.some.inj (hans.symm.trans hsome)
    exact ⟨rfl, rfl⟩
  · rw [hnone] at hans
    cases hans

theorem plistAnswer_rtsp (r : HTTPReq) (rtsp : Bool) (plist : Option Bytes) :
    (plistAnswer r rtsp plist).rtsp = rtsp ∧ (plistAnswer r rtsp plist).cseq = r.cseq := by
  cases plist with
  | _ => exact ⟨rfl, rfl⟩

/-- Every handler has its protocol and its CSeq. -/
theorem answer_rtsp (h : Handler) (hans : h.answer P sk pk e s r body = some reply) :
    reply.rtsp = h.rtsp r ∧ reply.cseq = h.cseq r := by
  cases h with
  | info =>
      cases hans
      exact plistAnswer_rtsp ..
  | pairSetup | pairVerify => exact pairAnswer_rtsp hans
  | authSetup => exact authAnswer_rtsp hans
  | rtspSetup =>
      obtain ⟨p, hsetup, rfl⟩ := Option.map_eq_some_iff.mp hans
      exact plistAnswer_rtsp ..
  | record =>
      rw [Handler.answer] at hans
      cases hactive : s.session.active with
      | _ =>
          rw [hactive] at hans
          cases hans
          exact ⟨rfl, rfl⟩
  | fpSetup | postGeneric | options | teardown | rtspGeneric | ok =>
      cases hans
      exact ⟨rfl, rfl⟩

/-- The protocol that `strncmp` has found is the request's. -/
theorem protoText_eq_iff (r : HTTPReq) :
    protoText r.rtsp = r.protocol ↔ r.protocol = ascii "RTSP/1.0" ∨ r.protocol = ascii "HTTP/1.1" := by
  constructor
  · intro hproto
    cases hrtsp : r.rtsp with
    | true => exact .inl (hproto ▸ by rw [hrtsp]; rfl)
    | false => exact .inr (hproto ▸ by rw [hrtsp]; rfl)
  · rintro (hproto | hproto)
    · rw [HTTPReq.rtsp, hproto]
      rfl
    · rw [HTTPReq.rtsp, hproto]
      rfl

/-- The protocol of a handler is the request's exactly when it is kept. -/
theorem rtsp_keeps {h : Handler} (hfp : h ≠ .fpSetup) : protoText (h.rtsp r) = r.protocol ↔ h.KeepsProtocol r := by
  have htrue : protoText true = ascii "RTSP/1.0" := rfl
  rw [Handler.KeepsProtocol]
  cases h with
  | fpSetup => exact absurd rfl hfp
  | rtspSetup | record | teardown => simp [Handler.rtsp, htrue, eq_comm]
  | info | pairSetup | pairVerify | authSetup | postGeneric | options | rtspGeneric | ok =>
      simp [Handler.rtsp, protoText_eq_iff]

/-- A pairing endpoint comes to its response when its pairing call returns. -/
theorem pair_survives (call : PairCtx → Option (PairCtx × Option Bytes)) (behind : PairCtx → Outcome → Outcome) :
    (if body.length = 0 then some (s.sendResponse P (pairReply r []) e.reply)
      else
        match s.pairContext sk pk e.create with
        | none => some (s.sendResponse P (.response r.rtsp 500 "Internal Error" none [] r.cseq) e.reply)
        | some ctx => (call ctx).map fun p =>
            behind p.1 ({ s with pair := some p.1 }.sendResponse P (pairReply r (p.2.getD [])) e.reply)).isSome ↔
      (body ≠ [] → ∀ ctx ∈ s.pairContext sk pk e.create, (call ctx).isSome) := by
  by_cases hbody : body = []
  · simp [hbody]
  rw [if_neg (by simpa using hbody)]
  cases hctx : s.pairContext sk pk e.create with
  | none => simp
  | some ctx => simp [hbody]

/-- An auth-setup returns when the first sum of the size of its buffer is an `int`. -/
theorem authSetup_survives : (handleAuthSetup P e s r body).isSome ↔ Handler.authSetup.Survives P sk pk e s body := by
  rw [handleAuthSetup, Handler.Survives]
  by_cases hbody : body = []
  · simp [hbody]
  rw [if_neg (by simpa using hbody)]
  cases hpeer : peerKey body e.plistKey with
  | none => simp
  | some peerPK =>
      dsimp only
      cases hbaa : s.baa.orElse fun _ => e.issued with
      | none => simp
      | some baa =>
          cases henc : e.encSig e.ourPK peerPK with
          | none => simp [henc]
          | some encSig =>
              simp [fills_iff, hbody, henc]

/-- The process gets through a handler exactly when it can. -/
theorem survives_iff (h : Handler) : (h.run P sk pk e s r body).isSome ↔ h.Survives P sk pk e s body := by
  cases h with
  | pairSetup =>
      exact pair_survives (fun ctx => pairSetupHandle P ctx body e.setup)
        (fun ctx o => if ctx.setupState = 6 then { o with statuses := [2] } else o)
  | pairVerify =>
      exact pair_survives (fun ctx => pairVerifyHandle P ctx body e.verify)
        (fun ctx o => if ctx.verifyState = 4 then { o with state := o.state.activate P ctx, statuses := [3] } else o)
  | authSetup => exact authSetup_survives
  | rtspSetup => rw [Handler.run, handleRtspSetup, Option.isSome_map, Handler.Survives]
  | info | fpSetup | postGeneric | options | record | teardown | rtspGeneric | ok => exact iff_of_true rfl trivial

/-- `handle_client` runs the handler of `route_request` in either mode. -/
theorem handleRequest_eq : handleRequest P sk pk e s r body =
    (routeRequest r.method r.path).run P sk pk e s r body := by
  rw [handleRequest]
  split_ifs with hactive
  · exact dispatchers_agree P sk pk e s r body
  · rfl

/-- **Exactly which requests get one complete response**, whatever the state and however much every `send` takes. -/
theorem oneResponse_iff (hcseq : 0 < r.cseq) :
    (∃ o, handleRequest P sk pk e s r body = some o ∧ OneResponse P r s o) ↔
      (routeRequest r.method r.path).Survives P sk pk e s body ∧ routeRequest r.method r.path ≠ .fpSetup ∧
        (routeRequest r.method r.path).KeepsProtocol r ∧
        ∀ reply ∈ (routeRequest r.method r.path).answer P sk pk e s r body, reply.Delivered e.reply s.enc.active := by
  rw [handleRequest_eq]
  generalize routeRequest r.method r.path = h
  constructor
  · rintro ⟨o, hrun, reply, hone, hproto, hcs, hheaded, hsent⟩
    obtain ⟨reply', hanswer, hans⟩ := run_answers h hrun
    obtain rfl : reply' = reply := List.singleton_inj.mp (hans.replies.symm.trans hone)
    obtain ⟨hrtsp, hcseq'⟩ := answer_rtsp h hanswer
    have hfp : h ≠ .fpSetup := by
      rintro rfl
      rw [hcs] at hcseq'
      exact absurd hcseq'.symm hcseq.ne
    refine ⟨(survives_iff h).mp (by rw [hrun]; rfl), hfp, (rtsp_keeps hfp).mp (hrtsp ▸ hproto), fun reply' hmem => ?_⟩
    obtain rfl := Option.some.inj (hanswer.symm.trans hmem)
    exact hans.delivered.mp hsent
  · rintro ⟨hsurvives, hfp, hkeeps, hdelivered⟩
    obtain ⟨o, hrun⟩ := Option.isSome_iff_exists.mp ((survives_iff h).mpr hsurvives)
    obtain ⟨reply, hanswer, hans⟩ := run_answers h hrun
    obtain ⟨hrtsp, hcs⟩ := answer_rtsp h hanswer
    have hcseq' : reply.cseq = r.cseq := by
      cases h with
      | fpSetup => exact absurd rfl hfp
      | _ => exact hcs
    exact ⟨o, hrun, reply, hans.replies, hrtsp ▸ (rtsp_keeps hfp).mpr hkeeps, hcseq', Reply.headed (hcseq'.symm ▸ hcseq),
      hans.delivered.mpr (hdelivered reply hanswer)⟩

end Handlers

/-! ### Requests -/

/-- The process before the first request. -/
def ControlState.init : ControlState where
  pair := none
  enc := { zeroCtx with active := false }
  eventEnc := { zeroCtx with active := false }
  session := .init fun _ => none
  screen := ⟨-1, 0, 0, Block.zero 32, false, false⟩
  iphoneTimingPort := 0
  iphoneIp := []
  baa := none

/-- A `send` takes what it is given. -/
def ControlEnv.sending : ControlEnv where
  reply := ⟨true, .ok, some maxFrame, some maxFrame⟩
  create := true
  setup := .ok 0 (Block.zero 32)
  verify := .ok (Block.zero 32)
  infoPlist := none
  plistKey _ := none
  emptyPlist := []
  issued := none
  ourPK := Block.zero 32
  encSig _ _ := none
  setupRequest _ := .streams []
  peer := none
  sessionCalls := noCalls
  streamCalls _ := (noCalls .timing, noCalls .timing)
  setupPlist _ := none
  eventClient := false
  requestUI := none
  eventFrame := .ok

/-- A FLUSH. -/
def flushRequest : HTTPReq :=
  { HTTPReq.zero with method := ascii "FLUSH", path := ascii "/", protocol := ascii "RTSP/1.0", cseq := 3 }

/-- A FLUSH gets its one response. -/
theorem oneResponse_flush : ∃ o, handleRequest .toy (Block.zero 32) (Block.zero 32) .sending .init flushRequest [] =
    some o ∧ OneResponse .toy flushRequest .init o := by
  refine (oneResponse_iff (by decide)).mpr ?_
  have hroute : routeRequest flushRequest.method flushRequest.path = .rtspGeneric := by decide
  rw [hroute]
  refine ⟨trivial, by decide, .inl rfl, ?_⟩
  rintro reply hreply
  cases hreply
  refine .inr (.inr ⟨?_, fun hbody => absurd rfl hbody⟩)
  rintro n hn
  cases hn
  decide

/-- A fp-setup. -/
def fpSetupRequest : HTTPReq :=
  { HTTPReq.zero with method := ascii "POST", path := ascii "/fp-setup", protocol := ascii "RTSP/1.0", cseq := 3 }

/-- The response to an fp-setup has no CSeq. -/
theorem not_oneResponse : ¬ ∀ (P : OpenSSL) sk pk e s r body, 0 < r.cseq →
    ∃ o, handleRequest P sk pk e s r body = some o ∧ OneResponse P r s o := by
  intro hall
  obtain ⟨o, hrun, reply, hone, _, hcseq, _⟩ :=
    hall .toy (Block.zero 32) (Block.zero 32) .sending .init fpSetupRequest [] (by decide)
  have hroute : routeRequest fpSetupRequest.method fpSetupRequest.path = .fpSetup := by decide
  rw [handleRequest_eq, hroute] at hrun
  cases hrun
  cases hone
  exact absurd hcseq (by decide)

end Showcase
