import Showcase.Pair.SetupSound
import Showcase.Pair.VerifyAuth
import Showcase.Services.EncryptedClient
import Showcase.Services.Session

/-!
# `Services.Switch` — from plaintext to encrypted mode

`handle_client` on one connection across the POST /pair-verify that completes verification. The handler sends its
response and then sets `g_enc.active`; the next round reads frames from the socket. The plaintext buffer is not
looked at again, so what arrived behind the request is lost.

* `handleConn` — the plaintext rounds, up to the switch.
* `switch_lossless_iff` — nothing is lost exactly when the request ends with a `recv`.
-/

namespace Showcase

open Lib

/-! ## The plaintext rounds -/

/-- What goes out on the control socket. -/
inductive Sent where
  | plain (text : Bytes)
  /-- The bytes of a frame that `enc_send_frame` sent. -/
  | frame (out : Bytes)

/-- The loop of a connection, and the globals its requests change. -/
structure ConnState where
  client : Client
  pair : Option PairCtx
  enc : EncryptedCtx
  sent : List Sent

/-- What the handling of a call finds: `pair_ctx_create`, the pairing calls, the frame, and what the response takes
    from the request. -/
structure CallEnv where
  create : Bool
  setup : SetupEnv
  verify : VerifyEnv
  send : SendEnv
  rtsp : Bool
  cseq : Int

/-- `send_response`. -/
def sendResponse (P : OpenSSL) (s : ConnState) (text : Bytes) (e : SendEnv) : ConnState :=
  if s.enc.active then
    let r := encSendFrame P.chachaSeal s.enc text e
    { s with enc := r.2.2, sent := s.sent ++ [.frame r.2.1] }
  else { s with sent := s.sent ++ [.plain text] }

/-- `handle_pair_verify` behind the response. -/
def activateControl (P : OpenSSL) (s : ConnState) : ConnState :=
  match s.pair.bind (pairDeriveControlKeys P) with
  | none => s
  | some kp => { s with enc := ⟨kp.readKey, kp.writeKey, 0, 0, true⟩ }

/-- `handle_pair_setup` and `handle_pair_verify`; `none` when the process dies. -/
def handlePairing (P : OpenSSL) (sk pk : Block 32) (e : CallEnv) (s : ConnState) (i : PairInput) :
    Option ConnState :=
  let ok := fun body => responseText e.rtsp 200 "OK" (some "application/octet-stream") body e.cseq
  if i.body.length = 0 then some (sendResponse P s (ok []) e.send)
  else
    match (s.pair.orElse fun _ => if e.create then some (pairCtxCreate sk pk none) else none) with
    | none => some (sendResponse P s (responseText e.rtsp 500 "Internal Error" none [] e.cseq) e.send)
    | some ctx =>
        match pairCall P ctx i with
        | none => none
        | some (ctx, resp) =>
            let s := sendResponse P { s with pair := some ctx } (ok (resp.getD [])) e.send
            match i with
            | .setup _ _ => some s
            | .verify _ _ => some (activateControl P s)

/-- `route_request`, as far as it changes the globals: the other handlers only send. -/
def routeCall (P : OpenSSL) (sk pk : Block 32) (e : CallEnv) (s : ConnState) (x : Call) : Option ConnState :=
  match routeRequest x.method x.path with
  | .pairSetup => handlePairing P sk pk e s (.setup x.body e.setup)
  | .pairVerify => handlePairing P sk pk e s (.verify x.body e.verify)
  | _ => some s

/-- The rounds of `handle_client` until `g_enc.active` is set; `chunks` are the results of `recv`, and `env n` what
    the call number `n` finds. The result comes with what has not been received. -/
def handleConn (P : OpenSSL) (sk pk : Block 32) (env : Nat → CallEnv) (s : ConnState) :
    List Bytes → Option (ConnState × List Bytes)
  | [] => some (s, [])
  | chunk :: chunks =>
      if s.enc.active then some (s, chunk :: chunks)
      else if bufSize - s.client.bufUsed < chunk.length then some (s, [])
      else
        match clientRound s.client chunk with
        | none => none
        | some c =>
            match c.calls.drop s.client.calls.length with
            | [] => handleConn P sk pk env { s with client := c } chunks
            | x :: _ =>
                match routeCall P sk pk (env s.client.calls.length) { s with client := c } x with
                | none => none
                | some s => handleConn P sk pk env s chunks

/-- The socket that `enc_recv_frame` reads from then on. -/
def sockOf (chunks : List Bytes) : Sock := chunks.foldr Sock.push []

theorem sockOf_stream (chunks : List Bytes) : (sockOf chunks).stream = chunks.flatten := by
  induction chunks with
  | nil => rfl
  | cons chunk chunks ih =>
      rw [List.flatten_cons, ← ih]
      exact Sock.stream_push chunk (sockOf chunks)

/-! ## The property -/

/-- The M3 `q` completes verification: `p` is in the buffer, `p` and the chunks are the bytes of `q` and then `post`,
    and the loop runs up to the call for `q`, which sets `g_enc.active`. -/
structure M3Run (P : OpenSSL) (sk pk : Block 32) (env : Nat → CallEnv) (s : ConnState) (mem p : Bytes) (start : Nat)
    (q : ClientRequest) (post : Bytes) (chunks : List Bytes) (s' : ConnState) (rest : List Bytes) : Prop where
  pending : Pending s.client mem p start
  inactive : s.enc.active = false
  stream : p ++ chunks.flatten = q.wire ++ post
  received : ∀ chunk ∈ chunks, chunk ≠ []
  m3 : ∃ items, incoming (env s.client.calls.length).verify.tlv q.body = some (3, items)
  run : handleConn P sk pk env s chunks = some (s', rest)
  call : ∃ x, s'.client.calls = s.client.calls ++ [x] ∧ x.origin = start ∧ start + q.wire.length ≤ x.received
  active : s'.enc.active = true

/-- The response to M3 is plaintext, and the frames are read from the first byte behind it on, from nonce 0. -/
structure SwitchesClean (s s' : ConnState) (rest : List Bytes) (post : Bytes) : Prop where
  response : ∃ text, s'.sent = s.sent ++ [.plain text]
  nonce : s'.enc.readNonce = 0
  stream : (sockOf rest).stream = post

/-- A `recv` ends with the last byte of `q`. -/
def EndsWithRecv (p : Bytes) (chunks : List Bytes) (q : ClientRequest) : Prop :=
  ∃ parts rest, chunks = parts ++ rest ∧ parts ≠ [] ∧ p ++ parts.flatten = q.wire

/-! ## A call -/

section Call

variable {P : OpenSSL} {sk pk : Block 32} {e : CallEnv} {s s' : ConnState} {x : Call}

theorem sendResponse_plain {text : Bytes} {e : SendEnv} (h : s.enc.active = false) :
    sendResponse P s text e = { s with sent := s.sent ++ [.plain text] } := by
  rw [sendResponse, h]
  rfl

/-- The handlers leave the loop alone. -/
theorem sendResponse_client (P : OpenSSL) (s : ConnState) (text : Bytes) (e : SendEnv) :
    (sendResponse P s text e).client = s.client := by
  unfold sendResponse
  split
  · rfl
  · rfl

theorem activateControl_client (P : OpenSSL) (s : ConnState) : (activateControl P s).client = s.client := by
  unfold activateControl
  split
  · rfl
  · rfl

theorem handlePairing_client {i : PairInput} (h : handlePairing P sk pk e s i = some s') :
    s'.client = s.client := by
  unfold handlePairing at h
  simp only at h
  split at h
  · obtain rfl := Option.some.inj h
    exact sendResponse_client ..
  split at h
  · obtain rfl := Option.some.inj h
    exact sendResponse_client ..
  split at h
  · cases h
  cases i with
  | setup body e' =>
      obtain rfl := Option.some.inj h
      exact sendResponse_client ..
  | verify body e' =>
      obtain rfl := Option.some.inj h
      rw [activateControl_client]
      exact sendResponse_client ..

theorem routeCall_client (h : routeCall P sk pk e s x = some s') : s'.client = s.client := by
  unfold routeCall at h
  split at h
  · exact handlePairing_client h
  · exact handlePairing_client h
  · obtain rfl := Option.some.inj h
    rfl

theorem activateControl_active (hplain : s.enc.active = false) (h : (activateControl P s).enc.active = true) :
    (activateControl P s).enc.readNonce = 0 ∧ (activateControl P s).sent = s.sent := by
  unfold activateControl at h ⊢
  split at h
  · rw [hplain] at h
    cases h
  · exact ⟨rfl, rfl⟩

/-- **The call that activates** has sent its response in plaintext before. -/
theorem handlePairing_active {i : PairInput} (hplain : s.enc.active = false)
    (h : handlePairing P sk pk e s i = some s') (hactive : s'.enc.active = true) :
    s'.enc.readNonce = 0 ∧ ∃ text, s'.sent = s.sent ++ [.plain text] := by
  unfold handlePairing at h
  simp only [sendResponse_plain hplain] at h
  have hstill : ∀ {t : ConnState}, t.enc = s.enc → ¬ t.enc.active = true := by
    intro t ht hact
    rw [ht, hplain] at hact
    cases hact
  split at h
  · obtain rfl := Option.some.inj h
    exact absurd hactive (hstill rfl)
  split at h
  · obtain rfl := Option.some.inj h
    exact absurd hactive (hstill rfl)
  split at h
  · cases h
  rename_i ctx resp hcall
  rw [sendResponse_plain (by exact hplain)] at h
  cases i with
  | setup body e' =>
      obtain rfl := Option.some.inj h
      exact absurd hactive (hstill rfl)
  | verify body e' =>
      obtain rfl := Option.some.inj h
      obtain ⟨hnonce, hsent⟩ := activateControl_active (by exact hplain) hactive
      exact ⟨hnonce, _, hsent⟩

theorem routeCall_active (hplain : s.enc.active = false) (h : routeCall P sk pk e s x = some s')
    (hactive : s'.enc.active = true) : s'.enc.readNonce = 0 ∧ ∃ text, s'.sent = s.sent ++ [.plain text] := by
  unfold routeCall at h
  split at h
  · exact handlePairing_active hplain h hactive
  · exact handlePairing_active hplain h hactive
  · obtain rfl := Option.some.inj h
    rw [hplain] at hactive
    cases hactive

end Call

/-! ## The rounds

Up to the call that sets `g_enc.active` the rounds are those of `Services.Client`, on the chunks that they have used;
so its results apply, and what is left is the chunks behind that call. -/

section Rounds

variable {P : OpenSSL} {sk pk : Block 32} {env : Nat → CallEnv} {s s' : ConnState} {mem p chunk : Bytes}
  {start : Nat} {chunks rest : List Bytes} {x : Call}

/-- The loop is that of the plaintext branch, on the chunks in front of the rest. -/
theorem handleConn_client (h : handleConn P sk pk env s chunks = some (s', rest)) :
    ∃ consumed, chunks = consumed ++ rest ∧ handleClient s.client consumed = some s'.client := by
  induction chunks generalizing s with
  | nil =>
      obtain ⟨rfl, rfl⟩ := Prod.mk.inj (Option.some.inj h)
      exact ⟨[], rfl, rfl⟩
  | cons chunk chunks ih =>
      rw [handleConn] at h
      split at h
      · obtain ⟨rfl, rfl⟩ := Prod.mk.inj (Option.some.inj h)
        exact ⟨[], rfl, rfl⟩
      split at h
      · rename_i hroom
        obtain ⟨rfl, rfl⟩ := Prod.mk.inj (Option.some.inj h)
        exact ⟨chunk :: chunks, (List.append_nil _).symm, by rw [handleClient, if_pos hroom]⟩
      rename_i hroom
      split at h
      · cases h
      rename_i c hround
      have hnext : ∀ t : ConnState, t.client = c → handleConn P sk pk env t chunks = some (s', rest) →
          ∃ consumed, chunk :: chunks = consumed ++ rest ∧ handleClient s.client consumed = some s'.client := by
        intro t ht hrun
        obtain ⟨consumed, hchunks, hclient⟩ := ih hrun
        refine ⟨chunk :: consumed, by rw [hchunks]; rfl, ?_⟩
        rw [handleClient, if_neg hroom, hround, Option.bind_some, ← ht]
        exact hclient
      split at h
      · exact hnext _ rfl h
      split at h
      · cases h
      · rename_i hcall
        exact hnext _ (routeCall_client hcall) h

/-- The plaintext rounds end with the switch. -/
theorem handleConn_active (h : s.enc.active = true) : handleConn P sk pk env s chunks = some (s, chunks) := by
  cases chunks with
  | nil => rfl
  | cons chunk chunks => rw [handleConn, if_pos h]

/-- A round makes at most one call. -/
theorem clientRound_calls {c c' : Client} (h : clientRound c chunk = some c') :
    c'.calls = c.calls ∨ ∃ x, c'.calls = c.calls ++ [x] := by
  unfold clientRound at h
  simp only at h
  split at h
  · cases h
  split at h
  · obtain rfl := Option.some.inj h
    exact .inl rfl
  split at h
  · obtain rfl := Option.some.inj h
    exact .inl rfl
  split at h
  · obtain rfl := Option.some.inj h
    exact .inr ⟨_, rfl⟩
  · obtain rfl := Option.some.inj h
    exact .inr ⟨_, rfl⟩

/-- **One round** in plaintext mode: without a call the loop goes on, with one it goes on behind the handler. -/
theorem handleConn_round (hplain : s.enc.active = false) (hroom : chunk.length ≤ bufSize - s.client.bufUsed)
    (h : handleConn P sk pk env s (chunk :: chunks) = some (s', rest)) :
    ∃ c, clientRound s.client chunk = some c ∧
      ((c.calls = s.client.calls ∧ handleConn P sk pk env { s with client := c } chunks = some (s', rest)) ∨
        ∃ x s₁, c.calls = s.client.calls ++ [x] ∧
          routeCall P sk pk (env s.client.calls.length) { s with client := c } x = some s₁ ∧
          handleConn P sk pk env s₁ chunks = some (s', rest)) := by
  rw [handleConn, hplain, if_neg Bool.false_ne_true, if_neg (by omega)] at h
  split at h
  · cases h
  rename_i c hround
  refine ⟨c, hround, ?_⟩
  rcases clientRound_calls hround with hcalls | ⟨x, hcalls⟩
  · rw [hcalls, List.drop_length] at h
    exact .inl ⟨hcalls, h⟩
  · rw [hcalls, List.drop_left] at h
    simp only at h
    split at h
    · cases h
    · rename_i s₁ hcall
      exact .inr ⟨x, s₁, hcalls, hcall, h⟩

/-- The calls are kept. -/
theorem handleConn_grows (h : handleConn P sk pk env s chunks = some (s', rest)) :
    s.client.calls.length ≤ s'.client.calls.length := by
  obtain ⟨consumed, -, hclient⟩ := handleConn_client h
  clear h
  generalize s.client = c at hclient ⊢
  induction consumed generalizing c with
  | nil =>
      rw [← Option.some.inj hclient]
  | cons chunk consumed ih =>
      rw [handleClient] at hclient
      split at hclient
      · rw [← Option.some.inj hclient]
      obtain ⟨c₁, hround, hrun⟩ := Option.bind_eq_some_iff.mp hclient
      have hle := ih c₁ hrun
      rcases clientRound_calls hround with hcalls | ⟨x, hcalls⟩
      · rw [hcalls] at hle
        exact hle
      · rw [hcalls, List.length_append] at hle
        omega

/-- Only a call sets `g_enc.active`. -/
theorem handleConn_calls (hplain : s.enc.active = false) (h : handleConn P sk pk env s chunks = some (s', rest))
    (hactive : s'.enc.active = true) : s.client.calls.length < s'.client.calls.length := by
  induction chunks generalizing s with
  | nil =>
      obtain ⟨rfl, rfl⟩ := Prod.mk.inj (Option.some.inj h)
      rw [hplain] at hactive
      cases hactive
  | cons chunk chunks ih =>
      by_cases hroom : bufSize - s.client.bufUsed < chunk.length
      · rw [handleConn, hplain, if_neg Bool.false_ne_true, if_pos hroom] at h
        obtain ⟨rfl, rfl⟩ := Prod.mk.inj (Option.some.inj h)
        rw [hplain] at hactive
        cases hactive
      obtain ⟨c, -, ⟨hcalls, hrun⟩ | ⟨x, s₁, hcalls, hroute, hrun⟩⟩ := handleConn_round hplain (by omega) h
      · have hlt := ih (s := { s with client := c }) hplain hrun
        rw [hcalls] at hlt
        exact hlt
      · have hgrows := handleConn_grows hrun
        rw [routeCall_client hroute, hcalls, List.length_append] at hgrows
        exact hgrows

/-- A call behind a buffer that was given up has an origin behind it. -/
theorem handleConn_given_up {c : Client} (hpend : Pending s.client mem p start) (hw : ¬ Waits mem (p ++ chunk))
    (hchunk : chunk ≠ []) (hround : clientRound s.client chunk = some c) (hno : c.calls = s.client.calls)
    (hrun : handleConn P sk pk env { s with client := c } chunks = some (s', rest))
    (hcalls : s'.client.calls = s.client.calls ++ [x]) : start < x.origin := by
  have hused := (clientRound_origin (by rw [hpend.used, hpend.received]; omega) hround).1
  rcases clientRound_not_waits hpend hw hround with ⟨r, -, -, hone⟩ | ⟨hempty, hreceived, -⟩
  · exact absurd (congrArg List.length (hno.symm.trans hone)) (by simp)
  · obtain ⟨consumed, -, hclient⟩ := handleConn_client hrun
    obtain ⟨ys, hys, hbound⟩ := handleClient_origin hused hclient
    have hys' : s'.client.calls = c.calls ++ ys := hys
    rw [hcalls, hno] at hys'
    have hx : x ∈ ys := by
      rw [← List.append_cancel_left hys']
      exact List.mem_singleton_self x
    have hle := hbound x hx
    have hpos : 0 < chunk.length := List.length_pos_iff.mpr hchunk
    rw [hempty, hreceived, List.length_append] at hle
    omega

/-- A round that makes a call makes it behind all of the buffer. -/
theorem clientRound_received {c : Client} (hpend : Pending s.client mem p start) (hw : ¬ Waits mem (p ++ chunk))
    (hround : clientRound s.client chunk = some c) (hx : c.calls = s.client.calls ++ [x]) :
    x.received = start + (p ++ chunk).length := by
  rcases clientRound_not_waits hpend hw hround with ⟨r, -, -, hone⟩ | ⟨-, -, hnone⟩
  · rw [hx] at hone
    rw [(List.cons.inj (List.append_cancel_left hone)).1]
    rfl
  · exact absurd (congrArg List.length (hx.symm.trans hnone)) (by simp)

/-- **The first call sets `g_enc.active`.** The loop waits until all of the request is in the buffer, and stops
    behind the call. -/
theorem handleConn_first (hpend : Pending s.client mem p start) (hplain : s.enc.active = false)
    (hne : ∀ chunk ∈ chunks, chunk ≠ []) (h : handleConn P sk pk env s chunks = some (s', rest))
    (hcalls : s'.client.calls = s.client.calls ++ [x]) (horigin : x.origin = start)
    (hactive : s'.enc.active = true) :
    ∃ parts last, chunks = parts ++ last :: rest ∧
      (∀ pre post, parts = pre ++ post → pre ≠ [] → Waits mem (p ++ pre.flatten)) ∧
      (p ++ parts.flatten ++ last).length ≤ bufSize ∧
      x.received = start + (p ++ parts.flatten ++ last).length ∧
      s'.enc.readNonce = 0 ∧ ∃ text, s'.sent = s.sent ++ [.plain text] := by
  induction chunks generalizing s p with
  | nil =>
      obtain ⟨rfl, rfl⟩ := Prod.mk.inj (Option.some.inj h)
      rw [hplain] at hactive
      cases hactive
  | cons chunk chunks ih =>
      by_cases hroom : bufSize - s.client.bufUsed < chunk.length
      · rw [handleConn, hplain, if_neg Bool.false_ne_true, if_pos hroom] at h
        obtain ⟨rfl, rfl⟩ := Prod.mk.inj (Option.some.inj h)
        rw [hplain] at hactive
        cases hactive
      obtain ⟨c, hround, hcase⟩ := handleConn_round hplain (by omega) h
      have hfit : (p ++ chunk).length ≤ bufSize := by
        have hpos : 0 < chunk.length := List.length_pos_iff.mpr (hne chunk List.mem_cons_self)
        rw [hpend.used] at hroom
        rw [List.length_append]
        omega
      by_cases hw : Waits mem (p ++ chunk)
      · obtain ⟨c₁, hround₁, hpend₁, hcalls₁⟩ := clientRound_waits hpend hw
        obtain rfl := Option.some.inj (hround.symm.trans hround₁)
        have hrun : handleConn P sk pk env { s with client := c } chunks = some (s', rest) := by
          rcases hcase with ⟨-, hrun⟩ | ⟨y, s₁, hy, -, -⟩
          · exact hrun
          · exact absurd (congrArg List.length (hcalls₁.symm.trans hy)) (by simp)
        obtain ⟨parts, last, rfl, hwaits, hfits, hreceived, hend⟩ :=
          ih (s := { s with client := c }) hpend₁ hplain (fun y hy => hne y (List.mem_cons_of_mem _ hy)) hrun
            (by rw [hcalls, hcalls₁])
        refine ⟨chunk :: parts, last, rfl, ?_, ?_, ?_, hend⟩
        · exact waits_cons hw hwaits
        · rw [List.flatten_cons, ← List.append_assoc p]
          exact hfits
        · rw [List.flatten_cons, ← List.append_assoc p]
          exact hreceived
      · rcases hcase with ⟨hno, hrun⟩ | ⟨y, s₁, hy, hroute, hrun⟩
        · have hlt := handleConn_given_up hpend hw (hne chunk List.mem_cons_self) hround hno hrun hcalls
          omega
        · -- this is the call, and it leaves nothing to a later one
          have hclient₁ : s₁.client = c := routeCall_client hroute
          by_cases hact : s₁.enc.active = true
          · obtain ⟨rfl, rfl⟩ := Prod.mk.inj (Option.some.inj ((handleConn_active hact).symm.trans hrun))
            have hxy : x = y := by
              rw [hclient₁, hy] at hcalls
              exact (List.cons.inj (List.append_cancel_left hcalls)).1.symm
            refine ⟨[], chunk, rfl, ?_, ?_, ?_,
              routeCall_active (s := { s with client := c }) hplain hroute hactive⟩
            · intro pre post heq hpre
              exact absurd (List.append_eq_nil_iff.mp heq.symm).1 hpre
            · rw [List.flatten_nil, List.append_nil]
              exact hfit
            · rw [List.flatten_nil, List.append_nil, hxy]
              exact clientRound_received hpend hw hround hy
          · have hmore := handleConn_calls (Bool.eq_false_of_not_eq_true hact) hrun hactive
            rw [hclient₁, hy, hcalls, List.length_append, List.length_append] at hmore
            exact absurd hmore (Nat.lt_irrefl _)

end Rounds

/-! ## The switch -/

section Switch

variable {P : OpenSSL} {sk pk : Block 32} {env : Nat → CallEnv} {s s' : ConnState} {mem p : Bytes} {start : Nat}
  {q : ClientRequest} {post : Bytes} {chunks rest : List Bytes}

/-- The loop does not wait behind a request that is complete. -/
theorem not_waits_wire (hne : q.headers ≠ []) (hle : q.wire.length ≤ bufSize) : ¬ Waits mem q.wire := by
  obtain ⟨r, hparse, hret, -, hbodyLen, hlength, -⟩ :=
    parse_wire hne mem [] (by rw [List.append_nil]; exact hle)
  simp only [List.append_nil, List.length_nil, Nat.add_zero] at hparse hbodyLen
  rintro ⟨r', hparse', hwait⟩
  obtain rfl := Option.some.inj (hparse.symm.trans hparse')
  rcases hwait with ⟨hfalse, -⟩ | ⟨-, -, hshort⟩
  · rw [hret] at hfalse
    cases hfalse
  · rw [hbodyLen, hlength] at hshort
    exact absurd hshort (Nat.lt_irrefl _)

/-- An M3 has a body, and so a header. -/
theorem M3Run.headers (h : M3Run P sk pk env s mem p start q post chunks s' rest) : q.headers ≠ [] := by
  obtain ⟨items, hitems⟩ := h.m3
  have hbody : q.body ≠ [] := by
    intro hnil
    rw [hnil, incoming, if_pos List.length_nil] at hitems
    cases hitems
  obtain ⟨hd, hmem, -⟩ := q.body_ok hbody
  exact List.ne_nil_of_mem hmem

/-- The bytes in front of what is left are the request when what is left is what was sent behind it. -/
theorem endsWithRecv_of_rest (h : M3Run P sk pk env s mem p start q post chunks s' rest)
    (hrest : (sockOf rest).stream = post) : EndsWithRecv p chunks q := by
  obtain ⟨x, hcalls, horigin, -⟩ := h.call
  obtain ⟨parts, last, hchunks, -⟩ :=
    handleConn_first h.pending h.inactive h.received h.run hcalls horigin h.active
  refine ⟨parts ++ [last], rest, by rw [hchunks]; simp, by simp, ?_⟩
  have hstream := h.stream
  rw [sockOf_stream] at hrest
  rw [hchunks, ← hrest, List.flatten_append, List.flatten_cons, ← List.append_assoc, ← List.append_assoc] at hstream
  have hwire := List.append_cancel_right hstream
  rw [← hwire, List.flatten_append, List.flatten_singleton, List.append_assoc]

/-- When the request ends with a `recv`, the loop stops there. -/
theorem rest_of_endsWithRecv (h : M3Run P sk pk env s mem p start q post chunks s' rest)
    (hend : EndsWithRecv p chunks q) : (sockOf rest).stream = post := by
  obtain ⟨x, hcalls, horigin, hlong⟩ := h.call
  obtain ⟨parts, last, hchunks, hwaits, hfits, hreceived, -⟩ :=
    handleConn_first h.pending h.inactive h.received h.run hcalls horigin h.active
  obtain ⟨cut, behind, hcut, hcutne, hwire⟩ := hend
  -- at the end of the request the loop does not wait
  have hnot : ∀ post', parts = cut ++ post' → False := by
    intro post' hparts
    have hwait := hwaits cut post' hparts hcutne
    rw [hwire] at hwait
    refine not_waits_wire h.headers ?_ hwait
    rw [hparts, List.flatten_append, ← List.append_assoc, hwire, List.length_append, List.length_append] at hfits
    omega
  have hlists : cut ++ behind = (parts ++ [last]) ++ rest := by
    rw [← hcut, hchunks, List.append_assoc]
    rfl
  have hexact : cut = parts ++ [last] ∧ behind = rest := by
    rcases List.append_eq_append_iff.mp hlists with ⟨more, hmore, hbehind⟩ | ⟨more, hmore, hrest⟩
    · -- the loop went on behind the request
      rcases List.eq_nil_or_concat more with rfl | ⟨more, y, rfl⟩
      · exact ⟨by rw [hmore, List.append_nil], hbehind⟩
      · rw [List.concat_eq_append, ← List.append_assoc] at hmore
        exact (hnot more (List.append_inj' hmore rfl).1).elim
    · -- the loop stopped in front of its end
      have hmorenil : more = [] := by
        by_contra hne
        obtain ⟨y, hy⟩ := List.exists_mem_of_ne_nil more hne
        have hypos : 0 < y.length := by
          refine List.length_pos_iff.mpr (h.received y ?_)
          rw [hcut, hmore]
          simp [hy]
        have hylen : y.length ≤ more.flatten.length :=
          List.Sublist.length_le (List.sublist_flatten_of_mem hy)
        rw [hreceived] at hlong
        rw [← hwire, hmore, List.flatten_append, List.flatten_append, List.flatten_singleton] at hlong
        simp only [List.length_append] at hlong
        omega
      rw [hmorenil, List.append_nil] at hmore
      rw [hmorenil, List.nil_append] at hrest
      exact ⟨hmore, hrest.symm⟩
  have hstream := h.stream
  rw [hcut, List.flatten_append, ← List.append_assoc, hwire] at hstream
  rw [sockOf_stream, ← hexact.2]
  exact List.append_cancel_left hstream

end Switch

/-- **The switch to encryption.** However the bytes around the M3 that completes verification are cut, the response
    goes out in plaintext and the frames are read from the first byte behind the M3 on, from nonce 0, exactly when
    a `recv` ends with the M3. -/
theorem switch_lossless_iff (P : OpenSSL) (sk pk : Block 32) (env : Nat → CallEnv) (s : ConnState) (mem p : Bytes)
    (start : Nat) (q : ClientRequest) (post : Bytes) (chunks : List Bytes) (s' : ConnState) (rest : List Bytes)
    (h : M3Run P sk pk env s mem p start q post chunks s' rest) :
    SwitchesClean s s' rest post ↔ EndsWithRecv p chunks q := by
  constructor
  · intro hclean
    exact endsWithRecv_of_rest h hclean.stream
  · intro hend
    obtain ⟨x, hcalls, horigin, -⟩ := h.call
    obtain ⟨-, -, -, -, -, -, hnonce, hsent⟩ :=
      handleConn_first h.pending h.inactive h.received h.run hcalls horigin h.active
    exact ⟨hsent, hnonce, rest_of_endsWithRecv h hend⟩

/-! ## An M3 in one chunk -/

section Example

/-- The M3 of a client, sealed under `key`. -/
def m3Body (P : OpenSSL) (key : Block 32) : Bytes :=
  (verifyM3Items P key (ascii "id") (Block.zero 64)).flatMap tlvEncode

theorem tlvChunksSize_short {n : Nat} (hpos : 0 < n) (h : n ≤ 255) : tlvChunksSize n = 2 + n := by
  have hzero : tlvChunksSize 0 = 0 := by rw [tlvChunksSize, if_pos rfl]
  rw [tlvChunksSize, if_neg (by omega), Nat.min_eq_right h, Nat.sub_self, hzero, Nat.add_zero]

theorem tlvEncode_length_short {i : TlvItem} (hpos : 0 < i.data.length) (h : i.data.length ≤ 255) :
    (tlvEncode i).length = 2 + i.data.length := by
  rw [tlvEncode_length, tlvItemSize, if_neg (by omega), tlvChunksSize_short hpos h]

theorem m3Body_length (P : OpenSSL) (key : Block 32) : (m3Body P key).length = 91 := by
  have hid : (ascii "id").length = 2 := by decide
  have hsub : ((verifyM3SubItems (ascii "id") (Block.zero 64)).flatMap tlvEncode).length = 70 := by
    rw [verifyM3SubItems, List.flatMap_cons, List.flatMap_cons, List.flatMap_nil, List.length_append,
      List.length_append, List.length_nil, tlvEncode_length_short (by rw [hid]; omega) (by rw [hid]; omega),
      tlvEncode_length_short (by rw [(Block.zero 64).property]; omega) (by rw [(Block.zero 64).property]; omega),
      (Block.zero 64).property, hid]
  have hsealed : ∀ c : Bytes × Block 16, c.1.length = 70 → (c.1 ++ c.2.val).length = 86 := by
    intro c hc
    rw [List.length_append, hc, c.2.property]
  have hdata := hsealed (P.chachaSeal key (OpenSSL.nonce12 noncePvMsg03) []
    ((verifyM3SubItems (ascii "id") (Block.zero 64)).flatMap tlvEncode)) (by rw [P.seal_length, hsub])
  rw [m3Body, verifyM3Items, List.flatMap_cons, List.flatMap_cons, List.flatMap_nil, List.length_append,
    List.length_append, List.length_nil, tlvEncode_length_short (by exact Nat.one_pos) (by decide),
    tlvEncode_length_short (by rw [hdata]; omega) (by rw [hdata]; omega), hdata]
  rfl

/-- The request with the M3. -/
def m3Request (P : OpenSSL) (key : Block 32) : ClientRequest where
  method := ascii "POST"
  path := ascii "/pair-verify"
  protocol := ascii "HTTP/1.1"
  headers := [(ascii "Content-Length", ascii " 91")]
  body := m3Body P key
  method_ok := post_ok
  path_ok := pairVerify_ok
  protocol_ok := http_ok
  headers_ok := by decide
  cseq_ok := by
    intro h hh hname
    obtain rfl := List.mem_singleton.mp hh
    exact absurd hname (by decide)
  length_ok := by
    intro h hh _
    obtain rfl := List.mem_singleton.mp hh
    rw [m3Body_length]
    show IsNumber (32 :: ascii "91") _
    exact isNumber_blank (by decide) (by decide) (by decide)
  body_ok := fun _ => ⟨_, List.mem_singleton_self _, by decide⟩

theorem m3Request_head (P : OpenSSL) (key : Block 32) :
    (m3Request P key).head = ascii "POST /pair-verify HTTP/1.1\r\nContent-Length: 91\r\n\r\n" := by
  show ascii "POST" ++ 32 :: (ascii "/pair-verify" ++ 32 :: ascii "HTTP/1.1") ++ crlf ++
    [(ascii "Content-Length", ascii " 91")].flatMap (fun h => headerLine h ++ crlf) ++ crlf = _
  decide

/-- A connection in front of the M3. -/
def m3State (ctx : PairCtx) : ConnState :=
  ⟨⟨List.replicate bufSize 0, 0, 0, []⟩, some ctx, ⟨Block.zero 32, Block.zero 32, 0, 0, false⟩, []⟩

/-- Every call of the handler succeeds. -/
def m3Env (_ : Nat) : CallEnv := ⟨true, .ok 0 (Block.zero 32), .ok (Block.zero 32), .ok, false, 0⟩

section Chunk

variable (P : OpenSSL) (sk pk : Block 32) (ctx : PairCtx) (more : List TlvItem)

/-- A round on the M3 and what follows it in the same `recv`: the call has all of it for its body. -/
theorem m3Round (hlen : (more.flatMap tlvEncode).length ≤ 1000) :
    ∃ c x,
      clientRound (m3State ctx).client ((m3Request P ctx.verifyEncKey).wire ++ more.flatMap tlvEncode) = some c ∧
      c.calls = [x] ∧ x.origin = 0 ∧ (m3Request P ctx.verifyEncKey).wire.length ≤ x.received ∧
      routeRequest x.method x.path = .pairVerify ∧
      x.body = m3Body P ctx.verifyEncKey ++ more.flatMap tlvEncode := by
  generalize hextra : more.flatMap tlvEncode = extra at hlen ⊢
  generalize hq : m3Request P ctx.verifyEncKey = q
  have hheaders : q.headers ≠ [] := by
    rw [← hq]
    exact List.cons_ne_nil _ _
  have hwire : q.wire.length ≤ 200 := by
    have hshort : (ascii "POST /pair-verify HTTP/1.1\r\nContent-Length: 91\r\n\r\n").length ≤ 100 := by decide
    rw [← hq, ClientRequest.wire, List.length_append, m3Request_head,
      show (m3Request P ctx.verifyEncKey).body.length = 91 from m3Body_length P _]
    omega
  have hsize : bufSize = 65536 := rfl
  obtain ⟨r, hparse, hret, -, hbodyLen, hlength, hcontent⟩ :=
    parse_wire hheaders (List.replicate bufSize 0) extra (by rw [List.length_append]; omega)
  have hx := hcontent 0 (0 + (q.wire ++ extra).length)
  simp only [Call.content, Prod.mk.injEq] at hx
  obtain ⟨hmethod, hpath, -, -, hbody⟩ := hx
  have hround : ∃ c, clientRound ⟨List.replicate bufSize 0, 0, 0, []⟩ (q.wire ++ extra) = some c ∧ c.calls =
      [callOf (overlay (List.replicate bufSize 0) (q.wire ++ extra)) r.req 0 (0 + (q.wire ++ extra).length)] := by
    rw [clientRound_pending (pending_init _), List.nil_append, hparse]
    simp only [hret, Bool.true_eq_false, if_false]
    rw [if_neg (by rw [hbodyLen, hlength]; omega)]
    split
    · exact ⟨_, rfl, rfl⟩
    · exact ⟨_, rfl, rfl⟩
  obtain ⟨c, hc, hcalls⟩ := hround
  refine ⟨c, _, hc, hcalls, rfl, ?_, ?_, ?_⟩
  · show q.wire.length ≤ 0 + (q.wire ++ extra).length
    rw [List.length_append]
    omega
  · rw [hmethod, hpath, ← hq]
    show routeRequest ((ascii "POST").take 15) ((ascii "/pair-verify").take 511) = _
    decide
  · rw [hbody, ← hq]
    rfl

/-- The call completes verification. -/
theorem m3Call {s : ConnState} {x : Call} (hpair : s.pair = some ctx) (hplain : s.enc.active = false)
    (hsep : Separated (verifyM3Items P ctx.verifyEncKey (ascii "id") (Block.zero 64) ++ more))
    (hmore : more.length ≤ 1)
    (hroute : routeRequest x.method x.path = .pairVerify)
    (hbody : x.body = m3Body P ctx.verifyEncKey ++ more.flatMap tlvEncode) :
    ∃ s', routeCall P sk pk (m3Env 0) s x = some s' ∧ s'.enc.active = true := by
  have hmax : (verifyM3Items P ctx.verifyEncKey (ascii "id") (Block.zero 64) ++ more).length ≤ maxTlvItems := by
    have htwo : (verifyM3Items P ctx.verifyEncKey (ascii "id") (Block.zero 64)).length = 2 := rfl
    have hsixteen : maxTlvItems = 16 := rfl
    rw [List.length_append]
    omega
  have hitems : x.body =
      (verifyM3Items P ctx.verifyEncKey (ascii "id") (Block.zero 64) ++ more).flatMap tlvEncode := by
    rw [hbody, List.flatMap_append]
    rfl
  have hin : incoming TlvAlloc.ok x.body
      = some (3, verifyM3Items P ctx.verifyEncKey (ascii "id") (Block.zero 64) ++ more) := by
    rw [hitems]
    exact incoming_build hsep hmax
  obtain ⟨-, ⟨resp, hcall⟩, -⟩ := verifyM3_items P ctx (ascii "id") (Block.zero 64) hin rfl
  have hnonempty : ¬ x.body.length = 0 := by
    rw [hbody, List.length_append, m3Body_length]
    omega
  rw [routeCall, hroute]
  show ∃ s', handlePairing P sk pk (m3Env 0) s (.verify x.body (.ok (Block.zero 32))) = some s' ∧ _
  rw [handlePairing]
  simp only [PairInput.body, hnonempty, if_false, hpair, Option.orElse_some, hcall]
  refine ⟨_, rfl, ?_⟩
  rw [sendResponse_plain (by exact hplain)]
  rfl

/-- The chunk of such an M3 is a run that completes verification. -/
theorem m3Run_chunk (rest : List Bytes)
    (hsep : Separated (verifyM3Items P ctx.verifyEncKey (ascii "id") (Block.zero 64) ++ more))
    (hmore : more.length ≤ 1) (hlen : (more.flatMap tlvEncode).length ≤ 1000) (hne : ∀ chunk ∈ rest, chunk ≠ []) :
    ∃ s', M3Run P sk pk m3Env (m3State ctx) (List.replicate bufSize 0) [] 0 (m3Request P ctx.verifyEncKey)
      (more.flatMap tlvEncode ++ rest.flatten)
      (((m3Request P ctx.verifyEncKey).wire ++ more.flatMap tlvEncode) :: rest) s' rest := by
  obtain ⟨c, x, hround, hcalls, horigin, hreceived, hroute, hbody⟩ := m3Round P ctx more hlen
  obtain ⟨s', hcall, hactive⟩ :=
    m3Call (s := { m3State ctx with client := c }) P sk pk ctx more rfl rfl hsep hmore hroute hbody
  have hclient : s'.client = c := routeCall_client hcall
  have hfits : ¬ bufSize - (m3State ctx).client.bufUsed <
      ((m3Request P ctx.verifyEncKey).wire ++ more.flatMap tlvEncode).length := by
    have hhead : (ascii "POST /pair-verify HTTP/1.1\r\nContent-Length: 91\r\n\r\n").length ≤ 100 := by decide
    have hsize : bufSize = 65536 := rfl
    rw [List.length_append, ClientRequest.wire, List.length_append, m3Request_head,
      show (m3Request P ctx.verifyEncKey).body.length = 91 from m3Body_length P _,
      show (m3State ctx).client.bufUsed = 0 from rfl]
    omega
  refine ⟨s', pending_init _, rfl, ?_, ?_, ⟨_, incoming_verifyM3 P _ _ _⟩, ?_, ?_, hactive⟩
  · rw [List.nil_append, List.flatten_cons, List.append_assoc]
  · intro chunk hchunk
    rcases List.mem_cons.mp hchunk with rfl | hchunk
    · exact List.append_ne_nil_of_left_ne_nil (List.ne_nil_of_length_pos (wire_pos _)) _
    · exact hne chunk hchunk
  · have hplain : (m3State ctx).enc.active = false := rfl
    rw [handleConn, hplain, if_neg Bool.false_ne_true, if_neg hfits, hround]
    simp only
    rw [show c.calls.drop (m3State ctx).client.calls.length = [x] from hcalls]
    show (match routeCall P sk pk (m3Env 0) { m3State ctx with client := c } x with
      | none => none
      | some s => handleConn P sk pk m3Env s rest) = _
    rw [hcall]
    exact handleConn_active hactive
  · exact ⟨x, by rw [hclient, hcalls]; rfl, horigin, by rw [Nat.zero_add]; exact hreceived⟩

end Chunk

/-- The M3 comes in a `recv` of its own, a frame behind it. -/
theorem switch_lossless_m3 :
    ∃ (ctx : PairCtx) (s' : ConnState), SwitchesClean (m3State ctx) s' [[16, 0]] [16, 0] := by
  let ctx := pairCtxCreate (Block.zero 32) (Block.zero 32) none
  obtain ⟨s', hrun⟩ := m3Run_chunk .toy (Block.zero 32) (Block.zero 32) ctx [] [[16, 0]]
    (by simp [Separated, verifyM3Items, tlvState, tlvEncryptedData]) (by decide) (by decide) (by decide)
  refine ⟨ctx, s', (switch_lossless_iff _ _ _ _ _ _ _ _ _ _ _ _ _ hrun).mpr ?_⟩
  exact ⟨[(m3Request .toy ctx.verifyEncKey).wire], [[16, 0]], by simp, List.cons_ne_nil _ _, by simp⟩

/-- The first bytes of the next frame come with the M3: they are lost. -/
theorem switch_loses :
    ¬ ∃ P : OpenSSL, ∀ (sk pk : Block 32) (env : Nat → CallEnv) (s : ConnState) (mem p : Bytes) (start : Nat)
      (q : ClientRequest) (post : Bytes) (chunks : List Bytes) (s' : ConnState) (rest : List Bytes),
      M3Run P sk pk env s mem p start q post chunks s' rest → SwitchesClean s s' rest post := by
  rintro ⟨P, hall⟩
  -- the context behind an M1
  obtain ⟨ctx, -⟩ := verifyM1_step P (pairCtxCreate (Block.zero 32) (Block.zero 32) none) (Block.zero 32)
      (Block.zero 32)
  obtain ⟨s', hrun⟩ := m3Run_chunk P (Block.zero 32) (Block.zero 32) ctx [⟨16, []⟩] []
    (by simp [Separated, verifyM3Items, tlvState, tlvEncryptedData]) (by decide) (by decide) (by decide)
  have hstream := (hall _ _ _ _ _ _ _ _ _ _ _ _ hrun).stream
  have hlen := congrArg List.length hstream
  exact absurd hlen (by decide)

end Example

end Showcase
