import Showcase.Services.Connections
import Showcase.Services.Switch

/-!
# `Services.Plaintext` — what is written in plaintext behind the activation

Every handler but one answers through `send_response`, which looks at `g_enc.active` each time; `handle_options`
calls `send` itself, in encrypted mode too.

* `noPlaintext_iff` — from the activation on, exactly the OPTIONS requests are answered outside of a frame.
* `options_in_plaintext` — an OPTIONS request in a frame.
-/

namespace Showcase

open Lib

/-! ## Frames on the socket -/

/-- The bytes are part of a frame that `enc_send_frame` produces: what its `send` loop has sent of it. -/
def PartOfFrame (P : OpenSSL) (out : Bytes) : Prop :=
  ∃ key nonce data, data.length ≤ maxFrame ∧ out <+: sealedFrame P.chachaSeal key nonce data

/-- The `send` loop sends from the front. -/
theorem sendLoop_front (sends : List Nat) (out : Bytes) : (sendLoop sends out).1 <+: out := by
  induction sends generalizing out with
  | nil =>
      cases out with
      | nil => exact List.prefix_refl _
      | cons b out => exact List.nil_prefix
  | cons n sends ih =>
      cases out with
      | nil => exact List.prefix_refl _
      | cons b out =>
          cases n with
          | zero => exact List.nil_prefix
          | succ n =>
              have hout : b :: out = (b :: out.take n) ++ out.drop n := by
                rw [List.cons_append, List.take_append_drop]
              rw [sendLoop, hout]
              exact (List.prefix_append_right_inj _).mpr (ih (out.drop n))

/-- The second byte of a frame is the upper half of a length. -/
theorem not_partOfFrame {P : OpenSSL} {a b : UInt8} {rest : Bytes} (h : 64 < b.toNat) :
    ¬ PartOfFrame P (a :: b :: rest) := by
  rintro ⟨key, nonce, data, hlen, t, ht⟩
  have hmax : maxFrame = 16384 := rfl
  have hb : b = UInt8.ofNat (data.length / 256 % 256) := by
    simp only [sealedFrame, lenHeader, List.cons_append, List.cons.injEq] at ht
    exact ht.2.1
  rw [hb, UInt8.toNat_ofNat'] at h
  omega

/-- The answer of `handle_options` begins with text. -/
theorem options_not_partOfFrame (P : OpenSSL) (rtsp : Bool) (cseq : Int) :
    ¬ PartOfFrame P (optionsText rtsp cseq) := by
  cases rtsp with
  | true => exact not_partOfFrame (a := 82) (b := 84) (by decide)
  | false => exact not_partOfFrame (a := 72) (b := 84) (by decide)

/-! ## OPTIONS -/

theorem routeRequest_options (method path : Bytes) :
    routeRequest method path = .options ↔ strncaseeq method (ascii "OPTIONS") = true := by
  constructor
  · intro h
    unfold routeRequest at h
    split at h
    · split at h
      · cases h
      · cases h
    split at h
    · unfold routePost at h
      repeat' split at h
      all_goals cases h
    split at h
    · assumption
    repeat' split at h
    all_goals cases h
  · intro h
    have hget := strncaseeq_unique (show strncaseeq (ascii "OPTIONS") (ascii "GET") = false by decide) h
    have hpost := strncaseeq_unique (show strncaseeq (ascii "OPTIONS") (ascii "POST") = false by decide) h
    simp only [routeRequest, hget, hpost, h, Bool.false_eq_true, if_false, if_true]

theorem response_options (h : Handler) : h.response = .options ↔ h = .options := by
  cases h with
  | rtspGeneric => simp [Handler.response]
  | _ => rfl

/-- **Which requests get to `handle_options`**: those with the method OPTIONS, in either branch. -/
theorem routeEncrypted_options (method path : Bytes) :
    routeEncrypted method path = .options ↔ strncaseeq method (ascii "OPTIONS") = true := by
  rw [← routeRequest_options method path, ← response_options (routeEncrypted method path),
    routeEncrypted_response, response_options]

/-! ## What an operation leads to -/

section Ops

variable {P : OpenSSL} {sk pk : Block 32} {g g' : Globals} {op o : ConnOp} {ops rest : List ConnOp}
  {obs : Option ConnObs}

/-- The handlers begin with these operations. -/
theorem handlerOps_cases {h : Handler} {m : Bytes} {r : HTTPReq} {e : HandlerEnv} (ho : o ∈ handlerOps h m r e) :
    (∃ head body e, o = .respond head body e) ∨ (∃ rtsp cseq, o = .options rtsp cseq) ∨
      ∃ i create rtsp cseq e, o = .pair i create rtsp cseq e := by
  cases h with
  | pairSetup => exact .inr (.inr ⟨_, _, _, _, _, List.mem_singleton.mp ho⟩)
  | pairVerify => exact .inr (.inr ⟨_, _, _, _, _, List.mem_singleton.mp ho⟩)
  | options => exact .inr (.inl ⟨_, _, List.mem_singleton.mp ho⟩)
  | info | fpSetup | authSetup | postGeneric | rtspSetup | record | teardown | rtspGeneric | ok =>
      obtain ⟨⟨head, body, e⟩, -, rfl⟩ := List.mem_map.mp ho
      exact .inl ⟨head, body, e, rfl⟩

theorem requestOps_cases {route : Bytes → Bytes → Handler} {m : Bytes} {len : Nat} {e : HandlerEnv}
    (h : requestOps route m len e = some ops) (ho : o ∈ ops) :
    (∃ head body e, o = .respond head body e) ∨ (∃ rtsp cseq, o = .options rtsp cseq) ∨
      ∃ i create rtsp cseq e, o = .pair i create rtsp cseq e := by
  unfold requestOps at h
  split at h
  · cases h
  split at h
  · obtain rfl := Option.some.inj h
    exact handlerOps_cases ho
  · obtain rfl := Option.some.inj h
    cases ho

/-- The pairing endpoints leave the transport alone, and go on with their response. -/
theorem pairEndpoint_cases {i : PairInput} {create rtsp : Bool} {cseq : Int} {e : SendEnv}
    (h : pairEndpoint P sk pk g i create rtsp cseq e = some (g', ops)) :
    g'.enc = g.enc ∧ ∀ o ∈ ops, (∃ head body e, o = .respond head body e) ∨ o = .controlKeys := by
  unfold pairEndpoint at h
  split at h
  · obtain ⟨rfl, rfl⟩ := Prod.mk.inj (Option.some.inj h)
    refine ⟨rfl, fun o ho => .inl ?_⟩
    exact ⟨_, _, _, List.mem_singleton.mp ho⟩
  split at h
  · obtain ⟨rfl, rfl⟩ := Prod.mk.inj (Option.some.inj h)
    refine ⟨rfl, fun o ho => .inl ?_⟩
    exact ⟨_, _, _, List.mem_singleton.mp ho⟩
  split at h
  · cases h
  · obtain ⟨rfl, rfl⟩ := Prod.mk.inj (Option.some.inj h)
    refine ⟨rfl, fun o ho => ?_⟩
    rcases List.mem_cons.mp ho with rfl | ho
    · exact .inl ⟨_, _, _, rfl⟩
    · cases i with
      | setup body e => cases ho
      | verify body e => exact .inr (List.mem_singleton.mp ho)

/-- **Only the activation sets `g_enc.active`**, and nothing resets it. -/
theorem exec_active (h : op.exec P sk pk g = some (g', obs, ops)) :
    g'.enc.active = g.enc.active ∨ (op = .activate ∧ g'.enc.active = true) := by
  cases op with
  | recvPlain | recvFrame => cases h
  | round | respond | plain | sealFrame | encrypt | transmit | options | countRead | count =>
      obtain ⟨rfl, -⟩ := Prod.mk.inj (Option.some.inj h)
      exact .inl rfl
  | activate =>
      obtain ⟨rfl, -⟩ := Prod.mk.inj (Option.some.inj h)
      exact .inr ⟨rfl, rfl⟩
  | activateEvent =>
      obtain ⟨rfl, -⟩ := Prod.mk.inj (Option.some.inj h)
      exact .inl rfl
  | decrypt =>
      simp only [ConnOp.exec] at h
      split at h
      · obtain ⟨rfl, -⟩ := Prod.mk.inj (Option.some.inj h)
        exact .inl rfl
      · obtain ⟨_, -, heq⟩ := Option.map_eq_some_iff.mp h
        obtain ⟨rfl, -⟩ := Prod.mk.inj heq
        exact .inl rfl
  | pair =>
      obtain ⟨⟨g₁, ops₁⟩, hpair, heq⟩ := Option.map_eq_some_iff.mp h
      obtain ⟨rfl, -⟩ := Prod.mk.inj heq
      exact .inl (congrArg _ (pairEndpoint_cases hpair).1)
  | controlKeys =>
      simp only [ConnOp.exec] at h
      split at h
      · obtain ⟨rfl, -⟩ := Prod.mk.inj (Option.some.inj h)
        exact .inl rfl
      · obtain ⟨rfl, -⟩ := Prod.mk.inj (Option.some.inj h)
        exact .inl rfl
  | eventKeys =>
      simp only [ConnOp.exec] at h
      split at h
      · obtain ⟨rfl, -⟩ := Prod.mk.inj (Option.some.inj h)
        exact .inl rfl
      · obtain ⟨rfl, -⟩ := Prod.mk.inj (Option.some.inj h)
        exact .inl rfl

/-- What an operation sends is plaintext of `send_response`, a part of its frame, or the answer to OPTIONS. -/
theorem exec_wrote {out : Bytes} (h : op.exec P sk pk g = some (g', some (.wrote out), ops)) :
    op = .plain out ∨ (∃ frame e, op = .transmit frame e ∧ out <+: frame) ∨
      ∃ rtsp cseq, op = .options rtsp cseq ∧ out = optionsText rtsp cseq := by
  cases op with
  | plain text =>
      simp only [ConnOp.exec, Option.some.injEq, Prod.mk.injEq, ConnObs.wrote.injEq] at h
      exact .inl (by rw [h.2.1])
  | transmit frame e =>
      simp only [ConnOp.exec, Option.some.injEq, Prod.mk.injEq, ConnObs.wrote.injEq] at h
      exact .inr (.inl ⟨frame, e, rfl, h.2.1 ▸ sendLoop_front e.sends frame⟩)
  | options rtsp cseq =>
      simp only [ConnOp.exec, Option.some.injEq, Prod.mk.injEq, ConnObs.wrote.injEq] at h
      exact .inr (.inr ⟨rtsp, cseq, rfl, h.2.1.symm⟩)
  | recvPlain | recvFrame => cases h
  | round | respond | sealFrame | encrypt | countRead | count | activate | activateEvent =>
      simp [ConnOp.exec] at h
  | decrypt | controlKeys | eventKeys =>
      simp only [ConnOp.exec] at h
      split at h
      · simp at h
      · simp at h
  | pair =>
      simp [ConnOp.exec] at h

end Ops

/-! ## What is left to do on a connection

Whether a connection will write plaintext is decided when its operations are put on the list, and `g_enc.active` is
looked at again when they are done. So the list of a connection is followed, behind the activation, operation by
operation. -/

/-- What waits to be sent is a frame. -/
def ConnOp.Framed (P : OpenSSL) : ConnOp → Prop
  | .encrypt _ data _ => data.length ≤ maxFrame
  | .transmit frame _ => ∃ key nonce data, data.length ≤ maxFrame ∧ frame = sealedFrame P.chachaSeal key nonce data
  | _ => True

/-- There is no plaintext of `send_response` to be sent. -/
def NoPlain (todo : List ConnOp) : Prop := ∀ text, .plain text ∉ todo

/-- The rest of a connection: its frames are frames, and plaintext is only sent at once. -/
structure TodoOk (P : OpenSSL) (todo : List ConnOp) : Prop where
  framed : ∀ o ∈ todo, o.Framed P
  plain : ∃ (texts : List Bytes) (rest : List ConnOp), todo = texts.map .plain ++ rest ∧ NoPlain rest

section Todo

variable {P : OpenSSL} {sk pk : Block 32} {g g' : Globals} {op : ConnOp} {ops rest : List ConnOp}
  {obs : Option ConnObs}

theorem noPlain_append {a b : List ConnOp} (ha : NoPlain a) (hb : NoPlain b) : NoPlain (a ++ b) := by
  intro text hmem
  rcases List.mem_append.mp hmem with hmem | hmem
  · exact ha text hmem
  · exact hb text hmem

theorem requestOps_framed {route : Bytes → Bytes → Handler} {m : Bytes} {len : Nat} {e : HandlerEnv}
    (h : requestOps route m len e = some ops) : (∀ o ∈ ops, o.Framed P) ∧ NoPlain ops := by
  refine ⟨fun o ho => ?_, fun text hmem => ?_⟩
  · rcases requestOps_cases h ho with ⟨_, _, _, rfl⟩ | ⟨_, _, rfl⟩ | ⟨_, _, _, _, _, rfl⟩
    · trivial
    · trivial
    · trivial
  · rcases requestOps_cases h hmem with ⟨_, _, _, heq⟩ | ⟨_, _, heq⟩ | ⟨_, _, _, _, _, heq⟩
    · cases heq
    · cases heq
    · cases heq

/-- **What an operation leads to**: frames, and plaintext only where `g_enc.active` is not set. -/
theorem exec_framed (hop : op.Framed P) (h : op.exec P sk pk g = some (g', obs, ops)) :
    (∀ o ∈ ops, o.Framed P) ∧
      (NoPlain ops ∨ (g.enc.active = false ∧ ∃ texts : List Bytes, ops = texts.map .plain)) := by
  cases op with
  | recvPlain | recvFrame => cases h
  | countRead | plain | count | options | activate | activateEvent =>
      simp only [ConnOp.exec, Option.some.injEq, Prod.mk.injEq] at h
      obtain ⟨-, -, rfl⟩ := h
      simp [NoPlain, ConnOp.Framed]
  | round =>
      simp only [ConnOp.exec, Option.some.injEq, Prod.mk.injEq] at h
      obtain ⟨-, -, rfl⟩ := h
      split
      · simp [NoPlain, ConnOp.Framed]
      · simp [NoPlain, ConnOp.Framed]
  | respond head body e =>
      simp only [ConnOp.exec, Option.some.injEq, Prod.mk.injEq] at h
      obtain ⟨-, -, rfl⟩ := h
      cases hact : g.enc.active with
      | true => simp [NoPlain, ConnOp.Framed]
      | false =>
          by_cases hbody : body = []
          · simp only [Bool.false_eq_true, if_false, hbody, if_true]
            exact ⟨by simp [ConnOp.Framed], .inr ⟨trivial, [head], rfl⟩⟩
          · simp only [Bool.false_eq_true, if_false, hbody]
            exact ⟨by simp [ConnOp.Framed], .inr ⟨trivial, [head, body], rfl⟩⟩
  | sealFrame data e =>
      simp only [ConnOp.exec, Option.some.injEq, Prod.mk.injEq] at h
      obtain ⟨-, -, rfl⟩ := h
      split
      · simp [NoPlain]
      · rename_i hlen
        simp only [NoPlain, ConnOp.Framed, List.mem_singleton, forall_eq]
        exact ⟨by omega, .inl (by simp)⟩
  | encrypt nonce data e =>
      simp only [ConnOp.exec, Option.some.injEq, Prod.mk.injEq] at h
      obtain ⟨-, -, rfl⟩ := h
      split
      · simp [NoPlain]
      · simp only [NoPlain, ConnOp.Framed, List.mem_singleton, forall_eq]
        exact ⟨⟨_, _, data, hop, rfl⟩, .inl (by simp)⟩
  | transmit out e =>
      simp only [ConnOp.exec, Option.some.injEq, Prod.mk.injEq] at h
      obtain ⟨-, -, rfl⟩ := h
      split
      · simp [NoPlain, ConnOp.Framed]
      · simp [NoPlain]
  | decrypt nonce ct tag ptBuf e =>
      simp only [ConnOp.exec] at h
      split at h
      · simp only [Option.some.injEq, Prod.mk.injEq] at h
        obtain ⟨-, -, rfl⟩ := h
        simp [NoPlain]
      · obtain ⟨reqs, hreqs, heq⟩ := Option.map_eq_some_iff.mp h
        simp only [Prod.mk.injEq] at heq
        obtain ⟨-, -, rfl⟩ := heq
        obtain ⟨hframed, hplain⟩ := requestOps_framed (P := P) hreqs
        refine ⟨fun o ho => ?_, .inl ?_⟩
        · rcases List.mem_cons.mp ho with rfl | ho
          · trivial
          rcases List.mem_append.mp ho with ho | ho
          · exact hframed o ho
          · rw [List.mem_singleton.mp ho]
            trivial
        · exact noPlain_append (a := [.countRead]) (by simp [NoPlain])
            (noPlain_append hplain (by simp [NoPlain]))
  | pair i create rtsp cseq e =>
      obtain ⟨⟨g₁, ops₁⟩, hpair, heq⟩ := Option.map_eq_some_iff.mp h
      simp only [Prod.mk.injEq] at heq
      obtain ⟨-, -, rfl⟩ := heq
      have hcases := (pairEndpoint_cases hpair).2
      refine ⟨fun o ho => ?_, .inl fun text hmem => ?_⟩
      · rcases hcases o ho with ⟨_, _, _, rfl⟩ | rfl
        · trivial
        · trivial
      · rcases hcases _ hmem with ⟨_, _, _, heq⟩ | heq
        · cases heq
        · cases heq
  | controlKeys | eventKeys =>
      simp only [ConnOp.exec] at h
      split at h
      · simp only [Option.some.injEq, Prod.mk.injEq] at h
        obtain ⟨-, -, rfl⟩ := h
        simp [NoPlain]
      · simp only [Option.some.injEq, Prod.mk.injEq] at h
        obtain ⟨-, -, rfl⟩ := h
        simp [NoPlain, ConnOp.Framed]

/-- Behind an operation that is not plaintext there is no plaintext. -/
theorem TodoOk.behind (h : TodoOk P (op :: rest)) (hop : ∀ text, op ≠ .plain text) : NoPlain rest := by
  obtain ⟨texts, others, heq, hplain⟩ := h.plain
  cases texts with
  | nil =>
      intro text hmem
      rw [List.map_nil, List.nil_append] at heq
      exact hplain text (heq ▸ List.mem_cons_of_mem _ hmem)
  | cons text texts => exact absurd (List.cons.inj heq).1 (hop text)

theorem exec_todoOk (hok : TodoOk P (op :: rest)) (h : op.exec P sk pk g = some (g', obs, ops)) :
    TodoOk P (ops ++ rest) := by
  obtain ⟨hframed, hplain⟩ := exec_framed (hok.framed op List.mem_cons_self) h
  refine ⟨fun o ho => ?_, ?_⟩
  · rcases List.mem_append.mp ho with ho | ho
    · exact hframed o ho
    · exact hok.framed o (List.mem_cons_of_mem _ ho)
  by_cases hop : ∃ text, op = .plain text
  · obtain ⟨text, rfl⟩ := hop
    simp only [ConnOp.exec, Option.some.injEq, Prod.mk.injEq] at h
    obtain ⟨-, -, rfl⟩ := h
    obtain ⟨texts, others, heq, hnone⟩ := hok.plain
    cases texts with
    | nil =>
        rw [List.map_nil, List.nil_append] at heq
        exact absurd (heq ▸ List.mem_cons_self) (hnone text)
    | cons t texts => exact ⟨texts, others, (List.cons.inj heq).2, hnone⟩
  · have hrest := hok.behind (fun text heq => hop ⟨text, heq⟩)
    rcases hplain with hnone | ⟨-, texts, rfl⟩
    · exact ⟨[], ops ++ rest, rfl, noPlain_append hnone hrest⟩
    · exact ⟨texts, rest, rfl, hrest⟩

end Todo

/-! ## The activation

Behind it no list has a plaintext operation but that of `handle_options`. This is kept by every step of every
connection, of those that are accepted later as well. -/

/-- `g_enc.active` becomes true in a step of the connection. -/
def Activates (c : ConnId) (x : Step Server ServerInput) : Prop :=
  x.input.part = c ∧ x.pre.globals.enc.active = false ∧ x.post.globals.enc.active = true

/-- `g_enc.active` is set, and the connection is not in the middle of a response in plaintext. -/
def Encrypting (c : ConnId) (s : Server) : Prop :=
  s.globals.enc.active = true ∧ ∀ todo, s.part c = some todo → NoPlain todo

/-- The connection runs `handle_options`. -/
def HandlesOptions (c : ConnId) (x : Step Server ServerInput) : Prop :=
  x.input = ⟨c, .step⟩ ∧ ∃ rtsp cseq rest, x.pre.part c = some (.options rtsp cseq :: rest)

/-- Every byte that goes out on the connection's socket is part of a frame. -/
def NoPlaintext (P : OpenSSL) (sk pk : Block 32) (c : ConnId) (h : List (Step Server ServerInput)) : Prop :=
  ∀ x ∈ h, x.input.part = c → ∀ out, observed P sk pk x = some (.wrote out) → PartOfFrame P out

def ServerOk (P : OpenSSL) (s : Server) : Prop := ∀ c todo, s.part c = some todo → TodoOk P todo

section Activation

variable {P : OpenSSL} {sk pk : Block 32} {s s' : Server} {c c' : ConnId} {ev : ConnEvent} {obs : Option ConnObs}

theorem serverOk_init (P : OpenSSL) : ServerOk P Server.init := by
  intro c todo h
  cases h

/-- What an event leaves to do, other than going on: nothing that waits to be sent. -/
theorem event_framed {g g' : Globals} {old : Option (List ConnOp)} {todo : List ConnOp}
    (h : connStep P sk pk g ev old = some (g', obs, todo)) :
    (∃ op rest ops, old = some (op :: rest) ∧ op.exec P sk pk g = some (g', obs, ops) ∧ todo = ops ++ rest) ∨
      ((∀ o ∈ todo, o.Framed P) ∧ NoPlain todo) := by
  rcases connStep_cases h with ⟨op, rest, ops, -, hold, hexec, htodo⟩ | ⟨-, -, hcase⟩
  · exact .inl ⟨op, rest, ops, hold, hexec, htodo⟩
  right
  rcases hcase with ⟨-, -, rfl⟩ | ⟨-, -, rfl⟩ | ⟨m, len, e, ops, -, -, hops, rfl⟩ | ⟨-, hframe⟩
  · simp [ConnOp.Framed, NoPlain]
  · simp [NoPlain]
  · obtain ⟨hframed, hplain⟩ := requestOps_framed (P := P) hops
    refine ⟨fun o ho => ?_, noPlain_append hplain (by simp [NoPlain])⟩
    rcases List.mem_append.mp ho with ho | ho
    · exact hframed o ho
    · rw [List.mem_singleton.mp ho]
      trivial
  · rcases hframe with ⟨-, rfl⟩ | ⟨ct, tag, ptBuf, e, -, rfl | rfl⟩
    · simp [ConnOp.Framed, NoPlain]
    · simp [NoPlain]
    · simp [ConnOp.Framed, NoPlain]

theorem connStep_todoOk {g g' : Globals} {old : Option (List ConnOp)} {todo : List ConnOp}
    (hok : ∀ todo, old = some todo → TodoOk P todo) (h : connStep P sk pk g ev old = some (g', obs, todo)) :
    TodoOk P todo := by
  rcases event_framed h with ⟨op, rest, ops, hold, hexec, rfl⟩ | ⟨hframed, hplain⟩
  · exact exec_todoOk (hok _ hold) hexec
  · exact ⟨hframed, [], todo, rfl, hplain⟩

theorem serverStep_ok (hok : ServerOk P s) (h : serverStep P sk pk s ⟨c, ev⟩ = some (s', obs)) : ServerOk P s' := by
  intro c' todo htodo
  by_cases hc : c' = c
  · subst hc
    obtain ⟨todo', hconn, htodo'⟩ := serverStep_conn h
    obtain rfl := Option.some.inj (htodo.symm.trans htodo')
    exact connStep_todoOk (hok c') hconn
  · exact hok c' todo (Parts.step_other h hc ▸ htodo)

/-- `g_enc.active` stays, or the step is `g_enc.active = true`. -/
theorem serverStep_active (h : serverStep P sk pk s ⟨c, ev⟩ = some (s', obs)) :
    s'.globals.enc.active = s.globals.enc.active ∨
      (s'.globals.enc.active = true ∧ ∃ rest, s.part c = some (.activate :: rest) ∧ s'.part c = some rest) := by
  obtain ⟨todo, hconn, htodo⟩ := serverStep_conn h
  rcases connStep_cases hconn with ⟨op, rest, ops, -, hold, hexec, rfl⟩ | ⟨hg, -⟩
  · rcases exec_active hexec with hsame | ⟨rfl, hset⟩
    · exact .inl hsame
    · simp only [ConnOp.exec, Option.some.injEq, Prod.mk.injEq] at hexec
      obtain ⟨-, -, rfl⟩ := hexec
      exact .inr ⟨hset, rest, hold, htodo⟩
  · exact .inl (by rw [hg])

/-- Behind the activation its connection has no plaintext to send. -/
theorem encrypting_of_activates {x : Step Server ServerInput} (hok : ServerOk P x.pre)
    (h : serverStep P sk pk x.pre x.input = some (x.post, obs)) (hact : Activates c x) : Encrypting c x.post := by
  obtain ⟨rfl, hbefore, hafter⟩ := hact
  refine ⟨hafter, fun todo htodo => ?_⟩
  rcases serverStep_active h with hsame | ⟨-, rest, hold, hnew⟩
  · rw [hbefore, hafter] at hsame
    cases hsame
  · obtain rfl := Option.some.inj (htodo.symm.trans hnew)
    exact (hok _ _ hold).behind (by simp)

/-- A connection that encrypts goes on encrypting. -/
theorem encrypting_step (hok : ServerOk P s) (henc : Encrypting c s)
    (h : serverStep P sk pk s ⟨c', ev⟩ = some (s', obs)) : Encrypting c s' := by
  obtain ⟨hact, hplain⟩ := henc
  refine ⟨?_, fun todo htodo => ?_⟩
  · rcases serverStep_active h with hsame | ⟨hset, -⟩
    · rw [hsame, hact]
    · exact hset
  by_cases hc : c = c'
  · subst hc
    obtain ⟨todo', hconn, htodo'⟩ := serverStep_conn h
    obtain rfl := Option.some.inj (htodo.symm.trans htodo')
    rcases event_framed hconn with ⟨op, rest, ops, hold, hexec, rfl⟩ | ⟨-, hnone⟩
    · have hrest : NoPlain rest := fun text hmem => hplain _ hold text (List.mem_cons_of_mem _ hmem)
      have hop := (hok _ _ hold).framed op List.mem_cons_self
      rcases (exec_framed hop hexec).2 with hnone | ⟨hoff, -⟩
      · exact noPlain_append hnone hrest
      · rw [hact] at hoff
        cases hoff
    · exact hnone
  · exact hplain todo (Parts.step_other h hc ▸ htodo)

/-- What a connection writes in a step. -/
theorem observed_wrote {x : Step Server ServerInput} {out : Bytes}
    (h : observed P sk pk x = some (.wrote out)) :
    ∃ op rest g ops, x.input.event = .step ∧ x.pre.part x.input.part = some (op :: rest) ∧
      op.exec P sk pk x.pre.globals = some (g, some (.wrote out), ops) := by
  obtain ⟨⟨s', obs⟩, hstep, rfl⟩ := Option.map_eq_some_iff.mp (Option.join_eq_some_iff.mp h)
  obtain ⟨todo, hconn, -⟩ := serverStep_conn (c := x.input.part) hstep
  rcases connStep_cases hconn with ⟨op, rest, ops, hev, hold, hexec, -⟩ | ⟨-, hnone, -⟩
  · exact ⟨op, rest, _, ops, hev, hold, hexec⟩
  · cases hnone

/-- **A step behind the activation** writes a part of a frame, or is `handle_options`. -/
theorem wrote_cases {x : Step Server ServerInput} {out : Bytes} (hok : ServerOk P x.pre)
    (henc : Encrypting c x.pre) (hc : x.input.part = c) (h : observed P sk pk x = some (.wrote out)) :
    PartOfFrame P out ∨ HandlesOptions c x := by
  obtain ⟨op, rest, g, ops, hev, hold, hexec⟩ := observed_wrote h
  subst hc
  rcases exec_wrote hexec with rfl | ⟨frame, e, rfl, hprefix⟩ | ⟨rtsp, cseq, rfl, -⟩
  · exact absurd List.mem_cons_self (henc.2 _ hold out)
  · obtain ⟨key, nonce, data, hlen, rfl⟩ := (hok _ _ hold).framed _ List.mem_cons_self
    exact .inl ⟨key, nonce, data, hlen, hprefix⟩
  · refine .inr ⟨?_, rtsp, cseq, rest, hold⟩
    rw [← hev]

/-- `handle_options` does not write a part of a frame. -/
theorem handlesOptions_wrote (P : OpenSSL) (sk pk : Block 32) {x : Step Server ServerInput}
    (h : HandlesOptions c x) :
    ∃ out, x.input.part = c ∧ observed P sk pk x = some (.wrote out) ∧ ¬ PartOfFrame P out := by
  obtain ⟨hinput, rtsp, cseq, rest, hconn⟩ := h
  refine ⟨optionsText rtsp cseq, by rw [hinput], ?_, options_not_partOfFrame P rtsp cseq⟩
  rw [observed, Parts.shows, hinput, Parts.step, hconn]
  rfl

end Activation

/-! ## One connection -/

/-- The server with connection 0 alone. -/
def Server.only (a : Globals × List ConnOp) : Server := ⟨a.1, Function.update (fun _ => none) 0 (some a.2)⟩

/-- Connection 0 gets from one place to another. -/
def Goes (P : OpenSSL) (sk pk : Block 32) (a b : Globals × List ConnOp) : Prop :=
  ∃ h, ServerRun P sk pk (Server.only a) h (Server.only b) ∧ ∀ y ∈ h, y.input.part = 0

section One

variable {P : OpenSSL} {sk pk : Block 32} {a b c : Globals × List ConnOp} {g g' : Globals} {obs : Option ConnObs}
  {todo todo' : List ConnOp} {ev : ConnEvent}

theorem Goes.trans (h : Goes P sk pk a b) (h' : Goes P sk pk b c) : Goes P sk pk a c := by
  obtain ⟨xs, hr, hxs⟩ := h
  obtain ⟨ys, hr', hys⟩ := h'
  refine ⟨xs ++ ys, hr.append hr', fun y hy => ?_⟩
  rcases List.mem_append.mp hy with hy | hy
  · exact hxs y hy
  · exact hys y hy

theorem only_step (h : connStep P sk pk g ev (some todo) = some (g', obs, todo')) :
    serverStep P sk pk (Server.only (g, todo)) ⟨0, ev⟩ = some (Server.only (g', todo'), obs) := by
  simp only [serverStep, Parts.step, connPart, Server.only, Function.update_self, h, Option.map_some,
    Function.update_idem]

theorem Goes.event (h : connStep P sk pk g ev (some todo) = some (g', obs, todo')) :
    Goes P sk pk (g, todo) (g', todo') := by
  refine ⟨_, Run.nil.snoc ⟨obs, only_step h⟩, fun y hy => ?_⟩
  rw [List.nil_append, List.mem_singleton] at hy
  rw [hy]

theorem Goes.exec {op : ConnOp} {ops rest : List ConnOp} (h : op.exec P sk pk g = some (g', obs, ops)) :
    Goes P sk pk (g, op :: rest) (g', ops ++ rest) := by
  have hconn : connStep P sk pk g .step (some (op :: rest)) = some (g', obs, ops ++ rest) := by
    simp only [connStep, h, Option.map_some]
  exact Goes.event hconn

theorem Goes.refl (P : OpenSSL) (sk pk : Block 32) (a : Globals × List ConnOp) : Goes P sk pk a a :=
  ⟨[], .nil, fun _ hy => absurd hy List.not_mem_nil⟩

/-- **The operations of a frame are `enc_send_frame`.** A frame that no other connection interrupts leaves what
    `encSendFrame` leaves. -/
theorem goes_sealFrame (data : Bytes) (e : SendEnv) (rest : List ConnOp) :
    Goes P sk pk (g, .sealFrame data e :: rest)
      ({ g with enc := (encSendFrame P.chachaSeal g.enc data e).2.2 }, rest) := by
  unfold encSendFrame
  by_cases hlen : maxFrame < data.length
  · have hskip : (ConnOp.sealFrame data e).exec P sk pk g = some (g, none, []) := by
      rw [ConnOp.exec, if_pos (.inl hlen)]
    rw [if_pos hlen]
    exact Goes.exec hskip
  by_cases hmem : e.ct = false ∨ e.cipherCtx = false
  · have hskip : (ConnOp.sealFrame data e).exec P sk pk g = some (g, none, []) := by
      rw [ConnOp.exec, if_pos (.inr hmem)]
    rw [if_neg hlen, if_pos hmem]
    exact Goes.exec hskip
  have hseal : (ConnOp.sealFrame data e).exec P sk pk g =
      some (g, none, [.encrypt g.enc.writeNonce data e]) := by
    rw [ConnOp.exec, if_neg fun h => h.elim hlen hmem]
  refine (Goes.exec hseal).trans ?_
  rw [if_neg hlen, if_neg hmem]
  by_cases hcipher : e.cipher = false ∨ e.out = false
  · have hskip : (ConnOp.encrypt g.enc.writeNonce data e).exec P sk pk g =
        some (g, some (.seals g.enc.writeKey g.enc.writeNonce), []) := by
      rw [ConnOp.exec, if_pos hcipher]
    rw [if_pos hcipher]
    exact Goes.exec hskip
  rw [if_neg hcipher]
  generalize hframe : sealedFrame P.chachaSeal g.enc.writeKey g.enc.writeNonce data = frame
  have hencrypt : (ConnOp.encrypt g.enc.writeNonce data e).exec P sk pk g =
      some (g, some (.seals g.enc.writeKey g.enc.writeNonce), [.transmit frame e]) := by
    rw [ConnOp.exec, if_neg hcipher, hframe]
  refine (Goes.exec hencrypt).trans ?_
  rcases hsend : sendLoop e.sends frame with ⟨sent, ok⟩
  have htransmit : (ConnOp.transmit frame e).exec P sk pk g =
      some (g, some (.wrote sent), if ok then [.count] else []) := by
    rw [ConnOp.exec, hsend]
  refine (Goes.exec htransmit).trans ?_
  cases ok with
  | false => exact Goes.refl P sk pk _
  | true =>
      have hcount : ConnOp.count.exec P sk pk g =
          some ({ g with enc := { g.enc with writeNonce := g.enc.writeNonce + 1 } }, none, []) := rfl
      exact Goes.exec hcount

/-- A request that arrives in one piece gets to its handler. -/
theorem requestOps_wire {q : ClientRequest} (route : Bytes → Bytes → Handler) (mem : Bytes) (e : HandlerEnv)
    (hne : q.headers ≠ []) (hle : q.wire.length ≤ bufSize) :
    ∃ r, requestOps route (overlay mem q.wire) q.wire.length e =
        some (handlerOps (route (q.method.take 15) (q.path.take 511)) (overlay mem q.wire) r e) ∧
      pointerRange (overlay mem q.wire) r.body r.bodyLen = q.body := by
  obtain ⟨r, hparse, hret, _, hbodyLen, hlength, hcontent⟩ :=
    parse_wire hne mem [] (by rw [List.append_nil]; exact hle)
  simp only [List.append_nil, List.length_nil, Nat.add_zero] at hparse hbodyLen hcontent
  have hcopied := hcontent 0 0
  simp only [Call.content, callOf, Prod.mk.injEq] at hcopied
  obtain ⟨hmethod, hpath, -, -, hbody⟩ := hcopied
  refine ⟨r.req, ?_, hbody⟩
  rw [requestOps, hparse]
  simp only
  rw [if_pos ⟨hret, .inr (by rw [hlength, hbodyLen])⟩, hmethod, hpath]

/-- What the handler of a pair-verify request finds. -/
def pairVerifyEnv (ours : Block 32) : HandlerEnv := ⟨true, .ok 0 (Block.zero 32), .ok ours, .ok, []⟩

/-- **A pair-verify request in plaintext**: its response goes out, then come the keys. -/
theorem pairVerify_served {q : ClientRequest} {ctx ctx' : PairCtx} (ours : Block 32) (hne : q.headers ≠ [])
    (hle : q.wire.length ≤ bufSize) (hroute : routeRequest (q.method.take 15) (q.path.take 511) = .pairVerify)
    (hbody : q.body ≠ []) (hplain : g.enc.active = false)
    (hctx : (g.pair.orElse fun _ => some (pairCtxCreate sk pk none)) = some ctx)
    (hstep : pairStep P ctx (.verify q.body (.ok ours)) ctx') :
    Goes P sk pk (g, [.round]) ({ g with pair := some ctx' }, [.controlKeys, .round]) := by
  obtain ⟨resp, hcall⟩ := hstep
  obtain ⟨r, hops, hrange⟩ := requestOps_wire routeRequest [] (pairVerifyEnv ours) hne hle
  have hround : Goes P sk pk (g, [.round]) (g, [.recvPlain]) := by
    have h : ConnOp.round.exec P sk pk g = some (g, some (.mode false), [.recvPlain]) := by
      simp only [ConnOp.exec, hplain, Bool.false_eq_true, if_false]
    exact Goes.exec h
  -- the request
  have hrecv : ∃ rtsp, Goes P sk pk (g, [.recvPlain])
      (g, [.pair (.verify q.body (.ok ours)) true rtsp r.cseq .ok, .round]) := by
    have h :
        connStep P sk pk g (.received (overlay [] q.wire) q.wire.length (pairVerifyEnv ours)) (some [.recvPlain]) =
        some (g, none,
          [.pair (.verify q.body (.ok ours)) true (r.protocol.take 4 == ascii "RTSP") r.cseq .ok, .round]) := by
      simp only [connStep, hops, hroute, handlerOps, hrange, Option.map_some]
      rfl
    exact ⟨_, Goes.event h⟩
  obtain ⟨rtsp, hrecv⟩ := hrecv
  -- the handler up to its response
  have hpair : Goes P sk pk (g, [.pair (.verify q.body (.ok ours)) true rtsp r.cseq .ok, .round])
      ({ g with pair := some ctx' },
        [pairResponse rtsp r.cseq .ok (resp.getD []), .controlKeys, .round]) := by
    have hlen : ¬ q.body.length = 0 := by
      rw [List.length_eq_zero_iff]
      exact hbody
    have h : ConnOp.exec P sk pk g (.pair (.verify q.body (.ok ours)) true rtsp r.cseq .ok) =
        some ({ g with pair := some ctx' }, none, [pairResponse rtsp r.cseq .ok (resp.getD []), .controlKeys]) := by
      simp only [ConnOp.exec, pairEndpoint, PairInput.body, hlen, if_false, if_true, hctx, hcall, Option.map_some]
    exact Goes.exec h
  -- the response
  have hrespond : ∀ head body,
      Goes P sk pk ({ g with pair := some ctx' }, [.respond head body .ok, .controlKeys, .round])
      ({ g with pair := some ctx' }, [.controlKeys, .round]) := by
    intro head body
    have hplain' : ∀ text rest, Goes P sk pk ({ g with pair := some ctx' }, .plain text :: rest)
        ({ g with pair := some ctx' }, rest) := by
      intro text rest
      have h : (ConnOp.plain text).exec P sk pk { g with pair := some ctx' } =
          some ({ g with pair := some ctx' }, some (.wrote text), []) := rfl
      exact Goes.exec h
    by_cases hnil : body = []
    · have h : (ConnOp.respond head body .ok).exec P sk pk { g with pair := some ctx' } =
          some ({ g with pair := some ctx' }, some (.mode false), [.plain head]) := by
        simp only [ConnOp.exec, hplain, Bool.false_eq_true, if_false, hnil, if_true]
      exact (Goes.exec h).trans (hplain' _ _)
    · have h : (ConnOp.respond head body .ok).exec P sk pk { g with pair := some ctx' } =
          some ({ g with pair := some ctx' }, some (.mode false), [.plain head, .plain body]) := by
        simp only [ConnOp.exec, hplain, Bool.false_eq_true, if_false, hnil]
      exact ((Goes.exec h).trans (hplain' _ _)).trans (hplain' _ _)
  exact ((hround.trans hrecv).trans hpair).trans (hrespond _ _)

end One

/-! ## M1, M3 and an OPTIONS request -/

theorem m1Body_length : ((verifyM1Items (Block.zero 32)).flatMap tlvEncode).length = 37 := by
  rw [verifyM1Items, List.flatMap_cons, List.flatMap_cons, List.flatMap_nil, List.length_append, List.length_append,
    List.length_nil, tlvEncode_length_short (by exact Nat.one_pos) (by decide),
    tlvEncode_length_short (by rw [(Block.zero 32).property]; omega) (by rw [(Block.zero 32).property]; omega),
    (Block.zero 32).property]
  rfl

/-- The request with the M1 of a client whose public key is zero. -/
def m1Request : ClientRequest where
  method := ascii "POST"
  path := ascii "/pair-verify"
  protocol := ascii "HTTP/1.1"
  headers := [(ascii "Content-Length", ascii " 37")]
  body := (verifyM1Items (Block.zero 32)).flatMap tlvEncode
  method_ok := post_ok
  path_ok := pairVerify_ok
  protocol_ok := http_ok
  headers_ok := by decide
  cseq_ok := by
    intro h hh hname
    obtain rfl := List.mem_singleton.mp hh
    exact absurd hname (by decide)
  length_ok := by
    intro h hh _
    obtain rfl := List.mem_singleton.mp hh
    rw [m1Body_length]
    show IsNumber (32 :: ascii "37") _
    exact isNumber_blank (by decide) (by decide) (by decide)
  body_ok := fun _ => ⟨_, List.mem_singleton_self _, by decide⟩

/-- A request without a body. -/
def optionsRequest : ClientRequest where
  method := ascii "OPTIONS"
  path := ascii "*"
  protocol := ascii "RTSP/1.0"
  headers := [(ascii "CSeq", ascii " 7")]
  body := []
  method_ok := by decide
  path_ok := by decide
  protocol_ok := rtsp_ok
  headers_ok := by decide
  cseq_ok := by
    intro h hh _
    obtain rfl := List.mem_singleton.mp hh
    show ∃ n, IsNumber (32 :: ascii "7") n
    exact ⟨7, isNumber_blank (by decide) (by decide) (by decide)⟩
  length_ok := by
    intro h hh hname
    obtain rfl := List.mem_singleton.mp hh
    exact absurd hname (by decide)
  body_ok := fun h => absurd rfl h

section Example

variable (P : OpenSSL) (sk pk : Block 32)

/-- A short request fits into the buffer. -/
theorem wire_fits {q : ClientRequest} (hhead : q.head.length ≤ 100) (hbody : q.body.length ≤ 100) :
    q.wire.length ≤ maxFrame := by
  have hmax : maxFrame = 16384 := rfl
  rw [ClientRequest.wire, List.length_append]
  omega

theorem m1Request_fits : m1Request.wire.length ≤ maxFrame :=
  wire_fits (by decide) (by rw [show m1Request.body.length = 37 from m1Body_length]; omega)

theorem m3Request_fits (key : Block 32) : (m3Request P key).wire.length ≤ maxFrame :=
  wire_fits (by rw [m3Request_head]; decide)
    (by rw [show (m3Request P key).body.length = 91 from m3Body_length P _]; omega)

theorem bufSize_of_maxFrame {n : Nat} (h : n ≤ maxFrame) : n ≤ bufSize := Nat.le_trans h (by decide)

/-- **A client that pairs** brings connection 0 in front of the activation. -/
theorem goes_activation : ∃ (g : Globals) (ctx : PairCtx), g.enc.active = false ∧ g.pair = some ctx ∧
    ctx.verifyState = 4 ∧ Goes P sk pk (Server.init.globals, [.round]) (g, [.activate, .eventKeys, .round]) := by
  obtain ⟨ctx₁, hstep₁, -, hstate₁, -⟩ :=
    verifyM1_step P (pairCtxCreate sk pk none) (Block.zero 32) (Block.zero 32)
  obtain ⟨report, hstep₂, -⟩ := verifyM3_step P ctx₁ (ascii "id") (Block.zero 64)
  let ctx₂ : PairCtx := { ctx₁ with verifyState := 4 }
  have hm1 : Goes P sk pk (Server.init.globals, [.round])
      ({ Server.init.globals with pair := some ctx₁ }, [.controlKeys, .round]) :=
    pairVerify_served (q := m1Request) (Block.zero 32) (List.cons_ne_nil _ _) (bufSize_of_maxFrame m1Request_fits)
      (by decide) (List.ne_nil_of_length_eq_add_one m1Body_length) rfl rfl hstep₁
  -- verification is not complete
  have hskip : Goes P sk pk ({ Server.init.globals with pair := some ctx₁ }, [.controlKeys, .round])
      ({ Server.init.globals with pair := some ctx₁ }, [.round]) := by
    have h : ConnOp.controlKeys.exec P sk pk { Server.init.globals with pair := some ctx₁ } =
        some ({ Server.init.globals with pair := some ctx₁ }, none, []) := by
      have hnone : pairDeriveControlKeys P ctx₁ = none := by
        rw [pairDeriveControlKeys, if_pos (by rw [hstate₁]; decide)]
      simp only [ConnOp.exec, Option.bind_some, hnone]
    exact Goes.exec h
  have hm3 : Goes P sk pk ({ Server.init.globals with pair := some ctx₁ }, [.round])
      ({ Server.init.globals with pair := some ctx₂ }, [.controlKeys, .round]) := by
    have hroute : routeRequest ((ascii "POST").take 15) ((ascii "/pair-verify").take 511) = .pairVerify := by decide
    exact pairVerify_served (q := m3Request P ctx₁.verifyEncKey) (Block.zero 32) (List.cons_ne_nil _ _)
      (bufSize_of_maxFrame (m3Request_fits P _)) hroute (List.ne_nil_of_length_eq_add_one (m3Body_length P _))
        rfl rfl
      hstep₂
  have hkeys : ∃ kp, pairDeriveControlKeys P ctx₂ = some kp := by
    rw [pairDeriveControlKeys, if_neg fun h => h rfl]
    exact ⟨_, rfl⟩
  obtain ⟨kp, hkp⟩ := hkeys
  have hcontrol : ConnOp.controlKeys.exec P sk pk { Server.init.globals with pair := some ctx₂ } =
      some (⟨some ctx₂, { Server.init.globals.enc with readKey := kp.readKey, writeKey := kp.writeKey },
        Server.init.globals.eventEnc⟩, none, [.activate, .eventKeys]) := by
    simp only [ConnOp.exec, Option.bind_some, hkp]
  exact ⟨_, ctx₂, rfl, rfl, rfl, ((hm1.trans hskip).trans hm3).trans (Goes.exec hcontrol)⟩

/-- There is a run in which connection 0 activates encryption, and no other is accepted. -/
theorem activated_run : ∃ (before : List (Step Server ServerInput)) (x : Step Server ServerInput) (g : Globals)
    (ctx : PairCtx), ServerRun P sk pk Server.init (before ++ [x]) x.post ∧ Activates 0 x ∧
      (∀ y ∈ before ++ [x], y.input.part = 0) ∧ x.post = Server.only (g, [.eventKeys, .round]) ∧
      g.enc.active = true ∧
      g.pair = some ctx ∧ ctx.verifyState = 4 := by
  obtain ⟨g, ctx, hoff, hctx, hstate, xs, hr, hxs⟩ := goes_activation P sk pk
  have haccept : serverStep P sk pk Server.init ⟨0, .accept⟩ =
      some (Server.only (Server.init.globals, [.round]), none) := rfl
  have hstep : serverStep P sk pk (Server.only (g, [.activate, .eventKeys, .round])) ⟨0, .step⟩ =
      some (Server.only ({ g with enc := { g.enc with readNonce := 0, writeNonce := 0, active := true } },
        [.eventKeys, .round]), none) := only_step rfl
  have hrun := ((Run.nil.snoc ⟨_, haccept⟩).append hr).snoc ⟨_, hstep⟩
  refine ⟨_, _, _, ctx, hrun, ⟨rfl, hoff, rfl⟩, ?_, rfl, rfl, hctx, hstate⟩
  intro y hy
  rcases List.mem_append.mp hy with hy | hy
  · rcases List.mem_append.mp hy with hy | hy
    · rw [List.nil_append, List.mem_singleton] at hy
      rw [hy]
    · exact hxs y hy
  · rw [List.mem_singleton] at hy
    rw [hy]

variable {P sk pk}

/-- **An OPTIONS request in a frame** gets to `handle_options`. -/
theorem goes_options {g : Globals} {ctx : PairCtx} (hact : g.enc.active = true) (hctx : g.pair = some ctx)
    (hstate : ctx.verifyState = 4) : ∃ g' rtsp cseq,
      Goes P sk pk (g, [.eventKeys, .round]) (g', [.options rtsp cseq, .round]) := by
  obtain ⟨kp, hkp⟩ : ∃ kp, pairDeriveEventKeys P ctx = some kp := by
    rw [pairDeriveEventKeys, if_neg fun h => h hstate]
    exact ⟨_, rfl⟩
  let event : EncryptedCtx := { g.eventEnc with readKey := kp.readKey, writeKey := kp.writeKey }
  let g₁ : Globals := { g with eventEnc := { event with readNonce := 0, writeNonce := 0, active := true } }
  have hkeys : ConnOp.eventKeys.exec P sk pk g = some ({ g with eventEnc := event }, none, [.activateEvent]) := by
    simp only [ConnOp.exec, hctx, Option.bind_some, hkp]
    rfl
  have hevent : ConnOp.activateEvent.exec P sk pk { g with eventEnc := event } = some (g₁, none, []) := rfl
  have hround : ConnOp.round.exec P sk pk g₁ = some (g₁, some (.mode true), [.recvFrame]) := by
    simp only [ConnOp.exec, show g₁.enc.active = true from hact, if_true]
  -- the frame
  have hwire : optionsRequest.wire.length ≤ maxFrame := wire_fits (by decide) (by decide)
  obtain ⟨r, hops, -⟩ := requestOps_wire (q := optionsRequest) routeEncrypted [] (pairVerifyEnv (Block.zero 32))
    (List.cons_ne_nil _ _) (bufSize_of_maxFrame hwire)
  have hroute : routeEncrypted (optionsRequest.method.take 15) (optionsRequest.path.take 511) =
      .options := by decide
  generalize hsealed : P.chachaSeal g.enc.readKey (counterNonce g.enc.readNonce)
    (lenHeader optionsRequest.wire.length) optionsRequest.wire = sealed
  have hlen : sealed.1.length = optionsRequest.wire.length := by rw [← hsealed, P.seal_length]
  have hpos := wire_pos optionsRequest
  have hframe :
      connStep P sk pk g₁ (.frame sealed.1 sealed.2 [] (pairVerifyEnv (Block.zero 32))) (some [.recvFrame]) =
      some (g₁, none, [.decrypt g.enc.readNonce sealed.1 sealed.2 [] (pairVerifyEnv (Block.zero 32))]) := by
    simp only [connStep]
    rw [if_neg (by omega)]
  have hopen :
      P.chachaOpen g₁.enc.readKey (counterNonce g.enc.readNonce) (lenHeader sealed.1.length) sealed.1 sealed.2 =
      some optionsRequest.wire := by
    rw [hlen, ← hsealed]
    exact P.open_seal _ _ _ _
  have hdecrypt : ConnOp.exec P sk pk g₁
        (.decrypt g.enc.readNonce sealed.1 sealed.2 [] (pairVerifyEnv (Block.zero 32))) =
      some (g₁, some (.opens g₁.enc.readKey g.enc.readNonce),
        [.countRead, .options (r.protocol.take 4 == ascii "RTSP") r.cseq, .round]) := by
    simp only [ConnOp.exec, hopen, hops, hroute, handlerOps, Option.map_some]
    rfl
  have hcount : ConnOp.countRead.exec P sk pk g₁ =
      some ({ g₁ with enc := { g₁.enc with readNonce := g₁.enc.readNonce + 1 } }, none, []) := rfl
  exact ⟨_, _, _, (((((Goes.exec hkeys).trans (Goes.exec hevent)).trans (Goes.exec hround)).trans
    (Goes.event hframe)).trans (Goes.exec hdecrypt)).trans (Goes.exec hcount)⟩

/-- A run with an OPTIONS request behind the activation. -/
theorem options_run (P : OpenSSL) (sk pk : Block 32) :
    ∃ (before after : List (Step Server ServerInput)) (x y : Step Server ServerInput) (s : Server),
      ServerRun P sk pk Server.init (before ++ x :: after) s ∧ Activates 0 x ∧ y ∈ after ∧ HandlesOptions 0 y := by
  obtain ⟨before, x, g, ctx, hr, hx, -, hpost, hact, hctx, hstate⟩ := activated_run P sk pk
  obtain ⟨g', rtsp, cseq, xs, hxs, -⟩ := goes_options (P := P) hact hctx hstate
  rw [← hpost] at hxs
  have hstep : serverStep P sk pk (Server.only (g', [.options rtsp cseq, .round])) ⟨0, .step⟩ =
      some (Server.only (g', [.round]), some (.wrote (optionsText rtsp cseq))) := only_step rfl
  have hrun := (hr.append hxs).snoc ⟨_, hstep⟩
  rw [List.append_assoc, List.append_assoc, List.singleton_append] at hrun
  exact ⟨before, xs ++ [_], x, _, _, hrun, hx, List.mem_append_right _ (List.mem_singleton_self _), rfl, rtsp, cseq,
    [.round], rfl⟩

end Example

/-! ## The property -/

/-- **No plaintext but the answers to OPTIONS.** From the activation on, every byte that goes out on the connection
    is part of a frame if and only if the connection handles no OPTIONS request. For the connections that are there
    when another one activates, the same holds once they are not in the middle of a response. -/
theorem noPlaintext_iff (P : OpenSSL) (sk pk : Block 32) (c : ConnId)
    (before after : List (Step Server ServerInput))
    (x : Step Server ServerInput) (s : Server) (hr : ServerRun P sk pk Server.init (before ++ x :: after) s)
    (hx : Activates c x ∨ Encrypting c x.post) :
    NoPlaintext P sk pk c after ↔ ∀ y ∈ after, ¬ HandlesOptions c y := by
  obtain ⟨hpre, obs, hstep⟩ := hr.split rfl
  have hokpre : ServerOk P x.pre :=
    hpre.invariant (ServerOk P) (serverOk_init P) fun _ _ _ hok ⟨_, h⟩ => serverStep_ok hok h
  have henc : Encrypting c x.post := hx.elim (encrypting_of_activates hokpre hstep) id
  have hinv : ∀ y ∈ after, ServerOk P y.pre ∧ Encrypting c y.pre := fun y hy =>
    (hr.behind rfl).invariant_pre (fun s => ServerOk P s ∧ Encrypting c s) ⟨serverStep_ok hokpre hstep, henc⟩
      (fun _ _ _ ⟨hok, henc⟩ ⟨_, h⟩ => ⟨serverStep_ok hok h, encrypting_step hok henc h⟩) hy
  constructor
  · intro hno y hy hoptions
    obtain ⟨out, hc, hobs, hnot⟩ := handlesOptions_wrote P sk pk hoptions
    exact hnot (hno y hy hc out hobs)
  · intro hno y hy hc out hobs
    obtain ⟨hok, henc⟩ := hinv y hy
    exact (wrote_cases hok henc hc hobs).resolve_right (hno y hy)

/-- A run behind an activation. -/
theorem noPlaintext_after_options :
    ∃ (before after : List (Step Server ServerInput)) (x : Step Server ServerInput) (s : Server),
      ServerRun .toy (Block.zero 32) (Block.zero 32) Server.init (before ++ x :: after) s ∧ Activates 0 x ∧
        ¬ NoPlaintext .toy (Block.zero 32) (Block.zero 32) 0 after := by
  obtain ⟨before, after, x, y, s, hr, hx, hy, hoptions⟩ := options_run .toy (Block.zero 32) (Block.zero 32)
  refine ⟨before, after, x, s, hr, hx, fun hno => ?_⟩
  exact (noPlaintext_iff .toy _ _ 0 before after x s hr (.inl hx)).mp hno y hy hoptions

/-- The answer to an OPTIONS request in a frame goes out in plaintext. -/
theorem options_in_plaintext :
    ¬ ∃ P : OpenSSL, ∀ (sk pk : Block 32) (c : ConnId) (before after : List (Step Server ServerInput))
      (x : Step Server ServerInput) (s : Server), ServerRun P sk pk Server.init (before ++ x :: after) s →
        Activates c x → NoPlaintext P sk pk c after := by
  rintro ⟨P, hall⟩
  obtain ⟨before, after, x, y, s, hr, hx, hy, hoptions⟩ := options_run P (Block.zero 32) (Block.zero 32)
  obtain ⟨out, hc, hobs, hnot⟩ := handlesOptions_wrote P (Block.zero 32) (Block.zero 32) hoptions
  exact hnot (hall _ _ _ _ _ _ _ hr hx y hy hc out hobs)

end Showcase
