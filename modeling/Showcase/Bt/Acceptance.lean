import Showcase.Bt.Rfcomm
import Showcase.Bt.Handler

/-!
# `Bt.Acceptance` — which packets are acted on

The handler looks at six bytes of an RFCOMM data packet before it calls `handle_ctrl_msg`. It compares no length
field with the packet and no checksum with the bytes, and any session but 0 will do.

* `handleData_link` — the globals of the link and what is sent, as `Bt.Link` has them.
* `Accepted` — what the packet must be; `Emitted` — what `send_control_msg` makes.
* `accepted_dispatched` — exactly the accepted packets are dispatched, once, and all others leave everything but the
  link alone.
-/

namespace Showcase.Bt

open Lib

/-! ## The link below the messages -/

/-- **The handler refines the one of the link layer**, whose replies are those of `handle_ctrl_msg`. -/
theorem handleData_link (cfg : Config) (s : State) (pkt : Bytes) (e : Env) :
    ∃ replies, Showcase.handler s.link pkt ⟨e.behind, e.rand, replies⟩ =
      ((handleData cfg s pkt e).1.link, (handleData cfg s pkt e).2.filterMap Out.toLink) := by
  obtain ⟨replies, hreplies⟩ := (handleCtrlMsg_answers cfg e.sign
    { s with link := { s.link with peerPsn := memByte pkt e.behind 5 } } (ctrlMsgAt (memByte pkt e.behind)).msgId
    (fun i => memByte pkt e.behind (15 + i)) (ctrlMsgAt (memByte pkt e.behind)).plen).replies
  refine ⟨replies, ?_⟩
  unfold Showcase.handler handleData
  dsimp only
  by_cases hecho : isDetectEcho pkt ∧ s.link.iap2Detected = false
  · rw [if_pos hecho, if_pos ⟨hecho.1.1, hecho.1.2, hecho.2⟩]
    rfl
  rw [if_neg hecho, if_neg fun h => hecho ⟨⟨h.1, h.2.1⟩, h.2.2⟩]
  by_cases hlink : isLinkPacket (memByte pkt e.behind) pkt.length
  · have hmagic : 5 ≤ pkt.length ∧ memByte pkt e.behind 0 = 0xFF ∧ memByte pkt e.behind 1 = 0x5A := hlink
    rw [if_pos hlink, if_pos hmagic]
    unfold handleLink
    by_cases hrst : memByte pkt e.behind 4 = 0x10
    · rw [if_pos hrst, if_pos hrst]
      rfl
    rw [if_neg hrst, if_neg hrst]
    by_cases hsyn : memByte pkt e.behind 4 &&& 0xC0 = 0xC0 ∧ s.link.linkEstablished = false
    · rw [if_pos hsyn, if_pos hsyn]
      by_cases hack : memByte pkt e.behind 6 = s.link.myInitialPsn
      · rw [if_pos hack, if_pos hack]
        rfl
      · rw [if_neg hack, if_neg hack]
        rfl
    rw [if_neg hsyn, if_neg hsyn]
    by_cases hdata : isData (memByte pkt e.behind) pkt.length
    · rw [if_pos hdata, if_pos hdata]
      by_cases hcontrol : isControl (memByte pkt e.behind) pkt.length
      · rw [if_pos hcontrol, if_pos hcontrol]
        dsimp only at hreplies ⊢
        rw [hreplies]
        rfl
      · rw [if_neg hcontrol, if_neg hcontrol]
        rfl
    · rw [if_neg hdata, if_neg hdata]
      rfl
  · have hmagic : ¬ (5 ≤ pkt.length ∧ memByte pkt e.behind 0 = 0xFF ∧ memByte pkt e.behind 1 = 0x5A) := hlink
    rw [if_neg hlink, if_neg hmagic]
    rfl

/-! ## What is accepted

The tests of the handler are followed from the outermost to the innermost one. Each packet that passes them all calls
`handle_ctrl_msg` once, and the arguments are found at fixed places of the packet. -/

/-- The calls of `handle_ctrl_msg`. -/
def dispatches (outs : List Out) : List CtrlMsg := dispatched (outs.filterMap Out.toLink)

/-- A packet that is taken for a control message: its start bytes, its control byte, any session, and the start of
    the message. -/
structure Accepted (pkt : Bytes) : Prop where
  long : 16 ≤ pkt.length
  start : pkt.getD 0 0 = 0xFF ∧ pkt.getD 1 0 = 0x5A
  notRst : pkt.getD 4 0 ≠ 0x10
  ack : pkt.getD 4 0 &&& 0x40 ≠ 0
  session : pkt.getD 7 0 ≠ 0
  message : pkt.getD 9 0 = 0x40 ∧ pkt.getD 10 0 = 0x40

/-- A packet as `send_control_msg` makes it, with fields that do not wrap around. -/
def Emitted (pkt : Bytes) : Prop :=
  ∃ s msgId params, params.length ≤ 65519 ∧ pkt = (sendControlMsg s msgId params).1

theorem recognised_iff {link : LinkState} (hup : link.linkEstablished = true) (pkt : Bytes) :
    Recognised link pkt ↔ Accepted pkt := by
  unfold Recognised
  constructor
  · rintro ⟨hlong, h0, h1, h4, -, hack, h7, h9, h10⟩
    exact ⟨hlong, ⟨h0, h1⟩, h4, hack, h7, ⟨h9, h10⟩⟩
  · intro h
    exact ⟨h.long, h.start.1, h.start.2, h.notRst, by simp [hup], h.ack, h.session, h.message.1, h.message.2⟩

/-- The handler is called with the packet. -/
theorem handler_data (cfg : Config) (s : State) (ch : UInt16) (pkt : Bytes) (e : Env) :
    handler cfg s 7 ch pkt e = some (handleData cfg s pkt e) := by
  unfold handler
  rw [if_neg (by simp), if_neg (by simp), if_pos rfl]

theorem dispatches_handleData (cfg : Config) (s : State) (pkt : Bytes) (e : Env) :
    dispatches (handleData cfg s pkt e).2 =
      if Recognised s.link pkt then [ctrlMsgAt (memByte pkt e.behind)] else [] := by
  obtain ⟨replies, hlink⟩ := handleData_link cfg s pkt e
  unfold dispatches
  rw [← handler_dispatched s.link pkt ⟨e.behind, e.rand, replies⟩, hlink]

/-- The message begins at the tenth byte and its parameters at the sixteenth. -/
theorem ctrlMsgAt_params {pkt : Bytes} (behind : Nat → UInt8) (hlong : 16 ≤ pkt.length) :
    let byte := fun i => pkt.getD i 0
    (ctrlMsgAt (memByte pkt behind)).msgId = (byte 13).toNat * 256 + (byte 14).toNat ∧
      (ctrlMsgAt (memByte pkt behind)).plen = (msgLen byte : Int) - 6 ∧
      (HoldsParams pkt → (ctrlMsgAt (memByte pkt behind)).params = (pkt.drop 15).take (msgLen byte - 6)) := by
  have hbyte : ∀ i < 16, memByte pkt behind i = pkt.getD i 0 := fun i hi => memByte_of_lt (by omega)
  have hlen : msgLen (memByte pkt behind) = msgLen fun i => pkt.getD i 0 := by
    unfold msgLen
    rw [hbyte 11 (by omega), hbyte 12 (by omega)]
  refine ⟨?_, ?_, ?_⟩
  · unfold ctrlMsgAt
    dsimp only
    rw [hbyte 13 (by omega), hbyte 14 (by omega)]
  · unfold ctrlMsgAt
    dsimp only
    rw [hlen]
  · intro hholds
    unfold HoldsParams at hholds
    unfold ctrlMsgAt
    dsimp only
    rw [hlen]
    apply List.ext_getElem
    · rw [List.length_map, List.length_range, List.length_take, List.length_drop]
      omega
    · intro i hi hi'
      rw [List.length_map, List.length_range] at hi
      rw [List.getElem_map, List.getElem_range, memByte_of_lt (by omega), List.getElem_take, List.getElem_drop,
        List.getD_eq_getElem?_getD, List.getElem?_eq_getElem (by omega), Option.getD_some]

/-! ## The packets of `send_control_msg` -/

section

variable (s : LinkState) (msgId : UInt16) (params : Bytes)

/-- The fifteen bytes in front of the parameters, and the checksum behind them. -/
theorem sendControlMsg_bytes : ∃ l₀ l₁ c m₀ m₁ : UInt8,
    (sendControlMsg s msgId params).1 =
      [0xFF, 0x5A, l₀, l₁, 0x40, s.myNextPsn, s.peerPsn, 0x01, c, 0x40, 0x40, m₀, m₁,
        UInt8.ofNat (msgId.toNat / 256), UInt8.ofNat msgId.toNat] ++ (params ++ [ck (controlMsg msgId params)]) ∧
      m₀ = UInt8.ofNat ((6 + params.length) / 256) ∧ m₁ = UInt8.ofNat (6 + params.length) :=
  ⟨_, _, _, _, _, rfl, rfl, rfl⟩

/-- Both checksums make the sum 0. -/
theorem sendControlMsg_sum : (sendControlMsg s msgId params).1.sum = 0 := by
  have hck : ∀ d : Bytes, d.sum + ck d = 0 := by
    intro d
    unfold ck
    grind
  unfold sendControlMsg linkPacket linkHeader
  dsimp only
  rw [List.append_assoc, List.sum_append, List.sum_append, List.sum_append, List.sum_singleton, List.sum_singleton,
    hck, hck]
  rfl

end

/-- What `send_control_msg` makes is accepted, and read back. -/
theorem emitted_accepted {pkt : Bytes} {s : LinkState} {msgId : UInt16} {params : Bytes}
    (hlen : params.length ≤ 65519) (hpkt : pkt = (sendControlMsg s msgId params).1) :
    Accepted pkt ∧ ∀ behind, ctrlMsgAt (memByte pkt behind) = ⟨msgId.toNat, params.length, params⟩ := by
  obtain ⟨l₀, l₁, c, m₀, m₁, hbytes, hm₀, hm₁⟩ := sendControlMsg_bytes s msgId params
  rw [hbytes] at hpkt
  have hacc : Accepted pkt := by
    subst hpkt
    exact ⟨by simp, by simp, by simp, by simp, by simp, by simp⟩
  refine ⟨hacc, ?_⟩
  intro behind
  have hmsgLen : msgLen (fun i => pkt.getD i 0) = 6 + params.length := by
    unfold msgLen
    subst hpkt
    simp only [List.getD_eq_getElem?_getD, List.cons_append, List.getElem?_cons_succ, List.getElem?_cons_zero,
      Option.getD_some]
    rw [hm₀, hm₁, UInt8.toNat_ofNat', UInt8.toNat_ofNat']
    omega
  obtain ⟨hid, hplen, hparams⟩ := ctrlMsgAt_params behind hacc.long
  have hholds : HoldsParams pkt := by
    unfold HoldsParams
    rw [hmsgLen, hpkt]
    simp
    omega
  have hread := hparams hholds
  rw [hmsgLen, Nat.add_sub_cancel_left] at hread
  have hdrop : (pkt.drop 15).take params.length = params := by
    rw [hpkt]
    simp
  have hmsgId : (pkt.getD 13 0).toNat * 256 + (pkt.getD 14 0).toNat = msgId.toNat := by
    have hbound : msgId.toNat < 65536 := msgId.toNat_lt
    subst hpkt
    simp only [List.getD_eq_getElem?_getD, List.cons_append, List.getElem?_cons_succ, List.getElem?_cons_zero,
      Option.getD_some]
    rw [UInt8.toNat_ofNat', UInt8.toNat_ofNat']
    omega
  rw [hdrop] at hread
  rw [hmsgId] at hid
  rw [hmsgLen] at hplen
  cases hm : ctrlMsgAt (memByte pkt behind) with
  | mk id plen ps =>
      rw [hm] at hid hplen hread
      dsimp only at hid hplen hread
      rw [hid, hread, show plen = (params.length : Int) by omega]

/-! ## The rest is left alone -/

/-- **Exactly the accepted packets are dispatched.** On an established link a packet is dispatched if and only if it
    is accepted: once, with the id of the message and what its length field says, and with the parameters that lie
    in the packet. So are the packets of `send_control_msg`, with their own parameters. Every other packet changes
    nothing but the globals of the link. -/
theorem accepted_dispatched (cfg : Config) (s : State) (ch : UInt16) (pkt : Bytes) (e : Env)
    (hup : s.link.linkEstablished = true) :
    ∃ s' outs, handler cfg s 7 ch pkt e = some (s', outs) ∧
      (dispatches outs ≠ [] ↔ Accepted pkt) ∧
      (Accepted pkt → ∃ m, dispatches outs = [m] ∧
        m.msgId = (pkt.getD 13 0).toNat * 256 + (pkt.getD 14 0).toNat ∧
        m.plen = (msgLen (fun i => pkt.getD i 0) : Int) - 6 ∧
        (HoldsParams pkt → m.params = (pkt.drop 15).take (msgLen (fun i => pkt.getD i 0) - 6))) ∧
      (∀ l msgId params, params.length ≤ 65519 → pkt = (sendControlMsg l msgId params).1 →
        dispatches outs = [⟨msgId.toNat, params.length, params⟩]) ∧
      (¬ Accepted pkt → s' = { s with link := s'.link } ∧ ∀ o ∈ outs, o.plain) := by
  have hdispatches := dispatches_handleData cfg s pkt e
  have hiff := recognised_iff hup pkt
  refine ⟨(handleData cfg s pkt e).1, (handleData cfg s pkt e).2, handler_data cfg s ch pkt e, ?_, ?_, ?_, ?_⟩
  · rw [hdispatches, ← hiff]
    split
    next hrec => exact ⟨fun _ => hrec, fun _ => List.cons_ne_nil _ _⟩
    next hrec => exact ⟨fun h => absurd rfl h, fun h => absurd h hrec⟩
  · intro hacc
    rw [if_pos (hiff.mpr hacc)] at hdispatches
    exact ⟨_, hdispatches, ctrlMsgAt_params e.behind hacc.long⟩
  · intro l msgId params hlen hpkt
    obtain ⟨hacc, hread⟩ := emitted_accepted hlen hpkt
    rw [if_pos (hiff.mpr hacc), hread] at hdispatches
    exact hdispatches
  · intro hacc
    rw [if_neg fun h => hacc (hiff.mp h), handleData_kind] at hdispatches
    rw [handleData_kind]
    dsimp only at hdispatches ⊢
    cases hkind : dataKind s.link pkt e.behind with
    | control =>
        rw [hkind] at hdispatches
        cases hdispatches
    | detectEcho => exact ⟨rfl, by simp [Out.plain]⟩
    | rst => exact ⟨rfl, by simp [Out.plain]⟩
    | synAck => exact ⟨rfl, by simp [Out.plain]⟩
    | synAckOther => exact ⟨rfl, by simp⟩
    | data => exact ⟨rfl, by simp [Out.plain]⟩
    | bare => exact ⟨rfl, by simp⟩
    | ignored => exact ⟨rfl, by simp⟩

/-- `0x4E0B` on a link that is up. -/
theorem accepted_dispatched_time :
    let s := { State.initial with link := ⟨true, true, 1, 2, 0x20⟩ }
    s.link.linkEstablished = true ∧
      ∃ s' outs, handler Session.config s 7 0x41 (Session.message 0x21 0x4E0B []).wire Session.env = some (s', outs) ∧
        dispatches outs = [⟨0x4E0B, 0, []⟩] := by
  refine ⟨rfl, ?_⟩
  obtain ⟨s', outs, hstep, -, -, hemitted, -⟩ := accepted_dispatched Session.config
    { State.initial with link := ⟨true, true, 1, 2, 0x20⟩ } 0x41 (Session.message 0x21 0x4E0B []).wire Session.env rfl
  exact ⟨s', outs, hstep, hemitted ⟨true, true, 0, 0x21, 1⟩ 0x4E0B [] (by decide) (by decide)⟩

/-- `0x4E0B` with a wrong checksum. -/
def corrupted : Bytes := (Session.message 0x21 0x4E0B []).wire.set 15 0

/-- A packet whose checksum is wrong is dispatched like any other. -/
theorem corrupted_dispatched :
    ¬ ∀ cfg s ch pkt e, s.link.linkEstablished = true → pkt.length < 65536 →
      ∀ s' outs, handler cfg s 7 ch pkt e = some (s', outs) → (dispatches outs ≠ [] ↔ Emitted pkt) := by
  intro hall
  have hiff := hall Session.config { State.initial with link := ⟨true, true, 1, 2, 0x20⟩ } 0x41 corrupted Session.env
    rfl (by decide) _ _ (handler_data _ _ _ _ _)
  have hdispatch : dispatches (handleData Session.config { State.initial with link := ⟨true, true, 1, 2, 0x20⟩ }
      corrupted Session.env).2 ≠ [] := by decide
  obtain ⟨l, msgId, params, -, hpkt⟩ := hiff.mp hdispatch
  have hsum : corrupted.sum = 0 := by
    rw [hpkt]
    exact sendControlMsg_sum l msgId params
  exact absurd hsum (by decide)

end Showcase.Bt
