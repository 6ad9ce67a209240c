import Mathlib.Data.UInt
import Showcase.Lib.Bytes

/-!
# `Bt.Link` — iAP2 link packets

The link layer of `carplay_bt.m`: what `send_ack`, `send_syn` and `send_control_msg` send, and what `handler` does
with an RFCOMM data packet (`type == 7`). It looks at the packet where it lies in memory, so that it can read on
behind its end; which bytes are there is an input.

* `LinkPacket` — a link packet as the device builds it.
* `handler_wire` — what the handler does with one that fills its RFCOMM packet.
-/

namespace Showcase

open Lib

/-! ## Sending -/

/-- The globals of the link. -/
structure LinkState where
  iap2Detected : Bool
  linkEstablished : Bool
  myInitialPsn : UInt8
  myNextPsn : UInt8
  peerPsn : UInt8
deriving DecidableEq

/-- `ck`: what makes the sum 0. -/
def ck (d : Bytes) : UInt8 := 0 - d.sum

/-- The nine bytes in front of the payload. -/
def linkHeader (total : Nat) (ctrl seq ack session : UInt8) : Bytes :=
  let p := [0xFF, 0x5A, UInt8.ofNat (total / 256), UInt8.ofNat total, ctrl, seq, ack, session]
  p ++ [ck p]

/-- A header, a payload and its checksum. -/
def linkPacket (ctrl seq ack session : UInt8) (payload : Bytes) : Bytes :=
  linkHeader (9 + payload.length + 1) ctrl seq ack session ++ payload ++ [ck payload]

/-- `send_ack`. -/
def sendAck (s : LinkState) : Bytes := linkHeader 9 0x40 s.myNextPsn s.peerPsn 0x00

/-- The payload of `send_syn`. -/
def synPayload : Bytes :=
  [0x01, 0x05, 0x08, 0x00, 0x05, 0xDC, 0x00, 0x49, 0x1E, 0x03, 0x01, 0x00, 0x02, 0x03, 0x02, 0x01]

/-- `send_syn`. -/
def sendSyn (s : LinkState) : Bytes := linkPacket 0x80 s.myInitialPsn 0x00 0x00 synPayload

/-- `msg` of `send_control_msg`. -/
def controlMsg (msgId : UInt16) (params : Bytes) : Bytes :=
  let ml := 6 + params.length
  [0x40, 0x40, UInt8.ofNat (ml / 256), UInt8.ofNat ml, UInt8.ofNat (msgId.toNat / 256), UInt8.ofNat msgId.toNat]
    ++ params

/-- `send_control_msg`: the packet, and the globals behind it. -/
def sendControlMsg (s : LinkState) (msgId : UInt16) (params : Bytes) : Bytes × LinkState :=
  (linkPacket 0x40 s.myNextPsn s.peerPsn 0x01 (controlMsg msgId params), { s with myNextPsn := s.myNextPsn + 1 })

/-! ## Receiving -/

/-- `iap2_detect`. -/
def iap2Detect : Bytes := [0xFF, 0x55, 0x02, 0x00, 0xEE, 0x10]

/-- A call of `handle_ctrl_msg`: `plen` bytes are behind `params`. -/
structure CtrlMsg where
  msgId : Nat
  plen : Int
  params : Bytes
deriving DecidableEq

/-- What the handler does. -/
inductive LinkOut where
  /-- A link packet is handed to `bt_send_rfcomm`. -/
  | send (p : Bytes)
  | dispatch (m : CtrlMsg)
deriving DecidableEq

/-- What a call of the handler finds: the memory behind the packet, `rand()`, and the control messages
    `handle_ctrl_msg` sends. -/
structure RxEnv where
  behind : Nat → UInt8
  rand : Nat
  replies : List (UInt16 × Bytes)

/-- `pkt[i]`. -/
def memByte (pkt : Bytes) (behind : Nat → UInt8) (i : Nat) : UInt8 :=
  if h : i < pkt.length then pkt[i] else behind (i - pkt.length)

/-- `my_initial_psn` and `my_next_psn` of a new link. -/
def newPsn (s : LinkState) (rand : Nat) : LinkState :=
  let psn := UInt8.ofNat (rand % 254 + 1)
  let psn := if psn = 0xFF then 0x7F else psn
  { s with myInitialPsn := psn, myNextPsn := psn + 1 }

/-- The control messages of `handle_ctrl_msg`, one after the other. -/
def sendReplies (s : LinkState) : List (UInt16 × Bytes) → LinkState × List LinkOut
  | [] => (s, [])
  | (msgId, params) :: replies =>
      let (p, s) := sendControlMsg s msgId params
      let (s, outs) := sendReplies s replies
      (s, .send p :: outs)

/-- `mlen`. -/
def msgLen (byte : Nat → UInt8) : Nat := (byte 11).toNat * 256 + (byte 12).toNat

/-- The arguments of `handle_ctrl_msg` for a message at `pkt + 9`. -/
def ctrlMsgAt (byte : Nat → UInt8) : CtrlMsg where
  msgId := (byte 13).toNat * 256 + (byte 14).toNat
  plen := (msgLen byte : Int) - 6
  params := (List.range (msgLen byte - 6)).map fun i => byte (15 + i)

/-- `(ctrl&0x40)&&session!=0&&sz>10`: data. -/
def isData (byte : Nat → UInt8) (sz : Nat) : Prop := byte 4 &&& 0x40 ≠ 0 ∧ byte 7 ≠ 0 ∧ 10 < sz

/-- `pl>=6&&m[0]==0x40&&m[1]==0x40`: it holds a control message. -/
def isControl (byte : Nat → UInt8) (sz : Nat) : Prop := 6 ≤ sz - 10 ∧ byte 9 = 0x40 ∧ byte 10 = 0x40

instance (byte : Nat → UInt8) (sz : Nat) : Decidable (isData byte sz) :=
  inferInstanceAs (Decidable (_ ∧ _))

instance (byte : Nat → UInt8) (sz : Nat) : Decidable (isControl byte sz) :=
  inferInstanceAs (Decidable (_ ∧ _))

/-- A packet that begins with `FF 5A`. -/
def handleLink (s : LinkState) (byte : Nat → UInt8) (sz : Nat) (e : RxEnv) : LinkState × List LinkOut :=
  let ctrl := byte 4
  let seq := byte 5
  let ack := byte 6
  if ctrl = 0x10 then
    let s := newPsn { s with linkEstablished := false } e.rand
    (s, [.send (sendSyn s)])
  else if ctrl &&& 0xC0 = 0xC0 ∧ s.linkEstablished = false then
    let s := { s with peerPsn := seq }
    if ack = s.myInitialPsn then ({ s with linkEstablished := true }, [.send (sendAck s)]) else (s, [])
  else
    let s := { s with peerPsn := seq }
    if isData byte sz then
      if isControl byte sz then
        let (s', replies) := sendReplies s e.replies
        (s', .send (sendAck s) :: .dispatch (ctrlMsgAt byte) :: replies)
      else (s, [.send (sendAck s)])
    else (s, [])

/-- `handler` on an RFCOMM data packet. -/
def handler (s : LinkState) (pkt : Bytes) (e : RxEnv) : LinkState × List LinkOut :=
  let byte := memByte pkt e.behind
  if 6 ≤ pkt.length ∧ pkt.take 6 = iap2Detect ∧ s.iap2Detected = false then
    let s := newPsn { s with iap2Detected := true } e.rand
    (s, [.send (sendSyn s)])
  else if 5 ≤ pkt.length ∧ byte 0 = 0xFF ∧ byte 1 = 0x5A then handleLink s byte pkt.length e
  else (s, [])

/-! ## The packets of the device

The handler reads a packet at fixed offsets. Each field of a `LinkPacket` is found at its offset in `wire`, and
`handler_wire` only has to rewrite the reads of the handler with these. -/

/-- A link packet; without a payload there is no second checksum. -/
structure LinkPacket where
  ctrl : UInt8
  seq : UInt8
  ack : UInt8
  session : UInt8
  payload : Bytes

namespace LinkPacket

variable (p : LinkPacket)

def wire : Bytes :=
  if p.payload = [] then linkHeader 9 p.ctrl p.seq p.ack p.session
  else linkPacket p.ctrl p.seq p.ack p.session p.payload

/-- The packet carries data of a session. -/
def IsData : Prop := p.ctrl &&& 0x40 ≠ 0 ∧ p.session ≠ 0 ∧ p.payload ≠ []

instance : Decidable p.IsData := inferInstanceAs (Decidable (_ ∧ _))

/-- The control message in the data, as the handler reads it. -/
def control (behind : Nat → UInt8) : Option CtrlMsg :=
  if p.IsData ∧ 6 ≤ p.payload.length ∧ p.payload.take 2 = [0x40, 0x40] then
    some (ctrlMsgAt (memByte p.wire behind))
  else none

theorem wire_length : p.wire.length = if p.payload = [] then 9 else 9 + p.payload.length + 1 := by
  unfold wire
  split
  · rfl
  · have hheader : (linkHeader (9 + p.payload.length + 1) p.ctrl p.seq p.ack p.session).length = 9 := rfl
    rw [linkPacket, List.length_append, List.length_append, hheader, List.length_singleton]

theorem wire_ctrl (behind : Nat → UInt8) : memByte p.wire behind 4 = p.ctrl := by
  unfold wire
  split
  · rfl
  · rfl

theorem wire_seq (behind : Nat → UInt8) : memByte p.wire behind 5 = p.seq := by
  unfold wire
  split
  · rfl
  · rfl

theorem wire_ack (behind : Nat → UInt8) : memByte p.wire behind 6 = p.ack := by
  unfold wire
  split
  · rfl
  · rfl

theorem wire_session (behind : Nat → UInt8) : memByte p.wire behind 7 = p.session := by
  unfold wire
  split
  · rfl
  · rfl

/-- The payload begins at the tenth byte. -/
theorem wire_payload (behind : Nat → UInt8) {i : Nat} {b : UInt8} (h : p.payload[i]? = some b) :
    memByte p.wire behind (9 + i) = b := by
  obtain ⟨hi, hb⟩ := List.getElem?_eq_some_iff.mp h
  have hne : p.payload ≠ [] := List.ne_nil_of_length_pos (by omega)
  have hheader : ∀ total, (linkHeader total p.ctrl p.seq p.ack p.session).length = 9 := fun _ => rfl
  have hlen : 9 + i < p.wire.length := by
    rw [wire_length, if_neg hne]
    omega
  rw [memByte, dif_pos hlen]
  apply Option.some.inj
  rw [← List.getElem?_eq_getElem, wire, if_neg hne, linkPacket, List.append_assoc,
    List.getElem?_append_right (by rw [hheader]; omega), hheader, Nat.add_sub_cancel_left,
    List.getElem?_append_left hi, h]

theorem isData_wire (behind : Nat → UInt8) : isData (memByte p.wire behind) p.wire.length ↔ p.IsData := by
  have hlen : 10 < p.wire.length ↔ p.payload ≠ [] := by
    rw [wire_length]
    constructor
    · intro h hnil
      rw [if_pos hnil] at h
      omega
    · intro hne
      have hpos := List.length_pos_of_ne_nil hne
      rw [if_neg hne]
      omega
  rw [isData, wire_ctrl, wire_session, hlen, IsData]

theorem isControl_wire (behind : Nat → UInt8) : isControl (memByte p.wire behind) p.wire.length ↔
    6 ≤ p.payload.length ∧ p.payload.take 2 = [0x40, 0x40] := by
  have hlen : 6 ≤ p.wire.length - 10 ↔ 6 ≤ p.payload.length := by
    rw [wire_length]
    split
    · rename_i hnil
      simp [hnil]
    · omega
  rw [isControl, hlen, and_congr_right_iff]
  intro h6
  cases hp : p.payload with
  | nil =>
      rw [hp, List.length_nil] at h6
      omega
  | cons b₀ rest =>
      cases rest with
      | nil =>
          rw [hp, List.length_singleton] at h6
          omega
      | cons b₁ rest =>
          rw [p.wire_payload behind (show p.payload[0]? = some b₀ by rw [hp]; rfl),
            p.wire_payload behind (show p.payload[1]? = some b₁ by rw [hp]; rfl)]
          simp

end LinkPacket

/-- The handler does not look into the packet for data. -/
def Intercepted (s : LinkState) (p : LinkPacket) : Prop :=
  p.ctrl = 0x10 ∨ (p.ctrl &&& 0xC0 = 0xC0 ∧ s.linkEstablished = false)

instance (s : LinkState) (p : LinkPacket) : Decidable (Intercepted s p) :=
  inferInstanceAs (Decidable (_ ∨ _))

/-- **A link packet that fills its RFCOMM packet** reaches the link layer. -/
theorem handler_wire (s : LinkState) (p : LinkPacket) (e : RxEnv) :
    handler s p.wire e = handleLink s (memByte p.wire e.behind) p.wire.length e := by
  have hdetect : p.wire.take 6 ≠ iap2Detect := by
    intro h
    have hsecond := congrArg (fun l : Bytes => l[1]?) h
    unfold LinkPacket.wire at hsecond
    split at hsecond
    · exact absurd hsecond (by simp [linkHeader, iap2Detect])
    · exact absurd hsecond (by simp [linkPacket, linkHeader, iap2Detect])
  have hmagic : 5 ≤ p.wire.length ∧ memByte p.wire e.behind 0 = 0xFF ∧ memByte p.wire e.behind 1 = 0x5A := by
    refine ⟨?_, ?_, ?_⟩
    · rw [p.wire_length]
      split
      · omega
      · omega
    · unfold LinkPacket.wire
      split
      · rfl
      · rfl
    · unfold LinkPacket.wire
      split
      · rfl
      · rfl
  rw [handler, if_neg (fun h => hdetect h.2.1), if_pos hmagic]

end Showcase
