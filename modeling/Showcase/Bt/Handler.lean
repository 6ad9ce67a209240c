import Showcase.Lib.History
import Showcase.Bt.Control

/-!
# `Bt.Handler` — the packet handler of BTstack

`handler` of `carplay_bt.m` as a whole: RFCOMM data (`type == 7`), HCI and BTstack events (`type == 4`), and between
the calls the alarm that repeats the detect sequence. `bt_open` registers it for every packet, whatever channel or
handle the packet is about.

## Contents
- `handler`, `step` — one call, and one step of the program; nothing behind `exit`.
- `DataStep`, `HciStep` — what a call can do, one constructor for each branch (`handleData_step`, `handleHci_step`).
- `handleData_link` — the globals of the link as `Bt.Link` has them.
- `Bt.Run` — runs from the initial globals.
-/

namespace Showcase.Bt

open Lib

/-! ## Setting up -/

/-- `build_eir`. -/
def buildEir (cfg : Config) : Bytes :=
  let nameLen := (UInt8.ofNat cfg.kDeviceName.length).toNat
  let nameLen := if nameLen > 30 then 30 else nameLen
  let e := [2, 0x01, 0x06, 33, 0x07] ++
    [0xD3, 0x1F, 0xBF, 0x50, 0x5D, 0x57, 0x27, 0x97, 0xA2, 0x40, 0x41, 0xCD, 0x48, 0x43, 0x88, 0xEC] ++
    [0xFF, 0xCA, 0xCA, 0xDE, 0xAF, 0xDE, 0xCA, 0xDE, 0xDE, 0xFA, 0xCA, 0xDE, 0x00, 0x00, 0x00, 0x00] ++
    [UInt8.ofNat (1 + nameLen), 0x09] ++ cfg.kDeviceName.take nameLen ++ [2, 0x0A, 0]
  e ++ List.replicate (240 - e.length) 0

/-- An SDP record: the length of what is behind the first three bytes stands in the second and third. -/
def sdpRecord (body : Bytes) : Bytes := [0x36] ++ toBE 2 body.length ++ body

/-- `build_sdp`. -/
def buildSdp (ch : UInt8) : Bytes :=
  sdpRecord ([0x09, 0x00, 0x00, 0x0A, 0, 1, 0, 1, 0x09, 0x00, 0x01, 0x35, 17, 0x1C] ++
    [0x00, 0x00, 0x00, 0x00, 0xDE, 0xCA, 0xFA, 0xDE, 0xDE, 0xCA, 0xDE, 0xAF, 0xDE, 0xCA, 0xCA, 0xFF] ++
    [0x09, 0x00, 0x04, 0x35, 12, 0x35, 3, 0x19, 0x01, 0x00, 0x35, 5, 0x19, 0x00, 0x03, 0x08, ch] ++
    [0x09, 0x00, 0x05, 0x35, 3, 0x19, 0x10, 0x02, 0x09, 0x01, 0x00, 0x25, 12] ++ ascii "Wireless iAP")

/-- `build_did_sdp`. -/
def buildDidSdp : Bytes :=
  sdpRecord [0x09, 0x00, 0x00, 0x0A, 0x00, 0x01, 0x00, 0x02, 0x09, 0x00, 0x01, 0x35, 3, 0x19, 0x12, 0x00,
    0x09, 0x02, 0x00, 0x09, 0x01, 0x03, 0x09, 0x02, 0x01, 0x09, 0x02, 0xD1, 0x09, 0x02, 0x02, 0x09, 0x01, 0x00,
    0x09, 0x02, 0x03, 0x09, 0x01, 0x00, 0x09, 0x02, 0x04, 0x28, 0x01, 0x09, 0x02, 0x05, 0x09, 0x00, 0x02]

/-- `localNameBuf`. -/
def localNameBuf (cfg : Config) : Bytes :=
  let name := cfg.kDeviceName.take 247
  name ++ List.replicate (248 - name.length) 0

/-- The commands of `perform_bt_setup`. -/
def setupCommands (cfg : Config) : List Cmd :=
  [.hciWriteLocalName (localNameBuf cfg), .hciWriteClassOfDevice 0x200420, .hciWriteSimplePairingMode 1, .hciReadBdAddr,
    .hciWriteExtendedInquiryResponse (buildEir cfg), .rfcommRegisterService 3 0xffff,
    .sdpRegisterServiceRecord (buildSdp 3), .sdpRegisterServiceRecord buildDidSdp, .btstackSetDiscoverable 1]

/-- `perform_bt_setup`. -/
def performBtSetup (cfg : Config) (s : State) : State × List Out :=
  if s.setupDone then (s, [])
  else ({ s with setupDone := true }, (setupCommands cfg).map .cmd ++ [.ready])

/-! ## The detect sequence -/

/-- `send_detect`. -/
def sendDetect (s : State) : State × List Out :=
  if s.activeCid = 0 ∨ s.link.iap2Detected then (s, [])
  else ({ s with detectCount := s.detectCount + 1 }, [.rfcomm s.activeCid iap2Detect])

/-- `alarm_handler`. -/
def alarmHandler (s : State) : State × List Out :=
  if s.activeCid ≠ 0 ∧ s.link.iap2Detected = false ∧ s.detectCount < 10 then
    let (s, outs) := sendDetect s
    (s, outs ++ [.alarm 1])
  else (s, [])

/-! ## RFCOMM data -/

/-- What a call finds: the memory behind the packet, `rand()`, and how a challenge is signed. -/
structure Env where
  behind : Nat → UInt8
  rand : Nat
  sign : Bytes → Option Bytes

/-- The packet repeats the detect sequence. -/
def isDetectEcho (pkt : Bytes) : Prop := 6 ≤ pkt.length ∧ pkt.take 6 = iap2Detect

/-- The packet begins with `FF 5A`. -/
def isLinkPacket (byte : Nat → UInt8) (sz : Nat) : Prop := 5 ≤ sz ∧ byte 0 = 0xFF ∧ byte 1 = 0x5A

instance (pkt : Bytes) : Decidable (isDetectEcho pkt) := inferInstanceAs (Decidable (_ ∧ _))

instance (byte : Nat → UInt8) (sz : Nat) : Decidable (isLinkPacket byte sz) := inferInstanceAs (Decidable (_ ∧ _))

/-- A new `my_initial_psn`, and the SYN with it. -/
def startSyn (s : State) (link : LinkState) (rand : Nat) : State × List Out :=
  ({ s with link := newPsn link rand }, [.rfcomm s.activeCid (sendSyn (newPsn link rand))])

/-- `handler` with `type == 7`. The channel of the packet is not looked at. -/
def handleData (cfg : Config) (s : State) (pkt : Bytes) (e : Env) : State × List Out :=
  let byte := memByte pkt e.behind
  let sz := pkt.length
  if isDetectEcho pkt ∧ s.link.iap2Detected = false then
    let (s, syn) := startSyn s { s.link with iap2Detected := true } e.rand
    (s, .alarm 0 :: syn)
  else if isLinkPacket byte sz then
    let ctrl := byte 4
    let seq := byte 5
    let ack := byte 6
    if ctrl = 0x10 then startSyn s { s.link with linkEstablished := false } e.rand
    else if ctrl &&& 0xC0 = 0xC0 ∧ s.link.linkEstablished = false then
      let link := { s.link with peerPsn := seq }
      if ack = s.link.myInitialPsn then
        ({ s with link := { link with linkEstablished := true } }, [.rfcomm s.activeCid (sendAck link)])
      else ({ s with link := link }, [])
    else
      let s := { s with link := { s.link with peerPsn := seq } }
      if isData byte sz then
        let acked := .rfcomm s.activeCid (sendAck s.link)
        if isControl byte sz then
          let m := ctrlMsgAt byte
          let (s, outs) := handleCtrlMsg cfg e.sign s m.msgId (fun i => byte (15 + i)) m.plen
          (s, acked :: .dispatch m :: outs)
        else (s, [acked])
      else (s, [])
  else (s, [])

/-! ## Events -/

/-- `R16`. -/
def r16 (byte : Nat → UInt8) (p : Nat) : UInt16 := UInt16.ofNat ((byte (p + 1)).toNat * 256 + (byte p).toNat)

/-- Six bytes at `pkt[2]`. -/
def bdAddrAt (byte : Nat → UInt8) : Bytes := (List.range 6).map fun i => byte (2 + i)

/-- The events that are not looked at. -/
def ignoredEvents : List UInt8 :=
  [0x0E, 0x13, 0x1B, 0x66, 0x61, 0x0f, 0x0b, 0xe0, 0x75, 0x85, 0x87, 0x73, 0x90, 0x74, 0x88, 0x84, 0x38]

/-- The local address, from the answer to Read BD_ADDR. -/
def captureAddr (s : State) (byte : Nat → UInt8) (sz : Nat) : State :=
  if byte 0 = 0x0E ∧ 12 ≤ sz ∧ s.localBdAddr = none ∧ r16 byte 3 = 0x1009 ∧ byte 5 = 0 then
    { s with localBdAddr := some ⟨(List.range 6).map fun i => byte (11 - i), by simp⟩ }
  else s

/-- The setup when the scan mode has been written. -/
def setupFallback (cfg : Config) (s : State) (byte : Nat → UInt8) (sz : Nat) : State × List Out :=
  if byte 0 = 0x0E ∧ 6 ≤ sz ∧ s.setupDone = false ∧ r16 byte 3 = 0x0C1A ∧ byte 5 = 0 then performBtSetup cfg s
  else (s, [])

/-- Connection Complete. -/
def connectionComplete (s : State) (byte : Nat → UInt8) (sz : Nat) : State :=
  if byte 2 = 0 ∧ 4 < sz then { s with aclHandle := r16 byte 3 } else s

/-- What the close of a channel and the loss of a connection have in common. -/
def closeSession (s : State) : State :=
  resetWirelessHandoffState
    { s with activeCid := 0, link := { s.link with iap2Detected := false, linkEstablished := false } }

/-- A channel has been opened. -/
def rfcommOpened (s : State) (byte : Nat → UInt8) : State × List Out :=
  let (s, outs) := sendDetect <| resetWirelessHandoffState
    { s with activeCid := r16 byte 12, rfcommMtu := r16 byte 14, detectCount := 0,
             link := { s.link with iap2Detected := false, linkEstablished := false } }
  (s, outs ++ [.alarm 1])

/-- The switch at the end of `handler`. -/
def eventSwitch (cfg : Config) (s : State) (byte : Nat → UInt8) (sz : Nat) : State × List Out :=
  if byte 0 = 0x60 then if byte 2 = 2 then performBtSetup cfg s else (s, [])
  else if byte 0 = 0x04 then
    (s, if cfg.rootless then [] else [.cmd (.hciAcceptConnectionRequest (bdAddrAt byte))])
  else if byte 0 = 0x03 then (connectionComplete s byte sz, [])
  else if byte 0 = 0x05 then ({ closeSession s with aclHandle := 0 }, [])
  else if byte 0 = 0x31 then
    (s, if cfg.rootless then [] else [.cmd (.hciIoCapabilityRequestReply (bdAddrAt byte))])
  else if byte 0 = 0x33 then
    (s, if cfg.rootless then [] else [.cmd (.hciUserConfirmationRequestReply (bdAddrAt byte))])
  else if byte 0 = 0x82 then (s, [.cmd (.rfcommAcceptConnection (r16 byte 9))])
  else if byte 0 = 0x80 then if byte 2 = 0 then rfcommOpened s byte else (s, [])
  else if byte 0 = 0x81 then (closeSession s, [.alarm 0])
  else (s, [])

/-- `handler` with `type == 4`. -/
def handleHci (cfg : Config) (s : State) (byte : Nat → UInt8) (sz : Nat) : State × List Out :=
  let (s, outs) := setupFallback cfg (captureAddr s byte sz) byte sz
  if byte 0 ∈ ignoredEvents then (s, outs)
  else
    let (s, outs') := eventSwitch cfg s byte sz
    (s, outs ++ outs')

/-- `handler`. `BTSTACK_EVENT_POWERON_FAILED` ends the program. -/
def handler (cfg : Config) (s : State) (type : UInt8) (_ch : UInt16) (pkt : Bytes) (e : Env) :
    Option (State × List Out) :=
  let byte := memByte pkt e.behind
  if type = 4 ∧ 1 ≤ pkt.length ∧ byte 0 = 0x62 then none
  else if type = 4 ∧ byte 0 = 0x6C then some (s, [])
  else if type = 7 then some (handleData cfg s pkt e)
  else if type ≠ 4 then some (s, [])
  else some (handleHci cfg s byte pkt.length)

/-! ## Kinds of data packets

The tests of `handleData` are made one after the other, and every result about it depends on which of them succeeds.
`dataKind` makes them alone; `dataKind_means` has what is known then, and `handleData_kind` what is done. -/

/-- What the handler takes a data packet for. -/
inductive DataKind where
  | detectEcho
  | rst
  /-- A SYN-ACK for our SYN. -/
  | synAck
  /-- A SYN-ACK for another one. -/
  | synAckOther
  | control
  /-- Data of a session that is not a control message. -/
  | data
  /-- A link packet without data. -/
  | bare
  | ignored
deriving DecidableEq

/-- The tests of `handleData` in their order. -/
def dataKind (link : LinkState) (pkt : Bytes) (behind : Nat → UInt8) : DataKind :=
  let byte := memByte pkt behind
  if isDetectEcho pkt ∧ link.iap2Detected = false then .detectEcho
  else if isLinkPacket byte pkt.length then
    if byte 4 = 0x10 then .rst
    else if byte 4 &&& 0xC0 = 0xC0 ∧ link.linkEstablished = false then
      if byte 6 = link.myInitialPsn then .synAck else .synAckOther
    else if isData byte pkt.length then
      if isControl byte pkt.length then .control else .data
    else .bare
  else .ignored

/-- What is known about a packet of each kind. -/
def DataKind.Means (link : LinkState) (pkt : Bytes) (byte : Nat → UInt8) : DataKind → Prop
  | .detectEcho => isDetectEcho pkt ∧ link.iap2Detected = false
  | .rst => isLinkPacket byte pkt.length ∧ byte 4 = 0x10
  | .synAck => isLinkPacket byte pkt.length ∧ byte 4 &&& 0xC0 = 0xC0 ∧ link.linkEstablished = false ∧
      byte 6 = link.myInitialPsn
  | .synAckOther => isLinkPacket byte pkt.length ∧ byte 4 &&& 0xC0 = 0xC0 ∧ link.linkEstablished = false ∧
      byte 6 ≠ link.myInitialPsn
  | .control => isLinkPacket byte pkt.length ∧ byte 4 ≠ 0x10 ∧ isData byte pkt.length ∧ isControl byte pkt.length
  | .data => isLinkPacket byte pkt.length ∧ byte 4 ≠ 0x10 ∧ isData byte pkt.length ∧ ¬ isControl byte pkt.length
  | .bare => isLinkPacket byte pkt.length ∧ byte 4 ≠ 0x10 ∧ ¬ isData byte pkt.length
  | .ignored => ¬ isLinkPacket byte pkt.length

theorem dataKind_means (link : LinkState) (pkt : Bytes) (behind : Nat → UInt8) :
    (dataKind link pkt behind).Means link pkt (memByte pkt behind) := by
  unfold dataKind
  dsimp only
  by_cases hecho : isDetectEcho pkt ∧ link.iap2Detected = false
  · rw [if_pos hecho]
    exact hecho
  rw [if_neg hecho]
  by_cases hlink : isLinkPacket (memByte pkt behind) pkt.length
  · rw [if_pos hlink]
    by_cases hrst : memByte pkt behind 4 = 0x10
    · rw [if_pos hrst]
      exact ⟨hlink, hrst⟩
    rw [if_neg hrst]
    by_cases hsyn : memByte pkt behind 4 &&& 0xC0 = 0xC0 ∧ link.linkEstablished = false
    · rw [if_pos hsyn]
      split
      next hack => exact ⟨hlink, hsyn.1, hsyn.2, hack⟩
      next hack => exact ⟨hlink, hsyn.1, hsyn.2, hack⟩
    rw [if_neg hsyn]
    split
    next hdata =>
      split
      next hcontrol => exact ⟨hlink, hrst, hdata, hcontrol⟩
      next hcontrol => exact ⟨hlink, hrst, hdata, hcontrol⟩
    next hdata => exact ⟨hlink, hrst, hdata⟩
  · rw [if_neg hlink]
    exact hlink

/-- The detect sequence is not a link packet. -/
theorem isDetectEcho.not_isLinkPacket {pkt : Bytes} (h : isDetectEcho pkt) (behind : Nat → UInt8) (sz : Nat) :
    ¬ isLinkPacket (memByte pkt behind) sz := by
  rintro ⟨-, -, hsecond⟩
  have hget : pkt[1]? = some 0x55 := by
    have htake := congrArg (fun l : Bytes => l[1]?) h.2
    simpa [iap2Detect] using htake
  obtain ⟨hlt, hget⟩ := List.getElem?_eq_some_iff.mp hget
  rw [memByte, dif_pos hlt, hget] at hsecond
  exact absurd hsecond (by decide)

/-- An RST is one for every state of the link. -/
theorem dataKind_rst {link : LinkState} {pkt : Bytes} {behind : Nat → UInt8}
    (hlink : isLinkPacket (memByte pkt behind) pkt.length) (hrst : memByte pkt behind 4 = 0x10) :
    dataKind link pkt behind = .rst := by
  unfold dataKind
  dsimp only
  rw [if_neg fun h => h.1.not_isLinkPacket behind _ hlink, if_pos hlink, if_pos hrst]

/-- `handle_ctrl_msg` for the message in a data packet. -/
def dispatchData (cfg : Config) (s : State) (pkt : Bytes) (e : Env) : State × List Out :=
  let byte := memByte pkt e.behind
  handleCtrlMsg cfg e.sign { s with link := { s.link with peerPsn := byte 5 } } (ctrlMsgAt byte).msgId
    (fun i => byte (15 + i)) (ctrlMsgAt byte).plen

theorem dispatchData_answers (cfg : Config) (s : State) (pkt : Bytes) (e : Env) :
    Answers { s with link := { s.link with peerPsn := memByte pkt e.behind 5 } } (dispatchData cfg s pkt e) :=
  handleCtrlMsg_answers cfg e.sign _ _ _ _

/-- **What the handler does with each kind.** -/
theorem handleData_kind (cfg : Config) (s : State) (pkt : Bytes) (e : Env) :
    handleData cfg s pkt e =
      let byte := memByte pkt e.behind
      let link := { s.link with peerPsn := byte 5 }
      match dataKind s.link pkt e.behind with
      | .detectEcho =>
          let link := newPsn { s.link with iap2Detected := true } e.rand
          ({ s with link := link }, [.alarm 0, .rfcomm s.activeCid (sendSyn link)])
      | .rst =>
          let link := newPsn { s.link with linkEstablished := false } e.rand
          ({ s with link := link }, [.rfcomm s.activeCid (sendSyn link)])
      | .synAck =>
          ({ s with link := { link with linkEstablished := true } }, [.rfcomm s.activeCid (sendAck link)])
      | .synAckOther => ({ s with link := link }, [])
      | .control =>
          ((dispatchData cfg s pkt e).1,
            .rfcomm s.activeCid (sendAck link) :: .dispatch (ctrlMsgAt byte) :: (dispatchData cfg s pkt e).2)
      | .data => ({ s with link := link }, [.rfcomm s.activeCid (sendAck link)])
      | .bare => ({ s with link := link }, [])
      | .ignored => (s, []) := by
  unfold handleData dataKind
  by_cases hecho : isDetectEcho pkt ∧ s.link.iap2Detected = false
  · rw [if_pos hecho, if_pos hecho]
    rfl
  rw [if_neg hecho, if_neg hecho]
  by_cases hlink : isLinkPacket (memByte pkt e.behind) pkt.length
  · rw [if_pos hlink, if_pos hlink]
    by_cases hrst : memByte pkt e.behind 4 = 0x10
    · rw [if_pos hrst, if_pos hrst]
      rfl
    rw [if_neg hrst, if_neg hrst]
    by_cases hsyn : memByte pkt e.behind 4 &&& 0xC0 = 0xC0 ∧ s.link.linkEstablished = false
    · rw [if_pos hsyn, if_pos hsyn]
      by_cases hack : memByte pkt e.behind 6 = s.link.myInitialPsn
      · rw [if_pos hack, if_pos hack]
      · rw [if_neg hack, if_neg hack]
    rw [if_neg hsyn, if_neg hsyn]
    by_cases hdata : isData (memByte pkt e.behind) pkt.length
    · rw [if_pos hdata, if_pos hdata]
      by_cases hcontrol : isControl (memByte pkt e.behind) pkt.length
      · rw [if_pos hcontrol, if_pos hcontrol]
        rfl
      · rw [if_neg hcontrol, if_neg hcontrol]
    · rw [if_neg hdata, if_neg hdata]
  · rw [if_neg hlink, if_neg hlink]

/-! ## Steps

`Effect` has one constructor for each thing an event can do. The functions that leave the session alone are collected
first (`Unchanged`, and outputs that are `quiet`), so that in `eventSwitch_effect` one case is left for each code that
does not. -/

/-- What happens to the program. -/
inductive Event where
  | packet (type : UInt8) (ch : UInt16) (pkt : Bytes) (e : Env)
  /-- `SIGALRM`, between two calls of the handler. -/
  | alarm

/-- One event; nothing when the program ends. -/
def step (cfg : Config) (s : State) : Event → Option (State × List Out)
  | .packet type ch pkt e => handler cfg s type ch pkt e
  | .alarm => some (alarmHandler s)

namespace Event

/-- RFCOMM data. -/
def IsData : Event → Prop
  | .packet type _ _ _ => type = 7
  | .alarm => False

/-- An event whose first byte is `code`. -/
def Hci (code : UInt8) : Event → Prop
  | .packet type _ pkt e => type = 4 ∧ memByte pkt e.behind 0 = code
  | .alarm => False

/-- A channel has been opened. -/
def Opened : Event → Prop
  | .packet type _ pkt e => type = 4 ∧ memByte pkt e.behind 0 = 0x80 ∧ memByte pkt e.behind 2 = 0
  | .alarm => False

/-- A channel has been closed. -/
def Closed (ev : Event) : Prop := ev.Hci 0x81

/-- Disconnection Complete. -/
def Disconnected (ev : Event) : Prop := ev.Hci 0x05

/-- `reset_wireless_handoff_state` is called. -/
def Resets (ev : Event) : Prop := ev.Opened ∨ ev.Closed ∨ ev.Disconnected

instance (code : UInt8) : DecidablePred (Hci code) := fun ev => by
  cases ev <;> unfold Hci <;> infer_instance

instance : DecidablePred Opened := fun ev => by cases ev <;> unfold Opened <;> infer_instance

instance : DecidablePred Closed := fun ev => inferInstanceAs (Decidable (ev.Hci 0x81))

instance : DecidablePred Disconnected := fun ev => inferInstanceAs (Decidable (ev.Hci 0x05))

instance : DecidablePred Resets := fun ev =>
  inferInstanceAs (Decidable (ev.Opened ∨ ev.Closed ∨ ev.Disconnected))

theorem resets_packet {type : UInt8} {ch : UInt16} {pkt : Bytes} {e : Env} :
    (packet type ch pkt e).Resets ↔ type = 4 ∧ (memByte pkt e.behind 0 = 0x80 ∧ memByte pkt e.behind 2 = 0 ∨
      memByte pkt e.behind 0 = 0x81 ∨ memByte pkt e.behind 0 = 0x05) := by
  unfold Resets Opened Closed Disconnected Hci
  tauto

theorem not_resets_alarm : ¬ alarm.Resets := by
  unfold Resets Opened Closed Disconnected Hci
  simp

/-- An event with another first byte resets nothing. -/
theorem not_resets {type : UInt8} {ch : UInt16} {pkt : Bytes} {e : Env}
    (h : memByte pkt e.behind 0 ∉ [0x80, 0x81, 0x05]) : ¬ (packet type ch pkt e).Resets := by
  rw [resets_packet]
  rintro ⟨-, ⟨hcode, -⟩ | hcode | hcode⟩
  · exact h (by simp [hcode])
  · exact h (by simp [hcode])
  · exact h (by simp [hcode])

end Event

/-- What belongs to the session is as before. -/
structure Unchanged (s s' : State) : Prop where
  activeCid : s'.activeCid = s.activeCid
  aclHandle : s'.aclHandle = s.aclHandle
  rfcommMtu : s'.rfcommMtu = s.rfcommMtu
  link : s'.link = s.link
  handoff : s'.handoff = s.handoff

theorem Unchanged.refl (s : State) : Unchanged s s := ⟨rfl, rfl, rfl, rfl, rfl⟩

/-- No message is dispatched or sent, and the watchdog is not scheduled. -/
def Out.plain : Out → Bool
  | .rfcomm _ _ | .alarm _ | .cmd _ | .ready => true
  | .control _ _ _ _ | .dispatch _ | .watchdog _ => false

/-- Moreover, the detect sequence is all that is sent on a channel. -/
def Out.quiet : Out → Bool
  | .rfcomm _ p => p == iap2Detect
  | o => o.plain

theorem Out.plain_of_quiet {o : Out} (h : o.quiet) : o.plain := by
  cases o with
  | rfcomm => rfl
  | control => cases h
  | dispatch => cases h
  | watchdog => cases h
  | alarm => rfl
  | cmd => rfl
  | ready => rfl

/-- What an event can do. -/
inductive Effect (cfg : Config) (s : State) : Event → State → List Out → Prop where
  | kept {ev : Event} {s' : State} {outs : List Out} (hkept : Unchanged s s') (hquiet : ∀ o ∈ outs, o.quiet)
      (hev : ¬ ev.Resets) (hdata : ¬ ev.IsData) : Effect cfg s ev s' outs
  | data {ch : UInt16} {pkt : Bytes} {e : Env} :
      Effect cfg s (.packet 7 ch pkt e) (handleData cfg s pkt e).1 (handleData cfg s pkt e).2
  | connected {ch : UInt16} {pkt : Bytes} {e : Env} (hcode : memByte pkt e.behind 0 = 0x03)
      (hstatus : memByte pkt e.behind 2 = 0) (hsz : 4 < pkt.length) :
      Effect cfg s (.packet 4 ch pkt e) { s with aclHandle := r16 (memByte pkt e.behind) 3 } []
  | opened {ch : UInt16} {pkt : Bytes} {e : Env} (hcode : memByte pkt e.behind 0 = 0x80)
      (hstatus : memByte pkt e.behind 2 = 0) :
      Effect cfg s (.packet 4 ch pkt e) (rfcommOpened s (memByte pkt e.behind)).1
        (rfcommOpened s (memByte pkt e.behind)).2
  | closed {ch : UInt16} {pkt : Bytes} {e : Env} (hcode : memByte pkt e.behind 0 = 0x81) :
      Effect cfg s (.packet 4 ch pkt e) (closeSession s) [.alarm 0]
  | disconnected {ch : UInt16} {pkt : Bytes} {e : Env} (hcode : memByte pkt e.behind 0 = 0x05) :
      Effect cfg s (.packet 4 ch pkt e) { closeSession s with aclHandle := 0 } []

theorem performBtSetup_kept (cfg : Config) (s : State) :
    Unchanged s (performBtSetup cfg s).1 ∧ ∀ o ∈ (performBtSetup cfg s).2, o.quiet := by
  unfold performBtSetup
  split
  · exact ⟨.refl s, by simp⟩
  · refine ⟨⟨rfl, rfl, rfl, rfl, rfl⟩, ?_⟩
    intro o ho
    rcases List.mem_append.mp ho with ho | ho
    · obtain ⟨c, -, rfl⟩ := List.mem_map.mp ho
      rfl
    · rw [List.mem_singleton.mp ho]
      rfl

theorem setupFallback_kept (cfg : Config) (s : State) (byte : Nat → UInt8) (sz : Nat) :
    Unchanged s (setupFallback cfg s byte sz).1 ∧ ∀ o ∈ (setupFallback cfg s byte sz).2, o.quiet := by
  unfold setupFallback
  split
  · exact performBtSetup_kept cfg s
  · exact ⟨.refl s, by simp⟩

theorem captureAddr_kept (s : State) (byte : Nat → UInt8) (sz : Nat) : Unchanged s (captureAddr s byte sz) := by
  unfold captureAddr
  split
  · exact ⟨rfl, rfl, rfl, rfl, rfl⟩
  · exact .refl s

theorem sendDetect_kept (s : State) : Unchanged s (sendDetect s).1 ∧ ∀ o ∈ (sendDetect s).2, o.quiet := by
  unfold sendDetect
  split
  · exact ⟨.refl s, by simp⟩
  · exact ⟨⟨rfl, rfl, rfl, rfl, rfl⟩, by simp [Out.quiet, Out.plain]⟩

theorem sendDetect_state (s : State) :
    (sendDetect s).1 = { s with detectCount := (sendDetect s).1.detectCount } := by
  unfold sendDetect
  split
  · rfl
  · rfl

theorem alarmHandler_kept (s : State) : Unchanged s (alarmHandler s).1 ∧ ∀ o ∈ (alarmHandler s).2, o.quiet := by
  unfold alarmHandler
  split
  · obtain ⟨hkept, hquiet⟩ := sendDetect_kept s
    refine ⟨hkept, ?_⟩
    intro o ho
    rcases List.mem_append.mp ho with ho | ho
    · exact hquiet o ho
    · rw [List.mem_singleton.mp ho]
      rfl
  · exact ⟨.refl s, by simp⟩

/-- A channel that is opened begins a new session. -/
theorem rfcommOpened_spec (s : State) (byte : Nat → UInt8) :
    (rfcommOpened s byte).1 =
      { s with activeCid := r16 byte 12, rfcommMtu := r16 byte 14,
               detectCount := (rfcommOpened s byte).1.detectCount,
               link := { s.link with iap2Detected := false, linkEstablished := false },
               handoff := .fresh (s.handoff.handoffGeneration + 1) } ∧
      ∀ o ∈ (rfcommOpened s byte).2, o.quiet := by
  unfold rfcommOpened
  constructor
  · exact sendDetect_state _
  · intro o ho
    rcases List.mem_append.mp ho with ho | ho
    · exact (sendDetect_kept _).2 o ho
    · rw [List.mem_singleton.mp ho]
      rfl

/-- Events that are not Command Complete are left to the switch. -/
theorem handleHci_of_ne (cfg : Config) (s : State) {byte : Nat → UInt8} (sz : Nat) (h : byte 0 ≠ 0x0E) :
    handleHci cfg s byte sz = if byte 0 ∈ ignoredEvents then (s, []) else eventSwitch cfg s byte sz := by
  have haddr : captureAddr s byte sz = s := if_neg fun hc => h hc.1
  have hsetup : setupFallback cfg s byte sz = (s, []) := if_neg fun hc => h hc.1
  unfold handleHci
  rw [haddr, hsetup]
  rfl

theorem handleHci_of_ignored (cfg : Config) (s : State) {byte : Nat → UInt8} (sz : Nat)
    (h : byte 0 ∈ ignoredEvents) : handleHci cfg s byte sz = setupFallback cfg (captureAddr s byte sz) byte sz := by
  unfold handleHci
  simp only [if_pos h]

theorem not_isData_event {ch : UInt16} {pkt : Bytes} {e : Env} : ¬ Event.IsData (.packet 4 ch pkt e) :=
  show (4 : UInt8) ≠ 7 by decide

/-- What the switch does with an event. -/
theorem eventSwitch_effect (cfg : Config) (s : State) (ch : UInt16) (pkt : Bytes) (e : Env) :
    Effect cfg s (.packet 4 ch pkt e) (eventSwitch cfg s (memByte pkt e.behind) pkt.length).1
      (eventSwitch cfg s (memByte pkt e.behind) pkt.length).2 := by
  have hdata : ¬ Event.IsData (.packet 4 ch pkt e) := not_isData_event
  have hquiet : ∀ c : Cmd, ∀ o ∈ (if cfg.rootless then [] else [Out.cmd c]), o.quiet = true := by
    intro c o ho
    split at ho
    · cases ho
    · rw [List.mem_singleton.mp ho]
      rfl
  unfold eventSwitch
  by_cases h60 : memByte pkt e.behind 0 = 0x60
  · have hev : ¬ Event.Resets (.packet 4 ch pkt e) := Event.not_resets (by rw [h60]; decide)
    rw [if_pos h60]
    split
    · exact .kept (performBtSetup_kept cfg s).1 (performBtSetup_kept cfg s).2 hev hdata
    · exact .kept (.refl s) (by simp) hev hdata
  rw [if_neg h60]
  by_cases h04 : memByte pkt e.behind 0 = 0x04
  · rw [if_pos h04]
    exact .kept (.refl s) (hquiet _) (Event.not_resets (by rw [h04]; decide)) hdata
  rw [if_neg h04]
  by_cases h03 : memByte pkt e.behind 0 = 0x03
  · rw [if_pos h03]
    unfold connectionComplete
    split
    next hok => exact .connected h03 hok.1 hok.2
    next => exact .kept (.refl s) (by simp) (Event.not_resets (by rw [h03]; decide)) hdata
  rw [if_neg h03]
  by_cases h05 : memByte pkt e.behind 0 = 0x05
  · rw [if_pos h05]
    exact .disconnected h05
  rw [if_neg h05]
  by_cases h31 : memByte pkt e.behind 0 = 0x31
  · rw [if_pos h31]
    exact .kept (.refl s) (hquiet _) (Event.not_resets (by rw [h31]; decide)) hdata
  rw [if_neg h31]
  by_cases h33 : memByte pkt e.behind 0 = 0x33
  · rw [if_pos h33]
    exact .kept (.refl s) (hquiet _) (Event.not_resets (by rw [h33]; decide)) hdata
  rw [if_neg h33]
  by_cases h82 : memByte pkt e.behind 0 = 0x82
  · rw [if_pos h82]
    exact .kept (.refl s) (by simp [Out.quiet, Out.plain]) (Event.not_resets (by rw [h82]; decide)) hdata
  rw [if_neg h82]
  by_cases h80 : memByte pkt e.behind 0 = 0x80
  · rw [if_pos h80]
    split
    next hok => exact .opened h80 hok
    next hok =>
      refine .kept (.refl s) (by simp) ?_ hdata
      rw [Event.resets_packet, h80]
      rintro ⟨-, ⟨-, hstatus⟩ | hcode | hcode⟩
      · exact hok hstatus
      · cases hcode
      · cases hcode
  rw [if_neg h80]
  by_cases h81 : memByte pkt e.behind 0 = 0x81
  · rw [if_pos h81]
    exact .closed h81
  rw [if_neg h81]
  exact .kept (.refl s) (by simp) (Event.not_resets (by simp [h05, h80, h81])) hdata

theorem handleHci_effect (cfg : Config) (s : State) (ch : UInt16) (pkt : Bytes) (e : Env) :
    Effect cfg s (.packet 4 ch pkt e) (handleHci cfg s (memByte pkt e.behind) pkt.length).1
      (handleHci cfg s (memByte pkt e.behind) pkt.length).2 := by
  have hdata : ¬ Event.IsData (.packet 4 ch pkt e) := not_isData_event
  by_cases hcomplete : memByte pkt e.behind 0 = 0x0E
  · -- Command Complete: the address and the setup, and nothing else
    have haddr := captureAddr_kept s (memByte pkt e.behind) pkt.length
    obtain ⟨hsetup, hquiet⟩ := setupFallback_kept cfg (captureAddr s (memByte pkt e.behind) pkt.length)
      (memByte pkt e.behind) pkt.length
    have hignored : memByte pkt e.behind 0 ∈ ignoredEvents := by
      rw [hcomplete]
      decide
    rw [handleHci_of_ignored cfg s pkt.length hignored]
    exact .kept ⟨hsetup.1.trans haddr.1, hsetup.2.trans haddr.2, hsetup.3.trans haddr.3, hsetup.4.trans haddr.4,
      hsetup.5.trans haddr.5⟩ hquiet (Event.not_resets (by rw [hcomplete]; decide)) hdata
  rw [handleHci_of_ne cfg s pkt.length hcomplete]
  by_cases hignored : memByte pkt e.behind 0 ∈ ignoredEvents
  · rw [if_pos hignored]
    refine .kept (.refl s) (by simp) (Event.not_resets fun hcode => ?_) hdata
    simp only [List.mem_cons, List.not_mem_nil, or_false] at hcode
    rcases hcode with hcode | hcode | hcode
    · exact absurd (hcode ▸ hignored) (by decide)
    · exact absurd (hcode ▸ hignored) (by decide)
    · exact absurd (hcode ▸ hignored) (by decide)
  rw [if_neg hignored]
  exact eventSwitch_effect cfg s ch pkt e

/-- **What a step can do.** -/
theorem step_effect {cfg : Config} {s s' : State} {ev : Event} {outs : List Out}
    (h : step cfg s ev = some (s', outs)) : Effect cfg s ev s' outs := by
  cases ev with
  | alarm =>
      obtain ⟨rfl, rfl⟩ := Prod.mk.inj (Option.some.inj h)
      exact .kept (alarmHandler_kept s).1 (alarmHandler_kept s).2 Event.not_resets_alarm not_false
  | packet type ch pkt e =>
      change handler cfg s type ch pkt e = some (s', outs) at h
      unfold handler at h
      dsimp only at h
      split at h
      · cases h
      split at h
      next hstate =>
        obtain ⟨rfl, rfl⟩ := Prod.mk.inj (Option.some.inj h)
        obtain ⟨rfl, hcode⟩ := hstate
        exact .kept (.refl s) (by simp) (Event.not_resets (by rw [hcode]; decide)) (show (4 : UInt8) ≠ 7 by decide)
      split at h
      next hdata =>
        obtain rfl := hdata
        obtain ⟨rfl, rfl⟩ := Prod.mk.inj (Option.some.inj h)
        exact .data
      next hdata =>
      split at h
      next hother =>
        obtain ⟨rfl, rfl⟩ := Prod.mk.inj (Option.some.inj h)
        exact .kept (.refl s) (by simp) (fun hresets => hother (Event.resets_packet.mp hresets).1) hdata
      next hhci =>
        obtain rfl := not_not.mp hhci
        obtain ⟨rfl, rfl⟩ := Prod.mk.inj (Option.some.inj h)
        exact handleHci_effect cfg s ch pkt e

/-! ## Runs -/

/-- A run of the program from its start. -/
abbrev Run (cfg : Config) : List (Step State Event) → State → Prop :=
  Lib.Run (fun s ev s' => ∃ outs, step cfg s ev = some (s', outs)) State.initial

/-- What the program does in a step. -/
def outsOf (cfg : Config) (x : Step State Event) : List Out := ((step cfg x.pre x.input).map Prod.snd).getD []

/-- **Every step of a run** is one of the effects. -/
theorem Run.effect {cfg : Config} {h : List (Step State Event)} {s : State} (hr : Run cfg h s)
    {x : Step State Event} (hx : x ∈ h) : Effect cfg x.pre x.input x.post (outsOf cfg x) := by
  obtain ⟨outs, hstep⟩ := hr.step_of_mem hx
  unfold outsOf
  rw [hstep]
  exact step_effect hstep

/-- The run over a list of events. -/
def runEvents (cfg : Config) (evs : List Event) : Option (List (Step State Event) × State) :=
  exec (fun s ev => (step cfg s ev).map Prod.fst) State.initial evs

theorem runEvents_run {cfg : Config} {evs : List Event} {r : List (Step State Event) × State}
    (h : runEvents cfg evs = some r) : Run cfg r.1 r.2 := by
  apply Lib.Run.imp _ (Lib.Run.exec h)
  intro s ev s' hs
  obtain ⟨⟨_, outs⟩, hstep, rfl⟩ := Option.map_eq_some_iff.mp hs
  exact ⟨outs, hstep⟩

/-! ## A session -/

namespace Session

/-- An accessory with short names and certificates. -/
def config : Config where
  kDeviceName := [67]
  kWifiSSID := [83]
  kWifiPassword := [80]
  baaReady := true
  baaLeafDer := [1]
  baaInterDer := [2]
  rootless := false

/-- Nothing behind the packets, `rand()` is 0, and challenges are signed. -/
def env : Env := ⟨fun _ => 0, 0, fun _ => some [3]⟩

/-- `RFCOMM_EVENT_CHANNEL_OPENED` for channel `cid`, with an MTU of 1000. -/
def opened (cid : UInt8) : Event :=
  .packet 4 0 [0x80, 16, 0, 1, 2, 3, 4, 5, 6, 0x0B, 0, 3, cid, 0, 0xE8, 0x03, 1, 0] env

/-- Data on channel `cid`. -/
def data (cid : UInt16) (pkt : Bytes) : Event := .packet 7 cid pkt env

/-- The SYN-ACK of the phone. -/
def synAck : LinkPacket := ⟨0xC0, 0x20, 1, 0, synPayload⟩

/-- A control message of the phone. -/
def message (seq : UInt8) (msgId : UInt16) (params : Bytes) : LinkPacket := ⟨0x40, seq, 1, 1, controlMsg msgId params⟩

/-- A channel is opened and the link comes up on it. -/
def linkUp (cid : UInt8) : List Event :=
  [opened cid, data cid.toUInt16 iap2Detect, data cid.toUInt16 synAck.wire]

end Session

end Showcase.Bt
