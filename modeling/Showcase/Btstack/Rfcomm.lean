import Mathlib.Data.List.Nodup
import Showcase.Lib.Bytes

/-!
# `Btstack.Rfcomm` — the channels of `rfcomm.c`

The RFCOMM layer of the stack, as far as it decides which channels there are and what it tells the packet handler of
a channel: the channel ids, the state machine of a channel, and the events.

## Contents
- `rfcommNextClientCid` — an id that no channel has;
- `channelStateMachine` — `rfcomm_channel_state_machine_with_channel`;
- `rfcommEmitChannelOpened`, `rfcommEmitChannelClosed` — the events, byte by byte;
- `channelStateMachine_cases` — what an event may do to a channel.
-/

namespace Showcase.Btstack

open Lib

/-! ## Channels -/

/-- `RFCOMM_CHANNEL_STATE`. -/
inductive RfcommChannelState where
  | closed
  | w4Multiplexer
  | sendUihPn
  | w4PnRsp
  | sendSabmW4Ua
  | w4Ua
  | incomingSetup
  | dlcSetup
  | isOpen
  | sendUaAfterDisc
  | sendDisc
  | w4UaAfterDisc
  | sendDm
  deriving DecidableEq, Repr

/-- The events of a channel; a parameter negotiation carries a frame size. -/
inductive ChEvt where
  | rcvdSabm | rcvdUa
  | rcvdPn (maxFrameSize : UInt16)
  | rcvdPnRsp (maxFrameSize : UInt16)
  | rcvdDisc | rcvdDm | rcvdMscCmd | rcvdMscRsp | rcvdRlsCmd | rcvdRpnCmd | rcvdRpnReq | rcvdCredits
  | multiplexerReady | readyToSend
  deriving DecidableEq, Repr

/-- What a channel's events take from its multiplexer. -/
structure Multiplexer where
  remoteAddr : Block 6
  conHandle : UInt16
  maxFrameSize : UInt16

/-- `rfcomm_channel_t`, with a field for each bit of `state_var`. -/
structure RfcommChannel where
  rfcommCid : UInt16
  dlci : UInt8
  state : RfcommChannelState
  clientAccepted : Bool
  rcvdPn : Bool
  rcvdSabm : Bool
  rcvdMscRsp : Bool
  sendPnRsp : Bool
  sendRpnRsp : Bool
  sendUa : Bool
  sendMscCmd : Bool
  sendMscRsp : Bool
  sendCredits : Bool
  sentCredits : Bool
  /-- `rls_line_status` is not `RFCOMM_RLS_STATUS_INVALID`. -/
  rlsPending : Bool
  maxFrameSize : UInt16
  /-- `service != NULL`: the channel is incoming. -/
  service : Bool

/-- `rfcomm_channel_initialize`. -/
def RfcommChannel.initialize (rfcommCid : UInt16) (dlci : UInt8) (maxFrameSize : UInt16) (service : Bool) :
    RfcommChannel :=
  { rfcommCid := rfcommCid, dlci := dlci, state := .closed, clientAccepted := false, rcvdPn := false,
    rcvdSabm := false, rcvdMscRsp := false, sendPnRsp := false, sendRpnRsp := false, sendUa := false,
    sendMscCmd := false, sendMscRsp := false, sendCredits := false, sentCredits := false, rlsPending := false,
    maxFrameSize := maxFrameSize, service := service }

/-- `rfcomm_next_client_cid`: `used` tells the ids of the channels. The loop goes on while there is no free one. -/
def rfcommNextClientCid (used : UInt16 → Bool) : Nat → UInt16 → Option UInt16
  | 0, _ => none
  | n + 1, generator =>
      -- don't use 0 as channel id
      let generator := if generator = 0xffff then 1 else generator + 1
      if used generator then rfcommNextClientCid used n generator else some generator

theorem rfcommNextClientCid_unused {used : UInt16 → Bool} {n : Nat} {generator cid : UInt16}
    (h : rfcommNextClientCid used n generator = some cid) : used cid = false := by
  induction n generalizing generator with
  | zero => cases h
  | succ n ih =>
      rw [rfcommNextClientCid] at h
      generalize (if generator = 0xffff then 1 else generator + 1) = generator' at h
      split at h
      · exact ih h
      · rename_i hused
        obtain rfl := Option.some.inj h
        exact Bool.eq_false_iff.mpr hused

/-! ## Events for the packet handler -/

def rfcommEventChannelOpened : UInt8 := 0x80
def rfcommEventChannelClosed : UInt8 := 0x81
def rfcommEventIncomingConnection : UInt8 := 0x82

/-- `little_endian_store_16`. -/
def littleEndianStore16 (v : UInt16) : Bytes := toLE 2 v.toNat

/-- `little_endian_read_16`. -/
def littleEndianRead16 (packet : Bytes) (pos : Nat) : UInt16 := UInt16.ofNat (ofLE ((packet.drop pos).take 2))

/-- `rfcomm_emit_connection_request`. -/
def rfcommEmitConnectionRequest (mux : Multiplexer) (ch : RfcommChannel) : Bytes :=
  [rfcommEventIncomingConnection, 9] ++ mux.remoteAddr.val.reverse ++ [ch.dlci >>> 1] ++
    littleEndianStore16 ch.rfcommCid

/-- `rfcomm_emit_channel_opened`, which is given 17 of its 18 bytes. -/
def rfcommEmitChannelOpened (mux : Multiplexer) (ch : RfcommChannel) (status : UInt8) : Bytes :=
  [rfcommEventChannelOpened, 16, status] ++ mux.remoteAddr.val.reverse ++ littleEndianStore16 mux.conHandle ++
    [ch.dlci >>> 1] ++ littleEndianStore16 ch.rfcommCid ++ littleEndianStore16 ch.maxFrameSize ++
    [if ch.service then 1 else 0]

/-- `rfcomm_emit_channel_closed`. -/
def rfcommEmitChannelClosed (ch : RfcommChannel) : Bytes :=
  [rfcommEventChannelClosed, 2] ++ littleEndianStore16 ch.rfcommCid

/-- `rfcomm_channel_emit_final_event`. -/
def channelEmitFinalEvent (mux : Multiplexer) (ch : RfcommChannel) (status : UInt8) : List Bytes :=
  match ch.state with
  | .isOpen | .w4UaAfterDisc => [rfcommEmitChannelClosed ch]
  | .sendUaAfterDisc => []
  | _ => [rfcommEmitChannelOpened mux ch status]

/-! ## Reading the events -/

theorem littleEndianStore16_eq (v : UInt16) :
    littleEndianStore16 v = [UInt8.ofNat v.toNat, UInt8.ofNat (v.toNat / 256)] := rfl

theorem littleEndianRead16_eq (a b : UInt8) (pre post : Bytes) :
    littleEndianRead16 (pre ++ [a, b] ++ post) pre.length = UInt16.ofNat (a.toNat + 256 * b.toNat) := by
  rw [littleEndianRead16, List.append_assoc, List.drop_left, ofLE]
  show UInt16.ofNat ((0 * 256 + b.toNat) * 256 + a.toNat) = _
  congr 1
  omega

/-- The byte in front of the frame size, and its first byte. -/
def misread (rfcommCid maxFrameSize : UInt16) : UInt16 :=
  UInt16.ofNat (rfcommCid.toNat / 256 + 256 * (maxFrameSize.toNat % 256))

/-- The id is at offset 12 of the event; at offset 13 something else is read. -/
theorem read_opened (mux : Multiplexer) (ch : RfcommChannel) (status : UInt8) :
    littleEndianRead16 (rfcommEmitChannelOpened mux ch status) 12 = ch.rfcommCid ∧
      littleEndianRead16 (rfcommEmitChannelOpened mux ch status) 13 = misread ch.rfcommCid ch.maxFrameSize := by
  have haddr : mux.remoteAddr.val.reverse.length = 6 := by rw [List.length_reverse, mux.remoteAddr.property]
  have hlt := ch.rfcommCid.toNat_lt
  constructor
  · have hat := littleEndianRead16_eq (UInt8.ofNat ch.rfcommCid.toNat) (UInt8.ofNat (ch.rfcommCid.toNat / 256))
      ([rfcommEventChannelOpened, 16, status] ++ mux.remoteAddr.val.reverse ++
        littleEndianStore16 mux.conHandle ++ [ch.dlci >>> 1])
      (littleEndianStore16 ch.maxFrameSize ++ [if ch.service then 1 else 0])
    have hlen : ([rfcommEventChannelOpened, 16, status] ++ mux.remoteAddr.val.reverse ++
        littleEndianStore16 mux.conHandle ++ [ch.dlci >>> 1]).length = 12 := by
      simp [littleEndianStore16_eq, haddr]
    rw [hlen] at hat
    refine Eq.trans ?_ (hat.trans ?_)
    · simp [rfcommEmitChannelOpened, littleEndianStore16_eq]
    · apply UInt16.toNat_inj.mp
      simp only [UInt16.toNat_ofNat', UInt8.toNat_ofNat']
      omega
  · have hat := littleEndianRead16_eq (UInt8.ofNat (ch.rfcommCid.toNat / 256)) (UInt8.ofNat ch.maxFrameSize.toNat)
      ([rfcommEventChannelOpened, 16, status] ++ mux.remoteAddr.val.reverse ++
        littleEndianStore16 mux.conHandle ++ [ch.dlci >>> 1, UInt8.ofNat ch.rfcommCid.toNat])
      [UInt8.ofNat (ch.maxFrameSize.toNat / 256), if ch.service then 1 else 0]
    have hlen : ([rfcommEventChannelOpened, 16, status] ++ mux.remoteAddr.val.reverse ++
        littleEndianStore16 mux.conHandle ++ [ch.dlci >>> 1, UInt8.ofNat ch.rfcommCid.toNat]).length = 13 := by
      simp [littleEndianStore16_eq, haddr]
    rw [hlen] at hat
    refine Eq.trans ?_ (hat.trans ?_)
    · simp [rfcommEmitChannelOpened, littleEndianStore16_eq]
    · unfold misread
      congr 1
      simp only [UInt8.toNat_ofNat']
      omega

theorem read_closed (ch : RfcommChannel) : littleEndianRead16 (rfcommEmitChannelClosed ch) 2 = ch.rfcommCid := by
  have hlt := ch.rfcommCid.toNat_lt
  have hat := littleEndianRead16_eq (UInt8.ofNat ch.rfcommCid.toNat) (UInt8.ofNat (ch.rfcommCid.toNat / 256))
    [rfcommEventChannelClosed, 2] []
  refine Eq.trans ?_ (hat.trans ?_)
  · simp [rfcommEmitChannelClosed, littleEndianStore16_eq]
  · apply UInt16.toNat_inj.mp
    simp only [UInt16.toNat_ofNat', UInt8.toNat_ofNat']
    omega

/-! ## The state machine -/

/-- `ERROR_CODE_CONNECTION_REJECTED_DUE_TO_LIMITED_RESOURCES`. -/
def errorCodeLimitedResources : UInt8 := 0x0D

/-- `rfcomm_channel_accept_pn`. -/
def channelAcceptPn (mux : Multiplexer) (ch : RfcommChannel) (maxFrameSize : UInt16) : RfcommChannel :=
  { ch with maxFrameSize := min (min ch.maxFrameSize mux.maxFrameSize) maxFrameSize }

/-- `rfcomm_channel_ready_for_incoming_dlc_setup`. -/
def readyForIncomingDlcSetup (ch : RfcommChannel) : Bool :=
  ch.clientAccepted && ch.rcvdSabm && !ch.sendUa && !ch.sendPnRsp

/-- `RFCOMM_CHANNEL_INCOMING_SETUP`. -/
def incomingSetupEvent (mux : Multiplexer) (ch : RfcommChannel) : ChEvt → RfcommChannel
  | .rcvdSabm => { ch with rcvdSabm := true, sendUa := ch.sendUa || ch.clientAccepted }
  | .rcvdPn maxFrameSize =>
      { channelAcceptPn mux ch maxFrameSize with rcvdPn := true, sendPnRsp := ch.sendPnRsp || ch.clientAccepted }
  | .readyToSend =>
      let ch :=
        if ch.sendPnRsp then { ch with sendPnRsp := false }
        else if ch.sendUa then { ch with sendUa := false }
        else ch
      if readyForIncomingDlcSetup ch then { ch with sendMscCmd := true, sendCredits := true, state := .dlcSetup }
      else ch
  | _ => ch

/-- `RFCOMM_CHANNEL_DLC_SETUP` up to the test whether the channel is open. -/
def dlcSetupFlags (ch : RfcommChannel) : ChEvt → RfcommChannel
  | .rcvdMscCmd => { ch with sendMscRsp := true }
  | .rcvdMscRsp => { ch with rcvdMscRsp := true }
  | .readyToSend =>
      if ch.sendMscCmd then { ch with sendMscCmd := false }
      else if ch.sendCredits then { ch with sendCredits := false, sentCredits := true }
      else ch
  | _ => ch

/-- `RFCOMM_CHANNEL_DLC_SETUP` with its test, `rfcomm_channel_ready_for_open`. -/
def dlcSetupEvent (mux : Multiplexer) (ch : RfcommChannel) (event : ChEvt) : RfcommChannel × List Bytes :=
  let ch := dlcSetupFlags ch event
  if ch.rcvdMscRsp && ch.sentCredits then
    ({ ch with state := .isOpen }, [rfcommEmitChannelOpened mux { ch with state := .isOpen } 0])
  else (ch, [])

/-- The `switch` over the state; no channel is left when it is finalized. -/
def channelStateSwitch (mux : Multiplexer) (ch : RfcommChannel) (event : ChEvt) :
    Option RfcommChannel × List Bytes :=
  match ch.state, event with
  | .closed, .rcvdSabm =>
      let ch := { ch with rcvdSabm := true, state := .incomingSetup }
      (some ch, [rfcommEmitConnectionRequest mux ch])
  | .closed, .rcvdPn maxFrameSize =>
      let ch := { channelAcceptPn mux ch maxFrameSize with rcvdPn := true, state := .incomingSetup }
      (some ch, [rfcommEmitConnectionRequest mux ch])
  | .incomingSetup, event => (some (incomingSetupEvent mux ch event), [])
  | .w4Multiplexer, .multiplexerReady => (some { ch with state := .sendUihPn }, [])
  | .sendUihPn, .readyToSend =>
      (some { ch with maxFrameSize := min mux.maxFrameSize ch.maxFrameSize, state := .w4PnRsp }, [])
  | .w4PnRsp, .rcvdPnRsp maxFrameSize =>
      (some { ch with maxFrameSize := min ch.maxFrameSize maxFrameSize, state := .sendSabmW4Ua }, [])
  | .sendSabmW4Ua, .readyToSend => (some { ch with state := .w4Ua }, [])
  | .w4Ua, .rcvdUa => (some { ch with sendMscCmd := true, sendCredits := true, state := .dlcSetup }, [])
  | .dlcSetup, event =>
      let r := dlcSetupEvent mux ch event
      (some r.1, r.2)
  | .isOpen, .rcvdMscCmd => (some { ch with sendMscRsp := true }, [])
  -- the channel was never open: no event
  | .sendDm, .readyToSend => (none, [])
  | .sendDisc, .readyToSend => (some { ch with state := .w4UaAfterDisc }, [])
  | .w4UaAfterDisc, .rcvdUa => (none, [rfcommEmitChannelClosed ch])
  | .sendUaAfterDisc, .readyToSend => (none, [])
  | _, _ => (some ch, [])

/-- `rfcomm_channel_state_machine_with_channel`. The events about port settings, line and modem status are left
    out: the daemon passes them on to everybody. -/
def channelStateMachine (mux : Multiplexer) (ch : RfcommChannel) (event : ChEvt) :
    Option RfcommChannel × List Bytes :=
  match event with
  | .rcvdDisc => (some { ch with state := .sendUaAfterDisc }, [rfcommEmitChannelClosed ch])
  | .rcvdDm => (none, channelEmitFinalEvent mux ch errorCodeLimitedResources)
  | .rcvdRpnCmd | .rcvdRpnReq => (some { ch with sendRpnRsp := true }, [])
  | .rcvdRlsCmd => (some { ch with rlsPending := true }, [])
  | event =>
      if event = .readyToSend ∧ ch.sendRpnRsp then (some { ch with sendRpnRsp := false }, [])
      else if event = .readyToSend ∧ ch.sendMscRsp then (some { ch with sendMscRsp := false }, [])
      else if event = .readyToSend ∧ ch.rlsPending then (some { ch with rlsPending := false }, [])
      else channelStateSwitch mux ch event

/-! ## Calls for a channel -/

/-- `rfcomm_accept_connection`. -/
def rfcommAcceptConnection (ch : RfcommChannel) : RfcommChannel :=
  if ch.state = .incomingSetup then
    { ch with clientAccepted := true, sendPnRsp := ch.sendPnRsp || ch.rcvdPn, sendUa := ch.sendUa || ch.rcvdSabm }
  else ch

/-- `rfcomm_decline_connection`. -/
def rfcommDeclineConnection (ch : RfcommChannel) : RfcommChannel :=
  if ch.state = .incomingSetup then { ch with state := .sendDm } else ch

/-- `rfcomm_disconnect`. -/
def rfcommDisconnect (ch : RfcommChannel) : RfcommChannel := { ch with state := .sendDisc }

/-! ## What an event may do to a channel

The state machine has a case for each state and each event. Here only this is kept of it: whether the channel stays,
is told to be open or closed, or goes; and each part of the machine is brought under it separately. -/

/-- The channel is about to go without a further event. -/
def Parting (ch : RfcommChannel) : Prop := ch.state = .sendDm ∨ ch.state = .sendUaAfterDisc

/-- Nothing goes to the packet handler, an incoming connection, or that a channel is open. -/
def Quiet (mux : Multiplexer) (out : List Bytes) : Prop :=
  out = [] ∨ (∃ ch, out = [rfcommEmitConnectionRequest mux ch]) ∨ ∃ ch, out = [rfcommEmitChannelOpened mux ch 0]

/-- The outcomes of an event for a channel, and when it is reported as one that failed to open. -/
inductive Outcome (mux : Multiplexer) (ch : RfcommChannel) (F : Prop) :
    Option RfcommChannel → List Bytes → Prop where
  | stays {ch' : RfcommChannel} {out : List Bytes} (hcid : ch'.rfcommCid = ch.rfcommCid)
      (hparting : Parting ch' → Parting ch) (hquiet : Quiet mux out) : Outcome mux ch F (some ch') out
  | closes {ch' : RfcommChannel} (hcid : ch'.rfcommCid = ch.rfcommCid) :
      Outcome mux ch F (some ch') [rfcommEmitChannelClosed ch]
  | ends : Outcome mux ch F none [rfcommEmitChannelClosed ch]
  | fails {status : UInt8} (hstatus : status ≠ 0) (hF : F) :
      Outcome mux ch F none [rfcommEmitChannelOpened mux ch status]
  | vanishes (hparting : Parting ch) : Outcome mux ch F none []

/-- The channel fails to open, or so it is reported, when it is finalized in this state. -/
def FailsWhenFinal (ch : RfcommChannel) : Prop :=
  ch.state ≠ .isOpen ∧ ch.state ≠ .w4UaAfterDisc ∧ ch.state ≠ .sendUaAfterDisc

section Outcomes

variable {mux : Multiplexer} {ch ch' : RfcommChannel} {out : List Bytes} {F : Prop}

theorem Outcome.same (hparting : Parting ch' → Parting ch) (hcid : ch'.rfcommCid = ch.rfcommCid) :
    Outcome mux ch F (some ch') [] := .stays hcid hparting (.inl rfl)

/-- A channel in a state it does not part from. -/
theorem Outcome.onward (hcid : ch'.rfcommCid = ch.rfcommCid) (hdm : ch'.state ≠ .sendDm)
    (hua : ch'.state ≠ .sendUaAfterDisc) (hquiet : Quiet mux out) : Outcome mux ch F (some ch') out :=
  .stays hcid (fun h => h.elim (absurd · hdm) (absurd · hua)) hquiet

theorem finalEvent_outcome (mux : Multiplexer) (ch : RfcommChannel) {status : UInt8} (hstatus : status ≠ 0) :
    Outcome mux ch (FailsWhenFinal ch) none (channelEmitFinalEvent mux ch status) := by
  unfold channelEmitFinalEvent
  split
  · exact .ends
  · exact .ends
  · exact .vanishes (.inr (by assumption))
  · exact .fails hstatus ⟨by assumption, by assumption, by assumption⟩

theorem incomingSetupEvent_outcome (hstate : ch.state = .incomingSetup) (event : ChEvt) :
    Outcome mux ch F (some (incomingSetupEvent mux ch event)) [] := by
  have hkeep : (incomingSetupEvent mux ch event).rfcommCid = ch.rfcommCid ∧
      ((incomingSetupEvent mux ch event).state = .incomingSetup ∨
        (incomingSetupEvent mux ch event).state = .dlcSetup) := by
    unfold incomingSetupEvent channelAcceptPn
    cases event with
    | readyToSend =>
        dsimp only
        repeat' split
        all_goals simp_all
    | _ => exact ⟨rfl, .inl hstate⟩
  obtain ⟨hcid, hnext⟩ := hkeep
  rcases hnext with hnext | hnext
  · exact .onward hcid (by simp [hnext]) (by simp [hnext]) (.inl rfl)
  · exact .onward hcid (by simp [hnext]) (by simp [hnext]) (.inl rfl)

theorem dlcSetupFlags_kept (ch : RfcommChannel) (event : ChEvt) :
    (dlcSetupFlags ch event).rfcommCid = ch.rfcommCid ∧ (dlcSetupFlags ch event).state = ch.state := by
  unfold dlcSetupFlags
  split
  · exact ⟨rfl, rfl⟩
  · exact ⟨rfl, rfl⟩
  · split
    · exact ⟨rfl, rfl⟩
    split
    · exact ⟨rfl, rfl⟩
    · exact ⟨rfl, rfl⟩
  · exact ⟨rfl, rfl⟩

theorem dlcSetupEvent_outcome (hstate : ch.state = .dlcSetup) (event : ChEvt) :
    Outcome mux ch F (some (dlcSetupEvent mux ch event).1) (dlcSetupEvent mux ch event).2 := by
  obtain ⟨hcid, hsame⟩ := dlcSetupFlags_kept ch event
  unfold dlcSetupEvent
  dsimp only
  split
  · exact .onward hcid (by simp) (by simp) (.inr (.inr ⟨_, rfl⟩))
  · exact .onward hcid (by simp [hsame, hstate]) (by simp [hsame, hstate]) (.inl rfl)

theorem channelStateSwitch_outcome (mux : Multiplexer) (ch : RfcommChannel) (event : ChEvt) :
    Outcome mux ch F (channelStateSwitch mux ch event).1 (channelStateSwitch mux ch event).2 := by
  unfold channelStateSwitch
  -- the state first: each state knows one or two events, and leaves the channel as it is at the others
  cases hstate : ch.state with
  | incomingSetup => exact incomingSetupEvent_outcome hstate event
  | dlcSetup => exact dlcSetupEvent_outcome hstate event
  | closed =>
      cases event with
      | rcvdSabm => exact .onward rfl (by simp) (by simp) (.inr (.inl ⟨_, rfl⟩))
      | rcvdPn maxFrameSize => exact .onward rfl (by simp) (by simp) (.inr (.inl ⟨_, rfl⟩))
      | _ => exact .same id rfl
  | w4PnRsp =>
      cases event with
      | rcvdPnRsp maxFrameSize => exact .onward rfl (by simp) (by simp) (.inl rfl)
      | _ => exact .same id rfl
  | w4Multiplexer =>
      cases event with
      | multiplexerReady => exact .onward rfl (by simp) (by simp) (.inl rfl)
      | _ => exact .same id rfl
  | sendUihPn | sendSabmW4Ua | sendDisc =>
      cases event with
      | readyToSend => exact .onward rfl (by simp) (by simp) (.inl rfl)
      | _ => exact .same id rfl
  | w4Ua =>
      cases event with
      | rcvdUa => exact .onward rfl (by simp) (by simp) (.inl rfl)
      | _ => exact .same id rfl
  | isOpen =>
      cases event with
      | rcvdMscCmd => exact .onward rfl (by simp) (by simp) (.inl rfl)
      | _ => exact .same id rfl
  | sendDm =>
      cases event with
      | readyToSend => exact .vanishes (.inl hstate)
      | _ => exact .same id rfl
  | sendUaAfterDisc =>
      cases event with
      | readyToSend => exact .vanishes (.inr hstate)
      | _ => exact .same id rfl
  | w4UaAfterDisc =>
      cases event with
      | rcvdUa => exact .ends
      | _ => exact .same id rfl

theorem Outcome.mono {F' : Prop} {next : Option RfcommChannel} (himp : F → F') (h : Outcome mux ch F next out) :
    Outcome mux ch F' next out := by
  cases h with
  | stays hcid hparting hquiet => exact .stays hcid hparting hquiet
  | closes hcid => exact .closes hcid
  | ends => exact .ends
  | fails hstatus hF => exact .fails hstatus (himp hF)
  | vanishes hparting => exact .vanishes hparting

/-- **What an event may do to a channel.** Only a DM makes it fail. -/
theorem channelStateMachine_outcome (mux : Multiplexer) (ch : RfcommChannel) (event : ChEvt) :
    Outcome mux ch (event = .rcvdDm ∧ FailsWhenFinal ch) (channelStateMachine mux ch event).1
      (channelStateMachine mux ch event).2 := by
  unfold channelStateMachine
  split
  · exact .closes rfl
  · exact (finalEvent_outcome mux ch (by decide)).mono fun h => ⟨rfl, h⟩
  · exact .same id rfl
  · exact .same id rfl
  · exact .same id rfl
  · split
    · exact .same id rfl
    split
    · exact .same id rfl
    split
    · exact .same id rfl
    · exact channelStateSwitch_outcome mux ch _

end Outcomes

end Showcase.Btstack
