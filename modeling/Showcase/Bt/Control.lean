import Showcase.OpenSSL
import Showcase.Bt.Link

/-!
# `Bt.Control` — the control messages

`handle_ctrl_msg` of `carplay_bt.m` and what it calls: the parameter builder, the messages the accessory sends, and
the Wi-Fi hand-off (`0x5702`, `0x4E0D`, `0x4E0E`, `0xAA05`). The build switches are the defaults of the source: no
channel, no BSSID and no `0x4301`, so that `send_carplay_start_session` does nothing.

* `State` — the globals of `carplay_bt.m`; `Handoff` is the part that `reset_wireless_handoff_state` clears.
* `handleCtrlMsg` — one message. Its parameters are read where they lie in memory: `params i` is `params[i]`, and
  `plen`, which the caller computes, may be negative.
-/

namespace Showcase.Bt

open Lib

/-! ## Parameters of a message -/

/-- A parameter: its length with the four bytes in front, its id, its value. -/
def pbParam (id : Nat) (value : Bytes) : Bytes := toBE 2 (4 + value.length) ++ toBE 2 id ++ value

/-- `pb_utf8`; `s` is the C string without its NUL. -/
def pbUtf8 (id : Nat) (s : Bytes) : Bytes := pbParam id (s ++ [0])

/-- `pb_utf8_list`. -/
def pbUtf8List (id : Nat) (items : List Bytes) (extraFinalNul : Bool) : Bytes :=
  pbParam id ((items.map (· ++ [0])).flatten ++ if extraFinalNul then [0] else [])

/-- `pb_u8`. -/
def pbU8 (id : Nat) (v : UInt8) : Bytes := pbParam id [v]

/-- `pb_u16`. -/
def pbU16 (id : Nat) (v : Nat) : Bytes := pbParam id (toBE 2 v)

/-- `pb_none`. -/
def pbNone (id : Nat) : Bytes := pbParam id []

/-- `pb_blob`. -/
def pbBlob (id : Nat) (d : Bytes) : Bytes := pbParam id d

/-- `pb_u16arr`. -/
def pbU16Arr (id : Nat) (vs : List Nat) : Bytes := pbParam id (vs.map (toBE 2)).flatten

/-- What stands between `pb_grp_begin` and `pb_grp_end`, with the length that is filled in at the end. -/
def pbGrp (id : Nat) (body : Bytes) : Bytes := pbParam id body

/-! ## Globals -/

/-- What `parse_args` and the certificate cache leave. `rootless` is the build for rootless jailbreaks. -/
structure Config where
  kDeviceName : Bytes
  kWifiSSID : Bytes
  kWifiPassword : Bytes
  baaReady : Bool
  baaLeafDer : Bytes
  baaInterDer : Bytes
  rootless : Bool

/-- The state of the Wi-Fi hand-off. -/
structure Handoff where
  wifiConfigSent : Bool
  startSessionSent : Bool
  wifiConfigRequested : Bool
  transportNotificationSeen : Bool
  wifiConfigSentPreTransport : Bool
  wifiConfigSentPostTransport : Bool
  wirelessCarplayConnectingSeen : Bool
  wifiConfigRequestCount : Nat
  wifiConfigSendCount : Nat
  wifiConfigRetryCount : Nat
  mfiAuthSucceeded : Bool
  handoffWatchdogArmed : Bool
  handoffGeneration : UInt32
deriving DecidableEq

/-- The hand-off state of a generation in which nothing has happened. -/
def Handoff.fresh (generation : UInt32) : Handoff where
  wifiConfigSent := false
  startSessionSent := false
  wifiConfigRequested := false
  transportNotificationSeen := false
  wifiConfigSentPreTransport := false
  wifiConfigSentPostTransport := false
  wirelessCarplayConnectingSeen := false
  wifiConfigRequestCount := 0
  wifiConfigSendCount := 0
  wifiConfigRetryCount := 0
  mfiAuthSucceeded := false
  handoffWatchdogArmed := false
  handoffGeneration := generation

/-- The globals. `localBdAddr` is `none` while `have_local_addr` is 0. -/
structure State where
  activeCid : UInt16
  rfcommMtu : UInt16
  aclHandle : UInt16
  detectCount : Nat
  link : LinkState
  localBdAddr : Option (Block 6)
  setupDone : Bool
  handoff : Handoff
deriving DecidableEq

/-- The initial values of the globals. -/
def State.initial : State where
  activeCid := 0
  rfcommMtu := 1007
  aclHandle := 0
  detectCount := 0
  link := ⟨false, false, 0, 0, 0⟩
  localBdAddr := none
  setupDone := false
  handoff := .fresh 0

/-- `reset_wireless_handoff_state`. -/
def resetWirelessHandoffState (s : State) : State :=
  { s with handoff := .fresh (s.handoff.handoffGeneration + 1) }

/-! ## Output -/

/-- A command for BTstack. -/
inductive Cmd where
  | hciWriteLocalName (name : Bytes)
  | hciWriteClassOfDevice (cod : Nat)
  | hciWriteSimplePairingMode (mode : Nat)
  | hciReadBdAddr
  | hciWriteExtendedInquiryResponse (eir : Bytes)
  | rfcommRegisterService (channel mtu : Nat)
  | sdpRegisterServiceRecord (rec : Bytes)
  | btstackSetDiscoverable (on : Nat)
  | hciAcceptConnectionRequest (addr : Bytes)
  | hciIoCapabilityRequestReply (addr : Bytes)
  | hciUserConfirmationRequestReply (addr : Bytes)
  | rfcommAcceptConnection (cid : UInt16)
deriving DecidableEq

/-- What the program does. -/
inductive Out where
  /-- `bt_send_rfcomm` of a detect sequence, a SYN or an acknowledgement. -/
  | rfcomm (cid : UInt16) (p : Bytes)
  /-- `send_control_msg`: the message, and the link packet it goes out in. -/
  | control (cid : UInt16) (msgId : UInt16) (params : Bytes) (p : Bytes)
  /-- `handle_ctrl_msg` is called. -/
  | dispatch (m : CtrlMsg)
  /-- The watchdog is scheduled; `generation` is what its block captures. -/
  | watchdog (generation : UInt32)
  | alarm (seconds : Nat)
  | cmd (c : Cmd)
  /-- The sentinel at `BT_READY_PATH` is written. -/
  | ready
deriving DecidableEq

/-- `send_control_msg`, with the globals it changes. -/
def sendControl (s : State) (msgId : UInt16) (params : Bytes) : State × List Out :=
  let (p, link) := sendControlMsg s.link msgId params
  ({ s with link := link }, [.control s.activeCid msgId params p])

/-! ## Authentication -/

/-- `send_auth_cert`. -/
def sendAuthCert (cfg : Config) (s : State) : State × List Out :=
  if cfg.baaReady then
    sendControl s 0xAA01 (pbBlob 0x0000 cfg.baaLeafDer ++ pbU8 0x0001 1 ++ pbBlob 0x0002 cfg.baaInterDer)
  else (s, [])

/-- `send_auth_response`; `sig` is the signature of the challenge, if there is a key and it could be made. -/
def sendAuthResponse (s : State) (sig : Option Bytes) : State × List Out :=
  match sig with
  | some sig => sendControl s 0xAA03 (pbBlob 0x0000 sig)
  | none => (s, [])

/-! ## Identification -/

/-- `msgs_sent`. -/
def msgsSent : List Nat := [0xAA01, 0xAA03, 0x4E01, 0x5703, 0xEA03]

/-- `msgs_recv`. -/
def msgsRecv : List Nat :=
  [0xAA00, 0xAA02, 0xAA04, 0xAA05, 0x5702, 0x4E0B, 0x4E0D, 0x4E0E, 0xEA00, 0xEA01]

/-- The parameters of `0x1D01`. -/
def identificationInfo (cfg : Config) (addr : Option (Block 6)) : Bytes :=
  pbUtf8 0x0000 cfg.kDeviceName ++ pbUtf8 0x0001 (ascii "RL-100") ++ pbUtf8 0x0002 (ascii "RoadLink Labs") ++
    pbUtf8 0x0003 (ascii "RL100-0001") ++ pbUtf8 0x0004 (ascii "1.0") ++ pbUtf8 0x0005 (ascii "1.0") ++
    pbU16Arr 0x0006 msgsSent ++ pbU16Arr 0x0007 msgsRecv ++ pbU8 0x0008 0 ++ pbU16 0x0009 0 ++
    pbGrp 0x000A (pbU8 0x0000 1 ++ pbUtf8 0x0001 (ascii "com.apple.carplay") ++ pbU8 0x0002 0) ++
    pbUtf8 0x000C (ascii "en") ++ pbUtf8List 0x000D [ascii "en"] true ++
    pbGrp 0x0011 (pbU16 0x0000 0 ++ pbUtf8 0x0001 (ascii "RoadLink BT") ++ pbNone 0x0002 ++
      match addr with
      | some a => pbBlob 0x0003 a.val
      | none => []) ++
    pbGrp 0x0018 (pbU16 0x0000 1 ++ pbUtf8 0x0001 (ascii "RoadLink WiFi") ++ pbNone 0x0002 ++ pbNone 0x0004)

/-- `send_identification_info`. -/
def sendIdentificationInfo (cfg : Config) (s : State) : State × List Out :=
  sendControl s 0x1D01 (identificationInfo cfg s.localBdAddr)

/-- `send_bt_component_info`. -/
def sendBtComponentInfo (s : State) : State × List Out := sendControl s 0x4E01 (pbU16 0x0000 0)

/-! ## Wi-Fi hand-off -/

/-- `WIFI_CONFIG_MAX_SENDS`. -/
def wifiConfigMaxSends : Nat := 5

/-- `kWifiSecurityType`. -/
def kWifiSecurityType : UInt8 := 2

/-- The parameters of `0x5703`. -/
def wifiConfig (cfg : Config) : Bytes :=
  pbUtf8 0x0001 cfg.kWifiSSID ++ pbUtf8 0x0002 cfg.kWifiPassword ++ pbU8 0x0003 kWifiSecurityType

/-- `send_accessory_wifi_config`; nothing is returned when the cap is reached. -/
def sendAccessoryWifiConfig (cfg : Config) (s : State) : Option (State × List Out) :=
  if wifiConfigMaxSends ≤ s.handoff.wifiConfigSendCount then none
  else
    let (s, outs) := sendControl s 0x5703 (wifiConfig cfg)
    some ({ s with handoff := { s.handoff with
      wifiConfigSent := true, wifiConfigSendCount := s.handoff.wifiConfigSendCount + 1 } }, outs)

/-- The four conditions of the watchdog. -/
def Handoff.Stuckable (g : Handoff) : Prop :=
  g.mfiAuthSucceeded ∧ g.wirelessCarplayConnectingSeen ∧ g.transportNotificationSeen ∧ g.wifiConfigSentPostTransport

instance (g : Handoff) : Decidable g.Stuckable := inferInstanceAs (Decidable (_ ∧ _))

/-- `maybe_start_handoff_watchdog`. -/
def maybeStartHandoffWatchdog (s : State) : State × List Out :=
  if s.handoff.handoffWatchdogArmed then (s, [])
  else if s.handoff.Stuckable then
    ({ s with handoff := { s.handoff with handoffWatchdogArmed := true } },
      [.watchdog s.handoff.handoffGeneration])
  else (s, [])

/-- `0x5702`. -/
def requestAccessoryWiFiConfigInfo (cfg : Config) (s : State) : State × List Out :=
  let s := { s with handoff := { s.handoff with
    wifiConfigRequestCount := s.handoff.wifiConfigRequestCount + 1, wifiConfigRequested := true } }
  if s.handoff.transportNotificationSeen then
    match sendAccessoryWifiConfig cfg s with
    | some (s, sent) =>
        let s := { s with handoff := { s.handoff with
          wifiConfigSentPostTransport := true, wifiConfigRetryCount := s.handoff.wifiConfigRetryCount + 1 } }
        let (s, outs) := maybeStartHandoffWatchdog s
        (s, sent ++ outs)
    | none => (s, [])
  else
    match sendAccessoryWifiConfig cfg s with
    | some (s, sent) => ({ s with handoff := { s.handoff with wifiConfigSentPreTransport := true } }, sent)
    | none => (s, [])

/-- `0x4E0E`. -/
def deviceTransportIdentifierNotification (cfg : Config) (s : State) : State × List Out :=
  let s := { s with handoff := { s.handoff with transportNotificationSeen := true } }
  match sendAccessoryWifiConfig cfg s with
  | some (s, sent) =>
      let (s, outs) := maybeStartHandoffWatchdog
        { s with handoff := { s.handoff with wifiConfigSentPostTransport := true } }
      (s, sent ++ outs)
  | none => (s, [])

/-! ## Messages -/

/-- `(params[i]<<8)|params[i+1]`. -/
def paramU16 (params : Nat → UInt8) (i : Nat) : Nat := (params i).toNat * 256 + (params (i + 1)).toNat

/-- A parameter of the message: where it begins, and its length field and id. -/
structure Param where
  off : Nat
  pl : Nat
  pid : Nat

/-- The parameters the loops over a message come to. -/
def paramsFrom (params : Nat → UInt8) (plen : Int) (off : Nat) : List Param :=
  if (off : Int) + 4 ≤ plen then
    let pl := paramU16 params off
    ⟨off, pl, paramU16 params (off + 2)⟩ :: paramsFrom params plen (off + if 0 < pl then pl else 4)
  else []
termination_by (plen - off).toNat
decreasing_by split <;> omega

/-- A parameter of `0x4E0D` says that wireless CarPlay is connecting. -/
def connectingIn (params : Nat → UInt8) (plen : Int) : Bool :=
  (paramsFrom params plen 0).any fun p => p.pid = 0x0000 ∧ 5 ≤ p.pl ∧ params (p.off + 4) = 1

/-- `0x4E0D`. -/
def wirelessCarPlayUpdate (s : State) (params : Nat → UInt8) (plen : Int) : State × List Out :=
  maybeStartHandoffWatchdog { s with handoff := { s.handoff with
    wirelessCarplayConnectingSeen := s.handoff.wirelessCarplayConnectingSeen || connectingIn params plen } }

/-- `ea_session_id` of `0xEA00`: the last one in the message. -/
def eaSessionId (params : Nat → UInt8) (plen : Int) : Nat :=
  (paramsFrom params plen 0).foldl
    (fun id p => if p.pid = 0x0001 ∧ 6 ≤ p.pl then paramU16 params (p.off + 4) else id) 0

/-- `0xEA00`: the answer is `0xEA03`. -/
def startExternalAccessoryProtocolSession (s : State) (params : Nat → UInt8) (plen : Int) : State × List Out :=
  sendControl s 0xEA03 (pbU16 0x0000 (eaSessionId params plen) ++ pbU8 0x0001 0)

/-- `0xAA05`. -/
def authenticationSucceeded (s : State) : State × List Out :=
  maybeStartHandoffWatchdog { s with handoff := { s.handoff with mfiAuthSucceeded := true } }

/-- The challenge of `0xAA02`, which is as long as its own length field says. -/
def authChallenge (params : Nat → UInt8) (plen : Int) : Option Bytes :=
  let dlen : Int := (paramU16 params 0 : Int) - 4
  if 4 ≤ plen ∧ 0 < dlen ∧ dlen ≤ 1024 then some ((List.range dlen.toNat).map fun i => params (4 + i)) else none

/-- `0xAA02`. -/
def requestAuthChallenge (s : State) (sign : Bytes → Option Bytes) (params : Nat → UInt8) (plen : Int) :
    State × List Out :=
  match authChallenge params plen with
  | some chal => sendAuthResponse s (sign chal)
  | none => (s, [])

/-- `handle_ctrl_msg`. What it does with the other messages is to print them. -/
def handleCtrlMsg (cfg : Config) (sign : Bytes → Option Bytes) (s : State) (msgId : Nat) (params : Nat → UInt8)
    (plen : Int) : State × List Out :=
  if msgId = 0xAA00 then sendAuthCert cfg s
  else if msgId = 0xAA02 then requestAuthChallenge s sign params plen
  else if msgId = 0xAA05 then authenticationSucceeded s
  else if msgId = 0x1D00 then sendIdentificationInfo cfg s
  else if msgId = 0x1D02 then sendBtComponentInfo s
  else if msgId = 0x5702 then requestAccessoryWiFiConfigInfo cfg s
  else if msgId = 0x4E0D then wirelessCarPlayUpdate s params plen
  else if msgId = 0x4E0E then deviceTransportIdentifierNotification cfg s
  else if msgId = 0xEA00 then startExternalAccessoryProtocolSession s params plen
  else (s, [])

/-! ## What a message does to the globals

`handleCtrlMsg` is split into its branches in `handleCtrlMsg_cases` only. A branch is made of three things, to answer
nothing, to send one message and to look at the watchdog, and `Answers` has a lemma for each of them. -/

/-- What the link layer sees of the output. -/
def Out.toLink : Out → Option LinkOut
  | .rfcomm _ p => some (.send p)
  | .control _ _ _ p => some (.send p)
  | .dispatch m => some (.dispatch m)
  | _ => none

/-- The call sends control messages one after the other and schedules the watchdog; of the globals it writes the
    hand-off and the next sequence number. -/
structure Answers (s : State) (r : State × List Out) : Prop where
  rest : r.1 = { s with link := { s.link with myNextPsn := r.1.link.myNextPsn }, handoff := r.1.handoff }
  replies : ∃ replies, sendReplies s.link replies = (r.1.link, r.2.filterMap Out.toLink)
  outs : ∀ o ∈ r.2,
    (∃ msgId params p, o = .control s.activeCid msgId params p) ∨ ∃ generation, o = .watchdog generation

theorem answers_nothing (s : State) (g : Handoff) : Answers s ({ s with handoff := g }, []) :=
  ⟨rfl, ⟨[], rfl⟩, fun _ ho => absurd ho List.not_mem_nil⟩

theorem answers_sendControl (s : State) (msgId : UInt16) (params : Bytes) :
    Answers s (sendControl s msgId params) where
  rest := rfl
  replies := ⟨[(msgId, params)], rfl⟩
  outs _ ho := .inl ⟨_, _, _, List.mem_singleton.mp ho⟩

/-- The watchdog is a matter of the hand-off only. -/
theorem watchdog_spec (s : State) :
    (maybeStartHandoffWatchdog s).1 = { s with handoff := (maybeStartHandoffWatchdog s).1.handoff } ∧
      ∀ o ∈ (maybeStartHandoffWatchdog s).2, o = .watchdog s.handoff.handoffGeneration := by
  unfold maybeStartHandoffWatchdog
  split
  · exact ⟨rfl, fun _ ho => absurd ho List.not_mem_nil⟩
  split
  · exact ⟨rfl, fun _ ho => List.mem_singleton.mp ho⟩
  · exact ⟨rfl, fun _ ho => absurd ho List.not_mem_nil⟩

/-- A look at the watchdog behind what has been done. -/
theorem Answers.watchdog {s : State} {r : State × List Out} (h : Answers s r) (g : Handoff) :
    Answers s ((maybeStartHandoffWatchdog { r.1 with handoff := g }).1,
      r.2 ++ (maybeStartHandoffWatchdog { r.1 with handoff := g }).2) := by
  obtain ⟨hstate, houts⟩ := watchdog_spec { r.1 with handoff := g }
  have hlink : (maybeStartHandoffWatchdog { r.1 with handoff := g }).1.link = r.1.link := by rw [hstate]
  have hsilent : (maybeStartHandoffWatchdog { r.1 with handoff := g }).2.filterMap Out.toLink = [] := by
    apply List.filterMap_eq_nil_iff.mpr
    intro o ho
    rw [houts o ho]
    rfl
  constructor
  · dsimp only
    rw [hstate, h.rest]
  · obtain ⟨replies, hreplies⟩ := h.replies
    refine ⟨replies, ?_⟩
    rw [hreplies, List.filterMap_append, hsilent, List.append_nil, hlink]
  · intro o ho
    rcases List.mem_append.mp ho with ho | ho
    · exact h.outs o ho
    · exact .inr ⟨_, houts o ho⟩

theorem sendAccessoryWifiConfig_answers {cfg : Config} {s s' : State} {outs : List Out} {g : Handoff}
    (h : sendAccessoryWifiConfig cfg { s with handoff := g } = some (s', outs)) (g' : Handoff) :
    Answers s ({ s' with handoff := g' }, outs) := by
  unfold sendAccessoryWifiConfig at h
  split at h
  · cases h
  · obtain ⟨rfl, rfl⟩ := Prod.mk.inj (Option.some.inj h)
    have hsend := answers_sendControl s 0x5703 (wifiConfig cfg)
    exact ⟨rfl, hsend.replies, hsend.outs⟩

/-- A property of every message, one case for each branch of the switch. -/
theorem handleCtrlMsg_cases {motive : State × List Out → Prop} (cfg : Config) (sign : Bytes → Option Bytes)
    (s : State) (msgId : Nat) (params : Nat → UInt8) (plen : Int)
    (authCert : motive (sendAuthCert cfg s))
    (authChallenge : motive (requestAuthChallenge s sign params plen))
    (authSucceeded : motive (authenticationSucceeded s))
    (identification : motive (sendIdentificationInfo cfg s))
    (btComponent : motive (sendBtComponentInfo s))
    (wifiConfig : motive (requestAccessoryWiFiConfigInfo cfg s))
    (wirelessUpdate : motive (wirelessCarPlayUpdate s params plen))
    (transport : motive (deviceTransportIdentifierNotification cfg s))
    (external : motive (startExternalAccessoryProtocolSession s params plen))
    (other : motive (s, [])) : motive (handleCtrlMsg cfg sign s msgId params plen) := by
  unfold handleCtrlMsg
  apply iteInduction (fun _ => authCert)
  intro _
  apply iteInduction (fun _ => authChallenge)
  intro _
  apply iteInduction (fun _ => authSucceeded)
  intro _
  apply iteInduction (fun _ => identification)
  intro _
  apply iteInduction (fun _ => btComponent)
  intro _
  apply iteInduction (fun _ => wifiConfig)
  intro _
  apply iteInduction (fun _ => wirelessUpdate)
  intro _
  apply iteInduction (fun _ => transport)
  intro _
  exact iteInduction (fun _ => external) fun _ => other

/-- **Every message.** -/
theorem handleCtrlMsg_answers (cfg : Config) (sign : Bytes → Option Bytes) (s : State) (msgId : Nat)
    (params : Nat → UInt8) (plen : Int) : Answers s (handleCtrlMsg cfg sign s msgId params plen) := by
  apply handleCtrlMsg_cases
  case authCert =>
    unfold sendAuthCert
    split
    · exact answers_sendControl s _ _
    · exact answers_nothing s _
  case authChallenge =>
    unfold requestAuthChallenge
    split
    · unfold sendAuthResponse
      split
      · exact answers_sendControl s _ _
      · exact answers_nothing s _
    · exact answers_nothing s _
  case authSucceeded => exact (answers_nothing s s.handoff).watchdog _
  case identification => exact answers_sendControl s _ _
  case btComponent => exact answers_sendControl s _ _
  case wifiConfig =>
    unfold requestAccessoryWiFiConfigInfo
    dsimp only
    split
    · split
      next s' sent hsend => exact (sendAccessoryWifiConfig_answers hsend s'.handoff).watchdog _
      next => exact answers_nothing s _
    · split
      next s' sent hsend => exact sendAccessoryWifiConfig_answers hsend _
      next => exact answers_nothing s _
  case wirelessUpdate => exact (answers_nothing s s.handoff).watchdog _
  case transport =>
    unfold deviceTransportIdentifierNotification
    dsimp only
    split
    next s' sent hsend => exact (sendAccessoryWifiConfig_answers hsend s'.handoff).watchdog _
    next => exact answers_nothing s _
  case external => exact answers_sendControl s _ _
  case other => exact answers_nothing s _

end Showcase.Bt
