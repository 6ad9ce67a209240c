import Showcase.Lib.Text
import Showcase.Bt.Handler

/-!
# `Bt.Stdout` — what the handler prints

The calls of `printf` in `carplay_bt.m` below `handler` and `alarm_handler`, with every literal and every argument.
`Bt.Control` and `Bt.Handler` model what these functions do; here are, under the same names, the texts they write to
standard output on the way.

The password is in one place only: `send_accessory_wifi_config` builds a message out of it, and what is printed of
that message is how long it is.

## Contents
- `Stdout.handleCtrlMsg`, `Stdout.handler`, `Stdout.alarmHandler` — the texts.
- `step_withPassword` — another password leaves the globals as they are,
- `Stdout.handler_withPassword` — and one of the same length the text.
-/

namespace Showcase.Bt

open Lib

namespace Stdout

/-! ## Bytes -/

/-- `%02X` of each byte, with `front` in front of it. -/
def hexEach (front : String) (bs : List UInt8) : String :=
  String.join (bs.map fun b => front ++ hex 2 b.toNat)

/-- The bytes of a loop `for (i = start; i < n && i < cap; i++)`. -/
def loopBytes (byte : Nat → UInt8) (start : Nat) (n : Int) (cap : Nat) : List UInt8 :=
  (List.range' start (min n.toNat cap - start)).map byte

/-- Six bytes as an address. -/
def macAddr (bs : List UInt8) : String := String.intercalate ":" (bs.map fun b => hex 2 b.toNat)

/-- `print_hci_addr`; the address is at `raw`. -/
def printHciAddr (front : String) (byte : Nat → UInt8) (raw : Nat) : Bytes :=
  utf8 (front ++ macAddr ((List.range 6).map fun i => byte (raw + (5 - i))))

/-! ## Messages that are sent -/

/-- `send_syn`. -/
def sendSyn (link : LinkState) : Bytes := utf8 s!"[SYN] psn=0x{hexLower 2 link.myInitialPsn.toNat}\n"

/-- `send_control_msg` of that many bytes of parameters. -/
def sendControlMsg (s : State) (msgId paramsLen : Nat) : Bytes :=
  let total := 9 + (6 + paramsLen) + 1
  let seq := hex 2 s.link.myNextPsn.toNat
  let ack := hex 2 s.link.peerPsn.toNat
  utf8 s!"[TX] msg=0x{hex 4 msgId} len={total} seq=0x{seq} ack=0x{ack} sess=1\n"

/-- `send_auth_cert`. -/
def sendAuthCert (cfg : Config) (s : State) : Bytes :=
  if cfg.baaReady then
    sendControlMsg s 0xAA01 (pbBlob 0x0000 cfg.baaLeafDer ++ pbU8 0x0001 1 ++ pbBlob 0x0002 cfg.baaInterDer).length
  else []

/-- `send_auth_response`. A failing signature is reported on standard error. -/
def sendAuthResponse (s : State) (sig : Option Bytes) : Bytes :=
  match sig with
  | some sig => utf8 s!"[AA03] Sig: {sig.length} bytes\n" ++ sendControlMsg s 0xAA03 (pbBlob 0x0000 sig).length
  | none => []

/-- `send_identification_info`. -/
def sendIdentificationInfo (cfg : Config) (s : State) : Bytes :=
  let len := (identificationInfo cfg s.localBdAddr).length
  utf8 "[ID] Building IdentificationInformation (v40 — unchanged)...\n" ++
    utf8 "[ID] Added ExternalAccessoryProtocol (id=1, com.apple.carplay)\n" ++
    (match s.localBdAddr with
      | some a => utf8 s!"[ID] BT MAC: {macAddr a.val}\n"
      | none => []) ++
    utf8 "[ID] Added WirelessCarPlayTransportComponent (id=1, iap2+carplay)\n" ++
    utf8 s!"[ID] Sending 0x1D01 ({len} bytes)\n" ++ sendControlMsg s 0x1D01 len

/-- `send_bt_component_info`. -/
def sendBtComponentInfo (s : State) : Bytes :=
  utf8 "[BT] Sending BluetoothComponentInformation (0x4E01)...\n" ++
    sendControlMsg s 0x4E01 (pbU16 0x0000 0).length

/-- `send_carplay_start_session` of the default build. -/
def sendCarplayStartSession (reason : String) : Bytes :=
  utf8 s!"[SS] 0x4301 suppressed ({reason}) — using standard WiFi/Bonjour handoff\n"

/-! ## Wi-Fi hand-off -/

/-- `send_accessory_wifi_config`. The message holds the SSID and the password; its length is printed, and of its
    contents the SSID. -/
def sendAccessoryWifiConfig (cfg : Config) (s : State) (phase : String) : Bytes :=
  let g := s.handoff
  if wifiConfigMaxSends ≤ g.wifiConfigSendCount then
    utf8 s!"[WIFI] 0x5702 retry ignored: max Wi-Fi config sends reached count={g.wifiConfigSendCount}\n"
  else
    let off := (wifiConfig cfg).length
    utf8 s!"[WIFI] Sending {phase} 0x5703\n" ++
      utf8 "[WIFI] 0x5703 fields: SSID=\"" ++ cfg.kWifiSSID ++
      utf8 s!"\" PASS=****** SEC={kWifiSecurityType.toNat} CH=omitted BSSID=omitted\n" ++
      utf8 s!"[WIFI] state before 0x5703: requested={g.wifiConfigRequested.toNat} " ++
      utf8 s!"transport_seen={g.transportNotificationSeen.toNat} pre_sent={g.wifiConfigSentPreTransport.toNat} " ++
      utf8 s!"post_sent={g.wifiConfigSentPostTransport.toNat} send_count={g.wifiConfigSendCount} " ++
      utf8 s!"retry_count={g.wifiConfigRetryCount}\n" ++
      utf8 s!"[WIFI] Payload redacted ({off} bytes, contains hotspot credentials)\n" ++
      sendControlMsg s 0x5703 off

/-- `maybe_start_handoff_watchdog`. -/
def maybeStartHandoffWatchdog (s : State) : Bytes :=
  let g := s.handoff
  if g.handoffWatchdogArmed then []
  else if g.Stuckable then
    utf8 "[HANDOFF] WATCHDOG armed after post-transport 0x5703 " ++
      utf8 s!"auth={g.mfiAuthSucceeded.toNat} connecting={g.wirelessCarplayConnectingSeen.toNat} " ++
      utf8 s!"transport_seen={g.transportNotificationSeen.toNat} sends={g.wifiConfigSendCount} " ++
      utf8 s!"retries={g.wifiConfigRetryCount}\n"
  else []

/-- The block of the watchdog, when it finds its generation and a channel. -/
def watchdogBlock : Bytes :=
  utf8 "[HANDOFF] WATCHDOG: 15s after POST-TRANSPORT 0x5703\n" ++
    utf8 "[HANDOFF] STUCK: iAP2 auth succeeded and Wi-Fi config was sent, " ++
    utf8 "but sender has not entered CarPlay network mode.\n" ++
    utf8 "[HANDOFF] Expected next: sender publishes _carplay-ctrl._tcp, " ++
    utf8 "receiver connects /ctrl-int/1/connect, sender opens TCP 7000.\n" ++
    utf8 "[HANDOFF] Possible causes: stale/pre-associated Wi-Fi state, SSID/password mismatch, " ++
    utf8 "sender policy/profile issue, or rejected Wi-Fi config.\n"

/-- `0x5702`. -/
def requestAccessoryWiFiConfigInfo (cfg : Config) (s : State) : Bytes :=
  let s := { s with handoff := { s.handoff with
    wifiConfigRequestCount := s.handoff.wifiConfigRequestCount + 1, wifiConfigRequested := true } }
  let g := s.handoff
  utf8 s!"[CP] *** RequestAccessoryWiFiConfigInfo #{g.wifiConfigRequestCount} ***\n" ++
    utf8 s!"[CP]     state before 0x5702 handling: requested={g.wifiConfigRequested.toNat} " ++
    utf8 s!"transport_seen={g.transportNotificationSeen.toNat} pre_sent={g.wifiConfigSentPreTransport.toNat} " ++
    utf8 s!"post_sent={g.wifiConfigSentPostTransport.toNat} " ++
    utf8 s!"wcp_connecting_seen={g.wirelessCarplayConnectingSeen.toNat} " ++
    utf8 s!"start_session_sent={g.startSessionSent.toNat}\n" ++
    if g.transportNotificationSeen then
      let retry := g.wifiConfigRetryCount + 1
      utf8 s!"[WIFI] 0x5702 after 0x4E0E: sending POST-TRANSPORT retry minimal 0x5703 retry={retry}\n" ++
        sendAccessoryWifiConfig cfg s "POST-TRANSPORT retry minimal" ++
        match Bt.sendAccessoryWifiConfig cfg s with
        | some (s, _) => maybeStartHandoffWatchdog { s with handoff := { s.handoff with
            wifiConfigSentPostTransport := true, wifiConfigRetryCount := s.handoff.wifiConfigRetryCount + 1 } }
        | none => []
    else
      utf8 "[WIFI] 0x5702 before 0x4E0E: sending PRE-TRANSPORT minimal 0x5703\n" ++
        sendAccessoryWifiConfig cfg s "PRE-TRANSPORT minimal"

/-! ## Messages that are received -/

/-- The line of all bytes of a message, up to `cap` of them. -/
def rawData (title : String) (params : Nat → UInt8) (plen : Int) (cap : Nat) : Bytes :=
  utf8 (title ++ hexEach " " (loopBytes params 0 plen cap) ++ "\n")

/-- The bytes of a parameter, up to sixteen of them. -/
def paramBytes (front : String) (params : Nat → UInt8) (p : Param) : String :=
  hexEach front (loopBytes (fun i => params (p.off + i)) 4 p.pl 20)

/-- `names`. -/
def paramNames : List String :=
  ["Name", "ModelIdentifier", "Manufacturer", "SerialNumber", "FirmwareVersion", "HardwareVersion",
    "MessagesSentByAccessory", "MessagesReceivedFromDevice", "PowerProvidingCapability",
    "MaximumCurrentDrawnFromDevice", "SupportedExternalAccessoryProtocol", "AppMatchTeamID", "CurrentLanguage",
    "SupportedLanguage", "UARTTransportComponent", "USBDeviceTransportComponent", "USBHostTransportComponent",
    "BluetoothTransportComponent", "iAP2HIDComponent", "?(19)", "VehicleInformationComponent",
    "VehicleStatusComponent", "LocationInformationComponent", "USBHostHIDComponent",
    "WirelessCarPlayTransportComponent"]

/-- `0x1D03`. -/
def identificationRejected (params : Nat → UInt8) (plen : Int) : Bytes :=
  utf8 "[CP] *** IdentificationRejected! ***\n" ++
    (paramsFrom params plen 0).flatMap fun p =>
      let name := paramNames.getD p.pid "?"
      utf8 s!"[REJECT] Param 0x{hex 4 p.pid} ({name})\n" ++
        if 4 < p.pl then utf8 ("  data:" ++ paramBytes " " params p ++ "\n") else []

/-- `0x4300`. -/
def carPlayAvailability (params : Nat → UInt8) (plen : Int) : Bytes :=
  utf8 "[CP] *** CarPlayAvailability (0x4300) ***\n" ++ rawData s!"[CP] Raw data ({plen} bytes):" params plen 128 ++
    (if 5 ≤ plen then
      (paramsFrom params plen 0).flatMap fun p =>
        let status := (params (p.off + 4)).toNat
        if p.pid = 0x0000 ∧ 5 ≤ p.pl then utf8 s!"[CP] CarPlay availability status = {status}\n" else []
    else []) ++
    sendCarplayStartSession "CarPlayAvailability"

/-- The bracket behind a parameter. -/
def paramTail (params : Nat → UInt8) (p : Param) : Bytes :=
  (if 4 < p.pl then utf8 (" [" ++ paramBytes "" params p ++ "]") else []) ++ utf8 "\n"

/-- What stands in front of it. -/
def paramHead (p : Param) : Bytes :=
  let len : Int := p.pl - 4
  utf8 s!"[CP]   param 0x{hex 4 p.pid} len={len}"

/-- `status_names`. -/
def statusNames : List String := ["Idle/NotReady", "Connecting", "Connected", "Error", "Disconnecting", "Disconnected"]

/-- `0x4E0D`. -/
def wirelessCarPlayUpdate (s : State) (params : Nat → UInt8) (plen : Int) : Bytes :=
  let s := { s with handoff := { s.handoff with
    wirelessCarplayConnectingSeen := s.handoff.wirelessCarplayConnectingSeen || connectingIn params plen } }
  let g := s.handoff
  utf8 "[CP] *** WirelessCarPlayUpdate ***\n" ++ rawData s!"[CP] Raw data ({plen} bytes):" params plen 128 ++
    ((paramsFrom params plen 0).flatMap fun p =>
      paramHead p ++
        (if p.pid = 0x0000 ∧ 5 ≤ p.pl then
          let st := (params (p.off + 4)).toNat
          let sn := statusNames.getD st "Unknown"
          utf8 s!" → WirelessCarPlay status = {st} ({sn})"
        else if p.pid = 0x0001 ∧ 6 ≤ p.pl then
          utf8 s!" → TransportComponentID = {paramU16 params (p.off + 4)}"
        else []) ++ paramTail params p) ++
    utf8 s!"[CP] 0x4E0D summary: wireless_carplay_connecting_seen={g.wirelessCarplayConnectingSeen.toNat} " ++
    utf8 s!"requested={g.wifiConfigRequested.toNat} transport_seen={g.transportNotificationSeen.toNat} " ++
    utf8 s!"pre_sent={g.wifiConfigSentPreTransport.toNat} post_sent={g.wifiConfigSentPostTransport.toNat}\n" ++
    utf8 "[CP] -> NETWORK PHASE - iPhone should be switching to WiFi via iAP2 handoff\n" ++
    utf8 "[CP] -> 0x5703 production fields omit channel/BSSID unless debug flags provide real values\n" ++
    utf8 "[CP] -> Waiting for iPhone to auto-join AP and discover _airplay._tcp\n" ++
    maybeStartHandoffWatchdog s

/-- `0x4E0E`. -/
def deviceTransportIdentifierNotification (cfg : Config) (s : State) (params : Nat → UInt8) (plen : Int) : Bytes :=
  let s := { s with handoff := { s.handoff with transportNotificationSeen := true } }
  let g := s.handoff
  utf8 "[CP] *** DeviceTransportIdentifierNotification ***\n" ++
    rawData s!"[CP] Raw data ({plen} bytes):" params plen 128 ++
    ((paramsFrom params plen 0).flatMap fun p =>
      paramHead p ++
        (if p.pid = 0x0000 ∧ 6 ≤ p.pl then
          utf8 s!" → TransportComponentID = {paramU16 params (p.off + 4)}"
        else []) ++
        -- all bytes of this one are printed
        (if p.pid = 0x0001 ∧ 10 ≤ p.pl then
          utf8 " → DeviceTransportID = " ++
            utf8 (macAddr ((List.range' 4 (p.pl - 4)).map fun i => params (p.off + i)))
        else []) ++ paramTail params p) ++
    utf8 "[CP] → iPhone told us its WiFi transport identifier\n" ++
    utf8 s!"[CP] 0x4E0E summary: requested={g.wifiConfigRequested.toNat} " ++
    utf8 s!"transport_seen={g.transportNotificationSeen.toNat} pre_sent={g.wifiConfigSentPreTransport.toNat} " ++
    utf8 s!"post_sent={g.wifiConfigSentPostTransport.toNat}\n" ++
    utf8 "[WIFI] 0x4E0E received: sending POST-TRANSPORT from 0x4E0E minimal 0x5703\n" ++
    sendAccessoryWifiConfig cfg s "POST-TRANSPORT from 0x4E0E minimal" ++
    (match Bt.sendAccessoryWifiConfig cfg s with
      | some (s, _) => maybeStartHandoffWatchdog
          { s with handoff := { s.handoff with wifiConfigSentPostTransport := true } }
      | none => []) ++
    sendCarplayStartSession "post-0x4E0E"

/-- `0xEA00`. -/
def startExternalAccessoryProtocolSession (s : State) (params : Nat → UInt8) (plen : Int) : Bytes :=
  let session := eaSessionId params plen
  utf8 "[EA] *** StartExternalAccessoryProtocolSession ***\n" ++
    (if 0 < plen then rawData "[EA] Data:" params plen 64 else []) ++
    ((paramsFrom params plen 0).flatMap fun p =>
      let protocol := (params (p.off + 4)).toNat
      if p.pid = 0x0000 ∧ 5 ≤ p.pl then utf8 s!"[EA] protocol_id = {protocol}\n"
      else if p.pid = 0x0001 ∧ 6 ≤ p.pl then utf8 s!"[EA] session_id = {paramU16 params (p.off + 4)}\n"
      else []) ++
    utf8 s!"[EA] Sending 0xEA03 StatusEAP (session={session}, status=OK)\n" ++
    sendControlMsg s 0xEA03 (pbU16 0x0000 session ++ pbU8 0x0001 0).length ++
    sendCarplayStartSession "EAP-session-started"

/-- `0xAA02`. -/
def requestAuthChallenge (s : State) (sign : Bytes → Option Bytes) (params : Nat → UInt8) (plen : Int) : Bytes :=
  utf8 "[CP] *** RequestAuthChallenge ***\n" ++
    match authChallenge params plen with
    | some chal => sendAuthResponse s (sign chal)
    | none => []

/-- `0xAA05`. -/
def authenticationSucceeded (s : State) : Bytes :=
  utf8 "[CP] *** AUTH SUCCEEDED! ***\n" ++
    maybeStartHandoffWatchdog { s with handoff := { s.handoff with mfiAuthSucceeded := true } }

/-- `handle_ctrl_msg`. -/
def handleCtrlMsg (cfg : Config) (sign : Bytes → Option Bytes) (s : State) (msgId : Nat) (params : Nat → UInt8)
    (plen : Int) : Bytes :=
  utf8 s!"[CTRL] msg=0x{hex 4 msgId} ({plen} bytes)\n" ++
    if msgId = 0xAA00 then utf8 "[CP] *** RequestAuthCert ***\n" ++ sendAuthCert cfg s
    else if msgId = 0xAA02 then requestAuthChallenge s sign params plen
    else if msgId = 0xAA04 then utf8 "[CP] *** AUTH FAILED ***\n"
    else if msgId = 0xAA05 then authenticationSucceeded s
    else if msgId = 0x1D00 then utf8 "[CP] *** StartIdentification ***\n" ++ sendIdentificationInfo cfg s
    else if msgId = 0x1D02 then
      utf8 "[CP] *** IdentificationAccepted! ***\n" ++ sendBtComponentInfo s ++
        utf8 "[CP] Waiting for auth / WiFi request...\n"
    else if msgId = 0x1D03 then identificationRejected params plen
    else if msgId = 0x5702 then requestAccessoryWiFiConfigInfo cfg s
    else if msgId = 0x4300 then carPlayAvailability params plen
    else if msgId = 0x4E0B then utf8 "[CP] DeviceTimeUpdate\n"
    else if msgId = 0x4E0D then wirelessCarPlayUpdate s params plen
    else if msgId = 0x4E0E then deviceTransportIdentifierNotification cfg s params plen
    else if msgId = 0x4E0F then
      utf8 "[CP] *** WirelessCarPlayTransportUpdate (0x4E0F) ***\n" ++
        rawData s!"[CP] Data ({plen} bytes):" params plen 128
    else if msgId = 0x4E0C then
      utf8 "[CP] *** Msg 0x4E0C ***\n" ++ rawData s!"[CP] Data ({plen} bytes):" params plen 128
    else if msgId = 0xEA00 then startExternalAccessoryProtocolSession s params plen
    else if msgId = 0xEA01 then utf8 "[EA] *** StopExternalAccessoryProtocolSession ***\n"
    else if msgId = 0xA100 then
      utf8 "[VS] *** StartVehicleStatusUpdates ***\n" ++
        if 0 < plen then rawData "[VS] Data:" params plen 64 else []
    else if msgId = 0xA102 then utf8 "[VS] *** StopVehicleStatusUpdates ***\n"
    else
      utf8 s!"[CTRL] Unhandled 0x{hex 4 msgId} ({plen} bytes)\n" ++
        if 0 < plen then
          utf8 ("  " ++ String.join ((loopBytes params 0 plen 128).map fun b => hex 2 b.toNat ++ " ") ++ "\n")
        else []

/-! ## The detect sequence -/

/-- `send_detect`. -/
def sendDetect (s : State) : Bytes :=
  let count := s.detectCount + 1
  if s.activeCid = 0 ∨ s.link.iap2Detected then [] else utf8 s!"[DET] #{count}\n"

/-- `alarm_handler`. -/
def alarmHandler (s : State) : Bytes :=
  if s.activeCid ≠ 0 ∧ s.link.iap2Detected = false ∧ s.detectCount < 10 then sendDetect s else []

/-! ## RFCOMM data -/

/-- A SYN-ACK. -/
def synAck (s : State) (byte : Nat → UInt8) (sz : Nat) : Bytes :=
  let len := sz - 9
  utf8 s!"[SYN-ACK] seq=0x{hex 2 (byte 5).toNat} ack=0x{hex 2 (byte 6).toNat}\n" ++
    (if 9 < sz then rawData s!"[SYN-ACK] payload({len}):" (fun i => byte (9 + i)) len 31 else []) ++
    if byte 6 = s.link.myInitialPsn then utf8 "[CP] *** LINK UP ***\n" else []

/-- `handler` with `type == 7`. -/
def handleData (cfg : Config) (s : State) (pkt : Bytes) (e : Env) : Bytes :=
  let byte := memByte pkt e.behind
  let sz := pkt.length
  if isDetectEcho pkt ∧ s.link.iap2Detected = false then
    utf8 "[CP] *** DETECT ECHO ***\n" ++ sendSyn (newPsn { s.link with iap2Detected := true } e.rand)
  else if isLinkPacket byte sz then
    if byte 4 = 0x10 then utf8 "[CP] RST\n" ++ sendSyn (newPsn { s.link with linkEstablished := false } e.rand)
    else if byte 4 &&& 0xC0 = 0xC0 ∧ s.link.linkEstablished = false then synAck s byte sz
    else if isData byte sz ∧ isControl byte sz then
      let m := ctrlMsgAt byte
      handleCtrlMsg cfg e.sign { s with link := { s.link with peerPsn := byte 5 } } m.msgId (fun i => byte (15 + i))
        m.plen
    else []
  else []

/-! ## Events -/

/-- How the sentinel was written: `none`, or `errno` and its text. -/
abbrev Sentinel := Option (Int × Bytes)

/-- `perform_bt_setup`. -/
def performBtSetup (s : State) (ready : Sentinel) : Bytes :=
  if s.setupDone then []
  else
    utf8 s!"[DID] SDP record: {buildDidSdp.length} bytes (DID 1.3, Version=1.0.0)\n" ++
      utf8 "[CP] READY — identity: RoadLink / RL-100 / RoadLink Labs\n" ++
      match ready with
      | none => utf8 "[BT] ready sentinel written path=/tmp/showcase_bt_ready\n"
      | some (errno, text) =>
          utf8 s!"[BT] WARN: ready sentinel write failed path=/tmp/showcase_bt_ready errno={errno} (" ++ text ++
            utf8 ")\n"

/-- The local address, from the answer to Read BD_ADDR. -/
def captureAddr (s : State) (byte : Nat → UInt8) (sz : Nat) : Bytes :=
  if byte 0 = 0x0E ∧ 12 ≤ sz ∧ s.localBdAddr = none ∧ r16 byte 3 = 0x1009 ∧ byte 5 = 0 then
    utf8 ("[BT] Local BD_ADDR: " ++ macAddr ((List.range 6).map fun i => byte (11 - i)) ++ "\n")
  else []

/-- The setup when the scan mode has been written. -/
def setupFallback (s : State) (byte : Nat → UInt8) (sz : Nat) (ready : Sentinel) : Bytes :=
  if byte 0 = 0x0E ∧ 6 ≤ sz ∧ s.setupDone = false ∧ r16 byte 3 = 0x0C1A ∧ byte 5 = 0 then
    utf8 "[BT] setup fallback after HCI scan init complete\n" ++ performBtSetup s ready
  else []

/-- A byte and a handle that may be missing. -/
def statusByte (byte : Nat → UInt8) (sz i : Nat) : Nat := if i < sz then (byte i).toNat else 0xff

def handleAt (byte : Nat → UInt8) (sz : Nat) : Nat := if 4 < sz then (r16 byte 3).toNat else 0

/-- The switch at the end of `handler`. -/
def eventSwitch (cfg : Config) (s : State) (byte : Nat → UInt8) (sz : Nat) (ready : Sentinel) : Bytes :=
  let status := hex 2 (statusByte byte sz 2)
  let handle := hex 4 (handleAt byte sz)
  if byte 0 = 0x60 then if byte 2 = 2 then performBtSetup s ready else []
  else if byte 0 = 0x04 then
    if cfg.rootless then printHciAddr "[CP] CONN REQ from " byte 2 ++ utf8 " (daemon auto-accept)\n"
    else utf8 "[CP] CONN REQ\n"
  else if byte 0 = 0x03 then utf8 s!"[CP] Connected status=0x{status} handle=0x{handle}\n"
  else if byte 0 = 0x05 then
    utf8 s!"[CP] Disconnected handle=0x{handle} reason=0x{hex 2 (statusByte byte sz 5)}\n"
  else if byte 0 = 0x06 then utf8 s!"[CP] Auth complete status=0x{status} handle=0x{handle}\n"
  else if byte 0 = 0x08 then
    utf8 s!"[CP] Encrypted status=0x{status} handle=0x{handle} enabled={statusByte byte sz 5}\n"
  else if byte 0 = 0x17 then
    if 8 ≤ sz then printHciAddr "[CP] Link key request from " byte 2 ++ utf8 "\n" else []
  else if byte 0 = 0x18 then
    if 24 < sz then
      printHciAddr "[CP] Link key notification for " byte 2 ++ utf8 s!" type=0x{hex 2 (byte 24).toNat}\n"
    else []
  else if byte 0 = 0x31 then
    (if 8 ≤ sz then printHciAddr "[CP] IO capability request from " byte 2 ++ utf8 "\n" else []) ++
      if cfg.rootless then utf8 "[CP] IO capability reply left to BTdaemon\n" else []
  else if byte 0 = 0x32 then
    if 11 ≤ sz then
      printHciAddr "[CP] IO capability response from " byte 2 ++
        utf8 s!" io=0x{hex 2 (byte 8).toNat} oob=0x{hex 2 (byte 9).toNat} auth=0x{hex 2 (byte 10).toNat}\n"
    else []
  else if byte 0 = 0x33 then
    if cfg.rootless then
      let value := ofBE [byte 11, byte 10, byte 9, byte 8]
      (if 12 ≤ sz then printHciAddr "[CP] User confirmation request from " byte 2 ++ utf8 s!" value={value}\n"
        else []) ++ utf8 "[CP] User confirmation reply left to BTdaemon\n"
    else []
  else if byte 0 = 0x36 then
    if 9 ≤ sz then
      printHciAddr "[CP] Simple pairing complete for " byte 3 ++ utf8 s!" status=0x{hex 2 (byte 2).toNat}\n"
    else []
  else if byte 0 = 0x82 then utf8 "[CP] RFCOMM IN\n"
  else if byte 0 = 0x80 then
    if byte 2 = 0 then
      let cid := hexLower 4 (r16 byte 12).toNat
      let mtu := (r16 byte 14).toNat
      utf8 s!"[CP] RFCOMM OPEN cid=0x{cid} mtu={mtu}\n" ++
        sendDetect { s with activeCid := r16 byte 12, detectCount := 0, link := { s.link with iap2Detected := false } }
    else []
  else if byte 0 = 0x81 then utf8 "[CP] RFCOMM CLOSED\n"
  else []

/-- `handler` with `type == 4`. -/
def handleHci (cfg : Config) (s : State) (byte : Nat → UInt8) (sz : Nat) (ready : Sentinel) : Bytes :=
  captureAddr s byte sz ++ setupFallback (Bt.captureAddr s byte sz) byte sz ready ++
    if byte 0 ∈ ignoredEvents then []
    else eventSwitch cfg (Bt.setupFallback cfg (Bt.captureAddr s byte sz) byte sz).1 byte sz ready

/-- The line of the first packets. -/
def packetDebug (type : UInt8) (ch : UInt16) (pkt : Bytes) : Bytes :=
  utf8 s!"[BT] packet type={type.toNat} ch=0x{hexLower 4 ch.toNat} len={pkt.length}" ++
    utf8 (hexEach " " (pkt.take 12) ++ "\n")

/-- `handler`; `count` is `packet_debug_count`. -/
def handler (cfg : Config) (s : State) (count : Nat) (type : UInt8) (ch : UInt16) (pkt : Bytes) (e : Env)
    (ready : Sentinel) : Bytes :=
  let byte := memByte pkt e.behind
  (if count < 24 then packetDebug type ch pkt else []) ++
    if type = 4 ∧ 1 ≤ pkt.length ∧ byte 0 = 0x62 then utf8 "[BT] FATAL: BTSTACK_EVENT_POWERON_FAILED\n"
    else if type = 4 ∧ byte 0 = 0x6C then []
    else if type = 7 then handleData cfg s pkt e
    else if type ≠ 4 then []
    else handleHci cfg s byte pkt.length ready

end Stdout

/-! ## Another password of the same length

The two calls are compared, and not what they print: `remains` is what the rest of the program sees of a call, and it
is the same. Then the texts are compared function by function, from the one place that builds a message with the
password up. -/

/-- The options with another password. -/
def Config.withPassword (cfg : Config) (pw : Bytes) : Config := { cfg with kWifiPassword := pw }

/-- The watchdog that is scheduled. -/
def Out.generation : Out → Option UInt32
  | .watchdog generation => some generation
  | _ => none

/-- What is left of a call beside the bytes it sends: the globals, and the watchdogs. -/
def remains (r : State × List Out) : State × List UInt32 := (r.1, r.2.filterMap Out.generation)

section Password

variable (cfg : Config) (pw : Bytes)

/-- The message is as long as the password makes it. -/
theorem wifiConfig_length :
    (wifiConfig cfg).length = 4 + (cfg.kWifiSSID.length + 1) + (4 + (cfg.kWifiPassword.length + 1)) + 5 := by
  simp [wifiConfig, pbUtf8, pbU8, pbParam]
  omega

/-- Sending the configuration leaves the same globals, or is not done in both cases. -/
theorem sendAccessoryWifiConfig_withPassword (s : State) :
    (sendAccessoryWifiConfig cfg s = none ∧ sendAccessoryWifiConfig (cfg.withPassword pw) s = none) ∨
      ∃ s' sent sent', sendAccessoryWifiConfig cfg s = some (s', sent) ∧
        sendAccessoryWifiConfig (cfg.withPassword pw) s = some (s', sent') ∧
        sent.filterMap Out.generation = [] ∧ sent'.filterMap Out.generation = [] := by
  unfold sendAccessoryWifiConfig
  by_cases hcap : wifiConfigMaxSends ≤ s.handoff.wifiConfigSendCount
  · rw [if_pos hcap, if_pos hcap]
    exact .inl ⟨rfl, rfl⟩
  · rw [if_neg hcap, if_neg hcap]
    exact .inr ⟨_, _, _, rfl, rfl, rfl, rfl⟩

theorem requestAccessoryWiFiConfigInfo_withPassword (s : State) :
    remains (requestAccessoryWiFiConfigInfo (cfg.withPassword pw) s) =
      remains (requestAccessoryWiFiConfigInfo cfg s) := by
  simp only [requestAccessoryWiFiConfigInfo]
  rcases sendAccessoryWifiConfig_withPassword cfg pw _ with ⟨h, h'⟩ | ⟨s', sent, sent', h, h', hsent, hsent'⟩
  · rw [h, h']
  · rw [h, h']
    split
    · simp only [remains, List.filterMap_append, hsent, hsent']
    · simp only [remains, hsent, hsent']

theorem deviceTransportIdentifierNotification_withPassword (s : State) :
    remains (deviceTransportIdentifierNotification (cfg.withPassword pw) s) =
      remains (deviceTransportIdentifierNotification cfg s) := by
  simp only [deviceTransportIdentifierNotification]
  rcases sendAccessoryWifiConfig_withPassword cfg pw _ with ⟨h, h'⟩ | ⟨s', sent, sent', h, h', hsent, hsent'⟩
  · rw [h, h']
  · rw [h, h']
    simp only [remains, List.filterMap_append, hsent, hsent']

theorem handleCtrlMsg_withPassword (sign : Bytes → Option Bytes) (s : State) (msgId : Nat) (params : Nat → UInt8)
    (plen : Int) :
    remains (handleCtrlMsg (cfg.withPassword pw) sign s msgId params plen) =
      remains (handleCtrlMsg cfg sign s msgId params plen) := by
  unfold handleCtrlMsg
  by_cases hrequest : msgId = 0x5702
  · subst hrequest
    exact requestAccessoryWiFiConfigInfo_withPassword cfg pw s
  by_cases hnotified : msgId = 0x4E0E
  · subst hnotified
    exact deviceTransportIdentifierNotification_withPassword cfg pw s
  -- the other messages are answered without the password
  rw [if_neg hrequest, if_neg hnotified, if_neg hrequest, if_neg hnotified]
  rfl

/-- **One step**: another password changes only the bytes that are sent. -/
theorem step_withPassword (s : State) (ev : Event) :
    (step (cfg.withPassword pw) s ev).map remains = (step cfg s ev).map remains := by
  cases ev with
  | alarm => rfl
  | packet type ch pkt e =>
      simp only [step, handler]
      by_cases hdata : type = 7
      · subst hdata
        rw [if_neg (by simp), if_neg (by simp), if_pos rfl, if_neg (by simp), if_neg (by simp), if_pos rfl,
          Option.map_some, Option.map_some, handleData_kind, handleData_kind]
        dsimp only
        split
        · rfl
        · rfl
        · rfl
        · rfl
        · -- a control message
          have hmsg := handleCtrlMsg_withPassword cfg pw e.sign
            { s with link := { s.link with peerPsn := memByte pkt e.behind 5 } }
            (ctrlMsgAt (memByte pkt e.behind)).msgId (fun i => memByte pkt e.behind (15 + i))
            (ctrlMsgAt (memByte pkt e.behind)).plen
          obtain ⟨hstate, hwatchdogs⟩ := Prod.mk.inj hmsg
          simp only [remains, dispatchData, hstate, List.filterMap_cons, Out.generation, hwatchdogs]
        · rfl
        · rfl
        · rfl
      · rw [if_neg hdata, if_neg hdata]
        rfl

/-! ### The texts -/

variable {cfg pw} (hlen : pw.length = cfg.kWifiPassword.length)
include hlen

/-- What is printed of the configuration is its length. -/
theorem Stdout.sendAccessoryWifiConfig_withPassword (s : State) (phase : String) :
    Stdout.sendAccessoryWifiConfig (cfg.withPassword pw) s phase = Stdout.sendAccessoryWifiConfig cfg s phase := by
  have hwifi : (wifiConfig (cfg.withPassword pw)).length = (wifiConfig cfg).length := by
    rw [wifiConfig_length, wifiConfig_length, ← hlen]
    rfl
  simp only [Stdout.sendAccessoryWifiConfig, hwifi]
  rfl

theorem Stdout.requestAccessoryWiFiConfigInfo_withPassword (s : State) :
    Stdout.requestAccessoryWiFiConfigInfo (cfg.withPassword pw) s = Stdout.requestAccessoryWiFiConfigInfo cfg s := by
  simp only [Stdout.requestAccessoryWiFiConfigInfo, Stdout.sendAccessoryWifiConfig_withPassword hlen]
  rcases Bt.sendAccessoryWifiConfig_withPassword cfg pw _ with ⟨h, h'⟩ | ⟨s', sent, sent', h, h', -, -⟩
  · rw [h, h']
  · rw [h, h']

theorem Stdout.deviceTransportIdentifierNotification_withPassword (s : State) (params : Nat → UInt8) (plen : Int) :
    Stdout.deviceTransportIdentifierNotification (cfg.withPassword pw) s params plen =
      Stdout.deviceTransportIdentifierNotification cfg s params plen := by
  simp only [Stdout.deviceTransportIdentifierNotification, Stdout.sendAccessoryWifiConfig_withPassword hlen]
  rcases Bt.sendAccessoryWifiConfig_withPassword cfg pw _ with ⟨h, h'⟩ | ⟨s', sent, sent', h, h', -, -⟩
  · rw [h, h']
  · rw [h, h']

/-- **A control message** is answered with the same text. -/
theorem Stdout.handleCtrlMsg_withPassword (sign : Bytes → Option Bytes) (s : State) (msgId : Nat)
    (params : Nat → UInt8) (plen : Int) :
    Stdout.handleCtrlMsg (cfg.withPassword pw) sign s msgId params plen =
      Stdout.handleCtrlMsg cfg sign s msgId params plen := by
  simp only [Stdout.handleCtrlMsg, Stdout.requestAccessoryWiFiConfigInfo_withPassword hlen,
    Stdout.deviceTransportIdentifierNotification_withPassword hlen]
  rfl

theorem Stdout.handler_withPassword (s : State) (count : Nat) (type : UInt8) (ch : UInt16) (pkt : Bytes) (e : Env)
    (ready : Sentinel) :
    Stdout.handler (cfg.withPassword pw) s count type ch pkt e ready =
      Stdout.handler cfg s count type ch pkt e ready := by
  simp only [Stdout.handler, Stdout.handleData, Stdout.handleCtrlMsg_withPassword hlen]
  rfl

end Password

end Showcase.Bt
