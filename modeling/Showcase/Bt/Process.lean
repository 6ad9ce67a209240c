import Showcase.Bt.Stdout

/-!
# `Bt.Process` — `carplay_bt` from `main` to its end

The program takes the name of the car and the access point from its arguments (`parse_args`), gets a certificate,
opens BTstack and then runs the handler of `Bt.Handler`. On the way it prints; `Stdout` has the texts.

## Contents
- `parseArgs` — the options.
- `Process`, `Process.step`, `Process.stdout` — the program, what it does next, and what it prints on the way.
- `Process.step_withPassword`, `Process.stdout_withPassword` — a password of the same length is not to be seen.
- `Process.Alike` — two processes that differ in it.
-/

namespace Showcase.Bt

open Lib

/-! ## Arguments -/

/-- `kDeviceName`, `kWifiSSID` and `kWifiPassword`, arrays of 32, 64 and 64 bytes that end with a NUL. -/
structure Options where
  kDeviceName : Bytes
  kWifiSSID : Bytes
  kWifiPassword : Bytes
deriving DecidableEq

/-- The initial values. -/
def Options.initial : Options where
  kDeviceName := ascii "RoadLink"
  kWifiSSID := ascii "RoadLink-CarPlay"
  kWifiPassword := ascii "roadlink1234"

/-- One option of `parse_args`; `strncpy` cuts its value. -/
def Options.set (o : Options) (key value : Bytes) : Options :=
  if key = ascii "--name" ∨ key = ascii "-n" then { o with kDeviceName := value.take 31 }
  else if key = ascii "--ssid" ∨ key = ascii "-s" then { o with kWifiSSID := value.take 63 }
  else if key = ascii "--pass" ∨ key = ascii "-p" then { o with kWifiPassword := value.take 63 }
  else o

/-- `parse_args` on the arguments behind the name of the program. -/
def parseArgs (o : Options) : List Bytes → Options
  | key :: value :: rest => parseArgs (o.set key value) rest
  | _ => o

/-! ## The program -/

/-- What `main` does next. -/
inductive Phase where
  | banner
  | certificates
  | btOpen
  | setSystemBluetooth
  | setPowerMode
  | runLoop
  | exited
deriving DecidableEq

/-- A process. `watchdogs` are the generations the scheduled blocks have captured. -/
structure Process where
  cfg : Config
  phase : Phase
  globals : State
  packetDebugCount : Nat
  watchdogs : List UInt32

/-- The process behind `parse_args`. -/
def Process.spawned (rootless : Bool) (args : List Bytes) : Process where
  cfg :=
    let o := parseArgs .initial args
    ⟨o.kDeviceName, o.kWifiSSID, o.kWifiPassword, false, [], [], rootless⟩
  phase := .banner
  globals := .initial
  packetDebugCount := 0
  watchdogs := []

/-- What `perform_clean_bt_shutdown` finds: the milliseconds since its begin at each line, and what the commands
    return. -/
structure Shutdown where
  ms : Nat → Int
  disconnectRc : Int
  scanRc : Int
  resetRc : Int

/-- What the process does, with what it gets from the system. -/
inductive ProcessEvent where
  | banner
  /-- `load_cached_baa`, `issue_baa_cert` and `save_baa_cache`: they read none of the options. -/
  | certificates (text : Bytes) (baa : Option (Bytes × Bytes))
  | btOpen (rc : Int)
  | setSystemBluetooth (rc : Int)
  | setPowerMode (rc : Int)
  | call (ev : Event) (ready : Stdout.Sentinel)
  /-- The block of a watchdog runs. -/
  | watchdog (generation : UInt32)
  /-- `handle_shutdown_signal`. -/
  | shutdown (sig : Nat) (c : Shutdown)
  | killed

namespace Process

/-- `bt_open` has returned 0, and the signals are handled. -/
def signalsHandled (p : Process) : Prop := p.phase = .setSystemBluetooth ∨ p.phase = .setPowerMode ∨ p.phase = .runLoop

instance (p : Process) : Decidable p.signalsHandled := inferInstanceAs (Decidable (_ ∨ _))

/-- `packet_debug_count` behind a call of `handler`. -/
def debugCount (p : Process) : Event → Nat
  | .packet _ _ _ _ => if p.packetDebugCount < 24 then p.packetDebugCount + 1 else p.packetDebugCount
  | .alarm => p.packetDebugCount

/-- The process behind a call of the handler, where `r` is what the call leaves of the globals. -/
def called (p : Process) (count : Nat) (r : Option (State × List UInt32)) : Process :=
  match r with
  | some (s, scheduled) =>
      { p with globals := s, packetDebugCount := count, watchdogs := p.watchdogs ++ scheduled }
  | none => { p with phase := .exited }

/-- The next step of the program; nothing when it has none of this kind to make. -/
def step (p : Process) : ProcessEvent → Option Process
  | .banner => if p.phase = .banner then some { p with phase := .certificates } else none
  | .certificates _ baa =>
      if p.phase = .certificates then
        match baa with
        | some (leaf, inter) => some { p with
            phase := .btOpen, cfg := { p.cfg with baaReady := true, baaLeafDer := leaf, baaInterDer := inter } }
        | none => some { p with phase := .exited }
      else none
  | .btOpen rc =>
      if p.phase = .btOpen then some { p with phase := if rc ≠ 0 then .exited else .setSystemBluetooth } else none
  | .setSystemBluetooth _ =>
      if p.phase = .setSystemBluetooth then some { p with phase := .setPowerMode } else none
  | .setPowerMode _ => if p.phase = .setPowerMode then some { p with phase := .runLoop } else none
  | .call ev _ =>
      if p.phase = .runLoop then some (p.called (p.debugCount ev) ((Bt.step p.cfg p.globals ev).map remains))
      else none
  | .watchdog generation =>
      if p.phase = .runLoop ∧ generation ∈ p.watchdogs then
        some { p with watchdogs := p.watchdogs.erase generation }
      else none
  | .shutdown _ _ => if p.signalsHandled then some { p with phase := .exited } else none
  | .killed => some { p with phase := .exited }

end Process

/-! ## Texts -/

namespace Stdout

/-- The banner of `main`. -/
def banner (cfg : Config) : Bytes :=
  utf8 "[CP] Showcase / carplay_bt\n" ++
    utf8 "[CP] Name=" ++ cfg.kDeviceName ++ utf8 "  SSID=\"" ++ cfg.kWifiSSID ++ utf8 "\"\n" ++
    utf8 "[CP] WiFi: SSID=\"" ++ cfg.kWifiSSID ++
    utf8 s!"\" SEC={kWifiSecurityType.toNat} CH=omitted BSSID=omitted\n" ++
    utf8 "[CP] AirPlay: deviceid=90:B9:31:AC:86:A0 port=7000 srcvers=280.33.8\n" ++
    utf8 "[CP] Strategy: identification unchanged (working v40)\n" ++
    utf8 "[CP]           0x4301 disabled by default; using 0x5703 + Bonjour handoff\n" ++
    utf8 "[CP]           REAL FIX: HKPairingAndEncrypt enabled in services\n" ++
    utf8 "[CP] *** Ensure AP \"" ++ cfg.kWifiSSID ++ utf8 "\" + carplay_services are running! ***\n\n"

/-- `perform_clean_bt_shutdown`. -/
def performCleanBtShutdown (s : State) (c : Shutdown) : Bytes :=
  let acl := hex 4 s.aclHandle.toNat
  let cid := hex 4 s.activeCid.toNat
  let detected := s.link.iap2Detected.toNat
  let established := s.link.linkEstablished.toNat
  utf8 "[BT-SHUTDOWN] ──── begin clean shutdown sequence ────\n" ++
    utf8 s!"[BT-SHUTDOWN] state: acl_handle=0x{acl} active_cid=0x{cid} " ++
    utf8 s!"iap2_detected={detected} link_established={established}\n" ++
    (if s.aclHandle ≠ 0 then
      utf8 s!"[BT-SHUTDOWN] [t+{c.ms 0}ms] sending hci_disconnect handle=0x{acl} " ++
        utf8 "reason=0x13 (Remote User Terminated)\n" ++
        utf8 s!"[BT-SHUTDOWN] [t+{c.ms 1}ms] hci_disconnect rc={c.disconnectRc}\n" ++
        utf8 s!"[BT-SHUTDOWN] [t+{c.ms 2}ms] waiting 300ms for Disconnection Complete...\n" ++
        utf8 s!"[BT-SHUTDOWN] [t+{c.ms 3}ms] post-wait acl_handle=0x{acl} " ++
        utf8 "(0x0000 means Disconnection Complete was seen)\n"
    else utf8 s!"[BT-SHUTDOWN] [t+{c.ms 0}ms] no active ACL link — skipping disconnect\n") ++
    utf8 s!"[BT-SHUTDOWN] [t+{c.ms 4}ms] sending hci_write_scan_enable(0x00) — disable inquiry+page scan\n" ++
    utf8 s!"[BT-SHUTDOWN] [t+{c.ms 5}ms] hci_write_scan_enable rc={c.scanRc}\n" ++
    utf8 s!"[BT-SHUTDOWN] [t+{c.ms 6}ms] sending hci_reset — clears custom name/COD/EIR/SDP state\n" ++
    utf8 s!"[BT-SHUTDOWN] [t+{c.ms 7}ms] hci_reset rc={c.resetRc}\n" ++
    utf8 s!"[BT-SHUTDOWN] [t+{c.ms 8}ms] waiting 500ms for reset to complete...\n" ++
    utf8 s!"[BT-SHUTDOWN] ──── clean shutdown sequence complete, total {c.ms 9}ms ────\n"

/-- `handle_shutdown_signal`. -/
def handleShutdownSignal (s : State) (sig : Nat) (c : Shutdown) : Bytes :=
  let name := if sig = 15 then "SIGTERM" else if sig = 2 then "SIGINT" else "?"
  utf8 s!"\n[BT-SHUTDOWN] Received signal {sig} ({name}) — running clean shutdown before exit\n" ++
    performCleanBtShutdown s c ++
    utf8 s!"[BT-SHUTDOWN] Re-raising signal {sig} with default disposition to actually exit\n"

end Stdout

namespace Process

/-- What the process prints in a step. -/
def stdout (p : Process) : ProcessEvent → Bytes
  | .banner => Stdout.banner p.cfg
  | .certificates text baa => text ++ if baa = none then utf8 "[CP] FATAL: No BAA cert\n" else []
  | .btOpen rc => utf8 s!"[BT] bt_open rc={rc}\n"
  | .setSystemBluetooth rc => utf8 s!"[BT] btstack_set_system_bluetooth_enabled(0) rc={rc}\n"
  | .setPowerMode rc => utf8 s!"[BT] btstack_set_power_mode rc={rc}\n"
  | .call (.packet type ch pkt e) ready => Stdout.handler p.cfg p.globals p.packetDebugCount type ch pkt e ready
  | .call .alarm _ => Stdout.alarmHandler p.globals
  | .watchdog generation =>
      if generation ≠ p.globals.handoff.handoffGeneration ∨ p.globals.activeCid = 0 then [] else Stdout.watchdogBlock
  | .shutdown sig c => Stdout.handleShutdownSignal p.globals sig c
  | .killed => []

/-! ## Another password of the same length

A step of the process is a call of the handler, or does not look at the options. For the calls the result of
`Bt.Stdout` is used, so that here only the cases of `ProcessEvent` are gone through. -/

/-- The process with another password. -/
def withPassword (p : Process) (pw : Bytes) : Process := { p with cfg := p.cfg.withPassword pw }

theorem called_withPassword (p : Process) (pw : Bytes) (count : Nat) (r : Option (State × List UInt32)) :
    (p.withPassword pw).called count r = (p.called count r).withPassword pw := by
  cases r with
  | none => rfl
  | some r => rfl

/-- With another password the program takes the same steps. -/
theorem step_withPassword (p : Process) (pw : Bytes) (e : ProcessEvent) :
    (p.withPassword pw).step e = (p.step e).map fun q : Process => q.withPassword pw := by
  cases e with
  | banner =>
      rw [step, step, apply_ite (Option.map fun q : Process => q.withPassword pw)]
      rfl
  | certificates text baa =>
      cases baa with
      | none =>
          rw [step, step, apply_ite (Option.map fun q : Process => q.withPassword pw)]
          rfl
      | some b =>
          rw [step, step, apply_ite (Option.map fun q : Process => q.withPassword pw)]
          rfl
  | btOpen rc =>
      rw [step, step, apply_ite (Option.map fun q : Process => q.withPassword pw)]
      rfl
  | setSystemBluetooth rc =>
      rw [step, step, apply_ite (Option.map fun q : Process => q.withPassword pw)]
      rfl
  | setPowerMode rc =>
      rw [step, step, apply_ite (Option.map fun q : Process => q.withPassword pw)]
      rfl
  | call ev ready =>
      -- what the handler leaves of the globals does not depend on the password
      rw [step, step, apply_ite (Option.map fun q : Process => q.withPassword pw), Option.map_some,
        ← called_withPassword, ← Bt.step_withPassword p.cfg pw p.globals ev]
      rfl
  | watchdog generation =>
      rw [step, step, apply_ite (Option.map fun q : Process => q.withPassword pw)]
      rfl
  | shutdown sig c =>
      rw [step, step, apply_ite (Option.map fun q : Process => q.withPassword pw)]
      rfl
  | killed => rfl

/-- A step keeps the password. -/
theorem step_password {p p' : Process} {e : ProcessEvent} (h : p.step e = some p') :
    p'.cfg.kWifiPassword = p.cfg.kWifiPassword := by
  have hsame := step_withPassword p p.cfg.kWifiPassword e
  have hself : p.withPassword p.cfg.kWifiPassword = p := rfl
  rw [hself, h, Option.map_some] at hsame
  have hsame : p' = p'.withPassword p.cfg.kWifiPassword := Option.some.inj hsame
  have hpw := congrArg (fun q : Process => q.cfg.kWifiPassword) hsame
  exact hpw

/-- **With another password** of the same length the program prints the same. -/
theorem stdout_withPassword {p : Process} {pw : Bytes} (hlen : pw.length = p.cfg.kWifiPassword.length)
    (e : ProcessEvent) : (p.withPassword pw).stdout e = p.stdout e := by
  cases e with
  | call ev ready =>
      cases ev with
      | packet type ch pkt e => exact Stdout.handler_withPassword hlen _ _ _ _ _ _ _
      | alarm => rfl
  | _ => rfl

/-- The same process, up to a password of the same length. -/
def Alike (p q : Process) : Prop := ∃ pw, pw.length = p.cfg.kWifiPassword.length ∧ q = p.withPassword pw

theorem Alike.step {p p' q q' : Process} (h : p.Alike q) {e : ProcessEvent} (hp : p.step e = some p')
    (hq : q.step e = some q') : p'.Alike q' := by
  obtain ⟨pw, hlen, rfl⟩ := h
  rw [step_withPassword, hp] at hq
  refine ⟨pw, ?_, (Option.some.inj hq).symm⟩
  rw [step_password hp, hlen]

theorem Alike.stdout {p q : Process} (h : p.Alike q) (e : ProcessEvent) : p.stdout e = q.stdout e := by
  obtain ⟨pw, hlen, rfl⟩ := h
  exact (stdout_withPassword hlen e).symm

end Process

end Showcase.Bt
