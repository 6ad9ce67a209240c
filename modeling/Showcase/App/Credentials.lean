import Showcase.App.Secrecy
import Showcase.Bt.Builder
import Showcase.Bt.Emission
import Showcase.Bt.Handoff
import Showcase.Services.Mdns

/-!
# `App.Credentials` — the access point on its way to the phone

The settings hold texts (`CarStore`); `bgPrepareBT` copies them to buffers of 64 and 128 bytes, `parse_args` of
`carplay_bt` to arrays of 32 and 64 bytes, and `0x5703` is built from those. The name of the car goes to
`carplay_services` on a way of its own.

* `validateSSID`, `CarStore.apReady` — what the app asks of the settings: no bound from above.
* `ProcessRun`, `processOuts` — `carplay_bt` from its start, and what it sends.
* `wifi_config_sent` — every `0x5703` holds the cut texts, and there are runs with one.
* `credentialsArrive_iff` — for which texts the phone gets what is stored.
-/

namespace Showcase.App

open Lib

/-! ## The settings -/

/-- What the checks ask of an `NSString`: `lowercaseString`, and whether `rangeOfString:` finds a part. -/
structure Foundation where
  lowercaseString : String → String
  rangeOfString : String → String → Bool

/-- `length`: characters beyond the sixteen-bit ones count twice. -/
def nsLength (s : String) : Nat := (s.toList.map fun c => if c.toNat < 0x10000 then 1 else 2).sum

/-- `forbidden`. -/
def forbiddenNames : List String := ["ipad", "iphone", "ipod"]

/-- `validateSSID`: the message, or nothing for a name that is accepted. -/
def validateSSID (F : Foundation) (ssid : String) : Option String :=
  if nsLength ssid = 0 then some "Wi-Fi network is required."
  else if nsLength ssid < 6 then
    some "Wi-Fi name must be at least 6 characters. iOS rejects shorter names for CarPlay."
  else
    let lower := F.lowercaseString ssid
    (forbiddenNames.find? (F.rangeOfString lower)).map fun bad =>
      "Wi-Fi name cannot contain \"" ++ bad ++
        "\". Rename your iPad in Settings › General › About › Name."

/-- The access point of `CarStore`. -/
structure CarStore where
  apSSID : String
  apPassword : String

/-- `apReady`. -/
def CarStore.apReady (F : Foundation) (store : CarStore) : Prop :=
  0 < nsLength store.apSSID ∧ 0 < nsLength store.apPassword ∧ validateSSID F store.apSSID = none

instance (F : Foundation) (store : CarStore) : Decidable (store.apReady F) := inferInstanceAs (Decidable (_ ∧ _))

/-! ## The helpers -/

/-- `UTF8String` as a C function sees it. -/
def utf8String (s : String) : Bytes := utf8 (cText s)

/-- `svcArgv` of `bgPrepareNet`, behind the name of the program. -/
def svcArgs (car : Bytes) : List Bytes := [ascii "--name", car.take 63]

/-- `carplay_bt` behind `bgPrepareBT`. -/
def btStarted (rootless : Bool) (car ssid password : String) : Bt.Process :=
  .spawned rootless (btArgs (utf8String car) (utf8String ssid) (utf8String password))

/-- Runs of a process. -/
abbrev ProcessRun (p₀ : Bt.Process) : List (Step Bt.Process Bt.ProcessEvent) → Bt.Process → Prop :=
  Lib.Run (fun p e p' => p.step e = some p') p₀

/-- What the handler sends in a step. -/
def processOuts (p : Bt.Process) : Bt.ProcessEvent → List Bt.Out
  | .call ev _ => ((Bt.step p.cfg p.globals ev).map Prod.snd).getD []
  | _ => []

section

variable {rootless : Bool} {car ssid password : String}

theorem btStarted_names (rootless : Bool) (car ssid password : String) :
    (btStarted rootless car ssid password).cfg.kDeviceName = ((utf8String car).take 63).take 31 ∧
      (btStarted rootless car ssid password).cfg.kWifiSSID = ((utf8String ssid).take 127).take 63 ∧
      (btStarted rootless car ssid password).cfg.kWifiPassword = ((utf8String password).take 127).take 63 := by
  simp only [btStarted, Bt.Process.spawned, parseArgs_btArgs, and_self]

theorem svcArgs_name (car : Bytes) :
    (parseArgs (svcArgs car) .initial).instanceName = (car.take 63).take 31 := by
  have hflag : ascii "--name" = ascii "--name" ∨ ascii "--name" = ascii "-n" := .inl rfl
  rw [svcArgs, parseArgs, if_pos hflag, parseArgs]
  · rfl
  · exact nofun

/-- A process has what `parse_args` has left in `cfg`; only the certificates may be others. -/
def HasConfig (cfg : Bt.Config) (p : Bt.Process) : Prop :=
  ∃ ready leaf inter, p.cfg = { cfg with baaReady := ready, baaLeafDer := leaf, baaInterDer := inter }

theorem hasConfig_self (p : Bt.Process) : HasConfig p.cfg p :=
  ⟨p.cfg.baaReady, p.cfg.baaLeafDer, p.cfg.baaInterDer, rfl⟩

theorem step_hasConfig {cfg : Bt.Config} (p : Bt.Process) (e : Bt.ProcessEvent) (p' : Bt.Process)
    (hcfg : HasConfig cfg p) (h : p.step e = some p') : HasConfig cfg p' := by
  have hcalled : ∀ count r, (p.called count r).cfg = p.cfg := by
    intro count r
    cases r with
    | none => rfl
    | some r => rfl
  have hsame : p'.cfg = p.cfg → HasConfig cfg p' := by
    intro heq
    rw [HasConfig, heq]
    exact hcfg
  cases e with
  | certificates text baa =>
      obtain ⟨-, h⟩ := Option.ite_none_right_eq_some.mp h
      cases baa with
      | none =>
          obtain rfl := Option.some.inj h
          exact hsame rfl
      | some b =>
          obtain rfl := Option.some.inj h
          obtain ⟨ready, leaf, inter, heq⟩ := hcfg
          refine ⟨true, b.1, b.2, ?_⟩
          dsimp only
          rw [heq]
  | call ev ready =>
      obtain ⟨-, h⟩ := Option.ite_none_right_eq_some.mp h
      obtain rfl := Option.some.inj h
      exact hsame (hcalled _ _)
  | killed =>
      obtain rfl := Option.some.inj h
      exact hsame rfl
  | _ =>
      obtain ⟨-, h⟩ := Option.ite_none_right_eq_some.mp h
      obtain rfl := Option.some.inj h
      exact hsame rfl

/-- **What a `0x5703` holds**, in every run. -/
theorem wifi_config_sent {p₀ p : Bt.Process} {h : List (Step Bt.Process Bt.ProcessEvent)} (hr : ProcessRun p₀ h p)
    {x : Step Bt.Process Bt.ProcessEvent} (hx : x ∈ h) {cid : UInt16} {params pkt : Bytes}
    (hout : .control cid 0x5703 params pkt ∈ processOuts x.pre x.input) : params = Bt.wifiConfig p₀.cfg := by
  obtain ⟨ready, leaf, inter, hcfg⟩ := hr.invariant_pre (HasConfig p₀.cfg) (hasConfig_self p₀) step_hasConfig hx
  have hsame : Bt.wifiConfig x.pre.cfg = Bt.wifiConfig p₀.cfg := by
    rw [hcfg]
    simp only [Bt.wifiConfig]
  cases hinput : x.input with
  | call ev ready =>
      rw [hinput] at hout
      cases hstep : Bt.step x.pre.cfg x.pre.globals ev with
      | none =>
          rw [processOuts, hstep] at hout
          cases hout
      | some r =>
          rw [processOuts, hstep] at hout
          obtain ⟨before, after, heq⟩ := List.append_of_mem (show _ ∈ r.2 from hout)
          have hseq := Bt.effect_numbers (Bt.step_effect hstep)
          unfold Bt.Numbers at hseq
          dsimp only at hseq
          rw [heq] at hseq
          obtain ⟨m, -, hbehind⟩ := Bt.sequenced_append.mp hseq
          cases hbehind with
          | cons ho _ =>
              cases ho with
              | control hwifi => exact (hwifi rfl).trans hsame
              | other _ hctrl => cases hctrl
  | _ =>
      rw [hinput] at hout
      cases hout

/-- From the start to the first `0x5703`. -/
def firstWifiConfig : List Bt.ProcessEvent :=
  [.banner, .certificates [] (some ([], [])), .btOpen 0, .setSystemBluetooth 0, .setPowerMode 0] ++
    Bt.askedOnce.map fun ev => .call ev none

/-- The access point can be asked for, whatever it is. -/
theorem wifi_config_run (rootless : Bool) (car ssid password : String) :
    ∃ h p, ProcessRun (btStarted rootless car ssid password) h p ∧ ∃ x ∈ h, ∃ cid params pkt,
      .control cid 0x5703 params pkt ∈ processOuts x.pre x.input := by
  have hexec : (exec Bt.Process.step (btStarted rootless car ssid password) firstWifiConfig).map (fun r =>
      r.1.any fun x => (processOuts x.pre x.input).any Bt.Out.isWifiConfig) = some true := rfl
  obtain ⟨r, hr, hany⟩ := Option.map_eq_some_iff.mp hexec
  obtain ⟨x, hx, hany⟩ := List.any_eq_true.mp hany
  obtain ⟨o, ho, hwifi⟩ := List.any_eq_true.mp hany
  refine ⟨r.1, r.2, Run.exec hr, x, hx, ?_⟩
  cases o with
  | control cid msgId params pkt =>
      obtain rfl : msgId = 0x5703 := beq_iff_eq.mp hwifi
      exact ⟨cid, params, pkt, ho⟩
  | _ => cases hwifi

end

/-! ## What arrives

A text comes through the copies of both programs. What they leave of it is the text when it has no NUL and fits; for
the name it is enough that what is left is a text, so its condition is about characters. -/

/-- What the copies leave of a text is the text. -/
theorem cut_eq_iff {s : String} :
    ((utf8String s).take 127).take 63 = utf8 s ↔ (utf8 s).length ≤ 63 ∧ nul ∉ s.toList := by
  rw [utf8String, utf8_cText, List.take_take, ← zero_mem_utf8]
  constructor
  · intro h
    refine ⟨?_, ?_⟩
    · rw [← h, List.length_take]
      exact Nat.min_le_left _ _
    · intro hzero
      rw [← h] at hzero
      exact absurd (List.mem_takeWhile_imp (List.mem_of_mem_take hzero)) (by decide)
  · rintro ⟨hlen, hno⟩
    have hall : ∀ b ∈ utf8 s, decide (b ≠ 0) = true := fun b hb => decide_eq_true fun hzero => hno (hzero ▸ hb)
    rw [List.takeWhile_eq_self_iff.mpr hall, Nat.min_eq_left (by decide), List.take_of_length_le hlen]

/-- `0x5703` read back. -/
theorem wifiConfig_decoded {cfg : Bt.Config} (hssid : cfg.kWifiSSID.length ≤ 63)
    (hpass : cfg.kWifiPassword.length ≤ 63) :
    Bt.decode (.param (.param (.param .nil))) (Bt.wifiConfig cfg) =
      some (.param 0x0001 (cfg.kWifiSSID ++ [0]) (.param 0x0002 (cfg.kWifiPassword ++ [0])
        (.param 0x0003 [Bt.kWifiSecurityType] .nil))) := by
  have hshort : (Bt.wifiConfigCalls cfg).Short := by
    refine ⟨?_, ?_, ?_, trivial⟩
    · rw [Bt.PbCall.bytes_eq, Bt.length_pbParam]
      change 4 + (cfg.kWifiSSID ++ [0]).length < 65536
      rw [List.length_append, List.length_singleton]
      omega
    · rw [Bt.PbCall.bytes_eq, Bt.length_pbParam]
      change 4 + (cfg.kWifiPassword ++ [0]).length < 65536
      rw [List.length_append, List.length_singleton]
      omega
    · rw [Bt.PbCall.bytes_eq, Bt.length_pbParam]
      decide
  rw [← Bt.wifiConfigCalls_bytes]
  exact Bt.decode_bytes (Bt.wifiConfigCalls cfg) hshort

/-- **The texts arrive**: in every run the first two parameters of every `0x5703` are the SSID and the password, each
    with its NUL, and both helpers have the same name all the time, which is a text. -/
structure CredentialsArrive (car ssid password : String) : Prop where
  sent : ∀ rootless h p, ProcessRun (btStarted rootless car ssid password) h p → ∀ x ∈ h, ∀ cid params pkt,
    .control cid 0x5703 params pkt ∈ processOuts x.pre x.input →
      ∃ rest, Bt.decode (.param (.param (.param .nil))) params =
        some (.param 0x0001 (utf8 ssid ++ [0]) (.param 0x0002 (utf8 password ++ [0]) rest))
  name : ∀ rootless h p, ProcessRun (btStarted rootless car ssid password) h p →
    p.cfg.kDeviceName = (parseArgs (svcArgs (utf8String car)) .initial).instanceName
  text : ∀ rootless h p, ProcessRun (btStarted rootless car ssid password) h p →
    ∃ t, utf8 t = p.cfg.kDeviceName

/-- The name is the same in every run. -/
theorem run_kDeviceName {rootless : Bool} {car ssid password : String} {h : List (Step Bt.Process Bt.ProcessEvent)}
    {p : Bt.Process} (hr : ProcessRun (btStarted rootless car ssid password) h p) :
    p.cfg.kDeviceName = (utf8String car).take 31 := by
  obtain ⟨ready, leaf, inter, hcfg⟩ := hr.invariant (HasConfig _) (hasConfig_self _) step_hasConfig
  rw [hcfg]
  dsimp only
  rw [(btStarted_names _ _ _ _).1, List.take_take]
  rfl

/-- What a `0x5703` says, in every run. -/
theorem sent_decoded {rootless : Bool} {car ssid password : String} {h : List (Step Bt.Process Bt.ProcessEvent)}
    {p : Bt.Process} (hr : ProcessRun (btStarted rootless car ssid password) h p)
    {x : Step Bt.Process Bt.ProcessEvent} (hx : x ∈ h) {cid : UInt16} {params pkt : Bytes}
    (hout : .control cid 0x5703 params pkt ∈ processOuts x.pre x.input) :
    Bt.decode (.param (.param (.param .nil))) params =
      some (.param 0x0001 (((utf8String ssid).take 127).take 63 ++ [0])
        (.param 0x0002 (((utf8String password).take 127).take 63 ++ [0])
          (.param 0x0003 [Bt.kWifiSecurityType] .nil))) := by
  obtain ⟨-, hssid, hpass⟩ := btStarted_names rootless car ssid password
  rw [wifi_config_sent hr hx hout, wifiConfig_decoded, hssid, hpass]
  · rw [hssid]
    exact List.length_take_le _ _
  · rw [hpass]
    exact List.length_take_le _ _

/-- **The way to the phone.** SSID and password arrive where they have no NUL and at most 63 bytes, whatever the app has
    accepted. The name of the car is a text at the other end unless a character lies across its first 31 bytes. -/
theorem credentialsArrive_iff (car ssid password : String) :
    CredentialsArrive car ssid password ↔
      ((utf8 ssid).length ≤ 63 ∧ nul ∉ ssid.toList) ∧ ((utf8 password).length ≤ 63 ∧ nul ∉ password.toList) ∧
        ∀ b, (utf8String car)[31]? = some b → b.IsUTF8FirstByte := by
  have htext := utf8_take_iff (cText car) 31
  rw [← cut_eq_iff, ← cut_eq_iff, show utf8String car = utf8 (cText car) from rfl, ← htext]
  constructor
  · intro harrive
    obtain ⟨h, p, hr, x, hx, cid, params, pkt, hout⟩ := wifi_config_run false car ssid password
    obtain ⟨rest, hdec⟩ := harrive.sent false h p hr x hx cid params pkt hout
    obtain ⟨t, ht⟩ := harrive.text false [] _ .nil
    rw [sent_decoded hr hx hout] at hdec
    injection Option.some.inj hdec with _ hssid htail
    injection htail with _ hpass _
    refine ⟨List.append_cancel_right hssid, List.append_cancel_right hpass, t, ?_⟩
    exact ht.trans (run_kDeviceName .nil)
  · rintro ⟨hssid, hpass, t, ht⟩
    refine ⟨?_, ?_, ?_⟩
    · intro rootless h p hr x hx cid params pkt hout
      refine ⟨.param 0x0003 [Bt.kWifiSecurityType] .nil, ?_⟩
      rw [sent_decoded hr hx hout, hssid, hpass]
    · intro rootless h p hr
      rw [run_kDeviceName hr, svcArgs_name, List.take_take]
      rfl
    · intro rootless h p hr
      exact ⟨t, ht.trans (run_kDeviceName hr).symm⟩

/-- A key of 64 digits in place of a passphrase: its last digit is lost, and nobody has said so. -/
theorem key_not_arrives :
    ¬ ∀ (F : Foundation) (store : CarStore) (car : String), store.apReady F →
      CredentialsArrive car store.apSSID store.apPassword := by
  intro h
  let F : Foundation :=
    ⟨fun s => String.ofList (s.toList.map Char.toLower), fun s part => s.toList.tails.any part.toList.isPrefixOf⟩
  have hready : CarStore.apReady F ⟨"Showcase", String.ofList (List.replicate 64 'a')⟩ := by decide
  have harrive := h F _ "RoadLink" hready
  obtain ⟨-, ⟨hlen, -⟩, -⟩ := (credentialsArrive_iff _ _ _).mp harrive
  exact absurd hlen (by decide)

end Showcase.App
