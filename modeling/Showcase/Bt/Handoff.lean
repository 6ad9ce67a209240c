import Mathlib.Data.List.DropRight
import Showcase.Bt.Handler

/-!
# `Bt.Handoff` — the Wi-Fi hand-off over a run

Five messages change the state of the hand-off, in any order: `0xAA05`, `0x5702`, `0x4E0D` and `0x4E0E` set its
flags, and the open or close of a channel and the loss of the connection begin a new generation.

* `Counted` — what holds also between two assignments: the counters, and that the watchdog is armed with reason.
* `HandoffInv` — after a whole call the watchdog is armed also whenever there is reason.
* `handleCtrlMsg_handoff` — one message keeps it; `handoff_invariant` — so does a run.
-/

namespace Showcase.Bt

open Lib

/-! ## The invariant

Inside a call the watchdog may have its four reasons and not be armed yet. So the invariant comes in two parts:
`Counted`, which holds there as well, and what a look at the watchdog adds to it. -/

/-- A message `0x5703`. -/
def Out.isWifiConfig : Out → Bool
  | .control _ msgId _ _ => msgId == 0x5703
  | _ => false

/-- The watchdog is scheduled. -/
def Out.isWatchdog : Out → Bool
  | .watchdog _ => true
  | _ => false

/-- The counters and flags agree with `sends` messages and `scheduled` watchdogs of this generation. -/
structure Counted (sends scheduled : Nat) (g : Handoff) : Prop where
  sendCount : g.wifiConfigSendCount = sends
  capped : sends ≤ 5
  retryCount : g.wifiConfigRetryCount ≤ g.wifiConfigSendCount
  postTransport : g.wifiConfigSentPostTransport → g.transportNotificationSeen
  sent : g.wifiConfigSent ↔ 0 < sends
  phases : g.wifiConfigSent ↔ g.wifiConfigSentPreTransport ∨ g.wifiConfigSentPostTransport
  armed : g.handoffWatchdogArmed → g.Stuckable
  watchdogs : scheduled = if g.handoffWatchdogArmed then 1 else 0

/-- The counters are right, and the watchdog is armed whenever its four conditions hold. -/
structure HandoffInv (sends scheduled : Nat) (g : Handoff) : Prop extends Counted sends scheduled g where
  watched : g.Stuckable → g.handoffWatchdogArmed

theorem handoffInv_fresh (generation : UInt32) : HandoffInv 0 0 (.fresh generation) where
  sendCount := rfl
  capped := by omega
  retryCount := Nat.le_refl 0
  postTransport h := by cases h
  sent := by simp [Handoff.fresh]
  phases := by simp [Handoff.fresh]
  armed h := by cases h
  watchdogs := rfl
  watched h := by cases h.1

/-! ## One message -/

/-- A call keeps the invariant when what it sends and schedules is counted. -/
def Keeps (s : State) (r : State × List Out) : Prop :=
  ∀ n w, HandoffInv n w s.handoff →
    HandoffInv (n + r.2.countP Out.isWifiConfig) (w + r.2.countP Out.isWatchdog) r.1.handoff

theorem keeps_nothing (s : State) : Keeps s (s, []) := fun _ _ h => h

/-- Sending another message does not touch the hand-off. -/
theorem keeps_sendControl (s : State) {msgId : UInt16} (params : Bytes) (h : msgId ≠ 0x5703) :
    Keeps s (sendControl s msgId params) := by
  intro n w hi
  have hcount : (sendControl s msgId params).2.countP Out.isWifiConfig = 0 := by
    simp [sendControl, Out.isWifiConfig, h]
  rw [hcount]
  exact hi

/-- The check of the watchdog restores the invariant. -/
theorem watchdog_handoff {s : State} {n w : Nat} (hc : Counted n w s.handoff) :
    HandoffInv (n + (maybeStartHandoffWatchdog s).2.countP Out.isWifiConfig)
      (w + (maybeStartHandoffWatchdog s).2.countP Out.isWatchdog) (maybeStartHandoffWatchdog s).1.handoff := by
  unfold maybeStartHandoffWatchdog
  split
  next harmed => exact ⟨hc, fun _ => harmed⟩
  next harmed =>
  split
  next hstuck =>
    have hw := hc.watchdogs
    rw [if_neg harmed] at hw
    subst hw
    exact ⟨⟨hc.sendCount, hc.capped, hc.retryCount, hc.postTransport, hc.sent, hc.phases, fun _ => hstuck, rfl⟩,
      fun _ => rfl⟩
  next hstuck => exact ⟨hc, fun h => absurd h hstuck⟩

theorem keeps_authenticationSucceeded (s : State) : Keeps s (authenticationSucceeded s) := by
  intro n w hi
  apply watchdog_handoff
  exact ⟨hi.sendCount, hi.capped, hi.retryCount, hi.postTransport, hi.sent, hi.phases,
    fun h => ⟨rfl, (hi.armed h).2⟩, hi.watchdogs⟩

theorem keeps_wirelessCarPlayUpdate (s : State) (params : Nat → UInt8) (plen : Int) :
    Keeps s (wirelessCarPlayUpdate s params plen) := by
  intro n w hi
  apply watchdog_handoff
  refine ⟨hi.sendCount, hi.capped, hi.retryCount, hi.postTransport, hi.sent, hi.phases, ?_, hi.watchdogs⟩
  intro h
  obtain ⟨hmfi, hconnecting, hrest⟩ := hi.armed h
  exact ⟨hmfi, by simp [hconnecting], hrest⟩

/-- What is left when `0x5703` could be sent, up to the link: the cap was not reached, and it is counted. -/
theorem sendAccessoryWifiConfig_some {cfg : Config} {s s' : State} {outs : List Out}
    (h : sendAccessoryWifiConfig cfg s = some (s', outs)) :
    s.handoff.wifiConfigSendCount < 5 ∧ outs.countP Out.isWifiConfig = 1 ∧ outs.countP Out.isWatchdog = 0 ∧
      s'.handoff = { s.handoff with
        wifiConfigSent := true, wifiConfigSendCount := s.handoff.wifiConfigSendCount + 1 } := by
  unfold sendAccessoryWifiConfig wifiConfigMaxSends at h
  split at h
  · cases h
  next hcap =>
    obtain ⟨rfl, rfl⟩ := Prod.mk.inj (Option.some.inj h)
    exact ⟨by omega, rfl, rfl, rfl⟩

/-- A message that is sent is counted; it may be a retry, or the first behind the notification. -/
theorem Counted.send {n w : Nat} {g g' : Handoff} (hc : Counted n w g) (hcap : g.wifiConfigSendCount < 5)
    (hsent : g'.wifiConfigSent = true) (hcount : g'.wifiConfigSendCount = g.wifiConfigSendCount + 1)
    (hretry : g'.wifiConfigRetryCount ≤ g.wifiConfigRetryCount + 1)
    (hpost : g'.wifiConfigSentPostTransport → g'.transportNotificationSeen)
    (hphases : g'.wifiConfigSentPreTransport ∨ g'.wifiConfigSentPostTransport)
    (harmed : g'.handoffWatchdogArmed = g.handoffWatchdogArmed) (hstuck : g.Stuckable → g'.Stuckable) :
    Counted (n + 1) w g' where
  sendCount := by rw [hcount, hc.sendCount]
  capped := by
    have heq := hc.sendCount
    omega
  retryCount := by
    have hle := hc.retryCount
    omega
  postTransport := hpost
  sent := by simp [hsent]
  phases := by simp [hsent, hphases]
  armed h := hstuck (hc.armed (harmed ▸ h))
  watchdogs := harmed ▸ hc.watchdogs

theorem keeps_requestAccessoryWiFiConfigInfo (cfg : Config) (s : State) :
    Keeps s (requestAccessoryWiFiConfigInfo cfg s) := by
  intro n w hi
  unfold requestAccessoryWiFiConfigInfo
  dsimp only
  split
  next htransport =>
    -- after 0x4E0E: a retry, which may arm the watchdog
    split
    next s' sent hsend =>
      obtain ⟨hcap, hone, hnone, hg⟩ := sendAccessoryWifiConfig_some hsend
      have hc : Counted (n + 1) w { s'.handoff with
          wifiConfigSentPostTransport := true, wifiConfigRetryCount := s'.handoff.wifiConfigRetryCount + 1 } := by
        rw [hg]
        refine hi.toCounted.send hcap rfl rfl (Nat.le_refl _) (fun _ => htransport) (.inr rfl) rfl ?_
        rintro ⟨hmfi, hconnecting, -, -⟩
        exact ⟨hmfi, hconnecting, htransport, rfl⟩
      have hw := watchdog_handoff (s := { s' with handoff := { s'.handoff with
        wifiConfigSentPostTransport := true, wifiConfigRetryCount := s'.handoff.wifiConfigRetryCount + 1 } }) hc
      rw [List.countP_append, List.countP_append, hone, hnone, Nat.zero_add, ← Nat.add_assoc]
      exact hw
    next =>
      exact ⟨⟨hi.sendCount, hi.capped, hi.retryCount, hi.postTransport, hi.sent, hi.phases, hi.armed, hi.watchdogs⟩,
        hi.watched⟩
  next htransport =>
    -- before 0x4E0E: nothing to watch yet
    have hpost : s.handoff.wifiConfigSentPostTransport = false := by
      cases hp : s.handoff.wifiConfigSentPostTransport with
      | false => rfl
      | true => exact absurd (hi.postTransport hp) htransport
    split
    next s' sent hsend =>
      obtain ⟨hcap, hone, hnone, hg⟩ := sendAccessoryWifiConfig_some hsend
      rw [hone, hnone, hg]
      refine ⟨?_, hi.watched⟩
      exact hi.toCounted.send hcap rfl rfl (Nat.le_succ _) hi.postTransport (.inl rfl) rfl id
    next =>
      exact ⟨⟨hi.sendCount, hi.capped, hi.retryCount, hi.postTransport, hi.sent, hi.phases, hi.armed, hi.watchdogs⟩,
        hi.watched⟩

theorem keeps_deviceTransportIdentifierNotification (cfg : Config) (s : State) :
    Keeps s (deviceTransportIdentifierNotification cfg s) := by
  intro n w hi
  unfold deviceTransportIdentifierNotification
  dsimp only
  split
  next s' sent hsend =>
    obtain ⟨hcap, hone, hnone, hg⟩ := sendAccessoryWifiConfig_some hsend
    have hc : Counted (n + 1) w { s'.handoff with wifiConfigSentPostTransport := true } := by
      rw [hg]
      refine hi.toCounted.send hcap rfl rfl (Nat.le_succ _) (fun _ => rfl) (.inr rfl) rfl ?_
      rintro ⟨hmfi, hconnecting, -, -⟩
      exact ⟨hmfi, hconnecting, rfl, rfl⟩
    have hw := watchdog_handoff (s := { s' with handoff := { s'.handoff with
      wifiConfigSentPostTransport := true } }) hc
    rw [List.countP_append, List.countP_append, hone, hnone, Nat.zero_add, ← Nat.add_assoc]
    exact hw
  next =>
    -- the cap is reached: the notification is noted, and no condition of the watchdog becomes true with it
    refine ⟨⟨hi.sendCount, hi.capped, hi.retryCount, fun _ => rfl, hi.sent, hi.phases, ?_, hi.watchdogs⟩, ?_⟩
    · intro harmed
      obtain ⟨hmfi, hconnecting, -, hpost⟩ := hi.armed harmed
      exact ⟨hmfi, hconnecting, rfl, hpost⟩
    · intro hstuck
      obtain ⟨hmfi, hconnecting, -, hpost⟩ := hstuck
      exact hi.watched ⟨hmfi, hconnecting, hi.postTransport hpost, hpost⟩

/-- **One message.** -/
theorem handleCtrlMsg_handoff (cfg : Config) (sign : Bytes → Option Bytes) (s : State) (msgId : Nat)
    (params : Nat → UInt8) (plen : Int) : Keeps s (handleCtrlMsg cfg sign s msgId params plen) := by
  apply handleCtrlMsg_cases
  case authCert =>
    unfold sendAuthCert
    split
    · exact keeps_sendControl s _ (by decide)
    · exact keeps_nothing s
  case authChallenge =>
    unfold requestAuthChallenge
    split
    · unfold sendAuthResponse
      split
      · exact keeps_sendControl s _ (by decide)
      · exact keeps_nothing s
    · exact keeps_nothing s
  case authSucceeded => exact keeps_authenticationSucceeded s
  case identification => exact keeps_sendControl s _ (by decide)
  case btComponent => exact keeps_sendControl s _ (by decide)
  case wifiConfig => exact keeps_requestAccessoryWiFiConfigInfo cfg s
  case wirelessUpdate => exact keeps_wirelessCarPlayUpdate s params plen
  case transport => exact keeps_deviceTransportIdentifierNotification cfg s
  case external => exact keeps_sendControl s _ (by decide)
  case other => exact keeps_nothing s

/-! ## One step -/

/-- Plain output is not counted. -/
theorem countP_plain {outs : List Out} (h : ∀ o ∈ outs, o.plain) :
    outs.countP Out.isWifiConfig = 0 ∧ outs.countP Out.isWatchdog = 0 := by
  constructor
  · apply List.countP_eq_zero.mpr
    intro o ho
    have hplain := h o ho
    cases o <;> simp_all [Out.plain, Out.isWifiConfig]
  · apply List.countP_eq_zero.mpr
    intro o ho
    have hplain := h o ho
    cases o <;> simp_all [Out.plain, Out.isWatchdog]

theorem keeps_plain {s s' : State} {outs : List Out} (hg : s'.handoff = s.handoff) (hplain : ∀ o ∈ outs, o.plain) :
    Keeps s (s', outs) := by
  intro n w hi
  obtain ⟨hwifi, hwatch⟩ := countP_plain hplain
  rw [hwifi, hwatch]
  dsimp only
  rw [hg]
  exact hi

/-- A data packet. -/
theorem keeps_handleData (cfg : Config) (s : State) (pkt : Bytes) (e : Env) :
    Keeps s (handleData cfg s pkt e) := by
  rw [handleData_kind]
  dsimp only
  cases dataKind s.link pkt e.behind with
  | detectEcho => exact keeps_plain rfl (by simp [Out.plain])
  | rst => exact keeps_plain rfl (by simp [Out.plain])
  | synAck => exact keeps_plain rfl (by simp [Out.plain])
  | synAckOther => exact keeps_plain rfl (by simp)
  | data => exact keeps_plain rfl (by simp [Out.plain])
  | bare => exact keeps_plain rfl (by simp)
  | ignored => exact keeps_plain rfl (by simp)
  | control =>
      intro n w hi
      have hctrl := handleCtrlMsg_handoff cfg e.sign
        { s with link := { s.link with peerPsn := memByte pkt e.behind 5 } }
        (ctrlMsgAt (memByte pkt e.behind)).msgId (fun i => memByte pkt e.behind (15 + i))
        (ctrlMsgAt (memByte pkt e.behind)).plen n w hi
      simpa [Out.isWifiConfig, Out.isWatchdog, dispatchData] using hctrl

/-- **One step**: a new generation begins, or the invariant is kept. -/
theorem effect_handoff {cfg : Config} {s s' : State} {ev : Event} {outs : List Out} (h : Effect cfg s ev s' outs) :
    (ev.Resets ∧ s'.handoff = .fresh (s.handoff.handoffGeneration + 1) ∧ ∀ o ∈ outs, o.plain) ∨
      (¬ ev.Resets ∧ Keeps s (s', outs)) := by
  cases h with
  | kept hkept hquiet hev =>
      exact .inr ⟨hev, keeps_plain hkept.handoff fun o ho => Out.plain_of_quiet (hquiet o ho)⟩
  | data =>
      refine .inr ⟨fun hresets => ?_, keeps_handleData cfg s _ _⟩
      exact absurd (Event.resets_packet.mp hresets).1 (by decide)
  | connected hcode => exact .inr ⟨Event.not_resets (by rw [hcode]; decide), keeps_plain rfl (by simp)⟩
  | opened hcode hstatus =>
      obtain ⟨hstate, hquiet⟩ := rfcommOpened_spec s _
      exact .inl ⟨Event.resets_packet.mpr ⟨rfl, .inl ⟨hcode, hstatus⟩⟩, by rw [hstate],
        fun o ho => Out.plain_of_quiet (hquiet o ho)⟩
  | closed hcode =>
      exact .inl ⟨Event.resets_packet.mpr ⟨rfl, .inr (.inl hcode)⟩, rfl, by simp [Out.plain]⟩
  | disconnected hcode =>
      exact .inl ⟨Event.resets_packet.mpr ⟨rfl, .inr (.inr hcode)⟩, rfl, by simp⟩

/-! ## Runs -/

/-- The steps of the current generation. -/
def sinceReset (h : List (Step State Event)) : List (Step State Event) :=
  h.rtakeWhile fun x => ¬ x.input.Resets

theorem sinceReset_reset {h : List (Step State Event)} {x : Step State Event} (hx : x.input.Resets) :
    sinceReset (h ++ [x]) = [] := by
  unfold sinceReset
  rw [List.rtakeWhile_concat_neg _ _ _ (by simpa using hx)]

theorem sinceReset_other {h : List (Step State Event)} {x : Step State Event} (hx : ¬ x.input.Resets) :
    sinceReset (h ++ [x]) = sinceReset h ++ [x] := by
  unfold sinceReset
  rw [List.rtakeWhile_concat_pos _ _ _ (by simpa using hx)]

/-- What was done in the current generation. -/
def generationOuts (cfg : Config) (h : List (Step State Event)) : List Out := (sinceReset h).flatMap (outsOf cfg)

/-- The invariant holds behind every run, for what was done in its last generation. -/
theorem handoff_run {cfg : Config} {h : List (Step State Event)} {s : State} (hr : Run cfg h s) :
    HandoffInv ((generationOuts cfg h).countP Out.isWifiConfig) ((generationOuts cfg h).countP Out.isWatchdog)
      s.handoff := by
  induction hr with
  | nil => exact handoffInv_fresh 0
  | @snoc h s s' ev hr hstep ih =>
      have heffect := Run.effect (hr.snoc hstep) (x := ⟨s, ev, s'⟩) (by simp)
      rcases effect_handoff heffect with ⟨hresets, hg, -⟩ | ⟨hresets, hkeeps⟩
      · unfold generationOuts
        rw [sinceReset_reset hresets]
        dsimp only at hg
        rw [hg]
        exact handoffInv_fresh _
      · unfold generationOuts
        rw [sinceReset_other hresets, List.flatMap_append, List.countP_append, List.countP_append,
          List.flatMap_singleton]
        exact hkeeps _ _ ih

/-- **The hand-off in every reachable state.** The counters count what was sent in this generation, the flags say
    in which phase, and the watchdog is armed exactly when its four conditions hold, once in a generation. -/
theorem handoff_invariant (cfg : Config) {h : List (Step State Event)} {s : State} (hr : Run cfg h s) :
    let sends := (generationOuts cfg h).countP Out.isWifiConfig
    let g := s.handoff
    (g.wifiConfigSendCount = sends ∧ sends ≤ 5) ∧ g.wifiConfigRetryCount ≤ g.wifiConfigSendCount ∧
      (g.wifiConfigSentPostTransport → g.transportNotificationSeen) ∧
      ((g.wifiConfigSent ↔ 0 < sends) ∧
        (g.wifiConfigSent ↔ g.wifiConfigSentPreTransport ∨ g.wifiConfigSentPostTransport)) ∧
      (g.handoffWatchdogArmed ↔ g.mfiAuthSucceeded ∧ g.wirelessCarplayConnectingSeen ∧
        g.transportNotificationSeen ∧ g.wifiConfigSentPostTransport) ∧
      (generationOuts cfg h).countP Out.isWatchdog ≤ 1 := by
  have hi := handoff_run hr
  refine ⟨⟨hi.sendCount, hi.capped⟩, hi.retryCount, hi.postTransport, ⟨hi.sent, hi.phases⟩,
    ⟨hi.armed, hi.watched⟩, ?_⟩
  rw [hi.watchdogs]
  split
  · exact Nat.le_refl 1
  · exact Nat.zero_le 1

theorem handoff_session :
    ∃ h s, Run Session.config h s ∧ s.handoff.wifiConfigSendCount = 1 ∧
      s.handoff.wifiConfigSendCount = (generationOuts Session.config h).countP Out.isWifiConfig := by
  have hexec : (runEvents Session.config (Session.linkUp 0x41 ++
      [Session.data 0x41 (Session.message 0x21 0xAA05 []).wire,
        Session.data 0x41 (Session.message 0x22 0x4E0E []).wire])).map
        (fun r => r.2.handoff.wifiConfigSendCount) = some 1 := by decide
  obtain ⟨r, hr, hcount⟩ := Option.map_eq_some_iff.mp hexec
  exact ⟨r.1, r.2, runEvents_run hr, hcount, (handoff_invariant Session.config (runEvents_run hr)).1.1⟩

end Showcase.Bt
