import Showcase.Bt.Handoff

/-!
# `Bt.PostTransport` — what the transport notification still sends

A generation has a budget of five `0x5703`. The requests in front of the notification `0x4E0E` draw on it as the
notification itself does, so that what they leave decides about its message.

* `PreTransport` — the state of the hand-off before the first notification, by the requests so far.
* `ctrl_preTransport`, `preTransport_run` — one message keeps it, and so does a run.
* `post_transport_sent_iff` — when the first notification sends.
-/

namespace Showcase.Bt

open Lib

/-- `handle_ctrl_msg` is called for such a message. -/
def Out.isMessage (msgId : Nat) : Out → Bool
  | .dispatch m => m.msgId == msgId
  | _ => false

/-- Before the first notification, `requests` of them have been answered as far as the budget goes. -/
structure PreTransport (requests : Nat) (g : Handoff) : Prop where
  unseen : g.transportNotificationSeen = false
  sendCount : g.wifiConfigSendCount = min requests 5

/-! ## One message

A message is compared with the budget in front of it: it is a request and draws on it, it is the notification, or it
leaves it alone. -/

/-- The hand-off fields that the budget is about. -/
structure SameBudget (g g' : Handoff) : Prop where
  seen : g'.transportNotificationSeen = g.transportNotificationSeen
  sendCount : g'.wifiConfigSendCount = g.wifiConfigSendCount

theorem SameBudget.preTransport {n : Nat} {g g' : Handoff} (h : SameBudget g g') (hp : PreTransport n g) :
    PreTransport n g' :=
  ⟨h.seen.trans hp.unseen, h.sendCount.trans hp.sendCount⟩

/-- A look at the watchdog behind a change that leaves the budget alone. -/
theorem SameBudget.watchdog {g : Handoff} {s : State} (h : SameBudget g s.handoff) :
    SameBudget g (maybeStartHandoffWatchdog s).1.handoff := by
  unfold maybeStartHandoffWatchdog
  split
  · exact h
  split
  · exact ⟨h.seen, h.sendCount⟩
  · exact h

/-- A request draws on the budget as long as there is some. -/
theorem request_preTransport {n : Nat} (cfg : Config) {s : State} (hp : PreTransport n s.handoff) :
    PreTransport (n + 1) (requestAccessoryWiFiConfigInfo cfg s).1.handoff := by
  have hunseen := hp.unseen
  have hcount := hp.sendCount
  unfold requestAccessoryWiFiConfigInfo sendAccessoryWifiConfig wifiConfigMaxSends
  simp only [hunseen, Bool.false_eq_true, if_false]
  by_cases hcap : 5 ≤ s.handoff.wifiConfigSendCount
  · simp only [if_pos hcap]
    exact ⟨rfl, show s.handoff.wifiConfigSendCount = _ by omega⟩
  · simp only [if_neg hcap]
    exact ⟨rfl, show s.handoff.wifiConfigSendCount + 1 = _ by omega⟩

/-- The other messages leave the budget alone. -/
theorem ctrl_sameBudget (cfg : Config) (sign : Bytes → Option Bytes) (s : State) {msgId : Nat}
    (params : Nat → UInt8) (plen : Int) (hreq : msgId ≠ 0x5702) (hnotify : msgId ≠ 0x4E0E) :
    SameBudget s.handoff (handleCtrlMsg cfg sign s msgId params plen).1.handoff := by
  unfold handleCtrlMsg
  split
  · unfold sendAuthCert
    split
    · exact ⟨rfl, rfl⟩
    · exact ⟨rfl, rfl⟩
  split
  · unfold requestAuthChallenge sendAuthResponse
    split
    · split
      · exact ⟨rfl, rfl⟩
      · exact ⟨rfl, rfl⟩
    · exact ⟨rfl, rfl⟩
  split
  · exact SameBudget.watchdog ⟨rfl, rfl⟩
  split
  · exact ⟨rfl, rfl⟩
  split
  · exact ⟨rfl, rfl⟩
  split
  · exact SameBudget.watchdog ⟨rfl, rfl⟩
  split
  · exact ⟨rfl, rfl⟩
  · exact ⟨rfl, rfl⟩

/-- **One message** that is no notification. -/
theorem ctrl_preTransport {n : Nat} (cfg : Config) (sign : Bytes → Option Bytes) {s : State} {msgId : Nat}
    (params : Nat → UInt8) (plen : Int) (hp : PreTransport n s.handoff) (hid : msgId ≠ 0x4E0E) :
    PreTransport (n + if msgId = 0x5702 then 1 else 0) (handleCtrlMsg cfg sign s msgId params plen).1.handoff := by
  by_cases hreq : msgId = 0x5702
  · subst hreq
    exact request_preTransport cfg hp
  · rw [if_neg hreq]
    exact (ctrl_sameBudget cfg sign s params plen hreq hid).preTransport hp

/-- The watchdog sends nothing and marks nothing. -/
theorem watchdog_silent (s : State) :
    (maybeStartHandoffWatchdog s).2.countP Out.isWifiConfig = 0 ∧
      (maybeStartHandoffWatchdog s).1.handoff.wifiConfigSentPostTransport =
        s.handoff.wifiConfigSentPostTransport := by
  unfold maybeStartHandoffWatchdog
  split
  · exact ⟨rfl, rfl⟩
  split
  · exact ⟨rfl, rfl⟩
  · exact ⟨rfl, rfl⟩

/-- **The notification** sends while there is some of the budget left, and marks that it has. -/
theorem notification_sends_iff {n : Nat} (cfg : Config) {s : State} (hp : PreTransport n s.handoff) :
    (0 < (deviceTransportIdentifierNotification cfg s).2.countP Out.isWifiConfig ∧
      (deviceTransportIdentifierNotification cfg s).1.handoff.wifiConfigSentPostTransport = true) ↔ n < 5 := by
  have hcount := hp.sendCount
  unfold deviceTransportIdentifierNotification
  dsimp only
  cases hsend : sendAccessoryWifiConfig cfg
      { s with handoff := { s.handoff with transportNotificationSeen := true } } with
  | none =>
      have hcap : 5 ≤ s.handoff.wifiConfigSendCount := by
        by_contra hroom
        unfold sendAccessoryWifiConfig wifiConfigMaxSends at hsend
        rw [if_neg hroom] at hsend
        cases hsend
      exact ⟨fun h => absurd h.1 (Nat.lt_irrefl 0), fun h => by omega⟩
  | some r =>
      obtain ⟨s', sent⟩ := r
      obtain ⟨hcap, hone, -, -⟩ := sendAccessoryWifiConfig_some hsend
      have hroom : s.handoff.wifiConfigSendCount < 5 := hcap
      have hwatch := watchdog_silent { s' with handoff := { s'.handoff with wifiConfigSentPostTransport := true } }
      dsimp only
      rw [List.countP_append, hone, hwatch.1, hwatch.2]
      exact ⟨fun _ => by omega, fun _ => ⟨Nat.one_pos, rfl⟩⟩

/-! ## One step -/

/-- A call of `handle_ctrl_msg` is not reported again by what it does. -/
theorem Answers.countP_isMessage {s : State} {r : State × List Out} (h : Answers s r) (msgId : Nat) :
    r.2.countP (Out.isMessage msgId) = 0 := by
  apply List.countP_eq_zero.mpr
  intro o ho
  rcases h.outs o ho with ⟨_, _, _, rfl⟩ | ⟨_, rfl⟩
  · exact Bool.false_ne_true
  · exact Bool.false_ne_true

theorem countP_isMessage_plain {outs : List Out} (h : ∀ o ∈ outs, o.plain) (msgId : Nat) :
    outs.countP (Out.isMessage msgId) = 0 := by
  apply List.countP_eq_zero.mpr
  intro o ho
  have hplain := h o ho
  cases o with
  | dispatch => cases hplain
  | control => cases hplain
  | watchdog => cases hplain
  | rfcomm => exact Bool.false_ne_true
  | alarm => exact Bool.false_ne_true
  | cmd => exact Bool.false_ne_true
  | ready => exact Bool.false_ne_true

/-- A step handles one control message, or none and then it leaves the hand-off alone. -/
theorem handleData_message (cfg : Config) (s : State) (pkt : Bytes) (e : Env) :
    (∃ s₀ m params, s₀.handoff = s.handoff ∧
        (handleData cfg s pkt e).1 = (handleCtrlMsg cfg e.sign s₀ m.msgId params m.plen).1 ∧
        ∃ acked, (handleData cfg s pkt e).2 = .rfcomm s.activeCid acked :: .dispatch m ::
          (handleCtrlMsg cfg e.sign s₀ m.msgId params m.plen).2) ∨
      ((handleData cfg s pkt e).1.handoff = s.handoff ∧ ∀ o ∈ (handleData cfg s pkt e).2, o.plain) := by
  rw [handleData_kind]
  dsimp only
  cases dataKind s.link pkt e.behind with
  | detectEcho => exact .inr ⟨rfl, by simp [Out.plain]⟩
  | rst => exact .inr ⟨rfl, by simp [Out.plain]⟩
  | synAck => exact .inr ⟨rfl, by simp [Out.plain]⟩
  | synAckOther => exact .inr ⟨rfl, by simp⟩
  | data => exact .inr ⟨rfl, by simp [Out.plain]⟩
  | bare => exact .inr ⟨rfl, by simp⟩
  | ignored => exact .inr ⟨rfl, by simp⟩
  | control =>
      exact .inl ⟨{ s with link := { s.link with peerPsn := memByte pkt e.behind 5 } },
        ctrlMsgAt (memByte pkt e.behind), fun i => memByte pkt e.behind (15 + i), rfl, rfl, _, rfl⟩

/-- What a control message counts for. -/
theorem countP_message {cid : UInt16} {acked : Bytes} {m : CtrlMsg} {s₀ : State} {r : State × List Out}
    (h : Answers s₀ r) (msgId : Nat) :
    (.rfcomm cid acked :: .dispatch m :: r.2).countP (Out.isMessage msgId) = if m.msgId = msgId then 1 else 0 := by
  rw [List.countP_cons, List.countP_cons, h.countP_isMessage msgId]
  simp [Out.isMessage]

/-- Output without a message leaves the state as it is before the notification. -/
theorem preTransport_plain {n : Nat} {g g' : Handoff} {outs : List Out} (hg : g' = g) (hplain : ∀ o ∈ outs, o.plain)
    (hp : PreTransport n g) : PreTransport (n + outs.countP (Out.isMessage 0x5702)) g' := by
  rw [countP_isMessage_plain hplain, hg]
  exact hp

/-- A data packet that brings no notification. -/
theorem handleData_preTransport {n : Nat} {cfg : Config} {s : State} {pkt : Bytes} {e : Env}
    (hp : PreTransport n s.handoff) (hno : (handleData cfg s pkt e).2.countP (Out.isMessage 0x4E0E) = 0) :
    PreTransport (n + (handleData cfg s pkt e).2.countP (Out.isMessage 0x5702))
      (handleData cfg s pkt e).1.handoff := by
  rcases handleData_message cfg s pkt e with ⟨s₀, m, params, hg, hstate, acked, houts⟩ | ⟨hg, hplain⟩
  · have hanswers := handleCtrlMsg_answers cfg e.sign s₀ m.msgId params m.plen
    rw [houts, countP_message hanswers] at hno ⊢
    have hid : m.msgId ≠ 0x4E0E := by
      intro heq
      rw [if_pos heq] at hno
      cases hno
    rw [hstate]
    rw [← hg] at hp
    exact ctrl_preTransport cfg e.sign params m.plen hp hid
  · exact preTransport_plain hg hplain hp

/-- **One step**: a new generation begins, or the requests are counted. -/
theorem effect_preTransport {cfg : Config} {s s' : State} {ev : Event} {outs : List Out}
    (h : Effect cfg s ev s' outs) (hev : ¬ ev.Resets) {n : Nat} (hp : PreTransport n s.handoff)
    (hno : outs.countP (Out.isMessage 0x4E0E) = 0) :
    PreTransport (n + outs.countP (Out.isMessage 0x5702)) s'.handoff := by
  cases h with
  | kept hkept hquiet => exact preTransport_plain hkept.handoff (fun o ho => Out.plain_of_quiet (hquiet o ho)) hp
  | data => exact handleData_preTransport hp hno
  | connected => exact preTransport_plain rfl (by simp) hp
  | opened hcode hstatus => exact absurd (Event.resets_packet.mpr ⟨rfl, .inl ⟨hcode, hstatus⟩⟩) hev
  | closed hcode => exact absurd (Event.resets_packet.mpr ⟨rfl, .inr (.inl hcode)⟩) hev
  | disconnected hcode => exact absurd (Event.resets_packet.mpr ⟨rfl, .inr (.inr hcode)⟩) hev

/-- A notification comes in a data packet. -/
theorem effect_notification {cfg : Config} {s s' : State} {ev : Event} {outs : List Out}
    (h : Effect cfg s ev s' outs) (hnotify : 0 < outs.countP (Out.isMessage 0x4E0E)) :
    ∃ s₀ acked m, s₀.handoff = s.handoff ∧ s' = (deviceTransportIdentifierNotification cfg s₀).1 ∧
      outs = .rfcomm s.activeCid acked :: .dispatch m :: (deviceTransportIdentifierNotification cfg s₀).2 := by
  have hplain : ¬ ∀ o ∈ outs, o.plain := by
    intro hplain
    rw [countP_isMessage_plain hplain] at hnotify
    exact Nat.lt_irrefl 0 hnotify
  cases h with
  | kept _ hquiet => exact absurd (fun o ho => Out.plain_of_quiet (hquiet o ho)) hplain
  | @data ch pkt e =>
      rcases handleData_message cfg s pkt e with ⟨s₀, m, params, hg, hstate, acked, houts⟩ | ⟨-, hnone⟩
      · have hanswers := handleCtrlMsg_answers cfg e.sign s₀ m.msgId params m.plen
        rw [houts, countP_message hanswers] at hnotify
        have hid : m.msgId = 0x4E0E := by
          by_contra hne
          rw [if_neg hne] at hnotify
          exact Nat.lt_irrefl 0 hnotify
        rw [hid] at hstate houts
        exact ⟨s₀, acked, m, hg, hstate, houts⟩
      · exact absurd hnone hplain
  | connected => exact absurd (by simp) hplain
  | opened => exact absurd (fun o ho => Out.plain_of_quiet ((rfcommOpened_spec s _).2 o ho)) hplain
  | closed => exact absurd (by simp [Out.plain]) hplain
  | disconnected => exact absurd (by simp) hplain

/-! ## Runs

The steps of a generation are counted from its reset. Up to the first notification the budget is a function of the
number of requests, so the state in front of the notification decides what it does. -/

/-- Before the first notification of a generation, the state counts its requests. -/
theorem preTransport_run {cfg : Config} {h : List (Step State Event)} {s : State} (hr : Run cfg h s)
    (hno : (generationOuts cfg h).countP (Out.isMessage 0x4E0E) = 0) :
    PreTransport ((generationOuts cfg h).countP (Out.isMessage 0x5702)) s.handoff := by
  induction hr with
  | nil => exact ⟨rfl, rfl⟩
  | @snoc h s s' ev hr hstep ih =>
      have heffect := Run.effect (hr.snoc hstep) (x := ⟨s, ev, s'⟩) (by simp)
      unfold generationOuts at hno ⊢
      by_cases hresets : ev.Resets
      · rw [sinceReset_reset hresets]
        rcases effect_handoff heffect with ⟨-, hg, -⟩ | ⟨hother, -⟩
        · dsimp only at hg
          rw [hg]
          exact ⟨rfl, rfl⟩
        · exact absurd hresets hother
      · rw [sinceReset_other hresets, List.flatMap_append, List.countP_append, List.flatMap_singleton] at hno ⊢
        exact effect_preTransport heffect hresets (ih (by unfold generationOuts; omega)) (by omega)

/-- **The first notification of a generation.** In every run, the step that handles it sends a `0x5703` and marks
that it has just when fewer than five requests came before it in the generation. -/
theorem post_transport_sent_iff {cfg : Config} {h : List (Step State Event)} {s s' : State} {ev : Event}
    {outs : List Out} (hr : Run cfg h s) (hstep : step cfg s ev = some (s', outs))
    (hnotify : 0 < outs.countP (Out.isMessage 0x4E0E))
    (hfirst : (generationOuts cfg h).countP (Out.isMessage 0x4E0E) = 0) :
    (0 < outs.countP Out.isWifiConfig ∧ s'.handoff.wifiConfigSentPostTransport = true) ↔
      (generationOuts cfg h).countP (Out.isMessage 0x5702) < 5 := by
  have hp := preTransport_run hr hfirst
  obtain ⟨s₀, acked, m, hg, rfl, rfl⟩ := effect_notification (step_effect hstep) hnotify
  rw [← hg] at hp
  have hcount : (.rfcomm s.activeCid acked :: .dispatch m ::
      (deviceTransportIdentifierNotification cfg s₀).2).countP Out.isWifiConfig =
        (deviceTransportIdentifierNotification cfg s₀).2.countP Out.isWifiConfig := by
    rw [List.countP_cons, List.countP_cons]
    rfl
  rw [hcount]
  exact notification_sends_iff cfg hp

/-! ## Two sessions -/

/-- The link is up, and the phone has asked `n` times. -/
def requested (n : Nat) : List Event :=
  Session.linkUp 0x41 ++ List.replicate n (Session.data 0x41 (Session.message 0x21 0x5702 []).wire)

/-- The transport notification. -/
def notification : Event := Session.data 0x41 (Session.message 0x22 0x4E0E []).wire

/-- What the two theorems below look at in a session: the messages so far, and what the notification does. -/
def notified (n : Nat) : Option ((Nat × Nat) × Option (Nat × Nat)) :=
  (runEvents Session.config (requested n)).map fun r =>
    (((generationOuts Session.config r.1).countP (Out.isMessage 0x4E0E),
      (generationOuts Session.config r.1).countP (Out.isMessage 0x5702)),
      (step Session.config r.2 notification).map fun r' =>
        (r'.2.countP (Out.isMessage 0x4E0E), r'.2.countP Out.isWifiConfig))

/-- Such a session as a run. -/
theorem notified_run {n : Nat} {before after : Nat × Nat} (h : notified n = some (before, some after)) :
    ∃ l s s' outs, Run Session.config l s ∧ step Session.config s notification = some (s', outs) ∧
      ((generationOuts Session.config l).countP (Out.isMessage 0x4E0E),
        (generationOuts Session.config l).countP (Out.isMessage 0x5702)) = before ∧
      (outs.countP (Out.isMessage 0x4E0E), outs.countP Out.isWifiConfig) = after := by
  obtain ⟨r, hr, heq⟩ := Option.map_eq_some_iff.mp h
  obtain ⟨hbefore, hafter⟩ := Prod.mk.inj heq
  obtain ⟨r', hr', heq'⟩ := Option.map_eq_some_iff.mp hafter
  exact ⟨r.1, r.2, r'.1, r'.2, runEvents_run hr, hr', hbefore, heq'⟩

/-- Behind one request the notification sends. -/
theorem post_transport_session :
    ∃ h s s' outs, Run Session.config h s ∧ step Session.config s notification = some (s', outs) ∧
      0 < outs.countP Out.isWifiConfig ∧ s'.handoff.wifiConfigSentPostTransport = true := by
  obtain ⟨h, s, s', outs, hr, hstep, hbefore, hafter⟩ :=
    notified_run (show notified 1 = some ((0, 1), some (1, 1)) by decide)
  obtain ⟨hfirst, hreq⟩ := Prod.mk.inj hbefore
  obtain ⟨hnotify, -⟩ := Prod.mk.inj hafter
  exact ⟨h, s, s', outs, hr, hstep,
    (post_transport_sent_iff hr hstep (by omega) hfirst).mpr (by omega)⟩

/-- Behind five requests the notification does not send. -/
theorem post_transport_not_sent :
    ¬ ∀ (cfg : Config) (h : List (Step State Event)) (s s' : State) (ev : Event) (outs : List Out), Run cfg h s →
      step cfg s ev = some (s', outs) → 0 < outs.countP (Out.isMessage 0x4E0E) →
      (generationOuts cfg h).countP (Out.isMessage 0x4E0E) = 0 →
      0 < outs.countP Out.isWifiConfig ∧ s'.handoff.wifiConfigSentPostTransport = true := by
  intro hall
  obtain ⟨h, s, s', outs, hr, hstep, hbefore, hafter⟩ :=
    notified_run (show notified 5 = some ((0, 5), some (1, 0)) by decide)
  obtain ⟨hfirst, -⟩ := Prod.mk.inj hbefore
  obtain ⟨hnotify, hnone⟩ := Prod.mk.inj hafter
  have hsent := (hall _ h s s' notification outs hr hstep (by omega) hfirst).1
  omega

end Showcase.Bt
