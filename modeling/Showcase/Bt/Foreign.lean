import Showcase.Bt.Handoff

/-!
# `Bt.Foreign` — what other channels and connections do to the session

The session in the globals belongs to one channel, `active_cid`, and one connection, `acl_handle`. The handler is
called for all others as well, and none of its branches looks whom its event is about.

* `Foreign` — data and the close of another channel, the loss of another connection or a failed disconnect, and the
  open of a second channel.
* `Inert`, `Harmless` — the messages and packets that would change nothing if they came on the open channel.
* `foreign_unchanged_iff` — only these leave the session as it is; a close, a disconnect and an open never do.
-/

namespace Showcase.Bt

open Lib

/-- An event that is not about the session: the cid of a close is at `pkt[2]`, the handle of a disconnect at
    `pkt[3]`, behind its status. -/
def Foreign (s : State) : Event → Prop
  | .packet type ch pkt e =>
      let byte := memByte pkt e.behind
      (type = 7 ∧ ch ≠ s.activeCid) ∨ (type = 4 ∧ byte 0 = 0x81 ∧ r16 byte 2 ≠ s.activeCid) ∨
        (type = 4 ∧ byte 0 = 0x05 ∧ (byte 2 ≠ 0 ∨ r16 byte 3 ≠ s.aclHandle)) ∨
        (type = 4 ∧ byte 0 = 0x80 ∧ byte 2 = 0 ∧ s.activeCid ≠ 0)
  | .alarm => False

instance (s : State) : DecidablePred (Foreign s) := fun ev =>
  match ev with
  | .packet _ _ _ _ => inferInstanceAs (Decidable (_ ∨ _))
  | .alarm => inferInstanceAs (Decidable False)

/-! ## Messages

Each function below `handle_ctrl_msg` is idle exactly when it sends nothing and finds its flags as it would set them;
a message that is sent takes a number, which nothing gives back. -/

/-- A message that is not answered and brings nothing new. -/
def Inert (cfg : Config) (sign : Bytes → Option Bytes) (s : State) (msgId : Nat) (params : Nat → UInt8)
    (plen : Int) : Prop :=
  if msgId = 0xAA00 then cfg.baaReady = false
  else if msgId = 0xAA02 then (authChallenge params plen).bind sign = none
  else if msgId = 0xAA05 then s.handoff.mfiAuthSucceeded = true
  else if msgId ∈ [0x1D00, 0x1D02, 0x5702] then False
  else if msgId = 0x4E0D then s.handoff.wirelessCarplayConnectingSeen = true ∨ connectingIn params plen = false
  else if msgId = 0x4E0E then
    s.handoff.transportNotificationSeen = true ∧ wifiConfigMaxSends ≤ s.handoff.wifiConfigSendCount
  else msgId ≠ 0xEA00

/-- The call leaves the link and the hand-off as they are. -/
def Idle (s : State) (r : State × List Out) : Prop := r.1.link = s.link ∧ r.1.handoff = s.handoff

theorem idle_nothing (s : State) : Idle s (s, []) := ⟨rfl, rfl⟩

/-- A message that is sent has a number. -/
theorem sendControlMsg_link_ne (l : LinkState) (msgId : UInt16) (params : Bytes) :
    (sendControlMsg l msgId params).2 ≠ l := by
  intro h
  have hpsn := congrArg LinkState.myNextPsn h
  exact absurd hpsn (by simp [sendControlMsg])

theorem not_idle_sendControl (s : State) (msgId : UInt16) (params : Bytes) :
    ¬ Idle s (sendControl s msgId params) := fun h => sendControlMsg_link_ne s.link msgId params h.1

/-- Where the invariant holds, a look at the watchdog does nothing. -/
theorem watchdog_idle {s : State} {n w : Nat} (hi : HandoffInv n w s.handoff) :
    maybeStartHandoffWatchdog s = (s, []) := by
  unfold maybeStartHandoffWatchdog
  split
  next => rfl
  next harmed =>
  split
  next hstuck => exact absurd (hi.watched hstuck) harmed
  next => rfl

/-- The watchdog's test writes no flag but its own. -/
theorem watchdog_flags (s : State) :
    (maybeStartHandoffWatchdog s).1.handoff =
      { s.handoff with handoffWatchdogArmed := (maybeStartHandoffWatchdog s).1.handoff.handoffWatchdogArmed } := by
  unfold maybeStartHandoffWatchdog
  split
  · rfl
  split
  · rfl
  · rfl

section

variable {s : State} {n w : Nat} (hi : HandoffInv n w s.handoff)

include hi

theorem idle_authenticationSucceeded :
    Idle s (authenticationSucceeded s) ↔ s.handoff.mfiAuthSucceeded = true := by
  unfold authenticationSucceeded
  constructor
  · intro h
    have hmfi := congrArg Handoff.mfiAuthSucceeded h.2
    rw [watchdog_flags] at hmfi
    exact hmfi.symm
  · intro hmfi
    have hsame : { s with handoff := { s.handoff with mfiAuthSucceeded := true } } = s := by rw [← hmfi]
    rw [hsame, watchdog_idle hi]
    exact idle_nothing s

theorem idle_wirelessCarPlayUpdate (params : Nat → UInt8) (plen : Int) :
    Idle s (wirelessCarPlayUpdate s params plen) ↔
      s.handoff.wirelessCarplayConnectingSeen = true ∨ connectingIn params plen = false := by
  unfold wirelessCarPlayUpdate
  constructor
  · intro h
    have hconnecting := congrArg Handoff.wirelessCarplayConnectingSeen h.2
    rw [watchdog_flags] at hconnecting
    dsimp only at hconnecting
    cases hin : connectingIn params plen with
    | false => exact .inr rfl
    | true =>
        rw [hin, Bool.or_true] at hconnecting
        exact .inl hconnecting.symm
  · intro hseen
    have hor : (s.handoff.wirelessCarplayConnectingSeen || connectingIn params plen) =
        s.handoff.wirelessCarplayConnectingSeen := by
      rcases hseen with hseen | hin
      · rw [hseen, Bool.true_or]
      · rw [hin, Bool.or_false]
    rw [hor, watchdog_idle hi]
    exact idle_nothing s

omit hi in
/-- A request is counted. -/
theorem not_idle_requestAccessoryWiFiConfigInfo (cfg : Config) :
    ¬ Idle s (requestAccessoryWiFiConfigInfo cfg s) := by
  have hcount : (requestAccessoryWiFiConfigInfo cfg s).1.handoff.wifiConfigRequestCount =
      s.handoff.wifiConfigRequestCount + 1 := by
    unfold requestAccessoryWiFiConfigInfo
    dsimp only
    split
    · split
      next hsend =>
        rw [watchdog_flags, (sendAccessoryWifiConfig_some hsend).2.2.2]
      next => rfl
    · split
      next hsend => rw [(sendAccessoryWifiConfig_some hsend).2.2.2]
      next => rfl
  intro h
  rw [h.2] at hcount
  omega

omit hi in
theorem idle_deviceTransportIdentifierNotification (cfg : Config) :
    Idle s (deviceTransportIdentifierNotification cfg s) ↔
      s.handoff.transportNotificationSeen = true ∧ wifiConfigMaxSends ≤ s.handoff.wifiConfigSendCount := by
  unfold deviceTransportIdentifierNotification
  dsimp only
  split
  next s' sent hsend =>
    have hcap := (sendAccessoryWifiConfig_some hsend).1
    constructor
    · intro h
      -- 0x5703 has gone out, so the next number is another
      have hlink := h.1
      dsimp only at hlink
      rw [(watchdog_spec _).1] at hlink
      unfold sendAccessoryWifiConfig at hsend
      split at hsend
      · cases hsend
      · obtain ⟨rfl, rfl⟩ := Prod.mk.inj (Option.some.inj hsend)
        exact absurd hlink (sendControlMsg_link_ne s.link 0x5703 (wifiConfig cfg))
    · rintro ⟨-, hfull⟩
      exact absurd hfull (Nat.not_le.mpr hcap)
  next hfull =>
    have hcap : wifiConfigMaxSends ≤ s.handoff.wifiConfigSendCount := by
      unfold sendAccessoryWifiConfig at hfull
      split at hfull
      next hcap => exact hcap
      next => cases hfull
    constructor
    · intro h
      exact ⟨(congrArg Handoff.transportNotificationSeen h.2).symm, hcap⟩
    · rintro ⟨hseen, -⟩
      refine ⟨rfl, ?_⟩
      dsimp only
      rw [← hseen]

/-- **The messages that change nothing** are the inert ones. -/
theorem idle_handleCtrlMsg (cfg : Config) (sign : Bytes → Option Bytes) (msgId : Nat) (params : Nat → UInt8)
    (plen : Int) : Idle s (handleCtrlMsg cfg sign s msgId params plen) ↔ Inert cfg sign s msgId params plen := by
  unfold handleCtrlMsg Inert
  by_cases hAA00 : msgId = 0xAA00
  · rw [if_pos hAA00, if_pos hAA00]
    unfold sendAuthCert
    split
    next hready => exact ⟨fun h => absurd h (not_idle_sendControl s _ _), fun h => by rw [hready] at h; cases h⟩
    next hready => exact ⟨fun _ => Bool.eq_false_iff.mpr hready, fun _ => idle_nothing s⟩
  rw [if_neg hAA00, if_neg hAA00]
  by_cases hAA02 : msgId = 0xAA02
  · rw [if_pos hAA02, if_pos hAA02]
    unfold requestAuthChallenge
    cases authChallenge params plen with
    | none => exact ⟨fun _ => rfl, fun _ => idle_nothing s⟩
    | some chal =>
        dsimp only
        rw [Option.bind_some]
        unfold sendAuthResponse
        cases sign chal with
        | none => exact ⟨fun _ => rfl, fun _ => idle_nothing s⟩
        | some sig => exact ⟨fun h => absurd h (not_idle_sendControl s _ _), fun h => by cases h⟩
  rw [if_neg hAA02, if_neg hAA02]
  by_cases hAA05 : msgId = 0xAA05
  · rw [if_pos hAA05, if_pos hAA05]
    exact idle_authenticationSucceeded hi
  rw [if_neg hAA05, if_neg hAA05]
  by_cases h1D00 : msgId = 0x1D00
  · rw [if_pos h1D00, if_pos (by simp [h1D00])]
    exact ⟨not_idle_sendControl s _ _, False.elim⟩
  rw [if_neg h1D00]
  by_cases h1D02 : msgId = 0x1D02
  · rw [if_pos h1D02, if_pos (by simp [h1D02])]
    exact ⟨not_idle_sendControl s _ _, False.elim⟩
  rw [if_neg h1D02]
  by_cases h5702 : msgId = 0x5702
  · rw [if_pos h5702, if_pos (by simp [h5702])]
    exact ⟨not_idle_requestAccessoryWiFiConfigInfo cfg, False.elim⟩
  have hother : msgId ∉ [0x1D00, 0x1D02, 0x5702] := by simp [h1D00, h1D02, h5702]
  rw [if_neg h5702, if_neg hother]
  by_cases h4E0D : msgId = 0x4E0D
  · rw [if_pos h4E0D, if_pos h4E0D]
    exact idle_wirelessCarPlayUpdate hi params plen
  rw [if_neg h4E0D, if_neg h4E0D]
  by_cases h4E0E : msgId = 0x4E0E
  · rw [if_pos h4E0E, if_pos h4E0E]
    exact idle_deviceTransportIdentifierNotification cfg
  rw [if_neg h4E0E, if_neg h4E0E]
  by_cases hEA00 : msgId = 0xEA00
  · rw [if_pos hEA00]
    exact ⟨fun h => absurd h (not_idle_sendControl s _ _), fun h => absurd hEA00 h⟩
  · rw [if_neg hEA00]
    exact ⟨fun _ => hEA00, fun _ => idle_nothing s⟩

end

/-! ## Packets -/

/-- A packet that changes nothing, by its kind: it repeats the number of the last packet and its message is inert,
    or it is an RST while the link is down for which `rand()` gives the number we already have. -/
def DataKind.Harmless (cfg : Config) (s : State) (pkt : Bytes) (e : Env) : DataKind → Prop
  | .detectEcho | .synAck => False
  | .rst => newPsn { s.link with linkEstablished := false } e.rand = s.link
  | .control =>
      let byte := memByte pkt e.behind
      byte 5 = s.link.peerPsn ∧
        Inert cfg e.sign s (ctrlMsgAt byte).msgId (fun i => byte (15 + i)) (ctrlMsgAt byte).plen
  | .synAckOther | .data | .bare => memByte pkt e.behind 5 = s.link.peerPsn
  | .ignored => True

/-- An event that is not about the session and changes nothing. -/
def Harmless (cfg : Config) (s : State) : Event → Prop
  | .packet type _ pkt e => type = 7 ∧ (dataKind s.link pkt e.behind).Harmless cfg s pkt e
  | .alarm => True

/-- Only the number of the last packet is written. -/
theorem peerPsn_idle {s : State} {seq : UInt8} {outs : List Out} :
    Unchanged s ({ s with link := { s.link with peerPsn := seq } }, outs).1 ↔ seq = s.link.peerPsn := by
  constructor
  · exact fun h => congrArg LinkState.peerPsn h.link
  · rintro rfl
    exact .refl s

/-- **A data packet**, on whatever channel. -/
theorem handleData_unchanged {cfg : Config} {s : State} {n w : Nat} (hi : HandoffInv n w s.handoff) (pkt : Bytes)
    (e : Env) :
    Unchanged s (handleData cfg s pkt e).1 ↔ (dataKind s.link pkt e.behind).Harmless cfg s pkt e := by
  have hmeans := dataKind_means s.link pkt e.behind
  rw [handleData_kind]
  dsimp only
  cases hkind : dataKind s.link pkt e.behind with
  | detectEcho =>
      rw [hkind] at hmeans
      refine ⟨fun h => ?_, False.elim⟩
      have hdetected := congrArg LinkState.iap2Detected h.link
      rw [hmeans.2] at hdetected
      cases hdetected
  | rst => exact ⟨fun h => h.link, fun h => ⟨rfl, rfl, rfl, h, rfl⟩⟩
  | synAck =>
      rw [hkind] at hmeans
      refine ⟨fun h => ?_, False.elim⟩
      have hup := congrArg LinkState.linkEstablished h.link
      rw [hmeans.2.2.1] at hup
      cases hup
  | synAckOther => exact peerPsn_idle
  | data => exact peerPsn_idle
  | bare => exact peerPsn_idle
  | ignored => exact ⟨fun _ => trivial, fun _ => .refl s⟩
  | control =>
      have ha := dispatchData_answers cfg s pkt e
      have hseq : (dispatchData cfg s pkt e).1.link.peerPsn = memByte pkt e.behind 5 := by rw [ha.rest]
      have hidle : memByte pkt e.behind 5 = s.link.peerPsn →
          (Idle s (dispatchData cfg s pkt e) ↔
            Inert cfg e.sign s (ctrlMsgAt (memByte pkt e.behind)).msgId (fun i => memByte pkt e.behind (15 + i))
              (ctrlMsgAt (memByte pkt e.behind)).plen) := by
        intro hpeer
        have hsame : { s with link := { s.link with peerPsn := memByte pkt e.behind 5 } } = s := by rw [hpeer]
        unfold dispatchData
        dsimp only
        rw [hsame]
        exact idle_handleCtrlMsg hi cfg e.sign _ _ _
      constructor
      · intro h
        have hpeer : memByte pkt e.behind 5 = s.link.peerPsn := by
          rw [← hseq]
          exact congrArg LinkState.peerPsn h.link
        exact ⟨hpeer, (hidle hpeer).mp ⟨h.link, h.handoff⟩⟩
      · rintro ⟨hpeer, hinert⟩
        obtain ⟨hlink, hhandoff⟩ := (hidle hpeer).mpr hinert
        have hrest := ha.rest
        exact ⟨by rw [hrest], by rw [hrest], by rw [hrest], hlink, hhandoff⟩

/-! ## Runs -/

/-- A reset begins a new generation. -/
theorem not_unchanged_of_fresh {s s' : State} (h : s'.handoff = .fresh (s.handoff.handoffGeneration + 1)) :
    ¬ Unchanged s s' := by
  intro hu
  have hgeneration := congrArg Handoff.handoffGeneration (h.symm.trans hu.handoff)
  exact absurd hgeneration (by simp [Handoff.fresh])

/-- **What is not about the session** leaves it as it is exactly when it is harmless: of the data on other channels
    only what would change nothing on the open channel either, and of the other events none. -/
theorem foreign_unchanged_iff (cfg : Config) {h : List (Step State Event)} {s : State} (hr : Run cfg h s)
    {x : Step State Event} (hx : x ∈ h) (hforeign : Foreign x.pre x.input) :
    Unchanged x.pre x.post ↔ Harmless cfg x.pre x.input := by
  obtain ⟨pre, post, hh⟩ := List.append_of_mem hx
  have hi := handoff_run (hr.split hh).1
  have heffect := Run.effect hr hx
  generalize outsOf cfg x = outs at heffect
  obtain ⟨s₀, ev, s'⟩ := x
  dsimp only at hi heffect hforeign ⊢
  have hnever : ∀ {ch pkt e}, s'.handoff = .fresh (s₀.handoff.handoffGeneration + 1) →
      (Unchanged s₀ s' ↔ Harmless cfg s₀ (.packet 4 ch pkt e)) := fun hfresh =>
    ⟨fun hu => absurd hu (not_unchanged_of_fresh hfresh), fun hharmless => absurd hharmless.1 (by decide)⟩
  cases heffect with
  | kept hkept hquiet hresets hdata =>
      -- such an event is none of the foreign ones
      cases ev with
      | alarm => exact absurd hforeign not_false
      | packet type ch pkt e =>
          rw [Event.resets_packet] at hresets
          rcases hforeign with ⟨htype, -⟩ | ⟨htype, hcode, -⟩ | ⟨htype, hcode, -⟩ | ⟨htype, hcode, hstatus, -⟩
          · exact absurd htype hdata
          · exact absurd ⟨htype, .inr (.inl hcode)⟩ hresets
          · exact absurd ⟨htype, .inr (.inr hcode)⟩ hresets
          · exact absurd ⟨htype, .inl ⟨hcode, hstatus⟩⟩ hresets
  | data =>
      rw [handleData_unchanged hi]
      exact ⟨fun hharmless => ⟨rfl, hharmless⟩, fun hharmless => hharmless.2⟩
  | connected hcode =>
      rcases hforeign with ⟨htype, -⟩ | ⟨-, hother, -⟩ | ⟨-, hother, -⟩ | ⟨-, hother, -⟩
      · exact absurd htype (by decide)
      · exact absurd (hcode.symm.trans hother) (by decide)
      · exact absurd (hcode.symm.trans hother) (by decide)
      · exact absurd (hcode.symm.trans hother) (by decide)
  | opened =>
      obtain ⟨hstate, -⟩ := rfcommOpened_spec s₀ (memByte _ _)
      exact hnever (by rw [hstate])
  | closed => exact hnever rfl
  | disconnected => exact hnever rfl

/-- Data on another channel that is no link packet. -/
theorem foreign_ignored :
    ∃ h s, Run Session.config h s ∧ ∃ x ∈ h, Foreign x.pre x.input ∧ Unchanged x.pre x.post := by
  have hexec : (runEvents Session.config (Session.linkUp 0x41 ++ [Session.data 0x42 [0]])).map
      (fun r => r.1.getLast?.map fun x => decide (x.pre.link.linkEstablished = true ∧ Foreign x.pre x.input)) =
        some (some true) := by decide
  obtain ⟨r, hr, hlast⟩ := Option.map_eq_some_iff.mp hexec
  obtain ⟨x, hx, htest⟩ := Option.map_eq_some_iff.mp hlast
  obtain ⟨-, hforeign⟩ := of_decide_eq_true htest
  have hmem := List.mem_of_getLast? hx
  have hinput : x.input = Session.data 0x42 [0] := by
    have hinputs := congrArg List.getLast? (exec_inputs hr)
    rw [List.getLast?_map, hx] at hinputs
    exact Option.some.inj hinputs
  refine ⟨r.1, r.2, runEvents_run hr, x, hmem, hforeign, ?_⟩
  apply (foreign_unchanged_iff _ (runEvents_run hr) hmem hforeign).mpr
  rw [hinput]
  refine ⟨rfl, ?_⟩
  have hkind : ∀ link, dataKind link [0] Session.env.behind = .ignored := by
    intro link
    unfold dataKind
    dsimp only
    rw [if_neg fun h => absurd h.1 (by decide), if_neg (by decide)]
  rw [hkind]
  exact trivial

/-- The close of another channel ends the session. -/
theorem foreign_close :
    ¬ ∀ cfg h s, Run cfg h s → ∀ x ∈ h, Foreign x.pre x.input → Unchanged x.pre x.post := by
  intro hall
  have hexec : (runEvents Session.config [Session.opened 0x41, .packet 4 0 [0x81, 2, 0x42, 0] Session.env]).map
      (fun r => r.1.getLast?.map fun x =>
        (decide (Foreign x.pre x.input), x.pre.activeCid, x.post.activeCid)) = some (some (true, 0x41, 0)) := by decide
  obtain ⟨r, hr, hlast⟩ := Option.map_eq_some_iff.mp hexec
  obtain ⟨x, hx, htest⟩ := Option.map_eq_some_iff.mp hlast
  obtain ⟨hforeign, hcids⟩ := Prod.mk.inj htest
  obtain ⟨hpre, hpost⟩ := Prod.mk.inj hcids
  have hunchanged := hall _ r.1 r.2 (runEvents_run hr) x (List.mem_of_getLast? hx) (of_decide_eq_true hforeign)
  have hcid := hunchanged.activeCid
  rw [hpre, hpost] at hcid
  exact absurd hcid (by decide)

end Showcase.Bt
