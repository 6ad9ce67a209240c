import Showcase.Bt.Handler

/-!
# `Bt.Gating` — when messages are acted on

A control message ought to be acted on only while the link is up: a channel has been opened, the phone has repeated
the detect sequence on it and acknowledged our SYN, and since then there was no RST and the channel was not closed.
The handler does not look at `link_established` before it dispatches a message, at `iap2_detected` before it takes
a SYN-ACK, or at the channel of a packet.

* `OpenOn`, `DetectedOn`, `SynOn`, `UpOn` — what the history of a run says about a channel, each `Lib.Since` a step.
* `Gated` — the steps for which the missing tests would have made no difference.
* `link_gated` — in a run of such steps the messages are gated.
-/

namespace Showcase.Bt

open Lib

/-! ## The history of a channel -/

/-- RFCOMM data of a kind; it is given the channel, the packet and its bytes. -/
def Event.DataSuchThat (p : UInt16 → Bytes → (Nat → UInt8) → Prop) : Event → Prop
  | .packet type ch pkt e => type = 7 ∧ p ch pkt (memByte pkt e.behind)
  | .alarm => False

/-- Channel `c` is opened. -/
def Event.Opens (c : UInt16) : Event → Prop
  | .packet type ch pkt e => Event.Opened (.packet type ch pkt e) ∧ r16 (memByte pkt e.behind) 12 = c
  | .alarm => False

/-- The detect sequence comes back on `c`. -/
def Event.EchoOn (c : UInt16) : Event → Prop := Event.DataSuchThat fun ch pkt _ => ch = c ∧ isDetectEcho pkt

/-- A SYN-ACK on `c` for the SYN with number `psn`. -/
def Event.SynAckOn (c : UInt16) (psn : UInt8) : Event → Prop :=
  Event.DataSuchThat fun ch pkt byte => ch = c ∧ isLinkPacket byte pkt.length ∧ byte 4 &&& 0xC0 = 0xC0 ∧ byte 6 = psn

/-- An RST, on whatever channel. -/
def Event.IsRst : Event → Prop := Event.DataSuchThat fun _ pkt byte => isLinkPacket byte pkt.length ∧ byte 4 = 0x10

/-- A SYN is sent. -/
def Out.isSyn : Out → Bool
  | .rfcomm _ p => p.getD 4 0 == 0x80
  | _ => false

section

variable (cfg : Config) (c : UInt16)

/-- `c` has been opened, and not closed since. -/
def OpenOn (h : List (Step State Event)) : Prop :=
  Since (fun _ x => x.input.Opens c) (fun x => ¬ x.input.Resets) h

/-- Behind the opening of `c` the detect sequence came back on it, and nothing was reset since. -/
def DetectedOn (h : List (Step State Event)) : Prop :=
  Since (fun pre x => OpenOn c pre ∧ x.input.EchoOn c) (fun x => ¬ x.input.Resets) h

/-- The last SYN we sent went out on `c`, with number `psn`. -/
def SynOn (psn : UInt8) (h : List (Step State Event)) : Prop :=
  Since (fun _ x => ∃ l, .rfcomm c (sendSyn l) ∈ outsOf cfg x ∧ l.myInitialPsn = psn)
    (fun x => ∀ o ∈ outsOf cfg x, ¬ o.isSyn) h

/-- The link on `c` is up: after the detect sequence our last SYN was acknowledged on `c`, and since then there was
    neither an RST nor a close, a loss of the connection or an open. -/
def UpOn (h : List (Step State Event)) : Prop :=
  Since (fun pre x => DetectedOn c pre ∧ ∃ psn, SynOn cfg c psn pre ∧ x.input.SynAckOn c psn)
    (fun x => ¬ x.input.Resets ∧ ¬ x.input.IsRst) h

end

/-! ## The condition -/

/-- A message is dispatched, or one that must not be sent without a link is. -/
def Out.guarded : Out → Bool
  | .dispatch _ => true
  | .control _ msgId _ _ => decide (msgId ∈ [0xAA01, 0xAA03, 0x1D01, 0x5703])
  | _ => false

/-- The tests that the handler leaves out for each kind of packet: data for `handle_ctrl_msg` comes while the link
    is up, a SYN-ACK for our SYN after the detect sequence and on the open channel, and the detect sequence on the
    open channel. -/
def DataKind.Gate (s : State) (ch : UInt16) : DataKind → Prop
  | .control => s.link.linkEstablished = true
  | .synAck => s.link.iap2Detected = true ∧ ch = s.activeCid
  | .detectEcho => ch = s.activeCid ∧ ch ≠ 0
  | _ => True

/-- A step in which these tests would have passed. -/
def Gated (x : Step State Event) : Prop :=
  match x.input with
  | .packet type ch pkt e => type = 7 → (dataKind x.pre.link pkt e.behind).Gate x.pre ch
  | .alarm => True

instance (s : State) (ch : UInt16) (k : DataKind) : Decidable (k.Gate s ch) := by
  cases k <;> unfold DataKind.Gate <;> infer_instance

instance : DecidablePred Gated := fun ⟨pre, input, _⟩ =>
  match input with
  | .packet type ch pkt e => inferInstanceAs (Decidable (type = 7 → (dataKind pre.link pkt e.behind).Gate pre ch))
  | .alarm => inferInstanceAs (Decidable True)

/-! ## The invariant

The globals are taken for claims about the history: a flag that is set says that some step has set it and that none
behind it would clear it. Steps that meet `Gated` keep these claims true; for the other steps they may be wrong. -/

/-- What the globals say about the history. -/
structure LinkInv (cfg : Config) (h : List (Step State Event)) (s : State) : Prop where
  opened : s.activeCid ≠ 0 → OpenOn s.activeCid h
  detected : s.link.iap2Detected = true →
    s.activeCid ≠ 0 ∧ DetectedOn s.activeCid h ∧ SynOn cfg s.activeCid s.link.myInitialPsn h
  up : s.link.linkEstablished = true → s.link.iap2Detected = true ∧ UpOn cfg s.activeCid h

/-- Without a channel the globals say nothing. -/
theorem linkInv_closed (cfg : Config) (h : List (Step State Event)) {s : State} (hcid : s.activeCid = 0)
    (hdetected : s.link.iap2Detected = false) (hup : s.link.linkEstablished = false) : LinkInv cfg h s where
  opened hne := absurd hcid hne
  detected hd := by
    rw [hdetected] at hd
    cases hd
  up hu := by
    rw [hup] at hu
    cases hu

section

variable {cfg : Config} {h : List (Step State Event)} {x : Step State Event}

/-- A step that keeps the channel and the flags, is no reset and no RST, and sends no SYN. -/
theorem LinkInv.keep (hi : LinkInv cfg h x.pre) (hcid : x.post.activeCid = x.pre.activeCid)
    (hdetected : x.post.link.iap2Detected = x.pre.link.iap2Detected)
    (hup : x.post.link.linkEstablished = x.pre.link.linkEstablished)
    (hpsn : x.post.link.myInitialPsn = x.pre.link.myInitialPsn) (hresets : ¬ x.input.Resets)
    (hrst : ¬ x.input.IsRst) (hsyn : ∀ o ∈ outsOf cfg x, ¬ o.isSyn) : LinkInv cfg (h ++ [x]) x.post where
  opened hne := by
    rw [hcid] at hne ⊢
    exact (hi.opened hne).snoc hresets
  detected hd := by
    rw [hdetected] at hd
    obtain ⟨hne, hdet, hsynOn⟩ := hi.detected hd
    rw [hcid, hpsn]
    exact ⟨hne, hdet.snoc hresets, hsynOn.snoc hsyn⟩
  up hu := by
    rw [hup] at hu
    obtain ⟨hd, hupOn⟩ := hi.up hu
    rw [hdetected, hcid]
    exact ⟨hd, hupOn.snoc ⟨hresets, hrst⟩⟩

end

/-- Quiet output holds no SYN. -/
theorem not_isSyn_of_quiet {o : Out} (h : o.quiet) : ¬ o.isSyn := by
  cases o with
  | rfcomm cid p =>
      obtain rfl : p = iap2Detect := by simpa [Out.quiet] using h
      exact show ¬ (iap2Detect.getD 4 0 == 0x80) = true by decide
  | control => exact Bool.false_ne_true
  | dispatch => exact Bool.false_ne_true
  | watchdog => exact Bool.false_ne_true
  | alarm => exact Bool.false_ne_true
  | cmd => exact Bool.false_ne_true
  | ready => exact Bool.false_ne_true

theorem not_isSyn_of_answer {s : State} {r : State × List Out} (ha : Answers s r) {o : Out} (ho : o ∈ r.2) :
    ¬ o.isSyn := by
  rcases ha.outs o ho with ⟨msgId, params, p, rfl⟩ | ⟨generation, rfl⟩
  · exact Bool.false_ne_true
  · exact Bool.false_ne_true

theorem sendAck_not_syn (cid : UInt16) (l : LinkState) : ¬ (Out.rfcomm cid (sendAck l)).isSyn :=
  Bool.false_ne_true

/-- A data packet that is not an RST for the handler is none. -/
theorem not_isRst {s : State} {ch : UInt16} {pkt : Bytes} {e : Env} (h : dataKind s.link pkt e.behind ≠ .rst) :
    ¬ (Event.packet 7 ch pkt e).IsRst := by
  rintro ⟨-, hlink, hrst⟩
  exact h (dataKind_rst hlink hrst)

theorem data_not_resets {ch : UInt16} {pkt : Bytes} {e : Env} : ¬ (Event.packet 7 ch pkt e).Resets :=
  fun h => absurd (Event.resets_packet.mp h).1 (by decide)

/-- **One data packet.** -/
theorem linkInv_data {cfg : Config} {h : List (Step State Event)} {s s' : State} {ch : UInt16} {pkt : Bytes} {e : Env}
    (hi : LinkInv cfg h s) (hgated : Gated ⟨s, .packet 7 ch pkt e, s'⟩)
    (hs' : s' = (handleData cfg s pkt e).1)
    (houts : outsOf cfg ⟨s, .packet 7 ch pkt e, s'⟩ = (handleData cfg s pkt e).2) :
    LinkInv cfg (h ++ [⟨s, .packet 7 ch pkt e, s'⟩]) s' := by
  have hgate := hgated rfl
  have hmeans := dataKind_means s.link pkt e.behind
  rw [handleData_kind] at hs' houts
  dsimp only at hgate hs' houts
  cases hkind : dataKind s.link pkt e.behind with
  | detectEcho =>
      rw [hkind] at hgate hmeans hs' houts
      obtain ⟨hch, hne⟩ := hgate
      obtain ⟨hecho, hdetected⟩ := hmeans
      subst hs'
      have hopen := hi.opened (hch ▸ hne)
      constructor
      · exact fun _ => Since.snoc hopen data_not_resets
      · intro _
        refine ⟨hch ▸ hne, .start ⟨hopen, rfl, hch, hecho⟩, .start ⟨_, ?_, rfl⟩⟩
        rw [houts]
        simp
      · -- the link was not up, since the detect sequence had not come back
        intro hup
        have hdet := (hi.up hup).1
        rw [hdetected] at hdet
        cases hdet
  | rst =>
      rw [hkind] at hs' houts
      subst hs'
      constructor
      · exact fun hne => Since.snoc (hi.opened hne) data_not_resets
      · intro hdet
        obtain ⟨hne, hdetOn, -⟩ := hi.detected hdet
        refine ⟨hne, hdetOn.snoc data_not_resets, .start ⟨_, ?_, rfl⟩⟩
        rw [houts]
        simp
      · intro hup
        cases hup
  | synAck =>
      rw [hkind] at hgate hmeans hs' houts
      obtain ⟨hdet, hch⟩ := hgate
      obtain ⟨hlink, hctrl, -, hack⟩ := hmeans
      obtain ⟨hne, hdetOn, hsynOn⟩ := hi.detected hdet
      have hnosyn : ∀ o ∈ outsOf cfg ⟨s, .packet 7 ch pkt e, s'⟩, ¬ o.isSyn := by
        rw [houts]
        intro o ho
        rw [List.mem_singleton.mp ho]
        exact sendAck_not_syn _ _
      subst hs'
      constructor
      · exact fun _ => Since.snoc (hi.opened hne) data_not_resets
      · exact fun _ => ⟨hne, hdetOn.snoc data_not_resets, hsynOn.snoc hnosyn⟩
      · exact fun _ => ⟨hdet, .start ⟨hdetOn, _, hsynOn, rfl, hch, hlink, hctrl, hack⟩⟩
  | control =>
      rw [hkind] at hs' houts
      have ha := dispatchData_answers cfg s pkt e
      have hrest := ha.rest
      dsimp only at hs'
      rw [← hs'] at hrest
      refine hi.keep (by rw [hrest]) (by rw [hrest]) (by rw [hrest]) (by rw [hrest]) data_not_resets
        (not_isRst (by rw [hkind]; decide)) ?_
      rw [houts]
      intro o ho
      rcases List.mem_cons.mp ho with rfl | ho
      · exact sendAck_not_syn _ _
      rcases List.mem_cons.mp ho with rfl | ho
      · exact Bool.false_ne_true
      · exact not_isSyn_of_answer ha ho
  | data =>
      rw [hkind] at hs' houts
      subst hs'
      refine hi.keep rfl rfl rfl rfl data_not_resets (not_isRst (by rw [hkind]; decide)) ?_
      rw [houts]
      intro o ho
      rw [List.mem_singleton.mp ho]
      exact sendAck_not_syn _ _
  -- nothing is sent
  | synAckOther | bare | ignored =>
      rw [hkind] at hs' houts
      subst hs'
      exact hi.keep rfl rfl rfl rfl data_not_resets (not_isRst (by rw [hkind]; decide)) (by rw [houts]; simp)

/-- **One step.** -/
theorem linkInv_step {cfg : Config} {h : List (Step State Event)} {s s' : State} {ev : Event}
    (hi : LinkInv cfg h s) (hgated : Gated ⟨s, ev, s'⟩) (heffect : Effect cfg s ev s' (outsOf cfg ⟨s, ev, s'⟩)) :
    LinkInv cfg (h ++ [⟨s, ev, s'⟩]) s' := by
  generalize houts : outsOf cfg ⟨s, ev, s'⟩ = outs at heffect
  cases heffect with
  | kept hkept hquiet hresets hdata =>
      have hrst : ¬ ev.IsRst := by
        intro hrst
        cases ev with
        | packet type ch pkt e => exact hdata hrst.1
        | alarm => exact hrst
      refine hi.keep hkept.activeCid (by rw [hkept.link]) (by rw [hkept.link]) (by rw [hkept.link]) hresets hrst ?_
      rw [houts]
      exact fun o ho => not_isSyn_of_quiet (hquiet o ho)
  | data => exact linkInv_data hi hgated rfl houts
  | connected hcode =>
      refine hi.keep rfl rfl rfl rfl (Event.not_resets (by rw [hcode]; decide)) ?_ (by rw [houts]; simp)
      exact fun hrst => absurd hrst.1 (by decide)
  | opened hcode hstatus =>
      obtain ⟨hstate, -⟩ := rfcommOpened_spec s (memByte _ _)
      constructor
      · intro _
        rw [hstate]
        exact .start ⟨⟨rfl, hcode, hstatus⟩, rfl⟩
      · intro hdet
        rw [hstate] at hdet
        cases hdet
      · intro hup
        rw [hstate] at hup
        cases hup
  | closed => exact linkInv_closed cfg _ rfl rfl rfl
  | disconnected => exact linkInv_closed cfg _ rfl rfl rfl

/-- What is guarded is done only for a control message. -/
theorem guarded_control {cfg : Config} {s s' : State} {ev : Event} {outs : List Out}
    (heffect : Effect cfg s ev s' outs)
    {o : Out} (ho : o ∈ outs) (hguarded : o.guarded = true) :
    ∃ ch pkt e, ev = .packet 7 ch pkt e ∧ dataKind s.link pkt e.behind = .control := by
  have hloud : o.plain = false := by
    cases o with
    | dispatch => rfl
    | control => rfl
    | rfcomm => cases hguarded
    | watchdog => cases hguarded
    | alarm => cases hguarded
    | cmd => cases hguarded
    | ready => cases hguarded
  have hquiet : ∀ l : List Out, (∀ o ∈ l, o.plain = true) → o ∉ l := by
    intro l hl hol
    rw [hl o hol] at hloud
    cases hloud
  cases heffect with
  | kept _ hq => exact absurd ho (hquiet _ fun o ho => Out.plain_of_quiet (hq o ho))
  | data =>
      rename_i ch pkt e
      refine ⟨ch, pkt, e, rfl, ?_⟩
      rw [handleData_kind] at ho
      dsimp only at ho
      cases hkind : dataKind s.link pkt e.behind with
      | control => rfl
      | detectEcho =>
          rw [hkind] at ho
          exact absurd ho (hquiet _ (by simp [Out.plain]))
      | rst =>
          rw [hkind] at ho
          exact absurd ho (hquiet _ (by simp [Out.plain]))
      | synAck =>
          rw [hkind] at ho
          exact absurd ho (hquiet _ (by simp [Out.plain]))
      | data =>
          rw [hkind] at ho
          exact absurd ho (hquiet _ (by simp [Out.plain]))
      | synAckOther =>
          rw [hkind] at ho
          cases ho
      | bare =>
          rw [hkind] at ho
          cases ho
      | ignored =>
          rw [hkind] at ho
          cases ho
  | connected => cases ho
  | opened =>
      exact absurd ho (hquiet _ fun o ho => Out.plain_of_quiet ((rfcommOpened_spec s _).2 o ho))
  | closed => exact absurd ho (hquiet _ (by simp [Out.plain]))
  | disconnected => cases ho

/-! ## Runs -/

/-- What the globals say holds after every run of gated steps. -/
theorem linkInv_run {cfg : Config} {h : List (Step State Event)} {s : State} (hr : Run cfg h s)
    (hC : ∀ x ∈ h, Gated x) : LinkInv cfg h s := by
  refine hr.induction Gated (LinkInv cfg) (linkInv_closed cfg [] rfl rfl rfl) ?_ hC
  rintro h s ev s' hr hi hstep hgated
  have hr' : Run cfg (h ++ [⟨s, ev, s'⟩]) s' := Lib.Run.snoc hr hstep
  exact linkInv_step hi hgated (Run.effect hr' (List.mem_append_right _ List.mem_cons_self))

/-- **The link gates the messages.** In a run whose steps are all gated, a message is dispatched, and a certificate,
    a signature, the identification or the Wi-Fi credentials are sent, only while `link_established` is 1, and then
    the link is up on the open channel. -/
theorem link_gated (cfg : Config) {h : List (Step State Event)} {s : State} (hr : Run cfg h s)
    (hC : ∀ x ∈ h, Gated x) {pre post : List (Step State Event)} {x : Step State Event} (hh : h = pre ++ x :: post)
    (hout : ∃ o ∈ outsOf cfg x, o.guarded = true) :
    x.pre.link.linkEstablished = true ∧ x.pre.activeCid ≠ 0 ∧ UpOn cfg x.pre.activeCid pre := by
  have hx : x ∈ h := by
    rw [hh]
    exact List.mem_append_right _ List.mem_cons_self
  obtain ⟨o, ho, hguarded⟩ := hout
  obtain ⟨ch, pkt, e, hev, hkind⟩ := guarded_control (Run.effect hr hx) ho hguarded
  have hgated := hC x hx
  unfold Gated at hgated
  rw [hev] at hgated
  have hup := hgated rfl
  rw [hkind] at hup
  have hi := linkInv_run (hr.split hh).1 fun y hy => hC y (by rw [hh]; exact List.mem_append_left _ hy)
  obtain ⟨hdet, hupOn⟩ := hi.up hup
  exact ⟨hup, (hi.detected hdet).1, hupOn⟩

/-- `0x5702` on a link that is up: the credentials are sent. -/
theorem link_gated_session :
    ∃ pre x s, Run Session.config (pre ++ [x]) s ∧ (∃ o ∈ outsOf Session.config x, o.guarded = true) ∧
      x.pre.link.linkEstablished = true ∧ x.pre.activeCid ≠ 0 ∧ UpOn Session.config x.pre.activeCid pre := by
  have hexec : (runEvents Session.config (Session.linkUp 0x41 ++
      [Session.data 0x41 (Session.message 0x21 0x5702 []).wire])).map
        (fun r => (decide (∀ x ∈ r.1, Gated x),
          r.1.getLast?.map fun x => (outsOf Session.config x).any Out.guarded)) = some (true, some true) := by decide
  obtain ⟨⟨h, s⟩, hr, htests⟩ := Option.map_eq_some_iff.mp hexec
  obtain ⟨hgated, hlast⟩ := Prod.mk.inj htests
  obtain ⟨x, hx, hout⟩ := Option.map_eq_some_iff.mp hlast
  obtain ⟨pre, hpre⟩ := List.getLast?_eq_some_iff.mp hx
  have hrun := runEvents_run hr
  have hguarded := List.any_eq_true.mp hout
  dsimp only at hgated hpre hrun
  subst hpre
  exact ⟨pre, x, s, hrun, hguarded, link_gated _ hrun (of_decide_eq_true hgated) rfl hguarded⟩

/-- The credentials are sent as soon as a channel is open. -/
theorem wifi_config_without_link :
    ¬ ∀ cfg h s, Run cfg h s → ∀ pre x post, h = pre ++ x :: post → (∃ o ∈ outsOf cfg x, o.guarded = true) →
      x.pre.link.linkEstablished = true := by
  intro hall
  have hexec : (runEvents Session.config
      [Session.opened 0x41, Session.data 0x41 (Session.message 0x21 0x5702 []).wire]).map
        (fun r => r.1.getLast?.map fun x =>
          ((outsOf Session.config x).any Out.guarded, x.pre.link.linkEstablished)) = some (some (true, false)) := by
    decide
  obtain ⟨⟨h, s⟩, hr, hlast⟩ := Option.map_eq_some_iff.mp hexec
  obtain ⟨x, hx, htests⟩ := Option.map_eq_some_iff.mp hlast
  obtain ⟨hout, hdown⟩ := Prod.mk.inj htests
  obtain ⟨pre, hpre⟩ := List.getLast?_eq_some_iff.mp hx
  have hup := hall _ h s (runEvents_run hr) pre x [] hpre (List.any_eq_true.mp hout)
  rw [hdown] at hup
  cases hup

end Showcase.Bt
