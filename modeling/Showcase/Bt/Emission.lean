import Showcase.Bt.Acceptance
import Showcase.Bt.Gating

/-!
# `Bt.Emission` — the control packets that are sent

`send_control_msg` numbers its packets with `my_next_psn`, which a SYN sets and nothing else changes; a packet goes
out in chunks of at most the MTU (`rfcomm_send_chunked`).

* `Sequenced` — the output of a step, with the number that is next before and behind it.
* `run_sequenced` — the output of a whole run.
* `control_emission` — what a control packet is, and which number it has since the last SYN.
-/

namespace Showcase.Bt

open Lib

/-! ## Chunks -/

/-- The loop of `rfcomm_send_chunked` from `s` on; it does not end where the MTU is 0. -/
def chunksFrom (mtu : UInt16) (data : Bytes) (s : Nat) : Option (List Bytes) :=
  if s < data.length then
    let c := min (data.length - s) mtu.toNat
    if c = 0 then none else (chunksFrom mtu data (s + c)).map ((data.drop s).take c :: ·)
  else some []
termination_by data.length - s
decreasing_by omega

/-- `rfcomm_send_chunked`: what `bt_send_rfcomm` is called with. -/
def rfcommSendChunked (mtu : UInt16) (data : Bytes) : Option (List Bytes) := chunksFrom mtu data 0

theorem chunksFrom_spec {mtu : UInt16} (hmtu : 1 ≤ mtu.toNat) (data : Bytes) (s : Nat) :
    ∃ cs, chunksFrom mtu data s = some cs ∧ cs.flatten = data.drop s ∧
      ∀ c ∈ cs, 1 ≤ c.length ∧ c.length ≤ mtu.toNat := by
  fun_induction chunksFrom mtu data s with
  | case1 s hlt c hzero => omega
  | case2 s hlt c hc ih =>
      obtain ⟨cs, hcs, hflat, hlen⟩ := ih
      refine ⟨(data.drop s).take c :: cs, by rw [hcs]; rfl, ?_, ?_⟩
      · rw [List.flatten_cons, hflat, ← List.drop_drop, List.take_append_drop]
      · intro d hd
        rcases List.mem_cons.mp hd with rfl | hd
        · rw [List.length_take, List.length_drop]
          omega
        · exact hlen d hd
  | case3 s hlt =>
      refine ⟨[], rfl, ?_, fun _ hc => absurd hc List.not_mem_nil⟩
      rw [List.drop_eq_nil_of_le (not_lt.mp hlt)]
      rfl

/-- **The chunks are the data**, and none is longer than the MTU. -/
theorem rfcommSendChunked_spec {mtu : UInt16} (hmtu : 1 ≤ mtu.toNat) (data : Bytes) :
    ∃ cs, rfcommSendChunked mtu data = some cs ∧ cs.flatten = data ∧ ∀ c ∈ cs, 1 ≤ c.length ∧ c.length ≤ mtu.toNat :=
  chunksFrom_spec hmtu data 0

/-! ## Numbers

The output of a step is read from its front to its end: `Sequenced` says which number is next before it and behind it.
Outputs in a row compose, so a run is one sequence, and its last SYN tells all numbers behind it. -/

/-- The control messages among the output. -/
def Out.isControl : Out → Bool
  | .control _ _ _ _ => true
  | _ => false

/-- The number that is next, before and behind an output: a SYN begins behind its own, and a control packet takes
the next one. Moreover a message `0x5703` holds the access point. -/
inductive Out.Takes (cfg : Config) : UInt8 → Out → UInt8 → Prop where
  | syn {n : UInt8} {cid : UInt16} {l : LinkState} : Takes cfg n (.rfcomm cid (sendSyn l)) (l.myInitialPsn + 1)
  | control {cid msgId : UInt16} {params : Bytes} {l : LinkState}
      (hwifi : msgId = 0x5703 → params = wifiConfig cfg) :
      Takes cfg l.myNextPsn (.control cid msgId params (sendControlMsg l msgId params).1) (l.myNextPsn + 1)
  | other {n : UInt8} {o : Out} (hsyn : ¬ o.isSyn) (hctrl : o.isControl = false) : Takes cfg n o n

/-- The outputs one after the other. -/
inductive Sequenced (cfg : Config) : UInt8 → List Out → UInt8 → Prop where
  | nil {n : UInt8} : Sequenced cfg n [] n
  | cons {n m n' : UInt8} {o : Out} {outs : List Out} :
      o.Takes cfg n m → Sequenced cfg m outs n' → Sequenced cfg n (o :: outs) n'

section

variable {cfg : Config} {n n' : UInt8} {outs outs' : List Out} {o : Out}

theorem sequenced_append :
    Sequenced cfg n (outs ++ outs') n' ↔ ∃ m, Sequenced cfg n outs m ∧ Sequenced cfg m outs' n' := by
  constructor
  · intro h
    induction outs generalizing n with
    | nil => exact ⟨n, .nil, h⟩
    | cons o outs ih =>
        cases h with
        | cons ho h =>
            obtain ⟨m, hfirst, hsecond⟩ := ih h
            exact ⟨m, .cons ho hfirst, hsecond⟩
  · rintro ⟨m, hfirst, hsecond⟩
    induction hfirst with
    | nil => exact hsecond
    | cons ho _ ih => exact .cons ho (ih hsecond)

/-- Output without SYNs and control packets. -/
theorem sequenced_silent (h : ∀ o ∈ outs, ¬ o.isSyn ∧ o.isControl = false) : Sequenced cfg n outs n := by
  induction outs with
  | nil => exact .nil
  | cons o outs ih =>
      obtain ⟨hsyn, hctrl⟩ := h o List.mem_cons_self
      exact .cons (.other hsyn hctrl) (ih fun o' ho' => h o' (List.mem_cons_of_mem o ho'))

theorem isControl_of_quiet (h : o.quiet) : o.isControl = false := by
  cases o with
  | control => cases h
  | _ => rfl

theorem sequenced_quiet (h : ∀ o ∈ outs, o.quiet) : Sequenced cfg n outs n :=
  sequenced_silent fun o ho => ⟨not_isSyn_of_quiet (h o ho), isControl_of_quiet (h o ho)⟩

/-- A SYN is the last one from now on, and a control packet is counted. -/
def sinceSynNext (last : Option (UInt8 × Nat)) : Out → Option (UInt8 × Nat)
  | .rfcomm _ p => if p.getD 4 0 = 0x80 then some (p.getD 5 0, 0) else last
  | .control _ _ _ _ => last.map fun (psn, k) => (psn, k + 1)
  | _ => last

/-- The number of the last SYN, and how many control packets there are behind it. -/
def sinceSyn (outs : List Out) : Option (UInt8 × Nat) := outs.foldl sinceSynNext none

/-- **The next number** is the one of the last SYN, one more, and one more for each control packet since. -/
theorem Sequenced.next (h : Sequenced cfg n outs n') {psn : UInt8} {k : Nat} (hlast : sinceSyn outs = some (psn, k)) :
    n' = psn + UInt8.ofNat (k + 1) := by
  unfold sinceSyn at hlast
  -- the induction needs any beginning that has the number right
  have hgen : ∀ last : Option (UInt8 × Nat), (∀ psn k, last = some (psn, k) → n = psn + UInt8.ofNat (k + 1)) →
      ∀ psn k, outs.foldl sinceSynNext last = some (psn, k) → n' = psn + UInt8.ofNat (k + 1) := by
    clear hlast
    induction h with
    | nil => exact fun last hlast psn k h => hlast psn k h
    | @cons n m n' o outs ho h ih =>
        intro last hlast psn k hfold
        rw [List.foldl_cons] at hfold
        refine ih _ ?_ psn k hfold
        intro psn k hlast'
        cases ho with
        | syn =>
            obtain ⟨rfl, rfl⟩ := Prod.mk.inj (Option.some.inj hlast')
            rfl
        | control hwifi =>
            obtain ⟨⟨psn', k'⟩, hk', heq⟩ := Option.map_eq_some_iff.mp hlast'
            obtain ⟨rfl, rfl⟩ := Prod.mk.inj heq
            rw [hlast psn' k' hk', UInt8.ofNat_add (k' + 1), show UInt8.ofNat 1 = 1 from rfl, UInt8.add_assoc]
        | other hsyn hctrl =>
            cases o with
            | control => cases hctrl
            | rfcomm cid p =>
                have hno : ¬ p.getD 4 0 = 0x80 := fun h => hsyn (beq_iff_eq.mpr h)
                rw [sinceSynNext, if_neg hno] at hlast'
                exact hlast psn k hlast'
            | _ => exact hlast psn k hlast'
  exact hgen none nofun psn k hlast

end

/-! ## One message -/

/-- A call of `handle_ctrl_msg` or of a part of it. -/
def Numbers (cfg : Config) (s : State) (r : State × List Out) : Prop :=
  Sequenced cfg s.link.myNextPsn r.2 r.1.link.myNextPsn

section

variable {cfg : Config} {s : State}

theorem numbers_sendControl {msgId : UInt16} {params : Bytes} (hwifi : msgId = 0x5703 → params = wifiConfig cfg) :
    Numbers cfg s (sendControl s msgId params) :=
  .cons (.control hwifi) .nil

theorem numbers_watchdog (s : State) (g : Handoff) :
    Numbers cfg s (maybeStartHandoffWatchdog { s with handoff := g }) := by
  obtain ⟨hstate, houts⟩ := watchdog_spec { s with handoff := g }
  unfold Numbers
  rw [hstate]
  refine sequenced_silent fun o ho => ?_
  rw [houts o ho]
  exact ⟨Bool.false_ne_true, rfl⟩

theorem numbers_sendAccessoryWifiConfig {g : Handoff} {s' : State} {outs : List Out}
    (h : sendAccessoryWifiConfig cfg { s with handoff := g } = some (s', outs)) :
    Sequenced cfg s.link.myNextPsn outs s'.link.myNextPsn := by
  unfold sendAccessoryWifiConfig at h
  split at h
  · cases h
  · obtain ⟨rfl, rfl⟩ := Prod.mk.inj (Option.some.inj h)
    exact numbers_sendControl fun _ => rfl

theorem numbers_requestAccessoryWiFiConfigInfo : Numbers cfg s (requestAccessoryWiFiConfigInfo cfg s) := by
  unfold requestAccessoryWiFiConfigInfo
  dsimp only
  split
  · split
    next s' sent hsend =>
      exact sequenced_append.mpr ⟨_, numbers_sendAccessoryWifiConfig hsend, numbers_watchdog s' _⟩
    next => exact .nil
  · split
    next s' sent hsend =>
      have hsent := numbers_sendAccessoryWifiConfig hsend
      exact hsent
    next => exact .nil

theorem numbers_deviceTransportIdentifierNotification :
    Numbers cfg s (deviceTransportIdentifierNotification cfg s) := by
  unfold deviceTransportIdentifierNotification
  dsimp only
  split
  next s' sent hsend =>
    exact sequenced_append.mpr ⟨_, numbers_sendAccessoryWifiConfig hsend, numbers_watchdog s' _⟩
  next => exact .nil

/-- **One message.** -/
theorem handleCtrlMsg_numbers (cfg : Config) (sign : Bytes → Option Bytes) (s : State) (msgId : Nat)
    (params : Nat → UInt8) (plen : Int) : Numbers cfg s (handleCtrlMsg cfg sign s msgId params plen) := by
  apply handleCtrlMsg_cases
  case authCert =>
    unfold sendAuthCert
    split
    · exact numbers_sendControl fun h => absurd h (by decide)
    · exact .nil
  case authChallenge =>
    unfold requestAuthChallenge
    split
    · unfold sendAuthResponse
      split
      · exact numbers_sendControl fun h => absurd h (by decide)
      · exact .nil
    · exact .nil
  case authSucceeded => exact numbers_watchdog s _
  case identification => exact numbers_sendControl fun h => absurd h (by decide)
  case btComponent => exact numbers_sendControl fun h => absurd h (by decide)
  case wifiConfig => exact numbers_requestAccessoryWiFiConfigInfo
  case wirelessUpdate => exact numbers_watchdog s _
  case transport => exact numbers_deviceTransportIdentifierNotification
  case external => exact numbers_sendControl fun h => absurd h (by decide)
  case other => exact .nil

end

/-! ## Runs -/

section

variable {cfg : Config} {s s' : State}

theorem numbers_handleData (cfg : Config) (s : State) (pkt : Bytes) (e : Env) :
    Numbers cfg s (handleData cfg s pkt e) := by
  have hack : ∀ n cid l outs n', Sequenced cfg n outs n' → Sequenced cfg n (.rfcomm cid (sendAck l) :: outs) n' :=
    fun n cid l outs n' h => .cons (.other (sendAck_not_syn cid l) rfl) h
  rw [handleData_kind]
  unfold Numbers
  dsimp only
  cases dataKind s.link pkt e.behind with
  | detectEcho => exact .cons (.other Bool.false_ne_true rfl) (.cons .syn .nil)
  | rst => exact .cons .syn .nil
  | synAck => exact hack _ _ _ _ _ .nil
  | synAckOther => exact .nil
  | control =>
      refine hack _ _ _ _ _ (.cons (.other Bool.false_ne_true rfl) ?_)
      exact handleCtrlMsg_numbers cfg e.sign { s with link := { s.link with peerPsn := memByte pkt e.behind 5 } }
        (ctrlMsgAt (memByte pkt e.behind)).msgId (fun i => memByte pkt e.behind (15 + i))
        (ctrlMsgAt (memByte pkt e.behind)).plen
  | data => exact hack _ _ _ _ _ .nil
  | bare => exact .nil
  | ignored => exact .nil

/-- **One step.** -/
theorem effect_numbers {ev : Event} {outs : List Out} (h : Effect cfg s ev s' outs) : Numbers cfg s (s', outs) := by
  have hquiet : ∀ {s' : State} {outs : List Out}, s'.link.myNextPsn = s.link.myNextPsn → (∀ o ∈ outs, o.quiet) →
      Numbers cfg s (s', outs) := by
    intro s' outs hlink hquiet
    unfold Numbers
    rw [hlink]
    exact sequenced_quiet hquiet
  cases h with
  | kept hkept hq => exact hquiet (by rw [hkept.link]) hq
  | data => exact numbers_handleData cfg s _ _
  | connected => exact hquiet rfl (by simp)
  | opened =>
      obtain ⟨hstate, hq⟩ := rfcommOpened_spec s _
      exact hquiet (by rw [hstate]) hq
  | closed => exact hquiet rfl (by simp [Out.quiet, Out.plain])
  | disconnected => exact hquiet rfl (by simp)

/-- All the output of a run. -/
def runOuts (cfg : Config) (h : List (Step State Event)) : List Out := h.flatMap (outsOf cfg)

theorem run_sequenced {h : List (Step State Event)} (hr : Run cfg h s) :
    Sequenced cfg State.initial.link.myNextPsn (runOuts cfg h) s.link.myNextPsn := by
  induction hr with
  | nil => exact .nil
  | @snoc h s s' ev hr hstep ih =>
      have hnext := effect_numbers (Run.effect (hr.snoc hstep) (x := ⟨s, ev, s'⟩) (by simp))
      rw [runOuts, List.flatMap_append, List.flatMap_singleton]
      exact sequenced_append.mpr ⟨_, ih, hnext⟩

end

/-! ## What a control packet is -/

/-- A link packet with a control message, read back: the start, both lengths, both checksums, the session and the
start of the message. -/
def readControl (pkt : Bytes) : Option (UInt16 × Bytes) :=
  let msg := (pkt.drop 9).dropLast
  if pkt.take 2 = [0xFF, 0x5A] ∧ ofBE ((pkt.drop 2).take 2) = pkt.length ∧ (pkt.take 9).sum = 0 ∧
      (pkt.drop 9).sum = 0 ∧ pkt.getD 7 0 = 0x01 ∧ msg.take 2 = [0x40, 0x40] ∧
      ofBE ((msg.drop 2).take 2) = msg.length then
    some (UInt16.ofNat (ofBE ((msg.drop 4).take 2)), msg.drop 6)
  else none

/-- The `k`-th control packet behind a SYN with number `psn`. -/
structure IsControlPacket (mtu : UInt16) (psn : UInt8) (k : Nat) (msgId : UInt16) (params pkt : Bytes) : Prop where
  /-- The chunks are the packet. -/
  chunks : ∃ cs, rfcommSendChunked mtu pkt = some cs ∧ cs.flatten = pkt ∧
    ∀ c ∈ cs, 1 ≤ c.length ∧ c.length ≤ mtu.toNat
  size : ofBE ((pkt.drop 2).take 2) = pkt.length
  header : (pkt.take 9).sum = 0
  payload : (pkt.drop 9).sum = 0
  inner : ofBE ((pkt.drop 11).take 2) = 6 + params.length
  content : readControl pkt = some (msgId, params)
  number : (pkt.getD 5 0).toNat = (psn.toNat + k) % 256

/-- Two bytes of a length. -/
theorem ofBE_pair {n : Nat} (h : n < 65536) : ofBE [UInt8.ofNat (n / 256), UInt8.ofNat n] = n := by
  have hpair : [UInt8.ofNat (n / 256), UInt8.ofNat n] = toBE 2 n := rfl
  rw [hpair, ofBE_toBE]
  exact Nat.mod_eq_of_lt h

theorem sum_ck (d : Bytes) : (d ++ [ck d]).sum = 0 := by
  rw [List.sum_append, List.sum_singleton, ck]
  grind

section

variable (msgId : UInt16) {params : Bytes}

theorem controlMsg_spec (hlen : params.length ≤ 65519) :
    (controlMsg msgId params).length = 6 + params.length ∧ (controlMsg msgId params).take 2 = [0x40, 0x40] ∧
      ofBE (((controlMsg msgId params).drop 2).take 2) = 6 + params.length ∧
      UInt16.ofNat (ofBE (((controlMsg msgId params).drop 4).take 2)) = msgId ∧
      (controlMsg msgId params).drop 6 = params := by
  have hid : ofBE [UInt8.ofNat (msgId.toNat / 256), UInt8.ofNat msgId.toNat] = msgId.toNat := ofBE_pair msgId.toNat_lt
  refine ⟨?_, rfl, ofBE_pair (by omega), ?_, rfl⟩
  · rw [controlMsg, List.length_append]
    rfl
  · have htake : ((controlMsg msgId params).drop 4).take 2 =
        [UInt8.ofNat (msgId.toNat / 256), UInt8.ofNat msgId.toNat] := rfl
    rw [htake, hid, UInt16.ofNat_toNat]

theorem sendControlMsg_isControlPacket {mtu : UInt16} (hmtu : 1 ≤ mtu.toNat) (hlen : params.length ≤ 65519)
    {l : LinkState} {psn : UInt8} {k : Nat} (hnext : l.myNextPsn = psn + UInt8.ofNat k) :
    IsControlPacket mtu psn k msgId params (sendControlMsg l msgId params).1 := by
  obtain ⟨hmsg, hstart, hinner, hid, hparams⟩ := controlMsg_spec msgId hlen
  -- the header, and the message with its checksum
  have hpkt : (sendControlMsg l msgId params).1 =
      linkHeader (9 + (controlMsg msgId params).length + 1) 0x40 l.myNextPsn l.peerPsn 0x01 ++
        (controlMsg msgId params ++ [ck (controlMsg msgId params)]) := by
    rw [← List.append_assoc]
    rfl
  generalize controlMsg msgId params = msg at *
  have hhead : (linkHeader (9 + msg.length + 1) 0x40 l.myNextPsn l.peerPsn 0x01).length = 9 := rfl
  have hlength : (sendControlMsg l msgId params).1.length = 9 + msg.length + 1 := by
    rw [hpkt, List.length_append, List.length_append, hhead, List.length_singleton]
    omega
  have htake : ((sendControlMsg l msgId params).1).take 9 =
      linkHeader (9 + msg.length + 1) 0x40 l.myNextPsn l.peerPsn 0x01 := by
    rw [hpkt]
    exact List.take_left' hhead
  have hdrop : ((sendControlMsg l msgId params).1).drop 9 = msg ++ [ck msg] := by
    rw [hpkt]
    exact List.drop_left' hhead
  have hsize : ofBE ((((sendControlMsg l msgId params).1).drop 2).take 2) =
      (sendControlMsg l msgId params).1.length := by
    rw [hlength, hpkt]
    exact ofBE_pair (by omega)
  have hheader : (((sendControlMsg l msgId params).1).take 9).sum = 0 := by
    rw [htake]
    exact sum_ck _
  have hpayload : (((sendControlMsg l msgId params).1).drop 9).sum = 0 := by
    rw [hdrop]
    exact sum_ck _
  have hnumber : ((sendControlMsg l msgId params).1).getD 5 0 = l.myNextPsn := by
    rw [hpkt]
    rfl
  refine ⟨rfcommSendChunked_spec hmtu _, hsize, hheader, hpayload, ?_, ?_, ?_⟩
  · rw [← hinner, show 11 = 9 + 2 from rfl, ← List.drop_drop, hdrop, List.drop_append_of_le_length (by omega),
      List.take_append_of_le_length (by rw [List.length_drop]; omega)]
  · have hsession : ((sendControlMsg l msgId params).1).getD 7 0 = 0x01 := by
      rw [hpkt]
      rfl
    have hfront : ((sendControlMsg l msgId params).1).take 2 = [0xFF, 0x5A] := by
      rw [hpkt]
      rfl
    rw [readControl, hdrop, List.dropLast_concat, hparams, hid]
    refine if_pos ⟨hfront, hsize, hheader, ?_, hsession, hstart, by rw [hinner, hmsg]⟩
    exact sum_ck msg
  · rw [hnumber, hnext, UInt8.toNat_add, UInt8.toNat_ofNat']
    omega

end

/-! ## Every control packet of a run -/

/-- **The control packets behind a SYN.** In every run, a control message that is sent when there were `k` behind the
last SYN, which had the number `psn`, is one packet with the number `psn + k + 1`; and so is one that would be sent
next. -/
theorem control_emission (cfg : Config) {h : List (Step State Event)} {s : State} (hr : Run cfg h s) {mtu : UInt16}
    (hmtu : 1 ≤ mtu.toNat) :
    (∀ before after cid msgId params pkt, runOuts cfg h = before ++ .control cid msgId params pkt :: after →
      params.length ≤ 65519 → ∀ psn k, sinceSyn before = some (psn, k) →
        IsControlPacket mtu psn (k + 1) msgId params pkt) ∧
    ∀ msgId params, params.length ≤ 65519 → ∀ psn k, sinceSyn (runOuts cfg h) = some (psn, k) →
      IsControlPacket mtu psn (k + 1) msgId params (sendControlMsg s.link msgId params).1 := by
  have hseq := run_sequenced hr
  constructor
  · intro before after cid msgId params pkt houts hlen psn k hsince
    rw [houts] at hseq
    obtain ⟨m, hbefore, hbehind⟩ := sequenced_append.mp hseq
    have hm := hbefore.next hsince
    cases hbehind with
    | cons ho _ =>
        cases ho with
        | control hwifi => exact sendControlMsg_isControlPacket msgId hmtu hlen hm
        | other _ hctrl => cases hctrl
  · intro msgId params hlen psn k hsince
    exact sendControlMsg_isControlPacket msgId hmtu hlen (hseq.next hsince)

/-- The link is up, and the phone has asked for the access point. -/
def askedOnce : List Event :=
  Session.linkUp 0x41 ++ [Session.data 0x41 (Session.message 0x21 0x5702 []).wire]

/-- One message has been sent, and the next one has the number behind it. -/
theorem control_emission_asked :
    ∃ h s, Run Session.config h s ∧ sinceSyn (runOuts Session.config h) = some (1, 1) ∧
      IsControlPacket 3 1 2 0x4E01 [0, 6, 0, 0, 0, 0] (sendControlMsg s.link 0x4E01 [0, 6, 0, 0, 0, 0]).1 := by
  have hexec : (runEvents Session.config askedOnce).map (fun r => sinceSyn (runOuts Session.config r.1)) =
      some (some (1, 1)) := by decide
  obtain ⟨r, hr, hsince⟩ := Option.map_eq_some_iff.mp hexec
  have hrun := runEvents_run hr
  exact ⟨r.1, r.2, hrun, hsince,
    (control_emission Session.config hrun (by decide)).2 0x4E01 [0, 6, 0, 0, 0, 0] (by decide) 1 1 hsince⟩

end Showcase.Bt
