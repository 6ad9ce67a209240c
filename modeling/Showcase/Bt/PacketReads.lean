import Showcase.Bt.Params

/-!
# `Bt.PacketReads` — which bytes of a packet the handler reads

`handler` of `carplay_bt.m` with every read it makes itself; the parameters of a control message are left to
`handle_ctrl_msg` (`Bt.Params`).

* `handlerReads` — the program, and `handlerReads_does`: it does what `handler` does, and it reads in the packet
  just when this has the size that `FitsPacket` asks for.
* `reads_inside_iff` — the two programs together.
-/

namespace Showcase.Bt

open Lib Lib.ReadProg

/-! ## The program -/

/-- How `handler` ends: with `exit`, by itself, or in `handle_ctrl_msg`. -/
inductive HandlerEnd where
  | exit
  | done (s : State) (outs : List Out)
  | ctrl (s : State) (outs : List Out) (msgId : Nat) (plen : Int)

/-- `R16(pkt,i)`. -/
def r16At (pkt : Int) (i : Nat) : ReadProg UInt16 := do
  let hi ← elemAt pkt (i + 1)
  let lo ← elemAt pkt i
  return UInt16.ofNat (hi.toNat * 256 + lo.toNat)

/-- `n` bytes of the packet that are printed, or copied to where nothing is made of them. -/
def lookAt (pkt : Int) (i n : Nat) : ReadProg Unit := look (pkt + i) n

/-- `memcpy(a,&pkt[2],6)`. -/
def addrAt (pkt : Int) : ReadProg Bytes := bytes (pkt + (2 : Nat)) 6

/-- `pl>=6&&m[0]==0x40&&m[1]==0x40`, where `m` is `&pkt[9]` and `pl` is `sz-10`. -/
def controlReads (s : State) (pkt : Int) (sz : Nat) (outs : List Out) : ReadProg HandlerEnd :=
  if 6 ≤ sz - 10 then do
    let m0 ← elemAt pkt 9
    if m0 = 0x40 then do
      let m1 ← elemAt pkt 10
      if m1 = 0x40 then do
        let mlen ← wordAt pkt 11
        let mid ← wordAt pkt 13
        return .ctrl s outs mid (mlen - 6)
      else return .done s outs
    else return .done s outs
  else return .done s outs

/-- A link packet, once its header has been read. -/
def linkHeaderReads (s : State) (pkt : Int) (sz rand : Nat) (ctrl seq ack session : UInt8) : ReadProg HandlerEnd :=
  if ctrl = 0x10 then
    let (s, outs) := startSyn s { s.link with linkEstablished := false } rand
    return .done s outs
  else if ctrl &&& 0xC0 = 0xC0 ∧ s.link.linkEstablished = false then do
    whenever (9 < sz) (lookAt pkt 9 (min sz 40 - 9))
    let link := { s.link with peerPsn := seq }
    return if ack = s.link.myInitialPsn then
        .done { s with link := { link with linkEstablished := true } } [.rfcomm s.activeCid (sendAck link)]
      else .done { s with link := link } []
  else
    let s := { s with link := { s.link with peerPsn := seq } }
    if (ctrl &&& 0x40 ≠ 0) ∧ session ≠ 0 ∧ 10 < sz then
      controlReads s pkt sz [.rfcomm s.activeCid (sendAck s.link)]
    else return .done s []

/-- `ctrl=pkt[4],seq=pkt[5],ack=pkt[6],session=pkt[7]`. -/
def linkPacketReads (s : State) (pkt : Int) (sz rand : Nat) : ReadProg HandlerEnd := do
  let ctrl ← elemAt pkt 4
  let seq ← elemAt pkt 5
  let ack ← elemAt pkt 6
  let session ← elemAt pkt 7
  linkHeaderReads s pkt sz rand ctrl seq ack session

/-- `sz>=5&&pkt[0]==0xFF&&pkt[1]==0x5A`. -/
def linkReads (s : State) (pkt : Int) (sz rand : Nat) : ReadProg HandlerEnd :=
  if 5 ≤ sz then do
    let b0 ← elemAt pkt 0
    if b0 = 0xFF then do
      let b1 ← elemAt pkt 1
      if b1 = 0x5A then linkPacketReads s pkt sz rand else return .done s []
    else return .done s []
  else return .done s []

/-- `type == 7`. -/
def dataReads (s : State) (pkt : Int) (sz rand : Nat) : ReadProg HandlerEnd :=
  if 6 ≤ sz then do
    let b ← bytes pkt 6
    if b = iap2Detect ∧ s.link.iap2Detected = false then
      let (s, syn) := startSyn s { s.link with iap2Detected := true } rand
      return .done s (.alarm 0 :: syn)
    else linkReads s pkt sz rand
  else linkReads s pkt sz rand

/-- The local address, from the answer to Read BD_ADDR. -/
def captureAddrReads (s : State) (pkt : Int) (sz : Nat) : ReadProg State := do
  let b0 ← elemAt pkt 0
  if b0 = 0x0E ∧ 12 ≤ sz ∧ s.localBdAddr = none then do
    let opcode ← r16At pkt 3
    if opcode = 0x1009 then do
      let status ← elemAt pkt 5
      if status = 0 then do
        let a0 ← elemAt pkt 11
        let a1 ← elemAt pkt 10
        let a2 ← elemAt pkt 9
        let a3 ← elemAt pkt 8
        let a4 ← elemAt pkt 7
        let a5 ← elemAt pkt 6
        return { s with localBdAddr := some ⟨[a0, a1, a2, a3, a4, a5], rfl⟩ }
      else return s
    else return s
  else return s

/-- The setup when the scan mode has been written. -/
def setupFallbackReads (cfg : Config) (s : State) (pkt : Int) (sz : Nat) : ReadProg (State × List Out) := do
  let b0 ← elemAt pkt 0
  if b0 = 0x0E ∧ 6 ≤ sz ∧ s.setupDone = false then do
    let opcode ← r16At pkt 3
    if opcode = 0x0C1A then do
      let status ← elemAt pkt 5
      return if status = 0 then performBtSetup cfg s else (s, [])
    else return (s, [])
  else return (s, [])

/-- A channel has been opened. -/
def rfcommOpenedReads (s : State) (pkt : Int) : ReadProg (State × List Out) := do
  let cid ← r16At pkt 12
  let mtu ← r16At pkt 14
  let (s, outs) := sendDetect <| resetWirelessHandoffState
    { s with activeCid := cid, rfcommMtu := mtu, detectCount := 0,
             link := { s.link with iap2Detected := false, linkEstablished := false } }
  return (s, outs ++ [.alarm 1])

/-- The switch at the end of `handler`. -/
def eventReads (cfg : Config) (s : State) (pkt : Int) (sz : Nat) (b0 : UInt8) : ReadProg (State × List Out) :=
  if b0 = 0x60 then do
    let b2 ← elemAt pkt 2
    return if b2 = 2 then performBtSetup cfg s else (s, [])
  else if b0 = 0x04 then do
    let a ← addrAt pkt
    return (s, if cfg.rootless then [] else [.cmd (.hciAcceptConnectionRequest a)])
  else if b0 = 0x03 then do
    whenever (2 < sz) (lookAt pkt 2 1)
    whenever (4 < sz) (lookAt pkt 3 2)
    if 2 < sz then do
      let status ← elemAt pkt 2
      if status = 0 ∧ 4 < sz then do
        let handle ← r16At pkt 3
        return ({ s with aclHandle := handle }, [])
      else return (s, [])
    else return (s, [])
  else if b0 = 0x05 then do
    whenever (4 < sz) (lookAt pkt 3 2)
    whenever (5 < sz) (lookAt pkt 5 1)
    return ({ closeSession s with aclHandle := 0 }, [])
  else if b0 = 0x06 ∨ b0 = 0x08 then do
    whenever (2 < sz) (lookAt pkt 2 1)
    whenever (4 < sz) (lookAt pkt 3 2)
    whenever (b0 = 0x08 ∧ 5 < sz) (lookAt pkt 5 1)
    return (s, [])
  else if b0 = 0x17 then do
    whenever (8 ≤ sz) (lookAt pkt 2 6)
    return (s, [])
  else if b0 = 0x18 then do
    whenever (24 < sz) (lookAt pkt 2 6)
    whenever (24 < sz) (lookAt pkt 24 1)
    return (s, [])
  else if b0 = 0x31 then do
    let a ← addrAt pkt
    whenever (8 ≤ sz) (lookAt pkt 2 6)
    return (s, if cfg.rootless then [] else [.cmd (.hciIoCapabilityRequestReply a)])
  else if b0 = 0x32 then do
    whenever (11 ≤ sz) (lookAt pkt 2 9)
    return (s, [])
  else if b0 = 0x33 then do
    let a ← addrAt pkt
    whenever (cfg.rootless ∧ 12 ≤ sz) (lookAt pkt 2 10)
    return (s, if cfg.rootless then [] else [.cmd (.hciUserConfirmationRequestReply a)])
  else if b0 = 0x36 then do
    whenever (9 ≤ sz) (lookAt pkt 2 7)
    return (s, [])
  else if b0 = 0x82 then do
    let c ← r16At pkt 9
    return (s, [.cmd (.rfcommAcceptConnection c)])
  else if b0 = 0x80 then do
    let b2 ← elemAt pkt 2
    if b2 = 0 then rfcommOpenedReads s pkt else return (s, [])
  else if b0 = 0x81 then return (closeSession s, [.alarm 0])
  else return (s, [])

/-- `type == 4`, behind the two events that end the call. -/
def hciReads (cfg : Config) (s : State) (pkt : Int) (sz : Nat) : ReadProg HandlerEnd := do
  let s ← captureAddrReads s pkt sz
  let (s, outs) ← setupFallbackReads cfg s pkt sz
  let b0 ← elemAt pkt 0
  if b0 ∈ ignoredEvents then return .done s outs
  else do
    let (s, outs') ← eventReads cfg s pkt sz b0
    return .done s (outs ++ outs')

/-- `type == 4`, from `pkt[0]==0x6c` on. -/
def eventPacketReads (cfg : Config) (s : State) (pkt : Int) (sz : Nat) : ReadProg HandlerEnd := do
  let b0 ← elemAt pkt 0
  if b0 = 0x6C then return .done s [] else hciReads cfg s pkt sz

/-- `handler`; `debug` stands for `packet_debug_count < 24`. -/
def handlerReads (cfg : Config) (s : State) (debug : Bool) (type : UInt8) (pkt : Int) (sz rand : Nat) :
    ReadProg HandlerEnd := do
  whenever debug (lookAt pkt 0 (min sz 12))
  if type = 4 then
    if 1 ≤ sz then do
      let b0 ← elemAt pkt 0
      if b0 = 0x62 then return .exit else eventPacketReads cfg s pkt sz
    else eventPacketReads cfg s pkt sz
  else if type = 7 then dataReads s pkt sz rand
  else return .done s []

/-! ## The single reads

A program `Does` what a function computes when it returns this and reads in the packet exactly under a condition.
There is a lemma for each kind of read, and the programs are put together from them. -/

section

variable {m : Mem} {pkt : Int} {sz i n : Nat}

theorem elemAt_does : Does m pkt (pkt + sz) (elemAt pkt i) (elemsAt m pkt i) (i < sz) :=
  Does.byte.congr (by omega)

theorem lookAt_does : Does m pkt (pkt + sz) (lookAt pkt i n) () (n = 0 ∨ i + n ≤ sz) :=
  Does.look.congr (by omega)

theorem wordAt_does : Does m pkt (pkt + sz) (wordAt pkt i) (paramU16 (elemsAt m pkt) i) (i + 1 < sz) :=
  ⟨run_wordAt .., inside_wordAt.trans (by omega)⟩

theorem r16At_does : Does m pkt (pkt + sz) (r16At pkt i) (r16 (elemsAt m pkt) i) (i + 1 < sz) := by
  refine Does.congr (Does.bind elemAt_does (Does.bind elemAt_does (.pure _))) ?_
  exact ⟨fun h => h.1, fun h => ⟨h, by omega, trivial⟩⟩

theorem addrAt_does : Does m pkt (pkt + sz) (addrAt pkt) (bdAddrAt (elemsAt m pkt)) (8 ≤ sz) where
  run := by
    rw [addrAt, run_bytes]
    congr 2
    funext j
    rw [elemsAt, Nat.cast_add, Int.add_assoc]
  inside := by
    rw [addrAt, inside_bytes]
    omega

end

/-! ## RFCOMM data -/

/-- What comes of the call, with `handle_ctrl_msg` behind it. -/
def HandlerEnd.finish (cfg : Config) (sign : Bytes → Option Bytes) (byte : Nat → UInt8) :
    HandlerEnd → Option (State × List Out)
  | .exit => none
  | .done s outs => some (s, outs)
  | .ctrl s outs msgId plen =>
      let (s, outs') := handleCtrlMsg cfg sign s msgId (fun i => byte (15 + i)) plen
      some (s, outs ++ .dispatch ⟨msgId, plen, (List.range plen.toNat).map fun i => byte (15 + i)⟩ :: outs')

/-- What `handler` does with a link packet. -/
def handleLinkPacket (cfg : Config) (s : State) (byte : Nat → UInt8) (sz : Nat) (e : Env) : State × List Out :=
  if byte 4 = 0x10 then startSyn s { s.link with linkEstablished := false } e.rand
  else if byte 4 &&& 0xC0 = 0xC0 ∧ s.link.linkEstablished = false then
    let link := { s.link with peerPsn := byte 5 }
    if byte 6 = s.link.myInitialPsn then
      ({ s with link := { link with linkEstablished := true } }, [.rfcomm s.activeCid (sendAck link)])
    else ({ s with link := link }, [])
  else
    let s := { s with link := { s.link with peerPsn := byte 5 } }
    if isData byte sz then
      let acked := .rfcomm s.activeCid (sendAck s.link)
      if isControl byte sz then
        let m := ctrlMsgAt byte
        let (s, outs) := handleCtrlMsg cfg e.sign s m.msgId (fun i => byte (15 + i)) m.plen
        (s, acked :: .dispatch m :: outs)
      else (s, [acked])
    else (s, [])

theorem handleData_eq (cfg : Config) (s : State) (pkt : Bytes) (e : Env) :
    handleData cfg s pkt e =
      if isDetectEcho pkt ∧ s.link.iap2Detected = false then
        ((startSyn s { s.link with iap2Detected := true } e.rand).1,
          .alarm 0 :: (startSyn s { s.link with iap2Detected := true } e.rand).2)
      else if isLinkPacket (memByte pkt e.behind) pkt.length then
        handleLinkPacket cfg s (memByte pkt e.behind) pkt.length e
      else (s, []) := rfl

section

variable {m : Mem} {pkt : Int} {sz : Nat}

/-- A control message lies in the packet with its id. -/
theorem controlReads_does (s : State) (outs : List Out) :
    Does m pkt (pkt + sz) (controlReads s pkt sz outs)
      (if isControl (elemsAt m pkt) sz then
        .ctrl s outs (ctrlMsgAt (elemsAt m pkt)).msgId (ctrlMsgAt (elemsAt m pkt)).plen
      else .done s outs) True := by
  unfold controlReads
  by_cases hlen : 6 ≤ sz - 10
  · rw [if_pos hlen]
    apply Does.step elemAt_does (by omega)
    by_cases h9 : elemsAt m pkt 9 = 0x40
    · rw [if_pos h9]
      apply Does.step elemAt_does (by omega)
      by_cases h10 : elemsAt m pkt 10 = 0x40
      · rw [if_pos h10, if_pos ⟨hlen, h9, h10⟩]
        exact Does.step wordAt_does (by omega) (Does.step wordAt_does (by omega) (.pure _))
      · rw [if_neg h10, if_neg (fun h => h10 h.2.2)]
        exact .pure _
    · rw [if_neg h9, if_neg (fun h => h9 h.2.1)]
      exact .pure _
  · rw [if_neg hlen, if_neg (fun h => hlen h.1)]
    exact .pure _

/-- A message is its id, its length, and as many bytes. -/
theorem ctrlMsgAt_eq (byte : Nat → UInt8) :
    ctrlMsgAt byte = ⟨(ctrlMsgAt byte).msgId, (ctrlMsgAt byte).plen,
      (List.range (ctrlMsgAt byte).plen.toNat).map fun i => byte (15 + i)⟩ := by
  have hlen : ((msgLen byte : Int) - 6).toNat = msgLen byte - 6 := by omega
  rw [ctrlMsgAt, hlen]

/-- What follows the header lies in the packet. -/
theorem linkHeaderReads_does (m : Mem) (pkt : Int) (sz : Nat) (cfg : Config) (s : State) (e : Env) :
    ∃ r, Does m pkt (pkt + sz) (linkHeaderReads s pkt sz e.rand (elemsAt m pkt 4) (elemsAt m pkt 5)
        (elemsAt m pkt 6) (elemsAt m pkt 7)) r True ∧
      r.finish cfg e.sign (elemsAt m pkt) = some (handleLinkPacket cfg s (elemsAt m pkt) sz e) := by
  unfold linkHeaderReads handleLinkPacket
  by_cases hrst : elemsAt m pkt 4 = 0x10
  · rw [if_pos hrst, if_pos hrst]
    exact ⟨_, .pure _, rfl⟩
  rw [if_neg hrst, if_neg hrst]
  by_cases hsyn : elemsAt m pkt 4 &&& 0xC0 = 0xC0 ∧ s.link.linkEstablished = false
  · rw [if_pos hsyn, if_pos hsyn]
    have hprint : Does m pkt (pkt + sz) (whenever (9 < sz) (lookAt pkt 9 (min sz 40 - 9))) ()
        (9 < sz → min sz 40 - 9 = 0 ∨ 9 + (min sz 40 - 9) ≤ sz) := lookAt_does.whenever
    refine ⟨_, Does.step hprint (by omega) (.pure _), ?_⟩
    simp only
    split
    · rfl
    · rfl
  rw [if_neg hsyn, if_neg hsyn]
  simp only
  by_cases hdata : isData (elemsAt m pkt) sz
  · rw [if_pos hdata, if_pos (show _ ∧ _ ∧ _ from hdata)]
    refine ⟨_, controlReads_does _ _, ?_⟩
    by_cases hcontrol : isControl (elemsAt m pkt) sz
    · rw [if_pos hcontrol, if_pos hcontrol, HandlerEnd.finish, ← ctrlMsgAt_eq]
      rfl
    · rw [if_neg hcontrol, if_neg hcontrol]
      rfl
  · rw [if_neg hdata, if_neg (show ¬(_ ∧ _ ∧ _) from hdata)]
    exact ⟨_, .pure _, rfl⟩

/-- The header of a link packet takes eight bytes, while the test asks for five. -/
theorem linkReads_does (m : Mem) (pkt : Int) (sz : Nat) (cfg : Config) (s : State) (e : Env) :
    ∃ r, Does m pkt (pkt + sz) (linkReads s pkt sz e.rand) r (isLinkPacket (elemsAt m pkt) sz → 8 ≤ sz) ∧
      r.finish cfg e.sign (elemsAt m pkt) =
        some (if isLinkPacket (elemsAt m pkt) sz then handleLinkPacket cfg s (elemsAt m pkt) sz e else (s, [])) := by
  unfold linkReads
  by_cases hsz : 5 ≤ sz
  · rw [if_pos hsz]
    by_cases h0 : elemsAt m pkt 0 = 0xFF
    · by_cases h1 : elemsAt m pkt 1 = 0x5A
      · obtain ⟨r, hr, hfinish⟩ := linkHeaderReads_does m pkt sz cfg s e
        refine ⟨r, Does.step elemAt_does (by omega) ?_, by rw [if_pos ⟨hsz, h0, h1⟩, hfinish]⟩
        rw [if_pos h0]
        apply Does.step elemAt_does (by omega)
        rw [if_pos h1]
        refine Does.congr (elemAt_does.bind (elemAt_does.bind (elemAt_does.bind (elemAt_does.bind hr)))) ?_
        constructor
        · intro h _
          exact h.2.2.2.1
        · intro h
          have height : 8 ≤ sz := h ⟨hsz, h0, h1⟩
          exact ⟨by omega, by omega, by omega, height, trivial⟩
      · have hno : ¬ isLinkPacket (elemsAt m pkt) sz := fun h => h1 h.2.2
        refine ⟨.done s [], Does.step elemAt_does (by omega) ?_, by rw [if_neg hno]; rfl⟩
        rw [if_pos h0]
        apply Does.step elemAt_does (by omega)
        rw [if_neg h1]
        exact (Does.pure _).congr (iff_of_true trivial fun h => absurd h hno)
    · have hno : ¬ isLinkPacket (elemsAt m pkt) sz := fun h => h0 h.2.1
      refine ⟨.done s [], Does.step elemAt_does (by omega) ?_, by rw [if_neg hno]; rfl⟩
      rw [if_neg h0]
      exact (Does.pure _).congr (iff_of_true trivial fun h => absurd h hno)
  · have hno : ¬ isLinkPacket (elemsAt m pkt) sz := fun h => hsz h.1
    rw [if_neg hsz, if_neg hno]
    exact ⟨_, (Does.pure _).congr (iff_of_true trivial fun h => absurd h hno), rfl⟩

/-- The packet lies in the memory. -/
theorem holds_of_memByte {b : Bytes} {behind : Nat → UInt8} (h : elemsAt m pkt = memByte b behind) :
    HoldsAt m pkt b := by
  intro j hj
  show elemsAt m pkt j = _
  rw [h, memByte, dif_pos hj]

/-- **RFCOMM data.** -/
theorem dataReads_does (cfg : Config) (s : State) (b : Bytes) (e : Env)
    (hmem : elemsAt m pkt = memByte b e.behind) :
    ∃ r, Does m pkt (pkt + b.length) (dataReads s pkt b.length e.rand) r
        (isLinkPacket (elemsAt m pkt) b.length → 8 ≤ b.length) ∧
      r.finish cfg e.sign (elemsAt m pkt) = some (handleData cfg s b e) := by
  obtain ⟨r, hr, hfinish⟩ := linkReads_does m pkt b.length cfg s e
  unfold dataReads
  by_cases hsz : 6 ≤ b.length
  · have hread : Does m pkt (pkt + b.length) (bytes pkt 6) (b.take 6) True := by
      have hslice := (holds_of_memByte hmem).run_slice (j := 0) (n := 6) (by omega)
      rw [Nat.cast_zero, Int.add_zero] at hslice
      exact ⟨hslice, iff_of_true (inside_bytes.mpr (.inr ⟨by omega, by omega⟩)) trivial⟩
    rw [if_pos hsz]
    by_cases hecho : b.take 6 = iap2Detect ∧ s.link.iap2Detected = false
    · have hno : ¬ isLinkPacket (elemsAt m pkt) b.length := by
        rw [hmem]
        exact isDetectEcho.not_isLinkPacket ⟨hsz, hecho.1⟩ e.behind _
      refine ⟨.done (startSyn s { s.link with iap2Detected := true } e.rand).1
        (.alarm 0 :: (startSyn s { s.link with iap2Detected := true } e.rand).2), Does.step hread trivial ?_, ?_⟩
      · rw [if_pos hecho]
        exact (Does.pure _).congr (iff_of_true trivial fun h => absurd h hno)
      · rw [handleData_eq, if_pos ⟨⟨hsz, hecho.1⟩, hecho.2⟩]
        rfl
    · refine ⟨r, Does.step hread trivial (by rwa [if_neg hecho]), ?_⟩
      have hno : ¬(isDetectEcho b ∧ s.link.iap2Detected = false) := fun h => hecho ⟨h.1.2, h.2⟩
      rw [hfinish, handleData_eq, if_neg hno, hmem]
  · have hecho : ¬(isDetectEcho b ∧ s.link.iap2Detected = false) := fun h => hsz h.1.1
    rw [if_neg hsz]
    refine ⟨r, hr, ?_⟩
    rw [hfinish, handleData_eq, if_neg hecho, hmem]

/-! ## Events -/

theorem captureAddrReads_does (s : State) :
    Does m pkt (pkt + sz) (captureAddrReads s pkt sz) (captureAddr s (elemsAt m pkt) sz) (1 ≤ sz) := by
  unfold captureAddrReads captureAddr
  refine Does.congr (Does.bind elemAt_does ?_) (and_iff_left trivial)
  by_cases hevent : elemsAt m pkt 0 = 0x0E ∧ 12 ≤ sz ∧ s.localBdAddr = none
  · rw [if_pos hevent]
    apply Does.step r16At_does (by omega)
    by_cases hopcode : r16 (elemsAt m pkt) 3 = 0x1009
    · rw [if_pos hopcode]
      apply Does.step elemAt_does (by omega)
      by_cases hstatus : elemsAt m pkt 5 = 0
      · rw [if_pos hstatus, if_pos ⟨hevent.1, hevent.2.1, hevent.2.2, hopcode, hstatus⟩]
        apply Does.step elemAt_does (by omega)
        apply Does.step elemAt_does (by omega)
        apply Does.step elemAt_does (by omega)
        apply Does.step elemAt_does (by omega)
        apply Does.step elemAt_does (by omega)
        apply Does.step elemAt_does (by omega)
        exact .pure _
      · rw [if_neg hstatus, if_neg (fun h => hstatus h.2.2.2.2)]
        exact .pure _
    · rw [if_neg hopcode, if_neg (fun h => hopcode h.2.2.2.1)]
      exact .pure _
  · rw [if_neg hevent, if_neg (fun h => hevent ⟨h.1, h.2.1, h.2.2.1⟩)]
    exact .pure _

theorem setupFallbackReads_does (cfg : Config) (s : State) :
    Does m pkt (pkt + sz) (setupFallbackReads cfg s pkt sz) (setupFallback cfg s (elemsAt m pkt) sz) (1 ≤ sz) := by
  unfold setupFallbackReads setupFallback
  refine Does.congr (Does.bind elemAt_does ?_) (and_iff_left trivial)
  by_cases hevent : elemsAt m pkt 0 = 0x0E ∧ 6 ≤ sz ∧ s.setupDone = false
  · rw [if_pos hevent]
    apply Does.step r16At_does (by omega)
    by_cases hopcode : r16 (elemsAt m pkt) 3 = 0x0C1A
    · rw [if_pos hopcode]
      apply Does.step elemAt_does (by omega)
      by_cases hstatus : elemsAt m pkt 5 = 0
      · rw [if_pos hstatus, if_pos ⟨hevent.1, hevent.2.1, hevent.2.2, hopcode, hstatus⟩]
        exact .pure _
      · rw [if_neg hstatus, if_neg (fun h => hstatus h.2.2.2.2)]
        exact .pure _
    · rw [if_neg hopcode, if_neg (fun h => hopcode h.2.2.2.1)]
      exact .pure _
  · rw [if_neg hevent, if_neg (fun h => hevent ⟨h.1, h.2.1, h.2.2.1⟩)]
    exact .pure _

/-- The size an event needs: a byte for the state of BTstack, the address of a request, and the fields of the two
RFCOMM events. `b0` is the event, `b2` the first byte of its parameters. -/
def EventFits (b0 b2 : UInt8) (sz : Nat) : Prop :=
  (b0 = 0x60 → 3 ≤ sz) ∧ (b0 = 0x04 ∨ b0 = 0x31 ∨ b0 = 0x33 → 8 ≤ sz) ∧
    (b0 = 0x82 → 11 ≤ sz) ∧ (b0 = 0x80 → 3 ≤ sz ∧ (b2 = 0 → 16 ≤ sz))

/-- Events whose size is not asked for, or asked for by the handler. -/
theorem eventFits_other {b0 b2 : UInt8} {sz : Nat} (h : b0 ∉ [0x60, 0x04, 0x31, 0x33, 0x82, 0x80]) :
    EventFits b0 b2 sz := by
  simp only [List.mem_cons, List.not_mem_nil, or_false, not_or] at h
  exact ⟨fun h' => absurd h' h.1, fun h' => by simp [h] at h', fun h' => absurd h' h.2.2.2.2.1,
    fun h' => absurd h' h.2.2.2.2.2⟩

/-- Such an event is read in the packet whatever its size. -/
theorem Does.other {b0 b2 : UInt8} {α : Type} {prog : ReadProg α} {r : α}
    (h : b0 ∉ [0x60, 0x04, 0x31, 0x33, 0x82, 0x80]) (hprog : Does m pkt (pkt + sz) prog r True) :
    Does m pkt (pkt + sz) prog r (EventFits b0 b2 sz) :=
  hprog.congr (iff_of_true trivial (eventFits_other h))

/-- Printing behind a test of the size stays in the packet. -/
theorem printed_does {c : Prop} [Decidable c] {i k : Nat} (h : c → i + k ≤ sz) :
    Does m pkt (pkt + sz) (whenever c (lookAt pkt i k)) () True :=
  (lookAt_does.whenever).congr (iff_of_true (fun hn => .inr (h hn)) trivial)

/-- Printing makes no difference to what follows. -/
theorem Does.printed {c : Prop} [Decidable c] {i k : Nat} {α : Type} {prog : ReadProg α} {r : α} {P : Prop}
    (h : c → i + k ≤ sz) (hprog : Does m pkt (pkt + sz) prog r P) :
    Does m pkt (pkt + sz) (whenever c (lookAt pkt i k) >>= fun _ => prog) r P :=
  Does.step (printed_does h) trivial hprog

/-- Connection Complete looks at the size itself. -/
theorem connectionReads_does (s : State) :
    Does m pkt (pkt + sz)
      (if 2 < sz then do
        let status ← elemAt pkt 2
        if status = 0 ∧ 4 < sz then do
          let handle ← r16At pkt 3
          return ({ s with aclHandle := handle }, ([] : List Out))
        else return (s, [])
      else return (s, []))
      (connectionComplete s (elemsAt m pkt) sz, []) True := by
  unfold connectionComplete
  by_cases hsz : 2 < sz
  · rw [if_pos hsz]
    apply Does.step elemAt_does hsz
    by_cases hstatus : elemsAt m pkt 2 = 0 ∧ 4 < sz
    · rw [if_pos hstatus, if_pos hstatus]
      exact Does.step r16At_does (by omega) (.pure _)
    · rw [if_neg hstatus, if_neg hstatus]
      exact .pure _
  · rw [if_neg hsz, if_neg (by omega)]
    exact .pure _

/-- The switch reads what it asks an event to have. -/
theorem eventReads_does (cfg : Config) (s : State) :
    Does m pkt (pkt + sz) (eventReads cfg s pkt sz (elemsAt m pkt 0)) (eventSwitch cfg s (elemsAt m pkt) sz)
      (EventFits (elemsAt m pkt 0) (elemsAt m pkt 2) sz) := by
  unfold eventReads eventSwitch
  generalize elemsAt m pkt 0 = b0
  refine Does.ite (fun h => ?_) fun h60 => ?_
  · subst h
    refine Does.congr (Does.bind elemAt_does (.pure _)) ?_
    simp [EventFits]
    omega
  refine Does.ite (fun h => ?_) fun h04 => ?_
  · subst h
    refine Does.congr (Does.bind addrAt_does (.pure _)) ?_
    simp [EventFits]
  refine Does.ite (fun h => ?_) fun h03 => ?_
  · subst h
    refine Does.other (by decide) ?_
    refine Does.printed (fun h => by omega) ?_
    refine Does.printed (fun h => by omega) ?_
    exact connectionReads_does s
  refine Does.ite (fun h => ?_) fun h05 => ?_
  · subst h
    refine Does.other (by decide) ?_
    refine Does.printed (fun h => by omega) ?_
    refine Does.printed (fun h => by omega) ?_
    exact .pure _
  refine Does.ite (fun h => ?_) fun h06 => ?_
  · have hother : b0 ∉ ([0x60, 0x04, 0x31, 0x33, 0x82, 0x80] : List UInt8) := by
      rcases h with rfl | rfl
      · decide
      · decide
    refine Does.other hother ?_
    refine Does.printed (fun h => by omega) ?_
    refine Does.printed (fun h => by omega) ?_
    refine Does.printed (fun h => by omega) ?_
    rcases h with rfl | rfl
    · exact .pure _
    · exact .pure _
  refine Does.ite (fun h => ?_) fun h17 => ?_
  · subst h
    refine Does.other (by decide) ?_
    refine Does.printed (fun h => by omega) ?_
    exact .pure _
  refine Does.ite (fun h => ?_) fun h18 => ?_
  · subst h
    refine Does.other (by decide) ?_
    refine Does.printed (fun h => by omega) ?_
    refine Does.printed (fun h => by omega) ?_
    exact .pure _
  refine Does.ite (fun h => ?_) fun h31 => ?_
  · subst h
    refine Does.congr (Does.bind addrAt_does (Does.step (printed_does fun h => by omega) trivial (.pure _))) ?_
    simp [EventFits]
  refine Does.ite (fun h => ?_) fun h32 => ?_
  · subst h
    refine Does.other (by decide) ?_
    refine Does.printed (fun h => by omega) ?_
    exact .pure _
  refine Does.ite (fun h => ?_) fun h33 => ?_
  · subst h
    refine Does.congr (Does.bind addrAt_does (Does.step (printed_does fun h => by omega) trivial (.pure _))) ?_
    simp [EventFits]
  refine Does.ite (fun h => ?_) fun h36 => ?_
  · subst h
    refine Does.other (by decide) ?_
    refine Does.printed (fun h => by omega) ?_
    exact .pure _
  refine Does.ite (fun h => ?_) fun h82 => ?_
  · subst h
    refine Does.congr (Does.bind r16At_does (.pure _)) ?_
    simp [EventFits]
    omega
  refine Does.ite (fun h => ?_) fun h80 => ?_
  · subst h
    show Does _ _ _ _ (if elemsAt m pkt 2 = 0 then rfcommOpened s (elemsAt m pkt) else (s, [])) _
    have hopened : Does m pkt (pkt + sz) (rfcommOpenedReads s pkt) (rfcommOpened s (elemsAt m pkt))
        (13 < sz ∧ 15 < sz ∧ True) := r16At_does.bind (r16At_does.bind (.pure _))
    by_cases hstatus : elemsAt m pkt 2 = 0
    · rw [if_pos hstatus]
      refine Does.congr (Does.bind elemAt_does (by rw [if_pos hstatus]; exact hopened)) ?_
      simp [EventFits, hstatus]
      omega
    · rw [if_neg hstatus]
      refine Does.congr (Does.bind elemAt_does (by rw [if_neg hstatus]; exact .pure _)) ?_
      simp [EventFits, hstatus]
      omega
  refine Does.ite (fun h => ?_) fun h81 => ?_
  · subst h
    exact Does.other (by decide) (.pure _)
  rw [if_neg h60, if_neg h04, if_neg h03, if_neg h05, if_neg h31, if_neg h33, if_neg h82, if_neg h80, if_neg h81]
  exact Does.other (by simp [h60, h04, h31, h33, h82, h80]) (.pure _)

/-- Events that are not looked at need no size. -/
theorem eventFits_ignored {b0 b2 : UInt8} (h : b0 ∈ ignoredEvents) : EventFits b0 b2 sz := by
  have hother : ∀ b ∈ ignoredEvents, b ∉ ([0x60, 0x04, 0x31, 0x33, 0x82, 0x80] : List UInt8) := by
    decide +kernel
  exact eventFits_other (hother b0 h)

theorem hciReads_does (cfg : Config) (s : State) :
    Does m pkt (pkt + sz) (hciReads cfg s pkt sz)
      (.done (handleHci cfg s (elemsAt m pkt) sz).1 (handleHci cfg s (elemsAt m pkt) sz).2)
      (1 ≤ sz ∧ EventFits (elemsAt m pkt 0) (elemsAt m pkt 2) sz) := by
  unfold hciReads handleHci
  refine Does.congr (Does.bind (captureAddrReads_does s)
    (Does.bind (setupFallbackReads_does cfg _) (Does.bind elemAt_does ?_)))
    ⟨fun h => ⟨h.1, h.2.2.2⟩, fun h => ⟨h.1, h.1, h.1, h.2⟩⟩
  by_cases hignored : elemsAt m pkt 0 ∈ ignoredEvents
  · rw [if_pos hignored]
    simp only
    rw [if_pos hignored]
    exact (Does.pure _).congr (iff_of_true trivial (eventFits_ignored hignored))
  · rw [if_neg hignored]
    simp only
    rw [if_neg hignored]
    exact Does.congr (Does.bind (eventReads_does cfg _) (.pure _)) (and_iff_left trivial)

end

/-! ## The handler -/

/-- The size a packet must have for what the handler reads of it without a test. -/
def FitsPacket (type : UInt8) (byte : Nat → UInt8) (sz : Nat) : Prop :=
  (type = 4 → 1 ≤ sz ∧ EventFits (byte 0) (byte 2) sz) ∧ (type = 7 → isLinkPacket byte sz → 8 ≤ sz)

/-- The result of the handler for an event. -/
def eventEnd (cfg : Config) (s : State) (byte : Nat → UInt8) (sz : Nat) : HandlerEnd :=
  if byte 0 = 0x6C then .done s [] else .done (handleHci cfg s byte sz).1 (handleHci cfg s byte sz).2

section

variable {m : Mem} {pkt : Int} {sz : Nat}

theorem eventPacketReads_does (m : Mem) (pkt : Int) (sz : Nat) (cfg : Config) (s : State) :
    Does m pkt (pkt + sz) (eventPacketReads cfg s pkt sz) (eventEnd cfg s (elemsAt m pkt) sz)
      (1 ≤ sz ∧ EventFits (elemsAt m pkt 0) (elemsAt m pkt 2) sz) := by
  unfold eventPacketReads eventEnd
  by_cases h6C : elemsAt m pkt 0 = 0x6C
  · refine Does.congr (Does.bind elemAt_does (by rw [if_pos h6C, if_pos h6C]; exact .pure _)) ?_
    rw [h6C]
    exact and_congr_right fun _ => iff_of_true trivial (eventFits_other (by decide))
  · refine Does.congr (Does.bind elemAt_does (by rw [if_neg h6C, if_neg h6C]; exact hciReads_does cfg s)) ?_
    exact ⟨fun h => h.2, fun h => ⟨h.1, h⟩⟩

/-- **The handler** does as a program what `handler` says, and reads in the packet just when this is large enough. -/
theorem handlerReads_does (cfg : Config) (s : State) (debug : Bool) (type : UInt8) (ch : UInt16) (b : Bytes) (e : Env)
    (hmem : elemsAt m pkt = memByte b e.behind) :
    ∃ r, Does m pkt (pkt + b.length) (handlerReads cfg s debug type pkt b.length e.rand) r
        (FitsPacket type (elemsAt m pkt) b.length) ∧
      r.finish cfg e.sign (elemsAt m pkt) = handler cfg s type ch b e := by
  have hdebug : Does m pkt (pkt + b.length) (whenever debug (lookAt pkt 0 (min b.length 12))) () True :=
    printed_does fun _ => by omega
  unfold handlerReads handler FitsPacket
  rw [← hmem]
  by_cases h4 : type = 4
  · subst h4
    have hevent := eventPacketReads_does m pkt b.length cfg s
    have hfits : (1 ≤ b.length ∧ EventFits (elemsAt m pkt 0) (elemsAt m pkt 2) b.length) ↔
        ((4 : UInt8) = 4 → 1 ≤ b.length ∧ EventFits (elemsAt m pkt 0) (elemsAt m pkt 2) b.length) ∧
          ((4 : UInt8) = 7 → isLinkPacket (elemsAt m pkt) b.length → 8 ≤ b.length) := by simp
    by_cases hexit : 1 ≤ b.length ∧ elemsAt m pkt 0 = 0x62
    · refine ⟨.exit, Does.step hdebug trivial ?_, ?_⟩
      · rw [if_pos rfl, if_pos hexit.1]
        apply Does.step elemAt_does hexit.1
        rw [if_pos hexit.2]
        refine (Does.pure _).congr (Iff.trans (iff_of_true trivial ⟨hexit.1, ?_⟩) hfits)
        rw [hexit.2]
        exact eventFits_other (by decide)
      · rw [if_pos ⟨rfl, hexit.1, hexit.2⟩]
        rfl
    · refine ⟨eventEnd cfg s (elemsAt m pkt) b.length, Does.step hdebug trivial ?_, ?_⟩
      · rw [if_pos rfl]
        by_cases hsz : 1 ≤ b.length
        · rw [if_pos hsz]
          apply Does.step elemAt_does hsz
          rw [if_neg (fun h => hexit ⟨hsz, h⟩)]
          exact hevent.congr hfits
        · rw [if_neg hsz]
          exact hevent.congr hfits
      · rw [if_neg (fun h => hexit h.2), eventEnd]
        by_cases h6C : elemsAt m pkt 0 = 0x6C
        · rw [if_pos h6C, if_pos ⟨rfl, h6C⟩]
          rfl
        · rw [if_neg h6C, if_neg (fun h => h6C h.2)]
          rfl
  · by_cases h7 : type = 7
    · subst h7
      obtain ⟨r, hr, hfinish⟩ := dataReads_does cfg s b e hmem
      refine ⟨r, Does.step hdebug trivial ?_, ?_⟩
      · rw [if_neg h4, if_pos rfl]
        exact hr.congr (by simp)
      · rw [hfinish]
        rfl
    · refine ⟨.done s [], Does.step hdebug trivial ?_, ?_⟩
      · rw [if_neg h4, if_neg h7]
        exact (Does.pure _).congr (iff_of_true trivial ⟨fun h => absurd h h4, fun h => absurd h h7⟩)
      · rw [if_neg (fun h => h4 h.1), if_neg (fun h => h4 h.1), if_neg h7, if_pos h4]
        rfl

/-- Any memory is a packet and what lies behind it. -/
theorem elemsAt_eq_memByte (m : Mem) (pkt : Int) (sz : Nat) :
    elemsAt m pkt = memByte ((List.range sz).map (elemsAt m pkt)) fun i => elemsAt m pkt (sz + i) := by
  funext i
  unfold memByte
  split
  next h => rw [List.getElem_map, List.getElem_range]
  next h =>
    rw [List.length_map, List.length_range] at h ⊢
    show elemsAt m pkt i = elemsAt m pkt (sz + (i - sz))
    rw [Nat.add_sub_cancel' (show sz ≤ i by omega)]

end

/-- A message is handled by its parameters: every byte read is one of them, and no other byte makes a difference. -/
def HandledByParams (cfg : Config) (sign : Bytes → Option Bytes) (s : State) (msgId : Nat) (m : Mem)
    (params plen : Int) : Prop :=
  (∀ i ∈ reads m (handleCtrlMsgReads cfg sign s msgId params plen), params ≤ i ∧ i < params + plen) ∧
    ∀ m' : Mem, (∀ i, params ≤ i → i < params + plen → m i = m' i) →
      run m' (handleCtrlMsgReads cfg sign s msgId params plen) =
        run m (handleCtrlMsgReads cfg sign s msgId params plen)

/-- Every message is handled to its end, and by its parameters just when those it comes to lie in it; and the
handler reads in the packet just when this has the size of what it is taken for. -/
theorem reads_inside_iff (cfg : Config) (s : State) (m : Mem) :
    (∀ sign msgId params plen,
      run m (handleCtrlMsgReads cfg sign s msgId params plen) =
          some (handleCtrlMsg cfg sign s msgId (elemsAt m params) plen) ∧
        (HandledByParams cfg sign s msgId m params plen ↔ ParamsInside msgId (elemsAt m params) plen)) ∧
      ∀ debug type pkt sz rand,
        (∀ i ∈ reads m (handlerReads cfg s debug type pkt sz rand), pkt ≤ i ∧ i < pkt + (sz : Int)) ↔
          FitsPacket type (elemsAt m pkt) sz := by
  constructor
  · intro sign msgId params plen
    have h := handleCtrlMsgReads_handles m params plen msgId cfg sign s
    refine ⟨h.run, fun hby => h.inside.mp hby.1, fun hparams => ?_⟩
    have hinside := h.inside.mpr hparams
    exact ⟨hinside, fun m' hagree => (hinside.run_eq hagree).symm⟩
  · intro debug type pkt sz rand
    have hlen : ((List.range sz).map (elemsAt m pkt)).length = sz := by simp
    have h := handlerReads_does cfg s debug type 0 _
      ⟨fun i => elemsAt m pkt (sz + i), rand, fun _ => none⟩ (elemsAt_eq_memByte m pkt sz)
    rw [hlen] at h
    obtain ⟨r, hr, -⟩ := h
    exact hr.inside

/-- A challenge that is said to be longer than its message, and a link packet of five bytes. -/
theorem reads_outside :
    (¬ ∀ cfg sign s msgId m params plen, HandledByParams cfg sign s msgId m params plen) ∧
      ¬ ∀ cfg s debug type m pkt sz rand, ∀ i ∈ reads m (handlerReads cfg s debug type pkt sz rand),
        pkt ≤ i ∧ i < pkt + (sz : Int) := by
  constructor
  · intro hall
    have hread : (4 : Int) ∈ reads (memoryOf [0x00, 0x08, 0x00, 0x00])
        (handleCtrlMsgReads Session.config (fun _ => none) .initial 0xAA02 0 4) := by decide
    exact absurd ((hall ..).1 4 hread).2 (by decide)
  · intro hall
    have hread : (7 : Int) ∈ reads (memoryOf [0xFF, 0x5A, 0x00, 0x05, 0x40])
        (handlerReads Session.config .initial false 7 0 5 0) := by decide
    exact absurd (hall _ _ _ _ _ _ _ _ 7 hread).2 (by decide)

end Showcase.Bt
