import Showcase.Lib.Pieces
import Showcase.Bt.Delivery

/-!
# `Bt.Rfcomm` — link packets and RFCOMM packets

The device's link packets are a stream of bytes, and RFCOMM may divide it anywhere: `rfcomm_send_chunked` itself
divides what is longer than the MTU. The handler takes each RFCOMM packet for a link packet.

* `Recognised` — the RFCOMM packets in which it finds a control message.
* `segmentation_iff` — when the division has no effect on the control messages.
-/

namespace Showcase

open Lib

/-! ## One RFCOMM packet -/

/-- The packet is taken for a control message. -/
def Recognised (s : LinkState) (pkt : Bytes) : Prop :=
  let byte := fun i => pkt.getD i 0
  16 ≤ pkt.length ∧ byte 0 = 0xFF ∧ byte 1 = 0x5A ∧ byte 4 ≠ 0x10 ∧
    ¬ (byte 4 &&& 0xC0 = 0xC0 ∧ s.linkEstablished = false) ∧ byte 4 &&& 0x40 ≠ 0 ∧ byte 7 ≠ 0 ∧
    byte 9 = 0x40 ∧ byte 10 = 0x40

instance (s : LinkState) (pkt : Bytes) : Decidable (Recognised s pkt) :=
  inferInstanceAs (Decidable (_ ∧ _))

/-- The parameters that the message announces are in the packet. -/
def HoldsParams (pkt : Bytes) : Prop := 15 + (msgLen (fun i => pkt.getD i 0) - 6) ≤ pkt.length

/-- SYN and ACK are both set. -/
def SynAck (pkt : Bytes) : Prop := pkt.getD 4 0 &&& 0xC0 = 0xC0

instance (pkt : Bytes) : Decidable (HoldsParams pkt) := inferInstanceAs (Decidable (_ ≤ _))

instance (pkt : Bytes) : Decidable (SynAck pkt) := inferInstanceAs (Decidable (_ = _))

section Packet

variable {s : LinkState} {pkt : Bytes} {behind : Nat → UInt8}

theorem memByte_of_lt {i : Nat} (h : i < pkt.length) : memByte pkt behind i = pkt.getD i 0 := by
  rw [memByte, dif_pos h, List.getD_eq_getElem?_getD, List.getElem?_eq_getElem h, Option.getD_some]

theorem memByte_of_ge {i : Nat} (h : pkt.length ≤ i) : memByte pkt behind i = behind (i - pkt.length) := by
  rw [memByte, dif_neg (Nat.not_lt.mpr h)]

theorem handleLink_dispatched (s : LinkState) (byte : Nat → UInt8) (sz : Nat) (e : RxEnv) :
    dispatched (handleLink s byte sz e).2 =
      if byte 4 ≠ 0x10 ∧ ¬ (byte 4 &&& 0xC0 = 0xC0 ∧ s.linkEstablished = false) ∧ isData byte sz ∧
        isControl byte sz then [ctrlMsgAt byte] else [] := by
  rw [handleLink]
  by_cases hrst : byte 4 = 0x10
  · rw [if_pos hrst, if_neg (fun h => h.1 hrst)]
    rfl
  by_cases hsyn : byte 4 &&& 0xC0 = 0xC0 ∧ s.linkEstablished = false
  · have hnone : ¬ (byte 4 ≠ 0x10 ∧ ¬ (byte 4 &&& 0xC0 = 0xC0 ∧ s.linkEstablished = false) ∧ isData byte sz ∧
        isControl byte sz) := fun h => h.2.1 hsyn
    rw [if_neg hrst, if_pos hsyn, if_neg hnone]
    by_cases hack : byte 6 = s.myInitialPsn
    · simp [hack]
    · simp [hack]
  rw [if_neg hrst, if_neg hsyn]
  by_cases hdata : isData byte sz
  · rw [if_pos hdata]
    by_cases hcontrol : isControl byte sz
    · rw [if_pos hcontrol, if_pos ⟨hrst, hsyn, hdata, hcontrol⟩]
      simp [(sendReplies_spec _ e.replies).2.1]
    · rw [if_neg hcontrol, if_neg (fun h => hcontrol h.2.2.2)]
      rfl
  · rw [if_neg hdata, if_neg (fun h => hdata h.2.2.1)]
    rfl

/-- **What an RFCOMM packet dispatches.** -/
theorem handler_dispatched (s : LinkState) (pkt : Bytes) (e : RxEnv) :
    dispatched (handler s pkt e).2 = if Recognised s pkt then [ctrlMsgAt (memByte pkt e.behind)] else [] := by
  rw [handler]
  by_cases hdetect : 6 ≤ pkt.length ∧ pkt.take 6 = iap2Detect ∧ s.iap2Detected = false
  · have hsecond : pkt.getD 1 0 = 0x55 := by
      have h := congrArg (fun l : Bytes => l[1]?) hdetect.2.1
      have hget : pkt[1]? = some 0x55 := by simpa [iap2Detect] using h
      rw [List.getD_eq_getElem?_getD, hget]
      rfl
    have hnot : ¬ Recognised s pkt := by
      intro h
      have h1 : pkt.getD 1 0 = 0x5A := h.2.2.1
      rw [hsecond] at h1
      exact absurd h1 (by decide)
    rw [if_pos hdetect, if_neg hnot]
    rfl
  rw [if_neg hdetect]
  by_cases hlong : 16 ≤ pkt.length
  · have hbyte : ∀ i < 16, memByte pkt e.behind i = pkt.getD i 0 := fun i hi => memByte_of_lt (by omega)
    have hiff : (5 ≤ pkt.length ∧ memByte pkt e.behind 0 = 0xFF ∧ memByte pkt e.behind 1 = 0x5A) ∧
        (memByte pkt e.behind 4 ≠ 0x10 ∧
          ¬ (memByte pkt e.behind 4 &&& 0xC0 = 0xC0 ∧ s.linkEstablished = false) ∧
          isData (memByte pkt e.behind) pkt.length ∧ isControl (memByte pkt e.behind) pkt.length) ↔
        Recognised s pkt := by
      rw [isData, isControl, hbyte 0 (by omega), hbyte 1 (by omega), hbyte 4 (by omega), hbyte 7 (by omega),
        hbyte 9 (by omega), hbyte 10 (by omega)]
      constructor
      · rintro ⟨⟨-, h0, h1⟩, h4, hsyn, ⟨hack, h7, -⟩, -, h9, h10⟩
        exact ⟨hlong, h0, h1, h4, hsyn, hack, h7, h9, h10⟩
      · rintro ⟨-, h0, h1, h4, hsyn, hack, h7, h9, h10⟩
        exact ⟨⟨by omega, h0, h1⟩, h4, hsyn, ⟨hack, h7, by omega⟩, by omega, h9, h10⟩
    by_cases hmagic : 5 ≤ pkt.length ∧ memByte pkt e.behind 0 = 0xFF ∧ memByte pkt e.behind 1 = 0x5A
    · rw [if_pos hmagic, handleLink_dispatched]
      exact if_congr ⟨fun h => hiff.mp ⟨hmagic, h⟩, fun h => (hiff.mpr h).2⟩ rfl rfl
    · rw [if_neg hmagic, if_neg (fun h => hmagic (hiff.mpr h).1)]
      rfl
  · rw [if_neg (fun h : Recognised s pkt => hlong h.1)]
    split
    · rw [handleLink_dispatched]
      exact if_neg fun h => absurd h.2.2.2.1 (by omega)
    · rfl

/-- Bytes up to the end of the parameters make the message. -/
theorem ctrlMsgAt_congr {byte byte' : Nat → UInt8} (h : ∀ i < 15 + (msgLen byte - 6), byte i = byte' i) :
    ctrlMsgAt byte = ctrlMsgAt byte' := by
  have hlen : msgLen byte = msgLen byte' := by
    rw [msgLen, msgLen, h 11 (by omega), h 12 (by omega)]
  have hparams : (List.range (msgLen byte - 6)).map (fun i => byte (15 + i)) =
      (List.range (msgLen byte - 6)).map fun i => byte' (15 + i) := by
    refine List.map_congr_left ?_
    intro i hi
    exact h (15 + i) (by have := List.mem_range.mp hi; omega)
  rw [ctrlMsgAt, ctrlMsgAt, ← hlen, hparams, h 13 (by omega), h 14 (by omega)]

/-- A message that is not whole depends on the memory behind the packet. -/
theorem ctrlMsgAt_behind (hlong : 16 ≤ pkt.length) (h : ¬ HoldsParams pkt) :
    ctrlMsgAt (memByte pkt behind) ≠ ctrlMsgAt (memByte pkt fun i => behind i + 1) := by
  intro heq
  have hlen : ∀ b : Nat → UInt8, msgLen (memByte pkt b) = msgLen fun i => pkt.getD i 0 := by
    intro b
    rw [msgLen, msgLen, memByte_of_lt (by omega), memByte_of_lt (by omega)]
  have hmissing : pkt.length - 15 < msgLen (fun i => pkt.getD i 0) - 6 := by
    rw [HoldsParams] at h
    omega
  -- the first byte behind the packet is a parameter
  have hfirst : ∀ b : Nat → UInt8, (ctrlMsgAt (memByte pkt b)).params[pkt.length - 15]? = some (b 0) := by
    intro b
    have hread : memByte pkt b (15 + (pkt.length - 15)) = b 0 := by
      rw [memByte_of_ge (by omega)]
      exact congrArg b (by omega)
    rw [ctrlMsgAt, hlen, List.getElem?_map, List.getElem?_range hmissing, Option.map_some, hread]
  have h0 := hfirst behind
  rw [heq, hfirst] at h0
  have hone : behind 0 + 1 = behind 0 := Option.some.inj h0
  rw [UInt8.add_eq_left] at hone
  exact absurd hone (by decide)

end Packet

/-! ## The stream

Two divisions of one stream are compared place by place: a packet is identified by where it begins, and it is looked
at with the memory behind it, which is the rest of the stream only by chance. -/

/-- What the handler finds at a place of the stream; `mem` is the memory behind the RFCOMM packet that begins
    there, `rand()` and what `handle_ctrl_msg` answers are the same for every division. -/
def rxEnv (rand : Nat → Nat) (replies : Nat → List (UInt16 × Bytes)) (mem : Nat → Nat → UInt8) (off : Nat) :
    RxEnv :=
  ⟨mem off, rand off, replies off⟩

/-- The RFCOMM packets, each with its place in the stream and the state that meets it. -/
def rxPackets (env : Nat → RxEnv) (s : LinkState) (pkts : List Bytes) : List (Piece LinkState UInt8) :=
  feed (fun off s pkt => (handler s pkt (env off)).1) s 0 pkts

/-- The control messages that are dispatched, each with its place. -/
def rxMessages (env : Nat → RxEnv) (s : LinkState) (pkts : List Bytes) : List (Nat × CtrlMsg) :=
  (rxPackets env s pkts).flatMap fun p =>
    (dispatched (handler p.state p.data (env p.off)).2).map fun m => (p.off, m)

/-- The division keeps the control messages together: the RFCOMM packets `got` against the link packets `sent`. -/
structure KeepsTogether (sent got : List (Piece LinkState UInt8)) : Prop where
  /-- Where a control message is sent, an RFCOMM packet begins and has room for it. -/
  whole : ∀ p ∈ sent, Recognised p.state p.data → HoldsParams p.data ∧ ∃ q ∈ got, q.off = p.off ∧
    16 ≤ q.data.length ∧ HoldsParams q.data ∧ (SynAck q.data → q.state.linkEstablished = true)
  /-- No other RFCOMM packet looks like one. -/
  only : ∀ q ∈ got, Recognised q.state q.data → ∃ p ∈ sent, p.off = q.off ∧ Recognised p.state p.data

section Stream

variable {rand : Nat → Nat} {replies : Nat → List (UInt16 × Bytes)} {mem mem' : Nat → Nat → UInt8}
  {env env' : Nat → RxEnv} {s s' : LinkState} {pkts pkts' : List Bytes} {p q : Piece LinkState UInt8}
  {off : Nat} {m m' : CtrlMsg}

theorem Recognised.ne_nil {pkt : Bytes} (h : Recognised s pkt) : pkt ≠ [] := by
  intro hnil
  have hlong := h.1
  rw [hnil, List.length_nil] at hlong
  omega

theorem mem_rxMessages : (off, m) ∈ rxMessages env s pkts ↔
    ∃ p ∈ rxPackets env s pkts, p.off = off ∧ Recognised p.state p.data ∧
      m = ctrlMsgAt (memByte p.data (env off).behind) := by
  rw [rxMessages, List.mem_flatMap]
  constructor
  · rintro ⟨p, hp, hm⟩
    rw [handler_dispatched] at hm
    by_cases hrec : Recognised p.state p.data
    · rw [if_pos hrec, List.map_singleton, List.mem_singleton, Prod.mk.injEq] at hm
      obtain ⟨rfl, rfl⟩ := hm
      exact ⟨p, hp, rfl, hrec, rfl⟩
    · rw [if_neg hrec] at hm
      exact absurd hm List.not_mem_nil
  · rintro ⟨p, hp, rfl, hrec, rfl⟩
    refine ⟨p, hp, ?_⟩
    rw [handler_dispatched, if_pos hrec]
    exact List.mem_singleton.mpr rfl

/-- The messages come in the order of their places. -/
theorem rxMessages_increasing : (rxMessages env s pkts).Pairwise fun a b => a.1 < b.1 := by
  rw [rxMessages, List.pairwise_flatMap]
  constructor
  · intro p hp
    rw [handler_dispatched]
    split
    · exact List.pairwise_singleton _ _
    · exact .nil
  · refine feed_pairwise.imp ?_
    intro p q hlt a ha b hb
    obtain ⟨m, hm, rfl⟩ := List.mem_map.mp ha
    obtain ⟨m', hm', rfl⟩ := List.mem_map.mp hb
    refine hlt ?_
    rw [handler_dispatched] at hm
    by_cases hrec : Recognised p.state p.data
    · exact hrec.ne_nil
    · rw [if_neg hrec] at hm
      exact absurd hm List.not_mem_nil

theorem rxMessages_unique (h : (off, m) ∈ rxMessages env s pkts) (h' : (off, m') ∈ rxMessages env s pkts) :
    m = m' := by
  obtain ⟨p, hp, hoff, hrec, rfl⟩ := mem_rxMessages.mp h
  obtain ⟨q, hq, hoff', hrec', rfl⟩ := mem_rxMessages.mp h'
  rw [feed_unique hp hq (hoff.trans hoff'.symm) hrec.ne_nil hrec'.ne_nil]

/-- The memory behind a packet is not looked at before. -/
theorem rxPackets_mem (hmem : ∀ o < p.off, mem o = mem' o) (h : p ∈ rxPackets (rxEnv rand replies mem) s pkts) :
    p ∈ rxPackets (rxEnv rand replies mem') s pkts := by
  refine feed_congr ?_ ?_ h
  · intro o s
    rfl
  · intro o s pkt ho
    rw [rxEnv, rxEnv, hmem o ho]

/-- **When the memory has no effect**, every message that is dispatched is whole. -/
theorem holdsParams_of_const {msgs : List (Nat × CtrlMsg)}
    (h : ∀ mem, rxMessages (rxEnv rand replies mem) s pkts = msgs)
    (hp : p ∈ rxPackets (rxEnv rand replies mem) s pkts) (hrec : Recognised p.state p.data) :
    HoldsParams p.data := by
  by_contra hshort
  -- the same memory, with other bytes behind this packet
  let mem' : Nat → Nat → UInt8 := fun o => if o = p.off then fun i => mem o i + 1 else mem o
  have hp' : p ∈ rxPackets (rxEnv rand replies mem') s pkts :=
    rxPackets_mem (fun o ho => (if_neg (Nat.ne_of_lt ho)).symm) hp
  have hm := mem_rxMessages.mpr ⟨p, hp, rfl, hrec, rfl⟩
  have hm' := mem_rxMessages.mpr ⟨p, hp', rfl, hrec, rfl⟩
  rw [h] at hm'
  rw [← h mem] at hm'
  have heq := rxMessages_unique hm hm'
  have hbehind : (rxEnv rand replies mem' p.off).behind = fun i => mem p.off i + 1 := if_pos rfl
  rw [hbehind] at heq
  exact ctrlMsgAt_behind hrec.1 hshort heq

variable (hstream : pkts.flatten = pkts'.flatten) (hp : p ∈ rxPackets env s pkts)
  (hq : q ∈ rxPackets env' s' pkts') (hoff : p.off = q.off)

include hstream hp hq hoff

theorem agree_getD {i : Nat} (hi : i < p.data.length) (hi' : i < q.data.length) :
    p.data.getD i 0 = q.data.getD i 0 := by
  rw [List.getD_eq_getElem?_getD, List.getD_eq_getElem?_getD, feed_agree hstream hp hq hoff hi hi']

theorem agree_recognised (hrec : Recognised p.state p.data) (hlong : 16 ≤ q.data.length)
    (hup : SynAck q.data → q.state.linkEstablished = true) : Recognised q.state q.data := by
  have hbyte : ∀ i < 16, p.data.getD i 0 = q.data.getD i 0 := fun i hi =>
    agree_getD hstream hp hq hoff (Nat.lt_of_lt_of_le hi hrec.1) (Nat.lt_of_lt_of_le hi hlong)
  rw [Recognised] at hrec
  simp only [hbyte 0 (by omega), hbyte 1 (by omega), hbyte 4 (by omega), hbyte 7 (by omega), hbyte 9 (by omega),
    hbyte 10 (by omega)] at hrec
  obtain ⟨-, h0, h1, h4, -, hack, h7, h9, h10⟩ := hrec
  refine ⟨hlong, h0, h1, h4, ?_, hack, h7, h9, h10⟩
  rintro ⟨hsyn, hdown⟩
  rw [hup hsyn] at hdown
  cases hdown

/-- Whole messages at one place are the same. -/
theorem agree_message {behind behind' : Nat → UInt8} (hlong : 16 ≤ p.data.length) (hlong' : 16 ≤ q.data.length)
    (hwhole : HoldsParams p.data) (hwhole' : HoldsParams q.data) :
    ctrlMsgAt (memByte p.data behind) = ctrlMsgAt (memByte q.data behind') := by
  have hbyte : ∀ i < p.data.length, i < q.data.length → memByte p.data behind i = memByte q.data behind' i := by
    intro i hi hi'
    rw [memByte_of_lt hi, memByte_of_lt hi', agree_getD hstream hp hq hoff hi hi']
  have hlen : msgLen (memByte p.data behind) = msgLen fun i => p.data.getD i 0 := by
    rw [msgLen, msgLen, memByte_of_lt (by omega), memByte_of_lt (by omega)]
  have hlen' : msgLen (fun i => p.data.getD i 0) = msgLen fun i => q.data.getD i 0 := by
    rw [msgLen, msgLen, agree_getD hstream hp hq hoff (by omega) (by omega),
      agree_getD hstream hp hq hoff (by omega) (by omega)]
  refine ctrlMsgAt_congr ?_
  intro i hi
  rw [hlen] at hi
  refine hbyte i (Nat.lt_of_lt_of_le hi hwhole) (Nat.lt_of_lt_of_le ?_ hwhole')
  rw [← hlen']
  exact hi

end Stream

/-! ## Independence of the division

One direction takes the messages of both divisions at one place; they are the same where both hold all of it. The
other changes the memory behind the packets: a message that reached beyond its packet would change with it. -/

section Division

variable {rand : Nat → Nat} {replies : Nat → List (UInt16 × Bytes)} {mem mem' : Nat → Nat → UInt8}
  {s : LinkState} {sent got : List Bytes}

theorem keepsTogether_of_same
    (h : ∀ mem mem', rxMessages (rxEnv rand replies mem) s sent = rxMessages (rxEnv rand replies mem') s got) :
    KeepsTogether (rxPackets (rxEnv rand replies mem) s sent) (rxPackets (rxEnv rand replies mem') s got) := by
  constructor
  · intro p hp hrec
    have hm := mem_rxMessages.mpr ⟨p, hp, rfl, hrec, rfl⟩
    rw [h mem mem'] at hm
    obtain ⟨q, hq, hoff, hrec', -⟩ := mem_rxMessages.mp hm
    have hup : SynAck q.data → q.state.linkEstablished = true := by
      intro hsyn
      by_contra hdown
      exact hrec'.2.2.2.2.1 ⟨hsyn, Bool.eq_false_of_not_eq_true hdown⟩
    exact ⟨holdsParams_of_const (fun mem => h mem mem') hp hrec, q, hq, hoff, hrec'.1,
      holdsParams_of_const (fun mem' => (h mem mem').symm) hq hrec', hup⟩
  · intro q hq hrec
    have hm := mem_rxMessages.mpr ⟨q, hq, rfl, hrec, rfl⟩
    rw [← h mem mem'] at hm
    obtain ⟨p, hp, hoff, hrec', -⟩ := mem_rxMessages.mp hm
    exact ⟨p, hp, hoff, hrec'⟩

theorem same_of_keepsTogether (hstream : sent.flatten = got.flatten)
    (h : KeepsTogether (rxPackets (rxEnv rand replies mem) s sent) (rxPackets (rxEnv rand replies mem') s got)) :
    rxMessages (rxEnv rand replies mem) s sent = rxMessages (rxEnv rand replies mem') s got := by
  refine eq_of_increasing rxMessages_increasing rxMessages_increasing ?_
  rintro ⟨off, m⟩
  constructor
  · intro hm
    obtain ⟨p, hp, rfl, hrec, rfl⟩ := mem_rxMessages.mp hm
    obtain ⟨hwhole, q, hq, hoff, hlong, hwhole', hup⟩ := h.whole p hp hrec
    exact mem_rxMessages.mpr ⟨q, hq, hoff, agree_recognised hstream hp hq hoff.symm hrec hlong hup,
      agree_message hstream hp hq hoff.symm hrec.1 hlong hwhole hwhole'⟩
  · intro hm
    obtain ⟨q', hq', rfl, hrec', rfl⟩ := mem_rxMessages.mp hm
    obtain ⟨p, hp, hoff', hrec⟩ := h.only q' hq' hrec'
    obtain ⟨hwhole, q, hq, hoff, hlong, hwhole', -⟩ := h.whole p hp hrec
    have hqq : q = q' := feed_unique hq hq' (hoff.trans hoff')
      (List.ne_nil_of_length_pos (by omega)) hrec'.ne_nil
    subst hqq
    exact mem_rxMessages.mpr ⟨p, hp, hoff', hrec,
      (agree_message hstream hp hq hoff' hrec.1 hlong hwhole hwhole').symm⟩

end Division

/-- **Segmentation.** The link packets `ps` reach us in the RFCOMM packets `pkts`. The control messages are those
    of a division into the link packets, whatever lies in memory behind the packets, exactly when each control
    message has an RFCOMM packet that begins with it and holds all of it, and no other looks like one. -/
theorem segmentation_iff (s : LinkState) (rand : Nat → Nat) (replies : Nat → List (UInt16 × Bytes))
    (ps : List LinkPacket) (pkts : List Bytes) (hstream : pkts.flatten = (ps.map LinkPacket.wire).flatten) :
    (∀ mem mem', rxMessages (rxEnv rand replies mem) s (ps.map LinkPacket.wire) =
        rxMessages (rxEnv rand replies mem') s pkts) ↔
      ∀ mem mem', KeepsTogether (rxPackets (rxEnv rand replies mem) s (ps.map LinkPacket.wire))
        (rxPackets (rxEnv rand replies mem') s pkts) := by
  constructor
  · intro h mem mem'
    exact keepsTogether_of_same h
  · intro h mem mem'
    exact same_of_keepsTogether hstream.symm (h mem mem')

/-- A control message of the device. -/
def messagePacket : LinkPacket := ⟨0x40, 8, 3, 1, controlMsg 0x1D00 []⟩

/-- An acknowledgement of the device. -/
def ackPacket : LinkPacket := ⟨0x40, 8, 4, 0, []⟩

/-- A control message and half of an acknowledgement, then the other half. -/
theorem segmentation_split_ack :
    rxMessages (rxEnv (fun _ => 0) (fun _ => []) fun _ _ => 0) linkUp
        ([messagePacket, ackPacket].map LinkPacket.wire) =
      rxMessages (rxEnv (fun _ => 0) (fun _ => []) fun _ _ => 1) linkUp
        [messagePacket.wire ++ ackPacket.wire.take 4, ackPacket.wire.drop 4] := by
  have hstream : [messagePacket.wire ++ ackPacket.wire.take 4, ackPacket.wire.drop 4].flatten =
      ([messagePacket, ackPacket].map LinkPacket.wire).flatten := by decide
  refine (segmentation_iff linkUp _ _ _ _ hstream).mpr ?_ _ _
  intro mem mem'
  constructor
  · intro p hp hrec
    rcases List.mem_cons.mp hp with rfl | hp
    · exact ⟨by decide, _, List.mem_cons_self, rfl, by decide, by decide, fun _ => rfl⟩
    · obtain rfl := List.mem_singleton.mp hp
      have hshort : ¬ 16 ≤ ackPacket.wire.length := by decide
      exact absurd hrec.1 hshort
  · intro q hq hrec
    rcases List.mem_cons.mp hq with rfl | hq
    · exact ⟨_, List.mem_cons_self, rfl, by decide⟩
    · obtain rfl := List.mem_singleton.mp hq
      have hshort : ¬ 16 ≤ (ackPacket.wire.drop 4).length := by decide
      exact absurd hrec.1 hshort

/-- **What is lost**: the control message in two RFCOMM packets, and the second one of two in the same. -/
theorem segmentation_loses :
    let env := rxEnv (fun _ => 0) (fun _ => []) fun _ _ => 0
    let messages := fun pkts => (rxMessages env linkUp pkts).map Prod.snd
    [messagePacket.wire.take 12, messagePacket.wire.drop 12].flatten =
      ([messagePacket].map LinkPacket.wire).flatten ∧
      messages ([messagePacket].map LinkPacket.wire) ≠
        messages [messagePacket.wire.take 12, messagePacket.wire.drop 12] ∧
      messages ([messagePacket, messagePacket].map LinkPacket.wire) ≠
        messages [messagePacket.wire ++ messagePacket.wire] := by
  decide

end Showcase
