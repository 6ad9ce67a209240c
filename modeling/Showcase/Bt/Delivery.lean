import Showcase.Bt.Link

/-!
# `Bt.Delivery` — what the link layer delivers

Which control messages of the device reach `handle_ctrl_msg`, and what is acknowledged. The handler keeps no record
of the sequence numbers it has seen: `peer_psn` is the number of the packet that came last, and every data packet
is dispatched.

* `Reliable` — at most once, in order, and cumulative acknowledgements.
* `delivery_as_received` — what it does with the packets of the device in any order, and that this is reliable when
  they come in order.
-/

namespace Showcase

open Lib

/-! ## Runs -/

/-- What happens to the link. A packet of the device reaches us in an RFCOMM packet of its own; `n` counts its data
    packets from 1 and does not wrap. Other parts of the program send control messages too. -/
inductive LinkInput where
  | arrive (n : Nat) (p : LinkPacket) (e : RxEnv)
  | send (msgId : UInt16) (params : Bytes)

/-- One input. -/
def linkStep (s : LinkState) : LinkInput → LinkState × List LinkOut
  | .arrive _ p e => handler s p.wire e
  | .send msgId params =>
      let (p, s) := sendControlMsg s msgId params
      (s, [.send p])

/-- A step of a run: the state before it, and what the program does. -/
structure LinkRound where
  state : LinkState
  input : LinkInput
  outs : List LinkOut

/-- A run over the inputs. -/
def linkRun (s : LinkState) : List LinkInput → List LinkRound
  | [] => []
  | i :: is => ⟨s, i, (linkStep s i).2⟩ :: linkRun (linkStep s i).1 is

/-- The acknowledgement number of a packet we send, when it has one. -/
def ackOf (p : Bytes) : Option UInt8 := if p.getD 4 0 &&& 0x40 ≠ 0 then some (p.getD 6 0) else none

/-- The acknowledgement numbers that are sent. -/
def acks (outs : List LinkOut) : List UInt8 :=
  outs.filterMap fun o => match o with
    | .send p => ackOf p
    | .dispatch _ => none

/-- The calls of `handle_ctrl_msg`. -/
def dispatched (outs : List LinkOut) : List CtrlMsg :=
  outs.filterMap fun o => match o with
    | .send _ => none
    | .dispatch m => some m

/-- Each acknowledgement fits the inputs up to it. -/
def EveryAck (ok : List LinkInput → UInt8 → Prop) (seen : List LinkInput) : List LinkRound → Prop
  | [] => True
  | r :: run => (∀ a ∈ acks r.outs, ok (seen ++ [r.input]) a) ∧ EveryAck ok (seen ++ [r.input]) run

/-! ## Reliable delivery -/

/-- The sequence number says which packet it is, modulo 256. -/
def Numbered (psn₀ : UInt8) : LinkInput → Prop
  | .arrive n p _ => p.seq = psn₀ + UInt8.ofNat n
  | .send _ _ => True

/-- The data packets that were received. -/
def dataNumbers : List LinkInput → List Nat
  | [] => []
  | .arrive n p _ :: is => if p.IsData then n :: dataNumbers is else dataNumbers is
  | .send _ _ :: is => dataNumbers is

/-- `k` is the highest number up to which all were received. -/
def Highest (numbers : List Nat) (k : Nat) : Prop := (∀ j, 1 ≤ j → j ≤ k → j ∈ numbers) ∧ k + 1 ∉ numbers

/-- The packets whose control message a step dispatches. -/
def LinkRound.delivered (r : LinkRound) : List Nat :=
  match r.input with
  | .arrive n _ _ => (dispatched r.outs).map fun _ => n
  | .send _ _ => []

/-- At most once and in order; an acknowledgement is the highest number up to which all data was received. -/
def Reliable (psn₀ : UInt8) (run : List LinkRound) : Prop :=
  (run.flatMap LinkRound.delivered).Pairwise (· < ·) ∧
    EveryAck (fun seen a => ∃ k, Highest (dataNumbers seen) k ∧ a = psn₀ + UInt8.ofNat k) [] run

/-! ## One packet

Whatever a packet is, the step sends at most acknowledgements of the number that came last, and dispatches at most the
message in it. These are all the facts about the handler that the runs below need. -/

theorem ackOf_header (total : Nat) (ctrl seq ack session : UInt8) (rest : Bytes) :
    ackOf (linkHeader total ctrl seq ack session ++ rest) = if ctrl &&& 0x40 ≠ 0 then some ack else none :=
  rfl

theorem ackOf_sendAck (s : LinkState) : ackOf (sendAck s) = some s.peerPsn := by
  have h := ackOf_header 9 0x40 s.myNextPsn s.peerPsn 0x00 []
  rw [List.append_nil, if_pos (by decide)] at h
  exact h

theorem ackOf_sendSyn (s : LinkState) : ackOf (sendSyn s) = none := by
  rw [sendSyn, linkPacket, List.append_assoc, ackOf_header, if_neg (by decide)]

theorem ackOf_sendControlMsg (s : LinkState) (msgId : UInt16) (params : Bytes) :
    ackOf (sendControlMsg s msgId params).1 = some s.peerPsn := by
  rw [sendControlMsg, linkPacket, List.append_assoc, ackOf_header, if_pos (by decide)]

@[simp] theorem acks_nil : acks [] = [] := rfl

@[simp] theorem acks_send (p : Bytes) (outs : List LinkOut) :
    acks (.send p :: outs) = (ackOf p).toList ++ acks outs := by
  rw [acks, List.filterMap_cons]
  cases h : ackOf p with
  | none => simp [h, acks]
  | some a => simp [h, acks]

@[simp] theorem acks_dispatch (m : CtrlMsg) (outs : List LinkOut) : acks (.dispatch m :: outs) = acks outs := rfl

@[simp] theorem dispatched_nil : dispatched [] = [] := rfl

@[simp] theorem dispatched_send (p : Bytes) (outs : List LinkOut) :
    dispatched (.send p :: outs) = dispatched outs := rfl

@[simp] theorem dispatched_dispatch (m : CtrlMsg) (outs : List LinkOut) :
    dispatched (.dispatch m :: outs) = m :: dispatched outs := rfl

/-- The replies acknowledge what had come last, dispatch nothing and leave the receiving side alone. -/
theorem sendReplies_spec (s : LinkState) (replies : List (UInt16 × Bytes)) :
    (∀ a ∈ acks (sendReplies s replies).2, a = s.peerPsn) ∧ dispatched (sendReplies s replies).2 = [] ∧
      (sendReplies s replies).1.peerPsn = s.peerPsn := by
  induction replies generalizing s with
  | nil => exact ⟨fun _ ha => absurd ha List.not_mem_nil, rfl, rfl⟩
  | cons r replies ih =>
      obtain ⟨msgId, params⟩ := r
      obtain ⟨hacks, hdispatched, hpeer⟩ := ih (sendControlMsg s msgId params).2
      have hcons : sendReplies s ((msgId, params) :: replies) =
          ((sendReplies (sendControlMsg s msgId params).2 replies).1,
            .send (sendControlMsg s msgId params).1 ::
              (sendReplies (sendControlMsg s msgId params).2 replies).2) := rfl
      rw [hcons]
      refine ⟨?_, hdispatched, hpeer⟩
      intro a ha
      rw [acks_send, ackOf_sendControlMsg] at ha
      rcases List.mem_cons.mp ha with rfl | ha
      · rfl
      · exact hacks a ha

/-- The control message that is read out of the input in a state. -/
def LinkInput.carried (s : LinkState) : LinkInput → List CtrlMsg
  | .arrive _ p e => if Intercepted s p then [] else (p.control e.behind).toList
  | .send _ _ => []

/-- The sequence number that came last. -/
def LinkInput.lastSeq (psn : UInt8) : LinkInput → UInt8
  | .arrive _ p _ => if p.ctrl = 0x10 then psn else p.seq
  | .send _ _ => psn

/-- **One input**: what is dispatched, what is acknowledged, and the number that is kept. -/
theorem linkStep_spec (s : LinkState) (i : LinkInput) :
    dispatched (linkStep s i).2 = i.carried s ∧ (∀ a ∈ acks (linkStep s i).2, a = i.lastSeq s.peerPsn) ∧
      (linkStep s i).1.peerPsn = i.lastSeq s.peerPsn := by
  cases i with
  | send msgId params =>
      refine ⟨rfl, ?_, rfl⟩
      intro a ha
      rw [show (linkStep s (.send msgId params)).2 = [.send (sendControlMsg s msgId params).1] from rfl,
        acks_send, ackOf_sendControlMsg] at ha
      exact List.mem_singleton.mp ha
  | arrive n p e =>
      rw [LinkInput.carried, LinkInput.lastSeq, linkStep, handler_wire, handleLink]
      simp only [p.wire_ctrl, p.wire_seq, p.wire_ack, p.isData_wire, p.isControl_wire]
      by_cases hrst : p.ctrl = 0x10
      · have hseen : Intercepted s p := .inl hrst
        simp [hrst, hseen, ackOf_sendSyn, newPsn]
      by_cases hsyn : p.ctrl &&& 0xC0 = 0xC0 ∧ s.linkEstablished = false
      · have hseen : Intercepted s p := .inr hsyn
        rw [if_neg hrst, if_pos hsyn, if_pos hseen, if_neg hrst]
        split
        · simp [ackOf_sendAck]
        · simp
      have hlook : ¬ Intercepted s p := fun h => h.elim hrst hsyn
      rw [if_neg hrst, if_neg hsyn, if_neg hlook, if_neg hrst, LinkPacket.control]
      by_cases hdata : p.IsData
      · rw [if_pos hdata]
        by_cases hcontrol : 6 ≤ p.payload.length ∧ p.payload.take 2 = [0x40, 0x40]
        · obtain ⟨hacks, hdispatched, hpeer⟩ := sendReplies_spec { s with peerPsn := p.seq } e.replies
          rw [if_pos hcontrol, if_pos ⟨hdata, hcontrol⟩]
          refine ⟨?_, ?_, hpeer⟩
          · simp [hdispatched]
          · intro a ha
            rw [acks_send, ackOf_sendAck] at ha
            rcases List.mem_cons.mp ha with rfl | ha
            · rfl
            · exact hacks a ha
        · rw [if_neg hcontrol, if_neg (fun h => hcontrol h.2)]
          simp [ackOf_sendAck]
      · rw [if_neg hdata, if_neg (fun h => hdata h.1)]
        simp

theorem carried_not_data {s : LinkState} {n : Nat} {p : LinkPacket} {e : RxEnv} (h : ¬ p.IsData) :
    (LinkInput.arrive n p e).carried s = [] := by
  have hnone : p.control e.behind = none := if_neg fun hc => h hc.1
  rw [LinkInput.carried, hnone]
  split
  · rfl
  · rfl

theorem carried_length {s : LinkState} {n : Nat} {p : LinkPacket} {e : RxEnv} :
    ((LinkInput.arrive n p e).carried s).length ≤ 1 := by
  rw [LinkInput.carried]
  split
  · exact Nat.zero_le 1
  · cases p.control e.behind with
    | none => exact Nat.zero_le 1
    | some m => exact Nat.le_refl 1

/-! ## Every run -/

/-- The acknowledgements are the number that came last. -/
theorem everyAck_lastSeq {psn : UInt8} {is : List LinkInput} {s : LinkState} {seen : List LinkInput}
    (hpeer : s.peerPsn = seen.foldl LinkInput.lastSeq psn) :
    EveryAck (fun seen a => a = seen.foldl LinkInput.lastSeq psn) seen (linkRun s is) := by
  induction is generalizing s seen with
  | nil => trivial
  | cons i is ih =>
      obtain ⟨-, hacks, hnext⟩ := linkStep_spec s i
      have hseen : (seen ++ [i]).foldl LinkInput.lastSeq psn = i.lastSeq s.peerPsn := by
        rw [List.foldl_append, hpeer]
        rfl
      refine ⟨?_, ih (hnext.trans hseen.symm)⟩
      intro a ha
      exact (hacks a ha).trans hseen.symm

/-- Each packet is dispatched as it comes. -/
theorem dispatched_run {is : List LinkInput} {s : LinkState} :
    ∀ r ∈ linkRun s is, dispatched r.outs = r.input.carried r.state := by
  induction is generalizing s with
  | nil => exact fun r hr => absurd hr List.not_mem_nil
  | cons i is ih =>
      intro r hr
      rcases List.mem_cons.mp hr with rfl | hr
      · exact (linkStep_spec s i).1
      · exact ih r hr

/-! ## Runs in order

When the packets come in order, the number that came last is the highest one up to which all were received; so an
acknowledgement of the last packet is one of them all. The induction is on the inputs still to come, behind `k` data
packets. -/

/-- The device's data packets come in order, none of them twice and none missing, in one link; its other packets
    carry the number of the data packet before them. -/
def InOrder (k : Nat) : List LinkInput → Prop
  | [] => True
  | .arrive n p _ :: is => p.ctrl ≠ 0x10 ∧ n = (if p.IsData then k + 1 else k) ∧ InOrder n is
  | .send _ _ :: is => InOrder k is

/-- The number behind an input. -/
def LinkInput.number (k : Nat) : LinkInput → Nat
  | .arrive n _ _ => n
  | .send _ _ => k

section Ordered

variable {psn₀ : UInt8} {k : Nat} {i : LinkInput} {is : List LinkInput} {s : LinkState} {seen : List LinkInput}

theorem InOrder.tail (h : InOrder k (i :: is)) : InOrder (i.number k) is := by
  cases i with
  | arrive n p e => exact h.2.2
  | send msgId params => exact h

theorem InOrder.lastSeq (h : InOrder k (i :: is)) (hnum : Numbered psn₀ i) :
    i.lastSeq (psn₀ + UInt8.ofNat k) = psn₀ + UInt8.ofNat (i.number k) := by
  cases i with
  | arrive n p e =>
      rw [LinkInput.lastSeq, if_neg h.1]
      exact hnum
  | send msgId params => rfl

theorem dataNumbers_append (seen : List LinkInput) (i : LinkInput) :
    dataNumbers (seen ++ [i]) = dataNumbers seen ++ dataNumbers [i] := by
  induction seen with
  | nil => rfl
  | cons j seen ih =>
      cases j with
      | arrive n p e =>
          rw [List.cons_append, dataNumbers, dataNumbers, ih]
          split
          · rfl
          · rfl
      | send msgId params => exact ih

/-- The numbers that were received grow by the next one. -/
theorem InOrder.dataNumbers_mem (h : InOrder k (i :: is)) (hseen : ∀ j, j ∈ dataNumbers seen ↔ 1 ≤ j ∧ j ≤ k)
    (j : Nat) :
    j ∈ dataNumbers (seen ++ [i]) ↔ 1 ≤ j ∧ j ≤ i.number k := by
  rw [dataNumbers_append, List.mem_append, hseen]
  cases i with
  | arrive n p e =>
      have hn := h.2.1
      rw [dataNumbers, LinkInput.number]
      by_cases hdata : p.IsData
      · rw [if_pos hdata] at hn ⊢
        rw [dataNumbers, List.mem_singleton]
        omega
      · rw [if_neg hdata] at hn ⊢
        rw [dataNumbers, hn]
        simp
  | send msgId params => simp [dataNumbers, LinkInput.number]

/-- The message of the next number is dispatched, if any. -/
theorem InOrder.delivered (h : InOrder k (i :: is)) :
    LinkRound.delivered ⟨s, i, (linkStep s i).2⟩ = [] ∨
      (k < i.number k ∧ LinkRound.delivered ⟨s, i, (linkStep s i).2⟩ = [i.number k]) := by
  cases i with
  | send msgId params => exact .inl rfl
  | arrive n p e =>
      rw [LinkRound.delivered, (linkStep_spec s (.arrive n p e)).1]
      have hn := h.2.1
      by_cases hdata : p.IsData
      · rw [if_pos hdata] at hn
        cases hc : (LinkInput.arrive n p e).carried s with
        | nil => exact .inl rfl
        | cons m ms =>
            have hlen := carried_length (s := s) (n := n) (p := p) (e := e)
            rw [hc, List.length_cons] at hlen
            have hms : ms = [] := List.eq_nil_of_length_eq_zero (by omega)
            rw [hms]
            exact .inr ⟨by rw [LinkInput.number]; omega, rfl⟩
      · rw [carried_not_data hdata]
        exact .inl rfl

theorem highest_of_mem {numbers : List Nat} (h : ∀ j, j ∈ numbers ↔ 1 ≤ j ∧ j ≤ k) : Highest numbers k :=
  ⟨fun j h1 hk => (h j).mpr ⟨h1, hk⟩, fun hmem => absurd ((h _).mp hmem).2 (by omega)⟩

/-- The induction: `k` data packets have come, with the numbers from 1 to `k`. -/
theorem reliable_from (hpeer : s.peerPsn = psn₀ + UInt8.ofNat k)
    (hseen : ∀ j, j ∈ dataNumbers seen ↔ 1 ≤ j ∧ j ≤ k) (hnum : ∀ i ∈ is, Numbered psn₀ i) (h : InOrder k is) :
    (∀ d ∈ (linkRun s is).flatMap LinkRound.delivered, k < d) ∧
      ((linkRun s is).flatMap LinkRound.delivered).Pairwise (· < ·) ∧
      EveryAck (fun seen a => ∃ k, Highest (dataNumbers seen) k ∧ a = psn₀ + UInt8.ofNat k) seen
        (linkRun s is) := by
  induction is generalizing s k seen with
  | nil => exact ⟨fun d hd => absurd hd List.not_mem_nil, .nil, trivial⟩
  | cons i is ih =>
      obtain ⟨-, hacks, hnext⟩ := linkStep_spec s i
      have hlast : i.lastSeq s.peerPsn = psn₀ + UInt8.ofNat (i.number k) := by
        rw [hpeer, h.lastSeq (hnum i List.mem_cons_self)]
      have hmem := h.dataNumbers_mem hseen
      obtain ⟨hlater, hordered, hrest⟩ :=
        ih (hnext.trans hlast) hmem (fun j hj => hnum j (List.mem_cons_of_mem i hj)) h.tail
      have hack : ∀ a ∈ acks (linkStep s i).2,
          ∃ k, Highest (dataNumbers (seen ++ [i])) k ∧ a = psn₀ + UInt8.ofNat k :=
        fun a ha => ⟨i.number k, highest_of_mem hmem, (hacks a ha).trans hlast⟩
      have hmono : k ≤ i.number k := by
        cases i with
        | arrive n p e =>
            have hn := h.2.1
            rw [LinkInput.number]
            split at hn
            · omega
            · omega
        | send msgId params => exact Nat.le_refl k
      rw [linkRun, List.flatMap_cons]
      rcases h.delivered (s := s) with hnone | ⟨hlt, hone⟩
      · rw [hnone, List.nil_append]
        exact ⟨fun d hd => Nat.lt_of_le_of_lt hmono (hlater d hd), hordered, hack, hrest⟩
      · rw [hone, List.singleton_append]
        refine ⟨?_, List.pairwise_cons.mpr ⟨hlater, hordered⟩, hack, hrest⟩
        intro d hd
        rcases List.mem_cons.mp hd with rfl | hd
        · exact hlt
        · exact Nat.lt_of_le_of_lt hmono (hlater d hd)

end Ordered

/-- **What is delivered.** Whatever the device's packets and their order: the control message of a packet is
    dispatched each time the packet comes, as it comes, and every acknowledgement number is the sequence number of
    the packet that came last. When the data packets come in order, each once, delivery is reliable. -/
theorem delivery_as_received (s : LinkState) (is : List LinkInput) :
    (∀ r ∈ linkRun s is, dispatched r.outs = r.input.carried r.state) ∧
      EveryAck (fun seen a => a = seen.foldl LinkInput.lastSeq s.peerPsn) [] (linkRun s is) ∧
      ∀ psn₀, s.peerPsn = psn₀ → (∀ i ∈ is, Numbered psn₀ i) → InOrder 0 is →
        Reliable psn₀ (linkRun s is) := by
  refine ⟨dispatched_run, everyAck_lastSeq rfl, ?_⟩
  intro psn₀ hpeer hnum h
  have hfirst : s.peerPsn = psn₀ + UInt8.ofNat 0 := hpeer.trans (UInt8.add_zero psn₀).symm
  have hnothing : ∀ j, j ∈ dataNumbers [] ↔ 1 ≤ j ∧ j ≤ 0 := by
    intro j
    rw [dataNumbers]
    exact iff_of_false List.not_mem_nil (by omega)
  exact (reliable_from hfirst hnothing hnum h).2

/-- A link whose SYN-ACK had the number 7. -/
def linkUp : LinkState := ⟨true, true, 3, 4, 7⟩

/-- The device's first data packets on it. -/
def devicePacket (n : Nat) : LinkInput :=
  .arrive n ⟨0x40, 7 + UInt8.ofNat n, 3, 1, controlMsg 0x1D00 []⟩ ⟨fun _ => 0, 0, []⟩

/-- Two packets in order. -/
theorem delivery_two_packets : Reliable 7 (linkRun linkUp [devicePacket 1, devicePacket 2]) := by
  have hnum : ∀ i ∈ [devicePacket 1, devicePacket 2], Numbered 7 i := by
    intro i hi
    rcases List.mem_cons.mp hi with rfl | hi
    · rfl
    · rw [List.mem_singleton.mp hi]
      rfl
  have hin : InOrder 0 [devicePacket 1, devicePacket 2] :=
    ⟨by decide, by decide, by decide, by decide, trivial⟩
  exact (delivery_as_received linkUp [devicePacket 1, devicePacket 2]).2.2 7 rfl hnum hin

/-- **What is not reliable**: a retransmission, when the device did not see our acknowledgement, is delivered again,
    and a packet behind a gap is acknowledged as if the gap had come. -/
theorem retransmission_delivered_twice :
    (∀ i ∈ [devicePacket 1, devicePacket 1], Numbered 7 i) ∧
      ¬ Reliable 7 (linkRun linkUp [devicePacket 1, devicePacket 1]) ∧
      Numbered 7 (devicePacket 2) ∧ ¬ Reliable 7 (linkRun linkUp [devicePacket 2]) := by
  refine ⟨?_, ?_, rfl, ?_⟩
  · intro i hi
    rcases List.mem_cons.mp hi with rfl | hi
    · rfl
    · rw [List.mem_singleton.mp hi]
      rfl
  · intro h
    have htwice : (linkRun linkUp [devicePacket 1, devicePacket 1]).flatMap LinkRound.delivered = [1, 1] := by
      decide
    have hordered := h.1
    rw [htwice] at hordered
    exact absurd hordered (by decide)
  · intro h
    have hack : (9 : UInt8) ∈ acks (linkStep linkUp (devicePacket 2)).2 := by decide
    obtain ⟨k, hhighest, hk⟩ := h.2.1 9 hack
    have hgap : dataNumbers ([] ++ [devicePacket 2]) = [2] := by decide
    rw [hgap] at hhighest
    -- without packet 1, nothing may be acknowledged
    have hzero : k = 0 := by
      by_contra hne
      exact absurd (hhighest.1 1 (Nat.le_refl 1) (by omega)) (by decide)
    rw [hzero] at hk
    exact absurd hk (by decide)

end Showcase
