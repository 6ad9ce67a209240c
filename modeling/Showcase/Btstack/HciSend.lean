import Showcase.Btstack.HciAcl

/-!
# `Btstack.HciSend` — L2CAP packets to the controller

`hci_send_acl_packet_buffer` in `hci.c`: a packet that is longer than the controller takes is sent in fragments. The
header of a fragment is written over the end of the fragment in front of it, in the one packet buffer of the stack. When
the controller has no room for more, the rest is sent from `hci_run`, and the buffer is reserved until then.

The transport is `hci_transport_h4_iphone.c`, which keeps nothing of a packet that it has sent. There
`acl_fragmentation_tx_active` is set as long as fragments are left, so a connection that is closed meanwhile does not
release the buffer.

## Contents
- `sendFragment`, `sendFragments` — the loop of `hci_send_acl_packet_fragments`.
- `senderStep` — sending, `hci_run` and the end of a connection.
- `sendFragments_first`, `sendFragments_rest` — what is sent of a packet, and what is left of it.
- `Sending` — what a run has sent; `sending_step` keeps it.
- **`acl_stuck_iff`** — when nothing is sent any more.
- **`acl_round_trip`** — `acl_handler` makes the packets again.
-/

namespace Showcase.Btstack

open Lib

/-! ## The packet buffer -/

/-- Bytes that are written over others. -/
def overwrite (b : Bytes) (off : Nat) (data : Bytes) : Bytes := b.take off ++ data ++ b.drop (off + data.length)

section

variable {b data : Bytes} {off n : Nat}

theorem length_overwrite (h : off + data.length ≤ b.length) : (overwrite b off data).length = b.length := by
  simp only [overwrite, List.length_append, List.length_take, List.length_drop]
  omega

theorem take_overwrite (data : Bytes) (h : off ≤ b.length) (hn : n ≤ off) :
    (overwrite b off data).take n = b.take n := by
  have hlen : n ≤ (b.take off).length := by
    rw [List.length_take]
    omega
  rw [overwrite, List.append_assoc, List.take_append_of_le_length hlen, List.take_take, Nat.min_eq_left hn]

theorem drop_overwrite (data : Bytes) (h : off ≤ b.length) (hn : n ≤ off) :
    (overwrite b off data).drop n = (b.drop n).take (off - n) ++ data ++ b.drop (off + data.length) := by
  have hlen : n ≤ (b.take off).length := by
    rw [List.length_take]
    omega
  rw [overwrite, List.append_assoc, List.drop_append_of_le_length hlen, List.drop_take, List.append_assoc]

/-- What is behind stays. -/
theorem drop_overwrite_behind (h : off ≤ b.length) (hn : off + data.length ≤ n) :
    (overwrite b off data).drop n = b.drop n := by
  obtain ⟨k, rfl⟩ := Nat.exists_eq_add_of_le hn
  have hlen : (b.take off ++ data).length = off + data.length := by
    rw [List.length_append, List.length_take_of_le h]
  rw [overwrite, ← List.drop_drop, List.drop_left' hlen, List.drop_drop]

end

/-! ## Sending -/

/-- What `hci_stack_t` has for the packet that is sent. -/
structure AclSender where
  hciPacketBuffer : Bytes
  hciPacketBufferReserved : Bool
  aclFragmentationPos : Nat
  aclFragmentationTotalSize : Nat
  aclFragmentationTxActive : Bool

/-- The flags of a fragment that continues a packet. -/
def continuingFlags (handleAndFlags : UInt16) : UInt16 := (handleAndFlags &&& 0xcfff) ||| 0x1000

/-- The body of the loop in `hci_send_acl_packet_fragments`: what is given to the transport, and if fragments are
    left. -/
def sendFragment (maxAclDataPacketLength : Nat) (s : AclSender) : AclSender × Bytes × Bool :=
  let aclHeaderPos := s.aclFragmentationPos - 4
  let rest := s.aclFragmentationTotalSize - s.aclFragmentationPos
  let moreFragments := decide (maxAclDataPacketLength < rest)
  -- if ACL packet is larger than Bluetooth packet buffer, only send max_acl_data_packet_length
  let length := if moreFragments then maxAclDataPacketLength else rest
  -- copy handle_and_flags if not first fragment and update packet boundary flags
  let buffer :=
    if 0 < aclHeaderPos then
      overwrite s.hciPacketBuffer aclHeaderPos
        (littleEndianStore16 (continuingFlags (littleEndianRead16 s.hciPacketBuffer 0)))
    else s.hciPacketBuffer
  -- update header len
  let buffer := overwrite buffer (aclHeaderPos + 2) (littleEndianStore16 (UInt16.ofNat length))
  let packet := (buffer.drop aclHeaderPos).take (length + 4)
  if moreFragments then (⟨buffer, s.hciPacketBufferReserved, s.aclFragmentationPos + length,
    s.aclFragmentationTotalSize, true⟩, packet, true)
  else (⟨buffer, s.hciPacketBufferReserved, 0, 0, true⟩, packet, false)

/-- `hci_send_acl_packet_fragments`, when the controller has room for so many packets. -/
def sendFragments (maxAclDataPacketLength : Nat) : Nat → AclSender → AclSender × List Bytes
  | 0, s => (s, [])
  | free + 1, s =>
      let r := sendFragment maxAclDataPacketLength s
      if r.2.2 then
        let r' := sendFragments maxAclDataPacketLength free r.1
        (r'.1, r.2.1 :: r'.2)
      -- release buffer now for synchronous transport
      else ({ r.1 with aclFragmentationTxActive := false, hciPacketBufferReserved := false }, [r.2.1])

/-- A packet is sent, `hci_run` is called, or a connection is closed; `free` is what
    `hci_number_free_acl_slots_for_handle` returns. -/
inductive SenderInput where
  | send (handleAndFlags : UInt16) (data : Bytes) (free : Nat)
  | run (connected : Bool) (free : Nat)
  | closed (handle : UInt16)

/-- `hci_send_acl_packet_buffer`, in a buffer that has just been reserved. -/
def hciSendAclPacketBuffer (maxAclDataPacketLength : Nat) (s : AclSender) (free : Nat) (size : Nat) :
    AclSender × List Bytes :=
  if free = 0 then ({ s with hciPacketBufferReserved := false }, [])
  else
    sendFragments maxAclDataPacketLength free
      { s with aclFragmentationTotalSize := size, aclFragmentationPos := 4 }

/-- `hci_run_acl_fragments`. -/
def hciRunAclFragments (maxAclDataPacketLength : Nat) (s : AclSender) (connected : Bool) (free : Nat) :
    AclSender × List Bytes :=
  if 0 < s.aclFragmentationTotalSize then
    if connected then sendFragments maxAclDataPacketLength free s
    -- connection gone -> discard further fragments
    else ({ s with aclFragmentationTotalSize := 0, aclFragmentationPos := 0 }, [])
  else (s, [])

/-- `HCI_EVENT_DISCONNECTION_COMPLETE`. -/
def disconnectionComplete (s : AclSender) (handle : UInt16) : AclSender :=
  if 0 < s.aclFragmentationTotalSize ∧ handle = readAclConnectionHandle s.hciPacketBuffer then
    { s with
      aclFragmentationTotalSize := 0, aclFragmentationPos := 0
      hciPacketBufferReserved := if s.aclFragmentationTxActive then s.hciPacketBufferReserved else false }
  else s

/-- One of them, with what is given to the transport. A packet is only sent when the buffer can be reserved. -/
def senderStep (maxAclDataPacketLength : Nat) (s : AclSender) : SenderInput → AclSender × List Bytes
  | .send handleAndFlags data free =>
      if s.hciPacketBufferReserved then (s, [])
      else
        hciSendAclPacketBuffer maxAclDataPacketLength
          { s with hciPacketBuffer := aclPacket handleAndFlags data, hciPacketBufferReserved := true } free
          (4 + data.length)
  | .run connected free => hciRunAclFragments maxAclDataPacketLength s connected free
  | .closed handle => (disconnectionComplete s handle, [])

/-! ## What is sent of a packet

The header of a fragment is written in front of the data that is left. This destroys only bytes that have been sent,
so behind each fragment the buffer holds the rest of the packet where it was. The induction is on the fragments. -/

/-- The packet has begun with `w`, and `data` is left of it. -/
structure AclSender.Sends (s : AclSender) (w : UInt16) (data : Bytes) : Prop where
  reserved : s.hciPacketBufferReserved = true
  pos : s.aclFragmentationPos = 4 ∨ 6 ≤ s.aclFragmentationPos
  total : s.aclFragmentationTotalSize = s.aclFragmentationPos + data.length
  handle : s.hciPacketBuffer.take 2 = littleEndianStore16 w
  rest : s.hciPacketBuffer.drop s.aclFragmentationPos = data
  length : s.hciPacketBuffer.length = s.aclFragmentationTotalSize

/-- No packet is being sent. -/
structure AclSender.Idle (s : AclSender) : Prop where
  reserved : s.hciPacketBufferReserved = false
  total : s.aclFragmentationTotalSize = 0

/-- The header of the next fragment. -/
def AclSender.flags (s : AclSender) (w : UInt16) : UInt16 :=
  if s.aclFragmentationPos = 4 then w else continuingFlags w

section

variable {maxLength : Nat} {s : AclSender} {w : UInt16} {data : Bytes}

/-- The buffer with the header of the next fragment. -/
def AclSender.withHeader (s : AclSender) (length : UInt16) : Bytes :=
  overwrite
    (if 0 < s.aclFragmentationPos - 4 then
      overwrite s.hciPacketBuffer (s.aclFragmentationPos - 4)
        (littleEndianStore16 (continuingFlags (littleEndianRead16 s.hciPacketBuffer 0)))
    else s.hciPacketBuffer)
    (s.aclFragmentationPos - 4 + 2) (littleEndianStore16 length)

/-- The header is written in front of the data that is left. -/
theorem withHeader_eq (h : s.Sends w data) (length : UInt16) :
    (s.withHeader length).length = s.hciPacketBuffer.length ∧ (s.withHeader length).take 2 = littleEndianStore16 w ∧
      (s.withHeader length).drop (s.aclFragmentationPos - 4) =
        littleEndianStore16 (s.flags w) ++ littleEndianStore16 length ++ data := by
  have htotal := h.total
  have hlength := h.length
  have htwo : ∀ v : UInt16, (littleEndianStore16 v).length = 2 := length_littleEndianStore16
  rcases h.pos with hpos | hpos
  · -- the first fragment has its flags
    rw [AclSender.withHeader, AclSender.flags, if_pos hpos, hpos, if_neg (Nat.lt_irrefl 0)]
    have hoff : 0 + 2 ≤ s.hciPacketBuffer.length := by omega
    refine ⟨length_overwrite (by rw [htwo]; omega), ?_, ?_⟩
    · rw [take_overwrite _ hoff (Nat.le_refl 2), h.handle]
    · rw [drop_overwrite _ hoff (Nat.zero_le _), htwo, List.drop_zero, ← h.rest, hpos]
      exact congrArg (· ++ _ ++ _) h.handle
  · -- a later one takes the handle from the start of the buffer, which no header has reached
    have hread : littleEndianRead16 s.hciPacketBuffer 0 = w := by
      have hsplit := List.take_append_drop 2 s.hciPacketBuffer
      rw [h.handle] at hsplit
      rw [← hsplit]
      exact littleEndianRead16_store [] w _
    have hflags : s.flags w = continuingFlags w := if_neg (by omega)
    have hlater : 0 < s.aclFragmentationPos - 4 := by omega
    rw [hflags, AclSender.withHeader, if_pos hlater, hread]
    have hoff : s.aclFragmentationPos - 4 ≤ s.hciPacketBuffer.length := by omega
    have hfront := drop_overwrite (littleEndianStore16 (continuingFlags w)) hoff (Nat.le_refl _)
    have hstart := take_overwrite (littleEndianStore16 (continuingFlags w)) hoff (n := 2) (by omega)
    have hback : (overwrite s.hciPacketBuffer (s.aclFragmentationPos - 4)
        (littleEndianStore16 (continuingFlags w))).drop s.aclFragmentationPos = data := by
      rw [drop_overwrite_behind hoff (by rw [htwo]; omega), h.rest]
    have hlen : (overwrite s.hciPacketBuffer (s.aclFragmentationPos - 4)
        (littleEndianStore16 (continuingFlags w))).length = s.hciPacketBuffer.length :=
      length_overwrite (by rw [htwo]; omega)
    -- the rest is about the buffer with the flags
    generalize overwrite s.hciPacketBuffer (s.aclFragmentationPos - 4)
      (littleEndianStore16 (continuingFlags w)) = b at *
    refine ⟨?_, ?_, ?_⟩
    · rw [length_overwrite (by rw [htwo, hlen]; omega), hlen]
    · rw [take_overwrite _ (by rw [hlen]; omega) (by omega), hstart, h.handle]
    · have hbehind : s.aclFragmentationPos - 4 + 2 + 2 = s.aclFragmentationPos := by omega
      rw [drop_overwrite _ (by rw [hlen]; omega) (by omega), htwo, hbehind, hback, hfront, Nat.sub_self,
        List.take_zero, List.nil_append, Nat.add_sub_cancel_left, List.take_left' (htwo _)]

/-- A fragment is sent with more left behind it. -/
theorem sendFragment_more (h : s.Sends w data) (hmax : 2 ≤ maxLength) (hlt : maxLength < data.length) :
    ∃ s', sendFragment maxLength s = (s', aclPacket (s.flags w) (data.take maxLength), true) ∧
      s'.Sends w (data.drop maxLength) ∧ s'.aclFragmentationPos ≠ 4 ∧ s'.aclFragmentationTxActive = true := by
  have hrest : s.aclFragmentationTotalSize - s.aclFragmentationPos = data.length := by
    rw [h.total, Nat.add_sub_cancel_left]
  obtain ⟨hlength, hhandle, hdrop⟩ := withHeader_eq h (UInt16.ofNat maxLength)
  have hpos : 4 ≤ s.aclFragmentationPos := by
    rcases h.pos with h | h <;> omega
  have hpacket : ((s.withHeader (UInt16.ofNat maxLength)).drop (s.aclFragmentationPos - 4)).take (maxLength + 4) =
      aclPacket (s.flags w) (data.take maxLength) := by
    have hhead : (littleEndianStore16 (s.flags w) ++ littleEndianStore16 (UInt16.ofNat maxLength)).length = 4 := by simp
    rw [hdrop, Nat.add_comm, ← hhead, List.take_length_add_append, aclPacket, List.length_take_of_le (by omega)]
  refine ⟨⟨s.withHeader (UInt16.ofNat maxLength), s.hciPacketBufferReserved, s.aclFragmentationPos + maxLength,
    s.aclFragmentationTotalSize, true⟩, ?_, ⟨h.reserved, .inr ?_, ?_, hhandle, ?_, ?_⟩, ?_, rfl⟩
  · rw [sendFragment, hrest, ← hpacket]
    simp only [decide_eq_true hlt, if_true]
    rfl
  · show 6 ≤ s.aclFragmentationPos + maxLength
    omega
  · show s.aclFragmentationTotalSize = s.aclFragmentationPos + maxLength + (data.drop maxLength).length
    rw [h.total, List.length_drop]
    omega
  · have hfour : s.aclFragmentationPos + maxLength = s.aclFragmentationPos - 4 + (4 + maxLength) := by omega
    have hhead : (littleEndianStore16 (s.flags w) ++ littleEndianStore16 (UInt16.ofNat maxLength)).length = 4 := by simp
    show (s.withHeader (UInt16.ofNat maxLength)).drop (s.aclFragmentationPos + maxLength) = _
    rw [hfour, ← List.drop_drop, hdrop, ← List.drop_drop, List.drop_left' hhead]
  · show (s.withHeader (UInt16.ofNat maxLength)).length = s.aclFragmentationTotalSize
    rw [hlength, h.length]
  · show s.aclFragmentationPos + maxLength ≠ 4
    omega

/-- The last fragment is sent. -/
theorem sendFragment_last (h : s.Sends w data) (hle : data.length ≤ maxLength) :
    ∃ s', sendFragment maxLength s = (s', aclPacket (s.flags w) data, false) ∧ s'.aclFragmentationTotalSize = 0 := by
  have hrest : s.aclFragmentationTotalSize - s.aclFragmentationPos = data.length := by
    rw [h.total, Nat.add_sub_cancel_left]
  obtain ⟨-, -, hdrop⟩ := withHeader_eq h (UInt16.ofNat data.length)
  have hpacket : ((s.withHeader (UInt16.ofNat data.length)).drop (s.aclFragmentationPos - 4)).take (data.length + 4) =
      aclPacket (s.flags w) data := by
    have hhead : (littleEndianStore16 (s.flags w) ++ littleEndianStore16 (UInt16.ofNat data.length)).length = 4 := by
      simp
    rw [hdrop, Nat.add_comm, ← hhead, List.take_length_add_append, aclPacket, List.take_length]
  refine ⟨⟨s.withHeader (UInt16.ofNat data.length), s.hciPacketBufferReserved, 0, 0, true⟩, ?_, rfl⟩
  rw [sendFragment, hrest, ← hpacket]
  simp only [decide_eq_false (Nat.not_lt.mpr hle), Bool.false_eq_true, if_false]
  rfl

/-- Fragments of the packet have been sent, and the rest of it waits. -/
structure AclSender.Waits (s : AclSender) (w : UInt16) (data : Bytes) : Prop where
  sends : s.Sends w data
  begun : s.aclFragmentationPos ≠ 4
  active : s.aclFragmentationTxActive = true
  left : data ≠ []

/-- After some fragments: the packet has been sent, or the rest of it waits. -/
def AclSender.After (s : AclSender) (w : UInt16) (data : Bytes) : Prop := data = [] ∧ s.Idle ∨ s.Waits w data

/-- What is sent of a packet that has begun. -/
theorem sendFragments_rest (h : s.Waits w data) (hmax : 2 ≤ maxLength) (free : Nat) :
    ∃ (rest : List (UInt16 × Bytes)) (data' : Bytes), data = (rest.map Prod.snd).flatten ++ data' ∧
      (sendFragments maxLength free s).2 = rest.map (fun f => aclPacket f.1 f.2) ∧
      (∀ f ∈ rest, f.1 = continuingFlags w ∧ f.2.length ≤ maxLength) ∧
      (sendFragments maxLength free s).1.After w data' := by
  induction free generalizing s data with
  | zero => exact ⟨[], data, rfl, rfl, fun f hf => absurd hf List.not_mem_nil, .inr h⟩
  | succ free ih =>
      have hflags : s.flags w = continuingFlags w := if_neg h.begun
      rw [sendFragments]
      by_cases hlt : maxLength < data.length
      · obtain ⟨s', hsend, hsends, hbegun, hactive⟩ := sendFragment_more h.sends hmax hlt
        have hleft : data.drop maxLength ≠ [] := by
          rw [Ne, List.drop_eq_nil_iff]
          omega
        obtain ⟨rest, data', hdata, hpackets, hrest, hafter⟩ := ih ⟨hsends, hbegun, hactive, hleft⟩
        simp only [hsend, if_true]
        refine ⟨(continuingFlags w, data.take maxLength) :: rest, data', ?_, ?_, ?_, hafter⟩
        · rw [List.map_cons, List.flatten_cons, List.append_assoc, ← hdata, List.take_append_drop]
        · rw [hpackets, hflags]
          rfl
        · intro f hf
          rcases List.mem_cons.mp hf with rfl | hf
          · exact ⟨rfl, List.length_take_le _ _⟩
          · exact hrest f hf
      · obtain ⟨s', hsend, htotal⟩ := sendFragment_last h.sends (Nat.not_lt.mp hlt)
        simp only [hsend, Bool.false_eq_true, if_false]
        refine ⟨[(continuingFlags w, data)], [], by simp, by rw [hflags]; rfl, ?_, .inl ⟨rfl, rfl, htotal⟩⟩
        intro f hf
        obtain rfl := List.mem_singleton.mp hf
        exact ⟨rfl, Nat.not_lt.mp hlt⟩

/-- What is sent of a packet at once. -/
theorem sendFragments_first (h : s.Sends w data) (hpos : s.aclFragmentationPos = 4) (hmax : 2 ≤ maxLength)
    (free : Nat) : ∃ (cut : AclCut) (data' : Bytes), data = cut.payload ++ data' ∧
      (sendFragments maxLength (free + 1) s).2 = cut.packets ∧ cut.first = w ∧ cut.head = data.take maxLength ∧
      (∀ f ∈ cut.rest, f.1 = continuingFlags w ∧ f.2.length ≤ maxLength) ∧
      (sendFragments maxLength (free + 1) s).1.After w data' := by
  have hflags : s.flags w = w := if_pos hpos
  rw [sendFragments]
  by_cases hlt : maxLength < data.length
  · obtain ⟨s', hsend, hsends, hbegun, hactive⟩ := sendFragment_more h hmax hlt
    have hleft : data.drop maxLength ≠ [] := by
      rw [Ne, List.drop_eq_nil_iff]
      omega
    have hwaits : s'.Waits w (data.drop maxLength) := ⟨hsends, hbegun, hactive, hleft⟩
    obtain ⟨rest, data', hdata, hpackets, hrest, hafter⟩ := sendFragments_rest hwaits hmax free
    simp only [hsend, if_true]
    refine ⟨⟨w, data.take maxLength, rest⟩, data', ?_, ?_, rfl, rfl, hrest, hafter⟩
    · rw [AclCut.payload, List.append_assoc, ← hdata, List.take_append_drop]
    · rw [hpackets, hflags]
      rfl
  · obtain ⟨s', hsend, htotal⟩ := sendFragment_last h (Nat.not_lt.mp hlt)
    simp only [hsend, Bool.false_eq_true, if_false]
    refine ⟨⟨w, data, []⟩, [], ?_, by rw [hflags]; rfl, rfl, (List.take_of_length_le (Nat.not_lt.mp hlt)).symm,
      fun f hf => absurd hf List.not_mem_nil, .inl ⟨rfl, rfl, htotal⟩⟩
    rw [AclCut.payload, List.map_nil, List.flatten_nil, List.append_nil, List.append_nil]

end

/-! ## Runs

The sender is idle, waits with the rest of a packet, or is stuck. Each input is taken in each of the three, and
`Sending` says what has been given to the transport by then. -/

/-- The buffer is reserved for a packet of which nothing is left. -/
structure AclSender.Stuck (s : AclSender) : Prop where
  reserved : s.hciPacketBufferReserved = true
  total : s.aclFragmentationTotalSize = 0

/-- The packet that is taken over by a step. -/
def senderAccepts (s : AclSender) : SenderInput → Option (UInt16 × Bytes)
  | .send handleAndFlags data free =>
      if s.hciPacketBufferReserved = false ∧ free ≠ 0 then some (handleAndFlags, data) else none
  | _ => none

/-- A step that finds the connection gone of which a packet is being sent. -/
def SenderInput.Discards (s : AclSender) : SenderInput → Prop
  | .send _ _ _ => False
  | .run connected _ => connected = false ∧ 0 < s.aclFragmentationTotalSize
  | .closed handle => 0 < s.aclFragmentationTotalSize ∧ handle = readAclConnectionHandle s.hciPacketBuffer

/-- The fragments are those of a packet, or the first few. -/
structure Carries (maxLength : Nat) (p : UInt16 × Bytes) (cut : AclCut) : Prop where
  first : cut.first = p.1
  head : cut.head = p.2.take maxLength
  rest : ∀ f ∈ cut.rest, f.1 = continuingFlags p.1 ∧ f.2.length ≤ maxLength
  payload : cut.payload <+: p.2

/-- `l2cap.c` fits its packets to the packet buffer. -/
def SenderStep (maxLength : Nat) (s : AclSender) (i : SenderInput) (s' : AclSender) : Prop :=
  (∀ w data free, i = .send w data free → 4 + data.length ≤ hciAclBufferSize) ∧ s' = (senderStep maxLength s i).1

abbrev SenderRun (maxLength : Nat) := Run (SenderStep maxLength)

/-- What has been given to the transport. -/
def sentAcl (maxLength : Nat) (h : List (Step AclSender SenderInput)) : List Bytes :=
  h.flatMap fun x => (senderStep maxLength x.pre x.input).2

/-- The packets that were taken over. -/
def acceptedAcl (h : List (Step AclSender SenderInput)) : List (UInt16 × Bytes) :=
  h.flatMap fun x => (senderAccepts x.pre x.input).toList

section

variable {maxLength : Nat} {s s₀ s' : AclSender} {w : UInt16} {data : Bytes} {i : SenderInput}
  {h : List (Step AclSender SenderInput)}

/-- A step when nothing is being sent. -/
theorem AclSender.Idle.step (hidle : s.Idle) (hmax : 2 ≤ maxLength) (i : SenderInput) :
    (∃ (w : UInt16) (d : Bytes) (cut : AclCut) (data : Bytes), senderAccepts s i = some (w, d) ∧
      d = cut.payload ++ data ∧ Carries maxLength (w, d) cut ∧ (senderStep maxLength s i).2 = cut.packets ∧
      (senderStep maxLength s i).1.After w data) ∨
    (senderAccepts s i = none ∧ (senderStep maxLength s i).2 = [] ∧ (senderStep maxLength s i).1.Idle) := by
  have hnone : ¬ 0 < s.aclFragmentationTotalSize := by
    rw [hidle.total]
    exact Nat.lt_irrefl 0
  cases i with
  | send w d free =>
      rw [senderStep, hidle.reserved, if_neg (by decide), hciSendAclPacketBuffer, senderAccepts]
      cases free with
      | zero => exact .inr ⟨if_neg fun h => h.2 rfl, rfl, rfl, hidle.total⟩
      | succ free =>
          have hsends : AclSender.Sends ⟨aclPacket w d, true, 4, 4 + d.length, s.aclFragmentationTxActive⟩ w d :=
            ⟨rfl, .inl rfl, rfl, rfl, rfl, length_aclPacket w d⟩
          obtain ⟨cut, data, hd, hpackets, hfirst, hhead, hrest, hafter⟩ := sendFragments_first hsends rfl hmax free
          rw [if_pos ⟨hidle.reserved, Nat.succ_ne_zero free⟩, if_neg (Nat.succ_ne_zero free)]
          refine .inl ⟨w, d, cut, data, rfl, hd, ⟨hfirst, hhead, hrest, ?_⟩, hpackets, hafter⟩
          exact ⟨data, hd.symm⟩
  | run connected free =>
      rw [senderStep, hciRunAclFragments, if_neg hnone]
      exact .inr ⟨rfl, rfl, hidle⟩
  | closed handle =>
      rw [senderStep, disconnectionComplete, if_neg fun h => hnone h.1]
      exact .inr ⟨rfl, rfl, hidle⟩

/-- A step when the rest of a packet waits. -/
theorem AclSender.Waits.step (hwaits : s.Waits w data) (hmax : 2 ≤ maxLength) (i : SenderInput) :
    senderAccepts s i = none ∧
    ((i.Discards s ∧ (senderStep maxLength s i).2 = [] ∧ (senderStep maxLength s i).1.Stuck) ∨
    (¬ i.Discards s ∧ ∃ (rest : List (UInt16 × Bytes)) (data' : Bytes), data = (rest.map Prod.snd).flatten ++ data' ∧
      (senderStep maxLength s i).2 = rest.map (fun f => aclPacket f.1 f.2) ∧
      (∀ f ∈ rest, f.1 = continuingFlags w ∧ f.2.length ≤ maxLength) ∧
      (senderStep maxLength s i).1.After w data')) := by
  have hreserved := hwaits.sends.reserved
  have hpos : 0 < s.aclFragmentationTotalSize := by
    have htotal := hwaits.sends.total
    have hleft := List.length_pos_iff.mpr hwaits.left
    omega
  have hsame : ∃ (rest : List (UInt16 × Bytes)) (data' : Bytes), data = (rest.map Prod.snd).flatten ++ data' ∧
      [] = rest.map (fun f => aclPacket f.1 f.2) ∧
      (∀ f ∈ rest, f.1 = continuingFlags w ∧ f.2.length ≤ maxLength) ∧ s.After w data' :=
    ⟨[], data, rfl, rfl, fun f hf => absurd hf List.not_mem_nil, .inr hwaits⟩
  cases i with
  | send w' d free =>
      rw [senderStep, hreserved, if_pos rfl]
      exact ⟨if_neg fun h => by rw [hreserved] at h; exact absurd h.1 (by decide), .inr ⟨id, hsame⟩⟩
  | run connected free =>
      rw [senderStep, hciRunAclFragments, if_pos hpos]
      refine ⟨rfl, ?_⟩
      cases connected with
      | true => exact .inr ⟨fun h => absurd h.1 (by decide), sendFragments_rest hwaits hmax free⟩
      | false => exact .inl ⟨⟨rfl, hpos⟩, rfl, hreserved, rfl⟩
  | closed handle =>
      rw [senderStep, disconnectionComplete]
      refine ⟨rfl, ?_⟩
      by_cases hgone : 0 < s.aclFragmentationTotalSize ∧ handle = readAclConnectionHandle s.hciPacketBuffer
      · rw [if_pos hgone]
        refine .inl ⟨hgone, rfl, ?_, rfl⟩
        show (if s.aclFragmentationTxActive = true then _ else false) = true
        rw [if_pos hwaits.active, hreserved]
      · rw [if_neg hgone]
        exact .inr ⟨hgone, hsame⟩

/-- A step when the buffer stays reserved with nothing left to send. -/
theorem AclSender.Stuck.step (hstuck : s.Stuck) (maxLength : Nat) (i : SenderInput) :
    senderAccepts s i = none ∧ senderStep maxLength s i = (s, []) := by
  have hnone : ¬ 0 < s.aclFragmentationTotalSize := by
    rw [hstuck.total]
    exact Nat.lt_irrefl 0
  cases i with
  | send w d free =>
      refine ⟨if_neg fun h => ?_, by rw [senderStep, hstuck.reserved, if_pos rfl]⟩
      rw [hstuck.reserved] at h
      exact absurd h.1 (by decide)
  | run connected free => exact ⟨rfl, by rw [senderStep, hciRunAclFragments, if_neg hnone]⟩
  | closed handle => exact ⟨rfl, by rw [senderStep, disconnectionComplete, if_neg fun h => hnone h.1]⟩

theorem sentAcl_snoc (maxLength : Nat) (h : List (Step AclSender SenderInput)) (x : Step AclSender SenderInput) :
    sentAcl maxLength (h ++ [x]) = sentAcl maxLength h ++ (senderStep maxLength x.pre x.input).2 := by
  rw [sentAcl, List.flatMap_append, List.flatMap_singleton]
  rfl

theorem acceptedAcl_snoc (h : List (Step AclSender SenderInput)) (x : Step AclSender SenderInput) :
    acceptedAcl (h ++ [x]) = acceptedAcl h ++ (senderAccepts x.pre x.input).toList := by
  rw [acceptedAcl, List.flatMap_append, List.flatMap_singleton]
  rfl

/-- A step of the run found a connection gone of which a packet was being sent. -/
def Discarded (h : List (Step AclSender SenderInput)) : Prop := ∃ x ∈ h, x.input.Discards x.pre

theorem discarded_snoc {x : Step AclSender SenderInput} :
    Discarded (h ++ [x]) ↔ Discarded h ∨ x.input.Discards x.pre := by
  simp only [Discarded, List.mem_append, List.mem_singleton, or_and_right, exists_or, exists_eq_left]

/-- More fragments of a packet. -/
def AclCut.extend (cut : AclCut) (rest : List (UInt16 × Bytes)) : AclCut := { cut with rest := cut.rest ++ rest }

theorem AclCut.payload_extend (cut : AclCut) (rest : List (UInt16 × Bytes)) :
    (cut.extend rest).payload = cut.payload ++ (rest.map Prod.snd).flatten := by
  simp [AclCut.extend, AclCut.payload]

theorem AclCut.packets_extend (cut : AclCut) (rest : List (UInt16 × Bytes)) :
    (cut.extend rest).packets = cut.packets ++ rest.map fun f => aclPacket f.1 f.2 := by
  simp [AclCut.extend, AclCut.packets]

/-- The fragments are all those of a packet. -/
def CarriesAll (maxLength : Nat) (p : UInt16 × Bytes) (cut : AclCut) : Prop :=
  Carries maxLength p cut ∧ cut.payload = p.2

/-- After a run: all packets have been sent, or all but the last one, of which the rest waits or is lost. -/
def Sending (maxLength : Nat) (h : List (Step AclSender SenderInput)) (s : AclSender) : Prop :=
  ∃ (ps : List (UInt16 × Bytes)) (cuts : List AclCut), List.Forall₂ (CarriesAll maxLength) ps cuts ∧
    ((s.Idle ∧ ¬ Discarded h ∧ acceptedAcl h = ps ∧ sentAcl maxLength h = cuts.flatMap AclCut.packets) ∨
    ∃ (w : UInt16) (cut : AclCut) (data : Bytes), Carries maxLength (w, cut.payload ++ data) cut ∧ data ≠ [] ∧
      acceptedAcl h = ps ++ [(w, cut.payload ++ data)] ∧
      sentAcl maxLength h = cuts.flatMap AclCut.packets ++ cut.packets ∧
      (s.Waits w data ∧ ¬ Discarded h ∨ s.Stuck ∧ Discarded h))

/-- All fragments of one more packet. -/
theorem sending_sent {ps : List (UInt16 × Bytes)} {cuts : List AclCut} {cut : AclCut}
    (hps : List.Forall₂ (CarriesAll maxLength) ps cuts) (hcut : Carries maxLength (w, cut.payload) cut) (hidle : s.Idle)
    (hkept : ¬ Discarded h) (haccepted : acceptedAcl h = ps ++ [(w, cut.payload)])
    (hsent : sentAcl maxLength h = cuts.flatMap AclCut.packets ++ cut.packets) : Sending maxLength h s := by
  refine ⟨_, cuts ++ [cut], forall₂_snoc.mpr ⟨hps, hcut, rfl⟩, .inl ⟨hidle, hkept, haccepted, ?_⟩⟩
  rw [hsent, List.flatMap_append, List.flatMap_singleton]

/-- What has been sent, behind a step from where all packets have been. -/
theorem sending_idle {ps : List (UInt16 × Bytes)} {cuts : List AclCut} (hmax : 2 ≤ maxLength)
    (hps : List.Forall₂ (CarriesAll maxLength) ps cuts) (hidle : s.Idle) (hkept : ¬ Discarded h)
    (haccepted : acceptedAcl h = ps) (hsent : sentAcl maxLength h = cuts.flatMap AclCut.packets) (i : SenderInput) :
    Sending maxLength (h ++ [⟨s, i, (senderStep maxLength s i).1⟩]) (senderStep maxLength s i).1 := by
  -- nothing is being sent, so the step does not discard anything
  have hkept' : ¬ Discarded (h ++ [⟨s, i, (senderStep maxLength s i).1⟩]) := by
    rw [discarded_snoc]
    rintro (hd | hd)
    · exact hkept hd
    · have htotal := hidle.total
      cases i with
      | send w d free => exact hd
      | run connected free => exact absurd hd.2 (by rw [htotal]; exact Nat.lt_irrefl 0)
      | closed handle => exact absurd hd.1 (by rw [htotal]; exact Nat.lt_irrefl 0)
  rcases hidle.step hmax i with ⟨w, d, cut, data, haccepts, rfl, hcut, hpackets, hafter⟩ | ⟨hnone, hnil, hidle'⟩
  · have haccepted' := acceptedAcl_snoc h ⟨s, i, (senderStep maxLength s i).1⟩
    have hsent' := sentAcl_snoc maxLength h ⟨s, i, (senderStep maxLength s i).1⟩
    rw [haccepted, haccepts, Option.toList_some] at haccepted'
    rw [hsent, hpackets] at hsent'
    rcases hafter with ⟨rfl, hidle'⟩ | hwaits
    · rw [List.append_nil] at hcut haccepted'
      exact sending_sent hps hcut hidle' hkept' haccepted' hsent'
    · exact ⟨ps, cuts, hps, .inr ⟨w, cut, data, hcut, hwaits.left, haccepted', hsent', .inl ⟨hwaits, hkept'⟩⟩⟩
  · refine ⟨ps, cuts, hps, .inl ⟨hidle', hkept', ?_, ?_⟩⟩
    · rw [acceptedAcl_snoc, haccepted, hnone, Option.toList_none, List.append_nil]
    · rw [sentAcl_snoc, hsent, hnil, List.append_nil]

theorem Carries.extend {d d' : Bytes} {cut : AclCut} {rest : List (UInt16 × Bytes)}
    (hcut : Carries maxLength (w, cut.payload ++ d) cut) (hd : d = (rest.map Prod.snd).flatten ++ d')
    (hrest : ∀ f ∈ rest, f.1 = continuingFlags w ∧ f.2.length ≤ maxLength) :
    cut.payload ++ d = (cut.extend rest).payload ++ d' ∧
      Carries maxLength (w, (cut.extend rest).payload ++ d') (cut.extend rest) := by
  have hpayload : cut.payload ++ d = (cut.extend rest).payload ++ d' := by
    rw [cut.payload_extend, hd, List.append_assoc]
  refine ⟨hpayload, ?_⟩
  rw [← hpayload]
  refine ⟨hcut.first, hcut.head, fun f hf => ?_, ?_⟩
  · rcases List.mem_append.mp hf with hf | hf
    · exact hcut.rest f hf
    · exact hrest f hf
  · rw [hpayload]
    exact List.prefix_append _ _

/-- What has been sent, behind a step from where the rest of the last packet waits. -/
theorem sending_waits {ps : List (UInt16 × Bytes)} {cuts : List AclCut} {cut : AclCut} (hmax : 2 ≤ maxLength)
    (hps : List.Forall₂ (CarriesAll maxLength) ps cuts) (hcut : Carries maxLength (w, cut.payload ++ data) cut)
    (hwaits : s.Waits w data) (hkept : ¬ Discarded h) (haccepted : acceptedAcl h = ps ++ [(w, cut.payload ++ data)])
    (hsent : sentAcl maxLength h = cuts.flatMap AclCut.packets ++ cut.packets) (i : SenderInput) :
    Sending maxLength (h ++ [⟨s, i, (senderStep maxLength s i).1⟩]) (senderStep maxLength s i).1 := by
  obtain ⟨hnone, hstep⟩ := hwaits.step hmax i
  have haccepted' : acceptedAcl (h ++ [⟨s, i, (senderStep maxLength s i).1⟩]) =
      ps ++ [(w, cut.payload ++ data)] := by
    rw [acceptedAcl_snoc, haccepted, hnone, Option.toList_none, List.append_nil]
  rcases hstep with ⟨hdiscards, hnil, hstuck⟩ | ⟨hkeeps, rest, data', hdata, hpackets, hrest, hafter⟩
  · have hlost : Discarded (h ++ [⟨s, i, (senderStep maxLength s i).1⟩]) := discarded_snoc.mpr (.inr hdiscards)
    refine ⟨ps, cuts, hps, .inr ⟨w, cut, data, hcut, hwaits.left, haccepted', ?_, .inr ⟨hstuck, hlost⟩⟩⟩
    rw [sentAcl_snoc, hsent, hnil, List.append_nil]
  · -- the fragments that are sent belong to the last packet
    have hkept' : ¬ Discarded (h ++ [⟨s, i, (senderStep maxLength s i).1⟩]) := by
      rw [discarded_snoc]
      exact fun hd => hd.elim hkept hkeeps
    have hsent' : sentAcl maxLength (h ++ [⟨s, i, (senderStep maxLength s i).1⟩]) =
        cuts.flatMap AclCut.packets ++ (cut.extend rest).packets := by
      rw [sentAcl_snoc, hsent, hpackets, cut.packets_extend, List.append_assoc]
    obtain ⟨hpayload, hcut'⟩ := hcut.extend hdata hrest
    rw [hpayload] at haccepted'
    rcases hafter with ⟨rfl, hidle⟩ | hwaits'
    · rw [List.append_nil] at hcut' haccepted'
      exact sending_sent hps hcut' hidle hkept' haccepted' hsent'
    · exact ⟨ps, cuts, hps, .inr ⟨w, _, data', hcut', hwaits'.left, haccepted', hsent', .inl ⟨hwaits', hkept'⟩⟩⟩

theorem sending_step (hmax : 2 ≤ maxLength) (hsending : Sending maxLength h s) (i : SenderInput) :
    Sending maxLength (h ++ [⟨s, i, (senderStep maxLength s i).1⟩]) (senderStep maxLength s i).1 := by
  obtain ⟨ps, cuts, hps, ⟨hidle, hkept, haccepted, hsent⟩ | ⟨w, cut, data, hcut, hleft, haccepted, hsent, hphase⟩⟩ :=
    hsending
  · exact sending_idle hmax hps hidle hkept haccepted hsent i
  · rcases hphase with ⟨hwaits, hkept⟩ | ⟨hstuck, hlost⟩
    · exact sending_waits hmax hps hcut hwaits hkept haccepted hsent i
    · -- nothing happens any more
      obtain ⟨hnone, hstep⟩ := hstuck.step maxLength i
      refine ⟨ps, cuts, hps, .inr ⟨w, cut, data, hcut, hleft, ?_, ?_, .inr ⟨?_, discarded_snoc.mpr (.inl hlost)⟩⟩⟩
      · rw [acceptedAcl_snoc, haccepted, hnone, Option.toList_none, List.append_nil]
      · rw [sentAcl_snoc, hsent, hstep, List.append_nil]
      · rw [hstep]
        exact hstuck

theorem senderRun_sending (hmax : 2 ≤ maxLength) (hidle : s₀.Idle) (hr : SenderRun maxLength s₀ h s) :
    Sending maxLength h s := by
  induction hr with
  | nil => exact ⟨[], [], .nil, .inl ⟨hidle, fun ⟨x, hx, _⟩ => absurd hx List.not_mem_nil, rfl, rfl⟩⟩
  | snoc hr hstep ih =>
      rw [hstep.2]
      exact sending_step hmax ih _

/-- **When nothing is sent any more**: after a step that finds a connection gone of which a packet is being sent, the
    buffer stays reserved, no packet is taken over and nothing is sent; otherwise the buffer is not lost. -/
theorem acl_stuck_iff (hmax : 2 ≤ maxLength) (hidle : s₀.Idle) (hr : SenderRun maxLength s₀ h s) :
    (s.Stuck ↔ Discarded h) ∧
      (s.Stuck → ∀ i, senderAccepts s i = none ∧ senderStep maxLength s i = (s, [])) := by
  refine ⟨?_, fun hstuck i => hstuck.step maxLength i⟩
  obtain ⟨ps, cuts, -, ⟨hidle, hkept, -⟩ | ⟨w, cut, data, -, -, -, -, ⟨hwaits, hkept⟩ | ⟨hstuck, hlost⟩⟩⟩ :=
    senderRun_sending hmax hidle hr
  · refine iff_of_false (fun hstuck => ?_) hkept
    have hfree := hidle.reserved
    rw [hstuck.reserved] at hfree
    cases hfree
  · refine iff_of_false (fun hstuck => ?_) hkept
    have htotal := hwaits.sends.total
    have hleft := List.length_pos_iff.mpr hwaits.left
    have hzero := hstuck.total
    omega
  · exact iff_of_true hstuck hlost

/-- A packet in two fragments, for connection 1. -/
def twoFragments : UInt16 × Bytes := (0x2001, [2, 0, 0x40, 0, 7, 8])

/-- Nothing has been sent. -/
def freshSender : AclSender := ⟨[], false, 0, 0, false⟩

theorem twoFragments_fits (free : Nat) : ∀ w data free', SenderInput.send twoFragments.1 twoFragments.2 free =
    .send w data free' → 4 + data.length ≤ hciAclBufferSize := by
  intro w data free' heq
  cases heq
  decide

/-- The connection is closed behind the first fragment. -/
theorem acl_stuck_closed : ∃ h s, SenderRun 4 freshSender h s ∧ s.Stuck ∧
    ∀ i, senderAccepts s i = none ∧ senderStep 4 s i = (s, []) := by
  have hr₁ : SenderRun 4 freshSender _ _ := Run.nil.snoc ⟨twoFragments_fits 1, rfl⟩
  have hr₂ := hr₁.snoc (i := .closed 1) ⟨fun _ _ _ heq => (nomatch heq), rfl⟩
  have hidle : freshSender.Idle := ⟨rfl, rfl⟩
  obtain ⟨hiff, hnever⟩ := acl_stuck_iff (by decide) hidle hr₂
  have hstuck := hiff.mpr ⟨_, List.mem_append_right _ (List.mem_singleton.mpr rfl), by decide, by decide⟩
  exact ⟨_, _, hr₂, hstuck, hnever hstuck⟩

/-! ## What the other side makes of it

The fragments of a packet are those of an `AclCut`, and a packet is never cut in any other way; so the reassembly of
`Btstack.HciAcl` applies to what was sent. -/

/-- An L2CAP packet, with the flag that a controller gives to a first fragment. -/
structure IsL2cap (p : UInt16 × Bytes) : Prop where
  flag : boundaryFlag p.1 = 2
  length : p.2.length = (littleEndianRead16 p.2 0).toNat + 4

theorem boundaryFlag_continuing (w : UInt16) : boundaryFlag (continuingFlags w) = 1 := by
  have hnat : (continuingFlags w).toNat = w.toNat &&& 0xcfff ||| 0x1000 := by
    rw [continuingFlags, UInt16.toNat_or, UInt16.toNat_and]
    rfl
  rw [boundaryFlag, hnat, show 4096 = 2 ^ 12 from rfl, ← Nat.shiftRight_eq_div_pow, show 4 = 2 ^ 2 from rfl,
    ← Nat.and_two_pow_sub_one_eq_mod, Nat.shiftRight_or_distrib, Nat.shiftRight_and_distrib, Nat.and_or_distrib_right,
    Nat.and_assoc]
  simp

/-- The packets that are taken over fit in the buffer. -/
theorem acceptedAcl_fits (hr : SenderRun maxLength s₀ h s) :
    ∀ p ∈ acceptedAcl h, 4 + p.2.length ≤ hciAclBufferSize := by
  induction hr with
  | nil => exact fun p hp => absurd hp List.not_mem_nil
  | @snoc h s s' i hr hstep ih =>
      intro p hp
      rw [acceptedAcl_snoc] at hp
      rcases List.mem_append.mp hp with hp | hp
      · exact ih p hp
      · cases i with
        | send w d free =>
            have hfits := hstep.1 w d free rfl
            rw [senderAccepts] at hp
            split at hp
            · obtain rfl := List.mem_singleton.mp hp
              exact hfits
            · exact absurd hp List.not_mem_nil
        | run connected free => exact absurd hp List.not_mem_nil
        | closed handle => exact absurd hp List.not_mem_nil

section

variable {p : UInt16 × Bytes} {cut : AclCut}

/-- The fragments are valid, and they tell the length of the packet. -/
theorem Carries.valid (hcut : Carries maxLength p cut) (hp : IsL2cap p) (hmax : 2 ≤ maxLength)
    (hfits : 4 + p.2.length ≤ hciAclBufferSize) : cut.Valid ∧ cut.length = p.2.length := by
  have hbuffer : hciAclBufferSize = 1025 := rfl
  have hlength := hp.length
  have hhead : 2 ≤ cut.head.length ∧ cut.head.length ≤ p.2.length := by
    rw [hcut.head, List.length_take]
    omega
  have hread : littleEndianRead16 cut.head 0 = littleEndianRead16 p.2 0 := by
    rw [← littleEndianRead16_append hhead.1 (p.2.drop maxLength), hcut.head, List.take_append_drop]
  have hall : cut.length = p.2.length := by rw [AclCut.length, hread, hlength]
  have hpayload := hcut.payload.length_le
  refine ⟨⟨?_, ⟨hhead.1, by omega⟩, fun f hf => ⟨?_, ?_⟩, by omega⟩, hall⟩
  · rw [hcut.first, hp.flag]
  · rw [(hcut.rest f hf).1, boundaryFlag_continuing]
  · have hpart : f.2.length ≤ (cut.rest.map Prod.snd).flatten.length :=
      (List.sublist_flatten_of_mem (List.mem_map_of_mem hf)).length_le
    rw [AclCut.payload, List.length_append] at hpayload
    omega

/-- A packet whose fragments are all there is put together. -/
theorem CarriesAll.deliverable (hcut : CarriesAll maxLength p cut) (hp : IsL2cap p) (hmax : 2 ≤ maxLength)
    (hfits : 4 + p.2.length ≤ hciAclBufferSize) :
    cut.Valid ∧ cut.Deliverable ∧ cut.whole = aclPacket p.1 p.2 := by
  obtain ⟨hvalid, hlength⟩ := hcut.1.valid hp hmax hfits
  refine ⟨hvalid, ⟨by rw [hcut.2, hlength], .inr (by omega)⟩, ?_⟩
  rw [AclCut.whole, hcut.1.first, hcut.2]

/-- A packet of which the rest is missing is not put together. -/
theorem Carries.not_deliverable {d : Bytes} (hcut : Carries maxLength (w, cut.payload ++ d) cut)
    (hp : IsL2cap (w, cut.payload ++ d)) (hmax : 2 ≤ maxLength)
    (hfits : 4 + (cut.payload ++ d).length ≤ hciAclBufferSize) (hleft : d ≠ []) : cut.Valid ∧ ¬ cut.Deliverable := by
  obtain ⟨hvalid, hlength⟩ := hcut.valid hp hmax hfits
  refine ⟨hvalid, fun hdeliver => ?_⟩
  have hwhole := hdeliver.1
  have hpos := List.length_pos_iff.mpr hleft
  rw [hlength, List.length_append] at hwhole
  omega

theorem carriesAll_whole {ps : List (UInt16 × Bytes)} {cuts : List AclCut}
    (hps : List.Forall₂ (CarriesAll maxLength) ps cuts) (hmax : 2 ≤ maxLength)
    (hgood : ∀ p ∈ ps, IsL2cap p ∧ 4 + p.2.length ≤ hciAclBufferSize) :
    (∀ cut ∈ cuts, cut.Valid) ∧
      (cuts.filter fun cut => cut.Deliverable).map AclCut.whole = ps.map fun p => aclPacket p.1 p.2 := by
  induction hps with
  | nil => exact ⟨fun cut hcut => absurd hcut List.not_mem_nil, rfl⟩
  | @cons p cut ps cuts hcut hps ih =>
      obtain ⟨hp, hfits⟩ := hgood p List.mem_cons_self
      obtain ⟨hvalid, hdeliver, hwhole⟩ := hcut.deliverable hp hmax hfits
      obtain ⟨hvalids, hwholes⟩ := ih fun q hq => hgood q (List.mem_cons_of_mem _ hq)
      refine ⟨List.forall_mem_cons.mpr ⟨hvalid, hvalids⟩, ?_⟩
      rw [List.filter_cons, if_pos (decide_eq_true hdeliver), List.map_cons, List.map_cons, hwhole, hwholes]

end

/-- **What a daemon sends, a daemon receives**: of L2CAP packets that were taken over and sent in fragments, in
    whatever calls, `acl_handler` makes the packets again, in order and once; but the last one, as long as it has not
    been sent to its end. -/
theorem acl_round_trip (hmax : 2 ≤ maxLength) (hidle : s₀.Idle) (hr : SenderRun maxLength s₀ h s)
    (hpackets : ∀ p ∈ acceptedAcl h, IsL2cap p) (c : AclConnection) :
    ∃ c' es, feedAcl c (sentAcl maxLength h) = some (c', es) ∧
      (s.hciPacketBufferReserved = false → es = (acceptedAcl h).map fun p => aclPacket p.1 p.2) ∧
      (s.hciPacketBufferReserved = true → es = (acceptedAcl h).dropLast.map fun p => aclPacket p.1 p.2) := by
  have hfits := acceptedAcl_fits hr
  have hsame : ∀ ms : List Bytes, List.Forall₂ (· <+: ·) ms ms :=
    fun ms => List.forall₂_same.mpr fun m _ => List.prefix_refl m
  obtain ⟨ps, cuts, hps, ⟨hidle', -, haccepted, hsent⟩ | ⟨w, cut, data, hcut, hleft, haccepted, hsent, hphase⟩⟩ :=
    senderRun_sending hmax hidle hr
  · rw [haccepted] at hpackets hfits ⊢
    obtain ⟨hvalid, hwhole⟩ := carriesAll_whole hps hmax fun p hp => ⟨hpackets p hp, hfits p hp⟩
    obtain ⟨c', hfeed⟩ := feed_cuts hvalid (hsame _) c
    rw [hsent, hfeed]
    refine ⟨c', _, rfl, fun _ => hwhole, fun hreserved => ?_⟩
    rw [hidle'.reserved] at hreserved
    cases hreserved
  · -- the last packet is not complete, and the other side does not hand it on
    have hreserved : s.hciPacketBufferReserved = true := by
      rcases hphase with ⟨hwaits, -⟩ | ⟨hstuck, -⟩
      · exact hwaits.sends.reserved
      · exact hstuck.reserved
    rw [haccepted] at hpackets hfits ⊢
    obtain ⟨hvalid, hwhole⟩ := carriesAll_whole hps hmax fun p hp =>
      ⟨hpackets p (List.mem_append_left _ hp), hfits p (List.mem_append_left _ hp)⟩
    have hmem : (w, cut.payload ++ data) ∈ ps ++ [(w, cut.payload ++ data)] :=
      List.mem_append_right _ (List.mem_singleton.mpr rfl)
    obtain ⟨hlast, hmissing⟩ := hcut.not_deliverable (hpackets _ hmem) hmax (hfits _ hmem) hleft
    have hvalids : ∀ k ∈ cuts ++ [cut], k.Valid := by
      intro k hk
      rcases List.mem_append.mp hk with hk | hk
      · exact hvalid k hk
      · exact List.mem_singleton.mp hk ▸ hlast
    obtain ⟨c', hfeed⟩ := feed_cuts hvalids (hsame _) c
    rw [List.flatMap_append, List.flatMap_singleton, ← hsent] at hfeed
    refine ⟨c', _, hfeed, fun hfree => ?_, fun _ => ?_⟩
    · rw [hreserved] at hfree
      cases hfree
    · rw [List.filter_append, List.filter_cons, if_neg fun h => hmissing (of_decide_eq_true h), List.filter_nil,
        List.append_nil, hwhole, List.dropLast_concat]

/-- The second fragment is sent by `hci_run`. -/
theorem acl_round_trip_two : ∃ h s c es, SenderRun 4 freshSender h s ∧
    feedAcl ⟨Block.zero _, 0, 0⟩ (sentAcl 4 h) = some (c, es) ∧ es = [[0x01, 0x20, 6, 0, 2, 0, 0x40, 0, 7, 8]] := by
  have hr₁ : SenderRun 4 freshSender _ _ := Run.nil.snoc ⟨twoFragments_fits 1, rfl⟩
  have hr₂ := hr₁.snoc (i := .run true 1) ⟨fun _ _ _ heq => (nomatch heq), rfl⟩
  have hidle : freshSender.Idle := ⟨rfl, rfl⟩
  have hpackets : ∀ p ∈ [twoFragments], IsL2cap p :=
    fun p hp => List.mem_singleton.mp hp ▸ ⟨by decide, by decide⟩
  obtain ⟨c, es, hfeed, hall, -⟩ := acl_round_trip (by decide) hidle hr₂ hpackets ⟨Block.zero _, 0, 0⟩
  exact ⟨_, _, c, es, hr₂, hfeed, hall (by decide)⟩

end

end Showcase.Btstack
