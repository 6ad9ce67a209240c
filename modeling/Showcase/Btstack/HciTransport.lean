import Mathlib.Data.List.GetD
import Showcase.Btstack.SocketConnection
import Showcase.Lib.Stream

/-!
# `Btstack.HciTransport` — packets between the daemon and the controller

`hci_transport_h4_iphone.c`: a packet goes over the UART as its type and behind it its bytes. The daemon writes until
the UART has taken everything. It reads the type, the header and the payload one after the other, in whatever pieces
they arrive; a byte that is no type is skipped. When a payload is empty, the packet waits for the next call of
`h4_process`.

The buffer has room for a payload of `HCI_ACL_PAYLOAD_SIZE`, and `h4_process` asks for as many bytes as the header of an
ACL packet says.

## Contents
- `h4Stream` — the format of the stream.
- `h4SendPacket` — writing, with the results of `write`.
- `h4Process` — reading, with the results of `read`; `h4Process_spec` says what one call does.
- **`uart_round_trip`** — what was written is read.
- **`uart_overruns_iff`** — when the daemon writes behind its buffer.
-/

namespace Showcase.Btstack

open Lib

/-! ## The stream -/

/-- `HCI_EVENT_PACKET` and `HCI_ACL_DATA_PACKET`. -/
def hciEventPacket : UInt8 := 0x04
def hciAclDataPacket : UInt8 := 0x02

/-- A packet with its type. -/
structure HciPacket where
  type : UInt8
  data : Bytes
deriving DecidableEq

/-- `HCI_EVENT_HEADER_SIZE` and `HCI_ACL_HEADER_SIZE`. -/
def hciHeaderSize (type : UInt8) : Option Nat :=
  if type = hciEventPacket then some 2 else if type = hciAclDataPacket then some 4 else none

/-- The length of a packet, as its header tells it. -/
def hciPacketSize (type : UInt8) (packet : Bytes) : Nat :=
  if type = hciEventPacket then 2 + (packet.getD 1 0).toNat else 4 + (littleEndianRead16 packet 2).toNat

/-- A packet of a known type that is as long as its header says. -/
structure HciPacket.Complete (p : HciPacket) (header : Nat) : Prop where
  known : hciHeaderSize p.type = some header
  header : header ≤ p.data.length
  length : p.data.length = hciPacketSize p.type p.data

/-- The packet on the UART. -/
def HciPacket.wire (p : HciPacket) : Bytes := p.type :: p.data

theorem hciHeaderSize_cases {type : UInt8} {header : Nat} (h : hciHeaderSize type = some header) :
    type = hciEventPacket ∧ header = 2 ∨ type = hciAclDataPacket ∧ header = 4 := by
  unfold hciHeaderSize at h
  split at h
  · exact .inl ⟨‹_›, (Option.some.inj h).symm⟩
  · split at h
    · exact .inr ⟨‹_›, (Option.some.inj h).symm⟩
    · cases h

theorem two_le_hciHeaderSize {type : UInt8} {header : Nat} (h : hciHeaderSize type = some header) : 2 ≤ header := by
  rcases hciHeaderSize_cases h with ⟨-, rfl⟩ | ⟨-, rfl⟩
  · exact Nat.le_refl 2
  · omega

/-- The header tells the length, whatever is behind it. -/
theorem hciPacketSize_append {type : UInt8} {header : Nat} {b : Bytes} (h : hciHeaderSize type = some header)
    (hb : header ≤ b.length) (c : Bytes) : hciPacketSize type (b ++ c) = hciPacketSize type b := by
  unfold hciPacketSize
  rcases hciHeaderSize_cases h with ⟨rfl, rfl⟩ | ⟨rfl, rfl⟩
  · rw [if_pos rfl, if_pos rfl, List.getD_append _ _ _ _ (by omega)]
  · rw [if_neg (by decide), if_neg (by decide), littleEndianRead16_append (by omega)]

/-- The first packet of a stream, or a byte that is no type. -/
def h4First : Bytes → Option (Option HciPacket × Bytes)
  | [] => none
  | type :: b =>
      match hciHeaderSize type with
      | none => some (none, b)
      | some header =>
          if header ≤ b.length ∧ hciPacketSize type b ≤ b.length then
            some (some ⟨type, b.take (hciPacketSize type b)⟩, b.drop (hciPacketSize type b))
          else none

theorem h4First_unknown {type : UInt8} (b : Bytes) (h : hciHeaderSize type = none) :
    h4First (type :: b) = some (none, b) := by
  rw [h4First, h]

theorem h4First_known {type : UInt8} {header : Nat} (b : Bytes) (h : hciHeaderSize type = some header) :
    h4First (type :: b) =
      if header ≤ b.length ∧ hciPacketSize type b ≤ b.length then
        some (some ⟨type, b.take (hciPacketSize type b)⟩, b.drop (hciPacketSize type b))
      else none := by
  rw [h4First, h]

/-- What is behind the first packet is shorter. -/
theorem h4First_shorter {b t : Bytes} {p : Option HciPacket} (h : h4First b = some (p, t)) : t.length < b.length := by
  cases b with
  | nil => cases h
  | cons type b =>
      cases hheader : hciHeaderSize type with
      | none =>
          rw [h4First_unknown b hheader] at h
          cases h
          exact Nat.lt_succ_self _
      | some header =>
          rw [h4First_known b hheader] at h
          split at h
          · cases h
            rw [List.length_drop, List.length_cons]
            omega
          · cases h

/-- The first packet is the same when the stream goes on. -/
theorem h4First_append {b t : Bytes} {p : Option HciPacket} (c : Bytes) (h : h4First b = some (p, t)) :
    h4First (b ++ c) = some (p, t ++ c) := by
  cases b with
  | nil => cases h
  | cons type b =>
      cases hheader : hciHeaderSize type with
      | none =>
          rw [h4First_unknown b hheader] at h
          cases h
          exact h4First_unknown _ hheader
      | some header =>
          rw [h4First_known b hheader] at h
          split at h
          · rename_i hle
            cases h
            have hsize := hciPacketSize_append hheader hle.1 c
            rw [List.cons_append, h4First_known _ hheader, hsize, if_pos (by rw [List.length_append]; omega),
              List.take_append_of_le_length hle.2, List.drop_append_of_le_length hle.2]
          · cases h

/-- The stream of packets on the UART. -/
def h4Stream : StreamFormat HciPacket := ⟨h4First, h4First_shorter, fun c h => h4First_append c h⟩

/-- A complete packet is the first one of its bytes. -/
theorem HciPacket.Complete.first {p : HciPacket} {header : Nat} (h : p.Complete header) :
    h4Stream.first p.wire = some (some p, []) := by
  show h4First (p.type :: p.data) = _
  rw [h4First_known _ h.known, if_pos ⟨h.header, Nat.le_of_eq h.length.symm⟩, ← h.length, List.take_length,
    List.drop_length]

/-- Less than a packet is none. -/
theorem h4First_short {type : UInt8} {header : Nat} {b : Bytes} (h : hciHeaderSize type = some header)
    (hlt : b.length < header ∨ b.length < hciPacketSize type b) : h4Stream.first (type :: b) = none := by
  show h4First (type :: b) = none
  rw [h4First_known b h, if_neg (by omega)]

/-! ## Writing -/

/-- `while (size > 0) { write(...) }`, with what the calls return; -1 (`none`) is tried again. The result is what the
    UART has taken, and the calls that are left; the loop goes on when there are none. -/
def writeLoop : List (Option Nat) → Bytes → Option (Bytes × List (Option Nat))
  | calls, [] => some ([], calls)
  | [], _ :: _ => none
  | none :: calls, b :: data => writeLoop calls (b :: data)
  | some n :: calls, b :: data =>
      (writeLoop calls ((b :: data).drop n)).map fun r => ((b :: data).take n ++ r.1, r.2)

/-- `h4_send_packet`: the type, and behind it the bytes. -/
def h4SendPacket (calls : List (Option Nat)) (p : HciPacket) : Option (Bytes × List (Option Nat)) :=
  (writeLoop calls [p.type]).bind fun r => (writeLoop r.2 p.data).map fun r' => (r.1 ++ r'.1, r'.2)

/-- Packets that are sent one behind the other. -/
def h4SendPackets : List (Option Nat) → List HciPacket → Option (Bytes × List (Option Nat))
  | calls, [] => some ([], calls)
  | calls, p :: ps =>
      (h4SendPacket calls p).bind fun r => (h4SendPackets r.2 ps).map fun r' => (r.1 ++ r'.1, r'.2)

/-- A loop that ends has written everything once. -/
theorem writeLoop_taken {calls : List (Option Nat)} {data : Bytes} {r : Bytes × List (Option Nat)}
    (h : writeLoop calls data = some r) : r.1 = data := by
  induction calls generalizing data r with
  | nil =>
      cases data with
      | nil =>
          cases h
          rfl
      | cons b data => cases h
  | cons call calls ih =>
      cases data with
      | nil =>
          cases h
          rfl
      | cons b data =>
          cases call with
          | none => exact ih h
          | some n =>
              obtain ⟨r', hr', rfl⟩ := Option.map_eq_some_iff.mp h
              show (b :: data).take n ++ r'.1 = b :: data
              rw [ih hr', List.take_append_drop]

/-- What the UART gets of some packets. -/
theorem h4SendPackets_taken {calls : List (Option Nat)} {ps : List HciPacket} {r : Bytes × List (Option Nat)}
    (h : h4SendPackets calls ps = some r) : r.1 = (ps.map HciPacket.wire).flatten := by
  induction ps generalizing calls r with
  | nil =>
      cases h
      rfl
  | cons p ps ih =>
      obtain ⟨r₁, hr₁, hr⟩ := Option.bind_eq_some_iff.mp h
      obtain ⟨r₂, hr₂, rfl⟩ := Option.map_eq_some_iff.mp hr
      obtain ⟨r₃, hr₃, hr₁⟩ := Option.bind_eq_some_iff.mp hr₁
      obtain ⟨r₄, hr₄, rfl⟩ := Option.map_eq_some_iff.mp hr₁
      show r₃.1 ++ r₄.1 ++ r₂.1 = p.wire ++ (ps.map HciPacket.wire).flatten
      rw [writeLoop_taken hr₃, writeLoop_taken hr₄, ih hr₂]
      rfl

/-! ## Reading

What the reader has read of a packet stands at the front of its buffer, in every state that it may be in. One call
adds to this, or moves on to the next part of the packet. -/

/-- `HCI_INCOMING_PACKET_BUFFER_SIZE`: an ACL packet is larger than an event. -/
def hciIncomingPacketBufferSize : Nat := hciAclBufferSize

/-- `H4_STATE`. -/
inductive H4State where
  | w4PacketType
  | w4EventHeader
  | w4AclHeader
  | w4Payload
deriving DecidableEq, Repr

/-- The packet reader, with its buffer for the type and a packet. -/
structure H4Transport where
  h4State : H4State
  bytesToRead : Nat
  readPos : Nat
  hciPacket : Block (1 + hciIncomingPacketBufferSize)

/-- `h4_open`: "init state machine". -/
def h4Open (buffer : Block (1 + hciIncomingPacketBufferSize)) : H4Transport := ⟨.w4PacketType, 1, 0, buffer⟩

/-- `h4_deliver_packet`. -/
def h4DeliverPacket (t : H4Transport) : H4Transport × Option HciPacket :=
  if t.readPos < 3 then (t, none)
  else
    ({ t with h4State := .w4PacketType, readPos := 0, bytesToRead := 1 },
      some ⟨t.hciPacket.val.getD 0 0, (t.hciPacket.val.drop 1).take (t.readPos - 1)⟩)

/-- `h4_statemachine`. -/
def h4Statemachine (t : H4Transport) : H4Transport × Option HciPacket :=
  match t.h4State with
  | .w4PacketType =>
      if t.hciPacket.val.getD 0 0 = hciEventPacket then ({ t with bytesToRead := 2, h4State := .w4EventHeader }, none)
      else if t.hciPacket.val.getD 0 0 = hciAclDataPacket then
        ({ t with bytesToRead := 4, h4State := .w4AclHeader }, none)
      else ({ t with readPos := 0, bytesToRead := 1 }, none)
  | .w4EventHeader => ({ t with bytesToRead := (t.hciPacket.val.getD 2 0).toNat, h4State := .w4Payload }, none)
  | .w4AclHeader =>
      ({ t with bytesToRead := (littleEndianRead16 t.hciPacket.val 3).toNat, h4State := .w4Payload }, none)
  | .w4Payload => h4DeliverPacket t

/-- `h4_process`, when `read` fails (`none`) or brings some bytes; with the reader comes the packet that is given to
    the packet handler. There is no result when `read` writes behind the buffer. -/
def h4Process (t : H4Transport) (read : Option Bytes) : Option (H4Transport × Option HciPacket) :=
  match read with
  | none => some (t, none)
  | some data =>
      (storeAt t.hciPacket t.readPos data).map fun buffer =>
        let t := { t with
          hciPacket := buffer
          bytesToRead := t.bytesToRead - data.length
          readPos := t.readPos + data.length }
        if 0 < t.bytesToRead then (t, none) else h4Statemachine t

/-- In this state, with so many bytes to read, `cur` has been read of a packet. -/
def H4State.At (cur : Bytes) (bytesToRead : Nat) : H4State → Prop
  | .w4PacketType => cur = [] ∧ bytesToRead = 1
  | .w4EventHeader => ∃ b, cur = hciEventPacket :: b ∧ b.length + bytesToRead = 2 ∧ 0 < bytesToRead
  | .w4AclHeader => ∃ b, cur = hciAclDataPacket :: b ∧ b.length + bytesToRead = 4 ∧ 0 < bytesToRead
  | .w4Payload => ∃ type header b, cur = type :: b ∧ hciHeaderSize type = some header ∧ header ≤ b.length ∧
      b.length + bytesToRead = hciPacketSize type b

/-- The reader, and what it has read of a packet. -/
structure H4Transport.Holds (t : H4Transport) (cur : Bytes) : Prop where
  readPos : t.readPos = cur.length
  buffer : t.hciPacket.val.take cur.length = cur
  place : t.h4State.At cur t.bytesToRead

theorem h4Open_holds (buffer : Block (1 + hciIncomingPacketBufferSize)) : (h4Open buffer).Holds [] :=
  ⟨rfl, rfl, rfl, rfl⟩

/-- A buffer is read like the bytes it begins with. -/
theorem getD_of_take {b cur : Bytes} {i : Nat} (h : b.take cur.length = cur) (hi : i < cur.length) :
    b.getD i 0 = cur.getD i 0 := by
  have hsplit := List.take_append_drop cur.length b
  rw [h] at hsplit
  rw [← hsplit, List.getD_append _ _ _ _ hi]

variable {t : H4Transport}

/-- As long as bytes are missing, the state is the same. -/
theorem H4State.At.more {state : H4State} {cur data : Bytes} {bytesToRead : Nat} (h : state.At cur bytesToRead)
    (hmore : 0 < bytesToRead - data.length) : state.At (cur ++ data) (bytesToRead - data.length) := by
  cases state with
  | w4PacketType =>
      obtain ⟨rfl, rfl⟩ := h
      have hnil : data = [] := List.length_eq_zero_iff.mp (by omega)
      subst hnil
      exact ⟨rfl, rfl⟩
  | w4EventHeader =>
      obtain ⟨b, rfl, hlen, -⟩ := h
      exact ⟨b ++ data, rfl, by rw [List.length_append]; omega, hmore⟩
  | w4AclHeader =>
      obtain ⟨b, rfl, hlen, -⟩ := h
      exact ⟨b ++ data, rfl, by rw [List.length_append]; omega, hmore⟩
  | w4Payload =>
      obtain ⟨type, header, b, rfl, hheader, hle, hlen⟩ := h
      refine ⟨type, header, b ++ data, rfl, hheader, by rw [List.length_append]; omega, ?_⟩
      rw [hciPacketSize_append hheader hle, List.length_append]
      omega

/-- A packet of at least two bytes is delivered as it stands in the buffer. -/
theorem h4DeliverPacket_eq {type : UInt8} {b : Bytes} (hread : t.readPos = (type :: b).length)
    (hbuffer : t.hciPacket.val.take (type :: b).length = type :: b) (htwo : 2 ≤ b.length) :
    h4DeliverPacket t =
      ({ t with h4State := .w4PacketType, readPos := 0, bytesToRead := 1 }, some ⟨type, b⟩) := by
  have hreadPos : t.readPos = b.length + 1 := hread
  have htail : (t.hciPacket.val.drop 1).take (t.readPos - 1) = b := by
    rw [hreadPos, Nat.add_sub_cancel, List.take_drop, Nat.add_comm 1]
    exact congrArg (List.drop 1) hbuffer
  rw [h4DeliverPacket, if_neg (by omega), htail, getD_of_take hbuffer (Nat.succ_pos _)]
  rfl

/-- With the last byte it was asked for, the reader goes on, and delivers a packet when its payload is there. -/
theorem h4Statemachine_spec {cur data : Bytes} (h : t.h4State.At cur data.length)
    (hread : t.readPos = (cur ++ data).length) (hbuffer : t.hciPacket.val.take (cur ++ data).length = cur ++ data) :
    ∃ cur', (h4Statemachine t).1.Holds cur' ∧
      h4Stream.decode (cur ++ data) =
        ((h4Statemachine t).2.toList ++ (h4Stream.decode cur').1, (h4Stream.decode cur').2) := by
  have hget : ∀ i, i < (cur ++ data).length → t.hciPacket.val.getD i 0 = (cur ++ data).getD i 0 :=
    fun i hi => getD_of_take hbuffer hi
  unfold h4Statemachine
  cases hs : t.h4State with
  | w4PacketType =>
      -- a header follows, or the byte is skipped
      rw [hs] at h
      obtain ⟨rfl, hlen⟩ := h
      obtain ⟨type, rfl⟩ := List.length_eq_one_iff.mp hlen
      rw [List.nil_append] at hread hbuffer hget ⊢
      have htype : t.hciPacket.val.getD 0 0 = type := hget 0 (Nat.lt_succ_self 0)
      simp only [htype]
      by_cases hevent : type = hciEventPacket
      · subst hevent
        rw [if_pos rfl]
        exact ⟨_, ⟨hread, hbuffer, [], rfl, rfl, Nat.succ_pos 1⟩, rfl⟩
      · rw [if_neg hevent]
        by_cases hacl : type = hciAclDataPacket
        · subst hacl
          rw [if_pos rfl]
          exact ⟨_, ⟨hread, hbuffer, [], rfl, rfl, Nat.succ_pos 3⟩, rfl⟩
        · rw [if_neg hacl]
          have hunknown : hciHeaderSize type = none := by
            rw [hciHeaderSize, if_neg hevent, if_neg hacl]
          exact ⟨[], ⟨rfl, rfl, rfl, rfl⟩, StreamFormat.decode_of_some (h4First_unknown [] hunknown)⟩
  | w4EventHeader =>
      -- the last byte of the header is the length of the payload
      rw [hs] at h
      obtain ⟨b, rfl, hlen, -⟩ := h
      refine ⟨_, ⟨hread, hbuffer, hciEventPacket, 2, b ++ data, rfl, rfl, ?_, ?_⟩, rfl⟩
      · rw [List.length_append, hlen]
      · rw [List.length_append, hlen, hciPacketSize, if_pos rfl]
        show 2 + (t.hciPacket.val.getD 2 0).toNat = _
        rw [hget 2 (by rw [List.length_append, List.length_cons]; omega)]
        rfl
  | w4AclHeader =>
      rw [hs] at h
      obtain ⟨b, rfl, hlen, -⟩ := h
      have hne : ¬ hciAclDataPacket = hciEventPacket := by decide
      refine ⟨_, ⟨hread, hbuffer, hciAclDataPacket, 4, b ++ data, rfl, rfl, ?_, ?_⟩, rfl⟩
      · rw [List.length_append, hlen]
      · rw [List.length_append, hlen, hciPacketSize, if_neg hne]
        show 4 + (littleEndianRead16 t.hciPacket.val 3).toNat = _
        rw [littleEndianRead16_take hbuffer (by rw [List.length_append, List.length_cons]; omega)]
        rfl
  | w4Payload =>
      -- the packet is complete
      rw [hs] at h
      obtain ⟨type, header, b, rfl, hheader, hle, hlen⟩ := h
      have hcomplete : (⟨type, b ++ data⟩ : HciPacket).Complete header := by
        refine ⟨hheader, ?_, ?_⟩
        · rw [List.length_append]
          omega
        · rw [hciPacketSize_append hheader hle, ← hlen, List.length_append]
      have htwo : 2 ≤ (b ++ data).length := by
        have h := two_le_hciHeaderSize hheader
        rw [List.length_append]
        omega
      rw [List.cons_append] at hread hbuffer
      rw [h4DeliverPacket_eq hread hbuffer htwo]
      exact ⟨[], ⟨rfl, rfl, rfl, rfl⟩, StreamFormat.decode_of_some hcomplete.first⟩

/-- **What one call of `h4_process` does.** It writes behind the buffer when the bytes of the packet go beyond its end;
    otherwise the packets of what had been read of a packet, and of what has come, are what it delivers and what is in
    what it has now. -/
theorem h4Process_spec {cur data : Bytes} (h : t.Holds cur) (hdata : data.length ≤ t.bytesToRead) :
    (h4Process t (some data) = none ∧ 1 + hciIncomingPacketBufferSize < (cur ++ data).length) ∨
    ∃ t' p cur', h4Process t (some data) = some (t', p) ∧ (cur ++ data).length ≤ 1 + hciIncomingPacketBufferSize ∧
      t'.Holds cur' ∧
      h4Stream.decode (cur ++ data) = (p.toList ++ (h4Stream.decode cur').1, (h4Stream.decode cur').2) := by
  have hlen : (cur ++ data).length = t.readPos + data.length := by rw [List.length_append, h.readPos]
  cases hstore : storeAt t.hciPacket t.readPos data with
  | none =>
      refine .inl ⟨by rw [h4Process, hstore]; rfl, ?_⟩
      unfold storeAt at hstore
      split at hstore
      · cases hstore
      · omega
  | some buffer =>
      obtain ⟨hle, htake⟩ := storeAt_take hstore
      have hbuffer : buffer.val.take (cur ++ data).length = cur ++ data := by rw [hlen, htake, h.readPos, h.buffer]
      refine .inr ?_
      rw [h4Process, hstore, Option.map_some]
      by_cases hmore : 0 < t.bytesToRead - data.length
      · simp only [if_pos hmore]
        exact ⟨_, _, cur ++ data, rfl, by omega, ⟨hlen.symm, hbuffer, h.place.more hmore⟩, rfl⟩
      · simp only [if_neg hmore]
        have hall : t.bytesToRead = data.length := by omega
        have hplace := h.place
        rw [hall] at hplace
        obtain ⟨cur', hholds, hdecode⟩ := h4Statemachine_spec
          (t := ⟨t.h4State, t.bytesToRead - data.length, t.readPos + data.length, buffer⟩) hplace hlen.symm hbuffer
        exact ⟨_, _, cur', rfl, by omega, hholds, hdecode⟩

/-! ## Runs

The packets in what has been read are those that were delivered and, behind them, those in what the reader holds. This
is kept call by call, and both theorems come from it. -/

/-- A call of `h4_process`: `read` brings no more than it was asked for, and nothing is written behind the buffer. -/
def H4Step (t : H4Transport) (read : Option Bytes) (t' : H4Transport) : Prop :=
  (∀ data, read = some data → data.length ≤ t.bytesToRead) ∧ ∃ p, h4Process t read = some (t', p)

/-- A call that brings some bytes. -/
theorem H4Step.data {t : H4Transport} (data : Bytes) {r : H4Transport × Option HciPacket}
    (hle : data.length ≤ t.bytesToRead) (h : h4Process t (some data) = some r) : H4Step t (some data) r.1 :=
  ⟨fun _ heq => Option.some.inj heq ▸ hle, r.2, h⟩

/-- The calls of `h4_process` since the device was opened. -/
abbrev H4Run (buffer : Block (1 + hciIncomingPacketBufferSize)) := Run H4Step (h4Open buffer)

/-- What has been read. -/
def received (h : List (Step H4Transport (Option Bytes))) : Bytes := h.flatMap fun x => x.input.getD []

/-- The packets that were given to the packet handler. -/
def delivered (h : List (Step H4Transport (Option Bytes))) : List HciPacket :=
  h.flatMap fun x => ((h4Process x.pre x.input).bind Prod.snd).toList

variable {buffer : Block (1 + hciIncomingPacketBufferSize)} {h : List (Step H4Transport (Option Bytes))}

theorem received_snoc (h : List (Step H4Transport (Option Bytes))) (x : Step H4Transport (Option Bytes)) :
    received (h ++ [x]) = received h ++ x.input.getD [] := by
  rw [received, List.flatMap_append, List.flatMap_singleton]
  rfl

theorem delivered_snoc {t t' : H4Transport} {read : Option Bytes} {p : Option HciPacket}
    (h : List (Step H4Transport (Option Bytes))) (hprocess : h4Process t read = some (t', p)) :
    delivered (h ++ [⟨t, read, t'⟩]) = delivered h ++ p.toList := by
  rw [delivered, List.flatMap_append, List.flatMap_singleton, hprocess]
  rfl

/-- The packets of the stream so far are the ones that were delivered, and those in what the reader has. -/
theorem h4Run_holds (hr : H4Run buffer h t) : ∃ cur, t.Holds cur ∧
    h4Stream.decode (received h) = (delivered h ++ (h4Stream.decode cur).1, (h4Stream.decode cur).2) := by
  induction hr with
  | nil => exact ⟨[], h4Open_holds buffer, rfl⟩
  | @snoc h t t' read hr hstep ih =>
      obtain ⟨cur, hholds, hdecode⟩ := ih
      obtain ⟨hasked, p, hprocess⟩ := hstep
      rw [delivered_snoc h hprocess, received_snoc]
      cases read with
      | none =>
          obtain ⟨rfl, rfl⟩ := Prod.mk.inj (Option.some.inj hprocess)
          exact ⟨cur, hholds, by rw [Option.getD_none, List.append_nil, hdecode]; simp⟩
      | some data =>
          rcases h4Process_spec hholds (hasked data rfl) with ⟨hnone, -⟩ | ⟨t₁, p₁, cur', hsome, -, hholds', hnext⟩
          · rw [hnone] at hprocess
            cases hprocess
          · rw [hsome] at hprocess
            obtain ⟨rfl, rfl⟩ := Prod.mk.inj (Option.some.inj hprocess)
            refine ⟨cur', hholds', ?_⟩
            have hcur := StreamFormat.decode_append h4Stream cur data
            rw [hnext] at hcur
            obtain ⟨hvalues, hrest⟩ := Prod.mk.inj hcur
            rw [Option.getD_some, StreamFormat.decode_append, hdecode, ← hrest, List.append_assoc, ← hvalues,
              List.append_assoc]

/-- The packet that waits for the next call, when its payload is empty. -/
def H4Transport.waiting (t : H4Transport) : Option HciPacket :=
  if t.h4State = .w4Payload ∧ t.bytesToRead = 0 then (h4DeliverPacket t).2 else none

/-- What the reader has is one packet, which waits, or less than a packet. -/
theorem H4Transport.Holds.decode {cur : Bytes} (hholds : t.Holds cur) :
    h4Stream.decode cur = (t.waiting.toList, if t.waiting.isSome then [] else cur) := by
  have hplace := hholds.place
  cases hs : t.h4State with
  | w4PacketType =>
      rw [hs] at hplace
      obtain ⟨rfl, -⟩ := hplace
      rw [H4Transport.waiting, hs, if_neg (by simp)]
      rfl
  | w4EventHeader =>
      rw [hs] at hplace
      obtain ⟨b, rfl, hlen, hpos⟩ := hplace
      rw [H4Transport.waiting, hs, if_neg (by simp)]
      exact StreamFormat.decode_of_none (h4First_short (show _ = some 2 from rfl) (.inl (by omega)))
  | w4AclHeader =>
      rw [hs] at hplace
      obtain ⟨b, rfl, hlen, hpos⟩ := hplace
      rw [H4Transport.waiting, hs, if_neg (by simp)]
      exact StreamFormat.decode_of_none (h4First_short (show _ = some 4 from rfl) (.inl (by omega)))
  | w4Payload =>
      rw [hs] at hplace
      obtain ⟨type, header, b, rfl, hheader, hle, hlen⟩ := hplace
      by_cases hzero : t.bytesToRead = 0
      · -- everything is there, and the reader goes on with the next call
        have hsize : b.length = hciPacketSize type b := by omega
        have hcomplete : (⟨type, b⟩ : HciPacket).Complete header := ⟨hheader, hle, hsize⟩
        have htwo : 2 ≤ b.length := Nat.le_trans (two_le_hciHeaderSize hheader) hle
        have hwaiting : t.waiting = some ⟨type, b⟩ := by
          rw [H4Transport.waiting, if_pos ⟨hs, hzero⟩, h4DeliverPacket_eq hholds.readPos hholds.buffer htwo]
        rw [hwaiting]
        exact StreamFormat.decode_of_some hcomplete.first
      · rw [H4Transport.waiting, if_neg (fun h => hzero h.2)]
        exact StreamFormat.decode_of_none (h4First_short hheader (.inr (by omega)))

/-- Nothing is written to a buffer. -/
theorem storeAt_nil {n off : Nat} (b : Block n) (h : off ≤ n) : storeAt b off [] = some b := by
  have hle : off + ([] : Bytes).length ≤ n := h
  rw [storeAt, dif_pos hle]
  refine congrArg some (Subtype.ext ?_)
  show b.val.take off ++ [] ++ b.val.drop off = b.val
  rw [List.append_nil, List.take_append_drop]

/-- A packet that waits is delivered by the next call. -/
theorem h4Process_waiting {cur : Bytes} {p : HciPacket} (hholds : t.Holds cur) (h : t.waiting = some p) :
    ∃ t', h4Process t (some []) = some (t', some p) := by
  have hfits : t.readPos ≤ 1 + hciIncomingPacketBufferSize := by
    rw [hholds.readPos, ← hholds.buffer, List.length_take, t.hciPacket.property]
    exact Nat.min_le_right _ _
  obtain ⟨state, bytesToRead, readPos, buffer⟩ := t
  unfold H4Transport.waiting at h
  split at h
  · rename_i hwaits
    obtain ⟨rfl, rfl⟩ : state = .w4Payload ∧ bytesToRead = 0 := hwaits
    refine ⟨(h4DeliverPacket ⟨.w4Payload, 0, readPos, buffer⟩).1, ?_⟩
    rw [h4Process, storeAt_nil buffer hfits, ← h]
    rfl
  · cases h

/-- Of packets on the UART, in whatever pieces they are read, those that have come are delivered in order, and one may
    wait. -/
theorem h4Run_wires {ps : List HciPacket} (hps : ∀ p ∈ ps, ∃ header, p.Complete header) (hr : H4Run buffer h t)
    (hread : received h <+: (ps.map HciPacket.wire).flatten) :
    delivered h ++ t.waiting.toList <+: ps ∧
      (received h = (ps.map HciPacket.wire).flatten → delivered h ++ t.waiting.toList = ps) := by
  obtain ⟨cur, hholds, hdecode⟩ := h4Run_holds hr
  obtain ⟨u, hu⟩ := hread
  have hall : h4Stream.decode (ps.map HciPacket.wire).flatten = (ps, []) := by
    have hwires : h4Stream.decode ((ps.map HciPacket.wire).flatten ++ []) = (ps, []) :=
      StreamFormat.decode_wires (fun p hp => (hps p hp).choose_spec.first) rfl
    rwa [List.append_nil] at hwires
  rw [hholds.decode] at hdecode
  have happend := StreamFormat.decode_append h4Stream (received h) u
  rw [hu, hall, hdecode] at happend
  obtain ⟨hvalues, -⟩ := Prod.mk.inj happend
  refine ⟨?_, fun hsame => ?_⟩
  · rw [hvalues]
    exact List.prefix_append _ _
  · rw [hsame, hall] at hdecode
    exact (Prod.mk.inj hdecode).1.symm

/-- **What was written is read**: of packets that `h4_send_packet` has written, however often `write` has failed or
    was short, and that `h4_process` reads, in whatever pieces they arrive, those that have come are delivered in order;
    when everything has, all of them are but one without a payload, which the next call delivers. -/
theorem uart_round_trip {ps : List HciPacket} {calls : List (Option Nat)} {r : Bytes × List (Option Nat)}
    (hps : ∀ p ∈ ps, ∃ header, p.Complete header) (hsent : h4SendPackets calls ps = some r) (hr : H4Run buffer h t)
    (hread : received h <+: r.1) :
    delivered h <+: ps ∧ (received h = r.1 → delivered h ++ t.waiting.toList = ps) ∧
      ∀ p, t.waiting = some p → ∃ t', h4Process t (some []) = some (t', some p) := by
  obtain ⟨cur, hholds, -⟩ := h4Run_holds hr
  rw [h4SendPackets_taken hsent] at hread ⊢
  obtain ⟨hfront, hall⟩ := h4Run_wires hps hr hread
  exact ⟨(List.prefix_append _ _).trans hfront, hall, fun p hp => h4Process_waiting hholds hp⟩

/-- An event without a payload. -/
def emptyEvent : HciPacket := ⟨hciEventPacket, [0x10, 0]⟩

/-- `write` fails once and then writes nothing, and the event is read in three pieces; it waits. -/
theorem uart_round_trip_empty : ∃ (h : List (Step H4Transport (Option Bytes))) (t : H4Transport),
    H4Run (Block.zero _) h t ∧ t.waiting = some emptyEvent ∧ delivered h ++ t.waiting.toList = [emptyEvent] := by
  have hsent : h4SendPackets [none, some 1, some 0, some 2] [emptyEvent] = some (emptyEvent.wire, []) := rfl
  have hcomplete : ∀ p ∈ [emptyEvent], ∃ header, p.Complete header :=
    fun p hp => List.mem_singleton.mp hp ▸ ⟨2, rfl, Nat.le_refl 2, rfl⟩
  have hr₁ : H4Run (Block.zero _) _ _ := Run.nil.snoc (H4Step.data [0x04] (by decide) rfl)
  have hr₂ := hr₁.snoc (H4Step.data [0x10] (by decide) rfl)
  have hr₃ := hr₂.snoc (H4Step.data [0] (by decide) rfl)
  exact ⟨_, _, hr₃, rfl, (uart_round_trip hcomplete hsent hr₃ (List.prefix_refl _)).2.1 rfl⟩

/-- More than an event has only the payload of an ACL packet. -/
theorem H4Transport.Holds.beyond {cur data : Bytes} (hholds : t.Holds cur) (hdata : data.length ≤ t.bytesToRead)
    (hlt : 1 + hciIncomingPacketBufferSize < (cur ++ data).length) :
    (0 < t.bytesToRead → t.waiting = none) ∧ ∃ b, cur ++ data = hciAclDataPacket :: b ∧ 4 ≤ b.length ∧
      b.length ≤ hciPacketSize hciAclDataPacket b := by
  have hbuffer : hciIncomingPacketBufferSize = 1025 := rfl
  refine ⟨fun hpos => if_neg fun h => by omega, ?_⟩
  rw [List.length_append] at hlt
  have hplace := hholds.place
  cases hs : t.h4State with
  | w4PacketType =>
      rw [hs] at hplace
      obtain ⟨rfl, hone⟩ := hplace
      rw [List.length_nil] at hlt
      omega
  | w4EventHeader =>
      rw [hs] at hplace
      obtain ⟨b, rfl, hlen, -⟩ := hplace
      rw [List.length_cons] at hlt
      omega
  | w4AclHeader =>
      rw [hs] at hplace
      obtain ⟨b, rfl, hlen, -⟩ := hplace
      rw [List.length_cons] at hlt
      omega
  | w4Payload =>
      rw [hs] at hplace
      obtain ⟨type, header, b, rfl, hheader, hle, hlen⟩ := hplace
      rw [List.length_cons] at hlt
      rcases hciHeaderSize_cases hheader with ⟨rfl, rfl⟩ | ⟨rfl, rfl⟩
      · have hsize : hciPacketSize hciEventPacket b = 2 + (b.getD 1 0).toNat := if_pos rfl
        have hbyte : (b.getD 1 0).toNat < 256 := (b.getD 1 0).toNat_lt
        omega
      · refine ⟨b ++ data, rfl, by rw [List.length_append]; omega, ?_⟩
        rw [hciPacketSize_append hheader hle, List.length_append]
        omega

/-- An ACL packet that is decoded whole is among the packets. -/
theorem decode_acl {b : Bytes} {ps : List HciPacket} (h : h4Stream.decode (hciAclDataPacket :: b) = (ps, [])) :
    ∃ p ∈ ps, p.data.length = hciPacketSize hciAclDataPacket b := by
  cases hfirst : h4Stream.first (hciAclDataPacket :: b) with
  | none =>
      rw [StreamFormat.decode_of_none hfirst] at h
      cases h
  | some r =>
      obtain ⟨p, rest⟩ := r
      rw [StreamFormat.decode_of_some hfirst] at h
      obtain rfl := (Prod.mk.inj h).1
      have hknown := h4First_known b (show hciHeaderSize hciAclDataPacket = some 4 from rfl)
      rw [show h4First (hciAclDataPacket :: b) = some (p, rest) from hfirst] at hknown
      split at hknown
      · rename_i hle
        obtain ⟨rfl, -⟩ := Prod.mk.inj (Option.some.inj hknown)
        exact ⟨_, List.mem_append_left _ (List.mem_singleton.mpr rfl), by
          rw [List.length_take]
          exact Nat.min_eq_left hle.2⟩
      · cases hknown

/-- **When the daemon writes behind its buffer**: when a `read` brings more of an ACL packet than 1025 bytes. A
    controller that sends no longer packets does not make it do so. -/
theorem uart_overruns_iff {data : Bytes} (hr : H4Run buffer h t) (hdata : data.length ≤ t.bytesToRead) :
    (h4Process t (some data) = none ↔
      ∃ b, (h4Stream.decode (received h)).2 ++ data = hciAclDataPacket :: b ∧ hciIncomingPacketBufferSize < b.length) ∧
    ∀ ps : List HciPacket, (∀ p ∈ ps, (∃ header, p.Complete header) ∧ p.data.length ≤ hciIncomingPacketBufferSize) →
      received h ++ data <+: (ps.map HciPacket.wire).flatten → (h4Process t (some data)).isSome := by
  obtain ⟨cur, hholds, hdecode⟩ := h4Run_holds hr
  rw [hholds.decode] at hdecode
  have hfits : cur.length ≤ 1 + hciIncomingPacketBufferSize := by
    rw [← hholds.buffer, List.length_take, t.hciPacket.property]
    exact Nat.min_le_right _ _
  have hiff : h4Process t (some data) = none ↔ 1 + hciIncomingPacketBufferSize < (cur ++ data).length := by
    rcases h4Process_spec hholds hdata with ⟨hnone, hlt⟩ | ⟨t', p, cur', hsome, hle, -⟩
    · exact iff_of_true hnone hlt
    · exact iff_of_false (by rw [hsome]; exact Option.some_ne_none _) (by omega)
  have hrest : 1 + hciIncomingPacketBufferSize < (cur ++ data).length →
      h4Stream.decode (received h) = (delivered h, cur) := by
    intro hlt
    have hnone : t.waiting = none := by
      refine (hholds.beyond hdata hlt).1 ?_
      rw [List.length_append] at hlt
      omega
    rw [hdecode, hnone, Option.toList_none, List.append_nil]
    rfl
  rw [hiff, Option.isSome_iff_ne_none, Ne, hiff]
  refine ⟨⟨fun hlt => ?_, fun ⟨b, hb, hlt⟩ => ?_⟩, fun ps hps ⟨u, hu⟩ hlt => ?_⟩
  · obtain ⟨b, hb, -, -⟩ := (hholds.beyond hdata hlt).2
    rw [hrest hlt]
    refine ⟨b, hb, ?_⟩
    rw [hb, List.length_cons] at hlt
    omega
  · have hshort : (h4Stream.decode (received h)).2.length ≤ cur.length := by
      rw [hdecode]
      dsimp only
      split
      · exact Nat.zero_le _
      · exact Nat.le_refl _
    have hlen := congrArg List.length hb
    rw [List.length_append, List.length_cons] at hlen
    rw [List.length_append]
    omega
  · -- the packet that has begun would be one of those that were sent
    obtain ⟨b, hb, hfour, hle⟩ := (hholds.beyond hdata hlt).2
    have hall : h4Stream.decode ((ps.map HciPacket.wire).flatten ++ []) = (ps, []) :=
      StreamFormat.decode_wires (fun p hp => (hps p hp).1.choose_spec.first) rfl
    rw [List.append_nil, ← hu, List.append_assoc, StreamFormat.decode_append, hrest hlt] at hall
    obtain ⟨hvalues, hnil⟩ := Prod.mk.inj hall
    dsimp only at hvalues hnil
    rw [← List.append_assoc, hb, List.cons_append] at hvalues hnil
    obtain ⟨p, hp, hsize⟩ := decode_acl (Prod.ext rfl hnil)
    rw [hciPacketSize_append (show hciHeaderSize hciAclDataPacket = some 4 from rfl) hfour] at hsize
    have hmem : p ∈ ps := by
      rw [← hvalues]
      exact List.mem_append_right _ hp
    have hsmall := (hps p hmem).2
    rw [hb, List.length_cons] at hlt
    omega

/-- The header of an ACL packet with 1100 bytes, and these bytes. -/
theorem uart_overruns_long : ∃ (h : List (Step H4Transport (Option Bytes))) (t : H4Transport),
    H4Run (Block.zero _) h t ∧ h4Process t (some (List.replicate 1100 0xff)) = none := by
  have hr₁ : H4Run (Block.zero _) _ _ := Run.nil.snoc (H4Step.data [0x02] (by decide) rfl)
  have hr₂ := hr₁.snoc (H4Step.data [1, 0x20, 0x4c, 0x04] (by decide) rfl)
  refine ⟨_, _, hr₂, (uart_overruns_iff hr₂ ?_).1.mpr ⟨[1, 0x20, 0x4c, 0x04] ++ List.replicate 1100 0xff, ?_, ?_⟩⟩
  · rw [List.length_replicate]
    decide
  · rfl
  · rw [List.length_append, List.length_replicate]
    decide

end Showcase.Btstack
