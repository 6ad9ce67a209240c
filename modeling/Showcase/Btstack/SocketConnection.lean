import Showcase.Btstack.Rfcomm
import Showcase.Lib.Framing
import Showcase.Lib.History

/-!
# `Btstack.SocketConnection` — packets between the daemon and its clients

`socket_connection.c`: a client of the daemon writes packets with a header of six bytes to a socket. The daemon reads
them in whatever pieces they arrive, and gives each to its packet handler. A packet that the handler refuses stays in
the buffer of its connection; the connection is *parked*, is not read from, and the packet is given to the handler again
when the stack can send.

The handler and the stack under it are parameters: `callback` may change the stack and returns an error code, and
`next` is what the stack does on its own.

## Contents
- `socketConnectionSendPacket`, `framing` — the format.
- `hciProcessRead` — `socket_connection_hci_process` behind `read`, with `hciProcessRead_spec`.
- `serverStep` — the run loop of the daemon.
- `ServerInv` — what was read from a connection is what the handler took of it, and what the buffer holds.
- **`packets_in_order`** — every client's packets are taken once each, in order, and none is lost.
- **`read_overruns_iff`** — when the daemon writes behind its buffer.
-/

namespace Showcase.Btstack

open Lib

/-! ## The format -/

/-- A packet: at most 65535 bytes, since its size is a `uint16_t`. -/
structure SocketPacket where
  type : UInt16
  channel : UInt16
  data : { b : Bytes // b.length < 2 ^ 16 }

def SocketPacket.size (p : SocketPacket) : UInt16 := UInt16.ofNat p.data.val.length

/-- `socket_connection_send_packet`: the bytes of its two `write`s. -/
def socketConnectionSendPacket (p : SocketPacket) : Bytes :=
  littleEndianStore16 p.type ++ littleEndianStore16 p.channel ++ littleEndianStore16 p.size ++ p.data.val

/-- `sizeof(packet_header_t)`. -/
def packetHeaderSize : Nat := 6

/-- The header ends with the size of the packet. -/
def framing : Framing where
  header := packetHeaderSize
  payload h := (littleEndianRead16 h 4).toNat
  header_pos := Nat.zero_lt_succ 5

@[simp] theorem length_littleEndianStore16 (v : UInt16) : (littleEndianStore16 v).length = 2 := toLE_length 2 v.toNat

/-- A number is read where it was stored. -/
theorem littleEndianRead16_store (pre : Bytes) (v : UInt16) (post : Bytes) :
    littleEndianRead16 (pre ++ littleEndianStore16 v ++ post) pre.length = v := by
  rw [littleEndianRead16, List.append_assoc, List.drop_left, List.take_left' (length_littleEndianStore16 v),
    littleEndianStore16, ofLE_toLE, Nat.mod_eq_of_lt (show v.toNat < 256 ^ 2 from v.toNat_lt)]
  exact UInt16.ofNat_toNat

/-- The bytes a number was read from are those that store it. -/
theorem littleEndianStore16_read {b : Bytes} {i : Nat} (h : i + 2 ≤ b.length) :
    littleEndianStore16 (littleEndianRead16 b i) = (b.drop i).take 2 := by
  have hlen : ((b.drop i).take 2).length = 2 := by
    rw [List.length_take, List.length_drop]
    omega
  have hlt := ofLE_lt ((b.drop i).take 2)
  rw [hlen] at hlt
  have hback := toLE_ofLE ((b.drop i).take 2)
  rw [hlen] at hback
  rw [littleEndianStore16, littleEndianRead16, UInt16.toNat_ofNat_of_lt' hlt, hback]

/-- A number depends on its bytes only. -/
theorem littleEndianRead16_append {b : Bytes} {i : Nat} (h : i + 2 ≤ b.length) (t : Bytes) :
    littleEndianRead16 (b ++ t) i = littleEndianRead16 b i := by
  rw [littleEndianRead16, littleEndianRead16, List.drop_append_of_le_length (by omega),
    List.take_append_of_le_length (by rw [List.length_drop]; omega)]

/-- The header of a packet. -/
def SocketPacket.header (p : SocketPacket) : Bytes :=
  littleEndianStore16 p.type ++ littleEndianStore16 p.channel ++ littleEndianStore16 p.size

theorem SocketPacket.length_header (p : SocketPacket) : p.header.length = packetHeaderSize := by
  simp [SocketPacket.header, packetHeaderSize]

theorem sendPacket_eq (p : SocketPacket) : socketConnectionSendPacket p = p.header ++ p.data.val := rfl

theorem length_sendPacket (p : SocketPacket) :
    (socketConnectionSendPacket p).length = packetHeaderSize + p.data.val.length := by
  rw [sendPacket_eq, List.length_append, p.length_header]

theorem SocketPacket.size_toNat (p : SocketPacket) : p.size.toNat = p.data.val.length :=
  UInt16.toNat_ofNat_of_lt' p.data.property

/-- What the three reads of a header find. -/
theorem SocketPacket.read_header (p : SocketPacket) (t : Bytes) :
    littleEndianRead16 (p.header ++ t) 0 = p.type ∧ littleEndianRead16 (p.header ++ t) 2 = p.channel ∧
      littleEndianRead16 (p.header ++ t) 4 = p.size := by
  have htype := littleEndianRead16_store [] p.type (littleEndianStore16 p.channel ++ littleEndianStore16 p.size ++ t)
  have hchannel := littleEndianRead16_store (littleEndianStore16 p.type) p.channel (littleEndianStore16 p.size ++ t)
  have hsize := littleEndianRead16_store (littleEndianStore16 p.type ++ littleEndianStore16 p.channel) p.size t
  rw [length_littleEndianStore16] at hchannel
  rw [List.length_append, length_littleEndianStore16, length_littleEndianStore16] at hsize
  refine ⟨?_, ?_, ?_⟩
  · simpa [SocketPacket.header] using htype
  · simpa [SocketPacket.header] using hchannel
  · simpa [SocketPacket.header] using hsize

/-- **A packet is one frame**. -/
theorem sendPacket_isFrame (p : SocketPacket) : framing.IsFrame (socketConnectionSendPacket p) := by
  have hhead : (socketConnectionSendPacket p).take framing.header = p.header := by
    rw [sendPacket_eq]
    exact List.take_left' p.length_header
  have hread := (p.read_header []).2.2
  rw [List.append_nil] at hread
  refine ⟨?_, ?_⟩
  · rw [sendPacket_eq, List.length_append, p.length_header]
    exact Nat.le_add_right _ _
  · rw [hhead]
    show _ = packetHeaderSize + (littleEndianRead16 p.header 4).toNat
    rw [hread, p.size_toNat, length_sendPacket]

/-- The bytes of a packet tell it. -/
theorem sendPacket_injective : Function.Injective socketConnectionSendPacket := by
  intro p q h
  obtain ⟨hhead, hdata⟩ := List.append_inj h (by simp)
  obtain ⟨htype, hchannel, -⟩ := p.read_header []
  obtain ⟨htype', hchannel', -⟩ := q.read_header []
  have hheader : p.header = q.header := hhead
  rw [hheader] at htype hchannel
  obtain ⟨t, ch, d⟩ := p
  obtain ⟨t', ch', d'⟩ := q
  obtain rfl : t' = t := htype'.symm.trans htype
  obtain rfl : ch' = ch := hchannel'.symm.trans hchannel
  obtain rfl : d = d' := Subtype.ext hdata
  rfl

/-- `HCI_ACL_HEADER_SIZE + HCI_ACL_PAYLOAD_SIZE`. -/
def hciAclBufferSize : Nat := 4 + 1021

/-! ## A connection -/

/-- `SOCKET_STATE`. -/
inductive SocketState where
  | w4Header
  | w4Data
deriving DecidableEq, Repr

/-- `struct connection`. -/
structure Connection where
  state : SocketState
  bytesRead : Nat
  bytesToRead : Nat
  buffer : Block (packetHeaderSize + hciAclBufferSize)

/-- `socket_connection_init_statemachine`. -/
def Connection.initStatemachine (c : Connection) : Connection :=
  { c with state := .w4Header, bytesRead := 0, bytesToRead := packetHeaderSize }

/-- `socket_connection_register_new_connection`. -/
def Connection.new : Connection := Connection.initStatemachine ⟨.w4Header, 0, 0, Block.zero _⟩

theorem length_storeAt {n off : Nat} (buffer : Block n) (data : Bytes) (h : off + data.length ≤ n) :
    (buffer.val.take off ++ data ++ buffer.val.drop (off + data.length)).length = n := by
  have hlen := buffer.property
  simp only [List.length_append, List.length_take, List.length_drop]
  omega

/-- Bytes are written to a buffer at `off`; `none` when they go beyond its end. -/
def storeAt {n : Nat} (buffer : Block n) (off : Nat) (data : Bytes) : Option (Block n) :=
  if h : off + data.length ≤ n then
    some ⟨buffer.val.take off ++ data ++ buffer.val.drop (off + data.length), length_storeAt buffer data h⟩
  else none

theorem length_packetData (b : Bytes) (size : UInt16) : ((b.drop packetHeaderSize).take size.toNat).length < 2 ^ 16 :=
  Nat.lt_of_le_of_lt (List.length_take_le _ _) size.toNat_lt

/-- The packet in the buffer, as the packet handler gets it. -/
def Connection.packet (c : Connection) : SocketPacket where
  type := littleEndianRead16 c.buffer.val 0
  channel := littleEndianRead16 c.buffer.val 2
  data := ⟨(c.buffer.val.drop packetHeaderSize).take (littleEndianRead16 c.buffer.val 4).toNat,
    length_packetData c.buffer.val (littleEndianRead16 c.buffer.val 4)⟩

/-- `socket_connection_hci_process` behind a `read` that brought `data`: the connection, and whether the packet is
    dispatched. -/
def hciProcessRead (c : Connection) (data : Bytes) : Option (Connection × Bool) :=
  (storeAt c.buffer c.bytesRead data).map fun buffer =>
    let c := { c with
      buffer := buffer
      bytesRead := c.bytesRead + data.length
      bytesToRead := c.bytesToRead - data.length }
    if 0 < c.bytesToRead then (c, false)
    else
      match c.state with
      | .w4Header =>
          let length := littleEndianRead16 c.buffer.val 4
          ({ c with state := .w4Data, bytesToRead := length.toNat }, length = 0)
      | .w4Data => (c, true)

/-! ## Reading -/

/-- The connection holds `cur`, less than a packet. -/
structure Connection.Holds (c : Connection) (cur : Bytes) : Prop where
  bytesRead : c.bytesRead = cur.length
  bytesToRead : c.bytesToRead = framing.missing cur
  buffer : c.buffer.val.take cur.length = cur
  state : c.state = .w4Header ↔ cur.length < packetHeaderSize

theorem Connection.initStatemachine_holds (c : Connection) : c.initStatemachine.Holds [] :=
  ⟨rfl, rfl, rfl, iff_of_true rfl (Nat.zero_lt_succ 5)⟩

theorem storeAt_take {n off : Nat} {buffer buffer' : Block n} {data : Bytes}
    (h : storeAt buffer off data = some buffer') :
    off + data.length ≤ n ∧ buffer'.val.take (off + data.length) = buffer.val.take off ++ data := by
  unfold storeAt at h
  split at h
  · rename_i hle
    obtain rfl := Option.some.inj h
    have hlen : (buffer.val.take off ++ data).length = off + data.length := by
      rw [List.length_append, List.length_take, buffer.property]
      omega
    exact ⟨hle, List.take_left' hlen⟩
  · cases h

/-- Three numbers that are read one behind the other are the header they are read from. -/
theorem storeReads {b : Bytes} (h : packetHeaderSize ≤ b.length) :
    littleEndianStore16 (littleEndianRead16 b 0) ++ littleEndianStore16 (littleEndianRead16 b 2) ++
      littleEndianStore16 (littleEndianRead16 b 4) = b.take packetHeaderSize := by
  have hlen : 6 ≤ b.length := h
  rw [littleEndianStore16_read (by omega), littleEndianStore16_read (by omega), littleEndianStore16_read (by omega),
    List.drop_zero, ← List.take_add, ← List.take_add]
  rfl

/-- A buffer is read like the bytes it begins with. -/
theorem littleEndianRead16_take {b cur : Bytes} {i : Nat} (h : b.take cur.length = cur) (hi : i + 2 ≤ cur.length) :
    littleEndianRead16 b i = littleEndianRead16 cur i := by
  have hsplit := List.take_append_drop cur.length b
  rw [h] at hsplit
  rw [← hsplit, littleEndianRead16_append hi]

/-- The packet in a buffer that begins with the bytes of a frame. -/
theorem Connection.packet_eq {c : Connection} {cur : Bytes} (hbuf : c.buffer.val.take cur.length = cur)
    (hframe : framing.IsFrame cur) : socketConnectionSendPacket c.packet = cur := by
  have hheader : packetHeaderSize ≤ cur.length := hframe.header
  have hsix : 6 ≤ cur.length := hheader
  have hread : ∀ i, i + 2 ≤ cur.length → littleEndianRead16 c.buffer.val i = littleEndianRead16 cur i :=
    fun i hi => littleEndianRead16_take hbuf hi
  have hpayload : framing.payload (cur.take packetHeaderSize) = (littleEndianRead16 cur 4).toNat := by
    have h := littleEndianRead16_append (b := cur.take packetHeaderSize) (i := 4)
      (by rw [List.length_take]; exact Nat.le_min.mpr ⟨Nat.le_refl 6, hsix⟩) (cur.drop packetHeaderSize)
    rw [List.take_append_drop] at h
    exact congrArg UInt16.toNat h.symm
  have hlen : cur.length = packetHeaderSize + (littleEndianRead16 cur 4).toNat := by
    rw [← hpayload]
    exact hframe.length
  have hdata : c.packet.data.val = cur.drop packetHeaderSize := by
    show (c.buffer.val.drop packetHeaderSize).take (littleEndianRead16 c.buffer.val 4).toNat = _
    rw [hread 4 (by omega)]
    conv_rhs => rw [← hbuf, List.drop_take, hlen, Nat.add_sub_cancel_left]
  have hsize : c.packet.size = littleEndianRead16 cur 4 := by
    apply UInt16.toNat_inj.mp
    rw [c.packet.size_toNat, hdata, List.length_drop]
    omega
  have hheaderEq : c.packet.header = cur.take packetHeaderSize := by
    rw [← storeReads hheader, SocketPacket.header, hsize]
    show littleEndianStore16 (littleEndianRead16 c.buffer.val 0) ++
      littleEndianStore16 (littleEndianRead16 c.buffer.val 2) ++ _ = _
    rw [hread 0 (by omega), hread 2 (by omega)]
  rw [sendPacket_eq, hheaderEq, hdata, List.take_append_drop]

/-- **What one `read` does.** It writes behind the buffer when the bytes of the packet go beyond its end; otherwise it
    completes the packet, which is then in the buffer, or the connection holds more of it. -/
theorem hciProcessRead_spec {c : Connection} {cur data : Bytes} (hc : c.Holds cur) (hbegins : framing.Begins cur)
    (hdata : data.length ≤ c.bytesToRead) :
    (hciProcessRead c data = none ∧ packetHeaderSize + hciAclBufferSize < (cur ++ data).length) ∨
    ∃ c' complete, hciProcessRead c data = some (c', complete) ∧
      (cur ++ data).length ≤ packetHeaderSize + hciAclBufferSize ∧
      (complete = true ∧ framing.IsFrame (cur ++ data) ∧ socketConnectionSendPacket c'.packet = cur ++ data ∨
        complete = false ∧ framing.missing (cur ++ data) ≠ 0 ∧ c'.Holds (cur ++ data)) := by
  have hread := hc.bytesRead
  rw [hc.bytesToRead] at hdata
  have hbegins' := hbegins.append hdata
  have hmissing := Framing.missing_append hdata
  cases hstore : storeAt c.buffer c.bytesRead data with
  | none =>
      refine .inl ⟨by rw [hciProcessRead, hstore]; rfl, ?_⟩
      unfold storeAt at hstore
      split at hstore
      · cases hstore
      · rename_i hlt
        rw [List.length_append]
        omega
  | some buffer =>
      obtain ⟨hle, htake⟩ := storeAt_take hstore
      have hlen : (cur ++ data).length = c.bytesRead + data.length := by rw [List.length_append, hread]
      have hbuf : buffer.val.take (cur ++ data).length = cur ++ data := by
        rw [hlen, htake, hread, hc.buffer]
      refine .inr ?_
      simp only [hciProcessRead, hstore, Option.map_some]
      by_cases hmore : 0 < c.bytesToRead - data.length
      · rw [if_pos hmore]
        rw [hc.bytesToRead] at hmore
        rw [if_neg (by omega)] at hmissing
        refine ⟨_, _, rfl, by omega, .inr ⟨rfl, by omega, hlen.symm, ?_, hbuf, ?_⟩⟩
        · show c.bytesToRead - data.length = _
          rw [hmissing, hc.bytesToRead]
        · show c.state = .w4Header ↔ _
          rw [hc.state, hlen, hread]
          refine ⟨fun hlt => ?_, fun hlt => by omega⟩
          rw [Framing.missing_header hlt] at hmore
          have hheader : framing.header = packetHeaderSize := rfl
          omega
      · rw [if_neg hmore]
        rw [hc.bytesToRead] at hmore
        have hall : framing.missing cur = data.length := by omega
        cases hstate : c.state with
        | w4Header =>
            have hlt := hc.state.mp hstate
            rw [if_pos ⟨hall, hlt⟩] at hmissing
            rw [Framing.missing_header hlt] at hall
            have hsix : (cur ++ data).length = 6 := by
              rw [List.length_append, ← hall]
              exact Nat.add_sub_cancel' (Nat.le_of_lt hlt)
            have hsize := littleEndianRead16_take (i := 4) hbuf (by omega)
            refine ⟨_, _, rfl, by omega, ?_⟩
            by_cases hzero : littleEndianRead16 buffer.val 4 = 0
            · have hframe : framing.IsFrame (cur ++ data) := by
                rw [Framing.isFrame_iff hbegins', hmissing]
                show (littleEndianRead16 (cur ++ data) 4).toNat = 0
                rw [← hsize, hzero]
                rfl
              exact .inl ⟨by simp [hzero], hframe, Connection.packet_eq hbuf hframe⟩
            · refine .inr ⟨by simp [hzero], ?_, hlen.symm, ?_, hbuf, ?_⟩
              · rw [hmissing]
                show (littleEndianRead16 (cur ++ data) 4).toNat ≠ 0
                rw [← hsize]
                exact fun h => hzero (UInt16.toNat_inj.mp h)
              · rw [hmissing]
                exact congrArg UInt16.toNat hsize
              · exact iff_of_false (fun h => by cases h) (by rw [hsix]; exact Nat.lt_irrefl 6)
        | w4Data =>
            have hlt : ¬ cur.length < packetHeaderSize := fun hlt => by
              rw [hc.state.mpr hlt] at hstate
              cases hstate
            rw [if_neg (fun h => hlt h.2), hall, Nat.sub_self] at hmissing
            have hframe := (Framing.isFrame_iff hbegins').mpr hmissing
            exact ⟨_, _, rfl, by omega, .inl ⟨rfl, hframe, Connection.packet_eq hbuf hframe⟩⟩

/-! ## The run loop -/

/-- A call of the packet handler with a client's packet, and what it returned. -/
structure Dispatch where
  connection : Nat
  packet : SocketPacket
  err : Int

/-- The connections of the daemon and the stack under it. Connections are numbered in the order they are opened;
    `log` and `received` keep the calls of the packet handler, and what has been read from each connection. -/
structure Server (σ : Type) where
  stack : σ
  nextConnection : Nat
  connections : Nat → Option Connection
  parked : List Nat
  log : List Dispatch
  received : Nat → Bytes

def Server.init {σ : Type} (stack : σ) : Server σ := ⟨stack, 0, fun _ => none, [], [], fun _ => []⟩

/-- What the run loop gets: a new connection, the result of a `read` (nothing, when the connection is broken), a retry
    of the parked connections, and whatever the stack does. -/
inductive ServerInput (ε : Type) where
  | accepted
  | readable (connection : Nat) (data : Bytes)
  | retry
  | stack (e : ε)

def daemonEventPacket : UInt16 := 0x05
def daemonEventConnectionOpened : UInt8 := 0x67
def daemonEventConnectionClosed : UInt8 := 0x68

theorem length_daemonEvent (event : UInt8) : [event].length < 2 ^ 16 := by
  rw [List.length_singleton]
  omega

/-- The packet of `socket_connection_emit_connection_opened` and `socket_connection_emit_connection_closed`. -/
def daemonEvent (event : UInt8) : SocketPacket := ⟨daemonEventPacket, 0, [event], length_daemonEvent event⟩

section RunLoop

variable {σ ε : Type} (callback : σ → Nat → SocketPacket → σ × Int) (next : σ → ε → σ)

/-- The packet of a connection is given to the packet handler. -/
def dispatch (s : Server σ) (connection : Nat) (p : SocketPacket) : Server σ × Int :=
  let r := callback s.stack connection p
  ({ s with stack := r.1, log := s.log ++ [⟨connection, p, r.2⟩] }, r.2)

/-- The connection is parked when its packet is refused. -/
def dispatchOrPark (s : Server σ) (connection : Nat) (p : SocketPacket) : Server σ :=
  let r := dispatch callback s connection p
  if r.2 = 0 then r.1 else { r.1 with parked := r.1.parked ++ [connection] }

/-- One parked connection of `socket_connection_retry_parked`. -/
def retryOne (s : Server σ) (connection : Nat) : Server σ :=
  match s.connections connection with
  | none => s
  | some c =>
      let r := dispatch callback s connection c.packet
      if r.2 = 0 then { r.1 with parked := r.1.parked.filter (· ≠ connection) } else r.1

/-- `socket_connection_retry_parked`. -/
def socketConnectionRetryParked (s : Server σ) : Server σ := s.parked.foldl (retryOne callback) s

/-- `socket_connection_hci_process`; `none` when it writes behind its buffer. -/
def socketConnectionHciProcess (s : Server σ) (connection : Nat) (c : Connection) (data : Bytes) :
    Option (Server σ) :=
  if data = [] then
    some { s with
      stack := (callback s.stack connection (daemonEvent daemonEventConnectionClosed)).1
      connections := Function.update s.connections connection none }
  else
    (hciProcessRead c data).map fun (c, complete) =>
      let s := { s with received := Function.update s.received connection (s.received connection ++ data) }
      if complete then
        dispatchOrPark callback
          { s with connections := Function.update s.connections connection (some c.initStatemachine) } connection c.packet
      else { s with connections := Function.update s.connections connection (some c) }

/-- The connection can be read from, and `read` brings no more than it was asked for. -/
def Readable (s : Server σ) (connection : Nat) (data : Bytes) (c : Connection) : Prop :=
  s.connections connection = some c ∧ connection ∉ s.parked ∧ data.length ≤ c.bytesToRead

/-- One round of the run loop. -/
inductive ServerStep : Server σ → ServerInput ε → Server σ → Prop where
  | accepted (s : Server σ) : ServerStep s .accepted
      { s with
        stack := (callback s.stack s.nextConnection (daemonEvent daemonEventConnectionOpened)).1
        nextConnection := s.nextConnection + 1
        connections := Function.update s.connections s.nextConnection (some .new) }
  | readable {s s' : Server σ} {connection : Nat} {data : Bytes} {c : Connection}
      (hr : Readable s connection data c)
      (h : socketConnectionHciProcess callback s connection c data = some s') :
      ServerStep s (.readable connection data) s'
  | retry (s : Server σ) : ServerStep s .retry (socketConnectionRetryParked callback s)
  | stack (s : Server σ) (e : ε) : ServerStep s (.stack e) { s with stack := next s.stack e }

end RunLoop

/-! ## What has become of a client's packets -/

/-- The packets of a connection that the packet handler has taken. -/
def acceptedOf (connection : Nat) (log : List Dispatch) : List SocketPacket :=
  (log.filter fun d => d.connection = connection ∧ d.err = 0).map Dispatch.packet

/-- The bytes of some packets. -/
def wires (ps : List SocketPacket) : Bytes := ps.flatMap socketConnectionSendPacket

/-- Every packet of the connection that is given to the handler is the first of `ps` that it has not taken yet. -/
def TakenInOrder (log : List Dispatch) (connection : Nat) (ps : List SocketPacket) : Prop :=
  ∀ pre d post, log = pre ++ d :: post → d.connection = connection →
    ps[(acceptedOf connection pre).length]? = some d.packet

/-- **A client's packets.** They are given to the handler in order, each until it is taken; of the packets that have
    arrived whole all are taken, except for one that the connection is parked with. -/
structure PacketsInOrder {σ : Type} (s : Server σ) (connection : Nat) (ps : List SocketPacket) : Prop where
  inOrder : TakenInOrder s.log connection ps
  all : connection ∉ s.parked → ∀ k ≤ ps.length, wires (ps.take k) <+: s.received connection →
    k ≤ (acceptedOf connection s.log).length
  parked : connection ∈ s.parked →
    s.received connection = wires (ps.take ((acceptedOf connection s.log).length + 1))

@[simp] theorem wires_nil : wires [] = [] := rfl

@[simp] theorem wires_append (ps qs : List SocketPacket) : wires (ps ++ qs) = wires ps ++ wires qs :=
  List.flatMap_append

@[simp] theorem wires_singleton (p : SocketPacket) : wires [p] = socketConnectionSendPacket p :=
  List.flatMap_singleton _ _

theorem wires_flatten (ps : List SocketPacket) : wires ps = (ps.map socketConnectionSendPacket).flatten :=
  List.flatMap_def

theorem wires_frames (ps : List SocketPacket) : ∀ f ∈ ps.map socketConnectionSendPacket, framing.IsFrame f := by
  intro f hf
  obtain ⟨p, -, rfl⟩ := List.mem_map.mp hf
  exact sendPacket_isFrame p

/-- Packets whose bytes begin those of others begin them. -/
theorem prefix_of_wires {ps qs : List SocketPacket} {t : Bytes} (h : wires ps ++ t = wires qs) : ps <+: qs := by
  rw [wires_flatten, wires_flatten] at h
  have hpre := Framing.frames_prefix (wires_frames ps) (wires_frames qs) h
  rwa [List.prefix_map_iff_of_injective sendPacket_injective] at hpre

theorem acceptedOf_snoc (connection : Nat) (log : List Dispatch) (d : Dispatch) :
    acceptedOf connection (log ++ [d]) =
      acceptedOf connection log ++ if d.connection = connection ∧ d.err = 0 then [d.packet] else [] := by
  by_cases h : d.connection = connection ∧ d.err = 0
  · rw [if_pos h]
    simp [acceptedOf, List.filter_append, h]
  · rw [if_neg h]
    simp [acceptedOf, List.filter_append, h]

/-- One more call. -/
theorem TakenInOrder.snoc {log : List Dispatch} {connection : Nat} {ps : List SocketPacket} {d : Dispatch}
    (h : TakenInOrder log connection ps)
    (hd : d.connection = connection → ps[(acceptedOf connection log).length]? = some d.packet) :
    TakenInOrder (log ++ [d]) connection ps := by
  intro pre e post heq hconn
  rcases snoc_eq_append_cons heq with ⟨rfl, rfl, -⟩ | ⟨post', -, hpre⟩
  · exact hd hconn
  · exact h pre e post' hpre hconn

/-! ## The invariant

For each connection the bytes that were read are the packets that the handler has taken and, behind them, what the
buffer holds. A connection that is parked holds a whole packet, any other one less than that. -/

variable {σ ε : Type} {callback : σ → Nat → SocketPacket → σ × Int} {next : σ → ε → σ} {s s' : Server σ}
  {connection : Nat}

/-- What was read from a connection is what the handler took of it, and `cur`: less than a packet, or the packet it is
    parked with. -/
structure ConnInv (s : Server σ) (connection : Nat) (cur : Bytes) : Prop where
  received : s.received connection = wires (acceptedOf connection s.log) ++ cur
  begins : framing.Begins cur
  reading : connection ∉ s.parked →
    framing.missing cur ≠ 0 ∧ ∀ c, s.connections connection = some c → c.Holds cur
  parked : connection ∈ s.parked →
    ∃ c, s.connections connection = some c ∧ c.Holds [] ∧ socketConnectionSendPacket c.packet = cur

/-- The invariant of the daemon. -/
structure ServerInv (s : Server σ) : Prop where
  conns : ∀ connection, ∃ cur, ConnInv s connection cur
  nodup : s.parked.Nodup
  fresh : ∀ connection, s.nextConnection ≤ connection →
    s.connections connection = none ∧ s.received connection = [] ∧ connection ∉ s.parked
  inOrder : ∀ connection ps, s.received connection <+: wires ps → TakenInOrder s.log connection ps

/-- The invariant of a connection speaks of that connection only. -/
theorem ConnInv.congr {cur : Bytes} (h : ConnInv s connection cur)
    (hreceived : s'.received connection = s.received connection)
    (haccepted : acceptedOf connection s'.log = acceptedOf connection s.log)
    (hparked : connection ∈ s'.parked ↔ connection ∈ s.parked)
    (hconn : s'.connections connection = s.connections connection) : ConnInv s' connection cur where
  received := by rw [hreceived, haccepted, h.received]
  begins := h.begins
  reading hno := by
    rw [hconn]
    exact h.reading (fun hp => hno (hparked.mpr hp))
  parked hp := by
    rw [hconn]
    exact h.parked (hparked.mp hp)

theorem serverInv_init (stack : σ) : ServerInv (Server.init stack) where
  conns connection := ⟨[], rfl, Framing.begins_nil, fun _ => ⟨by decide, fun c hc => by cases hc⟩,
    fun h => absurd h List.not_mem_nil⟩
  nodup := List.nodup_nil
  fresh connection _ := ⟨rfl, rfl, List.not_mem_nil⟩
  inOrder connection ps _ pre d post h := by simp [Server.init] at h


/-! ## Giving a packet to the handler -/

/-- All of a packet has arrived, is in the buffer of its connection and is what the handler gets next. -/
structure Offers (s : Server σ) (connection : Nat) (c : Connection) : Prop where
  received : s.received connection = wires (acceptedOf connection s.log) ++ socketConnectionSendPacket c.packet
  conn : s.connections connection = some c
  holds : c.Holds []
  others : ∀ k, k ≠ connection → ∃ cur, ConnInv s k cur
  nodup : s.parked.Nodup
  fresh : ∀ k, s.nextConnection ≤ k → s.connections k = none ∧ s.received k = [] ∧ k ∉ s.parked
  inOrder : ∀ k ps, s.received k <+: wires ps → TakenInOrder s.log k ps

/-- The packet that is offered is the first one the handler has not taken. -/
theorem Offers.isNext {c : Connection} {ps : List SocketPacket} (h : Offers s connection c)
    (hps : s.received connection <+: wires ps) : ps[(acceptedOf connection s.log).length]? = some c.packet := by
  obtain ⟨t, ht⟩ := hps
  rw [h.received, ← wires_singleton, ← wires_append] at ht
  obtain ⟨rest, rfl⟩ := prefix_of_wires ht
  rw [List.append_assoc, List.getElem?_append_right (Nat.le_refl _), Nat.sub_self]
  rfl

/-- **The packet is taken, or the connection is parked with it.** -/
theorem Offers.dispatched {c : Connection} {parked : List Nat} (h : Offers s connection c) (hnodup : parked.Nodup)
    (hothers : ∀ k, k ≠ connection → (k ∈ parked ↔ k ∈ s.parked))
    (hself : connection ∈ parked ↔ (dispatch callback s connection c.packet).2 ≠ 0) :
    ServerInv { (dispatch callback s connection c.packet).1 with parked := parked } := by
  have hlog : ∀ k, acceptedOf k (dispatch callback s connection c.packet).1.log = acceptedOf k s.log ++
      if connection = k ∧ (dispatch callback s connection c.packet).2 = 0 then [c.packet] else [] :=
    fun k => acceptedOf_snoc k s.log _
  refine ⟨?_, hnodup, ?_, ?_⟩
  · intro k
    by_cases hk : k = connection
    · subst hk
      by_cases herr : (dispatch callback s k c.packet).2 = 0
      · -- taken: the connection is in front of the next packet
        refine ⟨[], ?_, Framing.begins_nil, fun _ => ⟨by decide, ?_⟩, fun hp => absurd herr (hself.mp hp)⟩
        · show s.received k = wires (acceptedOf k (dispatch callback s k c.packet).1.log) ++ []
          rw [hlog, if_pos ⟨rfl, herr⟩, wires_append, wires_singleton, List.append_nil, h.received]
        · intro c' hc'
          obtain rfl := Option.some.inj (h.conn.symm.trans hc')
          exact h.holds
      · refine ⟨socketConnectionSendPacket c.packet, ?_, ?_, fun hno => absurd (hself.mpr herr) hno,
          fun _ => ⟨c, h.conn, h.holds, rfl⟩⟩
        · show s.received k = wires (acceptedOf k (dispatch callback s k c.packet).1.log) ++ _
          rw [hlog, if_neg (fun hh => herr hh.2), List.append_nil, h.received]
        · exact .inr (Nat.le_of_eq (sendPacket_isFrame c.packet).length)
    · obtain ⟨cur, hcur⟩ := h.others k hk
      refine ⟨cur, hcur.congr rfl ?_ (hothers k hk) rfl⟩
      exact (hlog k).trans (by rw [if_neg (fun hh => hk hh.1.symm), List.append_nil])
  · intro k hk
    obtain ⟨hconn, hreceived, hpark⟩ := h.fresh k hk
    have hne : k ≠ connection := by
      rintro rfl
      rw [h.conn] at hconn
      cases hconn
    exact ⟨hconn, hreceived, fun hp => hpark ((hothers k hne).mp hp)⟩
  · intro k ps hps
    refine (h.inOrder k ps hps).snoc ?_
    rintro rfl
    exact h.isNext hps

/-! ## One round

A round works on one connection, or on the parked ones one after the other. The invariant speaks of each connection
separately, so only the one that the round is about has to be looked at. -/

/-- A connection that is parked offers its packet. -/
theorem ServerInv.offers_parked {connection : Nat} (h : ServerInv s) (hpark : connection ∈ s.parked) :
    ∃ c, s.connections connection = some c ∧ Offers s connection c := by
  obtain ⟨cur, hcur⟩ := h.conns connection
  obtain ⟨c, hconn, hholds, rfl⟩ := hcur.parked hpark
  exact ⟨c, hconn, hcur.received, hconn, hholds, fun k _ => h.conns k, h.nodup, h.fresh, h.inOrder⟩

theorem retryOne_inv (h : ServerInv s) (hpark : connection ∈ s.parked) :
    ServerInv (retryOne callback s connection) ∧
      ∀ k ∈ s.parked, k ≠ connection → k ∈ (retryOne callback s connection).parked := by
  obtain ⟨c, hconn, hoffers⟩ := h.offers_parked hpark
  rw [retryOne, hconn]
  simp only
  by_cases herr : (dispatch callback s connection c.packet).2 = 0
  · rw [if_pos herr]
    refine ⟨hoffers.dispatched (h.nodup.filter _) ?_ ?_, ?_⟩
    · intro k hk
      simp [dispatch, hk]
    · simp [herr]
    · intro k hk hne
      simpa [dispatch, hne] using hk
  · rw [if_neg herr]
    exact ⟨hoffers.dispatched h.nodup (fun _ _ => Iff.rfl) (iff_of_true hpark herr), fun k hk _ => hk⟩

/-- `socket_connection_retry_parked` keeps the invariant. -/
theorem retryParked_inv (h : ServerInv s) : ServerInv (socketConnectionRetryParked callback s) := by
  have hloop : ∀ (l : List Nat) (s : Server σ), ServerInv s → l.Nodup → (∀ k ∈ l, k ∈ s.parked) →
      ServerInv (l.foldl (retryOne callback) s) := by
    intro l
    induction l with
    | nil => exact fun s h _ _ => h
    | cons k l ih =>
        intro s h hnodup hall
        obtain ⟨hk, hnodup⟩ := List.nodup_cons.mp hnodup
        obtain ⟨hinv, hkeep⟩ : ServerInv (retryOne callback s k) ∧ _ := retryOne_inv h (hall k List.mem_cons_self)
        refine ih _ hinv hnodup fun j hj => hkeep j (hall j (List.mem_cons_of_mem _ hj)) ?_
        rintro rfl
        exact hk hj
  exact hloop s.parked s h h.nodup fun k hk => hk

/-- A change of the stack is none of the connections. -/
theorem ServerInv.withStack (h : ServerInv s) (stack : σ) : ServerInv { s with stack := stack } :=
  ⟨fun k => (h.conns k).imp fun _ hcur => hcur.congr rfl rfl Iff.rfl rfl, h.nodup, h.fresh, h.inOrder⟩

/-- A new connection. -/
theorem ServerInv.accepted (h : ServerInv s) :
    ServerInv { s with
      nextConnection := s.nextConnection + 1
      connections := Function.update s.connections s.nextConnection (some .new) } := by
  refine ⟨?_, h.nodup, ?_, h.inOrder⟩
  · intro k
    obtain ⟨cur, hcur⟩ := h.conns k
    by_cases hk : k = s.nextConnection
    · obtain ⟨-, hreceived, hpark⟩ := h.fresh k (Nat.le_of_eq hk.symm)
      have hnil := hcur.received
      rw [hreceived] at hnil
      obtain rfl := (List.append_eq_nil_iff.mp hnil.symm).2
      refine ⟨[], hcur.received, hcur.begins, fun _ => ⟨by decide, ?_⟩, fun hp => absurd hp hpark⟩
      intro c hc
      have hself : Function.update s.connections s.nextConnection (some Connection.new) k = some c := hc
      rw [hk, Function.update_self] at hself
      obtain rfl := Option.some.inj hself
      exact Connection.initStatemachine_holds _
    · exact ⟨cur, hcur.congr rfl rfl Iff.rfl (Function.update_of_ne hk _ _)⟩
  · intro k hk
    have hk' : s.nextConnection + 1 ≤ k := hk
    obtain ⟨hconn, hreceived, hpark⟩ := h.fresh k (Nat.le_of_succ_le hk')
    exact ⟨(Function.update_of_ne (by omega) _ _).trans hconn, hreceived, hpark⟩

/-- A connection that is broken. -/
theorem ServerInv.closed (h : ServerInv s) (hpark : connection ∉ s.parked) :
    ServerInv { s with connections := Function.update s.connections connection none } := by
  refine ⟨?_, h.nodup, ?_, h.inOrder⟩
  · intro k
    obtain ⟨cur, hcur⟩ := h.conns k
    by_cases hk : k = connection
    · subst hk
      refine ⟨cur, hcur.received, hcur.begins, fun hno => ⟨(hcur.reading hno).1, ?_⟩, fun hp => absurd hp hpark⟩
      intro c hc
      have hself : Function.update s.connections k none k = some c := hc
      rw [Function.update_self] at hself
      cases hself
    · exact ⟨cur, hcur.congr rfl rfl Iff.rfl (Function.update_of_ne hk _ _)⟩
  · intro k hk
    obtain ⟨hconn, hreceived, hpark⟩ := h.fresh k hk
    refine ⟨?_, hreceived, hpark⟩
    by_cases hk' : k = connection
    · subst hk'
      exact Function.update_self ..
    · exact (Function.update_of_ne hk' _ _).trans hconn


/-- **A connection is read from.** -/
theorem hciProcess_inv {c : Connection} {data : Bytes} (h : ServerInv s) (hr : Readable s connection data c)
    (hstep : socketConnectionHciProcess callback s connection c data = some s') : ServerInv s' := by
  obtain ⟨hconn, hpark, hlen⟩ := hr
  unfold socketConnectionHciProcess at hstep
  split at hstep
  · obtain rfl := Option.some.inj hstep
    exact (h.closed hpark).withStack _
  obtain ⟨cur, hcur⟩ := h.conns connection
  obtain ⟨-, hreads⟩ := hcur.reading hpark
  have hfresh : ∀ k, s.nextConnection ≤ k → k ≠ connection := by
    rintro k hk rfl
    rw [(h.fresh k hk).1] at hconn
    cases hconn
  rcases hciProcessRead_spec (hreads c hconn) hcur.begins hlen with
    ⟨hnone, -⟩ | ⟨c', complete, hsome, -, hread⟩
  · rw [hnone] at hstep
    cases hstep
  rw [hsome, Option.map_some] at hstep
  -- what the other connections and the log see of it
  have hreceived : Function.update s.received connection (s.received connection ++ data) connection =
      wires (acceptedOf connection s.log) ++ (cur ++ data) := by
    rw [Function.update_self, hcur.received, List.append_assoc]
  have hinOrder : ∀ k ps, Function.update s.received connection (s.received connection ++ data) k <+: wires ps →
      TakenInOrder s.log k ps := by
    intro k ps hps
    by_cases hk : k = connection
    · subst hk
      rw [Function.update_self] at hps
      exact h.inOrder k ps ((List.prefix_append _ _).trans hps)
    · rw [Function.update_of_ne hk] at hps
      exact h.inOrder k ps hps
  have hothers : ∀ (c₁ : Connection) (k : Nat), k ≠ connection → ∃ cur, ConnInv
      { s with
        received := Function.update s.received connection (s.received connection ++ data)
        connections := Function.update s.connections connection (some c₁) } k cur := by
    intro c₁ k hk
    obtain ⟨cur', hcur'⟩ := h.conns k
    exact ⟨cur', hcur'.congr (Function.update_of_ne hk _ _) rfl Iff.rfl (Function.update_of_ne hk _ _)⟩
  have hstill : ∀ (c₁ : Connection) (k : Nat), s.nextConnection ≤ k →
      Function.update s.connections connection (some c₁) k = none ∧
        Function.update s.received connection (s.received connection ++ data) k = [] ∧ k ∉ s.parked := by
    intro c₁ k hk
    rw [Function.update_of_ne (hfresh k hk), Function.update_of_ne (hfresh k hk)]
    exact h.fresh k hk
  obtain ⟨rfl, -, hwire⟩ | ⟨rfl, hmore, hholds⟩ := hread
  · simp only [if_true, Option.some.injEq] at hstep
    have hoffers : Offers
        { s with
          received := Function.update s.received connection (s.received connection ++ data)
          connections := Function.update s.connections connection (some c'.initStatemachine) }
        connection c'.initStatemachine := by
      refine ⟨?_, Function.update_self .., c'.initStatemachine_holds, hothers _, h.nodup, hstill _, hinOrder⟩
      exact hreceived.trans (congrArg _ hwire.symm)
    subst hstep
    rw [dispatchOrPark]
    by_cases herr : (dispatch callback
        { s with
          received := Function.update s.received connection (s.received connection ++ data)
          connections := Function.update s.connections connection (some c'.initStatemachine) }
        connection c'.packet).2 = 0
    · rw [if_pos herr]
      exact hoffers.dispatched h.nodup (fun _ _ => Iff.rfl) (iff_of_false hpark (fun hne => hne herr))
    · rw [if_neg herr]
      refine hoffers.dispatched ?_ ?_ ?_
      · exact List.nodup_append.mpr ⟨h.nodup, List.nodup_singleton _,
          fun a ha b hb heq => hpark (by rwa [← List.mem_singleton.mp hb, ← heq])⟩
      · intro k hk
        simp [dispatch, hk]
      · exact iff_of_true (by simp) herr
  · simp only [Bool.false_eq_true, if_false, Option.some.injEq] at hstep
    subst hstep
    refine ⟨?_, h.nodup, hstill _, hinOrder⟩
    intro k
    by_cases hk : k = connection
    · subst hk
      refine ⟨cur ++ data, hreceived, hcur.begins.append ?_, fun _ => ⟨hmore, ?_⟩, fun hp => absurd hp hpark⟩
      · rw [← (hreads c hconn).bytesToRead]
        exact hlen
      · intro c₁ hc₁
        have hself : Function.update s.connections k (some c') k = some c₁ := hc₁
        rw [Function.update_self] at hself
        obtain rfl := Option.some.inj hself
        exact hholds
    · exact hothers _ k hk

theorem serverStep_inv {i : ServerInput ε} (h : ServerInv s) (hstep : ServerStep callback next s i s') : ServerInv s' := by
  cases hstep with
  | accepted => exact h.accepted.withStack _
  | readable hr hstep => exact hciProcess_inv h hr hstep
  | retry => exact retryParked_inv h
  | stack e => exact h.withStack _

/-- The runs of the daemon. -/
abbrev ServerRun (callback : σ → Nat → SocketPacket → σ × Int) (next : σ → ε → σ) :=
  Run (ServerStep callback next)

theorem serverInv_run {stack : σ} {h : List (Step (Server σ) (ServerInput ε))}
    (hr : ServerRun callback next (Server.init stack) h s) : ServerInv s :=
  hr.invariant ServerInv (serverInv_init stack) fun _ _ _ => serverStep_inv

/-! ## The properties -/

/-- **Every client's packets are taken once each, in order, and none is lost**, in whatever pieces they arrive, however
    often the handler refuses one and whatever other clients do. -/
theorem packets_in_order {stack : σ} {h : List (Step (Server σ) (ServerInput ε))}
    (hr : ServerRun callback next (Server.init stack) h s) (connection : Nat) (ps : List SocketPacket)
    (hsent : s.received connection <+: wires ps) : PacketsInOrder s connection ps := by
  have hinv := serverInv_run hr
  obtain ⟨cur, hcur⟩ := hinv.conns connection
  obtain ⟨t, ht⟩ := hsent
  have hps := ht
  rw [hcur.received, List.append_assoc] at hps
  obtain ⟨rest, rfl⟩ := prefix_of_wires hps
  rw [wires_append, List.append_cancel_left_eq] at hps
  refine ⟨hinv.inOrder connection _ ⟨t, ht⟩, ?_, ?_⟩
  · -- less than a packet is left, so that no further one has arrived whole
    intro hpark k hk hwhole
    by_contra hlt
    obtain ⟨hmore, -⟩ := hcur.reading hpark
    obtain ⟨j, rfl⟩ : ∃ j, k = (acceptedOf connection s.log).length + j := ⟨_, (Nat.add_sub_cancel' (by omega)).symm⟩
    rw [List.length_append] at hk
    rw [List.take_length_add_append, hcur.received, wires_append, List.prefix_append_right_inj] at hwhole
    cases rest with
    | nil =>
        rw [List.length_nil] at hk
        omega
    | cons p rest =>
        obtain ⟨j, rfl⟩ : ∃ i, j = i + 1 := ⟨j - 1, by omega⟩
        obtain ⟨u, hu⟩ := hwhole
        rw [List.take_succ_cons, wires, List.flatMap_cons, List.append_assoc] at hu
        exact (sendPacket_isFrame p).not_short hcur.begins hmore hu.symm
  · intro hpark
    obtain ⟨c, -, -, rfl⟩ := hcur.parked hpark
    rw [← wires_singleton] at hps
    obtain ⟨rest, rfl⟩ := prefix_of_wires hps
    rw [List.take_length_add_append, hcur.received, wires_append, ← wires_singleton]
    rfl

/-- A handler that takes packets when the stack can send, and a stack that is told whether it can. -/
def gateHandler (canSend : Bool) (_ : Nat) (_ : SocketPacket) : Bool × Int := (canSend, if canSend then 0 else 1)

/-- One byte of RFCOMM data. -/
def oneByte : SocketPacket := ⟨7, 1, [0xff], length_daemonEvent 0xff⟩

/-- It arrives in two pieces, is refused and parked, and is taken when the stack can send. -/
theorem packets_in_order_retried : ∃ (s : Server Bool) (h : List (Step (Server Bool) (ServerInput Bool))),
    ServerRun gateHandler (fun _ e => e) (Server.init false) h s ∧ s.log.map Dispatch.err = [1, 0] ∧
      PacketsInOrder s 0 [oneByte] := by
  have hr₁ : ServerRun gateHandler (fun _ e => e) (Server.init false) _ _ := Run.snoc Run.nil (.accepted _)
  have hr₂ := hr₁.snoc (.readable (⟨rfl, by decide, by decide⟩ : Readable _ 0 [7, 0, 1, 0, 1, 0] _) rfl)
  have hr₃ := hr₂.snoc (.readable (⟨rfl, by decide, by decide⟩ : Readable _ 0 [0xff] _) rfl)
  have hr₄ := hr₃.snoc (.stack _ true)
  have hr₅ := hr₄.snoc (.retry _)
  exact ⟨_, _, hr₅, rfl, packets_in_order hr₅ 0 [oneByte] ⟨[], rfl⟩⟩

/-- **When the daemon writes behind its buffer**: when more than 1031 bytes of the packet that has begun have arrived.
    No client whose packets have up to 1025 bytes of data makes it do so. -/
theorem read_overruns_iff {stack : σ} {h : List (Step (Server σ) (ServerInput ε))} {c : Connection} {data : Bytes}
    (hr : ServerRun callback next (Server.init stack) h s) (hread : Readable s connection data c) (hdata : data ≠ []) :
    (socketConnectionHciProcess callback s connection c data = none ↔
      (wires (acceptedOf connection s.log)).length + (packetHeaderSize + hciAclBufferSize) <
        (s.received connection ++ data).length) ∧
    ∀ ps, s.received connection ++ data <+: wires ps → (∀ p ∈ ps, p.data.val.length ≤ hciAclBufferSize) →
      (socketConnectionHciProcess callback s connection c data).isSome := by
  obtain ⟨hconn, hpark, hlen⟩ := hread
  obtain ⟨cur, hcur⟩ := (serverInv_run hr).conns connection
  have hholds := (hcur.reading hpark).2 c hconn
  have hbegins : framing.Begins (cur ++ data) := hcur.begins.append (by rw [← hholds.bytesToRead]; exact hlen)
  have hreceived : s.received connection ++ data = wires (acceptedOf connection s.log) ++ (cur ++ data) := by
    rw [hcur.received, List.append_assoc]
  have hiff : socketConnectionHciProcess callback s connection c data = none ↔
      packetHeaderSize + hciAclBufferSize < (cur ++ data).length := by
    rw [socketConnectionHciProcess, if_neg hdata, Option.map_eq_none_iff]
    rcases hciProcessRead_spec hholds hcur.begins hlen with ⟨hnone, hlt⟩ | ⟨c', complete, hsome, hle, -⟩
    · exact iff_of_true hnone hlt
    · exact iff_of_false (by rw [hsome]; exact Option.some_ne_none _) (by omega)
  constructor
  · have hlength : (s.received connection ++ data).length =
        (wires (acceptedOf connection s.log)).length + (cur ++ data).length := by
      rw [hreceived]
      exact List.length_append
    rw [hiff, hlength]
    omega
  · rintro ps ⟨t, ht⟩ hsmall
    rw [Option.isSome_iff_ne_none, Ne, hiff, not_lt]
    rw [hreceived, List.append_assoc] at ht
    obtain ⟨rest, rfl⟩ := prefix_of_wires ht
    rw [wires_append, List.append_cancel_left_eq] at ht
    cases rest with
    | nil =>
        have hnil := (List.append_eq_nil_iff.mp ht).1
        rw [hnil]
        exact Nat.zero_le _
    | cons p rest =>
        rw [wires, List.flatMap_cons] at ht
        have hle := hbegins.length_le (sendPacket_isFrame p) ht
        have hp := hsmall p (List.mem_append_right _ List.mem_cons_self)
        rw [length_sendPacket] at hle
        omega



/-- A client announces 65535 bytes and sends 1026 of them. -/
theorem read_overruns_long : ∃ (s : Server Bool) (h : List (Step (Server Bool) (ServerInput Bool))) (c : Connection),
    ServerRun gateHandler (fun _ e => e) (Server.init true) h s ∧ Readable s 0 (List.replicate 1026 0) c ∧
      socketConnectionHciProcess gateHandler s 0 c (List.replicate 1026 0) = none := by
  have hr₁ : ServerRun gateHandler (fun _ e => e) (Server.init true) _ _ := Run.snoc Run.nil (.accepted _)
  have hr₂ := hr₁.snoc (.readable (⟨rfl, by decide, by decide⟩ : Readable _ 0 [7, 0, 1, 0, 0xff, 0xff] _) rfl)
  obtain ⟨s, h, c, hr, hread, hlong⟩ : ∃ s h c, ServerRun gateHandler (fun _ e => e) (Server.init true) h s ∧
      Readable s 0 (List.replicate 1026 0) c ∧
      (wires (acceptedOf 0 s.log)).length + (packetHeaderSize + hciAclBufferSize) <
        (s.received 0 ++ List.replicate 1026 0).length :=
    ⟨_, _, _, hr₂, ⟨rfl, by decide, by decide +kernel⟩, by decide +kernel⟩
  exact ⟨s, h, c, hr, hread, (read_overruns_iff hr hread (by decide)).1.mpr hlong⟩

end Showcase.Btstack
