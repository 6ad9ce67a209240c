import Showcase.Btstack.Rfcomm
import Showcase.Lib.History
import Showcase.Lib.Registry

/-!
# `Btstack.Daemon` — RFCOMM channels and the clients of the daemon

The daemon keeps a list of channel ids for each client. It adds an id when the client's command creates a channel or
accepts one (the CarPlay fix), removes it when the stack reports that the channel failed to open or was closed, and
passes a data packet on to the first client that has its id. An accept adds the id whatever the stack makes of it, and
the id of a failed channel is read at offset 13 of the event, which has it at 12.

## Contents
- `daemonPacketHandler`, `daemonStep` — the daemon on top of the channels of `rfcomm.c`;
- `Routed` — every id is registered with the client that owns its channel, and with nobody else;
- `DaemonInv` — the same as an equivalence, kept by every step that is `Ordered`;
- **`rfcomm_routed`** — the ids of every run of orderly steps are routed;
- **`not_rfcomm_routed`** — the id of a channel that failed to open stays registered.
-/

namespace Showcase.Btstack

open Lib Registry

/-! ## The clients -/

/-- `daemon_add_client_rfcomm_channel`; `alloc` tells whether `malloc` succeeds. -/
def daemonAddClientRfcommChannel (clients : Registry Nat UInt16) (connection : Nat) (cid : UInt16) (alloc : Bool) :
    Registry Nat UInt16 :=
  if alloc then modify connection (insertKey cid) clients else clients

/-- `daemon_remove_client_rfcomm_channel`. -/
def daemonRemoveClientRfcommChannel (clients : Registry Nat UInt16) (connection : Nat) (cid : UInt16) :
    Registry Nat UInt16 :=
  modify connection (deleteKey cid) clients

/-- `connection_for_rfcomm_cid`. -/
def connectionForRfcommCid (clients : Registry Nat UInt16) (cid : UInt16) : Option Nat := holder? clients cid

/-- What the packet handler is given. -/
inductive DaemonPacket where
  | event (packet : Bytes)
  | rfcommData (channel : UInt16) (payload : Bytes)

/-- Where `daemon_emit_packet` sends a packet. -/
inductive Sink where
  | all
  | client (connection : Nat)
  | dropped
  deriving DecidableEq, Repr

/-- `RFCOMM_EVENT_CHANNEL_OPENED`, with the id that is read from the event. -/
def channelOpenedEvent (clients : Registry Nat UInt16) (alloc : Bool) (cid : UInt16) (status : UInt8) :
    Registry Nat UInt16 × Sink :=
  match connectionForRfcommCid clients cid with
  | none => (clients, .all)
  | some connection =>
      if status ≠ 0 then (daemonRemoveClientRfcommChannel clients connection cid, .client connection)
      else (daemonAddClientRfcommChannel clients connection cid alloc, .client connection)

/-- `RFCOMM_EVENT_CHANNEL_CLOSED`. -/
def channelClosedEvent (clients : Registry Nat UInt16) (cid : UInt16) : Registry Nat UInt16 × Sink :=
  match connectionForRfcommCid clients cid with
  | none => (clients, .all)
  | some connection => (daemonRemoveClientRfcommChannel clients connection cid, .client connection)

/-- `daemon_packet_handler` for RFCOMM. -/
def daemonPacketHandler (clients : Registry Nat UInt16) (alloc : Bool) :
    DaemonPacket → Registry Nat UInt16 × Sink
  | .event packet =>
      if packet.head? = some rfcommEventChannelOpened then
        channelOpenedEvent clients alloc (littleEndianRead16 packet 13) (packet.getD 2 0)
      else if packet.head? = some rfcommEventChannelClosed then
        channelClosedEvent clients (littleEndianRead16 packet 2)
      else (clients, .all)
  | .rfcommData channel _ =>
      match connectionForRfcommCid clients channel with
      | none => (clients, .dropped)
      | some connection => (clients, .client connection)

/-! ## The daemon and its stack -/

/-- A channel, the connection whose create or accept the stack acted on, and whether its end has been told: it was
    closed, or declined. The stack knows neither. -/
structure Slot where
  channel : RfcommChannel
  owner : Option Nat
  ended : Bool

def Slot.cid (x : Slot) : UInt16 := x.channel.rfcommCid

/-- Connections are numbered in the order in which they are opened. -/
structure DaemonState where
  clients : Registry Nat UInt16
  nextConnection : Nat
  channels : List Slot
  rfcommClientCidGenerator : UInt16

def DaemonState.initial : DaemonState := ⟨[], 0, [], 0⟩

/-- The channel of an id, as `rfcomm_channel_for_rfcomm_cid` finds it, is changed or freed. -/
def DaemonState.update (s : DaemonState) (cid : UInt16) (f : Slot → Option Slot) : DaemonState :=
  { s with channels := updateKey Slot.cid cid f s.channels }

/-- A client, or the stack. What the stack is given by the phone comes to one channel at a time; `mux` is the
    channel's multiplexer then. -/
inductive DaemonInput where
  | connectionOpened (alloc : Bool)
  | connectionClosed (connection : Nat)
  /-- `RFCOMM_CREATE_CHANNEL`, with or without credits; `muxOpen` tells the state of the multiplexer, and `status`
      what else stops the stack. -/
  | create (connection : Nat) (mux : Multiplexer) (dlci : UInt8) (muxOpen : Bool) (status : UInt8) (alloc : Bool)
  | accept (connection : Nat) (cid : UInt16) (alloc : Bool)
  | decline (connection : Nat) (cid : UInt16)
  | disconnect (connection : Nat) (cid : UInt16)
  /-- A channel is created for a service; it gets its first event next. -/
  | incoming (mux : Multiplexer) (dlci : UInt8) (maxFrameSize : UInt16)
  | event (mux : Multiplexer) (cid : UInt16) (event : ChEvt) (alloc : Bool)
  /-- `rfcomm_multiplexer_finalize`. -/
  | muxFinalize (mux : Multiplexer) (cid : UInt16) (alloc : Bool)
  /-- The L2CAP channel of the multiplexer cannot be opened. -/
  | l2capFailed (mux : Multiplexer) (cid : UInt16) (status : UInt8) (alloc : Bool)
  | data (cid : UInt16) (payload : Bytes)

/-- `RFCOMM_MULTIPLEXER_STOPPED`. -/
def rfcommMultiplexerStopped : UInt8 := 0x70

/-- `rfcomm_channel_create`. -/
def channelCreate (s : DaemonState) (dlci : UInt8) (maxFrameSize : UInt16) (service : Bool)
    (state : RfcommChannelState) (owner : Option Nat) : Option (UInt16 × DaemonState) :=
  (rfcommNextClientCid (fun cid => cid ∈ s.channels.map Slot.cid) 0xffff s.rfcommClientCidGenerator).map fun cid =>
    let ch := { RfcommChannel.initialize cid dlci maxFrameSize service with state := state }
    (cid, { s with channels := ⟨ch, owner, false⟩ :: s.channels, rfcommClientCidGenerator := cid })

/-- The packet handler is called for each event. -/
def handleEvents (clients : Registry Nat UInt16) (alloc : Bool) (events : List Bytes) : Registry Nat UInt16 :=
  events.foldl (fun clients packet => (daemonPacketHandler clients alloc (.event packet)).1) clients

/-- Whether an event says that a channel is closed. -/
def saysClosed (events : List Bytes) : Bool := events.any fun packet => packet.head? = some rfcommEventChannelClosed

/-- The stack does something with a channel, and tells the packet handler. -/
def stackEvent (s : DaemonState) (cid : UInt16) (alloc : Bool)
    (f : RfcommChannel → Option RfcommChannel × List Bytes) : Option DaemonState :=
  match s.channels.find? fun x => x.cid = cid with
  | none => none
  | some x =>
      let r := f x.channel
      let s := s.update cid fun x => r.1.map fun ch => { x with channel := ch, ended := x.ended || saysClosed r.2 }
      some { s with clients := handleEvents s.clients alloc r.2 }

/-- The stack acts on an accept. -/
def Slot.accept (connection : Nat) (x : Slot) : Slot :=
  { x with
    channel := rfcommAcceptConnection x.channel
    owner := if x.channel.state = .incomingSetup ∧ x.owner = none then some connection else x.owner }

def Slot.decline (x : Slot) : Slot :=
  { x with channel := rfcommDeclineConnection x.channel, ended := x.ended || x.channel.state = .incomingSetup }

def Slot.disconnect (x : Slot) : Slot := { x with channel := rfcommDisconnect x.channel }

/-- `rfcomm_disconnect`. -/
def DaemonState.disconnect (s : DaemonState) (cid : UInt16) : DaemonState := s.update cid fun x => some x.disconnect

/-- `daemon_disconnect_client`: `daemon_rfcomm_close_connection`, and the client goes. -/
def daemonDisconnectClient (s : DaemonState) (connection : Nat) : DaemonState :=
  let s := (s.clients.keysOf connection).foldl DaemonState.disconnect s
  { s with clients := s.clients.remove connection }

/-- A step, where it is possible: there is the channel that the stack has an event for, and a command comes from a
    connection that was opened. -/
def daemonStep (s : DaemonState) : DaemonInput → Option DaemonState
  | .connectionOpened alloc =>
      some { s with
        clients := if alloc then ⟨s.nextConnection, []⟩ :: s.clients else s.clients
        nextConnection := s.nextConnection + 1 }
  | .connectionClosed connection => some (daemonDisconnectClient s connection)
  | .create connection mux dlci muxOpen status alloc =>
      if s.nextConnection ≤ connection then none
      else if status ≠ 0 then some s
      else
        let state := if muxOpen then .sendUihPn else .w4Multiplexer
        (channelCreate s dlci mux.maxFrameSize false state (some connection)).map fun r =>
          { r.2 with clients := daemonAddClientRfcommChannel r.2.clients connection r.1 alloc }
  | .accept connection cid alloc =>
      if s.nextConnection ≤ connection then none
      else
        let s := s.update cid fun x => some (x.accept connection)
        some { s with clients := daemonAddClientRfcommChannel s.clients connection cid alloc }
  | .decline connection cid =>
      if s.nextConnection ≤ connection then none else some (s.update cid fun x => some x.decline)
  | .disconnect connection cid => if s.nextConnection ≤ connection then none else some (s.disconnect cid)
  | .incoming mux dlci maxFrameSize =>
      (channelCreate s dlci (min mux.maxFrameSize maxFrameSize) true .closed none).map Prod.snd
  | .event mux cid event alloc => stackEvent s cid alloc fun ch => channelStateMachine mux ch event
  | .muxFinalize mux cid alloc =>
      stackEvent s cid alloc fun ch => (none, channelEmitFinalEvent mux ch rfcommMultiplexerStopped)
  | .l2capFailed mux cid status alloc =>
      if status = 0 then none else stackEvent s cid alloc fun ch => (none, [rfcommEmitChannelOpened mux ch status])
  | .data _ _ => some s

abbrev DaemonRun := Run (fun s i s' => daemonStep s i = some s') DaemonState.initial

/-! ## The property -/

/-- Where the data of a channel belongs: to the connected client that owns it, while the channel has not ended. -/
def Slot.sink (clients : Registry Nat UInt16) (x : Slot) : Sink :=
  match x.owner with
  | none => .dropped
  | some k => if x.ended = false ∧ Member clients k then .client k else .dropped

/-- **Routing of RFCOMM channels.** -/
structure Routed (s : DaemonState) : Prop where
  /-- An id is registered with one client at most. -/
  one : ∀ cid i j, Holds s.clients i cid → Holds s.clients j cid → i = j
  /-- An id is registered with the client whose create or accept the stack acted on. -/
  owner : ∀ cid i, Holds s.clients i cid → ∃ x ∈ s.channels, x.cid = cid ∧ x.owner = some i
  /-- The data of a channel go to the client it is registered with and to no other. -/
  delivered : ∀ x ∈ s.channels, ∀ alloc payload,
    (daemonPacketHandler s.clients alloc (.rfcommData x.cid payload)).2 = x.sink s.clients
  /-- The id of a channel that has ended is registered with nobody. -/
  nobody : ∀ cid, (∀ x ∈ s.channels, x.cid = cid → x.ended = true) → ∀ i, ¬ Holds s.clients i cid

/-- A failure of the channel `x` is read as one of its own id, or neither id is registered. -/
def ReadRight (s : DaemonState) (x : Slot) : Prop :=
  misread x.cid x.channel.maxFrameSize = x.cid ∨
    ∀ i, ¬ Holds s.clients i x.cid ∧ ¬ Holds s.clients i (misread x.cid x.channel.maxFrameSize)

/-- The step is one that the daemon's lists survive: there is memory for a new id, a client accepts only what the
    stack lets it have, nobody declines what was accepted, and a failure to open is read right. -/
def Ordered (s : DaemonState) : DaemonInput → Prop
  | .create _ _ _ _ status alloc => status = 0 → alloc = true
  | .accept connection cid alloc =>
      Member s.clients connection → alloc = true ∧ ∃ x ∈ s.channels, x.cid = cid ∧ x.ended = false ∧
        (x.owner = some connection ∨ x.channel.state = .incomingSetup ∧ x.owner = none)
  | .decline _ cid =>
      ∀ x ∈ s.channels, x.cid = cid → x.channel.state = .incomingSetup → ∀ k, x.owner = some k → ¬ Member s.clients k
  | .event _ cid event _ =>
      ∀ x ∈ s.channels, x.cid = cid → event = .rcvdDm → FailsWhenFinal x.channel → ReadRight s x
  | .muxFinalize _ cid _ => ∀ x ∈ s.channels, x.cid = cid → FailsWhenFinal x.channel → ReadRight s x
  | .l2capFailed _ cid _ _ => ∀ x ∈ s.channels, x.cid = cid → ReadRight s x
  | _ => True

/-! ## The lists -/

section Lists

variable {clients : Registry Nat UInt16} {alloc : Bool} {i : Nat} {cid c : UInt16} {mux : Multiplexer}
  {ch : RfcommChannel} {events : List Bytes}

/-- The id is removed from its client. -/
def daemonDrop (clients : Registry Nat UInt16) (cid : UInt16) : Registry Nat UInt16 :=
  match connectionForRfcommCid clients cid with
  | none => clients
  | some connection => daemonRemoveClientRfcommChannel clients connection cid

theorem nodup_drop (hnodup : (clients.map Entry.id).Nodup) : ((daemonDrop clients cid).map Entry.id).Nodup := by
  unfold daemonDrop
  split
  · exact hnodup
  · exact nodup_modify hnodup

theorem member_drop (hnodup : (clients.map Entry.id).Nodup) :
    Member (daemonDrop clients cid) i ↔ Member clients i := by
  unfold daemonDrop
  split
  · exact Iff.rfl
  · exact member_modify hnodup

/-- A dropped id is registered with nobody, if it was registered with one client only. -/
theorem holds_drop (hnodup : (clients.map Entry.id).Nodup)
    (hone : ∀ i j, Holds clients i cid → Holds clients j cid → i = j) :
    Holds (daemonDrop clients cid) i c ↔ Holds clients i c ∧ c ≠ cid := by
  unfold daemonDrop connectionForRfcommCid
  split
  · rename_i hnone
    refine ⟨fun h => ⟨h, ?_⟩, And.left⟩
    rintro rfl
    exact holder?_eq_none.mp hnone i h
  · rename_i k hk
    rw [daemonRemoveClientRfcommChannel, holds_delete hnodup]
    constructor
    · rintro ⟨h, hne⟩
      refine ⟨h, ?_⟩
      rintro rfl
      exact hne ⟨hone i k h (holder?_holds hk), rfl⟩
    · rintro ⟨h, hne⟩
      exact ⟨h, fun heq => hne heq.2⟩

theorem handleEvents_closed (clients : Registry Nat UInt16) (alloc : Bool) (ch : RfcommChannel) :
    handleEvents clients alloc [rfcommEmitChannelClosed ch] = daemonDrop clients ch.rfcommCid := by
  show (daemonPacketHandler clients alloc (.event (rfcommEmitChannelClosed ch))).1 = _
  have hnot : ¬ (rfcommEmitChannelClosed ch).head? = some rfcommEventChannelOpened := by
    show ¬ some rfcommEventChannelClosed = some rfcommEventChannelOpened
    decide
  have hclosed : (rfcommEmitChannelClosed ch).head? = some rfcommEventChannelClosed := rfl
  rw [daemonPacketHandler, if_neg hnot, if_pos hclosed, read_closed, channelClosedEvent, daemonDrop]
  cases connectionForRfcommCid clients ch.rfcommCid with
  | none => rfl
  | some k => rfl

theorem handleEvents_failed (clients : Registry Nat UInt16) (alloc : Bool) (mux : Multiplexer) (ch : RfcommChannel)
    {status : UInt8} (hstatus : status ≠ 0) :
    handleEvents clients alloc [rfcommEmitChannelOpened mux ch status] =
      daemonDrop clients (misread ch.rfcommCid ch.maxFrameSize) := by
  show (daemonPacketHandler clients alloc (.event (rfcommEmitChannelOpened mux ch status))).1 = _
  have hopened : (rfcommEmitChannelOpened mux ch status).head? = some rfcommEventChannelOpened := rfl
  have hget : (rfcommEmitChannelOpened mux ch status).getD 2 0 = status := rfl
  rw [daemonPacketHandler, if_pos hopened, (read_opened mux ch status).2, hget, channelOpenedEvent, daemonDrop]
  cases connectionForRfcommCid clients (misread ch.rfcommCid ch.maxFrameSize) with
  | none => rfl
  | some k =>
      simp only [if_pos hstatus]

/-- What is left of a success: the id that is read is added to the client that has it already. -/
theorem handleEvents_quiet (hnodup : (clients.map Entry.id).Nodup) (hquiet : Quiet mux events) :
    ((handleEvents clients alloc events).map Entry.id).Nodup ∧
      (∀ i, Member (handleEvents clients alloc events) i ↔ Member clients i) ∧
      (∀ i c, Holds (handleEvents clients alloc events) i c ↔ Holds clients i c) ∧ saysClosed events = false := by
  rcases hquiet with rfl | ⟨ch, rfl⟩ | ⟨ch, rfl⟩
  · exact ⟨hnodup, fun _ => Iff.rfl, fun _ _ => Iff.rfl, rfl⟩
  · exact ⟨hnodup, fun _ => Iff.rfl, fun _ _ => Iff.rfl, rfl⟩
  · have hopened : (rfcommEmitChannelOpened mux ch 0).head? = some rfcommEventChannelOpened := rfl
    have hget : (rfcommEmitChannelOpened mux ch 0).getD 2 0 = 0 := rfl
    have heq : handleEvents clients alloc [rfcommEmitChannelOpened mux ch 0] =
        match connectionForRfcommCid clients (misread ch.rfcommCid ch.maxFrameSize) with
        | none => clients
        | some k => daemonAddClientRfcommChannel clients k (misread ch.rfcommCid ch.maxFrameSize) alloc := by
      show (daemonPacketHandler clients alloc (.event (rfcommEmitChannelOpened mux ch 0))).1 = _
      rw [daemonPacketHandler, if_pos hopened, (read_opened mux ch 0).2, hget, channelOpenedEvent]
      cases connectionForRfcommCid clients (misread ch.rfcommCid ch.maxFrameSize) with
      | none => rfl
      | some k => rfl
    rw [heq]
    cases hk : connectionForRfcommCid clients (misread ch.rfcommCid ch.maxFrameSize) with
    | none => exact ⟨hnodup, fun _ => Iff.rfl, fun _ _ => Iff.rfl, rfl⟩
    | some k =>
        simp only [daemonAddClientRfcommChannel]
        cases alloc with
        | false => exact ⟨hnodup, fun _ => Iff.rfl, fun _ _ => Iff.rfl, rfl⟩
        | true =>
            refine ⟨nodup_modify hnodup, fun _ => member_modify hnodup, fun i c => ?_, rfl⟩
            rw [if_pos rfl, holds_insert hnodup]
            refine ⟨fun h => h.elim id ?_, .inl⟩
            rintro ⟨rfl, rfl, _⟩
            exact holder?_holds hk

end Lists

/-! ## The invariant

`Routed` says of every id who is registered for it. Under the invariant the ids of a client are exactly those of the
channels that it owns and that have not ended, so a change of one channel and one of the lists can be compared. -/

/-- The channel of the id is owned by `i`, and has not ended. -/
def Live (s : DaemonState) (cid : UInt16) (i : Nat) : Prop :=
  ∃ x ∈ s.channels, x.cid = cid ∧ x.ended = false ∧ x.owner = some i

/-- The ids of a client are those of its channels. -/
structure DaemonInv (s : DaemonState) : Prop where
  cids : (s.channels.map Slot.cid).Nodup
  conns : (s.clients.map Entry.id).Nodup
  below : ∀ i, Member s.clients i → i < s.nextConnection
  owners : ∀ x ∈ s.channels, ∀ k, x.owner = some k → k < s.nextConnection
  parting : ∀ x ∈ s.channels, Parting x.channel → x.ended = true
  registered : ∀ i cid, Holds s.clients i cid ↔ Member s.clients i ∧ Live s cid i

section Invariant

variable {s s' : DaemonState} {cid c : UInt16} {i k : Nat} {f : Slot → Option Slot} {x : Slot}
  {clients : Registry Nat UInt16}

theorem DaemonInv.initial : DaemonInv DaemonState.initial where
  cids := List.nodup_nil
  conns := List.nodup_nil
  below := fun _ h => nomatch h
  owners := fun _ h => nomatch h
  parting := fun _ h => nomatch h
  registered := by
    intro i cid
    simp [DaemonState.initial, Holds, Live]

theorem DaemonInv.unique (hinv : DaemonInv s) {y : Slot} (hx : x ∈ s.channels) (hy : y ∈ s.channels)
    (hcid : x.cid = y.cid) : x = y :=
  List.inj_on_of_nodup_map hinv.cids hx hy hcid

/-- An id has one owner. -/
theorem DaemonInv.live_unique (hinv : DaemonInv s) (hi : Live s cid i) (hk : Live s cid k) : i = k := by
  obtain ⟨x, hx, hxcid, _, hxi⟩ := hi
  obtain ⟨y, hy, hycid, _, hyk⟩ := hk
  obtain rfl := hinv.unique hx hy (hxcid.trans hycid.symm)
  exact Option.some.inj (hxi.symm.trans hyk)

theorem DaemonInv.one (hinv : DaemonInv s) (hi : Holds s.clients i cid) (hk : Holds s.clients k cid) : i = k :=
  hinv.live_unique ((hinv.registered i cid).mp hi).2 ((hinv.registered k cid).mp hk).2

/-- **The lists under the invariant** are as they should be. -/
theorem DaemonInv.routed (hinv : DaemonInv s) : Routed s where
  one := fun _ _ _ hi hj => hinv.one hi hj
  owner := by
    intro cid i h
    obtain ⟨_, x, hx, hcid, _, howner⟩ := (hinv.registered i cid).mp h
    exact ⟨x, hx, hcid, howner⟩
  delivered := by
    intro x hx alloc payload
    have hsink : (daemonPacketHandler s.clients alloc (.rfcommData x.cid payload)).2 =
        match holder? s.clients x.cid with | none => .dropped | some k => .client k := by
      rw [daemonPacketHandler, connectionForRfcommCid]
      cases holder? s.clients x.cid with
      | none => rfl
      | some k => rfl
    -- who has the id is the owner
    have howner : ∀ i, Holds s.clients i x.cid ↔ Member s.clients i ∧ x.ended = false ∧ x.owner = some i := by
      intro i
      rw [hinv.registered i x.cid]
      refine and_congr_right fun _ => ⟨?_, fun h => ⟨x, hx, rfl, h⟩⟩
      rintro ⟨y, hy, hcid, h⟩
      obtain rfl := hinv.unique hy hx hcid
      exact h
    rw [hsink, Slot.sink]
    cases ho : x.owner with
    | none =>
        have hnone : holder? s.clients x.cid = none :=
          holder?_eq_none.mpr fun i h => by simpa [ho] using ((howner i).mp h).2.2
        rw [hnone]
    | some k =>
        by_cases hlive : x.ended = false ∧ Member s.clients k
        · have hk : Holds s.clients k x.cid := (howner k).mpr ⟨hlive.2, hlive.1, ho⟩
          rw [holder?_eq_some hk fun j hj => hinv.one hj hk]
          simp only [if_pos hlive]
        · have hnone : holder? s.clients x.cid = none := by
            refine holder?_eq_none.mpr fun i h => ?_
            obtain ⟨hmem, hover, hi⟩ := (howner i).mp h
            obtain rfl := Option.some.inj (ho.symm.trans hi)
            exact hlive ⟨hover, hmem⟩
          rw [hnone]
          simp only [if_neg hlive]
  nobody := by
    intro cid hover i h
    obtain ⟨_, x, hx, hcid, hnot, _⟩ := (hinv.registered i cid).mp h
    rw [hover x hx hcid] at hnot
    cases hnot

/-! ## Changes of a channel -/

theorem live_update (hinv : DaemonInv s) (hcid : ∀ x y, x.cid = cid → f x = some y → y.cid = cid) :
    Live (s.update cid f) c i ↔ (c ≠ cid ∧ Live s c i) ∨
      (c = cid ∧ ∃ x ∈ s.channels, x.cid = cid ∧ ∃ y, f x = some y ∧ y.ended = false ∧ y.owner = some i) := by
  unfold Live DaemonState.update
  simp only [mem_updateKey hinv.cids]
  constructor
  · rintro ⟨y, ⟨hy, hne⟩ | ⟨x, hx, hxcid, hfx⟩, rfl, hlive⟩
    · exact .inl ⟨hne, y, hy, rfl, hlive⟩
    · exact .inr ⟨hcid x y hxcid hfx, x, hx, hxcid, y, hfx, hlive⟩
  · rintro (⟨hne, x, hx, rfl, hlive⟩ | ⟨rfl, x, hx, hxcid, y, hfx, hlive⟩)
    · exact ⟨x, .inl ⟨hx, hne⟩, rfl, hlive⟩
    · exact ⟨y, .inr ⟨x, hx, hxcid, hfx⟩, hcid x y hxcid hfx, hlive⟩

/-- A change that keeps the owner while the channel has not ended. -/
theorem live_update_same (hinv : DaemonInv s) (hcid : ∀ x y, x.cid = cid → f x = some y → y.cid = cid)
    (hsame : ∀ x ∈ s.channels, x.cid = cid → Member s.clients i →
      ((∃ y, f x = some y ∧ y.ended = false ∧ y.owner = some i) ↔ (x.ended = false ∧ x.owner = some i)))
    (hi : Member s.clients i) : Live (s.update cid f) c i ↔ Live s c i := by
  rw [live_update hinv hcid]
  constructor
  · rintro (⟨_, h⟩ | ⟨rfl, x, hx, hxcid, h⟩)
    · exact h
    · exact ⟨x, hx, hxcid, (hsame x hx hxcid hi).mp h⟩
  · rintro ⟨x, hx, rfl, hlive⟩
    by_cases hc : x.cid = cid
    · exact .inr ⟨hc, x, hx, hc, (hsame x hx hc hi).mpr hlive⟩
    · exact .inl ⟨hc, x, hx, rfl, hlive⟩

/-- **A channel changes**, and the lists with it. -/
theorem DaemonInv.update (hinv : DaemonInv s) (hcid : ∀ x y, x.cid = cid → f x = some y → y.cid = cid)
    (hnew : ∀ x ∈ s.channels, x.cid = cid → ∀ y, f x = some y →
      (∀ k, y.owner = some k → k < s.nextConnection) ∧ (Parting y.channel → y.ended = true))
    (hconns : (clients.map Entry.id).Nodup) (hmember : ∀ i, Member clients i ↔ Member s.clients i)
    (hreg : ∀ i c, Holds clients i c ↔ Member s.clients i ∧ Live (s.update cid f) c i) :
    DaemonInv { s.update cid f with clients := clients } where
  cids := nodup_updateKey hcid hinv.cids
  conns := hconns
  below := fun i h => hinv.below i ((hmember i).mp h)
  owners := by
    intro y hy
    rcases (mem_updateKey hinv.cids).mp hy with ⟨hy, _⟩ | ⟨x, hx, hxcid, hfx⟩
    · exact hinv.owners y hy
    · exact (hnew x hx hxcid y hfx).1
  parting := by
    intro y hy
    rcases (mem_updateKey hinv.cids).mp hy with ⟨hy, _⟩ | ⟨x, hx, hxcid, hfx⟩
    · exact hinv.parting y hy
    · exact (hnew x hx hxcid y hfx).2
  registered := by
    intro i c
    rw [hmember i]
    exact hreg i c

/-- A channel changes and the lists do not, as it keeps its owner while it has not ended. -/
theorem DaemonInv.updateSame (hinv : DaemonInv s) (hcid : ∀ x y, x.cid = cid → f x = some y → y.cid = cid)
    (hnew : ∀ x ∈ s.channels, x.cid = cid → ∀ y, f x = some y →
      (∀ k, y.owner = some k → k < s.nextConnection) ∧ (Parting y.channel → y.ended = true))
    (hconns : (clients.map Entry.id).Nodup) (hmember : ∀ i, Member clients i ↔ Member s.clients i)
    (hholds : ∀ i c, Holds clients i c ↔ Holds s.clients i c)
    (hsame : ∀ x ∈ s.channels, x.cid = cid → ∀ i, Member s.clients i →
      ((∃ y, f x = some y ∧ y.ended = false ∧ y.owner = some i) ↔ (x.ended = false ∧ x.owner = some i))) :
    DaemonInv { s.update cid f with clients := clients } := by
  refine hinv.update hcid hnew hconns hmember ?_
  intro i c
  rw [hholds i c, hinv.registered i c]
  refine and_congr_right fun hi => (live_update_same hinv hcid ?_ hi).symm
  exact fun x hx hxcid hi => hsame x hx hxcid i hi

/-- A new channel. -/
theorem DaemonInv.create (hinv : DaemonInv s) {x : Slot} (hfresh : x.cid ∉ s.channels.map Slot.cid)
    (howner : ∀ k, x.owner = some k → k < s.nextConnection) (hparting : Parting x.channel → x.ended = true)
    {generator : UInt16} (hconns : (clients.map Entry.id).Nodup)
    (hmember : ∀ i, Member clients i ↔ Member s.clients i)
    (hreg : ∀ i c, Holds clients i c ↔
      Member s.clients i ∧ (Live s c i ∨ (x.cid = c ∧ x.ended = false ∧ x.owner = some i))) :
    DaemonInv { s with
      clients := clients, channels := x :: s.channels, rfcommClientCidGenerator := generator } where
  cids := List.nodup_cons.mpr ⟨hfresh, hinv.cids⟩
  conns := hconns
  below := fun i h => hinv.below i ((hmember i).mp h)
  owners := by
    intro y hy
    rcases List.mem_cons.mp hy with rfl | hy
    · exact howner
    · exact hinv.owners y hy
  parting := by
    intro y hy
    rcases List.mem_cons.mp hy with rfl | hy
    · exact hparting
    · exact hinv.parting y hy
  registered := by
    intro i c
    rw [hmember i, hreg i c]
    refine and_congr_right fun _ => ?_
    unfold Live
    simp only [List.mem_cons, exists_eq_or_imp]
    exact or_comm

end Invariant

/-! ## The steps

Each step changes one channel, the lists, or both in the same way. What the stack tells about a channel is the same
event for the packet handler, read at the offsets that it uses. -/

section Steps

variable {s s' : DaemonState} {cid : UInt16} {x : Slot} {alloc : Bool} {mux : Multiplexer}
  {f : RfcommChannel → Option RfcommChannel × List Bytes}

/-- What the client list is not asked about. -/
theorem DaemonInv.keep (hinv : DaemonInv s) {g : Slot → Slot} (hcid : ∀ x, (g x).cid = x.cid)
    (howner : ∀ x, (g x).owner = x.owner) (hover : ∀ x, (g x).ended = x.ended)
    (hparting : ∀ x, Parting (g x).channel → Parting x.channel) :
    DaemonInv (s.update cid fun x => some (g x)) := by
  have hcid' : ∀ x y, x.cid = cid → some (g x) = some y → y.cid = cid := by
    intro x y hx hy
    rw [← Option.some.inj hy]
    exact (hcid x).trans hx
  refine hinv.updateSame hcid' ?_ hinv.conns (fun _ => Iff.rfl) (fun _ _ => Iff.rfl) ?_
  · intro x hx _ y hy
    obtain rfl := Option.some.inj hy
    rw [howner x, hover x]
    exact ⟨hinv.owners x hx, fun h => hinv.parting x hx (hparting x h)⟩
  · intro x _ _ i _
    simp [hover x, howner x]

theorem DaemonInv.disconnect (hinv : DaemonInv s) (cid : UInt16) : DaemonInv (s.disconnect cid) := by
  refine hinv.keep (fun _ => rfl) (fun _ => rfl) (fun _ => rfl) ?_
  rintro x (h | h)
  · cases h
  · cases h

theorem DaemonInv.disconnectAll (hinv : DaemonInv s) (cids : List UInt16) :
    DaemonInv (cids.foldl DaemonState.disconnect s) := by
  induction cids generalizing s with
  | nil => exact hinv
  | cons cid cids ih => exact ih (hinv.disconnect cid)

theorem DaemonInv.disconnectClient (hinv : DaemonInv s) (connection : Nat) :
    DaemonInv (daemonDisconnectClient s connection) := by
  have h := hinv.disconnectAll (s.clients.keysOf connection)
  unfold daemonDisconnectClient
  generalize (s.clients.keysOf connection).foldl DaemonState.disconnect s = t at h
  refine ⟨h.cids, nodup_remove h.conns, ?_, h.owners, h.parting, ?_⟩
  · intro i hi
    exact h.below i ((member_remove h.conns).mp hi).2
  · intro i c
    show Holds (t.clients.remove connection) i c ↔ Member (t.clients.remove connection) i ∧ Live t c i
    rw [holds_remove h.conns, member_remove h.conns, h.registered i c, and_assoc]

theorem DaemonInv.connectionOpened (hinv : DaemonInv s) (alloc : Bool) :
    DaemonInv { s with
      clients := if alloc then ⟨s.nextConnection, []⟩ :: s.clients else s.clients
      nextConnection := s.nextConnection + 1 } := by
  have howners : ∀ x ∈ s.channels, ∀ k, x.owner = some k → k < s.nextConnection + 1 := fun x hx k hk =>
    Nat.lt_succ_of_lt (hinv.owners x hx k hk)
  cases alloc with
  | false =>
      refine ⟨hinv.cids, hinv.conns, ?_, howners, hinv.parting, hinv.registered⟩
      exact fun i h => Nat.lt_succ_of_lt (hinv.below i h)
  | true =>
      have hnew : ¬ Member s.clients s.nextConnection := fun h => Nat.lt_irrefl _ (hinv.below _ h)
      refine ⟨hinv.cids, List.nodup_cons.mpr ⟨hnew, hinv.conns⟩, ?_, howners, hinv.parting, ?_⟩
      · intro i h
        rcases List.mem_cons.mp h with rfl | h
        · exact Nat.lt_succ_self _
        · exact Nat.lt_succ_of_lt (hinv.below i h)
      · intro i c
        have hholds : Holds (⟨s.nextConnection, []⟩ :: s.clients) i c ↔ Holds s.clients i c := by
          simp [Holds]
        show Holds (⟨s.nextConnection, []⟩ :: s.clients) i c ↔
          Member (⟨s.nextConnection, []⟩ :: s.clients) i ∧ Live s c i
        rw [hholds, hinv.registered i c]
        refine ⟨fun h => ⟨List.mem_cons_of_mem _ h.1, h.2⟩, fun h => ⟨?_, h.2⟩⟩
        -- the new connection owns no channel
        rcases List.mem_cons.mp h.1 with rfl | hi
        · obtain ⟨x, hx, _, _, hxi⟩ := h.2
          exact absurd (hinv.owners x hx _ hxi) (Nat.lt_irrefl _)
        · exact hi

theorem channelCreate_eq {dlci : UInt8} {maxFrameSize : UInt16} {service : Bool} {state : RfcommChannelState}
    {owner : Option Nat} {r : UInt16 × DaemonState}
    (h : channelCreate s dlci maxFrameSize service state owner = some r) :
    ∃ x : Slot, x.cid = r.1 ∧ x.owner = owner ∧ x.ended = false ∧ x.channel.state = state ∧
      x.cid ∉ s.channels.map Slot.cid ∧
      r.2 = { s with channels := x :: s.channels, rfcommClientCidGenerator := r.1 } := by
  obtain ⟨cid, hcid, rfl⟩ := Option.map_eq_some_iff.mp h
  refine ⟨_, rfl, rfl, rfl, rfl, ?_, rfl⟩
  exact of_decide_eq_false (rfcommNextClientCid_unused hcid)

/-- A create, with memory for its id. -/
theorem DaemonInv.createChannel (hinv : DaemonInv s) {connection : Nat} (hconn : connection < s.nextConnection)
    {dlci : UInt8} {maxFrameSize : UInt16} {state : RfcommChannelState} {r : UInt16 × DaemonState}
    (hstate : state ≠ .sendDm ∧ state ≠ .sendUaAfterDisc)
    (h : channelCreate s dlci maxFrameSize false state (some connection) = some r) :
    DaemonInv { r.2 with clients := daemonAddClientRfcommChannel r.2.clients connection r.1 true } := by
  obtain ⟨x, hxcid, howner, hover, hxstate, hfresh, hr⟩ := channelCreate_eq h
  rw [hr]
  refine hinv.create hfresh ?_ ?_ (nodup_modify hinv.conns) (fun _ => member_modify hinv.conns) ?_
  · intro k hk
    rw [howner] at hk
    exact Option.some.inj hk ▸ hconn
  · rintro (hp | hp)
    · exact absurd (hxstate.symm.trans hp) hstate.1
    · exact absurd (hxstate.symm.trans hp) hstate.2
  · intro i c
    show Holds (modify connection (insertKey r.1) s.clients) i c ↔ _
    rw [holds_insert hinv.conns, hinv.registered i c, hxcid, howner, hover]
    constructor
    · rintro (⟨hm, hl⟩ | ⟨rfl, rfl, hm⟩)
      · exact ⟨hm, .inl hl⟩
      · exact ⟨hm, .inr ⟨rfl, rfl, rfl⟩⟩
    · rintro ⟨hm, hl | ⟨rfl, _, hi⟩⟩
      · exact .inl ⟨hm, hl⟩
      · obtain rfl := Option.some.inj hi
        exact .inr ⟨rfl, rfl, hm⟩

/-- An incoming channel belongs to nobody yet. -/
theorem DaemonInv.incoming (hinv : DaemonInv s) {dlci : UInt8} {maxFrameSize : UInt16} {r : UInt16 × DaemonState}
    (h : channelCreate s dlci maxFrameSize true .closed none = some r) : DaemonInv r.2 := by
  obtain ⟨x, _, howner, hover, hxstate, hfresh, hr⟩ := channelCreate_eq h
  rw [hr]
  refine hinv.create hfresh ?_ ?_ hinv.conns (fun _ => Iff.rfl) ?_
  · intro k hk
    rw [howner] at hk
    cases hk
  · rintro (hp | hp)
    · rw [hxstate] at hp
      cases hp
    · rw [hxstate] at hp
      cases hp
  · intro i c
    rw [hinv.registered i c, howner]
    refine and_congr_right fun _ => ⟨.inl, ?_⟩
    rintro (hl | ⟨_, _, hi⟩)
    · exact hl
    · cases hi

/-! ### An accept -/

section Accept

variable {connection : Nat} {i : Nat} {c : UInt16}

theorem Slot.accept_owner (connection : Nat) (x : Slot) : (x.accept connection).owner =
    if x.channel.state = .incomingSetup ∧ x.owner = none then some connection else x.owner := rfl

/-- An accept leaves the id and the state of the channel alone. -/
theorem Slot.accept_kept (connection : Nat) (x : Slot) :
    (x.accept connection).cid = x.cid ∧ (x.accept connection).channel.state = x.channel.state := by
  show (rfcommAcceptConnection x.channel).rfcommCid = _ ∧ (rfcommAcceptConnection x.channel).state = _
  unfold rfcommAcceptConnection
  split
  · exact ⟨rfl, rfl⟩
  · exact ⟨rfl, rfl⟩

theorem Slot.accept_owned {x : Slot} (h : x.owner = some i) : (x.accept connection).owner = some i := by
  rw [Slot.accept_owner, if_neg fun hnone => by simp [h] at hnone]
  exact h

theorem accept_cid {x y : Slot} (hx : x.cid = cid) (h : some (x.accept connection) = some y) : y.cid = cid := by
  rw [← Option.some.inj h]
  exact (Slot.accept_kept connection x).1.trans hx

theorem DaemonInv.accept_new (hinv : DaemonInv s) (hconn : connection < s.nextConnection) :
    ∀ x ∈ s.channels, x.cid = cid → ∀ y, some (x.accept connection) = some y →
      (∀ k, y.owner = some k → k < s.nextConnection) ∧ (Parting y.channel → y.ended = true) := by
  intro x hx _ y hy
  obtain rfl := Option.some.inj hy
  refine ⟨fun k hk => ?_, fun h => hinv.parting x hx ?_⟩
  · rw [Slot.accept_owner] at hk
    split at hk
    · exact Option.some.inj hk ▸ hconn
    · exact hinv.owners x hx k hk
  · rwa [Parting, (Slot.accept_kept connection x).2] at h

/-- An accept leaves the other clients their channels. -/
theorem live_accept_other (hinv : DaemonInv s) (hi : i ≠ connection) :
    Live (s.update cid fun x => some (x.accept connection)) c i ↔ Live s c i := by
  rw [live_update hinv fun _ _ => accept_cid]
  constructor
  · rintro (⟨_, h⟩ | ⟨rfl, x, hx, hxcid, y, hy, hover, howner⟩)
    · exact h
    · obtain rfl := Option.some.inj hy
      rw [Slot.accept_owner] at howner
      split at howner
      · exact absurd (Option.some.inj howner).symm hi
      · exact ⟨x, hx, hxcid, hover, howner⟩
  · rintro ⟨x, hx, rfl, hover, howner⟩
    by_cases hc : x.cid = cid
    · exact .inr ⟨hc, x, hx, hc, _, rfl, hover, Slot.accept_owned howner⟩
    · exact .inl ⟨hc, x, hx, rfl, hover, howner⟩

/-- An accept leaves everybody the channels with other ids. -/
theorem live_accept_ne (hinv : DaemonInv s) (hc : c ≠ cid) :
    Live (s.update cid fun x => some (x.accept connection)) c i ↔ Live s c i := by
  rw [live_update hinv fun _ _ => accept_cid]
  exact ⟨fun h => h.elim And.right fun h => absurd h.1 hc, fun h => .inl ⟨hc, h⟩⟩

/-- A client accepts what it may have. -/
theorem DaemonInv.accept (hinv : DaemonInv s) (hconn : connection < s.nextConnection)
    (hmember : Member s.clients connection) {x : Slot} (hx : x ∈ s.channels) (hxcid : x.cid = cid)
    (hover : x.ended = false)
    (hgrant : x.owner = some connection ∨ x.channel.state = .incomingSetup ∧ x.owner = none) :
    DaemonInv { s.update cid fun x => some (x.accept connection) with
      clients := modify connection (insertKey cid) s.clients } := by
  refine hinv.update (fun _ _ => accept_cid) (hinv.accept_new hconn) (nodup_modify hinv.conns)
    (fun _ => member_modify hinv.conns) ?_
  intro i c
  rw [holds_insert hinv.conns, hinv.registered i c]
  by_cases hi : i = connection
  swap
  · rw [live_accept_other hinv hi]
    exact ⟨fun h => h.elim id fun h => absurd h.1 hi, .inl⟩
  by_cases hc : c = cid
  swap
  · rw [live_accept_ne hinv hc]
    exact ⟨fun h => h.elim id fun h => absurd h.2.1 hc, .inl⟩
  subst hi hc
  -- the channel is the client's now
  have howner : (x.accept i).owner = some i := by
    rcases hgrant with howner | hfree
    · exact Slot.accept_owned howner
    · rw [Slot.accept_owner, if_pos hfree]
  have hlive : Live (s.update c fun x => some (x.accept i)) c i :=
    (live_update hinv fun _ _ => accept_cid).mpr (.inr ⟨rfl, x, hx, hxcid, _, rfl, hover, howner⟩)
  exact iff_of_true (.inr ⟨rfl, rfl, hmember⟩) ⟨hmember, hlive⟩

/-- A connection without a client accepts: no id is added. -/
theorem DaemonInv.accept_stranger (hinv : DaemonInv s) (hconn : connection < s.nextConnection)
    (hmember : ¬ Member s.clients connection) (alloc : Bool) :
    DaemonInv { s.update cid fun x => some (x.accept connection) with
      clients := daemonAddClientRfcommChannel s.clients connection cid alloc } := by
  have hsame : ((daemonAddClientRfcommChannel s.clients connection cid alloc).map Entry.id).Nodup ∧
      (∀ i, Member (daemonAddClientRfcommChannel s.clients connection cid alloc) i ↔ Member s.clients i) ∧
      ∀ i c, Holds (daemonAddClientRfcommChannel s.clients connection cid alloc) i c ↔ Holds s.clients i c := by
    cases alloc with
    | false => exact ⟨hinv.conns, fun _ => Iff.rfl, fun _ _ => Iff.rfl⟩
    | true =>
        refine ⟨nodup_modify hinv.conns, fun _ => member_modify hinv.conns, fun i c => ?_⟩
        rw [daemonAddClientRfcommChannel, if_pos rfl, holds_insert hinv.conns]
        exact ⟨fun h => h.elim id fun h => absurd h.2.2 hmember, .inl⟩
  refine hinv.update (fun _ _ => accept_cid) (hinv.accept_new hconn) hsame.1 hsame.2.1 ?_
  intro i c
  rw [hsame.2.2 i c, hinv.registered i c]
  refine and_congr_right fun hi => ?_
  have hne : i ≠ connection := fun h => hmember (h ▸ hi)
  exact (live_accept_other hinv hne).symm

end Accept

/-- A decline of what no client has accepted. -/
theorem DaemonInv.decline (hinv : DaemonInv s) {connection : Nat}
    (horderly : Ordered s (.decline connection cid)) : DaemonInv (s.update cid fun x => some x.decline) := by
  have hcid : ∀ x y : Slot, x.cid = cid → some x.decline = some y → y.cid = cid := by
    intro x y hx hy
    rw [← Option.some.inj hy]
    show (rfcommDeclineConnection x.channel).rfcommCid = cid
    unfold rfcommDeclineConnection
    split
    · exact hx
    · exact hx
  refine hinv.updateSame hcid ?_ hinv.conns (fun _ => Iff.rfl) (fun _ _ => Iff.rfl) ?_
  · intro x hx _ y hy
    obtain rfl := Option.some.inj hy
    refine ⟨hinv.owners x hx, fun h => ?_⟩
    show (x.ended || decide (x.channel.state = .incomingSetup)) = true
    by_cases hin : x.channel.state = .incomingSetup
    · simp [hin]
    · change Parting (rfcommDeclineConnection x.channel) at h
      rw [rfcommDeclineConnection, if_neg hin] at h
      rw [hinv.parting x hx h, Bool.true_or]
  · intro x hx hxcid i hi
    constructor
    · rintro ⟨y, hy, hover, howner⟩
      obtain rfl := Option.some.inj hy
      exact ⟨(Bool.or_eq_false_iff.mp hover).1, howner⟩
    · rintro ⟨hover, howner⟩
      have hnot : x.channel.state ≠ .incomingSetup := fun hin => horderly x hx hxcid hin i howner hi
      refine ⟨_, rfl, ?_, howner⟩
      show (x.ended || decide (x.channel.state = .incomingSetup)) = false
      simp [hover, hnot]

/-! ### The stack -/

/-- An id that is removed from the lists, as the channel goes or ends. -/
theorem DaemonInv.drop (hinv : DaemonInv s) {cid d : UInt16} {f : Slot → Option Slot}
    (hcid : ∀ x y, x.cid = cid → f x = some y → y.cid = cid)
    (hnew : ∀ x ∈ s.channels, x.cid = cid → ∀ y, f x = some y → y.owner = x.owner ∧ y.ended = true)
    (hd : d = cid ∨ ∀ i, ¬ Holds s.clients i cid ∧ ¬ Holds s.clients i d) :
    DaemonInv { s.update cid f with clients := daemonDrop s.clients d } := by
  refine hinv.update hcid ?_ (nodup_drop hinv.conns) (fun _ => member_drop hinv.conns) ?_
  · intro x hx hxcid y hy
    obtain ⟨howner, hover⟩ := hnew x hx hxcid y hy
    exact ⟨howner ▸ hinv.owners x hx, fun _ => hover⟩
  · intro i c
    rw [holds_drop hinv.conns fun _ _ => hinv.one, live_update hinv hcid]
    have hgone : (c ≠ cid ∧ Live s c i) ∨ (c = cid ∧ ∃ x ∈ s.channels, x.cid = cid ∧
        ∃ y, f x = some y ∧ y.ended = false ∧ y.owner = some i) ↔ Live s c i ∧ c ≠ cid := by
      constructor
      · rintro (⟨hne, h⟩ | ⟨_, x, hx, hxcid, y, hy, hover, _⟩)
        · exact ⟨h, hne⟩
        · simp [(hnew x hx hxcid y hy).2] at hover
      · rintro ⟨h, hne⟩
        exact .inl ⟨hne, h⟩
    rw [hgone, ← and_assoc, ← hinv.registered i c]
    refine and_congr_right fun h => ?_
    rcases hd with rfl | hno
    · exact Iff.rfl
    · refine iff_of_true ?_ ?_
      · rintro rfl
        exact (hno i).2 h
      · rintro rfl
        exact (hno i).1 h

/-- **The stack's events**, where a failure is read right. -/
theorem DaemonInv.stackEvent (hinv : DaemonInv s)
    {F : RfcommChannel → Prop} (houtcome : ∀ ch, Outcome mux ch (F ch) (f ch).1 (f ch).2)
    (hread : ∀ x ∈ s.channels, x.cid = cid → F x.channel → ReadRight s x)
    (h : stackEvent s cid alloc f = some s') : DaemonInv s' := by
  unfold Btstack.stackEvent at h
  cases hfind : s.channels.find? fun x => x.cid = cid with
  | none =>
      rw [hfind] at h
      cases h
  | some x =>
      rw [hfind] at h
      obtain rfl := Option.some.inj h
      have hx := List.mem_of_find?_eq_some hfind
      have hxcid : x.cid = cid := by simpa using List.find?_some hfind
      have honly : ∀ z ∈ s.channels, z.cid = cid → z = x := fun z hz hzcid =>
        hinv.unique hz hx (hzcid.trans hxcid.symm)
      have hout := houtcome x.channel
      have hright := hread x hx hxcid
      generalize f x.channel = r at hout
      obtain ⟨next, events⟩ := r
      show DaemonInv { s.update cid fun z => next.map fun ch => { z with
        channel := ch, ended := z.ended || saysClosed events } with clients := handleEvents s.clients alloc events }
      cases hout with
      | @stays ch' _ hcid hparting hquiet =>
          obtain ⟨hnodup, hmember, hholds, hclosed⟩ := handleEvents_quiet hinv.conns hquiet
          have hcid' : ∀ z y : Slot, z.cid = cid → (some ch').map (fun ch => { z with
              channel := ch, ended := z.ended || saysClosed events }) = some y → y.cid = cid := by
            rintro z y _ hy
            rw [← Option.some.inj hy]
            exact hcid.trans hxcid
          refine hinv.updateSame hcid' ?_ hnodup hmember hholds ?_
          · rintro z hz hzcid y hy
            obtain rfl := honly z hz hzcid
            obtain rfl := Option.some.inj hy
            refine ⟨hinv.owners z hz, fun hp => ?_⟩
            rw [hinv.parting z hz (hparting hp), Bool.true_or]
          · intro z _ _ i _
            simp [hclosed]
      | @closes ch' hcid =>
          rw [handleEvents_closed]
          refine hinv.drop ?_ ?_ (.inl hxcid)
          · rintro z y _ hy
            rw [← Option.some.inj hy]
            exact hcid.trans hxcid
          · rintro z hz hzcid y hy
            rw [← Option.some.inj hy]
            exact ⟨rfl, Bool.or_true _⟩
      | ends =>
          rw [handleEvents_closed]
          exact hinv.drop (fun _ _ _ hy => nomatch hy) (fun _ _ _ _ hy => nomatch hy) (.inl hxcid)
      | fails hstatus hF =>
          rw [handleEvents_failed _ _ _ _ hstatus]
          have hor := hright hF
          rw [ReadRight, hxcid] at hor
          exact hinv.drop (fun _ _ _ hy => nomatch hy) (fun _ _ _ _ hy => nomatch hy) (hxcid ▸ hor)
      | vanishes hparting =>
          -- its end has been told before
          have hover := hinv.parting x hx hparting
          refine hinv.updateSame (fun _ _ _ hy => nomatch hy) (fun _ _ _ _ hy => nomatch hy) hinv.conns
            (fun _ => Iff.rfl) (fun _ _ => Iff.rfl) ?_
          intro z hz hzcid i _
          obtain rfl := honly z hz hzcid
          simp [hover]

end Steps

/-- **A step that is orderly** keeps the invariant. -/
theorem DaemonInv.step {s s' : DaemonState} {i : DaemonInput} (hinv : DaemonInv s) (hstep : daemonStep s i = some s')
    (horderly : Ordered s i) : DaemonInv s' := by
  cases i with
  | connectionOpened alloc =>
      obtain rfl := Option.some.inj hstep
      exact hinv.connectionOpened alloc
  | connectionClosed connection =>
      obtain rfl := Option.some.inj hstep
      exact hinv.disconnectClient connection
  | create connection mux dlci muxOpen status alloc =>
      rw [daemonStep] at hstep
      split at hstep
      · cases hstep
      rename_i hconn
      split at hstep
      · obtain rfl := Option.some.inj hstep
        exact hinv
      rename_i hstatus
      obtain ⟨r, hr, rfl⟩ := Option.map_eq_some_iff.mp hstep
      have halloc : alloc = true := horderly (Decidable.not_not.mp hstatus)
      subst halloc
      refine hinv.createChannel (Nat.not_le.mp hconn) ?_ hr
      cases muxOpen with
      | false => exact ⟨by decide, by decide⟩
      | true => exact ⟨by decide, by decide⟩
  | accept connection cid alloc =>
      rw [daemonStep] at hstep
      split at hstep
      · cases hstep
      rename_i hconn
      obtain rfl := Option.some.inj hstep
      by_cases hmember : Member s.clients connection
      · obtain ⟨rfl, x, hx, hxcid, hover, hgrant⟩ := horderly hmember
        exact hinv.accept (Nat.not_le.mp hconn) hmember hx hxcid hover hgrant
      · exact hinv.accept_stranger (Nat.not_le.mp hconn) hmember alloc
  | decline connection cid =>
      rw [daemonStep] at hstep
      split at hstep
      · cases hstep
      obtain rfl := Option.some.inj hstep
      exact hinv.decline horderly
  | disconnect connection cid =>
      rw [daemonStep] at hstep
      split at hstep
      · cases hstep
      obtain rfl := Option.some.inj hstep
      exact hinv.disconnect cid
  | incoming mux dlci maxFrameSize =>
      obtain ⟨r, hr, rfl⟩ := Option.map_eq_some_iff.mp hstep
      exact hinv.incoming hr
  | event mux cid event alloc =>
      refine hinv.stackEvent (fun ch => channelStateMachine_outcome mux ch event) ?_ hstep
      exact fun x hx hxcid hfails => horderly x hx hxcid hfails.1 hfails.2
  | muxFinalize mux cid alloc =>
      rw [daemonStep] at hstep
      exact hinv.stackEvent (fun ch => finalEvent_outcome mux ch (by decide)) horderly hstep
  | l2capFailed mux cid status alloc =>
      rw [daemonStep] at hstep
      split at hstep
      · cases hstep
      rename_i hstatus
      have houtcome : ∀ ch, Outcome mux ch True none [rfcommEmitChannelOpened mux ch status] := fun _ =>
        .fails hstatus trivial
      exact hinv.stackEvent houtcome (fun x hx hxcid _ => horderly x hx hxcid) hstep
  | data cid payload =>
      obtain rfl := Option.some.inj hstep
      exact hinv

/-- **RFCOMM routing.** In every run whose steps are all orderly, the ids are routed, in every state reached. -/
theorem rfcomm_routed {h : List (Step DaemonState DaemonInput)} {s : DaemonState} (hr : DaemonRun h s)
    (horderly : ∀ x ∈ h, Ordered x.pre x.input) : Routed s := by
  have hinv : DaemonInv s := hr.invariant_where (fun x => Ordered x.pre x.input) DaemonInv DaemonInv.initial
    (fun _ _ _ hinv hstep ho => hinv.step hstep ho) horderly
  exact hinv.routed

/-! ## Two runs -/

/-- The multiplexer of a phone. -/
def phoneMux : Multiplexer := ⟨⟨[0x02, 0x11, 0x22, 0x33, 0x44, 0x55], rfl⟩, 0x000B, 1010⟩

/-- A client connects and creates a channel, which the phone opens. -/
def openedChannel : List DaemonInput :=
  [.connectionOpened true, .create 0 phoneMux 2 true 0 true, .event phoneMux 1 .readyToSend true,
    .event phoneMux 1 (.rcvdPnRsp 1010) true, .event phoneMux 1 .readyToSend true, .event phoneMux 1 .rcvdUa true,
    .event phoneMux 1 .readyToSend true, .event phoneMux 1 .readyToSend true, .event phoneMux 1 .rcvdMscRsp true,
    .data 1 [1, 2, 3]]

theorem rfcomm_routed_opened :
    ∃ h s, DaemonRun h s ∧ connectionForRfcommCid s.clients 1 = some 0 ∧
      (s.channels.map fun x => x.channel.state) = [.isOpen] ∧ Routed s := by
  have hexec : (exec daemonStep DaemonState.initial openedChannel).map (fun r =>
      decide (connectionForRfcommCid r.2.clients 1 = some 0 ∧
        (r.2.channels.map fun x => x.channel.state) = [.isOpen])) = some true := by decide +kernel
  obtain ⟨r, hr, hend⟩ := Option.map_eq_some_iff.mp hexec
  obtain ⟨hfound, hopen⟩ := of_decide_eq_true hend
  refine ⟨r.1, r.2, Run.exec hr, hfound, hopen, rfcomm_routed (Run.exec hr) fun x hx => ?_⟩
  -- there is memory, and no channel fails
  have hinput : x.input ∈ openedChannel := exec_inputs hr ▸ List.mem_map_of_mem hx
  have horderly : ∀ i ∈ openedChannel, ∀ s, Ordered s i := by
    simp [openedChannel, Ordered]
  exact horderly x.input hinput x.pre

/-- The phone refuses the channel: its id stays registered. -/
theorem not_rfcomm_routed : ¬ ∀ h s, DaemonRun h s → Routed s := by
  intro hclaim
  have hexec : (exec daemonStep DaemonState.initial
      [.connectionOpened true, .create 0 phoneMux 2 true 0 true, .event phoneMux 1 .rcvdDm true]).map (fun r =>
      decide (connectionForRfcommCid r.2.clients 1 = some 0 ∧ r.2.channels.length = 0)) = some true := by
    decide +kernel
  obtain ⟨r, hr, hend⟩ := Option.map_eq_some_iff.mp hexec
  obtain ⟨hfound, hnone⟩ := of_decide_eq_true hend
  have hempty : r.2.channels = [] := List.length_eq_zero_iff.mp hnone
  refine (hclaim r.1 r.2 (Run.exec hr)).nobody 1 ?_ 0 (holder?_holds hfound)
  intro x hx
  rw [hempty] at hx
  cases hx

end Showcase.Btstack
