import Showcase.Btstack.HciAcl

/-!
# `Btstack.HciReceive` — from the UART to L2CAP

`packet_handler` in `hci.c` gives the ACL packets that `h4_process` has read to `acl_handler`. So a run is one of the
reader of the UART and one of the connections, and the packets that the reader delivers are those that the connections
get; what a controller sends in fragments, L2CAP gets as packets.

## Contents
- `packetHandler`, `hciStep` — a call of `h4_process`, with what comes of it.
- `HciParts` — the run of the reader and that of the connections in a run of both.
- **`l2cap_received`** — the L2CAP packets of a connection arrive, whatever is read when.
-/

namespace Showcase.Btstack

open Lib

/-! ## The reader and the connections -/

/-- The reader of the UART, and the connections. -/
structure HciReceiver where
  transport : H4Transport
  connections : AclConnections

/-- A connection gets its handle or is closed, or `h4_process` is called. -/
inductive HciReceiverInput where
  | link (handle : UInt16) (c : Option AclConnection)
  | read (data : Option Bytes)

/-- `packet_handler` of `hci.c`. What `event_handler` does to the connections is a step of its own. -/
def packetHandler (s : AclConnections) (p : HciPacket) : Option (AclConnections × Option (UInt16 × Bytes)) :=
  if p.type = hciAclDataPacket then aclHandler s p.data p.data.length else some (s, none)

/-- One step, and what is given to L2CAP. -/
def hciStep (s : HciReceiver) : HciReceiverInput → Option (HciReceiver × Option (UInt16 × Bytes))
  | .link handle c => some ({ s with connections := Function.update s.connections handle c }, none)
  | .read data =>
      (h4Process s.transport data).bind fun r =>
        match r.2 with
        | none => some (⟨r.1, s.connections⟩, none)
        | some p => (packetHandler s.connections p).map fun q => (⟨r.1, q.1⟩, q.2)

/-- `read` brings no more than it was asked for. -/
def HciStep (s : HciReceiver) (i : HciReceiverInput) (s' : HciReceiver) : Prop :=
  (∀ data, i = .read (some data) → data.length ≤ s.transport.bytesToRead) ∧ ∃ p, hciStep s i = some (s', p)

/-- The steps since the device was opened. -/
abbrev HciRun (buffer : Block (1 + hciIncomingPacketBufferSize)) (s₀ : AclConnections) :=
  Run HciStep ⟨h4Open buffer, s₀⟩

def HciReceiverInput.Keeps (handle : UInt16) : HciReceiverInput → Prop
  | .link other _ => other ≠ handle
  | .read _ => True

/-- What has been read from the UART. -/
def hciReceived (h : List (Step HciReceiver HciReceiverInput)) : Bytes :=
  h.flatMap fun x => match x.input with
    | .read (some data) => data
    | _ => []

/-- What L2CAP has got of a connection. -/
def hciEmitted (handle : UInt16) (h : List (Step HciReceiver HciReceiverInput)) : List Bytes :=
  h.flatMap fun x => ((hciStep x.pre x.input).bind fun r => emittedFor handle r.2).toList

/-- The ACL packet in a packet from the controller, when it is of the connection. -/
def HciPacket.aclFor (handle : UInt16) (p : HciPacket) : Option Bytes :=
  if p.type = hciAclDataPacket then AclInput.packetFor handle (.packet p.data p.data.length) else none

/-! ## Both parts of a run

A run of both is taken apart into a run of the reader and one of the connections, on the packets that the reader has
delivered. Then the results about each part apply as they stand. -/

section

variable {buffer : Block (1 + hciIncomingPacketBufferSize)} {handle : UInt16} {s₀ : AclConnections} {s s' : HciReceiver}
  {i : HciReceiverInput} {h : List (Step HciReceiver HciReceiverInput)}

/-- The steps of a run, as the reader and the connections see them. -/
structure HciParts (buffer : Block (1 + hciIncomingPacketBufferSize)) (handle : UInt16) (s₀ : AclConnections)
    (h : List (Step HciReceiver HciReceiverInput)) (s : HciReceiver) (h₁ : List (Step H4Transport (Option Bytes)))
    (h₂ : List (Step AclConnections AclInput)) : Prop where
  reader : H4Run buffer h₁ s.transport
  connections : AclRun s₀ h₂ s.connections
  keeps : ∀ x ∈ h₂, x.input.Keeps handle
  received : received h₁ = hciReceived h
  emitted : aclEmitted handle h₂ = hciEmitted handle h
  packets : aclReceived handle h₂ = (delivered h₁).filterMap (HciPacket.aclFor handle)

theorem hciEmitted_snoc {p : Option (UInt16 × Bytes)} (handle : UInt16) (h : List (Step HciReceiver HciReceiverInput))
    (hstep : hciStep s i = some (s', p)) :
    hciEmitted handle (h ++ [⟨s, i, s'⟩]) = hciEmitted handle h ++ (emittedFor handle p).toList := by
  rw [hciEmitted, List.flatMap_append, List.flatMap_singleton, hstep]
  rfl

theorem hciReceived_read {data : Option Bytes} :
    hciReceived (h ++ [⟨s, .read data, s'⟩]) = hciReceived h ++ data.getD [] := by
  rw [hciReceived, List.flatMap_append, List.flatMap_singleton]
  cases data <;> rfl

theorem hciReceived_link {other : UInt16} {c : Option AclConnection} :
    hciReceived (h ++ [⟨s, .link other c, s'⟩]) = hciReceived h := by
  rw [hciReceived, List.flatMap_append, List.flatMap_singleton, List.append_nil]
  rfl

/-- The connections take a step with a packet, or it is none for them. -/
theorem packetHandler_cases {s s' : AclConnections} {pkt : HciPacket} {p : Option (UInt16 × Bytes)} (handle : UInt16)
    (h : packetHandler s pkt = some (s', p)) :
    (pkt.aclFor handle = AclInput.packetFor handle (.packet pkt.data pkt.data.length) ∧
      aclStep s (.packet pkt.data pkt.data.length) = some (s', p)) ∨
    (pkt.aclFor handle = none ∧ s' = s ∧ p = none) := by
  rw [packetHandler] at h
  rw [HciPacket.aclFor]
  split at h
  · rename_i htype
    exact .inl ⟨if_pos htype, h⟩
  · rename_i htype
    obtain ⟨rfl, rfl⟩ := Prod.mk.inj (Option.some.inj h)
    exact .inr ⟨if_neg htype, rfl, rfl⟩

/-- A step is one of the reader, of the connections, or of both. -/
theorem HciParts.step {h₁ : List (Step H4Transport (Option Bytes))} {h₂ : List (Step AclConnections AclInput)}
    (hparts : HciParts buffer handle s₀ h s h₁ h₂) (hkeeps : i.Keeps handle) (hstep : HciStep s i s') :
    ∃ h₁ h₂, HciParts buffer handle s₀ (h ++ [⟨s, i, s'⟩]) s' h₁ h₂ := by
  have hkeeps₂ : ∀ x : Step AclConnections AclInput, x.input.Keeps handle →
      ∀ y ∈ h₂ ++ [x], y.input.Keeps handle := by
    intro x hx y hy
    rcases List.mem_append.mp hy with hy | hy
    · exact hparts.keeps y hy
    · exact List.mem_singleton.mp hy ▸ hx
  obtain ⟨hasked, p, hstep⟩ := hstep
  cases i with
  | link other c =>
      have hemitted := hciEmitted_snoc handle h hstep
      obtain ⟨rfl, rfl⟩ := Prod.mk.inj (Option.some.inj hstep)
      have hlink : aclStep s.connections (.link other c) = some (Function.update s.connections other c, none) := rfl
      refine ⟨h₁, h₂ ++ [⟨s.connections, .link other c, _⟩], hparts.reader, hparts.connections.snoc ⟨none, hlink⟩,
        hkeeps₂ ⟨s.connections, .link other c, _⟩ hkeeps, ?_, ?_, ?_⟩
      · rw [hparts.received, hciReceived_link]
      · rw [aclEmitted_snoc handle h₂ hlink, hparts.emitted, hemitted]
      · rw [aclReceived_snoc, hparts.packets]
        exact List.append_nil _
  | read data =>
      have hemitted := hciEmitted_snoc handle h hstep
      obtain ⟨⟨t', pkt⟩, hprocess, hstep⟩ := Option.bind_eq_some_iff.mp hstep
      have hreader : H4Step s.transport data t' := ⟨fun d hd => hasked d (hd ▸ rfl), pkt, hprocess⟩
      cases pkt with
      | none =>
          -- only the reader has taken a step
          obtain ⟨rfl, rfl⟩ := Prod.mk.inj (Option.some.inj hstep)
          refine ⟨_, h₂, hparts.reader.snoc hreader, hparts.connections, hparts.keeps, ?_, ?_, ?_⟩
          · rw [received_snoc, hparts.received, hciReceived_read]
          · rw [hparts.emitted, hemitted]
            exact (List.append_nil _).symm
          · rw [delivered_snoc h₁ hprocess, Option.toList_none, List.append_nil, hparts.packets]
      | some pkt =>
          obtain ⟨⟨cs, q⟩, hhandler, heq⟩ := Option.map_eq_some_iff.mp hstep
          obtain ⟨rfl, rfl⟩ := Prod.mk.inj heq
          rcases packetHandler_cases handle hhandler with ⟨hfor, hacl⟩ | ⟨hfor, hsame, rfl⟩
          · refine ⟨_, _, hparts.reader.snoc hreader, hparts.connections.snoc ⟨q, hacl⟩, hkeeps₂ _ trivial, ?_, ?_, ?_⟩
            · rw [received_snoc, hparts.received, hciReceived_read]
            · rw [aclEmitted_snoc handle h₂ hacl, hparts.emitted, hemitted]
            · rw [delivered_snoc h₁ hprocess, aclReceived_snoc, hparts.packets, List.filterMap_append, ← hfor]
              cases hsome : pkt.aclFor handle <;> simp [hsome]
          · refine ⟨_, h₂, hparts.reader.snoc hreader, ?_, hparts.keeps, ?_, ?_, ?_⟩
            · rw [hsame]
              exact hparts.connections
            · rw [received_snoc, hparts.received, hciReceived_read]
            · rw [hparts.emitted, hemitted]
              exact (List.append_nil _).symm
            · rw [delivered_snoc h₁ hprocess, hparts.packets, List.filterMap_append]
              simp [hfor]

theorem hciRun_parts (hr : HciRun buffer s₀ h s) (hkeeps : ∀ x ∈ h, x.input.Keeps handle) :
    ∃ h₁ h₂, HciParts buffer handle s₀ h s h₁ h₂ := by
  induction hr with
  | nil => exact ⟨[], [], .nil, .nil, fun x hx => absurd hx List.not_mem_nil, rfl, rfl, rfl⟩
  | @snoc h s s' i hr hstep ih =>
      obtain ⟨h₁, h₂, hparts⟩ := ih fun x hx => hkeeps x (List.mem_append_left _ hx)
      exact hparts.step (hkeeps ⟨s, i, s'⟩ (by simp)) hstep

/-! ## What L2CAP gets -/

/-- **From the UART to L2CAP**: while the controller's packets are on their way, in whatever pieces they are read,
    L2CAP gets of an open connection those of its packets that are complete and fit in the buffer, in order and once,
    as far as they have come; all of them when everything has been read and no packet waits. -/
theorem l2cap_received {ps : List HciPacket} {cuts : List AclCut} {c : AclConnection}
    (hps : ∀ p ∈ ps, ∃ header, p.Complete header) (hvalid : ∀ cut ∈ cuts, cut.Valid)
    (hcuts : ps.filterMap (HciPacket.aclFor handle) = cuts.flatMap AclCut.packets) (hs : s₀ handle = some c)
    (hr : HciRun buffer s₀ h s) (hkeeps : ∀ x ∈ h, x.input.Keeps handle)
    (hread : hciReceived h <+: (ps.map HciPacket.wire).flatten) :
    hciEmitted handle h <+: (cuts.filter fun cut => cut.Deliverable).map AclCut.whole ∧
      (hciReceived h = (ps.map HciPacket.wire).flatten → s.transport.waiting = none →
        hciEmitted handle h = (cuts.filter fun cut => cut.Deliverable).map AclCut.whole) := by
  obtain ⟨h₁, h₂, hparts⟩ := hciRun_parts hr hkeeps
  obtain ⟨c₁, -, hfeed⟩ := aclRun_feed hs hparts.connections hparts.keeps
  obtain ⟨c₂, hall⟩ := feed_cuts hvalid (List.forall₂_same.mpr fun m _ => List.prefix_refl m) c
  rw [← hparts.received] at hread ⊢
  obtain ⟨⟨more, hmore⟩, hcomplete⟩ := h4Run_wires hps hparts.reader hread
  rw [hparts.packets, hparts.emitted] at hfeed
  refine ⟨?_, fun hsame hwaits => ?_⟩
  · -- the connection goes on from where it is
    rw [← hcuts, ← hmore, List.append_assoc, List.filterMap_append, feedAcl_append hfeed] at hall
    obtain ⟨r, -, hr⟩ := Option.map_eq_some_iff.mp hall
    exact ⟨r.2, (Prod.mk.inj hr).2⟩
  · have hdelivered := hcomplete hsame
    rw [hwaits, Option.toList_none, List.append_nil] at hdelivered
    rw [hdelivered, hcuts, hall] at hfeed
    exact (Prod.mk.inj (Option.some.inj hfeed)).2.symm

/-- The packet handler does not keep the reader from reading on. -/
theorem hciRun_exists {h₁ : List (Step H4Transport (Option Bytes))} {t : H4Transport} (handle : UInt16)
    (s₀ : AclConnections) (hr : H4Run buffer h₁ t) :
    ∃ h s, HciRun buffer s₀ h s ∧ s.transport = t ∧ hciReceived h = received h₁ ∧
      ∀ x ∈ h, x.input.Keeps handle := by
  induction hr with
  | nil => exact ⟨[], _, .nil, rfl, rfl, fun x hx => absurd hx List.not_mem_nil⟩
  | @snoc h₁ t t' read hr hstep ih =>
      obtain ⟨h, s, hrun, rfl, hreceived, hkeeps⟩ := ih
      obtain ⟨hasked, pkt, hprocess⟩ := hstep
      have hnext : ∃ s' p, hciStep s (.read read) = some (s', p) ∧ s'.transport = t' := by
        rw [hciStep, hprocess, Option.bind_some]
        cases pkt with
        | none => exact ⟨_, _, rfl, rfl⟩
        | some pkt =>
            have hsome : (packetHandler s.connections pkt).isSome := by
              rw [packetHandler]
              split
              · exact aclHandler_isSome _ _ _
              · rfl
            obtain ⟨q, hq⟩ := Option.isSome_iff_exists.mp hsome
            exact ⟨⟨t', q.1⟩, q.2, congrArg (Option.map _) hq, rfl⟩
      obtain ⟨s', p, hstep, htransport⟩ := hnext
      refine ⟨_, s', hrun.snoc ⟨fun d hd => hasked d ?_, p, hstep⟩, htransport, ?_, ?_⟩
      · cases hd
        rfl
      · rw [hciReceived_read, received_snoc, hreceived]
      · intro x hx
        rcases List.mem_append.mp hx with hx | hx
        · exact hkeeps x hx
        · obtain rfl := List.mem_singleton.mp hx
          trivial

/-- The fragments of a packet. -/
def channelPackets : List HciPacket :=
  [⟨hciAclDataPacket, [0x01, 0x20, 4, 0, 4, 0, 0x40, 0]⟩, ⟨hciAclDataPacket, [0x01, 0x10, 4, 0, 1, 2, 3, 4]⟩]

/-- Two fragments are read with their headers apart, and put together. -/
theorem l2cap_received_one : ∃ h s, HciRun (Block.zero _) oneConnection h s ∧
    hciEmitted 1 h = [[0x01, 0x20, 8, 0, 4, 0, 0x40, 0, 1, 2, 3, 4]] := by
  have hr₁ : H4Run (Block.zero _) _ _ := Run.nil.snoc (H4Step.data [0x02] (by decide) rfl)
  have hr₂ := hr₁.snoc (H4Step.data [0x01, 0x20, 4, 0] (by decide) rfl)
  have hr₃ := hr₂.snoc (H4Step.data [4, 0, 0x40, 0] (by decide) rfl)
  have hr₄ := hr₃.snoc (H4Step.data [0x02] (by decide) rfl)
  have hr₅ := hr₄.snoc (H4Step.data [0x01, 0x10, 4, 0] (by decide) rfl)
  have hr₆ := hr₅.snoc (H4Step.data [1, 2, 3, 4] (by decide) rfl)
  obtain ⟨h, s, hr, htransport, hreceived, hkeeps⟩ := hciRun_exists 1 oneConnection hr₆
  have hps : ∀ p ∈ channelPackets, ∃ header, p.Complete header := by
    intro p hp
    refine ⟨4, ?_⟩
    rcases List.mem_cons.mp hp with rfl | hp
    · constructor <;> decide
    · obtain rfl := List.mem_singleton.mp hp
      constructor <;> decide
  have hvalid : ∀ cut ∈ channelCuts.take 1, cut.Valid :=
    fun cut hcut => channelCuts_valid cut (List.mem_of_mem_take hcut)
  have hcuts : channelPackets.filterMap (HciPacket.aclFor 1) = (channelCuts.take 1).flatMap AclCut.packets := by decide
  have hread : hciReceived h = (channelPackets.map HciPacket.wire).flatten := hreceived
  have hwaits : s.transport.waiting = none := by
    rw [htransport]
    rfl
  refine ⟨h, s, hr, ?_⟩
  have hfront : hciReceived h <+: (channelPackets.map HciPacket.wire).flatten := hread ▸ List.prefix_refl _
  exact (l2cap_received hps hvalid hcuts (Function.update_self ..) hr hkeeps hfront).2 hread hwaits

end

end Showcase.Btstack
