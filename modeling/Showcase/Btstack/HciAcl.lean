import Showcase.Btstack.HciTransport

/-!
# `Btstack.HciAcl` — L2CAP packets from the controller

`acl_handler` in `hci.c`: a controller sends an L2CAP packet in fragments, which it marks as the first or as continuing.
Each connection has a buffer in which they are put together, in front of them a header as if the packet had come as a
whole; a packet that does come as a whole is handed on as it is. Fragments of other connections may come in between, and
a packet that is never completed makes way for the next one.

## Contents
- `aclFragment`, `aclHandler` — the handler, for one connection and for all of them.
- `AclCut` — an L2CAP packet in fragments, all of them or the first few.
- `feed_cut` — what a connection makes of it.
- `aclRun_feed` — what a connection gets in a run, whatever the other ones get.
- **`acl_reassembled`** — of a connection's packets L2CAP gets those that are complete, in order.
-/

namespace Showcase.Btstack

open Lib

/-! ## The handler -/

/-- `READ_ACL_CONNECTION_HANDLE`, `READ_ACL_FLAGS`, `READ_ACL_LENGTH` and `READ_L2CAP_LENGTH`. -/
def readAclConnectionHandle (packet : Bytes) : UInt16 := littleEndianRead16 packet 0 &&& 0x0fff
def readAclFlags (packet : Bytes) : UInt8 := packet.getD 1 0 >>> 4
def readAclLength (packet : Bytes) : Nat := (littleEndianRead16 packet 2).toNat
def readL2capLength (packet : Bytes) : UInt16 := littleEndianRead16 packet 4

/-- What `hci_connection_t` has for the fragments. -/
structure AclConnection where
  aclRecombinationBuffer : Block (4 + hciAclBufferSize)
  aclRecombinationPos : Nat
  aclRecombinationLength : UInt16

/-- The `switch` of `acl_handler`: the connection, and what is given to L2CAP. The packet is the memory of the
    transport; there is no result when the buffer would be written behind its end. -/
def aclFragment (c : AclConnection) (packet : Bytes) : Option (AclConnection × Option Bytes) :=
  let aclLength := readAclLength packet
  -- continuation fragment
  if readAclFlags packet &&& 3 = 1 then
    if c.aclRecombinationPos = 0 then some (c, none)
    else if 4 + hciAclBufferSize < c.aclRecombinationPos + aclLength then
      some ({ c with aclRecombinationPos := 0 }, none)
    else
      -- append fragment payload (header already stored)
      (storeAt c.aclRecombinationBuffer c.aclRecombinationPos ((packet.drop 4).take aclLength)).map fun buffer =>
        let pos := c.aclRecombinationPos + aclLength
        if c.aclRecombinationLength.toNat + 4 + 4 ≤ pos then (⟨buffer, 0, 0⟩, some (buffer.val.take pos))
        else ({ c with aclRecombinationBuffer := buffer, aclRecombinationPos := pos }, none)
  -- first fragment: stale fragments are dropped
  else if readAclFlags packet &&& 3 = 2 then
    let c := { c with aclRecombinationPos := 0 }
    let l2capLength := readL2capLength packet
    if l2capLength.toNat + 4 ≤ aclLength then some (c, some (packet.take (aclLength + 4)))
    else if hciAclBufferSize < aclLength then some (c, none)
    else
      -- store first fragment and tweak acl length for complete package
      (storeAt c.aclRecombinationBuffer 0 (packet.take (aclLength + 4))).bind fun buffer =>
        (storeAt buffer 2 (littleEndianStore16 (l2capLength + 4))).map fun buffer =>
          (⟨buffer, aclLength + 4, l2capLength⟩, none)
  else some (c, none)

/-- The connections by their handles, as `hci_connection_for_handle` finds them. -/
abbrev AclConnections := UInt16 → Option AclConnection

/-- `acl_handler`: what is given to L2CAP is that of a connection. -/
def aclHandler (s : AclConnections) (packet : Bytes) (size : Nat) : Option (AclConnections × Option (UInt16 × Bytes)) :=
  let conHandle := readAclConnectionHandle packet
  match s conHandle with
  | none => some (s, none)
  | some c =>
      if readAclLength packet + 4 = size then
        (aclFragment c packet).map fun r => (Function.update s conHandle (some r.1), r.2.map fun p => (conHandle, p))
      else some (s, none)

/-- A buffer is never written behind its end. -/
theorem aclFragment_isSome (c : AclConnection) (packet : Bytes) : (aclFragment c packet).isSome := by
  have hstore : ∀ (buffer : Block (4 + hciAclBufferSize)) (off : Nat) (data : Bytes),
      off + data.length ≤ 4 + hciAclBufferSize → (storeAt buffer off data).isSome := by
    intro buffer off data hle
    rw [storeAt, dif_pos hle]
    rfl
  unfold aclFragment
  dsimp only
  split
  · split
    · rfl
    · split
      · rfl
      · rename_i hle
        rw [Option.isSome_map]
        refine hstore _ _ _ ?_
        have := List.length_take_le (readAclLength packet) (packet.drop 4)
        omega
  · split
    · split
      · rfl
      · split
        · rfl
        · rename_i hle
          have hfirst : 0 + (packet.take (readAclLength packet + 4)).length ≤ 4 + hciAclBufferSize := by
            have := List.length_take_le (readAclLength packet + 4) packet
            omega
          obtain ⟨buffer, hbuffer⟩ := Option.isSome_iff_exists.mp (hstore c.aclRecombinationBuffer _ _ hfirst)
          rw [hbuffer, Option.bind_some, Option.isSome_map]
          refine hstore _ _ _ ?_
          rw [length_littleEndianStore16]
          show 2 + 2 ≤ 4 + 1025
          omega
    · rfl

theorem aclHandler_isSome (s : AclConnections) (packet : Bytes) (size : Nat) : (aclHandler s packet size).isSome := by
  unfold aclHandler
  dsimp only
  split
  · rfl
  · split
    · rw [Option.isSome_map]
      exact aclFragment_isSome _ packet
    · rfl

/-! ## Fragments -/

/-- An ACL packet: the connection handle with the flags, the length, and the data. -/
def aclPacket (handleAndFlags : UInt16) (data : Bytes) : Bytes :=
  littleEndianStore16 handleAndFlags ++ littleEndianStore16 (UInt16.ofNat data.length) ++ data

/-- The packet boundary flag: 1 is continuing, 2 is the first. -/
def boundaryFlag (handleAndFlags : UInt16) : Nat := handleAndFlags.toNat / 4096 % 4

section

variable {w : UInt16} {d m : Bytes}

@[simp] theorem length_aclPacket (w : UInt16) (d : Bytes) : (aclPacket w d).length = 4 + d.length := by
  simp only [aclPacket, List.length_append, length_littleEndianStore16]

/-- What is read in memory that begins with an ACL packet. -/
theorem readAclFlags_eq (h : aclPacket w d <+: m) : (readAclFlags m &&& 3).toNat = boundaryFlag w := by
  obtain ⟨t, rfl⟩ := h
  have hbyte : (aclPacket w d ++ t).getD 1 0 = UInt8.ofNat (w.toNat / 256) := rfl
  have hlt := w.toNat_lt
  rw [readAclFlags, hbyte, UInt8.toNat_and, UInt8.toNat_shiftRight, boundaryFlag,
    UInt8.toNat_ofNat_of_lt' (show w.toNat / 256 < 256 by omega)]
  show (w.toNat / 256) >>> 4 &&& 3 = _
  rw [Nat.shiftRight_eq_div_pow, show 3 = 2 ^ 2 - 1 from rfl, Nat.and_two_pow_sub_one_eq_mod, Nat.div_div_eq_div_mul]

theorem readAclFlags_first (h : aclPacket w d <+: m) (hflag : boundaryFlag w = 2) : readAclFlags m &&& 3 = 2 :=
  UInt8.toNat_inj.mp ((readAclFlags_eq h).trans hflag)

theorem readAclFlags_continuing (h : aclPacket w d <+: m) (hflag : boundaryFlag w = 1) : readAclFlags m &&& 3 = 1 :=
  UInt8.toNat_inj.mp ((readAclFlags_eq h).trans hflag)

theorem readAclLength_eq (h : aclPacket w d <+: m) (hlen : d.length < 2 ^ 16) : readAclLength m = d.length := by
  obtain ⟨t, rfl⟩ := h
  have hread := littleEndianRead16_store (littleEndianStore16 w) (UInt16.ofNat d.length) (d ++ t)
  rw [length_littleEndianStore16] at hread
  rw [readAclLength, aclPacket, List.append_assoc, hread]
  exact UInt16.toNat_ofNat_of_lt' hlen

theorem readL2capLength_eq (h : aclPacket w d <+: m) (hlen : 2 ≤ d.length) :
    readL2capLength m = littleEndianRead16 d 0 := by
  obtain ⟨t, rfl⟩ := h
  have hhead : (littleEndianStore16 w ++ littleEndianStore16 (UInt16.ofNat d.length)).length = 4 := by simp
  rw [readL2capLength, ← littleEndianRead16_append hlen t, littleEndianRead16, littleEndianRead16, aclPacket,
    List.append_assoc, List.drop_left' hhead, List.drop_zero]

theorem take_aclPacket (h : aclPacket w d <+: m) : m.take (d.length + 4) = aclPacket w d := by
  obtain ⟨t, rfl⟩ := h
  rw [Nat.add_comm, ← length_aclPacket w d, List.take_left]

theorem payload_aclPacket (h : aclPacket w d <+: m) : (m.drop 4).take d.length = d := by
  obtain ⟨t, rfl⟩ := h
  have hhead : (littleEndianStore16 w ++ littleEndianStore16 (UInt16.ofNat d.length)).length = 4 := by simp
  rw [aclPacket, List.append_assoc, List.drop_left' hhead, List.take_left]

end

/-- The first fragment of an L2CAP packet, and fragments that continue it. -/
structure AclCut where
  first : UInt16
  head : Bytes
  rest : List (UInt16 × Bytes)

/-- The data of the fragments. -/
def AclCut.payload (cut : AclCut) : Bytes := cut.head ++ (cut.rest.map Prod.snd).flatten

/-- The ACL packets. -/
def AclCut.packets (cut : AclCut) : List Bytes :=
  aclPacket cut.first cut.head :: cut.rest.map fun f => aclPacket f.1 f.2

/-- The length of the L2CAP packet, as it says itself. -/
def AclCut.length (cut : AclCut) : Nat := (littleEndianRead16 cut.head 0).toNat + 4

/-- The fragments of one packet, or the first few of them: the first has the length in it. -/
structure AclCut.Valid (cut : AclCut) : Prop where
  firstFlag : boundaryFlag cut.first = 2
  head : 2 ≤ cut.head.length ∧ cut.head.length < 2 ^ 16
  rest : ∀ f ∈ cut.rest, boundaryFlag f.1 = 1 ∧ f.2.length < 2 ^ 16
  length : cut.payload.length ≤ cut.length

/-- All of the packet is there, in the first fragment or in so many bytes that they fit in the buffer. -/
def AclCut.Deliverable (cut : AclCut) : Prop :=
  cut.payload.length = cut.length ∧ (cut.head.length = cut.length ∨ cut.length ≤ hciAclBufferSize)

instance (cut : AclCut) : Decidable cut.Deliverable := inferInstanceAs (Decidable (_ ∧ (_ ∨ _)))

/-- The packet as if it had come as a whole. -/
def AclCut.whole (cut : AclCut) : Bytes := aclPacket cut.first cut.payload

/-- What a connection makes of ACL packets, one after the other. -/
def feedAcl (c : AclConnection) : List Bytes → Option (AclConnection × List Bytes)
  | [] => some (c, [])
  | m :: ms => (aclFragment c m).bind fun r => (feedAcl r.1 ms).map fun r' => (r'.1, r.2.toList ++ r'.2)

/-! ## Reassembly

The cases of `aclFragment` are taken one by one for a connection that has some of a packet, none, or all of it. The
induction is on the fragments that are still to come. -/

section

variable {c : AclConnection} {cut : AclCut} {m got : Bytes} {w : UInt16} {d : Bytes}

/-- The connection has `got` of the packet, with the header in front that it will have. -/
structure AclConnection.Collects (c : AclConnection) (cut : AclCut) (got : Bytes) : Prop where
  pos : c.aclRecombinationPos = 4 + got.length
  length : c.aclRecombinationLength = littleEndianRead16 cut.head 0
  buffer : c.aclRecombinationBuffer.val.take (4 + got.length) =
    littleEndianStore16 cut.first ++ littleEndianStore16 (littleEndianRead16 cut.head 0 + 4) ++ got
  short : got.length < cut.length

theorem storeAt_eq {n off : Nat} (b : Block n) {data : Bytes} (h : off + data.length ≤ n) :
    ∃ b', storeAt b off data = some b' ∧ b'.val = b.val.take off ++ data ++ b.val.drop (off + data.length) := by
  rw [storeAt, dif_pos h]
  exact ⟨_, rfl, rfl⟩

/-- A first fragment that is the packet hands it on. -/
theorem aclFragment_whole (hflag : boundaryFlag w = 2) (hm : aclPacket w d <+: m) (htwo : 2 ≤ d.length)
    (hlen : d.length < 2 ^ 16) (hall : (littleEndianRead16 d 0).toNat + 4 ≤ d.length) :
    aclFragment c m = some ({ c with aclRecombinationPos := 0 }, some (aclPacket w d)) := by
  have hne : ¬ (2 : UInt8) = 1 := by decide
  rw [aclFragment]
  simp only [readAclFlags_first hm hflag, if_neg hne, if_true, readAclLength_eq hm hlen, readL2capLength_eq hm htwo,
    if_pos hall, take_aclPacket hm]

/-- A first fragment of a packet that does not fit in the buffer is dropped. -/
theorem aclFragment_tooLong (hflag : boundaryFlag w = 2) (hm : aclPacket w d <+: m) (htwo : 2 ≤ d.length)
    (hlen : d.length < 2 ^ 16) (hmore : d.length < (littleEndianRead16 d 0).toNat + 4)
    (hlong : hciAclBufferSize < d.length) :
    aclFragment c m = some ({ c with aclRecombinationPos := 0 }, none) := by
  have hne : ¬ (2 : UInt8) = 1 := by decide
  rw [aclFragment]
  simp only [readAclFlags_first hm hflag, if_neg hne, if_true, readAclLength_eq hm hlen, readL2capLength_eq hm htwo,
    if_neg (Nat.not_le.mpr hmore), if_pos hlong]

/-- A first fragment of a packet that fits is collected. -/
theorem aclFragment_first (hvalid : cut.Valid) (hm : aclPacket cut.first cut.head <+: m)
    (hmore : cut.head.length < cut.length) (hfits : cut.head.length ≤ hciAclBufferSize) :
    ∃ c', aclFragment c m = some (c', none) ∧ c'.Collects cut cut.head := by
  have hne : ¬ (2 : UInt8) = 1 := by decide
  have hpart : ¬ (littleEndianRead16 cut.head 0).toNat + 4 ≤ cut.head.length := Nat.not_le.mpr hmore
  rw [aclFragment]
  simp only [readAclFlags_first hm hvalid.firstFlag, if_neg hne, if_true, readAclLength_eq hm hvalid.head.2,
    readL2capLength_eq hm hvalid.head.1, if_neg hpart, if_neg (Nat.not_lt.mpr hfits), take_aclPacket hm]
  have hlen : 0 + (aclPacket cut.first cut.head).length ≤ 4 + hciAclBufferSize := by
    rw [length_aclPacket]
    omega
  obtain ⟨b₁, hb₁, hval₁⟩ := storeAt_eq c.aclRecombinationBuffer hlen
  have htwo : 2 + (littleEndianStore16 (littleEndianRead16 cut.head 0 + 4)).length ≤ 4 + hciAclBufferSize := by
    rw [length_littleEndianStore16]
    show 2 + 2 ≤ 4 + 1025
    omega
  obtain ⟨b₂, hb₂, hval₂⟩ := storeAt_eq b₁ htwo
  rw [hb₁, Option.bind_some, hb₂, Option.map_some]
  refine ⟨_, rfl, Nat.add_comm _ _, rfl, ?_, hmore⟩
  show b₂.val.take (4 + cut.head.length) = _
  have hstart : b₁.val.take 2 = littleEndianStore16 cut.first := by
    rw [hval₁, List.take_zero, List.nil_append, aclPacket, List.append_assoc, List.append_assoc, List.append_assoc]
    exact List.take_left' (length_littleEndianStore16 _)
  have hend : b₁.val.drop 4 =
      cut.head ++ c.aclRecombinationBuffer.val.drop (0 + (aclPacket cut.first cut.head).length) := by
    rw [hval₁, List.take_zero, List.nil_append, aclPacket, List.append_assoc]
    exact List.drop_left' (by simp)
  rw [hval₂, hstart, length_littleEndianStore16, hend, ← List.append_assoc]
  exact List.take_left' (by simp only [List.length_append, length_littleEndianStore16])

/-- A continuing fragment with nothing to continue is dropped. -/
theorem aclFragment_stray (hflag : boundaryFlag w = 1) (hm : aclPacket w d <+: m) (hpos : c.aclRecombinationPos = 0) :
    aclFragment c m = some (c, none) := by
  rw [aclFragment]
  simp only [readAclFlags_continuing hm hflag, if_true, if_pos hpos]

/-- A continuing fragment that makes the packet too long ends its collection. -/
theorem aclFragment_givenUp (hc : c.Collects cut got) (hflag : boundaryFlag w = 1) (hm : aclPacket w d <+: m)
    (hlen : d.length < 2 ^ 16) (hlong : hciAclBufferSize < (got ++ d).length) :
    aclFragment c m = some ({ c with aclRecombinationPos := 0 }, none) := by
  have hpos := hc.pos
  rw [List.length_append] at hlong
  rw [aclFragment]
  simp only [readAclFlags_continuing hm hflag, if_true, readAclLength_eq hm hlen]
  rw [if_neg (by omega), if_pos (by omega)]

/-- A continuing fragment that fits is added, and the packet is handed on when it is complete. -/
theorem aclFragment_continued (hc : c.Collects cut got) (hflag : boundaryFlag w = 1) (hm : aclPacket w d <+: m)
    (hlen : d.length < 2 ^ 16) (hfits : (got ++ d).length ≤ hciAclBufferSize) :
    ∃ c', (cut.length ≤ (got ++ d).length → c'.aclRecombinationPos = 0 ∧ aclFragment c m = some (c', some
        (littleEndianStore16 cut.first ++ littleEndianStore16 (littleEndianRead16 cut.head 0 + 4) ++ (got ++ d)))) ∧
      ((got ++ d).length < cut.length → aclFragment c m = some (c', none) ∧ c'.Collects cut (got ++ d)) := by
  have hpos := hc.pos
  have hshort := hc.short
  have hle : c.aclRecombinationPos + ((m.drop 4).take d.length).length ≤ 4 + hciAclBufferSize := by
    rw [payload_aclPacket hm, hpos]
    rw [List.length_append] at hfits
    omega
  obtain ⟨b, hb, hval⟩ := storeAt_eq c.aclRecombinationBuffer hle
  have hbuffer : b.val.take (c.aclRecombinationPos + d.length) = littleEndianStore16 cut.first ++
      littleEndianStore16 (littleEndianRead16 cut.head 0 + 4) ++ (got ++ d) := by
    rw [hval, payload_aclPacket hm, hpos, hc.buffer, ← List.append_assoc]
    exact List.take_left' (by simp only [List.length_append, length_littleEndianStore16])
  have hcut : cut.length = c.aclRecombinationLength.toNat + 4 := by rw [hc.length]; rfl
  rw [aclFragment]
  simp only [readAclFlags_continuing hm hflag, if_true, readAclLength_eq hm hlen]
  rw [List.length_append] at hfits ⊢
  rw [if_neg (by omega), if_neg (by omega), hb, Option.map_some]
  by_cases hall : c.aclRecombinationLength.toNat + 4 + 4 ≤ c.aclRecombinationPos + d.length
  · rw [if_pos hall, hbuffer]
    exact ⟨⟨b, 0, 0⟩, fun _ => ⟨rfl, rfl⟩, fun hlt => by omega⟩
  · rw [if_neg hall]
    refine ⟨⟨b, c.aclRecombinationPos + d.length, c.aclRecombinationLength⟩, fun hge => by omega, fun hlt => ⟨rfl, ?_⟩⟩
    refine ⟨by rw [List.length_append]; show c.aclRecombinationPos + d.length = _; omega, hc.length, ?_, ?_⟩
    · rw [List.length_append, ← Nat.add_assoc, ← hpos]
      exact hbuffer
    · rw [List.length_append]
      exact hlt

/-- Fragments without a first one are dropped. -/
theorem feed_stray {rest : List (UInt16 × Bytes)} {ms : List Bytes}
    (hms : List.Forall₂ (fun f m => aclPacket f.1 f.2 <+: m) rest ms)
    (hrest : ∀ f ∈ rest, boundaryFlag f.1 = 1) (hpos : c.aclRecombinationPos = 0) :
    feedAcl c ms = some (c, []) := by
  induction hms with
  | nil => rfl
  | cons hm _ ih =>
      rw [feedAcl, aclFragment_stray (hrest _ List.mem_cons_self) hm hpos, Option.bind_some,
        ih fun f hf => hrest f (List.mem_cons_of_mem _ hf)]
      rfl

/-- The fragments behind what the connection has: the packet is handed on once, when it is complete and not too long. -/
theorem feed_rest {rest : List (UInt16 × Bytes)} {ms : List Bytes}
    (hms : List.Forall₂ (fun f m => aclPacket f.1 f.2 <+: m) rest ms)
    (hrest : ∀ f ∈ rest, boundaryFlag f.1 = 1 ∧ f.2.length < 2 ^ 16) (hc : c.Collects cut got)
    (hgot : got.length ≤ hciAclBufferSize)
    (hlen : (got ++ (rest.map Prod.snd).flatten).length ≤ cut.length) :
    ∃ c', feedAcl c ms = some (c',
      if (got ++ (rest.map Prod.snd).flatten).length = cut.length ∧ cut.length ≤ hciAclBufferSize then
        [littleEndianStore16 cut.first ++ littleEndianStore16 (littleEndianRead16 cut.head 0 + 4) ++
          (got ++ (rest.map Prod.snd).flatten)]
      else []) := by
  induction hms generalizing c got with
  | nil =>
      have hshort := hc.short
      rw [List.map_nil, List.flatten_nil, List.append_nil, if_neg (by omega)]
      exact ⟨c, rfl⟩
  | @cons f m rest ms hm hms ih =>
      obtain ⟨hflag, hsize⟩ := hrest _ List.mem_cons_self
      have htail := fun f hf => hrest f (List.mem_cons_of_mem _ hf)
      rw [List.map_cons, List.flatten_cons, ← List.append_assoc] at hlen ⊢
      by_cases hfits : (got ++ f.2).length ≤ hciAclBufferSize
      · obtain ⟨c', hdone, hmore⟩ := aclFragment_continued hc hflag hm hsize hfits
        by_cases hall : cut.length ≤ (got ++ f.2).length
        · -- complete: what is behind is empty
          obtain ⟨hpos, hfragment⟩ := hdone hall
          have hnil : (rest.map Prod.snd).flatten = [] := by
            rw [List.length_append] at hlen
            exact List.length_eq_zero_iff.mp (by omega)
          rw [feedAcl, hfragment, Option.bind_some, feed_stray hms (fun f hf => (htail f hf).1) hpos]
          rw [hnil, List.append_nil] at hlen ⊢
          rw [if_pos ⟨by omega, by omega⟩]
          exact ⟨c', rfl⟩
        · obtain ⟨hfragment, hc'⟩ := hmore (by omega)
          obtain ⟨c'', hfeed⟩ := ih htail hc' hfits hlen
          rw [feedAcl, hfragment, Option.bind_some, hfeed]
          exact ⟨c'', rfl⟩
      · -- too long: what is behind has nothing to continue
        rw [feedAcl, aclFragment_givenUp hc hflag hm hsize (by omega), Option.bind_some,
          feed_stray hms (fun f hf => (htail f hf).1) rfl]
        rw [List.length_append] at hlen
        rw [if_neg (by omega)]
        exact ⟨_, rfl⟩

theorem AclCut.whole_eq (h : cut.payload.length = cut.length) :
    cut.whole = littleEndianStore16 cut.first ++ littleEndianStore16 (littleEndianRead16 cut.head 0 + 4) ++
      cut.payload := by
  have hlength : UInt16.ofNat cut.length = littleEndianRead16 cut.head 0 + 4 := by
    rw [AclCut.length, UInt16.ofNat_add, UInt16.ofNat_toNat]
    rfl
  rw [AclCut.whole, aclPacket, h, hlength]

/-- **What a connection makes of an L2CAP packet in fragments**, whatever it had before. -/
theorem feed_cut {ms : List Bytes} (hvalid : cut.Valid) (hms : List.Forall₂ (· <+: ·) cut.packets ms)
    (c : AclConnection) : ∃ c', feedAcl c ms = some (c', if cut.Deliverable then [cut.whole] else []) := by
  cases hms with
  | @cons _ m _ ms hm hms =>
      have hrest : List.Forall₂ (fun f m => aclPacket f.1 f.2 <+: m) cut.rest ms := List.forall₂_map_left_iff.mp hms
      have hpayload : cut.payload = cut.head ++ (cut.rest.map Prod.snd).flatten := rfl
      have hlen := hvalid.length
      have hstray : ∀ f ∈ cut.rest, boundaryFlag f.1 = 1 := fun f hf => (hvalid.rest f hf).1
      by_cases hhead : cut.head.length < cut.length
      · by_cases hfits : cut.head.length ≤ hciAclBufferSize
        · -- the first fragment is stored, and the others are behind it
          obtain ⟨c', hfirst, hc'⟩ := aclFragment_first (c := c) hvalid hm hhead hfits
          obtain ⟨c'', hfeed⟩ := feed_rest hrest hvalid.rest hc' hfits hlen
          rw [← hpayload] at hfeed
          rw [feedAcl, hfirst, Option.bind_some, hfeed]
          refine ⟨c'', ?_⟩
          by_cases hdeliver : cut.payload.length = cut.length ∧ cut.length ≤ hciAclBufferSize
          · rw [if_pos hdeliver, if_pos ⟨hdeliver.1, .inr hdeliver.2⟩, cut.whole_eq hdeliver.1]
            rfl
          · rw [if_neg hdeliver, if_neg fun h => hdeliver ⟨h.1, h.2.resolve_left (by omega)⟩]
            rfl
        · -- it is not stored, and the others have nothing to continue
          rw [feedAcl, aclFragment_tooLong hvalid.firstFlag hm hvalid.head.1 hvalid.head.2 hhead (by omega),
            Option.bind_some, feed_stray hrest hstray rfl, if_neg]
          · exact ⟨_, rfl⟩
          · rintro ⟨-, h | h⟩
            · omega
            · omega
      · -- nothing is left for the continuing fragments
        have hwhole : cut.payload.length = cut.length ∧ cut.payload = cut.head := by
          rw [hpayload, List.length_append] at hlen
          have hnil : (cut.rest.map Prod.snd).flatten = [] := List.length_eq_zero_iff.mp (by omega)
          rw [hpayload, hnil, List.append_nil]
          exact ⟨by omega, rfl⟩
        have hall : cut.head.length = cut.length := by
          rw [← hwhole.2]
          exact hwhole.1
        rw [feedAcl, aclFragment_whole hvalid.firstFlag hm hvalid.head.1 hvalid.head.2 (by
            show cut.length ≤ cut.head.length
            omega), Option.bind_some, feed_stray hrest hstray rfl, if_pos ⟨hwhole.1, .inl hall⟩, AclCut.whole, hwhole.2]
        exact ⟨_, rfl⟩

/-- Packets behind packets. -/
theorem feedAcl_append {ms₁ ms₂ es : List Bytes} {c₁ : AclConnection} (h : feedAcl c ms₁ = some (c₁, es)) :
    feedAcl c (ms₁ ++ ms₂) = (feedAcl c₁ ms₂).map fun r => (r.1, es ++ r.2) := by
  induction ms₁ generalizing c es with
  | nil =>
      obtain ⟨rfl, rfl⟩ := Prod.mk.inj (Option.some.inj h)
      exact Option.map_id.symm ▸ rfl
  | cons m ms₁ ih =>
      obtain ⟨r, hr, h⟩ := Option.bind_eq_some_iff.mp h
      obtain ⟨⟨c₂, es₁⟩, hfeed, h⟩ := Option.map_eq_some_iff.mp h
      obtain ⟨rfl, rfl⟩ := Prod.mk.inj h
      rw [List.cons_append, feedAcl, hr, Option.bind_some, ih hfeed, Option.map_map]
      exact congrArg₂ Option.map (funext fun r' => by simp) rfl

/-- **What a connection makes of several L2CAP packets** in fragments. -/
theorem feed_cuts {cuts : List AclCut} {ms : List Bytes} (hvalid : ∀ cut ∈ cuts, cut.Valid)
    (hms : List.Forall₂ (· <+: ·) (cuts.flatMap AclCut.packets) ms) (c : AclConnection) :
    ∃ c', feedAcl c ms = some (c', (cuts.filter fun cut => cut.Deliverable).map AclCut.whole) := by
  induction cuts generalizing c ms with
  | nil =>
      cases hms
      exact ⟨c, rfl⟩
  | cons cut cuts ih =>
      rw [List.flatMap_cons] at hms
      have hfirst := (List.forall₂_take_append ms _ _ hms.flip).flip
      have hrest := (List.forall₂_drop_append ms _ _ hms.flip).flip
      obtain ⟨c₁, hcut⟩ := feed_cut (hvalid cut List.mem_cons_self) hfirst c
      obtain ⟨c₂, hcuts⟩ := ih (fun k hk => hvalid k (List.mem_cons_of_mem _ hk)) hrest c₁
      refine ⟨c₂, ?_⟩
      rw [← List.take_append_drop cut.packets.length ms, feedAcl_append hcut, hcuts, Option.map_some]
      by_cases hdeliver : cut.Deliverable
      · rw [if_pos hdeliver, List.filter_cons, if_pos (decide_eq_true hdeliver)]
        rfl
      · rw [if_neg hdeliver, List.filter_cons, if_neg fun h => hdeliver (of_decide_eq_true h)]
        rfl

end

/-! ## Runs

A step is a step of the connection in question or leaves it alone. So what a run makes of a connection is what the
packets of that connection make of it (`Lib.History`). -/

/-- What reaches the handler: a connection gets its handle or is closed, or the transport has a packet of `size`
    bytes. -/
inductive AclInput where
  | link (handle : UInt16) (c : Option AclConnection)
  | packet (packet : Bytes) (size : Nat)

/-- One of them. -/
def aclStep (s : AclConnections) : AclInput → Option (AclConnections × Option (UInt16 × Bytes))
  | .link handle c => some (Function.update s handle c, none)
  | .packet packet size => aclHandler s packet size

abbrev AclRun := Run fun (s : AclConnections) (i : AclInput) s' => ∃ p, aclStep s i = some (s', p)

/-- An input that leaves the connection open. -/
def AclInput.Keeps (handle : UInt16) : AclInput → Prop
  | .link other _ => other ≠ handle
  | .packet _ _ => True

/-- A packet of the connection, with the size that its header says. -/
def AclInput.packetFor (handle : UInt16) : AclInput → Option Bytes
  | .packet m size => if readAclConnectionHandle m = handle ∧ readAclLength m + 4 = size then some m else none
  | _ => none

/-- What is given to L2CAP, when it is of the connection. -/
def emittedFor (handle : UInt16) (p : Option (UInt16 × Bytes)) : Option Bytes :=
  (p.filter fun q => q.1 = handle).map Prod.snd

theorem emittedFor_self (handle : UInt16) (e : Option Bytes) : emittedFor handle (e.map fun q => (handle, q)) = e := by
  cases e with
  | none => rfl
  | some q => simp [emittedFor]

theorem emittedFor_other {handle other : UInt16} (h : other ≠ handle) (e : Option Bytes) :
    emittedFor handle (e.map fun q => (other, q)) = none := by
  cases e with
  | none => rfl
  | some q => simp [emittedFor, h]

/-- The packets of a connection in a run. -/
def aclReceived (handle : UInt16) (h : List (Step AclConnections AclInput)) : List Bytes :=
  h.flatMap fun x => (x.input.packetFor handle).toList

/-- What L2CAP gets of a connection in a run. -/
def aclEmitted (handle : UInt16) (h : List (Step AclConnections AclInput)) : List Bytes :=
  h.flatMap fun x => ((aclStep x.pre x.input).bind fun r => emittedFor handle r.2).toList

/-- Whatever comes, there is a run. -/
theorem aclRun_exists (s₀ : AclConnections) (is : List AclInput) :
    ∃ h s, AclRun s₀ h s ∧ h.map Step.input = is := by
  induction is generalizing s₀ with
  | nil => exact ⟨[], s₀, .nil, rfl⟩
  | cons i is ih =>
      have hsome : (aclStep s₀ i).isSome := by
        cases i with
        | link handle c => rfl
        | packet packet size => exact aclHandler_isSome s₀ packet size
      obtain ⟨⟨s, p⟩, hstep⟩ := Option.isSome_iff_exists.mp hsome
      obtain ⟨h, s', hr, hinputs⟩ := ih s
      have hone : AclRun s₀ [⟨s₀, i, s⟩] s := Run.nil.snoc ⟨p, hstep⟩
      exact ⟨_, s', hone.append hr, by rw [List.map_append, hinputs]; rfl⟩

theorem aclReceived_snoc (handle : UInt16) (h : List (Step AclConnections AclInput))
    (x : Step AclConnections AclInput) :
    aclReceived handle (h ++ [x]) = aclReceived handle h ++ (x.input.packetFor handle).toList := by
  rw [aclReceived, List.flatMap_append, List.flatMap_singleton]
  rfl

theorem aclEmitted_snoc {s s' : AclConnections} {i : AclInput} {p : Option (UInt16 × Bytes)} (handle : UInt16)
    (h : List (Step AclConnections AclInput)) (hstep : aclStep s i = some (s', p)) :
    aclEmitted handle (h ++ [⟨s, i, s'⟩]) = aclEmitted handle h ++ (emittedFor handle p).toList := by
  rw [aclEmitted, List.flatMap_append, List.flatMap_singleton, hstep]
  rfl

section

variable {handle : UInt16} {s s₀ s' : AclConnections} {c : AclConnection} {i : AclInput}
  {p : Option (UInt16 × Bytes)} {h : List (Step AclConnections AclInput)}

/-- A step is one of the connection, or it is left as it is. -/
theorem aclStep_cases (hs : s handle = some c) (hkeeps : i.Keeps handle) (hstep : aclStep s i = some (s', p)) :
    (∃ m c', i.packetFor handle = some m ∧ aclFragment c m = some (c', emittedFor handle p) ∧ s' handle = some c') ∨
      (i.packetFor handle = none ∧ emittedFor handle p = none ∧ s' handle = some c) := by
  cases i with
  | link other c' =>
      obtain ⟨rfl, rfl⟩ := Prod.mk.inj (Option.some.inj hstep)
      exact .inr ⟨rfl, rfl, by rw [Function.update_of_ne (Ne.symm hkeeps), hs]⟩
  | packet m size =>
      have hfor : AclInput.packetFor handle (.packet m size) =
          if readAclConnectionHandle m = handle ∧ readAclLength m + 4 = size then some m else none := rfl
      rw [aclStep, aclHandler] at hstep
      by_cases hhandle : readAclConnectionHandle m = handle
      · rw [hhandle, hs] at hstep
        by_cases hsize : readAclLength m + 4 = size
        · obtain ⟨⟨c', e⟩, hr, h⟩ := Option.map_eq_some_iff.mp (by simpa only [if_pos hsize] using hstep)
          obtain ⟨rfl, rfl⟩ := Prod.mk.inj h
          refine .inl ⟨m, c', by rw [hfor, if_pos ⟨hhandle, hsize⟩], ?_, Function.update_self ..⟩
          rw [hr, emittedFor_self]
        · obtain ⟨rfl, rfl⟩ := Prod.mk.inj (Option.some.inj (by simpa only [if_neg hsize] using hstep))
          exact .inr ⟨by rw [hfor, if_neg fun h => hsize h.2], rfl, hs⟩
      · -- a packet of another connection
        refine .inr ⟨by rw [hfor, if_neg fun h => hhandle h.1], ?_⟩
        split at hstep
        · obtain ⟨rfl, rfl⟩ := Prod.mk.inj (Option.some.inj hstep)
          exact ⟨rfl, hs⟩
        · split at hstep
          · obtain ⟨r, hr, h⟩ := Option.map_eq_some_iff.mp hstep
            obtain ⟨rfl, rfl⟩ := Prod.mk.inj h
            exact ⟨emittedFor_other hhandle r.2, by rw [Function.update_of_ne (Ne.symm hhandle), hs]⟩
          · obtain ⟨rfl, rfl⟩ := Prod.mk.inj (Option.some.inj hstep)
            exact ⟨rfl, hs⟩

/-- In a run a connection makes of its packets what it makes of them alone. -/
theorem aclRun_feed (hs : s₀ handle = some c) (hr : AclRun s₀ h s) (hkeeps : ∀ x ∈ h, x.input.Keeps handle) :
    ∃ c', s handle = some c' ∧ feedAcl c (aclReceived handle h) = some (c', aclEmitted handle h) := by
  induction hr with
  | nil => exact ⟨c, hs, rfl⟩
  | @snoc h s s' i hr hstep ih =>
      obtain ⟨c', hs', hfeed⟩ := ih fun x hx => hkeeps x (List.mem_append_left _ hx)
      obtain ⟨p, hstep⟩ := hstep
      rw [aclEmitted_snoc handle h hstep, aclReceived_snoc, feedAcl_append hfeed]
      rcases aclStep_cases hs' (hkeeps ⟨s, i, s'⟩ (by simp)) hstep with
        ⟨m, c'', hfor, hfragment, hs''⟩ | ⟨hfor, hnone, hs''⟩
      · refine ⟨c'', hs'', ?_⟩
        rw [hfor, Option.toList_some, feedAcl, hfragment]
        simp [feedAcl]
      · refine ⟨c', hs'', ?_⟩
        rw [hfor, hnone]
        rfl

/-- **L2CAP packets are put together**: when the packets that a connection gets are the fragments of L2CAP packets, one
    after the other, each all of them or the first few, L2CAP gets those that are complete and fit in the buffer, in
    order and once, and nothing else. Whatever the other connections get in between makes no difference. -/
theorem acl_reassembled {cuts : List AclCut} (hs : s₀ handle = some c) (hr : AclRun s₀ h s)
    (hkeeps : ∀ x ∈ h, x.input.Keeps handle) (hvalid : ∀ cut ∈ cuts, cut.Valid)
    (hcuts : List.Forall₂ (· <+: ·) (cuts.flatMap AclCut.packets) (aclReceived handle h)) :
    aclEmitted handle h = (cuts.filter fun cut => cut.Deliverable).map AclCut.whole := by
  obtain ⟨c', -, hfeed⟩ := aclRun_feed hs hr hkeeps
  obtain ⟨c'', hfeed'⟩ := feed_cuts hvalid hcuts c
  rw [hfeed] at hfeed'
  exact (Prod.mk.inj (Option.some.inj hfeed')).2

/-- A packet for a channel in two fragments, and one that is given up behind its first fragment. -/
def channelCuts : List AclCut :=
  [⟨0x2001, [4, 0, 0x40, 0], [(0x1001, [1, 2, 3, 4])]⟩, ⟨0x2001, [9, 0, 0x40, 0, 5], []⟩]

theorem channelCuts_valid : ∀ cut ∈ channelCuts, cut.Valid := by
  have hfirst : (channelCuts[0]).Valid := by constructor <;> decide
  have hsecond : (channelCuts[1]).Valid := by constructor <;> decide
  intro cut hcut
  rcases List.mem_cons.mp hcut with rfl | hcut
  · exact hfirst
  · obtain rfl := List.mem_singleton.mp hcut
    exact hsecond

/-- Connection 1 is open, with an empty buffer. -/
def oneConnection : AclConnections := Function.update (fun _ => none) 1 (some ⟨Block.zero _, 0, 0⟩)

/-- A fragment of connection 2 comes in between, and is dropped. -/
theorem acl_reassembled_two : ∃ h s, AclRun oneConnection h s ∧
    aclEmitted 1 h = [[0x01, 0x20, 8, 0, 4, 0, 0x40, 0, 1, 2, 3, 4]] := by
  obtain ⟨h, s, hr, hinputs⟩ := aclRun_exists oneConnection
    [.packet [0x01, 0x20, 4, 0, 4, 0, 0x40, 0] 8, .packet [0x02, 0x10, 1, 0, 7] 5,
      .packet [0x01, 0x10, 4, 0, 1, 2, 3, 4] 8, .packet [0x01, 0x20, 5, 0, 9, 0, 0x40, 0, 5] 9]
  have hkeeps : ∀ i ∈ h.map Step.input, i.Keeps 1 := by
    rw [hinputs]
    simp [AclInput.Keeps]
  have hreceived : aclReceived 1 h = channelCuts.flatMap AclCut.packets := by
    have hmap : aclReceived 1 h = (h.map Step.input).flatMap fun i => (i.packetFor 1).toList := by
      rw [List.flatMap_map]
      rfl
    rw [hmap, hinputs]
    decide
  refine ⟨h, s, hr, (acl_reassembled (c := ⟨Block.zero _, 0, 0⟩) (Function.update_self ..) hr
    (fun x hx => hkeeps _ (List.mem_map_of_mem hx)) channelCuts_valid ?_).trans rfl⟩
  rw [hreceived]
  exact List.forall₂_same.mpr fun m _ => List.prefix_refl m

end

end Showcase.Btstack
