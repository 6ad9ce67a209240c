import Showcase.Btstack.SdpTransfer
import Showcase.Lib.Registry
import Showcase.Lib.Writes

/-!
# `Btstack.SdpRecords` — the service records of the daemon's clients

`daemon_sdp_create_and_register_service` builds a record in memory of its own: a new handle, and the attributes of the
client's record without the one for the handle. The daemon keeps the handles of each client, and takes the records of a
client out when it goes.

`Registry` is what this is for: a list of records with the client that each belongs to. `SdpDaemon.step` refines it in
every run that does not use up the handles (`Refines.step`), so that the SDP server serves these records and no others.

## Contents
- `deAddNumber`, `sdpAppendAttributesInAttributeIDList` — a sequence in memory grows at its end;
- `daemonSdpCreateAndRegisterService` — with what it registers, `create_registers`;
- `SdpDaemon`, `Registry` — the requests of clients, and what they come to;
- **`services_found`** — what a phone finds in any state that is reached.
-/

namespace Showcase.Btstack

open Lib DataElement

/-! ## A sequence in memory -/

/-- The number of two bytes at a place in memory. -/
def memRead16 (m : Bytes) (i : Nat) : Nat := ofBE ((m.drop i).take 2)

/-- `de_store_descriptor`. -/
def deStoreDescriptor (m : Bytes) (i type size : Nat) : Option Bytes := store m i (UInt8.ofNat (type * 8 + size))

/-- `de_create_sequence`. -/
def deCreateSequence (m : Bytes) : Option Bytes := stores m 0 (header typeSequence 6 0)

/-- The bytes of a number in `de_add_number`. -/
def numberBytes (type size value : Nat) : Bytes :=
  if size = 0 then if type ≠ typeNil then [UInt8.ofNat value] else []
  else if size = 1 then toBE 2 value
  else if size = 2 then toBE 4 value
  else []

/-- `de_add_number`. -/
def deAddNumber (m : Bytes) (type size value : Nat) : Option Bytes :=
  let dataSize := memRead16 m 1
  (deStoreDescriptor m (3 + dataSize) type size).bind fun m =>
    (stores m (4 + dataSize) (numberBytes type size value)).bind fun m =>
      stores m 1 (toBE 2 (dataSize + (1 + (numberBytes type size value).length)))

/-- `sdp_traversal_append_attributes`; no result is a store outside the memory. -/
def sdpTraversalAppendAttributes (fuel : Nat) (attributeIDList : Ptr) (maxBytes attributeID : Nat) (attributeValue : Ptr)
    (buffer : Bytes) : Option (Bytes × Bool) :=
  match sdpAttributeListConstainsId fuel attributeIDList attributeID with
  | none => none
  | some false => some (buffer, false)
  | some true =>
      let dataSize := memRead16 buffer 1
      let attributeLen := deGetLen attributeValue
      if 3 + (dataSize : Int) + (3 + attributeLen) ≤ maxBytes then
        ((deAddNumber buffer typeUint 1 attributeID).bind fun buffer =>
          (stores buffer (3 + (dataSize + 3)) (attributeValue.read 0 attributeLen.toNat)).bind fun buffer =>
            stores buffer 1 (toBE 2 (uint16 ((dataSize + 3 : Nat) + attributeLen)))).map (·, false)
      else some (buffer, true)

/-- `sdp_append_attributes_in_attributeIDList`. -/
def sdpAppendAttributesInAttributeIDList (fuel : Nat) (record attributeIDList : Ptr) (maxBytes : Nat) (buffer : Bytes) :
    Option Bytes :=
  sdpAttributeListTraverseSequence fuel record (sdpTraversalAppendAttributes fuel attributeIDList maxBytes) buffer

/-- A sequence with a length of two bytes. -/
def sequenceBytes (t : Bytes) : Bytes := header typeSequence 6 t.length ++ t

section Memory

variable {m t : Bytes}

theorem sequenceBytes_length (t : Bytes) : (sequenceBytes t).length = 3 + t.length := by
  rw [sequenceBytes, List.length_append, header_length]
  rfl

theorem memRead16_sequence (hm : sequenceBytes t <+: m) (ht : t.length < 65536) : memRead16 m 1 = t.length := by
  obtain ⟨rest, rfl⟩ := hm
  have hdrop : (sequenceBytes t ++ rest).drop 1 = toBE 2 t.length ++ (t ++ rest) := by
    rw [sequenceBytes, List.append_assoc]
    rfl
  rw [memRead16, hdrop, List.take_left' (toBE_length 2 _), ofBE_toBE]
  exact Nat.mod_eq_of_lt ht

/-- **A sequence grows** when something is stored behind it and its length is set. -/
theorem sequence_grows (piece : Bytes) (hm : sequenceBytes t <+: m) (hlen : 3 + t.length + piece.length ≤ m.length) :
    ∃ m₁ m₂, stores m (3 + t.length) piece = some m₁ ∧ sequenceBytes t ++ piece <+: m₁ ∧ m₁.length = m.length ∧
      stores m₁ 1 (toBE 2 (t.length + piece.length)) = some m₂ ∧ m₂.length = m.length ∧
      sequenceBytes (t ++ piece) <+: m₂ := by
  have hfull : (sequenceBytes t).length + piece.length ≤ m.length := by
    rw [sequenceBytes_length]
    exact hlen
  obtain ⟨m₁, hfirst, hlen₁, hm₁⟩ := stores_behind hm hfull
  rw [sequenceBytes_length] at hfirst
  have hparts : [UInt8.ofNat (typeSequence * 8 + 6)] ++ toBE 2 t.length ++ (t ++ piece) <+: m₁ := by
    have heq : sequenceBytes t ++ piece = [UInt8.ofNat (typeSequence * 8 + 6)] ++ toBE 2 t.length ++ (t ++ piece) := by
      rw [sequenceBytes, List.append_assoc]
      rfl
    rw [← heq]
    exact hm₁
  obtain ⟨m₂, hsecond, hlen₂, hm₂⟩ := stores_within (toBE 2 (t.length + piece.length)) hparts
    (by rw [toBE_length, toBE_length])
  refine ⟨m₁, m₂, hfirst, hm₁, hlen₁, hsecond, hlen₂.trans hlen₁, ?_⟩
  have heq : sequenceBytes (t ++ piece) =
      [UInt8.ofNat (typeSequence * 8 + 6)] ++ toBE 2 (t.length + piece.length) ++ (t ++ piece) := by
    rw [sequenceBytes, List.length_append]
    rfl
  rw [heq]
  exact hm₂

theorem deCreateSequence_spec (hlen : 3 ≤ m.length) :
    ∃ m', deCreateSequence m = some m' ∧ m'.length = m.length ∧ sequenceBytes [] <+: m' := by
  have hempty : ([] : Bytes) <+: m := List.nil_prefix
  have hthree : ([] : Bytes).length + (header typeSequence 6 0).length ≤ m.length := by
    rw [header_length]
    exact hlen
  obtain ⟨m', hstores, hlen', hm'⟩ := stores_behind hempty hthree
  exact ⟨m', hstores, hlen', hm'⟩

/-- A number is put behind the others. -/
theorem deAddNumber_spec (type size value : Nat) (hm : sequenceBytes t <+: m) (ht : t.length < 65536)
    (hlen : 3 + t.length + (1 + (numberBytes type size value).length) ≤ m.length) :
    ∃ m', deAddNumber m type size value = some m' ∧ m'.length = m.length ∧
      sequenceBytes (t ++ UInt8.ofNat (type * 8 + size) :: numberBytes type size value) <+: m' := by
  have hpiece : 3 + t.length + (UInt8.ofNat (type * 8 + size) :: numberBytes type size value).length ≤ m.length := by
    rw [List.length_cons]
    omega
  obtain ⟨m₁, m₂, hfirst, -, -, hsecond, hlen₂, hm₂⟩ := sequence_grows _ hm hpiece
  have hfour : 3 + t.length + 1 = 4 + t.length := by omega
  have hsum : 1 + (numberBytes type size value).length =
      (UInt8.ofNat (type * 8 + size) :: numberBytes type size value).length := by
    rw [List.length_cons, Nat.add_comm]
  refine ⟨m₂, ?_, hlen₂, hm₂⟩
  rw [stores, hfour] at hfirst
  rw [deAddNumber, memRead16_sequence hm ht, deStoreDescriptor]
  cases hstore : store m (3 + t.length) (UInt8.ofNat (type * 8 + size)) with
  | none =>
      rw [hstore] at hfirst
      cases hfirst
  | some m' =>
      rw [hstore, Option.bind_some] at hfirst
      rw [Option.bind_some, hfirst, Option.bind_some, hsum]
      exact hsecond

end Memory

/-! ## The attributes of the client's record -/

/-- What the traversal makes of an attribute: it is put behind the others while there is room. -/
def appendStep (ids : List Element) (maxBytes : Nat) (a : UInt16 × Element) (t : Bytes) : Bytes × Bool :=
  if ids.any (covers a.1) then
    if 3 + t.length + (attributeBytes a).length ≤ maxBytes then (t ++ attributeBytes a, false) else (t, true)
  else (t, false)

theorem filteredBytes_cons (ids : List Element) (a : UInt16 × Element) (attributes : List (UInt16 × Element)) :
    filteredBytes ids (a :: attributes) =
      (if ids.any (covers a.1) then attributeBytes a else []) ++ filteredBytes ids attributes := by
  rw [filteredBytes, selected, List.filter_cons, filteredBytes, selected]
  split
  · rw [List.flatMap_cons]
  · rw [List.nil_append]

/-- With room for all selected attributes, all are put behind the others. -/
theorem foldUntil_appendStep (ids : List Element) (maxBytes : Nat) (attributes : List (UInt16 × Element)) (t : Bytes)
    (hroom : 3 + t.length + (filteredBytes ids attributes).length ≤ maxBytes) :
    foldUntil (appendStep ids maxBytes) attributes t = t ++ filteredBytes ids attributes := by
  induction attributes generalizing t with
  | nil => exact (List.append_nil t).symm
  | cons a attributes ih =>
      rw [filteredBytes_cons] at hroom ⊢
      rw [foldUntil, appendStep]
      cases hsel : ids.any (covers a.1) with
      | false =>
          rw [hsel, if_neg Bool.false_ne_true, List.nil_append] at hroom
          exact ih t hroom
      | true =>
          rw [hsel, if_pos rfl, List.length_append] at hroom
          have hfits : 3 + t.length + (attributeBytes a).length ≤ maxBytes := by omega
          simp only [if_true, if_pos hfits, Bool.false_eq_true, if_false]
          rw [ih, List.append_assoc]
          rw [List.length_append]
          omega

section Append

variable {fuel size : Nat} {attributeIDList record : Ptr} {ids : List Element} {attributes : List (UInt16 × Element)}
  {m t : Bytes}

theorem sdpTraversalAppendAttributes_eq (hids : ElementAt attributeIDList (.sequence size ids))
    (hidsFuel : ids.length < fuel) {a : UInt16 × Element} {value : Ptr} (hwf : a.2.wf = true)
    (hvalue : value.Holds a.2.encode) (hlen : a.2.encode.length < 65536) (hm : sequenceBytes t <+: m)
    (hmax : m.length < 65536) :
    ∃ m', sdpTraversalAppendAttributes fuel attributeIDList m.length a.1.toNat value m =
        some (m', (appendStep ids m.length a t).2) ∧
      m'.length = m.length ∧ sequenceBytes (appendStep ids m.length a t).1 <+: m' := by
  have hle := hm.length_le
  rw [sequenceBytes_length] at hle
  have ht : t.length < 65536 := by omega
  rw [sdpTraversalAppendAttributes, sdpAttributeListConstainsId_eq hids.wf hids.holds hids.short hidsFuel, appendStep]
  cases hsel : ids.any (covers a.1) with
  | false => exact ⟨m, rfl, rfl, hm⟩
  | true =>
      have hlenInt := deGetLen_eq hwf hvalue (Nat.lt_trans hlen (by decide))
      have hbytes := attributeBytes_length a
      simp only [memRead16_sequence hm ht, hlenInt, if_true]
      by_cases hroom : 3 + t.length + (attributeBytes a).length ≤ m.length
      · have hroomInt : 3 + (t.length : Int) + (3 + (a.2.encode.length : Int)) ≤ m.length := by omega
        rw [if_pos hroom, if_pos hroomInt]
        have hnumber : (numberBytes typeUint 1 a.1.toNat).length = 2 := toBE_length 2 _
        obtain ⟨m₁, hadd, hlen₁, hm₁⟩ := deAddNumber_spec typeUint 1 a.1.toNat hm ht (by omega)
        obtain ⟨m₂, m₃, hcopy, -, -, hlength, hlen₃, hm₃⟩ := sequence_grows a.2.encode hm₁ (by
          rw [List.length_append, List.length_cons, hnumber]
          omega)
        rw [List.length_append, List.length_cons, hnumber] at hcopy hlength
        have hread : value.read 0 ((a.2.encode.length : Int).toNat) = a.2.encode := hvalue
        have htotal : uint16 ((t.length + 3 : Nat) + (a.2.encode.length : Int)) = t.length + (2 + 1) + a.2.encode.length := by
          rw [uint16]
          omega
        refine ⟨m₃, ?_, hlen₃.trans hlen₁, ?_⟩
        · rw [hadd, Option.bind_some, hread, htotal, hcopy, Option.bind_some, hlength, Option.map_some]
        · have hwhole : t ++ UInt8.ofNat (typeUint * 8 + 1) :: numberBytes typeUint 1 a.1.toNat ++ a.2.encode =
              t ++ attributeBytes a := by
            rw [List.append_assoc]
            rfl
          rw [← hwhole]
          exact hm₃
      · have hroomInt : ¬ 3 + (t.length : Int) + (3 + (a.2.encode.length : Int)) ≤ m.length := by omega
        rw [if_neg hroom, if_neg hroomInt]
        exact ⟨m, rfl, rfl, hm⟩

/-- Memory of `n` bytes with a sequence at its front. -/
def Keeps (n : Nat) (m t : Bytes) : Prop := m.length = n ∧ sequenceBytes t <+: m

/-- **The selected attributes are put behind what is there**, when there is room for them all. -/
theorem sdpAppendAttributesInAttributeIDList_eq (hrecord : ElementAt record (attributeList attributes))
    (hids : ElementAt attributeIDList (.sequence size ids)) (hfuel : attributes.length < fuel)
    (hidsFuel : ids.length < fuel) (hm : sequenceBytes t <+: m) (hmax : m.length < 65536)
    (hroom : 3 + t.length + (filteredBytes ids attributes).length ≤ m.length) :
    ∃ m', sdpAppendAttributesInAttributeIDList fuel record attributeIDList m.length m = some m' ∧
      m'.length = m.length ∧ sequenceBytes (t ++ filteredBytes ids attributes) <+: m' := by
  have hinit : Keeps m.length m t := ⟨rfl, hm⟩
  have hrel := sdpAttributeListTraverseSequence_rel (f := appendStep ids m.length) (Keeps m.length) hrecord.wf
    hrecord.holds hfuel hinit
    (fun a ha q c t ⟨hc, ht⟩ hq => by
      have hstep := sdpTraversalAppendAttributes_eq hids hidsFuel (wf_values hrecord.wf a ha) hq
        (value_short hrecord.wf ha) ht (by omega)
      rw [hc] at hstep
      exact hstep)
  rw [foldUntil_appendStep ids m.length attributes t hroom] at hrel
  exact hrel

end Append

/-! ## Registering -/

/-- `removeServiceRecordHandleAttributeIDList`. -/
def removeServiceRecordHandleAttributeIDList : Bytes := [0x36, 0x00, 0x05, 0x0A, 0x00, 0x01, 0xFF, 0xFF]

/-- `daemon_sdp_create_and_register_service`, with the memory there is for the record and for its item; 0 is no handle.
    `place` is where the new record is. -/
def daemonSdpCreateAndRegisterService (fuel : Nat) (A : Allocator) (memory : Bool) (place : Bytes → Ptr) (record : Ptr)
    (s : SdpServer) : Option (Nat × SdpServer) :=
  match sdpCreateServiceRecordHandle fuel s with
  | none => none
  | some (recordHandle, s) =>
      let recordSize := uint16 (3 + (3 + 5) + deGetDataSize record : Nat)
      match A.alloc recordSize with
      | none => some (0, s)
      | some newRecord =>
          match (((deCreateSequence newRecord).bind fun m => deAddNumber m typeUint 1 0).bind fun m =>
            deAddNumber m typeUint 2 recordHandle).bind fun m =>
              sdpAppendAttributesInAttributeIDList fuel record (Ptr.of removeServiceRecordHandleAttributeIDList)
                recordSize m with
          | none => none
          | some newRecord =>
              match sdpRegisterService fuel (place newRecord) memory s with
              | none => none
              | some (.success, s) => some (recordHandle, s)
              | some (_, s) => some (0, s)

/-- The attributes of the record that is registered: the handle, and the client's attributes without one. -/
def newAttributes (handle : UInt32) (attributes : List (UInt16 × Element)) : List (UInt16 × Element) :=
  (0, .value typeUint 2 (toBE 4 handle.toNat)) :: attributes.filter (·.1 != 0)

section Create

variable {fuel : Nat} {attributes : List (UInt16 × Element)} {record : Ptr} {s : SdpServer}

/-- The list of ids that leaves the handle out. -/
def otherIds : List Element := [.value typeUint 2 [0x00, 0x01, 0xFF, 0xFF]]

theorem otherIds_at : ElementAt (Ptr.of removeServiceRecordHandleAttributeIDList) (.sequence 6 otherIds) where
  wf := by decide
  holds := Ptr.holds_of _
  short := by decide

theorem covers_otherIds (id : UInt16) : otherIds.any (covers id) = (id != 0) := by
  have hlt : id.toNat ≤ 65535 := by
    have := id.toNat_lt
    omega
  have hlow : ofBE (([0x00, 0x01, 0xFF, 0xFF] : Bytes).take 2) = 1 := by decide
  have hhigh : ofBE (([0x00, 0x01, 0xFF, 0xFF] : Bytes).drop 2) = 65535 := by decide
  have hcovers : covers id (.value typeUint 2 [0x00, 0x01, 0xFF, 0xFF]) =
      (decide (1 ≤ id.toNat) && decide (id.toNat ≤ 65535)) := by
    simp only [covers, Element.type, Element.size, Element.data, hlow, hhigh, beq_self_eq_true, Bool.true_and,
      show ((2 : Nat) == 1) = false from rfl, Bool.false_and, Bool.false_or]
  rw [otherIds, List.any_cons, List.any_nil, Bool.or_false, hcovers, decide_eq_true hlt, Bool.and_true, Bool.eq_iff_iff,
    decide_eq_true_iff, bne_iff_ne, ne_eq, ← UInt16.toNat_inj]
  show 1 ≤ id.toNat ↔ ¬ id.toNat = 0
  omega

theorem selected_otherIds (attributes : List (UInt16 × Element)) :
    selected otherIds attributes = attributes.filter (·.1 != 0) := by
  rw [selected]
  exact List.filter_congr fun a _ => covers_otherIds a.1

theorem flatMap_newAttributes (handle : UInt32) (attributes : List (UInt16 × Element)) :
    (newAttributes handle attributes).flatMap attributeBytes =
      (([] ++ UInt8.ofNat (typeUint * 8 + 1) :: numberBytes typeUint 1 0) ++
        UInt8.ofNat (typeUint * 8 + 2) :: numberBytes typeUint 2 handle.toNat) ++ filteredBytes otherIds attributes := by
  rw [newAttributes, List.flatMap_cons, filteredBytes, selected_otherIds]
  congr 1

/-- A sequence of attributes at the front of memory is an attribute list. -/
theorem attributeList_at {place : Bytes → Ptr} (hplace : ∀ b, (place b).Holds b) {m : Bytes}
    (hwf : ∀ a ∈ attributes, a.2.wf = true) (hm : sequenceBytes (attributes.flatMap attributeBytes) <+: m)
    (hmax : m.length < 65536) : ElementAt (place m) (attributeList attributes) := by
  have hle := hm.length_le
  rw [sequenceBytes_length] at hle
  have hencode : (attributeList attributes).encode = sequenceBytes (attributes.flatMap attributeBytes) := by
    rw [attributeList, Element.encode, encodeAll_attributeElements, sequenceBytes]
  refine ⟨?_, ?_, ?_⟩
  · rw [attributeList, Element.wf, Bool.and_eq_true, decide_eq_true_iff, Element.wfAll_iff, encodeAll_attributeElements]
    refine ⟨⟨by decide, by decide, ?_⟩, ?_⟩
    · show (attributes.flatMap attributeBytes).length < 256 ^ 2
      omega
    · intro e he
      obtain ⟨a, ha, he⟩ := List.mem_flatMap.mp he
      rcases List.mem_cons.mp he with rfl | he
      · rw [Element.wf, toBE_length]
        decide
      · rw [List.mem_singleton.mp he]
        exact hwf a ha
  · obtain ⟨rest, rfl⟩ := hm
    rw [hencode]
    exact (hplace _).left
  · rw [hencode, sequenceBytes_length]
    omega

/-- The handle of a new record is read from its first attribute. -/
theorem sdpGetServiceRecordHandle_eq {handle : UInt32}
    (hrecord : ElementAt record (attributeList (newAttributes handle attributes)))
    (hfuel : (newAttributes handle attributes).length < fuel) :
    sdpGetServiceRecordHandle fuel record = some handle.toNat := by
  obtain ⟨found, hfound, hrel⟩ := sdpGetAttributeValueForAttributeId_eq hrecord hfuel bluetoothAttributeServiceRecordHandle
  have hfirst : ((newAttributes handle attributes).find? fun a => a.1 == bluetoothAttributeServiceRecordHandle) =
      some (0, .value typeUint 2 (toBE 4 handle.toNat)) := List.find?_cons_of_pos rfl
  rw [hfirst] at hrel
  cases hrel with
  | @some p _ hp =>
      obtain ⟨hholds, hwf⟩ := hp
      have htype : deGetElementType p = typeUint := deGetElementType_eq hwf hholds
      have hsize : deGetSizeType p = 2 := deGetSizeType_eq hwf hholds
      have hread := read_data hholds 0 4 (by rw [Element.data, toBE_length])
      have hvalue : p.read 1 4 = toBE 4 handle.toNat := by
        rw [List.drop_zero, List.take_of_length_le (by rw [Element.data, toBE_length])] at hread
        exact hread
      simp only [sdpGetServiceRecordHandle, hfound, htype, hsize, ne_eq, not_true_eq_false, if_false, bigEndianRead32,
        hvalue, ofBE_toBE]
      rw [Nat.mod_eq_of_lt (by exact handle.toNat_lt : handle.toNat < 256 ^ 4)]

theorem sdpCreateServiceRecordHandle_eq (hfree : sdpGetRecordItemForHandle s.serviceRecords s.nextServiceRecordHandle = none)
    (hpos : 0 < s.nextServiceRecordHandle) (hfuel : 0 < fuel) :
    sdpCreateServiceRecordHandle fuel s = some (s.nextServiceRecordHandle,
      { s with nextServiceRecordHandle := (s.nextServiceRecordHandle + 1) % 2 ^ 32 }) := by
  obtain ⟨n, rfl⟩ := Nat.exists_eq_succ_of_ne_zero (Nat.ne_of_gt hfuel)
  have hne : ¬ s.nextServiceRecordHandle = 0 := Nat.ne_of_gt hpos
  simp only [sdpCreateServiceRecordHandle, hfree, Option.isSome_none, Bool.false_eq_true, if_false, if_neg hne]

theorem filteredBytes_length_le (ids : List Element) (attributes : List (UInt16 × Element)) :
    (filteredBytes ids attributes).length ≤ (attributes.flatMap attributeBytes).length :=
  (List.Sublist.flatMap List.filter_sublist attributeBytes).length_le

theorem newAttributes_length_le (handle : UInt32) (attributes : List (UInt16 × Element)) :
    (newAttributes handle attributes).length ≤ attributes.length + 1 := by
  rw [newAttributes, List.length_cons]
  exact Nat.succ_le_succ (List.length_filter_le _ _)

/-- The record in memory: a handle, and the client's attributes without one. -/
theorem record_built (hrecord : ElementAt record (attributeList attributes)) (hfuel : attributes.length + 1 < fuel)
    (handle : UInt32) {m : Bytes} (hm : m.length = 11 + (attributes.flatMap attributeBytes).length)
    (hmax : m.length < 65536) :
    ∃ m', (((deCreateSequence m).bind fun m => deAddNumber m typeUint 1 0).bind fun m =>
        deAddNumber m typeUint 2 handle.toNat).bind (fun m =>
          sdpAppendAttributesInAttributeIDList fuel record (Ptr.of removeServiceRecordHandleAttributeIDList)
            (11 + (attributes.flatMap attributeBytes).length) m) = some m' ∧
      m'.length = m.length ∧ sequenceBytes ((newAttributes handle attributes).flatMap attributeBytes) <+: m' := by
  have hle := filteredBytes_length_le otherIds attributes
  have hid : (numberBytes typeUint 1 0).length = 2 := toBE_length 2 _
  have hhandle : (numberBytes typeUint 2 handle.toNat).length = 4 := toBE_length 4 _
  obtain ⟨m₁, hcreate, hlen₁, hm₁⟩ := deCreateSequence_spec (by omega : 3 ≤ m.length)
  obtain ⟨m₂, hfirst, hlen₂, hm₂⟩ := deAddNumber_spec typeUint 1 0 hm₁ (by decide) (by
    rw [hid, List.length_nil]
    omega)
  obtain ⟨m₃, hsecond, hlen₃, hm₃⟩ := deAddNumber_spec typeUint 2 handle.toNat hm₂ (by
    rw [List.nil_append, List.length_cons, hid]
    decide) (by
    rw [List.nil_append, List.length_cons, hid, hhandle]
    omega)
  have hlen : m₃.length = 11 + (attributes.flatMap attributeBytes).length := by omega
  obtain ⟨m₄, hothers, hlen₄, hm₄⟩ := sdpAppendAttributesInAttributeIDList_eq hrecord otherIds_at
    (Nat.lt_of_succ_lt hfuel) (by rw [otherIds, List.length_singleton]; omega) hm₃ (by omega) (by
      rw [List.length_append, List.nil_append, List.length_cons, List.length_cons, hid, hhandle]
      omega)
  refine ⟨m₄, ?_, by omega, ?_⟩
  · rw [hcreate, Option.bind_some, hfirst, Option.bind_some, hsecond, Option.bind_some, ← hlen]
    exact hothers
  · rw [flatMap_newAttributes]
    exact hm₄

/-- There is memory for a record of this size, and for its item. -/
def granted (A : Allocator) (memory : Bool) (size : Nat) : Bool := (A.alloc size).isSome && memory

/-- The server when the next handle is gone. -/
def takeHandle (s : SdpServer) : SdpServer :=
  { s with nextServiceRecordHandle := (s.nextServiceRecordHandle + 1) % 2 ^ 32 }

/-- **A record is registered** under the next handle, where there is memory for it. -/
theorem create_registers (A : Allocator) (memory : Bool) {place : Bytes → Ptr} (hplace : ∀ b, (place b).Holds b)
    (hrecord : ElementAt record (attributeList attributes)) (hfuel : attributes.length + 2 < fuel)
    (hsize : 11 + (attributes.flatMap attributeBytes).length < 65536)
    (hfree : sdpGetRecordItemForHandle s.serviceRecords s.nextServiceRecordHandle = none)
    (hnext : maxReservedServiceRecordHandle < s.nextServiceRecordHandle) (hmax : s.nextServiceRecordHandle < 2 ^ 32) :
    (granted A memory (11 + (attributes.flatMap attributeBytes).length) = true ∧
      ∃ item, daemonSdpCreateAndRegisterService fuel A memory place record s =
          some (s.nextServiceRecordHandle, { takeHandle s with serviceRecords := item :: s.serviceRecords }) ∧
        Registered item ⟨UInt32.ofNat s.nextServiceRecordHandle,
          newAttributes (UInt32.ofNat s.nextServiceRecordHandle) attributes⟩) ∨
      (granted A memory (11 + (attributes.flatMap attributeBytes).length) = false ∧
        daemonSdpCreateAndRegisterService fuel A memory place record s = some (0, takeHandle s)) := by
  have hcreate := sdpCreateServiceRecordHandle_eq hfree (Nat.lt_of_le_of_lt (Nat.zero_le _) hnext)
    (by omega : 0 < fuel)
  have hdata : deGetDataSize record = (attributes.flatMap attributeBytes).length := by
    have h := deGetDataSize_eq hrecord.wf hrecord.holds
    rw [attributeList, Element.data, encodeAll_attributeElements] at h
    exact h
  have hrecordSize : uint16 (3 + (3 + 5) + deGetDataSize record : Nat) =
      11 + (attributes.flatMap attributeBytes).length := by
    rw [hdata, uint16_small (by omega)]
  have hhandle : (UInt32.ofNat s.nextServiceRecordHandle).toNat = s.nextServiceRecordHandle := by
    rw [UInt32.toNat_ofNat', Nat.mod_eq_of_lt hmax]
  simp only [daemonSdpCreateAndRegisterService, hcreate, hrecordSize, granted]
  cases halloc : A.alloc (11 + (attributes.flatMap attributeBytes).length) with
  | none => exact Or.inr ⟨rfl, rfl⟩
  | some newRecord =>
      have hlen := A.size _ _ halloc
      obtain ⟨m, hbuilt, hmlen, hm⟩ := record_built hrecord (by omega : attributes.length + 1 < fuel)
        (UInt32.ofNat s.nextServiceRecordHandle) hlen (by omega)
      rw [hhandle] at hbuilt
      have hat : ElementAt (place m)
          (attributeList (newAttributes (UInt32.ofNat s.nextServiceRecordHandle) attributes)) := by
        refine attributeList_at hplace ?_ hm (by omega)
        intro a ha
        rcases List.mem_cons.mp ha with rfl | ha
        · rw [Element.wf, toBE_length]
          decide
        · exact wf_values hrecord.wf a (List.mem_of_mem_filter ha)
      have hget := sdpGetServiceRecordHandle_eq hat (Nat.lt_of_le_of_lt (newAttributes_length_le _ _) (by omega : _ < fuel))
      rw [hhandle] at hget
      have hne : ¬ s.nextServiceRecordHandle = 0 := by omega
      have hrange : ¬ s.nextServiceRecordHandle ≤ maxReservedServiceRecordHandle := by omega
      simp only [hbuilt, sdpRegisterService, hget, if_neg hne, if_neg hrange, hfree, Option.isSome_none,
        Bool.false_eq_true, if_false, Option.isSome_some, Bool.true_and]
      cases memory with
      | false => exact Or.inr ⟨rfl, rfl⟩
      | true =>
          refine Or.inl ⟨rfl, ⟨s.nextServiceRecordHandle, place m⟩, rfl, ?_⟩
          exact ⟨hhandle.symm, hat⟩

end Create

/-! ## The clients of the daemon -/

/-- The SDP server, and the handles of each client (`sdp_record_handles`). -/
structure SdpDaemon where
  server : SdpServer
  clients : Registry Nat UInt32
  nextConnection : Nat

def SdpDaemon.init : SdpDaemon := ⟨SdpServer.init, [], 0⟩

/-- What the daemon may be asked; with it comes what memory there is. -/
inductive SdpInput where
  | connectionOpened (alloc : Bool)
  | connectionClosed (connection : Nat)
  | register (connection : Nat) (attributes : List (UInt16 × Element)) (A : Allocator) (memory alloc : Bool)
  | unregister (connection : Nat) (handle : UInt32)

/-- `daemon_sdp_close_connection`, and the client goes. -/
def daemonSdpCloseConnection (connection : Nat) (d : SdpDaemon) : SdpDaemon :=
  { d with
    server := (d.clients.keysOf connection).foldl (fun s handle => sdpUnregisterService handle.toNat s) d.server
    clients := d.clients.remove connection }

/-- `SDP_REGISTER_SERVICE_RECORD`, `SDP_UNREGISTER_SERVICE_RECORD`, and a client that comes or goes. A request is at a
    place in memory. -/
def SdpDaemon.step (fuel : Nat) (place : Bytes → Ptr) (d : SdpDaemon) : SdpInput → Option SdpDaemon
  | .connectionOpened alloc =>
      some { d with
        clients := if alloc then ⟨d.nextConnection, []⟩ :: d.clients else d.clients
        nextConnection := d.nextConnection + 1 }
  | .connectionClosed connection => some (daemonSdpCloseConnection connection d)
  | .register connection attributes A memory alloc =>
      match daemonSdpCreateAndRegisterService fuel A memory place (place (attributeList attributes).encode) d.server with
      | none => none
      | some (serviceRecordHandle, server) =>
          if serviceRecordHandle ≠ 0 ∧ alloc = true then
            some { d with
              server := server
              clients := d.clients.modify connection (Registry.insertKey (UInt32.ofNat serviceRecordHandle)) }
          else some { d with server := server }
  | .unregister connection handle =>
      some { d with
        server := sdpUnregisterService handle.toNat d.server
        clients := d.clients.modify connection (Registry.deleteKey handle) }

/-- The steps for some inputs. -/
def SdpDaemon.run (fuel : Nat) (place : Bytes → Ptr) : List SdpInput → SdpDaemon → Option SdpDaemon
  | [], d => some d
  | i :: is, d => (d.step fuel place i).bind (SdpDaemon.run fuel place is)

/-! ## What it is for

The registry has records where the daemon has items, and owners where it has lists of handles. Each request is shown
to do the same on both sides; what may fail for want of memory fails on both. -/

/-- The records, each with the client that it goes with; the next handle, and the clients that are connected. -/
structure ServiceRegistry where
  entries : List (Option Nat × ServiceRecord)
  nextHandle : Nat
  connections : List Nat
  nextConnection : Nat

def ServiceRegistry.init : ServiceRegistry := ⟨[], maxReservedServiceRecordHandle + 2, [], 0⟩

/-- The records of the registry. -/
def ServiceRegistry.records (r : ServiceRegistry) : List ServiceRecord := r.entries.map (·.2)

/-- A record that is registered is there until it is unregistered or its client goes; the newest is the first. -/
def ServiceRegistry.step (r : ServiceRegistry) : SdpInput → ServiceRegistry
  | .connectionOpened alloc =>
      { r with
        connections := if alloc then r.nextConnection :: r.connections else r.connections
        nextConnection := r.nextConnection + 1 }
  | .connectionClosed connection =>
      { r with
        entries := r.entries.filter fun e => e.1 != some connection
        connections := r.connections.erase connection }
  | .register connection attributes A memory alloc =>
      { r with
        entries :=
          if granted A memory (11 + (attributes.flatMap attributeBytes).length) then
            (if alloc ∧ connection ∈ r.connections then some connection else none,
              ⟨UInt32.ofNat r.nextHandle, newAttributes (UInt32.ofNat r.nextHandle) attributes⟩) :: r.entries
          else r.entries
        nextHandle := r.nextHandle + 1 }
  | .unregister _ handle => { r with entries := r.entries.filter fun e => e.2.handle != handle }

/-- An input with a well-formed record, for which the bound on the traversals is enough. -/
def SdpInput.Ok (fuel : Nat) : SdpInput → Prop
  | .register _ attributes _ _ _ =>
      (attributeList attributes).wf = true ∧ 11 + (attributes.flatMap attributeBytes).length < 65536 ∧
        (attributeList attributes).count + 2 ≤ fuel
  | _ => True

/-- The daemon has the records of the registry. -/
structure SdpDaemon.Refines (fuel : Nat) (d : SdpDaemon) (r : ServiceRegistry) : Prop where
  records : List.Forall₂ Registered d.server.serviceRecords r.records
  fuel : ∀ e ∈ r.entries, EnoughFor fuel e.2
  next : d.server.nextServiceRecordHandle = r.nextHandle
  reserved : maxReservedServiceRecordHandle < r.nextHandle
  below : ∀ e ∈ r.entries, e.2.handle.toNat < r.nextHandle
  distinct : (r.entries.map (·.2.handle)).Nodup
  connected : d.clients.map (·.id) = r.connections
  nodup : r.connections.Nodup
  nextConnection : d.nextConnection = r.nextConnection
  belowConnection : ∀ c ∈ r.connections, c < r.nextConnection
  owner : ∀ e ∈ r.entries, ∀ c, e.1 = some c → d.clients.Holds c e.2.handle
  owned : ∀ c handle, d.clients.Holds c handle → handle.toNat < r.nextHandle ∧
    ∀ e ∈ r.entries, e.2.handle = handle → e.1 = some c

section Refinement

variable {fuel : Nat} {place : Bytes → Ptr} {d : SdpDaemon} {r : ServiceRegistry}

theorem refines_init (fuel : Nat) : SdpDaemon.init.Refines fuel ServiceRegistry.init where
  records := List.Forall₂.nil
  fuel := by simp [ServiceRegistry.init]
  next := rfl
  reserved := by decide
  below := by simp [ServiceRegistry.init]
  distinct := List.nodup_nil
  connected := rfl
  nodup := List.nodup_nil
  nextConnection := rfl
  belowConnection := by simp [ServiceRegistry.init]
  owner := by simp [ServiceRegistry.init]
  owned := by
    rintro c handle ⟨e, he, -⟩
    exact absurd he List.not_mem_nil

/-- Taking a record out, on both sides. -/
theorem unregister_registered {items : List ServiceRecordItem} {entries : List (Option Nat × ServiceRecord)}
    (h : List.Forall₂ Registered items (entries.map (·.2))) (hdistinct : (entries.map (·.2.handle)).Nodup)
    (handle : UInt32) :
    List.Forall₂ Registered (items.eraseP fun item => item.serviceRecordHandle == handle.toNat)
      ((entries.filter fun e => e.2.handle != handle).map (·.2)) := by
  induction entries generalizing items with
  | nil =>
      cases h
      exact List.Forall₂.nil
  | cons e entries ih =>
      rw [List.map_cons] at h hdistinct
      cases h with
      | @cons item _ items _ hitem hitems =>
          rw [List.nodup_cons] at hdistinct
          have hhandle : (item.serviceRecordHandle == handle.toNat) = (e.2.handle == handle) := by
            rw [hitem.handle, Bool.eq_iff_iff, beq_iff_eq, beq_iff_eq, UInt32.toNat_inj]
          rw [List.eraseP_cons, List.filter_cons, hhandle]
          by_cases heq : e.2.handle = handle
          · have hothers : entries.filter (fun x => x.2.handle != handle) = entries := by
              refine List.filter_eq_self.mpr fun x hx => ?_
              rw [bne_iff_ne, ← heq]
              exact fun hx' => hdistinct.1 (hx' ▸ List.mem_map_of_mem (f := fun y : Option Nat × ServiceRecord => y.2.handle) hx)
            simp only [heq, beq_self_eq_true, cond_true, bne_self_eq_false, Bool.false_eq_true, if_false, hothers]
            exact hitems
          · have hbeq : (e.2.handle == handle) = false := beq_false_of_ne heq
            simp only [hbeq, cond_false, bne, Bool.not_false, if_true]
            exact List.Forall₂.cons hitem (ih hitems hdistinct.2)

theorem countAll_filter_le (f : UInt16 × Element → Bool) (attributes : List (UInt16 × Element)) :
    Element.countAll (attributeElements (attributes.filter f)) ≤ Element.countAll (attributeElements attributes) := by
  induction attributes with
  | nil => exact Nat.le_refl _
  | cons a attributes ih =>
      have hcons : ∀ as : List (UInt16 × Element), attributeElements (a :: as) =
          .value typeUint 1 (toBE 2 a.1.toNat) :: a.2 :: attributeElements as := fun _ => rfl
      rw [List.filter_cons]
      split
      · rw [hcons, hcons, Element.countAll, Element.countAll, Element.countAll, Element.countAll]
        omega
      · rw [hcons, Element.countAll, Element.countAll]
        omega

/-- The traversals of a new record are within the bound. -/
theorem enoughFor_new {attributes : List (UInt16 × Element)} (h : (attributeList attributes).count + 2 ≤ fuel)
    (handle : UInt32) : EnoughFor fuel ⟨handle, newAttributes handle attributes⟩ := by
  have hcons : attributeElements (newAttributes handle attributes) =
      .value typeUint 1 (toBE 2 0) :: .value typeUint 2 (toBE 4 handle.toNat) ::
        attributeElements (attributes.filter (·.1 != 0)) := rfl
  have hle := countAll_filter_le (·.1 != 0) attributes
  rw [attributeList, Element.count] at h
  rw [EnoughFor, attributeList, Element.count]
  show 1 + Element.countAll (attributeElements (newAttributes handle attributes)) ≤ fuel
  rw [hcons, Element.countAll, Element.countAll, Element.count, Element.count]
  omega

/-- A handle that no record has is not found. -/
theorem find_eq_none {items : List ServiceRecordItem} {ds : List ServiceRecord} (h : List.Forall₂ Registered items ds)
    {n : Nat} (hlt : ∀ d ∈ ds, d.handle.toNat < n) : sdpGetRecordItemForHandle items n = none := by
  induction h with
  | nil => rfl
  | @cons item d items ds hitem _ ih =>
      have hne : (item.serviceRecordHandle == n) = false := by
        rw [beq_eq_false_iff_ne, hitem.handle]
        exact Nat.ne_of_lt (hlt d List.mem_cons_self)
      rw [sdpGetRecordItemForHandle, List.find?_cons, hne]
      exact ih fun x hx => hlt x (List.mem_cons_of_mem _ hx)

namespace SdpDaemon.Refines

variable {connection : Nat}

theorem nodup_clients (h : d.Refines fuel r) : (d.clients.map (·.id)).Nodup := by
  rw [h.connected]
  exact h.nodup

theorem member_iff (h : d.Refines fuel r) : d.clients.Member connection ↔ connection ∈ r.connections := by
  rw [← h.connected]
  rfl

theorem opened (h : d.Refines fuel r) (alloc : Bool) :
    ∃ d', d.step fuel place (.connectionOpened alloc) = some d' ∧ d'.Refines fuel (r.step (.connectionOpened alloc)) := by
  refine ⟨_, rfl, ?_⟩
  cases alloc with
  | false =>
      exact { h with
        nextConnection := congrArg (· + 1) h.nextConnection
        belowConnection := fun c hc => Nat.lt_succ_of_lt (h.belowConnection c hc) }
  | true =>
      -- the new client has no records
      have hholds : ∀ c handle, Registry.Holds (⟨d.nextConnection, []⟩ :: d.clients) c handle ↔
          d.clients.Holds c handle := by
        intro c handle
        constructor
        · rintro ⟨e, he, hid, hmem⟩
          rcases List.mem_cons.mp he with rfl | he
          · exact absurd hmem List.not_mem_nil
          · exact ⟨e, he, hid, hmem⟩
        · rintro ⟨e, he, hid, hmem⟩
          exact ⟨e, List.mem_cons_of_mem _ he, hid, hmem⟩
      exact { h with
        nextConnection := congrArg (· + 1) h.nextConnection
        connected := by
          show d.nextConnection :: d.clients.map (·.id) = r.nextConnection :: r.connections
          rw [h.connected, h.nextConnection]
        nodup := List.nodup_cons.mpr ⟨fun hmem => absurd (h.belowConnection _ hmem) (Nat.lt_irrefl _), h.nodup⟩
        belowConnection := by
          intro c hc
          rcases List.mem_cons.mp hc with rfl | hc
          · exact Nat.lt_succ_self _
          · exact Nat.lt_succ_of_lt (h.belowConnection c hc)
        owner := fun e he c hec => (hholds c _).mpr (h.owner e he c hec)
        owned := fun c handle hc => h.owned c handle ((hholds c handle).mp hc) }

theorem unregister (h : d.Refines fuel r) (connection : Nat) (handle : UInt32) :
    ∃ d', d.step fuel place (.unregister connection handle) = some d' ∧
      d'.Refines fuel (r.step (.unregister connection handle)) := by
  refine ⟨_, rfl, ?_⟩
  have hmem : ∀ e, e ∈ r.entries.filter (fun e => e.2.handle != handle) ↔ e ∈ r.entries ∧ e.2.handle ≠ handle := by
    intro e
    rw [List.mem_filter, bne_iff_ne]
  have hdelete : ∀ c handle',
      Registry.Holds (Registry.modify connection (Registry.deleteKey handle) d.clients) c handle' ↔
        d.clients.Holds c handle' ∧ ¬ (c = connection ∧ handle' = handle) :=
    fun _ _ => Registry.holds_delete h.nodup_clients
  exact
    { records := unregister_registered h.records h.distinct handle
      fuel := fun e he => h.fuel e ((hmem e).mp he).1
      next := h.next
      reserved := h.reserved
      below := fun e he => h.below e ((hmem e).mp he).1
      distinct := h.distinct.sublist (List.filter_sublist.map _)
      connected := (Registry.map_id_modify _ _ _).trans h.connected
      nodup := h.nodup
      nextConnection := h.nextConnection
      belowConnection := h.belowConnection
      owner := fun e he c hec => (hdelete c e.2.handle).mpr
        ⟨h.owner e ((hmem e).mp he).1 c hec, fun heq => ((hmem e).mp he).2 heq.2⟩
      owned := fun c handle' hc => by
        obtain ⟨hlt, howned⟩ := h.owned c handle' ((hdelete c handle').mp hc).1
        exact ⟨hlt, fun e he => howned e ((hmem e).mp he).1⟩ }

/-- Taking several records out, on both sides. -/
theorem foldl_unregister (handles : List UInt32) {s : SdpServer} {entries : List (Option Nat × ServiceRecord)}
    (h : List.Forall₂ Registered s.serviceRecords (entries.map (·.2))) (hdistinct : (entries.map (·.2.handle)).Nodup) :
    List.Forall₂ Registered (handles.foldl (fun s handle => sdpUnregisterService handle.toNat s) s).serviceRecords
      ((entries.filter fun e => decide (e.2.handle ∉ handles)).map (·.2)) ∧
    (handles.foldl (fun s handle => sdpUnregisterService handle.toNat s) s).nextServiceRecordHandle =
      s.nextServiceRecordHandle := by
  induction handles generalizing s entries with
  | nil =>
      have hall : entries.filter (fun e => decide (e.2.handle ∉ ([] : List UInt32))) = entries :=
        List.filter_eq_self.mpr fun e _ => decide_eq_true List.not_mem_nil
      rw [hall]
      exact ⟨h, rfl⟩
  | cons handle handles ih =>
      have hstep := unregister_registered h hdistinct handle
      obtain ⟨hrest, hnext⟩ := ih (s := sdpUnregisterService handle.toNat s) hstep
        (hdistinct.sublist (List.filter_sublist.map _))
      refine ⟨?_, hnext⟩
      rw [List.filter_filter] at hrest
      have hcongr : entries.filter (fun e => decide (e.2.handle ∉ handle :: handles)) =
          entries.filter fun e => decide (e.2.handle ∉ handles) && e.2.handle != handle := by
        refine List.filter_congr fun e _ => ?_
        rw [Bool.eq_iff_iff, decide_eq_true_iff, Bool.and_eq_true, decide_eq_true_iff, bne_iff_ne, List.mem_cons, not_or]
        exact and_comm
      rw [hcongr]
      exact hrest

theorem closed (h : d.Refines fuel r) (connection : Nat) :
    ∃ d', d.step fuel place (.connectionClosed connection) = some d' ∧
      d'.Refines fuel (r.step (.connectionClosed connection)) := by
  refine ⟨_, rfl, ?_⟩
  -- the handles of the client are those of its records, as far as these are still there
  have hsame : r.entries.filter (fun e => decide (e.2.handle ∉ d.clients.keysOf connection)) =
      r.entries.filter fun e => e.1 != some connection := by
    refine List.filter_congr fun e he => ?_
    rw [Bool.eq_iff_iff, decide_eq_true_iff, bne_iff_ne, Registry.mem_keysOf h.nodup_clients]
    exact not_congr ⟨fun hholds => (h.owned connection _ hholds).2 e he rfl, fun howner => h.owner e he connection howner⟩
  obtain ⟨hrecords, hnext⟩ := foldl_unregister (d.clients.keysOf connection) h.records h.distinct
  rw [hsame] at hrecords
  have hmem : ∀ e, e ∈ r.entries.filter (fun e => e.1 != some connection) ↔ e ∈ r.entries ∧ e.1 ≠ some connection := by
    intro e
    rw [List.mem_filter, bne_iff_ne]
  have hremove := fun c handle => Registry.holds_remove (i := connection) (j := c) (k := handle) h.nodup_clients
  exact
    { records := hrecords
      fuel := fun e he => h.fuel e ((hmem e).mp he).1
      next := hnext.trans h.next
      reserved := h.reserved
      below := fun e he => h.below e ((hmem e).mp he).1
      distinct := h.distinct.sublist (List.filter_sublist.map _)
      connected := (Registry.map_id_remove _ _).trans (congrArg (·.erase connection) h.connected)
      nodup := h.nodup.erase connection
      nextConnection := h.nextConnection
      belowConnection := fun c hc => h.belowConnection c (List.mem_of_mem_erase hc)
      owner := fun e he c hec => (hremove c e.2.handle).mpr
        ⟨fun heq => ((hmem e).mp he).2 (heq ▸ hec), h.owner e ((hmem e).mp he).1 c hec⟩
      owned := fun c handle hc => by
        obtain ⟨hlt, howned⟩ := h.owned c handle ((hremove c handle).mp hc).2
        exact ⟨hlt, fun e he => howned e ((hmem e).mp he).1⟩ }

/-- A registration that fails uses up a handle. -/
theorem refused (h : d.Refines fuel r) (hmax : r.nextHandle + 1 < 2 ^ 32) :
    SdpDaemon.Refines fuel { d with server := takeHandle d.server } { r with nextHandle := r.nextHandle + 1 } :=
  { h with
    next := by
      show (d.server.nextServiceRecordHandle + 1) % 2 ^ 32 = r.nextHandle + 1
      rw [h.next, Nat.mod_eq_of_lt hmax]
    reserved := Nat.lt_succ_of_lt h.reserved
    below := fun e he => Nat.lt_succ_of_lt (h.below e he)
    owned := fun c handle hc => by
      obtain ⟨hlt, howned⟩ := h.owned c handle hc
      exact ⟨Nat.lt_succ_of_lt hlt, howned⟩ }

/-- A new record, for a client or for none. -/
theorem added (h : d.Refines fuel r) (hmax : r.nextHandle + 1 < 2 ^ 32) {item : ServiceRecordItem}
    {record : ServiceRecord} (hitem : Registered item record) (hhandle : record.handle = UInt32.ofNat r.nextHandle)
    (hfuel : EnoughFor fuel record) {owner : Option Nat} {clients : Registry Nat UInt32}
    (hids : clients.map (·.id) = d.clients.map (·.id))
    (hholds : ∀ c handle, clients.Holds c handle ↔
      d.clients.Holds c handle ∨ (owner = some c ∧ handle = record.handle)) :
    SdpDaemon.Refines fuel
      { d with
        server := { takeHandle d.server with serviceRecords := item :: d.server.serviceRecords }
        clients := clients }
      { r with entries := (owner, record) :: r.entries, nextHandle := r.nextHandle + 1 } := by
  have hnat : record.handle.toNat = r.nextHandle := by
    rw [hhandle, UInt32.toNat_ofNat', Nat.mod_eq_of_lt (by omega)]
  have hnew : ∀ e ∈ r.entries, e.2.handle ≠ record.handle := fun e he heq => by
    have := h.below e he
    rw [heq, hnat] at this
    exact Nat.lt_irrefl _ this
  exact
    { records := List.Forall₂.cons hitem h.records
      fuel := fun e he => by
        rcases List.mem_cons.mp he with rfl | he
        · exact hfuel
        · exact h.fuel e he
      next := (h.refused hmax).next
      reserved := Nat.lt_succ_of_lt h.reserved
      below := fun e he => by
        rcases List.mem_cons.mp he with rfl | he
        · exact Nat.lt_succ_of_le (Nat.le_of_eq hnat)
        · exact Nat.lt_succ_of_lt (h.below e he)
      distinct := by
        refine List.nodup_cons.mpr ⟨?_, h.distinct⟩
        intro hmem
        obtain ⟨e, he, heq⟩ := List.mem_map.mp hmem
        exact hnew e he heq
      connected := hids.trans h.connected
      nodup := h.nodup
      nextConnection := h.nextConnection
      belowConnection := h.belowConnection
      owner := fun e he c hec => by
        rcases List.mem_cons.mp he with rfl | he
        · exact (hholds c _).mpr (Or.inr ⟨hec, rfl⟩)
        · exact (hholds c _).mpr (Or.inl (h.owner e he c hec))
      owned := fun c handle hc => by
        rcases (hholds c handle).mp hc with hold | ⟨hcowner, rfl⟩
        · obtain ⟨hlt, howned⟩ := h.owned c handle hold
          refine ⟨Nat.lt_succ_of_lt hlt, fun e he heq => ?_⟩
          rcases List.mem_cons.mp he with rfl | he
          · rw [← heq, hnat] at hlt
            exact absurd hlt (Nat.lt_irrefl _)
          · exact howned e he heq
        · refine ⟨Nat.lt_succ_of_le (Nat.le_of_eq hnat), fun e he heq => ?_⟩
          rcases List.mem_cons.mp he with rfl | he
          · exact hcowner
          · exact absurd heq (hnew e he) }

theorem registered (h : d.Refines fuel r) (hmax : r.nextHandle + 1 < 2 ^ 32) (hplace : ∀ b, (place b).Holds b)
    (connection : Nat) {attributes : List (UInt16 × Element)} (A : Allocator) (memory alloc : Bool)
    (hok : SdpInput.Ok fuel (.register connection attributes A memory alloc)) :
    ∃ d', d.step fuel place (.register connection attributes A memory alloc) = some d' ∧
      d'.Refines fuel (r.step (.register connection attributes A memory alloc)) := by
  obtain ⟨hwf, hsize, hfuel⟩ := hok
  have hencode : (attributeList attributes).encode = sequenceBytes (attributes.flatMap attributeBytes) := by
    rw [attributeList, Element.encode, encodeAll_attributeElements, sequenceBytes]
  have hrecord : ElementAt (place (attributeList attributes).encode) (attributeList attributes) := by
    refine ⟨hwf, hplace _, ?_⟩
    rw [hencode, sequenceBytes_length]
    omega
  have hlength : attributes.length + 2 < fuel := by
    have hlt : attributes.length < (attributeList attributes).count :=
      attributes_lt_fuel (Nat.le_refl _ : EnoughFor (attributeList attributes).count ⟨0, attributes⟩)
    omega
  have hfree : sdpGetRecordItemForHandle d.server.serviceRecords d.server.nextServiceRecordHandle = none := by
    rw [h.next]
    refine find_eq_none h.records fun x hx => ?_
    obtain ⟨e, he, rfl⟩ := List.mem_map.mp hx
    exact h.below e he
  have hreserved : maxReservedServiceRecordHandle < d.server.nextServiceRecordHandle := by
    rw [h.next]
    exact h.reserved
  have hpos : r.nextHandle ≠ 0 := Nat.ne_of_gt (Nat.lt_of_le_of_lt (Nat.zero_le _) h.reserved)
  have hcreate := create_registers A memory hplace hrecord hlength hsize hfree hreserved (by rw [h.next]; omega)
  rw [h.next] at hcreate
  rcases hcreate with ⟨hgrant, item, hrun, hitem⟩ | ⟨hrefuse, hrun⟩
  · have hnew := enoughFor_new hfuel (UInt32.ofNat r.nextHandle)
    cases alloc with
    | false =>
        refine ⟨{ d with server := { takeHandle d.server with serviceRecords := item :: d.server.serviceRecords } },
          by simp only [SdpDaemon.step, hrun, Bool.false_eq_true, and_false, if_false], ?_⟩
        simp only [ServiceRegistry.step, hgrant, if_true, Bool.false_eq_true, false_and, if_false]
        refine h.added hmax hitem rfl hnew rfl fun c handle => ⟨Or.inl, ?_⟩
        rintro (hold | ⟨hnone, -⟩)
        · exact hold
        · cases hnone
    | true =>
        refine ⟨{ d with
          server := { takeHandle d.server with serviceRecords := item :: d.server.serviceRecords }
          clients := d.clients.modify connection (Registry.insertKey (UInt32.ofNat r.nextHandle)) },
          by simp only [SdpDaemon.step, hrun, hpos, ne_eq, not_false_eq_true, and_self, if_true], ?_⟩
        simp only [ServiceRegistry.step, hgrant, if_true, true_and]
        refine h.added hmax hitem rfl hnew (Registry.map_id_modify _ _ _) fun c handle => ?_
        rw [Registry.holds_insert h.nodup_clients, h.member_iff]
        by_cases hconn : connection ∈ r.connections
        · rw [if_pos hconn, Option.some.injEq]
          refine or_congr_right ⟨?_, ?_⟩
          · rintro ⟨rfl, rfl, -⟩
            exact ⟨rfl, rfl⟩
          · rintro ⟨rfl, rfl⟩
            exact ⟨rfl, rfl, hconn⟩
        · rw [if_neg hconn]
          refine or_congr_right ⟨?_, ?_⟩
          · rintro ⟨-, -, hmem⟩
            exact absurd hmem hconn
          · rintro ⟨hnone, -⟩
            cases hnone
  · refine ⟨{ d with server := takeHandle d.server }, ?_, ?_⟩
    · simp only [SdpDaemon.step, hrun, ne_eq, not_true_eq_false, false_and, if_false]
    · simp only [ServiceRegistry.step, hrefuse, Bool.false_eq_true, if_false]
      exact h.refused hmax

/-- **A step of the daemon is a step of the registry.** -/
theorem step (h : d.Refines fuel r) (hmax : r.nextHandle + 1 < 2 ^ 32) (hplace : ∀ b, (place b).Holds b) {i : SdpInput}
    (hok : i.Ok fuel) : ∃ d', d.step fuel place i = some d' ∧ d'.Refines fuel (r.step i) := by
  cases i with
  | connectionOpened alloc => exact h.opened alloc
  | connectionClosed connection => exact h.closed connection
  | register connection attributes A memory alloc =>
      exact h.registered hmax hplace connection A memory alloc hok
  | unregister connection handle => exact h.unregister connection handle

theorem nextHandle_le (r : ServiceRegistry) (i : SdpInput) : (r.step i).nextHandle ≤ r.nextHandle + 1 := by
  cases i with
  | connectionOpened alloc => exact Nat.le_succ _
  | connectionClosed connection => exact Nat.le_succ _
  | register connection attributes A memory alloc => exact Nat.le_refl _
  | unregister connection handle => exact Nat.le_succ _

/-- **A run of the daemon is a run of the registry**, as long as the handles last. -/
theorem run (h : d.Refines fuel r) (hplace : ∀ b, (place b).Holds b) (is : List SdpInput)
    (hok : ∀ i ∈ is, i.Ok fuel) (hmax : r.nextHandle + is.length < 2 ^ 32) :
    ∃ d', d.run fuel place is = some d' ∧ d'.Refines fuel (is.foldl ServiceRegistry.step r) := by
  induction is generalizing d r with
  | nil => exact ⟨d, rfl, h⟩
  | cons i is ih =>
      rw [List.length_cons] at hmax
      obtain ⟨d₁, hstep, h₁⟩ := h.step (by omega) hplace (hok i List.mem_cons_self)
      have hnext := nextHandle_le r i
      obtain ⟨d₂, hrun, h₂⟩ := ih h₁ (fun j hj => hok j (List.mem_cons_of_mem _ hj)) (by omega)
      refine ⟨d₂, ?_, h₂⟩
      rw [SdpDaemon.run, hstep, Option.bind_some]
      exact hrun

theorem serving (h : d.Refines fuel r) (hcount : r.entries.length < 65536) :
    Serving fuel d.server.serviceRecords r.records where
  registered := h.records
  fuel := fun x hx => by
    obtain ⟨e, he, rfl⟩ := List.mem_map.mp hx
    exact h.fuel e he
  count := by
    rw [h.records.length_eq, ServiceRegistry.records, List.length_map]
    exact hcount

end SdpDaemon.Refines

end Refinement

/-- **What a phone finds.** After any requests of clients, a phone that searches for attributes and follows the
    continuations gets, newest first, the lists of all the records that match among those that were registered and are
    neither unregistered nor gone with their client. -/
theorem services_found {fuel patternSize idsSize mtu transactionId maximum : Nat} {place : Bytes → Ptr}
    {pattern ids : List Element} {is : List SdpInput} (hplace : ∀ b, (place b).Holds b) (hok : ∀ i ∈ is, i.Ok fuel)
    (hhandles : maxReservedServiceRecordHandle + 2 + is.length < 2 ^ 32)
    (hcount : (is.foldl ServiceRegistry.step ServiceRegistry.init).entries.length < 65536)
    (hpattern : Sendable fuel patternSize pattern) (hids : Sendable fuel idsSize ids)
    (hlen : (Element.sequence patternSize pattern).encode.length + (Element.sequence idsSize ids).encode.length < 65529)
    (hmin : 7 ≤ maximum) (hmax : maximum < 65536) (hmtu : 48 ≤ mtu) (hmtuMax : mtu < 65536)
    (htid : transactionId < 65536)
    (htotal : (listsOf pattern ids (is.foldl ServiceRegistry.step ServiceRegistry.init).records).length < 65536)
    (n : Nat) (hn : 3 + (listsOf pattern ids (is.foldl ServiceRegistry.step ServiceRegistry.init).records).length < n) :
    ∃ d, SdpDaemon.init.run fuel place is = some d ∧
      collect (searchAttributePhone fuel d.server.serviceRecords place mtu transactionId (.sequence patternSize pattern)
          maximum (.sequence idsSize ids)) n [] =
        some (header typeSequence 6
            (listsOf pattern ids (is.foldl ServiceRegistry.step ServiceRegistry.init).records).length ++
          listsOf pattern ids (is.foldl ServiceRegistry.step ServiceRegistry.init).records) := by
  obtain ⟨d, hrun, hrefines⟩ := (refines_init fuel).run hplace is hok hhandles
  exact ⟨d, hrun, attributes_found (hrefines.serving hcount) hplace hpattern hids hlen hmin hmax hmtu hmtuMax htid htotal
    n hn⟩

/-! ## The requests of the program -/

/-- What the program asks of the daemon in `perform_bt_setup`. -/
def setupInputs : List SdpInput :=
  [.connectionOpened true, .register 0 (iap2Attributes 3) Allocator.granting true true,
    .register 0 didAttributes Allocator.granting true true]

/-- The record in a request. -/
def SdpInput.record : SdpInput → Option Bytes
  | .register _ attributes _ _ _ => some (attributeList attributes).encode
  | _ => none

/-- The record in a command. -/
def commandRecord : Bt.Cmd → Option Bytes
  | .sdpRegisterServiceRecord b => some b
  | _ => none

/-- The records of the inputs are those in the commands of the program. -/
theorem setupInputs_records (cfg : Bt.Config) :
    (Bt.setupCommands cfg).filterMap commandRecord = setupInputs.filterMap SdpInput.record := by
  simp only [Bt.setupCommands, setupInputs, List.filterMap_cons, List.filterMap_nil, SdpInput.record, commandRecord,
    buildSdp_eq, buildDidSdp_eq]

theorem setupInputs_ok : ∀ i ∈ setupInputs, i.Ok 40 := by
  intro i hi
  simp only [setupInputs, List.mem_cons, List.not_mem_nil, or_false] at hi
  rcases hi with rfl | rfl | rfl
  · trivial
  · exact ⟨by decide +kernel, by decide +kernel, by decide +kernel⟩
  · exact ⟨by decide +kernel, by decide +kernel, by decide +kernel⟩

/-- In two responses, the record for iAP2 with its RFCOMM channel. -/
theorem services_found_iap2 :
    ∃ d, SdpDaemon.init.run 40 Ptr.of setupInputs = some d ∧
      collect (searchAttributePhone 40 d.server.serviceRecords Ptr.of 672 1 (.sequence 5 [iap2Uuid]) 40
          (.sequence 5 [allIds])) 200 [] =
        some (header typeSequence 6 75 ++ listOf [allIds] ⟨0x10001, newAttributes 0x10001 (iap2Attributes 3)⟩) := by
  have hlists : listsOf [iap2Uuid] [allIds] (setupInputs.foldl ServiceRegistry.step ServiceRegistry.init).records =
      listOf [allIds] ⟨0x10001, newAttributes 0x10001 (iap2Attributes 3)⟩ := by decide +kernel
  have hlength : (listOf [allIds] ⟨0x10001, newAttributes 0x10001 (iap2Attributes 3)⟩).length = 75 := by decide +kernel
  have hfound := services_found (n := 200) Ptr.holds_of setupInputs_ok (by decide) (by decide)
    (⟨by decide, by decide⟩ : Sendable 40 5 [iap2Uuid]) (⟨by decide, by decide⟩ : Sendable 40 5 [allIds]) (by decide)
    (by decide : 7 ≤ 40) (by decide) (by decide : 48 ≤ 672) (by decide) (by decide : 1 < 65536)
    (by rw [hlists, hlength]; decide) (by rw [hlists, hlength]; decide)
  rw [hlists, hlength] at hfound
  exact hfound

end Showcase.Btstack
