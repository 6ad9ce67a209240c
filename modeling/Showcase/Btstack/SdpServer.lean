import Showcase.Btstack.SdpUtil

/-!
# `Btstack.SdpServer` — the service records and the requests of `sdp_server.c`

The server keeps a list of service records, the newest one first, and answers three requests about it. A request is read
at a pointer; a response is the list of the bytes that stand in `sdp_response_buffer`. What does not fit into one response
is fetched with further requests, which name a continuation: an index into the list, an offset into the attributes of a
record, or both.

No response is the empty list here, and `none` a traversal that does not end within its bound.

## Contents
- `sdpRegisterService`, `sdpUnregisterService`, `sdpCreateServiceRecordHandle` — the list of records;
- `parseServiceSearchRequest` and the other two, with `…_request`: what a well-formed request is read as;
- `sdpHandleServiceSearchRequest`, `sdpHandleServiceAttributeRequest`, `sdpHandleServiceSearchAttributeRequest`;
- `sdpPacketData` — the data packets of `sdp_packet_handler`.
-/

namespace Showcase.Btstack

open Lib DataElement

/-! ## The list of records -/

/-- `service_record_item_t`. -/
structure ServiceRecordItem where
  serviceRecordHandle : Nat
  serviceRecord : Ptr

/-- `sdp_service_records` and `sdp_next_service_record_handle`. -/
structure SdpServer where
  serviceRecords : List ServiceRecordItem
  nextServiceRecordHandle : Nat

/-- `maxReservedServiceRecordHandle`. -/
def maxReservedServiceRecordHandle : Nat := 0xffff

/-- The server before anything is registered. -/
def SdpServer.init : SdpServer := ⟨[], maxReservedServiceRecordHandle + 2⟩

/-- `BLUETOOTH_ATTRIBUTE_SERVICE_RECORD_HANDLE`. -/
def bluetoothAttributeServiceRecordHandle : UInt16 := 0x0000

/-- `sdp_get_service_record_handle`; 0 when there is none. -/
def sdpGetServiceRecordHandle (fuel : Nat) (record : Ptr) : Option Nat :=
  match sdpGetAttributeValueForAttributeId fuel record bluetoothAttributeServiceRecordHandle.toNat with
  | none => none
  | some none => some 0
  | some (some serviceRecordHandleAttribute) =>
      if deGetElementType serviceRecordHandleAttribute ≠ typeUint then some 0
      else if deGetSizeType serviceRecordHandleAttribute ≠ 2 then some 0
      else some (bigEndianRead32 serviceRecordHandleAttribute 1)

/-- `sdp_get_record_item_for_handle`. -/
def sdpGetRecordItemForHandle (records : List ServiceRecordItem) (handle : Nat) : Option ServiceRecordItem :=
  records.find? fun item => item.serviceRecordHandle == handle

/-- `sdp_create_service_record_handle`: the numbers are tried in turn, from the next one on. -/
def sdpCreateServiceRecordHandle : Nat → SdpServer → Option (Nat × SdpServer)
  | 0, _ => none
  | fuel + 1, s =>
      let handle := s.nextServiceRecordHandle
      let s := { s with nextServiceRecordHandle := (handle + 1) % 2 ^ 32 }
      let handle := if (sdpGetRecordItemForHandle s.serviceRecords handle).isSome then 0 else handle
      if handle = 0 then sdpCreateServiceRecordHandle fuel s else some (handle, s)

/-- What `sdp_register_service` returns. -/
inductive SdpStatus where
  | success
  | sdpHandleInvalid
  | sdpHandleAlreadyRegistered
  | btstackMemoryAllocFailed
  deriving DecidableEq, Repr

/-- `sdp_register_service`; `memory` says whether there is an item for it. -/
def sdpRegisterService (fuel : Nat) (record : Ptr) (memory : Bool) (s : SdpServer) : Option (SdpStatus × SdpServer) :=
  match sdpGetServiceRecordHandle fuel record with
  | none => none
  | some recordHandle =>
      if recordHandle = 0 then some (.sdpHandleInvalid, s)
      else if recordHandle ≤ maxReservedServiceRecordHandle then some (.sdpHandleInvalid, s)
      else if (sdpGetRecordItemForHandle s.serviceRecords recordHandle).isSome then
        some (.sdpHandleAlreadyRegistered, s)
      else if memory = false then some (.btstackMemoryAllocFailed, s)
      else some (.success, { s with serviceRecords := ⟨recordHandle, record⟩ :: s.serviceRecords })

/-- `sdp_unregister_service`: the first record with the handle is taken out. -/
def sdpUnregisterService (serviceRecordHandle : Nat) (s : SdpServer) : SdpServer :=
  { s with serviceRecords := s.serviceRecords.eraseP fun item => item.serviceRecordHandle == serviceRecordHandle }

/-! ## Responses -/

/-- `SDP_RESPONSE_BUFFER_SIZE`: the payload of an ACL packet behind the header of L2CAP. -/
def sdpResponseBufferSize : Nat := 1021 - 4

/-- `sdp_create_error_response`. -/
def sdpCreateErrorResponse (transactionId errorCode : Nat) : Bytes :=
  1 :: (toBE 2 transactionId ++ toBE 2 2 ++ toBE 2 errorCode)

/-- A response with attributes in it: the header, the attributes, and the continuation behind them. -/
def attributeResponse (pduId : UInt8) (transactionId : Nat) (attributes continuation : Bytes) : Bytes :=
  pduId :: (toBE 2 transactionId ++ toBE 2 (2 + attributes.length + continuation.length) ++ toBE 2 attributes.length ++
    attributes ++ continuation)

/-! ## Searching for records -/

/-- What `sdp_handle_service_search_request` reads in its packet. -/
structure ServiceSearchRequest where
  transactionId : Nat
  serviceSearchPattern : Ptr
  maximumServiceRecordCount : Nat
  continuationIndex : Nat

/-- Reading the request; `none` is a request that is dropped. -/
def parseServiceSearchRequest (packet : Ptr) : Option ServiceSearchRequest :=
  let paramLen := bigEndianRead16 packet 3
  let serviceSearchPattern := packet.add 5
  let serviceSearchPatternLen := deGetLenSafe serviceSearchPattern paramLen
  if serviceSearchPatternLen = 0 then none
  else
    let paramLen := paramLen - serviceSearchPatternLen
    if paramLen < 2 then none
    else
      let paramLen := paramLen - 2
      if paramLen < 1 then none
      else
        let continuationState := packet.add (5 + serviceSearchPatternLen + 2 : Nat)
        if 1 + (continuationState 0).toNat > paramLen then none
        else some
          { transactionId := bigEndianRead16 packet 1
            serviceSearchPattern := serviceSearchPattern
            maximumServiceRecordCount := bigEndianRead16 packet (5 + serviceSearchPatternLen : Nat)
            continuationIndex := if continuationState 0 = 2 then bigEndianRead16 continuationState 1 else 0 }

/-- The loop that counts the records that match. -/
def countMatching (fuel : Nat) (serviceSearchPattern : Ptr) : List ServiceRecordItem → Nat → Option Nat
  | [], total => some total
  | item :: items, total =>
      match sdpRecordMatchesServiceSearchPattern fuel item.serviceRecord serviceSearchPattern with
      | none => none
      | some false => countMatching fuel serviceSearchPattern items total
      | some true => countMatching fuel serviceSearchPattern items (uint16 (total + 1 : Nat))

/-- The numbers that the loop over the records goes by. -/
structure SearchLimits where
  continuationIndex : Nat
  totalServiceCount : Nat
  maxNrServiceRecordsPerResponse : Nat

/-- The loop that collects the handles; with them comes their number, and the index to go on with if there is more. -/
def searchLoop (fuel : Nat) (serviceSearchPattern : Ptr) (l : SearchLimits) :
    List ServiceRecordItem → Nat → Nat → Bytes → Nat → Option (Bytes × Nat × Option Nat)
  | [], _, _, handles, count => some (handles, count, none)
  | item :: items, index, matching, handles, count =>
      match sdpRecordMatchesServiceSearchPattern fuel item.serviceRecord serviceSearchPattern with
      | none => none
      | some false => searchLoop fuel serviceSearchPattern l items (uint16 (index + 1 : Nat)) matching handles count
      | some true =>
          let matching := uint16 (matching + 1 : Nat)
          if index < l.continuationIndex then
            searchLoop fuel serviceSearchPattern l items (uint16 (index + 1 : Nat)) matching handles count
          else
            let handles := handles ++ toBE 4 item.serviceRecordHandle
            let count := uint16 (count + 1 : Nat)
            if matching ≥ l.totalServiceCount then some (handles, count, none)
            else if count ≥ l.maxNrServiceRecordsPerResponse then
              some (handles, count, some (uint16 (index + 1 : Nat)))
            else searchLoop fuel serviceSearchPattern l items (uint16 (index + 1 : Nat)) matching handles count

/-- The response to a search. -/
def searchResponse (transactionId total count : Nat) (handles continuation : Bytes) : Bytes :=
  3 :: (toBE 2 transactionId ++ toBE 2 (4 + handles.length + continuation.length) ++ toBE 2 total ++ toBE 2 count ++
    handles ++ continuation)

/-- `sdp_handle_service_search_request`. -/
def sdpHandleServiceSearchRequest (fuel : Nat) (records : List ServiceRecordItem) (packet : Ptr) (remoteMtu : Nat) :
    Option Bytes :=
  match parseServiceSearchRequest packet with
  | none => some []
  | some r =>
      let maxNrServiceRecordsPerResponse := uint16 (((remoteMtu : Int) - (9 + 3)).tdiv 4)
      match countMatching fuel r.serviceSearchPattern records 0 with
      | none => none
      | some total =>
          let total := if total > r.maximumServiceRecordCount then r.maximumServiceRecordCount else total
          match searchLoop fuel r.serviceSearchPattern ⟨r.continuationIndex, total, maxNrServiceRecordsPerResponse⟩
            records 0 0 [] 0 with
          | none => none
          | some (handles, count, none) => some (searchResponse r.transactionId total count handles [0])
          | some (handles, count, some index) =>
              some (searchResponse r.transactionId total count handles (2 :: toBE 2 index))

/-! ## The attributes of a record -/

/-- What `sdp_handle_service_attribute_request` reads in its packet. -/
structure ServiceAttributeRequest where
  transactionId : Nat
  serviceRecordHandle : Nat
  maximumAttributeByteCount : Nat
  attributeIDList : Ptr
  continuationOffset : Nat

/-- Reading the request; `none` is a request that is dropped. -/
def parseServiceAttributeRequest (packet : Ptr) : Option ServiceAttributeRequest :=
  let paramLen := bigEndianRead16 packet 3
  if paramLen < 6 then none
  else
    let paramLen := paramLen - 6
    let attributeIDList := packet.add 11
    let attributeIDListLen := deGetLenSafe attributeIDList paramLen
    if attributeIDListLen = 0 then none
    else
      let paramLen := paramLen - attributeIDListLen
      if paramLen < 1 then none
      else
        let continuationState := packet.add (11 + attributeIDListLen : Nat)
        if 1 + (continuationState 0).toNat > paramLen then none
        else some
          { transactionId := bigEndianRead16 packet 1
            serviceRecordHandle := bigEndianRead32 packet 5
            maximumAttributeByteCount := bigEndianRead16 packet 9
            attributeIDList := attributeIDList
            continuationOffset := if continuationState 0 = 2 then bigEndianRead16 continuationState 1 else 0 }

/-- The sequence header in front of the attributes, in a request without a continuation: the header, and what is left of
    the byte count behind it. -/
def attributeListHeader (fuel : Nat) (record attributeIDList : Ptr) (continuationOffset maximum : Nat) :
    Option (Bytes × Nat) :=
  if continuationOffset = 0 then
    match spdGetFilteredSize fuel record attributeIDList with
    | none => none
    | some filteredAttributesSize => some (header typeSequence 6 filteredAttributesSize, uint16 ((maximum : Int) - 3))
  else some ([], maximum)

/-- `sdp_handle_service_attribute_request`. -/
def sdpHandleServiceAttributeRequest (fuel : Nat) (records : List ServiceRecordItem) (packet : Ptr) (remoteMtu : Nat) :
    Option Bytes :=
  match parseServiceAttributeRequest packet with
  | none => some []
  | some r =>
      let maximumAttributeByteCount2 := uint16 ((remoteMtu : Int) - (7 + 3))
      let maximum :=
        if maximumAttributeByteCount2 < r.maximumAttributeByteCount then maximumAttributeByteCount2
        else r.maximumAttributeByteCount
      match sdpGetRecordItemForHandle records r.serviceRecordHandle with
      | none => some (sdpCreateErrorResponse r.transactionId 0x0002)
      | some item =>
          match attributeListHeader fuel item.serviceRecord r.attributeIDList r.continuationOffset maximum with
          | none => none
          | some (des, maximum) =>
              match sdpFilterAttributesInAttributeIDList fuel item.serviceRecord r.attributeIDList r.continuationOffset
                maximum with
              | none => none
              | some c =>
                  let continuation :=
                    if c.complete then [0] else 2 :: toBE 2 (uint16 (r.continuationOffset + c.usedBytes : Nat))
                  some (attributeResponse 5 r.transactionId (des ++ c.buffer) continuation)

/-! ## Searching for attributes -/

/-- What `sdp_handle_service_search_attribute_request` reads in its packet. -/
structure ServiceSearchAttributeRequest where
  transactionId : Nat
  serviceSearchPattern : Ptr
  maximumAttributeByteCount : Nat
  attributeIDList : Ptr
  continuationServiceIndex : Nat
  continuationOffset : Nat

/-- Reading the request; `none` is a request that is dropped. The length of the attribute ids is not taken off what is
    left of the parameters. -/
def parseServiceSearchAttributeRequest (packet : Ptr) : Option ServiceSearchAttributeRequest :=
  let paramLen := bigEndianRead16 packet 3
  let serviceSearchPattern := packet.add 5
  let serviceSearchPatternLen := deGetLenSafe serviceSearchPattern paramLen
  if serviceSearchPatternLen = 0 then none
  else
    let paramLen := paramLen - serviceSearchPatternLen
    if paramLen < 2 then none
    else
      let paramLen := paramLen - 2
      let attributeIDList := packet.add (5 + serviceSearchPatternLen + 2 : Nat)
      let attributeIDListLen := deGetLenSafe attributeIDList paramLen
      if attributeIDListLen = 0 then none
      else if paramLen < 1 then none
      else
        let continuationState := packet.add (5 + serviceSearchPatternLen + 2 + attributeIDListLen : Nat)
        if 1 + (continuationState 0).toNat > paramLen then none
        else some
          { transactionId := bigEndianRead16 packet 1
            serviceSearchPattern := serviceSearchPattern
            maximumAttributeByteCount := bigEndianRead16 packet (5 + serviceSearchPatternLen : Nat)
            attributeIDList := attributeIDList
            continuationServiceIndex := if continuationState 0 = 4 then bigEndianRead16 continuationState 1 else 0
            continuationOffset := if continuationState 0 = 4 then bigEndianRead16 continuationState 3 else 0 }

/-- `sdp_get_size_for_service_search_attribute_response`. -/
def sdpGetSizeForServiceSearchAttributeResponse (fuel : Nat) (serviceSearchPattern attributeIDList : Ptr) :
    List ServiceRecordItem → Nat → Option Nat
  | [], total => some total
  | item :: items, total =>
      match sdpRecordMatchesServiceSearchPattern fuel item.serviceRecord serviceSearchPattern with
      | none => none
      | some false => sdpGetSizeForServiceSearchAttributeResponse fuel serviceSearchPattern attributeIDList items total
      | some true =>
          match spdGetFilteredSize fuel item.serviceRecord attributeIDList with
          | none => none
          | some size =>
              sdpGetSizeForServiceSearchAttributeResponse fuel serviceSearchPattern attributeIDList items
                (uint16 (total + (3 + size) : Nat))

/-- What the loop over the records keeps: the attribute lists so far, what is left of the byte count, the offset into the
    next record, and whether nothing has been put into the response yet. -/
structure AttributeLists where
  attributeLists : Bytes
  maximumAttributeByteCount : Nat
  continuationOffset : Nat
  firstAnswer : Bool

/-- The header of a record's list, when it is begun; `some none` says that the record does not fit behind what is there
    already. -/
def beginRecord (fuel : Nat) (record attributeIDList : Ptr) (a : AttributeLists) : Option (Option AttributeLists) :=
  if a.continuationOffset = 0 then
    match spdGetFilteredSize fuel record attributeIDList with
    | none => none
    | some filteredAttributesSize =>
        if filteredAttributesSize + 3 > a.maximumAttributeByteCount ∧ a.firstAnswer = false then some none
        else some (some { a with
          attributeLists := a.attributeLists ++ header typeSequence 6 filteredAttributesSize
          maximumAttributeByteCount := uint16 ((a.maximumAttributeByteCount : Int) - 3) })
  else some (some a)

/-- The attributes that have been copied are behind the others. -/
def addAttributes (a : AttributeLists) (c : FilterAttributes) : AttributeLists where
  attributeLists := a.attributeLists ++ c.buffer
  maximumAttributeByteCount := uint16 ((a.maximumAttributeByteCount : Int) - c.usedBytes)
  continuationOffset := if c.complete then 0 else uint16 (a.continuationOffset + c.usedBytes : Nat)
  firstAnswer := false

/-- The loop over the records; the second result is the index to go on with if there is more. -/
def searchAttributeLoop (fuel : Nat) (r : ServiceSearchAttributeRequest) :
    List ServiceRecordItem → Nat → AttributeLists → Option (AttributeLists × Option Nat)
  | [], _, a => some (a, none)
  | item :: items, index, a =>
      if index < r.continuationServiceIndex then searchAttributeLoop fuel r items (uint16 (index + 1 : Nat)) a
      else
        match sdpRecordMatchesServiceSearchPattern fuel item.serviceRecord r.serviceSearchPattern with
        | none => none
        | some false => searchAttributeLoop fuel r items (uint16 (index + 1 : Nat)) a
        | some true =>
            match beginRecord fuel item.serviceRecord r.attributeIDList a with
            | none => none
            | some none => some (a, some index)
            | some (some a) =>
                match sdpFilterAttributesInAttributeIDList fuel item.serviceRecord r.attributeIDList
                  a.continuationOffset a.maximumAttributeByteCount with
                | none => none
                | some c =>
                    if c.complete then searchAttributeLoop fuel r items (uint16 (index + 1 : Nat)) (addAttributes a c)
                    else some (addAttributes a c, some index)

/-- The total size in front of all the lists, in a request without a continuation. -/
def beginLists (fuel : Nat) (records : List ServiceRecordItem) (r : ServiceSearchAttributeRequest) (maximum : Nat) :
    Option AttributeLists :=
  if r.continuationServiceIndex = 0 ∧ r.continuationOffset = 0 then
    match sdpGetSizeForServiceSearchAttributeResponse fuel r.serviceSearchPattern r.attributeIDList records 0 with
    | none => none
    | some total => some ⟨header typeSequence 6 total, uint16 ((maximum : Int) - 3), r.continuationOffset, true⟩
  else some ⟨[], maximum, r.continuationOffset, true⟩

/-- `sdp_handle_service_search_attribute_request`. -/
def sdpHandleServiceSearchAttributeRequest (fuel : Nat) (records : List ServiceRecordItem) (packet : Ptr)
    (remoteMtu : Nat) : Option Bytes :=
  match parseServiceSearchAttributeRequest packet with
  | none => some []
  | some r =>
      let maximumAttributeByteCount2 := uint16 ((remoteMtu : Int) - 12)
      let maximum :=
        if maximumAttributeByteCount2 < r.maximumAttributeByteCount then maximumAttributeByteCount2
        else r.maximumAttributeByteCount
      match beginLists fuel records r maximum with
      | none => none
      | some a =>
          match searchAttributeLoop fuel r records 0 a with
          | none => none
          | some (a, none) => some (attributeResponse 7 r.transactionId a.attributeLists [0])
          | some (a, some index) =>
              some (attributeResponse 7 r.transactionId a.attributeLists
                (4 :: (toBE 2 index ++ toBE 2 a.continuationOffset)))

/-! ## Data packets -/

/-- `L2CAP_DATA_PACKET` in `sdp_packet_handler`: the response to a packet of `size` bytes. -/
def sdpPacketData (fuel : Nat) (records : List ServiceRecordItem) (packet : Ptr) (size remoteMtu : Nat) :
    Option Bytes :=
  let transactionId := bigEndianRead16 packet 1
  let paramLen := bigEndianRead16 packet 3
  let remoteMtu := if remoteMtu > sdpResponseBufferSize then sdpResponseBufferSize else remoteMtu
  let pduId := if paramLen + 5 > size then 1 else packet 0
  if pduId = 2 then sdpHandleServiceSearchRequest fuel records packet remoteMtu
  else if pduId = 4 then sdpHandleServiceAttributeRequest fuel records packet remoteMtu
  else if pduId = 6 then sdpHandleServiceSearchAttributeRequest fuel records packet remoteMtu
  else some (sdpCreateErrorResponse transactionId 0x0003)

/-! ## Well-formed requests

A request is read at a pointer, one number at a time. The numbers are found first where the request stands
(`read16_front`, `bigEndianRead16_add`), then the continuation at its end; each parser is rewritten with these. -/

/-- A PDU: its id, a transaction id, the length of the parameters, and the parameters. -/
def sdpPdu (pduId : UInt8) (transactionId : Nat) (params : Bytes) : Bytes :=
  pduId :: (toBE 2 transactionId ++ toBE 2 params.length ++ params)

theorem sdpPdu_length (pduId : UInt8) (transactionId : Nat) (params : Bytes) :
    (sdpPdu pduId transactionId params).length = params.length + 5 := by
  rw [sdpPdu, List.length_cons, List.length_append, List.length_append, toBE_length, toBE_length]
  omega

/-- The continuation state at the end of a request. -/
def continuationState (k : Bytes) : Bytes := UInt8.ofNat k.length :: k

/-- The parameters of the three requests. -/
def searchParams (pattern : Element) (maximum : Nat) (k : Bytes) : Bytes :=
  pattern.encode ++ (toBE 2 maximum ++ continuationState k)

def attributeParams (handle maximum : Nat) (ids : Element) (k : Bytes) : Bytes :=
  toBE 4 handle ++ (toBE 2 maximum ++ (ids.encode ++ continuationState k))

def searchAttributeParams (pattern : Element) (maximum : Nat) (ids : Element) (k : Bytes) : Bytes :=
  pattern.encode ++ (toBE 2 maximum ++ (ids.encode ++ continuationState k))

section Requests

variable {packet p : Ptr} {pduId : UInt8} {transactionId maximum handle : Nat} {params k rest : Bytes}
  {pattern ids : Element}

/-- A number of two bytes at the front of what stands somewhere. -/
theorem read16_front {n : Nat} (h : p.Holds (toBE 2 n ++ rest)) : bigEndianRead16 p 0 = n % 65536 := by
  have hread := h.left
  rw [Ptr.Holds, toBE_length] at hread
  rw [bigEndianRead16, hread, ofBE_toBE]
  rfl

theorem read32_front {n : Nat} (h : p.Holds (toBE 4 n ++ rest)) : bigEndianRead32 p 0 = n % 2 ^ 32 := by
  have hread := h.left
  rw [Ptr.Holds, toBE_length] at hread
  rw [bigEndianRead32, hread, ofBE_toBE]
  rfl

theorem bigEndianRead16_add (p : Ptr) (m n : Int) : bigEndianRead16 (p.add m) n = bigEndianRead16 p (m + n) := by
  rw [bigEndianRead16, bigEndianRead16, Ptr.read_add]

theorem bigEndianRead32_add (p : Ptr) (m n : Int) : bigEndianRead32 (p.add m) n = bigEndianRead32 p (m + n) := by
  rw [bigEndianRead32, bigEndianRead32, Ptr.read_add]

/-- The header of a PDU. -/
theorem sdpPdu_read (h : packet.Holds (sdpPdu pduId transactionId params)) (hlen : params.length < 65536) :
    packet 0 = pduId ∧ bigEndianRead16 packet 1 = transactionId % 65536 ∧ bigEndianRead16 packet 3 = params.length ∧
      (packet.add 5).Holds params := by
  rw [sdpPdu, Ptr.holds_cons, List.append_assoc] at h
  obtain ⟨hid, h⟩ := h
  have htid := read16_front h
  have h' := h.right
  rw [toBE_length, Ptr.add_add] at h'
  have hsize := read16_front h'
  have hparams := h'.right
  rw [toBE_length, Ptr.add_add] at hparams
  rw [bigEndianRead16_add] at htid hsize
  exact ⟨hid, htid, hsize.trans (Nat.mod_eq_of_lt hlen), hparams⟩

/-- The continuation state of a request, which is at most 16 bytes long. -/
theorem continuationState_read (h : p.Holds (continuationState k)) (hk : k.length ≤ 16) :
    (p 0).toNat = k.length ∧ (p.add 1).Holds k := by
  rw [continuationState, Ptr.holds_cons] at h
  refine ⟨?_, h.2⟩
  rw [h.1, UInt8.toNat_ofNat']
  omega

theorem continuation_first (h : p.Holds (continuationState k)) (hk : k.length ≤ 16) {n : Nat} (hn : n < 256) :
    p 0 = UInt8.ofNat n ↔ k.length = n := by
  have hlen := (continuationState_read h hk).1
  rw [← hlen, ← UInt8.toNat_inj, UInt8.toNat_ofNat', Nat.mod_eq_of_lt (by omega : n < 2 ^ 8)]

/-- The index in a continuation of a search. -/
def searchContinuation (k : Bytes) : Nat := if k.length = 2 then ofBE k else 0

/-- The index and the offset in a continuation of a search for attributes. -/
def searchAttributeContinuation (k : Bytes) : Nat × Nat :=
  if k.length = 4 then (ofBE (k.take 2), ofBE (k.drop 2)) else (0, 0)

theorem searchContinuation_read (h : p.Holds (continuationState k)) (hk : k.length ≤ 16) :
    (if p 0 = 2 then bigEndianRead16 p 1 else 0) = searchContinuation k := by
  have hfirst : p 0 = 2 ↔ k.length = 2 := continuation_first h hk (by decide)
  have hdata := (continuationState_read h hk).2
  rw [searchContinuation]
  by_cases h2 : k.length = 2
  · have hread := hdata
    rw [Ptr.Holds, h2, Ptr.read_add] at hread
    rw [if_pos (hfirst.mpr h2), if_pos h2]
    exact congrArg ofBE hread
  · rw [if_neg (fun hp => h2 (hfirst.mp hp)), if_neg h2]

theorem searchAttributeContinuation_read (h : p.Holds (continuationState k)) (hk : k.length ≤ 16) :
    (if p 0 = 4 then bigEndianRead16 p 1 else 0) = (searchAttributeContinuation k).1 ∧
      (if p 0 = 4 then bigEndianRead16 p 3 else 0) = (searchAttributeContinuation k).2 := by
  have hfirst : p 0 = 4 ↔ k.length = 4 := continuation_first h hk (by decide)
  have hdata := (continuationState_read h hk).2
  rw [searchAttributeContinuation]
  by_cases h4 : k.length = 4
  · have hlo := hdata.read 0 2 (by omega)
    have hhi := hdata.read 2 2 (by omega)
    rw [Ptr.read_add, List.drop_zero] at hlo
    rw [Ptr.read_add, List.take_of_length_le (by rw [List.length_drop]; omega)] at hhi
    rw [if_pos (hfirst.mpr h4), if_pos (hfirst.mpr h4), if_pos h4]
    exact ⟨congrArg ofBE hlo, congrArg ofBE hhi⟩
  · rw [if_neg (fun hp => h4 (hfirst.mp hp)), if_neg (fun hp => h4 (hfirst.mp hp)), if_neg h4]
    exact ⟨rfl, rfl⟩

theorem continuationState_length (k : Bytes) : (continuationState k).length = 1 + k.length := by
  rw [continuationState, List.length_cons, Nat.add_comm]

/-- **A search request is read as it is meant.** -/
theorem parseServiceSearchRequest_eq (hwf : pattern.wf = true) (hk : k.length ≤ 16)
    (hlen : (searchParams pattern maximum k).length < 65536)
    (h : packet.Holds (sdpPdu pduId transactionId (searchParams pattern maximum k))) :
    ∃ r, parseServiceSearchRequest packet = some r ∧ r.transactionId = transactionId % 65536 ∧
      r.serviceSearchPattern.Holds pattern.encode ∧ r.maximumServiceRecordCount = maximum % 65536 ∧
      r.continuationIndex = searchContinuation k := by
  obtain ⟨-, htid, hsize, hparams⟩ := sdpPdu_read h hlen
  rw [searchParams, List.length_append, List.length_append, toBE_length, continuationState_length] at hlen hsize
  rw [searchParams] at hparams
  change (packet.add ((5 : Nat) : Int)).Holds _ at hparams
  have hpos := Element.encode_length_pos pattern
  have hpattern := hparams.left
  have hbehind := hparams.right
  rw [Ptr.add_add, ← Int.natCast_add] at hbehind
  have hmaximum := read16_front hbehind
  have hstate := hbehind.right
  rw [bigEndianRead16_add, Int.add_zero] at hmaximum
  rw [toBE_length, Ptr.add_add, ← Int.natCast_add] at hstate
  have hcont := searchContinuation_read hstate hk
  have hcontLen := (continuationState_read hstate hk).1
  refine ⟨⟨bigEndianRead16 packet 1, packet.add 5, bigEndianRead16 packet (5 + pattern.encode.length : Nat), _⟩, ?_, htid,
    hpattern, hmaximum, hcont⟩
  have hpatternLen : deGetLenSafe (packet.add 5) (pattern.encode.length + (2 + (1 + k.length))) =
      pattern.encode.length := deGetLenSafe_eq hwf hpattern hlen (by omega)
  simp only [parseServiceSearchRequest, hsize, hpatternLen, hcontLen]
  rw [if_neg (by omega), if_neg (by omega), if_neg (by omega), if_neg (by omega)]
  rfl

/-- **A request for the attributes of a record is read as it is meant.** -/
theorem parseServiceAttributeRequest_eq (hwf : ids.wf = true) (hk : k.length ≤ 16)
    (hlen : (attributeParams handle maximum ids k).length < 65536)
    (h : packet.Holds (sdpPdu pduId transactionId (attributeParams handle maximum ids k))) :
    ∃ r, parseServiceAttributeRequest packet = some r ∧ r.transactionId = transactionId % 65536 ∧
      r.serviceRecordHandle = handle % 2 ^ 32 ∧ r.maximumAttributeByteCount = maximum % 65536 ∧
      r.attributeIDList.Holds ids.encode ∧ r.continuationOffset = searchContinuation k := by
  obtain ⟨-, htid, hsize, hparams⟩ := sdpPdu_read h hlen
  rw [attributeParams, List.length_append, List.length_append, List.length_append, toBE_length, toBE_length,
    continuationState_length] at hlen hsize
  rw [attributeParams] at hparams
  have hpos := Element.encode_length_pos ids
  have hhandle := read32_front hparams
  have hbehind := hparams.right
  rw [toBE_length, Ptr.add_add] at hbehind
  have hmaximum := read16_front hbehind
  have hrest := hbehind.right
  rw [toBE_length, Ptr.add_add] at hrest
  have hids : (packet.add 11).Holds ids.encode := hrest.left
  have hstate := hrest.right
  rw [Ptr.add_add] at hstate
  have hplace : (5 + ((4 : Nat) : Int) + ((2 : Nat) : Int) + (ids.encode.length : Int)) =
      ((11 + ids.encode.length : Nat) : Int) := by omega
  rw [hplace] at hstate
  rw [bigEndianRead32_add] at hhandle
  rw [bigEndianRead16_add] at hmaximum
  have hcont := searchContinuation_read hstate hk
  have hcontLen := (continuationState_read hstate hk).1
  refine ⟨⟨bigEndianRead16 packet 1, bigEndianRead32 packet 5, bigEndianRead16 packet 9, packet.add 11, _⟩, ?_, htid,
    hhandle, hmaximum, hids, hcont⟩
  simp only [parseServiceAttributeRequest, hsize]
  rw [if_neg (by omega)]
  have hidsLen : deGetLenSafe (packet.add 11) (4 + (2 + (ids.encode.length + (1 + k.length))) - 6) = ids.encode.length :=
    deGetLenSafe_eq hwf hids (by omega) (by omega)
  simp only [hidsLen, hcontLen]
  rw [if_neg (by omega), if_neg (by omega), if_neg (by omega)]
  rfl

/-- **A search for attributes is read as it is meant.** -/
theorem parseServiceSearchAttributeRequest_eq (hwf : pattern.wf = true) (hidsWf : ids.wf = true) (hk : k.length ≤ 16)
    (hlen : (searchAttributeParams pattern maximum ids k).length < 65536)
    (h : packet.Holds (sdpPdu pduId transactionId (searchAttributeParams pattern maximum ids k))) :
    ∃ r, parseServiceSearchAttributeRequest packet = some r ∧ r.transactionId = transactionId % 65536 ∧
      r.serviceSearchPattern.Holds pattern.encode ∧ r.maximumAttributeByteCount = maximum % 65536 ∧
      r.attributeIDList.Holds ids.encode ∧
      (r.continuationServiceIndex, r.continuationOffset) = searchAttributeContinuation k := by
  obtain ⟨-, htid, hsize, hparams⟩ := sdpPdu_read h hlen
  rw [searchAttributeParams, List.length_append, List.length_append, List.length_append, toBE_length,
    continuationState_length] at hlen hsize
  rw [searchAttributeParams] at hparams
  change (packet.add ((5 : Nat) : Int)).Holds _ at hparams
  have hpos := Element.encode_length_pos pattern
  have hidsPos := Element.encode_length_pos ids
  have hpattern := hparams.left
  have hbehind := hparams.right
  rw [Ptr.add_add, ← Int.natCast_add] at hbehind
  have hmaximum := read16_front hbehind
  have hrest := hbehind.right
  rw [toBE_length, Ptr.add_add, ← Int.natCast_add] at hrest
  have hids := hrest.left
  have hstate := hrest.right
  rw [Ptr.add_add, ← Int.natCast_add] at hstate
  rw [bigEndianRead16_add, Int.add_zero] at hmaximum
  have hcont := searchAttributeContinuation_read hstate hk
  have hcontLen := (continuationState_read hstate hk).1
  refine ⟨⟨bigEndianRead16 packet 1, packet.add 5, bigEndianRead16 packet (5 + pattern.encode.length : Nat),
    packet.add (5 + pattern.encode.length + 2 : Nat), _, _⟩, ?_, htid, hpattern, hmaximum, hids,
    Prod.ext hcont.1 hcont.2⟩
  have hpatternLen : deGetLenSafe (packet.add 5)
      (pattern.encode.length + (2 + (ids.encode.length + (1 + k.length)))) = pattern.encode.length :=
    deGetLenSafe_eq hwf hpattern hlen (by omega)
  simp only [parseServiceSearchAttributeRequest, hsize, hpatternLen]
  rw [if_neg (by omega), if_neg (by omega)]
  simp only [deGetLenSafe_eq hidsWf hids
    (n := pattern.encode.length + (2 + (ids.encode.length + (1 + k.length))) - pattern.encode.length - 2) (by omega)
    (by omega), hcontLen]
  rw [if_neg (by omega), if_neg (by omega), if_neg (by omega)]
  rfl

end Requests

end Showcase.Btstack
