import Mathlib.Data.List.Flatten
import Showcase.Bt.Handler
import Showcase.Lib.DataElement
import Showcase.Lib.Pointer

/-!
# `Btstack.SdpUtil` — the data elements of `sdp_util.c`

The getters of a data element, the two traversals, and what the SDP server does with them: matching a service search
pattern, and picking attributes out of a record. Elements are read at a pointer, and what the code relies on is that the
bytes of a well-formed element stand there; then the getters say what the element is, a traversal ends, and it calls its
handler for the elements in their order.

A traversal goes on by the length that an element claims. Its loop has a bound on its iterations here, and no result when
they are not enough: an element can claim a length of 0.

## Contents
- `deGetLen` and the other getters — for a well-formed element they give its header;
- `deTraverseSequence`, `sdpAttributeListTraverseSequence` — the traversals, as `foldUntil` over the elements;
- `sdpFilterAttributesInAttributeIDList` — a range of the selected attributes;
- **`search_matches_iff`** — a record matches a pattern exactly when it has every UUID of the pattern somewhere.
-/

namespace Showcase.Btstack

open Lib DataElement

/-! ## Reading numbers -/

/-- `big_endian_read_16`. -/
def bigEndianRead16 (buffer : Ptr) (pos : Int) : Nat := ofBE (buffer.read pos 2)

/-- `big_endian_read_32`. -/
def bigEndianRead32 (buffer : Ptr) (pos : Int) : Nat := ofBE (buffer.read pos 4)

/-- The conversion to `uint16_t`. -/
def uint16 (n : Int) : Nat := (n % 65536).toNat

/-- The conversion of an unsigned number to `int`. -/
def toInt (n : Nat) : Int := if n % 2 ^ 32 < 2 ^ 31 then (n % 2 ^ 32 : Nat) else (n % 2 ^ 32 : Nat) - 2 ^ 32

/-! ## Getters -/

/-- `de_get_size_type`. -/
def deGetSizeType (header : Ptr) : Nat := (header 0).toNat % 8

/-- `de_get_element_type`. -/
def deGetElementType (header : Ptr) : Nat := (header 0).toNat / 8

/-- `de_get_header_size`. -/
def deGetHeaderSize (header : Ptr) : Nat :=
  if deGetSizeType header ≤ 4 then 1 else 1 + 2 ^ (deGetSizeType header - 5)

/-- `de_get_data_size`. -/
def deGetDataSize (header : Ptr) : Nat :=
  if deGetSizeType header = 5 then (header 1).toNat
  else if deGetSizeType header = 6 then bigEndianRead16 header 1
  else if deGetSizeType header = 7 then bigEndianRead32 header 1
  else if deGetElementType header = typeNil then 0
  else 2 ^ deGetSizeType header

/-- `de_get_len`. -/
def deGetLen (header : Ptr) : Int := toInt (deGetHeaderSize header + deGetDataSize header)

/-- `de_get_len_safe`. -/
def deGetLenSafe (header : Ptr) (size : Nat) : Nat :=
  if 1 > size then 0
  else if deGetHeaderSize header > size then 0
  else if deGetDataSize header > size then 0
  else if (deGetHeaderSize header + deGetDataSize header) % 2 ^ 32 > size then 0
  else (deGetHeaderSize header + deGetDataSize header) % 2 ^ 32

/-- `uuid_add_bluetooth_prefix`. -/
def uuidAddBluetoothPrefix (shortUUID : Nat) : Bytes := toBE 4 shortUUID ++ baseUuidTail

/-- `de_get_normalized_uuid`: the UUID in the long form, if the element is one. -/
def deGetNormalizedUuid (element : Ptr) : Option Bytes :=
  if deGetElementType element ≠ typeUuid then none
  else if deGetSizeType element = 1 then some (uuidAddBluetoothPrefix (bigEndianRead16 element 1))
  else if deGetSizeType element = 2 then some (uuidAddBluetoothPrefix (bigEndianRead32 element 1))
  else if deGetSizeType element = 4 then some (element.read 1 16)
  else none

/-! ## Traversals -/

section Traversals

variable {σ : Type}

/-- The loop of `de_traverse_sequence`. A handler gets an element, its type and its size index, and says whether it is
    done; `none` is a handler that does not come to an end. -/
def deTraverseLoop (element : Ptr) (handler : Ptr → Nat → Nat → σ → Option (σ × Bool)) (endPos : Int) :
    Nat → Int → σ → Option σ
  | 0, _, _ => none
  | fuel + 1, pos, context =>
      if pos < endPos then
        let item := element.add pos
        match handler item (deGetElementType item) (deGetSizeType item) context with
        | none => none
        | some (context, true) => some context
        | some (context, false) => deTraverseLoop element handler endPos fuel (pos + deGetLen item) context
      else some context

/-- `de_traverse_sequence`. -/
def deTraverseSequence (fuel : Nat) (element : Ptr) (handler : Ptr → Nat → Nat → σ → Option (σ × Bool)) (context : σ) :
    Option σ :=
  if deGetElementType element ≠ typeSequence then some context
  else deTraverseLoop element handler (deGetLen element) fuel (deGetHeaderSize element) context

/-- The loop of `sdp_attribute_list_traverse_sequence`. -/
def sdpAttributeListTraverseLoop (element : Ptr) (handler : Nat → Ptr → σ → Option (σ × Bool)) (endPos : Int) :
    Nat → Int → σ → Option σ
  | 0, _, _ => none
  | fuel + 1, pos, context =>
      if pos < endPos then
        let id := element.add pos
        if deGetElementType id ≠ typeUint ∨ deGetSizeType id ≠ 1 then some context
        else
          let attributeId := bigEndianRead16 element (pos + 1)
          let pos := pos + 3
          if pos ≥ endPos then some context
          else
            let value := element.add pos
            match handler attributeId value context with
            | none => none
            | some (context, true) => some context
            | some (context, false) =>
                sdpAttributeListTraverseLoop element handler endPos fuel (pos + deGetLen value) context
      else some context

/-- `sdp_attribute_list_traverse_sequence`, for handlers that get an id and its value (none of them looks at the type and
    the size index it is given beside them). -/
def sdpAttributeListTraverseSequence (fuel : Nat) (element : Ptr) (handler : Nat → Ptr → σ → Option (σ × Bool))
    (context : σ) : Option σ :=
  if deGetElementType element ≠ typeSequence then some context
  else sdpAttributeListTraverseLoop element handler (deGetLen element) fuel (deGetHeaderSize element) context

end Traversals

/-! ## Attribute ids -/

/-- `sdp_traversal_attributeID_search`. -/
def sdpTraversalAttributeIDSearch (attributeID : Nat) (element : Ptr) (type size : Nat) (result : Bool) :
    Option (Bool × Bool) :=
  if type ≠ typeUint then some (result, false)
  else if size = 1 then
    if bigEndianRead16 element 1 = attributeID then some (true, true) else some (result, false)
  else if size = 2 then
    if bigEndianRead16 element 1 ≤ attributeID ∧ attributeID ≤ bigEndianRead16 element 3 then some (true, true)
    else some (result, false)
  else some (result, false)

/-- `sdp_attribute_list_constains_id`. -/
def sdpAttributeListConstainsId (fuel : Nat) (attributeIDList : Ptr) (attributeID : Nat) : Option Bool :=
  deTraverseSequence fuel attributeIDList (sdpTraversalAttributeIDSearch attributeID) false

/-! ## Picking attributes -/

/-- `struct sdp_context_filter_attributes`; the buffer is what has been copied to it. -/
structure FilterAttributes where
  buffer : Bytes
  startOffset : Nat
  maxBytes : Nat
  usedBytes : Nat
  complete : Bool

/-- `spd_append_range`. -/
def spdAppendRange (context : FilterAttributes) (len : Int) (data : Ptr) : FilterAttributes × Bool :=
  let remainderLen := uint16 ((uint16 len : Int) - context.startOffset)
  let ok := !decide (context.maxBytes < remainderLen)
  let remainderLen := if context.maxBytes < remainderLen then context.maxBytes else remainderLen
  ({ context with
      buffer := context.buffer ++ data.read context.startOffset remainderLen
      usedBytes := uint16 (context.usedBytes + remainderLen)
      maxBytes := context.maxBytes - remainderLen
      startOffset := 0 }, ok)

/-- The part of `sdp_traversal_filter_attributes` for the id: what is left of it is copied. -/
def filterAttributeId (attributeID : Nat) (context : FilterAttributes) : FilterAttributes × Bool :=
  if context.startOffset ≥ 3 then ({ context with startOffset := context.startOffset - 3 }, true)
  else spdAppendRange context 3 (Ptr.of (UInt8.ofNat (typeUint * 8 + 1) :: toBE 2 attributeID))

/-- The part for the value; the second result says that the traversal is done. -/
def filterAttributeValue (attributeValue : Ptr) (context : FilterAttributes) : FilterAttributes × Bool :=
  let attributeLen := deGetLen attributeValue
  if (context.startOffset : Int) ≥ attributeLen then
    ({ context with startOffset := uint16 (context.startOffset - attributeLen) }, false)
  else
    match spdAppendRange context attributeLen attributeValue with
    | (context, false) => ({ context with complete := false }, true)
    | (context, true) => (context, false)

/-- `sdp_traversal_filter_attributes`. -/
def sdpTraversalFilterAttributes (fuel : Nat) (attributeIDList : Ptr) (attributeID : Nat) (attributeValue : Ptr)
    (context : FilterAttributes) : Option (FilterAttributes × Bool) :=
  match sdpAttributeListConstainsId fuel attributeIDList attributeID with
  | none => none
  | some false => some (context, false)
  | some true =>
      match filterAttributeId attributeID context with
      | (context, false) => some ({ context with complete := false }, true)
      | (context, true) => some (filterAttributeValue attributeValue context)

/-- `sdp_filter_attributes_in_attributeIDList`: what is copied, and whether this is all there is from the offset on. -/
def sdpFilterAttributesInAttributeIDList (fuel : Nat) (record attributeIDList : Ptr) (startOffset maxBytes : Nat) :
    Option FilterAttributes :=
  sdpAttributeListTraverseSequence fuel record (sdpTraversalFilterAttributes fuel attributeIDList)
    ⟨[], startOffset, maxBytes, 0, true⟩

/-- `sdp_traversal_get_filtered_size`. -/
def sdpTraversalGetFilteredSize (fuel : Nat) (attributeIDList : Ptr) (attributeID : Nat) (attributeValue : Ptr)
    (size : Nat) : Option (Nat × Bool) :=
  match sdpAttributeListConstainsId fuel attributeIDList attributeID with
  | none => none
  | some false => some (size, false)
  | some true => some (uint16 (size + (3 + deGetLen attributeValue)), false)

/-- `spd_get_filtered_size`. -/
def spdGetFilteredSize (fuel : Nat) (record attributeIDList : Ptr) : Option Nat :=
  sdpAttributeListTraverseSequence fuel record (sdpTraversalGetFilteredSize fuel attributeIDList) 0

/-- `sdp_get_attribute_value_for_attribute_id`; `some none` is NULL. -/
def sdpGetAttributeValueForAttributeId (fuel : Nat) (record : Ptr) (attributeID : Nat) : Option (Option Ptr) :=
  sdpAttributeListTraverseSequence fuel record
    (fun id value found => if attributeID = id then some (some value, true) else some (found, false)) none

/-! ## Matching -/

/-- `sdp_record_contains_UUID128`, with its handler `sdp_traversal_contains_UUID128`; it goes into the sequences of the
    record. -/
def sdpRecordContainsUUID128 : Nat → Ptr → Bytes → Option Bool
  | 0, _, _ => none
  | fuel + 1, record, uuid128 =>
      deTraverseSequence (fuel + 1) record
        (fun element type _ result =>
          let result := if type = typeUuid then deGetNormalizedUuid element == some uuid128 else result
          if type = typeSequence then
            match sdpRecordContainsUUID128 fuel element uuid128 with
            | none => none
            | some result => some (result, result)
          else some (result, result)) false

/-- `sdp_traversal_match_pattern`. -/
def sdpTraversalMatchPattern (fuel : Nat) (record : Ptr) (element : Ptr) (_type _size : Nat) (result : Bool) :
    Option (Bool × Bool) :=
  match deGetNormalizedUuid element with
  | none => some (false, true)
  | some normalizedUUID =>
      match sdpRecordContainsUUID128 fuel record normalizedUUID with
      | none => none
      | some false => some (false, true)
      | some true => some (result, false)

/-- `sdp_record_matches_service_search_pattern`. -/
def sdpRecordMatchesServiceSearchPattern (fuel : Nat) (record serviceSearchPattern : Ptr) : Option Bool :=
  deTraverseSequence fuel serviceSearchPattern (sdpTraversalMatchPattern fuel record) true

/-! ## The getters on a well-formed element -/

section Getters

variable {p : Ptr} {type size len : Nat} {rest : Bytes} {e : Element}

theorem header_first (hfits : Fits type size len) (h : p.Holds (header type size len ++ rest)) :
    (p 0).toNat = type * 8 + size := by
  obtain ⟨htype, hsize, -⟩ := hfits
  rw [header, List.cons_append, Ptr.holds_cons] at h
  rw [h.1, UInt8.toNat_ofNat']
  omega

theorem deGetElementType_header (hfits : Fits type size len) (h : p.Holds (header type size len ++ rest)) :
    deGetElementType p = type := by
  have hsize := hfits.2.1
  rw [deGetElementType, header_first hfits h]
  omega

theorem deGetSizeType_header (hfits : Fits type size len) (h : p.Holds (header type size len ++ rest)) :
    deGetSizeType p = size := by
  have hsize := hfits.2.1
  rw [deGetSizeType, header_first hfits h]
  omega

theorem deGetHeaderSize_header (hfits : Fits type size len) (h : p.Holds (header type size len ++ rest)) :
    deGetHeaderSize p = 1 + lengthBytes size := by
  rw [deGetHeaderSize, deGetSizeType_header hfits h, lengthBytes]
  by_cases hsize : size ≤ 4
  · rw [if_pos hsize, if_pos (by omega)]
  · rw [if_neg hsize, if_neg (by omega)]

/-- The length in front of the data. -/
theorem read_length_bytes (h : p.Holds (header type size len ++ rest)) :
    p.read 1 (lengthBytes size) = toBE (lengthBytes size) len := by
  rw [header, List.cons_append, Ptr.holds_cons] at h
  have hread := h.2.left
  rw [Ptr.Holds, toBE_length, Ptr.read_add, Int.add_zero] at hread
  exact hread

theorem deGetDataSize_header (hfits : Fits type size len) (h : p.Holds (header type size len ++ rest)) :
    deGetDataSize p = len := by
  have htype := deGetElementType_header hfits h
  have hindex := deGetSizeType_header hfits h
  have hread := read_length_bytes h
  obtain ⟨-, hsize, hlen⟩ := hfits
  have hvalue : ¬ size < 5 → ofBE (p.read 1 (lengthBytes size)) = len := by
    intro hvar
    rw [if_neg hvar] at hlen
    rw [hread, ofBE_toBE, Nat.mod_eq_of_lt hlen]
  rw [deGetDataSize, hindex, htype]
  by_cases h5 : size = 5
  · subst h5
    have hone : p.read 1 (lengthBytes 5) = [p 1] := Ptr.read_one p 1
    rw [if_pos rfl, ← hvalue (by omega), hone, ofBE, List.foldl_cons, List.foldl_nil, Nat.zero_mul, Nat.zero_add]
  by_cases h6 : size = 6
  · subst h6
    rw [if_neg (by omega), if_pos rfl]
    exact hvalue (by omega)
  by_cases h7 : size = 7
  · subst h7
    rw [if_neg (by omega), if_neg (by omega), if_pos rfl]
    exact hvalue (by omega)
  · rw [if_neg h5, if_neg h6, if_neg h7]
    rw [if_pos (by omega)] at hlen
    exact hlen.symm

theorem Element.holds_header (h : p.Holds e.encode) : p.Holds (header e.type e.size e.data.length ++ e.data) := by
  rw [← Element.encode_eq]
  exact h

theorem deGetElementType_eq (hwf : e.wf = true) (h : p.Holds e.encode) : deGetElementType p = e.type :=
  deGetElementType_header (Element.fits_of_wf hwf) (Element.holds_header h)

theorem deGetSizeType_eq (hwf : e.wf = true) (h : p.Holds e.encode) : deGetSizeType p = e.size :=
  deGetSizeType_header (Element.fits_of_wf hwf) (Element.holds_header h)

theorem deGetHeaderSize_eq (hwf : e.wf = true) (h : p.Holds e.encode) : deGetHeaderSize p = 1 + lengthBytes e.size :=
  deGetHeaderSize_header (Element.fits_of_wf hwf) (Element.holds_header h)

theorem deGetDataSize_eq (hwf : e.wf = true) (h : p.Holds e.encode) : deGetDataSize p = e.data.length :=
  deGetDataSize_header (Element.fits_of_wf hwf) (Element.holds_header h)

theorem toInt_small {n : Nat} (h : n < 2 ^ 31) : toInt n = n := by
  have hmod : n % 2 ^ 32 = n := Nat.mod_eq_of_lt (by omega)
  rw [toInt, hmod, if_pos h]

theorem uint16_small {n : Nat} (h : n < 65536) : uint16 n = n := by
  rw [uint16]
  omega

theorem uint16_lt (n : Int) : uint16 n < 65536 := by
  rw [uint16]
  omega

/-- The length that an element claims is its length. -/
theorem deGetLen_eq (hwf : e.wf = true) (h : p.Holds e.encode) (hlen : e.encode.length < 2 ^ 31) :
    deGetLen p = e.encode.length := by
  rw [deGetLen, deGetHeaderSize_eq hwf h, deGetDataSize_eq hwf h, ← Element.encode_length, toInt_small hlen]

theorem deGetLenSafe_eq (hwf : e.wf = true) (h : p.Holds e.encode) {n : Nat} (hn : n < 65536)
    (hle : e.encode.length ≤ n) : deGetLenSafe p n = e.encode.length := by
  have hlen := Element.encode_length e
  have hpos := Element.encode_length_pos e
  have hmod : (1 + lengthBytes e.size + e.data.length) % 2 ^ 32 = e.encode.length := by omega
  rw [deGetLenSafe, deGetHeaderSize_eq hwf h, deGetDataSize_eq hwf h, hmod, if_neg (by omega), if_neg (by omega),
    if_neg (by omega), if_neg (by omega)]

/-- A part of the data. -/
theorem read_data (h : p.Holds e.encode) (off n : Nat) (hle : off + n ≤ e.data.length) :
    p.read ((1 + lengthBytes e.size + off : Nat) : Int) n = (e.data.drop off).take n := by
  have hdata := (Element.holds_header h).right
  rw [header_length] at hdata
  have hread := hdata.read off n hle
  rw [Ptr.read_add] at hread
  rw [← hread, Int.natCast_add]

end Getters

/-! ## The traversals on well-formed elements

A traversal of an encoded list is a fold over its elements that may end early. The bound is on its iterations, of
which there is one for each element. -/

section Traverse

variable {σ : Type} {element : Ptr} {fuel : Nat} {context : σ}

/-- **The loop calls its handler for the elements in their order.** -/
theorem deTraverseLoop_eq {handler : Ptr → Nat → Nat → σ → Option (σ × Bool)} {f : Element → σ → σ × Bool}
    {es : List Element} {pos endPos : Int} (hwf : ∀ e ∈ es, e.wf = true)
    (hholds : (element.add pos).Holds (Element.encodeAll es)) (hend : endPos = pos + (Element.encodeAll es).length)
    (hlen : (Element.encodeAll es).length < 2 ^ 31) (hfuel : es.length < fuel)
    (hhandler : ∀ e ∈ es, ∀ q context, q.Holds e.encode → handler q e.type e.size context = some (f e context)) :
    deTraverseLoop element handler endPos fuel pos context = some (foldUntil f es context) := by
  induction es generalizing fuel pos context with
  | nil =>
      obtain ⟨n, rfl⟩ := Nat.exists_eq_succ_of_ne_zero (Nat.ne_of_gt hfuel)
      have hstop : ¬ pos < endPos := by
        rw [hend, Element.encodeAll]
        simp
      rw [deTraverseLoop, if_neg hstop, foldUntil]
  | cons e es ih =>
      obtain ⟨n, rfl⟩ := Nat.exists_eq_succ_of_ne_zero (Nat.ne_of_gt (Nat.lt_trans (Nat.succ_pos _) hfuel))
      rw [Element.encodeAll_cons] at hholds hend hlen
      rw [List.length_append] at hend hlen
      have hpos := Element.encode_length_pos e
      have hewf := hwf e List.mem_cons_self
      have hgo : pos < endPos := by omega
      have hstep := hhandler e List.mem_cons_self (element.add pos) context hholds.left
      have hnext := hholds.right
      rw [Ptr.add_add] at hnext
      rw [deTraverseLoop, if_pos hgo]
      simp only [deGetElementType_eq hewf hholds.left, deGetSizeType_eq hewf hholds.left, hstep,
        deGetLen_eq hewf hholds.left (by omega)]
      rw [foldUntil]
      cases hf : f e context with
      | mk s done =>
          cases done with
          | true => rfl
          | false =>
              refine ih (fun x hx => hwf x (List.mem_cons_of_mem _ hx)) hnext ?_ (by omega) ?_
                (fun x hx => hhandler x (List.mem_cons_of_mem _ hx))
              · rw [hend]
                omega
              · rw [List.length_cons] at hfuel
                omega

theorem deTraverseSequence_eq (handler : Ptr → Nat → Nat → σ → Option (σ × Bool)) (f : Element → σ → σ × Bool)
    (context : σ) {size : Nat} {es : List Element} (hwf : (Element.sequence size es).wf = true)
    (hholds : element.Holds (Element.sequence size es).encode)
    (hlen : (Element.sequence size es).encode.length < 2 ^ 31) (hfuel : es.length < fuel)
    (hhandler : ∀ e ∈ es, ∀ q context, q.Holds e.encode → handler q e.type e.size context = some (f e context)) :
    deTraverseSequence fuel element handler context = some (foldUntil f es context) := by
  have htype : deGetElementType element = typeSequence := deGetElementType_eq hwf hholds
  have hheader : deGetHeaderSize element = 1 + lengthBytes size := deGetHeaderSize_eq hwf hholds
  have hencode : (Element.sequence size es).encode.length = 1 + lengthBytes size + (Element.encodeAll es).length :=
    Element.encode_length _
  have hdata := (Element.holds_header hholds).right
  rw [header_length] at hdata
  have hwfs := hwf
  rw [Element.wf, Bool.and_eq_true] at hwfs
  rw [deTraverseSequence, if_neg (not_not_intro htype), deGetLen_eq hwf hholds hlen, hheader]
  refine deTraverseLoop_eq (Element.wfAll_iff.mp hwfs.2) hdata ?_ (by omega) hfuel hhandler
  rw [hencode]
  push_cast
  omega

end Traverse

/-! ## Attribute lists -/

/-- The elements of an attribute list: ids and values by turns. -/
def attributeElements (attributes : List (UInt16 × Element)) : List Element :=
  attributes.flatMap fun a => [.value typeUint 1 (toBE 2 a.1.toNat), a.2]

/-- An attribute list with a length of two bytes, as service records have it. -/
def attributeList (attributes : List (UInt16 × Element)) : Element := .sequence 6 (attributeElements attributes)

/-- The bytes of an attribute. -/
def attributeBytes (a : UInt16 × Element) : Bytes := header typeUint 1 2 ++ toBE 2 a.1.toNat ++ a.2.encode

theorem encodeAll_attributeElements (attributes : List (UInt16 × Element)) :
    Element.encodeAll (attributeElements attributes) = attributes.flatMap attributeBytes := by
  induction attributes with
  | nil => rfl
  | cons a attributes ih =>
      have hcons : attributeElements (a :: attributes) =
          .value typeUint 1 (toBE 2 a.1.toNat) :: a.2 :: attributeElements attributes := rfl
      rw [hcons, Element.encodeAll_cons, Element.encodeAll_cons, ih, List.flatMap_cons, attributeBytes, Element.encode,
        toBE_length, ← List.append_assoc]

theorem attributeBytes_length (a : UInt16 × Element) : (attributeBytes a).length = 3 + a.2.encode.length := by
  rw [attributeBytes, List.length_append, List.length_append, header_length, toBE_length]
  rfl

/-- The values of a well-formed attribute list. -/
theorem wf_values {attributes : List (UInt16 × Element)} (hwf : (attributeList attributes).wf = true) :
    ∀ a ∈ attributes, a.2.wf = true := by
  rw [attributeList, Element.wf, Bool.and_eq_true, Element.wfAll_iff] at hwf
  intro a ha
  exact hwf.2 a.2 (List.mem_flatMap.mpr ⟨a, ha, by simp⟩)

section TraverseAttributes

variable {σ τ : Type} {element : Ptr} {fuel : Nat} {context : σ} {t : τ}

/-- **The loop calls its handler for the attributes in their order.** The handler may keep pointers; `Rel` says what its
    context stands for. -/
theorem sdpAttributeListTraverseLoop_rel {handler : Nat → Ptr → σ → Option (σ × Bool)}
    {f : UInt16 × Element → τ → τ × Bool} {attributes : List (UInt16 × Element)} {pos endPos : Int} (Rel : σ → τ → Prop)
    (hwf : ∀ a ∈ attributes, a.2.wf = true) (hholds : (element.add pos).Holds (attributes.flatMap attributeBytes))
    (hend : endPos = pos + (attributes.flatMap attributeBytes).length)
    (hlen : (attributes.flatMap attributeBytes).length < 2 ^ 31) (hfuel : attributes.length < fuel)
    (hcontext : Rel context t)
    (hhandler : ∀ a ∈ attributes, ∀ q context t, Rel context t → q.Holds a.2.encode →
      ∃ context', handler a.1.toNat q context = some (context', (f a t).2) ∧ Rel context' (f a t).1) :
    ∃ context', sdpAttributeListTraverseLoop element handler endPos fuel pos context = some context' ∧
      Rel context' (foldUntil f attributes t) := by
  induction attributes generalizing fuel pos context t with
  | nil =>
      obtain ⟨n, rfl⟩ := Nat.exists_eq_succ_of_ne_zero (Nat.ne_of_gt hfuel)
      have hstop : ¬ pos < endPos := by
        rw [hend, List.flatMap_nil]
        simp
      rw [sdpAttributeListTraverseLoop, if_neg hstop, foldUntil]
      exact ⟨context, rfl, hcontext⟩
  | cons a attributes ih =>
      obtain ⟨n, rfl⟩ := Nat.exists_eq_succ_of_ne_zero (Nat.ne_of_gt (Nat.lt_trans (Nat.succ_pos _) hfuel))
      rw [List.flatMap_cons] at hholds hend hlen
      rw [List.length_append, attributeBytes_length] at hend hlen
      have hpos := Element.encode_length_pos a.2
      have hawf := hwf a List.mem_cons_self
      have hbytes := hholds.left
      have hbehind := hholds.right
      rw [attributeBytes_length, Ptr.add_add] at hbehind
      rw [attributeBytes] at hbytes
      -- the id
      have hfits : Fits typeUint 1 2 := by decide
      have hid : (element.add pos).Holds (header typeUint 1 2 ++ toBE 2 a.1.toNat) := hbytes.left
      have hread : element.read (pos + 1) 2 = toBE 2 a.1.toNat := by
        have hright := hid.right
        rw [Ptr.Holds, toBE_length, Ptr.read_add, Ptr.read_add] at hright
        exact hright
      have hidEq : bigEndianRead16 element (pos + 1) = a.1.toNat := by
        rw [bigEndianRead16, hread, ofBE_toBE]
        exact Nat.mod_eq_of_lt a.1.toNat_lt
      -- its value
      have hvalue := hbytes.right
      rw [List.length_append, header_length, toBE_length, Ptr.add_add] at hvalue
      have hthree : ((1 + lengthBytes 1 + 2 : Nat) : Int) = 3 := rfl
      rw [hthree] at hvalue
      obtain ⟨s, hstep, hrel⟩ := hhandler a List.mem_cons_self (element.add (pos + 3)) context t hcontext hvalue
      have hgo : pos < endPos := by omega
      rw [sdpAttributeListTraverseLoop, if_pos hgo]
      simp only [deGetElementType_header hfits hid, deGetSizeType_header hfits hid, hidEq, hstep, ne_eq,
        not_true_eq_false, or_self, if_false, deGetLen_eq hawf hvalue (by omega)]
      rw [if_neg (by omega), foldUntil]
      cases hf : f a t with
      | mk t' done =>
          rw [hf] at hrel
          cases done with
          | true => exact ⟨s, rfl, hrel⟩
          | false =>
              refine ih (fun x hx => hwf x (List.mem_cons_of_mem _ hx)) ?_ ?_ (by omega) ?_ hrel
                (fun x hx => hhandler x (List.mem_cons_of_mem _ hx))
              · have hsum : pos + ((3 + a.2.encode.length : Nat) : Int) = pos + 3 + a.2.encode.length := by omega
                rw [hsum] at hbehind
                exact hbehind
              · rw [hend]
                omega
              · rw [List.length_cons] at hfuel
                omega

theorem sdpAttributeListTraverseSequence_rel {handler : Nat → Ptr → σ → Option (σ × Bool)}
    {f : UInt16 × Element → τ → τ × Bool} {attributes : List (UInt16 × Element)} (Rel : σ → τ → Prop)
    (hwf : (attributeList attributes).wf = true) (hholds : element.Holds (attributeList attributes).encode)
    (hfuel : attributes.length < fuel) (hcontext : Rel context t)
    (hhandler : ∀ a ∈ attributes, ∀ q context t, Rel context t → q.Holds a.2.encode →
      ∃ context', handler a.1.toNat q context = some (context', (f a t).2) ∧ Rel context' (f a t).1) :
    ∃ context', sdpAttributeListTraverseSequence fuel element handler context = some context' ∧
      Rel context' (foldUntil f attributes t) := by
  have htype : deGetElementType element = typeSequence := deGetElementType_eq hwf hholds
  have hheader : deGetHeaderSize element = 3 := deGetHeaderSize_eq hwf hholds
  have hencode : (attributeList attributes).encode.length = 3 + (attributes.flatMap attributeBytes).length := by
    rw [← encodeAll_attributeElements]
    exact Element.encode_length _
  have hbound : (attributes.flatMap attributeBytes).length < 65536 := by
    have hfits := (Element.fits_of_wf hwf).2.2
    rw [← encodeAll_attributeElements]
    exact hfits
  have hdata := (Element.holds_header hholds).right
  rw [header_length] at hdata
  have hdata' : (element.add 3).Holds (attributes.flatMap attributeBytes) := by
    rw [← encodeAll_attributeElements]
    exact hdata
  rw [sdpAttributeListTraverseSequence, if_neg (not_not_intro htype), deGetLen_eq hwf hholds (by omega), hheader]
  refine sdpAttributeListTraverseLoop_rel Rel (wf_values hwf) hdata' ?_ (by omega) hfuel hcontext hhandler
  rw [hencode]
  push_cast
  omega

theorem sdpAttributeListTraverseSequence_eq {handler : Nat → Ptr → σ → Option (σ × Bool)}
    {f : UInt16 × Element → σ → σ × Bool} {attributes : List (UInt16 × Element)} (Inv : σ → Prop)
    (hwf : (attributeList attributes).wf = true) (hholds : element.Holds (attributeList attributes).encode)
    (hfuel : attributes.length < fuel) (hcontext : Inv context)
    (hhandler : ∀ a ∈ attributes, ∀ q context, Inv context → q.Holds a.2.encode →
      handler a.1.toNat q context = some (f a context) ∧ Inv (f a context).1) :
    sdpAttributeListTraverseSequence fuel element handler context = some (foldUntil f attributes context) := by
  have hrel := sdpAttributeListTraverseSequence_rel (f := f) (fun c t => c = t ∧ Inv t) hwf hholds hfuel ⟨rfl, hcontext⟩
    (fun a ha q c t ⟨hct, ht⟩ hq => by
      subst hct
      obtain ⟨hstep, hinv⟩ := hhandler a ha q c ht hq
      exact ⟨(f a c).1, hstep, rfl, hinv⟩)
  obtain ⟨c, hrun, rfl, -⟩ := hrel
  exact hrun

end TraverseAttributes

/-! ## Selecting attributes -/

/-- An element of an attribute id list covers an id: it is the id, or a range with the id in it. -/
def covers (id : UInt16) (e : Element) : Bool :=
  e.type == typeUint &&
    (e.size == 1 && ofBE e.data == id.toNat ||
      e.size == 2 && decide (ofBE (e.data.take 2) ≤ id.toNat) && decide (id.toNat ≤ ofBE (e.data.drop 2)))

/-- The attributes that a list of ids and ranges selects. -/
def selected (ids : List Element) (attributes : List (UInt16 × Element)) : List (UInt16 × Element) :=
  attributes.filter fun a => ids.any (covers a.1)

/-- The step of a search that ends with the first element that fits. -/
theorem foldUntil_any {α : Type} (f : α → Bool) (as : List α) (b : Bool) :
    foldUntil (fun a (found : Bool) => if f a then (true, true) else (found, false)) as b = (b || as.any f) := by
  induction as with
  | nil => simp [foldUntil]
  | cons a as ih =>
      rw [foldUntil, List.any_cons]
      cases hf : f a with
      | true => simp
      | false => simpa using ih

theorem sdpAttributeListConstainsId_eq {fuel : Nat} {attributeIDList : Ptr} {size : Nat} {ids : List Element}
    (hwf : (Element.sequence size ids).wf = true) (hholds : attributeIDList.Holds (Element.sequence size ids).encode)
    (hlen : (Element.sequence size ids).encode.length < 2 ^ 31) (hfuel : ids.length < fuel) (id : UInt16) :
    sdpAttributeListConstainsId fuel attributeIDList id.toNat = some (ids.any (covers id)) := by
  have hwfs := hwf
  rw [Element.wf, Bool.and_eq_true, Element.wfAll_iff] at hwfs
  have hsteps := deTraverseSequence_eq (sdpTraversalAttributeIDSearch id.toNat)
    (fun e found => if covers id e then (true, true) else (found, false)) false hwf hholds hlen hfuel ?_
  · rw [sdpAttributeListConstainsId, hsteps, foldUntil_any, Bool.false_or]
  · intro e he q found hq
    have hfits := Element.fits_of_wf (hwfs.2 e he)
    obtain ⟨-, -, hdata⟩ := hfits
    unfold sdpTraversalAttributeIDSearch covers
    by_cases htype : e.type = typeUint
    · have hnil : ¬ typeUint = typeNil := by decide
      rw [if_neg (not_not_intro htype)]
      rw [htype, if_neg hnil] at hdata
      by_cases h1 : e.size = 1
      · have hdata2 : e.data.length = 2 := by simpa [h1] using hdata
        have hread : q.read 1 2 = e.data := by
          have hr := read_data hq 0 2 (by omega)
          rw [h1, List.drop_zero, List.take_of_length_le (by omega)] at hr
          exact hr
        rw [if_pos h1, bigEndianRead16, hread]
        by_cases heq : ofBE e.data = id.toNat
        · simp [htype, h1, heq]
        · simp [htype, h1, heq]
      · by_cases h2 : e.size = 2
        · have hdata4 : e.data.length = 4 := by simpa [h2] using hdata
          have hlo : q.read 1 2 = e.data.take 2 := by
            have hr := read_data hq 0 2 (by omega)
            rw [h2, List.drop_zero] at hr
            exact hr
          have hhi : q.read 3 2 = e.data.drop 2 := by
            have hr := read_data hq 2 2 (by omega)
            rw [h2, List.take_of_length_le (by rw [List.length_drop]; omega)] at hr
            exact hr
          rw [if_neg h1, if_pos h2, bigEndianRead16, bigEndianRead16, hlo, hhi]
          by_cases hrange : ofBE (e.data.take 2) ≤ id.toNat ∧ id.toNat ≤ ofBE (e.data.drop 2)
          · simp [htype, h2, hrange.1, hrange.2]
          · rw [if_neg hrange]
            have hno : ¬ (ofBE (e.data.take 2) ≤ id.toNat ∧ id.toNat ≤ ofBE (e.data.drop 2)) := hrange
            simp only [htype, h2, beq_self_eq_true, Bool.true_and, show ((2 : Nat) == 1) = false from rfl,
              Bool.false_and, Bool.false_or, Bool.and_eq_true, decide_eq_true_eq, if_neg hno]
        · simp [htype, h1, h2]
    · rw [if_pos htype]
      simp [htype]

/-! ## A range of the selected attributes -/

/-- All of the selected attributes. -/
def filteredBytes (ids : List Element) (attributes : List (UInt16 × Element)) : Bytes :=
  (selected ids attributes).flatMap attributeBytes

/-- All of the bytes `b` that the range has is copied. -/
def fitsRange (b : Bytes) (c : FilterAttributes) : Bool := decide (b.length ≤ c.startOffset + c.maxBytes)

/-- What becomes of the context over the bytes `b`: the part of them that is in the range is copied. -/
def advance (b : Bytes) (c : FilterAttributes) : FilterAttributes where
  buffer := c.buffer ++ (b.drop c.startOffset).take c.maxBytes
  startOffset := c.startOffset - b.length
  maxBytes := c.maxBytes - (b.length - c.startOffset)
  usedBytes := c.usedBytes + min c.maxBytes (b.length - c.startOffset)
  complete := c.complete && fitsRange b c

/-- The numbers of a context are `uint16_t`. -/
def InRange (c : FilterAttributes) : Prop := c.startOffset < 65536 ∧ c.usedBytes + c.maxBytes < 65536

section Filter

variable {c : FilterAttributes} {b b' : Bytes}

theorem advance_inRange (hc : InRange c) (b : Bytes) : InRange (advance b c) := by
  obtain ⟨hoff, hused⟩ := hc
  refine ⟨?_, ?_⟩
  · show c.startOffset - b.length < 65536
    omega
  · show c.usedBytes + min c.maxBytes (b.length - c.startOffset) + (c.maxBytes - (b.length - c.startOffset)) < 65536
    omega

theorem advance_nil : advance [] c = c := by
  have hfits : fitsRange [] c = true := decide_eq_true (Nat.zero_le _)
  simp only [advance, hfits, List.drop_nil, List.take_nil, List.append_nil, List.length_nil, Nat.sub_zero, Nat.zero_sub,
    Nat.min_zero, Nat.add_zero, Bool.and_true]

theorem fitsRange_append (h : fitsRange b c = true) (b' : Bytes) :
    fitsRange (b ++ b') c = fitsRange b' (advance b c) := by
  have hle : b.length ≤ c.startOffset + c.maxBytes := of_decide_eq_true h
  apply decide_eq_decide.mpr
  show (b ++ b').length ≤ c.startOffset + c.maxBytes ↔
    b'.length ≤ c.startOffset - b.length + (c.maxBytes - (b.length - c.startOffset))
  rw [List.length_append]
  omega

theorem fitsRange_append_of_not (h : fitsRange b c = false) (b' : Bytes) : fitsRange (b ++ b') c = false := by
  have hlt : ¬ b.length ≤ c.startOffset + c.maxBytes := of_decide_eq_false h
  apply decide_eq_false
  rw [List.length_append]
  omega

/-- Two parts after each other, when the first is copied. -/
theorem advance_append (h : fitsRange b c = true) (b' : Bytes) : advance (b ++ b') c = advance b' (advance b c) := by
  have hle : b.length ≤ c.startOffset + c.maxBytes := of_decide_eq_true h
  have hbuffer : ((b ++ b').drop c.startOffset).take c.maxBytes =
      (b.drop c.startOffset).take c.maxBytes ++
        (b'.drop (c.startOffset - b.length)).take (c.maxBytes - (b.length - c.startOffset)) := by
    rw [List.drop_append, List.take_append, List.length_drop]
  have hfits := fitsRange_append h b'
  simp only [advance, hbuffer, hfits, h, List.length_append, List.append_assoc, Bool.and_true,
    FilterAttributes.mk.injEq, true_and, and_true]
  omega

/-- Nothing is copied behind a part that is not. -/
theorem advance_append_of_not (h : fitsRange b c = false) (b' : Bytes) : advance (b ++ b') c = advance b c := by
  have hlt : ¬ b.length ≤ c.startOffset + c.maxBytes := of_decide_eq_false h
  have hzero : c.maxBytes - (b.length - c.startOffset) = 0 := by omega
  have hbuffer : ((b ++ b').drop c.startOffset).take c.maxBytes = (b.drop c.startOffset).take c.maxBytes := by
    rw [List.drop_append, List.take_append, List.length_drop, hzero, List.take_zero, List.append_nil]
  simp only [advance, hbuffer, fitsRange_append_of_not h b', h, List.length_append, FilterAttributes.mk.injEq, true_and,
    and_true]
  omega

/-- `spd_append_range` on bytes that stand at its pointer. -/
theorem spdAppendRange_eq {data : Ptr} (hc : InRange c) (hdata : data.Holds b) (hlen : b.length < 65536)
    (hoff : c.startOffset ≤ b.length) :
    spdAppendRange c b.length data = ({ advance b c with complete := c.complete }, fitsRange b c) := by
  obtain ⟨-, hused⟩ := hc
  have hremainder : uint16 ((uint16 (b.length : Int) : Int) - c.startOffset) = b.length - c.startOffset := by
    rw [uint16_small hlen, uint16]
    omega
  have hread : ∀ n, n ≤ b.length - c.startOffset → data.read c.startOffset n = (b.drop c.startOffset).take n :=
    fun n hn => hdata.read _ n (by omega)
  unfold spdAppendRange
  simp only [hremainder]
  by_cases hmax : c.maxBytes < b.length - c.startOffset
  · have hmin : min c.maxBytes (b.length - c.startOffset) = c.maxBytes := by omega
    have hno : ¬ b.length ≤ c.startOffset + c.maxBytes := by omega
    have hmaxzero : c.maxBytes - (b.length - c.startOffset) = 0 := by omega
    simp only [hmax, if_true, decide_true, Bool.not_true, hread c.maxBytes (by omega), advance, fitsRange, hmin, hno,
      decide_false, Nat.sub_self, Nat.sub_eq_zero_of_le hoff, hmaxzero]
    rw [← Int.natCast_add, uint16_small (by omega)]
  · have hmin : min c.maxBytes (b.length - c.startOffset) = b.length - c.startOffset := by omega
    have hyes : b.length ≤ c.startOffset + c.maxBytes := by omega
    have htake : (b.drop c.startOffset).take (b.length - c.startOffset) = (b.drop c.startOffset).take c.maxBytes := by
      rw [List.take_of_length_le (by rw [List.length_drop]), List.take_of_length_le (by rw [List.length_drop]; omega)]
    simp only [hmax, if_false, decide_false, Bool.not_false, hread _ (Nat.le_refl _), advance, fitsRange, hmin, hyes,
      decide_true, Nat.sub_eq_zero_of_le hoff, htake]
    rw [← Int.natCast_add, uint16_small (by omega)]

/-- The id of an attribute. -/
theorem filterAttributeId_eq (id : UInt16) (hc : InRange c) :
    filterAttributeId id.toNat c =
      ({ advance (header typeUint 1 2 ++ toBE 2 id.toNat) c with complete := c.complete },
        fitsRange (header typeUint 1 2 ++ toBE 2 id.toNat) c) := by
  have hbytes : UInt8.ofNat (typeUint * 8 + 1) :: toBE 2 id.toNat = header typeUint 1 2 ++ toBE 2 id.toNat := rfl
  have hlen : (header typeUint 1 2 ++ toBE 2 id.toNat).length = 3 := by
    rw [List.length_append, header_length, toBE_length]
    rfl
  rw [filterAttributeId, hbytes]
  generalize header typeUint 1 2 ++ toBE 2 id.toNat = b at hlen ⊢
  by_cases hoff : c.startOffset ≥ 3
  · have hzero : 3 - c.startOffset = 0 := by omega
    have hdrop : b.drop c.startOffset = [] := List.drop_eq_nil_of_le (by omega)
    have hyes : 3 ≤ c.startOffset + c.maxBytes := by omega
    rw [if_pos hoff]
    simp only [advance, fitsRange, hlen, hzero, hdrop, hyes, List.take_nil, List.append_nil, Nat.min_zero, Nat.add_zero,
      Nat.sub_zero, decide_true]
  · have hspec := spdAppendRange_eq hc (Ptr.holds_of b) (by omega) (by omega)
    rw [hlen] at hspec
    rw [if_neg hoff]
    exact hspec

/-- The value of an attribute. -/
theorem filterAttributeValue_eq {value : Ptr} {e : Element} (hc : InRange c) (hwf : e.wf = true)
    (hvalue : value.Holds e.encode) (hlen : e.encode.length < 65536) :
    filterAttributeValue value c = (advance e.encode c, !fitsRange e.encode c) := by
  rw [filterAttributeValue, deGetLen_eq hwf hvalue (by omega)]
  generalize e.encode = b at hvalue hlen ⊢
  by_cases hoff : c.startOffset ≥ b.length
  · have hzero : b.length - c.startOffset = 0 := by omega
    have hdrop : b.drop c.startOffset = [] := List.drop_eq_nil_of_le hoff
    have hyes : b.length ≤ c.startOffset + c.maxBytes := by omega
    have hstart : uint16 ((c.startOffset : Int) - b.length) = c.startOffset - b.length := by
      have hrange := hc.1
      rw [uint16]
      omega
    rw [if_pos (by omega)]
    simp only [advance, fitsRange, hzero, hdrop, hyes, hstart, List.take_nil, List.append_nil, Nat.min_zero,
      Nat.add_zero, Nat.sub_zero, decide_true, Bool.and_true, Bool.not_true]
  · rw [if_neg (by omega), spdAppendRange_eq hc hvalue hlen (by omega)]
    cases hfits : fitsRange b c with
    | true =>
        simp only [advance, hfits, Bool.and_true, Bool.not_true]
    | false =>
        simp only [advance, hfits, Bool.and_false, Bool.not_false]

/-- The step of the filter for an attribute. -/
def filterStep (ids : List Element) (a : UInt16 × Element) (c : FilterAttributes) : FilterAttributes × Bool :=
  if ids.any (covers a.1) then (advance (attributeBytes a) c, !fitsRange (attributeBytes a) c) else (c, false)

/-- All the steps: the context advances over the selected attributes. -/
theorem foldUntil_filterStep (ids : List Element) (attributes : List (UInt16 × Element)) (c : FilterAttributes) :
    foldUntil (filterStep ids) attributes c = advance (filteredBytes ids attributes) c := by
  induction attributes generalizing c with
  | nil => rw [foldUntil, filteredBytes, selected, List.filter_nil, List.flatMap_nil, advance_nil]
  | cons a attributes ih =>
      rw [foldUntil, filterStep]
      cases hsel : ids.any (covers a.1) with
      | false =>
          have hbytes : filteredBytes ids (a :: attributes) = filteredBytes ids attributes := by
            rw [filteredBytes, selected, List.filter_cons_of_neg (by simp [hsel])]
            rfl
          rw [hbytes]
          exact ih c
      | true =>
          have hbytes : filteredBytes ids (a :: attributes) = attributeBytes a ++ filteredBytes ids attributes := by
            rw [filteredBytes, selected, List.filter_cons_of_pos (by simpa using hsel), List.flatMap_cons]
            rfl
          rw [hbytes]
          cases hfits : fitsRange (attributeBytes a) c with
          | true =>
              rw [advance_append hfits]
              exact ih _
          | false =>
              rw [advance_append_of_not hfits]
              rfl

end Filter

/-! ## The specifications of the operations -/

/-- At the pointer stands the well-formed element, and its length is an `int`. -/
structure ElementAt (p : Ptr) (e : Element) : Prop where
  wf : e.wf = true
  holds : p.Holds e.encode
  short : e.encode.length < 2 ^ 31

section Operations

variable {fuel size : Nat} {record attributeIDList : Ptr} {attributes : List (UInt16 × Element)} {ids : List Element}

/-- An attribute list with a length of two bytes is short. -/
theorem attributeList_short (hwf : (attributeList attributes).wf = true) :
    (attributes.flatMap attributeBytes).length < 65536 := by
  rw [← encodeAll_attributeElements]
  exact (Element.fits_of_wf hwf).2.2

theorem value_short (hwf : (attributeList attributes).wf = true) {a : UInt16 × Element} (ha : a ∈ attributes) :
    a.2.encode.length < 65536 := by
  have hlist := attributeList_short hwf
  have hsub : List.Sublist (attributeBytes a) (attributes.flatMap attributeBytes) :=
    List.sublist_flatten_of_mem (List.mem_map_of_mem ha)
  have hle := hsub.length_le
  rw [attributeBytes_length] at hle
  omega

theorem filteredBytes_short (hwf : (attributeList attributes).wf = true) (ids : List Element) :
    (filteredBytes ids attributes).length < 65536 :=
  Nat.lt_of_le_of_lt (List.Sublist.flatMap List.filter_sublist attributeBytes).length_le (attributeList_short hwf)

theorem sdpTraversalFilterAttributes_eq (hids : ElementAt attributeIDList (.sequence size ids))
    (hidsFuel : ids.length < fuel) {a : UInt16 × Element} {value : Ptr} {c : FilterAttributes} (hwf : a.2.wf = true)
    (hvalue : value.Holds a.2.encode) (hlen : a.2.encode.length < 65536) (hc : InRange c) :
    sdpTraversalFilterAttributes fuel attributeIDList a.1.toNat value c = some (filterStep ids a c) := by
  rw [sdpTraversalFilterAttributes, sdpAttributeListConstainsId_eq hids.wf hids.holds hids.short hidsFuel, filterStep]
  cases hsel : ids.any (covers a.1) with
  | false => rfl
  | true =>
      rw [attributeBytes]
      simp only [filterAttributeId_eq a.1 hc, if_true]
      cases hid : fitsRange (header typeUint 1 2 ++ toBE 2 a.1.toNat) c with
      | false =>
          simp only [advance_append_of_not hid, fitsRange_append_of_not hid, Bool.not_false]
          simp only [advance, hid, Bool.and_false]
      | true =>
          have hsame : { advance (header typeUint 1 2 ++ toBE 2 a.1.toNat) c with complete := c.complete } =
              advance (header typeUint 1 2 ++ toBE 2 a.1.toNat) c := by
            simp only [advance, hid, Bool.and_true]
          simp only [hsame, advance_append hid, fitsRange_append hid,
            filterAttributeValue_eq (advance_inRange hc _) hwf hvalue hlen]

/-- **A range of the selected attributes is copied**, and the result says whether it reaches their end. -/
theorem sdpFilterAttributesInAttributeIDList_eq (hrecord : ElementAt record (attributeList attributes))
    (hids : ElementAt attributeIDList (.sequence size ids)) (hfuel : attributes.length < fuel)
    (hidsFuel : ids.length < fuel) {startOffset maxBytes : Nat} (hoff : startOffset < 65536)
    (hmax : maxBytes < 65536) :
    sdpFilterAttributesInAttributeIDList fuel record attributeIDList startOffset maxBytes =
      some (advance (filteredBytes ids attributes) ⟨[], startOffset, maxBytes, 0, true⟩) := by
  have hinit : InRange ⟨[], startOffset, maxBytes, 0, true⟩ := ⟨hoff, by
    show 0 + maxBytes < 65536
    omega⟩
  rw [sdpFilterAttributesInAttributeIDList, ← foldUntil_filterStep]
  refine sdpAttributeListTraverseSequence_eq InRange hrecord.wf hrecord.holds hfuel hinit ?_
  intro a ha q c hc hq
  refine ⟨sdpTraversalFilterAttributes_eq hids hidsFuel (wf_values hrecord.wf a ha) hq (value_short hrecord.wf ha) hc, ?_⟩
  rw [filterStep]
  split
  · exact advance_inRange hc _
  · exact hc

/-- The step of the count. -/
def sizeStep (ids : List Element) (a : UInt16 × Element) (n : Nat) : Nat × Bool :=
  if ids.any (covers a.1) then (uint16 (n + (attributeBytes a).length : Nat), false) else (n, false)

theorem foldUntil_sizeStep (ids : List Element) (attributes : List (UInt16 × Element)) (n : Nat) (hn : n < 65536) :
    foldUntil (sizeStep ids) attributes n = uint16 (n + (filteredBytes ids attributes).length : Nat) := by
  induction attributes generalizing n with
  | nil =>
      have hzero : (filteredBytes ids []).length = 0 := rfl
      rw [foldUntil, hzero, Nat.add_zero, uint16_small hn]
  | cons a attributes ih =>
      rw [foldUntil, sizeStep]
      cases hsel : ids.any (covers a.1) with
      | false =>
          have hbytes : filteredBytes ids (a :: attributes) = filteredBytes ids attributes := by
            rw [filteredBytes, selected, List.filter_cons_of_neg (by simp [hsel])]
            rfl
          rw [hbytes]
          exact ih n hn
      | true =>
          have hbytes : filteredBytes ids (a :: attributes) = attributeBytes a ++ filteredBytes ids attributes := by
            rw [filteredBytes, selected, List.filter_cons_of_pos (by simpa using hsel), List.flatMap_cons]
            rfl
          rw [hbytes, List.length_append]
          simp only [if_true, Bool.false_eq_true, if_false]
          rw [ih _ (uint16_lt _)]
          unfold uint16
          omega

/-- **The size is that of all the selected attributes.** -/
theorem spdGetFilteredSize_eq (hrecord : ElementAt record (attributeList attributes))
    (hids : ElementAt attributeIDList (.sequence size ids)) (hfuel : attributes.length < fuel)
    (hidsFuel : ids.length < fuel) :
    spdGetFilteredSize fuel record attributeIDList = some (filteredBytes ids attributes).length := by
  have hshort := filteredBytes_short hrecord.wf ids
  have hfold := foldUntil_sizeStep ids attributes 0 (by omega)
  rw [Nat.zero_add, uint16_small hshort] at hfold
  rw [spdGetFilteredSize, ← hfold]
  refine sdpAttributeListTraverseSequence_eq (fun _ => True) hrecord.wf hrecord.holds hfuel trivial ?_
  intro a ha q n _ hq
  have hlen : deGetLen q = a.2.encode.length :=
    deGetLen_eq (wf_values hrecord.wf a ha) hq (Nat.lt_trans (value_short hrecord.wf ha) (by decide))
  refine ⟨?_, trivial⟩
  rw [sdpTraversalGetFilteredSize, sdpAttributeListConstainsId_eq hids.wf hids.holds hids.short hidsFuel, sizeStep]
  cases hsel : ids.any (covers a.1) with
  | false => rfl
  | true =>
      simp only [if_true, hlen, attributeBytes_length]
      push_cast
      rfl

/-- A search for an attribute ends with the first one that has the id. -/
theorem foldUntil_find (id : UInt16) (attributes : List (UInt16 × Element)) (found : Option Element) :
    foldUntil (fun a (found : Option Element) => if id.toNat = a.1.toNat then (some a.2, true) else (found, false))
      attributes found = (((attributes.find? fun a => a.1 == id).map (·.2)).or found) := by
  induction attributes with
  | nil => rfl
  | cons a attributes ih =>
      rw [foldUntil, List.find?_cons]
      by_cases hid : id = a.1
      · subst hid
        simp
      · have hne : ¬ id.toNat = a.1.toNat := fun h => hid (UInt16.toNat_inj.mp h)
        have hbeq : (a.1 == id) = false := by simpa using fun h : a.1 = id => hid h.symm
        rw [if_neg hne, hbeq]
        exact ih

/-- The value of the first attribute with the id, or NULL. -/
theorem sdpGetAttributeValueForAttributeId_eq (hrecord : ElementAt record (attributeList attributes))
    (hfuel : attributes.length < fuel) (id : UInt16) :
    ∃ found, sdpGetAttributeValueForAttributeId fuel record id.toNat = some found ∧
      Option.Rel (fun p e => p.Holds e.encode ∧ e.wf = true) found
        ((attributes.find? fun a => a.1 == id).map (·.2)) := by
  have hfold := foldUntil_find id attributes none
  rw [Option.or_none] at hfold
  rw [sdpGetAttributeValueForAttributeId, ← hfold]
  refine sdpAttributeListTraverseSequence_rel _ hrecord.wf hrecord.holds hfuel Option.Rel.none ?_
  intro a ha q found t hrel hq
  by_cases hid : id.toNat = a.1.toNat
  · rw [if_pos hid, if_pos hid]
    exact ⟨some q, rfl, Option.Rel.some ⟨hq, wf_values hrecord.wf a ha⟩⟩
  · rw [if_neg hid, if_neg hid]
    exact ⟨found, rfl, hrel⟩

end Operations

/-! ## Matching -/

section Matching

variable {fuel size : Nat} {p : Ptr} {es : List Element}

/-- The UUID of an element, in the long form. -/
theorem deGetNormalizedUuid_eq {e : Element} (hwf : e.wf = true) (h : p.Holds e.encode) :
    deGetNormalizedUuid p = e.uuid := by
  cases e with
  | sequence size es =>
      have htype : deGetElementType p = typeSequence := deGetElementType_eq hwf h
      rw [deGetNormalizedUuid, htype, if_pos (by decide), Element.uuid]
  | value type size data =>
      have htype : deGetElementType p = type := deGetElementType_eq hwf h
      have hsize : deGetSizeType p = size := deGetSizeType_eq hwf h
      have hfits : Fits type size data.length := Element.fits_of_wf hwf
      obtain ⟨-, -, hfits⟩ := hfits
      rw [deGetNormalizedUuid, htype, hsize, Element.uuid, uuidOf]
      by_cases hu : type = typeUuid
      · subst hu
        have hnil : ¬ typeUuid = typeNil := by decide
        have hdata : size < 5 → p.read 1 (2 ^ size) = data := by
          intro hlt
          have hlen : data.length = 2 ^ size := by
            rw [if_pos hlt, if_neg hnil] at hfits
            exact hfits
          have hread := read_data h 0 (2 ^ size) (by simp only [Element.data, hlen]; omega)
          have hzero : lengthBytes size = 0 := by rw [lengthBytes, if_pos hlt]
          simp only [Element.size, Element.data, hzero, List.drop_zero] at hread
          rw [List.take_of_length_le (by omega)] at hread
          exact hread
        rw [if_neg (not_not_intro rfl), if_pos rfl]
        by_cases h1 : size = 1
        · subst h1
          rw [if_pos rfl, if_pos (Or.inl rfl), bigEndianRead16, ← hdata (by omega)]
          rfl
        by_cases h2 : size = 2
        · subst h2
          rw [if_neg (by omega), if_pos rfl, if_pos (Or.inr rfl), bigEndianRead32, ← hdata (by omega)]
          rfl
        by_cases h4 : size = 4
        · subst h4
          rw [if_neg (by omega), if_neg (by omega), if_pos rfl, if_neg (by omega), if_pos rfl]
          exact congrArg some (hdata (by omega))
        · rw [if_neg h1, if_neg h2, if_neg h4, if_neg (by omega), if_neg h4]
      · rw [if_pos hu, if_neg hu]

/-- A search that ends with the first element that has what it looks for. -/
theorem foldUntil_contains {α : Type} (f : α → Bool → Bool × Bool) (c : α → Bool) (as : List α)
    (h : ∀ a ∈ as, f a false = (c a, c a)) : foldUntil f as false = as.any c := by
  induction as with
  | nil => rfl
  | cons a as ih =>
      rw [foldUntil, h a List.mem_cons_self, List.any_cons]
      cases c a with
      | true => rfl
      | false => exact ih fun x hx => h x (List.mem_cons_of_mem _ hx)

/-- The UUID is in the element. -/
def hasUuid (uuid128 : Bytes) (e : Element) : Bool := decide (uuid128 ∈ e.uuids)

/-- What the search in a record makes of an element. -/
def containsStep (uuid128 : Bytes) (e : Element) (result : Bool) : Bool × Bool :=
  if e.type = typeSequence ∨ e.type = typeUuid then (hasUuid uuid128 e, hasUuid uuid128 e) else (result, result)

theorem containsStep_false {e : Element} (uuid128 : Bytes) :
    containsStep uuid128 e false = (hasUuid uuid128 e, hasUuid uuid128 e) := by
  rw [containsStep]
  split
  · rfl
  · rename_i hno
    cases e with
    | sequence size es => exact absurd (Or.inl rfl) hno
    | value type size data =>
        have hno' : ¬ type = typeUuid := fun h => hno (Or.inr h)
        have hnone : hasUuid uuid128 (.value type size data) = false := by
          rw [hasUuid, Element.uuids, uuidOf, if_neg hno']
          rfl
        rw [hnone]

theorem any_hasUuid (uuid128 : Bytes) (es : List Element) :
    es.any (hasUuid uuid128) = decide (uuid128 ∈ Element.uuidsAll es) := by
  rw [Bool.eq_iff_iff, List.any_eq_true, decide_eq_true_iff, Element.uuidsAll_eq, List.mem_flatMap]
  simp only [hasUuid, decide_eq_true_iff]

/-- **A record has a UUID** when an element at some depth is it. -/
theorem sdpRecordContainsUUID128_eq (h : ElementAt p (.sequence size es))
    (hfuel : (Element.sequence size es).count ≤ fuel) (uuid128 : Bytes) :
    sdpRecordContainsUUID128 fuel p uuid128 = some (decide (uuid128 ∈ Element.uuidsAll es)) := by
  induction fuel generalizing p size es with
  | zero => exact absurd hfuel (Nat.not_le_of_lt (Element.count_pos _))
  | succ n ih =>
      have hwf := h.wf
      rw [Element.wf, Bool.and_eq_true, Element.wfAll_iff] at hwf
      rw [Element.count] at hfuel
      have hlength := Element.length_le_countAll es
      have hshort := h.short
      rw [Element.encode, List.length_append] at hshort
      rw [sdpRecordContainsUUID128, ← any_hasUuid,
        ← foldUntil_contains (containsStep uuid128) _ _ fun e _ => containsStep_false uuid128]
      refine deTraverseSequence_eq _ _ _ h.wf h.holds h.short (by omega) ?_
      intro e he q result hq
      have hewf := hwf.2 e he
      cases e with
      | sequence inner elements =>
          have hcount := Element.count_le_countAll he
          have hle := Element.encode_length_le_encodeAll he
          have hinner : ElementAt q (.sequence inner elements) := ⟨hewf, hq, by omega⟩
          have hseq : (Element.sequence inner elements).type = typeSequence := rfl
          have hhas : hasUuid uuid128 (.sequence inner elements) = decide (uuid128 ∈ Element.uuidsAll elements) := by
            rw [hasUuid, decide_eq_decide, Element.uuids]
          simp only [hseq, ih hinner (by omega), containsStep, hhas, true_or, if_true]
      | value type size data =>
          have hvalue : ¬ type = typeSequence := by
            rw [Element.wf, Bool.and_eq_true, bne_iff_ne] at hewf
            exact hewf.1
          have htype : (Element.value type size data).type = type := rfl
          simp only [htype, hvalue, if_false, containsStep, false_or]
          by_cases hu : type = typeUuid
          · have hhas : (deGetNormalizedUuid q == some uuid128) = hasUuid uuid128 (.value type size data) := by
              rw [deGetNormalizedUuid_eq hewf hq, hasUuid, Element.uuid, Element.uuids, Bool.eq_iff_iff, beq_iff_eq,
                decide_eq_true_iff, Option.mem_toList]
            rw [if_pos hu, if_pos hu, hhas]
          · rw [if_neg hu, if_neg hu]

/-- A record has what a pattern asks for: each element of the pattern is a UUID that is in the record. -/
def matchesPattern (record : List Element) (pattern : List Element) : Bool :=
  pattern.all fun e =>
    match e.uuid with
    | none => false
    | some uuid => decide (uuid ∈ Element.uuidsAll record)

/-- A check that ends with the first element that fails it. -/
theorem foldUntil_all {α : Type} (f : α → Bool) (as : List α) :
    foldUntil (fun a (ok : Bool) => if f a then (ok, false) else (false, true)) as true = as.all f := by
  induction as with
  | nil => rfl
  | cons a as ih =>
      rw [foldUntil, List.all_cons]
      cases hf : f a with
      | true => simpa using ih
      | false => simp

theorem sdpRecordMatchesServiceSearchPattern_eq {record serviceSearchPattern : Ptr} {patternSize : Nat}
    {pattern : List Element} (hrecord : ElementAt record (.sequence size es))
    (hpattern : ElementAt serviceSearchPattern (.sequence patternSize pattern))
    (hfuel : (Element.sequence size es).count ≤ fuel) (hpatternFuel : pattern.length < fuel) :
    sdpRecordMatchesServiceSearchPattern fuel record serviceSearchPattern = some (matchesPattern es pattern) := by
  have hwf := hpattern.wf
  rw [Element.wf, Bool.and_eq_true, Element.wfAll_iff] at hwf
  rw [sdpRecordMatchesServiceSearchPattern, matchesPattern, ← foldUntil_all]
  refine deTraverseSequence_eq _ _ _ hpattern.wf hpattern.holds hpattern.short hpatternFuel ?_
  intro e he q result hq
  rw [sdpTraversalMatchPattern, deGetNormalizedUuid_eq (hwf.2 e he) hq]
  cases hu : e.uuid with
  | none => rfl
  | some uuid =>
      simp only [sdpRecordContainsUUID128_eq hrecord hfuel]
      by_cases hmem : uuid ∈ Element.uuidsAll es
      · simp [hmem]
      · simp [hmem]

end Matching

/-! ## The records of the program -/

/-- The attributes of the record for iAP2, and of the one that identifies the device. -/
def iap2Attributes (channel : UInt8) : List (UInt16 × Element) :=
  [(0x0000, .value typeUint 2 [0, 1, 0, 1]),
    (0x0001, .sequence 5 [.value typeUuid 4
      [0x00, 0x00, 0x00, 0x00, 0xDE, 0xCA, 0xFA, 0xDE, 0xDE, 0xCA, 0xDE, 0xAF, 0xDE, 0xCA, 0xCA, 0xFF]]),
    (0x0004, .sequence 5 [.sequence 5 [.value typeUuid 1 [0x01, 0x00]],
      .sequence 5 [.value typeUuid 1 [0x00, 0x03], .value typeUint 0 [channel]]]),
    (0x0005, .sequence 5 [.value typeUuid 1 [0x10, 0x02]]),
    (0x0100, .value 4 5 (ascii "Wireless iAP"))]

def didAttributes : List (UInt16 × Element) :=
  [(0x0000, .value typeUint 2 [0, 1, 0, 2]), (0x0001, .sequence 5 [.value typeUuid 1 [0x12, 0x00]]),
    (0x0200, .value typeUint 1 [0x01, 0x03]), (0x0201, .value typeUint 1 [0x02, 0xD1]),
    (0x0202, .value typeUint 1 [0x01, 0x00]), (0x0203, .value typeUint 1 [0x01, 0x00]),
    (0x0204, .value 5 0 [0x01]), (0x0205, .value typeUint 1 [0x00, 0x02])]

theorem serviceName_eq :
    ascii "Wireless iAP" = [0x57, 0x69, 0x72, 0x65, 0x6C, 0x65, 0x73, 0x73, 0x20, 0x69, 0x41, 0x50] := by decide

set_option maxRecDepth 4000 in
/-- The bytes that the program registers are attribute lists. -/
theorem buildSdp_eq (channel : UInt8) : Bt.buildSdp channel = (attributeList (iap2Attributes channel)).encode := by
  rw [Bt.buildSdp, iap2Attributes, serviceName_eq, attributeList, Element.encode, encodeAll_attributeElements]
  simp only [attributeBytes, Element.encode, Element.encodeAll, List.flatMap_cons, List.flatMap_nil]
  rfl

theorem buildDidSdp_eq : Bt.buildDidSdp = (attributeList didAttributes).encode := by decide

/-- The UUID that a phone searches for. -/
def iap2Uuid : Element :=
  .value typeUuid 4 [0x00, 0x00, 0x00, 0x00, 0xDE, 0xCA, 0xFA, 0xDE, 0xDE, 0xCA, 0xDE, 0xAF, 0xDE, 0xCA, 0xCA, 0xFF]

/-- All the ids there are. -/
def allIds : Element := .value typeUint 2 [0x00, 0x00, 0xFF, 0xFF]

/-! ## The search -/

/-- **A record matches a service search pattern** exactly when each element of the pattern is a UUID and is, in the
    long form, at some depth of the record. -/
theorem search_matches_iff {fuel size patternSize : Nat} {record serviceSearchPattern : Ptr}
    {es pattern : List Element}
    (hrecord : ElementAt record (.sequence size es))
    (hpattern : ElementAt serviceSearchPattern (.sequence patternSize pattern))
    (hfuel : (Element.sequence size es).count ≤ fuel) (hpatternFuel : pattern.length < fuel) :
    sdpRecordMatchesServiceSearchPattern fuel record serviceSearchPattern ≠ none ∧
      (sdpRecordMatchesServiceSearchPattern fuel record serviceSearchPattern = some true ↔
        ∀ e ∈ pattern, ∃ uuid, e.uuid = some uuid ∧ uuid ∈ Element.uuidsAll es) := by
  rw [sdpRecordMatchesServiceSearchPattern_eq hrecord hpattern hfuel hpatternFuel]
  refine ⟨Option.some_ne_none _, ?_⟩
  rw [Option.some.injEq, matchesPattern, List.all_eq_true]
  refine forall₂_congr fun e he => ?_
  cases e.uuid with
  | none => simp
  | some uuid => simp

/-- A phone that searches for iAP2 finds the record of the program. -/
theorem search_matches_iff_iap2 :
    sdpRecordMatchesServiceSearchPattern 40 (Ptr.of (Bt.buildSdp 3)) (Ptr.of (Element.sequence 5 [iap2Uuid]).encode) ≠
        none ∧
      (sdpRecordMatchesServiceSearchPattern 40 (Ptr.of (Bt.buildSdp 3))
          (Ptr.of (Element.sequence 5 [iap2Uuid]).encode) = some true ↔
        ∀ e ∈ [iap2Uuid], ∃ uuid, e.uuid = some uuid ∧
          uuid ∈ Element.uuidsAll (attributeElements (iap2Attributes 3))) := by
  have hat : ElementAt (Ptr.of (Bt.buildSdp 3)) (.sequence 6 (attributeElements (iap2Attributes 3))) := by
    refine ⟨by decide +kernel, ?_, by decide +kernel⟩
    rw [buildSdp_eq]
    exact Ptr.holds_of _
  exact search_matches_iff hat ⟨by decide, Ptr.holds_of _, by decide⟩ (by decide +kernel) (by decide)

end Showcase.Btstack
