import Mathlib.Data.List.Forall2
import Showcase.Btstack.SdpServer
import Showcase.Lib.Continuation

/-!
# `Btstack.SdpTransfer` — what a phone gets from the SDP server

A phone repeats its request with the continuation of the last response until there is none. `Registered` ties the items of
the server to the records that their pointers stand for; then every response is a part of one list, and the parts make
up the list (`Lib.Continues`). A response never exceeds the MTU of the channel or the response buffer: a phone that is
sent more than its MTU has no answer here.

## Contents
- `Registered`, `matching`, `listsOf` — the records, and the list that answers a search for attributes;
- `searchAttributeLoop_eq` — the loop of that search, from any continuation;
- **`attributes_found`**, **`attributes_fetched`**, **`records_found`** — the three transfers.
-/

namespace Showcase.Btstack

open Lib DataElement

/-! ## Records -/

/-- A service record: its handle and its attributes. -/
structure ServiceRecord where
  handle : UInt32
  attributes : List (UInt16 × Element)

/-- The item stands for the record. -/
structure Registered (item : ServiceRecordItem) (d : ServiceRecord) : Prop where
  handle : item.serviceRecordHandle = d.handle.toNat
  record : ElementAt item.serviceRecord (attributeList d.attributes)

/-- A bound on the traversals that is enough for the record. -/
def EnoughFor (fuel : Nat) (d : ServiceRecord) : Prop := (attributeList d.attributes).count ≤ fuel

/-- The record has what the pattern asks for. -/
def matching (pattern : List Element) (d : ServiceRecord) : Bool :=
  matchesPattern (attributeElements d.attributes) pattern

/-- The attributes of the record that are asked for. -/
def attributesOf (ids : List Element) (d : ServiceRecord) : Bytes := filteredBytes ids d.attributes

/-- The attributes that are asked for, as a list with its header. -/
def listOf (ids : List Element) (d : ServiceRecord) : Bytes :=
  header typeSequence 6 (attributesOf ids d).length ++ attributesOf ids d

/-- The lists of all the records that match. -/
def listsOf (pattern ids : List Element) (ds : List ServiceRecord) : Bytes :=
  (ds.filter (matching pattern)).flatMap (listOf ids)

section Records

variable {fuel patternSize idsSize : Nat} {p : Ptr} {pattern ids : List Element} {item : ServiceRecordItem}
  {d : ServiceRecord} {ds : List ServiceRecord}

theorem attributes_lt_fuel (hfuel : EnoughFor fuel d) : d.attributes.length < fuel := by
  have hcount := Element.length_le_countAll (attributeElements d.attributes)
  have hlength : (attributeElements d.attributes).length = 2 * d.attributes.length := by
    simp [attributeElements, List.length_flatMap, Nat.mul_comm]
  rw [EnoughFor, attributeList, Element.count] at hfuel
  omega

theorem Registered.matching (h : Registered item d) (hfuel : EnoughFor fuel d)
    (hpattern : ElementAt p (.sequence patternSize pattern)) (hpatternFuel : pattern.length < fuel) :
    sdpRecordMatchesServiceSearchPattern fuel item.serviceRecord p = some (Btstack.matching pattern d) :=
  sdpRecordMatchesServiceSearchPattern_eq h.record hpattern hfuel hpatternFuel

theorem Registered.size (h : Registered item d) (hfuel : EnoughFor fuel d)
    (hids : ElementAt p (.sequence idsSize ids)) (hidsFuel : ids.length < fuel) :
    spdGetFilteredSize fuel item.serviceRecord p = some (attributesOf ids d).length :=
  spdGetFilteredSize_eq h.record hids (attributes_lt_fuel hfuel) hidsFuel

theorem attributesOf_short (ids : List Element) (h : Registered item d) : (attributesOf ids d).length < 65536 :=
  filteredBytes_short h.record.wf ids

/-- What is copied of a record, in a response that has room for `maximum` bytes. -/
theorem Registered.filter (h : Registered item d) (hfuel : EnoughFor fuel d)
    (hids : ElementAt p (.sequence idsSize ids)) (hidsFuel : ids.length < fuel) {off maximum : Nat}
    (hoff : off < 65536) (hmaximum : maximum < 65536) :
    ∃ c, sdpFilterAttributesInAttributeIDList fuel item.serviceRecord p off maximum = some c ∧
      c.buffer = ((attributesOf ids d).drop off).take maximum ∧
      c.usedBytes = min maximum ((attributesOf ids d).length - off) ∧
      c.complete = decide ((attributesOf ids d).length ≤ off + maximum) := by
  refine ⟨_, sdpFilterAttributesInAttributeIDList_eq h.record hids (attributes_lt_fuel hfuel) hidsFuel hoff hmaximum,
    ?_, ?_, ?_⟩
  · show [] ++ _ = _
    rw [List.nil_append]
    rfl
  · show 0 + _ = _
    rw [Nat.zero_add]
    rfl
  · rfl

theorem listOf_length (ids : List Element) (d : ServiceRecord) :
    (listOf ids d).length = 3 + (attributesOf ids d).length := by
  rw [listOf, List.length_append, header_length]
  rfl

theorem listsOf_cons_pos (h : Btstack.matching pattern d = true) :
    listsOf pattern ids (d :: ds) = listOf ids d ++ listsOf pattern ids ds := by
  rw [listsOf, List.filter_cons_of_pos h, List.flatMap_cons, listsOf]

theorem listsOf_cons_neg (h : Btstack.matching pattern d = false) :
    listsOf pattern ids (d :: ds) = listsOf pattern ids ds := by
  rw [listsOf, List.filter_cons_of_neg (by simp [h]), listsOf]

end Records

/-! ## The loop of a search for attributes

The loop goes on from a record and an offset into its attributes. Its outcome is said by what is left: either the
response has all of it, or it is full and the loop stops at a place from which the next request can go on. The
induction is on the records. -/

/-- What is left of the lists at an offset into the first record. -/
def remaining (pattern ids : List Element) (ds : List ServiceRecord) (off : Nat) : Bytes :=
  if off = 0 then listsOf pattern ids ds
  else match ds with
    | [] => []
    | d :: ds => (attributesOf ids d).drop off ++ listsOf pattern ids ds

/-- An offset at which the server has stopped: inside the attributes of a record that matches, or in front of a record. -/
def StoppedAt (pattern ids : List Element) (ds : List ServiceRecord) (off : Nat) : Prop :=
  off = 0 ∨ ∃ d rest, ds = d :: rest ∧ matching pattern d = true ∧ off < (attributesOf ids d).length

/-- There is room for something: for a header and a byte behind it, or for a byte of the record that is begun. -/
def HasRoom (a : AttributeLists) (off : Nat) : Prop :=
  if off = 0 then a.firstAnswer = true → 4 ≤ a.maximumAttributeByteCount
  else a.firstAnswer = true ∧ 1 ≤ a.maximumAttributeByteCount

/-- What the loop may come to, from the records `ds` on at the offset `off`: everything is in the response, or a first
    part of it is, which is not empty when it is the first in the response. -/
def LoopOutcome (pattern ids : List Element) (ds : List ServiceRecord) (index off : Nat) (a : AttributeLists)
    (result : Option (AttributeLists × Option Nat)) : Prop :=
  (∃ a', result = some (a', none) ∧ a'.attributeLists = a.attributeLists ++ remaining pattern ids ds off ∧
    (remaining pattern ids ds off).length ≤ a.maximumAttributeByteCount) ∨
  ∃ a' i part, result = some (a', some (index + i)) ∧ i < ds.length ∧
    StoppedAt pattern ids (ds.drop i) a'.continuationOffset ∧ a'.attributeLists = a.attributeLists ++ part ∧
    remaining pattern ids ds off = part ++ remaining pattern ids (ds.drop i) a'.continuationOffset ∧
    part.length ≤ a.maximumAttributeByteCount ∧
    (a.firstAnswer = true → part ≠ [] ∧ (0 < i ∨ 0 < a'.continuationOffset))

section Loop

variable {fuel patternSize idsSize index off : Nat} {pattern ids : List Element} {d : ServiceRecord}
  {ds : List ServiceRecord} {items : List ServiceRecordItem} {a a' : AttributeLists} {piece : Bytes}
  {result : Option (AttributeLists × Option Nat)} {r : ServiceSearchAttributeRequest}

theorem remaining_zero : remaining pattern ids ds 0 = listsOf pattern ids ds := if_pos rfl

theorem remaining_cons (h : off ≠ 0) :
    remaining pattern ids (d :: ds) off = (attributesOf ids d).drop off ++ listsOf pattern ids ds := if_neg h

/-- A record that is through, in front of an outcome for the others. -/
theorem LoopOutcome.cons (h : LoopOutcome pattern ids ds (index + 1) 0 a' result)
    (hlists : a'.attributeLists = a.attributeLists ++ piece)
    (hremaining : remaining pattern ids (d :: ds) off = piece ++ remaining pattern ids ds 0)
    (hroom : piece.length + a'.maximumAttributeByteCount ≤ a.maximumAttributeByteCount)
    (hfirst : a.firstAnswer = true → piece ≠ [] ∨ a'.firstAnswer = true) :
    LoopOutcome pattern ids (d :: ds) index off a result := by
  rcases h with ⟨b, hresult, hb, hle⟩ | ⟨b, i, part, hresult, hi, hstopped, hb, hrest, hle, hpart⟩
  · left
    refine ⟨b, hresult, ?_, ?_⟩
    · rw [hb, hlists, hremaining, List.append_assoc]
    · rw [hremaining, List.length_append]
      omega
  · right
    refine ⟨b, i + 1, piece ++ part, ?_, ?_, hstopped, ?_, ?_, ?_, ?_⟩
    · rw [hresult, Nat.add_right_comm, Nat.add_assoc]
    · rw [List.length_cons]
      omega
    · rw [hb, hlists, List.append_assoc]
    · rw [hremaining, hrest, List.append_assoc, List.drop_succ_cons]
    · rw [List.length_append]
      omega
    · intro ha
      refine ⟨?_, Or.inl (Nat.succ_pos i)⟩
      rcases hfirst ha with hpiece | ha'
      · exact fun h => hpiece (List.append_eq_nil_iff.mp h).1
      · exact fun h => (hpart ha').1 (List.append_eq_nil_iff.mp h).2

/-- The records in front of the continuation are passed over. -/
theorem searchAttributeLoop_skip (hle : index ≤ r.continuationServiceIndex)
    (hinside : r.continuationServiceIndex ≤ index + items.length) (hcount : index + items.length < 65536) :
    searchAttributeLoop fuel r items index a =
      searchAttributeLoop fuel r (items.drop (r.continuationServiceIndex - index)) r.continuationServiceIndex a := by
  induction items generalizing index with
  | nil =>
      have heq : index = r.continuationServiceIndex := by
        rw [List.length_nil] at hinside
        omega
      rw [← heq, List.drop_nil]
  | cons item items ih =>
      rw [List.length_cons] at hinside hcount
      by_cases hlt : index < r.continuationServiceIndex
      · have hsub : r.continuationServiceIndex - index = (r.continuationServiceIndex - (index + 1)) + 1 := by omega
        rw [searchAttributeLoop, if_pos hlt, uint16_small (by omega), ih (by omega) (by omega) (by omega), hsub,
          List.drop_succ_cons]
      · have heq : index = r.continuationServiceIndex := by omega
        rw [← heq, Nat.sub_self, List.drop_zero]

/-- What is copied of a record: all that is left of it, or as much as there is room for. -/
theorem addAttributes_spec {c : FilterAttributes}
    (hbuffer : c.buffer = ((attributesOf ids d).drop off).take a.maximumAttributeByteCount)
    (hused : c.usedBytes = min a.maximumAttributeByteCount ((attributesOf ids d).length - off))
    (hcomplete : c.complete = decide ((attributesOf ids d).length ≤ off + a.maximumAttributeByteCount))
    (hmax : a.maximumAttributeByteCount < 65536) (hoff : a.continuationOffset = off)
    (hshort : (attributesOf ids d).length < 65536) :
    (c.complete = true ∧ addAttributes a c =
      ⟨a.attributeLists ++ (attributesOf ids d).drop off,
        a.maximumAttributeByteCount - ((attributesOf ids d).length - off), 0, false⟩ ∧
      (attributesOf ids d).length - off ≤ a.maximumAttributeByteCount) ∨
    (c.complete = false ∧ addAttributes a c =
      ⟨a.attributeLists ++ ((attributesOf ids d).drop off).take a.maximumAttributeByteCount, 0,
        off + a.maximumAttributeByteCount, false⟩ ∧
      off + a.maximumAttributeByteCount < (attributesOf ids d).length) := by
  by_cases hall : (attributesOf ids d).length ≤ off + a.maximumAttributeByteCount
  · left
    have hdone : c.complete = true := by rw [hcomplete, decide_eq_true hall]
    have hmin : c.usedBytes = (attributesOf ids d).length - off := by omega
    have hbytes : c.buffer = (attributesOf ids d).drop off := by
      rw [hbuffer, List.take_of_length_le (by rw [List.length_drop]; omega)]
    have hleft : uint16 ((a.maximumAttributeByteCount : Int) - c.usedBytes) =
        a.maximumAttributeByteCount - ((attributesOf ids d).length - off) := by
      rw [uint16]
      omega
    exact ⟨hdone, by rw [addAttributes, hdone, if_pos rfl, hbytes, hleft], by omega⟩
  · right
    have hdone : c.complete = false := by rw [hcomplete, decide_eq_false hall]
    have hmin : c.usedBytes = a.maximumAttributeByteCount := by omega
    have hleft : uint16 ((a.maximumAttributeByteCount : Int) - c.usedBytes) = 0 := by
      rw [uint16]
      omega
    have hnext : uint16 (a.continuationOffset + c.usedBytes : Nat) = off + a.maximumAttributeByteCount := by
      rw [uint16_small (by omega)]
      omega
    exact ⟨hdone, by rw [addAttributes, hdone, if_neg Bool.false_ne_true, hbuffer, hleft, hnext], by omega⟩

/-- The pointers of the request, and a bound on the traversals that is enough for what stands there. -/
structure Asks (fuel : Nat) (pattern ids : List Element) (r : ServiceSearchAttributeRequest) : Prop where
  patternAt : ∃ size, ElementAt r.serviceSearchPattern (.sequence size pattern)
  idsAt : ∃ size, ElementAt r.attributeIDList (.sequence size ids)
  patternFuel : pattern.length < fuel
  idsFuel : ids.length < fuel

/-- A record that matches: its attributes are copied, behind `front`. -/
theorem outcome_copy {item : ServiceRecordItem} {p : Ptr} {b : AttributeLists} {front : Bytes}
    {next : AttributeLists → Option (AttributeLists × Option Nat)} (hmatch : matching pattern d = true)
    (hitem : Registered item d) (hd : EnoughFor fuel d) (hids : ElementAt p (.sequence idsSize ids))
    (hidsFuel : ids.length < fuel) (hmax : b.maximumAttributeByteCount < 65536) (hoff : b.continuationOffset = off)
    (hlists : b.attributeLists = a.attributeLists ++ front)
    (hroom : front.length + b.maximumAttributeByteCount ≤ a.maximumAttributeByteCount)
    (hremaining : remaining pattern ids (d :: ds) off =
      front ++ ((attributesOf ids d).drop off ++ listsOf pattern ids ds))
    (hpiece : front ++ (attributesOf ids d).drop off ≠ [])
    (hprogress : 1 ≤ b.maximumAttributeByteCount ∨ (attributesOf ids d).length ≤ off + b.maximumAttributeByteCount)
    (hoffShort : off < 65536)
    (hnext : ∀ a', a'.continuationOffset = 0 → a'.firstAnswer = false → a'.maximumAttributeByteCount < 65536 →
      LoopOutcome pattern ids ds (index + 1) 0 a' (next a')) :
    LoopOutcome pattern ids (d :: ds) index off a
      (match sdpFilterAttributesInAttributeIDList fuel item.serviceRecord p b.continuationOffset
          b.maximumAttributeByteCount with
        | none => none
        | some c => if c.complete then next (addAttributes b c) else some (addAttributes b c, some index)) := by
  have hshort := attributesOf_short ids hitem
  obtain ⟨c, hfilter, hbuffer, hused, hcomplete⟩ := hitem.filter hd hids hidsFuel hoffShort hmax
  rw [hoff, hfilter]
  rcases addAttributes_spec hbuffer hused hcomplete hmax hoff hshort with
    ⟨hdone, hadd, hle⟩ | ⟨hdone, hadd, hlt⟩
  · simp only [hdone, if_true, hadd]
    refine (hnext _ rfl rfl ?_).cons ?_ ?_ ?_ (fun _ => Or.inl hpiece)
    · show b.maximumAttributeByteCount - _ < 65536
      omega
    · rw [hlists, List.append_assoc]
    · rw [hremaining, remaining_zero, List.append_assoc]
    · show _ + (b.maximumAttributeByteCount - _) ≤ _
      rw [List.length_append, List.length_drop]
      omega
  · simp only [hdone, Bool.false_eq_true, if_false, hadd]
    right
    have hpos : 1 ≤ b.maximumAttributeByteCount := by omega
    have hsplit : (attributesOf ids d).drop off =
        ((attributesOf ids d).drop off).take b.maximumAttributeByteCount ++
          (attributesOf ids d).drop (off + b.maximumAttributeByteCount) := by
      rw [← List.drop_drop, List.take_append_drop]
    refine ⟨_, 0, front ++ ((attributesOf ids d).drop off).take b.maximumAttributeByteCount, rfl, Nat.succ_pos _,
      Or.inr ⟨d, ds, rfl, hmatch, hlt⟩, ?_, ?_, ?_, ?_⟩
    · rw [hlists, List.append_assoc]
    · have hne : off + b.maximumAttributeByteCount ≠ 0 := by omega
      have hrest : remaining pattern ids ((d :: ds).drop 0) (off + b.maximumAttributeByteCount) = _ := remaining_cons hne
      rw [hremaining, hrest, List.append_assoc, ← List.append_assoc (((attributesOf ids d).drop off).take _), ← hsplit]
    · rw [List.length_append, List.length_take]
      omega
    · intro _
      refine ⟨fun h => ?_, Or.inr (by show 0 < off + b.maximumAttributeByteCount; omega)⟩
      have hnil := congrArg List.length (List.append_eq_nil_iff.mp h).2
      rw [List.length_take, List.length_drop, List.length_nil] at hnil
      omega

/-- **The loop of a search for attributes**, from a continuation on. -/
theorem searchAttributeLoop_eq (hr : Asks fuel pattern ids r) (hall : List.Forall₂ Registered items ds)
    (hfuel : ∀ d ∈ ds, EnoughFor fuel d) (hindex : r.continuationServiceIndex ≤ index)
    (hcount : index + items.length < 65536) (hmax : a.maximumAttributeByteCount < 65536)
    (hstopped : StoppedAt pattern ids ds a.continuationOffset) (hroom : HasRoom a a.continuationOffset) :
    LoopOutcome pattern ids ds index a.continuationOffset a (searchAttributeLoop fuel r items index a) := by
  induction hall generalizing index a with
  | nil =>
      have hoff : a.continuationOffset = 0 := by
        rcases hstopped with hoff | ⟨d, rest, hnil, -⟩
        · exact hoff
        · cases hnil
      left
      refine ⟨a, rfl, ?_, ?_⟩
      · rw [hoff, remaining_zero]
        exact (List.append_nil _).symm
      · rw [hoff, remaining_zero]
        exact Nat.zero_le _
  | @cons item d items ds hitem hall ih =>
      obtain ⟨patternSize, hpattern⟩ := hr.patternAt
      obtain ⟨idsSize, hids⟩ := hr.idsAt
      have hd := hfuel d List.mem_cons_self
      have hds := fun x hx => hfuel x (List.mem_cons_of_mem d hx)
      rw [List.length_cons] at hcount
      have hshort := attributesOf_short ids hitem
      rw [searchAttributeLoop, if_neg (Nat.not_lt.mpr hindex), hitem.matching hd hpattern hr.patternFuel,
        uint16_small (by omega)]
      cases hmatch : matching pattern d with
      | false =>
          have hoff : a.continuationOffset = 0 := by
            rcases hstopped with hoff | ⟨x, rest, hcons, hx, -⟩
            · exact hoff
            · cases hcons
              rw [hmatch] at hx
              cases hx
          have hnext := ih hds (Nat.le_succ_of_le hindex) (by omega) hmax (Or.inl hoff) hroom
          rw [hoff] at hnext ⊢
          have hsame : a.attributeLists = a.attributeLists ++ [] := (List.append_nil _).symm
          refine hnext.cons hsame ?_ (by simp) (fun ha => Or.inr ha)
          rw [remaining_zero, remaining_zero, listsOf_cons_neg hmatch, List.nil_append]
      | true =>
          have hnext : ∀ a', a'.continuationOffset = 0 → a'.firstAnswer = false → a'.maximumAttributeByteCount < 65536 →
              LoopOutcome pattern ids ds (index + 1) 0 a' (searchAttributeLoop fuel r items (index + 1) a') := by
            intro a' hoff hfirst hmax'
            have hroom' : HasRoom a' a'.continuationOffset := by
              rw [HasRoom, if_pos hoff, hfirst]
              intro h
              cases h
            have hout := ih hds (Nat.le_succ_of_le hindex) (by omega) hmax' (Or.inl hoff) hroom'
            rw [hoff] at hout
            exact hout
          rw [beginRecord]
          by_cases hoff : a.continuationOffset = 0
          · -- the record begins: its header is in front
            rw [if_pos hoff, hitem.size hd hids hr.idsFuel]
            rw [HasRoom, if_pos hoff] at hroom
            by_cases hstop : (attributesOf ids d).length + 3 > a.maximumAttributeByteCount ∧ a.firstAnswer = false
            · simp only [if_pos hstop]
              right
              refine ⟨a, 0, [], rfl, Nat.succ_pos _, Or.inl hoff, (List.append_nil _).symm, ?_, Nat.zero_le _, ?_⟩
              · rw [List.drop_zero, List.nil_append]
              · intro ha
                rw [hstop.2] at ha
                cases ha
            · simp only [if_neg hstop]
              have hthree : 3 ≤ a.maximumAttributeByteCount := by
                cases hfirst : a.firstAnswer with
                | true =>
                    have := hroom hfirst
                    omega
                | false =>
                    have : ¬ (attributesOf ids d).length + 3 > a.maximumAttributeByteCount := fun h => hstop ⟨h, hfirst⟩
                    omega
              have hmaxLeft : uint16 ((a.maximumAttributeByteCount : Int) - 3) = a.maximumAttributeByteCount - 3 := by
                rw [uint16]
                omega
              rw [hmaxLeft]
              refine outcome_copy (a := a) (b := ⟨a.attributeLists ++ header typeSequence 6 (attributesOf ids d).length,
                a.maximumAttributeByteCount - 3, a.continuationOffset, a.firstAnswer⟩) hmatch hitem hd hids hr.idsFuel ?_
                rfl rfl ?_ ?_ ?_ ?_ ?_ hnext
              · show a.maximumAttributeByteCount - 3 < 65536
                omega
              · rw [header_length]
                show 3 + (a.maximumAttributeByteCount - 3) ≤ a.maximumAttributeByteCount
                omega
              · rw [hoff, remaining_zero, listsOf_cons_pos hmatch, List.drop_zero, listOf, List.append_assoc]
              · exact fun h => header_ne_nil _ _ _ (List.append_eq_nil_iff.mp h).1
              · show 1 ≤ a.maximumAttributeByteCount - 3 ∨
                  (attributesOf ids d).length ≤ a.continuationOffset + (a.maximumAttributeByteCount - 3)
                cases hfirst : a.firstAnswer with
                | true =>
                    have := hroom hfirst
                    omega
                | false =>
                    have : ¬ (attributesOf ids d).length + 3 > a.maximumAttributeByteCount := fun h => hstop ⟨h, hfirst⟩
                    omega
              · rw [hoff]
                decide
          · -- the record is gone on with
            have hlt : a.continuationOffset < (attributesOf ids d).length := by
              rcases hstopped with h | ⟨x, rest, hcons, -, hx⟩
              · exact absurd h hoff
              · cases hcons
                exact hx
            rw [HasRoom, if_neg hoff] at hroom
            simp only [if_neg hoff]
            refine outcome_copy (a := a) (b := a) hmatch hitem hd hids hr.idsFuel hmax rfl (List.append_nil _).symm
              (by simp) ?_ ?_ (Or.inl hroom.2) (by omega) hnext
            · rw [remaining_cons hoff, List.nil_append]
            · rw [List.nil_append]
              exact fun h => absurd (List.drop_eq_nil_iff.mp h) (Nat.not_le_of_lt hlt)

/-- The total size that stands in front of the lists. -/
theorem sdpGetSizeForServiceSearchAttributeResponse_eq (hr : Asks fuel pattern ids r)
    (hall : List.Forall₂ Registered items ds) (hfuel : ∀ d ∈ ds, EnoughFor fuel d) {total : Nat} (htotal : total < 65536) :
    sdpGetSizeForServiceSearchAttributeResponse fuel r.serviceSearchPattern r.attributeIDList items total =
      some (uint16 (total + (listsOf pattern ids ds).length : Nat)) := by
  induction hall generalizing total with
  | nil =>
      have hnil : (listsOf pattern ids []).length = 0 := rfl
      rw [sdpGetSizeForServiceSearchAttributeResponse, hnil, Nat.add_zero, uint16_small htotal]
  | @cons item d items ds hitem hall ih =>
      obtain ⟨patternSize, hpattern⟩ := hr.patternAt
      obtain ⟨idsSize, hids⟩ := hr.idsAt
      have hd := hfuel d List.mem_cons_self
      have hds := fun x hx => hfuel x (List.mem_cons_of_mem d hx)
      rw [sdpGetSizeForServiceSearchAttributeResponse, hitem.matching hd hpattern hr.patternFuel]
      cases hmatch : matching pattern d with
      | false =>
          rw [listsOf_cons_neg hmatch]
          exact ih hds htotal
      | true =>
          simp only [hitem.size hd hids hr.idsFuel, ih hds (uint16_lt _), listsOf_cons_pos hmatch, List.length_append,
            listOf_length]
          unfold uint16
          congr 1
          omega

end Loop

/-! ## The phone -/

/-- What a phone makes of a response with attributes: the attributes, and the continuation if there is one. It takes only
    a response to its transaction that has the length it says and fits the MTU. -/
def readAttributeResponse (pduId : UInt8) (transactionId mtu : Nat) (b : Bytes) : Option (Bytes × Option Bytes) :=
  let count := ofBE ((b.drop 5).take 2)
  match b.drop (7 + count) with
  | [] => none
  | n :: k =>
      if b.length ≤ mtu ∧ b.head? = some pduId ∧ ofBE ((b.drop 1).take 2) = transactionId ∧
          ofBE ((b.drop 3).take 2) + 5 = b.length ∧ n.toNat = k.length then
        some ((b.drop 7).take count, if k = [] then none else some k)
      else none

theorem readAttributeResponse_eq {pduId : UInt8} {transactionId mtu : Nat} {attributes k : Bytes}
    (htid : transactionId < 65536) (hk : k.length ≤ 16) (hlen : 8 + attributes.length + k.length ≤ mtu)
    (hmtu : mtu < 65536) :
    readAttributeResponse pduId transactionId mtu
        (attributeResponse pduId transactionId attributes (continuationState k)) =
      some (attributes, if k = [] then none else some k) := by
  have hstate := continuationState_length k
  have hfirst : (attributeResponse pduId transactionId attributes (continuationState k)).drop 1 =
      toBE 2 transactionId ++ (toBE 2 (2 + attributes.length + (continuationState k).length) ++
        (toBE 2 attributes.length ++ (attributes ++ continuationState k))) := by
    rw [attributeResponse, List.drop_succ_cons, List.drop_zero]
    simp only [List.append_assoc]
  have hlength : (attributeResponse pduId transactionId attributes (continuationState k)).length =
      8 + attributes.length + k.length := by
    have := congrArg List.length hfirst
    rw [List.length_drop] at this
    simp only [List.length_append, toBE_length, hstate] at this
    omega
  have hthird : (attributeResponse pduId transactionId attributes (continuationState k)).drop 3 =
      toBE 2 (2 + attributes.length + (continuationState k).length) ++
        (toBE 2 attributes.length ++ (attributes ++ continuationState k)) := by
    rw [← List.drop_drop (i := 2) (j := 1), hfirst, List.drop_left' (toBE_length 2 _)]
  have hfifth : (attributeResponse pduId transactionId attributes (continuationState k)).drop 5 =
      toBE 2 attributes.length ++ (attributes ++ continuationState k) := by
    rw [← List.drop_drop (i := 2) (j := 3), hthird, List.drop_left' (toBE_length 2 _)]
  have hseventh : (attributeResponse pduId transactionId attributes (continuationState k)).drop 7 =
      attributes ++ continuationState k := by
    rw [← List.drop_drop (i := 2) (j := 5), hfifth, List.drop_left' (toBE_length 2 _)]
  have hcount : ofBE (((attributeResponse pduId transactionId attributes (continuationState k)).drop 5).take 2) =
      attributes.length := by
    rw [hfifth, List.take_left' (toBE_length 2 _), ofBE_toBE]
    exact Nat.mod_eq_of_lt (by omega)
  have hbehind : (attributeResponse pduId transactionId attributes (continuationState k)).drop (7 + attributes.length) =
      UInt8.ofNat k.length :: k := by
    rw [← List.drop_drop, hseventh, List.drop_left]
    rfl
  have hsize : (UInt8.ofNat k.length).toNat = k.length := by
    rw [UInt8.toNat_ofNat']
    omega
  rw [readAttributeResponse]
  simp only [hcount, hbehind]
  rw [hseventh, List.take_left, if_pos]
  refine ⟨by omega, rfl, ?_, ?_, hsize⟩
  · rw [hfirst, List.take_left' (toBE_length 2 _), ofBE_toBE]
    exact Nat.mod_eq_of_lt (by omega)
  · rw [hthird, List.take_left' (toBE_length 2 _), ofBE_toBE, hstate, Nat.mod_eq_of_lt (by omega)]
    omega

/-! ## Searching for attributes

For every continuation that the server may have sent there is what it has left. An answer is a part of that with the
continuation for the rest, or all of it; the parts make up the whole by `Lib.Continues`. -/

/-- The continuation that the server makes of an index and an offset. -/
def attributeContinuation (index off : Nat) : Bytes := toBE 2 index ++ toBE 2 off

theorem attributeContinuation_length (index off : Nat) : (attributeContinuation index off).length = 4 := by
  rw [attributeContinuation, List.length_append, toBE_length, toBE_length]

theorem continuationState_attribute (index off : Nat) :
    4 :: (toBE 2 index ++ toBE 2 off) = continuationState (attributeContinuation index off) := by
  rw [continuationState, attributeContinuation_length]
  rfl

theorem searchAttributeContinuation_eq {index off : Nat} (hindex : index < 65536) (hoff : off < 65536) :
    searchAttributeContinuation (attributeContinuation index off) = (index, off) := by
  rw [searchAttributeContinuation, attributeContinuation, if_pos (by rw [List.length_append, toBE_length, toBE_length]),
    List.take_left' (toBE_length 2 _), List.drop_left' (toBE_length 2 _), ofBE_toBE, ofBE_toBE]
  exact Prod.ext (Nat.mod_eq_of_lt hindex) (Nat.mod_eq_of_lt hoff)

/-- What the server has left for a continuation: everything, with the total size in front, or the records from the index
    on. -/
def leftFor (pattern ids : List Element) (db : List ServiceRecord) (k : Bytes) : Bytes :=
  if searchAttributeContinuation k = (0, 0) then
    header typeSequence 6 (listsOf pattern ids db).length ++ listsOf pattern ids db
  else remaining pattern ids (db.drop (searchAttributeContinuation k).1) (searchAttributeContinuation k).2

/-- A continuation that the server may have sent, or none. -/
def ContinuationFor (pattern ids : List Element) (db : List ServiceRecord) (k : Bytes) : Prop :=
  k.length ≤ 4 ∧ (searchAttributeContinuation k).1 ≤ db.length ∧
    StoppedAt pattern ids (db.drop (searchAttributeContinuation k).1) (searchAttributeContinuation k).2

/-- The request of a phone for a continuation, at a place in memory; its size goes with it. -/
def searchAttributePhone (fuel : Nat) (records : List ServiceRecordItem) (place : Bytes → Ptr) (mtu transactionId : Nat)
    (pattern : Element) (maximum : Nat) (ids : Element) (k : Bytes) : Option (Bytes × Option Bytes) :=
  let request := sdpPdu 6 transactionId (searchAttributeParams pattern maximum ids k)
  (sdpPacketData fuel records (place request) request.length mtu).bind (readAttributeResponse 7 transactionId mtu)

section SearchAttribute

variable {fuel : Nat} {records : List ServiceRecordItem} {db : List ServiceRecord} {pattern ids : List Element}
  {r : ServiceSearchAttributeRequest} {k : Bytes}

theorem registered_of_mem (hall : List.Forall₂ Registered records db) {d : ServiceRecord} (hd : d ∈ db) :
    ∃ item ∈ records, Registered item d := by
  induction hall with
  | nil => exact absurd hd List.not_mem_nil
  | cons hitem _ ih =>
      rcases List.mem_cons.mp hd with rfl | hd
      · exact ⟨_, List.mem_cons_self, hitem⟩
      · obtain ⟨item, hmem, hreg⟩ := ih hd
        exact ⟨item, List.mem_cons_of_mem _ hmem, hreg⟩

theorem stoppedAt_lt {off : Nat} (hall : List.Forall₂ Registered records db) {n : Nat}
    (h : StoppedAt pattern ids (db.drop n) off) : off < 65536 := by
  rcases h with hoff | ⟨d, rest, hdrop, -, hlt⟩
  · omega
  · have hmem : d ∈ db := List.mem_of_mem_drop (hdrop ▸ List.mem_cons_self)
    obtain ⟨item, -, hreg⟩ := registered_of_mem hall hmem
    exact Nat.lt_trans hlt (attributesOf_short ids hreg)

theorem leftFor_continuation {index off : Nat} (hindex : index < 65536) (hoff : off < 65536)
    (hpos : 0 < index ∨ 0 < off) :
    leftFor pattern ids db (attributeContinuation index off) = remaining pattern ids (db.drop index) off := by
  have hne : ¬ (index, off) = (0, 0) := by
    rw [Prod.mk.injEq]
    omega
  rw [leftFor, searchAttributeContinuation_eq hindex hoff, if_neg hne]

theorem continuationFor_of_stopped (hall : List.Forall₂ Registered records db) (hcount : records.length < 65536)
    {index off : Nat} (hindex : index ≤ db.length) (hstopped : StoppedAt pattern ids (db.drop index) off) :
    ContinuationFor pattern ids db (attributeContinuation index off) := by
  have hoff := stoppedAt_lt hall hstopped
  have hlen := Nat.le_of_eq (attributeContinuation_length index off)
  rw [hall.length_eq] at hcount
  rw [ContinuationFor, searchAttributeContinuation_eq (by omega) hoff]
  exact ⟨hlen, hindex, hstopped⟩

/-- The loop from the record of the continuation on. -/
theorem searchAttribute_loop (hr : Asks fuel pattern ids r) (hall : List.Forall₂ Registered records db)
    (hfuel : ∀ d ∈ db, EnoughFor fuel d) (hcount : records.length < 65536)
    (hindex : r.continuationServiceIndex ≤ db.length) {a : AttributeLists}
    (hstopped : StoppedAt pattern ids (db.drop r.continuationServiceIndex) a.continuationOffset)
    (hmax : a.maximumAttributeByteCount < 65536) (hroom : HasRoom a a.continuationOffset) :
    LoopOutcome pattern ids (db.drop r.continuationServiceIndex) r.continuationServiceIndex a.continuationOffset a
      (searchAttributeLoop fuel r records 0 a) := by
  have hlen := hall.length_eq
  rw [searchAttributeLoop_skip (Nat.zero_le _) (by omega) (by omega), Nat.sub_zero]
  exact searchAttributeLoop_eq hr (List.forall₂_drop _ hall) (fun d hd => hfuel d (List.mem_of_mem_drop hd))
    (Nat.le_refl _) (by rw [List.length_drop]; omega) hmax hstopped hroom

/-- **One answer of the server** to a request with a continuation that it may have sent. -/
theorem searchAttribute_answer (hr : Asks fuel pattern ids r) (hall : List.Forall₂ Registered records db)
    (hfuel : ∀ d ∈ db, EnoughFor fuel d) (hcount : records.length < 65536)
    (hk : ContinuationFor pattern ids db k)
    (hcont : (r.continuationServiceIndex, r.continuationOffset) = searchAttributeContinuation k)
    (htotal : (listsOf pattern ids db).length < 65536) {maximum : Nat} (hmin : 7 ≤ maximum) (hmax : maximum < 65536) :
    ∃ a, beginLists fuel records r maximum = some a ∧
      ((∃ b, searchAttributeLoop fuel r records 0 a = some (b, none) ∧
          b.attributeLists = leftFor pattern ids db k ∧ b.attributeLists.length ≤ maximum) ∨
        ∃ b index, searchAttributeLoop fuel r records 0 a = some (b, some index) ∧
          b.attributeLists ≠ [] ∧ b.attributeLists.length ≤ maximum ∧
          ContinuationFor pattern ids db (attributeContinuation index b.continuationOffset) ∧
          leftFor pattern ids db k =
            b.attributeLists ++ leftFor pattern ids db (attributeContinuation index b.continuationOffset)) := by
  obtain ⟨-, hindex, hstopped⟩ := hk
  rw [← hcont] at hindex hstopped
  -- what is in front of the records, and the room behind it
  obtain ⟨front, a, hbegin, hlists, hoff, hfirst, hroom, hsum, hleft⟩ : ∃ front a,
      beginLists fuel records r maximum = some a ∧ a.attributeLists = front ∧
        a.continuationOffset = r.continuationOffset ∧ a.firstAnswer = true ∧ 4 ≤ a.maximumAttributeByteCount ∧
        front.length + a.maximumAttributeByteCount = maximum ∧
        leftFor pattern ids db k =
          front ++ remaining pattern ids (db.drop r.continuationServiceIndex) r.continuationOffset := by
    by_cases hzero : r.continuationServiceIndex = 0 ∧ r.continuationOffset = 0
    · have hsize := sdpGetSizeForServiceSearchAttributeResponse_eq hr hall hfuel (by decide : 0 < 65536)
      rw [Nat.zero_add, uint16_small htotal] at hsize
      have hmaxLeft : uint16 ((maximum : Int) - 3) = maximum - 3 := by
        rw [uint16]
        omega
      refine ⟨header typeSequence 6 (listsOf pattern ids db).length,
        ⟨header typeSequence 6 (listsOf pattern ids db).length, maximum - 3, r.continuationOffset, true⟩, ?_, rfl, rfl,
        rfl, ?_, ?_, ?_⟩
      · rw [beginLists, if_pos hzero, hsize, hmaxLeft]
      · show 4 ≤ maximum - 3
        omega
      · rw [header_length]
        show 3 + (maximum - 3) = maximum
        omega
      · rw [leftFor, ← hcont, hzero.1, hzero.2, if_pos rfl, List.drop_zero, remaining_zero]
    · have hne : ¬ (r.continuationServiceIndex, r.continuationOffset) = (0, 0) := by
        rw [Prod.mk.injEq]
        exact hzero
      refine ⟨[], ⟨[], maximum, r.continuationOffset, true⟩, ?_, rfl, rfl, rfl, ?_, Nat.zero_add _, ?_⟩
      · rw [beginLists, if_neg hzero]
      · show 4 ≤ maximum
        omega
      · rw [leftFor, ← hcont, if_neg hne, List.nil_append]
  have hhas : HasRoom a a.continuationOffset := by
    rw [HasRoom]
    split
    · exact fun _ => hroom
    · exact ⟨hfirst, by omega⟩
  rw [← hoff] at hstopped hleft
  refine ⟨a, hbegin, ?_⟩
  rcases searchAttribute_loop hr hall hfuel hcount hindex hstopped (by omega) hhas with
    ⟨b, hrun, hb, hle⟩ | ⟨b, i, part, hrun, hi, hstop, hb, hrest, hle, hpart⟩
  · left
    rw [hlists] at hb
    refine ⟨b, hrun, ?_, ?_⟩
    · rw [hb, hleft]
    · rw [hb, List.length_append]
      omega
  · right
    rw [hlists] at hb
    rw [List.drop_drop] at hstop hrest
    rw [List.length_drop] at hi
    have hlen := hall.length_eq
    obtain ⟨hne, hpos⟩ := hpart hfirst
    refine ⟨b, r.continuationServiceIndex + i, hrun, ?_, ?_, continuationFor_of_stopped hall hcount (by omega) hstop, ?_⟩
    · rw [hb]
      exact fun h => hne (List.append_eq_nil_iff.mp h).2
    · rw [hb, List.length_append]
      omega
    · rw [leftFor_continuation (by omega) (stoppedAt_lt hall hstop) (by omega), hleft, hrest, hb, List.append_assoc]

end SearchAttribute

/-- The items stand for the records, there are not more of them than an index counts, and the bound on the traversals is
    enough for each. -/
structure Serving (fuel : Nat) (records : List ServiceRecordItem) (db : List ServiceRecord) : Prop where
  registered : List.Forall₂ Registered records db
  fuel : ∀ d ∈ db, EnoughFor fuel d
  count : records.length < 65536

/-- A list of elements that a request carries: a well-formed sequence, with the same bound. -/
structure Sendable (fuel size : Nat) (es : List Element) : Prop where
  wf : (Element.sequence size es).wf = true
  fuel : es.length < fuel

theorem Sendable.at {fuel size : Nat} {es : List Element} (h : Sendable fuel size es) {p : Ptr}
    (hlen : (Element.sequence size es).encode.length < 65536) (hp : p.Holds (Element.sequence size es).encode) :
    ElementAt p (.sequence size es) := ⟨h.wf, hp, Nat.lt_trans hlen (by decide)⟩

/-- The bytes of a response that the MTU of the channel and the response buffer leave to the attributes. -/
theorem room_le {mtu maximum : Nat} (reserved : Nat) (hmin : 7 ≤ maximum) (hmax : maximum < 65536) (hmtu : 48 ≤ mtu)
    (hreserved : reserved ≤ 12) :
    ∃ n, (if uint16 (((if mtu > sdpResponseBufferSize then sdpResponseBufferSize else mtu : Nat) : Int) - reserved) <
        maximum then uint16 (((if mtu > sdpResponseBufferSize then sdpResponseBufferSize else mtu : Nat) : Int) - reserved)
      else maximum) = n ∧ 7 ≤ n ∧ n < 65536 ∧ n + reserved ≤ mtu := by
  have hsize : sdpResponseBufferSize = 1017 := rfl
  refine ⟨_, rfl, ?_⟩
  unfold uint16
  split_ifs <;> omega

section SearchAttributePhone

variable {fuel patternSize idsSize mtu transactionId maximum : Nat} {records : List ServiceRecordItem}
  {db : List ServiceRecord} {pattern ids : List Element} {place : Bytes → Ptr}

theorem searchAttributePhone_continues (hs : Serving fuel records db) (hplace : ∀ b, (place b).Holds b)
    (hpattern : Sendable fuel patternSize pattern) (hids : Sendable fuel idsSize ids)
    (hlen : (Element.sequence patternSize pattern).encode.length + (Element.sequence idsSize ids).encode.length < 65529)
    (hmin : 7 ≤ maximum) (hmax : maximum < 65536) (hmtu : 48 ≤ mtu) (hmtuMax : mtu < 65536)
    (htid : transactionId < 65536) (htotal : (listsOf pattern ids db).length < 65536) :
    Continues (searchAttributePhone fuel records place mtu transactionId (.sequence patternSize pattern) maximum
      (.sequence idsSize ids)) (ContinuationFor pattern ids db) (leftFor pattern ids db) := by
  intro k hk
  have hk4 := hk.1
  have hparamsLen : (searchAttributeParams (.sequence patternSize pattern) maximum (.sequence idsSize ids) k).length <
      65536 := by
    rw [searchAttributeParams, List.length_append, List.length_append, List.length_append, toBE_length,
      continuationState_length]
    omega
  have hholds := hplace (sdpPdu 6 transactionId
    (searchAttributeParams (.sequence patternSize pattern) maximum (.sequence idsSize ids) k))
  obtain ⟨r, hparse, hrtid, hrpattern, hrmax, hrids, hcont⟩ :=
    parseServiceSearchAttributeRequest_eq hpattern.wf hids.wf (by omega) hparamsLen hholds
  rw [Nat.mod_eq_of_lt htid] at hrtid
  rw [Nat.mod_eq_of_lt hmax] at hrmax
  have hasks : Asks fuel pattern ids r :=
    ⟨⟨patternSize, hpattern.at (by omega) hrpattern⟩, ⟨idsSize, hids.at (by omega) hrids⟩, hpattern.fuel, hids.fuel⟩
  obtain ⟨-, -, hsize, -⟩ := sdpPdu_read hholds hparamsLen
  have hfirst := (sdpPdu_read hholds hparamsLen).1
  obtain ⟨n, hn, hn7, hnMax, hnMtu⟩ := room_le 12 hmin hmax hmtu (Nat.le_refl 12)
  obtain ⟨a, hbegin, hanswer⟩ :=
    searchAttribute_answer hasks hs.registered hs.fuel hs.count hk hcont htotal hn7 hnMax
  have hfits : ¬ (searchAttributeParams (.sequence patternSize pattern) maximum (.sequence idsSize ids) k).length + 5 >
      (sdpPdu 6 transactionId
        (searchAttributeParams (.sequence patternSize pattern) maximum (.sequence idsSize ids) k)).length := by
    rw [sdpPdu_length]
    omega
  have hbegin' : beginLists fuel records r (if uint16 (((if mtu > sdpResponseBufferSize then sdpResponseBufferSize
      else mtu : Nat) : Int) - 12) < r.maximumAttributeByteCount then uint16 (((if mtu > sdpResponseBufferSize then
      sdpResponseBufferSize else mtu : Nat) : Int) - 12) else r.maximumAttributeByteCount) = some a := by
    rw [hrmax, ← hbegin, ← hn]
    rfl
  rw [searchAttributePhone]
  simp only [sdpPacketData, hsize, if_neg hfits, hfirst, show ¬ ((6 : UInt8) = 2) by decide,
    show ¬ ((6 : UInt8) = 4) by decide, if_false, if_true, sdpHandleServiceSearchAttributeRequest, hparse, hbegin', hrtid]
  rcases hanswer with ⟨b, hrun, hb, hle⟩ | ⟨b, index, hrun, hb, hle, hvalid, hleft⟩
  · left
    have hlast : [0] = continuationState [] := rfl
    have hfit : 8 + b.attributeLists.length + ([] : Bytes).length ≤ mtu := by
      rw [List.length_nil]
      omega
    rw [hrun, hlast, Option.bind_some, readAttributeResponse_eq htid (Nat.zero_le _) hfit hmtuMax, hb, if_pos rfl]
  · right
    have hmore := continuationState_attribute index b.continuationOffset
    have hcontLen := attributeContinuation_length index b.continuationOffset
    have hne : attributeContinuation index b.continuationOffset ≠ [] := List.ne_nil_of_length_pos (by omega)
    refine ⟨b.attributeLists, attributeContinuation index b.continuationOffset, ?_, hb, hleft, hvalid⟩
    rw [hrun]
    simp only [hmore, Option.bind_some]
    rw [readAttributeResponse_eq htid (by omega) (by omega) hmtuMax, if_neg hne]

/-- **A search for attributes finds them all**: a phone that repeats its request with the continuation of each response
    gets the lists of all the records that match, in the order of the server, with their total size in front, and no
    response exceeds the MTU. -/
theorem attributes_found (hs : Serving fuel records db) (hplace : ∀ b, (place b).Holds b)
    (hpattern : Sendable fuel patternSize pattern) (hids : Sendable fuel idsSize ids)
    (hlen : (Element.sequence patternSize pattern).encode.length + (Element.sequence idsSize ids).encode.length < 65529)
    (hmin : 7 ≤ maximum) (hmax : maximum < 65536) (hmtu : 48 ≤ mtu) (hmtuMax : mtu < 65536)
    (htid : transactionId < 65536) (htotal : (listsOf pattern ids db).length < 65536) (n : Nat)
    (hn : 3 + (listsOf pattern ids db).length < n) :
    collect (searchAttributePhone fuel records place mtu transactionId (.sequence patternSize pattern) maximum
        (.sequence idsSize ids)) n [] =
      some (header typeSequence 6 (listsOf pattern ids db).length ++ listsOf pattern ids db) := by
  have hleft : leftFor pattern ids db [] =
      header typeSequence 6 (listsOf pattern ids db).length ++ listsOf pattern ids db := if_pos rfl
  have hfirst : ContinuationFor pattern ids db [] := ⟨Nat.zero_le _, Nat.zero_le _, Or.inl rfl⟩
  have hcontinues := searchAttributePhone_continues hs hplace hpattern hids hlen hmin hmax hmtu hmtuMax htid htotal
  rw [← hleft]
  refine hcontinues.collect n [] hfirst ?_
  rw [hleft, List.length_append, header_length]
  exact hn

end SearchAttributePhone

/-! ## The attributes of a record -/

/-- What the server has left of a record for a continuation: the whole list, or the attributes from an offset on. -/
def leftOf (ids : List Element) (d : ServiceRecord) (k : Bytes) : Bytes :=
  if searchContinuation k = 0 then listOf ids d else (attributesOf ids d).drop (searchContinuation k)

/-- A continuation that the server may have sent, or none. -/
def ContinuationOf (ids : List Element) (d : ServiceRecord) (k : Bytes) : Prop :=
  k.length ≤ 2 ∧ (searchContinuation k = 0 ∨ searchContinuation k < (attributesOf ids d).length)

/-- The request of a phone for the attributes of a record. -/
def attributePhone (fuel : Nat) (records : List ServiceRecordItem) (place : Bytes → Ptr) (mtu transactionId : Nat)
    (handle : UInt32) (maximum : Nat) (ids : Element) (k : Bytes) : Option (Bytes × Option Bytes) :=
  let request := sdpPdu 4 transactionId (attributeParams handle.toNat maximum ids k)
  (sdpPacketData fuel records (place request) request.length mtu).bind (readAttributeResponse 5 transactionId mtu)

theorem searchContinuation_toBE {n : Nat} (hn : n < 65536) : searchContinuation (toBE 2 n) = n := by
  rw [searchContinuation, if_pos (toBE_length 2 n), ofBE_toBE]
  exact Nat.mod_eq_of_lt hn

theorem continuationState_toBE (n : Nat) : 2 :: toBE 2 n = continuationState (toBE 2 n) := by
  rw [continuationState, toBE_length]
  rfl

section Attribute

variable {fuel idsSize mtu transactionId maximum : Nat} {records : List ServiceRecordItem} {item : ServiceRecordItem}
  {d : ServiceRecord} {ids : List Element} {place : Bytes → Ptr} {p : Ptr}

/-- One answer: what is in front of the attributes, and how far the attributes are copied. -/
theorem attribute_answer (hitem : Registered item d) (hd : EnoughFor fuel d)
    (hids : ElementAt p (.sequence idsSize ids)) (hidsFuel : ids.length < fuel) {k : Bytes}
    (hk : ContinuationOf ids d k) (hmin : 7 ≤ maximum) (hmax : maximum < 65536) :
    ∃ des room c, attributeListHeader fuel item.serviceRecord p (searchContinuation k) maximum = some (des, room) ∧
      sdpFilterAttributesInAttributeIDList fuel item.serviceRecord p (searchContinuation k) room = some c ∧
      (des ++ c.buffer).length ≤ maximum ∧
      ((c.complete = true ∧ des ++ c.buffer = leftOf ids d k) ∨
        (c.complete = false ∧ des ++ c.buffer ≠ [] ∧
          ContinuationOf ids d (toBE 2 (uint16 (searchContinuation k + c.usedBytes : Nat))) ∧
          leftOf ids d k =
            des ++ c.buffer ++ leftOf ids d (toBE 2 (uint16 (searchContinuation k + c.usedBytes : Nat))))) := by
  have hshort := attributesOf_short ids hitem
  have hoffShort : searchContinuation k < 65536 := by
    have := hk.2
    omega
  obtain ⟨des, room, hheader, hsum, hroom, hleft⟩ : ∃ des room,
      attributeListHeader fuel item.serviceRecord p (searchContinuation k) maximum = some (des, room) ∧
        des.length + room = maximum ∧ 4 ≤ room ∧
        leftOf ids d k = des ++ (attributesOf ids d).drop (searchContinuation k) := by
    by_cases hzero : searchContinuation k = 0
    · have hmaxLeft : uint16 ((maximum : Int) - 3) = maximum - 3 := by
        rw [uint16]
        omega
      refine ⟨header typeSequence 6 (attributesOf ids d).length, maximum - 3, ?_, ?_, by omega, ?_⟩
      · rw [attributeListHeader, if_pos hzero, hitem.size hd hids hidsFuel, hmaxLeft]
      · rw [header_length]
        show 3 + (maximum - 3) = maximum
        omega
      · rw [leftOf, if_pos hzero, hzero, List.drop_zero, listOf]
    · refine ⟨[], maximum, ?_, Nat.zero_add _, by omega, ?_⟩
      · rw [attributeListHeader, if_neg hzero]
      · rw [leftOf, if_neg hzero, List.nil_append]
  obtain ⟨c, hfilter, hbuffer, hused, hcomplete⟩ :=
    hitem.filter hd hids hidsFuel hoffShort (by omega : room < 65536)
  have hle : (des ++ c.buffer).length ≤ maximum := by
    rw [hbuffer, List.length_append, List.length_take]
    omega
  refine ⟨des, room, c, hheader, hfilter, hle, ?_⟩
  by_cases hall : (attributesOf ids d).length ≤ searchContinuation k + room
  · left
    refine ⟨by rw [hcomplete, decide_eq_true hall], ?_⟩
    rw [hleft, hbuffer, List.take_of_length_le (by rw [List.length_drop]; omega)]
  · right
    have hnext : uint16 (searchContinuation k + c.usedBytes : Nat) = searchContinuation k + room := by
      rw [uint16_small (by omega)]
      omega
    have hdecode := searchContinuation_toBE (by omega : searchContinuation k + room < 65536)
    have hne : ¬ searchContinuation k + room = 0 := by omega
    refine ⟨by rw [hcomplete, decide_eq_false hall], ?_, ?_, ?_⟩
    · intro hnil
      have hlen := congrArg List.length (List.append_eq_nil_iff.mp hnil).2
      rw [hbuffer, List.length_take, List.length_drop, List.length_nil] at hlen
      omega
    · rw [hnext, ContinuationOf, hdecode, toBE_length]
      exact ⟨Nat.le_refl 2, Or.inr (by omega)⟩
    · have hsplit : (attributesOf ids d).drop (searchContinuation k) =
          ((attributesOf ids d).drop (searchContinuation k)).take room ++
            (attributesOf ids d).drop (searchContinuation k + room) := by
        rw [← List.drop_drop, List.take_append_drop]
      have hrest : leftOf ids d (toBE 2 (searchContinuation k + room)) =
          (attributesOf ids d).drop (searchContinuation k + room) := by
        rw [leftOf, hdecode, if_neg hne]
      rw [hnext, hrest, hleft, hbuffer, List.append_assoc, ← hsplit]

theorem attributePhone_continues {handle : UInt32} (hfind : sdpGetRecordItemForHandle records handle.toNat = some item)
    (hitem : Registered item d) (hd : EnoughFor fuel d) (hplace : ∀ b, (place b).Holds b)
    (hids : Sendable fuel idsSize ids) (hlen : (Element.sequence idsSize ids).encode.length < 65527)
    (hmin : 7 ≤ maximum) (hmax : maximum < 65536) (hmtu : 48 ≤ mtu) (hmtuMax : mtu < 65536)
    (htid : transactionId < 65536) :
    Continues (attributePhone fuel records place mtu transactionId handle maximum (.sequence idsSize ids))
      (ContinuationOf ids d) (leftOf ids d) := by
  intro k hk
  have hk2 := hk.1
  have hparamsLen : (attributeParams handle.toNat maximum (.sequence idsSize ids) k).length < 65536 := by
    rw [attributeParams, List.length_append, List.length_append, List.length_append, toBE_length, toBE_length,
      continuationState_length]
    omega
  have hholds := hplace (sdpPdu 4 transactionId (attributeParams handle.toNat maximum (.sequence idsSize ids) k))
  obtain ⟨r, hparse, hrtid, hrhandle, hrmax, hrids, hcont⟩ :=
    parseServiceAttributeRequest_eq hids.wf (by omega) hparamsLen hholds
  rw [Nat.mod_eq_of_lt htid] at hrtid
  rw [Nat.mod_eq_of_lt handle.toNat_lt] at hrhandle
  rw [Nat.mod_eq_of_lt hmax] at hrmax
  obtain ⟨hfirst, -, hsize, -⟩ := sdpPdu_read hholds hparamsLen
  obtain ⟨n, hn, hn7, hnMax, hnMtu⟩ := room_le 10 hmin hmax hmtu (by decide)
  obtain ⟨des, room, c, hheader, hfilter, hle, hanswer⟩ :=
    attribute_answer hitem hd (hids.at (by omega) hrids) hids.fuel hk hn7 hnMax
  have hfits : ¬ (attributeParams handle.toNat maximum (.sequence idsSize ids) k).length + 5 >
      (sdpPdu 4 transactionId (attributeParams handle.toNat maximum (.sequence idsSize ids) k)).length := by
    rw [sdpPdu_length]
    omega
  have hheader' : attributeListHeader fuel item.serviceRecord r.attributeIDList r.continuationOffset
      (if uint16 (((if mtu > sdpResponseBufferSize then sdpResponseBufferSize else mtu : Nat) : Int) - (7 + 3)) <
        r.maximumAttributeByteCount then uint16 (((if mtu > sdpResponseBufferSize then sdpResponseBufferSize
        else mtu : Nat) : Int) - (7 + 3)) else r.maximumAttributeByteCount) = some (des, room) := by
    rw [hrmax, hcont, ← hheader, ← hn]
    rfl
  rw [attributePhone]
  simp only [sdpPacketData, hsize, if_neg hfits, hfirst, show ¬ ((4 : UInt8) = 2) by decide, if_false, if_true,
    sdpHandleServiceAttributeRequest, hparse, hrhandle, hfind, hheader', hrtid]
  rw [hcont]
  simp only [hfilter]
  rcases hanswer with ⟨hdone, hall⟩ | ⟨hdone, hne, hvalid, hrest⟩
  · left
    have hlast : [0] = continuationState [] := rfl
    have hfit : 8 + (des ++ c.buffer).length + ([] : Bytes).length ≤ mtu := by
      rw [List.length_nil]
      omega
    rw [hdone, if_pos rfl, hlast, Option.bind_some, readAttributeResponse_eq htid (Nat.zero_le _) hfit hmtuMax, hall,
      if_pos rfl]
  · right
    have hnext : toBE 2 (uint16 (searchContinuation k + c.usedBytes : Nat)) ≠ [] := List.cons_ne_nil _ _
    have hfit : 8 + (des ++ c.buffer).length + (toBE 2 (uint16 (searchContinuation k + c.usedBytes : Nat))).length ≤
        mtu := by
      rw [toBE_length]
      omega
    refine ⟨des ++ c.buffer, toBE 2 (uint16 (searchContinuation k + c.usedBytes : Nat)), ?_, hne, hrest, hvalid⟩
    rw [hdone, if_neg Bool.false_ne_true, continuationState_toBE, Option.bind_some,
      readAttributeResponse_eq htid (by rw [toBE_length]; decide) hfit hmtuMax, if_neg hnext]

/-- **The attributes of a record are fetched**: a phone that asks for a handle and follows the continuations gets the list
    of the attributes that it asks for, and no response exceeds the MTU. -/
theorem attributes_fetched {handle : UInt32} (hfind : sdpGetRecordItemForHandle records handle.toNat = some item)
    (hitem : Registered item d) (hd : EnoughFor fuel d) (hplace : ∀ b, (place b).Holds b)
    (hids : Sendable fuel idsSize ids) (hlen : (Element.sequence idsSize ids).encode.length < 65527)
    (hmin : 7 ≤ maximum) (hmax : maximum < 65536) (hmtu : 48 ≤ mtu) (hmtuMax : mtu < 65536)
    (htid : transactionId < 65536) (n : Nat) (hn : (listOf ids d).length < n) :
    collect (attributePhone fuel records place mtu transactionId handle maximum (.sequence idsSize ids)) n [] =
      some (listOf ids d) := by
  have hleft : leftOf ids d [] = listOf ids d := if_pos rfl
  have hfirst : ContinuationOf ids d [] := ⟨Nat.zero_le _, Or.inl rfl⟩
  have hcontinues := attributePhone_continues hfind hitem hd hplace hids hlen hmin hmax hmtu hmtuMax htid
  rw [← hleft] at hn ⊢
  exact hcontinues.collect n [] hfirst hn

end Attribute

/-- The record for iAP2, in responses of at most 20 bytes of attributes. -/
theorem attributes_fetched_iap2 :
    collect (attributePhone 40 [⟨0x10001, Ptr.of (attributeList (iap2Attributes 3)).encode⟩] Ptr.of 48 1 0x10001 20
        (.sequence 5 [allIds])) 100 [] = some (listOf [allIds] ⟨0x10001, iap2Attributes 3⟩) := by
  have hitem : Registered ⟨0x10001, Ptr.of (attributeList (iap2Attributes 3)).encode⟩ ⟨0x10001, iap2Attributes 3⟩ :=
    ⟨by decide, ⟨by decide +kernel, Ptr.holds_of _, by decide +kernel⟩⟩
  have hfuel : EnoughFor 40 ⟨0x10001, iap2Attributes 3⟩ := by
    unfold EnoughFor
    decide +kernel
  have hfind : sdpGetRecordItemForHandle [⟨0x10001, Ptr.of (attributeList (iap2Attributes 3)).encode⟩]
      (0x10001 : UInt32).toNat = some ⟨0x10001, Ptr.of (attributeList (iap2Attributes 3)).encode⟩ := rfl
  exact attributes_fetched hfind hitem hfuel Ptr.holds_of (⟨by decide, by decide⟩ : Sendable 40 5 [allIds]) (by decide)
    (by decide) (by decide) (by decide) (by decide) (by decide) 100 (by decide +kernel)

/-! ## Searching for records

The same for handles, where the continuation is an index into the records. -/

/-- The handles of the records that match. -/
def handlesOf (pattern : List Element) (ds : List ServiceRecord) : List UInt32 :=
  (ds.filter (matching pattern)).map (·.handle)

/-- The bytes of handles. -/
def handleBytes (handles : List UInt32) : Bytes := handles.flatMap fun h => toBE 4 h.toNat

theorem handleBytes_length (handles : List UInt32) : (handleBytes handles).length = 4 * handles.length := by
  induction handles with
  | nil => rfl
  | cons h handles ih =>
      rw [handleBytes, List.flatMap_cons, List.length_append, toBE_length, ← handleBytes, ih, List.length_cons]
      omega

/-- What the loop may come to, from the records `ds` on, when `matched` records have been counted: all the handles up to
    the limit are there, or a first part of them. -/
def SearchOutcome (pattern : List Element) (ds : List ServiceRecord) (l : SearchLimits) (index matched : Nat)
    (handles : Bytes) (count : Nat) (result : Option (Bytes × Nat × Option Nat)) : Prop :=
  ∃ part, count + part.length ≤ l.maxNrServiceRecordsPerResponse ∧
    ((result = some (handles ++ handleBytes part, count + part.length, none) ∧
        (handlesOf pattern ds).take (l.totalServiceCount - matched) = part) ∨
      ∃ i, result = some (handles ++ handleBytes part, count + part.length, some (index + i)) ∧ i ≤ ds.length ∧
        part ≠ [] ∧ matched + part.length < l.totalServiceCount ∧
        handlesOf pattern ds = part ++ handlesOf pattern (ds.drop i))

section Search

variable {fuel patternSize index matched count : Nat} {pattern : List Element} {p : Ptr} {d : ServiceRecord}
  {ds : List ServiceRecord} {items : List ServiceRecordItem} {l : SearchLimits} {handles : Bytes}
  {result : Option (Bytes × Nat × Option Nat)}

theorem handlesOf_cons_pos (h : matching pattern d = true) :
    handlesOf pattern (d :: ds) = d.handle :: handlesOf pattern ds := by
  rw [handlesOf, List.filter_cons_of_pos h, List.map_cons, handlesOf]

theorem handlesOf_cons_neg (h : matching pattern d = false) :
    handlesOf pattern (d :: ds) = handlesOf pattern ds := by
  rw [handlesOf, List.filter_cons_of_neg (by simp [h]), handlesOf]

theorem handlesOf_length_le (pattern : List Element) (ds : List ServiceRecord) :
    (handlesOf pattern ds).length ≤ ds.length := by
  rw [handlesOf, List.length_map]
  exact List.length_filter_le _ _

/-- The records in front of an index and the ones behind it. -/
theorem handlesOf_split (pattern : List Element) (ds : List ServiceRecord) (n : Nat) :
    handlesOf pattern ds = handlesOf pattern (ds.take n) ++ handlesOf pattern (ds.drop n) := by
  rw [handlesOf, handlesOf, handlesOf, ← List.map_append, ← List.filter_append, List.take_append_drop]

/-- A record that does not match, in front of an outcome for the others. -/
theorem SearchOutcome.skip (hmatch : matching pattern d = false)
    (h : SearchOutcome pattern ds l (index + 1) matched handles count result) :
    SearchOutcome pattern (d :: ds) l index matched handles count result := by
  obtain ⟨part, hle, ⟨hresult, htake⟩ | ⟨i, hresult, hi, hne, hlt, hrest⟩⟩ := h
  · refine ⟨part, hle, Or.inl ⟨hresult, ?_⟩⟩
    rw [handlesOf_cons_neg hmatch]
    exact htake
  · refine ⟨part, hle, Or.inr ⟨i + 1, ?_, ?_, hne, hlt, ?_⟩⟩
    · rw [hresult, Nat.add_right_comm, Nat.add_assoc]
    · rw [List.length_cons]
      omega
    · rw [handlesOf_cons_neg hmatch, List.drop_succ_cons]
      exact hrest

/-- A record whose handle is there, in front of an outcome for the others. -/
theorem SearchOutcome.add (hmatch : matching pattern d = true) (hlt : matched < l.totalServiceCount)
    (h : SearchOutcome pattern ds l (index + 1) (matched + 1) (handles ++ toBE 4 d.handle.toNat) (count + 1) result) :
    SearchOutcome pattern (d :: ds) l index matched handles count result := by
  obtain ⟨part, hle, hpart⟩ := h
  have hbytes : handles ++ handleBytes (d.handle :: part) = handles ++ toBE 4 d.handle.toNat ++ handleBytes part := by
    rw [List.append_assoc]
    rfl
  have hcount : count + (d.handle :: part).length = count + 1 + part.length := by
    rw [List.length_cons]
    omega
  refine ⟨d.handle :: part, by omega, ?_⟩
  rw [hbytes, hcount]
  rcases hpart with ⟨hresult, htake⟩ | ⟨i, hresult, hi, hne, hlt', hrest⟩
  · refine Or.inl ⟨hresult, ?_⟩
    have hsub : l.totalServiceCount - matched = l.totalServiceCount - (matched + 1) + 1 := by omega
    rw [handlesOf_cons_pos hmatch, hsub, List.take_succ_cons, htake]
  · refine Or.inr ⟨i + 1, ?_, ?_, List.cons_ne_nil _ _, ?_, ?_⟩
    · have hplace : index + 1 + i = index + (i + 1) := by omega
      rw [hresult, hplace]
    · rw [List.length_cons]
      omega
    · rw [List.length_cons]
      omega
    · rw [handlesOf_cons_pos hmatch, List.drop_succ_cons, List.cons_append, ← hrest]

/-- **The loop of a search for records**, from a continuation on. -/
theorem searchLoop_eq (hpattern : ElementAt p (.sequence patternSize pattern)) (hpatternFuel : pattern.length < fuel)
    (hall : List.Forall₂ Registered items ds) (hfuel : ∀ d ∈ ds, EnoughFor fuel d) (hindex : l.continuationIndex ≤ index)
    (hcount : index + items.length < 65536) (hmatched : matched ≤ index)
    (hroom : count < l.maxNrServiceRecordsPerResponse) (hmax : l.maxNrServiceRecordsPerResponse < 65536)
    (hlimit : handlesOf pattern ds ≠ [] → matched < l.totalServiceCount) :
    SearchOutcome pattern ds l index matched handles count (searchLoop fuel p l items index matched handles count) := by
  induction hall generalizing index matched handles count with
  | nil =>
      refine ⟨[], Nat.le_of_lt hroom, Or.inl ⟨?_, List.take_nil⟩⟩
      rw [searchLoop, handleBytes, List.flatMap_nil, List.append_nil, List.length_nil, Nat.add_zero]
  | @cons item d items ds hitem hall ih =>
      have hd := hfuel d List.mem_cons_self
      have hds := fun x hx => hfuel x (List.mem_cons_of_mem d hx)
      rw [List.length_cons] at hcount
      rw [searchLoop, hitem.matching hd hpattern hpatternFuel, uint16_small (by omega : index + 1 < 65536)]
      cases hmatch : matching pattern d with
      | false =>
          rw [handlesOf_cons_neg hmatch] at hlimit
          exact (ih hds (by omega) (by omega) (by omega) hroom hlimit).skip hmatch
      | true =>
          have hlt : matched < l.totalServiceCount := by
            refine hlimit ?_
            rw [handlesOf_cons_pos hmatch]
            exact List.cons_ne_nil _ _
          simp only [if_neg (Nat.not_lt.mpr hindex), uint16_small (by omega : matched + 1 < 65536),
            uint16_small (by omega : count + 1 < 65536), hitem.handle]
          have hone : handleBytes [d.handle] = toBE 4 d.handle.toNat := List.append_nil _
          by_cases hstop : matched + 1 ≥ l.totalServiceCount
          · rw [if_pos hstop]
            refine ⟨[d.handle], hroom, Or.inl ⟨by rw [hone, List.length_singleton], ?_⟩⟩
            have hsub : l.totalServiceCount - matched = 1 := by omega
            rw [handlesOf_cons_pos hmatch, hsub, List.take_succ_cons, List.take_zero]
          · rw [if_neg hstop]
            by_cases hfull : count + 1 ≥ l.maxNrServiceRecordsPerResponse
            · rw [if_pos hfull]
              refine ⟨[d.handle], hroom, Or.inr ⟨1, by rw [hone, List.length_singleton], ?_, List.cons_ne_nil _ _, ?_, ?_⟩⟩
              · rw [List.length_cons]
                omega
              · rw [List.length_singleton]
                omega
              · rw [handlesOf_cons_pos hmatch]
                rfl
            · rw [if_neg hfull]
              exact (ih hds (by omega) (by omega) (by omega) (by omega) (fun _ => by omega)).add hmatch hlt

/-- The records in front of the continuation are counted. -/
theorem searchLoop_skip (hpattern : ElementAt p (.sequence patternSize pattern)) (hpatternFuel : pattern.length < fuel)
    (hall : List.Forall₂ Registered items ds) (hfuel : ∀ d ∈ ds, EnoughFor fuel d)
    (hle : index ≤ l.continuationIndex) (hinside : l.continuationIndex ≤ index + items.length)
    (hcount : index + items.length < 65536) (hmatched : matched ≤ index) :
    searchLoop fuel p l items index matched handles count =
      searchLoop fuel p l (items.drop (l.continuationIndex - index)) l.continuationIndex
        (matched + (handlesOf pattern (ds.take (l.continuationIndex - index))).length) handles count := by
  induction hall generalizing index matched with
  | nil =>
      have heq : index = l.continuationIndex := by
        rw [List.length_nil] at hinside
        omega
      rw [← heq, List.drop_nil, List.take_nil]
      rfl
  | @cons item d items ds hitem hall ih =>
      have hd := hfuel d List.mem_cons_self
      have hds := fun x hx => hfuel x (List.mem_cons_of_mem d hx)
      rw [List.length_cons] at hinside hcount
      by_cases hlt : index < l.continuationIndex
      · have hsub : l.continuationIndex - index = (l.continuationIndex - (index + 1)) + 1 := by omega
        rw [searchLoop, hitem.matching hd hpattern hpatternFuel, uint16_small (by omega : index + 1 < 65536), hsub,
          List.drop_succ_cons, List.take_succ_cons]
        cases hmatch : matching pattern d with
        | false =>
            rw [handlesOf_cons_neg hmatch]
            exact ih hds (by omega) (by omega) (by omega) (by omega)
        | true =>
            have hnext := ih hds (by omega : index + 1 ≤ _) (by omega) (by omega) (by omega : matched + 1 ≤ index + 1)
            simp only [if_pos hlt, uint16_small (by omega : matched + 1 < 65536), hnext, handlesOf_cons_pos hmatch,
              List.length_cons]
            rw [Nat.add_right_comm, Nat.add_assoc]
      · have heq : index = l.continuationIndex := by omega
        rw [← heq, Nat.sub_self, List.drop_zero, List.take_zero]
        rfl

/-- The number of the records that match. -/
theorem countMatching_eq (hpattern : ElementAt p (.sequence patternSize pattern)) (hpatternFuel : pattern.length < fuel)
    (hall : List.Forall₂ Registered items ds) (hfuel : ∀ d ∈ ds, EnoughFor fuel d) {total : Nat}
    (hcount : total + items.length < 65536) :
    countMatching fuel p items total = some (total + (handlesOf pattern ds).length) := by
  induction hall generalizing total with
  | nil => rfl
  | @cons item d items ds hitem hall ih =>
      have hd := hfuel d List.mem_cons_self
      have hds := fun x hx => hfuel x (List.mem_cons_of_mem d hx)
      rw [List.length_cons] at hcount
      rw [countMatching, hitem.matching hd hpattern hpatternFuel]
      cases hmatch : matching pattern d with
      | false =>
          rw [handlesOf_cons_neg hmatch]
          exact ih hds (by omega)
      | true =>
          simp only [uint16_small (by omega : total + 1 < 65536), ih hds (by omega : total + 1 + items.length < 65536),
            handlesOf_cons_pos hmatch, List.length_cons]
          congr 1
          omega

end Search

/-- The index of a continuation, the handles that the server has left for it, and whether the server may have sent it. -/
def handlesLeft (pattern : List Element) (db : List ServiceRecord) (maximum : Nat) (k : Bytes) : List UInt32 :=
  ((handlesOf pattern db).take maximum).drop (handlesOf pattern (db.take (searchContinuation k))).length

def SearchContinuation (pattern : List Element) (db : List ServiceRecord) (maximum : Nat) (k : Bytes) : Prop :=
  k.length ≤ 2 ∧ searchContinuation k ≤ db.length ∧
    (handlesOf pattern (db.drop (searchContinuation k)) ≠ [] →
      (handlesOf pattern (db.take (searchContinuation k))).length < maximum)

/-- The handles at the front of some bytes. -/
def readHandles : Nat → Bytes → List UInt32
  | 0, _ => []
  | n + 1, b => UInt32.ofNat (ofBE (b.take 4)) :: readHandles n (b.drop 4)

/-- What a phone makes of a response with handles. -/
def readSearchResponse (transactionId mtu : Nat) (b : Bytes) : Option (List UInt32 × Option Bytes) :=
  let count := ofBE ((b.drop 7).take 2)
  match b.drop (9 + 4 * count) with
  | [] => none
  | n :: k =>
      if b.length ≤ mtu ∧ b.head? = some 3 ∧ ofBE ((b.drop 1).take 2) = transactionId ∧
          ofBE ((b.drop 3).take 2) + 5 = b.length ∧ count ≤ ofBE ((b.drop 5).take 2) ∧ n.toNat = k.length then
        some (readHandles count (b.drop 9), if k = [] then none else some k)
      else none

/-- The request of a phone for the handles of the records that match. -/
def searchPhone (fuel : Nat) (records : List ServiceRecordItem) (place : Bytes → Ptr) (mtu transactionId : Nat)
    (pattern : Element) (maximum : Nat) (k : Bytes) : Option (List UInt32 × Option Bytes) :=
  let request := sdpPdu 2 transactionId (searchParams pattern maximum k)
  (sdpPacketData fuel records (place request) request.length mtu).bind (readSearchResponse transactionId mtu)

theorem readHandles_eq (handles : List UInt32) (rest : Bytes) :
    readHandles handles.length (handleBytes handles ++ rest) = handles := by
  induction handles with
  | nil => rfl
  | cons h handles ih =>
      have hsplit : handleBytes (h :: handles) ++ rest = toBE 4 h.toNat ++ (handleBytes handles ++ rest) := by
        rw [handleBytes, List.flatMap_cons, List.append_assoc]
        rfl
      have hvalue : UInt32.ofNat (ofBE (toBE 4 h.toNat)) = h := by
        rw [ofBE_toBE, Nat.mod_eq_of_lt (by exact h.toNat_lt : h.toNat < 256 ^ 4), UInt32.ofNat_toNat]
      rw [List.length_cons, readHandles, hsplit, List.take_left' (toBE_length 4 _), List.drop_left' (toBE_length 4 _), ih,
        hvalue]

theorem readSearchResponse_eq {transactionId mtu total : Nat} {handles : List UInt32} {k : Bytes}
    (htid : transactionId < 65536) (hk : k.length ≤ 16) (hlen : 10 + 4 * handles.length + k.length ≤ mtu)
    (hmtu : mtu < 65536) (htotal : total < 65536) (hle : handles.length ≤ total) :
    readSearchResponse transactionId mtu
        (searchResponse transactionId total handles.length (handleBytes handles) (continuationState k)) =
      some (handles, if k = [] then none else some k) := by
  have hstate := continuationState_length k
  have hbytes := handleBytes_length handles
  generalize hb : searchResponse transactionId total handles.length (handleBytes handles) (continuationState k) = b
  have hfirst : b.drop 1 = toBE 2 transactionId ++
      (toBE 2 (4 + (handleBytes handles).length + (continuationState k).length) ++
        (toBE 2 total ++ (toBE 2 handles.length ++ (handleBytes handles ++ continuationState k)))) := by
    rw [← hb, searchResponse, List.drop_succ_cons, List.drop_zero]
    simp only [List.append_assoc]
  have hlength : b.length = 10 + 4 * handles.length + k.length := by
    have := congrArg List.length hfirst
    rw [List.length_drop] at this
    simp only [List.length_append, toBE_length, hstate, hbytes] at this
    omega
  have hthird : b.drop 3 = toBE 2 (4 + (handleBytes handles).length + (continuationState k).length) ++
      (toBE 2 total ++ (toBE 2 handles.length ++ (handleBytes handles ++ continuationState k))) := by
    rw [← List.drop_drop (i := 2) (j := 1), hfirst, List.drop_left' (toBE_length 2 _)]
  have hfifth : b.drop 5 =
      toBE 2 total ++ (toBE 2 handles.length ++ (handleBytes handles ++ continuationState k)) := by
    rw [← List.drop_drop (i := 2) (j := 3), hthird, List.drop_left' (toBE_length 2 _)]
  have hseventh : b.drop 7 = toBE 2 handles.length ++ (handleBytes handles ++ continuationState k) := by
    rw [← List.drop_drop (i := 2) (j := 5), hfifth, List.drop_left' (toBE_length 2 _)]
  have hninth : b.drop 9 = handleBytes handles ++ continuationState k := by
    rw [← List.drop_drop (i := 2) (j := 7), hseventh, List.drop_left' (toBE_length 2 _)]
  have hcount : ofBE ((b.drop 7).take 2) = handles.length := by
    rw [hseventh, List.take_left' (toBE_length 2 _), ofBE_toBE]
    exact Nat.mod_eq_of_lt (by omega)
  have hbehind : b.drop (9 + 4 * handles.length) = UInt8.ofNat k.length :: k := by
    rw [← List.drop_drop, hninth, ← hbytes, List.drop_left]
    rfl
  have hsize : (UInt8.ofNat k.length).toNat = k.length := by
    rw [UInt8.toNat_ofNat']
    omega
  rw [readSearchResponse]
  simp only [hcount, hbehind]
  rw [hninth, readHandles_eq, if_pos]
  refine ⟨by omega, ?_, ?_, ?_, ?_, hsize⟩
  · rw [← hb]
    rfl
  · rw [hfirst, List.take_left' (toBE_length 2 _), ofBE_toBE]
    exact Nat.mod_eq_of_lt (by omega)
  · rw [hthird, List.take_left' (toBE_length 2 _), ofBE_toBE, hstate, Nat.mod_eq_of_lt (by omega)]
    omega
  · rw [hfifth, List.take_left' (toBE_length 2 _), ofBE_toBE, Nat.mod_eq_of_lt (by omega)]
    exact hle

section SearchPhone

variable {fuel patternSize mtu transactionId maximum : Nat} {records : List ServiceRecordItem}
  {db : List ServiceRecord} {pattern : List Element} {place : Bytes → Ptr} {p : Ptr}

theorem handlesOf_length (pattern : List Element) (db : List ServiceRecord) (n : Nat) :
    (handlesOf pattern db).length = (handlesOf pattern (db.take n)).length + (handlesOf pattern (db.drop n)).length := by
  rw [← List.length_append, ← handlesOf_split]

theorem handlesLeft_eq (pattern : List Element) (db : List ServiceRecord) (maximum : Nat) (k : Bytes) :
    handlesLeft pattern db maximum k = (handlesOf pattern (db.drop (searchContinuation k))).take
      (maximum - (handlesOf pattern (db.take (searchContinuation k))).length) := by
  rw [handlesLeft, List.drop_take]
  congr 1
  conv_lhs => rw [handlesOf_split pattern db (searchContinuation k)]
  rw [List.drop_left]

/-- The loop from the record of the continuation on. -/
theorem searchLoop_from (hs : Serving fuel records db) (hpattern : ElementAt p (.sequence patternSize pattern))
    (hpatternFuel : pattern.length < fuel) {l : SearchLimits} (hindex : l.continuationIndex ≤ db.length)
    (hroom : 0 < l.maxNrServiceRecordsPerResponse) (hmax : l.maxNrServiceRecordsPerResponse < 65536)
    (hlimit : handlesOf pattern (db.drop l.continuationIndex) ≠ [] →
      (handlesOf pattern (db.take l.continuationIndex)).length < l.totalServiceCount) :
    SearchOutcome pattern (db.drop l.continuationIndex) l l.continuationIndex
      (handlesOf pattern (db.take l.continuationIndex)).length [] 0 (searchLoop fuel p l records 0 0 [] 0) := by
  have hlen := hs.registered.length_eq
  have hcount := hs.count
  have hbefore := handlesOf_length_le pattern (db.take l.continuationIndex)
  rw [List.length_take] at hbefore
  rw [searchLoop_skip hpattern hpatternFuel hs.registered hs.fuel (Nat.zero_le _) (by omega) (by omega) (Nat.le_refl 0),
    Nat.sub_zero, Nat.zero_add]
  exact searchLoop_eq hpattern hpatternFuel (List.forall₂_drop _ hs.registered)
    (fun d hd => hs.fuel d (List.mem_of_mem_drop hd)) (Nat.le_refl _) (by rw [List.length_drop]; omega) (by omega) hroom
    hmax hlimit

/-- One answer of the server to a request with a continuation that it may have sent. -/
theorem search_answer (hs : Serving fuel records db) (hpattern : ElementAt p (.sequence patternSize pattern))
    (hpatternFuel : pattern.length < fuel) {k : Bytes} (hk : SearchContinuation pattern db maximum k) {l : SearchLimits}
    (hroom : 0 < l.maxNrServiceRecordsPerResponse) (hmax : l.maxNrServiceRecordsPerResponse < 65536)
    (hindex : l.continuationIndex = searchContinuation k)
    (htotal : l.totalServiceCount = min maximum (handlesOf pattern db).length) :
    ∃ part next, searchLoop fuel p l records 0 0 [] 0 = some (handleBytes part, part.length, next) ∧
      part.length ≤ l.maxNrServiceRecordsPerResponse ∧ part.length ≤ l.totalServiceCount ∧
      match next with
      | none => part = handlesLeft pattern db maximum k
      | some index => part ≠ [] ∧ SearchContinuation pattern db maximum (toBE 2 index) ∧
          handlesLeft pattern db maximum k = part ++ handlesLeft pattern db maximum (toBE 2 index) := by
  obtain ⟨-, hinside, hlimit⟩ := hk
  rw [← hindex] at hinside hlimit
  have hlen := hs.registered.length_eq
  have hcount := hs.count
  have hsplit := handlesOf_length pattern db l.continuationIndex
  have hloop := searchLoop_from hs hpattern hpatternFuel hinside hroom hmax fun hne => by
    have hpos := List.length_pos_of_ne_nil hne
    have hlt := hlimit hne
    omega
  rw [handlesLeft_eq, ← hindex]
  obtain ⟨part, hle, ⟨hresult, htake⟩ | ⟨i, hresult, hi, hne, hlt, hrest⟩⟩ := hloop
  · refine ⟨part, none, ?_, by omega, ?_, ?_⟩
    · rw [hresult, List.nil_append, Nat.zero_add]
    · rw [← htake, List.length_take]
      omega
    · show part = _
      rw [← htake]
      by_cases hlimited : l.totalServiceCount = maximum
      · rw [hlimited]
      · rw [List.take_of_length_le (by omega), List.take_of_length_le (by omega)]
  · have hafter := handlesOf_length pattern db (l.continuationIndex + i)
    have hrestLen := congrArg List.length hrest
    rw [List.drop_drop] at hrest hrestLen
    rw [List.length_append] at hrestLen
    rw [List.length_drop] at hi
    have hdecode := searchContinuation_toBE (by omega : l.continuationIndex + i < 65536)
    refine ⟨part, some (l.continuationIndex + i), ?_, by omega, by omega, hne, ?_, ?_⟩
    · rw [hresult, List.nil_append, Nat.zero_add]
    · rw [SearchContinuation, hdecode, toBE_length]
      exact ⟨Nat.le_refl 2, by omega, fun _ => by omega⟩
    · have hsub : maximum - (handlesOf pattern (db.take l.continuationIndex)).length - part.length =
          maximum - (handlesOf pattern (db.take (l.continuationIndex + i))).length := by omega
      rw [handlesLeft_eq, hdecode, hrest, List.take_append, List.take_of_length_le (by omega), hsub]

/-- The number of handles that the MTU of the channel and the response buffer leave room for. -/
theorem recordsPerResponse (hmtu : 48 ≤ mtu) :
    ∃ n, uint16 ((((if mtu > sdpResponseBufferSize then sdpResponseBufferSize else mtu : Nat) : Int) - (9 + 3)).tdiv 4) =
      n ∧ 0 < n ∧ 4 * n + 12 ≤ mtu := by
  have hsize : sdpResponseBufferSize = 1017 := rfl
  refine ⟨_, rfl, ?_⟩
  unfold uint16
  rw [Int.tdiv_eq_ediv_of_nonneg (by split_ifs <;> omega)]
  split_ifs <;> omega

theorem searchPhone_continues (hs : Serving fuel records db) (hplace : ∀ b, (place b).Holds b)
    (hpattern : Sendable fuel patternSize pattern)
    (hlen : (Element.sequence patternSize pattern).encode.length < 65531) (hmin : 0 < maximum) (hmax : maximum < 65536)
    (hmtu : 48 ≤ mtu) (hmtuMax : mtu < 65536) (htid : transactionId < 65536) :
    Continues (searchPhone fuel records place mtu transactionId (.sequence patternSize pattern) maximum)
      (SearchContinuation pattern db maximum) (handlesLeft pattern db maximum) := by
  intro k hk
  have hk2 := hk.1
  have hparamsLen : (searchParams (.sequence patternSize pattern) maximum k).length < 65536 := by
    rw [searchParams, List.length_append, List.length_append, toBE_length, continuationState_length]
    omega
  have hholds := hplace (sdpPdu 2 transactionId (searchParams (.sequence patternSize pattern) maximum k))
  obtain ⟨r, hparse, hrtid, hrpattern, hrmax, hcont⟩ :=
    parseServiceSearchRequest_eq hpattern.wf (by omega) hparamsLen hholds
  rw [Nat.mod_eq_of_lt htid] at hrtid
  rw [Nat.mod_eq_of_lt hmax] at hrmax
  obtain ⟨hfirst, -, hsize, -⟩ := sdpPdu_read hholds hparamsLen
  have hat := hpattern.at (by omega) hrpattern
  have hfits : ¬ (searchParams (.sequence patternSize pattern) maximum k).length + 5 >
      (sdpPdu 2 transactionId (searchParams (.sequence patternSize pattern) maximum k)).length := by
    rw [sdpPdu_length]
    omega
  have hcount : 0 + records.length < 65536 := by
    rw [Nat.zero_add]
    exact hs.count
  have hmatching := countMatching_eq hat hpattern.fuel hs.registered hs.fuel hcount
  rw [Nat.zero_add] at hmatching
  obtain ⟨room, hroomEq, hroomPos, hroomMtu⟩ := recordsPerResponse hmtu
  have htotal : (if (handlesOf pattern db).length > r.maximumServiceRecordCount then r.maximumServiceRecordCount
      else (handlesOf pattern db).length) = min maximum (handlesOf pattern db).length := by
    rw [hrmax]
    split <;> omega
  obtain ⟨part, next, hloop, hpartRoom, hpartTotal, hnext⟩ :=
    search_answer (l := ⟨r.continuationIndex, min maximum (handlesOf pattern db).length, room⟩) hs hat hpattern.fuel hk
      hroomPos (by show room < 65536; omega) hcont rfl
  have hpartRoom' : part.length ≤ room := hpartRoom
  have hpartTotal' : part.length ≤ min maximum (handlesOf pattern db).length := hpartTotal
  rw [searchPhone]
  simp only [sdpPacketData, hsize, if_neg hfits, hfirst, if_true, sdpHandleServiceSearchRequest, hparse, hmatching,
    htotal, hroomEq, hloop, hrtid]
  cases next with
  | none =>
      left
      have hlast : [0] = continuationState [] := rfl
      have hfit : 10 + 4 * part.length + ([] : Bytes).length ≤ mtu := by
        rw [List.length_nil]
        omega
      simp only [hlast, Option.bind_some]
      rw [readSearchResponse_eq htid (Nat.zero_le _) hfit hmtuMax (by omega) hpartTotal', if_pos rfl, hnext]
  | some index =>
      right
      obtain ⟨hne, hvalid, hrest⟩ := hnext
      have hmore := continuationState_toBE index
      have hnext : toBE 2 index ≠ [] := List.cons_ne_nil _ _
      have hfit : 10 + 4 * part.length + (toBE 2 index).length ≤ mtu := by
        rw [toBE_length]
        omega
      refine ⟨part, toBE 2 index, ?_, hne, hrest, hvalid⟩
      simp only [hmore, Option.bind_some]
      rw [readSearchResponse_eq htid (by rw [toBE_length]; decide) hfit hmtuMax (by omega) hpartTotal',
        if_neg hnext]

/-- **A search finds all the records**: a phone that repeats its request with the continuation of each response gets the
    handles of the records that match, in the order of the server and up to its limit, and no response exceeds the MTU. -/
theorem records_found (hs : Serving fuel records db) (hplace : ∀ b, (place b).Holds b)
    (hpattern : Sendable fuel patternSize pattern)
    (hlen : (Element.sequence patternSize pattern).encode.length < 65531) (hmin : 0 < maximum) (hmax : maximum < 65536)
    (hmtu : 48 ≤ mtu) (hmtuMax : mtu < 65536) (htid : transactionId < 65536) (n : Nat)
    (hn : (handlesOf pattern db).length < n) :
    collect (searchPhone fuel records place mtu transactionId (.sequence patternSize pattern) maximum) n [] =
      some ((handlesOf pattern db).take maximum) := by
  have hleft : handlesLeft pattern db maximum [] = (handlesOf pattern db).take maximum := rfl
  have hfirst : SearchContinuation pattern db maximum [] := ⟨Nat.zero_le _, Nat.zero_le _, fun _ => hmin⟩
  have hcontinues := searchPhone_continues hs hplace hpattern hlen hmin hmax hmtu hmtuMax htid
  rw [← hleft]
  refine hcontinues.collect n [] hfirst ?_
  rw [hleft, List.length_take]
  omega

end SearchPhone

/-- The records of the program, under the handles that they name. -/
def programItems : List ServiceRecordItem :=
  [⟨0x10001, Ptr.of (attributeList (iap2Attributes 3)).encode⟩, ⟨0x10002, Ptr.of (attributeList didAttributes).encode⟩]

def programRecords : List ServiceRecord := [⟨0x10001, iap2Attributes 3⟩, ⟨0x10002, didAttributes⟩]

theorem serving_program : Serving 40 programItems programRecords where
  registered := List.Forall₂.cons ⟨by decide, ⟨by decide +kernel, Ptr.holds_of _, by decide +kernel⟩⟩
    (List.Forall₂.cons ⟨by decide, ⟨by decide +kernel, Ptr.holds_of _, by decide +kernel⟩⟩ List.Forall₂.nil)
  fuel := by
    intro d hd
    simp only [programRecords, List.mem_cons, List.not_mem_nil, or_false] at hd
    rcases hd with rfl | rfl
    · unfold EnoughFor
      decide +kernel
    · unfold EnoughFor
      decide +kernel
  count := by decide

/-- Every record matches an empty pattern. -/
theorem records_found_all :
    collect (searchPhone 40 programItems Ptr.of 48 1 (.sequence 5 []) 2) 3 [] = some [0x10001, 0x10002] := by
  have hhandles : (handlesOf [] programRecords).take 2 = [0x10001, 0x10002] := by decide +kernel
  have hfound := records_found serving_program Ptr.holds_of (⟨by decide, by decide⟩ : Sendable 40 5 [])
    (by decide) (by decide : 0 < 2) (by decide) (by decide : 48 ≤ 48) (by decide) (by decide : 1 < 65536) 3 (by decide +kernel)
  rw [hhandles] at hfound
  exact hfound

end Showcase.Btstack
