import Showcase.Pair.Tlv

/-!
# `Pair.TlvParse` — `tlv_parse` on any input

`Pair.Tlv` reads the input as a list that gets shorter. Here the loop is written on the index `i`, as the source
has it, with reads that have no result behind the end of the input; it is the same function. What the loop
computes is then said without it: the input is cut into as many whole records as it starts with, and these are
folded into items.

## Contents
- `tlvScan` — the loop on the index, with `tlvScan_eq`: no read leaves the input;
- `tlvRecords` — the records at the front of the input, with `tlvRecords_split` and `tlvRecords_longest`;
- `foldRecords` — records into items, with `tlvLoop_eq_foldRecords`;
- `foldRecords_separated`, `foldRecords_length` — what the items always look like;
- **`tlvParse_records`** — the parser on any input, and parsing again what was built from its result.
-/

namespace Showcase

open Lib

/-! ## The loop on the index -/

/-- `buf + at`, `n` bytes of it: what a `memcpy` from there reads. None where it would read behind the end. -/
def bytesAt (buf : Bytes) (start n : Nat) : Option Bytes :=
  if start + n ≤ buf.length then some ((buf.drop start).take n) else none

/-- The loop of `tlv_parse` on `i`; no result where a read falls outside the input. The sum `i + 2 + tlen` is far
    from the end of `size_t`: the input is an object in memory. -/
def tlvScan (entry : Nat → Bool) (buf : Bytes) (k : Nat) (items : List TlvItem) (i : Nat) :
    Option (List TlvItem) :=
  if i + 2 ≤ buf.length then
    (buf[i]?).bind fun type => (buf[i + 1]?).bind fun tlen =>
      if buf.length < i + 2 + tlen.toNat then some items
      else
        match items.getLast? with
        | some prev =>
            if prev.type = type then
              if entry k then
                (bytesAt buf (i + 2) tlen.toNat).bind fun data =>
                  tlvScan entry buf (k + 1) (items.dropLast ++ [{ prev with data := prev.data ++ data }])
                    (i + 2 + tlen.toNat)
              else some items
            else if maxTlvItems ≤ items.length then some items
            else if entry k then
              (bytesAt buf (i + 2) tlen.toNat).bind fun data =>
                tlvScan entry buf (k + 1) (items ++ [⟨type, data⟩]) (i + 2 + tlen.toNat)
            else some items
        | none =>
            if entry k then
              (bytesAt buf (i + 2) tlen.toNat).bind fun data =>
                tlvScan entry buf (k + 1) (items ++ [⟨type, data⟩]) (i + 2 + tlen.toNat)
            else some items
  else some items
termination_by buf.length - i
decreasing_by all_goals omega

theorem bytesAt_eq_some {buf : Bytes} {start n : Nat} (h : start + n ≤ buf.length) :
    bytesAt buf start n = some ((buf.drop start).take n) := if_pos h

/-- **No read leaves the input**: the loop on the index has a result, for every input and every pattern of failing
    allocations, and it is that of the loop on what is left. -/
theorem tlvScan_eq (entry : Nat → Bool) (buf : Bytes) (k : Nat) (items : List TlvItem) (i : Nat) :
    tlvScan entry buf k items i = some (tlvLoop entry k items (buf.drop i)) := by
  induction hn : buf.length - i using Nat.strongRecOn generalizing k items i with
  | ind n ih =>
      rw [tlvScan]
      by_cases hhead : i + 2 ≤ buf.length
      · have hdrop : buf.drop i = buf[i] :: buf[i + 1] :: buf.drop (i + 2) := by
          rw [List.drop_eq_getElem_cons (by omega), List.drop_eq_getElem_cons (by omega)]
        have hlen : (buf.drop (i + 2)).length = buf.length - (i + 2) := List.length_drop
        rw [if_pos hhead, List.getElem?_eq_getElem (by omega), Option.bind_some,
          List.getElem?_eq_getElem (by omega), Option.bind_some, hdrop, tlvLoop, hlen]
        by_cases hfull : buf.length < i + 2 + buf[i + 1].toNat
        · have hshort : buf.length - (i + 2) < buf[i + 1].toNat := by omega
          rw [if_pos hfull, if_pos hshort]
        · have hfit : ¬ buf.length - (i + 2) < buf[i + 1].toNat := by omega
          have hnext : ∀ k items, tlvScan entry buf k items (i + 2 + buf[i + 1].toNat)
              = some (tlvLoop entry k items ((buf.drop (i + 2)).drop buf[i + 1].toNat)) := by
            intro k items
            rw [ih _ (by omega) k items _ rfl, List.drop_drop]
          rw [if_neg hfull, if_neg hfit, bytesAt_eq_some (by omega)]
          simp only [Option.bind_some, hnext]
          cases items.getLast? with
          | none => simp only [apply_ite some]
          | some prev => simp only [apply_ite some]
      · have hend : ∀ type tlen rest, buf.drop i ≠ type :: tlen :: rest := by
          intro type tlen rest h
          have hlen := congrArg List.length h
          rw [List.length_drop, List.length_cons, List.length_cons] at hlen
          omega
        rw [if_neg hhead, tlvLoop.eq_def]
        split
        · rename_i type tlen rest h
          exact absurd h (hend type tlen rest)
        · rfl

/-- `tlv_parse` with its reads: `none` is a read outside the input, `some none` the NULL table. -/
def tlvParseReads (alloc : TlvAlloc) (buf : Bytes) : Option (Option (List TlvItem)) :=
  if alloc.table then (tlvScan alloc.entry buf 0 [] 0).map some else some none

theorem tlvParseReads_eq (alloc : TlvAlloc) (buf : Bytes) : tlvParseReads alloc buf = some (tlvParse alloc buf) := by
  unfold tlvParseReads tlvParse
  rw [tlvScan_eq, List.drop_zero]
  split
  · rfl
  · rfl

/-! ## Records -/

/-- A record of the encoding: its value is as long as one length byte can say. -/
structure TlvRecord where
  type : UInt8
  data : Bytes
  short : data.length < 256

/-- The bytes of a record. -/
def TlvRecord.encode (r : TlvRecord) : Bytes := r.type :: UInt8.ofNat r.data.length :: r.data

def encodeRecords (records : List TlvRecord) : Bytes := records.flatMap TlvRecord.encode

/-- The whole records the input starts with. -/
def tlvRecords (buf : Bytes) : List TlvRecord :=
  match buf with
  | type :: tlen :: rest =>
      if rest.length < tlen.toNat then []
      else
        ⟨type, rest.take tlen.toNat, (List.length_take_le _ _).trans_lt tlen.toNat_lt⟩ ::
          tlvRecords (rest.drop tlen.toNat)
  | _ => []
termination_by buf.length
decreasing_by exact tlvRest_length type tlen rest

theorem TlvRecord.length_toNat (r : TlvRecord) : (UInt8.ofNat r.data.length).toNat = r.data.length := by
  rw [UInt8.toNat_ofNat']
  exact Nat.mod_eq_of_lt r.short

/-- A record in front of anything is the first record. -/
theorem tlvRecords_encode (r : TlvRecord) (rest : Bytes) :
    tlvRecords (r.encode ++ rest) = r :: tlvRecords rest := by
  have hfit : ¬ (r.data ++ rest).length < r.data.length := by
    rw [List.length_append]
    omega
  rw [TlvRecord.encode, List.cons_append, List.cons_append, tlvRecords]
  simp only [r.length_toNat, if_neg hfit, List.take_left, List.drop_left]

theorem tlvRecords_encodeRecords (records : List TlvRecord) (rest : Bytes) :
    tlvRecords (encodeRecords records ++ rest) = records ++ tlvRecords rest := by
  induction records with
  | nil => rfl
  | cons r records ih =>
      rw [encodeRecords, List.flatMap_cons, List.append_assoc, tlvRecords_encode]
      exact congrArg (r :: ·) ih

/-- **The prefix**: the input is the records and a rest that no record can be read from. -/
theorem tlvRecords_split (buf : Bytes) :
    ∃ rest, buf = encodeRecords (tlvRecords buf) ++ rest ∧ tlvRecords rest = [] := by
  induction buf using tlvRecords.induct with
  | case1 type tlen rest hshort =>
      have hnone : tlvRecords (type :: tlen :: rest) = [] := by rw [tlvRecords, if_pos hshort]
      exact ⟨_, by rw [hnone]; rfl, hnone⟩
  | case2 type tlen rest hfit ih =>
      obtain ⟨tail, hsplit, hnone⟩ := ih
      refine ⟨tail, ?_, hnone⟩
      have hlen : (rest.take tlen.toNat).length = tlen.toNat := by
        rw [List.length_take]
        omega
      rw [tlvRecords, if_neg hfit, encodeRecords, List.flatMap_cons, TlvRecord.encode, List.append_assoc]
      simp only [List.cons_append]
      simp only [hlen, UInt8.ofNat_toNat]
      rw [← encodeRecords, ← hsplit, List.take_append_drop]
  | case3 buf hshort =>
      have hnone : tlvRecords buf = [] := by
        rw [tlvRecords]
        exact hshort
      exact ⟨buf, by rw [hnone]; rfl, hnone⟩

/-- **The longest prefix.** Any records the input starts with are among the parsed ones, in front. -/
theorem tlvRecords_longest {buf rest : Bytes} {records : List TlvRecord} (h : buf = encodeRecords records ++ rest) :
    records <+: tlvRecords buf := by
  rw [h, tlvRecords_encodeRecords]
  exact List.prefix_append _ _

/-! ## Records into items -/

/-- One record: it continues the last item, or is a new one; `none` where there is no room for a new one. -/
def foldRecord (items : List TlvItem) (r : TlvRecord) : Option (List TlvItem) :=
  match items.getLast? with
  | some prev =>
      if prev.type = r.type then some (items.dropLast ++ [{ prev with data := prev.data ++ r.data }])
      else if maxTlvItems ≤ items.length then none
      else some (items ++ [⟨r.type, r.data⟩])
  | none => some (items ++ [⟨r.type, r.data⟩])

/-- The records in order, up to the first there is no room for. -/
def foldRecords (items : List TlvItem) : List TlvRecord → List TlvItem
  | [] => items
  | r :: records =>
      match foldRecord items r with
      | some items => foldRecords items records
      | none => items

/-- **The loop is the fold** of the records, when every allocation succeeds. -/
theorem tlvLoop_eq_foldRecords (k : Nat) (items : List TlvItem) (buf : Bytes) :
    tlvLoop (fun _ => true) k items buf = foldRecords items (tlvRecords buf) := by
  induction buf using tlvRecords.induct generalizing k items with
  | case1 type tlen rest hshort =>
      rw [tlvLoop, if_pos hshort, tlvRecords, if_pos hshort, foldRecords]
  | case2 type tlen rest hfit ih =>
      rw [tlvLoop, if_neg hfit, tlvRecords, if_neg hfit, foldRecords, foldRecord]
      cases hlast : items.getLast? with
      | none => simp only [ih, if_true]
      | some prev =>
          by_cases hsame : prev.type = type
          · simp only [hsame, ih, if_true]
          · by_cases hroom : maxTlvItems ≤ items.length
            · simp only [hsame, hroom, if_true, if_false]
            · simp only [hsame, hroom, ih, if_true, if_false]
  | case3 buf hshort =>
      have hnone : tlvRecords buf = [] := by
        rw [tlvRecords]
        exact hshort
      rw [hnone, foldRecords, tlvLoop]
      exact hshort

/-! ## What the items look like

The parser adds to the last item or adds a new one of another type. So whatever the records are, what it has at any
time is something that `tlv_build` keeps apart. -/

/-- At most 16 items, no two neighbours of one type. -/
structure Normal (items : List TlvItem) : Prop where
  separated : Separated items
  length : items.length ≤ maxTlvItems

theorem normal_nil : Normal [] := ⟨.nil, Nat.zero_le _⟩

/-- Data can be added to the last item. -/
theorem Normal.extend {items : List TlvItem} {prev : TlvItem} (h : Normal items)
    (hlast : items.getLast? = some prev) (data : Bytes) :
    Normal (items.dropLast ++ [{ prev with data := data }]) := by
  obtain ⟨front, rfl⟩ := List.getLast?_eq_some_iff.mp hlast
  rw [List.dropLast_concat]
  have hsep := List.isChain_append.mp h.separated
  refine ⟨List.isChain_append.mpr ⟨hsep.1, .singleton _, ?_⟩, ?_⟩
  · intro p hp q hq
    have hdiff := hsep.2.2 p hp prev (by simp)
    rw [List.head?_singleton, Option.mem_some_iff] at hq
    rw [← hq]
    exact hdiff
  · have hlen := h.length
    rw [List.length_append, List.length_singleton] at hlen ⊢
    exact hlen

/-- An item of another type than the last one can be added while there is room. -/
theorem Normal.add {items : List TlvItem} {item : TlvItem} (h : Normal items)
    (hdiff : ∀ p ∈ items.getLast?, p.type ≠ item.type) (hroom : items.length < maxTlvItems) :
    Normal (items ++ [item]) := by
  refine ⟨List.isChain_append.mpr ⟨h.separated, .singleton _, ?_⟩, ?_⟩
  · intro p hp q hq
    rw [List.head?_singleton, Option.mem_some_iff] at hq
    rw [← hq]
    exact hdiff p hp
  · rw [List.length_append, List.length_singleton]
    exact hroom

theorem foldRecord_normal {items items' : List TlvItem} {r : TlvRecord} (h : Normal items)
    (hfold : foldRecord items r = some items') : Normal items' := by
  unfold foldRecord at hfold
  cases hlast : items.getLast? with
  | none =>
      rw [hlast] at hfold
      have hnil : items = [] := List.getLast?_eq_none_iff.mp hlast
      rw [← Option.some.inj hfold]
      refine h.add ?_ ?_
      · intro p hp
        rw [hlast] at hp
        exact nomatch hp
      · rw [hnil]
        exact Nat.zero_lt_succ _
  | some prev =>
      rw [hlast] at hfold
      simp only at hfold
      by_cases hsame : prev.type = r.type
      · rw [if_pos hsame] at hfold
        rw [← Option.some.inj hfold]
        exact h.extend hlast _
      · rw [if_neg hsame] at hfold
        by_cases hfull : maxTlvItems ≤ items.length
        · rw [if_pos hfull] at hfold
          exact nomatch hfold
        · rw [if_neg hfull] at hfold
          rw [← Option.some.inj hfold]
          refine h.add ?_ (Nat.lt_of_not_le hfull)
          intro p hp
          rw [hlast, Option.mem_some_iff] at hp
          rw [← hp]
          exact hsame

theorem foldRecords_normal (records : List TlvRecord) {items : List TlvItem} (h : Normal items) :
    Normal (foldRecords items records) := by
  induction records generalizing items with
  | nil => exact h
  | cons r records ih =>
      rw [foldRecords]
      cases hfold : foldRecord items r with
      | none => exact h
      | some items' => exact ih (foldRecord_normal h hfold)

/-! ## The parser on any input -/

theorem tlvParse_eq_foldRecords (buf : Bytes) :
    tlvParse TlvAlloc.ok buf = some (foldRecords [] (tlvRecords buf)) := by
  rw [tlvParse, TlvAlloc.ok, if_pos rfl, tlvLoop_eq_foldRecords]

/-- **`tlv_parse` on any input.** The input is cut into as many whole records as it starts with and a rest. No read
    leaves the input, and the result is the fold of the records. What `tlv_build` writes from it is parsed as the
    same items again. -/
theorem tlvParse_records (buf : Bytes) :
    ∃ (records : List TlvRecord) (rest : Bytes) (items : List TlvItem),
      buf = encodeRecords records ++ rest ∧
      (∀ others tail, buf = encodeRecords others ++ tail → others <+: records) ∧
      items = foldRecords [] records ∧
      tlvParseReads TlvAlloc.ok buf = some (some items) ∧
      ∀ mem : Bytes, mem.length = tlvSize items → ∃ out,
        tlvWriteItems items (mem, 0) = some (out, mem.length) ∧ out.length = mem.length ∧
        tlvParseReads TlvAlloc.ok out = some (some items) := by
  obtain ⟨rest, hsplit, _⟩ := tlvRecords_split buf
  have hnormal : Normal (foldRecords [] (tlvRecords buf)) := foldRecords_normal _ normal_nil
  refine ⟨tlvRecords buf, rest, _, hsplit, fun others tail h => tlvRecords_longest h, rfl, ?_, ?_⟩
  · rw [tlvParseReads_eq, tlvParse_eq_foldRecords]
  · intro mem hmem
    refine ⟨(foldRecords [] (tlvRecords buf)).flatMap tlvEncode, ?_, ?_, ?_⟩
    · rw [tlvWriteItems_eq _ hmem, hmem]
    · rw [hmem, tlvSize_eq]
    · rw [tlvParseReads_eq, tlvParse_tlvBuild hnormal.separated hnormal.length]

end Showcase
