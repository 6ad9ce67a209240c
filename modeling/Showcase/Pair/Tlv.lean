import Mathlib.Data.List.Chain
import Showcase.Lib.Bytes

/-!
# `Pair.Tlv` — the TLV8 encoding of the pairing messages

`tlvParse`, `tlvFind` and `tlvBuild` of `carplay_pair.c`. A parsed message is the list of its items in order;
entries of one type that follow each other are fragments of one item. Allocation outcomes are inputs: a failed
allocation stops the parser with the items it has.

## Contents
- the parser and the builder, and their `simp` equations;
- `tlvLoop_fragments` — the fragments of one item are reassembled, over any number of them;
- `tlvWriteItems_eq` — the write pass of `tlv_build` fills what the size pass allocated;
- `tlv_round_trip` — the round trip.
-/

namespace Showcase

open Lib

/-! ## TLV8 type constants -/

def tlvIdentifier : UInt8 := 0x01
def tlvSalt : UInt8 := 0x02
def tlvPublicKey : UInt8 := 0x03
def tlvProof : UInt8 := 0x04
def tlvEncryptedData : UInt8 := 0x05
def tlvState : UInt8 := 0x06
def tlvError : UInt8 := 0x07
def tlvSignature : UInt8 := 0x0A

def maxTlvItems : Nat := 16

/-- One item: `tlv_item_t`. -/
structure TlvItem where
  type : UInt8
  data : Bytes
deriving Repr, DecidableEq

/-- The allocations of one `tlv_parse`: the table, and the `malloc`/`realloc` of the `k`-th entry. -/
structure TlvAlloc where
  table : Bool
  entry : Nat → Bool

/-- Every allocation succeeds. -/
def TlvAlloc.ok : TlvAlloc := ⟨true, fun _ => true⟩

/-! ## Parsing -/

/-- What is behind an item is shorter. -/
theorem tlvRest_length (type tlen : UInt8) (rest : Bytes) :
    (rest.drop tlen.toNat).length < (type :: tlen :: rest).length := by
  rw [List.length_drop, List.length_cons, List.length_cons]
  omega

/-- The loop of `tlv_parse`: `k` entries have been read, `items` collected, `buf` is what is left. -/
def tlvLoop (entry : Nat → Bool) (k : Nat) (items : List TlvItem) (buf : Bytes) : List TlvItem :=
  match buf with
  | type :: tlen :: rest =>
      if rest.length < tlen.toNat then items
      else
        let data := rest.take tlen.toNat
        match items.getLast? with
        | some prev =>
            if prev.type = type then
              -- a continuation of the previous item
              if entry k then
                tlvLoop entry (k + 1) (items.dropLast ++ [{ prev with data := prev.data ++ data }])
                  (rest.drop tlen.toNat)
              else items
            else if maxTlvItems ≤ items.length then items
            else if entry k then
              tlvLoop entry (k + 1) (items ++ [⟨type, data⟩]) (rest.drop tlen.toNat)
            else items
        | none =>
            if entry k then
              tlvLoop entry (k + 1) (items ++ [⟨type, data⟩]) (rest.drop tlen.toNat)
            else items
  | _ => items
termination_by buf.length
decreasing_by all_goals exact tlvRest_length type tlen rest

/-- `tlv_parse`: `none` is the NULL table. -/
def tlvParse (alloc : TlvAlloc) (buf : Bytes) : Option (List TlvItem) :=
  if alloc.table then some (tlvLoop alloc.entry 0 [] buf) else none

/-- `tlv_find`: the data of the first item of a type. -/
def tlvFind (items : List TlvItem) (type : UInt8) : Option Bytes :=
  (items.find? (fun i => i.type == type)).map (·.data)

@[simp] theorem tlvFind_nil (type : UInt8) : tlvFind [] type = none := rfl

theorem tlvFind_cons (i : TlvItem) (items : List TlvItem) (type : UInt8) :
    tlvFind (i :: items) type = if i.type = type then some i.data else tlvFind items type := by
  unfold tlvFind
  by_cases h : i.type = type
  · simp [h]
  · simp [h]

/-! ## Building -/

/-- The `while (rem > 0)` loop of `tlv_build`: chunks of at most 255 bytes, each with the type again. -/
def tlvFragments (type : UInt8) (data : Bytes) : Bytes :=
  if data.length = 0 then []
  else
    type :: UInt8.ofNat (min 255 data.length) :: (data.take 255 ++ tlvFragments type (data.drop 255))
termination_by data.length
decreasing_by simp_wf; omega

/-- The encoding of one item. -/
def tlvEncode (i : TlvItem) : Bytes :=
  if i.data.length = 0 then [i.type, 0] else tlvFragments i.type i.data

/-- `tlv_build`: `none` when its buffer could not be allocated. -/
def tlvBuild (alloc : Bool) (items : List TlvItem) : Option Bytes :=
  if alloc then some (items.flatMap tlvEncode) else none

theorem tlvBuild_true (items : List TlvItem) : tlvBuild true items = some (items.flatMap tlvEncode) := rfl

/-- `make_error_response`. -/
def makeErrorResponse (alloc : Bool) (state errorCode : UInt8) : Option Bytes :=
  tlvBuild alloc [⟨tlvState, [state]⟩, ⟨tlvError, [errorCode]⟩]

/-! ## The two passes of tlv_build -/

/-- The `while (rem > 0)` loop of the size pass. -/
def tlvChunksSize (rem : Nat) : Nat :=
  if rem = 0 then 0 else 2 + min 255 rem + tlvChunksSize (rem - min 255 rem)
termination_by rem

/-- The size pass over one item. -/
def tlvItemSize (i : TlvItem) : Nat :=
  if i.data.length = 0 then 2 else tlvChunksSize i.data.length

/-- The size pass: `total`. -/
def tlvSize (items : List TlvItem) : Nat := items.foldl (fun total i => total + tlvItemSize i) 0

/-- `buf[pos++] = ...` or `memcpy(buf + pos, ...)`; a write behind the end of the buffer has no result. -/
def bufPut (bs : Bytes) (st : Bytes × Nat) : Option (Bytes × Nat) :=
  if st.2 + bs.length ≤ st.1.length then
    some (st.1.take st.2 ++ bs ++ st.1.drop (st.2 + bs.length), st.2 + bs.length)
  else none

/-- The `while (rem > 0)` loop of the write pass, on the buffer and `pos`. -/
def tlvWriteChunks (type : UInt8) (data : Bytes) (off rem : Nat) (st : Bytes × Nat) : Option (Bytes × Nat) :=
  if rem = 0 then some st
  else
    let chunk := min 255 rem
    (bufPut [type, UInt8.ofNat chunk] st).bind fun st =>
      (bufPut ((data.drop off).take chunk) st).bind fun st =>
        tlvWriteChunks type data (off + chunk) (rem - chunk) st
termination_by rem

/-- The write pass over one item. -/
def tlvWriteItem (i : TlvItem) (st : Bytes × Nat) : Option (Bytes × Nat) :=
  if i.data.length = 0 then bufPut [i.type, 0] st
  else tlvWriteChunks i.type i.data 0 i.data.length st

/-- The write pass: the buffer and `*out_len`. -/
def tlvWriteItems : List TlvItem → Bytes × Nat → Option (Bytes × Nat)
  | [], st => some st
  | i :: items, st => (tlvWriteItem i st).bind (tlvWriteItems items)

/-- `f` writes `bs` behind what has been written, where there is room for it. -/
def Writes (f : Bytes × Nat → Option (Bytes × Nat)) (bs : Bytes) : Prop :=
  ∀ done space : Bytes, bs.length ≤ space.length →
    f (done ++ space, done.length) = some (done ++ bs ++ space.drop bs.length, (done ++ bs).length)

theorem writes_nil : Writes some [] := by
  intro done space _
  rw [List.append_nil, List.length_nil, List.drop_zero]

theorem writes_put (bs : Bytes) : Writes (bufPut bs) bs := by
  intro done space hroom
  have hfit : done.length + bs.length ≤ (done ++ space).length := by
    rw [List.length_append]
    omega
  simp only [bufPut]
  rw [if_pos hfit, List.take_left, ← List.drop_drop, List.drop_left, List.length_append]

/-- Writes behind each other. -/
theorem Writes.bind {f g : Bytes × Nat → Option (Bytes × Nat)} {a b : Bytes} (hf : Writes f a) (hg : Writes g b) :
    Writes (fun st => (f st).bind g) (a ++ b) := by
  intro done space hroom
  rw [List.length_append] at hroom
  show (f (done ++ space, done.length)).bind g = _
  rw [hf done space (by omega), Option.bind_some, hg (done ++ a) (space.drop a.length) (by
    rw [List.length_drop]
    omega)]
  simp only [List.drop_drop, List.append_assoc, List.length_append]

theorem tlvFragments_length (type : UInt8) (data : Bytes) :
    (tlvFragments type data).length = tlvChunksSize data.length := by
  induction data using tlvFragments.induct with
  | case1 data h => rw [tlvFragments, if_pos h, tlvChunksSize, if_pos h, List.length_nil]
  | case2 data h ih =>
      have hrem : data.length - min 255 data.length = (data.drop 255).length := by
        rw [List.length_drop]
        omega
      rw [tlvFragments, if_neg h, tlvChunksSize, if_neg h, hrem, ← ih]
      simp only [List.length_cons, List.length_append, List.length_take]
      omega

/-- What the size pass counts for an item is the length of its encoding. -/
theorem tlvEncode_length (i : TlvItem) : (tlvEncode i).length = tlvItemSize i := by
  unfold tlvEncode tlvItemSize
  split
  · rfl
  · exact tlvFragments_length i.type i.data

theorem tlvSize_eq (items : List TlvItem) : tlvSize items = (items.flatMap tlvEncode).length := by
  have hfold : ∀ total, items.foldl (fun total i => total + tlvItemSize i) total
      = total + (items.flatMap tlvEncode).length := by
    induction items with
    | nil =>
        intro total
        rw [List.foldl_nil, List.flatMap_nil, List.length_nil, Nat.add_zero]
    | cons i items ih =>
        intro total
        rw [List.foldl_cons, ih, List.flatMap_cons, List.length_append, tlvEncode_length, Nat.add_assoc]
  rw [tlvSize, hfold, Nat.zero_add]

/-- **The write loop** writes the fragments of what is left of the item. -/
theorem writes_chunks (type : UInt8) (data : Bytes) (off rem : Nat) (hrem : off + rem = data.length) :
    Writes (tlvWriteChunks type data off rem) (tlvFragments type (data.drop off)) := by
  induction rem using Nat.strongRecOn generalizing off with
  | ind rem ih =>
      have hlen : (data.drop off).length = rem := by
        rw [List.length_drop]
        omega
      by_cases h : rem = 0
      · have hdone : tlvWriteChunks type data off rem = some := by
          funext st
          rw [tlvWriteChunks, if_pos h]
        rw [hdone, tlvFragments, if_pos (by omega)]
        exact writes_nil
      have hchunk : (data.drop off).take 255 = (data.drop off).take (min 255 rem) := by
        rw [List.take_eq_take_iff, hlen]
        omega
      have hrest : (data.drop off).drop 255 = data.drop (off + min 255 rem) := by
        rw [List.drop_drop]
        by_cases hfull : rem ≤ 255
        · rw [List.drop_eq_nil_of_le (by omega), List.drop_eq_nil_of_le (by omega)]
        · rw [Nat.min_eq_left (by omega)]
      have hfragments : tlvFragments type (data.drop off) = [type, UInt8.ofNat (min 255 rem)] ++
          ((data.drop off).take (min 255 rem) ++ tlvFragments type (data.drop (off + min 255 rem))) := by
        rw [tlvFragments, if_neg (by omega), hlen, hchunk, hrest]
        rfl
      have hloop : tlvWriteChunks type data off rem = fun st =>
          (bufPut [type, UInt8.ofNat (min 255 rem)] st).bind fun st =>
            (bufPut ((data.drop off).take (min 255 rem)) st).bind
              (tlvWriteChunks type data (off + min 255 rem) (rem - min 255 rem)) := by
        funext st
        rw [tlvWriteChunks, if_neg h]
      rw [hfragments, hloop]
      exact (writes_put _).bind ((writes_put _).bind (ih (rem - min 255 rem) (by omega) _ (by omega)))

theorem writes_item (i : TlvItem) : Writes (tlvWriteItem i) (tlvEncode i) := by
  by_cases h : i.data.length = 0
  · have hitem : tlvWriteItem i = bufPut [i.type, 0] := by
      funext st
      rw [tlvWriteItem, if_pos h]
    rw [hitem, tlvEncode, if_pos h]
    exact writes_put _
  · have hitem : tlvWriteItem i = tlvWriteChunks i.type i.data 0 i.data.length := by
      funext st
      rw [tlvWriteItem, if_neg h]
    rw [hitem, tlvEncode, if_neg h]
    exact writes_chunks i.type i.data 0 i.data.length (Nat.zero_add _)

theorem writes_items (items : List TlvItem) : Writes (tlvWriteItems items) (items.flatMap tlvEncode) := by
  induction items with
  | nil => exact writes_nil
  | cons i items ih =>
      rw [List.flatMap_cons]
      exact (writes_item i).bind ih

/-- **The two passes agree**: the write pass fills the buffer that the size pass asked for, whatever it held. -/
theorem tlvWriteItems_eq (items : List TlvItem) {mem : Bytes} (hmem : mem.length = tlvSize items) :
    tlvWriteItems items (mem, 0) = some (items.flatMap tlvEncode, tlvSize items) := by
  have hlen := tlvSize_eq items
  have hwrite := writes_items items [] mem (by omega)
  rw [List.nil_append, List.nil_append, List.length_nil, List.drop_eq_nil_of_le (by omega), List.append_nil,
    ← hlen] at hwrite
  exact hwrite

/-! ## The round trip

The parser keeps the item it has read last. The induction is on the fragments of one item, and then on the items,
whose neighbours differ in type, so that none is taken for a continuation. -/

/-- A first entry of a type other than the last item's opens a new item. -/
theorem tlvLoop_new {k : Nat} {items : List TlvItem} {type tlen : UInt8} {data rest : Bytes}
    (hlen : data.length = tlen.toNat) (hmax : items.length < maxTlvItems)
    (hne : ∀ p ∈ items.getLast?, p.type ≠ type) :
    tlvLoop (fun _ => true) k items (type :: tlen :: (data ++ rest))
      = tlvLoop (fun _ => true) (k + 1) (items ++ [⟨type, data⟩]) rest := by
  rw [tlvLoop]
  have htake : (data ++ rest).take tlen.toNat = data := by rw [← hlen, List.take_left]
  have hdrop : (data ++ rest).drop tlen.toNat = rest := by rw [← hlen, List.drop_left]
  have hfit : ¬ (data ++ rest).length < tlen.toNat := by rw [List.length_append]; omega
  simp only [hfit, if_false, htake, hdrop, if_true]
  cases hlast : items.getLast? with
  | none => rfl
  | some p =>
      have hp : p.type ≠ type := hne p (by simp [hlast])
      simp [hp, Nat.not_le.mpr hmax]

/-- An entry of the last item's type continues that item. -/
theorem tlvLoop_continue {k : Nat} {items : List TlvItem} {type tlen : UInt8} {old data rest : Bytes}
    (hlen : data.length = tlen.toNat) :
    tlvLoop (fun _ => true) k (items ++ [⟨type, old⟩]) (type :: tlen :: (data ++ rest))
      = tlvLoop (fun _ => true) (k + 1) (items ++ [⟨type, old ++ data⟩]) rest := by
  rw [tlvLoop]
  have htake : (data ++ rest).take tlen.toNat = data := by rw [← hlen, List.take_left]
  have hdrop : (data ++ rest).drop tlen.toNat = rest := by rw [← hlen, List.drop_left]
  have hfit : ¬ (data ++ rest).length < tlen.toNat := by rw [List.length_append]; omega
  simp only [hfit, if_false, List.getLast?_append, List.getLast?_singleton, Option.some_or, if_true,
    htake, hdrop, List.dropLast_concat]

theorem chunk_toNat (n : Nat) : (UInt8.ofNat (min 255 n)).toNat = min 255 n := by
  rw [UInt8.toNat_ofNat']
  omega

/-- **Fragments are reassembled.** Whatever number of fragments continue an item, the loop ends up behind them
    with the item's data extended by all of theirs. -/
theorem tlvLoop_fragments (type : UInt8) (data : Bytes) :
    ∀ (k : Nat) (items : List TlvItem) (old rest : Bytes),
      ∃ k', tlvLoop (fun _ => true) k (items ++ [⟨type, old⟩]) (tlvFragments type data ++ rest)
        = tlvLoop (fun _ => true) k' (items ++ [⟨type, old ++ data⟩]) rest := by
  induction data using tlvFragments.induct with
  | case1 data h =>
      intro k items old rest
      refine ⟨k, ?_⟩
      rw [tlvFragments, if_pos h, List.length_eq_zero_iff.mp h]
      simp
  | case2 data h ih =>
      intro k items old rest
      have hlen : (data.take 255).length = (UInt8.ofNat (min 255 data.length)).toNat := by
        rw [List.length_take, chunk_toNat]
      obtain ⟨k', hk'⟩ := ih (k + 1) items (old ++ data.take 255) rest
      refine ⟨k', ?_⟩
      rw [tlvFragments, if_neg h]
      simp only [List.cons_append, List.append_assoc]
      rw [tlvLoop_continue hlen, hk', List.append_assoc, List.take_append_drop]

/-- The encoding of one item is parsed back as that item. -/
theorem tlvLoop_encode (i : TlvItem) (k : Nat) (items : List TlvItem) (rest : Bytes)
    (hmax : items.length < maxTlvItems) (hne : ∀ p ∈ items.getLast?, p.type ≠ i.type) :
    ∃ k', tlvLoop (fun _ => true) k items (tlvEncode i ++ rest)
      = tlvLoop (fun _ => true) k' (items ++ [i]) rest := by
  obtain ⟨type, data⟩ := i
  unfold tlvEncode
  by_cases h : data.length = 0
  · refine ⟨k + 1, ?_⟩
    have hd : data = [] := List.length_eq_zero_iff.mp h
    subst hd
    have hnil : ([] : Bytes).length = (0 : UInt8).toNat := rfl
    exact tlvLoop_new hnil hmax hne
  · have hlen : (data.take 255).length = (UInt8.ofNat (min 255 data.length)).toNat := by
      rw [List.length_take, chunk_toNat]
    obtain ⟨k', hk'⟩ := tlvLoop_fragments type (data.drop 255) (k + 1) items (data.take 255) rest
    refine ⟨k', ?_⟩
    simp only [h, if_false]
    rw [tlvFragments, if_neg h]
    simp only [List.cons_append, List.append_assoc]
    rw [tlvLoop_new hlen hmax hne, hk', List.take_append_drop]

/-- Neighbouring items have different types, so that none is taken for a fragment of the one before. -/
def Separated (items : List TlvItem) : Prop := items.IsChain (fun a b => a.type ≠ b.type)

theorem tlvLoop_flatMap (todo : List TlvItem) :
    ∀ (k : Nat) (done : List TlvItem), Separated (done ++ todo) →
      (done ++ todo).length ≤ maxTlvItems →
      tlvLoop (fun _ => true) k done (todo.flatMap tlvEncode) = done ++ todo := by
  induction todo with
  | nil =>
      intro k done _ _
      rw [List.flatMap_nil, List.append_nil]
      simp [tlvLoop]
  | cons i todo ih =>
      intro k done hsep hmax
      have hassoc : done ++ i :: todo = (done ++ [i]) ++ todo := by simp
      have hlt : done.length < maxTlvItems := by
        rw [List.length_append, List.length_cons] at hmax
        omega
      have hne : ∀ p ∈ done.getLast?, p.type ≠ i.type :=
        fun p hp => (List.isChain_append.mp hsep).2.2 p hp i (by simp)
      obtain ⟨k', hk'⟩ := tlvLoop_encode i k done (todo.flatMap tlvEncode) hlt hne
      rw [List.flatMap_cons, hk', hassoc]
      exact ih k' (done ++ [i]) (hassoc ▸ hsep) (hassoc ▸ hmax)

theorem tlvEncode_length_pos (i : TlvItem) : 0 < (tlvEncode i).length := by
  unfold tlvEncode
  split
  · simp
  · rename_i h
    rw [tlvFragments, if_neg h]
    simp

/-- **TLV8 round trip.** At most 16 items, no two neighbours of one type: parsing what was built gives the
    items back, whatever their lengths. -/
theorem tlvParse_tlvBuild {items : List TlvItem} (hsep : Separated items)
    (hmax : items.length ≤ maxTlvItems) :
    tlvParse TlvAlloc.ok (items.flatMap tlvEncode) = some items := by
  simp only [tlvParse, TlvAlloc.ok, if_true]
  rw [tlvLoop_flatMap items 0 [] (by simpa using hsep) (by simpa using hmax), List.nil_append]

/-- **`tlv_build` and `tlv_parse`.** The write pass fills exactly the allocated buffer, and the parser returns the
    items. -/
theorem tlv_round_trip (items : List TlvItem) (mem : Bytes) (hsep : Separated items)
    (hmax : items.length ≤ maxTlvItems) (hmem : mem.length = tlvSize items) :
    ∃ buf, tlvWriteItems items (mem, 0) = some (buf, mem.length) ∧ buf.length = mem.length ∧
      tlvBuild true items = some buf ∧ tlvParse TlvAlloc.ok buf = some items := by
  refine ⟨items.flatMap tlvEncode, ?_, ?_, rfl, tlvParse_tlvBuild hsep hmax⟩
  · rw [tlvWriteItems_eq items hmem, hmem]
  · rw [hmem, tlvSize_eq]

/-- An empty item, and items of one, two full and three fragments. -/
theorem tlv_round_trip_lengths :
    let items : List TlvItem := [⟨6, []⟩, ⟨3, List.replicate 510 1⟩, ⟨5, List.replicate 256 2⟩, ⟨6, [3]⟩]
    ∃ buf, tlvWriteItems items (List.replicate (tlvSize items) 0, 0) = some (buf, tlvSize items) ∧
      tlvParse TlvAlloc.ok buf = some items := by
  intro items
  have hsep : Separated items := by
    refine .cons_cons ?_ (.cons_cons ?_ (.cons_cons ?_ (.singleton _)))
    · exact show (6 : UInt8) ≠ 3 by decide
    · exact show (3 : UInt8) ≠ 5 by decide
    · exact show (5 : UInt8) ≠ 6 by decide
  have hlen : (List.replicate (tlvSize items) (0 : UInt8)).length = tlvSize items := List.length_replicate
  obtain ⟨buf, hwrite, _, _, hparse⟩ := tlv_round_trip items _ hsep (by decide) hlen
  rw [hlen] at hwrite
  exact ⟨buf, hwrite, hparse⟩

end Showcase
