import Showcase.Lib.Writes
import Showcase.Bt.Control

/-!
# `Bt.Builder` — the parameter builder in memory

`pb_init`, `pb_ensure` and the functions that append a parameter (`carplay_bt.m`), with the buffer they write to.
`Bt.Control` has the bytes a call appends (`pbUtf8` and so on); here a call stores them one after the other where
`off` points, in memory that is doubled when it is too small, and a group gets its length when it ends.

An `int` that would overflow, a store outside the buffer and a loop without end have no outcome. What comes from
the allocator is arbitrary.

* `PB.ensure`, `PbCall.run`, `PbCalls.run` — the calls, groups within groups included.
* `run_built` — a sequence of calls appends what its parts append.
* `decode` — nested parameters, read back along an outline of what is a group.
* `builder_roundtrip` — what is built is what is read back.
* `wifiConfig_built`, `identificationInfo_built` — the messages of `Bt.Control` are built so.
-/

namespace Showcase.Bt

open Lib

/-! ## The calls -/

/-- A call that appends a parameter. -/
inductive PbCall where
  | utf8 (id : UInt16) (s : Bytes)
  | utf8List (id : UInt16) (items : List Bytes) (extraFinalNul : Bool)
  | u8 (id : UInt16) (v : UInt8)
  | u16 (id : UInt16) (v : UInt16)
  | u32 (id : UInt16) (v : UInt32)
  | none (id : UInt16)
  | blob (id : UInt16) (d : Bytes)
  | u16arr (id : UInt16) (v : List UInt16)

/-- A sequence of calls, with what stands between `pb_grp_begin` and `pb_grp_end` as a sequence of its own. -/
inductive PbCalls where
  | done
  | call (c : PbCall) (rest : PbCalls)
  | grp (id : UInt16) (body rest : PbCalls)

/-- `PB`, the buffer as long as what was allocated. -/
structure PB where
  buf : Bytes
  off : Nat
  cap : Nat

namespace PB

/-- `pb_init`. -/
def init (A : Allocator) (cap : Nat) : PB := ⟨A.malloc cap, 0, cap⟩

/-- `pb_ensure`. -/
def ensure (A : Allocator) (n : Nat) (pb : PB) : Option PB :=
  if 2 ^ 31 ≤ pb.off + n then none
  else if pb.off + n ≤ pb.cap then some pb
  else if pb.cap = 0 ∨ 2 ^ 31 ≤ pb.cap * 2 then none
  else ensure A n { pb with cap := pb.cap * 2, buf := A.realloc pb.buf (pb.cap * 2) }
termination_by 2 ^ 31 - pb.cap
decreasing_by omega

/-- `pb->buf[pb->off++] = b`, one byte after the other. -/
def put (bs : Bytes) (pb : PB) : Option PB :=
  (stores pb.buf pb.off bs).map fun buf => { pb with buf := buf, off := pb.off + bs.length }

/-- The parameter `id` with the length field `pl`, for which `pl` bytes are reserved. -/
def param (A : Allocator) (pl : Nat) (id : UInt16) (value : Bytes) (pb : PB) : Option PB := do
  let pb ← pb.ensure A pl
  let pb ← pb.put (toBE 2 pl ++ toBE 2 id.toNat)
  pb.put value

variable (A : Allocator) (id : UInt16)

/-- `pb_utf8`; `s` is the C string without its NUL. -/
def utf8 (s : Bytes) : PB → Option PB := param A (4 + (s.length + 1)) id (s ++ [0])

/-- `pb_utf8_list`. -/
def utf8List (items : List Bytes) (extraFinalNul : Bool) : PB → Option PB :=
  let dl := (items.map fun s => s.length + 1).foldl (· + ·) (if extraFinalNul then 1 else 0)
  param A (4 + dl) id ((items.map (· ++ [0])).flatten ++ if extraFinalNul then [0] else [])

/-- `pb_u8`. -/
def u8 (v : UInt8) : PB → Option PB := param A 5 id [v]

/-- `pb_u16`. -/
def u16 (v : UInt16) : PB → Option PB := param A 6 id (toBE 2 v.toNat)

/-- `pb_u32`. -/
def u32 (v : UInt32) : PB → Option PB := param A 8 id (toBE 4 v.toNat)

/-- `pb_none`. -/
def none : PB → Option PB := param A 4 id []

/-- `pb_blob`. -/
def blob (d : Bytes) : PB → Option PB := param A (4 + d.length) id d

/-- `pb_u16arr`. -/
def u16arr (v : List UInt16) : PB → Option PB :=
  param A (4 + v.length * 2) id (v.map fun x => toBE 2 x.toNat).flatten

/-- `pb_grp_begin`: where the length will stand, and the id behind it. -/
def grpBegin (pb : PB) : Option (Nat × PB) := do
  let pb ← pb.ensure A 4
  let lo := pb.off
  let pb ← { pb with off := pb.off + 2 }.put (toBE 2 id.toNat)
  some (lo, pb)

/-- `pb_grp_end`. -/
def grpEnd (lo : Nat) (pb : PB) : Option PB :=
  (stores pb.buf lo (toBE 2 (pb.off - lo))).map fun buf => { pb with buf := buf }

end PB

/-- One call. -/
def PbCall.run (A : Allocator) : PbCall → PB → Option PB
  | .utf8 id s => PB.utf8 A id s
  | .utf8List id items extraFinalNul => PB.utf8List A id items extraFinalNul
  | .u8 id v => PB.u8 A id v
  | .u16 id v => PB.u16 A id v
  | .u32 id v => PB.u32 A id v
  | .none id => PB.none A id
  | .blob id d => PB.blob A id d
  | .u16arr id v => PB.u16arr A id v

/-- A sequence of them. -/
def PbCalls.run (A : Allocator) : PbCalls → PB → Option PB
  | .done, pb => some pb
  | .call c rest, pb => do
      let pb ← c.run A pb
      rest.run A pb
  | .grp id body rest, pb => do
      let (lo, pb) ← PB.grpBegin A id pb
      let pb ← body.run A pb
      let pb ← pb.grpEnd lo
      rest.run A pb

/-! ## What they append -/

/-- `pb_u32`, in the words of `Bt.Control`. -/
def pbU32 (id : Nat) (v : Nat) : Bytes := pbParam id (toBE 4 v)

/-- The bytes of a call. -/
def PbCall.bytes : PbCall → Bytes
  | .utf8 id s => pbUtf8 id.toNat s
  | .utf8List id items extraFinalNul => pbUtf8List id.toNat items extraFinalNul
  | .u8 id v => pbU8 id.toNat v
  | .u16 id v => pbU16 id.toNat v.toNat
  | .u32 id v => pbU32 id.toNat v.toNat
  | .none id => pbNone id.toNat
  | .blob id d => pbBlob id.toNat d
  | .u16arr id v => pbU16Arr id.toNat (v.map UInt16.toNat)

/-- The bytes of a sequence. -/
def PbCalls.bytes : PbCalls → Bytes
  | .done => []
  | .call c rest => c.bytes ++ rest.bytes
  | .grp id body rest => pbGrp id.toNat body.bytes ++ rest.bytes

/-- The id of the parameter of a call. -/
def PbCall.id : PbCall → UInt16
  | .utf8 id _ | .utf8List id _ _ | .u8 id _ | .u16 id _ | .u32 id _ | .none id | .blob id _ | .u16arr id _ => id

/-- The value of the parameter of a call. -/
def PbCall.value : PbCall → Bytes
  | .utf8 _ s => s ++ [0]
  | .utf8List _ items extraFinalNul => (items.map (· ++ [0])).flatten ++ if extraFinalNul then [0] else []
  | .u8 _ v => [v]
  | .u16 _ v => toBE 2 v.toNat
  | .u32 _ v => toBE 4 v.toNat
  | .none _ => []
  | .blob _ d => d
  | .u16arr _ v => (v.map fun x => toBE 2 x.toNat).flatten

theorem PbCall.bytes_eq (c : PbCall) : c.bytes = pbParam c.id.toNat c.value := by
  cases c with
  | u16arr id v =>
      rw [PbCall.bytes, pbU16Arr, List.map_map]
      rfl
  | _ => rfl

theorem sum_lengths (items : List Bytes) (n : Nat) :
    (items.map fun s => s.length + 1).foldl (· + ·) n = n + (items.map (· ++ [0])).flatten.length := by
  induction items generalizing n with
  | nil => rfl
  | cons s items ih =>
      rw [List.map_cons, List.foldl_cons, ih, List.map_cons, List.flatten_cons, List.length_append, List.length_append,
        List.length_singleton]
      omega

theorem length_u16s (v : List UInt16) : (v.map fun x => toBE 2 x.toNat).flatten.length = v.length * 2 := by
  induction v with
  | nil => rfl
  | cons x v ih =>
      rw [List.map_cons, List.flatten_cons, List.length_append, toBE_length, ih, List.length_cons]
      omega

/-- **The reserved size is the size of the parameter**, by whatever sum the function comes to it. -/
theorem PbCall.run_eq (A : Allocator) (c : PbCall) : c.run A = PB.param A (4 + c.value.length) c.id c.value := by
  cases c with
  | utf8 id s =>
      rw [PbCall.run, PB.utf8, PbCall.value, List.length_append, List.length_singleton]
      rfl
  | utf8List id items extraFinalNul =>
      have hsize : (items.map fun s => s.length + 1).foldl (· + ·) (if extraFinalNul then 1 else 0) =
          (PbCall.utf8List id items extraFinalNul).value.length := by
        rw [sum_lengths, PbCall.value, List.length_append]
        cases extraFinalNul with
        | false => exact Nat.add_comm 0 _
        | true => exact Nat.add_comm 1 _
      rw [← hsize]
      rfl
  | u16arr id v =>
      rw [PbCall.run, PB.u16arr, PbCall.value, length_u16s]
      rfl
  | _ => rfl

/-! ## The buffer while it is filled

`Built` says what has been appended and how much room there is in all. Each function of the builder keeps it, a group
included: its length is filled in behind two bytes that were passed over, wherever the buffer lies by then. -/

/-- `bs` has been appended, and there is room for `total` bytes in all. -/
structure PB.Built (A : Allocator) (total : Nat) (pb : PB) (bs : Bytes) : Prop where
  off : pb.off = bs.length
  wrote : bs <+: pb.buf
  size : pb.buf.length = pb.cap
  room : A.Room (2 ^ 31) pb.cap total
  pos : 0 < pb.cap

section

variable {A : Allocator} {total : Nat} {pb : PB} {bs : Bytes}

theorem built_init {cap : Nat} (hcap : 0 < cap) (hroom : A.Room (2 ^ 31) cap total) :
    (PB.init A cap).Built A total [] where
  off := rfl
  wrote := List.nil_prefix
  size := by
    obtain ⟨k, -, -, halloc⟩ := hroom
    have hfirst := halloc 0 (Nat.zero_le k)
    rw [pow_zero, Nat.mul_one] at hfirst
    exact Allocator.length_malloc hfirst
  room := hroom
  pos := hcap

/-- The doubling keeps what is there. -/
theorem PB.Built.double (h : pb.Built A total bs) (hlt : pb.cap < total) :
    pb.cap * 2 < 2 ^ 31 ∧
      PB.Built A total { pb with cap := pb.cap * 2, buf := A.realloc pb.buf (pb.cap * 2) } bs := by
  obtain ⟨hlimit, halloc, hroom⟩ := h.room.double hlt
  obtain ⟨hsize, hfront⟩ := Allocator.realloc_spec halloc (m := pb.buf) (by rw [h.size]; omega)
  exact ⟨hlimit, h.off, h.wrote.trans hfront, hsize, hroom, Nat.mul_pos h.pos Nat.two_pos⟩

theorem room_lt {cap : Nat} (h : A.Room (2 ^ 31) cap total) : total < 2 ^ 31 := by
  obtain ⟨k, htotal, hlimit, -⟩ := h
  exact lt_of_le_of_lt htotal hlimit

/-- `pb_ensure` makes the room. -/
theorem PB.Built.ensure {n : Nat} (h : pb.Built A total bs) (hn : bs.length + n ≤ total) :
    ∃ pb', pb.ensure A n = some pb' ∧ pb'.Built A total bs ∧ bs.length + n ≤ pb'.cap := by
  fun_induction PB.ensure A n pb with
  | case1 pb hover =>
      rw [h.off] at hover
      have hlt := room_lt h.room
      omega
  | case2 pb hover hfits =>
      rw [h.off] at hfits
      exact ⟨pb, rfl, h, hfits⟩
  | case3 pb hover hfits hstop =>
      rw [h.off] at hfits
      obtain ⟨hlimit, -⟩ := h.double (by omega)
      have hpos := h.pos
      omega
  | case4 pb hover hfits hstop ih =>
      rw [h.off] at hfits
      exact ih (h.double (by omega)).2

/-- Bytes within the capacity are appended. -/
theorem PB.Built.put (h : pb.Built A total bs) (new : Bytes) (hn : bs.length + new.length ≤ pb.cap) :
    ∃ pb', pb.put new = some pb' ∧ pb'.Built A total (bs ++ new) ∧ pb'.cap = pb.cap := by
  rw [← h.size] at hn
  obtain ⟨buf, hstores, hlen, hfront⟩ := stores_behind h.wrote hn
  refine ⟨{ pb with buf := buf, off := pb.off + new.length }, ?_, ⟨?_, hfront, hlen.trans h.size, h.room, h.pos⟩, rfl⟩
  · rw [PB.put, h.off, hstores]
    rfl
  · rw [List.length_append, ← h.off]

/-- Bytes that are passed over are whatever was there. -/
theorem PB.Built.skip {n : Nat} (h : pb.Built A total bs) (hn : bs.length + n ≤ pb.cap) :
    ∃ gap, gap.length = n ∧ PB.Built A total { pb with off := pb.off + n } (bs ++ gap) := by
  obtain ⟨rest, hrest⟩ := h.wrote
  have hlen := congrArg List.length hrest
  rw [List.length_append, h.size] at hlen
  have hgap : (rest.take n).length = n := by
    rw [List.length_take]
    omega
  refine ⟨rest.take n, hgap, ?_, ?_, h.size, h.room, h.pos⟩
  · rw [List.length_append, hgap, ← h.off]
  · rw [← hrest]
    exact (List.prefix_append_right_inj bs).mpr (List.take_prefix n rest)

/-- A parameter is appended. -/
theorem PB.Built.param (h : pb.Built A total bs) (id : UInt16) (value : Bytes)
    (hn : bs.length + (4 + value.length) ≤ total) :
    ∃ pb', pb.param A (4 + value.length) id value = some pb' ∧
      pb'.Built A total (bs ++ pbParam id.toNat value) := by
  obtain ⟨pb₁, hensure, h₁, hcap⟩ := h.ensure hn
  have hhead : (toBE 2 (4 + value.length) ++ toBE 2 id.toNat).length = 4 := by
    rw [List.length_append, toBE_length, toBE_length]
  obtain ⟨pb₂, hput₁, h₂, hcap₂⟩ := h₁.put (toBE 2 (4 + value.length) ++ toBE 2 id.toNat) (by omega)
  obtain ⟨pb₃, hput₂, h₃, -⟩ := h₂.put value (by rw [List.length_append, hhead, hcap₂]; omega)
  refine ⟨pb₃, ?_, ?_⟩
  · simp only [PB.param, hensure, hput₁, hput₂, Option.bind_eq_bind, Option.bind_some]
  · rw [pbParam, ← List.append_assoc]
    exact h₃

theorem length_pbParam (id : Nat) (value : Bytes) : (pbParam id value).length = 4 + value.length := by
  rw [pbParam, List.length_append, List.length_append, toBE_length, toBE_length]

/-- A group begins: two bytes are left for its length. -/
theorem PB.Built.grpBegin (h : pb.Built A total bs) (id : UInt16) (hn : bs.length + 4 ≤ total) :
    ∃ gap pb', gap.length = 2 ∧ PB.grpBegin A id pb = some (bs.length, pb') ∧
      pb'.Built A total (bs ++ gap ++ toBE 2 id.toNat) := by
  obtain ⟨pb₁, hensure, h₁, hcap⟩ := h.ensure hn
  obtain ⟨gap, hgap, h₂⟩ := h₁.skip (n := 2) (by omega)
  have hid : (toBE 2 id.toNat).length = 2 := toBE_length 2 _
  obtain ⟨pb₃, hput, h₃, -⟩ := h₂.put (toBE 2 id.toNat) (by rw [List.length_append, hgap, hid]; omega)
  refine ⟨gap, pb₃, hgap, ?_, h₃⟩
  simp only [PB.grpBegin, hensure, hput, Option.bind_eq_bind, Option.bind_some]
  rw [h₁.off]

/-- The end of a group fills in its length, wherever the buffer lies by then. -/
theorem PB.Built.grpEnd {id : UInt16} {gap body : Bytes} (hgap : gap.length = 2)
    (h : pb.Built A total (bs ++ gap ++ toBE 2 id.toNat ++ body)) :
    ∃ pb', pb.grpEnd bs.length = some pb' ∧ pb'.Built A total (bs ++ pbGrp id.toNat body) := by
  have hlo : pb.off - bs.length = 4 + body.length := by
    rw [h.off, List.length_append, List.length_append, List.length_append, hgap, toBE_length]
    omega
  have hwrote := h.wrote
  rw [List.append_assoc (bs ++ gap)] at hwrote
  obtain ⟨buf, hstores, hlen, hfront⟩ := stores_within (toBE 2 (4 + body.length)) hwrote
    (by rw [toBE_length, hgap])
  have hgrp : bs ++ toBE 2 (4 + body.length) ++ (toBE 2 id.toNat ++ body) = bs ++ pbGrp id.toNat body := by
    rw [pbGrp, pbParam, List.append_assoc bs, List.append_assoc (toBE 2 _)]
  rw [hgrp] at hfront
  refine ⟨{ pb with buf := buf }, ?_, ?_, hfront, hlen.trans h.size, h.room, h.pos⟩
  · rw [PB.grpEnd, hlo, hstores]
    rfl
  · rw [h.off, List.length_append, List.length_append, List.length_append, List.length_append, hgap, toBE_length,
      pbGrp, length_pbParam]
    omega

/-- **A sequence of calls appends its bytes.** -/
theorem run_built (calls : PbCalls) (h : pb.Built A total bs) (hn : bs.length + calls.bytes.length ≤ total) :
    ∃ pb', calls.run A pb = some pb' ∧ pb'.Built A total (bs ++ calls.bytes) := by
  induction calls generalizing pb bs with
  | done =>
      refine ⟨pb, rfl, ?_⟩
      rwa [PbCalls.bytes, List.append_nil]
  | call c rest ih =>
      rw [PbCalls.bytes, List.length_append, PbCall.bytes_eq, length_pbParam] at hn
      obtain ⟨pb₁, hcall, h₁⟩ := h.param c.id c.value (by omega)
      obtain ⟨pb₂, hrest, h₂⟩ := ih h₁ (by rw [List.length_append, length_pbParam]; omega)
      refine ⟨pb₂, ?_, ?_⟩
      · rw [PbCalls.run, PbCall.run_eq, hcall, Option.bind_eq_bind, Option.bind_some, hrest]
      · rwa [PbCalls.bytes, PbCall.bytes_eq, ← List.append_assoc]
  | grp id body rest ihbody ihrest =>
      rw [PbCalls.bytes, List.length_append, pbGrp, length_pbParam] at hn
      obtain ⟨gap, pb₁, hgap, hbegin, h₁⟩ := h.grpBegin id (by omega)
      obtain ⟨pb₂, hbody, h₂⟩ := ihbody h₁ (by
        rw [List.length_append, List.length_append, hgap, toBE_length]
        omega)
      obtain ⟨pb₃, hend, h₃⟩ := h₂.grpEnd hgap
      obtain ⟨pb₄, hrest, h₄⟩ := ihrest h₃ (by rw [List.length_append, pbGrp, length_pbParam]; omega)
      refine ⟨pb₄, ?_, ?_⟩
      · simp only [PbCalls.run, hbegin, hbody, hend, hrest, Option.bind_eq_bind, Option.bind_some]
      · rwa [PbCalls.bytes, ← List.append_assoc]

end

/-! ## Reading them back

A call is a parameter or a group of them, and the decoder has the same shape. So the induction is on the sequence of
calls, and a group is read as a sequence of its own. -/

/-- Parameters within parameters. -/
inductive Params where
  | nil
  | param (id : UInt16) (value : Bytes) (rest : Params)
  | group (id : UInt16) (body rest : Params)
deriving DecidableEq

/-- Which of them are groups: what a reader has to know, since the bytes do not tell. -/
inductive Outline where
  | nil
  | param (rest : Outline)
  | group (body rest : Outline)

/-- The first parameter, and what is behind it. -/
def takeParam (bs : Bytes) : Option (UInt16 × Bytes × Bytes) :=
  let pl := ofBE (bs.take 2)
  if 4 ≤ pl ∧ pl ≤ bs.length then
    some (UInt16.ofNat (ofBE ((bs.drop 2).take 2)), (bs.take pl).drop 4, bs.drop pl)
  else none

/-- Nested parameters: a length and an id of 16 bits, and the value; and nothing behind the last one. -/
def decode : Outline → Bytes → Option Params
  | .nil, bs => if bs = [] then some .nil else none
  | .param rest, bs => do
      let (id, value, bs) ← takeParam bs
      let params ← decode rest bs
      some (.param id value params)
  | .group body rest, bs => do
      let (id, value, bs) ← takeParam bs
      let inner ← decode body value
      let params ← decode rest bs
      some (.group id inner params)

/-- The parameters a sequence of calls stands for. -/
def PbCalls.tree : PbCalls → Params
  | .done => .nil
  | .call c rest => .param c.id c.value rest.tree
  | .grp id body rest => .group id body.tree rest.tree

/-- Which of the parameters of a sequence of calls are groups. -/
def PbCalls.outline : PbCalls → Outline
  | .done => .nil
  | .call _ rest => .param rest.outline
  | .grp _ body rest => .group body.outline rest.outline

/-- Every parameter and every group fits in its length field. -/
def PbCalls.Short : PbCalls → Prop
  | .done => True
  | .call c rest => c.bytes.length < 65536 ∧ rest.Short
  | .grp id body rest => (pbGrp id.toNat body.bytes).length < 65536 ∧ body.Short ∧ rest.Short

theorem takeParam_pbParam {id : UInt16} {value rest : Bytes} (hlen : (pbParam id.toNat value).length < 65536) :
    takeParam (pbParam id.toNat value ++ rest) = some (id, value, rest) := by
  have hsize := length_pbParam id.toNat value
  rw [hsize] at hlen
  have hpl : ofBE ((pbParam id.toNat value ++ rest).take 2) = 4 + value.length := by
    rw [pbParam, List.append_assoc, List.append_assoc, List.take_left' (toBE_length 2 _), ofBE_toBE]
    exact Nat.mod_eq_of_lt hlen
  have hid : ofBE (((pbParam id.toNat value ++ rest).drop 2).take 2) = id.toNat := by
    rw [pbParam, List.append_assoc, List.append_assoc, List.drop_left' (toBE_length 2 _),
      List.take_left' (toBE_length 2 _), ofBE_toBE]
    exact Nat.mod_eq_of_lt id.toNat_lt
  have hvalue : (pbParam id.toNat value).drop 4 = value := by
    rw [pbParam, List.append_assoc, ← List.append_assoc]
    refine List.drop_left' ?_
    rw [List.length_append, toBE_length, toBE_length]
  unfold takeParam
  dsimp only
  rw [hpl, hid, List.take_left' hsize, List.drop_left' hsize, hvalue, UInt16.ofNat_toNat,
    if_pos ⟨Nat.le_add_right 4 _, by rw [List.length_append, hsize]; exact Nat.le_add_right _ _⟩]

theorem decode_bytes (calls : PbCalls) (h : calls.Short) : decode calls.outline calls.bytes = some calls.tree := by
  induction calls with
  | done => rfl
  | call c rest ih =>
      obtain ⟨hlen, hrest⟩ := h
      rw [PbCall.bytes_eq] at hlen
      rw [PbCalls.bytes, PbCall.bytes_eq, PbCalls.outline, decode, takeParam_pbParam hlen, Option.bind_eq_bind,
        Option.bind_some]
      dsimp only
      rw [ih hrest]
      rfl
  | grp id body rest ihbody ihrest =>
      obtain ⟨hlen, hbody, hrest⟩ := h
      rw [pbGrp] at hlen
      rw [PbCalls.bytes, pbGrp, PbCalls.outline, decode, takeParam_pbParam hlen, Option.bind_eq_bind, Option.bind_some]
      dsimp only
      rw [ihbody hbody, ihrest hrest]
      rfl

/-- Where the doubled capacity that holds everything is granted and is an `int`, the calls have an outcome, so that no
store is outside the buffer, and the bytes up to `off` are theirs. -/
theorem builder_bytes (A : Allocator) {cap : Nat} (hcap : 0 < cap) (calls : PbCalls)
    (hroom : A.Room (2 ^ 31) cap calls.bytes.length) :
    ∃ pb, calls.run A (PB.init A cap) = some pb ∧ pb.buf.take pb.off = calls.bytes := by
  obtain ⟨pb, hrun, hbuilt⟩ := run_built calls (built_init hcap hroom) (by rw [List.length_nil, Nat.zero_add])
  rw [List.nil_append] at hbuilt
  refine ⟨pb, hrun, ?_⟩
  rw [hbuilt.off]
  exact (List.prefix_iff_eq_take.mp hbuilt.wrote).symm

/-- **What is built is what is read back.** -/
theorem builder_roundtrip (A : Allocator) {cap : Nat} (hcap : 0 < cap) (calls : PbCalls) (hshort : calls.Short)
    (hroom : A.Room (2 ^ 31) cap calls.bytes.length) :
    ∃ pb, calls.run A (PB.init A cap) = some pb ∧ decode calls.outline (pb.buf.take pb.off) = some calls.tree := by
  obtain ⟨pb, hrun, hbytes⟩ := builder_bytes A hcap calls hroom
  refine ⟨pb, hrun, ?_⟩
  rw [hbytes]
  exact decode_bytes calls hshort

/-- One parameter in a group, from a capacity of one byte. -/
theorem builder_roundtrip_small :
    ∃ pb, (PbCalls.grp 10 (.call (.u8 0 1) .done) .done).run .granting (PB.init .granting 1) = some pb ∧
      decode (.group (.param .nil) .nil) (pb.buf.take pb.off) = some (.group 10 (.param 0 [1] .nil) .nil) :=
  builder_roundtrip .granting Nat.one_pos (.grp 10 (.call (.u8 0 1) .done) .done)
    ⟨by decide, ⟨by decide, trivial⟩, trivial⟩ ⟨4, by decide, by decide, fun _ _ => rfl⟩

/-! ## More than an `int` can count -/

section

variable {A : Allocator} {pb pb' : PB}

theorem ensure_off {n : Nat} (h : pb.ensure A n = some pb') : pb'.off = pb.off ∧ pb.off + n < 2 ^ 31 := by
  fun_induction PB.ensure A n pb with
  | case1 => nomatch h
  | case2 pb hover =>
      obtain rfl := Option.some.inj h
      exact ⟨rfl, not_le.mp hover⟩
  | case3 => nomatch h
  | case4 pb hover hfits hstop ih => exact ih h

theorem put_off {bs : Bytes} (h : pb.put bs = some pb') : pb'.off = pb.off + bs.length := by
  obtain ⟨buf, -, rfl⟩ := Option.map_eq_some_iff.mp h
  rfl

theorem param_off {id : UInt16} {value : Bytes} (h : pb.param A (4 + value.length) id value = some pb') :
    pb'.off = pb.off + (4 + value.length) ∧ pb'.off < 2 ^ 31 := by
  obtain ⟨pb₁, hensure, h⟩ := Option.bind_eq_some_iff.mp h
  obtain ⟨pb₂, hput, h⟩ := Option.bind_eq_some_iff.mp h
  obtain ⟨hoff, hlt⟩ := ensure_off hensure
  have hhead := put_off hput
  have hvalue := put_off h
  rw [List.length_append, toBE_length, toBE_length] at hhead
  omega

end

/-- `n` blobs one after the other. -/
def blobs (d : Bytes) : Nat → PbCalls
  | 0 => .done
  | n + 1 => .call (.blob 0 d) (blobs d n)

theorem blobs_short {d : Bytes} (hd : d.length < 65532) (n : Nat) : (blobs d n).Short := by
  induction n with
  | zero => trivial
  | succ n ih =>
      refine ⟨?_, ih⟩
      rw [PbCall.bytes, pbBlob, length_pbParam]
      omega

/-- `off` counts them. -/
theorem blobs_off {A : Allocator} {d : Bytes} {n : Nat} {pb pb' : PB} (h : (blobs d n).run A pb = some pb')
    (hlt : pb.off < 2 ^ 31) : pb'.off = pb.off + n * (4 + d.length) ∧ pb'.off < 2 ^ 31 := by
  induction n generalizing pb with
  | zero =>
      obtain rfl := Option.some.inj h
      rw [Nat.zero_mul]
      exact ⟨rfl, hlt⟩
  | succ n ih =>
      obtain ⟨pb₁, hcall, hrest⟩ := Option.bind_eq_some_iff.mp h
      rw [PbCall.run_eq] at hcall
      obtain ⟨hoff, hlt₁⟩ := param_off hcall
      obtain ⟨hoff', hlt'⟩ := ih hrest hlt₁
      refine ⟨?_, hlt'⟩
      rw [hoff', hoff, Nat.succ_mul, Nat.add_assoc, Nat.add_comm (4 + _)]
      rfl

/-- Enough of the longest blobs do not fit, though memory is granted; and where it is not, the first store has no
place to go. -/
theorem builder_overflow :
    (¬ ∀ cap, 0 < cap → ∀ calls : PbCalls, calls.Short → ∃ pb, calls.run .granting (PB.init .granting cap) = some pb ∧
      decode calls.outline (pb.buf.take pb.off) = some calls.tree) ∧
    ¬ ∀ (A : Allocator) (cap : Nat), 0 < cap → ∀ calls : PbCalls, calls.Short → calls.bytes.length ≤ cap →
      ∃ pb, calls.run A (PB.init A cap) = some pb ∧ decode calls.outline (pb.buf.take pb.off) = some calls.tree := by
  constructor
  · intro hall
    have hd : (List.replicate 65531 (0 : UInt8)).length = 65531 := List.length_replicate
    obtain ⟨pb, hrun, -⟩ := hall 256 (by decide) (blobs (List.replicate 65531 0) 32769)
      (blobs_short (by rw [hd]; decide) _)
    obtain ⟨hoff, hlt⟩ := blobs_off hrun (show 0 < 2 ^ 31 by decide)
    rw [hd] at hoff
    omega
  · intro hall
    obtain ⟨pb, hrun, -⟩ := hall .refusing 256 (by decide) (.call (.u8 0 1) .done) ⟨by decide, trivial⟩ (by decide)
    obtain ⟨pb₁, hcall, -⟩ := Option.bind_eq_some_iff.mp hrun
    obtain ⟨pb₂, hensure, hcall⟩ := Option.bind_eq_some_iff.mp hcall
    have hnull : pb₂ = PB.init .refusing 256 := by
      rw [PB.ensure, if_neg (by decide), if_pos (by decide)] at hensure
      exact (Option.some.inj hensure).symm
    rw [hnull] at hcall
    exact nomatch (show none = some pb₁ from hcall)

/-! ## The messages of the program -/

/-- The calls of `send_accessory_wifi_config`. -/
def wifiConfigCalls (cfg : Config) : PbCalls :=
  .call (.utf8 0x0001 cfg.kWifiSSID) <| .call (.utf8 0x0002 cfg.kWifiPassword) <|
  .call (.u8 0x0003 kWifiSecurityType) .done

theorem wifiConfigCalls_bytes (cfg : Config) : (wifiConfigCalls cfg).bytes = wifiConfig cfg := by
  simp only [wifiConfigCalls, PbCalls.bytes, List.append_nil, wifiConfig, List.append_assoc]
  rfl

/-- The calls of `send_identification_info`. -/
def identificationCalls (cfg : Config) (addr : Option (Block 6)) : PbCalls :=
  .call (.utf8 0x0000 cfg.kDeviceName) <| .call (.utf8 0x0001 (ascii "RL-100")) <|
  .call (.utf8 0x0002 (ascii "RoadLink Labs")) <| .call (.utf8 0x0003 (ascii "RL100-0001")) <|
  .call (.utf8 0x0004 (ascii "1.0")) <| .call (.utf8 0x0005 (ascii "1.0")) <|
  .call (.u16arr 0x0006 (msgsSent.map UInt16.ofNat)) <| .call (.u16arr 0x0007 (msgsRecv.map UInt16.ofNat)) <|
  .call (.u8 0x0008 0) <| .call (.u16 0x0009 0) <|
  .grp 0x000A (.call (.u8 0x0000 1) <| .call (.utf8 0x0001 (ascii "com.apple.carplay")) <|
    .call (.u8 0x0002 0) .done) <|
  .call (.utf8 0x000C (ascii "en")) <| .call (.utf8List 0x000D [ascii "en"] true) <|
  .grp 0x0011 (.call (.u16 0x0000 0) <| .call (.utf8 0x0001 (ascii "RoadLink BT")) <| .call (.none 0x0002) <|
    match addr with
    | some a => .call (.blob 0x0003 a.val) .done
    | none => .done) <|
  .grp 0x0018 (.call (.u16 0x0000 1) <| .call (.utf8 0x0001 (ascii "RoadLink WiFi")) <| .call (.none 0x0002) <|
    .call (.none 0x0004) .done) .done

theorem identificationCalls_bytes (cfg : Config) (addr : Option (Block 6)) :
    (identificationCalls cfg addr).bytes = identificationInfo cfg addr := by
  have hsent : (msgsSent.map UInt16.ofNat).map UInt16.toNat = msgsSent := by decide
  have hrecv : (msgsRecv.map UInt16.ofNat).map UInt16.toNat = msgsRecv := by decide
  cases addr with
  | none =>
      simp only [identificationCalls, PbCalls.bytes, PbCall.bytes, hsent, hrecv, List.append_nil, identificationInfo,
        List.append_assoc]
      rfl
  | some a =>
      simp only [identificationCalls, PbCalls.bytes, PbCall.bytes, hsent, hrecv, List.append_nil, identificationInfo,
        List.append_assoc]
      rfl

/-- What `0x5703` and `0x1D01` carry is what the builder leaves in its buffer. -/
theorem wifiConfig_built {cfg : Config} {A : Allocator} (hroom : A.Room (2 ^ 31) 256 (wifiConfig cfg).length) :
    ∃ pb, (wifiConfigCalls cfg).run A (PB.init A 256) = some pb ∧ pb.buf.take pb.off = wifiConfig cfg := by
  rw [← wifiConfigCalls_bytes] at hroom ⊢
  exact builder_bytes A (by decide) _ hroom

theorem identificationInfo_built {cfg : Config} {addr : Option (Block 6)} {A : Allocator}
    (hroom : A.Room (2 ^ 31) 2048 (identificationInfo cfg addr).length) :
    ∃ pb, (identificationCalls cfg addr).run A (PB.init A 2048) = some pb ∧
      pb.buf.take pb.off = identificationInfo cfg addr := by
  rw [← identificationCalls_bytes] at hroom ⊢
  exact builder_bytes A (by decide) _ hroom

end Showcase.Bt
