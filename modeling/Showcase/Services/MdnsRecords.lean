import Mathlib.Data.List.Forall2
import Showcase.Lib.Writes
import Showcase.Services.Mdns

/-!
# `Services.MdnsRecords` — the records of the announcement in memory

The `mdns_put_*` functions again, with the buffer they are given: `buf` is memory of `cap` bytes, `*off` a `size_t`,
and a store at another place has no outcome. They do there what the functions of `Services.Mdns` do to the bytes in
front of `*off`, whatever they are called with.

* `Buffer`, `Packet`, `Writer` — the memory, and functions that write into it.
* `Refines` — a writer does what a `Put` does, and keeps what is in front of `*off`; one lemma a combinator.
* `refines_call`, `putAll_refines` — so do the five functions, and a chain of them.
* `records_spec` — no store behind the end; what is appended is the record; a packet is sent whole or not at all.
-/

namespace Showcase

open Lib

namespace Mdns

/-! ## Memory -/

/-- The buffer of a caller. No object of the language has more than `PTRDIFF_MAX` bytes. -/
structure Buffer where
  bytes : Bytes
  object : bytes.length < 2 ^ 63

/-- The capacity of the buffer. -/
def Buffer.sizeof (b : Buffer) : UInt64 := UInt64.ofNat b.bytes.length

/-- `buf` and `*off`. -/
structure Packet where
  buf : Bytes
  off : UInt64

/-- What has been written. -/
def Packet.written (pkt : Packet) : Bytes := pkt.buf.take pkt.off.toNat

/-- `buf[(*off)++] = b`. -/
def Packet.push (pkt : Packet) (b : UInt8) : Option Packet :=
  (store pkt.buf pkt.off.toNat b).map fun buf => ⟨buf, pkt.off + 1⟩

/-- `memcpy(buf + *off, data, len)` and `*off += len`. -/
def Packet.append (pkt : Packet) (data : Bytes) : Option Packet :=
  (stores pkt.buf pkt.off.toNat data).map fun buf => ⟨buf, pkt.off + UInt64.ofNat data.length⟩

/-- A function that writes into a packet: whether it returns true, and the packet then. -/
abbrev Writer := Packet → Option (Bool × Packet)

/-- `if (!w) return false; return v`. -/
def Writer.andThen (w v : Writer) : Writer := fun pkt => do
  let (ok, pkt) ← w pkt
  if ok then v pkt else some (false, pkt)

/-! ## The functions -/

section

variable (cap : UInt64)

/-- `mdns_put_u16`. -/
def mdnsPutU16 (v : UInt16) : Writer := fun pkt =>
  if cap < pkt.off + 2 then some (false, pkt)
  else do
    let pkt ← pkt.push (v >>> 8).toUInt8
    let pkt ← pkt.push (v &&& 0xff).toUInt8
    some (true, pkt)

/-- `mdns_put_u32`. -/
def mdnsPutU32 (v : UInt32) : Writer := fun pkt =>
  if cap < pkt.off + 4 then some (false, pkt)
  else do
    let pkt ← pkt.push (v >>> 24).toUInt8
    let pkt ← pkt.push (v >>> 16).toUInt8
    let pkt ← pkt.push (v >>> 8).toUInt8
    let pkt ← pkt.push (v &&& 0xff).toUInt8
    some (true, pkt)

/-- `mdns_put_bytes`. -/
def mdnsPutBytes (data : Bytes) : Writer := fun pkt =>
  if cap < pkt.off + UInt64.ofNat data.length then some (false, pkt)
  else do
    let pkt ← pkt.append data
    some (true, pkt)

/-- The loop of `mdns_put_name`. -/
def mdnsPutLabels (name : Bytes) : Writer := fun pkt =>
  if name = [] then some (true, pkt)
  else
    let len := (memchr dot name).getD name.length
    if 63 < len ∨ cap < pkt.off + 1 + UInt64.ofNat len then some (false, pkt)
    else do
      let pkt ← pkt.push (UInt8.ofNat len)
      let pkt ← pkt.append (name.take len)
      if memchr dot name = none then some (true, pkt) else mdnsPutLabels (name.drop (len + 1)) pkt
termination_by name.length
decreasing_by
  have hpos : 0 < name.length := List.length_pos_iff.mpr (by assumption)
  rw [List.length_drop]
  omega

/-- `mdns_put_name`. -/
def mdnsPutName (name : Bytes) : Writer :=
  (mdnsPutLabels cap name).andThen fun pkt =>
    if cap < pkt.off + 1 then some (false, pkt)
    else do
      let pkt ← pkt.push 0
      some (true, pkt)

/-- From `rdlen_at` on: the field, the data behind it, and the length stored into the field. -/
def mdnsPutRdata (data : Writer) : Writer := fun pkt => do
  let (ok, start) ← mdnsPutU16 cap 0 pkt
  if ok then do
    let (ok, pkt') ← data start
    if ok then do
      let rdlen := (pkt'.off - start.off).toUInt16
      let buf ← store pkt'.buf pkt.off.toNat (rdlen >>> 8).toUInt8
      let buf ← store buf (pkt.off + 1).toNat (rdlen &&& 0xff).toUInt8
      some (true, { pkt' with buf := buf })
    else some (false, pkt')
  else some (false, start)

/-- `mdns_put_ptr`. -/
def mdnsPutPtr (name target : Bytes) (ttl : UInt32) : Writer :=
  (mdnsPutName cap name).andThen <| (mdnsPutU16 cap 12).andThen <| (mdnsPutU16 cap 1).andThen <|
    (mdnsPutU32 cap ttl).andThen <| mdnsPutRdata cap (mdnsPutName cap target)

/-- `mdns_put_srv`. -/
def mdnsPutSrv (name target : Bytes) (port : UInt16) (ttl : UInt32) : Writer :=
  (mdnsPutName cap name).andThen <| (mdnsPutU16 cap 33).andThen <| (mdnsPutU16 cap 0x8001).andThen <|
    (mdnsPutU32 cap ttl).andThen <| mdnsPutRdata cap <|
      (mdnsPutU16 cap 0).andThen <| (mdnsPutU16 cap 0).andThen <| (mdnsPutU16 cap port).andThen <|
        mdnsPutName cap target

/-- `txt` and `txt_len`. -/
abbrev TxtBytes := { txt : Bytes // txt.length < 256 ^ 2 }

/-- `mdns_put_txt_bytes`. -/
def mdnsPutTxtBytes (name : Bytes) (txt : TxtBytes) (ttl : UInt32) : Writer :=
  (mdnsPutName cap name).andThen <| (mdnsPutU16 cap 16).andThen <| (mdnsPutU16 cap 0x8001).andThen <|
    (mdnsPutU32 cap ttl).andThen <| (mdnsPutU16 cap (UInt16.ofNat txt.val.length)).andThen <|
      mdnsPutBytes cap txt.val

/-- `mdns_put_a`. -/
def mdnsPutA (name : Bytes) (addr : Block 4) (ttl : UInt32) : Writer :=
  (mdnsPutName cap name).andThen <| (mdnsPutU16 cap 1).andThen <| (mdnsPutU16 cap 0x8001).andThen <|
    (mdnsPutU32 cap ttl).andThen <| (mdnsPutU16 cap 4).andThen <| mdnsPutBytes cap addr.val

end

/-! ## Within the buffer -/

/-- The length of an object is a `size_t`. -/
theorem toNat_ofNat_of_object {n : Nat} (h : n < 2 ^ 63) : (UInt64.ofNat n).toNat = n :=
  UInt64.toNat_ofNat_of_lt' (h.trans (by decide))

/-- The buffer is an object of `cap` bytes, and `*off` is not above. -/
structure Within (cap : UInt64) (pkt : Packet) : Prop where
  size : pkt.buf.length = cap.toNat
  object : cap.toNat < 2 ^ 63
  inside : pkt.off.toNat ≤ cap.toNat

section

variable {cap : UInt64} {pkt : Packet}

theorem Within.length_written (h : Within cap pkt) : pkt.written.length = pkt.off.toNat := by
  rw [Packet.written, List.length_take, h.size]
  exact Nat.min_eq_left h.inside

/-- No `size_t` wraps around where less than an object is added. -/
theorem Within.toNat_add (h : Within cap pkt) {n : UInt64} (hn : n.toNat < 2 ^ 63) :
    (pkt.off + n).toNat = pkt.off.toNat + n.toNat := by
  have hinside := h.inside
  have hobject := h.object
  rw [UInt64.toNat_add]
  exact Nat.mod_eq_of_lt (by omega)

/-- Where there is room, bytes are appended. -/
theorem Within.append (h : Within cap pkt) (data : Bytes) (hroom : pkt.off.toNat + data.length ≤ cap.toNat) :
    ∃ pkt', pkt.append data = some pkt' ∧ Within cap pkt' ∧ pkt'.written = pkt.written ++ data := by
  have hobject := h.object
  have hlen : (UInt64.ofNat data.length).toNat = data.length := toNat_ofNat_of_object (by omega)
  have hoff : (pkt.off + UInt64.ofNat data.length).toNat = pkt.off.toNat + data.length := by
    rw [h.toNat_add (by omega), hlen]
  have hfront : pkt.written <+: pkt.buf := List.take_prefix _ _
  have hfit : pkt.written.length + data.length ≤ pkt.buf.length := by
    rw [h.length_written, h.size]
    exact hroom
  obtain ⟨buf, hstores, hsize, hnew⟩ := stores_behind hfront hfit
  rw [h.length_written] at hstores
  refine ⟨⟨buf, pkt.off + UInt64.ofNat data.length⟩, ?_, ⟨hsize.trans h.size, hobject, ?_⟩, ?_⟩
  · rw [Packet.append, hstores]
    rfl
  · rw [hoff]
    exact hroom
  · rw [Packet.written, hoff, ← h.length_written, ← List.length_append]
    exact (List.prefix_iff_eq_take.mp hnew).symm

theorem push_eq (pkt : Packet) (b : UInt8) : pkt.push b = pkt.append [b] := by
  rw [Packet.push, Packet.append, stores]
  cases store pkt.buf pkt.off.toNat b with
  | none => rfl
  | some buf => rfl

theorem Within.off_eq {pkt' : Packet} {bs : Bytes} (h : Within cap pkt) (h' : Within cap pkt')
    (hwritten : pkt'.written = pkt.written ++ bs) : pkt'.off.toNat = pkt.off.toNat + bs.length := by
  rw [← h'.length_written, hwritten, List.length_append, h.length_written]

/-- A `size_t` stands for a length of at most 63. -/
theorem Within.label_over_iff (h : Within cap pkt) {len : Nat} :
    63 < len ∨ cap < pkt.off + 1 + UInt64.ofNat len ↔ 63 < len ∨ cap.toNat < pkt.off.toNat + 1 + len := by
  by_cases hlong : 63 < len
  · simp only [hlong, true_or]
  · have hinside := h.inside
    have hobject := h.object
    have hone : (pkt.off + 1).toNat = pkt.off.toNat + 1 := h.toNat_add (n := 1) (by decide)
    have hnat : (UInt64.ofNat len).toNat = len := toNat_ofNat_of_object (by omega)
    rw [UInt64.lt_iff_toNat_lt, UInt64.toNat_add, hone, hnat, Nat.mod_eq_of_lt (by omega)]

theorem Within.push (h : Within cap pkt) {b : UInt8} (hroom : pkt.off.toNat < cap.toNat) :
    ∃ pkt', pkt.push b = some pkt' ∧ Within cap pkt' ∧ pkt'.written = pkt.written ++ [b] ∧
      pkt'.off.toNat = pkt.off.toNat + 1 := by
  rw [push_eq]
  obtain ⟨pkt', happ, h', hwritten⟩ := h.append [b] hroom
  exact ⟨pkt', happ, h', hwritten, h.off_eq h' hwritten⟩

end

/-! ## The functions on the bytes written

A writer on memory refines a function on the bytes in front of `*off`: with room both append the same, without it both
return false. There is a rule for each way in which the functions are put together. -/

/-- `w` does in the buffer what `p` does to the bytes in front of `*off`: it stays within the buffer, and what was
    written before stays. -/
def Refines (cap : UInt64) (w : Writer) (p : Put) : Prop :=
  ∀ pkt, Within cap pkt → ∃ pkt', w pkt = some ((p pkt.written).1, pkt') ∧ Within cap pkt' ∧
    pkt'.written = (p pkt.written).2 ∧ pkt.written <+: pkt'.written

section

variable {cap : UInt64} {w v : Writer} {p q : Put}

theorem Refines.andThen (hw : Refines cap w p) (hv : Refines cap v q) : Refines cap (w.andThen v) (p.andThen q) := by
  intro pkt h
  obtain ⟨pkt₁, hrun, h₁, hwritten, hfront⟩ := hw pkt h
  rcases hp : p pkt.written with ⟨ok, bs⟩
  rw [hp] at hrun hwritten
  rw [Writer.andThen, hrun, Put.andThen, hp]
  cases ok with
  | false => exact ⟨pkt₁, rfl, h₁, hwritten, hfront⟩
  | true =>
      obtain ⟨pkt₂, hrun', h₂, hwritten', hfront'⟩ := hv pkt₁ h₁
      rw [hwritten] at hrun' hwritten'
      exact ⟨pkt₂, hrun', h₂, hwritten', hfront.trans hfront'⟩

/-- A check, and what stores the bytes: the smallest of the functions. -/
theorem refines_checked (n : UInt64) (bs : Bytes) {body : Writer} (hn : n.toNat = bs.length) (hlt : bs.length < 2 ^ 63)
    (hw : ∀ pkt, w pkt = if cap < pkt.off + n then some (false, pkt) else body pkt)
    (hbody : ∀ pkt, Within cap pkt → pkt.off.toNat + bs.length ≤ cap.toNat →
      ∃ pkt', body pkt = some (true, pkt') ∧ Within cap pkt' ∧ pkt'.written = pkt.written ++ bs)
    (hp : ∀ buf, p buf = if cap.toNat < buf.length + bs.length then (false, buf) else (true, buf ++ bs)) :
    Refines cap w p := by
  intro pkt h
  have hsum := h.toNat_add (hn.trans_lt hlt)
  rw [hn] at hsum
  have hiff : cap < pkt.off + n ↔ cap.toNat < pkt.off.toNat + bs.length := by rw [UInt64.lt_iff_toNat_lt, hsum]
  rw [hp, hw, h.length_written]
  by_cases hover : cap.toNat < pkt.off.toNat + bs.length
  · rw [if_pos hover, if_pos (hiff.mpr hover)]
    exact ⟨pkt, rfl, h, rfl, List.prefix_rfl⟩
  · obtain ⟨pkt', hrun, h', hwritten⟩ := hbody pkt h (Nat.not_lt.mp hover)
    rw [if_neg hover, if_neg (mt hiff.mp hover), hrun]
    exact ⟨pkt', rfl, h', hwritten, hwritten ▸ List.prefix_append _ _⟩

/-- The two bytes of a number. -/
theorem u16_bytes (v : UInt16) :
    [(v >>> 8).toUInt8, (v &&& 0xff).toUInt8] = [UInt8.ofNat (v.toNat >>> 8), UInt8.ofNat v.toNat] := by
  have hlow : v &&& 0xff = v % 256 := by
    apply UInt16.toNat_inj.mp
    rw [UInt16.toNat_and, UInt16.toNat_mod]
    exact Nat.and_two_pow_sub_one_eq_mod v.toNat 8
  rw [hlow]
  refine congrArg₂ (fun a b : UInt8 => [a, b]) (UInt8.toNat_inj.mp ?_) (UInt8.toNat_inj.mp ?_)
  · rw [UInt16.toNat_toUInt8, UInt16.toNat_shiftRight, UInt8.toNat_ofNat']
    rfl
  · rw [UInt16.toNat_toUInt8, UInt16.toNat_mod, UInt8.toNat_ofNat']
    exact Nat.mod_mod _ _

theorem u32_bytes (v : UInt32) :
    [(v >>> 24).toUInt8, (v >>> 16).toUInt8, (v >>> 8).toUInt8, (v &&& 0xff).toUInt8] =
      [UInt8.ofNat (v.toNat >>> 24), UInt8.ofNat (v.toNat >>> 16), UInt8.ofNat (v.toNat >>> 8),
        UInt8.ofNat v.toNat] := by
  have hlow : v &&& 0xff = v % 256 := by
    apply UInt32.toNat_inj.mp
    rw [UInt32.toNat_and, UInt32.toNat_mod]
    exact Nat.and_two_pow_sub_one_eq_mod v.toNat 8
  have hbyte : ∀ (n : UInt32) (k : Nat), n.toNat % 32 = k → (v >>> n).toUInt8 = UInt8.ofNat (v.toNat >>> k) := by
    intro n k hk
    apply UInt8.toNat_inj.mp
    rw [UInt32.toNat_toUInt8, UInt32.toNat_shiftRight, UInt8.toNat_ofNat', hk]
  have hlast : (v % 256).toUInt8 = UInt8.ofNat v.toNat := by
    apply UInt8.toNat_inj.mp
    rw [UInt32.toNat_toUInt8, UInt32.toNat_mod, UInt8.toNat_ofNat']
    exact Nat.mod_mod _ _
  rw [hlow, hbyte 24 24 rfl, hbyte 16 16 rfl, hbyte 8 8 rfl, hlast]

theorem refines_u16 (v : UInt16) : Refines cap (mdnsPutU16 cap v) (Showcase.mdnsPutU16 cap.toNat v.toNat) := by
  have hlt : 2 < 2 ^ 63 := by decide
  refine refines_checked 2 [(v >>> 8).toUInt8, (v &&& 0xff).toUInt8] rfl hlt (fun _ => rfl) ?_ ?_
  · intro pkt h hroom
    rw [List.length_cons, List.length_singleton] at hroom
    obtain ⟨pkt₁, hpush₁, h₁, hwritten₁, hoff₁⟩ := h.push (b := (v >>> 8).toUInt8) (by omega)
    obtain ⟨pkt₂, hpush₂, h₂, hwritten₂, -⟩ := h₁.push (b := (v &&& 0xff).toUInt8) (by omega)
    refine ⟨pkt₂, ?_, h₂, ?_⟩
    · simp only [hpush₁, hpush₂, Option.bind_eq_bind, Option.bind_some]
    · rw [hwritten₂, hwritten₁, List.append_assoc]
      rfl
  · intro buf
    rw [u16_bytes]
    rfl

theorem refines_u32 (v : UInt32) : Refines cap (mdnsPutU32 cap v) (Showcase.mdnsPutU32 cap.toNat v.toNat) := by
  have hlt : 4 < 2 ^ 63 := by decide
  refine refines_checked 4 [(v >>> 24).toUInt8, (v >>> 16).toUInt8, (v >>> 8).toUInt8, (v &&& 0xff).toUInt8] rfl hlt
    (fun _ => rfl) ?_ ?_
  · intro pkt h hroom
    simp only [List.length_cons, List.length_nil] at hroom
    obtain ⟨pkt₁, hpush₁, h₁, hwritten₁, hoff₁⟩ := h.push (b := (v >>> 24).toUInt8) (by omega)
    obtain ⟨pkt₂, hpush₂, h₂, hwritten₂, hoff₂⟩ := h₁.push (b := (v >>> 16).toUInt8) (by omega)
    obtain ⟨pkt₃, hpush₃, h₃, hwritten₃, hoff₃⟩ := h₂.push (b := (v >>> 8).toUInt8) (by omega)
    obtain ⟨pkt₄, hpush₄, h₄, hwritten₄, -⟩ := h₃.push (b := (v &&& 0xff).toUInt8) (by omega)
    refine ⟨pkt₄, ?_, h₄, ?_⟩
    · simp only [hpush₁, hpush₂, hpush₃, hpush₄, Option.bind_eq_bind, Option.bind_some]
    · rw [hwritten₄, hwritten₃, hwritten₂, hwritten₁]
      simp only [List.append_assoc, List.cons_append, List.nil_append]
  · intro buf
    rw [u32_bytes]
    rfl

theorem refines_bytes {data : Bytes} (hlen : data.length < 2 ^ 63) :
    Refines cap (mdnsPutBytes cap data) (Showcase.mdnsPutBytes cap.toNat data) := by
  refine refines_checked _ _ (toNat_ofNat_of_object hlen) hlen (fun _ => rfl) ?_ (fun _ => rfl)
  intro pkt h hroom
  obtain ⟨pkt', happ, h', hwritten⟩ := h.append data hroom
  refine ⟨pkt', ?_, h', hwritten⟩
  simp only [happ, Option.bind_eq_bind, Option.bind_some]

/-- A label behind its length. -/
theorem Within.label {pkt : Packet} (h : Within cap pkt) {l : Bytes}
    (hroom : pkt.off.toNat + 1 + l.length ≤ cap.toNat) :
    ∃ pkt₁ pkt₂, pkt.push (UInt8.ofNat l.length) = some pkt₁ ∧ pkt₁.append l = some pkt₂ ∧ Within cap pkt₂ ∧
      pkt₂.written = pkt.written ++ UInt8.ofNat l.length :: l := by
  obtain ⟨pkt₁, hpush, h₁, hwritten₁, hoff⟩ := h.push (b := UInt8.ofNat l.length) (by omega)
  obtain ⟨pkt₂, happ, h₂, hwritten₂⟩ := h₁.append l (by omega)
  refine ⟨pkt₁, pkt₂, hpush, happ, h₂, ?_⟩
  rw [hwritten₂, hwritten₁, List.append_assoc]
  rfl

theorem refines_labels (name : Bytes) :
    Refines cap (mdnsPutLabels cap name) (Showcase.mdnsPutLabels cap.toNat name) := by
  induction hn : name.length using Nat.strongRecOn generalizing name with
  | ind n ih =>
      intro pkt h
      rw [mdnsPutLabels, Showcase.mdnsPutLabels, h.length_written]
      by_cases hne : name = []
      · rw [if_pos hne, if_pos hne]
        exact ⟨pkt, rfl, h, rfl, List.prefix_rfl⟩
      · rw [if_neg hne, if_neg hne]
        cases hdot : memchr dot name with
        | none =>
            dsimp only [Option.getD_none]
            by_cases hover : 63 < name.length ∨ cap.toNat < pkt.off.toNat + 1 + name.length
            · rw [if_pos (h.label_over_iff.mpr hover), if_pos hover]
              exact ⟨pkt, rfl, h, rfl, List.prefix_rfl⟩
            · obtain ⟨pkt₁, pkt₂, hpush, happ, h₂, hwritten⟩ := h.label (l := name) (by omega)
              rw [if_neg (mt h.label_over_iff.mp hover), if_neg hover, List.take_length]
              refine ⟨pkt₂, ?_, h₂, hwritten, hwritten ▸ List.prefix_append _ _⟩
              simp only [hpush, happ, Option.bind_eq_bind, Option.bind_some, if_true]
        | some len =>
            dsimp only [Option.getD_some]
            have htake : (name.take len).length = len := by
              obtain ⟨a, b, rfl, rfl, -⟩ := memchr_eq_some.mp hdot
              rw [List.take_left' rfl]
            have hlt : (name.drop (len + 1)).length < n := by
              have hpos := List.length_pos_iff.mpr hne
              rw [List.length_drop]
              omega
            by_cases hover : 63 < len ∨ cap.toNat < pkt.off.toNat + 1 + len
            · rw [if_pos (h.label_over_iff.mpr hover), if_pos hover]
              exact ⟨pkt, rfl, h, rfl, List.prefix_rfl⟩
            · obtain ⟨pkt₁, pkt₂, hpush, happ, h₂, hwritten⟩ := h.label (l := name.take len) (by omega)
              obtain ⟨pkt₃, hrun, h₃, hwritten', hfront⟩ := ih _ hlt _ rfl pkt₂ h₂
              rw [htake] at hpush hwritten
              rw [hwritten] at hrun hwritten' hfront
              rw [if_neg (mt h.label_over_iff.mp hover), if_neg hover]
              refine ⟨pkt₃, ?_, h₃, hwritten', (List.prefix_append _ _).trans hfront⟩
              simp only [hpush, happ, Option.bind_eq_bind, Option.bind_some, reduceCtorEq, if_false]
              exact hrun

theorem refines_name (name : Bytes) : Refines cap (mdnsPutName cap name) (Showcase.mdnsPutName cap.toNat name) := by
  refine (refines_labels name).andThen ?_
  have hlt : 1 < 2 ^ 63 := by decide
  refine refines_checked 1 [0] rfl hlt (fun _ => rfl) ?_ (fun _ => rfl)
  intro pkt h hroom
  obtain ⟨pkt', hpush, h', hwritten, -⟩ := h.push (b := 0) hroom
  refine ⟨pkt', ?_, h', hwritten⟩
  simp only [hpush, Option.bind_eq_bind, Option.bind_some]

/-- The bytes of `rdlen`, as far as 16 bits hold it. -/
theorem rdlen_bytes {n : UInt64} {k : Nat} (hn : n.toNat = k) :
    (n.toUInt16 >>> 8).toUInt8 = UInt8.ofNat ((k % 65536) >>> 8) ∧
      (n.toUInt16 &&& 0xff).toUInt8 = UInt8.ofNat (k % 65536) := by
  have hlen : n.toUInt16.toNat = k % 65536 := by rw [UInt64.toNat_toUInt16, hn]
  have hbytes := u16_bytes n.toUInt16
  rw [hlen] at hbytes
  injection hbytes with hhigh hbytes
  injection hbytes with hlow _
  exact ⟨hhigh, hlow⟩

/-- Two bytes stored over two that were written. -/
theorem Within.patch {pkt : Packet} (h : Within cap pkt) {front rest : Bytes} {a b x y : UInt8}
    (hwritten : pkt.written = front ++ [a, b] ++ rest) :
    ∃ buf₁ buf₂, store pkt.buf front.length x = some buf₁ ∧ store buf₁ (front.length + 1) y = some buf₂ ∧
      Within cap { pkt with buf := buf₂ } ∧ Packet.written { pkt with buf := buf₂ } = front ++ [x, y] ++ rest := by
  have hfront : front ++ [a, b] ++ rest <+: pkt.buf := hwritten ▸ List.take_prefix _ _
  obtain ⟨buf₂, hstores, hsize, hnew⟩ := stores_within [x, y] hfront rfl
  rw [stores, Option.bind_eq_some_iff] at hstores
  obtain ⟨buf₁, hfirst, hsecond⟩ := hstores
  rw [stores, Option.bind_eq_some_iff] at hsecond
  obtain ⟨buf, hsecond, hend⟩ := hsecond
  obtain rfl := Option.some.inj hend
  refine ⟨buf₁, buf, hfirst, hsecond, ⟨hsize.trans h.size, h.object, h.inside⟩, ?_⟩
  have hlen : (front ++ [x, y] ++ rest).length = pkt.off.toNat := by
    rw [← h.length_written, hwritten]
    simp only [List.length_append, List.length_cons]
  rw [Packet.written, ← hlen]
  exact (List.prefix_iff_eq_take.mp hnew).symm

theorem Refines.rdata (hw : Refines cap w p) :
    Refines cap (mdnsPutRdata cap w) (Showcase.mdnsPutRdata cap.toNat p) := by
  intro pkt h
  obtain ⟨start, hfield, hs, hstart, hfront⟩ := refines_u16 0 pkt h
  have hzero : (0 : UInt16).toNat = 0 := rfl
  rw [hzero] at hfield hstart
  rw [mdnsPutRdata, hfield, Option.bind_eq_bind, Option.bind_some, Showcase.mdnsPutRdata]
  rcases hput : Showcase.mdnsPutU16 cap.toNat 0 pkt.written with ⟨ok, field⟩
  rw [hput] at hstart
  cases ok with
  | false => exact ⟨start, rfl, hs, hstart, hfront⟩
  | true =>
      obtain ⟨rfl, -, -⟩ := emits_u16 0 _ _ hput
      obtain ⟨pkt', hdata, h', hwritten, hgrown⟩ := hw start hs
      rw [show start.written = pkt.written ++ toBE 2 0 from hstart] at hdata hwritten hgrown
      dsimp only
      rw [if_pos rfl, hdata, Option.bind_some]
      rcases hputData : p (pkt.written ++ toBE 2 0) with ⟨ok, data⟩
      rw [hputData] at hwritten
      cases ok with
      | false => exact ⟨pkt', rfl, h', hwritten, (List.prefix_append _ _).trans hgrown⟩
      | true =>
          obtain rfl : pkt'.written = data := hwritten
          obtain ⟨rest, hrest⟩ := hgrown
          have hgrew : start.off.toNat ≤ pkt'.off.toNat := by
            rw [← hs.length_written, ← h'.length_written, ← hrest, hstart]
            exact (List.prefix_append _ _).length_le
          have hdiff : (pkt'.off - start.off).toNat = pkt'.written.length - (pkt.written ++ toBE 2 0).length := by
            rw [UInt64.toNat_sub_of_le _ _ (UInt64.le_iff_toNat_le.mpr hgrew), h'.length_written,
              ← hs.length_written, hstart]
          dsimp only
          generalize pkt'.written.length - (pkt.written ++ toBE 2 0).length = rdlen at hdiff ⊢
          obtain ⟨hhigh, hlow⟩ := rdlen_bytes hdiff
          -- the field lies in front of the data, so the length can be stored into it
          obtain ⟨buf₁, buf₂, hfirst, hsecond, hin, hpatched⟩ := h'.patch hrest.symm
            (x := UInt8.ofNat ((rdlen % 65536) >>> 8)) (y := UInt8.ofNat (rdlen % 65536))
          have hnext : (pkt.off + 1).toNat = pkt.off.toNat + 1 := h.toNat_add (n := 1) (by decide)
          rw [h.length_written] at hfirst hsecond
          refine ⟨{ pkt' with buf := buf₂ }, ?_, hin, ?_, ?_⟩
          · simp only [if_true, hnext, hhigh, hlow, hfirst, hsecond, Option.bind_eq_bind, Option.bind_some]
          · rw [hpatched, ← hrest, List.append_assoc, List.append_assoc]
            exact (set_pair pkt.written rest 0 0 _ _).symm
          · rw [hpatched, List.append_assoc]
            exact List.prefix_append _ _

/-! ## The five functions -/

/-- A call of one of them, with the names it is given. -/
inductive Call (N : Type) where
  | name (name : N)
  | ptr (name target : N) (ttl : UInt32)
  | srv (name target : N) (port : UInt16) (ttl : UInt32)
  | txt (name : N) (txt : TxtBytes) (ttl : UInt32)
  | a (name : N) (addr : Block 4) (ttl : UInt32)

def Call.map {N M : Type} (f : N → M) : Call N → Call M
  | .name n => .name (f n)
  | .ptr n t ttl => .ptr (f n) (f t) ttl
  | .srv n t port ttl => .srv (f n) (f t) port ttl
  | .txt n data ttl => .txt (f n) data ttl
  | .a n addr ttl => .a (f n) addr ttl

def Call.run (cap : UInt64) : Call Bytes → Writer
  | .name n => mdnsPutName cap n
  | .ptr n t ttl => mdnsPutPtr cap n t ttl
  | .srv n t port ttl => mdnsPutSrv cap n t port ttl
  | .txt n data ttl => mdnsPutTxtBytes cap n data ttl
  | .a n addr ttl => mdnsPutA cap n addr ttl

/-- A call, on the bytes that are written. -/
def Call.put (cap : Nat) : Call Bytes → Put
  | .name n => Showcase.mdnsPutName cap n
  | .ptr n t ttl => Showcase.mdnsPutPtr cap n t ttl.toNat
  | .srv n t port ttl => Showcase.mdnsPutSrv cap n t port.toNat ttl.toNat
  | .txt n data ttl => Showcase.mdnsPutTxtBytes cap n data.val ttl.toNat
  | .a n addr ttl => Showcase.mdnsPutA cap n addr ttl.toNat

theorem refines_call (c : Call Bytes) : Refines cap (c.run cap) (c.put cap.toNat) := by
  cases c with
  | name n => exact refines_name n
  | ptr n t ttl =>
      exact (refines_name n).andThen <| (refines_u16 12).andThen <| (refines_u16 1).andThen <|
        (refines_u32 ttl).andThen (refines_name t).rdata
  | srv n t port ttl =>
      exact (refines_name n).andThen <| (refines_u16 33).andThen <| (refines_u16 0x8001).andThen <|
        (refines_u32 ttl).andThen <| Refines.rdata <| (refines_u16 0).andThen <| (refines_u16 0).andThen <|
          (refines_u16 port).andThen (refines_name t)
  | txt n txt ttl =>
      have hlen := txt.property
      have hnat : (UInt16.ofNat txt.val.length).toNat = txt.val.length := UInt16.toNat_ofNat_of_lt' hlen
      have hfield : Refines cap _ _ := refines_u16 (UInt16.ofNat txt.val.length)
      rw [hnat] at hfield
      exact (refines_name n).andThen <| (refines_u16 16).andThen <| (refines_u16 0x8001).andThen <|
        (refines_u32 ttl).andThen <| hfield.andThen (refines_bytes (hlen.trans (by decide)))
  | a n addr ttl =>
      have hlen : addr.val.length < 2 ^ 63 := by
        rw [addr.property]
        decide
      exact (refines_name n).andThen <| (refines_u16 1).andThen <| (refines_u16 0x8001).andThen <|
        (refines_u32 ttl).andThen <| (refines_u16 4).andThen (refines_bytes hlen)

end

/-! ## What is appended -/

/-- A name: labels that are not empty and have no dot, of at most 63 bytes, and at most 255 bytes on the wire. -/
structure Name where
  labels : List Bytes
  nonempty : [] ∉ labels
  undotted : ∀ l ∈ labels, dot ∉ l
  short : ∀ l ∈ labels, l.length ≤ 63
  encoded : (Dns.nameWire labels).length ≤ 255

/-- The labels of a name between dots. -/
def Name.text (n : Name) : Bytes := [dot].intercalate n.labels

/-- The code finds them again. -/
theorem dnsLabels_intercalate {ls : List Bytes} (hne : [] ∉ ls) (hdot : ∀ l ∈ ls, dot ∉ l) :
    dnsLabels ([dot].intercalate ls) = ls := by
  induction ls with
  | nil => simp [dnsLabels]
  | cons l ls ih =>
      have hl := hdot l List.mem_cons_self
      have hrest := ih (fun h => hne (List.mem_cons_of_mem l h)) fun x hx => hdot x (List.mem_cons_of_mem l hx)
      cases ls with
      | nil =>
          rw [List.intercalate_singleton]
          exact dnsLabels_single hl fun h => hne (h ▸ List.mem_cons_self)
      | cons l' ls =>
          rw [List.intercalate_cons_cons, List.append_assoc, List.singleton_append, dnsLabels_dot hl, hrest]

@[simp] theorem Name.dnsLabels_text (n : Name) : dnsLabels n.text = n.labels :=
  dnsLabels_intercalate n.nonempty n.undotted

/-- `bs` is one record: its length field says how long its data is, and whatever message it stands in, it is read as
    `r`. -/
structure IsRecord (bs : Bytes) (type : Nat) (r : Dns.Record) : Prop where
  rdlength : ∃ data, data.length < 256 ^ 2 ∧ bs = Dns.recordWire r.owner type r.cls r.ttl data
  decoded : ∀ msg : Bytes, bs.length ≤ msg.length → Decoder.whole (Dns.record msg) bs = some r

/-- What a call is to append. -/
def Call.Means (bs : Bytes) : Call Name → Prop
  | .name n => ∀ msg : Bytes, bs.length ≤ msg.length → Decoder.whole (Dns.name msg) bs = some n.labels
  | .ptr n t ttl => IsRecord bs 12 ⟨n.labels, 1, ttl.toNat, .ptr t.labels⟩
  | .srv n t port ttl => IsRecord bs 33 ⟨n.labels, 0x8001, ttl.toNat, .srv 0 0 port.toNat t.labels⟩
  | .txt n data ttl => IsRecord bs 16 ⟨n.labels, 0x8001, ttl.toNat, .txt data.val⟩
  | .a n addr ttl => IsRecord bs 1 ⟨n.labels, 0x8001, ttl.toNat, .a addr.val⟩

/-- The wire form. -/
def Call.wire : Call Name → Bytes
  | .name n => Dns.nameWire n.labels
  | .ptr n t ttl => Dns.recordWire n.labels 12 1 ttl.toNat (Dns.nameWire t.labels)
  | .srv n t port ttl => Dns.recordWire n.labels 33 0x8001 ttl.toNat (Dns.srvWire 0 0 port.toNat t.labels)
  | .txt n data ttl => Dns.recordWire n.labels 16 0x8001 ttl.toNat data.val
  | .a n addr ttl => Dns.recordWire n.labels 1 0x8001 ttl.toNat addr.val

theorem emits_call {cap : Nat} (c : Call Name) : Emits cap ((c.map Name.text).put cap) c.wire True := by
  cases c with
  | name n =>
      have h : Emits cap _ _ _ := emits_name n.text
      rw [n.dnsLabels_text] at h
      exact h.mono fun _ => trivial
  | ptr n t ttl =>
      have h : Emits cap _ _ _ := emits_ptr n.text t.text ttl.toNat
      rw [n.dnsLabels_text, t.dnsLabels_text] at h
      exact h.mono fun _ => trivial
  | srv n t port ttl =>
      have h : Emits cap _ _ _ := emits_srv n.text t.text port.toNat ttl.toNat
      rw [n.dnsLabels_text, t.dnsLabels_text] at h
      exact h.mono fun _ => trivial
  | txt n data ttl =>
      have h : Emits cap _ _ _ := emits_txt n.text data.val ttl.toNat
      rw [n.dnsLabels_text] at h
      exact h.mono fun _ => trivial
  | a n addr ttl =>
      have h : Emits cap _ _ _ := emits_a n.text addr ttl.toNat
      rw [n.dnsLabels_text] at h
      exact h.mono fun _ => trivial

theorem Name.length_labels (n : Name) (msg : Bytes) (h : (Dns.nameWire n.labels).length ≤ msg.length) :
    n.labels.length ≤ msg.length := (Dns.length_lt_nameWire n.labels).le.trans h

/-- A record of a name, where its data is read back. -/
theorem isRecord (n : Name) {type cls ttl : Nat} {data : Bytes} {r : Dns.RData} (htype : type < 256 ^ 2)
    (hcls : cls < 256 ^ 2) (httl : ttl < 256 ^ 4) (hdata : data.length < 256 ^ 2)
    (h : ∀ msg : Bytes, data.length ≤ msg.length → Decoder.whole (Dns.rdata msg type data.length) data = some r) :
    IsRecord (Dns.recordWire n.labels type cls ttl data) type ⟨n.labels, cls, ttl, r⟩ := by
  refine ⟨⟨data, hdata, rfl⟩, ?_⟩
  intro msg hmsg
  simp only [Dns.recordWire, List.length_append] at hmsg
  have howner := Dns.reads_name n.short n.nonempty (n.length_labels msg (by omega))
  exact (Dns.reads_record howner htype hcls httl hdata (h msg (by omega))).whole

theorem means_wire (c : Call Name) : c.Means c.wire := by
  have hzero : (0 : Nat) < 256 ^ 2 := by decide
  have hcls : 0x8001 < 256 ^ 2 := by decide
  cases c with
  | name n => exact fun msg hmsg => (Dns.reads_name n.short n.nonempty (n.length_labels msg hmsg)).whole
  | ptr n t ttl =>
      have hdata : (Dns.nameWire t.labels).length < 256 ^ 2 := t.encoded.trans_lt (by decide)
      refine isRecord n (by decide) (by decide) ttl.toNat_lt hdata fun msg hmsg => ?_
      exact Dns.rdata_ptr t.short t.nonempty (t.length_labels msg hmsg) _
  | srv n t port ttl =>
      have hlen : (Dns.srvWire 0 0 port.toNat t.labels).length = 6 + (Dns.nameWire t.labels).length := by
        simp only [Dns.srvWire, List.length_append, toBE_length]
        omega
      have hencoded := t.encoded
      refine isRecord n (by decide) hcls ttl.toNat_lt (by rw [hlen]; omega) fun msg hmsg => ?_
      exact Dns.rdata_srv hzero hzero port.toNat_lt t.short t.nonempty (t.length_labels msg (by omega)) _
  | txt n data ttl =>
      exact isRecord n (by decide) hcls ttl.toNat_lt data.property fun msg _ => Dns.rdata_txt data.val
  | a n addr ttl =>
      have hdata : addr.val.length < 256 ^ 2 := by
        rw [addr.property]
        decide
      exact isRecord n (by decide) hcls ttl.toNat_lt hdata fun msg _ => Dns.rdata_a addr _

/-! ## The announcement -/

/-- What the system answers; `TXTRecordGetLength` has 16 bits. -/
structure System extends MdnsEnv where
  apTxtLen : apTxt.length < 256 ^ 2
  raopTxtLen : raopTxt.length < 256 ^ 2

/-- `ok &= w`, one call after the other. -/
def putAll : List Writer → Bool → Packet → Option (Bool × Packet)
  | [], ok, pkt => some (ok, pkt)
  | w :: ws, ok, pkt => do
      let (put, pkt) ← w pkt
      putAll ws (ok && put) pkt

/-- The header: response, authoritative answer, no questions, seven answers. -/
def announcementHeader : List UInt16 := [0x0000, 0x8400, 0, 7, 0, 0]

/-- The calls for the records. -/
def announcementCalls (g : Names) (env : System) : List (Call Bytes) :=
  let airplayInst := snprintf 128 (g.instanceName ++ ascii "._airplay._tcp.local")
  let raopInst := snprintf 160 (g.raopName ++ ascii "._raop._tcp.local")
  let target := localMdnsTargetName env.host
  [.ptr (ascii "_airplay._tcp.local") airplayInst 4500, .srv airplayInst target 7000 120,
    .txt airplayInst ⟨env.apTxt, env.apTxtLen⟩ 4500, .ptr (ascii "_raop._tcp.local") raopInst 4500,
    .srv raopInst target 7000 120, .txt raopInst ⟨env.raopTxt, env.raopTxtLen⟩ 4500, .a target env.addr 120]

/-- All calls of `send_unsolicited_mdns_airplay_announcement`. -/
def announcementWriters (g : Names) (env : System) : List Writer :=
  announcementHeader.map (mdnsPutU16 1800) ++ (announcementCalls g env).map (Call.run 1800)

/-- `send_unsolicited_mdns_airplay_announcement`, `pkt` as it finds it on the stack. -/
def sendAnnouncement (g : Names) (env : System) (pkt : Block 1800) : Option (Option Bytes) := do
  let (ok, pkt) ← putAll (announcementWriters g env) true ⟨pkt.val, 0⟩
  some (if ok = true ∧ env.socket = true then some pkt.written else none)

/-- A chain of functions on the bytes written. -/
def allPut (ps : List Put) : Put := ps.foldr Put.both fun buf => (true, buf)

theorem both_assoc (p q r : Put) : (p.both q).both r = p.both (q.both r) := by
  funext buf
  simp only [Put.both, Bool.and_assoc]

theorem both_done (p : Put) : p.both (fun buf => (true, buf)) = p := by
  funext buf
  simp only [Put.both, Bool.and_true]

/-- `Services.Mdns` has the same chain. -/
theorem buildAnnouncement_eq (g : Names) (env : System) :
    buildAnnouncement g env.toMdnsEnv =
      allPut (announcementHeader.map (fun v => Showcase.mdnsPutU16 1800 v.toNat) ++
        (announcementCalls g env).map (Call.put 1800)) [] := by
  simp only [announcementHeader, announcementCalls, List.map_cons, List.map_nil, List.cons_append, List.nil_append,
    allPut, List.foldr_cons, List.foldr_nil, both_done]
  simp only [← both_assoc, buildAnnouncement]
  rfl

section

variable {cap : UInt64} {ws : List Writer} {ps : List Put}

/-- A chain does what the chain on the bytes does. -/
theorem putAll_refines (hall : List.Forall₂ (Refines cap) ws ps) (ok : Bool) {pkt : Packet} (h : Within cap pkt) :
    ∃ pkt', putAll ws ok pkt = some (ok && (allPut ps pkt.written).1, pkt') ∧ Within cap pkt' ∧
      pkt'.written = (allPut ps pkt.written).2 := by
  induction hall generalizing ok pkt with
  | nil => exact ⟨pkt, by rw [putAll, allPut, List.foldr_nil, Bool.and_true], h, rfl⟩
  | @cons _ p _ _ hw _ ih =>
      obtain ⟨pkt₁, hrun, h₁, hwritten₁, -⟩ := hw pkt h
      obtain ⟨pkt₂, hrest, h₂, hwritten₂⟩ := ih (ok && (p pkt.written).1) h₁
      rw [hwritten₁] at hrest hwritten₂
      refine ⟨pkt₂, ?_, h₂, hwritten₂⟩
      rw [putAll, hrun, Option.bind_eq_bind, Option.bind_some]
      dsimp only
      rw [hrest, Bool.and_assoc]
      rfl

theorem putAll_append (before behind : List Writer) (ok : Bool) (pkt : Packet) :
    putAll (before ++ behind) ok pkt = (putAll before ok pkt).bind fun r => putAll behind r.1 r.2 := by
  induction before generalizing ok pkt with
  | nil => rfl
  | cons w before ih =>
      simp only [List.cons_append, putAll, Option.bind_eq_bind, Option.bind_assoc, ih]

/-- `ok` stays false. -/
theorem putAll_false {pkt pkt' : Packet} {ok : Bool} (h : putAll ws false pkt = some (ok, pkt')) : ok = false := by
  induction ws generalizing pkt with
  | nil => exact (Prod.mk.inj (Option.some.inj h)).1.symm
  | cons w ws ih =>
      obtain ⟨r, -, hrest⟩ := Option.bind_eq_some_iff.mp h
      exact ih hrest

end

theorem announcement_refines (g : Names) (env : System) :
    List.Forall₂ (Refines 1800) (announcementWriters g env)
      (announcementHeader.map (fun v => Showcase.mdnsPutU16 1800 v.toNat) ++
        (announcementCalls g env).map (Call.put 1800)) := by
  refine List.rel_append ?_ ?_
  · rw [List.forall₂_map_left_iff, List.forall₂_map_right_iff]
    exact List.forall₂_same.mpr fun v _ => refines_u16 v
  · rw [List.forall₂_map_left_iff, List.forall₂_map_right_iff]
    exact List.forall₂_same.mpr fun c _ => refines_call c

theorem within_stack (pkt : Block 1800) : Within 1800 ⟨pkt.val, 0⟩ := ⟨pkt.property, by decide, Nat.zero_le _⟩

/-- **The function on memory sends what the one on bytes sends**, whatever was on the stack. -/
theorem sendAnnouncement_eq (g : Names) (env : System) (pkt : Block 1800) :
    sendAnnouncement g env pkt = some (Showcase.sendAnnouncement g env.toMdnsEnv) := by
  obtain ⟨pkt', hrun, -, hwritten⟩ := putAll_refines (announcement_refines g env) true (within_stack pkt)
  have hbuild := buildAnnouncement_eq g env
  have hnone : Packet.written ⟨pkt.val, 0⟩ = [] := List.take_zero
  rw [hnone, ← hbuild] at hrun hwritten
  rw [sendAnnouncement, hrun, Showcase.sendAnnouncement, Option.bind_eq_bind, Option.bind_some]
  dsimp only
  rw [hwritten]
  rcases buildAnnouncement g env.toMdnsEnv with ⟨ok, bs⟩
  cases ok with
  | false => rfl
  | true => simp

/-- What is sent is a packet of at most 1800 bytes. -/
theorem length_sent {g : Names} {env : System} {pkt : Block 1800} {sent : Bytes}
    (h : sendAnnouncement g env pkt = some (some sent)) : sent.length ≤ 1800 := by
  obtain ⟨pkt', hrun, hin, -⟩ := putAll_refines (announcement_refines g env) true (within_stack pkt)
  rw [sendAnnouncement, hrun, Option.bind_eq_bind, Option.bind_some] at h
  obtain ⟨-, h⟩ := Option.ite_none_right_eq_some.mp (Option.some.inj h)
  obtain rfl := Option.some.inj h
  rw [hin.length_written]
  exact hin.inside

/-! ## What holds of them -/

/-- A call with no store behind the end: the buffer keeps its size, `*off` comes to lie in it, and what was in front
    of `*off` stays. -/
structure StaysWithin (b : Buffer) (off : UInt64) (r : Option (Bool × Packet)) : Prop where
  returns : ∃ ok pkt, r = some (ok, pkt) ∧ pkt.buf.length = b.bytes.length ∧ off ≤ pkt.off ∧ pkt.off ≤ b.sizeof ∧
    pkt.buf.take off.toNat = b.bytes.take off.toNat

/-- **All records or none.** Where a call for a record, or for the header, returns false, no packet is sent, and none is
    sent where the records do not fit; the function returns, whatever was on the stack. -/
structure AllOrNothing (g : Names) (env : System) (mem : Block 1800) : Prop where
  returns : ∃ sent, sendAnnouncement g env mem = some sent
  refused : ∀ before w behind ok pkt pkt', announcementWriters g env = before ++ w :: behind →
    putAll before true ⟨mem.val, 0⟩ = some (ok, pkt) → w pkt = some (false, pkt') →
      sendAnnouncement g env mem = some none
  whole : ∀ sent, sendAnnouncement g env mem = some (some sent) → sent.length ≤ 1800 ∧
    sent = Dns.answersHeader 0 0x8400 7 ++
      (announcedWires (airplayLabels g) (raopLabels g) (targetLabels env.toMdnsEnv) env.toMdnsEnv).flatten

section

variable {b : Buffer} {off : UInt64} (hoff : off ≤ b.sizeof)

theorem Buffer.toNat_sizeof (b : Buffer) : b.sizeof.toNat = b.bytes.length := toNat_ofNat_of_object b.object

include hoff

theorem Buffer.within : Within b.sizeof ⟨b.bytes, off⟩ := by
  refine ⟨b.toNat_sizeof.symm, ?_, UInt64.le_iff_toNat_le.mp hoff⟩
  rw [b.toNat_sizeof]
  exact b.object

theorem staysWithin_call (c : Call Bytes) : StaysWithin b off (c.run b.sizeof ⟨b.bytes, off⟩) := by
  have hin := Buffer.within hoff
  obtain ⟨pkt, hrun, h, -, hfront⟩ := refines_call c _ hin
  have hlen := hfront.length_le
  rw [hin.length_written, h.length_written] at hlen
  refine ⟨_, pkt, hrun, h.size.trans b.toNat_sizeof, UInt64.le_iff_toNat_le.mpr hlen,
    UInt64.le_iff_toNat_le.mpr h.inside, ?_⟩
  have htake := List.prefix_iff_eq_take.mp hfront
  rw [hin.length_written, Packet.written, Packet.written, List.take_take, Nat.min_eq_left hlen] at htake
  exact htake.symm

/-- What a call has appended when it returns true. -/
theorem call_appends (c : Call Name) {pkt : Packet}
    (h : (c.map Name.text).run b.sizeof ⟨b.bytes, off⟩ = some (true, pkt)) : c.Means (pkt.written.drop off.toNat) := by
  have hin := Buffer.within hoff
  obtain ⟨pkt', hrun, -, hwritten, -⟩ := refines_call (c.map Name.text) _ hin
  obtain ⟨hok, rfl⟩ := Prod.mk.inj (Option.some.inj (h.symm.trans hrun))
  have hwire : pkt.written = Packet.written ⟨b.bytes, off⟩ ++ c.wire :=
    (emits_call c _ _ (Prod.ext hok.symm hwritten.symm)).1
  have hdrop : pkt.written.drop off.toNat = c.wire := by
    rw [hwire]
    exact List.drop_left' hin.length_written
  rw [hdrop]
  exact means_wire c

end

theorem allOrNothing (argv : List Bytes) (env : System) (mem : Block 1800) :
    AllOrNothing (parseArgs argv .initial) env mem := by
  have heq := sendAnnouncement_eq (parseArgs argv .initial) env mem
  refine ⟨⟨_, heq⟩, ?_, ?_⟩
  · intro before w behind ok pkt pkt' hcalls hbefore hw
    obtain ⟨⟨ok', pkt''⟩, hall, hsent⟩ := Option.bind_eq_some_iff.mp heq
    rw [hcalls, putAll_append, hbefore, Option.bind_some, putAll, hw, Option.bind_eq_bind, Option.bind_some] at hall
    dsimp only at hall
    rw [Bool.and_false] at hall
    obtain rfl := putAll_false hall
    rw [heq, ← hsent]
    rfl
  · intro sent hsent
    have hbytes := Option.some.inj (heq.symm.trans hsent)
    exact ⟨length_sent hsent, (announcement_packet hbytes).1⟩

/-- **The encoders.** With every buffer and every offset in it, no call stores behind the end; a call that returns true
    has appended the one record that is meant; and an announcement is sent with all its records or not at all. -/
theorem records_spec (b : Buffer) (off : UInt64) (hoff : off ≤ b.sizeof) :
    (∀ c : Call Bytes, StaysWithin b off (c.run b.sizeof ⟨b.bytes, off⟩)) ∧
      (∀ (c : Call Name) pkt, (c.map Name.text).run b.sizeof ⟨b.bytes, off⟩ = some (true, pkt) →
        c.Means (pkt.written.drop off.toNat)) ∧
      ∀ argv env mem, AllOrNothing (parseArgs argv .initial) env mem :=
  ⟨staysWithin_call hoff, fun c _ h => call_appends hoff c h, allOrNothing⟩

/-- The name `tv`. -/
def Name.sample : Name := ⟨[ascii "tv"], by decide, by decide, by decide, by decide⟩

/-- A record behind the third of 48 bytes. -/
theorem records_spec_small :
    ∃ pkt, (Call.map Name.text (.ptr .sample .sample 120)).run 48 ⟨List.replicate 48 0, 3⟩ = some (true, pkt) ∧
      IsRecord (pkt.written.drop 3) 12 ⟨[ascii "tv"], 1, 120, .ptr [ascii "tv"]⟩ := by
  have hrun : (((Call.map Name.text (.ptr .sample .sample 120)).run 48 ⟨List.replicate 48 0, 3⟩).map Prod.fst) =
      some true := by decide +kernel
  obtain ⟨⟨ok, pkt⟩, hcall, hok⟩ := Option.map_eq_some_iff.mp hrun
  obtain rfl : ok = true := hok
  exact ⟨pkt, hcall, (records_spec ⟨List.replicate 48 0, by decide⟩ 3 (by decide)).2.1 _ pkt hcall⟩

end Mdns

end Showcase
