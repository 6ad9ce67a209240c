import Showcase.Lib.Decoder

/-!
# `Lib.Dns` — DNS messages on the wire

Names, records and messages, and a decoder for them: it follows compression pointers, and takes a record only if its
data is exactly as long as its length field says.

* `nameWire`, `recordWire` — the uncompressed wire forms.
* `reads_name`, `whole_name_none` — a name is read back unless one of its labels is empty; an empty label ends it.
* `reads_record`, `fails_record` — a record is read back if its data is, and is refused otherwise.
* `decodeMessage_answers` — a message of answers only is its records.
-/

namespace Lib

namespace Dns

open Decoder

/-! ## Messages -/

inductive RData where
  | ptr (target : List Bytes)
  | srv (priority weight port : Nat) (target : List Bytes)
  | txt (data : Bytes)
  | a (addr : Bytes)
  | other (type : Nat) (data : Bytes)
deriving DecidableEq

structure Record where
  owner : List Bytes
  cls : Nat
  ttl : Nat
  rdata : RData
deriving DecidableEq

structure Question where
  name : List Bytes
  type : Nat
  cls : Nat
deriving DecidableEq

structure Message where
  id : Nat
  flags : Nat
  questions : List Question
  answers : List Record
  authority : List Record
  additional : List Record
deriving DecidableEq

/-! ## Decoding -/

/-- The labels of a name, up to the root. `msg` is the whole message, for the offsets of pointers; `fuel` bounds how
many labels and pointers are followed. -/
def labels (msg : Bytes) : Nat → Decoder (List Bytes)
  | 0 => failure
  | fuel + 1 => do
      let len ← byte
      if len = 0 then return []
      else if len < 64 then do
        let l ← bytes len.toNat
        let ls ← labels msg fuel
        return l :: ls
      else if len < 192 then failure
      else do
        let low ← byte
        match (labels msg fuel).run (msg.drop ((len.toNat - 192) * 256 + low.toNat)) with
        | some (ls, _) => return ls
        | none => failure

/-- A name. One without a pointer loop has fewer labels and pointers than the message has bytes. -/
def name (msg : Bytes) : Decoder (List Bytes) := labels msg (msg.length + 1)

/-- The data of a record, by its type; `len` is the length field. -/
def rdata (msg : Bytes) (type len : Nat) : Decoder RData :=
  if type = 12 then do return .ptr (← name msg)
  else if type = 33 then do
    let priority ← be 2
    let weight ← be 2
    let port ← be 2
    let target ← name msg
    return .srv priority weight port target
  else if type = 16 then do return .txt (← bytes len)
  else if type = 1 then do return .a (← bytes 4)
  else do return .other type (← bytes len)

def record (msg : Bytes) : Decoder Record := do
  let owner ← name msg
  let type ← be 2
  let cls ← be 2
  let ttl ← be 4
  let len ← be 2
  let data ← within len (rdata msg type len)
  return ⟨owner, cls, ttl, data⟩

def question (msg : Bytes) : Decoder Question := do
  let owner ← name msg
  let type ← be 2
  let cls ← be 2
  return ⟨owner, type, cls⟩

def message (msg : Bytes) : Decoder Message := do
  let id ← be 2
  let flags ← be 2
  let qdcount ← be 2
  let ancount ← be 2
  let nscount ← be 2
  let arcount ← be 2
  let questions ← times qdcount (question msg)
  let answers ← times ancount (record msg)
  let authority ← times nscount (record msg)
  let additional ← times arcount (record msg)
  return ⟨id, flags, questions, answers, authority, additional⟩

/-- A datagram as a message, none of its bytes left over. -/
def decodeMessage (msg : Bytes) : Option Message := whole (message msg) msg

/-! ## The wire forms -/

/-- A label behind its length. -/
def labelWire (l : Bytes) : Bytes := UInt8.ofNat l.length :: l

/-- A name without pointers. -/
def nameWire (ls : List Bytes) : Bytes := ls.flatMap labelWire ++ [0]

def recordWire (owner : List Bytes) (type cls ttl : Nat) (data : Bytes) : Bytes :=
  nameWire owner ++ (toBE 2 type ++ (toBE 2 cls ++ (toBE 4 ttl ++ (toBE 2 data.length ++ data))))

/-! ## Names

The decoder is followed label by label. It has read the name when it comes to a length of zero, and that is what an
empty label looks like. -/

variable {msg : Bytes} {ls : List Bytes}

theorem nameWire_cons (l : Bytes) (ls : List Bytes) : nameWire (l :: ls) = labelWire l ++ nameWire ls := by
  rw [nameWire, List.flatMap_cons, List.append_assoc, nameWire]

theorem length_lt_nameWire (ls : List Bytes) : ls.length < (nameWire ls).length := by
  induction ls with
  | nil => exact Nat.one_pos
  | cons l ls ih =>
      rw [nameWire_cons, List.length_append, List.length_cons, labelWire, List.length_cons]
      omega

theorem reads_labels {fuel : Nat} (hlen : ∀ l ∈ ls, l.length ≤ 63) (hne : [] ∉ ls) (hfuel : ls.length < fuel) :
    Reads (labels msg fuel) (nameWire ls) ls := by
  induction ls generalizing fuel with
  | nil =>
      obtain ⟨fuel, rfl⟩ : ∃ f, fuel = f + 1 := ⟨fuel - 1, by omega⟩
      exact fun _ => rfl
  | cons l ls ih =>
      obtain ⟨fuel, rfl⟩ : ∃ f, fuel = f + 1 := ⟨fuel - 1, by omega⟩
      have hl : l.length ≤ 63 := hlen l List.mem_cons_self
      have hpos : 0 < l.length := by
        rw [List.length_pos_iff]
        exact fun h => hne (h ▸ List.mem_cons_self)
      have hnat : (UInt8.ofNat l.length).toNat = l.length := by
        rw [UInt8.toNat_ofNat']
        omega
      have hzero : UInt8.ofNat l.length ≠ 0 := by
        intro h
        rw [h] at hnat
        exact absurd hnat.symm (Nat.pos_iff_ne_zero.mp hpos)
      have hlt : UInt8.ofNat l.length < 64 := by
        rw [UInt8.lt_iff_toNat_lt, hnat]
        exact Nat.lt_succ_of_le hl
      have htail : Reads (labels msg fuel) (nameWire ls) ls :=
        ih (fun x hx => hlen x (List.mem_cons_of_mem l hx)) (fun h => hne (List.mem_cons_of_mem l h)) (by
          rw [List.length_cons] at hfuel
          omega)
      rw [nameWire_cons, labelWire, ← List.singleton_append, List.append_assoc]
      refine (Reads.byte _).bind ?_
      rw [if_neg hzero, if_pos hlt, hnat]
      exact (Reads.bytes rfl).bind htail.map

/-- A name of non-empty labels is read back. -/
theorem reads_name (hlen : ∀ l ∈ ls, l.length ≤ 63) (hne : [] ∉ ls) (hmsg : ls.length ≤ msg.length) :
    Reads (name msg) (nameWire ls) ls :=
  reads_labels hlen hne (by omega)

/-- An empty label is the end of the name: the labels behind it are left over. -/
theorem run_name_of_empty (hlen : ∀ l ∈ ls, l.length ≤ 63) (h : [] ∈ ls) (hmsg : ls.length ≤ msg.length) :
    ∃ l₁ l₂, (name msg).run (nameWire ls) = some (l₁, nameWire l₂) := by
  obtain ⟨l₁, l₂, rfl, hne⟩ := List.eq_append_cons_of_mem h
  have hwire : nameWire (l₁ ++ [] :: l₂) = nameWire l₁ ++ nameWire l₂ := by
    simp [nameWire, labelWire]
  rw [List.length_append] at hmsg
  rw [hwire]
  exact ⟨l₁, l₂, reads_name (fun l hl => hlen l (List.mem_append_left _ hl)) hne (by omega) _⟩

theorem nameWire_ne_nil (ls : List Bytes) : nameWire ls ≠ [] := by
  rw [nameWire]
  exact List.append_ne_nil_of_right_ne_nil _ (by simp)

/-! ## The data of a record -/

/-- A last name that is more than its data holds, or less. -/
theorem whole_bind_name_of_empty {α : Type} {f : List Bytes → α} (hlen : ∀ l ∈ ls, l.length ≤ 63) (h : [] ∈ ls)
    (hmsg : ls.length ≤ msg.length) : whole (do return f (← name msg)) (nameWire ls) = none := by
  obtain ⟨l₁, l₂, hrun⟩ := run_name_of_empty hlen h hmsg
  cases hl₂ : nameWire l₂ with
  | nil => exact absurd hl₂ (nameWire_ne_nil l₂)
  | cons b t => simp [whole, hrun, hl₂]

def srvWire (priority weight port : Nat) (target : List Bytes) : Bytes :=
  toBE 2 priority ++ (toBE 2 weight ++ (toBE 2 port ++ nameWire target))

theorem rdata_ptr (hlen : ∀ l ∈ ls, l.length ≤ 63) (hne : [] ∉ ls) (hmsg : ls.length ≤ msg.length) (n : Nat) :
    whole (rdata msg 12 n) (nameWire ls) = some (.ptr ls) :=
  (reads_name hlen hne hmsg).map.whole

theorem rdata_ptr_empty (hlen : ∀ l ∈ ls, l.length ≤ 63) (h : [] ∈ ls) (hmsg : ls.length ≤ msg.length) (n : Nat) :
    whole (rdata msg 12 n) (nameWire ls) = none :=
  whole_bind_name_of_empty hlen h hmsg

section

variable {priority weight port : Nat} (hp : priority < 256 ^ 2) (hw : weight < 256 ^ 2) (hport : port < 256 ^ 2)

include hp hw hport

theorem rdata_srv (hlen : ∀ l ∈ ls, l.length ≤ 63) (hne : [] ∉ ls) (hmsg : ls.length ≤ msg.length) (n : Nat) :
    whole (rdata msg 33 n) (srvWire priority weight port ls) = some (.srv priority weight port ls) :=
  ((Reads.be hp).bind ((Reads.be hw).bind ((Reads.be hport).bind (reads_name hlen hne hmsg).map))).whole

theorem rdata_srv_empty (hlen : ∀ l ∈ ls, l.length ≤ 63) (h : [] ∈ ls) (hmsg : ls.length ≤ msg.length) (n : Nat) :
    whole (rdata msg 33 n) (srvWire priority weight port ls) = none := by
  have hname := whole_bind_name_of_empty (f := RData.srv priority weight port) hlen h hmsg
  rw [← hname]
  exact ((Reads.be hp).whole_bind _ _).trans
    (((Reads.be hw).whole_bind _ _).trans ((Reads.be hport).whole_bind _ _))

end

theorem rdata_txt (data : Bytes) : whole (rdata msg 16 data.length) data = some (.txt data) :=
  (Reads.bytes rfl).map.whole

theorem rdata_a (addr : Block 4) (n : Nat) : whole (rdata msg 1 n) addr.val = some (.a addr.val) :=
  (Reads.bytes addr.property).map.whole

/-! ## Records

A record is a header and a part of the input that its length field cuts out. The data is decoded in that part alone
(`within`), so both facts about the whole come from one about the data. -/

section

variable {owner : List Bytes} {type cls ttl : Nat} {data : Bytes} (howner : Reads (name msg) (nameWire owner) owner)
  (htype : type < 256 ^ 2) (hcls : cls < 256 ^ 2) (httl : ttl < 256 ^ 4) (hdata : data.length < 256 ^ 2)

include howner htype hcls httl hdata

/-- A record is read back if its data is. -/
theorem reads_record {r : RData} (h : whole (rdata msg type data.length) data = some r) :
    Reads (record msg) (recordWire owner type cls ttl data) ⟨owner, cls, ttl, r⟩ :=
  howner.bind ((Reads.be htype).bind ((Reads.be hcls).bind ((Reads.be httl).bind ((Reads.be hdata).bind
    (Reads.within h rfl).map))))

/-- A record whose data is not exactly one of its type is refused. -/
theorem fails_record (h : whole (rdata msg type data.length) data = none) :
    Fails (record msg) (recordWire owner type cls ttl data) :=
  howner.bind_fails ((Reads.be htype).bind_fails ((Reads.be hcls).bind_fails ((Reads.be httl).bind_fails
    ((Reads.be hdata).bind_fails (Fails.within h rfl).bind))))

end

/-! ## Messages of answers -/

/-- The header of a message with `ancount` answers and nothing else. -/
def answersHeader (id flags ancount : Nat) : Bytes :=
  toBE 2 id ++ (toBE 2 flags ++ (toBE 2 0 ++ (toBE 2 ancount ++ (toBE 2 0 ++ toBE 2 0))))

/-- **A message of answers only is its records.** -/
theorem decodeMessage_answers {id flags ancount : Nat} (hid : id < 256 ^ 2) (hflags : flags < 256 ^ 2)
    (han : ancount < 256 ^ 2) {body : Bytes} (hmsg : msg = answersHeader id flags ancount ++ body) :
    decodeMessage msg =
      (whole (times ancount (record msg)) body).map fun answers => ⟨id, flags, [], answers, [], []⟩ := by
  have hzero : (0 : Nat) < 256 ^ 2 := by decide
  have hbody : decodeMessage msg = whole (do
      let questions ← times 0 (question msg)
      let answers ← times ancount (record msg)
      let authority ← times 0 (record msg)
      let additional ← times 0 (record msg)
      return (⟨id, flags, questions, answers, authority, additional⟩ : Message)) body := by
    rw [decodeMessage]
    conv => lhs; arg 2; rw [hmsg, answersHeader]
    simp only [List.append_assoc]
    exact ((Reads.be hid).whole_bind _ _).trans (((Reads.be hflags).whole_bind _ _).trans
      (((Reads.be hzero).whole_bind _ _).trans (((Reads.be han).whole_bind _ _).trans
        (((Reads.be hzero).whole_bind _ _).trans ((Reads.be hzero).whole_bind _ _)))))
  rw [hbody, ← whole_map]
  simp only [times, pure_bind]

end Dns

end Lib
