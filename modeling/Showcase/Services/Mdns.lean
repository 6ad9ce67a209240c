import Showcase.Lib.Dns
import Showcase.Lib.CString
import Showcase.OpenSSL

/-!
# `Services.Mdns` — the announcement on the wire

`parse_args`, the `mdns_put_*` functions and `send_unsolicited_mdns_airplay_announcement` of `carplay_services.m`.
The packet is written into a buffer of fixed size; every function refuses to write behind its end, and the length of
a record's data is filled in once the data is written. What the system answers (the host name, the TXT records of
dns_sd, the address) is an input.

* `Emits` — what a function has written when it returns true.
* `announcement_packet` — a packet that is sent is its header and seven records.
* `announcement_ok_iff` — when it decodes to the records that are meant.
-/

namespace Showcase

open Lib

/-! ## Names -/

/-- `snprintf` of a string into `cap` bytes. -/
def snprintf (cap : Nat) (s : Bytes) : Bytes := s.take (cap - 1)

def deviceIdRaw : Bytes := ascii "90B931AC86A0"

/-- `g_instance_name` and `g_raop_name`. -/
structure Names where
  instanceName : Bytes
  raopName : Bytes

/-- The initial values of the names. -/
def Names.initial : Names := ⟨ascii "RoadLink", deviceIdRaw ++ ascii "@RoadLink"⟩

/-- The effect of one `--name`. -/
def Names.ofArg (value : Bytes) : Names :=
  let instanceName := value.take 31
  ⟨instanceName, snprintf 64 (deviceIdRaw ++ ascii "@" ++ instanceName)⟩

/-- `parse_args`, on the arguments behind `argv[0]`. -/
def parseArgs : List Bytes → Names → Names
  | flag :: value :: rest, g =>
      parseArgs rest (if flag = ascii "--name" ∨ flag = ascii "-n" then Names.ofArg value else g)
  | _, g => g

/-- What the name is set to, if it is. -/
theorem parseArgs_eq (argv : List Bytes) (g : Names) :
    parseArgs argv g = g ∨ ∃ value, parseArgs argv g = Names.ofArg value := by
  fun_induction parseArgs argv g with
  | case1 flag value rest g ih =>
      rcases ih with h | h
      · rw [h]
        split
        · exact .inr ⟨value, rfl⟩
        · exact .inl rfl
      · exact .inr h
  | case2 => exact .inl rfl

/-- The names fit their buffers: one is the other behind `90B931AC86A0@`. -/
theorem parseArgs_names (argv : List Bytes) :
    (parseArgs argv .initial).instanceName.length ≤ 31 ∧
      (parseArgs argv .initial).raopName =
        deviceIdRaw ++ ascii "@" ++ (parseArgs argv .initial).instanceName := by
  rcases parseArgs_eq argv .initial with h | ⟨value, h⟩
  · rw [h]
    decide
  · rw [h]
    have hlen : (value.take 31).length ≤ 31 := List.length_take_le 31 value
    refine ⟨hlen, ?_⟩
    have hraop : (deviceIdRaw ++ ascii "@" ++ value.take 31).length ≤ 63 := by
      have hhead : (deviceIdRaw ++ ascii "@").length = 13 := by decide
      rw [List.length_append, hhead]
      omega
    exact List.take_of_length_le hraop

/-! ## Writing into the packet -/

/-- A function that writes behind the bytes written so far: whether it returns true, and the bytes then. `*off` is
their length. -/
abbrev Put := Bytes → Bool × Bytes

/-- `if (!p) return false; q`. -/
def Put.andThen (p q : Put) : Put := fun buf =>
  match p buf with
  | (true, buf) => q buf
  | (false, buf) => (false, buf)

/-- `ok &= p; ok &= q`. -/
def Put.both (p q : Put) : Put := fun buf =>
  let (okP, buf) := p buf
  let (okQ, buf) := q buf
  (okP && okQ, buf)

variable (cap : Nat)

/-- `mdns_put_bytes`. -/
def mdnsPutBytes (data : Bytes) : Put := fun buf =>
  if cap < buf.length + data.length then (false, buf) else (true, buf ++ data)

/-- `mdns_put_u16`. -/
def mdnsPutU16 (v : Nat) : Put := fun buf =>
  if cap < buf.length + 2 then (false, buf) else (true, buf ++ [UInt8.ofNat (v >>> 8), UInt8.ofNat v])

/-- `mdns_put_u32`. -/
def mdnsPutU32 (v : Nat) : Put := fun buf =>
  if cap < buf.length + 4 then (false, buf)
  else
    (true, buf ++ [UInt8.ofNat (v >>> 24), UInt8.ofNat (v >>> 16), UInt8.ofNat (v >>> 8), UInt8.ofNat v])

def dot : UInt8 := 46

/-- The loop of `mdns_put_name`: a label for each part of the name up to a dot. -/
def mdnsPutLabels (name : Bytes) : Put := fun buf =>
  if name = [] then (true, buf)
  else
    match memchr dot name with
    | none =>
        if 63 < name.length ∨ cap < buf.length + 1 + name.length then (false, buf)
        else (true, buf ++ UInt8.ofNat name.length :: name)
    | some len =>
        if 63 < len ∨ cap < buf.length + 1 + len then (false, buf)
        else mdnsPutLabels (name.drop (len + 1)) (buf ++ UInt8.ofNat len :: name.take len)
termination_by name.length
decreasing_by
  have hpos : 0 < name.length := List.length_pos_iff.mpr (by assumption)
  rw [List.length_drop]
  omega

/-- `mdns_put_name`. -/
def mdnsPutName (name : Bytes) : Put :=
  (mdnsPutLabels cap name).andThen fun buf =>
    if cap < buf.length + 1 then (false, buf) else (true, buf ++ [0])

/-- The length field, the data behind it, and the length written into the field. -/
def mdnsPutRdata (data : Put) : Put := fun buf =>
  match mdnsPutU16 cap 0 buf with
  | (false, start) => (false, start)
  | (true, start) =>
      match data start with
      | (false, written) => (false, written)
      | (true, written) =>
          let rdlen := (written.length - start.length) % 65536
          (true, (written.set buf.length (UInt8.ofNat (rdlen >>> 8))).set (buf.length + 1) (UInt8.ofNat rdlen))

/-- `mdns_put_ptr`. -/
def mdnsPutPtr (name target : Bytes) (ttl : Nat) : Put :=
  (mdnsPutName cap name).andThen <| (mdnsPutU16 cap 12).andThen <| (mdnsPutU16 cap 1).andThen <|
    (mdnsPutU32 cap ttl).andThen <| mdnsPutRdata cap (mdnsPutName cap target)

/-- `mdns_put_srv`. -/
def mdnsPutSrv (name target : Bytes) (port ttl : Nat) : Put :=
  (mdnsPutName cap name).andThen <| (mdnsPutU16 cap 33).andThen <| (mdnsPutU16 cap 0x8001).andThen <|
    (mdnsPutU32 cap ttl).andThen <| mdnsPutRdata cap <|
      (mdnsPutU16 cap 0).andThen <| (mdnsPutU16 cap 0).andThen <| (mdnsPutU16 cap port).andThen <|
        mdnsPutName cap target

/-- `mdns_put_txt_bytes`. -/
def mdnsPutTxtBytes (name txt : Bytes) (ttl : Nat) : Put :=
  (mdnsPutName cap name).andThen <| (mdnsPutU16 cap 16).andThen <| (mdnsPutU16 cap 0x8001).andThen <|
    (mdnsPutU32 cap ttl).andThen <| (mdnsPutU16 cap txt.length).andThen <| mdnsPutBytes cap txt

/-- `mdns_put_a`. -/
def mdnsPutA (name : Bytes) (addr : Block 4) (ttl : Nat) : Put :=
  (mdnsPutName cap name).andThen <| (mdnsPutU16 cap 1).andThen <| (mdnsPutU16 cap 0x8001).andThen <|
    (mdnsPutU32 cap ttl).andThen <| (mdnsPutU16 cap 4).andThen <| mdnsPutBytes cap addr.val

/-! ## The announcement -/

/-- What the system answers: `gethostname` (nothing when it fails), the TXT records, the address of the interface and
whether there is a socket. -/
structure MdnsEnv where
  host : Option Bytes
  apTxt : Bytes
  raopTxt : Bytes
  addr : Block 4
  socket : Bool

/-- `host` in `local_mdns_target_name`, up to its first `.local`. -/
def mdnsHost (host : Option Bytes) : Bytes :=
  let name := (host.getD []).take 127
  let name := if name = [] then ascii "Carplay-Receiver" else name
  match strstr (ascii ".local") (name ++ [0]) with
  | .found i => name.take i
  | _ => name

/-- `local_mdns_target_name`. -/
def localMdnsTargetName (host : Option Bytes) : Bytes := snprintf 160 (mdnsHost host ++ ascii ".local")

/-- `pkt` and `ok` in `send_unsolicited_mdns_airplay_announcement`. -/
def buildAnnouncement (g : Names) (env : MdnsEnv) : Bool × Bytes :=
  let airplayInst := snprintf 128 (g.instanceName ++ ascii "._airplay._tcp.local")
  let raopInst := snprintf 160 (g.raopName ++ ascii "._raop._tcp.local")
  let target := localMdnsTargetName env.host
  let header := (mdnsPutU16 1800 0).both <| (mdnsPutU16 1800 0x8400).both <| (mdnsPutU16 1800 0).both <|
    (mdnsPutU16 1800 7).both <| (mdnsPutU16 1800 0).both <| mdnsPutU16 1800 0
  header.both (
    (mdnsPutPtr 1800 (ascii "_airplay._tcp.local") airplayInst 4500).both <|
    (mdnsPutSrv 1800 airplayInst target 7000 120).both <|
    (mdnsPutTxtBytes 1800 airplayInst env.apTxt 4500).both <|
    (mdnsPutPtr 1800 (ascii "_raop._tcp.local") raopInst 4500).both <|
    (mdnsPutSrv 1800 raopInst target 7000 120).both <|
    (mdnsPutTxtBytes 1800 raopInst env.raopTxt 4500).both <|
    mdnsPutA 1800 target env.addr 120) []

/-- `send_unsolicited_mdns_airplay_announcement`: the datagram given to `sendto`, if it comes to that. -/
def sendAnnouncement (g : Names) (env : MdnsEnv) : Option Bytes :=
  match buildAnnouncement g env with
  | (true, pkt) => if env.socket then some pkt else none
  | (false, _) => none

/-- A packet that is sent was built whole, and there was a socket for it. -/
theorem sendAnnouncement_eq_some {g : Names} {env : MdnsEnv} {pkt : Bytes} :
    sendAnnouncement g env = some pkt ↔ buildAnnouncement g env = (true, pkt) ∧ env.socket = true := by
  unfold sendAnnouncement
  rcases buildAnnouncement g env with ⟨ok, buf⟩
  cases ok with
  | false => simp
  | true => simp [and_comm]

/-! ## What has been written

`Emits` says what a function has appended when it returns true. The chain of calls goes on only after a true, so the
packet is the parts in their order. -/

/-- When it returns true, `p` has written `bs` inside the packet, and `P` holds. -/
def Emits (p : Put) (bs : Bytes) (P : Prop) : Prop :=
  ∀ buf buf', p buf = (true, buf') → buf' = buf ++ bs ∧ buf'.length ≤ cap ∧ P

/-- The labels `mdns_put_name` makes of a name. -/
def dnsLabels (name : Bytes) : List Bytes :=
  if name = [] then []
  else
    match memchr dot name with
    | none => [name]
    | some len => name.take len :: dnsLabels (name.drop (len + 1))
termination_by name.length
decreasing_by
  have hpos : 0 < name.length := List.length_pos_iff.mpr (by assumption)
  rw [List.length_drop]
  omega

variable {cap} {p q : Put} {bs cs : Bytes} {P Q : Prop}

theorem Emits.andThen (hp : Emits cap p bs P) (hq : Emits cap q cs Q) :
    Emits cap (p.andThen q) (bs ++ cs) (P ∧ Q) := by
  intro buf buf' h
  rcases hrun : p buf with ⟨ok, buf₁⟩
  cases ok with
  | false => simp [Put.andThen, hrun] at h
  | true =>
      obtain ⟨rfl, -, hP⟩ := hp buf buf₁ hrun
      rw [Put.andThen, hrun] at h
      obtain ⟨rfl, hcap, hQ⟩ := hq _ buf' h
      exact ⟨List.append_assoc _ _ _, hcap, hP, hQ⟩

theorem Emits.both (hp : Emits cap p bs P) (hq : Emits cap q cs Q) :
    Emits cap (p.both q) (bs ++ cs) (P ∧ Q) := by
  intro buf buf' h
  rcases hrunP : p buf with ⟨okP, buf₁⟩
  rcases hrunQ : q buf₁ with ⟨okQ, buf₂⟩
  obtain ⟨⟨rfl, rfl⟩, rfl⟩ : (okP = true ∧ okQ = true) ∧ buf₂ = buf' := by
    simpa [Put.both, hrunP, hrunQ] using h
  obtain ⟨rfl, -, hP⟩ := hp buf buf₁ hrunP
  obtain ⟨rfl, hcap, hQ⟩ := hq _ _ hrunQ
  exact ⟨List.append_assoc _ _ _, hcap, hP, hQ⟩

theorem emits_bytes (data : Bytes) : Emits cap (mdnsPutBytes cap data) data True := by
  intro buf buf' h
  unfold mdnsPutBytes at h
  split at h
  · exact absurd h (by simp)
  · obtain rfl : buf ++ data = buf' := by simpa using h
    exact ⟨rfl, by rw [List.length_append]; omega, trivial⟩

theorem emits_u16 (v : Nat) : Emits cap (mdnsPutU16 cap v) (toBE 2 v) True := by
  intro buf buf' h
  unfold mdnsPutU16 at h
  split at h
  · exact absurd h (by simp)
  · obtain rfl : buf ++ toBE 2 v = buf' := by simpa [toBE, Nat.shiftRight_eq_div_pow] using h
    exact ⟨rfl, by rw [List.length_append, toBE_length]; omega, trivial⟩

theorem emits_u32 (v : Nat) : Emits cap (mdnsPutU32 cap v) (toBE 4 v) True := by
  intro buf buf' h
  unfold mdnsPutU32 at h
  split at h
  · exact absurd h (by simp)
  · obtain rfl : buf ++ toBE 4 v = buf' := by
      simpa [toBE, Nat.shiftRight_eq_div_pow, Nat.div_div_eq_div_mul] using h
    exact ⟨rfl, by rw [List.length_append, toBE_length]; omega, trivial⟩

/-- The loop writes the labels of the name, none of which is longer than 63 bytes. -/
theorem mdnsPutLabels_true {name buf buf' : Bytes} (h : mdnsPutLabels cap name buf = (true, buf')) :
    buf' = buf ++ (dnsLabels name).flatMap Dns.labelWire ∧ ∀ l ∈ dnsLabels name, l.length ≤ 63 := by
  fun_induction mdnsPutLabels cap name buf with
  | case1 buf =>
      obtain rfl : buf = buf' := by simpa using h
      simp [dnsLabels]
  | case2 name buf hne hdot hlong => exact absurd h (by simp)
  | case3 name buf hne hdot hlong =>
      obtain rfl : buf ++ UInt8.ofNat name.length :: name = buf' := by simpa using h
      have hlabels : dnsLabels name = [name] := by rw [dnsLabels, if_neg hne, hdot]
      rw [hlabels]
      refine ⟨by simp [Dns.labelWire], fun l hl => ?_⟩
      rw [List.mem_singleton.mp hl]
      omega
  | case4 name buf hne len hdot hlong => exact absurd h (by simp)
  | case5 name buf hne len hdot hlong ih =>
      have hlabels : dnsLabels name = name.take len :: dnsLabels (name.drop (len + 1)) := by
        rw [dnsLabels, if_neg hne, hdot]
      have htake : (name.take len).length = len := by
        obtain ⟨a, b, rfl, rfl, -⟩ := memchr_eq_some.mp hdot
        rw [List.take_left' rfl]
      obtain ⟨rfl, hshort⟩ := ih h
      rw [hlabels]
      refine ⟨by simp [Dns.labelWire, htake], fun l hl => ?_⟩
      rcases List.mem_cons.mp hl with rfl | hl
      · omega
      · exact hshort l hl

/-- `mdns_put_name` writes the wire form of the labels. -/
theorem emits_name (name : Bytes) :
    Emits cap (mdnsPutName cap name) (Dns.nameWire (dnsLabels name)) (∀ l ∈ dnsLabels name, l.length ≤ 63) := by
  intro buf buf' h
  rcases hrun : mdnsPutLabels cap name buf with ⟨ok, buf₁⟩
  cases ok with
  | false => simp [mdnsPutName, Put.andThen, hrun] at h
  | true =>
      obtain ⟨rfl, hshort⟩ := mdnsPutLabels_true hrun
      rw [mdnsPutName, Put.andThen, hrun] at h
      dsimp only at h
      split at h
      · exact absurd h (by simp)
      · rename_i hroom
        obtain rfl := (Prod.mk.inj h).2
        refine ⟨by rw [Dns.nameWire, List.append_assoc], ?_, hshort⟩
        rw [List.length_append, List.length_singleton]
        omega

/-- Two bytes filled in behind `buf`. -/
theorem set_pair (buf rest : Bytes) (a b x y : UInt8) :
    ((buf ++ a :: b :: rest).set buf.length x).set (buf.length + 1) y = buf ++ x :: y :: rest := by
  induction buf with
  | nil => rfl
  | cons c buf ih =>
      rw [List.cons_append, List.length_cons, List.set_cons_succ, List.set_cons_succ, ih, List.cons_append]

/-- The length filled in is the length of the data. -/
theorem Emits.rdata (hp : Emits cap p bs P) :
    Emits cap (mdnsPutRdata cap p) (toBE 2 bs.length ++ bs) (P ∧ bs.length ≤ cap) := by
  intro buf buf' h
  rcases hstart : mdnsPutU16 cap 0 buf with ⟨ok, start⟩
  cases ok with
  | false => simp [mdnsPutRdata, hstart] at h
  | true =>
      obtain ⟨rfl, -, -⟩ := emits_u16 0 buf start hstart
      rcases hrun : p (buf ++ toBE 2 0) with ⟨ok, written⟩
      cases ok with
      | false => simp [mdnsPutRdata, hstart, hrun] at h
      | true =>
          obtain ⟨rfl, hcap, hP⟩ := hp _ written hrun
          have hfilled :=
            set_pair buf bs 0 0 (UInt8.ofNat ((bs.length % 65536) >>> 8)) (UInt8.ofNat (bs.length % 65536))
          have hhigh : UInt8.ofNat ((bs.length % 65536) >>> 8) = UInt8.ofNat (bs.length / 256) := by
            apply UInt8.toNat_inj.mp
            rw [UInt8.toNat_ofNat', UInt8.toNat_ofNat', Nat.shiftRight_eq_div_pow]
            omega
          have hlow : UInt8.ofNat (bs.length % 65536) = UInt8.ofNat bs.length := by
            apply UInt8.toNat_inj.mp
            rw [UInt8.toNat_ofNat', UInt8.toNat_ofNat']
            omega
          have hlen : (buf ++ toBE 2 0 ++ bs).length - (buf ++ toBE 2 0).length = bs.length := by
            rw [List.length_append, Nat.add_sub_cancel_left]
          have hbuf' : buf' = buf ++ (toBE 2 bs.length ++ bs) := by
            simp only [mdnsPutRdata, hstart, hrun, hlen, Prod.mk.injEq, true_and] at h
            have hzeros : buf ++ toBE 2 0 ++ bs = buf ++ 0 :: 0 :: bs := by
              rw [List.append_assoc]
              rfl
            rw [← h, hzeros, hfilled, hhigh, hlow]
            rfl
          have hsame : buf'.length = (buf ++ toBE 2 0 ++ bs).length := by
            rw [hbuf', ← List.append_assoc, List.length_append, @List.length_append _ (buf ++ toBE 2 0)]
            simp
          rw [List.length_append] at hcap
          exact ⟨hbuf', by rw [hsame, List.length_append]; exact hcap, hP, by omega⟩

theorem Emits.mono (hp : Emits cap p bs P) (himp : P → Q) : Emits cap p bs Q := by
  intro buf buf' h
  obtain ⟨hbuf', hcap, hP⟩ := hp buf buf' h
  exact ⟨hbuf', hcap, himp hP⟩

/-- No label of the name is longer than a label can be. -/
def ShortLabels (name : Bytes) : Prop := ∀ l ∈ dnsLabels name, l.length ≤ 63

theorem emits_ptr (name target : Bytes) (ttl : Nat) :
    Emits cap (mdnsPutPtr cap name target ttl)
      (Dns.recordWire (dnsLabels name) 12 1 ttl (Dns.nameWire (dnsLabels target)))
      (ShortLabels name ∧ ShortLabels target ∧ (Dns.nameWire (dnsLabels target)).length ≤ cap) := by
  refine ((emits_name name).andThen ((emits_u16 12).andThen ((emits_u16 1).andThen ((emits_u32 ttl).andThen
    (emits_name target).rdata)))).mono ?_
  rintro ⟨hname, -, -, -, htarget, hlen⟩
  exact ⟨hname, htarget, hlen⟩

theorem emits_srv (name target : Bytes) (port ttl : Nat) :
    Emits cap (mdnsPutSrv cap name target port ttl)
      (Dns.recordWire (dnsLabels name) 33 0x8001 ttl (Dns.srvWire 0 0 port (dnsLabels target)))
      (ShortLabels name ∧ ShortLabels target ∧ (Dns.srvWire 0 0 port (dnsLabels target)).length ≤ cap) := by
  refine ((emits_name name).andThen ((emits_u16 33).andThen ((emits_u16 0x8001).andThen ((emits_u32 ttl).andThen
    ((emits_u16 0).andThen ((emits_u16 0).andThen ((emits_u16 port).andThen
      (emits_name target)))).rdata)))).mono ?_
  rintro ⟨hname, -, -, -, ⟨-, -, -, htarget⟩, hlen⟩
  exact ⟨hname, htarget, hlen⟩

theorem emits_txt (name txt : Bytes) (ttl : Nat) :
    Emits cap (mdnsPutTxtBytes cap name txt ttl) (Dns.recordWire (dnsLabels name) 16 0x8001 ttl txt)
      (ShortLabels name) := by
  refine ((emits_name name).andThen ((emits_u16 16).andThen ((emits_u16 0x8001).andThen ((emits_u32 ttl).andThen
    ((emits_u16 txt.length).andThen (emits_bytes txt)))))).mono ?_
  rintro ⟨hname, -⟩
  exact hname

theorem emits_a (name : Bytes) (addr : Block 4) (ttl : Nat) :
    Emits cap (mdnsPutA cap name addr ttl) (Dns.recordWire (dnsLabels name) 1 0x8001 ttl addr.val)
      (ShortLabels name) := by
  rw [Dns.recordWire, addr.property]
  refine ((emits_name name).andThen ((emits_u16 1).andThen ((emits_u16 0x8001).andThen ((emits_u32 ttl).andThen
    ((emits_u16 4).andThen (emits_bytes addr.val)))))).mono ?_
  rintro ⟨hname, -⟩
  exact hname

/-! ## The labels of the names -/

theorem dnsLabels_dot {a s : Bytes} (ha : dot ∉ a) : dnsLabels (a ++ dot :: s) = a :: dnsLabels s := by
  have hdrop : (a ++ dot :: s).drop (a.length + 1) = s := by
    rw [List.drop_append]
    simp
  rw [dnsLabels, if_neg (by simp), memchr_append ha]
  dsimp only
  rw [List.take_left' rfl, hdrop]

theorem dnsLabels_single {a : Bytes} (ha : dot ∉ a) (hne : a ≠ []) : dnsLabels a = [a] := by
  rw [dnsLabels, if_neg hne, memchr_eq_none.mpr ha]

/-- What is in front of a dot is divided at its dots. -/
theorem dnsLabels_append (a s : Bytes) : dnsLabels (a ++ dot :: s) = a.splitOn dot ++ dnsLabels s := by
  induction hn : a.length using Nat.strongRecOn generalizing a with
  | ind n ih =>
      by_cases hdot : dot ∈ a
      · obtain ⟨a₁, a₂, rfl, hno⟩ := List.eq_append_cons_of_mem hdot
        have hlt : a₂.length < n := by
          rw [← hn, List.length_append, List.length_cons]
          omega
        rw [List.append_assoc, List.cons_append, dnsLabels_dot hno, ih a₂.length hlt a₂ rfl,
          List.splitOn_append_cons_self, List.splitOn_eq_singleton hno]
        rfl
      · rw [dnsLabels_dot hdot, List.splitOn_eq_singleton hdot]
        rfl

/-- The labels of `_airplay._tcp.local`. -/
def airplayService : List Bytes := [ascii "_airplay", ascii "_tcp", ascii "local"]

/-- The labels of `_raop._tcp.local`. -/
def raopService : List Bytes := [ascii "_raop", ascii "_tcp", ascii "local"]

theorem dnsLabels_local : dnsLabels (ascii "local") = [ascii "local"] := dnsLabels_single (by decide) (by decide)

theorem dnsLabels_tcp : dnsLabels (ascii "_tcp.local") = [ascii "_tcp", ascii "local"] := by
  have h := dnsLabels_dot (a := ascii "_tcp") (s := ascii "local") (by decide)
  rwa [dnsLabels_local] at h

theorem dnsLabels_airplay : dnsLabels (ascii "_airplay._tcp.local") = airplayService := by
  have h := dnsLabels_dot (a := ascii "_airplay") (s := ascii "_tcp.local") (by decide)
  rwa [dnsLabels_tcp] at h

theorem dnsLabels_raop : dnsLabels (ascii "_raop._tcp.local") = raopService := by
  have h := dnsLabels_dot (a := ascii "_raop") (s := ascii "_tcp.local") (by decide)
  rwa [dnsLabels_tcp] at h

/-! ## The packet -/

/-- The seven records as they are written, for the labels of the two instances and of the host. -/
def announcedWires (air raop target : List Bytes) (env : MdnsEnv) : List Bytes :=
  [Dns.recordWire airplayService 12 1 4500 (Dns.nameWire air),
    Dns.recordWire air 33 0x8001 120 (Dns.srvWire 0 0 7000 target),
    Dns.recordWire air 16 0x8001 4500 env.apTxt,
    Dns.recordWire raopService 12 1 4500 (Dns.nameWire raop),
    Dns.recordWire raop 33 0x8001 120 (Dns.srvWire 0 0 7000 target),
    Dns.recordWire raop 16 0x8001 4500 env.raopTxt,
    Dns.recordWire target 1 0x8001 120 env.addr.val]

/-- The seven records they are meant to be. -/
def announcedRecords (air raop target : List Bytes) (env : MdnsEnv) : List Dns.Record :=
  [⟨airplayService, 1, 4500, .ptr air⟩, ⟨air, 0x8001, 120, .srv 0 0 7000 target⟩,
    ⟨air, 0x8001, 4500, .txt env.apTxt⟩, ⟨raopService, 1, 4500, .ptr raop⟩,
    ⟨raop, 0x8001, 120, .srv 0 0 7000 target⟩, ⟨raop, 0x8001, 4500, .txt env.raopTxt⟩,
    ⟨target, 0x8001, 120, .a env.addr.val⟩]

/-- The announcement that is meant: no questions, the seven answers, each instance one label in front of its service,
and the records' target the owner of the address. -/
def announcement (name raopName : Bytes) (host : List Bytes) (env : MdnsEnv) : Dns.Message where
  id := 0
  flags := 0x8400
  questions := []
  answers := announcedRecords (name :: airplayService) (raopName :: raopService) host env
  authority := []
  additional := []

/-- The labels of `airplay_inst`. -/
def airplayLabels (g : Names) : List Bytes := g.instanceName.splitOn dot ++ airplayService

/-- The labels of `raop_inst`. -/
def raopLabels (g : Names) : List Bytes := g.raopName.splitOn dot ++ raopService

/-- The labels of `target`. -/
def targetLabels (env : MdnsEnv) : List Bytes := (mdnsHost env.host).splitOn dot ++ [ascii "local"]

/-- What is known of the labels in a packet that is sent. -/
structure Sendable (air raop target : List Bytes) (env : MdnsEnv) : Prop where
  airShort : ∀ l ∈ air, l.length ≤ 63
  raopShort : ∀ l ∈ raop, l.length ≤ 63
  targetShort : ∀ l ∈ target, l.length ≤ 63
  airLen : (Dns.nameWire air).length < 256 ^ 2
  raopLen : (Dns.nameWire raop).length < 256 ^ 2
  targetLen : (Dns.srvWire 0 0 7000 target).length < 256 ^ 2
  apTxtLen : env.apTxt.length < 256 ^ 2
  raopTxtLen : env.raopTxt.length < 256 ^ 2

theorem mdnsHost_length (host : Option Bytes) : (mdnsHost host).length ≤ 127 := by
  have hname : ∀ name : Bytes, name.length ≤ 127 →
      (if name = [] then ascii "Carplay-Receiver" else name).length ≤ 127 := by
    intro name hlen
    split
    · decide
    · exact hlen
  have htake := hname ((host.getD []).take 127) (List.length_take_le 127 _)
  rw [mdnsHost]
  split
  · exact (List.length_take_le' _ _).trans htake
  · exact htake

theorem targetLabels_eq (env : MdnsEnv) : dnsLabels (localMdnsTargetName env.host) = targetLabels env := by
  have hlen := mdnsHost_length env.host
  have hfit : (mdnsHost env.host ++ ascii ".local").length ≤ 159 := by
    have hlocal : (ascii ".local").length = 6 := by decide
    rw [List.length_append, hlocal]
    omega
  rw [localMdnsTargetName, snprintf, List.take_of_length_le hfit,
    show ascii ".local" = dot :: ascii "local" from rfl, dnsLabels_append, dnsLabels_local, targetLabels]

theorem airplayLabels_eq {g : Names} (h : g.instanceName.length ≤ 31) :
    dnsLabels (snprintf 128 (g.instanceName ++ ascii "._airplay._tcp.local")) = airplayLabels g := by
  have hfit : (g.instanceName ++ ascii "._airplay._tcp.local").length ≤ 127 := by
    have hservice : (ascii "._airplay._tcp.local").length = 20 := by decide
    rw [List.length_append, hservice]
    omega
  rw [snprintf, List.take_of_length_le hfit,
    show ascii "._airplay._tcp.local" = dot :: ascii "_airplay._tcp.local" from rfl, dnsLabels_append,
    dnsLabels_airplay, airplayLabels]

theorem raopLabels_eq {g : Names} (h : g.raopName.length ≤ 44) :
    dnsLabels (snprintf 160 (g.raopName ++ ascii "._raop._tcp.local")) = raopLabels g := by
  have hfit : (g.raopName ++ ascii "._raop._tcp.local").length ≤ 159 := by
    have hservice : (ascii "._raop._tcp.local").length = 17 := by decide
    rw [List.length_append, hservice]
    omega
  rw [snprintf, List.take_of_length_le hfit,
    show ascii "._raop._tcp.local" = dot :: ascii "_raop._tcp.local" from rfl, dnsLabels_append,
    dnsLabels_raop, raopLabels]

/-- **A packet that is sent is its header and the seven records.** -/
theorem announcement_packet {argv : List Bytes} {env : MdnsEnv} {pkt : Bytes}
    (h : sendAnnouncement (parseArgs argv .initial) env = some pkt) :
    pkt = Dns.answersHeader 0 0x8400 7 ++
        (announcedWires (airplayLabels (parseArgs argv .initial)) (raopLabels (parseArgs argv .initial))
          (targetLabels env) env).flatten ∧
      Sendable (airplayLabels (parseArgs argv .initial)) (raopLabels (parseArgs argv .initial))
        (targetLabels env) env := by
  obtain ⟨hname, hraop⟩ := parseArgs_names argv
  generalize parseArgs argv .initial = g at *
  have hraopLen : g.raopName.length ≤ 44 := by
    have hhead : (deviceIdRaw ++ ascii "@").length = 13 := by decide
    rw [hraop, List.length_append, hhead]
    omega
  have hbuild := (sendAnnouncement_eq_some.mp h).1
  have hemits := ((@emits_u16 1800 0).both ((emits_u16 0x8400).both ((emits_u16 0).both
      ((emits_u16 7).both ((emits_u16 0).both (emits_u16 0)))))).both
    ((emits_ptr (ascii "_airplay._tcp.local")
        (snprintf 128 (g.instanceName ++ ascii "._airplay._tcp.local")) 4500).both
      ((emits_srv (snprintf 128 (g.instanceName ++ ascii "._airplay._tcp.local"))
          (localMdnsTargetName env.host) 7000 120).both
        ((emits_txt (snprintf 128 (g.instanceName ++ ascii "._airplay._tcp.local")) env.apTxt 4500).both
          ((emits_ptr (ascii "_raop._tcp.local")
              (snprintf 160 (g.raopName ++ ascii "._raop._tcp.local")) 4500).both
            ((emits_srv (snprintf 160 (g.raopName ++ ascii "._raop._tcp.local"))
                (localMdnsTargetName env.host) 7000 120).both
              ((emits_txt (snprintf 160 (g.raopName ++ ascii "._raop._tcp.local")) env.raopTxt 4500).both
                (emits_a (localMdnsTargetName env.host) env.addr 120)))))))
  obtain ⟨hbuf, hcap, -, ⟨-, hair, hairLen⟩, ⟨-, htarget, htargetLen⟩, -, ⟨-, hraop', hraopWireLen⟩, -⟩ :=
    hemits [] pkt hbuild
  rw [ShortLabels] at hair htarget hraop'
  rw [airplayLabels_eq hname] at hbuf hair hairLen
  rw [raopLabels_eq hraopLen] at hbuf hraop' hraopWireLen
  rw [targetLabels_eq] at hbuf htarget htargetLen
  rw [dnsLabels_airplay, dnsLabels_raop] at hbuf
  have hpkt : pkt = Dns.answersHeader 0 0x8400 7 ++
      (announcedWires (airplayLabels g) (raopLabels g) (targetLabels env) env).flatten := by
    rw [hbuf]
    simp only [announcedWires, List.flatten_cons, List.flatten_nil, List.append_nil, List.nil_append]
    rfl
  have htxt : env.apTxt.length ≤ 1800 ∧ env.raopTxt.length ≤ 1800 := by
    rw [hpkt] at hcap
    simp only [announcedWires, List.flatten_cons, Dns.recordWire, List.length_append] at hcap
    omega
  exact ⟨hpkt, hair, hraop', htarget, by omega, by omega, by omega, by omega, by omega⟩

/-! ## What it decodes to

Every record is read back where its labels are not empty. An empty label ends a name too early, and then the length of
the data is not that of the name in it, which the decoder refuses. -/

section

variable {air raop target : List Bytes} {env : MdnsEnv} {pkt : Bytes}

/-- Every name in the packet has fewer labels than the packet has bytes. -/
theorem labels_le_packet (hpkt : pkt = Dns.answersHeader 0 0x8400 7 ++ (announcedWires air raop target env).flatten) :
    3 ≤ pkt.length ∧ air.length ≤ pkt.length ∧ raop.length ≤ pkt.length ∧ target.length ≤ pkt.length := by
  have hair := Dns.length_lt_nameWire air
  have hraop := Dns.length_lt_nameWire raop
  have htarget := Dns.length_lt_nameWire target
  have hlen : pkt.length =
      (Dns.answersHeader 0 0x8400 7).length + (announcedWires air raop target env).flatten.length := by
    rw [hpkt, List.length_append]
  simp only [announcedWires, List.flatten_cons, Dns.recordWire, Dns.answersHeader, List.length_append, toBE_length]
    at hlen
  omega

theorem reads_service {ls : List Bytes} (h : ls = airplayService ∨ ls = raopService) (hmsg : 3 ≤ pkt.length) :
    Decoder.Reads (Dns.name pkt) (Dns.nameWire ls) ls := by
  rcases h with rfl | rfl
  · exact Dns.reads_name (by decide) (by decide) hmsg
  · exact Dns.reads_name (by decide) (by decide) hmsg

variable (hpkt : pkt = Dns.answersHeader 0 0x8400 7 ++ (announcedWires air raop target env).flatten)
  (hs : Sendable air raop target env)

include hpkt hs

theorem reads_airplay_ptr (hair : [] ∉ air) :
    Decoder.Reads (Dns.record pkt) (Dns.recordWire airplayService 12 1 4500 (Dns.nameWire air))
      ⟨airplayService, 1, 4500, .ptr air⟩ := by
  obtain ⟨hthree, hairLen, -, -⟩ := labels_le_packet hpkt
  exact Dns.reads_record (reads_service (.inl rfl) hthree) (by decide) (by decide) (by decide) hs.airLen
    (Dns.rdata_ptr hs.airShort hair hairLen _)

/-- Without an empty label every record is read back. -/
theorem reads_announced (hair : [] ∉ air) (hraop : [] ∉ raop) (htarget : [] ∉ target) :
    List.Forall₂ (Decoder.Reads (Dns.record pkt)) (announcedWires air raop target env)
      (announcedRecords air raop target env) := by
  obtain ⟨hthree, hairLen, hraopLen, htargetLen⟩ := labels_le_packet hpkt
  have hreadAir := Dns.reads_name hs.airShort hair hairLen
  have hreadRaop := Dns.reads_name hs.raopShort hraop hraopLen
  have hreadTarget := Dns.reads_name hs.targetShort htarget htargetLen
  have hzero : (0 : Nat) < 256 ^ 2 := by decide
  have hport : (7000 : Nat) < 256 ^ 2 := by decide
  refine .cons (reads_airplay_ptr hpkt hs hair) <| .cons ?_ <| .cons ?_ <| .cons ?_ <| .cons ?_ <| .cons ?_ <|
    .cons ?_ .nil
  · exact Dns.reads_record hreadAir (by decide) (by decide) (by decide) hs.targetLen
      (Dns.rdata_srv hzero hzero hport hs.targetShort htarget htargetLen _)
  · exact Dns.reads_record hreadAir (by decide) (by decide) (by decide) hs.apTxtLen (Dns.rdata_txt _)
  · exact Dns.reads_record (reads_service (.inr rfl) hthree) (by decide) (by decide) (by decide) hs.raopLen
      (Dns.rdata_ptr hs.raopShort hraop hraopLen _)
  · exact Dns.reads_record hreadRaop (by decide) (by decide) (by decide) hs.targetLen
      (Dns.rdata_srv hzero hzero hport hs.targetShort htarget htargetLen _)
  · exact Dns.reads_record hreadRaop (by decide) (by decide) (by decide) hs.raopTxtLen (Dns.rdata_txt _)
  · exact Dns.reads_record hreadTarget (by decide) (by decide) (by decide)
      (by rw [env.addr.property]; decide) (Dns.rdata_a env.addr _)

/-- An empty label in the name of an instance: the data of the first record is longer than the name in it. -/
theorem fails_airplay_ptr (hair : [] ∈ air) :
    Decoder.Fails (Decoder.times 7 (Dns.record pkt)) (announcedWires air raop target env).flatten := by
  obtain ⟨hthree, hairLen, -, -⟩ := labels_le_packet hpkt
  have hfirst := Dns.fails_record (reads_service (.inl rfl) hthree) (show 12 < 256 ^ 2 by decide)
    (show 1 < 256 ^ 2 by decide) (show 4500 < 256 ^ 4 by decide) hs.airLen
    (Dns.rdata_ptr_empty hs.airShort hair hairLen _)
  exact (Decoder.Fails.times .nil hfirst (by decide)).append _

/-- An empty label in the name of the host: the data of the second record is longer than the name in it. -/
theorem fails_airplay_srv (hair : [] ∉ air) (htarget : [] ∈ target) :
    Decoder.Fails (Decoder.times 7 (Dns.record pkt)) (announcedWires air raop target env).flatten := by
  obtain ⟨-, hairLen, -, htargetLen⟩ := labels_le_packet hpkt
  have hzero : (0 : Nat) < 256 ^ 2 := by decide
  have hsecond := Dns.fails_record (Dns.reads_name hs.airShort hair hairLen) (show 33 < 256 ^ 2 by decide)
    (show 0x8001 < 256 ^ 2 by decide) (show 120 < 256 ^ 4 by decide) hs.targetLen
    (Dns.rdata_srv_empty hzero hzero (by decide) hs.targetShort htarget htargetLen _)
  have hboth := Decoder.Fails.times (.cons (reads_airplay_ptr hpkt hs hair) .nil) hsecond (n := 7) (by simp)
  have happend := hboth.append (announcedWires air raop target env |>.drop 2).flatten
  simpa only [announcedWires, List.flatten_cons, List.flatten_nil, List.append_assoc, List.append_nil,
    List.drop_succ_cons, List.drop_zero] using happend

end

/-- The message, given what is read behind the header. -/
theorem decode_announced {air raop target : List Bytes} {env : MdnsEnv} {pkt : Bytes}
    (hpkt : pkt = Dns.answersHeader 0 0x8400 7 ++ (announcedWires air raop target env).flatten) :
    Dns.decodeMessage pkt =
      (Decoder.whole (Decoder.times 7 (Dns.record pkt)) (announcedWires air raop target env).flatten).map
        fun answers => ⟨0, 0x8400, [], answers, [], []⟩ :=
  Dns.decodeMessage_answers (by decide) (by decide) (by decide) hpkt

/-- A name that is its own only part has no dot. -/
theorem splitOn_eq_self_iff {a : Bytes} : a.splitOn dot = [a] ↔ dot ∉ a := by
  constructor
  · intro h hdot
    obtain ⟨a₁, a₂, rfl⟩ := List.append_of_mem hdot
    rw [List.splitOn_append_cons_self] at h
    have hlen := congrArg List.length h
    have h₁ := List.length_pos_iff.mpr (List.splitOn_ne_nil dot a₁)
    have h₂ := List.length_pos_iff.mpr (List.splitOn_ne_nil dot a₂)
    rw [List.length_append, List.length_singleton] at hlen
    omega
  · exact List.splitOn_eq_singleton

/-- The name of the host has no empty part between its dots. -/
def HostOk (host : Option Bytes) : Prop := [] ∉ (mdnsHost host).splitOn dot

/-- A packet that decodes to the announcement that is meant has a name without a dot, and a host name without an
empty part: an empty label ends a name too early, and a dot divides it. -/
theorem announced_undotted {argv : List Bytes} {env : MdnsEnv} {pkt : Bytes} {host : List Bytes}
    (h : sendAnnouncement (parseArgs argv .initial) env = some pkt)
    (hmsg : Dns.decodeMessage pkt = some (announcement (parseArgs argv .initial).instanceName
      (deviceIdRaw ++ ascii "@" ++ (parseArgs argv .initial).instanceName) host env)) :
    dot ∉ (parseArgs argv .initial).instanceName ∧ HostOk env.host := by
  obtain ⟨hpkt, hs⟩ := announcement_packet h
  have hdecode := decode_announced hpkt
  generalize parseArgs argv .initial = g at *
  rw [hdecode, Option.map_eq_some_iff] at hmsg
  obtain ⟨answers, hwhole, hanswers⟩ := hmsg
  have hrecords : answers = announcedRecords (g.instanceName :: airplayService)
      ((deviceIdRaw ++ ascii "@" ++ g.instanceName) :: raopService) host env :=
    congrArg Dns.Message.answers hanswers
  have hnone : ∀ {bs : Bytes}, Decoder.Fails (Decoder.times 7 (Dns.record pkt)) bs →
      bs = (announcedWires (airplayLabels g) (raopLabels g) (targetLabels env) env).flatten → False := by
    intro bs hfails hbs
    have hempty := hfails.whole []
    rw [List.append_nil, hbs, hwhole] at hempty
    exact absurd hempty (by simp)
  have hair : [] ∉ airplayLabels g := fun hmem => hnone (fails_airplay_ptr hpkt hs hmem) rfl
  have htarget : [] ∉ targetLabels env := fun hmem => hnone (fails_airplay_srv hpkt hs hair hmem) rfl
  have hhead := (reads_airplay_ptr hpkt hs hair).head_times (Decoder.whole_eq_some.mp hwhole)
  rw [hrecords, announcedRecords, List.head?_cons] at hhead
  have hlabels : g.instanceName :: airplayService = airplayLabels g := by
    simpa using hhead
  have hsplit : g.instanceName.splitOn dot = [g.instanceName] := by
    rw [airplayLabels, ← List.singleton_append] at hlabels
    exact (List.append_cancel_right hlabels).symm
  exact ⟨splitOn_eq_self_iff.mp hsplit, fun hmem => htarget (List.mem_append_left _ hmem)⟩

/-- **A packet that is sent decodes to the announcement that is meant exactly when the instance name contains no dot
and the host name has no empty part.** -/
theorem announcement_ok_iff {argv : List Bytes} {env : MdnsEnv} {pkt : Bytes}
    (hne : (parseArgs argv .initial).instanceName ≠ [])
    (h : sendAnnouncement (parseArgs argv .initial) env = some pkt) :
    (∃ host, Dns.decodeMessage pkt = some (announcement (parseArgs argv .initial).instanceName
        (deviceIdRaw ++ ascii "@" ++ (parseArgs argv .initial).instanceName) host env)) ↔
      dot ∉ (parseArgs argv .initial).instanceName ∧ HostOk env.host := by
  constructor
  · rintro ⟨host, hmsg⟩
    exact announced_undotted h hmsg
  · rintro ⟨hdot, hhost⟩
    obtain ⟨hpkt, hs⟩ := announcement_packet h
    have hraopName := (parseArgs_names argv).2
    have hdecode := decode_announced hpkt
    have hserviceNe : [] ∉ airplayService ∧ [] ∉ raopService := by decide
    generalize parseArgs argv .initial = g at *
    have hraopDot : dot ∉ g.raopName := by
      rw [hraopName, List.mem_append, not_or]
      exact ⟨by decide, hdot⟩
    have hairEq : airplayLabels g = g.instanceName :: airplayService := by
      rw [airplayLabels, splitOn_eq_self_iff.mpr hdot, List.singleton_append]
    have hraopEq : raopLabels g = (deviceIdRaw ++ ascii "@" ++ g.instanceName) :: raopService := by
      rw [raopLabels, splitOn_eq_self_iff.mpr hraopDot, List.singleton_append, hraopName]
    have hair : [] ∉ airplayLabels g := by
      rw [hairEq, List.mem_cons, not_or]
      exact ⟨Ne.symm hne, hserviceNe.1⟩
    have hraop : [] ∉ raopLabels g := by
      rw [hraopEq, List.mem_cons, not_or]
      exact ⟨by simp [deviceIdRaw, ascii], hserviceNe.2⟩
    have htarget : [] ∉ targetLabels env := by
      rw [targetLabels, List.mem_append, not_or]
      exact ⟨hhost, by decide⟩
    have hwhole : Decoder.whole (Decoder.times 7 (Dns.record pkt))
        (announcedWires (airplayLabels g) (raopLabels g) (targetLabels env) env).flatten =
          some (announcedRecords (airplayLabels g) (raopLabels g) (targetLabels env) env) :=
      (Decoder.Reads.times (reads_announced hpkt hs hair hraop htarget)).whole
    refine ⟨targetLabels env, ?_⟩
    rw [hdecode, hwhole, hairEq, hraopEq]
    rfl

/-- A host called `ipad`, short TXT records and the address of the hotspot. -/
def MdnsEnv.sample : MdnsEnv :=
  ⟨some (ascii "ipad.local"), [3, 97, 61, 49], [3, 98, 61, 50], ⟨[172, 20, 10, 1], rfl⟩, true⟩

/-- The default name is announced as it is meant to be. -/
theorem announcement_default :
    ∃ pkt, sendAnnouncement (parseArgs [] .initial) .sample = some pkt ∧
      ((∃ host, Dns.decodeMessage pkt = some (announcement (parseArgs [] .initial).instanceName
          (deviceIdRaw ++ ascii "@" ++ (parseArgs [] .initial).instanceName) host .sample)) ↔
        dot ∉ (parseArgs [] .initial).instanceName ∧ HostOk MdnsEnv.sample.host) := by
  have hbuilt : (buildAnnouncement (parseArgs [] .initial) .sample).1 = true := by decide +kernel
  have hsent := sendAnnouncement_eq_some.mpr ⟨Prod.ext hbuilt rfl, rfl⟩
  exact ⟨_, hsent, announcement_ok_iff (by decide) hsent⟩

/-- A car called `A.B` is announced as an instance `A` of something else. -/
theorem announcement_dotted :
    ∃ pkt, sendAnnouncement (parseArgs [ascii "--name", ascii "A.B"] .initial) .sample = some pkt ∧
      ¬ ∃ host, Dns.decodeMessage pkt =
        some (announcement (ascii "A.B") (deviceIdRaw ++ ascii "@" ++ ascii "A.B") host .sample) := by
  have hbuilt : (buildAnnouncement (parseArgs [ascii "--name", ascii "A.B"] .initial) .sample).1 = true := by
    decide +kernel
  have hsent := sendAnnouncement_eq_some.mpr ⟨Prod.ext hbuilt rfl, rfl⟩
  refine ⟨_, hsent, ?_⟩
  rintro ⟨host, hdecode⟩
  have hname : (parseArgs [ascii "--name", ascii "A.B"] .initial).instanceName = ascii "A.B" := by decide
  rw [← hname] at hdecode
  have hdot := (announced_undotted hsent hdecode).1
  rw [hname] at hdot
  exact absurd hdot (by decide)

end Showcase
