import Showcase.Services.ClientRequest

/-!
# `Services.Headers` — the headers of a request in `HTTPReq`

Which header ends up in which field of `HTTPReq`. The header loop of `parse_http` compares the length of the name and
then its letters; for `X-Apple-HKP`, which has 11, it asks for a name of 12 bytes.

* `applyHeader_step` — what one header line does to the fields.
* `headersExtracted_iff` — exactly for which requests every field holds the value of its header.
-/

namespace Showcase

open Lib

/-! ## The fields of a request -/

/-- A header value without the spaces in front of it. -/
def trimmed (value : Bytes) : Bytes := value.dropWhile (· == 32)

/-- The values of the headers whose name passes a test. -/
def valuesOf (test : Bytes → Bool) (hs : List (Bytes × Bytes)) : List Bytes := (hs.filter (test ·.1)).map (·.2)

/-- The values of the headers with a name, in any letter case. -/
def ClientRequest.named (q : ClientRequest) (name : Bytes) : List Bytes := valuesOf (strncaseeq · name) q.headers

/-- A field for text: empty when there is no such header, and its value when there is one and it is shorter than the
    field. -/
structure TextField (size : Nat) (values : List Bytes) (field : Bytes) : Prop where
  absent : values = [] → field = []
  value : ∀ v, values = [v] → (trimmed v).length < size → field = trimmed v

/-- A field for a number below `bound`. -/
structure NumberField (bound : Nat) (values : List Bytes) (field : Int) : Prop where
  absent : values = [] → field = 0
  value : ∀ v n, values = [v] → IsNumber v n → n < bound → field = n

/-- **Every field holds the value of its header.** -/
structure HeaderFields (q : ClientRequest) (r : HTTPReq) : Prop where
  contentLength : NumberField (2 ^ 64) (q.named (ascii "Content-Length")) r.contentLength
  contentType : TextField 128 (q.named (ascii "Content-Type")) r.contentType
  xAppleHKP : TextField 32 (q.named (ascii "X-Apple-HKP")) r.xAppleHKP
  xApplePD : TextField 16 (q.named (ascii "X-Apple-PD")) r.xApplePD
  xAppleAT : TextField 16 (q.named (ascii "X-Apple-AT")) r.xAppleAT
  cseq : NumberField (2 ^ 31) (q.named (ascii "CSeq")) r.cseq

/-- `parse_http` recognises the request and fills the fields, whatever lies behind it. -/
def HeadersExtracted (q : ClientRequest) : Prop :=
  ∀ t len, q.wire.length ≤ len →
    ∃ p, parseHttp (q.wire ++ t) len = some p ∧ p.ret = true ∧ HeaderFields q p.req

/-! ## One header line -/

/-- The test for `X-Apple-HKP` in the source: 12 bytes, of which 11 are compared. -/
def hkpTest (name : Bytes) : Bool := name.length == 12 && strncaseeq (name.take 11) (ascii "X-Apple-HKP")

/-- `atoi(val)`, up to the end of the line. -/
def intOf (value : Bytes) : Int := ((atoi (trimmed value ++ crlf)).map Prod.fst).getD 0

/-- What a header line does to the fields. -/
structure HeaderStep (h : Bytes × Bytes) (r r' : HTTPReq) : Prop where
  contentType : r'.contentType =
    if strncaseeq h.1 (ascii "Content-Type") then copyField 128 r.contentType (trimmed h.2) else r.contentType
  xAppleHKP : r'.xAppleHKP = if hkpTest h.1 then copyField 32 r.xAppleHKP (trimmed h.2) else r.xAppleHKP
  xApplePD : r'.xApplePD =
    if strncaseeq h.1 (ascii "X-Apple-PD") then copyField 16 r.xApplePD (trimmed h.2) else r.xApplePD
  xAppleAT : r'.xAppleAT =
    if strncaseeq h.1 (ascii "X-Apple-AT") then copyField 16 r.xAppleAT (trimmed h.2) else r.xAppleAT
  cseq : r'.cseq = if strncaseeq h.1 (ascii "CSeq") then intOf h.2 else r.cseq

section Line

variable {name a : Bytes} {h : Bytes × Bytes} {n : Nat} {r : HTTPReq}

/-- A name is not two names. -/
theorem strncaseeq_apart (ha : strncaseeq name a = true) (b : Bytes) (hab : a.map tolower ≠ b.map tolower) :
    strncaseeq name b = false := by
  rw [strncaseeq, beq_eq_false_iff_ne]
  intro hb
  exact hab ((eq_of_beq ha).symm.trans hb)

/-- A name of another length is none of 12 bytes. -/
theorem hkpTest_apart (ha : strncaseeq name a = true) (hlen : a.length ≠ 12) : hkpTest name = false := by
  rw [hkpTest, Bool.and_eq_false_iff]
  refine .inl (beq_eq_false_iff_ne.mpr ?_)
  rwa [strncaseeq_length ha]

theorem not_of_hkpTest (h : hkpTest name = true) (b : Bytes) (hlen : b.length ≠ 12) : strncaseeq name b = false := by
  by_contra hb
  rw [Bool.not_eq_false] at hb
  rw [hkpTest_apart hb hlen] at h
  cases h

/-- `Content-Type` has 12 bytes and begins otherwise. -/
theorem hkpTest_contentType (ha : strncaseeq name (ascii "Content-Type") = true) : hkpTest name = false := by
  have htake : strncaseeq (name.take 11) ((ascii "Content-Type").take 11) = true := by
    rw [strncaseeq, List.map_take, List.map_take, eq_of_beq ha]
    exact beq_self_eq_true _
  rw [hkpTest, strncaseeq_apart htake (ascii "X-Apple-HKP") (by decide), Bool.and_false]

/-- The length is part of the comparison. -/
theorem length_and_strncaseeq (name a : Bytes) :
    (name.length = a.length ∧ strncaseeq name a = true) ↔ strncaseeq name a = true :=
  ⟨And.right, fun h => ⟨strncaseeq_length h, h⟩⟩

theorem hkpTest_iff (name : Bytes) :
    (name.length = 12 ∧ strncaseeq (name.take 11) (ascii "X-Apple-HKP") = true ∧ 11 ≤ name.length) ↔
      hkpTest name = true := by
  rw [hkpTest, Bool.and_eq_true, beq_iff_eq]
  constructor
  · rintro ⟨hlen, heq, _⟩
    exact ⟨hlen, heq⟩
  · rintro ⟨hlen, heq⟩
    exact ⟨hlen, heq, by omega⟩

/-- The tests of the header loop, one after the other. -/
theorem parseHeader_tests (hcolon : 58 ∉ h.1) (rest : Bytes) (r : HTTPReq) :
    parseHeader (headerLine h) rest r =
      if strncaseeq h.1 (ascii "Content-Length") = true then
        (atol (trimmed h.2 ++ rest)).map fun (n, k) =>
          ({ r with contentLength := sizeOfInt n }, (headerLine h).length - (trimmed h.2).length + k)
      else if strncaseeq h.1 (ascii "Content-Type") = true then
        some ({ r with contentType := copyField 128 r.contentType (trimmed h.2) }, 0)
      else if hkpTest h.1 = true then some ({ r with xAppleHKP := copyField 32 r.xAppleHKP (trimmed h.2) }, 0)
      else if strncaseeq h.1 (ascii "X-Apple-PD") = true then
        some ({ r with xApplePD := copyField 16 r.xApplePD (trimmed h.2) }, 0)
      else if strncaseeq h.1 (ascii "X-Apple-AT") = true then
        some ({ r with xAppleAT := copyField 16 r.xAppleAT (trimmed h.2) }, 0)
      else if strncaseeq h.1 (ascii "CSeq") = true then
        (atoi (trimmed h.2 ++ rest)).map fun (n, k) =>
          ({ r with cseq := n }, (headerLine h).length - (trimmed h.2).length + k)
      else some (r, 0) := by
  have hmem : memchr 58 (headerLine h) = some h.1.length := memchr_append hcolon
  have htake : (headerLine h).take h.1.length = h.1 := List.take_left
  have hdrop : (headerLine h).drop (h.1.length + 1) = h.2 := by simp [headerLine]
  have h14 := length_and_strncaseeq h.1 (ascii "Content-Length")
  have h12 := length_and_strncaseeq h.1 (ascii "Content-Type")
  have h10 := length_and_strncaseeq h.1 (ascii "X-Apple-PD")
  have h10' := length_and_strncaseeq h.1 (ascii "X-Apple-AT")
  have h4 := length_and_strncaseeq h.1 (ascii "CSeq")
  simp only [show (ascii "Content-Length").length = 14 from rfl] at h14
  simp only [show (ascii "Content-Type").length = 12 from rfl] at h12
  simp only [show (ascii "X-Apple-PD").length = 10 from rfl] at h10
  simp only [show (ascii "X-Apple-AT").length = 10 from rfl] at h10'
  simp only [show (ascii "CSeq").length = 4 from rfl] at h4
  rw [parseHeader, hmem]
  simp only [htake, hdrop, h14, h12, h10, h10', h4, hkpTest_iff, trimmed]

/-- **One header** changes its field and no other. -/
theorem applyHeader_step (hok : HeaderOk n h) (hn : n < 2 ^ 63) (r : HTTPReq) : HeaderStep h r (applyHeader r h) := by
  have htests := parseHeader_tests hok.text.2.2 crlf r
  obtain ⟨k, happly⟩ := parseHeader_apply hok hn [] r
  rw [List.append_nil, htests] at happly
  clear htests
  by_cases hcl : strncaseeq h.1 (ascii "Content-Length") = true
  · rw [if_pos hcl] at happly
    obtain ⟨⟨x, _⟩, _, hx⟩ := Option.map_eq_some_iff.mp happly
    have hr : applyHeader r h = { r with contentLength := sizeOfInt x } := (Prod.mk.inj hx).1.symm
    have hct := strncaseeq_apart hcl (ascii "Content-Type") (by decide)
    have hhkp := hkpTest_apart hcl (by decide)
    have hpd := strncaseeq_apart hcl (ascii "X-Apple-PD") (by decide)
    have hat := strncaseeq_apart hcl (ascii "X-Apple-AT") (by decide)
    have hcs := strncaseeq_apart hcl (ascii "CSeq") (by decide)
    constructor <;> simp [hr, hct, hhkp, hpd, hat, hcs]
  rw [if_neg hcl] at happly
  by_cases hct : strncaseeq h.1 (ascii "Content-Type") = true
  · rw [if_pos hct] at happly
    have hr : applyHeader r h = { r with contentType := copyField 128 r.contentType (trimmed h.2) } :=
      (Prod.mk.inj (Option.some.inj happly)).1.symm
    have hhkp := hkpTest_contentType hct
    have hpd := strncaseeq_apart hct (ascii "X-Apple-PD") (by decide)
    have hat := strncaseeq_apart hct (ascii "X-Apple-AT") (by decide)
    have hcs := strncaseeq_apart hct (ascii "CSeq") (by decide)
    constructor <;> simp [hr, hct, hhkp, hpd, hat, hcs]
  rw [if_neg hct] at happly
  by_cases hhkp : hkpTest h.1 = true
  · rw [if_pos hhkp] at happly
    have hr : applyHeader r h = { r with xAppleHKP := copyField 32 r.xAppleHKP (trimmed h.2) } :=
      (Prod.mk.inj (Option.some.inj happly)).1.symm
    have hpd := not_of_hkpTest hhkp (ascii "X-Apple-PD") (by decide)
    have hat := not_of_hkpTest hhkp (ascii "X-Apple-AT") (by decide)
    have hcs := not_of_hkpTest hhkp (ascii "CSeq") (by decide)
    constructor <;> simp [hr, hct, hhkp, hpd, hat, hcs]
  rw [if_neg hhkp] at happly
  by_cases hpd : strncaseeq h.1 (ascii "X-Apple-PD") = true
  · rw [if_pos hpd] at happly
    have hr : applyHeader r h = { r with xApplePD := copyField 16 r.xApplePD (trimmed h.2) } :=
      (Prod.mk.inj (Option.some.inj happly)).1.symm
    have hat := strncaseeq_apart hpd (ascii "X-Apple-AT") (by decide)
    have hcs := strncaseeq_apart hpd (ascii "CSeq") (by decide)
    constructor <;> simp [hr, hct, hhkp, hpd, hat, hcs]
  rw [if_neg hpd] at happly
  by_cases hat : strncaseeq h.1 (ascii "X-Apple-AT") = true
  · rw [if_pos hat] at happly
    have hr : applyHeader r h = { r with xAppleAT := copyField 16 r.xAppleAT (trimmed h.2) } :=
      (Prod.mk.inj (Option.some.inj happly)).1.symm
    have hcs := strncaseeq_apart hat (ascii "CSeq") (by decide)
    constructor <;> simp [hr, hct, hhkp, hpd, hat, hcs]
  rw [if_neg hat] at happly
  by_cases hcs : strncaseeq h.1 (ascii "CSeq") = true
  · rw [if_pos hcs] at happly
    obtain ⟨⟨x, _⟩, hatoi, hx⟩ := Option.map_eq_some_iff.mp happly
    have hr : applyHeader r h = { r with cseq := x } := (Prod.mk.inj hx).1.symm
    have hint : intOf h.2 = x := by
      rw [intOf, hatoi]
      rfl
    constructor <;> simp [hr, hct, hhkp, hpd, hat, hcs, hint]
  rw [if_neg hcs] at happly
  have hr : applyHeader r h = r := (Prod.mk.inj (Option.some.inj happly)).1.symm
  constructor <;> simp [hr, hct, hhkp, hpd, hat, hcs]

end Line

/-! ## All headers

A header changes its own field only, so a field is a fold over the headers of its name. The field for `X-Apple-HKP` is
the fold over another set of headers, and this is the only difference. -/

/-- What the values leave in a field that they are copied to one after the other. -/
def copiedInto (size : Nat) (values : List Bytes) : Bytes :=
  values.foldl (fun field v => copyField size field (trimmed v)) []

section Fields

variable {F : Type} {hs : List (Bytes × Bytes)}

/-- A field that only some headers change, after all of them. -/
theorem foldl_field (f : HTTPReq → F) (g : F → Bytes → F) (test : Bytes → Bool)
    (hstep : ∀ r, ∀ h ∈ hs, f (applyHeader r h) = if test h.1 then g (f r) h.2 else f r) (r : HTTPReq) :
    f (hs.foldl applyHeader r) = (valuesOf test hs).foldl g (f r) := by
  induction hs generalizing r with
  | nil => rfl
  | cons h hs ih =>
      rw [List.foldl_cons, ih (fun r x hx => hstep r x (List.mem_cons_of_mem _ hx)), hstep r h (List.mem_cons_self ..),
        valuesOf, valuesOf]
      by_cases htest : test h.1
      · rw [if_pos htest, List.filter_cons, if_pos htest, List.map_cons, List.foldl_cons]
      · rw [if_neg htest, List.filter_cons, if_neg htest]

/-- A field that is filled by the headers of its name. -/
theorem textField_copied (size : Nat) (values : List Bytes) : TextField size values (copiedInto size values) where
  absent := by
    rintro rfl
    rfl
  value := by
    rintro v rfl hlt
    show copyField size [] (trimmed v) = trimmed v
    rw [copyField, if_pos hlt, List.drop_nil, List.append_nil]

/-- A value is one number. -/
theorem isNumber_unique {v : Bytes} {n n' : Nat} (h : IsNumber v n) (h' : IsNumber v n') : n = n' := by
  obtain ⟨k, hk⟩ := strtol_number [] h
  obtain ⟨k', hk'⟩ := strtol_number [] h'
  rw [hk] at hk'
  exact Int.ofNat_inj.mp (congrArg Prod.fst (Option.some.inj hk'))

/-- `atoi` reads a number that fits an `int`. -/
theorem intOf_number {v : Bytes} {n : Nat} (h : IsNumber v n) (hn : n < 2 ^ 31) : intOf v = n := by
  obtain ⟨k, hk⟩ := strtol_number [] h
  rw [List.append_nil] at hk
  have hatoi : atoi (trimmed v ++ crlf) = some (((max (-2 ^ 63) (min (n : Int) (2 ^ 63 - 1))).bmod (2 ^ 32)), k) := by
    rw [atoi, atol, trimmed, hk]
    rfl
  have hclamp : max (-2 ^ 63) (min (n : Int) (2 ^ 63 - 1)) = (n : Int) := by omega
  have hbmod : (n : Int).bmod (2 ^ 32) = n := Int.bmod_eq_of_le (by omega) (by omega)
  rw [intOf, hatoi, hclamp, hbmod]
  rfl

theorem valuesOf_eq_nil {test : Bytes → Bool} : valuesOf test hs = [] ↔ ∀ h ∈ hs, ¬ test h.1 = true := by
  rw [valuesOf, List.map_eq_nil_iff, List.filter_eq_nil_iff]

theorem exists_of_valuesOf {test : Bytes → Bool} {v : Bytes} (h : v ∈ valuesOf test hs) :
    ∃ x ∈ hs, test x.1 = true ∧ x.2 = v := by
  obtain ⟨x, hx, rfl⟩ := List.mem_map.mp h
  exact ⟨x, (List.mem_filter.mp hx).1, (List.mem_filter.mp hx).2, rfl⟩

end Fields

namespace ClientRequest

variable (q : ClientRequest)

/-- What the names of 12 bytes that the source tests for leave in the field for `X-Apple-HKP`. -/
def hkpField : Bytes := copiedInto 32 (valuesOf hkpTest q.headers)

/-- **The fields behind the headers**: all but one as they should be, and that one as the 12-byte names leave it. -/
theorem fields_of_headers (hbody : q.body.length < 2 ^ 63) (len : Nat) :
    let r := q.headers.foldl applyHeader (q.beforeHeaders len)
    (HeaderFields q r ↔ TextField 32 (q.named (ascii "X-Apple-HKP")) r.xAppleHKP) ∧ r.xAppleHKP = q.hkpField := by
  have hstep : ∀ r, ∀ h ∈ q.headers, HeaderStep h r (applyHeader r h) :=
    fun r h hmem => applyHeader_step (q.headerOk hmem) hbody r
  have hct := foldl_field HTTPReq.contentType (fun field v => copyField 128 field (trimmed v))
    (strncaseeq · (ascii "Content-Type")) (fun r h hmem => (hstep r h hmem).contentType) (q.beforeHeaders len)
  have hhkp := foldl_field HTTPReq.xAppleHKP (fun field v => copyField 32 field (trimmed v)) hkpTest
    (fun r h hmem => (hstep r h hmem).xAppleHKP) (q.beforeHeaders len)
  have hpd := foldl_field HTTPReq.xApplePD (fun field v => copyField 16 field (trimmed v))
    (strncaseeq · (ascii "X-Apple-PD")) (fun r h hmem => (hstep r h hmem).xApplePD) (q.beforeHeaders len)
  have hat := foldl_field HTTPReq.xAppleAT (fun field v => copyField 16 field (trimmed v))
    (strncaseeq · (ascii "X-Apple-AT")) (fun r h hmem => (hstep r h hmem).xAppleAT) (q.beforeHeaders len)
  have hcs := foldl_field HTTPReq.cseq (fun _ v => intOf v) (strncaseeq · (ascii "CSeq"))
    (fun r h hmem => (hstep r h hmem).cseq) (q.beforeHeaders len)
  obtain ⟨hsome, hnone⟩ := foldl_contentLength (fun h hmem => q.headerOk hmem) hbody (q.beforeHeaders len)
  refine ⟨⟨HeaderFields.xAppleHKP, fun hfield => ?_⟩, hhkp⟩
  refine ⟨⟨?_, ?_⟩, ?_, hfield, ?_, ?_, ⟨?_, ?_⟩⟩
  · intro hno
    have hzero := hnone (valuesOf_eq_nil.mp hno)
    rw [hzero]
    rfl
  · intro v n hv hnumber _
    -- all Content-Length headers give the length of the body
    obtain ⟨h, hmem, hname, rfl⟩ := exists_of_valuesOf (show v ∈ q.named (ascii "Content-Length") by
      rw [hv]
      exact List.mem_singleton_self v)
    rw [hsome ⟨h, hmem, hname⟩]
    exact congrArg Nat.cast (isNumber_unique (q.length_ok h hmem hname) hnumber)
  · rw [hct]
    exact textField_copied 128 _
  · rw [hpd]
    exact textField_copied 16 _
  · rw [hat]
    exact textField_copied 16 _
  · intro hno
    rw [hcs, show valuesOf (strncaseeq · (ascii "CSeq")) q.headers = [] from hno]
    rfl
  · intro v n hv hnumber hlt
    rw [hcs, show valuesOf (strncaseeq · (ascii "CSeq")) q.headers = [v] from hv]
    exact intOf_number hnumber hlt

/-- A request without headers is lost: what lies behind it is taken for its headers. -/
theorem not_headersExtracted (hno : q.headers = []) : ¬ HeadersExtracted q := by
  intro hall
  have hempty : q.body = [] := by
    by_contra hbody
    obtain ⟨h, hmem, _⟩ := q.body_ok hbody
    rw [hno] at hmem
    cases hmem
  let behind : Bytes := ascii "CSeq: 1" ++ crlfcrlf
  have hwire : q.wire = q.requestLine ++ crlf ++ crlf := by
    rw [wire, head, hempty, hno, List.flatMap_nil]
    simp only [List.append_nil]
  obtain ⟨p, hparse, _, hfields⟩ := hall behind (q.wire.length + 10) (Nat.le_add_right _ _)
  have hline : RequestLine (q.requestLine ++ crlf) q.requestLine [] :=
    ⟨by rw [List.append_nil], lineText_noNul q.requestLine_text, lineText_noCrlf q.requestLine_text⟩
  have hmem : q.wire ++ behind = (q.requestLine ++ crlf) ++ (crlf ++ behind) := by
    rw [hwire, List.append_assoc (q.requestLine ++ crlf)]
  rw [hmem, parseHttp_line (by omega) hline, List.nil_append, q.afterLine_requestLine] at hparse
  have hzero : p.req.cseq = 0 := hfields.cseq.absent (by rw [named, valuesOf, hno]; rfl)
  have hscan : strstr crlfcrlf (crlf ++ behind) = .found 9 := by decide
  -- the loop takes an empty line and then a line of what lies behind
  have hloop : ∀ r, ∃ k, headerLoop (crlf ++ behind) 9 r = some ({ r with cseq := 1 }, k) := by
    intro r
    have hempty : parseHeader [] (crlf ++ behind) r = some (r, 0) := rfl
    have hcseq : ∃ k, parseHeader (ascii "CSeq: 1") (crlf ++ crlf) r = some ({ r with cseq := 1 }, k) := ⟨_, rfl⟩
    obtain ⟨k, hcseq⟩ := hcseq
    have hone : headerLoop ([] ++ crlf ++ behind) 9 r = _ :=
      headerLoop_line (by decide) List.not_mem_nil (by decide)
    have htwo : headerLoop (ascii "CSeq: 1" ++ crlf ++ crlf) 7 r = _ :=
      headerLoop_line (by decide) (by decide) (by decide)
    have hsplit : behind = ascii "CSeq: 1" ++ crlf ++ crlf := by decide
    rw [List.nil_append, hempty, Option.bind_some] at hone
    rw [hcseq, Option.bind_some] at htwo
    simp only [List.length_nil] at hone
    rw [hone, show (9 - (0 + 2) : Nat) = 7 from rfl, hsplit, htwo]
    simp only [show 7 - ((ascii "CSeq: 1").length + 2) = 0 from by decide, headerLoop_zero, Option.map_some]
    exact ⟨_, rfl⟩
  simp only [parseHeaders, hscan] at hparse
  obtain ⟨k, hk⟩ := hloop
    { HTTPReq.zero with
      method := q.method.take 15
      path := q.path.take 511
      protocol := q.protocol.take 15
      headerStart := some (q.requestLine.length + 2)
      headerLen := 9
      body := some (q.requestLine.length + 2 + 9 + 4)
      bodyLen := sizeSub (q.wire.length + 10) (q.requestLine.length + 2 + 9 + 4) }
  rw [hk, Option.map_some] at hparse
  rw [← Option.some.inj hparse] at hzero
  cases hzero

end ClientRequest

/-- What `parse_http` leaves of the 12-byte names has to be what belongs to `X-Apple-HKP`. -/
theorem hkp_of_headersExtracted {q : ClientRequest} (hbody : q.body.length < 2 ^ 63) (hne : q.headers ≠ [])
    (h : HeadersExtracted q) : TextField 32 (q.named (ascii "X-Apple-HKP")) q.hkpField := by
  obtain ⟨p, hparse, _, hfields⟩ := h [] (q.wire.length + 10) (Nat.le_add_right _ _)
  obtain ⟨p', hparse', _, hreq⟩ := q.parse_fold hne hbody (q.body ++ []) (show 10 ≤ q.wire.length + 10 by omega)
  rw [ClientRequest.wire, List.append_assoc] at hparse
  rw [ClientRequest.wire] at hparse'
  obtain rfl := Option.some.inj (hparse'.symm.trans hparse)
  obtain ⟨hiff, hfield⟩ := q.fields_of_headers hbody (q.wire.length + 10)
  rw [hreq] at hfields
  rw [← hfield]
  exact hiff.mp hfields

/-- **The headers in `HTTPReq`.** For every well-formed request all fields are filled as they should be exactly when it
    has a header, and what the names of 12 bytes leave in the field for `X-Apple-HKP` is what belongs there. -/
theorem headersExtracted_iff (q : ClientRequest) (hlen : q.wire.length < 2 ^ 63) :
    HeadersExtracted q ↔ q.headers ≠ [] ∧ TextField 32 (q.named (ascii "X-Apple-HKP")) q.hkpField := by
  have hbody : q.body.length < 2 ^ 63 := by
    rw [ClientRequest.wire, List.length_append] at hlen
    omega
  constructor
  · intro hall
    have hne : q.headers ≠ [] := fun hno => q.not_headersExtracted hno hall
    exact ⟨hne, hkp_of_headersExtracted hbody hne hall⟩
  · rintro ⟨hne, hhkp⟩ t len hle
    have hten : 10 ≤ len := by
      have := q.ten_le_head hne
      rw [ClientRequest.wire, List.length_append] at hle
      omega
    obtain ⟨p, hparse, hret, hreq⟩ := q.parse_fold hne hbody (q.body ++ t) hten
    obtain ⟨hiff, hfield⟩ := q.fields_of_headers hbody len
    rw [ClientRequest.wire, List.append_assoc]
    refine ⟨p, hparse, hret, ?_⟩
    rw [hreq]
    exact hiff.mpr (hfield ▸ hhkp)

section Examples

/-- A request with two headers, in unusual letters. -/
def mixedRequest : ClientRequest where
  method := ascii "SETUP"
  path := ascii "/"
  protocol := ascii "RTSP/1.0"
  headers := [(ascii "CONTENT-type", ascii "  text/parameters"), (ascii "cSEQ", ascii " 7")]
  body := []
  method_ok := by decide
  path_ok := by decide
  protocol_ok := rtsp_ok
  headers_ok := by decide
  cseq_ok := by
    intro h hh hname
    rcases List.mem_pair.mp hh with rfl | rfl
    · exact absurd hname (by decide)
    · exact ⟨7, isNumber_blank (by decide) (by decide) (by decide)⟩
  length_ok := by
    intro h hh hname
    rcases List.mem_pair.mp hh with rfl | rfl
    · exact absurd hname (by decide)
    · exact absurd hname (by decide)
  body_ok := fun h => absurd rfl h

theorem headersExtracted_mixed : HeadersExtracted mixedRequest := by
  have hnamed : mixedRequest.named (ascii "X-Apple-HKP") = [] := by decide
  have hfield : mixedRequest.hkpField = [] := by decide
  apply (headersExtracted_iff mixedRequest (Nat.lt_of_le_of_lt (show mixedRequest.wire.length ≤ 100 by decide)
    (by decide))).mpr
  rw [hnamed, hfield]
  exact ⟨by decide, textField_copied 32 []⟩

/-- The header of transient pairing. -/
def hkpRequest : ClientRequest where
  method := ascii "POST"
  path := ascii "/pair-setup"
  protocol := ascii "RTSP/1.0"
  headers := [(ascii "X-Apple-HKP", ascii " 4")]
  body := []
  method_ok := post_ok
  path_ok := by decide
  protocol_ok := rtsp_ok
  headers_ok := by decide
  cseq_ok := by
    intro h hh hname
    obtain rfl := List.mem_singleton.mp hh
    exact absurd hname (by decide)
  length_ok := by
    intro h hh hname
    obtain rfl := List.mem_singleton.mp hh
    exact absurd hname (by decide)
  body_ok := fun h => absurd rfl h

/-- The header is dropped. -/
theorem hkp_dropped : ¬ HeadersExtracted hkpRequest := by
  intro h
  have hfield := hkp_of_headersExtracted (by decide) (by decide) h
  have hvalue := hfield.value (ascii " 4") (by decide) (by decide)
  revert hvalue
  decide

end Examples

end Showcase
