import Showcase.Services.ClientRequest
import Showcase.Services.HttpLength

/-!
# `Services.Waiting` — where the loop of `handle_client` waits

After a chunk the buffer holds a part of a request, and behind it whatever the memory held before. The loop waits
for the rest when `parse_http` sees no request there, or one whose body is not complete. What that comes to in
bytes depends on where the part ends.

* `waits_short`, `waits_body` — in the first nine bytes and inside the body it always waits.
* `waits_iff_line` — elsewhere the memory behind the part decides, by where it ends the request line and the headers.
* `headersAwait_nul` — inside the headers, with a NUL behind them, it waits if a Content-Length has arrived.
* `waits_iff` — all of it together.
-/

namespace Showcase

open Lib

/-- `sizeof(buf)`. -/
def bufSize : Nat := 65536

/-- The memory when `p` has arrived at the beginning of the buffer. -/
def overlay (mem p : Bytes) : Bytes := p ++ mem.drop p.length

/-- The loop waits for more: `parse_http` sees no request, and the buffer is not given up; or a body that is not
    complete. -/
def Waits (mem p : Bytes) : Prop :=
  ∃ r, parseHttp (overlay mem p) p.length = some r ∧
    ((r.ret = false ∧ p.length < bufSize - 1) ∨
      (r.ret = true ∧ 0 < r.req.contentLength ∧ r.req.bodyLen < r.req.contentLength))

/-- The request has a header, and is within the sizes of `HTTPReq` and the buffer. -/
structure ClientRequest.Fits (q : ClientRequest) : Prop where
  headers : q.headers ≠ []
  method : q.method.length ≤ 15
  path : q.path.length ≤ 511
  wire : q.wire.length ≤ bufSize

/-! ## The bytes that make it wait -/

/-- More is awaited, by the first line of a memory of which `len` bytes have arrived. A NUL comes before the line
    ends; or it ends without its two blanks; or it has them, and the headers behind it announce more. -/
inductive LineAwaits (m : Bytes) (len : Nat) : Prop where
  | nul {a c : Bytes} (split : m = a ++ 0 :: c) (noNul : 0 ∉ a) (noLine : ¬ crlf <:+: a) (room : len < bufSize - 1)
  | blanks {line rest : Bytes} (hline : RequestLine m line rest) (few : line.count 32 < 2) (room : len < bufSize - 1)
  | headers {line rest : Bytes} (hline : RequestLine m line rest) (two : 2 ≤ line.count 32)
      (await : HeadersAwait rest (line.length + 2) len)

/-- **More of the request is awaited** when `p` has arrived: by where in the request `p` ends, and by what the
    memory holds behind it. -/
inductive ClientRequest.Awaits (q : ClientRequest) (mem p : Bytes) : Prop where
  | short (h : p.length < 10)
  | line (noLine : ¬ crlf <:+: p) (await : LineAwaits (overlay mem p) p.length)
  | headers {t : Bytes} (part : p = q.requestLine ++ crlf ++ t)
      (await : HeadersAwait (t ++ mem.drop p.length) (q.requestLine.length + 2) p.length)
  | body {b₁ b₂ : Bytes} (part : p = q.head ++ b₁) (split : q.body = b₁ ++ b₂) (more : b₂ ≠ [])

section Waiting

variable {mem p m line rest : Bytes} {len : Nat} {q : ClientRequest}

/-- A memory with a request line. -/
theorem lineAwaits_iff (hl : RequestLine m line rest) :
    LineAwaits m len ↔ (line.count 32 < 2 ∧ len < bufSize - 1) ∨
      (2 ≤ line.count 32 ∧ HeadersAwait rest (line.length + 2) len) := by
  constructor
  · rintro (@⟨a, c, hsplit, h0, hno, _⟩ | @⟨line', rest', hl', hfew, hroom⟩ | @⟨line', rest', hl', htwo, hawait⟩)
    · -- the search ends at the line
      have hnul := (strstr_absent_iff zero_not_mem_crlf crlf_ne_nil).mpr ⟨a, c, hsplit, rfl, h0, hno⟩
      exact nomatch hnul.symm.trans hl.found
    · obtain ⟨rfl, rfl⟩ := hl.unique hl'
      exact .inl ⟨hfew, hroom⟩
    · obtain ⟨rfl, rfl⟩ := hl.unique hl'
      exact .inr ⟨htwo, hawait⟩
  · rintro (⟨hfew, hroom⟩ | ⟨htwo, hawait⟩)
    · exact .blanks hl hfew hroom
    · exact .headers hl htwo hawait

/-! ## What the loop sees -/

/-- Without its two blanks a line is no request line. -/
theorem afterLine_few (hfew : line.count 32 < 2) : ∃ r, afterLine line rest len = some r ∧ r.ret = false := by
  have hno : ¬ ∃ sp1 n, memchr 32 line = some sp1 ∧ memchr 32 (line.drop (sp1 + 1)) = some n :=
    fun h => absurd (two_blanks_iff.mpr h) (by omega)
  unfold afterLine
  cases hsp : memchr 32 line with
  | none => exact ⟨_, rfl, rfl⟩
  | some sp1 =>
      cases hn : memchr 32 (line.drop (sp1 + 1)) with
      | none =>
          simp only [hn]
          exact ⟨_, rfl, rfl⟩
      | some n => exact absurd ⟨sp1, n, hsp, hn⟩ hno

/-- With two blanks, and none in front, a line is a request line with a method. -/
theorem afterLine_two (htwo : 2 ≤ line.count 32) (h0 : 0 ∉ line) (hfirst : line.headD 32 ≠ 32) :
    ∃ r : HTTPReq, afterLine line rest len = parseHeaders rest (line.length + 2) len r ∧
      (r.method.headD 0 != 0) = true ∧ r.contentLength = 0 ∧ r.bodyLen = 0 := by
  obtain ⟨sp1, n, hsp, hn⟩ := two_blanks_iff.mp htwo
  unfold afterLine
  rw [hsp]
  simp only [hn]
  refine ⟨_, rfl, ?_, rfl, rfl⟩
  obtain ⟨a, b, rfl, rfl, hno⟩ := memchr_eq_some.mp hsp
  cases a with
  | nil => exact absurd rfl hfirst
  | cons x a =>
      have hx : x ≠ 0 := by
        rintro rfl
        exact h0 (by simp)
      have hmin : min (x :: a).length 15 = min a.length 14 + 1 := by
        rw [List.length_cons]
        omega
      rw [hmin]
      simpa using hx

/-- With a request line in the memory it depends on its blanks, and on the headers behind it. -/
theorem waits_iff_of_line (hten : 10 ≤ p.length) (hfirst : p.headD 32 ≠ 32)
    (hl : RequestLine (overlay mem p) line rest) : Waits mem p ↔ LineAwaits (overlay mem p) p.length := by
  have hparse := parseHttp_line (t := []) hten hl
  rw [List.append_nil, List.append_nil] at hparse
  rw [Waits, hparse, lineAwaits_iff hl]
  by_cases htwo : 2 ≤ line.count 32
  · have hhead : line.headD 32 ≠ 32 := by
      obtain ⟨x, p', rfl⟩ := List.exists_cons_of_length_pos (show 0 < p.length by omega)
      have hsplit := hl.split
      cases line with
      | nil => exact absurd htwo (by decide)
      | cons y line =>
          obtain ⟨rfl, _⟩ := List.cons.inj hsplit
          exact hfirst
    obtain ⟨r, hafter, hmethod, hr⟩ := @afterLine_two line rest p.length htwo hl.noNul hhead
    rw [hafter, ← parseHeaders_awaits_iff hr]
    constructor
    · rintro ⟨x, hx, ⟨hret, _⟩ | ⟨_, _, hlt⟩⟩
      · rw [parseHeaders_ret hx, hmethod] at hret
        cases hret
      · exact .inr ⟨htwo, x, hx, hlt⟩
    · rintro (⟨hfew, _⟩ | ⟨_, x, hx, hlt⟩)
      · omega
      · exact ⟨x, hx, .inr ⟨(parseHeaders_ret hx).trans hmethod, Nat.zero_lt_of_lt hlt, hlt⟩⟩
  · obtain ⟨r, hafter, hret⟩ := @afterLine_few line rest p.length (show line.count 32 < 2 by omega)
    rw [hafter]
    constructor
    · rintro ⟨x, hx, ⟨_, hroom⟩ | ⟨hret', _⟩⟩
      · exact .inl ⟨by omega, hroom⟩
      · rw [← Option.some.inj hx, hret] at hret'
        cases hret'
    · rintro (⟨_, hroom⟩ | ⟨htwo', _⟩)
      · exact ⟨r, rfl, .inl ⟨hret, hroom⟩⟩
      · exact absurd htwo' htwo

/-- **The first line decides.** Behind ten bytes that do not begin with a blank, the loop waits exactly when more is
    awaited by the first line of the memory. -/
theorem waits_iff_line (hten : 10 ≤ p.length) (hfirst : p.headD 32 ≠ 32) :
    Waits mem p ↔ LineAwaits (overlay mem p) p.length := by
  rcases requestLine_cases (overlay mem p) with ⟨line, rest, hl⟩ | ⟨nul, hscan, _⟩ | ⟨hscan, hno⟩
  · exact waits_iff_of_line hten hfirst hl
  · obtain ⟨a, c, hsplit, _, h0, hno⟩ := (strstr_absent_iff zero_not_mem_crlf crlf_ne_nil).mp hscan
    have hparse : parseHttp (overlay mem p) p.length = some ⟨false, .zero, nul + 1⟩ := by
      rw [parseHttp, if_neg (by omega), hscan]
    rw [Waits, hparse]
    constructor
    · rintro ⟨x, hx, ⟨_, hroom⟩ | ⟨hret, _⟩⟩
      · exact .nul hsplit h0 hno hroom
      · rw [← Option.some.inj hx] at hret
        cases hret
    · rintro (⟨_, _, _, hroom⟩ | ⟨hl, _, _⟩ | ⟨hl, _, _⟩)
      · exact ⟨_, rfl, .inl ⟨rfl, hroom⟩⟩
      · cases hscan.symm.trans hl.found
      · cases hscan.symm.trans hl.found
  · have hparse : parseHttp (overlay mem p) p.length = none := by
      rw [parseHttp, if_neg (by omega), hscan]
    rw [Waits, hparse]
    constructor
    · rintro ⟨x, hx, _⟩
      cases hx
    · rintro (@⟨a, c, hsplit, _, _, _⟩ | ⟨hl, _, _⟩ | ⟨hl, _, _⟩)
      · exact absurd (.inl (by rw [hsplit]; simp)) hno
      · cases hscan.symm.trans hl.found
      · cases hscan.symm.trans hl.found

/-! ## A part of a request

The cases are by where the part ends: in its first nine bytes, in the request line, in the headers or in the body.
Only in the two in between does the memory behind the part decide. -/

/-- `parse_http` does not look at less than ten bytes. -/
theorem waits_short (mem : Bytes) (hshort : p.length < 10) : Waits mem p := by
  have hsize : bufSize = 65536 := rfl
  exact ⟨⟨false, .zero, 0⟩, by rw [parseHttp, if_pos hshort], .inl ⟨rfl, by omega⟩⟩

/-- Inside the body the loop waits, whatever the memory behind holds. -/
theorem waits_body {b₁ b₂ : Bytes} (mem : Bytes) (hne : q.headers ≠ []) (hbody : q.body = b₁ ++ b₂)
    (hrest : b₂ ≠ []) (hle : q.wire.length ≤ bufSize) : Waits mem (q.head ++ b₁) := by
  have hsize : bufSize = 65536 := rfl
  have hpos : 0 < b₂.length := List.length_pos_iff.mpr hrest
  have hlen : q.body.length = b₁.length + b₂.length := by
    rw [hbody, List.length_append]
  have hwire : q.wire.length = q.head.length + q.body.length := List.length_append
  have hten := q.ten_le_head hne
  obtain ⟨r, hparse, hret, hframe, hlength⟩ := q.parse_head hne (by omega) (b₁ ++ mem.drop (q.head ++ b₁).length)
    (show 10 ≤ (q.head ++ b₁).length by rw [List.length_append]; omega)
  simp only [HTTPReq.frame, Prod.mk.injEq] at hframe
  obtain ⟨_, _, _, _, _, _, hbodyLen⟩ := hframe
  rw [List.length_append, sizeSub_of_le (by omega), Nat.add_sub_cancel_left] at hbodyLen
  refine ⟨r, ?_, .inr ⟨hret, ?_, ?_⟩⟩
  · rw [overlay, List.append_assoc]
    exact hparse
  · rw [hlength]
    omega
  · rw [hlength, hbodyLen]
    omega

/-- A request does not begin with a blank, nor does a part of it. -/
theorem part_first (hpart : p <+: q.wire) (hne : p ≠ []) : p.headD 32 ≠ 32 := by
  obtain ⟨x, p', rfl⟩ := List.exists_cons_of_ne_nil hne
  obtain ⟨y, m, hm⟩ := List.exists_cons_of_ne_nil q.method_ok.1
  obtain ⟨s, hs⟩ := hpart
  have hwire : ∃ s', q.wire = y :: s' := by
    simp only [ClientRequest.wire, ClientRequest.head, ClientRequest.requestLine, hm]
    exact ⟨_, rfl⟩
  obtain ⟨s', hs'⟩ := hwire
  rw [hs'] at hs
  obtain ⟨rfl, _⟩ := List.cons.inj hs
  rintro rfl
  exact q.method_ok.2.2 (by rw [hm]; exact List.mem_cons_self ..)

/-- The request line, with the rest of a part behind it. -/
theorem part_line (q : ClientRequest) (t stale : Bytes) :
    RequestLine (q.requestLine ++ crlf ++ t ++ stale) q.requestLine (t ++ stale) :=
  ⟨List.append_assoc .., lineText_noNul q.requestLine_text, lineText_noCrlf q.requestLine_text⟩

theorem two_blanks (q : ClientRequest) : 2 ≤ q.requestLine.count 32 := by
  simp only [ClientRequest.requestLine, List.count_append, List.count_cons_self]
  omega

/-- **Behind the request line** the headers decide. -/
theorem waits_iff_headers {t : Bytes} (hten : 10 ≤ (q.requestLine ++ crlf ++ t).length) :
    Waits mem (q.requestLine ++ crlf ++ t) ↔ HeadersAwait (t ++ mem.drop (q.requestLine ++ crlf ++ t).length)
      (q.requestLine.length + 2) (q.requestLine ++ crlf ++ t).length := by
  have hfirst : (q.requestLine ++ crlf ++ t).headD 32 ≠ 32 := by
    obtain ⟨y, m, hm⟩ := List.exists_cons_of_ne_nil q.method_ok.1
    have hhead : (q.requestLine ++ crlf ++ t).headD 32 = y := by
      rw [ClientRequest.requestLine, hm]
      rfl
    rw [hhead]
    rintro rfl
    exact q.method_ok.2.2 (by rw [hm]; exact List.mem_cons_self ..)
  rw [waits_iff_line hten hfirst, overlay, lineAwaits_iff (part_line q t _)]
  have htwo := two_blanks q
  constructor
  · rintro (⟨hfew, _⟩ | ⟨_, hawait⟩)
    · omega
    · exact hawait
  · intro hawait
    exact .inr ⟨htwo, hawait⟩

/-- A CR LF in a part of a request is behind the request line. -/
theorem part_headers (hpart : p <+: q.wire) (hline : crlf <:+: p) : ∃ t, p = q.requestLine ++ crlf ++ t := by
  have hwire : q.requestLine ++ crlf <+: q.wire := by
    simp only [ClientRequest.wire, ClientRequest.head, List.append_assoc]
    rw [← List.append_assoc q.requestLine]
    exact List.prefix_append _ _
  by_cases hle : (q.requestLine ++ crlf).length ≤ p.length
  · obtain ⟨t, ht⟩ := List.prefix_of_prefix_length_le hwire hpart hle
    exact ⟨t, ht.symm⟩
  -- otherwise it would begin in the line
  obtain ⟨u, v, huv⟩ := hline
  have hu : u.length < q.requestLine.length := by
    have hcrlf : crlf.length = 2 := rfl
    rw [List.length_append, ← huv, List.length_append, List.length_append] at hle
    omega
  obtain ⟨w, hw⟩ := hwire
  rw [List.append_assoc] at hw
  refine absurd ?_ (lineText_drop (s := crlf ++ w) q.requestLine_text hu)
  obtain ⟨z, hz⟩ := hpart
  rw [hw, ← hz, ← huv]
  simp only [List.append_assoc, List.drop_left]
  exact List.prefix_append _ _

/-- More is awaited only where the loop waits. -/
theorem waits_of_awaits (hfits : q.Fits) (hpart : p <+: q.wire) (h : q.Awaits mem p) : Waits mem p := by
  by_cases hten : p.length < 10
  · exact waits_short mem hten
  rcases h with hshort | ⟨_, hawait⟩ | @⟨t, rfl, hawait⟩ | @⟨b₁, b₂, rfl, hbody, hmore⟩
  · exact waits_short mem hshort
  · apply (waits_iff_line (by omega) (part_first hpart ?_)).mpr hawait
    rintro rfl
    exact hten (by decide)
  · exact (waits_iff_headers (by omega)).mpr hawait
  · exact waits_body mem hfits.headers hbody hmore hfits.wire

/-- **Where the loop waits** for more of a request. -/
theorem waits_iff (hfits : q.Fits) (hpart : p <+: q.wire) (hne : p ≠ q.wire) : Waits mem p ↔ q.Awaits mem p := by
  refine ⟨?_, waits_of_awaits hfits hpart⟩
  intro hw
  by_cases hten : p.length < 10
  · exact .short hten
  by_cases hline : crlf <:+: p
  · obtain ⟨t, rfl⟩ := part_headers hpart hline
    by_cases hhead : q.head <+: q.requestLine ++ crlf ++ t
    · obtain ⟨b₁, hb₁⟩ := hhead
      obtain ⟨b₂, hb₂⟩ := hpart
      rw [← hb₁, ClientRequest.wire, List.append_assoc] at hb₂
      have hbody := (List.append_cancel_left hb₂).symm
      refine .body hb₁.symm hbody ?_
      rintro rfl
      apply hne
      rw [← hb₁, ClientRequest.wire, hbody, List.append_nil]
    · exact .headers rfl ((waits_iff_headers (by omega)).mp hw)
  · refine .line hline ((waits_iff_line (by omega) (part_first hpart ?_)).mp hw)
    rintro rfl
    exact hten (by decide)

/-! ## A NUL behind the headers -/

/-- The headers that have arrived whole are taken one by one. -/
theorem headerLoop_lines {hs : List (Bytes × Bytes)} {k n : Nat} (hok : ∀ h ∈ hs, HeaderOk k h) (hk : k < 2 ^ 63)
    (tail : Bytes) (r : HTTPReq) :
    ∃ f : Nat → Nat, headerLoop (hs.flatMap (fun h => headerLine h ++ crlf) ++ tail)
        ((hs.flatMap (fun h => headerLine h ++ crlf)).length + n) r =
      (headerLoop tail n (hs.foldl applyHeader r)).map fun (r, m) => (r, f m) := by
  induction hs generalizing r with
  | nil =>
      refine ⟨id, ?_⟩
      simp [List.flatMap_nil]
  | cons h hs ih =>
      have hh := hok h (List.mem_cons_self ..)
      have htext := headerLine_text hh.text.1 hh.text.2.1
      let lines := hs.flatMap (fun h => headerLine h ++ crlf)
      obtain ⟨m, hhdr⟩ := parseHeader_apply hh hk (lines ++ tail) r
      obtain ⟨f, hloop⟩ := ih (fun x hx => hok x (List.mem_cons_of_mem _ hx)) (applyHeader r h)
      have hsplit : (h :: hs).flatMap (fun h => headerLine h ++ crlf) ++ tail
          = headerLine h ++ crlf ++ (lines ++ tail) := by
        simp only [List.flatMap_cons, List.append_assoc, lines]
      have hlen : ((h :: hs).flatMap (fun h => headerLine h ++ crlf)).length + n
          = (headerLine h).length + 2 + (lines.length + n) := by
        simp only [List.flatMap_cons, List.length_append, crlf, List.length_cons, List.length_nil, lines]
        omega
      have hpos := headerLine_pos h
      refine ⟨fun k => max (max ((headerLine h).length + 2) m) ((headerLine h).length + 2 + f k), ?_⟩
      rw [hsplit, hlen, headerLoop_line (by omega) (lineText_noNul htext) (lineText_noCrlf htext), hhdr,
        Option.bind_some]
      simp only [Nat.add_sub_cancel_left]
      rw [hloop, Option.map_map, List.foldl_cons]
      rfl

/-- No empty line begins in them, nor in a line that has not ended. -/
theorem noBlank_lines {hs : List (Bytes × Bytes)} {part : Bytes}
    (hok : ∀ h ∈ hs, LineText h.1 ∧ LineText h.2 ∧ 58 ∉ h.1) (hpart : ¬ crlf <:+: part) :
    ¬ crlfcrlf <:+: hs.flatMap (fun h => headerLine h ++ crlf) ++ part := by
  induction hs with
  | nil =>
      rintro ⟨u, v, huv⟩
      exact hpart (List.IsInfix.trans ⟨[], crlf, rfl⟩ ⟨u, v, huv⟩)
  | cons h hs ih =>
      obtain ⟨h₁, h₂, _⟩ := hok h (List.mem_cons_self ..)
      have htext := headerLine_text h₁ h₂
      let tail := hs.flatMap (fun h => headerLine h ++ crlf) ++ part
      have hsplit : (h :: hs).flatMap (fun h => headerLine h ++ crlf) ++ part = headerLine h ++ (crlf ++ tail) := by
        simp only [List.flatMap_cons, List.append_assoc, tail]
      -- what follows does not begin with CR LF
      have hnext : ¬ crlf <+: tail := by
        cases hs with
        | nil => exact fun hp => hpart hp.isInfix
        | cons h' hs =>
            obtain ⟨h₁', h₂', _⟩ := hok h' (List.mem_cons_of_mem _ (List.mem_cons_self ..))
            have htail : tail = headerLine h' ++ (crlf ++ (hs.flatMap (fun h => headerLine h ++ crlf) ++ part)) := by
              simp only [tail, List.flatMap_cons, List.append_assoc]
            rw [htail]
            exact lineText_drop (j := 0) (headerLine_text h₁' h₂') (headerLine_pos h')
      rw [hsplit]
      rintro ⟨u, v, huv⟩
      have hp : crlfcrlf <+: (headerLine h ++ (crlf ++ tail)).drop u.length := by
        rw [← huv]
        simp only [List.append_assoc, List.drop_left]
        exact List.prefix_append _ _
      by_cases hlt : u.length < (headerLine h).length
      · exact not_blank_of_not_crlf (lineText_drop htext hlt) hp
      obtain ⟨i, hi⟩ := Nat.exists_eq_add_of_le (Nat.le_of_not_lt hlt)
      rw [hi, ← List.drop_drop, List.drop_left] at hp
      rcases i with _ | _ | i
      · obtain ⟨t, ht⟩ := hp
        exact hnext ⟨t, List.append_cancel_left (show crlf ++ (crlf ++ t) = crlf ++ tail from ht)⟩
      · obtain ⟨t, ht⟩ := hp
        cases ht
      · apply ih (fun x hx => hok x (List.mem_cons_of_mem _ hx))
        exact (show crlfcrlf <+: tail.drop i from hp).isInfix.trans (List.drop_suffix _ _).isInfix

/-- The loop takes nothing of a line that has not ended. -/
theorem headerLoop_part {part stale : Bytes} (h0 : 0 ∉ part) (hpart : ¬ crlf <:+: part) (n : Nat) (r : HTTPReq) :
    ∃ k, headerLoop (part ++ 0 :: stale) n r = some (r, k) := by
  by_cases hn : n = 0
  · subst hn
    exact ⟨0, headerLoop_zero _ r⟩
  have hscan := (strstr_absent_iff zero_not_mem_crlf crlf_ne_nil).mpr ⟨part, stale, rfl, rfl, h0, hpart⟩
  rw [headerLoop, if_neg hn, hscan]
  exact ⟨_, rfl⟩

theorem lines_noNul {hs : List (Bytes × Bytes)} (hok : ∀ h ∈ hs, LineText h.1 ∧ LineText h.2 ∧ 58 ∉ h.1) :
    0 ∉ hs.flatMap (fun h => headerLine h ++ crlf) := by
  intro hmem
  obtain ⟨h, hh, hmem⟩ := List.mem_flatMap.mp hmem
  obtain ⟨h₁, h₂, _⟩ := hok h hh
  rcases List.mem_append.mp hmem with hmem | hmem
  · exact lineText_noNul (headerLine_text h₁ h₂) hmem
  · exact zero_not_mem_crlf hmem

/-- **Headers that end in a NUL**: the lines that have arrived whole are taken, and there is no body. -/
theorem parseHeaders_lines {part : Bytes} (stale : Bytes) {hs : List (Bytes × Bytes)} {start bodyLen : Nat}
    (hok : ∀ h ∈ hs, HeaderOk bodyLen h) (hk : bodyLen < 2 ^ 63) (h0 : 0 ∉ part) (hpart : ¬ crlf <:+: part)
    (hlen : len = start + (hs.flatMap (fun h => headerLine h ++ crlf) ++ part).length) :
    ∃ p, parseHeaders (hs.flatMap (fun h => headerLine h ++ crlf) ++ part ++ 0 :: stale) start len .zero = some p ∧
      p.req = hs.foldl applyHeader
        { HTTPReq.zero with headerStart := some start, headerLen := sizeSub len start } := by
  have htext : ∀ h ∈ hs, LineText h.1 ∧ LineText h.2 ∧ 58 ∉ h.1 := fun h hh => (hok h hh).text
  let lines := hs.flatMap (fun h => headerLine h ++ crlf)
  have hnul : 0 ∉ lines ++ part := by
    intro hmem
    rcases List.mem_append.mp hmem with hmem | hmem
    · exact lines_noNul htext hmem
    · exact h0 hmem
  have hscan : strstr crlfcrlf (lines ++ part ++ 0 :: stale) = .absent (lines ++ part).length :=
    (strstr_absent_iff zero_not_mem_crlfcrlf crlfcrlf_ne_nil).mpr
      ⟨_, stale, rfl, rfl, hnul, noBlank_lines htext hpart⟩
  -- what the loop makes of the lines, and of what is left of the headers
  let r : HTTPReq := { HTTPReq.zero with headerStart := some start, headerLen := sizeSub len start }
  obtain ⟨f, hlines⟩ := headerLoop_lines (n := part.length) hok hk (part ++ 0 :: stale) r
  obtain ⟨k, hrest⟩ := @headerLoop_part part stale h0 hpart part.length (hs.foldl applyHeader r)
  have hloop : headerLoop (lines ++ part ++ 0 :: stale) (len - start) r = some (hs.foldl applyHeader r, f k) := by
    have hn : len - start = lines.length + part.length := by
      rw [hlen, Nat.add_sub_cancel_left]
      exact List.length_append
    rw [hn, List.append_assoc, hlines, hrest]
    rfl
  refine ⟨⟨(hs.foldl applyHeader r).method.headD 0 != 0, hs.foldl applyHeader r,
    start + max ((lines ++ part).length + 1) (f k)⟩, ?_, rfl⟩
  unfold parseHeaders
  rw [hscan]
  simp only [r] at hloop ⊢
  rw [hloop]
  rfl

/-- **A cut in the headers**, with a NUL behind it: more is awaited exactly when the request has a body and a
    Content-Length is among the header lines `hs` that have arrived whole. -/
theorem headersAwait_nul (part stale : Bytes) {hs later : List (Bytes × Bytes)} {start : Nat}
    (hheaders : q.headers = hs ++ later) (hbody : q.body.length < 2 ^ 63) (h0 : 0 ∉ part) (hpart : ¬ crlf <:+: part)
    (hlen : len = start + (hs.flatMap (fun h => headerLine h ++ crlf) ++ part).length) :
    HeadersAwait (hs.flatMap (fun h => headerLine h ++ crlf) ++ part ++ 0 :: stale) start len ↔
      q.body ≠ [] ∧ ∃ h ∈ hs, strncaseeq h.1 (ascii "Content-Length") = true := by
  have hok : ∀ h ∈ hs, HeaderOk q.body.length h :=
    fun h hh => q.headerOk (by rw [hheaders]; exact List.mem_append_left _ hh)
  obtain ⟨p, hparse, hreq⟩ := parseHeaders_lines stale hok hbody h0 hpart hlen
  have hframe := foldl_frame hok hbody { HTTPReq.zero with headerStart := some start, headerLen := sizeSub len start }
  obtain ⟨hsome, hnone⟩ :=
    foldl_contentLength hok hbody { HTTPReq.zero with headerStart := some start, headerLen := sizeSub len start }
  rw [← hreq] at hframe hsome hnone
  simp only [HTTPReq.frame, Prod.mk.injEq] at hframe
  have hbodyLen : p.req.bodyLen = 0 := hframe.2.2.2.2.2.2
  rw [← parseHeaders_awaits_iff (r := .zero) ⟨rfl, rfl⟩, hparse]
  constructor
  · rintro ⟨p', hp, hlt⟩
    obtain rfl := Option.some.inj hp
    by_cases hcl : ∃ h ∈ hs, strncaseeq h.1 (ascii "Content-Length") = true
    · refine ⟨?_, hcl⟩
      intro hnil
      have hzero := hsome hcl
      rw [hnil, List.length_nil] at hzero
      omega
    · have hzero : p.req.contentLength = 0 := hnone (fun h hh hc => hcl ⟨h, hh, hc⟩)
      omega
  · rintro ⟨hne, hcl⟩
    refine ⟨p, rfl, ?_⟩
    rw [hbodyLen, hsome hcl]
    exact List.length_pos_iff.mpr hne

end Waiting

end Showcase
