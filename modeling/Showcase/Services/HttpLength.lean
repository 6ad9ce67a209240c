import Showcase.Services.HttpLocal

/-!
# `Services.HttpLength` — the Content-Length that `parse_http` ends up with

`handle_client` waits for the rest of a body when the Content-Length is greater than what is there. Both numbers
depend on where the headers end, by the empty line or, without one, by the NUL that stops `strstr`, and the length
is the one in the last Content-Length line in front of that.

The header loop is followed line by line: `LengthAt` says of a memory which line gives which number, and
`headerLoop_length` is the induction over the loop. The rest puts the two ends of the headers side by side.

* `parseHeaders_awaits_iff` — a body is awaited, by the bytes behind the request line.
-/

namespace Showcase

open Lib

variable {s line rest : Bytes} {n k : Nat} {r r' : HTTPReq}

/-! ## The last length

A memory is taken apart at the end of its first line. Lines that begin behind it are lines of the rest, moved by the
length of the first one, and that is how the loop goes on as well. -/

/-- A header line of `s` that begins at `i` gives the length `x`. -/
def LengthAt (s : Bytes) (i : Nat) (x : Int) : Prop :=
  ∃ pre hdr post val k, HeaderLine s pre hdr post ∧ pre.length = i ∧
    HeaderAt (ascii "Content-Length") hdr val ∧ atol (val ++ (crlf ++ post)) = some (x, k)

/-- The last of the lengths in lines that begin in front of `n`. -/
def LastLength (s : Bytes) (n : Nat) (x : Int) : Prop :=
  ∃ i < n, LengthAt s i x ∧ ∀ j, i < j → j < n → ∀ y, ¬ LengthAt s j y

theorem LengthAt.unique {i : Nat} {x y : Int} (h : LengthAt s i x) (h' : LengthAt s i y) : x = y := by
  obtain ⟨pre, hdr, post, val, k, hl, hi, hat, hnum⟩ := h
  obtain ⟨pre', hdr', post', val', k', hl', hi', hat', hnum'⟩ := h'
  obtain ⟨rfl, rfl, rfl⟩ := hl.unique hl' (hi.trans hi'.symm)
  obtain rfl := hat.unique hat'
  exact congrArg Prod.fst (Option.some.inj (hnum.symm.trans hnum'))

theorem LastLength.unique {x y : Int} (h : LastLength s n x) (h' : LastLength s n y) : x = y := by
  obtain ⟨i, hi, hx, hlast⟩ := h
  obtain ⟨j, hj, hy, hlast'⟩ := h'
  rcases Nat.lt_trichotomy i j with hlt | rfl | hgt
  · exact absurd hy (hlast j hlt hj y)
  · exact hx.unique hy
  · exact absurd hx (hlast' i hgt hi x)

/-- A length is in the first line, or in one of the rest. -/
theorem lengthAt_iff {i : Nat} {x : Int} (h0 : 0 ∉ line) (hline : ¬ crlf <:+: line) :
    LengthAt (line ++ crlf ++ rest) i x ↔
      (i = 0 ∧ ∃ val k, HeaderAt (ascii "Content-Length") line val ∧ atol (val ++ (crlf ++ rest)) = some (x, k)) ∨
        ∃ j, i = line.length + 2 + j ∧ LengthAt rest j x := by
  have hcrlf : crlf.length = 2 := rfl
  constructor
  · rintro ⟨pre, hdr, post, val, k, hl, rfl, hat, hnum⟩
    rcases (headerLine_iff h0 hline).mp hl with ⟨rfl, rfl, rfl⟩ | ⟨pre', rfl, hl'⟩
    · exact .inl ⟨rfl, val, k, hat, hnum⟩
    · refine .inr ⟨pre'.length, ?_, pre', hdr, post, val, k, hl', rfl, hat, hnum⟩
      rw [List.length_append, List.length_append, hcrlf]
  · rintro (⟨rfl, val, k, hat, hnum⟩ | ⟨j, rfl, pre, hdr, post, val, k, hl, rfl, hat, hnum⟩)
    · exact ⟨[], line, rest, val, k, (headerLine_iff h0 hline).mpr (.inl ⟨rfl, rfl, rfl⟩), rfl, hat, hnum⟩
    · refine ⟨line ++ crlf ++ pre, hdr, post, val, k, (headerLine_iff h0 hline).mpr (.inr ⟨pre, rfl, hl⟩), ?_, hat,
        hnum⟩
      rw [List.length_append, List.length_append, hcrlf]

/-- What the rest of the lines give, the whole gives. -/
theorem LastLength.cons {x : Int} (h0 : 0 ∉ line) (hline : ¬ crlf <:+: line)
    (h : LastLength rest (n - (line.length + 2)) x) : LastLength (line ++ crlf ++ rest) n x := by
  obtain ⟨i, hi, hx, hlast⟩ := h
  refine ⟨line.length + 2 + i, by omega, (lengthAt_iff h0 hline).mpr (.inr ⟨i, rfl, hx⟩), ?_⟩
  intro j hij hjn y hy
  rcases (lengthAt_iff h0 hline).mp hy with ⟨rfl, _⟩ | ⟨j', rfl, hy'⟩
  · exact absurd hij (Nat.not_lt_zero _)
  · exact hlast j' (by omega) (by omega) y hy'

/-- A header has one name. -/
theorem headerAt_cseq {val val' : Bytes} (h : HeaderAt (ascii "CSeq") line val) :
    ¬ HeaderAt (ascii "Content-Length") line val' := by
  rintro ⟨name', value', heq', hcolon', _, hname'⟩
  obtain ⟨name, value, heq, hcolon, _, hname⟩ := h
  obtain ⟨rfl, _⟩ := header_unique (heq.symm.trans heq') hcolon hcolon'
  have h4 : name.length = 4 := strncaseeq_length hname
  have h14 : name.length = 14 := strncaseeq_length hname'
  omega

/-- **What the loop leaves**: the last length, or what was there before. -/
theorem headerLoop_length (h : headerLoop s n r = some (r', k)) :
    (∃ x, LastLength s n x ∧ r'.contentLength = sizeOfInt x) ∨
      ((∀ i < n, ∀ x, ¬ LengthAt s i x) ∧ r'.contentLength = r.contentLength) := by
  induction n using Nat.strong_induction_on generalizing s r r' k with
  | _ n ih =>
      by_cases hn : n = 0
      · subst hn
        rw [headerLoop_zero] at h
        obtain ⟨rfl, rfl⟩ := Prod.mk.inj (Option.some.inj h)
        exact .inr ⟨fun i hi => absurd hi (Nat.not_lt_zero i), rfl⟩
      cases hscan : strstr crlf s with
      | fault =>
          rw [headerLoop, if_neg hn, hscan] at h
          cases h
      | absent nul =>
          obtain ⟨a, c, rfl, rfl, _, hno⟩ := strstr_absent hscan
          rw [headerLoop, if_neg hn, hscan] at h
          obtain ⟨rfl, rfl⟩ := Prod.mk.inj (Option.some.inj h)
          refine .inr ⟨?_, rfl⟩
          rintro i _ x ⟨pre, hdr, post, _, _, hl, _⟩
          exact hl.not_absent hno
      | found le =>
          obtain ⟨line, rest, rfl, rfl, h0, hline⟩ := strstr_crlf_iff.mp hscan
          rw [headerLoop_line hn h0 hline] at h
          obtain ⟨⟨r₁, k₁⟩, hhdr, h⟩ := Option.bind_eq_some_iff.mp h
          obtain ⟨⟨r₂, k₂⟩, hloop, hx⟩ := Option.map_eq_some_iff.mp h
          obtain ⟨rfl, rfl⟩ := Prod.mk.inj hx
          rcases ih _ (by omega) hloop with ⟨x, hlast, hlen⟩ | ⟨hnone, hlen⟩
          · exact .inl ⟨x, hlast.cons h0 hline, hlen⟩
          -- none in the lines behind it: this one decides
          have hfirst : ∀ i < n, ∀ x, LengthAt (line ++ crlf ++ rest) i x → i = 0 ∧ ∃ val k,
              HeaderAt (ascii "Content-Length") line val ∧ atol (val ++ (crlf ++ rest)) = some (x, k) := by
            intro i hi x hx
            rcases (lengthAt_iff h0 hline).mp hx with hhere | ⟨j, rfl, hthere⟩
            · exact hhere
            · exact absurd hthere (hnone j (by omega) x)
          rcases parseHeader_effect line r with ⟨r₃, _, hcl, hno, hall⟩ | ⟨val, _, _, num, set, hnum, _, hall⟩
          · rw [hall] at hhdr
            obtain ⟨rfl, -⟩ := Prod.mk.inj (Option.some.inj hhdr)
            refine .inr ⟨?_, hlen.trans hcl⟩
            intro i hi x hx
            obtain ⟨_, val, _, hat, _⟩ := hfirst i hi x hx
            exact hno val (.inl hat)
          rw [hall] at hhdr
          obtain ⟨⟨x, k₃⟩, hval, hset⟩ := Option.map_eq_some_iff.mp hhdr
          obtain ⟨rfl, -⟩ := Prod.mk.inj hset
          rcases hnum with ⟨rfl, hat, hcl⟩ | ⟨rfl, hat, hcl⟩
          · refine .inl ⟨x, ⟨0, by omega, (lengthAt_iff h0 hline).mpr (.inl ⟨rfl, val, k₃, hat, hval⟩), ?_⟩,
              hlen.trans (hcl x)⟩
            intro j hj hjn y hy
            exact absurd (hfirst j hjn y hy).1 (by omega)
          · refine .inr ⟨?_, hlen.trans (hcl x)⟩
            intro i hi y hy
            obtain ⟨_, val', _, hat', _⟩ := hfirst i hi y hy
            exact headerAt_cseq hat hat'

/-! ## A body that is not there

`parse_http` compares the last length with the bytes behind the headers, so each way they can end gives an
equivalence. The two are joined along the search for the empty line, which ends at it, at a NUL, or not at all. -/

/-- The header lines of `s` that begin in front of `n` announce more than `got` bytes, and their numbers end in the
    memory. -/
structure BodyAwaited (s : Bytes) (n got : Nat) : Prop where
  ends : ∀ pre hdr post, HeaderLine s pre hdr post → pre.length < n → NumberEnds hdr (crlf ++ post)
  length : ∃ x, LastLength s n x ∧ got < sizeOfInt x

theorem headerLoop_awaits_iff {got : Nat} (hend : n ≠ 0 → 0 ∈ s ∨ crlf <+: s.drop n) (hr : r.contentLength = 0) :
    (∃ r' k, headerLoop s n r = some (r', k) ∧ got < r'.contentLength) ↔ BodyAwaited s n got := by
  constructor
  · rintro ⟨r', k, hloop, hgot⟩
    refine ⟨?_, ?_⟩
    · intro pre hdr post hl hlt
      by_contra hnum
      have hnone := (headerLoop_eq_none (r := r) hend).mpr ⟨pre, hdr, post, hl, hlt, hnum⟩
      rw [hloop] at hnone
      cases hnone
    · rcases headerLoop_length hloop with ⟨x, hlast, hlen⟩ | ⟨_, hlen⟩
      · exact ⟨x, hlast, hlen ▸ hgot⟩
      · omega
  · rintro ⟨hends, x, hlast, hgot⟩
    cases hloop : headerLoop s n r with
    | none =>
        obtain ⟨pre, hdr, post, hl, hlt, hnum⟩ := (headerLoop_eq_none hend).mp hloop
        exact absurd (hends pre hdr post hl hlt) hnum
    | some res =>
        obtain ⟨r', k⟩ := res
        refine ⟨r', k, rfl, ?_⟩
        rcases headerLoop_length hloop with ⟨y, hlast', hlen⟩ | ⟨hnone, _⟩
        · rw [hlen, hlast'.unique hlast]
          exact hgot
        · obtain ⟨i, hi, hx, _⟩ := hlast
          exact absurd hx (hnone i hi x)

/-- **A body is awaited**, by the memory `s` behind the request line; `s` is at `hs`, and `len` bytes are there. With
    an empty line the body is what lies behind it, and where that is further than `len` the difference wraps around;
    without one nothing counts as body. -/
inductive HeadersAwait (s : Bytes) (hs len : Nat) : Prop where
  | nul {a c : Bytes} (split : s = a ++ 0 :: c) (noNul : 0 ∉ a) (noBlank : ¬ crlfcrlf <:+: a)
      (body : BodyAwaited s (len - hs) 0)
  | blank {a c : Bytes} (split : s = a ++ crlfcrlf ++ c) (noNul : 0 ∉ a)
      (first : ∀ j < a.length, ¬ crlfcrlf <+: s.drop j)
      (body : BodyAwaited s a.length (sizeSub len (hs + a.length + 4)))

/-- The headers leave method and body alone. -/
theorem headerLoop_frame (h : headerLoop s n r = some (r', k)) : r'.method = r.method ∧ r'.bodyLen = r.bodyLen := by
  have hframe := (headerLoop_some h).2
  simp only [HTTPReq.frame, Prod.mk.injEq] at hframe
  exact ⟨hframe.1, hframe.2.2.2.2.2.2⟩

/-- Whether there is a request depends on the method. -/
theorem parseHeaders_ret {hs len : Nat} {p : Parse} (h : parseHeaders s hs len r = some p) :
    p.ret = (r.method.headD 0 != 0) := by
  unfold parseHeaders at h
  split at h
  · cases h
  · obtain ⟨⟨r', k⟩, hloop, rfl⟩ := Option.map_eq_some_iff.mp h
    exact congrArg (fun m => m.headD 0 != 0) (headerLoop_frame hloop).1
  · obtain ⟨⟨r', k⟩, hloop, rfl⟩ := Option.map_eq_some_iff.mp h
    exact congrArg (fun m => m.headD 0 != 0) (headerLoop_frame hloop).1

/-- What the loop leaves decides, when `parse_http` has found where the headers end. -/
theorem awaits_of_loop {hs len : Nat} {parse : HTTPReq × Nat → Parse}
    (hparse : parseHeaders s hs len r = (headerLoop s n r').map parse) (hreq : ∀ x, (parse x).req = x.1)
    (hend : n ≠ 0 → 0 ∈ s ∨ crlf <+: s.drop n) (hr : r'.contentLength = 0) :
    (∃ p, parseHeaders s hs len r = some p ∧ p.req.bodyLen < p.req.contentLength) ↔ BodyAwaited s n r'.bodyLen := by
  rw [hparse, ← headerLoop_awaits_iff hend hr]
  constructor
  · rintro ⟨p, hp, hgot⟩
    obtain ⟨⟨r₁, k⟩, hloop, rfl⟩ := Option.map_eq_some_iff.mp hp
    rw [hreq] at hgot
    exact ⟨r₁, k, hloop, (headerLoop_frame hloop).2 ▸ hgot⟩
  · rintro ⟨r₁, k, hloop, hgot⟩
    refine ⟨parse (r₁, k), Option.map_eq_some_iff.mpr ⟨_, hloop, rfl⟩, ?_⟩
    rw [hreq]
    exact (headerLoop_frame hloop).2.symm ▸ hgot

/-- Without an empty line a body is awaited by what lies in front of `len`. -/
theorem awaits_nul {hs len i : Nat} (hscan : strstr crlfcrlf s = .absent i) (h0 : 0 ∈ s)
    (hr : r.contentLength = 0 ∧ r.bodyLen = 0) :
    (∃ p, parseHeaders s hs len r = some p ∧ p.req.bodyLen < p.req.contentLength) ↔ BodyAwaited s (len - hs) 0 := by
  have hparse : parseHeaders s hs len r =
      (headerLoop s (len - hs) { r with headerStart := some hs, headerLen := sizeSub len hs }).map
        fun x => ⟨x.1.method.headD 0 != 0, x.1, hs + max (i + 1) x.2⟩ := by
    rw [parseHeaders, hscan]
  have hawaits := awaits_of_loop hparse (fun _ => rfl) (fun _ => .inl h0) hr.1
  rwa [hr.2] at hawaits

/-- With an empty line a body is awaited by what lies in front of that. -/
theorem awaits_blank {a c : Bytes} {hs len : Nat} (hscan : strstr crlfcrlf (a ++ crlfcrlf ++ c) = .found a.length)
    (hr : r.contentLength = 0) :
    (∃ p, parseHeaders (a ++ crlfcrlf ++ c) hs len r = some p ∧ p.req.bodyLen < p.req.contentLength) ↔
      BodyAwaited (a ++ crlfcrlf ++ c) a.length (sizeSub len (hs + a.length + 4)) := by
  have hend : crlf <+: (a ++ crlfcrlf ++ c).drop a.length := by
    rw [List.append_assoc, List.drop_left]
    exact (List.prefix_append crlf crlf).trans (List.prefix_append _ _)
  have hparse : parseHeaders (a ++ crlfcrlf ++ c) hs len r =
      (headerLoop (a ++ crlfcrlf ++ c) a.length { r with
        headerStart := some hs, headerLen := a.length, body := some (hs + a.length + 4),
        bodyLen := sizeSub len (hs + a.length + 4) }).map
          fun x => ⟨x.1.method.headD 0 != 0, x.1, hs + max (a.length + 4) x.2⟩ := by
    rw [parseHeaders, hscan]
  exact awaits_of_loop hparse (fun _ => rfl) (fun _ => .inr hend) hr

/-- **The body of the request is not there yet** exactly when the bytes say so. -/
theorem parseHeaders_awaits_iff {hs len : Nat} (hr : r.contentLength = 0 ∧ r.bodyLen = 0) :
    (∃ p, parseHeaders s hs len r = some p ∧ p.req.bodyLen < p.req.contentLength) ↔ HeadersAwait s hs len := by
  constructor
  · intro hawaits
    cases hscan : strstr crlfcrlf s with
    | fault =>
        obtain ⟨p, hparse, _⟩ := hawaits
        rw [parseHeaders, hscan] at hparse
        cases hparse
    | absent i =>
        obtain ⟨a, c, hsplit, _, h0, hno⟩ := (strstr_absent_iff zero_not_mem_crlfcrlf crlfcrlf_ne_nil).mp hscan
        exact .nul hsplit h0 hno ((awaits_nul hscan (by rw [hsplit]; simp) hr).mp hawaits)
    | found i =>
        obtain ⟨a, c, rfl, rfl, h0, hfirst⟩ := strstr_found hscan
        exact .blank rfl h0 hfirst ((awaits_blank hscan hr.1).mp hawaits)
  · rintro (@⟨a, c, hsplit, h0, hno, hbody⟩ | @⟨a, c, rfl, h0, hfirst, hbody⟩)
    · have hscan := (strstr_absent_iff zero_not_mem_crlfcrlf crlfcrlf_ne_nil).mpr ⟨a, c, hsplit, rfl, h0, hno⟩
      exact (awaits_nul hscan (by rw [hsplit]; simp) hr).mpr hbody
    · exact (awaits_blank (strstr_of_first crlfcrlf_ne_nil h0 hfirst) hr.1).mpr hbody

end Showcase
