import Showcase.Services.Http

/-!
# `Services.HttpLocal` — what `parse_http` depends on

`parse_http` stays within `buf[0..len)` when each of its searches finds its end there: the CR LF of the request
line, the empty line behind the headers, and the byte behind every number. Then nothing behind `len` matters and
the ranges it reports lie inside; otherwise it reads on, into whatever the memory holds.

* `parse_local_iff` — the exact condition on `buf[0..len)`.
* `parse_not_local` — a request line without its CR LF.
-/

namespace Showcase

open Lib

variable {s t line rest : Bytes} {n k : Nat} {r r' : HTTPReq}

/-! ## Header lines -/

/-- What the headers do not touch. -/
def HTTPReq.frame (r : HTTPReq) : Bytes × Bytes × Bytes × Option Nat × Nat × Option Nat × Nat :=
  (r.method, r.path, r.protocol, r.headerStart, r.headerLen, r.body, r.bodyLen)

/-- The header `name` has its value at `val`. -/
def HeaderAt (name line val : Bytes) : Prop :=
  ∃ name' value, line = name' ++ 58 :: value ∧ 58 ∉ name' ∧ val = value.dropWhile (· == 32) ∧
    strncaseeq name' name = true

/-- The header holds a number, and `val` is where it begins. -/
def NumberHeader (line val : Bytes) : Prop :=
  HeaderAt (ascii "Content-Length") line val ∨ HeaderAt (ascii "CSeq") line val

theorem atol_append {x : Int × Nat} (h : atol s = some x) (t : Bytes) : atol (s ++ t) = some x := by
  obtain ⟨y, hy, hx⟩ := Option.map_eq_some_iff.mp h
  rw [atol, strtol_append hy, Option.map_some, hx]

theorem atoi_append {x : Int × Nat} (h : atoi s = some x) (t : Bytes) : atoi (s ++ t) = some x := by
  obtain ⟨y, hy, hx⟩ := Option.map_eq_some_iff.mp h
  rw [atoi, atol_append hy, Option.map_some, hx]

theorem atol_read {x : Int × Nat} (h : atol s = some x) : x.2 ≤ s.length := by
  obtain ⟨y, hy, rfl⟩ := Option.map_eq_some_iff.mp h
  exact strtol_read hy

theorem atoi_read {x : Int × Nat} (h : atoi s = some x) : x.2 ≤ s.length := by
  obtain ⟨y, hy, rfl⟩ := Option.map_eq_some_iff.mp h
  exact atol_read (x := y) hy

theorem atol_eq_none : atol s = none ↔ strtol s = none := by
  rw [atol, Option.map_eq_none_iff]

theorem atoi_eq_none : atoi s = none ↔ strtol s = none := by
  rw [atoi, Option.map_eq_none_iff, atol_eq_none]

theorem strncaseeq_length {a b : Bytes} (h : strncaseeq a b = true) : a.length = b.length := by
  have hlen := congrArg List.length (eq_of_beq h)
  rwa [List.length_map, List.length_map] at hlen

/-- What a header line does: it is done with by itself, or it holds a number, which may run on behind it. -/
inductive HeaderEffect (line : Bytes) (r : HTTPReq) : Prop where
  | text (r' : HTTPReq) (hframe : r'.frame = r.frame) (hcl : r'.contentLength = r.contentLength)
      (hno : ∀ val, ¬ NumberHeader line val) (h : ∀ rest, parseHeader line rest r = some (r', 0))
  | number (val : Bytes) (hval : NumberHeader line val) (hlen : val.length ≤ line.length)
      (num : Bytes → Option (Int × Nat)) (set : Int → HTTPReq)
      (hnum : (num = atol ∧ HeaderAt (ascii "Content-Length") line val ∧ ∀ x, (set x).contentLength = sizeOfInt x) ∨
        (num = atoi ∧ HeaderAt (ascii "CSeq") line val ∧ ∀ x, (set x).contentLength = r.contentLength))
      (hframe : ∀ x, (set x).frame = r.frame)
      (h : ∀ rest, parseHeader line rest r =
        (num (val ++ rest)).map fun (x, k) => (set x, line.length - val.length + k))

theorem header_unique {name value name' value' : Bytes} (h : name ++ 58 :: value = name' ++ 58 :: value')
    (hcolon : 58 ∉ name) (hcolon' : 58 ∉ name') : name = name' ∧ value = value' := by
  have hlen : name.length = name'.length := by
    have h₁ : memchr 58 (name ++ 58 :: value) = some name.length := memchr_append hcolon
    rw [h, memchr_append hcolon'] at h₁
    exact (Option.some.inj h₁).symm
  obtain ⟨hname, hvalue⟩ := List.append_inj h hlen
  exact ⟨hname, (List.cons.inj hvalue).2⟩

theorem HeaderAt.unique {name name' val val' : Bytes} (h : HeaderAt name line val)
    (h' : HeaderAt name' line val') : val = val' := by
  obtain ⟨n, value, rfl, hcolon, rfl, _⟩ := h
  obtain ⟨n', value', heq, hcolon', rfl, _⟩ := h'
  rw [(header_unique heq hcolon hcolon').2]

/-- The number of a header line begins in one place. -/
theorem NumberHeader.unique {val val' : Bytes} (h : NumberHeader line val) (h' : NumberHeader line val') :
    val = val' := by
  rcases h with h | h <;> rcases h' with h' | h' <;> exact h.unique h'

theorem parseHeader_effect (line : Bytes) (r : HTTPReq) : HeaderEffect line r := by
  cases hcolon : memchr 58 line with
  | none =>
      refine .text r rfl rfl ?_ (fun rest => by simp only [parseHeader, hcolon])
      rintro val (⟨name, value, rfl, _⟩ | ⟨name, value, rfl, _⟩)
      · exact memchr_eq_none.mp hcolon (by simp)
      · exact memchr_eq_none.mp hcolon (by simp)
  | some nameLen =>
      obtain ⟨name, value, rfl, rfl, hno⟩ := memchr_eq_some.mp hcolon
      have htake : (name ++ 58 :: value).take name.length = name := by simp
      have hdrop : (name ++ 58 :: value).drop (name.length + 1) = value := by simp
      have hlen : (value.dropWhile (· == 32)).length ≤ (name ++ 58 :: value).length := by
        have hsuffix := (List.dropWhile_suffix (l := value) (· == 32)).length_le
        rw [List.length_append, List.length_cons]
        omega
      by_cases hcl : strncaseeq name (ascii "Content-Length") = true
      · have h14 : name.length = 14 := strncaseeq_length hcl
        have hat : HeaderAt (ascii "Content-Length") (name ++ 58 :: value) _ := ⟨name, value, rfl, hno, rfl, hcl⟩
        refine .number _ (.inl hat) hlen atol (fun x => { r with contentLength := sizeOfInt x })
          (.inl ⟨rfl, hat, fun x => rfl⟩) (fun x => rfl) ?_
        intro rest
        simp only [parseHeader, hcolon, htake, hdrop]
        rw [if_pos ⟨h14, hcl⟩]
      by_cases hcs : strncaseeq name (ascii "CSeq") = true
      · have h4 : name.length = 4 := strncaseeq_length hcs
        have hat : HeaderAt (ascii "CSeq") (name ++ 58 :: value) _ := ⟨name, value, rfl, hno, rfl, hcs⟩
        refine .number _ (.inr hat) hlen atoi (fun x => { r with cseq := x })
          (.inr ⟨rfl, hat, fun x => rfl⟩) (fun x => rfl) ?_
        intro rest
        simp only [parseHeader, hcolon, htake, hdrop]
        rw [if_neg (fun h => hcl h.2), if_neg (fun h => absurd h.1 (by omega)),
          if_neg (fun h => absurd h.1 (by omega)), if_neg (fun h => absurd h.1 (by omega)),
          if_neg (fun h => absurd h.1 (by omega)), if_pos ⟨h4, hcs⟩]
      -- no number: every branch is done with the line
      have hnone : ∀ val, ¬ NumberHeader (name ++ 58 :: value) val := by
        rintro val (⟨name', value', heq, hno', _, hname⟩ | ⟨name', value', heq, hno', _, hname⟩)
        · rw [← (header_unique heq hno hno').1] at hname
          exact hcl hname
        · rw [← (header_unique heq hno hno').1] at hname
          exact hcs hname
      obtain ⟨r', hframe, hlength, hall⟩ : ∃ r' : HTTPReq, r'.frame = r.frame ∧
          r'.contentLength = r.contentLength ∧ ∀ rest, parseHeader (name ++ 58 :: value) rest r = some (r', 0) := by
        let val := value.dropWhile (· == 32)
        have h14 : ¬ (name.length = 14 ∧ strncaseeq name (ascii "Content-Length") = true) := fun h => hcl h.2
        have h4 : ¬ (name.length = 4 ∧ strncaseeq name (ascii "CSeq") = true) := fun h => hcs h.2
        simp only [parseHeader, hcolon, htake, hdrop, h14, h4, if_false]
        by_cases h₁ : name.length = 12 ∧ strncaseeq name (ascii "Content-Type") = true
        · exact ⟨{ r with contentType := copyField 128 r.contentType val }, rfl, rfl, fun _ => if_pos h₁⟩
        simp only [h₁, if_false]
        by_cases h₂ : name.length = 12 ∧ strncaseeq (name.take 11) (ascii "X-Apple-HKP") = true ∧ 11 ≤ name.length
        · exact ⟨{ r with xAppleHKP := copyField 32 r.xAppleHKP val }, rfl, rfl, fun _ => if_pos h₂⟩
        simp only [h₂, if_false]
        by_cases h₃ : name.length = 10 ∧ strncaseeq name (ascii "X-Apple-PD") = true
        · exact ⟨{ r with xApplePD := copyField 16 r.xApplePD val }, rfl, rfl, fun _ => if_pos h₃⟩
        simp only [h₃, if_false]
        by_cases h₄ : name.length = 10 ∧ strncaseeq name (ascii "X-Apple-AT") = true
        · exact ⟨{ r with xAppleAT := copyField 16 r.xAppleAT val }, rfl, rfl, fun _ => if_pos h₄⟩
        simp only [h₄, if_false]
        exact ⟨r, rfl, rfl, fun _ => rfl⟩
      exact .text r' hframe hlength hnone hall

/-- The header line ends where its number does, or runs on behind it. -/
def NumberEnds (line rest : Bytes) : Prop :=
  ∀ val, NumberHeader line val → strtol (val ++ rest) ≠ none

theorem parseHeader_eq_none : parseHeader line rest r = none ↔ ¬ NumberEnds line rest := by
  rcases parseHeader_effect line r with ⟨r', _, _, hno, h⟩ | ⟨val, hval, _, num, set, hnum, _, h⟩
  · rw [h rest]
    simp only [reduceCtorEq, false_iff, not_not]
    intro val hval
    exact absurd hval (hno val)
  · rw [h rest, Option.map_eq_none_iff]
    have hnone : num (val ++ rest) = none ↔ strtol (val ++ rest) = none := by
      rcases hnum with ⟨rfl, _⟩ | ⟨rfl, _⟩
      · exact atol_eq_none
      · exact atoi_eq_none
    rw [hnone]
    constructor
    · intro hstr hends
      exact hends val hval hstr
    · intro hends
      by_contra hstr
      apply hends
      intro val' hval'
      rw [hval'.unique hval]
      exact hstr

/-- A header line that does not run on behind `rest` is done the same way whatever follows. -/
theorem parseHeader_append (h : parseHeader line rest r = some (r', k)) (t : Bytes) :
    parseHeader line (rest ++ t) r = some (r', k) := by
  rcases parseHeader_effect line r with ⟨r₁, _, _, _, hall⟩ | ⟨val, _, _, num, set, hnum, _, hall⟩
  · rw [hall, ← hall rest]
    exact h
  · rw [hall] at h ⊢
    obtain ⟨x, hx, hr⟩ := Option.map_eq_some_iff.mp h
    rw [← List.append_assoc]
    have hx' : num (val ++ rest ++ t) = some x := by
      rcases hnum with ⟨rfl, _⟩ | ⟨rfl, _⟩
      · exact atol_append hx t
      · exact atoi_append hx t
    rw [hx', Option.map_some, hr]

/-- A header line is read no further than the memory goes, and leaves the frame alone. -/
theorem parseHeader_some (h : parseHeader line rest r = some (r', k)) :
    k ≤ line.length + rest.length ∧ r'.frame = r.frame := by
  rcases parseHeader_effect line r with ⟨r₁, hframe, _, _, hall⟩ | ⟨val, _, hlen, num, set, hnum, hframe, hall⟩
  · rw [hall] at h
    obtain ⟨rfl, rfl⟩ := Prod.mk.inj (Option.some.inj h)
    exact ⟨Nat.zero_le _, hframe⟩
  · rw [hall] at h
    obtain ⟨x, hx, hr⟩ := Option.map_eq_some_iff.mp h
    obtain ⟨rfl, rfl⟩ := Prod.mk.inj hr
    have hread : x.2 ≤ (val ++ rest).length := by
      rcases hnum with ⟨rfl, _⟩ | ⟨rfl, _⟩
      · exact atol_read hx
      · exact atoi_read hx
    rw [List.length_append] at hread
    exact ⟨by omega, hframe _⟩

/-! ## The header loop -/

theorem headerLoop_zero (s : Bytes) (r : HTTPReq) : headerLoop s 0 r = some (r, 0) := by
  rw [headerLoop, if_pos rfl]

/-- **One round** takes the first line. -/
theorem headerLoop_line (hn : n ≠ 0) (h0 : 0 ∉ line) (hline : ¬ crlf <:+: line) :
    headerLoop (line ++ crlf ++ rest) n r =
      (parseHeader line (crlf ++ rest) r).bind fun (r, k) =>
        (headerLoop rest (n - (line.length + 2)) r).map fun (r, k') =>
          (r, max (max (line.length + 2) k) (line.length + 2 + k')) := by
  have hscan : strstr crlf (line ++ crlf ++ rest) = .found line.length :=
    strstr_crlf_iff.mpr ⟨line, rest, rfl, rfl, h0, hline⟩
  have htake : (line ++ crlf ++ rest).take line.length = line := by simp
  have hdrop : (line ++ crlf ++ rest).drop line.length = crlf ++ rest := by simp
  have hnext : (line ++ crlf ++ rest).drop (line.length + 2) = rest := by
    rw [List.append_assoc, ← List.drop_drop, List.drop_left]
    rfl
  rw [headerLoop, if_neg hn, hscan]
  simp only [htake, hdrop, hnext]
  cases parseHeader line (crlf ++ rest) r with
  | none => rfl
  | some x => rfl

/-- **Header lines are local.** -/
theorem headerLoop_append {x : HTTPReq × Nat} (h : headerLoop s n r = some x) (t : Bytes) :
    headerLoop (s ++ t) n r = some x := by
  induction n using Nat.strong_induction_on generalizing s r x with
  | _ n ih =>
      by_cases hn : n = 0
      · subst hn
        rw [headerLoop_zero] at h ⊢
        exact h
      cases hscan : strstr crlf s with
      | fault =>
          rw [headerLoop, if_neg hn, hscan] at h
          cases h
      | absent nul =>
          have happ := strstr_append crlf_ne_nil zero_not_mem_crlf (by rw [hscan]; simp) t
          rw [headerLoop, if_neg hn, hscan] at h
          rw [headerLoop, if_neg hn, happ, hscan]
          exact h
      | found le =>
          obtain ⟨line, rest, rfl, rfl, h0, hline⟩ := strstr_crlf_iff.mp hscan
          rw [headerLoop_line hn h0 hline] at h
          obtain ⟨⟨r₁, k⟩, hhdr, h⟩ := Option.bind_eq_some_iff.mp h
          obtain ⟨x', hloop, hx⟩ := Option.map_eq_some_iff.mp h
          have hhdr' := parseHeader_append hhdr t
          have hloop' := ih (n - (line.length + 2)) (by omega) hloop
          rw [List.append_assoc (line ++ crlf), headerLoop_line hn h0 hline, ← List.append_assoc, hhdr',
            Option.bind_some]
          simp only [hloop', Option.map_some]
          exact congrArg some hx

/-- The loop reads no more than there is, and leaves the frame alone. -/
theorem headerLoop_some (h : headerLoop s n r = some (r', k)) : k ≤ s.length ∧ r'.frame = r.frame := by
  induction n using Nat.strong_induction_on generalizing s r r' k with
  | _ n ih =>
      by_cases hn : n = 0
      · subst hn
        rw [headerLoop_zero] at h
        obtain ⟨rfl, rfl⟩ := Prod.mk.inj (Option.some.inj h)
        exact ⟨Nat.zero_le _, rfl⟩
      cases hscan : strstr crlf s with
      | fault =>
          rw [headerLoop, if_neg hn, hscan] at h
          cases h
      | absent nul =>
          obtain ⟨a, c, rfl, rfl, _⟩ := strstr_absent hscan
          rw [headerLoop, if_neg hn, hscan] at h
          obtain ⟨rfl, rfl⟩ := Prod.mk.inj (Option.some.inj h)
          refine ⟨?_, rfl⟩
          rw [List.length_append, List.length_cons]
          omega
      | found le =>
          obtain ⟨line, rest, rfl, rfl, h0, hline⟩ := strstr_crlf_iff.mp hscan
          rw [headerLoop_line hn h0 hline] at h
          obtain ⟨⟨r₁, k₁⟩, hhdr, h⟩ := Option.bind_eq_some_iff.mp h
          obtain ⟨⟨r₂, k₂⟩, hloop, hx⟩ := Option.map_eq_some_iff.mp h
          obtain ⟨rfl, rfl⟩ := Prod.mk.inj hx
          obtain ⟨hk₁, hframe₁⟩ := parseHeader_some hhdr
          obtain ⟨hk₂, hframe₂⟩ := ih (n - (line.length + 2)) (by omega) hloop
          have hcrlf : crlf.length = 2 := rfl
          rw [List.length_append, hcrlf] at hk₁
          refine ⟨?_, hframe₂.trans hframe₁⟩
          rw [List.length_append, List.length_append, hcrlf]
          omega

/-! ## When the headers stay within

The loop is taken line by line. A line leaves the memory only by its number; where all lines stay within, the loop
stops at a NUL or at the empty line, and both are in the memory. -/

/-- A header line of the memory `s`: what is in front of it is nothing or ends in CR LF, and no NUL is there. -/
structure HeaderLine (s pre hdr post : Bytes) : Prop where
  split : s = pre ++ hdr ++ crlf ++ post
  start : pre = [] ∨ crlf <:+ pre
  noNul : 0 ∉ pre ∧ 0 ∉ hdr
  line : ¬ crlf <:+: hdr

/-- Behind a NUL no line ends: where no CR LF begins in front of it, there is no header line. -/
theorem HeaderLine.not_absent {a c pre hdr post : Bytes} (h : HeaderLine (a ++ 0 :: c) pre hdr post)
    (hno : ∀ j ≤ a.length, ¬ crlf <+: (a ++ 0 :: c).drop j) : False := by
  have hle : (pre ++ hdr).length ≤ a.length := by
    apply length_le_of_noNul (h.split.trans (List.append_assoc (pre ++ hdr) crlf post))
    intro hmem
    rcases List.mem_append.mp hmem with hmem | hmem
    · exact h.noNul.1 hmem
    · exact h.noNul.2 hmem
  apply hno _ hle
  rw [h.split, List.append_assoc (pre ++ hdr), List.drop_left]
  exact List.prefix_append _ _

/-- At each place at most one header line begins. -/
theorem HeaderLine.unique {pre hdr post pre' hdr' post' : Bytes} (h : HeaderLine s pre hdr post)
    (h' : HeaderLine s pre' hdr' post') (hlen : pre.length = pre'.length) :
    pre = pre' ∧ hdr = hdr' ∧ post = post' := by
  have hsplit : pre ++ (hdr ++ crlf ++ post) = pre' ++ (hdr' ++ crlf ++ post') := by
    simpa only [List.append_assoc] using h.split.symm.trans h'.split
  obtain ⟨hpre, hrest⟩ := List.append_inj hsplit hlen
  exact ⟨hpre, firstLine_unique hrest h.line h'.line⟩

/-- **Header lines, one by one**: the first line, or one of the rest. -/
theorem headerLine_iff {pre hdr post : Bytes} (h0 : 0 ∉ line) (hline : ¬ crlf <:+: line) :
    HeaderLine (line ++ crlf ++ rest) pre hdr post ↔
      (pre = [] ∧ hdr = line ∧ post = rest) ∨ ∃ pre', pre = line ++ crlf ++ pre' ∧
        HeaderLine rest pre' hdr post := by
  constructor
  · rintro ⟨hsplit, hstart, hnul, hhdr⟩
    rcases hstart with rfl | ⟨u, rfl⟩
    · obtain ⟨rfl, rfl⟩ := firstLine_unique hsplit hline hhdr
      exact .inl ⟨rfl, rfl, rfl⟩
    -- the CR LF in front of the line is the first one or lies behind it
    have hle : line.length ≤ u.length := by
      by_contra hlt
      have hp : crlf <+: (line ++ crlf ++ rest).drop u.length := by
        rw [hsplit]
        simp only [List.append_assoc, List.drop_left]
        exact List.prefix_append _ _
      apply hline
      exact (crlf_inside (by omega) hp).isInfix.trans (List.drop_suffix _ line).isInfix
    have hpre : line ++ crlf <+: u ++ crlf := by
      apply List.prefix_of_prefix_length_le (List.prefix_append (line ++ crlf) rest)
      · rw [hsplit]
        simp only [List.append_assoc]
        rw [← List.append_assoc u crlf]
        exact List.prefix_append _ _
      · simp only [List.length_append]
        omega
    obtain ⟨pre', hpre'⟩ := hpre
    refine .inr ⟨pre', hpre'.symm, ?_, ?_, ?_, hhdr⟩
    · rw [← hpre'] at hsplit
      simp only [List.append_assoc] at hsplit
      have := List.append_cancel_left (List.append_cancel_left hsplit)
      simpa only [List.append_assoc] using this
    · have hsuffix : crlf <:+ line ++ crlf ++ pre' := ⟨u, hpre'.symm⟩
      rcases pre' with _ | ⟨x, _ | ⟨y, pre'⟩⟩
      · exact .inl rfl
      · -- LF and one more byte are not CR LF
        obtain ⟨v, hv⟩ := hsuffix
        have hv' : v ++ [13] ++ [10] = line ++ [13] ++ [10] ++ [x] := by
          simpa [crlf] using hv
        have hx := List.append_inj_left' hv' rfl
        have hlf := List.append_inj_right' hx rfl
        cases hlf
      · exact .inr (List.suffix_of_suffix_length_le hsuffix (List.suffix_append _ _) (by simp [crlf]))
    · refine ⟨fun hmem => hnul.1 ?_, hnul.2⟩
      rw [← hpre']
      exact List.mem_append_right _ hmem
  · rintro (⟨rfl, rfl, rfl⟩ | ⟨pre', rfl, hsplit, hstart, hnul, hhdr⟩)
    · exact ⟨rfl, .inl rfl, ⟨List.not_mem_nil, h0⟩, hline⟩
    · refine ⟨?_, .inr ?_, ⟨?_, hnul.2⟩, hhdr⟩
      · rw [hsplit]
        simp only [List.append_assoc]
      · rcases hstart with rfl | hsuffix
        · rw [List.append_nil]
          exact List.suffix_append _ _
        · exact hsuffix.trans (List.suffix_append _ _)
      · intro hmem
        rcases List.mem_append.mp hmem with hmem | hmem
        · rcases List.mem_append.mp hmem with hmem | hmem
          · exact h0 hmem
          · exact zero_not_mem_crlf hmem
        · exact hnul.1 hmem

/-- **The loop leaves the memory** only through a number: it is known to end at a NUL or at `hend`. -/
theorem headerLoop_eq_none (hend : n ≠ 0 → 0 ∈ s ∨ crlf <+: s.drop n) :
    headerLoop s n r = none ↔
      ∃ pre hdr post, HeaderLine s pre hdr post ∧ pre.length < n ∧ ¬ NumberEnds hdr (crlf ++ post) := by
  induction n using Nat.strong_induction_on generalizing s r with
  | _ n ih =>
      by_cases hn : n = 0
      · subst hn
        rw [headerLoop_zero]
        simp
      have hstop := hend hn
      cases hscan : strstr crlf s with
      | fault =>
          obtain ⟨h0, hno⟩ := (strstr_fault_iff crlf_ne_nil).mp hscan
          rcases hstop with hnul | hp
          · exact absurd hnul h0
          · exact absurd (hp.isInfix.trans (List.drop_suffix n s).isInfix) hno
      | absent nul =>
          obtain ⟨a, c, rfl, rfl, h0, hno⟩ := strstr_absent hscan
          rw [headerLoop, if_neg hn, hscan]
          simp only [reduceCtorEq, false_iff]
          rintro ⟨pre, hdr, post, hline, _, _⟩
          exact hline.not_absent hno
      | found le =>
          obtain ⟨line, rest, rfl, rfl, h0, hline⟩ := strstr_crlf_iff.mp hscan
          have hrest : n - (line.length + 2) ≠ 0 → 0 ∈ rest ∨ crlf <+: rest.drop (n - (line.length + 2)) := by
            intro hn'
            rcases hstop with hnul | hp
            · refine .inl ?_
              rcases List.mem_append.mp hnul with hmem | hmem
              · rcases List.mem_append.mp hmem with hmem | hmem
                · exact absurd hmem h0
                · exact absurd hmem zero_not_mem_crlf
              · exact hmem
            · refine .inr ?_
              have hlen : n = (line ++ crlf).length + (n - (line.length + 2)) := by
                have hcrlf : crlf.length = 2 := rfl
                rw [List.length_append, hcrlf]
                omega
              rw [hlen, ← List.drop_drop, List.drop_left] at hp
              exact hp
          rw [headerLoop_line hn h0 hline, Option.bind_eq_none_iff]
          simp only [headerLine_iff h0 hline]
          constructor
          · intro hall
            cases hhdr : parseHeader line (crlf ++ rest) r with
            | none => exact ⟨[], line, rest, .inl ⟨rfl, rfl, rfl⟩, by simp; omega, parseHeader_eq_none.mp hhdr⟩
            | some x =>
                have hloop := Option.map_eq_none_iff.mp (hall x hhdr)
                obtain ⟨pre, hdr, post, hl, hlt, hnum⟩ := (ih _ (by omega) hrest).mp hloop
                refine ⟨_, hdr, post, .inr ⟨pre, rfl, hl⟩, ?_, hnum⟩
                have hcrlf : crlf.length = 2 := rfl
                rw [List.length_append, List.length_append, hcrlf]
                omega
          · rintro ⟨pre, hdr, post, ⟨rfl, rfl, rfl⟩ | ⟨pre', rfl, hl⟩, hlt, hnum⟩ x hhdr
            · rw [parseHeader_eq_none.mpr hnum] at hhdr
              cases hhdr
            · apply Option.map_eq_none_iff.mpr
              apply (ih _ (by omega) hrest).mpr
              refine ⟨pre', hdr, post, hl, ?_, hnum⟩
              have hcrlf : crlf.length = 2 := rfl
              rw [List.length_append, List.length_append, hcrlf] at hlt
              omega

/-- No empty line begins in `s` before `n`, nor at `n`. -/
def NoBlank (s : Bytes) (n : Nat) : Prop := ∀ j ≤ n, ¬ crlfcrlf <+: s.drop j

/-- The headers stay within `s`: the empty line or a NUL is in it, and every number of a header ends in it. -/
def HeadersWithin (s : Bytes) : Prop :=
  (0 ∈ s ∨ crlfcrlf <:+: s) ∧
    ∀ pre hdr post, HeaderLine s pre hdr post → NoBlank s pre.length → NumberEnds hdr (crlf ++ post)

theorem parseHeaders_eq_none {hs len : Nat} (hlen : len - hs = s.length) :
    parseHeaders s hs len r = none ↔ ¬ HeadersWithin s := by
  unfold parseHeaders
  cases hscan : strstr crlfcrlf s with
  | fault =>
      obtain ⟨h0, hno⟩ := (strstr_fault_iff crlfcrlf_ne_nil).mp hscan
      simp only [true_iff]
      rintro ⟨hnul | hblank, _⟩
      · exact h0 hnul
      · exact hno hblank
  | absent nul =>
      obtain ⟨a, c, rfl, rfl, h0, hno⟩ := strstr_absent hscan
      have hmem : 0 ∈ a ++ 0 :: c := by simp
      rw [Option.map_eq_none_iff, headerLoop_eq_none (fun _ => .inl hmem), hlen]
      constructor
      · rintro ⟨pre, hdr, post, hl, _, hnum⟩ ⟨_, hall⟩
        apply hnum
        apply hall pre hdr post hl
        intro j hj
        -- the line begins in front of the NUL
        have hle : pre.length ≤ a.length := by
          have hsplit := hl.split
          rw [List.append_assoc, List.append_assoc] at hsplit
          exact length_le_of_noNul hsplit hl.noNul.1
        exact hno j (by omega)
      · intro hnot
        by_contra hnone
        apply hnot
        refine ⟨.inl hmem, ?_⟩
        intro pre hdr post hl _
        by_contra hnum
        apply hnone
        refine ⟨pre, hdr, post, hl, ?_, hnum⟩
        rw [hl.split]
        simp only [List.length_append, crlf, List.length_cons]
        omega
  | found i =>
      obtain ⟨a, c, rfl, rfl, h0, hfirst⟩ := strstr_found hscan
      have hblank : crlfcrlf <+: (a ++ crlfcrlf ++ c).drop a.length := by
        rw [List.append_assoc, List.drop_left]
        exact List.prefix_append _ _
      have hend : crlf <+: (a ++ crlfcrlf ++ c).drop a.length := List.IsPrefix.trans ⟨crlf, rfl⟩ hblank
      rw [Option.map_eq_none_iff, headerLoop_eq_none (fun _ => .inr hend)]
      have hbefore : ∀ k, k < a.length ↔ NoBlank (a ++ crlfcrlf ++ c) k := by
        intro k
        constructor
        · intro hk j hj
          exact hfirst j (by omega)
        · intro hno
          by_contra hk
          exact hno a.length (by omega) hblank
      constructor
      · rintro ⟨pre, hdr, post, hl, hlt, hnum⟩ ⟨_, hall⟩
        exact hnum (hall pre hdr post hl ((hbefore _).mp hlt))
      · intro hnot
        by_contra hnone
        apply hnot
        refine ⟨.inr (List.infix_append _ _ _), ?_⟩
        intro pre hdr post hl hno
        by_contra hnum
        exact hnone ⟨pre, hdr, post, hl, (hbefore _).mpr hno, hnum⟩

/-- The headers are local. -/
theorem parseHeaders_append {hs len : Nat} {p : Parse} (h : parseHeaders s hs len r = some p) (t : Bytes) :
    parseHeaders (s ++ t) hs len r = some p := by
  unfold parseHeaders at h ⊢
  have hne : strstr crlfcrlf s ≠ .fault := by
    intro hscan
    rw [hscan] at h
    cases h
  rw [strstr_append crlfcrlf_ne_nil zero_not_mem_crlfcrlf hne t]
  cases hscan : strstr crlfcrlf s with
  | fault => exact absurd hscan hne
  | absent nul =>
      rw [hscan] at h
      obtain ⟨x, hloop, hx⟩ := Option.map_eq_some_iff.mp h
      simp only [headerLoop_append hloop t, Option.map_some]
      exact congrArg some hx
  | found i =>
      rw [hscan] at h
      obtain ⟨x, hloop, hx⟩ := Option.map_eq_some_iff.mp h
      simp only [headerLoop_append hloop t, Option.map_some]
      exact congrArg some hx

/-! ## What a request reports -/

/-- The ranges of the request lie within `len` bytes. -/
structure HTTPReq.Within (r : HTTPReq) (len : Nat) : Prop where
  header : ∀ i, r.headerStart = some i → i + r.headerLen ≤ len
  body : ∀ i, r.body = some i → i + r.bodyLen ≤ len
  bodyLen : r.bodyLen ≤ len

theorem within_zero {len : Nat} {r : HTTPReq} (h : r.headerStart = none ∧ r.body = none ∧ r.bodyLen = 0) :
    r.Within len where
  header i hi := by rw [h.1] at hi; cases hi
  body i hi := by rw [h.2.1] at hi; cases hi
  bodyLen := by rw [h.2.2]; exact Nat.zero_le _

theorem sizeSub_of_le {a b : Nat} (h : b ≤ a) : sizeSub a b = a - b := if_pos h

theorem parseHeaders_within {hs len : Nat} {p : Parse} (hlen : hs + s.length = len)
    (hr : r.body = none ∧ r.bodyLen = 0) (h : parseHeaders s hs len r = some p) :
    p.req.Within len ∧ p.reads ≤ len := by
  unfold parseHeaders at h
  cases hscan : strstr crlfcrlf s with
  | fault =>
      rw [hscan] at h
      cases h
  | absent nul =>
      obtain ⟨a, c, rfl, rfl, _⟩ := strstr_absent hscan
      rw [hscan] at h
      obtain ⟨⟨r', k⟩, hloop, rfl⟩ := Option.map_eq_some_iff.mp h
      obtain ⟨hk, hframe⟩ := headerLoop_some hloop
      simp only [HTTPReq.frame, Prod.mk.injEq] at hframe
      obtain ⟨_, _, _, hstart, hheaderLen, hbody, hbodyLen⟩ := hframe
      rw [List.length_append, List.length_cons] at hlen hk
      rw [sizeSub_of_le (by omega)] at hheaderLen
      refine ⟨⟨?_, ?_, ?_⟩, ?_⟩
      · intro i hi
        rw [hstart] at hi
        obtain rfl := Option.some.inj hi
        rw [hheaderLen]
        omega
      · intro i hi
        rw [hbody, hr.1] at hi
        cases hi
      · rw [hbodyLen, hr.2]
        exact Nat.zero_le _
      · show hs + max (a.length + 1) k ≤ len
        omega
  | found i =>
      obtain ⟨a, c, rfl, rfl, _⟩ := strstr_found hscan
      rw [hscan] at h
      obtain ⟨⟨r', k⟩, hloop, rfl⟩ := Option.map_eq_some_iff.mp h
      obtain ⟨hk, hframe⟩ := headerLoop_some hloop
      simp only [HTTPReq.frame, Prod.mk.injEq] at hframe
      obtain ⟨_, _, _, hstart, hheaderLen, hbody, hbodyLen⟩ := hframe
      have hblank : crlfcrlf.length = 4 := rfl
      rw [List.length_append, List.length_append, hblank] at hlen hk
      rw [sizeSub_of_le (by omega)] at hbodyLen
      refine ⟨⟨?_, ?_, ?_⟩, ?_⟩
      · intro i hi
        rw [hstart] at hi
        obtain rfl := Option.some.inj hi
        rw [hheaderLen]
        omega
      · intro i hi
        rw [hbody] at hi
        obtain rfl := Option.some.inj hi
        rw [hbodyLen]
        omega
      · rw [hbodyLen]
        omega
      · show hs + max (a.length + 4) k ≤ len
        omega

/-! ## parse_http -/

/-- The request line of `b`, up to the first CR LF, no NUL in it. -/
structure RequestLine (b line rest : Bytes) : Prop where
  split : b = line ++ crlf ++ rest
  noNul : 0 ∉ line
  first : ¬ crlf <:+: line

theorem RequestLine.unique {b line rest line' rest' : Bytes} (h : RequestLine b line rest)
    (h' : RequestLine b line' rest') : line = line' ∧ rest = rest' :=
  firstLine_unique (h.split.symm.trans h'.split) h.first h'.first

/-- The search for the end of the line finds it. -/
theorem RequestLine.found {b line rest : Bytes} (h : RequestLine b line rest) : strstr crlf b = .found line.length :=
  strstr_crlf_iff.mpr ⟨line, rest, h.split, rfl, h.noNul, h.first⟩

/-- A line has two blanks exactly when both searches of `parse_http` find one. -/
theorem two_blanks_iff : 2 ≤ line.count 32 ↔
    ∃ sp1 n, memchr 32 line = some sp1 ∧ memchr 32 (line.drop (sp1 + 1)) = some n := by
  constructor
  · intro h
    have hmem : 32 ∈ line := List.count_pos_iff.mp (by omega)
    cases hsp : memchr 32 line with
    | none => exact absurd hmem (memchr_eq_none.mp hsp)
    | some sp1 =>
        obtain ⟨a, b, rfl, rfl, hno⟩ := memchr_eq_some.mp hsp
        rw [List.count_append, List.count_eq_zero_of_not_mem hno, List.count_cons_self] at h
        have hdrop : (a ++ 32 :: b).drop (a.length + 1) = b := by simp
        cases hn : memchr 32 b with
        | none => exact absurd (List.count_pos_iff.mp (by omega)) (memchr_eq_none.mp hn)
        | some n => exact ⟨a.length, n, rfl, by rw [hdrop]; exact hn⟩
  · rintro ⟨sp1, n, hsp, hn⟩
    obtain ⟨a, b, rfl, rfl, _⟩ := memchr_eq_some.mp hsp
    have hdrop : (a ++ 32 :: b).drop (a.length + 1) = b := by simp
    rw [hdrop] at hn
    obtain ⟨c, d, rfl, _, _⟩ := memchr_eq_some.mp hn
    simp only [List.count_append, List.count_cons_self]
    omega

/-- **The condition**: shorter than ten bytes, or every search that `parse_http` makes ends in the buffer. -/
def ParseWithin (b : Bytes) : Prop :=
  10 ≤ b.length → (0 ∈ b ∨ crlf <:+: b) ∧
    ∀ line rest, RequestLine b line rest → 2 ≤ line.count 32 → HeadersWithin rest

/-- `parse_http` behind the request line. -/
def afterLine (line rest : Bytes) (len : Nat) : Option Parse :=
  match memchr 32 line with
  | none => some ⟨false, .zero, line.length + 2⟩
  | some sp1 =>
      let r := { HTTPReq.zero with method := line.take (min sp1 15) }
      match memchr 32 (line.drop (sp1 + 1)) with
      | none => some ⟨false, r, line.length + 2⟩
      | some n =>
          parseHeaders rest (line.length + 2) len { r with
            path := (line.drop (sp1 + 1)).take (min n 511)
            protocol := ((line.drop (sp1 + 1)).drop (n + 1)).take 15 }

/-- A buffer with a request line. -/
theorem parseHttp_line {b t : Bytes} {len : Nat} (hlen : 10 ≤ len) (h : RequestLine b line rest) :
    parseHttp (b ++ t) len = afterLine line (rest ++ t) len := by
  have hsplit : b ++ t = line ++ crlf ++ (rest ++ t) := by
    rw [h.split]
    simp only [List.append_assoc]
  have hscan : strstr crlf (b ++ t) = .found line.length :=
    strstr_crlf_iff.mpr ⟨line, rest ++ t, hsplit, rfl, h.noNul, h.first⟩
  have htake : (b ++ t).take line.length = line := by
    rw [hsplit]
    simp
  have hdrop : (b ++ t).drop (line.length + 2) = rest ++ t := by
    rw [hsplit, List.append_assoc, ← List.drop_drop, List.drop_left]
    rfl
  unfold parseHttp
  rw [if_neg (by omega), hscan]
  simp only [htake, hdrop]
  rfl

/-- How the search for the request line ends in the buffer. -/
theorem requestLine_cases (b : Bytes) :
    (∃ line rest, RequestLine b line rest) ∨ (∃ nul, strstr crlf b = .absent nul ∧ nul < b.length) ∨
      (strstr crlf b = .fault ∧ ¬ (0 ∈ b ∨ crlf <:+: b)) := by
  cases hscan : strstr crlf b with
  | fault =>
      obtain ⟨h0, hno⟩ := (strstr_fault_iff crlf_ne_nil).mp hscan
      exact .inr (.inr ⟨rfl, by rintro (h | h); exacts [h0 h, hno h]⟩)
  | absent nul =>
      obtain ⟨a, c, rfl, rfl, _⟩ := strstr_absent hscan
      refine .inr (.inl ⟨_, rfl, ?_⟩)
      rw [List.length_append, List.length_cons]
      omega
  | found i =>
      obtain ⟨line, rest, hsplit, _, h0, hfirst⟩ := strstr_crlf_iff.mp hscan
      exact .inl ⟨line, rest, hsplit, h0, hfirst⟩

theorem parseHttp_eq_none (b : Bytes) : parseHttp b b.length = none ↔ ¬ ParseWithin b := by
  by_cases hshort : b.length < 10
  · rw [parseHttp, if_pos hshort]
    simp only [reduceCtorEq, false_iff, not_not]
    intro hlen
    omega
  rcases requestLine_cases b with ⟨line, rest, hl⟩ | ⟨nul, hscan, hlt⟩ | ⟨hscan, hno⟩
  · have hparse := parseHttp_line (t := []) (show 10 ≤ b.length by omega) hl
    rw [List.append_nil, List.append_nil] at hparse
    have hrest : b.length - (line.length + 2) = rest.length := by
      have hcrlf : crlf.length = 2 := rfl
      rw [hl.split, List.length_append, List.length_append, hcrlf]
      omega
    have hcrlf : 0 ∈ b ∨ crlf <:+: b := .inr (hl.split ▸ List.infix_append _ _ _)
    have hcond : ParseWithin b ↔ (2 ≤ line.count 32 → HeadersWithin rest) := by
      constructor
      · intro h
        exact (h (by omega)).2 line rest hl
      · intro h _
        refine ⟨hcrlf, ?_⟩
        intro line' rest' hl' hblanks
        obtain ⟨rfl, rfl⟩ := hl.unique hl'
        exact h hblanks
    rw [hparse, hcond, two_blanks_iff, afterLine]
    cases hsp : memchr 32 line with
    | none => simp
    | some sp1 =>
        cases hn : memchr 32 (line.drop (sp1 + 1)) with
        | none => simp [hn]
        | some n =>
            simp only [hn]
            rw [parseHeaders_eq_none hrest]
            simp [hn]
  · rw [parseHttp, if_neg hshort, hscan]
    obtain ⟨a, c, hsplit, _, h0, hnot⟩ := strstr_absent hscan
    simp only [reduceCtorEq, false_iff, not_not]
    intro _
    refine ⟨.inl (by rw [hsplit]; simp), ?_⟩
    intro line rest hl
    exact nomatch hscan.symm.trans hl.found
  · rw [parseHttp, if_neg hshort, hscan]
    simp only [true_iff]
    intro h
    exact hno (h (by omega)).1

/-- **parse_http is local** where it stays within the buffer. -/
theorem parseHttp_append {b : Bytes} {p : Parse} (h : parseHttp b b.length = some p) (t : Bytes) :
    parseHttp (b ++ t) b.length = some p := by
  by_cases hshort : b.length < 10
  · rw [parseHttp, if_pos hshort] at h ⊢
    exact h
  rcases requestLine_cases b with ⟨line, rest, hl⟩ | ⟨nul, hscan, hlt⟩ | ⟨hscan, hno⟩
  · have hparse := parseHttp_line (t := []) (show 10 ≤ b.length by omega) hl
    rw [List.append_nil, List.append_nil, h] at hparse
    rw [parseHttp_line (by omega) hl]
    unfold afterLine at hparse ⊢
    cases hsp : memchr 32 line with
    | none =>
        rw [hsp] at hparse
        exact hparse.symm
    | some sp1 =>
        rw [hsp] at hparse
        cases hn : memchr 32 (line.drop (sp1 + 1)) with
        | none =>
            simp only [hn] at hparse ⊢
            exact hparse.symm
        | some n =>
            simp only [hn] at hparse ⊢
            exact parseHeaders_append hparse.symm t
  · have happ := strstr_append crlf_ne_nil zero_not_mem_crlf (by rw [hscan]; simp) t
    rw [parseHttp, if_neg hshort, hscan] at h
    rw [parseHttp, if_neg hshort, happ, hscan]
    exact h
  · rw [parseHttp, if_neg hshort, hscan] at h
    cases h

theorem parseHttp_within {b : Bytes} {p : Parse} (h : parseHttp b b.length = some p) :
    p.req.Within b.length ∧ p.reads ≤ b.length := by
  by_cases hshort : b.length < 10
  · rw [parseHttp, if_pos hshort] at h
    obtain rfl := Option.some.inj h
    exact ⟨within_zero ⟨rfl, rfl, rfl⟩, Nat.zero_le _⟩
  rcases requestLine_cases b with ⟨line, rest, hl⟩ | ⟨nul, hscan, hlt⟩ | ⟨hscan, hno⟩
  · have hparse := parseHttp_line (t := []) (show 10 ≤ b.length by omega) hl
    rw [List.append_nil, List.append_nil, h] at hparse
    have hlen : line.length + 2 + rest.length = b.length := by
      have hcrlf : crlf.length = 2 := rfl
      rw [hl.split, List.length_append, List.length_append, hcrlf]
    unfold afterLine at hparse
    cases hsp : memchr 32 line with
    | none =>
        rw [hsp] at hparse
        obtain rfl := Option.some.inj hparse
        exact ⟨within_zero ⟨rfl, rfl, rfl⟩, by show line.length + 2 ≤ _; omega⟩
    | some sp1 =>
        rw [hsp] at hparse
        cases hn : memchr 32 (line.drop (sp1 + 1)) with
        | none =>
            simp only [hn] at hparse
            obtain rfl := Option.some.inj hparse
            exact ⟨within_zero ⟨rfl, rfl, rfl⟩, by show line.length + 2 ≤ _; omega⟩
        | some n =>
            simp only [hn] at hparse
            exact parseHeaders_within hlen ⟨rfl, rfl⟩ hparse.symm
  · rw [parseHttp, if_neg hshort, hscan] at h
    obtain rfl := Option.some.inj h
    exact ⟨within_zero ⟨rfl, rfl, rfl⟩, hlt⟩
  · rw [parseHttp, if_neg hshort, hscan] at h
    cases h

/-- **`parse_http` depends on `buf[0..len)` only**: whatever lies behind it, the result and the request are the
    same, the ranges lie inside, and nothing behind it is read. -/
def ParseLocal (b : Bytes) : Prop :=
  ∀ t₁ t₂ : Bytes, ∃ p₁ p₂, parseHttp (b ++ t₁) b.length = some p₁ ∧ parseHttp (b ++ t₂) b.length = some p₂ ∧
    p₁.ret = p₂.ret ∧ p₁.req = p₂.req ∧ p₁.req.Within b.length ∧ p₁.reads ≤ b.length

/-- **parse_http depends on the buffer only** exactly where every search ends in the buffer. -/
theorem parse_local_iff (b : Bytes) : ParseLocal b ↔ ParseWithin b := by
  constructor
  · intro h
    obtain ⟨p, _, hp, _⟩ := h [] []
    rw [List.append_nil] at hp
    by_contra hno
    rw [(parseHttp_eq_none b).mpr hno] at hp
    cases hp
  · intro h t₁ t₂
    cases hp : parseHttp b b.length with
    | none => exact absurd h ((parseHttp_eq_none b).mp hp)
    | some p =>
        obtain ⟨hwithin, hreads⟩ := parseHttp_within hp
        exact ⟨p, p, parseHttp_append hp t₁, parseHttp_append hp t₂, rfl, rfl, hwithin, hreads⟩

/-- A request line without its CR LF: what follows in the memory decides whether there is a request. -/
theorem parse_not_local : ¬ ∀ b : Bytes, ParseLocal b := by
  intro hall
  have hlen : (ascii "GET / HTTP/1.1").length = 14 := by decide
  obtain ⟨p₁, p₂, h₁, h₂, hret, _⟩ := hall (ascii "GET / HTTP/1.1") [0] (crlf ++ [0])
  rw [hlen] at h₁ h₂
  have hnone : parseHttp (ascii "GET / HTTP/1.1" ++ [0]) 14 = some ⟨false, .zero, 15⟩ := by decide
  have hline : RequestLine (ascii "GET / HTTP/1.1" ++ (crlf ++ [0])) (ascii "GET / HTTP/1.1") [0] :=
    ⟨rfl, by decide, by decide⟩
  have hsome : (parseHttp (ascii "GET / HTTP/1.1" ++ (crlf ++ [0])) 14).map (·.ret) = some true := by
    have hparse := parseHttp_line (t := []) (show 10 ≤ 14 by omega) hline
    rw [List.append_nil] at hparse
    rw [hparse]
    have hsp : memchr 32 (ascii "GET / HTTP/1.1") = some 3 := by decide
    have hn : memchr 32 ((ascii "GET / HTTP/1.1").drop 4) = some 1 := by decide
    have hscan : strstr crlfcrlf [0] = .absent 0 := by decide
    have hend : 14 - (14 + 2) = 0 := rfl
    simp only [afterLine, hsp, hn, parseHeaders, List.append_nil, hscan, hlen, hend, headerLoop_zero]
    decide
  rw [hnone] at h₁
  rw [h₂] at hsome
  have htrue : p₂.ret = true := Option.some.inj hsome
  rw [← hret, ← Option.some.inj h₁] at htrue
  cases htrue

end Showcase
