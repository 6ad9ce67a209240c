import Showcase.Services.HttpLocal

/-!
# `Services.ClientRequest` — well-formed requests and how they are parsed

What a client may send: a request line, header lines, an empty line and a body of Content-Length bytes. A value of
`ClientRequest` is well formed by construction.

* `parse_fold` — with at least one header, `parse_http` on a memory that begins with the request's head takes its
  headers one by one, whatever lies behind the head.
* `parse_head` — so it returns the request's parts.
-/

namespace Showcase

open Lib

/-- Text within a line. -/
def LineText (b : Bytes) : Prop := ∀ x ∈ b, x ≠ 0 ∧ x ≠ 13 ∧ x ≠ 10

instance (b : Bytes) : Decidable (LineText b) := List.decidableBAll _ b

/-- Blanks around a header value. -/
def Padding (b : Bytes) : Prop := ∀ x ∈ b, x = 32 ∨ x = 9

instance (b : Bytes) : Decidable (Padding b) := List.decidableBAll _ b

/-- A header value that is the number `n`. -/
def IsNumber (value : Bytes) (n : Nat) : Prop :=
  ∃ a d b, value = a ++ d ++ b ∧ Padding a ∧ Padding b ∧ d ≠ [] ∧ (∀ x ∈ d, isDigit x = true) ∧ ofDigits d = n

/-- A well-formed request; the headers are pairs of name and value. -/
structure ClientRequest where
  method : Bytes
  path : Bytes
  protocol : Bytes
  headers : List (Bytes × Bytes)
  body : Bytes
  method_ok : method ≠ [] ∧ LineText method ∧ 32 ∉ method
  path_ok : LineText path ∧ 32 ∉ path
  protocol_ok : LineText protocol
  headers_ok : ∀ h ∈ headers, LineText h.1 ∧ LineText h.2 ∧ 58 ∉ h.1
  cseq_ok : ∀ h ∈ headers, strncaseeq h.1 (ascii "CSeq") = true → ∃ n, IsNumber h.2 n
  length_ok : ∀ h ∈ headers, strncaseeq h.1 (ascii "Content-Length") = true → IsNumber h.2 body.length
  body_ok : body ≠ [] → ∃ h ∈ headers, strncaseeq h.1 (ascii "Content-Length") = true

theorem post_ok : ascii "POST" ≠ [] ∧ LineText (ascii "POST") ∧ 32 ∉ ascii "POST" := by decide

theorem pairVerify_ok : LineText (ascii "/pair-verify") ∧ 32 ∉ ascii "/pair-verify" := by decide

theorem http_ok : LineText (ascii "HTTP/1.1") := by decide

theorem rtsp_ok : LineText (ascii "RTSP/1.0") := by decide

/-! ## The bytes of a request -/

/-- One header line, without its end. -/
def headerLine (h : Bytes × Bytes) : Bytes := h.1 ++ 58 :: h.2

/-- The header lines, CR LF between them. -/
def headerText : List (Bytes × Bytes) → Bytes
  | [] => []
  | [h] => headerLine h
  | h :: h' :: hs => headerLine h ++ crlf ++ headerText (h' :: hs)

namespace ClientRequest

def requestLine (q : ClientRequest) : Bytes := q.method ++ 32 :: (q.path ++ 32 :: q.protocol)

/-- Everything in front of the body. -/
def head (q : ClientRequest) : Bytes :=
  q.requestLine ++ crlf ++ q.headers.flatMap (fun h => headerLine h ++ crlf) ++ crlf

def wire (q : ClientRequest) : Bytes := q.head ++ q.body

end ClientRequest

/-! ## Text and numbers -/

section Text

variable {a b : Bytes}

theorem lineText_noNul (h : LineText a) : 0 ∉ a := fun hmem => (h 0 hmem).1 rfl

theorem lineText_append (ha : LineText a) (hb : LineText b) : LineText (a ++ b) := by
  intro x hx
  rcases List.mem_append.mp hx with hx | hx
  · exact ha x hx
  · exact hb x hx

theorem lineText_cons {x : UInt8} (hx : x ≠ 0 ∧ x ≠ 13 ∧ x ≠ 10) (ha : LineText a) : LineText (x :: a) := by
  intro y hy
  rcases List.mem_cons.mp hy with rfl | hy
  · exact hx
  · exact ha y hy

/-- A line's text holds no CR LF. -/
theorem lineText_noCrlf (h : LineText a) : ¬ crlf <:+: a := by
  intro hinf
  have hmem : 13 ∈ a := hinf.subset (by decide)
  exact (h 13 hmem).2.1 rfl

/-- In the text of a line nothing begins that begins with CR. -/
theorem lineText_drop {j : Nat} {s : Bytes} (h : LineText a) (hj : j < a.length) :
    ¬ crlf <+: (a ++ s).drop j := by
  intro hp
  rw [List.drop_append_of_le_length (Nat.le_of_lt hj), List.drop_eq_getElem_cons hj] at hp
  obtain ⟨t, ht⟩ := hp
  simp only [crlf, List.cons_append] at ht
  exact (h _ (List.getElem_mem hj)).2.1 (List.cons.inj ht).1.symm

/-- A digit is neither white space nor a sign. -/
theorem isDigit_start {x : UInt8} (h : isDigit x = true) : isSpace x = false ∧ x ≠ 45 ∧ x ≠ 43 := by
  simp only [isDigit, Bool.and_eq_true, decide_eq_true_eq, UInt8.le_iff_toNat_le] at h
  have h48 : 48 ≤ x.toNat := h.1
  refine ⟨?_, ?_, ?_⟩
  · simp only [isSpace, Bool.or_eq_false_iff, beq_eq_false_iff_ne, Bool.and_eq_false_iff, decide_eq_false_iff_not,
      UInt8.le_iff_toNat_le]
    refine ⟨?_, .inr ?_⟩
    · rintro rfl
      exact absurd h48 (by decide)
    · show ¬ x.toNat ≤ 13
      omega
  · rintro rfl
    exact absurd h48 (by decide)
  · rintro rfl
    exact absurd h48 (by decide)

/-- Blanks in front of a number make no difference. -/
theorem dropWhile_blanks (s t : Bytes) :
    (s.dropWhile (· == 32) ++ t).dropWhile isSpace = (s ++ t).dropWhile isSpace := by
  induction s with
  | nil => rfl
  | cons x s ih =>
      by_cases hx : (x == 32) = true
      · have hspace : isSpace x = true := by
          rw [eq_of_beq hx]
          decide
        have hdrop : (x :: s).dropWhile (· == 32) = s.dropWhile (· == 32) := List.dropWhile_cons_of_pos hx
        rw [hdrop, ih, List.cons_append, List.dropWhile_cons_of_pos hspace]
      · have hkeep : (x :: s).dropWhile (· == 32) = x :: s := List.dropWhile_cons_of_neg hx
        rw [hkeep]

/-- Digits behind a blank. -/
theorem isNumber_blank {d : Bytes} {n : Nat} (hne : d ≠ []) (hd : d.all isDigit = true) (hn : ofDigits d = n) :
    IsNumber (32 :: d) n := by
  refine ⟨[32], d, [], by simp, ?_, ?_, hne, List.all_eq_true.mp hd, hn⟩
  · intro x hx
    exact .inl (List.mem_singleton.mp hx)
  · intro x hx
    cases hx

/-- **A number is read** up to the byte behind its digits. -/
theorem strtol_number {value : Bytes} {n : Nat} (rest : Bytes) (h : IsNumber value n) :
    ∃ k, strtol (value.dropWhile (· == 32) ++ (crlf ++ rest)) = some ((n : Int), k) := by
  obtain ⟨a, d, b, rfl, ha, hb, hd, hdigit, rfl⟩ := h
  obtain ⟨x, d', rfl⟩ := List.exists_cons_of_ne_nil hd
  obtain ⟨hspace, hminus, hplus⟩ := isDigit_start (hdigit x (List.mem_cons_self ..))
  -- what stops the digits is padding or the end of the line
  obtain ⟨y, rest', hrest, hy⟩ : ∃ y rest', b ++ (crlf ++ rest) = y :: rest' ∧ isDigit y = false := by
    cases b with
    | nil => exact ⟨13, 10 :: rest, rfl, by decide⟩
    | cons y b =>
        refine ⟨y, b ++ (crlf ++ rest), rfl, ?_⟩
        rcases hb y (List.mem_cons_self ..) with rfl | rfl
        · decide
        · decide
  have hblanks : ((a ++ x :: d' ++ b).dropWhile (· == 32) ++ (crlf ++ rest)).dropWhile isSpace
      = (x :: d') ++ y :: rest' := by
    have hpad : ∀ z ∈ a, isSpace z = true := by
      intro z hz
      rcases ha z hz with rfl | rfl
      · decide
      · decide
    rw [dropWhile_blanks, List.append_assoc, List.append_assoc, hrest, List.dropWhile_append_of_pos hpad,
      List.cons_append, List.dropWhile_cons_of_neg (by simp [hspace])]
  have hsign : sign ((x :: d') ++ y :: rest') = (false, (x :: d') ++ y :: rest') := by
    unfold sign
    split
    · rename_i heq
      exact absurd (List.cons.inj heq).1 hminus
    · rename_i heq
      exact absurd (List.cons.inj heq).1 hplus
    · rfl
  have hdrop : ((x :: d') ++ y :: rest').dropWhile isDigit = y :: rest' := by
    rw [List.dropWhile_append_of_pos hdigit, List.dropWhile_cons_of_neg (by simp [hy])]
  have htake : ((x :: d') ++ y :: rest').takeWhile isDigit = x :: d' := by
    rw [List.takeWhile_append_of_pos hdigit, List.takeWhile_cons_of_neg (by simp [hy]), List.append_nil]
  unfold strtol
  rw [hblanks, hsign]
  simp only [hdrop, htake, Bool.false_eq_true, if_false]
  exact ⟨_, rfl⟩

end Text

/-! ## The headers of a request -/

/-- What the loop makes of one header line. -/
theorem parseHeader_line {h : Bytes × Bytes} {n : Nat} (hcolon : 58 ∉ h.1)
    (hcseq : strncaseeq h.1 (ascii "CSeq") = true → ∃ n, IsNumber h.2 n)
    (hcl : strncaseeq h.1 (ascii "Content-Length") = true → IsNumber h.2 n) (hn : n < 2 ^ 63) (rest : Bytes)
    (r : HTTPReq) :
    ∃ r' k, parseHeader (headerLine h) (crlf ++ rest) r = some (r', k) ∧ r'.frame = r.frame ∧
      r'.contentLength = if strncaseeq h.1 (ascii "Content-Length") = true then n else r.contentLength := by
  have hname : ∀ {name val}, HeaderAt name (headerLine h) val →
      strncaseeq h.1 name = true ∧ val = h.2.dropWhile (· == 32) := by
    rintro name val ⟨name', value, heq, hcolon', rfl, hname⟩
    obtain ⟨rfl, rfl⟩ := header_unique heq hcolon hcolon'
    exact ⟨hname, rfl⟩
  rcases parseHeader_effect (headerLine h) r with
    ⟨r', hframe, hlength, hno, hall⟩ | ⟨val, _, _, num, set, hnum, hframe, hall⟩
  · refine ⟨r', 0, hall _, hframe, ?_⟩
    have hnot : ¬ strncaseeq h.1 (ascii "Content-Length") = true := by
      intro hc
      exact hno _ (.inl ⟨h.1, h.2, rfl, hcolon, rfl, hc⟩)
    rw [hlength, if_neg hnot]
  · rcases hnum with ⟨rfl, hat, hset⟩ | ⟨rfl, hat, hset⟩
    · obtain ⟨hc, rfl⟩ := hname hat
      obtain ⟨k, hk⟩ := strtol_number rest (hcl hc)
      have hclamp : max (-2 ^ 63) (min (n : Int) (2 ^ 63 - 1)) = (n : Int) := by omega
      have hatol : atol (h.2.dropWhile (· == 32) ++ (crlf ++ rest)) = some ((n : Int), k) := by
        rw [atol, hk, Option.map_some]
        simp only [hclamp]
      refine ⟨set n, _, (hall _).trans (congrArg (Option.map _) hatol), hframe n, ?_⟩
      rw [hset, if_pos hc, sizeOfInt]
      omega
    · obtain ⟨hc, rfl⟩ := hname hat
      obtain ⟨m, hm⟩ := hcseq hc
      obtain ⟨k, hk⟩ := strtol_number rest hm
      have hnot : ¬ strncaseeq h.1 (ascii "Content-Length") = true := by
        intro hcl
        have h4 : h.1.length = 4 := strncaseeq_length hc
        have h14 : h.1.length = 14 := strncaseeq_length hcl
        omega
      obtain ⟨x, hx⟩ : ∃ x, atoi (h.2.dropWhile (· == 32) ++ (crlf ++ rest)) = some x :=
        ⟨_, by rw [atoi, atol, hk]; rfl⟩
      refine ⟨set x.1, _, (hall _).trans (congrArg (Option.map _) hx), hframe _, ?_⟩
      rw [hset, if_neg hnot]

theorem headerLine_text {h : Bytes × Bytes} (h₁ : LineText h.1) (h₂ : LineText h.2) : LineText (headerLine h) :=
  lineText_append h₁ (lineText_cons (by decide) h₂)

theorem headerLine_pos (h : Bytes × Bytes) : 0 < (headerLine h).length := by
  rw [headerLine, List.length_append, List.length_cons]
  omega

/-- What a header line makes of the request. -/
def applyHeader (r : HTTPReq) (h : Bytes × Bytes) : HTTPReq :=
  ((parseHeader (headerLine h) crlf r).map Prod.fst).getD r

/-- The text of the header lines without colons in their names. -/
structure HeaderOk (n : Nat) (h : Bytes × Bytes) : Prop where
  text : LineText h.1 ∧ LineText h.2 ∧ 58 ∉ h.1
  cseq : strncaseeq h.1 (ascii "CSeq") = true → ∃ n, IsNumber h.2 n
  length : strncaseeq h.1 (ascii "Content-Length") = true → IsNumber h.2 n

/-- What lies behind its line makes no difference to a header. -/
theorem parseHeader_apply {h : Bytes × Bytes} {n : Nat} (hok : HeaderOk n h) (hn : n < 2 ^ 63) (rest : Bytes)
    (r : HTTPReq) : ∃ k, parseHeader (headerLine h) (crlf ++ rest) r = some (applyHeader r h, k) := by
  obtain ⟨r', k, hhdr, _⟩ := parseHeader_line hok.text.2.2 hok.cseq hok.length hn [] r
  rw [List.append_nil] at hhdr
  refine ⟨k, ?_⟩
  rw [parseHeader_append hhdr, applyHeader, hhdr]
  rfl

theorem applyHeader_line {h : Bytes × Bytes} {n : Nat} (hok : HeaderOk n h) (hn : n < 2 ^ 63) (r : HTTPReq) :
    (applyHeader r h).frame = r.frame ∧ (applyHeader r h).contentLength =
      if strncaseeq h.1 (ascii "Content-Length") = true then n else r.contentLength := by
  obtain ⟨r', k, hhdr, hframe, hlength⟩ := parseHeader_line hok.text.2.2 hok.cseq hok.length hn [] r
  rw [List.append_nil] at hhdr
  have hr' : applyHeader r h = r' := by
    rw [applyHeader, hhdr]
    rfl
  rw [hr']
  exact ⟨hframe, hlength⟩

/-- **The loop over the headers of a request** takes them one by one and ends at the last of them. -/
theorem headerLoop_fold {hs : List (Bytes × Bytes)} {n : Nat} (hne : hs ≠ []) (hok : ∀ h ∈ hs, HeaderOk n h)
    (hn : n < 2 ^ 63) (rest : Bytes) (r : HTTPReq) :
    ∃ k, headerLoop (headerText hs ++ crlf ++ rest) (headerText hs).length r = some (hs.foldl applyHeader r, k) := by
  induction hs generalizing r with
  | nil => exact absurd rfl hne
  | cons h hs ih =>
      have hh := hok h (List.mem_cons_self ..)
      have htext := headerLine_text hh.text.1 hh.text.2.1
      have hpos := headerLine_pos h
      cases hs with
      | nil =>
          obtain ⟨k, hhdr⟩ := parseHeader_apply hh hn rest r
          have hend : (headerLine h).length - ((headerLine h).length + 2) = 0 := by omega
          rw [headerText, headerLoop_line (by omega) (lineText_noNul htext) (lineText_noCrlf htext), hhdr,
            Option.bind_some]
          simp only [hend, headerLoop_zero, Option.map_some]
          exact ⟨_, rfl⟩
      | cons h' hs =>
          let text := headerText (h' :: hs)
          obtain ⟨k, hhdr⟩ := parseHeader_apply hh hn (text ++ crlf ++ rest) r
          obtain ⟨k', hloop⟩ := ih (by simp) (fun x hx => hok x (List.mem_cons_of_mem _ hx)) (applyHeader r h)
          have hsplit : headerText (h :: h' :: hs) ++ crlf ++ rest
              = headerLine h ++ crlf ++ (text ++ crlf ++ rest) := by
            simp only [headerText, List.append_assoc, text]
          have hlen : (headerText (h :: h' :: hs)).length = (headerLine h).length + 2 + text.length := by
            simp only [headerText, List.length_append, crlf, List.length_cons, List.length_nil, text]
          have hend : (headerLine h).length + 2 + text.length - ((headerLine h).length + 2) =
              text.length := by omega
          rw [hsplit, hlen, headerLoop_line (by omega) (lineText_noNul htext) (lineText_noCrlf htext), hhdr,
            Option.bind_some]
          simp only [hend]
          rw [hloop, Option.map_some, List.foldl_cons]
          exact ⟨_, rfl⟩

/-- The headers leave everything else alone. -/
theorem foldl_frame {hs : List (Bytes × Bytes)} {n : Nat} (hok : ∀ h ∈ hs, HeaderOk n h) (hn : n < 2 ^ 63)
    (r : HTTPReq) : (hs.foldl applyHeader r).frame = r.frame := by
  induction hs generalizing r with
  | nil => rfl
  | cons h hs ih =>
      rw [List.foldl_cons, ih (fun x hx => hok x (List.mem_cons_of_mem _ hx))]
      exact (applyHeader_line (hok h (List.mem_cons_self ..)) hn r).1

/-- The Content-Length of the request is the one they all give. -/
theorem foldl_contentLength {hs : List (Bytes × Bytes)} {n : Nat} (hok : ∀ h ∈ hs, HeaderOk n h) (hn : n < 2 ^ 63)
    (r : HTTPReq) :
    ((∃ h ∈ hs, strncaseeq h.1 (ascii "Content-Length") = true) → (hs.foldl applyHeader r).contentLength = n) ∧
    ((∀ h ∈ hs, ¬ strncaseeq h.1 (ascii "Content-Length") = true) →
      (hs.foldl applyHeader r).contentLength = r.contentLength) := by
  induction hs generalizing r with
  | nil => exact ⟨fun ⟨h, hmem, _⟩ => absurd hmem List.not_mem_nil, fun _ => rfl⟩
  | cons h hs ih =>
      have hlength := (applyHeader_line (hok h (List.mem_cons_self ..)) hn r).2
      obtain ⟨hsome, hnone⟩ := ih (fun x hx => hok x (List.mem_cons_of_mem _ hx)) (applyHeader r h)
      rw [List.foldl_cons]
      constructor
      · rintro ⟨x, hx, hc⟩
        by_cases hrest : ∃ y ∈ hs, strncaseeq y.1 (ascii "Content-Length") = true
        · exact hsome hrest
        · -- the only Content-Length is the first header
          have hno : ∀ y ∈ hs, ¬ strncaseeq y.1 (ascii "Content-Length") = true :=
            fun y hy hcy => hrest ⟨y, hy, hcy⟩
          rcases List.mem_cons.mp hx with rfl | hx
          · rw [hnone hno, hlength, if_pos hc]
          · exact absurd hc (hno x hx)
      · intro hno
        rw [hnone (fun y hy => hno y (List.mem_cons_of_mem _ hy)), hlength, if_neg (hno h (List.mem_cons_self ..))]

theorem not_blank_of_not_crlf {s : Bytes} (h : ¬ crlf <+: s) : ¬ crlfcrlf <+: s :=
  fun hp => h (List.IsPrefix.trans ⟨crlf, rfl⟩ hp)

/-- No empty line in front of the one behind the last header. -/
theorem noBlank_text {hs : List (Bytes × Bytes)} (hok : ∀ h ∈ hs, LineText h.1 ∧ LineText h.2 ∧ 58 ∉ h.1)
    (x : Bytes) : ∀ j < (headerText hs).length, ¬ crlfcrlf <+: (headerText hs ++ crlfcrlf ++ x).drop j := by
  induction hs with
  | nil =>
      intro j hj
      exact absurd hj (Nat.not_lt_zero j)
  | cons h hs ih =>
      obtain ⟨h₁, h₂, _⟩ := hok h (List.mem_cons_self ..)
      have htext := headerLine_text h₁ h₂
      cases hs with
      | nil =>
          intro j hj
          have hsplit : headerText [h] ++ crlfcrlf ++ x = headerLine h ++ (crlfcrlf ++ x) := by
            simp only [headerText, List.append_assoc]
          rw [hsplit]
          exact not_blank_of_not_crlf (lineText_drop htext hj)
      | cons h' hs =>
          obtain ⟨h₁', h₂', _⟩ := hok h' (List.mem_cons_of_mem _ (List.mem_cons_self ..))
          have ih' := ih (fun y hy => hok y (List.mem_cons_of_mem _ hy))
          let tail := headerText (h' :: hs) ++ crlfcrlf ++ x
          have hsplit : headerText (h :: h' :: hs) ++ crlfcrlf ++ x = headerLine h ++ (crlf ++ tail) := by
            simp only [headerText, List.append_assoc, tail]
          have hlen : (headerText (h :: h' :: hs)).length =
              (headerLine h).length + 2 + (headerText (h' :: hs)).length := by
            simp only [headerText, List.length_append, crlf, List.length_cons, List.length_nil]
          intro j hj
          rw [hsplit]
          by_cases hline : j < (headerLine h).length
          · exact not_blank_of_not_crlf (lineText_drop htext hline)
          obtain ⟨i, rfl⟩ := Nat.exists_eq_add_of_le (Nat.le_of_not_lt hline)
          rw [← List.drop_drop, List.drop_left]
          rcases i with _ | _ | i
          · -- behind the CR LF comes the next header line
            intro hp
            obtain ⟨t, ht⟩ := hp
            have ht' : crlf ++ t = tail := List.append_cancel_left (show crlf ++ (crlf ++ t) = crlf ++ tail from ht)
            have hnext : ¬ crlf <+: tail := by
              have hpos := headerLine_pos h'
              have htail : ∃ s, tail = headerLine h' ++ s := by
                cases hs with
                | nil => exact ⟨crlfcrlf ++ x, by simp [tail, headerText]⟩
                | cons h'' hs => exact ⟨_, by simp only [tail, headerText, List.append_assoc]; rfl⟩
              obtain ⟨s, hs'⟩ := htail
              rw [hs']
              exact lineText_drop (j := 0) (headerLine_text h₁' h₂') hpos
            exact hnext ⟨t, ht'⟩
          · -- the LF
            rintro ⟨t, ht⟩
            cases ht
          · show ¬ crlfcrlf <+: tail.drop i
            exact ih' i (by omega)

/-! ## parse_http on a request

The bytes of a request are followed line by line. Every search, and every number, ends inside the head of the request,
so what lies behind the head makes no difference. -/

namespace ClientRequest

variable (q : ClientRequest)

theorem requestLine_text : LineText q.requestLine :=
  lineText_append q.method_ok.2.1
    (lineText_cons (by decide) (lineText_append q.path_ok.1 (lineText_cons (by decide) q.protocol_ok)))

/-- The head, with the header lines in one piece. -/
theorem head_eq (hne : q.headers ≠ []) :
    q.head = q.requestLine ++ crlf ++ (headerText q.headers ++ crlfcrlf) := by
  have hflat : ∀ hs : List (Bytes × Bytes), hs ≠ [] →
      hs.flatMap (fun h => headerLine h ++ crlf) = headerText hs ++ crlf := by
    intro hs hne
    induction hs with
    | nil => exact absurd rfl hne
    | cons h hs ih =>
        cases hs with
        | nil => simp only [List.flatMap_cons, List.flatMap_nil, List.append_nil, headerText]
        | cons h' hs =>
            rw [List.flatMap_cons, ih (by simp)]
            simp only [headerText, List.append_assoc]
  rw [head, hflat q.headers hne]
  simp only [List.append_assoc]
  rfl

theorem head_length (hne : q.headers ≠ []) :
    q.head.length = q.requestLine.length + 2 + (headerText q.headers).length + 4 := by
  rw [q.head_eq hne]
  simp only [List.length_append, crlf, crlfcrlf, List.length_cons, List.length_nil]
  omega

/-- A request with a header is no shorter than `parse_http` asks for. -/
theorem ten_le_head (hne : q.headers ≠ []) : 10 ≤ q.head.length := by
  have hmethod : 0 < q.method.length := List.length_pos_iff.mpr q.method_ok.1
  have htext : 0 < (headerText q.headers).length := by
    obtain ⟨h, hs, heq⟩ := List.exists_cons_of_ne_nil hne
    have hpos := headerLine_pos h
    rw [heq]
    cases hs with
    | nil => exact hpos
    | cons h' hs =>
        simp only [headerText, List.length_append]
        omega
  rw [q.head_length hne, requestLine, List.length_append, List.length_cons, List.length_append, List.length_cons]
  omega

/-- Both blanks of the request line. -/
theorem afterLine_requestLine (rest : Bytes) (len : Nat) :
    afterLine q.requestLine rest len = parseHeaders rest (q.requestLine.length + 2) len
      { HTTPReq.zero with
        method := q.method.take 15
        path := q.path.take 511
        protocol := q.protocol.take 15 } := by
  have hsp : memchr 32 q.requestLine = some q.method.length := memchr_append q.method_ok.2.2
  have hdrop : q.requestLine.drop (q.method.length + 1) = q.path ++ 32 :: q.protocol := by simp [requestLine]
  have hn : memchr 32 (q.path ++ 32 :: q.protocol) = some q.path.length := memchr_append q.path_ok.2
  have htake : ∀ (a b : Bytes) (k : Nat), (a ++ b).take (min a.length k) = a.take k := by
    intro a b k
    rw [List.take_append_of_le_length (Nat.min_le_left _ _), Nat.min_comm, ← List.take_take, List.take_length]
  have hprotocol : (q.path ++ 32 :: q.protocol).drop (q.path.length + 1) = q.protocol := by simp
  unfold afterLine
  rw [hsp]
  simp only [hdrop, hn, hprotocol, htake]
  rw [requestLine, htake]

theorem headerOk {h : Bytes × Bytes} (hmem : h ∈ q.headers) : HeaderOk q.body.length h :=
  ⟨q.headers_ok h hmem, q.cseq_ok h hmem, q.length_ok h hmem⟩

/-- What `parse_http` knows when it comes to the headers. -/
def beforeHeaders (len : Nat) : HTTPReq :=
  { HTTPReq.zero with
    method := q.method.take 15
    path := q.path.take 511
    protocol := q.protocol.take 15
    headerStart := some (q.requestLine.length + 2)
    headerLen := (headerText q.headers).length
    body := some q.head.length
    bodyLen := sizeSub len q.head.length }

theorem headerText_noNul {hs : List (Bytes × Bytes)} (hok : ∀ h ∈ hs, LineText h.1 ∧ LineText h.2 ∧ 58 ∉ h.1) :
    0 ∉ headerText hs := by
  induction hs with
  | nil => exact List.not_mem_nil
  | cons h hs ih =>
      obtain ⟨h₁, h₂, _⟩ := hok h (List.mem_cons_self ..)
      have hh := lineText_noNul (headerLine_text h₁ h₂)
      cases hs with
      | nil => exact hh
      | cons h' hs =>
          intro hmem
          rcases List.mem_append.mp hmem with hmem | hmem
          · rcases List.mem_append.mp hmem with hmem | hmem
            · exact hh hmem
            · exact zero_not_mem_crlf hmem
          · exact ih (fun x hx => hok x (List.mem_cons_of_mem _ hx)) hmem

/-- **A request with a header is parsed** by taking its headers one by one, whatever lies behind its head. -/
theorem parse_fold (hne : q.headers ≠ []) (hbody : q.body.length < 2 ^ 63) (t : Bytes) {len : Nat}
    (hlen : 10 ≤ len) :
    ∃ p, parseHttp (q.head ++ t) len = some p ∧ p.ret = true ∧
      p.req = q.headers.foldl applyHeader (q.beforeHeaders len) := by
  have hline : RequestLine q.head q.requestLine (headerText q.headers ++ crlfcrlf) :=
    ⟨q.head_eq hne, lineText_noNul q.requestLine_text, lineText_noCrlf q.requestLine_text⟩
  have hscan : strstr crlfcrlf (headerText q.headers ++ crlfcrlf ++ t) = .found (headerText q.headers).length :=
    strstr_of_first crlfcrlf_ne_nil (headerText_noNul q.headers_ok) (noBlank_text q.headers_ok t)
  obtain ⟨k, hloop⟩ := headerLoop_fold hne (fun h hmem => q.headerOk hmem) hbody (crlf ++ t) (q.beforeHeaders len)
  have hframe := foldl_frame (fun h hmem => q.headerOk hmem) hbody (q.beforeHeaders len)
  have hmem : headerText q.headers ++ crlfcrlf ++ t = headerText q.headers ++ crlf ++ (crlf ++ t) := by
    simp only [List.append_assoc]
    rfl
  rw [← hmem, beforeHeaders, q.head_length hne] at hloop
  rw [parseHttp_line hlen hline, q.afterLine_requestLine]
  simp only [parseHeaders, hscan, hloop, Option.map_some]
  refine ⟨_, rfl, ?_, ?_⟩
  · -- the method is not empty and holds no NUL
    rw [beforeHeaders, q.head_length hne] at hframe
    have hmethod := congrArg (·.1) hframe
    obtain ⟨x, m, hm⟩ := List.exists_cons_of_ne_nil q.method_ok.1
    have hx : x ≠ 0 := (q.method_ok.2.1 x (by rw [hm]; exact List.mem_cons_self ..)).1
    simp only [HTTPReq.frame] at hmethod
    simp only [hmethod]
    rw [hm]
    simpa using hx
  · simp only [beforeHeaders, q.head_length hne]

/-- **A request with a header is parsed into its parts**, whatever lies behind its head; `bodyLen` is all that is
    behind it. -/
theorem parse_head (hne : q.headers ≠ []) (hbody : q.body.length < 2 ^ 63) (t : Bytes) {len : Nat}
    (hlen : 10 ≤ len) :
    ∃ p, parseHttp (q.head ++ t) len = some p ∧ p.ret = true ∧
      p.req.frame = (q.method.take 15, q.path.take 511, q.protocol.take 15, some (q.requestLine.length + 2),
        (headerText q.headers).length, some q.head.length, sizeSub len q.head.length) ∧
      p.req.contentLength = q.body.length := by
  obtain ⟨p, hparse, hret, hreq⟩ := q.parse_fold hne hbody t hlen
  refine ⟨p, hparse, hret, ?_, ?_⟩
  · rw [hreq, foldl_frame (fun h hmem => q.headerOk hmem) hbody]
    rfl
  · obtain ⟨hsome, hnone⟩ := foldl_contentLength (fun h hmem => q.headerOk hmem) hbody (q.beforeHeaders len)
    rw [hreq]
    by_cases hcl : ∃ h ∈ q.headers, strncaseeq h.1 (ascii "Content-Length") = true
    · exact hsome hcl
    · have hempty : q.body = [] := by
        by_contra hb
        exact hcl (q.body_ok hb)
      rw [hnone (fun h hh hc => hcl ⟨h, hh, hc⟩), hempty]
      rfl

end ClientRequest

end Showcase
