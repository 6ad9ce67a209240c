import Showcase.Lib.Bytes
import Mathlib.Data.List.Infix

/-!
# `Lib.CString` — C string functions on a memory that ends

A pointer stands for the memory behind it, a byte string that ends where the memory does. `strstr` and `strtol`
take no length: they stop at what they find. A scan that finds nothing to stop at runs off the end of the memory
(`Scan.fault`, `none`); one that stops would have stopped there on every longer memory as well.

## Contents
- `strstr`, with what a match, a NUL and a fault say about the memory, and `strstr_append`.
- `crlf` — the first line of a memory (`strstr_crlf_iff`).
- `match_append` — a match where a string is continued with the beginning of one.
- `memchr`, `strncaseeq` — within a length.
- `strtol`, `atol`, `atoi` — with the number of bytes read.
-/

namespace Lib

/-! ## strstr

A search is an induction over the memory, and at each byte there are three cases: the needle begins here, the byte is
a NUL, or the search goes on. What the three results mean is proved first; that a search is local, and finds a given
first match, then needs no more than these. -/

/-- How a search ends. -/
inductive Scan where
  /-- The first match begins at this offset. -/
  | found (i : Nat)
  /-- There is a NUL at this offset, and no match in front of it. -/
  | absent (i : Nat)
  /-- The search leaves the memory. -/
  | fault
deriving DecidableEq

/-- The end of a scan, seen from one byte further in front. -/
def Scan.shift : Scan → Scan
  | .found i => .found (i + 1)
  | .absent i => .absent (i + 1)
  | .fault => .fault

def strstr (needle : Bytes) : Bytes → Scan
  | [] => .fault
  | b :: s =>
      if needle.isPrefixOf (b :: s) then .found 0
      else if b = 0 then .absent 0
      else (strstr needle s).shift

section Strstr

variable {needle s : Bytes} {i : Nat}

/-- One byte more in front of a match. -/
theorem first_cons {b : UInt8} {k : Nat} (hhere : ¬ needle <+: b :: s) (hfirst : ∀ j < k, ¬ needle <+: s.drop j) :
    ∀ j < k + 1, ¬ needle <+: (b :: s).drop j := by
  intro j hj
  cases j with
  | zero => exact hhere
  | succ j => exact hfirst j (Nat.lt_of_succ_lt_succ hj)

/-- A match is the first one, and no NUL is in front of it. -/
theorem strstr_found (h : strstr needle s = .found i) :
    ∃ a c, s = a ++ needle ++ c ∧ a.length = i ∧ 0 ∉ a ∧ ∀ j < i, ¬ needle <+: s.drop j := by
  induction s generalizing i with
  | nil => exact absurd h (by simp [strstr])
  | cons b s ih =>
      rw [strstr] at h
      split at h
      · rename_i hpre
        obtain ⟨c, hc⟩ := List.isPrefixOf_iff_prefix.mp hpre
        obtain rfl := Scan.found.inj h
        exact ⟨[], c, hc.symm, rfl, List.not_mem_nil, fun j hj => absurd hj (Nat.not_lt_zero j)⟩
      rename_i hpre
      split at h
      · cases h
      rename_i hb
      cases hs : strstr needle s with
      | absent k => rw [hs] at h; cases h
      | fault => rw [hs] at h; cases h
      | found k =>
          rw [hs] at h
          obtain rfl := Scan.found.inj h
          obtain ⟨a, c, rfl, hlen, h0, hfirst⟩ := ih hs
          refine ⟨b :: a, c, rfl, by rw [List.length_cons, hlen], ?_, ?_⟩
          · exact List.not_mem_cons_of_ne_of_not_mem (fun h0 => hb h0.symm) h0
          · exact first_cons (fun hp => hpre (List.isPrefixOf_iff_prefix.mpr hp)) hfirst

/-- Without a match the search stops at the first NUL. -/
theorem strstr_absent (h : strstr needle s = .absent i) :
    ∃ a c, s = a ++ 0 :: c ∧ a.length = i ∧ 0 ∉ a ∧ ∀ j ≤ i, ¬ needle <+: s.drop j := by
  induction s generalizing i with
  | nil => exact absurd h (by simp [strstr])
  | cons b s ih =>
      rw [strstr] at h
      split at h
      · cases h
      rename_i hpre
      have hhere : ¬ needle <+: b :: s := fun hp => hpre (List.isPrefixOf_iff_prefix.mpr hp)
      split at h
      · rename_i hb
        obtain rfl := Scan.absent.inj h
        refine ⟨[], s, by rw [hb]; rfl, rfl, List.not_mem_nil, ?_⟩
        intro j hj
        obtain rfl : j = 0 := by omega
        exact hhere
      rename_i hb
      cases hs : strstr needle s with
      | found k => rw [hs] at h; cases h
      | fault => rw [hs] at h; cases h
      | absent k =>
          rw [hs] at h
          obtain rfl := Scan.absent.inj h
          obtain ⟨a, c, rfl, hlen, h0, hfirst⟩ := ih hs
          refine ⟨b :: a, c, rfl, by rw [List.length_cons, hlen], ?_, ?_⟩
          · exact List.not_mem_cons_of_ne_of_not_mem (fun h0 => hb h0.symm) h0
          · intro j hj
            exact first_cons hhere (fun j hj => hfirst j (Nat.le_of_lt_succ hj)) j (Nat.lt_succ_of_le hj)

/-- **A search stays in the memory** exactly where there is a match or a NUL. -/
theorem strstr_fault_iff (hne : needle ≠ []) : strstr needle s = .fault ↔ 0 ∉ s ∧ ¬ needle <:+: s := by
  induction s with
  | nil => simp [strstr, hne]
  | cons b s ih =>
      rw [strstr, List.infix_cons_iff, List.mem_cons]
      by_cases hp : needle <+: b :: s
      · have hpre : needle.isPrefixOf (b :: s) = true := List.isPrefixOf_iff_prefix.mpr hp
        simp [hp]
      have hpre : ¬ needle.isPrefixOf (b :: s) = true := fun h => hp (List.isPrefixOf_iff_prefix.mp h)
      rw [if_neg hpre]
      by_cases hb : b = 0
      · simp [hb]
      rw [if_neg hb]
      have hshift : (strstr needle s).shift = .fault ↔ strstr needle s = .fault := by
        cases strstr needle s with
        | found k => simp [Scan.shift]
        | absent k => simp [Scan.shift]
        | fault => simp [Scan.shift]
      rw [hshift, ih]
      have hb' : ¬ (0 : UInt8) = b := fun h => hb h.symm
      simp [hp, hb']

/-- **A search that stops is local.** What lies behind the memory does not matter to it. -/
theorem strstr_append (hne : needle ≠ []) (h0 : 0 ∉ needle) (h : strstr needle s ≠ .fault) (t : Bytes) :
    strstr needle (s ++ t) = strstr needle s := by
  induction s with
  | nil => exact absurd rfl h
  | cons b s ih =>
      rw [List.cons_append, strstr, strstr]
      by_cases hp : needle <+: b :: s
      · have hp' : needle <+: b :: (s ++ t) := List.prefix_append_of_prefix hp
        rw [if_pos (List.isPrefixOf_iff_prefix.mpr hp), if_pos (List.isPrefixOf_iff_prefix.mpr hp')]
      have hpre : ¬ needle.isPrefixOf (b :: s) = true := fun h => hp (List.isPrefixOf_iff_prefix.mp h)
      by_cases hb : b = 0
      · -- a needle without a NUL does not begin with one
        have hpre' : ¬ needle.isPrefixOf (b :: (s ++ t)) = true := by
          intro hp'
          rcases List.prefix_cons_iff.mp (List.isPrefixOf_iff_prefix.mp hp') with hnil | ⟨n, hn, _⟩
          · exact hne hnil
          · rw [hn, hb] at h0
            exact h0 (List.mem_cons_self ..)
        rw [if_neg hpre, if_neg hpre', if_pos hb, if_pos hb]
      have hs : strstr needle s ≠ .fault := by
        intro hs
        rw [strstr, if_neg hpre, if_neg hb, hs] at h
        exact h rfl
      have hpre' : ¬ needle.isPrefixOf (b :: (s ++ t)) = true := by
        intro hp'
        have hp' : needle <+: (b :: s) ++ t := List.isPrefixOf_iff_prefix.mp hp'
        -- a match that needs bytes of `t` would cover all of `s`, and then nothing in `s` stops the search
        have hlen : ¬ needle.length ≤ (b :: s).length :=
          fun hle => hp (List.prefix_of_prefix_length_le hp' (List.prefix_append _ _) hle)
        have hcover : b :: s <+: needle :=
          List.prefix_of_prefix_length_le (List.prefix_append _ _) hp' (by omega)
        apply hs
        rw [strstr_fault_iff hne]
        refine ⟨?_, ?_⟩
        · intro hmem
          exact h0 (hcover.subset (List.mem_cons_of_mem _ hmem))
        · intro hinf
          have := hinf.length_le
          rw [List.length_cons] at hlen
          omega
      rw [if_neg hpre, if_neg hpre', if_neg hb, if_neg hb, ih hs]

/-- What holds no NUL ends in front of the first one. -/
theorem length_le_of_noNul {a c pre rest : Bytes} (h : a ++ 0 :: c = pre ++ rest) (h0 : 0 ∉ pre) :
    pre.length ≤ a.length := by
  by_contra hlt
  apply h0
  have hget : (pre ++ rest)[a.length]? = some 0 := by
    rw [← h]
    simp
  rw [List.getElem?_append_left (by omega)] at hget
  exact List.mem_of_getElem? hget

/-- The first match, in front of which there is no NUL, is found. -/
theorem strstr_of_first {a c : Bytes} (hne : needle ≠ []) (h0 : 0 ∉ a)
    (hfirst : ∀ j < a.length, ¬ needle <+: (a ++ needle ++ c).drop j) :
    strstr needle (a ++ needle ++ c) = .found a.length := by
  cases h : strstr needle (a ++ needle ++ c) with
  | fault => exact absurd (List.infix_append _ _ _) ((strstr_fault_iff hne).mp h).2
  | absent k =>
      obtain ⟨a', c', heq, hlen, _, hno⟩ := strstr_absent h
      -- a NUL that stops the search in front of the match would lie in `a`
      have hle : a.length ≤ k := by
        rw [List.append_assoc] at heq
        rw [← hlen]
        exact length_le_of_noNul heq.symm h0
      apply absurd _ (hno a.length hle)
      rw [List.append_assoc, List.drop_left]
      exact List.prefix_append _ _
  | found k =>
      obtain ⟨a', c', heq, hlen, _, hno⟩ := strstr_found h
      congr 1
      rcases Nat.lt_trichotomy k a.length with hlt | heq' | hgt
      · apply absurd _ (hfirst k hlt)
        rw [heq, ← hlen, List.append_assoc, List.drop_left]
        exact List.prefix_append _ _
      · exact heq'
      · apply absurd _ (hno a.length hgt)
        rw [List.append_assoc, List.drop_left]
        exact List.prefix_append _ _

/-- Without a match the search ends at the NUL. -/
theorem strstr_noMatch {a : Bytes} (hneedle : 0 ∉ needle) (hne : needle ≠ []) (h0 : 0 ∉ a)
    (hno : ¬ needle <:+: a) : strstr needle (a ++ [0]) = .absent a.length := by
  induction a with
  | nil =>
      have hpre : ¬ needle <+: [0] := by
        intro hp
        rcases List.prefix_cons_iff.mp hp with hnil | ⟨n, hn, _⟩
        · exact hne hnil
        · exact hneedle (by rw [hn]; exact List.mem_cons_self ..)
      rw [List.nil_append, strstr, if_neg (fun h => hpre (List.isPrefixOf_iff_prefix.mp h)), if_pos rfl]
      rfl
  | cons b a ih =>
      rw [List.mem_cons, not_or] at h0
      rw [List.infix_cons_iff, not_or] at hno
      have hpre : ¬ needle <+: b :: (a ++ [0]) := by
        intro hp
        -- the match would end with the NUL, or in front of it
        rcases List.prefix_concat_iff.mp (show needle <+: (b :: a) ++ [0] from hp) with hall | hp
        · exact hneedle (by rw [hall]; simp)
        · exact hno.1 hp
      rw [List.cons_append, strstr, if_neg (fun h => hpre (List.isPrefixOf_iff_prefix.mp h)),
        if_neg (fun hb => h0.1 hb.symm), ih h0.2 hno.2]
      rfl

/-- **A search is stopped by the first NUL** exactly where no match lies in front of it. -/
theorem strstr_absent_iff (hneedle : 0 ∉ needle) (hne : needle ≠ []) :
    strstr needle s = .absent i ↔ ∃ a c, s = a ++ 0 :: c ∧ a.length = i ∧ 0 ∉ a ∧ ¬ needle <:+: a := by
  constructor
  · intro h
    obtain ⟨a, c, rfl, hlen, h0, hno⟩ := strstr_absent h
    refine ⟨a, c, rfl, hlen, h0, ?_⟩
    rintro ⟨u, v, rfl⟩
    rw [List.length_append, List.length_append] at hlen
    apply hno u.length (by omega)
    simp only [List.append_assoc, List.drop_left]
    exact List.prefix_append _ _
  · rintro ⟨a, c, rfl, rfl, h0, hno⟩
    have hstop := strstr_noMatch hneedle hne h0 hno
    have happend := strstr_append hne hneedle (by rw [hstop]; simp) c
    rw [List.append_assoc] at happend
    exact happend.trans hstop

end Strstr

/-! ## Lines

Two occurrences of CR LF cannot overlap, so the first one is where a string without a CR LF in it ends, and the first
line of a memory is unique. -/

/-- `"\r\n"`. -/
def crlf : Bytes := [13, 10]

/-- `"\r\n\r\n"`. -/
def crlfcrlf : Bytes := [13, 10, 13, 10]

theorem crlf_ne_nil : crlf ≠ [] := by decide

theorem zero_not_mem_crlf : 0 ∉ crlf := by decide

theorem crlfcrlf_ne_nil : crlfcrlf ≠ [] := by decide

theorem zero_not_mem_crlfcrlf : 0 ∉ crlfcrlf := by decide

/-- A CR LF that begins inside `a` and not behind it lies inside `a`: none can begin with the CR of another. -/
theorem crlf_inside {a c : Bytes} {j : Nat} (hj : j < a.length) (h : crlf <+: (a ++ crlf ++ c).drop j) :
    crlf <+: a.drop j := by
  rw [List.append_assoc, List.drop_append_of_le_length (Nat.le_of_lt hj)] at h
  have hpos : 0 < (a.drop j).length := by
    rw [List.length_drop]
    omega
  rcases hd : a.drop j with _ | ⟨x, _ | ⟨y, rest⟩⟩
  · rw [hd] at hpos
    exact absurd hpos (Nat.lt_irrefl 0)
  · -- the last byte of `a` would be followed by LF, and it is followed by CR
    rw [hd] at h
    obtain ⟨t, ht⟩ := h
    simp [crlf] at ht
  · rw [hd] at h
    obtain ⟨t, ht⟩ := h
    simp only [crlf, List.cons_append, List.nil_append, List.cons.injEq] at ht
    rw [← ht.1, ← ht.2.1]
    exact List.prefix_append [13, 10] rest

/-- **The first line.** A search for CR LF finds the end of the first line, the one without a CR LF in it. -/
theorem strstr_crlf_iff {s : Bytes} {i : Nat} :
    strstr crlf s = .found i ↔ ∃ a c, s = a ++ crlf ++ c ∧ a.length = i ∧ 0 ∉ a ∧ ¬ crlf <:+: a := by
  constructor
  · intro h
    obtain ⟨a, c, rfl, hlen, h0, hfirst⟩ := strstr_found h
    refine ⟨a, c, rfl, hlen, h0, ?_⟩
    rintro ⟨u, v, rfl⟩
    apply hfirst u.length
    · rw [← hlen]
      simp [crlf]
    · rw [List.append_assoc, List.append_assoc, List.append_assoc, List.drop_left]
      exact List.prefix_append _ _
  · rintro ⟨a, c, rfl, rfl, h0, hno⟩
    apply strstr_of_first crlf_ne_nil h0
    intro j hj hp
    apply hno
    exact (crlf_inside hj hp).isInfix.trans (List.drop_suffix j a).isInfix

/-- Two decompositions into first line and rest are the same. -/
theorem firstLine_unique {a a' c c' : Bytes} (h : a ++ crlf ++ c = a' ++ crlf ++ c') (ha : ¬ crlf <:+: a)
    (ha' : ¬ crlf <:+: a') : a = a' ∧ c = c' := by
  have hnot : ∀ {b b' d d' : Bytes}, b ++ crlf ++ d = b' ++ crlf ++ d' → ¬ crlf <:+: b' →
      ¬ b.length < b'.length := by
    intro b b' d d' heq hb' hlt
    apply hb'
    have hp : crlf <+: (b' ++ crlf ++ d').drop b.length := by
      rw [← heq, List.append_assoc, List.drop_left]
      exact List.prefix_append _ _
    exact (crlf_inside hlt hp).isInfix.trans (List.drop_suffix _ b').isInfix
  have hlen : a.length = a'.length := by
    have h₁ := hnot h ha'
    have h₂ := hnot h.symm ha
    omega
  rw [List.append_assoc, List.append_assoc] at h
  obtain ⟨rfl, hrest⟩ := List.append_inj h hlen
  exact ⟨rfl, List.append_cancel_left hrest⟩

/-! ## A match at a border -/

/-- **A needle that does not repeat its first byte** does not reach across a place where it begins: a match in
`s ++ p`, where `p` is the beginning of one, lies in `s`, or is `p`. -/
theorem match_append {b : UInt8} {n s p a c : Bytes} (hb : b ∉ n) (hp : p <+: b :: n)
    (h : s ++ p = a ++ b :: n ++ c) : (∃ t, s = a ++ b :: n ++ t) ∨ (s = a ∧ p = b :: n ∧ c = []) := by
  have hlen := hp.length_le
  rw [List.append_assoc] at h
  rcases List.append_eq_append_iff.mp h with ⟨a', rfl, hp'⟩ | ⟨s', rfl, hs'⟩
  · -- the match lies in `p`, which is not longer
    rw [hp', List.length_append, List.length_append] at hlen
    obtain rfl : a' = [] := List.eq_nil_of_length_eq_zero (by omega)
    obtain rfl : c = [] := List.eq_nil_of_length_eq_zero (by omega)
    exact .inr ⟨(List.append_nil s).symm, by rw [hp', List.nil_append, List.append_nil], rfl⟩
  rcases List.append_eq_append_iff.mp hs' with ⟨t, ht, -⟩ | ⟨t, ht, hp'⟩
  · exact .inl ⟨t, by rw [ht, List.append_assoc]⟩
  -- what is left of the match at the border begins with `b`
  cases t with
  | nil => exact .inl ⟨[], by rw [ht, List.append_nil, List.append_nil]⟩
  | cons d t =>
      rw [hp'] at hp hlen
      obtain rfl : d = b := (List.cons_prefix_cons.mp hp).1
      cases s' with
      | nil =>
          obtain rfl : n = t := (List.cons.inj ht).2
          rw [List.length_append] at hlen
          obtain rfl : c = [] := List.eq_nil_of_length_eq_zero (by omega)
          exact .inr ⟨List.append_nil a, by rw [hp', List.append_nil], rfl⟩
      | cons x s' =>
          obtain ⟨-, ht⟩ := List.cons.inj ht
          exact absurd (by rw [ht]; simp) hb

/-! ## Within a length -/

/-- `memchr`: the offset of the first `c`. -/
def memchr (c : UInt8) (s : Bytes) : Option Nat := s.idxOf? c

theorem memchr_append {c : UInt8} {a b : Bytes} (h : c ∉ a) : memchr c (a ++ c :: b) = some a.length := by
  unfold memchr
  induction a with
  | nil => simp [List.idxOf?_cons]
  | cons x a ih =>
      rw [List.mem_cons, not_or] at h
      have hx : ¬ (x == c) = true := by
        intro hx
        exact h.1 (eq_of_beq hx).symm
      rw [List.cons_append, List.idxOf?_cons, if_neg hx, ih h.2]
      rfl

theorem memchr_eq_none {c : UInt8} {s : Bytes} : memchr c s = none ↔ c ∉ s := by
  unfold memchr
  exact List.idxOf?_eq_none_iff

theorem memchr_eq_some {c : UInt8} {s : Bytes} {i : Nat} :
    memchr c s = some i ↔ ∃ a b, s = a ++ c :: b ∧ a.length = i ∧ c ∉ a := by
  constructor
  · intro h
    induction s generalizing i with
    | nil => cases h
    | cons x s ih =>
        unfold memchr at h ih
        rw [List.idxOf?_cons] at h
        split at h
        · rename_i hx
          obtain rfl := Option.some.inj h
          exact ⟨[], s, by rw [eq_of_beq hx]; rfl, rfl, List.not_mem_nil⟩
        · rename_i hx
          obtain ⟨k, hk, rfl⟩ := Option.map_eq_some_iff.mp h
          obtain ⟨a, b, rfl, hlen, hno⟩ := ih hk
          refine ⟨x :: a, b, rfl, by rw [List.length_cons, hlen], ?_⟩
          intro hmem
          rcases List.mem_cons.mp hmem with hmem | hmem
          · rw [hmem] at hx
            exact hx (beq_self_eq_true x)
          · exact hno hmem
  · rintro ⟨a, b, rfl, rfl, hno⟩
    exact memchr_append hno

/-- `tolower` in the C locale. -/
def tolower (b : UInt8) : UInt8 := if 65 ≤ b ∧ b ≤ 90 then b + 32 else b

/-- `strncasecmp(s, t, n) == 0` for `n` bytes without a NUL. -/
def strncaseeq (s t : Bytes) : Bool := s.map tolower == t.map tolower

/-! ## Numbers -/

/-- `isspace` in the C locale. -/
def isSpace (b : UInt8) : Bool := b == 32 || (9 ≤ b && b ≤ 13)

def isDigit (b : UInt8) : Bool := 48 ≤ b && b ≤ 57

/-- The number of a string of digits. -/
def ofDigits (s : Bytes) : Nat := s.foldl (fun acc d => acc * 10 + (d.toNat - 48)) 0

/-- The sign in front of a number. -/
def sign : Bytes → Bool × Bytes
  | 45 :: s => (true, s)
  | 43 :: s => (false, s)
  | s => (false, s)

/-- `strtol` in base 10 before it is cut to the range of its type, and how many bytes it reads: white space, a
    sign, digits and the byte behind them. `none` when it leaves the memory. -/
def strtol (s : Bytes) : Option (Int × Nat) :=
  let (neg, s') := sign (s.dropWhile isSpace)
  match s'.dropWhile isDigit with
  | [] => none
  | _ :: rest =>
      let n : Int := ofDigits (s'.takeWhile isDigit)
      some (if neg then -n else n, s.length - rest.length)

/-- `atol` on a 64-bit `long`. -/
def atol (s : Bytes) : Option (Int × Nat) :=
  (strtol s).map fun (n, k) => (max (-2 ^ 63) (min n (2 ^ 63 - 1)), k)

/-- `atoi`: `atol` cut to an `int`. -/
def atoi (s : Bytes) : Option (Int × Nat) :=
  (atol s).map fun (n, k) => (n.bmod (2 ^ 32), k)

theorem dropWhile_append_cons {p : UInt8 → Bool} {s rest : Bytes} {b : UInt8} (h : s.dropWhile p = b :: rest)
    (t : Bytes) : (s ++ t).dropWhile p = b :: (rest ++ t) := by
  rw [List.dropWhile_append, h]
  rfl

theorem takeWhile_append_of_stop {p : UInt8 → Bool} {s rest : Bytes} {b : UInt8} (h : s.dropWhile p = b :: rest)
    (t : Bytes) : (s ++ t).takeWhile p = s.takeWhile p := by
  have hsplit := List.takeWhile_append_dropWhile (p := p) (l := s)
  rw [h] at hsplit
  have hlen := congrArg List.length hsplit
  rw [List.length_append, List.length_cons] at hlen
  rw [List.takeWhile_append, if_neg (by omega)]

/-- **A number that ends in the memory is local.** -/
theorem strtol_append {s : Bytes} {r : Int × Nat} (h : strtol s = some r) (t : Bytes) :
    strtol (s ++ t) = some r := by
  unfold strtol at h ⊢
  rcases hspace : s.dropWhile isSpace with _ | ⟨b, s₁⟩
  · rw [hspace] at h
    exact absurd h (by simp [sign])
  have hsign : sign (b :: (s₁ ++ t)) = ((sign (b :: s₁)).1, (sign (b :: s₁)).2 ++ t) := by
    unfold sign
    split
    · rename_i heq
      obtain ⟨rfl, rfl⟩ := List.cons.inj heq
      rfl
    · rename_i heq
      obtain ⟨rfl, rfl⟩ := List.cons.inj heq
      rfl
    · rename_i h₁ h₂
      split
      · rename_i heq
        obtain ⟨rfl, rfl⟩ := List.cons.inj heq
        exact absurd rfl (h₁ _)
      · rename_i heq
        obtain ⟨rfl, rfl⟩ := List.cons.inj heq
        exact absurd rfl (h₂ _)
      · rfl
  rw [hspace] at h
  rw [dropWhile_append_cons hspace, hsign]
  rcases hs' : sign (b :: s₁) with ⟨neg, s'⟩
  rw [hs'] at h
  simp only at h ⊢
  rcases hdigits : s'.dropWhile isDigit with _ | ⟨d, rest⟩
  · rw [hdigits] at h
    cases h
  · rw [hdigits] at h
    rw [dropWhile_append_cons hdigits, takeWhile_append_of_stop hdigits, ← h]
    simp only [List.length_append, Nat.add_sub_add_right]

/-- `strtol` reads no more than there is. -/
theorem strtol_read {s : Bytes} {n : Int} {k : Nat} (h : strtol s = some (n, k)) : k ≤ s.length := by
  unfold strtol at h
  simp only at h
  split at h
  · cases h
  · have hk := congrArg Prod.snd (Option.some.inj h)
    simp only at hk
    omega

end Lib
