import Showcase.Lib.Bytes

/-!
# `Lib.Text` — what a program prints

A text is a byte string that is written piece by piece. Two texts are **apart** when neither is the beginning of the
other: whatever is written behind them, they stay different.

## Contents
- `utf8`, `hex`, `hexLower` — a literal, and numbers as `%0wX` and `%0wx` print them.
- `Apart`, with `Apart.append` — what is apart stays apart.
- `apart_flatMap` — a code in which the symbols are apart keeps different words of one length apart.
- `apart_utf8` — UTF-8 is one.
- `utf8_take_iff` — where a text may be cut; `cText` — what is in front of a NUL.
-/

namespace Lib

/-! ## Formats -/

/-- A text in UTF-8. -/
def utf8 (s : String) : Bytes := s.toList.flatMap String.utf8EncodeChar

/-- Digits with zeros in front, up to `w` characters. -/
def padded (w : Nat) (digits : List Char) : String :=
  String.ofList (List.replicate (w - digits.length) '0' ++ digits)

/-- `%0wX`. -/
def hex (w n : Nat) : String := padded w ((Nat.toDigits 16 n).map Char.toUpper)

/-- `%0wx`, and `%x` for `w = 0`. -/
def hexLower (w n : Nat) : String := padded w (Nat.toDigits 16 n)

/-! ## Texts that stay apart

Where two words of a code differ for the first time, they have code words that are apart, and nothing behind these
makes up for it. -/

/-- Neither of them is the beginning of the other. -/
def Apart {α : Type} (a b : List α) : Prop := ¬ a <+: b ∧ ¬ b <+: a

namespace Apart

variable {α : Type} {a b : List α}

theorem symm (h : Apart a b) : Apart b a := ⟨h.2, h.1⟩

theorem ne (h : Apart a b) : a ≠ b := by
  rintro rfl
  exact h.1 (List.prefix_refl a)

/-- Lists that are apart stay so with the same list in front of both. -/
theorem behind (h : Apart a b) (p : List α) : Apart (p ++ a) (p ++ b) :=
  ⟨fun hp => h.1 ((List.prefix_append_right_inj p).mp hp), fun hp => h.2 ((List.prefix_append_right_inj p).mp hp)⟩

/-- Lists that are apart stay so with anything behind them. -/
theorem append (h : Apart a b) (x y : List α) : Apart (a ++ x) (b ++ y) := by
  refine ⟨?_, ?_⟩
  · intro hp
    rcases List.prefix_or_prefix_of_prefix ((List.prefix_append a x).trans hp) (List.prefix_append b y) with hab | hba
    · exact h.1 hab
    · exact h.2 hba
  · intro hp
    rcases List.prefix_or_prefix_of_prefix ((List.prefix_append b y).trans hp) (List.prefix_append a x) with hba | hab
    · exact h.2 hba
    · exact h.1 hab

end Apart

/-- **Codes.** When the code words of different symbols are apart, so are the codes of different words of one
    length. -/
theorem apart_flatMap {α β : Type} {code : α → List β} (hcode : ∀ x y, x ≠ y → Apart (code x) (code y)) {a b : List α}
    (hlen : a.length = b.length) (hne : a ≠ b) : Apart (a.flatMap code) (b.flatMap code) := by
  induction a generalizing b with
  | nil =>
      rw [List.length_nil] at hlen
      exact absurd (List.eq_nil_of_length_eq_zero hlen.symm).symm hne
  | cons x a ih =>
      cases b with
      | nil => cases hlen
      | cons y b =>
          rw [List.flatMap_cons, List.flatMap_cons]
          by_cases hxy : x = y
          · subst hxy
            have hlen' : a.length = b.length := Nat.succ.inj hlen
            have hne' : a ≠ b := by
              rintro rfl
              exact hne rfl
            exact (ih hlen' hne').behind _
          · exact (hcode x y hxy).append _ _

/-- The UTF-8 of different characters is apart: it is decoded without a look at what follows. -/
theorem apart_utf8 {c d : Char} (h : c ≠ d) : Apart (String.utf8EncodeChar c) (String.utf8EncodeChar d) := by
  have hnot : ∀ {c d : Char}, c ≠ d → ¬ String.utf8EncodeChar c <+: String.utf8EncodeChar d := by
    rintro c d hcd ⟨t, ht⟩
    have hc := ByteArray.utf8DecodeChar?_utf8EncodeChar_append (b := t.toByteArray) (c := c)
    have hd := ByteArray.utf8DecodeChar?_utf8EncodeChar_append (b := ByteArray.empty) (c := d)
    rw [← List.toByteArray_append, ht] at hc
    rw [ByteArray.append_empty] at hd
    exact hcd (Option.some.inj (hc.symm.trans hd))
  exact ⟨hnot h, hnot h.symm⟩

/-! ## Cut texts

A character has one byte that can begin one, its first (`utf8EncodeChar_rest`). The two directions are inductions over
the characters: the cut is behind the first of them, or falls into it. -/

section Cut

variable {c : Char} {cs : List Char}

/-- The first byte of a character is one that begins a character. -/
theorem utf8EncodeChar_head (c : Char) :
    ∃ b bs, String.utf8EncodeChar c = b :: bs ∧ b.IsUTF8FirstByte := by
  cases hc : String.utf8EncodeChar c with
  | nil => exact absurd hc String.utf8EncodeChar_ne_nil
  | cons b bs =>
      refine ⟨b, bs, rfl, ?_⟩
      have hfirst : ∀ h, ((String.utf8EncodeChar c).get ⟨0, h⟩).IsUTF8FirstByte :=
        fun _ => UInt8.isUTF8FirstByte_getElem_utf8EncodeChar.mpr rfl
      rw [hc] at hfirst
      exact hfirst (Nat.succ_pos _)

/-- No byte of a character but the first is one that begins a character. -/
theorem utf8EncodeChar_rest {i : Nat} {b : UInt8} (hb : (String.utf8EncodeChar c)[i]? = some b)
    (hfirst : b.IsUTF8FirstByte) : i = 0 := by
  obtain ⟨hi, rfl⟩ := List.getElem?_eq_some_iff.mp hb
  exact UInt8.isUTF8FirstByte_getElem_utf8EncodeChar.mp hfirst

/-- Where a byte begins a character, what is in front of it is a text. -/
theorem flatMap_utf8_of_boundary {n : Nat}
    (h : ∀ b, (cs.flatMap String.utf8EncodeChar)[n]? = some b → b.IsUTF8FirstByte) :
    ∃ ds : List Char, ds.flatMap String.utf8EncodeChar = (cs.flatMap String.utf8EncodeChar).take n := by
  induction cs generalizing n with
  | nil => exact ⟨[], by rw [List.flatMap_nil, List.take_nil]⟩
  | cons c cs ih =>
      rcases Nat.eq_zero_or_pos n with rfl | hpos
      · exact ⟨[], rfl⟩
      rw [List.flatMap_cons] at h ⊢
      by_cases hlt : n < (String.utf8EncodeChar c).length
      · -- the byte is another one of `c`
        have hbyte : (String.utf8EncodeChar c)[n]? = some (String.utf8EncodeChar c)[n] := List.getElem?_eq_getElem hlt
        have hfirst := h _ (by rw [List.getElem?_append_left hlt, hbyte])
        exact absurd (utf8EncodeChar_rest hbyte hfirst) hpos.ne'
      · rw [not_lt] at hlt
        obtain ⟨ds, hds⟩ := ih (n := n - (String.utf8EncodeChar c).length) (by
          intro b hb
          rw [← List.getElem?_append_right hlt] at hb
          exact h b hb)
        refine ⟨c :: ds, ?_⟩
        rw [List.flatMap_cons, hds, List.take_append, List.take_of_length_le hlt]

/-- Where what is in front of a byte is a text, the byte begins a character. -/
theorem boundary_of_flatMap_utf8 {n : Nat} {ds : List Char}
    (h : ds.flatMap String.utf8EncodeChar = (cs.flatMap String.utf8EncodeChar).take n) {b : UInt8}
    (hb : (cs.flatMap String.utf8EncodeChar)[n]? = some b) : b.IsUTF8FirstByte := by
  induction cs generalizing n ds with
  | nil => cases hb
  | cons c cs ih =>
      rw [List.flatMap_cons] at h hb
      cases ds with
      | nil =>
          obtain ⟨b₀, bs, hc, hfirst⟩ := utf8EncodeChar_head c
          have hzero : n = 0 := by
            rw [List.flatMap_nil, hc, List.cons_append] at h
            rcases List.take_eq_nil_iff.mp h.symm with hzero | hnil
            · exact hzero
            · cases hnil
          subst hzero
          rw [hc, List.cons_append, List.getElem?_cons_zero] at hb
          exact Option.some.inj hb ▸ hfirst
      | cons d ds =>
          rw [List.flatMap_cons] at h
          -- both texts begin with a character, and it is the same
          have hd : d = c := by
            by_contra hne
            have hp : String.utf8EncodeChar d <+: String.utf8EncodeChar c ++ cs.flatMap String.utf8EncodeChar :=
              (List.prefix_append _ _).trans (h ▸ List.take_prefix n _)
            rcases List.prefix_or_prefix_of_prefix hp (List.prefix_append _ _) with hdc | hcd
            · exact (apart_utf8 hne).1 hdc
            · exact (apart_utf8 hne).2 hcd
          subst hd
          have hle : (String.utf8EncodeChar d).length ≤ n := by
            have hlen := congrArg List.length h
            rw [List.length_append, List.length_take] at hlen
            omega
          rw [List.take_append, List.take_of_length_le hle, List.append_cancel_left_eq] at h
          rw [List.getElem?_append_right hle] at hb
          exact ih h hb

end Cut

/-- **A text that is cut** is a text exactly when the first byte that is left out begins a character. -/
theorem utf8_take_iff (s : String) (n : Nat) :
    (∃ t, utf8 t = (utf8 s).take n) ↔ ∀ b, (utf8 s)[n]? = some b → b.IsUTF8FirstByte := by
  constructor
  · rintro ⟨t, ht⟩ b hb
    exact boundary_of_flatMap_utf8 ht hb
  · intro h
    obtain ⟨ds, hds⟩ := flatMap_utf8_of_boundary h
    exact ⟨String.ofList ds, by rw [utf8, String.toList_ofList, hds]; rfl⟩

/-- The character NUL. -/
def nul : Char := Char.ofNat 0

/-- A NUL in the bytes is one in the text. -/
theorem zero_mem_utf8EncodeChar {c : Char} : 0 ∈ String.utf8EncodeChar c ↔ c = nul := by
  constructor
  · intro h
    by_contra hne
    obtain ⟨i, hi, hzero⟩ := List.mem_iff_getElem.mp h
    have hbyte : (String.utf8EncodeChar c)[i]? = some 0 := by rw [List.getElem?_eq_getElem hi, hzero]
    obtain rfl := utf8EncodeChar_rest hbyte (by decide)
    -- then the character begins like NUL
    obtain ⟨b, bs, hc, -⟩ := utf8EncodeChar_head c
    rw [hc, List.getElem?_cons_zero] at hbyte
    refine (apart_utf8 hne).2 ⟨bs, ?_⟩
    rw [hc, Option.some.inj hbyte]
    rfl
  · rintro rfl
    decide

theorem zero_mem_utf8 {s : String} : 0 ∈ utf8 s ↔ nul ∈ s.toList := by
  rw [utf8, List.mem_flatMap]
  constructor
  · rintro ⟨c, hc, hzero⟩
    exact zero_mem_utf8EncodeChar.mp hzero ▸ hc
  · exact fun h => ⟨_, h, zero_mem_utf8EncodeChar.mpr rfl⟩

/-- What a C function sees of a text, as far as the first NUL. -/
def cText (s : String) : String := String.ofList (s.toList.takeWhile (· ≠ nul))

/-- The bytes of it are those in front of the first NUL byte. -/
theorem utf8_cText (s : String) : utf8 (cText s) = (utf8 s).takeWhile (· ≠ 0) := by
  rw [cText, utf8, utf8, String.toList_ofList]
  induction s.toList with
  | nil => rfl
  | cons c cs ih =>
      by_cases hc : c = nul
      · subst hc
        rfl
      · have hno : ∀ b ∈ String.utf8EncodeChar c, decide (b ≠ 0) = true := by
          intro b hb
          refine decide_eq_true fun hzero => hc (zero_mem_utf8EncodeChar.mp (hzero ▸ hb))
        have hkeep : (c :: cs).takeWhile (fun x => decide (x ≠ nul)) = c :: cs.takeWhile fun x => decide (x ≠ nul) :=
          List.takeWhile_cons_of_pos (decide_eq_true hc)
        rw [hkeep, List.flatMap_cons, List.flatMap_cons, ih, List.takeWhile_append_of_pos hno]

end Lib
