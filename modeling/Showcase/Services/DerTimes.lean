import Mathlib.Tactic.Common
import Mathlib.Tactic.IntervalCases
import Showcase.Lib.Reads

/-!
# `Services.DerTimes` — the validity dates of a certificate (`baa_der_collect_times`)

Both helpers look for the dates of the certificate they are given with the same recursive scan: it goes over the
elements of a byte string, copies the contents of the primitive ones with the tag of a UTCTime or a
GeneralizedTime, goes into the constructed ones and over everything else. The lengths are the certificate's.

`DerValue` is what such a byte string is meant to be. The scan as it reads memory is `baaDerCollectTimes`; it
stays inside whatever the bytes are (`collect_safe`), and on the encoding of a value it finds the dates in the
order of the document (`collect_values`).
-/

namespace Showcase

open Lib Lib.ReadProg

/-! ## The scan -/

/-- The long form of a length: `bodyLen = (bodyLen << 8) | der[i+2+b]`. -/
def derLength (addr : Int) : Nat → Nat → ReadProg Nat
  | 0, bodyLen => return bodyLen
  | n + 1, bodyLen => do
      let b ← byte addr
      derLength (addr + 1) n (bodyLen <<< 8 ||| b.toNat)

/-- How many bytes the length has behind the first, and the length; none for a form the scan does not take. -/
def derHeader (der len i : Int) (lenByte : UInt8) : ReadProg (Option (Nat × Nat)) :=
  if lenByte &&& 0x80 ≠ 0 then
    let nBytes := (lenByte &&& 0x7F).toNat
    long (i + 2 + nBytes) <|
    if nBytes = 0 ∨ 4 < nBytes ∨ len < i + 2 + nBytes then return none
    else do
      let bodyLen ← derLength (der + i + 2) nBytes 0
      return some (nBytes, bodyLen)
  else return some (0, lenByte.toNat)

/-- `baa_der_collect_times` from offset `i` on: `out` are the strings found so far, `*count` their number. -/
def baaDerCollectTimes (der len maxOut i : Int) (out : List Bytes) : ReadProg (List Bytes) :=
  long (i + 2) <|
  if _hloop : i + 2 ≤ len ∧ out.length < maxOut then do
    let tag ← byte (der + i)
    let lenByte ← byte (der + i + 1)
    match ← derHeader der len i lenByte with
    | none => return out
    | some (nBytes, bodyLen) =>
        -- four bytes never make a 64-bit `long` negative, so of `bodyLen < 0 || …` the second half decides
        long (i + (2 + nBytes) + bodyLen) <|
        if _hbody : len < i + (2 + nBytes) + bodyLen then return out
        else if tag = 0x17 ∨ tag = 0x18 then do
          let s ← bytes (der + i + (2 + nBytes)) bodyLen
          baaDerCollectTimes der len maxOut (i + (2 + nBytes) + bodyLen) (out ++ [s])
        else if tag &&& 0x20 ≠ 0 then do
          let found ← baaDerCollectTimes (der + i + (2 + nBytes)) bodyLen maxOut 0 out
          baaDerCollectTimes der len maxOut (i + (2 + nBytes) + bodyLen) found
        else baaDerCollectTimes der len maxOut (i + (2 + nBytes) + bodyLen) out
  else return out
termination_by (len - i).toNat
decreasing_by all_goals omega

/-! ## What it is meant to read -/

/-- A value with a single-byte tag and a definite length, with the bytes its length is written in. -/
inductive DerValue where
  | primitive (tag : UInt8) (octets content : Bytes)
  | constructed (tag : UInt8) (octets : Bytes) (values : List DerValue)

/-- The bytes a length of `n` may be written in: one below 128, or a count of up to four bytes and these. (DER
asks for the shortest of them.) -/
def LengthOctets (n : Nat) (octets : Bytes) : Prop :=
  (n < 128 ∧ octets = [UInt8.ofNat n]) ∨
    ∃ k, 1 ≤ k ∧ k ≤ 4 ∧ n < 256 ^ k ∧ octets = UInt8.ofNat (0x80 + k) :: toBE k n

mutual

def DerValue.encode : DerValue → Bytes
  | .primitive tag octets content => tag :: (octets ++ content)
  | .constructed tag octets values => tag :: (octets ++ encodeAll values)

def encodeAll : List DerValue → Bytes
  | [] => []
  | v :: vs => v.encode ++ encodeAll vs

end

mutual

/-- The tag is a single byte that says whether there are values inside, and the length is the content's. -/
def DerValue.WellFormed : DerValue → Prop
  | .primitive tag octets content =>
      tag &&& 0x1F ≠ 0x1F ∧ tag &&& 0x20 = 0 ∧ LengthOctets content.length octets
  | .constructed tag octets values =>
      tag &&& 0x1F ≠ 0x1F ∧ tag &&& 0x20 ≠ 0 ∧ LengthOctets (encodeAll values).length octets ∧
        WellFormedAll values

def WellFormedAll : List DerValue → Prop
  | [] => True
  | v :: vs => v.WellFormed ∧ WellFormedAll vs

end

mutual

/-- The contents of the UTCTime and GeneralizedTime values, in the order of the document. -/
def DerValue.times : DerValue → List Bytes
  | .primitive tag _ content => if tag = 0x17 ∨ tag = 0x18 then [content] else []
  | .constructed _ _ values => timesAll values

def timesAll : List DerValue → List Bytes
  | [] => []
  | v :: vs => v.times ++ timesAll vs

end

/-! ## Lengths -/

theorem derLength_safe {m : Mem} {ok : Int → Prop} {i : Int} {n bodyLen : Nat}
    (h : ∀ j, i ≤ j → j < i + n → ok j) :
    Safe m ok (derLength i n bodyLen) fun _ => True := by
  induction n generalizing i bodyLen with
  | zero => exact Safe.pure trivial
  | succ n ih =>
      apply Safe.byte_bind (h i (Int.le_refl i) (by omega))
      exact ih fun j hj hj' => h j (by omega) (by push_cast; omega)

/-- The loop reads a number, most significant byte first. -/
theorem run_derLength {m : Mem} {i : Int} {b : Bytes} (acc : Nat) (h : HoldsAt m i b) :
    run m (derLength i b.length acc) = some (b.foldl (fun acc x => acc * 256 + x.toNat) acc) := by
  induction b generalizing i acc with
  | nil => rfl
  | cons x b ih =>
      obtain ⟨hx, hb⟩ := HoldsAt.cons_iff.mp h
      show run m (byte i >>= fun b' => derLength (i + 1) b.length (acc <<< 8 ||| b'.toNat)) = _
      rw [run_byte_bind, hx, shiftLeft_or_byte]
      exact ih _ hb

/-- The `n` bytes a memory has from an address on. -/
theorem holds_range (m : Mem) (i : Int) (n : Nat) : HoldsAt m i ((List.range n).map fun j : Nat => m (i + j)) := by
  intro j hj
  simp at hj ⊢

theorem derLength_returns (m : Mem) (i : Int) (n acc : Nat) :
    ∃ bodyLen, run m (derLength i n acc) = some bodyLen := by
  have hrun := run_derLength acc (holds_range m i n)
  rw [List.length_map, List.length_range] at hrun
  exact ⟨_, hrun⟩

/-- A length of up to four bytes is below `2 ^ 32`. -/
theorem run_derLength_lt {m : Mem} {i : Int} {n bodyLen : Nat} (hn : n ≤ 4)
    (h : run m (derLength i n 0) = some bodyLen) : bodyLen < 2 ^ 32 := by
  have hrun := run_derLength 0 (holds_range m i n)
  rw [List.length_map, List.length_range, h] at hrun
  have hlt := ofBE_lt ((List.range n).map fun j : Nat => m (i + j))
  rw [List.length_map, List.length_range] at hlt
  calc bodyLen = ofBE ((List.range n).map fun j : Nat => m (i + j)) := Option.some.inj hrun
    _ < 256 ^ n := hlt
    _ ≤ 256 ^ 4 := Nat.pow_le_pow_right (by omega) hn

/-- The header is read inside the byte string, and a length it gives is below `2 ^ 32`. -/
theorem derHeader_safe {m : Mem} {der len i : Int} (lenByte : UInt8) (hi : 0 ≤ i) :
    Safe m (fun j => der ≤ j ∧ j < der + len) (derHeader der len i lenByte)
      (∀ r ∈ ·, r.1 ≤ 4 ∧ r.2 < 2 ^ 32) := by
  unfold derHeader
  by_cases hlong : lenByte &&& 0x80 ≠ 0
  · rw [if_pos hlong]
    apply Safe.long
    intro _
    by_cases hform : (lenByte &&& 0x7F).toNat = 0 ∨ 4 < (lenByte &&& 0x7F).toNat ∨
        len < i + 2 + (lenByte &&& 0x7F).toNat
    · rw [if_pos hform]
      exact Safe.pure (fun r hr => nomatch hr)
    · rw [if_neg hform]
      apply Safe.bind (derLength_safe fun j hj hj' => by omega)
      intro bodyLen hrun _
      apply Safe.pure
      rintro r hr
      rw [← Option.some.inj hr]
      exact ⟨by omega, run_derLength_lt (by omega) hrun⟩
  · rw [if_neg hlong]
    apply Safe.pure
    rintro r hr
    rw [← Option.some.inj hr]
    have hbyte : lenByte.toNat < 256 := lenByte.toNat_lt
    exact ⟨by omega, by omega⟩

/-- A number below 128 leaves the high bit of its byte clear. -/
theorem ofNat_and_highBit {n : Nat} (hn : n < 128) : UInt8.ofNat n &&& 0x80 = 0 := by
  apply UInt8.toNat_inj.mp
  rw [UInt8.toNat_and, UInt8.toNat_ofNat_of_lt' (show n < 2 ^ 8 by omega)]
  show n &&& 2 ^ 7 = 0
  apply Nat.eq_of_testBit_eq
  intro i
  rw [Nat.testBit_and, Nat.testBit_two_pow, Nat.zero_testBit]
  by_cases hi : 7 = i
  · rw [← hi, Nat.testBit_lt_two_pow (show n < 2 ^ 7 from hn), Bool.false_and]
  · rw [decide_eq_false hi, Bool.and_false]

/-- The first byte of a long form says so, and how many follow. -/
theorem ofNat_longForm {k : Nat} (hk : 1 ≤ k) (hk' : k ≤ 4) :
    UInt8.ofNat (0x80 + k) &&& 0x80 ≠ 0 ∧ (UInt8.ofNat (0x80 + k) &&& 0x7F).toNat = k := by
  interval_cases k <;> decide

/-- A length in a definite form is read back, with the number of bytes behind its first. -/
theorem run_derHeader {m : Mem} {der len i : Int} {n : Nat} {lenByte : UInt8} {more : Bytes}
    (hoctets : LengthOctets n (lenByte :: more)) (hmem : HoldsAt m (der + i + 2) more)
    (hlen : i + 2 + more.length ≤ len) (hmax : len < 2 ^ 63) :
    run m (derHeader der len i lenByte) = some (some (more.length, n)) := by
  rcases hoctets with ⟨hn, hshort⟩ | ⟨k, hk, hk', hn, hlong⟩
  · obtain ⟨rfl, rfl⟩ := List.cons.inj hshort
    rw [derHeader, if_neg (not_not.mpr (ofNat_and_highBit hn)), run_pure,
      UInt8.toNat_ofNat_of_lt' (show n < 2 ^ 8 by omega)]
    rfl
  · obtain ⟨rfl, rfl⟩ := List.cons.inj hlong
    obtain ⟨hbit, hcount⟩ := ofNat_longForm hk hk'
    rw [toBE_length] at hlen
    have hread : run m (derLength (der + i + 2) k 0) = some n := by
      have hrun := run_derLength 0 hmem
      rw [toBE_length] at hrun
      rw [hrun]
      exact congrArg some ((ofBE_toBE k n).trans (Nat.mod_eq_of_lt hn))
    rw [derHeader, if_pos hbit]
    simp only [hcount]
    rw [run_long (by omega), if_neg (by omega), run_bind_of hread, run_pure, toBE_length]

/-- The header is read without an overflow. -/
theorem derHeader_returns {m : Mem} {der len i : Int} (lenByte : UInt8) (hi : i + 2 ^ 9 < 2 ^ 63) :
    ∃ r, run m (derHeader der len i lenByte) = some r := by
  have hsmall : (lenByte &&& 0x7F).toNat < 2 ^ 8 := (lenByte &&& 0x7F).toNat_lt
  unfold derHeader
  split
  · simp only
    rw [run_long (by omega)]
    split
    · exact ⟨none, rfl⟩
    · obtain ⟨bodyLen, hrun⟩ := derLength_returns m (der + i + 2) (lenByte &&& 0x7F).toNat 0
      exact ⟨_, run_bind_of hrun _⟩
  · exact ⟨_, rfl⟩

/-! ## Where the scan reads -/

/-- What the scan does once it has read a tag and a length: this is the body of its loop. -/
theorem collect_loop {m : Mem} {der len maxOut i : Int} {out : List Bytes} (hi : i + 2 ≤ len)
    (hmax : len < 2 ^ 63) (hout : out.length < maxOut) {nBytes bodyLen : Nat}
    (hhead : run m (derHeader der len i (m (der + i + 1))) = some (some (nBytes, bodyLen))) 
    (hbody : i + (2 + nBytes) + bodyLen ≤ len) :
    run m (baaDerCollectTimes der len maxOut i out) =
      run m (if m (der + i) = 0x17 ∨ m (der + i) = 0x18 then do
          let s ← bytes (der + i + (2 + nBytes)) bodyLen
          baaDerCollectTimes der len maxOut (i + (2 + nBytes) + bodyLen) (out ++ [s])
        else if m (der + i) &&& 0x20 ≠ 0 then do
          let found ← baaDerCollectTimes (der + i + (2 + nBytes)) bodyLen maxOut 0 out
          baaDerCollectTimes der len maxOut (i + (2 + nBytes) + bodyLen) found
        else baaDerCollectTimes der len maxOut (i + (2 + nBytes) + bodyLen) out) := by
  rw [baaDerCollectTimes, run_long (by omega), dif_pos ⟨hi, hout⟩, run_byte_bind, run_byte_bind,
    run_bind_of hhead]
  simp only
  rw [run_long (by omega), dif_neg (by omega)]

/-- Past the end, or with the array full, the scan is done. -/
theorem collect_done {m : Mem} {der len maxOut i : Int} {out : List Bytes} (hi : i + 2 < 2 ^ 63)
    (h : ¬(i + 2 ≤ len ∧ out.length < maxOut)) :
    run m (baaDerCollectTimes der len maxOut i out) = some out := by
  rw [baaDerCollectTimes, run_long hi, dif_neg h, run_pure]

/-- The scan reads inside the byte string, and the array it fills keeps to its size. -/
theorem collect_safe {m : Mem} {der len maxOut i : Int} {out : List Bytes} (hi : 0 ≤ i)
    (hout : out.length ≤ maxOut.toNat) :
    Safe m (fun j => der ≤ j ∧ j < der + len) (baaDerCollectTimes der len maxOut i out)
      (·.length ≤ maxOut.toNat) := by
  induction hn : (len - i).toNat using Nat.strong_induction_on generalizing der len i out with
  | _ n ih =>
      unfold baaDerCollectTimes
      apply Safe.long
      intro _
      by_cases hloop : i + 2 ≤ len ∧ out.length < maxOut
      · rw [dif_pos hloop]
        apply Safe.byte_bind ⟨by omega, by omega⟩
        apply Safe.byte_bind ⟨by omega, by omega⟩
        apply Safe.bind (derHeader_safe _ hi)
        intro r _ hr
        cases r with
        | none => exact Safe.pure hout
        | some r =>
            obtain ⟨nBytes, bodyLen⟩ := r
            apply Safe.long
            intro _
            by_cases hbody : len < i + (2 + nBytes) + bodyLen
            · rw [dif_pos hbody]
              exact Safe.pure hout
            · rw [dif_neg hbody]
              split
              · apply Safe.bind (Safe.bytes fun j hj hj' => ⟨by omega, by omega⟩)
                intro s _ _
                apply ih _ _ (by omega) _ rfl
                · omega
                · rw [List.length_append, List.length_singleton]
                  omega
              · split
                · have hinner : Safe m (fun j => der + i + (2 + nBytes) ≤ j ∧ j < der + i + (2 + nBytes) + bodyLen)
                      (baaDerCollectTimes (der + i + (2 + nBytes)) bodyLen maxOut 0 out)
                      (·.length ≤ maxOut.toNat) := ih _ (by omega) (Int.le_refl 0) hout rfl
                  apply Safe.bind (hinner.mono (fun j hj => ⟨by omega, by omega⟩) fun _ h => h)
                  intro found _ hfound
                  exact ih _ (by omega) (by omega) hfound rfl
                · exact ih _ (by omega) (by omega) hout rfl
      · rw [dif_neg hloop]
        exact Safe.pure hout

/-- On a byte string whose sums fit a 64-bit `long` the scan comes to its end. -/
theorem collect_returns {m : Mem} {der len maxOut i : Int} {out : List Bytes} (hi : 0 ≤ i) (hlen : i ≤ len)
    (hmax : len + 2 ^ 32 + 6 < 2 ^ 63) : ∃ found, run m (baaDerCollectTimes der len maxOut i out) = some found := by
  induction hn : (len - i).toNat using Nat.strong_induction_on generalizing der len i out with
  | _ n ih =>
      by_cases hloop : i + 2 ≤ len ∧ out.length < maxOut
      · obtain ⟨r, hr⟩ : ∃ r, run m (derHeader der len i (m (der + i + 1))) = some r :=
          derHeader_returns _ (by omega)
        have hhead := (derHeader_safe _ hi).2 r hr
        cases r with
        | none =>
            refine ⟨out, ?_⟩
            rw [baaDerCollectTimes, run_long (by omega), dif_pos hloop, run_byte_bind, run_byte_bind, run_bind_of hr]
            rfl
        | some r =>
            obtain ⟨nBytes, bodyLen⟩ := r
            obtain ⟨hbytes, hsize⟩ := hhead _ rfl
            by_cases hbody : len < i + (2 + nBytes) + bodyLen
            · refine ⟨out, ?_⟩
              rw [baaDerCollectTimes, run_long (by omega), dif_pos hloop, run_byte_bind, run_byte_bind,
                run_bind_of hr]
              simp only
              rw [run_long (by omega), dif_pos hbody, run_pure]
            · have hmax' : len < 2 ^ 63 := by omega
              rw [collect_loop hloop.1 hmax' hloop.2 hr (by omega)]
              split
              · rw [run_bind_of (run_bytes ..)]
                exact ih _ (by omega) (by omega) (by omega) hmax rfl
              · split
                · obtain ⟨found, hfound⟩ : ∃ found, run m (baaDerCollectTimes (der + i + (2 + nBytes)) bodyLen
                      maxOut 0 out) = some found :=
                    ih _ (by omega) (Int.le_refl 0) (by omega) (by omega) rfl
                  rw [run_bind_of hfound]
                  exact ih _ (by omega) (by omega) (by omega) hmax rfl
                · exact ih _ (by omega) (by omega) (by omega) hmax rfl
      · exact ⟨out, collect_done (by omega) hloop⟩

/-! ## What the scan finds

The induction is on the values, nested ones included. An element is done in one round: the scan reads its tag and
length, does with its body what the tag says, and goes on behind it with what room is left. -/

/-- Strings behind a full array are not stored. -/
theorem take_append_of_full {α : Type} {n : Nat} {out : List α} (more : List α) (h : out.length = n) :
    (out ++ more).take n = out := by
  rw [← h, List.take_left]

theorem take_append_append {α : Type} (n : Nat) (a b c : List α) :
    ((a ++ b).take n ++ c).take n = (a ++ (b ++ c)).take n := by
  by_cases hfull : n ≤ (a ++ b).length
  · rw [← List.append_assoc, List.take_append_of_le_length hfull,
      take_append_of_full c (by rw [List.length_take]; omega)]
  · rw [List.take_of_length_le (show (a ++ b).length ≤ n by omega), List.append_assoc]

/-- The bytes a length is written in begin with one that says how many follow. -/
theorem LengthOctets.eq_cons {n : Nat} {octets : Bytes} (h : LengthOctets n octets) :
    ∃ lenByte more, octets = lenByte :: more := by
  rcases h with ⟨_, rfl⟩ | ⟨_, _, _, _, rfl⟩
  · exact ⟨_, _, rfl⟩
  · exact ⟨_, _, rfl⟩

/-- One element of the byte string, whatever its tag: the scan finds its body and what follows it. -/
theorem collect_element {m : Mem} {der len maxOut i : Int} {out : List Bytes} {tag : UInt8} {octets body : Bytes}
    (hoctets : LengthOctets body.length octets) (hmem : HoldsAt m (der + i) (tag :: (octets ++ body)))
    (hlen : i + (tag :: (octets ++ body)).length ≤ len) (hmax : len < 2 ^ 63) (hout : out.length < maxOut) :
    HoldsAt m (der + i + (1 + octets.length)) body ∧
      run m (baaDerCollectTimes der len maxOut i out) =
        run m (if tag = 0x17 ∨ tag = 0x18 then do
            let s ← bytes (der + i + (1 + octets.length)) body.length
            baaDerCollectTimes der len maxOut (i + (tag :: (octets ++ body)).length) (out ++ [s])
          else if tag &&& 0x20 ≠ 0 then do
            let found ← baaDerCollectTimes (der + i + (1 + octets.length)) body.length maxOut 0 out
            baaDerCollectTimes der len maxOut (i + (tag :: (octets ++ body)).length) found
          else baaDerCollectTimes der len maxOut (i + (tag :: (octets ++ body)).length) out) := by
  obtain ⟨lenByte, more, rfl⟩ := hoctets.eq_cons
  obtain ⟨htag, hrest⟩ := HoldsAt.cons_iff.mp hmem
  obtain ⟨hlenByte, hrest⟩ := HoldsAt.cons_iff.mp hrest
  obtain ⟨hmore, hbody⟩ := HoldsAt.append_iff.mp hrest
  have hstart : der + i + 1 + 1 + (more.length : Int) = der + i + (1 + (lenByte :: more).length) := by
    rw [List.length_cons]
    push_cast
    ring
  have hsize : ((tag :: (lenByte :: more ++ body)).length : Int) = 2 + more.length + body.length := by
    simp only [List.cons_append, List.length_cons, List.length_append]
    push_cast
    ring
  rw [hsize] at hlen
  have hhead : run m (derHeader der len i (m (der + i + 1))) = some (some (more.length, body.length)) := by
    rw [hlenByte]
    rw [show der + i + 1 + 1 = der + i + 2 by ring] at hmore
    exact run_derHeader hoctets hmore (by omega) hmax
  refine ⟨hstart ▸ hbody, ?_⟩
  rw [collect_loop (by omega) hmax hout hhead (by omega), htag, hsize, List.length_cons,
    show i + (2 + (more.length : Int)) + body.length = i + (2 + more.length + body.length) by ring,
    show (2 : Int) + more.length = 1 + ((more.length + 1 : Nat) : Int) by push_cast; ring]

mutual

/-- One value, in front of whatever follows: its dates are stored as far as there is room. -/
theorem collect_value (v : DerValue) (hv : v.WellFormed) {m : Mem} {der len maxOut i : Int} {out : List Bytes}
    (hmem : HoldsAt m (der + i) v.encode) (hi : 0 ≤ i) (hlen : i + v.encode.length ≤ len) (hmax : len + 2 < 2 ^ 63)
    (hout : out.length < maxOut) :
    run m (baaDerCollectTimes der len maxOut i out) =
      run m (baaDerCollectTimes der len maxOut (i + v.encode.length) ((out ++ v.times).take maxOut.toNat)) := by
  match v with
  | .primitive tag octets content =>
      obtain ⟨-, hprim, hoctets⟩ := hv
      obtain ⟨hcontent, hrun⟩ := collect_element hoctets hmem hlen (by omega) hout
      rw [hrun, DerValue.times, DerValue.encode]
      by_cases htime : tag = 0x17 ∨ tag = 0x18
      · rw [if_pos htime, if_pos htime, run_bind_of hcontent.run_bytes, List.take_of_length_le]
        rw [List.length_append, List.length_singleton]
        omega
      · rw [if_neg htime, if_neg htime, if_neg (not_not.mpr hprim), List.append_nil,
          List.take_of_length_le (by omega)]
  | .constructed tag octets values =>
      obtain ⟨-, hcons, hoctets, hvalues⟩ := hv
      obtain ⟨hbody, hrun⟩ := collect_element hoctets hmem hlen (by omega) hout
      have htime : ¬(tag = 0x17 ∨ tag = 0x18) := by
        rintro (rfl | rfl)
        · exact hcons (by decide)
        · exact hcons (by decide)
      have hshort : ((encodeAll values).length : Int) + 2 < 2 ^ 63 := by
        rw [DerValue.encode, List.length_cons, List.length_append] at hlen
        push_cast at hlen
        omega
      have hinner : run m (baaDerCollectTimes (der + i + (1 + octets.length)) (encodeAll values).length maxOut 0 out) =
          some ((out ++ timesAll values).take maxOut.toNat) :=
        collect_values values hvalues (by rwa [Int.add_zero]) (Int.le_refl 0) (Int.zero_add _) hshort (by omega)
      rw [hrun, if_neg htime, if_pos hcons, run_bind_of hinner, DerValue.times, DerValue.encode]

/-- The rest of the byte string: all its dates are stored as far as there is room. -/
theorem collect_values (vs : List DerValue) (hvs : WellFormedAll vs) {m : Mem} {der len maxOut i : Int}
    {out : List Bytes} (hmem : HoldsAt m (der + i) (encodeAll vs)) (hi : 0 ≤ i)
    (hlen : i + (encodeAll vs).length = len) (hmax : len + 2 < 2 ^ 63) (hout : out.length ≤ maxOut.toNat) :
    run m (baaDerCollectTimes der len maxOut i out) = some ((out ++ timesAll vs).take maxOut.toNat) := by
  match vs with
  | [] =>
      rw [encodeAll, List.length_nil] at hlen
      rw [collect_done (by omega) (by omega), timesAll, List.append_nil, List.take_of_length_le hout]
  | v :: vs =>
      obtain ⟨hv, hvs⟩ := hvs
      obtain ⟨hmemv, hmemvs⟩ := HoldsAt.append_iff.mp hmem
      rw [encodeAll, List.length_append] at hlen
      by_cases hroom : out.length < maxOut
      · rw [collect_value v hv hmemv hi (by omega) (by omega) hroom,
          collect_values vs hvs (by rwa [← Int.add_assoc]) (by omega) (by omega) hmax
            (by rw [List.length_take]; omega), timesAll, take_append_append]
      · rw [collect_done (by omega) (by omega), take_append_of_full _ (by omega)]

end

/-- A length that can be written has less than `2 ^ 32` bytes behind it, and takes five itself at most. -/
theorem LengthOctets.bounds {n : Nat} {octets : Bytes} (h : LengthOctets n octets) :
    n < 2 ^ 32 ∧ octets.length ≤ 5 := by
  rcases h with ⟨hn, rfl⟩ | ⟨k, _, hk, hn, rfl⟩
  · exact ⟨by omega, by simp⟩
  · constructor
    · calc n < 256 ^ k := hn
        _ ≤ 256 ^ 4 := Nat.pow_le_pow_right (by omega) hk
    · rw [List.length_cons, toBE_length]
      omega

theorem DerValue.WellFormed.length_lt {v : DerValue} (h : v.WellFormed) : v.encode.length < 2 ^ 32 + 6 := by
  cases v with
  | primitive tag octets content =>
      obtain ⟨hn, hoctets⟩ := h.2.2.bounds
      rw [encode, List.length_cons, List.length_append]
      omega
  | constructed tag octets values =>
      obtain ⟨hn, hoctets⟩ := h.2.2.1.bounds
      rw [encode, List.length_cons, List.length_append]
      omega

/-- The scan of one whole value. -/
theorem DerValue.WellFormed.collect {v : DerValue} (h : v.WellFormed) {m : Mem} {der maxOut : Int}
    (hmem : HoldsAt m der v.encode) :
    run m (baaDerCollectTimes der v.encode.length maxOut 0 []) = some (v.times.take maxOut.toNat) := by
  have hlt := h.length_lt
  have hone : encodeAll [v] = v.encode := List.append_nil _
  have hrun : run m (baaDerCollectTimes der v.encode.length maxOut 0 []) =
      some (([] ++ timesAll [v]).take maxOut.toNat) :=
    collect_values [v] ⟨h, trivial⟩ (by rwa [Int.add_zero, hone]) (Int.le_refl 0)
      (by rw [hone, Int.zero_add]) (by omega) (Nat.zero_le _)
  rw [hrun, timesAll, timesAll, List.append_nil, List.nil_append]

/-- Whatever the bytes are, the scan reads no other and stores no more strings than there is room for, and it
comes to its end; on a well-formed value it has then stored the first of its dates, in the order they stand. -/
theorem der_scan {m : Mem} {p maxOut : Int} {der : Bytes} (hmem : HoldsAt m p der) :
    (∀ i ∈ reads m (baaDerCollectTimes p der.length maxOut 0 []), p ≤ i ∧ i < p + der.length) ∧
      (∀ out, run m (baaDerCollectTimes p der.length maxOut 0 []) = some out → out.length ≤ maxOut.toNat) ∧
      (der.length + 2 ^ 32 + 6 < 2 ^ 63 → ∃ out, run m (baaDerCollectTimes p der.length maxOut 0 []) = some out) ∧
      ∀ v : DerValue, v.WellFormed → der = v.encode →
        run m (baaDerCollectTimes p der.length maxOut 0 []) = some (v.times.take maxOut.toNat) := by
  have hsafe : Safe m (fun j => p ≤ j ∧ j < p + der.length) (baaDerCollectTimes p der.length maxOut 0 [])
      (·.length ≤ maxOut.toNat) := collect_safe (Int.le_refl 0) (Nat.zero_le _)
  refine ⟨hsafe.1, hsafe.2, ?_, ?_⟩
  · intro hlen
    exact collect_returns (Int.le_refl 0) (by omega) (by omega)
  · rintro v hv rfl
    exact hv.collect hmem

/-- A validity of two dates with a string in front of it, some of the lengths longer than they need be. -/
def sampleValidity : DerValue :=
  .constructed 0x30 [0x81, 0x0F] [.primitive 0x0C [0x01] [0x41], .constructed 0x30 [0x0A]
    [.primitive 0x17 [0x02] [0x32, 0x35], .primitive 0x18 [0x82, 0x00, 0x02] [0x33, 0x30]]]

theorem sampleValidity_wellFormed : sampleValidity.WellFormed := by
  refine ⟨by decide, by decide, .inr ⟨1, by decide, by decide, by decide, rfl⟩, ?_, ?_, trivial⟩
  · exact ⟨by decide, by decide, .inl ⟨by decide, rfl⟩⟩
  · refine ⟨by decide, by decide, .inl ⟨by decide, rfl⟩, ?_, ?_, trivial⟩
    · exact ⟨by decide, by decide, .inl ⟨by decide, rfl⟩⟩
    · exact ⟨by decide, by decide, .inr ⟨2, by decide, by decide, by decide, rfl⟩⟩

/-- The validity scanned with room for one date and for four. -/
theorem der_scan_sample :
    run (memoryOf sampleValidity.encode)
        (baaDerCollectTimes 0 sampleValidity.encode.length 1 0 []) = some [[0x32, 0x35]] ∧
      run (memoryOf sampleValidity.encode)
        (baaDerCollectTimes 0 sampleValidity.encode.length 4 0 []) = some [[0x32, 0x35], [0x33, 0x30]] :=
  ⟨(der_scan (holds_memoryOf _)).2.2.2 sampleValidity sampleValidity_wellFormed rfl,
    (der_scan (holds_memoryOf _)).2.2.2 sampleValidity sampleValidity_wellFormed rfl⟩

end Showcase
