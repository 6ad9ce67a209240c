import Mathlib.Data.List.Basic
import Mathlib.Data.List.Induction
import Mathlib.Algebra.Ring.Nat
import Mathlib.Data.Nat.Log
import Mathlib.Tactic.Ring

/-!
# `Lib.Bytes` — byte strings, fixed-size blocks and big-endian numbers

`Bytes` is a byte string, `Block n` one of exactly `n` bytes (its length is a field of the value, so a key or
a digest of the wrong size cannot be built). `ofBE`/`toBE` read and write a natural number most significant
byte first; `toBE k` is the `k`-byte left-padded form, `minBE` the shortest one. `modExp` is modular
exponentiation in a form that can be run on numbers of thousands of bits.
-/

namespace Lib

abbrev Bytes := List UInt8

/-- A byte string of exactly `n` bytes. -/
abbrev Block (n : Nat) := { b : Bytes // b.length = n }

namespace Block

/-- All zero bytes. -/
def zero (n : Nat) : Block n := ⟨List.replicate n 0, List.length_replicate⟩

/-- Bytewise exclusive or of two blocks. -/
def xor {n : Nat} (a b : Block n) : Block n :=
  ⟨List.zipWith (· ^^^ ·) a.val b.val, by simp [a.property, b.property]⟩

/-- The first `m` bytes. -/
def take {n : Nat} (m : Nat) (h : m ≤ n) (a : Block n) : Block m :=
  ⟨a.val.take m, by rw [List.length_take, a.property]; omega⟩

/-- The byte string as a block, when it has the length of one. -/
def ofBytes? (n : Nat) (b : Bytes) : Option (Block n) :=
  if h : b.length = n then some ⟨b, h⟩ else none

theorem ofBytes?_eq_some {n : Nat} {b : Bytes} {k : Block n} : ofBytes? n b = some k ↔ b = k.val := by
  unfold ofBytes?
  constructor
  · intro h
    split at h
    · rw [← Option.some.inj h]
    · exact absurd h (by simp)
  · intro h
    subst h
    simp [k.property]

@[simp] theorem ofBytes?_val {n : Nat} (k : Block n) : ofBytes? n k.val = some k :=
  ofBytes?_eq_some.mpr rfl

end Block

/-! ## Big-endian numbers

Reading is a fold from the left, so the proofs about it go along the last byte (`ofBE_append_single`), and writing is
defined that way. The shortest form is the padded one at the least width that holds the number. -/

/-- The number a byte string denotes, most significant byte first. -/
def ofBE (b : Bytes) : Nat := b.foldl (fun acc x => acc * 256 + x.toNat) 0

/-- The last `k` bytes of a number, most significant byte first. -/
def toBE : Nat → Nat → Bytes
  | 0, _ => []
  | k + 1, n => toBE k (n / 256) ++ [UInt8.ofNat n]

/-- The number of bytes of the shortest representation (none for zero). -/
def numBytes (n : Nat) : Nat := if n = 0 then 0 else Nat.log2 n / 8 + 1

/-- The shortest big-endian representation. -/
def minBE (n : Nat) : Bytes := toBE (numBytes n) n

@[simp] theorem toBE_length (k n : Nat) : (toBE k n).length = k := by
  induction k generalizing n with
  | zero => rfl
  | succ k ih => simp [toBE, ih]

theorem ofBE_append_single (b : Bytes) (x : UInt8) : ofBE (b ++ [x]) = ofBE b * 256 + x.toNat := by
  simp [ofBE, List.foldl_append]

/-- Reading back `k` bytes gives the number modulo `256 ^ k`. -/
theorem ofBE_toBE (k n : Nat) : ofBE (toBE k n) = n % 256 ^ k := by
  induction k generalizing n with
  | zero => simp [toBE, ofBE, Nat.mod_one]
  | succ k ih =>
      rw [toBE, ofBE_append_single, ih, UInt8.toNat_ofNat']
      rw [show (2 : Nat) ^ 8 = 256 from rfl, Nat.pow_succ', Nat.mod_mul]
      ring

theorem ofBE_lt (b : Bytes) : ofBE b < 256 ^ b.length := by
  induction b using List.reverseRecOn with
  | nil => exact Nat.one_pos
  | append_singleton b x ih =>
      have hx : x.toNat < 256 := x.toNat_lt
      rw [ofBE_append_single, List.length_append, List.length_singleton, Nat.pow_succ]
      omega

/-- Writing back the number a byte string denotes gives the byte string. -/
theorem toBE_ofBE (b : Bytes) : toBE b.length (ofBE b) = b := by
  induction b using List.reverseRecOn with
  | nil => rfl
  | append_singleton b x ih =>
      have hx : x.toNat < 256 := x.toNat_lt
      have hdiv : (ofBE b * 256 + x.toNat) / 256 = ofBE b := by omega
      have hlow : UInt8.ofNat (ofBE b * 256 + x.toNat) = x := by
        apply UInt8.toNat_inj.mp
        rw [UInt8.toNat_ofNat']
        omega
      rw [ofBE_append_single, List.length_append, List.length_singleton, toBE, hdiv, hlow, ih]

theorem lt_pow_numBytes (n : Nat) : n < 256 ^ numBytes n := by
  unfold numBytes
  by_cases hn : n = 0
  · simp [hn]
  · rw [if_neg hn]
    have hlog : n < 2 ^ (Nat.log2 n + 1) := Nat.lt_log2_self
    have hexp : Nat.log2 n + 1 ≤ 8 * (Nat.log2 n / 8 + 1) := by omega
    calc n < 2 ^ (Nat.log2 n + 1) := hlog
      _ ≤ 2 ^ (8 * (Nat.log2 n / 8 + 1)) := Nat.pow_le_pow_right (by omega) hexp
      _ = 256 ^ (Nat.log2 n / 8 + 1) := by rw [Nat.pow_mul]

/-- **The shortest representation reads back as the number.** -/
@[simp] theorem ofBE_minBE (n : Nat) : ofBE (minBE n) = n := by
  rw [minBE, ofBE_toBE]
  exact Nat.mod_eq_of_lt (lt_pow_numBytes n)

@[simp] theorem minBE_length (n : Nat) : (minBE n).length = numBytes n := toBE_length _ _

theorem toBE_zero (k : Nat) : toBE k 0 = List.replicate k 0 := by
  induction k with
  | zero => rfl
  | succ k ih =>
      rw [toBE, Nat.zero_div, ih, show UInt8.ofNat 0 = 0 from rfl, ← List.replicate_succ']

theorem toBE_one (n : Nat) : toBE 1 n = [UInt8.ofNat n] := rfl

theorem toBE_add (j k n : Nat) : toBE (j + k) n = toBE j (n / 256 ^ k) ++ toBE k n := by
  induction k generalizing n with
  | zero => simp [toBE]
  | succ k ih =>
      rw [← Nat.add_assoc, toBE, ih, toBE, Nat.div_div_eq_div_mul, ← Nat.pow_succ', List.append_assoc]

/-- Zeros in front of the shortest form give the left-padded form. -/
theorem replicate_append_minBE {k n : Nat} (h : numBytes n ≤ k) :
    List.replicate (k - numBytes n) 0 ++ minBE n = toBE k n := by
  have hz : n / 256 ^ numBytes n = 0 := Nat.div_eq_of_lt (lt_pow_numBytes n)
  have hk : k - numBytes n + numBytes n = k := by omega
  rw [minBE, ← toBE_zero, ← hz, ← toBE_add, hk]

/-! ## Little-endian numbers -/

/-- The number a byte string denotes, least significant byte first. -/
def ofLE (b : Bytes) : Nat := ofBE b.reverse

/-- The first `k` bytes of a number, least significant byte first. -/
def toLE (k n : Nat) : Bytes := (toBE k n).reverse

@[simp] theorem toLE_length (k n : Nat) : (toLE k n).length = k := by
  rw [toLE, List.length_reverse, toBE_length]

@[simp] theorem ofLE_cons (x : UInt8) (b : Bytes) : ofLE (x :: b) = x.toNat + 256 * ofLE b := by
  rw [ofLE, List.reverse_cons, ofBE_append_single, ofLE]
  ring

theorem ofLE_append (a b : Bytes) : ofLE (a ++ b) = ofLE a + 256 ^ a.length * ofLE b := by
  induction a with
  | nil => rw [List.nil_append, List.length_nil, pow_zero, one_mul, show ofLE [] = 0 from rfl, zero_add]
  | cons x a ih =>
      rw [List.cons_append, ofLE_cons, ofLE_cons, ih, List.length_cons, pow_succ]
      ring

theorem ofLE_toLE (k n : Nat) : ofLE (toLE k n) = n % 256 ^ k := by
  rw [ofLE, toLE, List.reverse_reverse, ofBE_toBE]

theorem ofLE_lt (b : Bytes) : ofLE b < 256 ^ b.length := by
  rw [ofLE, ← List.length_reverse]
  exact ofBE_lt b.reverse

theorem toLE_ofLE (b : Bytes) : toLE b.length (ofLE b) = b := by
  rw [toLE, ofLE, ← List.length_reverse, toBE_ofBE, List.reverse_reverse]

/-! ## Modular exponentiation

The loop keeps `acc * base ^ e` modulo `m`; the induction is on the bits of the exponent that are left. -/

/-- Right-to-left square and multiply over the `k` low bits of `e`. -/
def modExpLoop (m : Nat) : Nat → Nat → Nat → Nat → Nat
  | 0, acc, _, _ => acc % m
  | k + 1, acc, a, e =>
      modExpLoop m k (if e % 2 = 1 then acc * a % m else acc) (a * a % m) (e / 2)

/-- `a ^ e mod m`. -/
def modExp (a e m : Nat) : Nat := modExpLoop m (Nat.log2 e + 1) 1 a e

theorem modExpLoop_eq (m : Nat) : ∀ (k acc a e : Nat), e < 2 ^ k →
    modExpLoop m k acc a e = acc * a ^ e % m := by
  intro k
  induction k with
  | zero =>
      intro acc a e he
      have he0 : e = 0 := by omega
      simp [modExpLoop, he0]
  | succ k ih =>
      intro acc a e he
      have hhalf : e / 2 < 2 ^ k := by
        rw [Nat.pow_succ] at he
        omega
      rw [modExpLoop, ih _ _ _ hhalf]
      have hsq : ∀ c, c * (a * a % m) ^ (e / 2) % m = c * a ^ (2 * (e / 2)) % m := by
        intro c
        rw [Nat.mul_mod, ← Nat.pow_mod, ← Nat.mul_mod, Nat.pow_mul, Nat.pow_two]
      by_cases hodd : e % 2 = 1
      · have hsplit : a ^ e = a * a ^ (2 * (e / 2)) := by
          rw [← Nat.pow_succ', show (2 * (e / 2)).succ = e by omega]
        rw [if_pos hodd, hsq, Nat.mod_mul_mod, hsplit, Nat.mul_assoc]
      · have hsplit : 2 * (e / 2) = e := by omega
        rw [if_neg hodd, hsq, hsplit]

/-- **Square and multiply computes the power.** -/
theorem modExp_eq (a e m : Nat) : modExp a e m = a ^ e % m := by
  rw [modExp, modExpLoop_eq m _ _ _ _ Nat.lt_log2_self, Nat.one_mul]

end Lib
