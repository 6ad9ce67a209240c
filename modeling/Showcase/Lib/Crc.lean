import Mathlib.Tactic.Common
import Mathlib.Logic.Function.Basic

/-!
# `Lib.Crc` — reflected cyclic redundancy checks

A register of any width that takes the bits of its input from the least significant one on. `takeBits` is the register
as hardware has it, one bit at a time; `shifts` is what a table holds for all bits of a byte at once.

## Contents
- `takeBits_xor` — the bits may be added to the register before it is shifted.
- `shift_injective` — the register forgets nothing.
- `foldl_ne` — a string in which one symbol is changed leaves another register.
-/

namespace Lib.Crc

variable {w : Nat} (poly : BitVec w)

/-- One shift of the register. -/
def shift (c : BitVec w) : BitVec w := if c.getLsbD 0 then (c >>> 1) ^^^ poly else c >>> 1

/-- `n` shifts. -/
def shifts : Nat → BitVec w → BitVec w
  | 0, c => c
  | n + 1, c => shifts n (shift poly c)

/-- The register takes one bit. -/
def takeBit (c : BitVec w) (b : Bool) : BitVec w :=
  if (c.getLsbD 0).xor b then (c >>> 1) ^^^ poly else c >>> 1

/-- The register takes `n` bits of `x`, the least significant one first. -/
def takeBits : Nat → BitVec w → BitVec w → BitVec w
  | 0, c, _ => c
  | n + 1, c, x => takeBits n (takeBit poly c (x.getLsbD 0)) (x >>> 1)

variable {poly}

/-- A bit that was added to the register is taken by the shift. -/
theorem shift_xor (c x : BitVec w) : shift poly (c ^^^ x) = takeBit poly c (x.getLsbD 0) ^^^ (x >>> 1) := by
  rw [shift, takeBit, BitVec.getLsbD_xor, BitVec.ushiftRight_xor_distrib]
  split
  · rw [BitVec.xor_assoc, BitVec.xor_comm (x >>> 1) poly, ← BitVec.xor_assoc]
  · rfl

/-- **All bits at once**: they may be added first, and the register shifted then. -/
theorem takeBits_xor (n : Nat) (c x : BitVec w) : takeBits poly n c x ^^^ (x >>> n) = shifts poly n (c ^^^ x) := by
  induction n generalizing c x with
  | zero => simp [takeBits, shifts]
  | succ n ih =>
      rw [takeBits, shifts, shift_xor, ← ih, Nat.add_comm n 1, BitVec.shiftRight_add]

/-- Where no bits are left behind, this is the register. -/
theorem takeBits_eq_shifts (c x : BitVec w) : takeBits poly w c x = shifts poly w (c ^^^ x) := by
  rw [← takeBits_xor]
  have hzero : x >>> w = 0#w := BitVec.ushiftRight_eq_zero (Nat.le_refl w)
  rw [hzero, BitVec.xor_zero]

/-- The highest bit of a shifted register is the lowest that was in it. -/
theorem shift_msb (hpoly : poly.msb = true) (c : BitVec w) : (shift poly c).msb = c.getLsbD 0 := by
  have hpos : 0 < w := by
    by_contra h
    obtain rfl : w = 0 := by omega
    simp [BitVec.msb] at hpoly
  have hhigh : (c >>> 1).msb = false := by
    rw [BitVec.msb_eq_getLsbD_last, BitVec.getLsbD_ushiftRight]
    exact BitVec.getLsbD_of_ge c _ (by omega)
  rw [shift]
  split
  · rename_i hbit
    rw [BitVec.msb_xor, hhigh, hpoly, hbit]
    rfl
  · rename_i hbit
    rw [hhigh]
    exact (Bool.eq_false_iff.mpr hbit).symm

/-- **The register forgets nothing** when the highest bit of the polynomial is set. -/
theorem shift_injective (hpoly : poly.msb = true) : Function.Injective (shift poly) := by
  intro c d h
  have hlow : c.getLsbD 0 = d.getLsbD 0 := by rw [← shift_msb hpoly c, h, shift_msb hpoly d]
  have hrest : c >>> 1 = d >>> 1 := by
    rw [shift, shift, hlow] at h
    split at h
    · exact (BitVec.xor_left_inj poly).mp h
    · exact h
  apply BitVec.eq_of_getLsbD_eq
  intro i _
  cases i with
  | zero => exact hlow
  | succ i =>
      have hbit := congrArg (fun b => b.getLsbD i) hrest
      rwa [BitVec.getLsbD_ushiftRight, BitVec.getLsbD_ushiftRight, Nat.add_comm] at hbit

theorem shifts_injective (hpoly : poly.msb = true) (n : Nat) : Function.Injective (shifts poly n) := by
  induction n with
  | zero => exact fun _ _ h => h
  | succ n ih => exact fun _ _ h => shift_injective hpoly (ih h)

/-! ## A changed symbol

Neither what was in the register nor the symbol is lost in a step, so two registers that differ once never meet again,
whatever both of them take behind. -/

section Fold

variable {σ α : Type} {f : σ → α → σ}

/-- A fold whose steps forget nothing forgets nothing. -/
theorem foldl_injective (hstate : ∀ a, Function.Injective fun s => f s a) (l : List α) :
    Function.Injective fun s => l.foldl f s := by
  induction l with
  | nil => exact fun _ _ h => h
  | cons a l ih => exact fun _ _ h => hstate a (ih h)

/-- **A changed symbol is seen at the end.** -/
theorem foldl_ne (hstate : ∀ a, Function.Injective fun s => f s a) (hsymbol : ∀ s, Function.Injective (f s))
    (s : σ) (l m : List α) {a b : α} (h : a ≠ b) : (l ++ a :: m).foldl f s ≠ (l ++ b :: m).foldl f s := by
  rw [List.foldl_append, List.foldl_append]
  exact fun heq => h (hsymbol _ (foldl_injective hstate m heq))

end Fold

end Lib.Crc
