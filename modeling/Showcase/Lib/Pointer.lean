import Mathlib.Data.List.Basic
import Showcase.Lib.Bytes

/-!
# `Lib.Pointer` — reading around an address

A pointer is the memory as it is seen from an address, so that a read has an outcome wherever it goes. What a
program that stays within its data can rely on is `Holds`: the bytes from the address on.

## Contents
- `Ptr`, `Ptr.add`, `Ptr.read` — memory, pointer arithmetic, and a range of bytes;
- `Ptr.Holds` — what stands at an address, with its rules for `++`;
- `Ptr.of` — an address at which given bytes stand.
-/

namespace Lib

/-- The memory around an address. -/
abbrev Ptr := Int → UInt8

namespace Ptr

/-- `p + n`. -/
def add (p : Ptr) (n : Int) : Ptr := fun i => p (n + i)

/-- The `n` bytes from an offset on. -/
def read (p : Ptr) (off : Int) (n : Nat) : Bytes := (List.range n).map fun i : Nat => p (off + (i : Int))

/-- At the address stands `b`. -/
def Holds (p : Ptr) (b : Bytes) : Prop := p.read 0 b.length = b

/-- An address at which `b` stands, in memory that is zero elsewhere. -/
def of (b : Bytes) : Ptr := fun i => if i < 0 then 0 else b.getD i.toNat 0

variable {p : Ptr} {a b : Bytes}

@[simp] theorem read_length (p : Ptr) (off : Int) (n : Nat) : (p.read off n).length = n := by simp [read]

@[simp] theorem add_zero (p : Ptr) : p.add 0 = p := by
  funext i
  rw [add, Int.zero_add]

theorem add_add (p : Ptr) (m n : Int) : (p.add m).add n = p.add (m + n) := by
  funext i
  simp only [add, Int.add_assoc]

theorem read_add (p : Ptr) (m off : Int) (n : Nat) : (p.add m).read off n = p.read (m + off) n := by
  simp only [read, add, Int.add_assoc]

/-- A range in two parts. -/
theorem read_append (p : Ptr) (off : Int) (m n : Nat) : p.read off (m + n) = p.read off m ++ p.read (off + m) n := by
  simp only [read, List.range_add, List.map_append, List.map_map]
  congr 1
  apply List.map_congr_left
  intro i _
  show p (off + (m + i : Nat)) = p (off + m + i)
  rw [Int.natCast_add, Int.add_assoc]

theorem read_one (p : Ptr) (off : Int) : p.read off 1 = [p off] := by
  show [p (off + (0 : Nat))] = _
  rw [Int.natCast_zero, Int.add_zero]

theorem holds_append : p.Holds (a ++ b) ↔ p.Holds a ∧ (p.add a.length).Holds b := by
  unfold Holds
  rw [List.length_append, read_append, read_add, Int.zero_add, Int.add_zero]
  constructor
  · intro h
    exact List.append_inj h (read_length p 0 a.length)
  · rintro ⟨ha, hb⟩
    rw [ha, hb]

theorem Holds.left (h : p.Holds (a ++ b)) : p.Holds a := (holds_append.mp h).1

theorem Holds.right (h : p.Holds (a ++ b)) : (p.add a.length).Holds b := (holds_append.mp h).2

theorem holds_cons {x : UInt8} : p.Holds (x :: b) ↔ p 0 = x ∧ (p.add 1).Holds b := by
  have hcons : x :: b = [x] ++ b := rfl
  have hone : p.Holds [x] ↔ p 0 = x := by
    rw [Holds, List.length_singleton, read_one, List.cons.injEq]
    exact ⟨fun h => h.1, fun h => ⟨h, rfl⟩⟩
  rw [hcons, holds_append, hone, List.length_singleton]
  rfl

/-- A range of what stands at an address. -/
theorem Holds.read (h : p.Holds b) (off n : Nat) (hle : off + n ≤ b.length) : p.read off n = (b.drop off).take n := by
  have hsplit : b = b.take off ++ ((b.drop off).take n ++ b.drop (off + n)) := by
    rw [← List.drop_drop, List.take_append_drop, List.take_append_drop]
  have hoff : (b.take off).length = off := by
    rw [List.length_take]
    omega
  have hn : ((b.drop off).take n).length = n := by
    rw [List.length_take, List.length_drop]
    omega
  rw [hsplit] at h
  have hmid := h.right.left
  rw [hoff, Holds, hn, read_add, Int.add_zero] at hmid
  exact hmid

theorem holds_of (b : Bytes) : (of b).Holds b := by
  unfold Holds Ptr.read
  apply List.ext_getElem
  · simp
  · intro i h₁ h₂
    have hpos : ¬ ((0 : Int) + i < 0) := by omega
    have hnat : ((0 : Int) + i).toNat = i := by omega
    rw [List.getElem_map, List.getElem_range, of, if_neg hpos, hnat, List.getD_eq_getElem?_getD,
      List.getElem?_eq_getElem h₂, Option.getD_some]

end Ptr

end Lib
