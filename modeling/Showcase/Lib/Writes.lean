import Mathlib.Data.List.Basic
import Showcase.Lib.Bytes

/-!
# `Lib.Writes` — stores into allocated memory

The bytes a program may write to are a list, as long as what was allocated, and a store at another place has no
outcome (`none`). What a program that fills memory from the front has achieved is a list at the front of it,
`pre <+: m`; stores behind that make it longer, and stores within it change a part of it.

## Contents
- `store`, `stores` — one byte, and one byte after the other.
- `stores_behind` — what is stored behind the front extends it.
- `stores_within` — what is stored over a part of the front replaces that part.
- `Allocator`, `malloc`, `realloc` — memory of any contents, or none.
- `Allocator.Room` — a capacity that is doubled as often as needed comes to the length wanted.
-/

namespace Lib

/-! ## Stores

`stores_replace` is the induction, over the bytes that are stored. The other two say which bytes they replace: some of
those behind the front, or a part of it. -/

/-- `m[i] = b`. -/
def store (m : Bytes) (i : Nat) (b : UInt8) : Option Bytes := if i < m.length then some (m.set i b) else none

/-- The bytes one after the other, from `i` on. -/
def stores (m : Bytes) (i : Nat) : Bytes → Option Bytes
  | [] => some m
  | b :: bs => (store m i b).bind fun m => stores m (i + 1) bs

section

variable {m pre old new rest bs : Bytes}

/-- Bytes that are there are replaced. -/
theorem stores_replace (pre rest : Bytes) (hlen : new.length = old.length) :
    stores (pre ++ old ++ rest) pre.length new = some (pre ++ new ++ rest) := by
  induction new generalizing pre old with
  | nil =>
      obtain rfl := List.length_eq_zero_iff.mp hlen.symm
      rfl
  | cons b bs ih =>
      obtain ⟨c, cs, rfl⟩ := List.exists_cons_of_length_eq_add_one hlen.symm
      have hstore : store (pre ++ c :: cs ++ rest) pre.length b = some (pre ++ [b] ++ cs ++ rest) := by
        rw [store, if_pos (by simp)]
        simp
      have hnext := ih (pre ++ [b]) (Nat.succ.inj hlen : bs.length = cs.length)
      rw [List.length_append, List.length_singleton] at hnext
      rw [stores, hstore, Option.bind_some, hnext]
      simp

/-- A list at the front is extended by what is stored behind it. -/
theorem stores_behind (hfront : pre <+: m) (hlen : pre.length + bs.length ≤ m.length) :
    ∃ m', stores m pre.length bs = some m' ∧ m'.length = m.length ∧ pre ++ bs <+: m' := by
  obtain ⟨rest, rfl⟩ := hfront
  rw [List.length_append] at hlen
  have hold : bs.length = (rest.take bs.length).length := by
    rw [List.length_take]
    omega
  have hstores := stores_replace pre (rest.drop bs.length) hold
  rw [List.append_assoc, List.take_append_drop] at hstores
  refine ⟨_, hstores, ?_, List.prefix_append _ _⟩
  simp only [List.length_append, List.length_drop]
  omega

/-- A part of a list at the front is replaced by what is stored over it. -/
theorem stores_within (new : Bytes) (hfront : pre ++ old ++ rest <+: m) (hlen : new.length = old.length) :
    ∃ m', stores m pre.length new = some m' ∧ m'.length = m.length ∧ pre ++ new ++ rest <+: m' := by
  obtain ⟨tail, rfl⟩ := hfront
  have hstores := stores_replace pre (rest ++ tail) hlen
  refine ⟨pre ++ new ++ (rest ++ tail), ?_, ?_, ?_⟩
  · rw [List.append_assoc (pre ++ old)]
    exact hstores
  · simp only [List.length_append, hlen]
    omega
  · rw [← List.append_assoc]
    exact List.prefix_append _ _

end

/-! ## Allocation -/

/-- What the system has for a request of `n` bytes: memory of that size, or none. -/
structure Allocator where
  alloc : Nat → Option Bytes
  size : ∀ n b, alloc n = some b → b.length = n

namespace Allocator

variable (A : Allocator)

/-- `malloc`; no memory can be stored to through a null pointer. -/
def malloc (n : Nat) : Bytes := (A.alloc n).getD []

/-- `realloc`: the contents go along, and where there is more memory, the rest is arbitrary. -/
def realloc (m : Bytes) (n : Nat) : Bytes :=
  match A.alloc n with
  | some b => m.take n ++ b.drop m.length
  | none => []

/-- Memory of `cap` bytes, doubled as often as needed, holds `total`: the doublings are granted and stay below
`limit`. -/
def Room (limit cap total : Nat) : Prop :=
  ∃ k, total ≤ cap * 2 ^ k ∧ cap * 2 ^ k < limit ∧ ∀ j ≤ k, (A.alloc (cap * 2 ^ j)).isSome = true

/-- An allocator that grants every request. -/
def granting : Allocator where
  alloc n := some (List.replicate n 0)
  size n b h := by
    obtain rfl := Option.some.inj h
    exact List.length_replicate

/-- One that grants none. -/
def refusing : Allocator := ⟨fun _ => none, nofun⟩

variable {A}

theorem length_malloc {n : Nat} (h : (A.alloc n).isSome = true) : (A.malloc n).length = n := by
  obtain ⟨b, hb⟩ := Option.isSome_iff_exists.mp h
  rw [malloc, hb, Option.getD_some]
  exact A.size n b hb

/-- More memory begins like the memory before. -/
theorem realloc_spec {m : Bytes} {n : Nat} (h : (A.alloc n).isSome = true) (hle : m.length ≤ n) :
    (A.realloc m n).length = n ∧ m <+: A.realloc m n := by
  obtain ⟨b, hb⟩ := Option.isSome_iff_exists.mp h
  have hsize := A.size n b hb
  rw [realloc, hb]
  dsimp only
  rw [List.take_of_length_le hle]
  refine ⟨?_, List.prefix_append _ _⟩
  rw [List.length_append, List.length_drop]
  omega

/-- Where `cap` is too little, the next doubling is granted, and there is room from it on. -/
theorem Room.double {limit cap total : Nat} (h : A.Room limit cap total) (hlt : cap < total) :
    cap * 2 < limit ∧ (A.alloc (cap * 2)).isSome = true ∧ A.Room limit (cap * 2) total := by
  obtain ⟨k, htotal, hlimit, halloc⟩ := h
  obtain _ | k := k
  · rw [pow_zero, Nat.mul_one] at htotal
    omega
  have hdouble : ∀ j, cap * 2 * 2 ^ j = cap * 2 ^ (j + 1) := by
    intro j
    rw [pow_succ', Nat.mul_assoc]
  refine ⟨?_, ?_, k, ?_, ?_, ?_⟩
  · refine lt_of_le_of_lt ?_ hlimit
    rw [← hdouble k]
    exact Nat.le_mul_of_pos_right _ (Nat.two_pow_pos k)
  · exact halloc 1 (by omega)
  · rw [hdouble]
    exact htotal
  · rw [hdouble]
    exact hlimit
  · intro j hj
    rw [hdouble]
    exact halloc (j + 1) (by omega)

end Allocator

end Lib
