import Mathlib.Data.List.Basic
import Showcase.Lib.Bytes

/-!
# `Lib.Stream` — the values in a stream

A format of a stream says what its first unit is, a value or something that is skipped, and what is behind it; as long
as the unit is incomplete it says nothing. What it says must not change when the stream goes on. So a stream is decoded
piece by piece as well as at once (`decode_append`), which is what a reader that is called for every piece relies on.

## Contents
- `StreamFormat`, `decode` — a format, and all values of a stream with what is left behind them.
- `decode_append` — a stream that goes on.
- `decode_wires` — the encodings of some values, one behind the other.
-/

namespace Lib

/-- A format: the first unit of a stream, which is a value or is skipped, and what is behind it. -/
structure StreamFormat (α : Type) where
  first : Bytes → Option (Option α × Bytes)
  shorter : ∀ {b t : Bytes} {a : Option α}, first b = some (a, t) → t.length < b.length
  append : ∀ {b t : Bytes} {a : Option α} (c : Bytes), first b = some (a, t) → first (b ++ c) = some (a, t ++ c)

namespace StreamFormat

variable {α : Type} {F : StreamFormat α} {a : Option α} {b c t : Bytes}

/-- The values of at most `n` units. -/
def values (F : StreamFormat α) : Nat → Bytes → List α × Bytes
  | 0, b => ([], b)
  | n + 1, b =>
      match F.first b with
      | none => ([], b)
      | some (a, t) =>
          let r := values F n t
          (a.toList ++ r.1, r.2)

/-- The values of a stream, and what is left behind them. -/
def decode (F : StreamFormat α) (b : Bytes) : List α × Bytes := F.values b.length b

theorem values_of_none {n : Nat} (h : F.first b = none) : F.values n b = ([], b) := by
  cases n with
  | zero => rfl
  | succ n => rw [values, h]

theorem values_of_some {n : Nat} (h : F.first b = some (a, t)) :
    F.values (n + 1) b = (a.toList ++ (F.values n t).1, (F.values n t).2) := by
  rw [values, h]

/-- There are not more units than bytes. -/
theorem values_enough {n m : Nat} (hn : b.length ≤ n) (hm : b.length ≤ m) : F.values n b = F.values m b := by
  induction n generalizing m b with
  | zero =>
      obtain rfl := List.length_eq_zero_iff.mp (Nat.le_zero.mp hn)
      have hnone : F.first [] = none := by
        cases hfirst : F.first [] with
        | none => rfl
        | some r => exact absurd (F.shorter hfirst) (Nat.not_lt_zero _)
      rw [values_of_none hnone, values_of_none hnone]
  | succ n ih =>
      cases hfirst : F.first b with
      | none => rw [values_of_none hfirst, values_of_none hfirst]
      | some r =>
          have hshorter := F.shorter hfirst
          cases m with
          | zero => omega
          | succ m => rw [values_of_some hfirst, values_of_some hfirst, ih (m := m) (by omega) (by omega)]

theorem decode_of_none (h : F.first b = none) : F.decode b = ([], b) := values_of_none h

theorem decode_of_some (h : F.first b = some (a, t)) :
    F.decode b = (a.toList ++ (F.decode t).1, (F.decode t).2) := by
  have hshorter := F.shorter h
  obtain ⟨n, hn⟩ := Nat.exists_eq_add_of_lt (Nat.lt_of_le_of_lt (Nat.zero_le _) hshorter)
  rw [decode, hn, values_of_some h, decode, values_enough (by omega) (Nat.le_refl t.length)]

/-- An induction over the units of a stream. -/
theorem induction {P : Bytes → Prop} (hnone : ∀ b, F.first b = none → P b)
    (hsome : ∀ b a t, F.first b = some (a, t) → P t → P b) (b : Bytes) : P b := by
  generalize hn : b.length = n
  induction n using Nat.strong_induction_on generalizing b with
  | _ n ih =>
      subst hn
      cases hfirst : F.first b with
      | none => exact hnone b hfirst
      | some r => exact hsome b r.1 r.2 hfirst (ih _ (F.shorter hfirst) r.2 rfl)

/-- **A stream that goes on**: the values so far, and those of what was left with what has come. -/
theorem decode_append (F : StreamFormat α) (b c : Bytes) :
    F.decode (b ++ c) = ((F.decode b).1 ++ (F.decode ((F.decode b).2 ++ c)).1, (F.decode ((F.decode b).2 ++ c)).2) := by
  induction b using F.induction with
  | hnone b h => rw [decode_of_none h, List.nil_append]
  | hsome b a t h ih => rw [decode_of_some (F.append c h), decode_of_some h, ih, List.append_assoc]

/-- **The encodings of some values** are decoded, up to what they do not make complete. -/
theorem decode_wires {wire : α → Bytes} {as : List α} (h : ∀ a ∈ as, F.first (wire a) = some (some a, []))
    (ht : F.first t = none) : F.decode ((as.map wire).flatten ++ t) = (as, t) := by
  induction as with
  | nil => exact decode_of_none ht
  | cons a as ih =>
      have hfirst := F.append ((as.map wire).flatten ++ t) (h a List.mem_cons_self)
      rw [List.map_cons, List.flatten_cons, List.append_assoc, decode_of_some hfirst, List.nil_append,
        ih fun b hb => h b (List.mem_cons_of_mem a hb)]
      rfl

end StreamFormat

end Lib
