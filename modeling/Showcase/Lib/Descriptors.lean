import Mathlib.Logic.Function.Basic

/-!
# `Lib.Descriptors` — the descriptor table of a process

What stands behind every open number of a process. The kernel hands out a number that is free, and hands it out
again once it has been closed.

## Contents
- `Descriptors`, `install`, `close` — the table and its two changes.
- `of_opened` / `opened_of` / `of_closed` — what a number stands for before and after them.
- `opened_fresh` / `opened_inj` — a table whose entries are numbered in the order they were opened.
- `Opened` — the numbers that are open behind a piece of code and were not in front of it.
-/

namespace Lib

/-- What every open descriptor stands for. -/
abbrev Descriptors (κ : Type) := Nat → Option κ

variable {κ : Type}

namespace Descriptors

/-- The kernel hands out `fd`. -/
abbrev install (t : Descriptors κ) (fd : Nat) (x : κ) : Descriptors κ := Function.update t fd (some x)

abbrev close (t : Descriptors κ) (fd : Nat) : Descriptors κ := Function.update t fd none

/-- Open behind a piece of code, and not in front of it. -/
def Opened (t t' : Descriptors κ) (fd : Nat) : Prop := t fd = none ∧ (t' fd).isSome

end Descriptors

open Descriptors

section Table

variable {table table' : Descriptors κ} {fd fd' : Nat} {x y : κ}

/-- What a descriptor stands for once `fd` has been opened. -/
theorem of_opened (h : table.install fd y fd' = some x) : (fd' = fd ∧ x = y) ∨ (fd' ≠ fd ∧ table fd' = some x) := by
  by_cases heq : fd' = fd
  · rw [heq, install, Function.update_self, Option.some.injEq] at h
    exact .inl ⟨heq, h.symm⟩
  · rw [install, Function.update_of_ne heq] at h
    exact .inr ⟨heq, h⟩

/-- The others stay what they were. -/
theorem opened_of (hfree : table fd = none) (h : table fd' = some x) : table.install fd y fd' = some x := by
  rw [install, Function.update_of_ne]
  · exact h
  · intro heq
    rw [heq, hfree] at h
    cases h

/-- What is open once `fd` has been closed was open before. -/
theorem of_closed (h : table.close fd fd' = some x) : table fd' = some x := by
  by_cases heq : fd' = fd
  · rw [heq, close, Function.update_self] at h
    cases h
  · rwa [close, Function.update_of_ne heq] at h

/-- A number that was handed out and closed is free, as it was. -/
theorem close_install (hfree : table fd = none) : (table.install fd y).close fd = table := by
  rw [close, install, Function.update_idem, Function.update_eq_self_iff, hfree]

theorem not_opened_self : ¬ Opened table table fd := by
  rintro ⟨hnone, hsome⟩
  rw [hnone] at hsome
  cases hsome

/-- Only the number that was handed out has been opened. -/
theorem opened_install (hfree : table fd = none) : Opened table (table.install fd y) fd' ↔ fd' = fd := by
  constructor
  · rintro ⟨hnone, hsome⟩
    obtain ⟨x, hx⟩ := Option.isSome_iff_exists.mp hsome
    rcases of_opened hx with ⟨heq, _⟩ | ⟨_, hopen⟩
    · exact heq
    · rw [hnone] at hopen
      cases hopen
  · rintro rfl
    exact ⟨hfree, by rw [install, Function.update_self]; rfl⟩

end Table

/-! ## Entries in the order they were opened -/

section Numbered

variable {table : Descriptors Nat} {fd fd' fd'' f n : Nat}

/-- The entries stay below the next number. -/
theorem opened_fresh (hfresh : ∀ fd f, table fd = some f → f < n) (h : table.install fd n fd' = some f) :
    f < n + 1 := by
  rcases of_opened h with ⟨_, rfl⟩ | ⟨_, hf⟩
  · exact Nat.lt_succ_self _
  · exact Nat.lt_succ_of_lt (hfresh fd' f hf)

/-- No entry is behind two descriptors. -/
theorem opened_inj (hfresh : ∀ fd f, table fd = some f → f < n)
    (hinj : ∀ fd fd' f, table fd = some f → table fd' = some f → fd = fd')
    (h : table.install fd n fd' = some f) (h' : table.install fd n fd'' = some f) : fd' = fd'' := by
  rcases of_opened h with ⟨rfl, rfl⟩ | ⟨_, hf⟩
  · rcases of_opened h' with ⟨rfl, _⟩ | ⟨_, hf'⟩
    · rfl
    · exact absurd (hfresh _ _ hf') (Nat.lt_irrefl _)
  · rcases of_opened h' with ⟨rfl, rfl⟩ | ⟨_, hf'⟩
    · exact absurd (hfresh _ _ hf) (Nat.lt_irrefl _)
    · exact hinj fd' fd'' f hf hf'

end Numbered

end Lib
