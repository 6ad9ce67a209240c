import Mathlib.Data.Nat.Notation

/-!
# `Lib.Loop` — loops whose body gets something from outside

A `while` loop calls a function it does not control, and goes on with what this returns. Whether the loop ends is a
question about the condition and the body; what it returns then may depend on every answer.

## Contents
- `Ends cond body s is t` — the loop that begins in `s` and gets the answers `is` ends, in `t`.
- `Ends.unique`, `Ends.invariant` — there is one end, and what the body keeps holds there.
- `ends_of_variant` — **total correctness**: a number that every round makes smaller.
- `not_ends` — **divergence**: what the body keeps, and what keeps the condition.
-/

namespace Lib

variable {σ ι : Type}

/-- The loop `while (cond s) s = body s i` goes from `s` to `t` and ends there; `is` are the answers it gets. -/
inductive Ends (cond : σ → Prop) (body : σ → ι → σ) : σ → (Nat → ι) → σ → Prop where
  | stop {s : σ} {is : Nat → ι} : ¬ cond s → Ends cond body s is s
  | round {s t : σ} {is : Nat → ι} :
      cond s → Ends cond body (body s (is 0)) (fun k => is (k + 1)) t → Ends cond body s is t

variable {cond : σ → Prop} {body : σ → ι → σ} {s t t' : σ} {is : Nat → ι}

theorem Ends.unique (h : Ends cond body s is t) (h' : Ends cond body s is t') : t = t' := by
  induction h with
  | stop hs =>
      cases h' with
      | stop => rfl
      | round hs' => exact absurd hs' hs
  | round hs _ ih =>
      cases h' with
      | stop hs' => exact absurd hs hs'
      | round _ h' => exact ih h'

/-- **Partial correctness.** What every round keeps holds where the loop ends, and the condition does not. -/
theorem Ends.invariant (Inv : σ → Prop) (hbody : ∀ s i, Inv s → cond s → Inv (body s i))
    (h : Ends cond body s is t) (h0 : Inv s) : Inv t ∧ ¬ cond t := by
  induction h with
  | stop hs => exact ⟨h0, hs⟩
  | round hs _ ih => exact ih (hbody _ _ h0 hs)

/-- **Termination.** The loop ends when every round makes `variant` smaller, whatever answer it gets. -/
theorem ends_of_variant (Inv : σ → Prop) (variant : σ → Nat)
    (hbody : ∀ s i, Inv s → cond s → Inv (body s i) ∧ variant (body s i) < variant s) (h0 : Inv s)
    (is : Nat → ι) : ∃ t, Ends cond body s is t := by
  -- the induction is on a bound of the variant
  suffices hgen : ∀ n s (is : Nat → ι), variant s ≤ n → Inv s → ∃ t, Ends cond body s is t from
    hgen (variant s) s is (Nat.le_refl _) h0
  intro n
  induction n with
  | zero =>
      intro s is hv hinv
      refine ⟨s, .stop fun hs => ?_⟩
      have hlt := (hbody s (is 0) hinv hs).2
      omega
  | succ n ih =>
      intro s is hv hinv
      by_cases hs : cond s
      · obtain ⟨hinv', hlt⟩ := hbody s (is 0) hinv hs
        obtain ⟨t, ht⟩ := ih (body s (is 0)) (fun k => is (k + 1)) (by omega) hinv'
        exact ⟨t, .round hs ht⟩
      · exact ⟨s, .stop hs⟩

/-- **Divergence.** A loop does not end when every round keeps something under which the condition holds. -/
theorem not_ends (Inv : σ → Prop) (hcond : ∀ s, Inv s → cond s) (hbody : ∀ s i, Inv s → Inv (body s i))
    (h0 : Inv s) : ¬ Ends cond body s is t := by
  intro h
  obtain ⟨hinv, hstop⟩ := h.invariant Inv (fun s i hs _ => hbody s i hs) h0
  exact hstop (hcond t hinv)

end Lib
