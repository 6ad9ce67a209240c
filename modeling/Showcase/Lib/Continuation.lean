import Mathlib.Data.List.Basic

/-!
# `Lib.Continuation` — a list handed out in parts

A responder answers a request with a part of a list and, unless it is the last, with what the next request has to
name to go on. `Continues` says what the responder has left for each of these continuations; from this for one answer
follows that a requester that goes on until there is no continuation has the whole list, and has it after finitely many
requests.
-/

namespace Lib

variable {κ α : Type}

/-- What a requester gets that goes on from `k` for at most `n` requests; `none` when it is not through then, or when
    a request is not answered. -/
def collect (respond : κ → Option (List α × Option κ)) : Nat → κ → Option (List α)
  | 0, _ => none
  | n + 1, k =>
      match respond k with
      | none => none
      | some (part, none) => some part
      | some (part, some next) => (collect respond n next).map (part ++ ·)

/-- From a valid continuation the responder answers with a part of what it has left: with all of it, or with a first
    part that is not empty and the continuation for what is behind it. -/
def Continues (respond : κ → Option (List α × Option κ)) (Valid : κ → Prop) (rest : κ → List α) : Prop :=
  ∀ k, Valid k → respond k = some (rest k, none) ∨
    ∃ part next, respond k = some (part, some next) ∧ part ≠ [] ∧ rest k = part ++ rest next ∧ Valid next

/-- **The parts make up the list**, and a requester is through after one request more than the list is long. -/
theorem Continues.collect {respond : κ → Option (List α × Option κ)} {Valid : κ → Prop} {rest : κ → List α}
    (h : Continues respond Valid rest) (n : Nat) (k : κ) (hk : Valid k) (hn : (rest k).length < n) :
    Lib.collect respond n k = some (rest k) := by
  induction n generalizing k with
  | zero => exact absurd hn (Nat.not_lt_zero _)
  | succ n ih =>
      rw [Lib.collect]
      rcases h k hk with hlast | ⟨part, next, hmore, hpart, hrest, hvalid⟩
      · rw [hlast]
      · have hpos := List.length_pos_of_ne_nil hpart
        have hlen := congrArg List.length hrest
        rw [List.length_append] at hlen
        rw [hmore]
        simp only [ih next hvalid (by omega), Option.map_some, hrest]

end Lib
