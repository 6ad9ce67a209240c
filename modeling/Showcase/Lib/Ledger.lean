import Mathlib.Logic.Function.Basic

/-!
# `Lib.Ledger` — resources that are acquired, used and released

Holders acquire resources, use them and release them; a log has every call with the resource it was made on. When
each call is made by the holder of its resource, every resource is released once and not used behind that.

## Contents
- `Ledger release held acquired log` — every resource acquired is held by one holder and has not been released, or is
  not held and has been.
- `Ledger.use`, `Ledger.acquire`, `Ledger.giveBack` — the rules.
- `Ledger.once` — a resource that is not held has one `release` in the log, and nothing behind it.
-/

namespace Lib

variable {ι κ Op : Type}

/-- `held` says what each holder has, `acquired` what was ever acquired, and `log` what was done with it. -/
structure Ledger (release : Op) (held : ι → Option κ) (acquired : List κ) (log : List (Op × κ)) : Prop where
  /-- A resource has one holder at most. -/
  unique : ∀ i j k, held i = some k → held j = some k → i = j
  /-- What is held has been acquired, and not been released. -/
  live : ∀ i k, held i = some k → k ∈ acquired ∧ (release, k) ∉ log
  /-- Only what has been acquired is used. -/
  known : ∀ x ∈ log, x.2 ∈ acquired
  /-- Nothing is used behind its release. -/
  unused : log.Pairwise fun x y => x.1 = release → y.2 ≠ x.2
  /-- What has been acquired and is not held has been released. -/
  released : ∀ k ∈ acquired, (∃ i, held i = some k) ∨ (release, k) ∈ log

namespace Ledger

variable {release op : Op} {held : ι → Option κ} {acquired : List κ} {log : List (Op × κ)} {i : ι} {k : κ}

theorem nil (release : Op) : Ledger release (fun _ : ι => (none : Option κ)) [] [] where
  unique := fun _ _ _ h => nomatch h
  live := fun _ _ h => nomatch h
  known := fun _ h => absurd h List.not_mem_nil
  unused := .nil
  released := fun _ h => absurd h List.not_mem_nil

/-- A call on a resource that has not been released. -/
theorem append_unused (h : Ledger release held acquired log) (hk : (release, k) ∉ log) (op : Op) :
    (log ++ [(op, k)]).Pairwise fun x y => x.1 = release → y.2 ≠ x.2 := by
  refine List.pairwise_append.mpr ⟨h.unused, List.pairwise_singleton _ _, ?_⟩
  intro x hx y hy hrelease heq
  rw [List.mem_singleton.mp hy] at heq
  obtain ⟨op', k'⟩ := x
  obtain rfl : op' = release := hrelease
  obtain rfl : k = k' := heq
  exact hk hx

/-- **Use.** -/
theorem use (h : Ledger release held acquired log) (hacq : k ∈ acquired) (hk : (release, k) ∉ log)
    (hop : op ≠ release) : Ledger release held acquired (log ++ [(op, k)]) where
  unique := h.unique
  live := by
    intro i k' hi
    refine ⟨(h.live i k' hi).1, fun hmem => ?_⟩
    rcases List.mem_append.mp hmem with hmem | hmem
    · exact (h.live i k' hi).2 hmem
    · exact hop (congrArg Prod.fst (List.mem_singleton.mp hmem)).symm
  known := by
    intro x hx
    rcases List.mem_append.mp hx with hx | hx
    · exact h.known x hx
    · rw [List.mem_singleton.mp hx]
      exact hacq
  unused := h.append_unused hk op
  released := fun k' hk' => (h.released k' hk').imp_right (List.mem_append_left _)

section

variable [DecidableEq ι]

/-- **Acquisition** of something new, by a holder that has nothing. -/
theorem acquire (h : Ledger release held acquired log) (hnone : held i = none) (hnew : k ∉ acquired) :
    Ledger release (Function.update held i (some k)) (acquired ++ [k]) log where
  unique := by
    -- nobody else holds what is new
    have hother : ∀ j, held j ≠ some k := fun j hj => hnew (h.live j k hj).1
    intro j j' k' hj hj'
    rw [Function.update_apply] at hj hj'
    split at hj
    · rename_i hji
      split at hj'
      · rename_i hji'
        rw [hji, hji']
      · obtain rfl := Option.some.inj hj
        exact absurd hj' (hother j')
    · split at hj'
      · obtain rfl := Option.some.inj hj'
        exact absurd hj (hother j)
      · exact h.unique j j' k' hj hj'
  live := by
    intro j k' hj
    rw [Function.update_apply] at hj
    split at hj
    · obtain rfl := Option.some.inj hj
      exact ⟨List.mem_append_right _ (List.mem_singleton_self k), fun hmem => hnew (h.known _ hmem)⟩
    · exact ⟨List.mem_append_left _ (h.live j k' hj).1, (h.live j k' hj).2⟩
  known := fun x hx => List.mem_append_left _ (h.known x hx)
  unused := h.unused
  released := by
    intro k' hk'
    rcases List.mem_append.mp hk' with hk' | hk'
    · refine (h.released k' hk').imp_left ?_
      rintro ⟨j, hj⟩
      have hne : j ≠ i := by
        rintro rfl
        rw [hnone] at hj
        cases hj
      exact ⟨j, by rw [Function.update_of_ne hne, hj]⟩
    · rw [List.mem_singleton.mp hk']
      exact .inl ⟨i, Function.update_self ..⟩

/-- **Release**, by the holder. -/
theorem giveBack (h : Ledger release held acquired log) (hi : held i = some k) :
    Ledger release (Function.update held i none) acquired (log ++ [(release, k)]) where
  unique := by
    intro j j' k' hj hj'
    rw [Function.update_apply] at hj hj'
    split at hj
    · cases hj
    · split at hj'
      · cases hj'
      · exact h.unique j j' k' hj hj'
  live := by
    intro j k' hj
    rw [Function.update_apply] at hj
    split at hj
    · cases hj
    · rename_i hji
      refine ⟨(h.live j k' hj).1, fun hmem => ?_⟩
      rcases List.mem_append.mp hmem with hmem | hmem
      · exact (h.live j k' hj).2 hmem
      · have heq : k' = k := congrArg Prod.snd (List.mem_singleton.mp hmem)
        rw [heq] at hj
        exact hji (h.unique j i k hj hi)
  known := by
    intro x hx
    rcases List.mem_append.mp hx with hx | hx
    · exact h.known x hx
    · rw [List.mem_singleton.mp hx]
      exact (h.live i k hi).1
  unused := h.append_unused (h.live i k hi).2 release
  released := by
    intro k' hk'
    rcases h.released k' hk' with ⟨j, hj⟩ | hmem
    · by_cases hji : j = i
      · rw [hji, hi] at hj
        obtain rfl := Option.some.inj hj
        exact .inr (List.mem_append_right _ (List.mem_singleton_self _))
      · exact .inl ⟨j, by rw [Function.update_of_ne hji, hj]⟩
    · exact .inr (List.mem_append_left _ hmem)

end

/-- **Once.** What is not held has been released, and nothing was done with it behind that. -/
theorem once (h : Ledger release held acquired log) (hk : k ∈ acquired) (hnone : ∀ i, held i ≠ some k) :
    ∃ front behind, log = front ++ (release, k) :: behind ∧ ∀ op, (op, k) ∉ behind := by
  have hmem := (h.released k hk).resolve_left fun ⟨i, hi⟩ => hnone i hi
  obtain ⟨front, behind, rfl⟩ := List.append_of_mem hmem
  refine ⟨front, behind, rfl, fun op hop => ?_⟩
  have htail := List.rel_of_pairwise_cons (List.pairwise_append.mp h.unused).2.1 hop
  exact htail rfl rfl

end Ledger

end Lib
