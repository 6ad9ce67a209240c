import Mathlib.Data.List.Basic
import Mathlib.Data.List.Forall2

/-!
# `Lib.History` — runs that remember their steps

A component that is called over and over is a labelled step relation `R : S → I → S → Prop`. A **run** keeps
every step it took (`Step.pre`, the input, `Step.post`), so that a property may speak about what happened
*earlier in the run* ("the last request of this kind", "nothing since then changed the key").

## Contents
- `snoc_eq_append_cons` — where a list can be cut that has one more element.
- `Run R s₀ h s` — the history `h` leads from `s₀` to `s`.
- `exec` — the run a list of inputs leads to, when the steps are computed.
- `Run.induction` — an invariant over (history, state) that every step extends holds of every run, also
  when only steps meeting a condition are considered.
- `Run.lockstep` — an invariant over two runs that take their inputs in parallel.
- `Run.project` — a part of the state that runs on its own.
- `Run.append` / `Run.behind` — runs in a row, and what is left of a run behind one of its steps.
- `Run.invariant_pre` — an invariant holds in front of every step of a run.
- `Run.invariant_where` — the same where only the steps that meet a condition keep it.
- `Last p h x` — `x` is the last step of `h` that satisfies `p`, with its two `snoc` rules.
- `Run.last_write` — a field holds what the last step writing it left.
- `Since p q h` — a step of `h` satisfied `p`, which may look at what was before it, and every later one `q`.
- `Along A h` — every step of `h` satisfies `A`, which may look at what was before it.
- `Run.along_iff` — an invariant holds throughout a run exactly when each of its steps meets the condition that
  decides whether it is kept.
-/

namespace Lib

variable {S I : Type}

/-! ## Lists side by side

A run is extended at its end, and Mathlib has the rules of `Forall₂` for the front of a list. -/

section Forall₂

variable {α β : Type} {P : α → β → Prop} {l : List α} {m : List β} {a : α} {b : β}

theorem forall₂_snoc : List.Forall₂ P (l ++ [a]) (m ++ [b]) ↔ List.Forall₂ P l m ∧ P a b := by
  rw [← List.forall₂_reverse_iff, List.reverse_append, List.reverse_append, List.reverse_singleton,
    List.reverse_singleton, List.singleton_append, List.singleton_append, List.forall₂_cons, List.forall₂_reverse_iff]
  exact and_comm

/-- At each place both have an element, or none has. -/
theorem forall₂_getElem? (h : List.Forall₂ P l m) (k : Nat) :
    (l[k]? = none ∧ m[k]? = none) ∨ ∃ a b, l[k]? = some a ∧ m[k]? = some b ∧ P a b := by
  induction h generalizing k with
  | nil => exact .inl ⟨rfl, rfl⟩
  | cons hab _ ih =>
      cases k with
      | zero => exact .inr ⟨_, _, rfl, rfl, hab⟩
      | succ k => exact ih k

theorem forall₂_set (h : List.Forall₂ P l m) (k : Nat) (hab : P a b) : List.Forall₂ P (l.set k a) (m.set k b) := by
  induction h generalizing k with
  | nil => exact .nil
  | cons hcd htail ih =>
      cases k with
      | zero => exact .cons hab htail
      | succ k => exact .cons hcd (ih k)

end Forall₂

/-- Where a list that ends with `y` is cut in front of an `x`, the `x` is its end or lies in front of it. -/
theorem snoc_eq_append_cons {α : Type} {l pre post : List α} {x y : α} (hl : l ++ [y] = pre ++ x :: post) :
    (pre = l ∧ x = y ∧ post = []) ∨ ∃ post', post = post' ++ [y] ∧ l = pre ++ x :: post' := by
  induction pre generalizing l with
  | nil =>
      cases l with
      | nil =>
          obtain ⟨hy, hpost⟩ := List.cons.inj hl
          exact .inl ⟨rfl, hy.symm, hpost.symm⟩
      | cons z l =>
          obtain ⟨rfl, hpost⟩ := List.cons.inj hl
          exact .inr ⟨l, hpost.symm, rfl⟩
  | cons z pre ih =>
      cases l with
      | nil => simp at hl
      | cons z' l =>
          obtain ⟨rfl, htail⟩ := List.cons.inj hl
          rcases ih htail with ⟨rfl, hx, hpost⟩ | ⟨post', hpost, rfl⟩
          · exact .inl ⟨rfl, hx, hpost⟩
          · exact .inr ⟨post', hpost, rfl⟩

/-! ## Steps and runs

A history grows at its end, and the inductions over a run go along it. In `induction` the invariant may remember the
whole history; the rules behind it remember less, or look at two runs. -/

/-- One step of a run: the state before it, its input, the state after it. -/
structure Step (S I : Type) where
  pre : S
  input : I
  post : S

/-- `Run R s₀ h s`: the steps of `h`, each one a step of `R`, lead from `s₀` to `s`. -/
inductive Run (R : S → I → S → Prop) (s₀ : S) : List (Step S I) → S → Prop where
  | nil : Run R s₀ [] s₀
  | snoc {h : List (Step S I)} {s s' : S} {i : I} :
      Run R s₀ h s → R s i s' → Run R s₀ (h ++ [⟨s, i, s'⟩]) s'

namespace Run

variable {R : S → I → S → Prop} {s₀ s : S} {h : List (Step S I)}

/-- **Invariants over a run and its history.** `Inv` holds initially and every step of `R` that meets `C`
    extends it, so it holds at the end of every run whose steps all meet `C`. -/
theorem induction (C : Step S I → Prop) (Inv : List (Step S I) → S → Prop) (h0 : Inv [] s₀)
    (hstep : ∀ h s i s', Run R s₀ h s → Inv h s → R s i s' → C ⟨s, i, s'⟩ →
      Inv (h ++ [⟨s, i, s'⟩]) s')
    (hr : Run R s₀ h s) (hC : ∀ x ∈ h, C x) : Inv h s := by
  induction hr with
  | nil => exact h0
  | snoc hr hR ih =>
      have hpre := ih (fun x hx => hC x (List.mem_append_left _ hx))
      exact hstep _ _ _ _ hr hpre hR (hC _ (by simp))

/-- A step inside a run comes after a run of its own, and is a step of `R`. -/
theorem split {pre post : List (Step S I)} {x : Step S I} (hr : Run R s₀ h s)
    (hh : h = pre ++ x :: post) : Run R s₀ pre x.pre ∧ R x.pre x.input x.post := by
  induction hr generalizing post with
  | nil => simp at hh
  | @snoc h s s' i hr hR ih =>
      rcases snoc_eq_append_cons hh with ⟨rfl, rfl, _⟩ | ⟨post', _, hpre⟩
      · exact ⟨hr, hR⟩
      · exact ih hpre

/-- One run behind another. -/
theorem append {h' : List (Step S I)} {s' : S} (hr : Run R s₀ h s) (hr' : Run R s h' s') :
    Run R s₀ (h ++ h') s' := by
  induction hr' with
  | nil => rwa [List.append_nil]
  | snoc hr' hR ih =>
      rw [← List.append_assoc]
      exact ih.snoc hR

/-- What comes behind a step is a run from the state it leaves. -/
theorem behind {pre post : List (Step S I)} {x : Step S I} (hr : Run R s₀ h s) (hh : h = pre ++ x :: post) :
    Run R x.post post s := by
  induction hr generalizing post with
  | nil => simp at hh
  | @snoc h s s' i hr hR ih =>
      rcases snoc_eq_append_cons hh with ⟨_, rfl, rfl⟩ | ⟨post', rfl, hpre⟩
      · exact .nil
      · exact (ih hpre).snoc hR

/-- A run of a relation is one of every relation that allows its steps. -/
theorem imp {R' : S → I → S → Prop} (himp : ∀ s i s', R s i s' → R' s i s') (hr : Run R s₀ h s) :
    Run R' s₀ h s := by
  induction hr with
  | nil => exact .nil
  | snoc _ hR ih => exact ih.snoc (himp _ _ _ hR)

/-- What every step keeps holds behind a run. -/
theorem invariant (Inv : S → Prop) (h0 : Inv s₀) (hstep : ∀ s i s', Inv s → R s i s' → Inv s')
    (hr : Run R s₀ h s) : Inv s := by
  induction hr with
  | nil => exact h0
  | snoc _ hR ih => exact hstep _ _ _ ih hR

/-- What every step keeps holds in front of every step. -/
theorem invariant_pre (Inv : S → Prop) (h0 : Inv s₀) (hstep : ∀ s i s', Inv s → R s i s' → Inv s')
    (hr : Run R s₀ h s) {x : Step S I} (hx : x ∈ h) : Inv x.pre := by
  obtain ⟨pre, post, hh⟩ := List.append_of_mem hx
  exact (hr.split hh).1.invariant Inv h0 hstep

/-- Where all steps of a run meet `C`, an invariant that such steps keep holds behind it. -/
theorem invariant_where (C : Step S I → Prop) (Inv : S → Prop) (h0 : Inv s₀)
    (hstep : ∀ s i s', Inv s → R s i s' → C ⟨s, i, s'⟩ → Inv s') (hr : Run R s₀ h s) (hC : ∀ x ∈ h, C x) : Inv s :=
  hr.induction C (fun _ => Inv) h0 (fun _ _ _ _ _ hinv hR hx => hstep _ _ _ hinv hR hx) hC

/-- Where all steps of a run meet `C`, an invariant that such steps keep holds in front of each of them. -/
theorem invariant_where_pre (C : Step S I → Prop) (Inv : S → Prop) (h0 : Inv s₀)
    (hstep : ∀ s i s', Inv s → R s i s' → C ⟨s, i, s'⟩ → Inv s') (hr : Run R s₀ h s) (hC : ∀ x ∈ h, C x)
    {x : Step S I} (hx : x ∈ h) : Inv x.pre := by
  obtain ⟨pre, post, rfl⟩ := List.append_of_mem hx
  -- the steps in front of `x` meet the condition too
  exact (hr.split rfl).1.invariant_where C Inv h0 hstep fun y hy => hC y (List.mem_append_left _ hy)

/-- **A part of the state runs on its own** when every step is one of its steps, or leaves it alone. -/
theorem project {T J : Type} {Q : T → J → T → Prop} (f : S → T)
    (hstep : ∀ s i s', R s i s' → (∃ j, Q (f s) j (f s')) ∨ f s' = f s) (hr : Run R s₀ h s) :
    ∃ k, Run Q (f s₀) k (f s) := by
  induction hr with
  | nil => exact ⟨[], .nil⟩
  | snoc _ hR ih =>
      obtain ⟨k, hk⟩ := ih
      rcases hstep _ _ _ hR with ⟨j, hj⟩ | hsame
      · exact ⟨_, hk.snoc hj⟩
      · rw [hsame]
        exact ⟨k, hk⟩

/-- **Two runs side by side.** Their steps are alike one by one, and what relates both runs is kept when each of them
    takes a step. -/
theorem lockstep {T J : Type} {Q : T → J → T → Prop} {t₀ t : T} {k : List (Step T J)}
    (Alike : Step S I → Step T J → Prop) (Inv : List (Step S I) → List (Step T J) → S → T → Prop) (h0 : Inv [] [] s₀ t₀)
    (hstep : ∀ h k s t i j s' t', Inv h k s t → Alike ⟨s, i, s'⟩ ⟨t, j, t'⟩ → R s i s' → Q t j t' →
      Inv (h ++ [⟨s, i, s'⟩]) (k ++ [⟨t, j, t'⟩]) s' t')
    (hr : Run R s₀ h s) (hq : Run Q t₀ k t) (halike : List.Forall₂ Alike h k) : Inv h k s t := by
  induction hr generalizing k t with
  | nil =>
      obtain rfl := List.forall₂_nil_left_iff.mp halike
      generalize hk : [] = k at hq
      cases hq with
      | nil => exact h0
      | snoc _ _ => simp at hk
  | @snoc h s s' i hr hR ih =>
      cases hq with
      | nil => simp at halike
      | @snoc k t t' j hq hQ =>
          obtain ⟨halike, hlast⟩ := forall₂_snoc.mp halike
          exact hstep _ _ _ _ _ _ _ _ (ih hq halike) hlast hR hQ

end Run

/-! ## Runs that are computed -/

/-- The steps a list of inputs leads to, and the state behind them; nothing when one of them is not possible. -/
def exec (f : S → I → Option S) (s : S) : List I → Option (List (Step S I) × S)
  | [] => some ([], s)
  | i :: is =>
      match f s i with
      | none => none
      | some s' => (exec f s' is).map fun r => (⟨s, i, s'⟩ :: r.1, r.2)

theorem exec_cons {f : S → I → Option S} {s : S} {i : I} {is : List I} {r : List (Step S I) × S}
    (h : exec f s (i :: is) = some r) :
    ∃ s' r', f s i = some s' ∧ exec f s' is = some r' ∧ (⟨s, i, s'⟩ :: r'.1, r'.2) = r := by
  rw [exec] at h
  cases hf : f s i with
  | none =>
      rw [hf] at h
      cases h
  | some s' =>
      rw [hf] at h
      obtain ⟨r', hr', heq⟩ := Option.map_eq_some_iff.mp h
      exact ⟨s', r', rfl, hr', heq⟩

theorem Run.exec {f : S → I → Option S} {s : S} {is : List I} {r : List (Step S I) × S}
    (h : exec f s is = some r) : Run (fun s i s' => f s i = some s') s r.1 r.2 := by
  induction is generalizing s r with
  | nil =>
      obtain rfl := Option.some.inj h
      exact .nil
  | cons i is ih =>
      obtain ⟨s', r', hf, hr', rfl⟩ := exec_cons h
      have hone : Run (fun s i s' => f s i = some s') s [⟨s, i, s'⟩] s' := Run.nil.snoc hf
      exact hone.append (ih hr')

/-- The history has the inputs. -/
theorem exec_inputs {f : S → I → Option S} {s : S} {is : List I} {r : List (Step S I) × S}
    (h : exec f s is = some r) : r.1.map Step.input = is := by
  induction is generalizing s r with
  | nil =>
      obtain rfl := Option.some.inj h
      rfl
  | cons i is ih =>
      obtain ⟨s', r', -, hr', rfl⟩ := exec_cons h
      rw [List.map_cons, ih hr']

/-! ## The last step of a kind

`Last` has one rule for a new step that is of the kind and one for a new step that is not. The rules about fields are
inductions over the run with these two. -/

/-- `x` is the last step of `h` that satisfies `p`. -/
def Last (p : Step S I → Prop) (h : List (Step S I)) (x : Step S I) : Prop :=
  ∃ pre post, h = pre ++ x :: post ∧ p x ∧ ∀ y ∈ post, ¬ p y

namespace Last

variable {p : Step S I → Prop} {h : List (Step S I)} {x y : Step S I}

/-- A new step that satisfies `p` is the last one that does. -/
theorem snoc_self (hy : p y) : Last p (h ++ [y]) y :=
  ⟨h, [], rfl, hy, by simp⟩

/-- A new step that does not satisfy `p` leaves the last one where it was. -/
theorem snoc_other (hx : Last p h x) (hy : ¬ p y) : Last p (h ++ [y]) x := by
  obtain ⟨pre, post, rfl, hp, hpost⟩ := hx
  refine ⟨pre, post ++ [y], by simp, hp, ?_⟩
  intro z hz
  rcases List.mem_append.mp hz with hz | hz
  · exact hpost z hz
  · rw [List.mem_singleton.mp hz]; exact hy

theorem mem (hx : Last p h x) : x ∈ h := by
  obtain ⟨pre, post, rfl, _, _⟩ := hx
  simp

theorem sat (hx : Last p h x) : p x := by
  obtain ⟨_, _, _, hp, _⟩ := hx
  exact hp

/-- There is only one last step. -/
theorem unique (hx : Last p h x) (hy : Last p h y) : x = y := by
  obtain ⟨pre, post, rfl, hpx, hpost⟩ := hx
  obtain ⟨pre', post', hh, hpy, hpost'⟩ := hy
  rcases List.append_eq_append_iff.mp hh with ⟨l, rfl, hl⟩ | ⟨l, rfl, hl⟩
  · cases l with
    | nil => exact (List.cons.inj hl).1
    | cons z l =>
        obtain ⟨rfl, rfl⟩ := List.cons.inj hl
        exact absurd hpy (hpost y (by simp))
  · cases l with
    | nil => exact (List.cons.inj hl).1.symm
    | cons z l =>
        obtain ⟨rfl, rfl⟩ := List.cons.inj hl
        exact absurd hpx (hpost' x (by simp))

end Last

/-- **Last write.** When only the steps satisfying `p` change `f`, the value of `f` at the end of a run is the one
    the last such step left, or the initial one if there was none. -/
theorem Run.last_write {β : Type} {R : S → I → S → Prop} {s₀ s : S} {h : List (Step S I)}
    (p : Step S I → Prop) (f : S → β) (hframe : ∀ s i s', R s i s' → ¬ p ⟨s, i, s'⟩ → f s' = f s)
    (hr : Run R s₀ h s) :
    (∃ m, Last p h m ∧ f s = f m.post) ∨ ((∀ y ∈ h, ¬ p y) ∧ f s = f s₀) := by
  induction hr with
  | nil => exact .inr ⟨by simp, rfl⟩
  | @snoc h s s' i hr hR ih =>
      by_cases hp : p ⟨s, i, s'⟩
      · exact .inl ⟨_, Last.snoc_self hp, rfl⟩
      · have hf := hframe s i s' hR hp
        rcases ih with ⟨m, hlast, hm⟩ | ⟨hno, h0⟩
        · exact .inl ⟨m, hlast.snoc_other hp, hf.trans hm⟩
        · refine .inr ⟨?_, hf.trans h0⟩
          intro y hy
          rcases List.mem_append.mp hy with hy | hy
          · exact hno y hy
          · rw [List.mem_singleton.mp hy]
            exact hp

/-- A field holds what the last step that satisfies `p` left, if the others leave it alone. -/
theorem Run.value_of_last {β : Type} {R : S → I → S → Prop} {s₀ s : S} {h : List (Step S I)}
    {p : Step S I → Prop} (f : S → β) (hframe : ∀ s i s', R s i s' → ¬ p ⟨s, i, s'⟩ → f s' = f s)
    (hr : Run R s₀ h s) {m : Step S I} (hm : Last p h m) : f s = f m.post := by
  rcases hr.last_write p f hframe with ⟨m', hm', hf⟩ | ⟨hno, _⟩
  · rw [hf, hm.unique hm']
  · exact absurd hm.sat (hno m hm.mem)

/-- Every step in the history of a run is a step of its relation. -/
theorem Run.step_of_mem {R : S → I → S → Prop} {s₀ s : S} {h : List (Step S I)} (hr : Run R s₀ h s)
    {x : Step S I} (hx : x ∈ h) : R x.pre x.input x.post := by
  obtain ⟨pre, post, hh⟩ := List.append_of_mem hx
  exact (hr.split hh).2

/-! ## What holds since a step -/

/-- A step satisfied `p`, given the steps before it, and all steps since then satisfy `q`. -/
def Since (p : List (Step S I) → Step S I → Prop) (q : Step S I → Prop) (h : List (Step S I)) : Prop :=
  ∃ pre x post, h = pre ++ x :: post ∧ p pre x ∧ ∀ y ∈ post, q y

namespace Since

variable {p : List (Step S I) → Step S I → Prop} {q : Step S I → Prop} {h : List (Step S I)} {x : Step S I}

/-- A step that satisfies `p` begins it. -/
theorem start (hx : p h x) : Since p q (h ++ [x]) :=
  ⟨h, x, [], rfl, hx, fun _ hy => absurd hy List.not_mem_nil⟩

/-- A step that satisfies `q` continues it. -/
theorem snoc (hs : Since p q h) (hx : q x) : Since p q (h ++ [x]) := by
  obtain ⟨pre, y, post, rfl, hp, hpost⟩ := hs
  refine ⟨pre, y, post ++ [x], by rw [List.append_assoc, List.cons_append], hp, ?_⟩
  intro z hz
  rcases List.mem_append.mp hz with hz | hz
  · exact hpost z hz
  · rw [List.mem_singleton.mp hz]
    exact hx

end Since

/-! ## What holds all along -/

/-- Every step satisfies `A`, given the steps before it. -/
def Along (A : List (Step S I) → Step S I → Prop) (h : List (Step S I)) : Prop :=
  ∀ pre x post, h = pre ++ x :: post → A pre x

section Along

variable {A : List (Step S I) → Step S I → Prop} {h : List (Step S I)} {x : Step S I}

theorem Along.nil : Along A [] := by
  intro pre x post hh
  simp at hh

theorem along_snoc : Along A (h ++ [x]) ↔ Along A h ∧ A h x := by
  constructor
  · intro ha
    refine ⟨?_, ha h x [] rfl⟩
    rintro pre y post rfl
    exact ha pre y (post ++ [x]) (by rw [List.append_assoc, List.cons_append])
  · rintro ⟨ha, hx⟩ pre y post hh
    rcases snoc_eq_append_cons hh with ⟨rfl, rfl, _⟩ | ⟨post', _, hpre⟩
    · exact hx
    · exact ha pre y post' hpre

/-- A condition on the steps alone. -/
theorem along_mem {A : Step S I → Prop} : Along (fun _ x => A x) h ↔ ∀ x ∈ h, A x := by
  constructor
  · intro ha x hx
    obtain ⟨pre, post, hh⟩ := List.append_of_mem hx
    exact ha pre x post hh
  · rintro ha pre x post rfl
    exact ha x (by simp)

/-- **Exactly when an invariant holds throughout.** `C` decides for each step that finds `Inv` whether it leaves it. -/
theorem Run.along_iff {R : S → I → S → Prop} {s₀ s : S} (Inv : List (Step S I) → S → Prop)
    (C : List (Step S I) → Step S I → Prop) (h0 : Inv [] s₀)
    (hstep : ∀ h s i s', Inv h s → R s i s' → (Inv (h ++ [⟨s, i, s'⟩]) s' ↔ C h ⟨s, i, s'⟩))
    (hr : Run R s₀ h s) : Along (fun pre x => Inv (pre ++ [x]) x.post) h ↔ Along C h := by
  -- with it, that it holds at the end
  have hboth : (Along (fun pre x => Inv (pre ++ [x]) x.post) h → Inv h s) ∧
      (Along (fun pre x => Inv (pre ++ [x]) x.post) h ↔ Along C h) := by
    induction hr with
    | nil => exact ⟨fun _ => h0, iff_of_true Along.nil Along.nil⟩
    | snoc hr hR ih =>
        refine ⟨fun ha => (along_snoc.mp ha).2, ?_⟩
        rw [along_snoc, along_snoc, ← ih.2]
        exact and_congr_right fun ha => hstep _ _ _ _ (ih.1 ha) hR
  exact hboth.2

end Along

end Lib
