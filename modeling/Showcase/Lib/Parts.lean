import Mathlib.Logic.Function.Basic
import Showcase.Lib.History

/-!
# `Lib.Parts` — components that share a state

Several **parts**, each with a state of its own, take steps in any order; a step of one part reads and writes its
own state and the shared one, and shows something. `f g e l` is the step of a part in the state `l` on the event `e`
when the shared state is `g`.

## Contents
- `Parts.step` — one part takes a step, the others stay where they are.
- `history` / `treatment` — what has happened to one part in a run, and what its steps have shown.
- `alone` — a part that has the shared state for itself.
- `treated_alone` — when the steps of all parts but one go the same way under the initial shared state and leave
  the shared state alone, each part is treated as it is alone.
-/

namespace Lib

variable {ι G L E O : Type}

/-- The shared state, and the state of each part. -/
structure Parts (ι G L : Type) where
  globals : G
  part : ι → L

/-- An event of a part. -/
structure PartInput (ι E : Type) where
  part : ι
  event : E

/-! ## Steps -/

section Steps

variable [DecidableEq ι] (f : G → E → L → Option (G × O × L))

namespace Parts

/-- One part takes a step: the new state, and what the step shows. -/
def step (s : Parts ι G L) (i : PartInput ι E) : Option (Parts ι G L × O) :=
  (f s.globals i.event (s.part i.part)).map fun (g, o, l) => (⟨g, Function.update s.part i.part l⟩, o)

/-- The runs of the parts, in any interleaving. -/
abbrev PartsRun := Run fun (s : Parts ι G L) (i : PartInput ι E) s' => ∃ o, Parts.step f s i = some (s', o)

/-- A step without what it shows. -/
def next (s : Parts ι G L) (i : PartInput ι E) : Option (Parts ι G L) := (Parts.step f s i).map Prod.fst

/-- What a step of a run shows. -/
def shows (x : Step (Parts ι G L) (PartInput ι E)) : Option O := (Parts.step f x.pre x.input).map Prod.snd

variable {f} {s s' : Parts ι G L} {i : PartInput ι E} {o : O}

/-- A run that is computed. -/
theorem run_exec {s : Parts ι G L} {is : List (PartInput ι E)}
    {r : List (Step (Parts ι G L) (PartInput ι E)) × Parts ι G L} (h : exec (Parts.next f) s is = some r) :
    PartsRun f s r.1 r.2 := by
  refine (Run.exec h).imp fun s i s' hstep => ?_
  obtain ⟨⟨s₁, o⟩, hs₁, rfl⟩ := Option.map_eq_some_iff.mp hstep
  exact ⟨o, hs₁⟩

/-- The other parts stay where they are. -/
theorem step_other {j : ι} (h : Parts.step f s i = some (s', o)) (hne : j ≠ i.part) : s'.part j = s.part j := by
  obtain ⟨⟨g, o', l⟩, -, heq⟩ := Option.map_eq_some_iff.mp h
  obtain ⟨rfl, -⟩ := Prod.mk.inj heq
  exact Function.update_of_ne hne _ _

/-- The part itself takes its step. -/
theorem step_part (h : Parts.step f s i = some (s', o)) :
    f s.globals i.event (s.part i.part) = some (s'.globals, o, s'.part i.part) := by
  obtain ⟨⟨g, o', l⟩, hstep, heq⟩ := Option.map_eq_some_iff.mp h
  obtain ⟨rfl, rfl⟩ := Prod.mk.inj heq
  simp only [hstep, Function.update_self]

end Parts

end Steps

/-! ## One part of a run

A run is cut into the histories of its parts. The invariant of `treated_alone` says of every part that its history,
taken alone, has brought it to where it is now; for the part `i₀` the shared state is the one of the run, for the
others the one at the beginning. -/

section One

variable [DecidableEq ι] (f : G → E → L → Option (G × O × L))

/-- What has happened to the part. -/
def history (j : ι) (h : List (Step (Parts ι G L) (PartInput ι E))) : List E :=
  (h.filter fun x => x.input.part = j).map fun x => x.input.event

/-- What the steps of the part have shown. -/
def treatment (j : ι) (h : List (Step (Parts ι G L) (PartInput ι E))) : List O :=
  (h.filter fun x => x.input.part = j).filterMap (Parts.shows f)

/-- A step of a part that is alone; a step that is not possible changes nothing. -/
def aloneStep (a : (G × L) × List O) (e : E) : (G × L) × List O :=
  match f a.1.1 e a.1.2 with
  | none => a
  | some (g, o, l) => ((g, l), a.2 ++ [o])

/-- A part that has the shared state for itself, and what it shows. -/
def alone (g : G) (l : L) (es : List E) : (G × L) × List O := es.foldl (aloneStep f) ((g, l), [])

variable {f} {j : ι} {h : List (Step (Parts ι G L) (PartInput ι E))} {x : Step (Parts ι G L) (PartInput ι E)}

theorem history_other (hne : x.input.part ≠ j) : history j (h ++ [x]) = history j h := by
  simp [history, List.filter_append, hne]

theorem treatment_other (hne : x.input.part ≠ j) : treatment f j (h ++ [x]) = treatment f j h := by
  simp [treatment, List.filter_append, hne]

theorem history_none (hno : ∀ x ∈ h, x.input.part ≠ j) : history j h = [] := by
  simpa [history, List.filter_eq_nil_iff] using hno

theorem treatment_none (hno : ∀ x ∈ h, x.input.part ≠ j) : treatment f j h = [] := by
  rw [treatment, List.filter_eq_nil_iff.mpr (by simpa using hno), List.filterMap_nil]

theorem history_self : history x.input.part (h ++ [x]) = history x.input.part h ++ [x.input.event] := by
  simp [history, List.filter_append]

theorem treatment_self {o : O} (hx : Parts.step f x.pre x.input = some (x.post, o)) :
    treatment f x.input.part (h ++ [x]) = treatment f x.input.part h ++ [o] := by
  simp [treatment, List.filter_append, Parts.shows, hx]

/-- A part alone takes the step it is given. -/
theorem alone_snoc {g g' : G} {l l' : L} {g₀ : G} {l₀ : L} {es : List E} {os : List O} {e : E} {o : O}
    (ha : alone f g₀ l₀ es = ((g, l), os)) (hstep : f g e l = some (g', o, l')) :
    alone f g₀ l₀ (es ++ [e]) = ((g', l'), os ++ [o]) := by
  rw [alone, List.foldl_append]
  rw [alone] at ha
  rw [ha, List.foldl_cons, List.foldl_nil, aloneStep]
  simp only [hstep]

/-- More events do not change what has been shown. -/
theorem alone_grows {g : G} {l : L} {es es' : List E} (h : es <+: es') :
    (alone f g l es).2 <+: (alone f g l es').2 := by
  obtain ⟨more, rfl⟩ := h
  rw [alone, alone, List.foldl_append]
  generalize es.foldl (aloneStep f) ((g, l), []) = a
  induction more generalizing a with
  | nil => exact List.prefix_refl _
  | cons e more ih =>
      refine List.IsPrefix.trans ?_ (ih (aloneStep f a e))
      unfold aloneStep
      split
      · exact List.prefix_refl _
      · exact List.prefix_append _ _

/-- **Each part is treated as it is alone.** All steps but those of the part `i₀` are quiet: a quiet step from a
    state in `B` leaves the shared state alone, stays in `B`, and goes the same way under the shared state of the
    beginning. -/
theorem treated_alone {g₀ : G} {l₀ : ι → L} {s : Parts ι G L} (i₀ : ι) (B : L → Prop)
    (Quiet : G → E → L → Prop) (hB : ∀ j, B (l₀ j))
    (hquiet : ∀ {g e l g' o l'}, B l → Quiet g e l → f g e l = some (g', o, l') →
      g' = g ∧ B l' ∧ f g₀ e l = some (g₀, o, l'))
    (hr : Parts.PartsRun f ⟨g₀, l₀⟩ h s)
    (hone : ∀ x ∈ h, x.input.part = i₀ ∨ Quiet x.pre.globals x.input.event (x.pre.part x.input.part)) (j : ι) :
    ∃ g, alone f g₀ (l₀ j) (history j h) = ((g, s.part j), treatment f j h) ∧
      (j = i₀ → g = s.globals) ∧ (j ≠ i₀ → g = g₀ ∧ B (s.part j)) := by
  revert j
  refine Run.induction (fun x => x.input.part = i₀ ∨ Quiet x.pre.globals x.input.event (x.pre.part x.input.part))
    (fun h s => ∀ j, ∃ g, alone f g₀ (l₀ j) (history j h) = ((g, s.part j), treatment f j h) ∧
      (j = i₀ → g = s.globals) ∧ (j ≠ i₀ → g = g₀ ∧ B (s.part j))) ?_ ?_ hr hone
  · exact fun j => ⟨g₀, rfl, fun _ => rfl, fun _ => ⟨rfl, hB j⟩⟩
  · rintro h s i s' - ih ⟨o, hstep⟩ hcond j
    have hpart := Parts.step_part hstep
    obtain ⟨g, halone, hsame, hby⟩ := ih j
    by_cases hij : i.part = j
    · subst hij
      have hself := history_self (h := h) (x := ⟨s, i, s'⟩)
      have hshown := treatment_self (f := f) (h := h) (x := ⟨s, i, s'⟩) hstep
      rw [hself, hshown]
      by_cases hi : i.part = i₀
      · rw [hsame hi] at halone
        exact ⟨_, alone_snoc halone hpart, fun _ => rfl, fun hne => absurd hi hne⟩
      · obtain ⟨rfl, hl⟩ := hby hi
        obtain ⟨-, hl', hinit⟩ := hquiet hl (hcond.resolve_left hi) hpart
        exact ⟨_, alone_snoc halone hinit, fun heq => absurd heq hi, fun _ => ⟨rfl, hl'⟩⟩
    · rw [history_other hij, treatment_other hij, Parts.step_other hstep (Ne.symm hij)]
      refine ⟨g, halone, fun hj => ?_, hby⟩
      -- another part than the one the steps of which count
      have hi : i.part ≠ i₀ := fun heq => hij (heq.trans hj.symm)
      obtain ⟨_, -, -, hother⟩ := ih i.part
      rw [(hquiet (hother hi).2 (hcond.resolve_left hi) hpart).1]
      exact hsame hj

end One

end Lib
