import Mathlib.Data.List.Sort

/-!
# `Lib.Pieces` — a stream that is consumed in pieces

A consumer gets a stream piece by piece and keeps a state from one to the next. `feed` lists the pieces with the
place where each begins and the state that meets it, so that two consumers of one stream can be compared where
their pieces begin at the same place.
-/

namespace Lib

variable {σ α : Type}

/-- A piece of the stream. -/
structure Piece (σ α : Type) where
  off : Nat
  state : σ
  data : List α

/-- The pieces, one after the other; `step` gets the place too. -/
def feed (step : Nat → σ → List α → σ) (s : σ) (off : Nat) : List (List α) → List (Piece σ α)
  | [] => []
  | d :: ds => ⟨off, s, d⟩ :: feed step (step off s d) (off + d.length) ds

variable {step step' : Nat → σ → List α → σ} {s : σ} {off : Nat} {ds : List (List α)} {p q : Piece σ α}

theorem feed_off (h : p ∈ feed step s off ds) : off ≤ p.off := by
  induction ds generalizing s off with
  | nil => exact absurd h List.not_mem_nil
  | cons d ds ih =>
      rcases List.mem_cons.mp h with rfl | h
      · exact Nat.le_refl off
      · exact Nat.le_trans (Nat.le_add_right off d.length) (ih h)

/-- A piece is what the stream holds at its place. -/
theorem feed_data (h : p ∈ feed step s off ds) : ∃ rest, ds.flatten.drop (p.off - off) = p.data ++ rest := by
  induction ds generalizing s off with
  | nil => exact absurd h List.not_mem_nil
  | cons d ds ih =>
      rcases List.mem_cons.mp h with rfl | h
      · exact ⟨ds.flatten, by rw [Nat.sub_self, List.drop_zero, List.flatten_cons]⟩
      · obtain ⟨rest, hrest⟩ := ih h
        have hle := feed_off h
        refine ⟨rest, ?_⟩
        rw [List.flatten_cons, List.drop_append, List.drop_eq_nil_of_le (by omega), List.nil_append, ← hrest,
          Nat.sub_sub]

theorem feed_getElem? {i : Nat} (h : p ∈ feed step s 0 ds) (hi : i < p.data.length) :
    p.data[i]? = ds.flatten[p.off + i]? := by
  obtain ⟨rest, hrest⟩ := feed_data h
  rw [Nat.sub_zero] at hrest
  rw [← List.getElem?_drop, hrest, List.getElem?_append_left hi]

/-- **Two divisions of one stream** agree where their pieces begin at the same place. -/
theorem feed_agree {s' : σ} {ds' : List (List α)} {i : Nat} (hstream : ds.flatten = ds'.flatten)
    (hp : p ∈ feed step s 0 ds) (hq : q ∈ feed step' s' 0 ds') (hoff : p.off = q.off) (hi : i < p.data.length)
    (hi' : i < q.data.length) : p.data[i]? = q.data[i]? := by
  rw [feed_getElem? hp hi, feed_getElem? hq hi', hstream, hoff]

theorem feed_pairwise : (feed step s off ds).Pairwise fun p q => p.data ≠ [] → p.off < q.off := by
  induction ds generalizing s off with
  | nil => exact .nil
  | cons d ds ih =>
      refine List.pairwise_cons.mpr ⟨?_, ih⟩
      intro q hq hne
      have hpos : 0 < d.length := List.length_pos_of_ne_nil hne
      have hle := feed_off hq
      show off < q.off
      omega

/-- At most one piece that is not empty begins at a place. -/
theorem feed_unique (hp : p ∈ feed step s off ds) (hq : q ∈ feed step s off ds) (hoff : p.off = q.off)
    (hpne : p.data ≠ []) (hqne : q.data ≠ []) : p = q := by
  induction ds generalizing s off with
  | nil => exact absurd hp List.not_mem_nil
  | cons d ds ih =>
      have hsorted : (feed step s off (d :: ds)).Pairwise fun p q => p.data ≠ [] → p.off < q.off := feed_pairwise
      have hlater := (List.pairwise_cons.mp hsorted).1
      rcases List.mem_cons.mp hp with rfl | hp
      · rcases List.mem_cons.mp hq with rfl | hq
        · rfl
        · exact absurd hoff (Nat.ne_of_lt (hlater q hq hpne))
      · rcases List.mem_cons.mp hq with rfl | hq
        · exact absurd hoff.symm (Nat.ne_of_lt (hlater p hp hqne))
        · exact ih hp hq

/-- What is done from a place on has no effect on what comes there. -/
theorem feed_congr (hnil : ∀ o s, step o s [] = step' o s [])
    (hbefore : ∀ o s d, o < p.off → step o s d = step' o s d) (h : p ∈ feed step s off ds) :
    p ∈ feed step' s off ds := by
  induction ds generalizing s off with
  | nil => exact absurd h List.not_mem_nil
  | cons d ds ih =>
      rcases List.mem_cons.mp h with rfl | h
      · exact List.mem_cons_self
      · have hstep : step off s d = step' off s d := by
          cases d with
          | nil => exact hnil off s
          | cons b d =>
              have hle := feed_off h
              rw [List.length_cons] at hle
              exact hbefore off s (b :: d) (by omega)
        rw [feed, ← hstep]
        exact List.mem_cons_of_mem _ (ih h)

/-- Lists in strictly increasing order are equal when their elements are. -/
theorem eq_of_increasing {β : Type} {key : β → Nat} {l l' : List β} (hl : l.Pairwise fun a b => key a < key b)
    (hl' : l'.Pairwise fun a b => key a < key b) (hmem : ∀ a, a ∈ l ↔ a ∈ l') : l = l' := by
  have hnodup : ∀ {l : List β}, (l.Pairwise fun a b => key a < key b) → l.Nodup := fun h =>
    h.imp fun hlt heq => absurd hlt (by rw [heq]; exact Nat.lt_irrefl _)
  have hperm : l.Perm l' := (List.perm_ext_iff_of_nodup (hnodup hl) (hnodup hl')).mpr hmem
  exact hperm.eq_of_pairwise (fun a b _ _ hab hba => absurd (Nat.lt_trans hab hba) (Nat.lt_irrefl _)) hl hl'

end Lib
