import Mathlib.Data.List.Basic
import Mathlib.Data.List.Nodup

/-!
# `Lib.Registry` — records found by a key, and keys registered with holders

A list of records that are looked up by a key, and, as a case of it, a list of holders with a list of keys for each.
Nothing keeps a key from being registered with several holders; `holder?` finds the first one.

## Contents
- `updateKey` — the first record with a key is changed or removed, and what is in the list then;
- `Holds r i k` — `k` is registered with `i`;
- `modify`, `insertKey`, `deleteKey`, `remove` — the operations, each with the effect it has on `Holds`;
- `holder?_eq_some` — a key registered with one holder only is found there.
-/

namespace Lib

/-! ## Records

Unique keys make the first record with a key the only one, so the effect on the list does not depend on its order. -/

section Keyed

variable {α κ : Type} [DecidableEq κ]

/-- The first record with this key is changed, or removed. -/
def updateKey (key : α → κ) (k : κ) (f : α → Option α) : List α → List α
  | [] => []
  | x :: l => if key x = k then (f x).toList ++ l else x :: updateKey key k f l

variable {key : α → κ} {k : κ} {f : α → Option α} {l : List α} {x y : α}

/-- **What is in the list then**, where keys are unique. -/
theorem mem_updateKey (hnodup : (l.map key).Nodup) :
    y ∈ updateKey key k f l ↔ (y ∈ l ∧ key y ≠ k) ∨ ∃ x ∈ l, key x = k ∧ f x = some y := by
  induction l with
  | nil => simp [updateKey]
  | cons x l ih =>
      rw [List.map_cons, List.nodup_cons] at hnodup
      obtain ⟨hnot, hnodup⟩ := hnodup
      rw [updateKey]
      by_cases hx : key x = k
      · rw [if_pos hx, List.mem_append, Option.mem_toList]
        subst hx
        -- no other record has the key
        have hne : ∀ z ∈ l, key z ≠ key x := fun z hz heq => hnot (heq ▸ List.mem_map_of_mem hz)
        constructor
        · rintro (hy | hy)
          · exact .inr ⟨x, List.mem_cons_self, rfl, hy⟩
          · exact .inl ⟨List.mem_cons_of_mem _ hy, hne y hy⟩
        · rintro (⟨hy, hk⟩ | ⟨z, hz, hk, hfz⟩)
          · rcases List.mem_cons.mp hy with rfl | hy
            · exact absurd rfl hk
            · exact .inr hy
          · rcases List.mem_cons.mp hz with rfl | hz
            · exact .inl hfz
            · exact absurd hk (hne z hz)
      · rw [if_neg hx, List.mem_cons, ih hnodup]
        constructor
        · rintro (rfl | ⟨hy, hk⟩ | ⟨z, hz, h⟩)
          · exact .inl ⟨List.mem_cons_self, hx⟩
          · exact .inl ⟨List.mem_cons_of_mem _ hy, hk⟩
          · exact .inr ⟨z, List.mem_cons_of_mem _ hz, h⟩
        · rintro (⟨hy, hk⟩ | ⟨z, hz, hzk, hfz⟩)
          · rcases List.mem_cons.mp hy with rfl | hy
            · exact .inl rfl
            · exact .inr (.inl ⟨hy, hk⟩)
          · rcases List.mem_cons.mp hz with rfl | hz
            · exact absurd hzk hx
            · exact .inr (.inr ⟨z, hz, hzk, hfz⟩)

/-- A change that keeps the key leaves keys unique. -/
theorem nodup_updateKey (hf : ∀ x y, key x = k → f x = some y → key y = k) (hnodup : (l.map key).Nodup) :
    ((updateKey key k f l).map key).Nodup := by
  have hsub : ((updateKey key k f l).map key).Sublist (l.map key) := by
    clear hnodup
    induction l with
    | nil => exact List.Sublist.refl _
    | cons x l ih =>
        rw [updateKey]
        split
        · rename_i hx
          cases hfx : f x with
          | none => exact (List.Sublist.refl _).cons _
          | some y =>
              rw [Option.toList_some, List.singleton_append, List.map_cons, List.map_cons, hf x y hx hfx, hx]
        · exact ih.cons_cons _
  exact hnodup.sublist hsub

end Keyed

/-! ## Holders

Every operation changes the keys of one holder, or removes one. The effect on `Holds` is read off `mem_updateKey`, and
that of a new or deleted key is a case of it. -/

/-- A holder and its keys. -/
structure Entry (I K : Type) where
  id : I
  keys : List K

abbrev Registry (I K : Type) := List (Entry I K)

namespace Registry

variable {I K : Type} [DecidableEq I] [DecidableEq K]

/-- `i` is one of the holders. -/
def Member (r : Registry I K) (i : I) : Prop := i ∈ r.map Entry.id

instance (r : Registry I K) (i : I) : Decidable (Member r i) := inferInstanceAs (Decidable (_ ∈ _))

/-- `k` is registered with `i`. -/
def Holds (r : Registry I K) (i : I) (k : K) : Prop := ∃ e ∈ r, e.id = i ∧ k ∈ e.keys

/-- The keys of the first holder `i` are changed. -/
def modify (i : I) (f : List K → List K) (r : Registry I K) : Registry I K :=
  updateKey Entry.id i (fun e => some ⟨e.id, f e.keys⟩) r

/-- The first holder `i` is removed. -/
def remove (i : I) (r : Registry I K) : Registry I K := updateKey Entry.id i (fun _ => none) r

/-- A key is added where it is not in the list yet. -/
def insertKey (k : K) (keys : List K) : List K := if k ∈ keys then keys else k :: keys

/-- All occurrences of a key are removed. -/
def deleteKey (k : K) (keys : List K) : List K := keys.filter (· ≠ k)

/-- The first holder of a key. -/
def holder? (r : Registry I K) (k : K) : Option I := (r.find? fun e => k ∈ e.keys).map Entry.id

/-- The keys of the first holder `i`. -/
def keysOf (r : Registry I K) (i : I) : List K := ((r.find? fun e => e.id = i).map Entry.keys).getD []

section Lemmas

variable {r : Registry I K} {i j : I} {k k' : K} {f : List K → List K}

omit [DecidableEq K] in
/-- A change of keys leaves the holders as they are. -/
theorem map_id_modify (i : I) (f : List K → List K) (r : Registry I K) :
    (modify i f r).map Entry.id = r.map Entry.id := by
  induction r with
  | nil => rfl
  | cons e r ih =>
      rw [modify, updateKey]
      split
      · rfl
      · rw [List.map_cons, List.map_cons, ← ih, modify]

omit [DecidableEq K] in
theorem map_id_remove (i : I) (r : Registry I K) : (remove i r).map Entry.id = (r.map Entry.id).erase i := by
  induction r with
  | nil => rfl
  | cons e r ih =>
      rw [remove, updateKey, List.map_cons]
      by_cases hid : e.id = i
      · rw [if_pos hid, hid, List.erase_cons_head]
        rfl
      · rw [if_neg hid, List.map_cons, List.erase_cons_tail (by simpa using hid), ← ih, remove]

omit [DecidableEq K] in
theorem mem_keysOf (hnodup : (r.map Entry.id).Nodup) : k ∈ keysOf r i ↔ Holds r i k := by
  induction r with
  | nil => simp [keysOf, Holds]
  | cons e r ih =>
      rw [List.map_cons, List.nodup_cons] at hnodup
      rw [keysOf, List.find?_cons]
      by_cases hid : e.id = i
      · simp only [hid, decide_true, Option.map_some, Option.getD_some]
        constructor
        · exact fun hk => ⟨e, List.mem_cons_self, hid, hk⟩
        · rintro ⟨x, hx, hxid, hk⟩
          rcases List.mem_cons.mp hx with rfl | hx
          · exact hk
          · exact absurd (hid.trans hxid.symm ▸ List.mem_map_of_mem hx) hnodup.1
      · have hrest : Holds (e :: r) i k ↔ Holds r i k := by
          constructor
          · rintro ⟨x, hx, hxid, hk⟩
            rcases List.mem_cons.mp hx with rfl | hx
            · exact absurd hxid hid
            · exact ⟨x, hx, hxid, hk⟩
          · rintro ⟨x, hx, hxid, hk⟩
            exact ⟨x, List.mem_cons_of_mem _ hx, hxid, hk⟩
        rw [hrest, ← ih hnodup.2, keysOf]
        simp only [hid, decide_false]

omit [DecidableEq K] in
theorem nodup_modify (hnodup : (r.map Entry.id).Nodup) : ((modify i f r).map Entry.id).Nodup := by
  refine nodup_updateKey ?_ hnodup
  intro e e' hid he
  rw [← Option.some.inj he]
  exact hid

omit [DecidableEq K] in
theorem nodup_remove (hnodup : (r.map Entry.id).Nodup) : ((remove i r).map Entry.id).Nodup :=
  nodup_updateKey (fun _ _ _ he => nomatch he) hnodup

omit [DecidableEq K] in
theorem member_modify (hnodup : (r.map Entry.id).Nodup) : Member (modify i f r) j ↔ Member r j := by
  unfold Member modify
  simp only [List.mem_map, mem_updateKey hnodup]
  constructor
  · rintro ⟨e, ⟨he, _⟩ | ⟨e', he', _, heq⟩, rfl⟩
    · exact ⟨e, he, rfl⟩
    · exact ⟨e', he', by rw [← Option.some.inj heq]⟩
  · rintro ⟨e, he, rfl⟩
    by_cases hid : e.id = i
    · exact ⟨_, .inr ⟨e, he, hid, rfl⟩, rfl⟩
    · exact ⟨e, .inl ⟨he, hid⟩, rfl⟩

omit [DecidableEq K] in
theorem member_remove (hnodup : (r.map Entry.id).Nodup) : Member (remove i r) j ↔ j ≠ i ∧ Member r j := by
  unfold Member remove
  simp only [List.mem_map, mem_updateKey hnodup, reduceCtorEq, and_false, exists_false, or_false]
  constructor
  · rintro ⟨e, ⟨he, hid⟩, rfl⟩
    exact ⟨hid, e, he, rfl⟩
  · rintro ⟨hj, e, he, rfl⟩
    exact ⟨e, ⟨he, hj⟩, rfl⟩

omit [DecidableEq K] in
/-- **The effect of `modify`**, where no two holders are the same. -/
theorem holds_modify (hnodup : (r.map Entry.id).Nodup) :
    Holds (modify i f r) j k ↔ (j ≠ i ∧ Holds r j k) ∨ (j = i ∧ ∃ e ∈ r, e.id = i ∧ k ∈ f e.keys) := by
  unfold Holds modify
  simp only [mem_updateKey hnodup]
  constructor
  · rintro ⟨e, ⟨he, hid⟩ | ⟨e', he', hid, heq⟩, rfl, hk⟩
    · exact .inl ⟨hid, e, he, rfl, hk⟩
    · obtain rfl := Option.some.inj heq
      exact .inr ⟨hid, e', he', hid, hk⟩
  · rintro (⟨hj, e, he, rfl, hk⟩ | ⟨rfl, e, he, hid, hk⟩)
    · exact ⟨e, .inl ⟨he, hj⟩, rfl, hk⟩
    · exact ⟨_, .inr ⟨e, he, hid, rfl⟩, hid, hk⟩

omit [DecidableEq K] in
theorem holds_remove (hnodup : (r.map Entry.id).Nodup) : Holds (remove i r) j k ↔ j ≠ i ∧ Holds r j k := by
  unfold Holds remove
  simp only [mem_updateKey hnodup, reduceCtorEq, and_false, exists_false, or_false]
  constructor
  · rintro ⟨e, ⟨he, hid⟩, rfl, hk⟩
    exact ⟨hid, e, he, rfl, hk⟩
  · rintro ⟨hj, e, he, rfl, hk⟩
    exact ⟨e, ⟨he, hj⟩, rfl, hk⟩

omit [DecidableEq I] in
theorem mem_insertKey {keys : List K} : k' ∈ insertKey k keys ↔ k' = k ∨ k' ∈ keys := by
  unfold insertKey
  split
  · exact ⟨.inr, fun h => h.elim (fun heq => heq ▸ by assumption) id⟩
  · exact List.mem_cons

omit [DecidableEq I] in
theorem mem_deleteKey {keys : List K} : k' ∈ deleteKey k keys ↔ k' ∈ keys ∧ k' ≠ k := by
  simp [deleteKey]

theorem holds_insert (hnodup : (r.map Entry.id).Nodup) :
    Holds (modify i (insertKey k) r) j k' ↔ Holds r j k' ∨ (j = i ∧ k' = k ∧ Member r i) := by
  rw [holds_modify hnodup]
  constructor
  · rintro (⟨_, h⟩ | ⟨rfl, e, he, rfl, hk⟩)
    · exact .inl h
    · rcases mem_insertKey.mp hk with rfl | hk
      · exact .inr ⟨rfl, rfl, List.mem_map_of_mem he⟩
      · exact .inl ⟨e, he, rfl, hk⟩
  · intro h
    by_cases hj : j = i
    · refine .inr ⟨hj, ?_⟩
      rcases h with ⟨e, he, hid, hk⟩ | ⟨_, rfl, hi⟩
      · exact ⟨e, he, hid.trans hj, mem_insertKey.mpr (.inr hk)⟩
      · obtain ⟨e, he, hid⟩ := List.mem_map.mp hi
        exact ⟨e, he, hid, mem_insertKey.mpr (.inl rfl)⟩
    · exact .inl ⟨hj, h.resolve_right fun h => hj h.1⟩

theorem holds_delete (hnodup : (r.map Entry.id).Nodup) :
    Holds (modify i (deleteKey k) r) j k' ↔ Holds r j k' ∧ ¬ (j = i ∧ k' = k) := by
  rw [holds_modify hnodup]
  constructor
  · rintro (⟨hj, h⟩ | ⟨rfl, e, he, rfl, hk⟩)
    · exact ⟨h, fun h => hj h.1⟩
    · obtain ⟨hk, hne⟩ := mem_deleteKey.mp hk
      exact ⟨⟨e, he, rfl, hk⟩, fun h => hne h.2⟩
  · rintro ⟨h, hne⟩
    by_cases hj : j = i
    · subst hj
      obtain ⟨e, he, hid, hk⟩ := h
      exact .inr ⟨rfl, e, he, hid, mem_deleteKey.mpr ⟨hk, fun heq => hne ⟨rfl, heq⟩⟩⟩
    · exact .inl ⟨hj, h⟩

omit [DecidableEq I] in
theorem holder?_holds (h : holder? r k = some i) : Holds r i k := by
  obtain ⟨e, he, rfl⟩ := Option.map_eq_some_iff.mp h
  exact ⟨e, List.mem_of_find?_eq_some he, rfl, by simpa using List.find?_some he⟩

omit [DecidableEq I] in
theorem holder?_eq_none : holder? r k = none ↔ ∀ i, ¬ Holds r i k := by
  rw [holder?, Option.map_eq_none_iff, List.find?_eq_none]
  constructor
  · rintro h i ⟨e, he, _, hk⟩
    exact h e he (decide_eq_true hk)
  · intro h e he hk
    exact h e.id ⟨e, he, rfl, of_decide_eq_true hk⟩

omit [DecidableEq I] in
/-- A key registered with one holder only is found there. -/
theorem holder?_eq_some (h : Holds r i k) (hone : ∀ j, Holds r j k → j = i) : holder? r k = some i := by
  cases hr : holder? r k with
  | none => exact absurd h (holder?_eq_none.mp hr i)
  | some j => rw [hone j (holder?_holds hr)]

end Lemmas

end Registry

end Lib
