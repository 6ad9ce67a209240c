import Mathlib.Tactic.Common
import Showcase.Lib.Bytes

/-!
# `Lib.Decoder` — decoders of byte strings

A decoder takes a value from the front of its input and leaves the rest. Three facts describe one:

* `Reads d b a` — in front of anything, `b` is read as `a`; this is what a round trip is made of.
* `Fails d b` — nothing that begins with `b` is read.
* `Only d R` — whatever is read as `a` is one of the byte strings that `R` relates to `a`, so that the decoder
  accepts nothing else.

They have a rule for each way decoders are put together.
-/

namespace Lib

/-- A decoder: the value, and the input behind it. -/
abbrev Decoder := StateT Bytes Option

namespace Decoder

variable {α β : Type}

/-- The next `n` bytes. -/
def bytes (n : Nat) : Decoder Bytes := fun s => if n ≤ s.length then some (s.take n, s.drop n) else none

/-- The next byte. -/
def byte : Decoder UInt8 := fun s =>
  match s with
  | [] => none
  | b :: t => some (b, t)

/-- The next `k` bytes as a number, most significant byte first. -/
def be (k : Nat) : Decoder Nat := do return ofBE (← bytes k)

/-- The next `k` bytes as a number, least significant byte first. -/
def le (k : Nat) : Decoder Nat := do return ofLE (← bytes k)

/-- `n` values one behind the other. -/
def times : Nat → Decoder α → Decoder (List α)
  | 0, _ => return []
  | n + 1, d => do
      let a ← d
      let as ← times n d
      return a :: as

/-- A decoder that must use up its input. -/
def whole (d : Decoder α) (s : Bytes) : Option α :=
  match d.run s with
  | some (a, []) => some a
  | _ => none

/-- The next `n` bytes, all of which the decoder must use up. -/
def within (n : Nat) (d : Decoder α) : Decoder α := fun s =>
  if n ≤ s.length then (whole d (s.take n)).map (·, s.drop n) else none

/-- In front of anything, `b` is read as `a`. -/
def Reads (d : Decoder α) (b : Bytes) (a : α) : Prop := ∀ t, d.run (b ++ t) = some (a, t)

/-- Nothing that begins with `b` is read. -/
def Fails (d : Decoder α) (b : Bytes) : Prop := ∀ t, d.run (b ++ t) = none

/-- Whatever is read as `a` is one of the byte strings `R` relates to `a`. -/
def Only (d : Decoder α) (R : Bytes → α → Prop) : Prop :=
  ∀ s a t, d.run s = some (a, t) → ∃ b, R b a ∧ s = b ++ t

/-! ## What is read

`Reads d b a` leaves the rest open, and so the rule for `bind` appends: what the two decoders read stands one behind
the other. A decoder of the whole input is one behind which nothing is left. -/

section

variable {d : Decoder α} {f : α → Decoder β} {a : α} {b c : Bytes} {y : β}

theorem Reads.pure (a : α) : Reads (Pure.pure a) [] a := fun _ => rfl

theorem Reads.bind (h : Reads d b a) (h' : Reads (f a) c y) : Reads (d >>= f) (b ++ c) y := by
  intro t
  rw [StateT.run_bind, List.append_assoc, h]
  exact h' t

/-- A last step that reads nothing. -/
theorem Reads.map (h : Reads d b a) {g : α → β} : Reads (do return g (← d)) b (g a) := by
  intro t
  rw [StateT.run_bind, h]
  rfl

theorem Reads.bytes {n : Nat} (h : b.length = n) : Reads (bytes n) b b := by
  intro t
  subst h
  simp [Decoder.bytes, StateT.run]

theorem Reads.byte (x : UInt8) : Reads byte [x] x := fun _ => rfl

theorem Reads.be {k n : Nat} (h : n < 256 ^ k) : Reads (be k) (toBE k n) n := by
  have hread : Reads (Decoder.be k) (toBE k n) (ofBE (toBE k n)) := (Reads.bytes (toBE_length k n)).map
  rwa [ofBE_toBE, Nat.mod_eq_of_lt h] at hread

theorem Reads.le {k n : Nat} (h : n < 256 ^ k) : Reads (le k) (toLE k n) n := by
  have hread : Reads (Decoder.le k) (toLE k n) (ofLE (toLE k n)) := (Reads.bytes (toLE_length k n)).map
  rwa [ofLE_toLE, Nat.mod_eq_of_lt h] at hread

/-- Values one behind the other. -/
theorem Reads.times {bs : List Bytes} {as : List α} (h : List.Forall₂ (Reads d) bs as) :
    Reads (times as.length d) bs.flatten as := by
  induction h with
  | nil => exact Reads.pure []
  | cons hb _ ih => exact hb.bind ih.map

/-- The first of several values. -/
theorem Reads.head_times {n : Nat} {s t' : Bytes} {as : List α} (h : Reads d b a)
    (hrun : (Decoder.times (n + 1) d).run (b ++ s) = some (as, t')) : as.head? = some a := by
  rw [Decoder.times, StateT.run_bind, h] at hrun
  cases htail : (Decoder.times n d).run s with
  | none => simp [htail] at hrun
  | some r =>
      obtain ⟨as', s'⟩ := r
      have hcons : a :: as' = as ∧ s' = t' := by simpa [htail, StateT.run_pure] using hrun
      rw [← hcons.1]
      rfl

/-- Reading goes on with what follows. -/
theorem Reads.run_bind (h : Reads d b a) (f : α → Decoder β) (t : Bytes) :
    (d >>= f).run (b ++ t) = (f a).run t := by
  rw [StateT.run_bind, h]
  rfl

theorem Reads.whole_bind (h : Reads d b a) (f : α → Decoder β) (t : Bytes) :
    Decoder.whole (d >>= f) (b ++ t) = Decoder.whole (f a) t := by
  rw [Decoder.whole, h.run_bind, Decoder.whole]

theorem whole_map (d : Decoder α) (g : α → β) (s : Bytes) :
    Decoder.whole (do return g (← d)) s = (Decoder.whole d s).map g := by
  unfold Decoder.whole
  rw [StateT.run_bind]
  cases hd : d.run s with
  | none => rfl
  | some r =>
      obtain ⟨a, t⟩ := r
      cases t with
      | nil => rfl
      | cons b t => rfl

theorem Fails.bind (h : Fails d b) : Fails (d >>= f) b := by
  intro t
  rw [StateT.run_bind, h]
  rfl

theorem Reads.bind_fails (h : Reads d b a) (h' : Fails (f a) c) : Fails (d >>= f) (b ++ c) := by
  intro t
  rw [StateT.run_bind, List.append_assoc, h]
  exact h' t

theorem Fails.append (h : Fails d b) (c : Bytes) : Fails d (b ++ c) := by
  intro t
  rw [List.append_assoc]
  exact h (c ++ t)

/-- One of several values cannot be read. -/
theorem Fails.times {bs : List Bytes} {as : List α} {n : Nat} (has : List.Forall₂ (Reads d) bs as)
    (h : Fails d b) (hn : as.length < n) : Fails (times n d) (bs.flatten ++ b) := by
  induction has generalizing n with
  | nil =>
      obtain ⟨n, rfl⟩ : ∃ m, n = m + 1 := ⟨n - 1, by omega⟩
      exact h.bind
  | cons hb _ ih =>
      rw [List.length_cons] at hn
      obtain ⟨n, rfl⟩ : ∃ m, n = m + 1 := ⟨n - 1, by omega⟩
      rw [List.flatten_cons, List.append_assoc]
      exact hb.bind_fails (ih (by omega)).bind

/-- **A round trip.** -/
theorem Reads.whole (h : Reads d b a) : whole d b = some a := by
  have hrun := h []
  rw [List.append_nil] at hrun
  rw [Decoder.whole, hrun]

theorem whole_eq_some {s : Bytes} : whole d s = some a ↔ d.run s = some (a, []) := by
  unfold whole
  constructor
  · intro h
    split at h
    · rename_i a' hrun
      rw [hrun, Option.some.inj h]
    · exact absurd h (by simp)
  · intro h
    rw [h]

theorem Fails.whole (h : Fails d b) (t : Bytes) : whole d (b ++ t) = none := by
  rw [Decoder.whole, h t]

theorem Fails.within {n : Nat} (h : Decoder.whole d b = none) (hn : b.length = n) : Fails (within n d) b := by
  intro t
  subst hn
  simp [Decoder.within, StateT.run, h]

theorem Reads.within {n : Nat} (h : Decoder.whole d b = some a) (hn : b.length = n) :
    Reads (within n d) b a := by
  intro t
  subst hn
  simp [Decoder.within, StateT.run, h]

end

/-! ## Nothing else is read

The same rules the other way round. Here a decoder has been run, and its input is taken apart along its steps. -/

section

variable {d : Decoder α} {R : Bytes → α → Prop} {f : α → Decoder β} {S : α → Bytes → β → Prop}

theorem Only.mono {R' : Bytes → α → Prop} (h : Only d R) (himp : ∀ b a, R b a → R' b a) : Only d R' := by
  intro s a t hrun
  obtain ⟨b, hb, hs⟩ := h s a t hrun
  exact ⟨b, himp b a hb, hs⟩

theorem Only.pure (a : α) : Only (Pure.pure a) (fun b a' => b = [] ∧ a' = a) := by
  intro s a' t hrun
  obtain ⟨rfl, rfl⟩ : a = a' ∧ s = t := by simpa [StateT.run_pure] using hrun
  exact ⟨[], ⟨rfl, rfl⟩, rfl⟩

theorem Only.bind (h : Only d R) (h' : ∀ a, Only (f a) (S a)) :
    Only (d >>= f) (fun b y => ∃ b₁ a b₂, R b₁ a ∧ S a b₂ y ∧ b = b₁ ++ b₂) := by
  intro s y t hrun
  rw [StateT.run_bind] at hrun
  cases hd : d.run s with
  | none => simp [hd] at hrun
  | some r =>
      obtain ⟨a, s₁⟩ := r
      rw [hd] at hrun
      obtain ⟨b₁, hb₁, hs⟩ := h s a s₁ hd
      obtain ⟨b₂, hb₂, hs₁⟩ := h' a s₁ y t hrun
      exact ⟨b₁ ++ b₂, ⟨b₁, a, b₂, hb₁, hb₂, rfl⟩, by rw [hs, hs₁, List.append_assoc]⟩

theorem Only.failure : Only (failure : Decoder α) (fun _ _ => False) := by
  intro s a t hrun
  exact absurd hrun (by simp [StateT.run_failure])

theorem Only.bytes (n : Nat) : Only (bytes n) (fun b a => b = a ∧ a.length = n) := by
  intro s a t hrun
  by_cases hn : n ≤ s.length
  · obtain ⟨rfl, rfl⟩ : s.take n = a ∧ s.drop n = t := by
      simpa [Decoder.bytes, StateT.run, hn] using hrun
    exact ⟨s.take n, ⟨rfl, by rw [List.length_take]; omega⟩, (List.take_append_drop n s).symm⟩
  · simp [Decoder.bytes, StateT.run, hn] at hrun

theorem Only.be (k : Nat) : Only (be k) (fun b n => n < 256 ^ k ∧ b = toBE k n) := by
  refine ((Only.bytes k).bind fun b => Only.pure (ofBE b)).mono ?_
  rintro b n ⟨b₁, a, b₂, ⟨rfl, rfl⟩, ⟨rfl, rfl⟩, rfl⟩
  rw [List.append_nil]
  exact ⟨ofBE_lt b₁, (toBE_ofBE b₁).symm⟩

theorem Only.le (k : Nat) : Only (le k) (fun b n => n < 256 ^ k ∧ b = toLE k n) := by
  refine ((Only.bytes k).bind fun b => Only.pure (ofLE b)).mono ?_
  rintro b n ⟨b₁, a, b₂, ⟨rfl, rfl⟩, ⟨rfl, rfl⟩, rfl⟩
  rw [List.append_nil]
  exact ⟨ofLE_lt b₁, (toLE_ofLE b₁).symm⟩

theorem Only.byte : Only byte (fun b a => b = [a]) := by
  intro s a t hrun
  cases s with
  | nil => simp [Decoder.byte, StateT.run] at hrun
  | cons x s =>
      obtain ⟨rfl, rfl⟩ : x = a ∧ s = t := by simpa [Decoder.byte, StateT.run] using hrun
      exact ⟨[x], rfl, rfl⟩

theorem Only.whole {s : Bytes} {a : α} (h : Only d R) (hs : Decoder.whole d s = some a) : R s a := by
  obtain ⟨b, hb, rfl⟩ := h s a [] (whole_eq_some.mp hs)
  rwa [List.append_nil]

end

end Decoder

end Lib
